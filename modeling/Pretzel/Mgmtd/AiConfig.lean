import Mathlib.Data.List.AList
import Pretzel.Library.JsonNumber
import Pretzel.Mgmtd.AcceptedLists

/-!
The document that deploys the assistant (`mgmtd/service/ai/AiConfig.cpp`).

* `serviceDoc`: an engine as it is pushed, with its defaults.
* `push`: the document, from the two domains of the running configuration, its
  version and the keys.
* `TypesRead`, `returns_serviceDoc`: an engine that was accepted is pushed exactly
  where the three members its schema leaves out are of their types.
* `serviceDocs_spec`, `providerDocs_eq`: the arrays of the document, one entry for
  each that is declared.
-/

namespace Pretzel.Mgmtd

open Nlohmann

/-- The opened keys, by vendor or subscription. -/
abbrev AiKeys := AList fun _ : String => String

/-- `kServices`. -/
def kServices : List String := ["chat", "agent"]

/-- `serviceDoc`. -/
def serviceDoc (entry : Json) : Except JsonError Json := do
  let cp ← entry.valueJson "checkpoints" (.obj [])
  let airs ← entry.valueJson "airs" (.obj [])
  let gw ← entry.valueJson "gateway" (.obj [])
  let shape ← entry.valueJson "shape" (.obj [])
  let service ← entry.valueString "service" ""
  let guardrail ← entry.valueString "guardrail" "none"
  let prompt ← cp.valueBool "prompt" false
  let response ← cp.valueBool "response" false
  let toolCall ← cp.valueBool "tool_call" false
  let toolResult ← cp.valueBool "tool_result" false
  let profileName ← airs.valueString "profile_name" ""
  let airsTimeout ← airs.valueDouble "timeout_sec" (.float 30 0)
  let failOpen ← airs.valueBool "fail_open" false
  let requireVerdict ← gw.valueBool "require_verdict" false
  let gatewayTimeout ← gw.valueDouble "timeout_sec" (.float 45 0)
  let systemPrompt ← shape.valueString "system_prompt" ""
  let maxTokens ← shape.valueInt32 "max_tokens" 4096
  return .obj [("airs_fail_open", .bool failOpen), ("airs_profile_name", .str profileName),
    ("airs_timeout_sec", airsTimeout),
    ("checkpoints", .obj [("prompt", .bool prompt), ("response", .bool response),
      ("tool_call", .bool toolCall), ("tool_result", .bool toolResult)]),
    ("gateway_require_verdict", .bool requireVerdict), ("gateway_timeout_sec", gatewayTimeout),
    ("guardrail", .str guardrail), ("max_tokens", .int maxTokens), ("service", .str service),
    ("system_prompt", .str systemPrompt)]

/-- The first entry of a service, up to which the entries are read. -/
def serviceFor (want : String) : List Json → Except JsonError (Option Json)
  | [] => .ok none
  | entry :: rest =>
      if entry.isObject then do
        let service ← entry.valueString "service" ""
        if service = want then return some (← serviceDoc entry) else serviceFor want rest
      else serviceFor want rest

/-- The services in their fixed order. -/
def serviceDocs (list : List Json) : List String → Except JsonError (List Json)
  | [] => .ok []
  | want :: rest => do
      let doc ← serviceFor want list
      let docs ← serviceDocs list rest
      return doc.toList ++ docs

/-- A provider with its models, and its key where there is one. -/
def providerDoc (keys : AiKeys) (id : String) (models : Json) : Json :=
  .obj (((keys.lookup id).toList.map fun key => ("api_key", .str key)) ++
    [("id", .str id), ("models", models)])

/-- The loop over the providers. -/
def providerDocs (keys : AiKeys) : List Json → Except JsonError (List Json)
  | [] => .ok []
  | p :: rest =>
      if p.isObject then do
        let id ← p.valueString "id" ""
        if id = "" then providerDocs keys rest
        else
          let models ← p.valueJson "models" (.arr [])
          return providerDoc keys id models :: (← providerDocs keys rest)
      else providerDocs keys rest

/-- The document of `push`, without its log line. -/
def push (providers guardrail : Json) (version : UInt64) (keys : AiKeys) : Except JsonError Json := do
  let services ← guardrail.valueJson "list" (.arr [])
  let serviceArray ← serviceDocs services.elements kServices
  let vendors ← providers.valueJson "list" (.arr [])
  let providerArray ← providerDocs keys vendors.elements
  return .obj (((keys.lookup "airs").toList.map fun key => ("airs_api_key", .str key)) ++
    ((keys.lookup "portkey").toList.map fun key => ("gateway_api_key", .str key)) ++
    [("providers", .arr providerArray), ("services", .arr serviceArray),
      ("version", .str (toString version.toNat))])

/-! ### An engine -/

/-- A block of an entry, empty where there is none. -/
def blockOf (e : Json) (key : String) : Json := (e.find? key).getD (.obj [])

/-- An engine as it is pushed. -/
def builtService (e : Json) : Json :=
  let cp := blockOf e "checkpoints"
  let airs := blockOf e "airs"
  let gw := blockOf e "gateway"
  let shape := blockOf e "shape"
  .obj [("airs_fail_open", .bool (airs.boolOr "fail_open" false)),
    ("airs_profile_name", .str (airs.textOr "profile_name" "")),
    ("airs_timeout_sec", airs.doubleOr "timeout_sec" (.float 30 0)),
    ("checkpoints", .obj [("prompt", .bool (cp.boolOr "prompt" false)),
      ("response", .bool (cp.boolOr "response" false)),
      ("tool_call", .bool (cp.boolOr "tool_call" false)),
      ("tool_result", .bool (cp.boolOr "tool_result" false))]),
    ("gateway_require_verdict", .bool (gw.boolOr "require_verdict" false)),
    ("gateway_timeout_sec", gw.doubleOr "timeout_sec" (.float 45 0)),
    ("guardrail", .str (e.textOr "guardrail" "none")),
    ("max_tokens", .int (shape.int32Or "max_tokens" 4096)),
    ("service", .str (e.textOr "service" "")),
    ("system_prompt", .str (shape.textOr "system_prompt" ""))]

/-- The members the schema leaves out, of the types they are read as. -/
structure TypesRead (e : Json) : Prop where
  profileName : (blockOf e "airs").stringOrAbsent "profile_name" = true
  failOpen : (blockOf e "airs").boolOrAbsent "fail_open" = true
  requireVerdict : (blockOf e "gateway").boolOrAbsent "require_verdict" = true

section Engine

variable {e : Json}

lemma isObject_blockOf {key : String} (h : ∀ blk, e.find? key = some blk → blk.isObject = true) :
    (blockOf e key).isObject = true := by
  rw [blockOf]
  cases hblk : e.find? key with
  | none => rfl
  | some blk => exact h blk hblk

lemma valueJson_eq_blockOf (h : e.isObject = true) (key : String) :
    e.valueJson key (.obj []) = .ok (blockOf e key) :=
  Json.valueJson_of_isObject h key (.obj [])

lemma find?_blockOf {key k : String} {v : Json} (h : (blockOf e key).find? k = some v) :
    ∃ blk, e.find? key = some blk ∧ blk.find? k = some v := by
  rw [blockOf] at h
  cases hblk : e.find? key with
  | none =>
      rw [hblk] at h
      cases h
  | some blk =>
      rw [hblk] at h
      exact ⟨blk, rfl, h⟩

lemma mapOrAbsent {j : Json} {key : String} {p : Json → Bool}
    (h : ∀ v, j.find? key = some v → p v = true) : ((j.find? key).map p).getD true = true := by
  cases hv : j.find? key with
  | none => rfl
  | some v => exact h v hv

lemma isNumber_of_isPositive {t : Json} (h : isPositive t = true) : t.isNumber = true := by
  cases t with
  | int i => rfl
  | float m e => rfl
  | _ => cases h

lemma isNumber_of_isNonNegative {t : Json} (h : isNonNegative t = true) : t.isNumber = true := by
  cases t with
  | int i => rfl
  | float m e => rfl
  | _ => cases h

/-- **An engine that was accepted is pushed exactly where the members its schema
leaves out are of their types.** -/
theorem serviceDoc_eq_ok_iff (h : AcceptedService e) {d : Json} :
    serviceDoc e = .ok d ↔ TypesRead e ∧ d = builtService e := by
  have hcp := isObject_blockOf fun blk hblk => (h.checkpoints blk hblk).1
  have hairs := isObject_blockOf fun blk hblk => (h.airs blk hblk).isObject
  have hgw := isObject_blockOf fun blk hblk => (h.gateway blk hblk).isObject
  have hshape := isObject_blockOf fun blk hblk => (h.shape blk hblk).isObject
  have hflag : ∀ f ∈ checkpointKeys, (blockOf e "checkpoints").boolOrAbsent f = true := by
    refine fun f hf => mapOrAbsent fun v hv => ?_
    obtain ⟨cp, hcp, hv⟩ := find?_blockOf hv
    exact (h.checkpoints cp hcp).2 f hf v hv
  have htimeout : ∀ key, (∀ blk, e.find? key = some blk → AcceptedBlock blk) →
      (blockOf e key).numberOrAbsent "timeout_sec" = true := by
    refine fun key hblocks => mapOrAbsent fun v hv => ?_
    obtain ⟨blk, hblk, hv⟩ := find?_blockOf hv
    exact isNumber_of_isPositive ((hblocks blk hblk).timeout v hv)
  have hprompt : (blockOf e "shape").stringOrAbsent "system_prompt" = true := by
    refine mapOrAbsent fun v hv => ?_
    obtain ⟨sh, hsh, hv⟩ := find?_blockOf hv
    exact (h.shape sh hsh).prompt v hv
  have htokens : (blockOf e "shape").numericOrAbsent "max_tokens" = true := by
    refine mapOrAbsent fun v hv => ?_
    obtain ⟨sh, hsh, hv⟩ := find?_blockOf hv
    rw [isNumber_of_isNonNegative ((h.shape sh hsh).tokens v hv), Bool.true_or]
  obtain ⟨service, -, hservice⟩ := h.service
  obtain ⟨guardrail, -, hguardrail⟩ := h.guardrail
  rw [serviceDoc, builtService]
  simp only [valueJson_eq_blockOf h.isObject, except_bind_eq_ok, Except.ok.injEq, exists_eq_left',
    Json.valueString_eq_ok_iff h.isObject, Json.valueString_eq_ok_iff hairs,
    Json.valueString_eq_ok_iff hshape, Json.valueBool_eq_ok_iff, Json.valueDouble_eq_ok_iff hairs,
    Json.valueDouble_eq_ok_iff hgw, Json.valueInt32_eq_ok_iff hshape,
    Json.stringOrAbsent_of_find? hservice, Json.stringOrAbsent_of_find? hguardrail,
    hcp, hairs, hgw, hflag "prompt" (by decide), hflag "response" (by decide),
    hflag "tool_call" (by decide), hflag "tool_result" (by decide), hprompt, htokens,
    htimeout "airs" h.airs, htimeout "gateway" h.gateway, true_and, exists_eq_left]
  constructor
  · rintro ⟨_, ⟨hprofile, rfl⟩, _, ⟨hopen, rfl⟩, _, ⟨hverdict, rfl⟩, hd⟩
    exact ⟨⟨hprofile, hopen, hverdict⟩, (Except.ok.inj hd).symm⟩
  · rintro ⟨⟨hprofile, hopen, hverdict⟩, rfl⟩
    exact ⟨_, ⟨hprofile, rfl⟩, _, ⟨hopen, rfl⟩, _, ⟨hverdict, rfl⟩, rfl⟩

end Engine

/-! ### The arrays -/

section Arrays

variable {list : List Json}

/-- The engine an entry configures. -/
def serviceOf (e : Json) : String := e.textOr "service" ""

lemma serviceFor_eq_ok_iff (h : ∀ e ∈ list, AcceptedService e) {want : String} {doc : Option Json} :
    serviceFor want list = .ok doc ↔
      (∀ e, (list.find? fun e => serviceOf e = want) = some e → TypesRead e) ∧
        doc = (list.find? fun e => serviceOf e = want).map builtService := by
  induction list with
  | nil => simp [serviceFor, eq_comm]
  | cons e rest ih =>
      have he := h e List.mem_cons_self
      obtain ⟨service, -, hservice⟩ := he.service
      have hread : e.valueString "service" "" = .ok (serviceOf e) :=
        (Json.valueString_eq_ok_iff he.isObject).mpr ⟨Json.stringOrAbsent_of_find? hservice, rfl⟩
      rw [serviceFor, if_pos he.isObject, hread]
      show (if serviceOf e = want then _ else _) = _ ↔ _
      by_cases hwant : serviceOf e = want
      · rw [if_pos hwant, List.find?_cons_of_pos (by simpa using hwant), except_bind_eq_ok,
          Option.map_some]
        constructor
        · rintro ⟨d, hd, hdoc⟩
          obtain ⟨htypes, rfl⟩ := (serviceDoc_eq_ok_iff he).mp hd
          exact ⟨fun e' he' => Option.some.inj he' ▸ htypes, (Except.ok.inj hdoc).symm⟩
        · rintro ⟨htypes, rfl⟩
          exact ⟨_, (serviceDoc_eq_ok_iff he).mpr ⟨htypes e rfl, rfl⟩, rfl⟩
      · rw [if_neg hwant, List.find?_cons_of_neg (by simpa using hwant)]
        exact ih fun e he => h e (List.mem_cons_of_mem _ he)

/-- **The services are the first entries of their names**, in the fixed order. -/
theorem serviceDocs_eq_ok_iff (h : ∀ e ∈ list, AcceptedService e) {wants : List String}
    {docs : List Json} : serviceDocs list wants = .ok docs ↔
      (∀ want ∈ wants, ∀ e, (list.find? fun e => serviceOf e = want) = some e → TypesRead e) ∧
        docs = wants.filterMap fun want =>
          (list.find? fun e => serviceOf e = want).map builtService := by
  induction wants generalizing docs with
  | nil => simp [serviceDocs, eq_comm]
  | cons want rest ih =>
      simp only [serviceDocs, except_bind_eq_ok, serviceFor_eq_ok_iff h, ih, List.forall_mem_cons]
      have hcons : ((want :: rest).filterMap fun want =>
          (list.find? fun e => serviceOf e = want).map builtService)
            = ((list.find? fun e => serviceOf e = want).map builtService).toList
              ++ rest.filterMap fun want =>
                (list.find? fun e => serviceOf e = want).map builtService := by
        rw [List.filterMap_cons]
        cases (list.find? fun e => serviceOf e = want).map builtService <;> rfl
      rw [hcons]
      constructor
      · rintro ⟨_, ⟨hfirst, rfl⟩, _, ⟨hrest, rfl⟩, hdocs⟩
        exact ⟨⟨hfirst, hrest⟩, (Except.ok.inj hdocs).symm⟩
      · rintro ⟨⟨hfirst, hrest⟩, rfl⟩
        exact ⟨_, ⟨hfirst, rfl⟩, _, ⟨hrest, rfl⟩, rfl⟩

/-- A provider as it is pushed. -/
def builtProvider (keys : AiKeys) (p : Json) : Json :=
  providerDoc keys (p.textOr "id" "") ((p.find? "models").getD (.arr []))

/-- **Every provider that was accepted is pushed.** -/
theorem providerDocs_eq (keys : AiKeys) (h : ∀ p ∈ list, AcceptedProvider p) :
    providerDocs keys list = .ok (list.map (builtProvider keys)) := by
  induction list with
  | nil => rfl
  | cons p rest ih =>
      have hp := h p List.mem_cons_self
      obtain ⟨id, hknown, hid⟩ := hp.id
      have hread : p.valueString "id" "" = .ok (p.textOr "id" "") :=
        (Json.valueString_eq_ok_iff hp.isObject).mpr ⟨Json.stringOrAbsent_of_find? hid, rfl⟩
      have hne : p.textOr "id" "" ≠ "" := by
        rw [Json.textOr_of_find? hid]
        rintro rfl
        exact absurd hknown (by decide)
      rw [providerDocs, if_pos hp.isObject, hread]
      show (if p.textOr "id" "" = "" then _ else _) = _
      rw [if_neg hne, Json.valueJson_of_isObject hp.isObject,
        ih fun p hp => h p (List.mem_cons_of_mem _ hp)]
      rfl

end Arrays

/-! ### The document -/

/-- The two domains of a configuration, each as the schema accepts it. -/
structure AcceptedConfig (providers guardrail : Json) : Prop where
  providersObject : providers.isObject = true
  guardrailObject : guardrail.isObject = true
  providers : validateCommitShape "pretzel-ai" "providers" providers = .ok none
  guardrail : validateCommitShape "pretzel-ai" "guardrail" guardrail = .ok none

section Document

variable {providers guardrail : Json} {version : UInt64} {keys : AiKeys}

lemma AcceptedConfig.vendors (h : AcceptedConfig providers guardrail) :
    (∀ p ∈ providers.elementsAt "list", AcceptedProvider p) ∧
      ((providers.elementsAt "list").map fun p => p.textOr "id" "").Nodup := by
  have hshape : validateAiProviders providers = .ok none := h.providers
  rw [Json.elementsAt]
  cases hv : providers.find? "list" with
  | none => exact ⟨fun p hp => absurd hp List.not_mem_nil, List.nodup_nil⟩
  | some v =>
      obtain ⟨list, rfl, hlist⟩ := (validateList_eq_ok hshape).2 v hv
      obtain ⟨haccepted, hnodup, -⟩ := accepted_of_validateProviders hlist
      exact ⟨haccepted, hnodup⟩

lemma AcceptedConfig.engines (h : AcceptedConfig providers guardrail) :
    (∀ e ∈ guardrail.elementsAt "list", AcceptedService e) ∧
      ((guardrail.elementsAt "list").map serviceOf).Nodup := by
  have hshape : validateAiServices guardrail = .ok none := h.guardrail
  rw [Json.elementsAt]
  cases hv : guardrail.find? "list" with
  | none => exact ⟨fun e he => absurd he List.not_mem_nil, List.nodup_nil⟩
  | some v =>
      obtain ⟨list, rfl, hlist⟩ := (validateList_eq_ok hshape).2 v hv
      obtain ⟨haccepted, hnodup, -⟩ := accepted_of_validateServices hlist
      exact ⟨haccepted, hnodup⟩

/-- The engines of a document, in the fixed order. -/
def builtServices (guardrail : Json) : List Json :=
  kServices.filterMap fun want =>
    ((guardrail.elementsAt "list").find? fun e => serviceOf e = want).map builtService

/-- The document of a configuration. -/
def builtDoc (providers guardrail : Json) (version : UInt64) (keys : AiKeys) : Json :=
  .obj (((keys.lookup "airs").toList.map fun key => ("airs_api_key", .str key)) ++
    ((keys.lookup "portkey").toList.map fun key => ("gateway_api_key", .str key)) ++
    [("providers", .arr ((providers.elementsAt "list").map (builtProvider keys))),
      ("services", .arr (builtServices guardrail)),
      ("version", .str (toString version.toNat))])

/-- With no engine twice, each is the first of its name. -/
lemma find?_serviceOf {list : List Json} (hnodup : (list.map serviceOf).Nodup) {e : Json}
    (he : e ∈ list) : (list.find? fun e' => serviceOf e' = serviceOf e) = some e := by
  induction list with
  | nil => cases he
  | cons a rest ih =>
      rw [List.map_cons, List.nodup_cons] at hnodup
      rcases List.mem_cons.mp he with rfl | he
      · exact List.find?_cons_of_pos (by simp)
      · rw [List.find?_cons_of_neg, ih hnodup.2 he]
        simp only [decide_eq_true_eq]
        intro heq
        exact hnodup.1 (heq ▸ List.mem_map_of_mem he)

/-- **A configuration that was accepted is pushed exactly where the members its schema
leaves out are of their types.** -/
theorem push_eq_ok_iff (h : AcceptedConfig providers guardrail) {doc : Json} :
    push providers guardrail version keys = .ok doc ↔
      (∀ e ∈ guardrail.elementsAt "list", TypesRead e) ∧
        doc = builtDoc providers guardrail version keys := by
  obtain ⟨hengines, hnodup⟩ := h.engines
  have hall : (∀ want ∈ kServices, ∀ e, ((guardrail.elementsAt "list").find? fun e =>
      serviceOf e = want) = some e → TypesRead e) ↔
        ∀ e ∈ guardrail.elementsAt "list", TypesRead e := by
    constructor
    · intro hread e he
      obtain ⟨service, hknown, hservice⟩ := (hengines e he).service
      have hwant : serviceOf e ∈ kServices := by
        rw [serviceOf, Json.textOr_of_find? hservice]
        exact hknown
      exact hread _ hwant e (find?_serviceOf hnodup he)
    · exact fun hread want _ e he => hread e (List.mem_of_find?_eq_some he)
  rw [push, Json.valueJson_of_isObject h.guardrailObject,
    Json.valueJson_of_isObject h.providersObject]
  show (serviceDocs (guardrail.elementsAt "list") kServices >>= fun serviceArray =>
    providerDocs keys (providers.elementsAt "list") >>= fun providerArray => _) = _ ↔ _
  rw [providerDocs_eq keys h.vendors.1, except_bind_eq_ok]
  constructor
  · rintro ⟨docs, hdocs, hdoc⟩
    obtain ⟨htypes, rfl⟩ := (serviceDocs_eq_ok_iff hengines).mp hdocs
    exact ⟨hall.mp htypes, (Except.ok.inj hdoc).symm⟩
  · rintro ⟨htypes, rfl⟩
    exact ⟨_, (serviceDocs_eq_ok_iff hengines).mpr ⟨hall.mpr htypes, rfl⟩, rfl⟩

end Document

end Pretzel.Mgmtd
