import Pretzel.Mgmtd.AiConfig

/-!
The deployment as `ApplyConfig` takes it (`pretzel_ai.proto` and its JSON mapping).

* `Field`: a field of a message under the spellings the mapping takes.
* `ApplyConfigMapped`: a document that is an `ApplyConfigRequest`.
* `SameValue`, `Carries`: what of an engine arrives.
* `PushedWhole`: the document of a configuration, with all that is declared.
* `Pushable`: the members no schema checks are of their types, and the numbers fit
  the fields they go to.
* `pushed_whole_iff`: **a configuration that was accepted is pushed whole exactly
  where it is pushable.**
* `pushed_not`: one that is not.
-/

namespace Pretzel.Mgmtd

open Nlohmann

/-! ### The JSON mapping -/

/-- A field of a message, under each of its spellings: null stands for its default. -/
def Field (names : List String) (IsType : Json → Prop) (j : Json) : Prop :=
  ∀ name ∈ names, ∀ v, j.find? name = some v → v = .null ∨ IsType v

/-- `string`. -/
def IsString (v : Json) : Prop := v.isString = true

/-- `bool`. -/
def IsBool (v : Json) : Prop := v.isBoolean = true

/-- `double`. -/
def IsNumber (v : Json) : Prop := v.isNumber = true

/-- `int32`. -/
def IsInteger32 (v : Json) : Prop := ∃ i : ℤ, v = .int i ∧ -2 ^ 31 ≤ i ∧ i < 2 ^ 31

/-- `uint64`, which is written as a string. -/
def IsUnsigned64 (v : Json) : Prop := ∃ n < 2 ^ 64, v = .str (toString n)

/-- `repeated`. -/
def IsRepeated (IsType : Json → Prop) (v : Json) : Prop := ∃ es, v = .arr es ∧ ∀ e ∈ es, IsType e

/-- `AiModel`. -/
structure AiModelMapped (m : Json) : Prop where
  isObject : m.isObject = true
  id : Field ["id"] IsString m
  label : Field ["label"] IsString m
  tokenParam : Field ["token_param", "tokenParam"] IsString m

/-- `AiProvider`. -/
structure AiProviderMapped (p : Json) : Prop where
  isObject : p.isObject = true
  id : Field ["id"] IsString p
  models : Field ["models"] (IsRepeated AiModelMapped) p
  apiKey : Field ["api_key", "apiKey"] IsString p

/-- `Checkpoints`. -/
structure CheckpointsMapped (cp : Json) : Prop where
  isObject : cp.isObject = true
  prompt : Field ["prompt"] IsBool cp
  response : Field ["response"] IsBool cp
  toolCall : Field ["tool_call", "toolCall"] IsBool cp
  toolResult : Field ["tool_result", "toolResult"] IsBool cp

/-- `ServiceConfig`. -/
structure ServiceConfigMapped (d : Json) : Prop where
  isObject : d.isObject = true
  service : Field ["service"] IsString d
  guardrail : Field ["guardrail"] IsString d
  checkpoints : Field ["checkpoints"] CheckpointsMapped d
  airsProfileName : Field ["airs_profile_name", "airsProfileName"] IsString d
  airsTimeoutSec : Field ["airs_timeout_sec", "airsTimeoutSec"] IsNumber d
  airsFailOpen : Field ["airs_fail_open", "airsFailOpen"] IsBool d
  gatewayRequireVerdict : Field ["gateway_require_verdict", "gatewayRequireVerdict"] IsBool d
  gatewayTimeoutSec : Field ["gateway_timeout_sec", "gatewayTimeoutSec"] IsNumber d
  systemPrompt : Field ["system_prompt", "systemPrompt"] IsString d
  maxTokens : Field ["max_tokens", "maxTokens"] IsInteger32 d

/-- `ApplyConfigRequest`. -/
structure ApplyConfigMapped (doc : Json) : Prop where
  isObject : doc.isObject = true
  version : Field ["version"] IsUnsigned64 doc
  providers : Field ["providers"] (IsRepeated AiProviderMapped) doc
  services : Field ["services"] (IsRepeated ServiceConfigMapped) doc
  airsApiKey : Field ["airs_api_key", "airsApiKey"] IsString doc
  gatewayApiKey : Field ["gateway_api_key", "gatewayApiKey"] IsString doc

/-! ### What arrives -/

/-- The same value, a number by the number it stands for. -/
def SameValue (v w : Json) : Prop := v = w ∨ ∃ q, v.rat? = some q ∧ w.rat? = some q

/-- The members of an entry's blocks, and the fields they go to. -/
def carriedFields : List (String × String × String) :=
  [("airs", "profile_name", "airs_profile_name"), ("airs", "timeout_sec", "airs_timeout_sec"),
    ("airs", "fail_open", "airs_fail_open"),
    ("gateway", "require_verdict", "gateway_require_verdict"),
    ("gateway", "timeout_sec", "gateway_timeout_sec"),
    ("shape", "system_prompt", "system_prompt"), ("shape", "max_tokens", "max_tokens")]

/-- What an entry has is in the document of its engine, unchanged in value. -/
structure Carries (e d : Json) : Prop where
  guardrail : d.find? "guardrail" = e.find? "guardrail"
  checkpoints : ∀ f ∈ checkpointKeys, ∀ v, (blockOf e "checkpoints").find? f = some v →
    (blockOf d "checkpoints").find? f = some v
  fields : ∀ x ∈ carriedFields, ∀ v, (blockOf e x.1).find? x.2.1 = some v →
    ∃ w, d.find? x.2.2 = some w ∧ SameValue v w

/-- The vendor of a provider. -/
def vendorOf (p : Json) : String := p.textOr "id" ""

/-- One entry for each engine and each vendor that is declared, with all that was
accepted of it, in a document that is an `ApplyConfigRequest`. -/
structure PushedWhole (providers guardrail doc : Json) : Prop where
  oneService : ((doc.elementsAt "services").map serviceOf).Perm
    ((guardrail.elementsAt "list").map serviceOf)
  services : ∀ e ∈ guardrail.elementsAt "list", ∃ d ∈ doc.elementsAt "services",
    serviceOf d = serviceOf e ∧ Carries e d
  oneProvider : ((doc.elementsAt "providers").map vendorOf).Perm
    ((providers.elementsAt "list").map vendorOf)
  providers : ∀ p ∈ providers.elementsAt "list", ∃ d ∈ doc.elementsAt "providers",
    vendorOf d = vendorOf p ∧ d.elementsAt "models" = p.elementsAt "models"
  mapped : ApplyConfigMapped doc

/-! ### The condition -/

/-- The numbers of an engine fit the fields they go to. -/
structure NumbersFit (e : Json) : Prop where
  airsTimeout : ∀ t, (blockOf e "airs").find? "timeout_sec" = some t → t.IsDouble
  gatewayTimeout : ∀ t, (blockOf e "gateway").find? "timeout_sec" = some t → t.IsDouble
  maxTokens : ∀ mt, (blockOf e "shape").find? "max_tokens" = some mt → mt.IsInt32

/-- The texts of a model are texts. -/
structure ModelTexts (m : Json) : Prop where
  label : Field ["label"] IsString m
  tokenParam : Field ["token_param", "tokenParam"] IsString m

/-- What is asked of a configuration beyond what its schema checks. -/
structure Pushable (providers guardrail : Json) : Prop where
  types : ∀ e ∈ guardrail.elementsAt "list", TypesRead e
  numbers : ∀ e ∈ guardrail.elementsAt "list", NumbersFit e
  models : ∀ p ∈ providers.elementsAt "list", ∀ m ∈ p.elementsAt "models", ModelTexts m

/-! ### An engine -/

section Engine

variable {e : Json}

lemma str_of_stringOrAbsent {j v : Json} {key fallback : String}
    (h : j.stringOrAbsent key = true) (hv : j.find? key = some v) :
    v = .str (j.textOr key fallback) := by
  rw [Json.stringOrAbsent, hv] at h
  cases v with
  | str s => rw [Json.textOr_of_find? hv]
  | _ => cases h

lemma bool_of_boolOrAbsent {j v : Json} {key : String} {fallback : Bool}
    (h : j.boolOrAbsent key = true) (hv : j.find? key = some v) :
    v = .bool (j.boolOr key fallback) := by
  rw [Json.boolOrAbsent, hv] at h
  cases v with
  | bool b => rw [Json.boolOr, hv]
  | _ => cases h

/-- A timeout is the double it is pushed as exactly where it is one. -/
lemma sameValue_doubleOr {j t fallback : Json} {key : String} (ht : isPositive t = true)
    (hfind : j.find? key = some t) : SameValue t (j.doubleOr key fallback) ↔ t.IsDouble := by
  rw [Json.doubleOr, hfind]
  cases t with
  | int i =>
      have hi : 0 < i := by simpa [isPositive] using ht
      show SameValue (.int i) (Json.toDouble i) ↔ FitsDouble i.natAbs
      rw [← Json.rat?_toDouble hi]
      constructor
      · rintro (heq | ⟨q, hq, hround⟩)
        · cases heq
        · cases hq
          exact hround
      · exact fun hround => .inr ⟨i, rfl, hround⟩
  | float m e => exact iff_of_true (.inl rfl) trivial
  | _ => cases ht

/-- A token count is the integer it is pushed as exactly where it is one of 32 bits. -/
lemma sameValue_int32Or {j mt : Json} {key : String} {fallback : ℤ}
    (hmt : isNonNegative mt = true) (hfind : j.find? key = some mt) :
    SameValue mt (.int (j.int32Or key fallback)) ↔ mt.IsInt32 := by
  obtain ⟨q, hq, hnonneg⟩ : ∃ q, mt.rat? = some q ∧ 0 ≤ q := by
    cases mt with
    | int i =>
        have hi : 0 ≤ i := by simpa [isNonNegative] using hmt
        exact ⟨i, rfl, by exact_mod_cast hi⟩
    | float m e =>
        have hm : 0 ≤ m := by simpa [isNonNegative] using hmt
        exact ⟨m * 2 ^ e, rfl, mul_nonneg (by exact_mod_cast hm) (by positivity)⟩
    | _ => cases hmt
  obtain ⟨r, hr⟩ : ∃ r, mt.getInt32 = .ok r := by
    cases mt with
    | int i => exact ⟨_, rfl⟩
    | float m e => exact ⟨_, rfl⟩
    | _ => cases hmt
  have hread : j.int32Or key fallback = r := by
    rw [Json.int32Or, hfind]
    simp [hr, Except.toOption]
  rw [hread, ← Json.rat?_getInt32 hr hq hnonneg]
  constructor
  · rintro (heq | ⟨q', hq', hr'⟩)
    · subst heq
      exact Option.some.inj hq
    · cases hq.symm.trans hq'
      exact Option.some.inj hr'
  · exact fun heq => .inr ⟨q, hq, by rw [Json.rat?, heq]⟩

/-- **An engine arrives unchanged exactly where its numbers fit.** -/
theorem carries_iff (h : AcceptedService e) (ht : TypesRead e) :
    Carries e (builtService e) ↔ NumbersFit e := by
  have hairs : ∀ t, (blockOf e "airs").find? "timeout_sec" = some t → isPositive t = true := by
    intro t hfind
    obtain ⟨blk, hblk, hfind⟩ := find?_blockOf hfind
    exact (h.airs blk hblk).timeout t hfind
  have hgateway : ∀ t, (blockOf e "gateway").find? "timeout_sec" = some t →
      isPositive t = true := by
    intro t hfind
    obtain ⟨blk, hblk, hfind⟩ := find?_blockOf hfind
    exact (h.gateway blk hblk).timeout t hfind
  have htokens : ∀ mt, (blockOf e "shape").find? "max_tokens" = some mt →
      isNonNegative mt = true := by
    intro mt hfind
    obtain ⟨sh, hsh, hfind⟩ := find?_blockOf hfind
    exact (h.shape sh hsh).tokens mt hfind
  constructor
  · intro hcarries
    refine ⟨fun t hfind => ?_, fun t hfind => ?_, fun mt hfind => ?_⟩
    · obtain ⟨w, hw, hsame⟩ :=
        hcarries.fields ("airs", "timeout_sec", "airs_timeout_sec") (by simp [carriedFields]) t hfind
      cases hw
      exact (sameValue_doubleOr (hairs t hfind) hfind).mp hsame
    · obtain ⟨w, hw, hsame⟩ :=
        hcarries.fields ("gateway", "timeout_sec", "gateway_timeout_sec") (by simp [carriedFields]) t
          hfind
      cases hw
      exact (sameValue_doubleOr (hgateway t hfind) hfind).mp hsame
    · obtain ⟨w, hw, hsame⟩ :=
        hcarries.fields ("shape", "max_tokens", "max_tokens") (by simp [carriedFields]) mt hfind
      cases hw
      exact (sameValue_int32Or (htokens mt hfind) hfind).mp hsame
  · intro hfits
    refine ⟨?_, fun f hf v hv => ?_, fun x hx v hv => ?_⟩
    · obtain ⟨guardrail, -, hguardrail⟩ := h.guardrail
      have htext : e.textOr "guardrail" "none" = guardrail := Json.textOr_of_find? hguardrail
      rw [hguardrail, ← htext]
      rfl
    · obtain ⟨cp, hcp, hfind⟩ := find?_blockOf hv
      have hflag : (blockOf e "checkpoints").boolOrAbsent f = true := by
        rw [Json.boolOrAbsent, hv]
        exact (h.checkpoints cp hcp).2 f hf v hfind
      have hbool : v = .bool ((blockOf e "checkpoints").boolOr f false) :=
        bool_of_boolOrAbsent hflag hv
      simp only [checkpointKeys, List.mem_cons, List.not_mem_nil, or_false] at hf
      rcases hf with rfl | rfl | rfl | rfl <;> rw [hbool] <;> rfl
    · simp only [carriedFields, List.mem_cons, List.not_mem_nil, or_false] at hx
      rcases hx with rfl | rfl | rfl | rfl | rfl | rfl | rfl
      · exact ⟨_, rfl, .inl (str_of_stringOrAbsent ht.profileName hv)⟩
      · exact ⟨_, rfl, (sameValue_doubleOr (hairs v hv) hv).mpr (hfits.airsTimeout v hv)⟩
      · exact ⟨_, rfl, .inl (bool_of_boolOrAbsent ht.failOpen hv)⟩
      · exact ⟨_, rfl, .inl (bool_of_boolOrAbsent ht.requireVerdict hv)⟩
      · exact ⟨_, rfl, (sameValue_doubleOr (hgateway v hv) hv).mpr (hfits.gatewayTimeout v hv)⟩
      · obtain ⟨sh, hsh, hfind⟩ := find?_blockOf hv
        have hprompt : (blockOf e "shape").stringOrAbsent "system_prompt" = true := by
          rw [Json.stringOrAbsent, hv]
          exact (h.shape sh hsh).prompt v hfind
        exact ⟨_, rfl, .inl (str_of_stringOrAbsent hprompt hv)⟩
      · exact ⟨_, rfl, (sameValue_int32Or (htokens v hv) hv).mpr (hfits.maxTokens v hv)⟩

end Engine

/-! ### The messages -/

section Messages

variable {j : Json} {name camel : String} {IsType : Json → Prop}

lemma field_one (h : ∀ v, j.find? name = some v → IsType v) : Field [name] IsType j := by
  intro n hn v hv
  obtain rfl := List.mem_singleton.mp hn
  exact .inr (h v hv)

lemma field_two (h : ∀ v, j.find? name = some v → IsType v) (hcamel : j.find? camel = none) :
    Field [name, camel] IsType j := by
  intro n hn v hv
  rcases List.mem_pair.mp hn with rfl | rfl
  · exact .inr (h v hv)
  · cases hcamel.symm.trans hv

lemma isNumber_doubleOr {fallback : Json} {key : String} (h : fallback.isNumber = true) :
    (j.doubleOr key fallback).isNumber = true := by
  rw [Json.doubleOr]
  split
  · rfl
  · rfl
  · exact h

lemma int32Or_bounds {key : String} {fallback : ℤ} (h : -2 ^ 31 ≤ fallback ∧ fallback < 2 ^ 31) :
    -2 ^ 31 ≤ j.int32Or key fallback ∧ j.int32Or key fallback < 2 ^ 31 := by
  rw [Json.int32Or]
  split
  · next v hv =>
      cases v with
      | int i => exact Json.bmod_bounds i
      | float m e => exact Json.bmod_bounds _
      | bool b => cases b <;> simp [Json.getInt32, Except.toOption]
      | _ => exact h
  · exact h

/-- An engine is a `ServiceConfig`, whatever it was built from. -/
lemma serviceConfigMapped_builtService (e : Json) : ServiceConfigMapped (builtService e) where
  isObject := rfl
  service := field_one fun v hv => by cases hv; rfl
  guardrail := field_one fun v hv => by cases hv; rfl
  checkpoints := field_one fun v hv => by
    cases hv
    exact ⟨rfl, field_one fun v hv => by cases hv; rfl, field_one fun v hv => by cases hv; rfl,
      field_two (fun v hv => by cases hv; rfl) rfl, field_two (fun v hv => by cases hv; rfl) rfl⟩
  airsProfileName := field_two (fun v hv => by cases hv; rfl) rfl
  airsTimeoutSec := field_two (fun v hv => by cases hv; exact isNumber_doubleOr rfl) rfl
  airsFailOpen := field_two (fun v hv => by cases hv; rfl) rfl
  gatewayRequireVerdict := field_two (fun v hv => by cases hv; rfl) rfl
  gatewayTimeoutSec := field_two (fun v hv => by cases hv; exact isNumber_doubleOr rfl) rfl
  systemPrompt := field_two (fun v hv => by cases hv; rfl) rfl
  maxTokens := field_two (fun v hv => by cases hv; exact ⟨_, rfl, int32Or_bounds (by norm_num)⟩) rfl

lemma find?_providerDoc (keys : AiKeys) (id : String) (models : Json) :
    (providerDoc keys id models).find? "id" = some (.str id) ∧
      (providerDoc keys id models).find? "models" = some models ∧
      (providerDoc keys id models).find? "api_key" = (keys.lookup id).map Json.str ∧
      (providerDoc keys id models).find? "apiKey" = none := by
  rw [providerDoc]
  cases keys.lookup id <;> exact ⟨rfl, rfl, rfl, rfl⟩

/-- **A provider that was accepted is an `AiProvider` exactly where the texts of its models
are texts.** -/
lemma aiProviderMapped_iff {keys : AiKeys} {p : Json} (h : AcceptedProvider p) :
    AiProviderMapped (builtProvider keys p) ↔ ∀ m ∈ p.elementsAt "models", ModelTexts m := by
  obtain ⟨hid, hmodels, hkey, hcamel⟩ :=
    find?_providerDoc keys (p.textOr "id" "") ((p.find? "models").getD (.arr []))
  obtain ⟨models, hlist, hids⟩ : ∃ models, (p.find? "models").getD (.arr []) = .arr models ∧
      ∀ m ∈ models, HasText m "id" := by
    cases hv : p.find? "models" with
    | none => exact ⟨[], rfl, fun m hm => absurd hm List.not_mem_nil⟩
    | some v =>
        obtain ⟨-, models, rfl, haccepted⟩ := h.models v hv
        exact ⟨models, rfl, haccepted.ids⟩
  have helements : p.elementsAt "models" = models := by
    rw [Json.elementsAt, hlist]
    rfl
  rw [hlist] at hmodels
  rw [builtProvider, helements, hlist]
  rw [hlist] at hid hkey hcamel
  constructor
  · intro hmapped m hm
    rcases hmapped.models "models" List.mem_cons_self _ hmodels with hnull | ⟨es, hes, hall⟩
    · cases hnull
    · cases hes
      exact ⟨(hall m hm).label, (hall m hm).tokenParam⟩
  · intro htexts
    refine ⟨?_, field_one fun v hv => ?_, field_one fun v hv => ?_, field_two (fun v hv => ?_) hcamel⟩
    · exact Json.isObject_of_find? hid
    · cases hid.symm.trans hv
      rfl
    · cases hmodels.symm.trans hv
      refine ⟨models, rfl, fun m hm => ?_⟩
      obtain ⟨s, hne, hs⟩ := hids m hm
      refine ⟨Json.isObject_of_find? hs, field_one fun v hv => ?_, (htexts m hm).label,
        (htexts m hm).tokenParam⟩
      cases hs.symm.trans hv
      rfl
    · rw [hkey, Option.map_eq_some_iff] at hv
      obtain ⟨key, -, rfl⟩ := hv
      rfl

end Messages

/-! ### The document -/

section Document

variable {providers guardrail : Json} {version : UInt64} {keys : AiKeys}

lemma find?_builtDoc (providers guardrail : Json) (version : UInt64) (keys : AiKeys) :
    (builtDoc providers guardrail version keys).find? "providers"
        = some (.arr ((providers.elementsAt "list").map (builtProvider keys))) ∧
      (builtDoc providers guardrail version keys).find? "services"
        = some (.arr (builtServices guardrail)) ∧
      (builtDoc providers guardrail version keys).find? "version"
        = some (.str (toString version.toNat)) ∧
      (builtDoc providers guardrail version keys).find? "airs_api_key"
        = (keys.lookup "airs").map Json.str ∧
      (builtDoc providers guardrail version keys).find? "gateway_api_key"
        = (keys.lookup "portkey").map Json.str ∧
      (builtDoc providers guardrail version keys).find? "airsApiKey" = none ∧
      (builtDoc providers guardrail version keys).find? "gatewayApiKey" = none := by
  rw [builtDoc]
  cases keys.lookup "airs" <;> cases keys.lookup "portkey" <;>
    exact ⟨rfl, rfl, rfl, rfl, rfl, rfl, rfl⟩

lemma vendorOf_builtProvider (p : Json) : vendorOf (builtProvider keys p) = vendorOf p :=
  Json.textOr_of_find? (find?_providerDoc keys _ _).1

lemma models_builtProvider (p : Json) :
    (builtProvider keys p).elementsAt "models" = p.elementsAt "models" := by
  rw [Json.elementsAt, builtProvider, (find?_providerDoc keys _ _).2.1]
  rfl

/-- The engines that are declared, in the fixed order. -/
lemma map_serviceOf_builtServices (h : AcceptedConfig providers guardrail) :
    ((builtServices guardrail).map serviceOf).Perm ((guardrail.elementsAt "list").map serviceOf) := by
  obtain ⟨hengines, hnodup⟩ := h.engines
  have hnames : (builtServices guardrail).map serviceOf
      = kServices.filter fun want => want ∈ (guardrail.elementsAt "list").map serviceOf := by
    rw [builtServices]
    induction kServices with
    | nil => rfl
    | cons want rest ih =>
        rw [List.filterMap_cons, List.filter_cons]
        cases hfind : (guardrail.elementsAt "list").find? fun e => serviceOf e = want with
        | none =>
            have hnot : want ∉ (guardrail.elementsAt "list").map serviceOf := by
              intro hmem
              obtain ⟨e, he, heq⟩ := List.mem_map.mp hmem
              exact absurd (by simpa using heq) (List.find?_eq_none.mp hfind e he)
            rw [Option.map_none, if_neg (by simpa using hnot)]
            exact ih
        | some e =>
            have heq : serviceOf e = want := by simpa using List.find?_some hfind
            have hmem : want ∈ (guardrail.elementsAt "list").map serviceOf :=
              heq ▸ List.mem_map_of_mem (List.mem_of_find?_eq_some hfind)
            rw [Option.map_some, if_pos (by simpa using hmem), List.map_cons, ih]
            congr 1
  rw [hnames, List.perm_ext_iff_of_nodup (List.Nodup.filter _ (by decide)) hnodup]
  intro service
  rw [List.mem_filter, decide_eq_true_eq, and_iff_right_iff_imp]
  intro hmem
  obtain ⟨e, he, rfl⟩ := List.mem_map.mp hmem
  obtain ⟨service, hknown, hservice⟩ := (hengines e he).service
  rw [serviceOf, Json.textOr_of_find? hservice]
  exact hknown

lemma mem_builtServices (h : AcceptedConfig providers guardrail) {d : Json} :
    d ∈ builtServices guardrail ↔ ∃ e ∈ guardrail.elementsAt "list", builtService e = d := by
  obtain ⟨hengines, hnodup⟩ := h.engines
  simp only [builtServices, List.mem_filterMap, Option.map_eq_some_iff]
  constructor
  · rintro ⟨want, -, e, hfind, hd⟩
    exact ⟨e, List.mem_of_find?_eq_some hfind, hd⟩
  · rintro ⟨e, he, hd⟩
    obtain ⟨service, hknown, hservice⟩ := (hengines e he).service
    refine ⟨serviceOf e, ?_, e, find?_serviceOf hnodup he, hd⟩
    rw [serviceOf, Json.textOr_of_find? hservice]
    exact hknown

/-- **Every engine arrives unchanged exactly where the numbers fit.** -/
lemma services_iff (h : AcceptedConfig providers guardrail)
    (htypes : ∀ e ∈ guardrail.elementsAt "list", TypesRead e) :
    (∀ e ∈ guardrail.elementsAt "list", ∃ d ∈ builtServices guardrail,
      serviceOf d = serviceOf e ∧ Carries e d) ↔
        ∀ e ∈ guardrail.elementsAt "list", NumbersFit e := by
  obtain ⟨hengines, hnodup⟩ := h.engines
  refine forall_congr' fun e => forall_congr' fun he => ?_
  rw [← carries_iff (hengines e he) (htypes e he)]
  constructor
  · rintro ⟨d, hd, hservice, hcarries⟩
    obtain ⟨e', he', rfl⟩ := (mem_builtServices h).mp hd
    have heq : e' = e := List.inj_on_of_nodup_map hnodup he' he hservice
    exact heq ▸ hcarries
  · intro hcarries
    exact ⟨builtService e, (mem_builtServices h).mpr ⟨e, he, rfl⟩, rfl, hcarries⟩

/-- **The document is an `ApplyConfigRequest` exactly where the texts of the models are
texts.** -/
lemma applyConfigMapped_iff (h : AcceptedConfig providers guardrail) :
    ApplyConfigMapped (builtDoc providers guardrail version keys) ↔
      ∀ p ∈ providers.elementsAt "list", ∀ m ∈ p.elementsAt "models", ModelTexts m := by
  obtain ⟨hproviders, hservices, hversion, hairs, hgateway, hairsCamel, hgatewayCamel⟩ :=
    find?_builtDoc providers guardrail version keys
  constructor
  · intro hmapped p hp
    rcases hmapped.providers "providers" List.mem_cons_self _ hproviders with hnull | ⟨es, hes, hall⟩
    · cases hnull
    · cases hes
      exact (aiProviderMapped_iff (h.vendors.1 p hp)).mp (hall _ (List.mem_map_of_mem hp))
  · intro htexts
    refine ⟨rfl, field_one fun v hv => ?_, field_one fun v hv => ?_, field_one fun v hv => ?_,
      field_two (fun v hv => ?_) hairsCamel, field_two (fun v hv => ?_) hgatewayCamel⟩
    · cases hversion.symm.trans hv
      exact ⟨version.toNat, version.toNat_lt, rfl⟩
    · cases hproviders.symm.trans hv
      refine ⟨_, rfl, fun d hd => ?_⟩
      obtain ⟨p, hp, rfl⟩ := List.mem_map.mp hd
      exact (aiProviderMapped_iff (h.vendors.1 p hp)).mpr (htexts p hp)
    · cases hservices.symm.trans hv
      refine ⟨_, rfl, fun d hd => ?_⟩
      obtain ⟨e, -, rfl⟩ := (mem_builtServices h).mp hd
      exact serviceConfigMapped_builtService e
    · obtain ⟨key, -, rfl⟩ := Option.map_eq_some_iff.mp (hairs.symm.trans hv)
      rfl
    · obtain ⟨key, -, rfl⟩ := Option.map_eq_some_iff.mp (hgateway.symm.trans hv)
      rfl

/-- **A configuration that was accepted is pushed whole exactly where it is
pushable.** -/
theorem pushed_whole_iff (h : AcceptedConfig providers guardrail) :
    (∃ doc, push providers guardrail version keys = .ok doc ∧
      PushedWhole providers guardrail doc) ↔ Pushable providers guardrail := by
  obtain ⟨hproviders, hservices, -⟩ := find?_builtDoc providers guardrail version keys
  have hservicesAt : (builtDoc providers guardrail version keys).elementsAt "services"
      = builtServices guardrail := by
    rw [Json.elementsAt, hservices]
    rfl
  have hprovidersAt : (builtDoc providers guardrail version keys).elementsAt "providers"
      = (providers.elementsAt "list").map (builtProvider keys) := by
    rw [Json.elementsAt, hproviders]
    rfl
  constructor
  · rintro ⟨doc, hpush, hwhole⟩
    obtain ⟨htypes, rfl⟩ := (push_eq_ok_iff h).mp hpush
    have hcarried := hwhole.services
    rw [hservicesAt] at hcarried
    exact ⟨htypes, (services_iff h htypes).mp hcarried, (applyConfigMapped_iff h).mp hwhole.mapped⟩
  · intro hpushable
    refine ⟨_, (push_eq_ok_iff h).mpr ⟨hpushable.types, rfl⟩, ?_, ?_, ?_, ?_,
      (applyConfigMapped_iff h).mpr hpushable.models⟩
    · rw [hservicesAt]
      exact map_serviceOf_builtServices h
    · rw [hservicesAt]
      exact (services_iff h hpushable.types).mpr hpushable.numbers
    · rw [hprovidersAt, List.map_map]
      have hvendors : vendorOf ∘ builtProvider keys = vendorOf :=
        funext fun p => vendorOf_builtProvider p
      rw [hvendors]
    · intro p hp
      rw [hprovidersAt]
      exact ⟨builtProvider keys p, List.mem_map_of_mem hp, vendorOf_builtProvider p,
        models_builtProvider p⟩

/-- An engine with a block of its own, and no provider. -/
def Sample.engine (key : String) (block : List (String × Json)) : Json :=
  .obj [("list", .arr [.obj [(key, .obj block), ("guardrail", .str "api_application"),
    ("service", .str "chat")]])]

lemma Sample.accepted_engine {key : String} {block : List (String × Json)}
    (h : validateCommitShape "pretzel-ai" "guardrail" (Sample.engine key block) = .ok none) :
    AcceptedConfig (.obj []) (Sample.engine key block) :=
  ⟨rfl, rfl, by decide, h⟩

/-- A profile name that is a number is accepted, and never pushed. -/
theorem pushed_not : ¬ ∀ providers guardrail version keys, AcceptedConfig providers guardrail →
    ∃ doc, push providers guardrail version keys = .ok doc ∧
      PushedWhole providers guardrail doc := by
  intro hall
  have haccepted : AcceptedConfig (.obj []) (Sample.engine "airs" [("profile_name", .int 7)]) :=
    Sample.accepted_engine (by decide +kernel)
  obtain ⟨doc, hdoc, -⟩ := hall _ _ 1 ∅ haccepted
  have htypes := ((push_eq_ok_iff haccepted).mp hdoc).1 _ List.mem_cons_self
  cases htypes.profileName

/-- The law on an engine with a timeout. -/
theorem pushed_whole_iff_timeout : ∃ doc,
    push (.obj []) (Sample.engine "airs" [("timeout_sec", .int 20)]) 1 ∅ = .ok doc ∧
      PushedWhole (.obj []) (Sample.engine "airs" [("timeout_sec", .int 20)]) doc := by
  refine (pushed_whole_iff (Sample.accepted_engine (by decide +kernel))).mpr ⟨?_, ?_, ?_⟩
  · intro e he
    obtain rfl := List.mem_singleton.mp he
    exact ⟨rfl, rfl, rfl⟩
  · intro e he
    obtain rfl := List.mem_singleton.mp he
    refine ⟨fun t ht => ?_, fun t ht => ?_, fun mt hmt => ?_⟩
    · cases ht
      exact ⟨20, 0, by norm_num, rfl⟩
    · cases ht
    · cases hmt
  · intro p hp
    cases hp

end Document

end Pretzel.Mgmtd
