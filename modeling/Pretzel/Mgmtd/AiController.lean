import Pretzel.Engined.AiCredential
import Pretzel.Mgmtd.AiConfig
import Pretzel.Mgmtd.SettingsController
import Pretzel.Util.Secret

/-!
The keys of the assistant in mgmtd (`AiController::credentialStore`, and `unsealedKeys` of
`mgmtd/service/ai/AiConfig.cpp`).

* `credentialStore`: a key is sealed, or taken, and engined is told.
* `unsealedKeys`, `overridden`: the keys of a push, read from the two tables, and the one
  that was just given put over them.
* `pushAiConfig`: a push, from the running configuration and the keys.
* `keyOf`: the key the tables hold for an id. `lookup_unsealedKeys`: what a push reads.
* `keyOf_apply`: **an update that engined carries out gives its id the key that was stored,
  and changes no other.**
-/

namespace Pretzel.Mgmtd

open Nlohmann Ipc Config Texts Util Engined

/-! ### A request -/

/-- `credentialScope`. -/
def credentialScope (id : String) : Option String :=
  if id ∈ kAiProviders then some "provider"
  else if id = "airs" ∨ id = "portkey" then some "guardrail"
  else none

/-- The payload of an `AiCredentialStateUpdate`: a sealed key, or none any more. -/
def aiCredentialPayload (id scope : String) : Option String → Json
  | none => .obj [("clear", .bool true), ("id", .str id), ("scope", .str scope)]
  | some keyEnc => .obj [("id", .str id), ("key_enc", .str keyEnc), ("scope", .str scope)]

/-- A request that is accepted: its id, the key (empty where it is taken), and the payload
for engined. -/
structure KeyRequest where
  id : String
  apiKey : String
  payload : Json

/-- The answer to a request that is refused. -/
def aiError (status : ℕ) (error : String) : HttpResponse := ⟨status, .obj [("error", .str error)]⟩

/-- The answer to one that is accepted. -/
def aiPending (id : String) : HttpResponse :=
  ⟨202, .obj [("id", .str id), ("status", .str "pending")]⟩

/-- `AiController::credentialStore`, before its push. -/
def AiController.credentialStore (key : MasterKey) (nonce : Option (Vector UInt8 12))
    (body : Option Json) : Except JsonError (HttpResponse × Option KeyRequest) :=
  match body with
  | none => .ok (aiError 400 "invalid JSON body", none)
  | some input => do
      let id ← input.valueString "id" ""
      match credentialScope id with
      | none =>
          return (aiError 400 "id must be one of openai, google, anthropic, airs, portkey", none)
      | some scope =>
          let clear ← input.valueBool "clear" false
          if clear then return (aiPending id, some ⟨id, "", aiCredentialPayload id scope none⟩)
          else
            let apiKey ← input.valueString "api_key" ""
            if apiKey = "" then return (aiError 400 "api_key is required", none)
            else if !available key then
              return (aiError 503 "the appliance has no credentials.key — a key cannot be sealed", none)
            else
              match encrypt key nonce (textBytes apiKey) with
              | none => return (aiError 500 "the key could not be sealed", none)
              | some keyEnc =>
                  return (aiPending id, some ⟨id, apiKey, aiCredentialPayload id scope (some keyEnc)⟩)

/-! ### The keys of a push -/

/-- A stored key, opened. What is sealed is a text. -/
def openKey (key : MasterKey) (keyEnc : String) : Option String := (decrypt key keyEnc).bind utf8Text

/-- One row of `unsealInto`. -/
def unsealRow (key : MasterKey) (out : AiKeys) (row : (_ : String) × AiCredentialRow) : AiKeys :=
  if row.1 = "" then out
  else
    match row.2.keyEnc.bind (openKey key) with
    | some opened => out.insert row.1 opened
    | none => out

/-- `unsealInto`, of a query that succeeds or not. -/
def unsealInto (key : MasterKey) (read : Bool) (table : AiTable) (out : AiKeys) : AiKeys :=
  if read then table.entries.foldl (unsealRow key) out else out

/-- The queries of one push. -/
structure KeyReads where
  providers : Bool := true
  guardrails : Bool := true
deriving DecidableEq

/-- `unsealedKeys`. -/
def unsealedKeys (key : MasterKey) (reads : KeyReads) (stores : AiStores) : AiKeys :=
  if available key then
    unsealInto key reads.guardrails stores.guardrails
      (unsealInto key reads.providers stores.providers ∅)
  else ∅

/-- The keys with the one that was just given: an empty one is none. -/
def overridden (keys : AiKeys) : Option (String × String) → AiKeys
  | none => keys
  | some (id, apiKey) =>
      if id = "" then keys
      else if apiKey = "" then keys.erase id
      else keys.insert id apiKey

/-- What a push meets. -/
structure PushIO where
  load : LoadIO
  reads : KeyReads

/-- `pushAiConfig`: the document, and the cache it leaves. -/
def pushAiConfig (file : Option Json) (table : Table) (key : MasterKey) (stores : AiStores)
    (io : PushIO) (override : Option (String × String)) (c : ConfigState) :
    Except JsonError (Json × ConfigState) := do
  let c := (⟨file, table, io.load⟩ : ConfigSource).fill c
  let doc ← push (configSection c "pretzel-ai" "providers") (configSection c "pretzel-ai" "guardrail")
    (UInt64.ofNat c.runningConfigVersionCache)
    (overridden (unsealedKeys key io.reads stores) override)
  return (doc, c)

/-! ### The key of an id -/

/-- The key a table holds for an id. -/
def rowKey (key : MasterKey) (table : AiTable) (id : String) : Option String :=
  ((table.lookup id).bind AiCredentialRow.keyEnc).bind (openKey key)

/-- The key the two tables hold for an id. -/
def keyOf (key : MasterKey) (stores : AiStores) (id : String) : Option String :=
  if id = "" then none
  else (rowKey key stores.guardrails id).or (rowKey key stores.providers id)

section Keys

variable {key : MasterKey} {id : String}

lemma lookup_unsealRow_ne {out : AiKeys} {row : (_ : String) × AiCredentialRow} (h : id ≠ row.1) :
    (unsealRow key out row).lookup id = out.lookup id := by
  rw [unsealRow]
  split
  · rfl
  split
  · exact AList.lookup_insert_ne h
  · rfl

lemma lookup_foldl_unsealRow {rows : List ((_ : String) × AiCredentialRow)} (h : rows.NodupKeys)
    (out : AiKeys) : (rows.foldl (unsealRow key) out).lookup id
      = (if id = "" then none
          else ((rows.dlookup id).bind AiCredentialRow.keyEnc).bind (openKey key)).or
        (out.lookup id) := by
  induction rows generalizing out with
  | nil => simp
  | cons row rest ih =>
      rw [List.foldl_cons, ih (List.nodupKeys_cons.mp h).2]
      by_cases hid : id = row.1
      · subst hid
        have hrest : rest.dlookup row.1 = none :=
          List.dlookup_eq_none.mpr (List.nodupKeys_cons.mp h).1
        rw [hrest, List.dlookup_cons_eq, unsealRow]
        by_cases hempty : row.1 = ""
        · simp [hempty]
        · simp only [if_neg hempty, Option.bind_none, Option.none_or, Option.bind_some]
          cases row.2.keyEnc.bind (openKey key) with
          | none => rfl
          | some opened => exact AList.lookup_insert _
      · rw [List.dlookup_cons_ne _ _ hid, lookup_unsealRow_ne hid]

/-- **What a push reads**, where its queries succeed. -/
lemma lookup_unsealedKeys {reads : KeyReads} (h : reads = {}) (stores : AiStores) :
    (unsealedKeys key reads stores).lookup id = keyOf key stores id := by
  subst h
  rw [unsealedKeys, keyOf]
  cases key with
  | none =>
      have hnone : ∀ table, rowKey none table id = none := by
        intro table
        rw [rowKey]
        cases (table.lookup id).bind AiCredentialRow.keyEnc <;> rfl
      rw [hnone, hnone, if_neg (by simp [available]), AList.lookup_empty]
      split <;> rfl
  | some gcm =>
      show (unsealInto (some gcm) true stores.guardrails
        (unsealInto (some gcm) true stores.providers ∅)).lookup id = _
      simp only [unsealInto, if_true]
      rw [lookup_foldl_unsealRow stores.guardrails.nodupKeys,
        lookup_foldl_unsealRow stores.providers.nodupKeys, AList.lookup_empty, Option.or_none]
      split
      · rfl
      · rfl

/-- The key that was given is put over the others. -/
lemma lookup_overridden {keys : AiKeys} {apiKey : String} (hid : id ≠ "") :
    (fun id' => (overridden keys (some (id, apiKey))).lookup id')
      = Function.update (fun id' => keys.lookup id') id
          (if apiKey = "" then none else some apiKey) := by
  funext id'
  simp only [overridden, if_neg hid]
  by_cases heq : id' = id
  · subst heq
    rw [Function.update_self]
    split
    · exact AList.lookup_erase _ _
    · exact AList.lookup_insert _
  · rw [Function.update_of_ne heq]
    split
    · exact AList.lookup_erase_ne heq
    · exact AList.lookup_insert_ne heq

end Keys

/-! ### The document and its keys -/

section Congruence

variable {keys keys' : AiKeys}

lemma providerDocs_congr (h : ∀ id, keys.lookup id = keys'.lookup id) (list : List Json) :
    providerDocs keys list = providerDocs keys' list := by
  induction list with
  | nil => rfl
  | cons p rest ih =>
      have hdoc : providerDoc keys = providerDoc keys' := by
        funext id models
        rw [providerDoc, providerDoc, h]
      rw [providerDocs, providerDocs, ih, hdoc]

/-- A push sees the keys by their ids only. -/
lemma push_congr (h : ∀ id, keys.lookup id = keys'.lookup id) (providers guardrail : Json)
    (version : UInt64) :
    push providers guardrail version keys = push providers guardrail version keys' := by
  have hdocs : providerDocs keys = providerDocs keys' := funext (providerDocs_congr h)
  rw [push, push, hdocs, h, h]

end Congruence

/-! ### An update carried out -/

/-- Each table holds ids of its scope only. -/
structure Scoped (stores : AiStores) : Prop where
  providers : ∀ id, stores.providers.lookup id ≠ none → credentialScope id = some "provider"
  guardrails : ∀ id, stores.guardrails.lookup id ≠ none → credentialScope id = some "guardrail"

/-- The table of an id, and the payload of a request for it that was accepted. -/
structure Requested (key : MasterKey) (id : String) (value : Option String) (payload : Json) :
    Prop where
  payload : ∃ scope keyEnc, credentialScope id = some scope ∧
    payload = aiCredentialPayload id scope keyEnc ∧ keyEnc.bind (openKey key) = value ∧
    ∀ enc, keyEnc = some enc → nullIf enc = some enc

section Updates

variable {key : MasterKey} {id : String} {value : Option String} {payload : Json}
  {stores stores' : AiStores}

lemma credentialScope_cases {scope : String} (h : credentialScope id = some scope) :
    (scope = "provider" ∧ id ∈ kAiProviders) ∨
      (scope = "guardrail" ∧ (id = "airs" ∨ id = "portkey")) := by
  rw [credentialScope] at h
  split at h
  · next hid =>
      cases h
      exact .inl ⟨rfl, hid⟩
  split at h
  · next hid =>
      cases h
      exact .inr ⟨rfl, hid⟩
  · cases h

/-- The ids are five texts. -/
lemma mem_of_credentialScope {scope : String} (h : credentialScope id = some scope) :
    id ∈ ["openai", "google", "anthropic", "airs", "portkey"] := by
  rcases credentialScope_cases h with ⟨-, hid⟩ | ⟨-, rfl | rfl⟩
  · exact List.mem_append_left ["airs", "portkey"] hid
  · decide
  · decide

lemma ne_empty_of_credentialScope {scope : String} (h : credentialScope id = some scope) :
    id ≠ "" ∧ cStr id = id := by
  have hall : ∀ id ∈ ["openai", "google", "anthropic", "airs", "portkey"],
      id ≠ "" ∧ '\x00' ∉ id.toList := by decide
  obtain ⟨hne, hnul⟩ := hall id (mem_of_credentialScope h)
  exact ⟨hne, cStr_eq_self hnul⟩

/-- **A request that is accepted** asks for a key, or for none. -/
lemma requested_of_credentialStore {nonce : Option (Vector UInt8 12)} {body : Option Json}
    {resp : HttpResponse} {r : KeyRequest}
    (h : AiController.credentialStore key nonce body = .ok (resp, some r)) :
    Requested key r.id (if r.apiKey = "" then none else some r.apiKey) r.payload := by
  cases body with
  | none => cases h
  | some input =>
      rw [AiController.credentialStore] at h
      obtain ⟨id, -, h⟩ := except_bind_eq_ok.mp h
      split at h
      · cases h
      next scope hscope =>
      obtain ⟨clear, -, h⟩ := except_bind_eq_ok.mp h
      split at h
      · cases h
        exact ⟨scope, none, hscope, rfl, rfl, fun enc henc => by cases henc⟩
      obtain ⟨apiKey, -, h⟩ := except_bind_eq_ok.mp h
      split at h
      · cases h
      next hkey =>
      split at h
      · cases h
      split at h
      · cases h
      next keyEnc hsealed =>
      cases h
      refine ⟨scope, some keyEnc, hscope, rfl, ?_, fun enc henc => ?_⟩
      · show ((decrypt key keyEnc).bind utf8Text) = _
        rw [decrypt_encrypt hsealed, Option.bind_some, utf8Text_textBytes, if_neg hkey]
      · cases henc
        have hcut : cStr keyEnc = keyEnc := cStr_eq_self (encrypt_no_nul hsealed)
        rw [nullIf, hcut, if_neg (encrypt_ne_empty hsealed)]

/-- What engined reads of a payload. -/
lemma readAiUpdate_payload {scopeName : String} {scope : AiScope} (hid : id ≠ "")
    (hscope : AiScope.ofName scopeName = some scope) (keyEnc : Option String) :
    readAiUpdate (aiCredentialPayload id scopeName keyEnc) = .ok (some
      (match keyEnc with
      | none => .clear scope id
      | some enc => .store scope id enc false false "")) := by
  cases keyEnc with
  | none => simp [readAiUpdate, aiCredentialPayload, Json.valueString, Json.valueBool,
      Json.valueWith, Json.lookup, Json.getString, Json.getBool, bind, Except.bind, pure,
      Except.pure, hid, hscope]
  | some enc => simp [readAiUpdate, aiCredentialPayload, Json.valueString, Json.valueBool,
      Json.valueWith, Json.lookup, Json.getString, Json.contains, Json.find?, Json.members,
      bind, Except.bind, pure, Except.pure, hid, hscope]

lemma rowKey_insert (table : AiTable) (row : AiCredentialRow) :
    rowKey key (table.insert id row)
      = Function.update (rowKey key table) id (row.keyEnc.bind (openKey key)) := by
  funext id'
  by_cases heq : id' = id
  · subst heq
    rw [rowKey, AList.lookup_insert, Function.update_self]
    rfl
  · rw [rowKey, AList.lookup_insert_ne heq, Function.update_of_ne heq]
    rfl

/-- A write to the table of an id's scope. -/
lemma keyOf_setTable {scopeName : String} {scope : AiScope} {table : AiTable}
    (hscoped : Scoped stores) (hname : credentialScope id = some scopeName)
    (hscope : AiScope.ofName scopeName = some scope)
    (htable : rowKey key table = Function.update (rowKey key (stores.table scope)) id value) :
    keyOf key (stores.setTable table scope) = Function.update (keyOf key stores) id value := by
  obtain ⟨hid, -⟩ := ne_empty_of_credentialScope hname
  -- the other table has no row of the id
  have hnone : ∀ t : AiTable, t.lookup id = none → rowKey key t id = none := by
    intro t ht
    rw [rowKey, ht]
    rfl
  funext id'
  rcases credentialScope_cases hname with ⟨rfl, -⟩ | ⟨rfl, -⟩
  · cases hscope
    have hother : stores.guardrails.lookup id = none := by
      by_contra hrow
      exact absurd (hname.symm.trans (hscoped.guardrails id hrow)) (by decide)
    show (if id' = "" then none else (rowKey key stores.guardrails id').or (rowKey key table id')) = _
    rw [htable]
    by_cases heq : id' = id
    · subst heq
      rw [if_neg hid, hnone _ hother, Function.update_self, Function.update_self, Option.none_or]
    · rw [Function.update_of_ne heq, Function.update_of_ne heq]
      rfl
  · cases hscope
    have hother : stores.providers.lookup id = none := by
      by_contra hrow
      exact absurd (hname.symm.trans (hscoped.providers id hrow)) (by decide)
    show (if id' = "" then none else (rowKey key table id').or (rowKey key stores.providers id')) = _
    rw [htable]
    by_cases heq : id' = id
    · subst heq
      rw [if_neg hid, hnone _ hother, Function.update_self, Function.update_self, Option.or_none]
    · rw [Function.update_of_ne heq, Function.update_of_ne heq]
      rfl

lemma Scoped.insert {scopeName : String} {scope : AiScope} (hscoped : Scoped stores)
    (hname : credentialScope id = some scopeName) (hscope : AiScope.ofName scopeName = some scope)
    (row : AiCredentialRow) :
    Scoped (stores.setTable ((stores.table scope).insert id row) scope) := by
  have hrow : ∀ (t : AiTable) (name : String), credentialScope id = some name →
      (∀ id', t.lookup id' ≠ none → credentialScope id' = some name) →
      ∀ id', (t.insert id row).lookup id' ≠ none → credentialScope id' = some name := by
    intro t name hid ht id' hid'
    by_cases heq : id' = id
    · rwa [heq]
    · rw [AList.lookup_insert_ne heq] at hid'
      exact ht id' hid'
  rcases credentialScope_cases hname with ⟨rfl, -⟩ | ⟨rfl, -⟩
  · cases hscope
    exact ⟨hrow _ _ hname hscoped.providers, hscoped.guardrails⟩
  · cases hscope
    exact ⟨hscoped.providers, hrow _ _ hname hscoped.guardrails⟩

/-- **An update that engined carries out** gives its id the key that was stored, or none,
and changes no other. -/
theorem keyOf_apply {now : ℤ} (h : Requested key id value payload) (hscoped : Scoped stores)
    (hs : storeAiCredential now true (.json payload) stores = .ok stores') :
    Scoped stores' ∧ keyOf key stores' = Function.update (keyOf key stores) id value := by
  obtain ⟨scopeName, keyEnc, hname, rfl, hvalue, hsealed⟩ := h.payload
  obtain ⟨hid, hcut⟩ := ne_empty_of_credentialScope hname
  obtain ⟨scope, hscope, htakes⟩ : ∃ scope, AiScope.ofName scopeName = some scope ∧
      scope.takes id = true := by
    rcases credentialScope_cases hname with ⟨rfl, -⟩ | ⟨rfl, hid⟩
    · exact ⟨.provider, rfl, rfl⟩
    · exact ⟨.guardrail, rfl, by simpa [AiScope.takes] using hid⟩
  rw [storeAiCredential, readAiUpdate_payload hid hscope] at hs
  cases keyEnc with
  | none =>
      obtain rfl : none = value := hvalue
      have happly : stores' = (AiUpdate.clear scope id).apply now stores := by
        cases hs
        rfl
      subst happly
      rw [AiUpdate.apply, hcut]
      cases hrow : (stores.table scope).lookup id with
      | none =>
          refine ⟨hscoped, ?_⟩
          have hsame : stores.setTable (stores.table scope) scope = stores := by
            cases scope <;> rfl
          rw [← keyOf_setTable hscoped hname hscope, hsame]
          refine (Function.update_eq_self_iff.mpr ?_).symm
          rw [rowKey, hrow]
          rfl
      | some row =>
          exact ⟨hscoped.insert hname hscope _,
            keyOf_setTable hscoped hname hscope (rowKey_insert _ _)⟩
  | some enc =>
      have hvalue' : openKey key enc = value := hvalue
      have happly : stores' = (AiUpdate.store scope id enc false false "").apply now stores := by
        cases hs
        rfl
      subst happly
      rw [AiUpdate.apply, hcut, if_pos htakes]
      refine ⟨hscoped.insert hname hscope _, keyOf_setTable hscoped hname hscope ?_⟩
      rw [rowKey_insert]
      dsimp only
      rw [hsealed enc rfl, Option.some_or, Option.bind_some, hvalue']

end Updates

end Pretzel.Mgmtd
