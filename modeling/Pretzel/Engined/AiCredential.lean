import Pretzel.Engined.ApiCredentialService

/-!
The keys of the assistant's vendors and of its guardrail
(`storeAiCredential` of `engined/service/apicredential/ApiCredentialService.cpp`).

* `AiCredentialRow`, `AiStores`: the rows, and the two tables.
* `AiUpdate`, `readAiUpdate`: an update, and its reads. A removal makes fewer of
  them.
* `storeAiCredential`: the handler. A JSON type error leaves it.
* `AiReads`: the members an update is read for. `returns_storeAiCredential`: the
  handler returns exactly where they are of their types.
-/

namespace Pretzel.Engined

open Nlohmann Ipc Config

/-! ### The tables -/

/-- A row of `ai_provider_credential_state` or of `ai_guardrail_credential_state`. -/
structure AiCredentialRow where
  keyEnc : Option String := none
  lastTestAt : Option ℤ := none
  lastTestOk : Option Bool := none
  lastTestNote : Option String := none
  updatedAt : ℤ
deriving DecidableEq

/-- One of the two tables, by its primary key. -/
abbrev AiTable := AList fun _ : String => AiCredentialRow

/-- Which of the two tables. -/
inductive AiScope where
  | provider
  | guardrail
deriving DecidableEq

/-- `scope`, as an update names it. -/
def AiScope.ofName (name : String) : Option AiScope :=
  if name = "provider" then some .provider
  else if name = "guardrail" then some .guardrail
  else none

/-- The ids a table takes: the guardrail's has a `CHECK`. -/
def AiScope.takes : AiScope → String → Bool
  | .provider, _ => true
  | .guardrail, id => id = "airs" || id = "portkey"

/-- The two tables. -/
structure AiStores where
  providers : AiTable := ∅
  guardrails : AiTable := ∅

/-- The table of a scope. -/
def AiStores.table (t : AiStores) : AiScope → AiTable
  | .provider => t.providers
  | .guardrail => t.guardrails

/-- The table of a scope, replaced. -/
def AiStores.setTable (t : AiStores) (table : AiTable) : AiScope → AiStores
  | .provider => { t with providers := table }
  | .guardrail => { t with guardrails := table }

/-! ### An update -/

/-- What an update asks for. -/
inductive AiUpdate where
  | clear (scope : AiScope) (id : String)
  | store (scope : AiScope) (id keyEnc : String) (hasTest ok : Bool) (note : String)

/-- The reads of `storeAiCredential`, none where the update is dropped. -/
def readAiUpdate (root : Json) : Except JsonError (Option AiUpdate) := do
  let id ← root.valueString "id" ""
  if id = "" then return none
  else
    let scope ← root.valueString "scope" "provider"
    match AiScope.ofName scope with
    | none => return none
    | some scope =>
        let clear ← root.valueBool "clear" false
        if clear then return some (.clear scope id)
        else
          let keyEnc ← root.valueString "key_enc" ""
          let hasTest := root.contains "ok"
          let ok ← root.valueBool "ok" false
          let note ← root.valueString "note" ""
          return some (.store scope id keyEnc hasTest ok note)

/-- The statement of an update that is carried out. -/
def AiUpdate.apply (now : ℤ) (t : AiStores) : AiUpdate → AiStores
  | .clear scope id =>
      match (t.table scope).lookup (cStr id) with
      | none => t
      | some _ => t.setTable ((t.table scope).insert (cStr id) { updatedAt := now }) scope
  | .store scope id keyEnc hasTest ok note =>
      if scope.takes (cStr id) then
        let stored := ((t.table scope).lookup (cStr id)).getD { updatedAt := now }
        let row : AiCredentialRow :=
          { keyEnc := (nullIf keyEnc).or stored.keyEnc
            lastTestAt := if hasTest then some now else stored.lastTestAt
            lastTestOk := if hasTest then some ok else stored.lastTestOk
            lastTestNote := if hasTest then some (cStr note) else stored.lastTestNote
            updatedAt := now }
        t.setTable ((t.table scope).insert (cStr id) row) scope
      else t

/-- `ApiCredentialService::storeAiCredential`, of a statement that is carried out or
not. -/
def storeAiCredential (now : ℤ) (wrote : Bool) (payload : Payload) (t : AiStores) :
    Except JsonError AiStores :=
  match payload with
  | .empty | .malformed => .ok t
  | .json root => do
      match ← readAiUpdate root with
      | none => return t
      | some u => return if wrote then u.apply now t else t

/-! ### Its reads -/

/-- The members an update is read for, up to where it is dropped or clears. -/
def AiReads (root : Json) : Prop :=
  root.isObject = true ∧ root.stringOrAbsent "id" = true ∧
    (root.textOr "id" "" ≠ "" → root.stringOrAbsent "scope" = true ∧
      ((AiScope.ofName (root.textOr "scope" "provider")).isSome = true →
        root.boolOrAbsent "clear" = true ∧
        (root.boolOr "clear" false = false → root.stringOrAbsent "key_enc" = true ∧
          root.boolOrAbsent "ok" = true ∧ root.stringOrAbsent "note" = true)))

lemma returns_readAiUpdate (root : Json) : Returns (readAiUpdate root) ↔ AiReads root := by
  rw [readAiUpdate, AiReads, Json.returns_string]
  refine and_congr_right fun hobj => and_congr_right fun _ => ?_
  split
  · next hempty => simp [hempty]
  · next hid =>
      rw [Json.returns_text hobj]
      simp only [ne_eq, hid, not_false_eq_true, true_imp_iff]
      refine and_congr_right fun _ => ?_
      cases AiScope.ofName (root.textOr "scope" "provider") with
      | none => simp
      | some scope =>
          simp only [Option.isSome_some, true_imp_iff]
          rw [Json.returns_bool]
          simp only [hobj, true_and]
          refine and_congr_right fun _ => ?_
          cases root.boolOr "clear" false with
          | true => simp
          | false =>
              simp only [Bool.false_eq_true, if_false, true_imp_iff]
              rw [Json.returns_text hobj, Json.returns_bool, Json.returns_text hobj]
              simp [hobj]

/-- **An update of the assistant's keys returns exactly where its reads do.** -/
lemma returns_storeAiCredential (now : ℤ) (wrote : Bool) (payload : Payload) (t : AiStores) :
    Returns (storeAiCredential now wrote payload t) ↔
      ∀ root, payload = .json root → AiReads root := by
  cases payload with
  | json root =>
      rw [storeAiCredential, returns_bind_iff, returns_readAiUpdate, and_true]
      · simp
      · rintro (_ | u) _
        · exact iff_of_true (returns_pure _) trivial
        · exact iff_of_true (returns_pure _) trivial
  | empty => simp [storeAiCredential]
  | malformed => simp [storeAiCredential]

end Pretzel.Engined
