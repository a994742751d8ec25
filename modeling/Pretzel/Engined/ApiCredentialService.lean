import Mathlib.Data.List.AList
import Pretzel.Engined.SaseKeys

/-!
`api_credential_state` (`engined/service/apicredential/ApiCredentialService.cpp`):
the sealed accounts and keys, and what is sent of them.

* `CredentialRow`, `CredentialTable`: the table.
* `SqlTime`: how the database reads and writes a time.
* `stateOf`, `storeState`: an update, whose null columns leave what is stored.
* `keysDocument`: the answer of `sendState`, which carries the keys of
  `sase_device` behind.
* `lookup_apply`: a row after an update.
-/

namespace Pretzel.Engined

open Nlohmann Ipc Config

/-! ### The table -/

/-- A row of `api_credential_state`. -/
structure CredentialRow where
  idEnc : Option String := none
  pwEnc : Option String := none
  keyEnc : Option String := none
  issuedAt : Option ℤ := none
  expiresAt : Option ℤ := none
  lastTestAt : Option ℤ := none
  lastTestOk : Option Bool := none
  lastTestNote : Option String := none
deriving DecidableEq

/-- `COALESCE(EXCLUDED.…, api_credential_state.…)`, of each column. -/
def CredentialRow.coalesce (excluded stored : CredentialRow) : CredentialRow :=
  { idEnc := excluded.idEnc.or stored.idEnc
    pwEnc := excluded.pwEnc.or stored.pwEnc
    keyEnc := excluded.keyEnc.or stored.keyEnc
    issuedAt := excluded.issuedAt.or stored.issuedAt
    expiresAt := excluded.expiresAt.or stored.expiresAt
    lastTestAt := excluded.lastTestAt.or stored.lastTestAt
    lastTestOk := excluded.lastTestOk.or stored.lastTestOk
    lastTestNote := excluded.lastTestNote.or stored.lastTestNote }

/-- `api_credential_state`, by its primary key. -/
abbrev CredentialTable := AList fun _ : String => CredentialRow

/-- `INSERT INTO api_credential_state … ON CONFLICT (oid) DO UPDATE`. -/
def CredentialTable.upsert (t : CredentialTable) (oid : String) (excluded : CredentialRow) :
    CredentialTable :=
  t.insert oid (excluded.coalesce ((t.lookup oid).getD {}))

/-- Times as the database reads and writes them. -/
structure SqlTime where
  timestamptz : String → Option ℤ
  toChar : ℤ → String

/-- `NULLIF($n, '')`. -/
def nullIf (param : String) : Option String := if cStr param = "" then none else some (cStr param)

/-! ### An update -/

/-- The fields of an update. -/
structure StateUpdate where
  oid : String
  idEnc : String
  pwEnc : String
  secretEnc : String
  expiresAt : String
  hasTest : Bool
  ok : Bool
  note : String

/-- The reads of `storeState`, none without an oid. -/
def readState (root : Json) : Except JsonError (Option StateUpdate) := do
  let oid ← root.valueString "oid" ""
  if oid = "" then return none
  else
    let idEnc ← root.valueString "id_enc" ""
    let pwEnc ← root.valueString "pw_enc" ""
    let secretEnc ← root.valueString "key_enc" ""
    let expiresAt ← root.valueString "expires_at" ""
    let hasTest := root.contains "ok"
    let ok ← root.valueBool "ok" false
    let note ← root.valueString "note" ""
    return some { oid, idEnc, pwEnc, secretEnc, expiresAt, hasTest, ok, note }

/-- `NULLIF($n, '')::timestamptz`, none where the cast fails. -/
def SqlTime.timeOf (sql : SqlTime) (param : String) : Option (Option ℤ) :=
  match nullIf param with
  | none => some none
  | some text => (sql.timestamptz text).map some

/-- The row an update would insert, none where the cast of its expiry fails. -/
def StateUpdate.excluded (sql : SqlTime) (now : ℤ) (u : StateUpdate) : Option CredentialRow := do
  let expiresAt ← sql.timeOf u.expiresAt
  return { idEnc := nullIf u.idEnc, pwEnc := nullIf u.pwEnc, keyEnc := nullIf u.secretEnc
           issuedAt := (nullIf u.secretEnc).map fun _ => now
           expiresAt
           lastTestAt := if u.hasTest then some now else none
           lastTestOk := if u.hasTest then some u.ok else none
           lastTestNote := if u.hasTest then some (cStr u.note) else none }

/-- The statement of an update, carried out or not. -/
def StateUpdate.apply (sql : SqlTime) (now : ℤ) (wrote : Bool) (u : StateUpdate) (t : CredentialTable) :
    CredentialTable :=
  match u.excluded sql now with
  | none => t
  | some row => if wrote then t.upsert (cStr u.oid) row else t

/-- `ApiCredentialService::storeState`. -/
def storeState (sql : SqlTime) (now : ℤ) (wrote : Bool) (payload : Payload) (t : CredentialTable) :
    Except JsonError CredentialTable :=
  match payload with
  | .empty | .malformed => .ok t
  | .json root => do
      match ← readState root with
      | none => return t
      | some u => return u.apply sql now wrote t

/-! ### What is sent -/

/-- A row worth sending. -/
def CredentialRow.isSent (r : CredentialRow) : Bool :=
  r.keyEnc.isSome || (r.idEnc.isSome && r.pwEnc.isSome)

/-- A row of `api_credential_state` as it is sent. -/
def credentialEntry (sql : SqlTime) (oid : String) (r : CredentialRow) : Json :=
  .obj [("expires_at", .str ((r.expiresAt.map sql.toChar).getD "")),
    ("id_enc", .str (r.idEnc.getD "")), ("key_enc", .str (r.keyEnc.getD "")), ("oid", .str oid),
    ("pw_enc", .str (r.pwEnc.getD ""))]

/-- A row of `sase_device` as it is sent. -/
def saseEntry (oid keyEnc : String) : Json := .obj [("key_enc", .str keyEnc), ("oid", .str oid)]

/-- The rows of `api_credential_state` in an answer. -/
def credentialEntries (sql : SqlTime) (t : CredentialTable) : List Json :=
  t.entries.filterMap fun e =>
    if e.2.isSent && e.1 ≠ "" then some (credentialEntry sql e.1 e.2) else none

/-- The rows of `sase_device` in an answer. -/
def saseEntries (t : SaseTable) : List Json :=
  t.rows.filterMap fun r =>
    match r.apiKeyEnc with
    | none => none
    | some keyEnc => if r.oid = "" ∨ keyEnc = "" then none else some (saseEntry r.oid keyEnc)

/-- The document of `sendState`. A query that fails gives no rows. -/
def keysDocument (sql : SqlTime) (queried : Bool × Bool) (credentials : CredentialTable)
    (devices : SaseTable) : Json :=
  .obj [("keys", .arr ((if queried.1 then credentialEntries sql credentials else []) ++
    (if queried.2 then saseEntries devices else [])))]

/-! ### A row after an update -/

section Update

variable {sql : SqlTime} {now : ℤ} {t : CredentialTable} {u : StateUpdate} {oid : String}

lemma lookup_upsert (row : CredentialRow) (other : String) :
    (t.upsert other row).lookup oid =
      if oid = other then some (row.coalesce ((t.lookup oid).getD {})) else t.lookup oid := by
  rw [CredentialTable.upsert]
  split
  · next heq =>
      subst heq
      exact AList.lookup_insert _
  · next hne => exact AList.lookup_insert_ne hne

/-- **A row after an update that is carried out.** -/
lemma lookup_apply {row : CredentialRow} (h : u.excluded sql now = some row) :
    (u.apply sql now true t).lookup oid =
      if oid = cStr u.oid then some (row.coalesce ((t.lookup oid).getD {})) else t.lookup oid := by
  rw [StateUpdate.apply, h]
  exact lookup_upsert row (cStr u.oid)

/-- An update whose expiry is no time writes nothing. -/
lemma apply_of_timeOf {wrote : Bool} (h : sql.timeOf u.expiresAt = none) :
    u.apply sql now wrote t = t := by
  have hexcluded : u.excluded sql now = none := by
    rw [StateUpdate.excluded, h]
    rfl
  rw [StateUpdate.apply, hexcluded]

/-- A row no update names. -/
lemma lookup_apply_of_ne {wrote : Bool} (h : oid ≠ cStr u.oid) :
    (u.apply sql now wrote t).lookup oid = t.lookup oid := by
  rw [StateUpdate.apply]
  split
  · rfl
  · split
    · rw [lookup_upsert, if_neg h]
    · rfl

end Update

end Pretzel.Engined
