import Pretzel.Collectord.KeyState
import Pretzel.Engined.ApiCredentialService

/-!
The secrets engined holds, and what its answer with them leaves in collectord's cache.

* `Held`: the columns of both tables under one oid. `Held.key`, `Held.account`: the key and
  the account they open to; a key of a device stands behind one that was issued.
* `shows`: what a cache of them is to show. `shown_keysDocument`: **a cache filled with
  engined's answer shows it.**
* `ToEngined`, `ToEngined.act`: what is sent to engined, and what it does to the columns.
  `held_storeState`, `held_storeSaseApiKey`: so do the handlers.
-/

namespace Pretzel.Fleet

open Nlohmann Texts Util Config Collectord Engined

/-! ### The columns of an oid -/

/-- The columns of `api_credential_state` and of `sase_device` under one oid. -/
structure Held where
  idEnc : Option String
  pwEnc : Option String
  keyEnc : Option String
  apiKeyEnc : Option String
deriving DecidableEq

namespace Held

variable (H : Host) (h : Held)

/-- The key: the one issued, else that of the device. -/
def key : Option Bytes :=
  (h.keyEnc.bind (decrypt H.key)).or (h.apiKeyEnc.bind (decrypt H.key))

/-- The account. -/
def account : Option IssuedCredential := do
  let id ← h.idEnc.bind (decrypt H.key)
  let pw ← h.pwEnc.bind (decrypt H.key)
  return ⟨id, pw⟩

/-- What arrives replaces what is stored. -/
def store (id pw key : Option String) : Held :=
  { h with idEnc := id.or h.idEnc, pwEnc := pw.or h.pwEnc, keyEnc := key.or h.keyEnc }

/-- A key of a device is stored. -/
def storeApiKey (key : String) : Held := { h with apiKeyEnc := some key }

end Held

/-- What the tables hold. -/
def held (credentials : CredentialTable) (devices : SaseTable) (oid : String) : Held :=
  let r := (credentials.lookup oid).getD {}
  { idEnc := r.idEnc, pwEnc := r.pwEnc, keyEnc := r.keyEnc, apiKeyEnc := devices.keyOf oid }

/-- What a cache shows under each oid. -/
abbrev Shown := String → Bytes × Option IssuedCredential

/-- `issuedKey` and `credentialFor`. -/
def shown (c : KeyCache) : Shown := fun oid => (c.issuedKey oid, c.credentialFor oid)

/-- What is to be shown of the columns. A row without an oid is not sent. -/
def shows (H : Host) (h : String → Held) : Shown := fun oid =>
  if oid = "" then ([], none) else (((h oid).key H).getD [], (h oid).account H)

/-! ### The answer -/

section Answer

variable {H : Host}

/-- An empty text is no blob. -/
lemma decrypt_empty : decrypt H.key "" = none := by
  rw [decrypt]
  cases H.key with
  | none => rfl
  | some gcm => rfl

lemma opened_getD (sealed : Option String) :
    opened H (sealed.getD "") = sealed.bind (decrypt H.key) := by
  cases sealed with
  | none => rfl
  | some text =>
      rw [Option.getD_some, Option.bind_some, opened]
      split
      · next hnone => rw [hnone, decrypt_empty]
      · rfl

lemma findSome?_filterMap {α β γ : Type} (f : α → Option β) (g : β → Option γ) (l : List α) :
    (l.filterMap f).findSome? g = l.findSome? fun a => (f a).bind g := by
  induction l with
  | nil => rfl
  | cons a l ih =>
      rw [List.findSome?_cons]
      cases hf : f a with
      | none =>
          rw [List.filterMap_cons_none hf]
          exact ih
      | some b =>
          rw [List.filterMap_cons_some hf, List.findSome?_cons, ih]
          rfl

/-- What the first row of a key has, in a table with one row of each. -/
lemma findSome?_of_nodup {α γ : Type} (k : α → String) {l : List α} (h : (l.map k).Nodup)
    (oid : String) (g : α → Option γ) :
    (l.findSome? fun a => if oid = k a then g a else none) = (l.find? fun a => k a = oid).bind g := by
  induction l with
  | nil => rfl
  | cons a l ih =>
      rw [List.map_cons, List.nodup_cons] at h
      rw [List.findSome?_cons, ih h.2]
      by_cases hk : oid = k a
      · subst hk
        have hnone : (l.find? fun b => k b = k a) = none := by
          refine List.find?_eq_none.mpr fun b hb hkb => h.1 ?_
          rw [← of_decide_eq_true hkb]
          exact List.mem_map_of_mem hb
        rw [if_pos rfl, hnone, List.find?_cons, decide_eq_true rfl, Option.bind_some]
        cases g a <;> rfl
      · rw [if_neg hk, List.find?_cons_of_neg (by simpa using Ne.symm hk)]

/-- The entry of a row of `api_credential_state`. -/
def rowEntry (e : Sigma fun _ : String => CredentialRow) : Option KeyEntry :=
  if e.2.isSent && e.1 ≠ "" then
    some { oid := e.1, keyEnc := e.2.keyEnc.getD "", idEnc := e.2.idEnc.getD ""
           pwEnc := e.2.pwEnc.getD "" }
  else none

/-- The entry of a row of `sase_device`. -/
def deviceEntry (r : SaseRow) : Option KeyEntry :=
  match r.apiKeyEnc with
  | none => none
  | some keyEnc => if r.oid = "" ∨ keyEnc = "" then none else some { oid := r.oid, keyEnc }

lemma cacheKey_credentialEntry (sql : SqlTime) {oid : String} (hoid : oid ≠ "") (r : CredentialRow)
    (c : KeyCache) : cacheKey H c (credentialEntry sql oid r) = .ok (c.caches H
      { oid, keyEnc := r.keyEnc.getD "", idEnc := r.idEnc.getD "", pwEnc := r.pwEnc.getD "" }) := by
  show (if oid = "" then _ else _) = _
  rw [if_neg hoid]
  rfl

lemma cacheKey_saseEntry {oid : String} (hoid : oid ≠ "") (keyEnc : String) (c : KeyCache) :
    cacheKey H c (saseEntry oid keyEnc) = .ok (c.caches H { oid, keyEnc }) := by
  show (if oid = "" then _ else _) = _
  rw [if_neg hoid]
  rfl

/-- A row by its oid, in the list of the rows. -/
lemma lookup_eq_find? (cr : CredentialTable) (oid : String) :
    cr.lookup oid = (cr.entries.find? fun e => e.1 = oid).map Sigma.snd := by
  rw [AList.lookup]
  induction cr.entries with
  | nil => rfl
  | cons e es ih =>
      obtain ⟨other, row⟩ := e
      rw [List.find?_cons]
      by_cases hoid : other = oid
      · subst hoid
        rw [List.dlookup_cons_eq, decide_eq_true rfl]
        rfl
      · rw [List.dlookup_cons_ne _ _ (Ne.symm hoid), decide_eq_false hoid]
        exact ih

/-- What the entries of `api_credential_state` have under an oid. -/
lemma findSome?_rowEntry {γ : Type} (cr : CredentialTable) {oid : String} (hoid : oid ≠ "")
    (g : KeyEntry → Option γ) :
    ((cr.entries.filterMap rowEntry).findSome? fun e => if oid = e.oid then g e else none)
      = (cr.lookup oid).bind fun r => (rowEntry ⟨oid, r⟩).bind g := by
  have hrow : (fun e => (rowEntry e).bind fun b => if oid = b.oid then g b else none)
      = fun e => if oid = e.1 then (rowEntry e).bind g else none := by
    funext e
    rw [rowEntry]
    split
    · rfl
    · exact (ite_self _).symm
  rw [findSome?_filterMap, hrow, findSome?_of_nodup Sigma.fst cr.nodupKeys, lookup_eq_find?]
  cases hfind : cr.entries.find? fun e => e.1 = oid with
  | none => rfl
  | some e =>
      have heq : e.1 = oid := by simpa using List.find?_some hfind
      subst heq
      rfl

/-- What those of `sase_device` have. -/
lemma findSome?_deviceEntry {γ : Type} (dv : SaseTable) (oid : String) (g : KeyEntry → Option γ) :
    ((dv.rows.filterMap deviceEntry).findSome? fun e => if oid = e.oid then g e else none)
      = (dv.row? oid).bind fun r => (deviceEntry r).bind g := by
  have hrow : (fun r => (deviceEntry r).bind fun b => if oid = b.oid then g b else none)
      = fun r => if oid = r.oid then (deviceEntry r).bind g else none := by
    funext r
    rw [deviceEntry]
    split
    · exact (ite_self _).symm
    · split
      · exact (ite_self _).symm
      · rfl
  rw [findSome?_filterMap, hrow, findSome?_of_nodup SaseRow.oid dv.keys]
  rfl

/-- An entry of no oid is none. -/
lemma findSome?_unnamed {γ : Type} {es : List KeyEntry} (h : ∀ e ∈ es, e.oid ≠ "")
    (g : KeyEntry → Option γ) :
    (es.findSome? fun e => if "" = e.oid then g e else none) = none :=
  List.findSome?_eq_none_iff.mpr fun e he => if_neg fun hoid => h e he hoid.symm

lemma oid_rowEntry {e : Sigma fun _ : String => CredentialRow} {b : KeyEntry}
    (h : rowEntry e = some b) : b.oid ≠ "" := by
  rw [rowEntry] at h
  split at h
  · next hsent =>
      cases h
      exact of_decide_eq_true (Bool.and_eq_true_iff.mp hsent).2
  · cases h

lemma oid_deviceEntry {r : SaseRow} {b : KeyEntry} (h : deviceEntry r = some b) : b.oid ≠ "" := by
  rw [deviceEntry] at h
  split at h
  · cases h
  · split at h
    · cases h
    · next hnot =>
        cases h
        exact fun hoid => hnot (.inl hoid)

/-- The secrets a row opens to are those of its entry. -/
lemma rowEntry_opens {oid : String} (hoid : oid ≠ "") (r : CredentialRow) :
    ((rowEntry ⟨oid, r⟩).bind fun e => opened H e.keyEnc) = r.keyEnc.bind (decrypt H.key) ∧
      ((rowEntry ⟨oid, r⟩).bind fun e => openedAccount H e.idEnc e.pwEnc) = (do
        let id ← r.idEnc.bind (decrypt H.key)
        let pw ← r.pwEnc.bind (decrypt H.key)
        return ⟨id, pw⟩) := by
  rw [rowEntry]
  by_cases hsent : r.isSent = true
  · rw [if_pos (Bool.and_eq_true_iff.mpr ⟨hsent, decide_eq_true hoid⟩), Option.bind_some,
      Option.bind_some, openedAccount, opened_getD, opened_getD, opened_getD]
    exact ⟨rfl, rfl⟩
  · rw [if_neg fun h => hsent (Bool.and_eq_true_iff.mp h).1]
    -- a row that is not sent has no key, and not both halves of an account
    rw [CredentialRow.isSent] at hsent
    obtain ⟨idEnc, pwEnc, keyEnc, issuedAt, expiresAt, testAt, testOk, note⟩ := r
    cases keyEnc with
    | some keyEnc => exact absurd rfl hsent
    | none =>
        cases idEnc with
        | none => exact ⟨rfl, rfl⟩
        | some idEnc =>
            cases pwEnc with
            | some pwEnc => exact absurd rfl hsent
            | none =>
                refine ⟨rfl, ?_⟩
                cases (some idEnc).bind (decrypt H.key) <;> rfl

lemma deviceEntry_opens {r : SaseRow} (hoid : r.oid ≠ "") :
    ((deviceEntry r).bind fun e => opened H e.keyEnc) = r.apiKeyEnc.bind (decrypt H.key) ∧
      ((deviceEntry r).bind fun e => openedAccount H e.idEnc e.pwEnc) = none := by
  rw [deviceEntry]
  cases r.apiKeyEnc with
  | none => exact ⟨rfl, rfl⟩
  | some keyEnc =>
      dsimp only
      split
      · next hnone =>
          obtain rfl := hnone.resolve_left hoid
          exact ⟨decrypt_empty.symm, rfl⟩
      · next hnot =>
          refine ⟨?_, rfl⟩
          rw [Option.bind_some, Option.bind_some, opened, if_neg fun h => hnot (.inr h)]

/-- **A cache filled with engined's answer shows what the tables hold.** -/
theorem shown_keysDocument (sql : SqlTime) (cr : CredentialTable) (dv : SaseTable) (c : KeyCache) :
    ∃ c', cacheKeys H (keysDocument sql (true, true) cr dv) c = .ok c' ∧
      shown c' = shows H (held cr dv) := by
  have hrows : (credentialEntries sql cr).foldlM (cacheKey H) {}
      = .ok ((cr.entries.filterMap rowEntry).foldl (KeyCache.caches H) {}) := by
    refine foldlM_cacheKey (fun e _ => ?_) {}
    rw [rowEntry]
    split
    · next hsent =>
        have hoid : e.1 ≠ "" := of_decide_eq_true (Bool.and_eq_true_iff.mp hsent).2
        exact .inr ⟨_, _, rfl, rfl, cacheKey_credentialEntry sql hoid e.2⟩
    · exact .inl ⟨rfl, rfl⟩
  have hdevices (c : KeyCache) : (saseEntries dv).foldlM (cacheKey H) c
      = .ok ((dv.rows.filterMap deviceEntry).foldl (KeyCache.caches H) c) := by
    refine foldlM_cacheKey (fun r _ => ?_) c
    rw [deviceEntry]
    cases r.apiKeyEnc with
    | none => exact .inl ⟨rfl, rfl⟩
    | some keyEnc =>
        dsimp only
        split
        · exact .inl ⟨rfl, rfl⟩
        · next hnot =>
            exact .inr ⟨_, _, rfl, rfl, cacheKey_saseEntry (fun hoid => hnot (.inl hoid)) _⟩
  refine ⟨(cr.entries.filterMap rowEntry ++ dv.rows.filterMap deviceEntry).foldl
    (KeyCache.caches H) {}, ?_, ?_⟩
  · show (credentialEntries sql cr ++ saseEntries dv).foldlM (cacheKey H) {} = _
    rw [List.foldlM_append, hrows, List.foldl_append]
    exact hdevices _
  · funext oid
    obtain ⟨hkeys, hcreds⟩ := @lookup_caches H {} oid
      (cr.entries.filterMap rowEntry ++ dv.rows.filterMap deviceEntry)
    rw [AList.lookup_empty, Option.none_or] at hkeys hcreds
    rw [shown, KeyCache.issuedKey, KeyCache.credentialFor, hkeys, hcreds, shows]
    split
    · next hoid =>
        subst hoid
        have hnamed : ∀ e ∈ cr.entries.filterMap rowEntry ++ dv.rows.filterMap deviceEntry,
            e.oid ≠ "" := by
          intro e he
          rcases List.mem_append.mp he with he | he
          · obtain ⟨row, -, hrow⟩ := List.mem_filterMap.mp he
            exact oid_rowEntry hrow
          · obtain ⟨row, -, hrow⟩ := List.mem_filterMap.mp he
            exact oid_deviceEntry hrow
        rw [findSome?_unnamed hnamed, findSome?_unnamed hnamed]
        rfl
    · next hoid =>
        rw [List.findSome?_append, List.findSome?_append, findSome?_rowEntry cr hoid,
          findSome?_rowEntry cr hoid, findSome?_deviceEntry, findSome?_deviceEntry]
        have hrow : ((cr.lookup oid).bind fun r => (rowEntry ⟨oid, r⟩).bind fun e =>
            opened H e.keyEnc) = ((cr.lookup oid).getD {}).keyEnc.bind (decrypt H.key) ∧
            ((cr.lookup oid).bind fun r => (rowEntry ⟨oid, r⟩).bind fun e =>
              openedAccount H e.idEnc e.pwEnc) = (held cr dv oid).account H := by
          rw [Held.account, held]
          cases cr.lookup oid with
          | none => exact ⟨rfl, rfl⟩
          | some r => exact rowEntry_opens hoid r
        have hdevice : ((dv.row? oid).bind fun r => (deviceEntry r).bind fun e =>
            opened H e.keyEnc) = (dv.keyOf oid).bind (decrypt H.key) ∧
            ((dv.row? oid).bind fun r => (deviceEntry r).bind fun e =>
              openedAccount H e.idEnc e.pwEnc) = none := by
          rw [SaseTable.keyOf]
          cases hfind : dv.row? oid with
          | none => exact ⟨rfl, rfl⟩
          | some r =>
              obtain ⟨-, rfl⟩ := Engined.row?_eq_some.mp hfind
              exact deviceEntry_opens hoid
        rw [hrow.1, hrow.2, hdevice.1, hdevice.2, Option.or_none, Held.key, held]

end Answer

/-! ### The updates -/

/-- What collectord sends to engined: the request for the keys, and the updates. -/
inductive ToEngined where
  | request
  | credentialState (state : Json)
  | saseApiKey (state : Json)
deriving DecidableEq

/-- What a message does to the columns. -/
def ToEngined.act (h : String → Held) : ToEngined → String → Held
  | .request => h
  | .credentialState state =>
      match readState state with
      | .ok (some u) => Function.update h (cStr u.oid)
          ((h (cStr u.oid)).store (nullIf u.idEnc) (nullIf u.pwEnc) (nullIf u.secretEnc))
      | _ => h
  | .saseApiKey state =>
      match saseKeyUpdate (.json state) with
      | .ok (some (oid, keyEnc)) => Function.update h oid ((h oid).storeApiKey keyEnc)
      | _ => h

/-- It is the request. -/
def ToEngined.asks : ToEngined → Bool
  | .request => true
  | .credentialState _ | .saseApiKey _ => false

section Updates

variable {sql : SqlTime} {now : ℤ} {state : Json} {cr cr' : CredentialTable} {dv dv' : SaseTable}

/-- The columns of an update that is carried out. -/
lemma held_apply {u : StateUpdate} {row : CredentialRow} (h : u.excluded sql now = some row) :
    held (u.apply sql now true cr) dv = Function.update (held cr dv) (cStr u.oid)
      ((held cr dv (cStr u.oid)).store (nullIf u.idEnc) (nullIf u.pwEnc) (nullIf u.secretEnc)) := by
  have hrow : row.idEnc = nullIf u.idEnc ∧ row.pwEnc = nullIf u.pwEnc ∧
      row.keyEnc = nullIf u.secretEnc := by
    rw [StateUpdate.excluded] at h
    obtain ⟨expires, -, hrow⟩ := Option.bind_eq_some_iff.mp h
    cases hrow
    exact ⟨rfl, rfl, rfl⟩
  funext oid
  rw [held, lookup_apply h]
  by_cases hoid : oid = cStr u.oid
  · subst hoid
    rw [if_pos rfl, Function.update_self, ← hrow.1, ← hrow.2.1, ← hrow.2.2]
    rfl
  · rw [if_neg hoid, Function.update_of_ne hoid]
    rfl

/-- **An update of an account or a key**, each of whose times is one. -/
lemma held_storeState (dv : SaseTable) (hs : storeState sql now true (.json state) cr = .ok cr')
    (hwrote : ∀ u, readState state = .ok (some u) → (u.excluded sql now).isSome = true) :
    held cr' dv = ToEngined.act (held cr dv) (.credentialState state) := by
  rw [storeState] at hs
  obtain ⟨read, hread, hs⟩ := except_bind_eq_ok.mp hs
  rw [ToEngined.act, hread]
  cases read with
  | none =>
      cases hs
      rfl
  | some u =>
      cases hs
      obtain ⟨row, hrow⟩ := Option.isSome_iff_exists.mp (hwrote u hread)
      exact held_apply hrow

/-- **An update of the key of a device.** -/
lemma held_storeSaseApiKey (cr : CredentialTable)
    (hs : storeSaseApiKey true (.json state) dv = .ok dv') :
    held cr dv' = ToEngined.act (held cr dv) (.saseApiKey state) := by
  rw [storeSaseApiKey] at hs
  obtain ⟨read, hread, hs⟩ := except_bind_eq_ok.mp hs
  rw [ToEngined.act, hread]
  cases read with
  | none =>
      cases hs
      rfl
  | some update =>
      obtain ⟨oid, keyEnc⟩ := update
      cases hs
      funext other
      rw [if_pos rfl]
      dsimp only
      by_cases hoid : other = oid
      · subst hoid
        rw [Function.update_self, held, keyOf_storeKey, if_pos rfl]
        rfl
      · rw [Function.update_of_ne hoid, held, keyOf_storeKey, if_neg hoid]
        rfl

/-- What is to be shown, after the columns of one oid have changed. -/
lemma shows_update (H : Host) (h : String → Held) (oid : String) (c : Held) :
    shows H (Function.update h oid c) = Function.update (shows H h) oid
      (if oid = "" then ([], none) else ((c.key H).getD [], c.account H)) := by
  funext other
  by_cases hoid : other = oid
  · subst hoid
    rw [Function.update_self, shows, Function.update_self]
  · rw [Function.update_of_ne hoid, shows, Function.update_of_ne hoid]
    rfl

end Updates

end Pretzel.Fleet
