import Mathlib.Tactic
import Pretzel.Engined.ApiCredentialService
import Pretzel.Library.Machine

/-!
Whether the columns of a stored credential describe one issuance.

* `Delivery`, `credentialUpdates`: the messages handed to `storeState`, in any number, with
  the updates of one credential they carry.
* `OneIssuance`: a row whose key, issue time and expiry are those of the last
  update with a key, and whose sealed columns are the last values supplied.
* `Meets`: the updates that keep this. A statement that is carried out must date
  the key it leaves, and one that is not must add nothing.
* `oneIssuance_written_iff`: one update keeps it exactly when it meets the condition.
* `one_issuance_iff`: the same of every run.
* `key_keeps_old_expiry`: a new key that keeps the expiry of the one before.
-/

namespace Pretzel.Engined

open Nlohmann Ipc Config Reactive

/-! ### Updates of one credential -/

deriving instance DecidableEq for StateUpdate

/-- A message handed to `storeState`, with the time its statement runs at and
whether the database carries it out. -/
structure Delivery where
  payload : Payload
  now : ℤ
  wrote : Bool

/-- The update a message carries for a credential. -/
def stateUpdateOf (oid : String) : Payload → Option StateUpdate
  | .empty | .malformed => none
  | .json root =>
      match readState root with
      | .ok (some u) => if cStr u.oid = oid then some u else none
      | .ok none | .error _ => none

/-- The table, with the updates of one credential handled so far and their times. -/
structure CredentialHistory where
  table : CredentialTable
  handled : List (StateUpdate × ℤ)

/-- The row of the credential, empty where there is none. -/
def CredentialHistory.row (s : CredentialHistory) (oid : String) : CredentialRow :=
  (s.table.lookup oid).getD {}

/-- The service over any messages, from a table that has no row for the
credential. An exception leaves the table as it is. -/
def credentialUpdates (sql : SqlTime) (oid : String) : Machine CredentialHistory Delivery where
  init := fun s => s.table.lookup oid = none ∧ s.handled = []
  next := fun s d => some {
    table := match storeState sql d.now d.wrote d.payload s.table with
      | .ok table => table
      | .error _ => s.table
    handled := match stateUpdateOf oid d.payload with
      | some u => s.handled ++ [(u, d.now)]
      | none => s.handled }

/-- The row an update leaves. -/
def StateUpdate.written (sql : SqlTime) (now : ℤ) (wrote : Bool) (u : StateUpdate)
    (r : CredentialRow) : CredentialRow :=
  match u.excluded sql now with
  | none => r
  | some row => if wrote then row.coalesce r else r

/-! ### One issuance -/

/-- The last update that supplied a field, with its time. -/
def lastSupplying (field : StateUpdate → String) (handled : List (StateUpdate × ℤ)) :
    Option (StateUpdate × ℤ) :=
  (handled.filter fun e => field e.1 ≠ "").getLast?

/-- **The columns of a row describe one issuance**: a key comes with the issue
time and the expiry of the update that supplied it, the last one that supplied
any, and each sealed column is the last value supplied for it. -/
structure OneIssuance (sql : SqlTime) (handled : List (StateUpdate × ℤ)) (r : CredentialRow) :
    Prop where
  issued : ∀ key, r.keyEnc = some key → ∃ e, lastSupplying StateUpdate.secretEnc handled = some e ∧
    e.1.secretEnc = key ∧ r.issuedAt = some e.2 ∧ sql.timeOf e.1.expiresAt = some r.expiresAt
  idEnc : r.idEnc = (lastSupplying StateUpdate.idEnc handled).map fun e => e.1.idEnc
  pwEnc : r.pwEnc = (lastSupplying StateUpdate.pwEnc handled).map fun e => e.1.pwEnc
  keyEnc : r.keyEnc = (lastSupplying StateUpdate.secretEnc handled).map fun e => e.1.secretEnc

/-- The sealed values of an update end where the database reads them to. -/
def StateUpdate.Plain (u : StateUpdate) : Prop :=
  cStr u.idEnc = u.idEnc ∧ cStr u.pwEnc = u.pwEnc ∧ cStr u.secretEnc = u.secretEnc

/-- An update that dates the key it leaves in the row: a new key comes with an
expiry or finds none, and an expiry that comes without a key finds no key, or the
expiry that is there. -/
def StateUpdate.DatesItsKey (u : StateUpdate) (expiry : Option ℤ) (r : CredentialRow) : Prop :=
  if u.secretEnc = "" then r.keyEnc = none ∨ expiry = none ∨ expiry = r.expiresAt
  else expiry ≠ none ∨ r.expiresAt = none

/-- An update that has nothing to say that the row does not hold already. -/
def StateUpdate.AddsNothing (sql : SqlTime) (now : ℤ) (u : StateUpdate) (r : CredentialRow) :
    Prop :=
  (u.idEnc = "" ∨ r.idEnc = some u.idEnc) ∧ (u.pwEnc = "" ∨ r.pwEnc = some u.pwEnc) ∧
  (u.secretEnc = "" ∨ (r.keyEnc = some u.secretEnc ∧ r.issuedAt = some now ∧
    sql.timeOf u.expiresAt = some r.expiresAt))

/-- The condition on an update. -/
def StateUpdate.Meets (sql : SqlTime) (now : ℤ) (wrote : Bool) (u : StateUpdate)
    (r : CredentialRow) : Prop :=
  match sql.timeOf u.expiresAt, wrote with
  | some expiry, true => u.Plain ∧ u.DatesItsKey expiry r
  | _, _ => u.AddsNothing sql now r

/-! ### One column -/

/-- A column holds nothing behind a terminator. -/
def PlainColumn (c : Option String) : Prop := ∀ v, c = some v → cStr v = v

lemma cStr_cStr (text : String) : cStr (cStr text) = cStr text := by
  rw [cStr, cStr, String.toList_ofList, List.takeWhile_takeWhile]
  simp

lemma plainColumn_nullIf_or {old : Option String} (h : PlainColumn old) (v : String) :
    PlainColumn ((nullIf v).or old) := by
  intro w hw
  rw [nullIf] at hw
  split at hw
  · exact h w hw
  · cases hw
    exact cStr_cStr v

lemma lastSupplying_snoc (field : StateUpdate → String) (handled : List (StateUpdate × ℤ))
    (e : StateUpdate × ℤ) : lastSupplying field (handled ++ [e]) =
      if field e.1 = "" then lastSupplying field handled else some e := by
  rw [lastSupplying, List.filter_append]
  split
  · next hempty =>
      rw [List.filter_singleton]
      simp [hempty, lastSupplying]
  · next hsome =>
      rw [List.filter_singleton]
      simp [hsome]

/-- **A column after a statement that is carried out** is the last value supplied
exactly when the value is read whole. -/
lemma column_written_iff {old : Option String} (h : PlainColumn old) (v : String) :
    (nullIf v).or old = (if v = "" then old else some v) ↔ cStr v = v := by
  by_cases hv : v = ""
  · subst hv
    simp [nullIf, show cStr "" = "" by decide]
  rw [if_neg hv, nullIf]
  split
  · next hempty =>
      constructor
      · intro hold
        exact h v hold
      · intro hself
        rw [hempty] at hself
        exact absurd hself.symm hv
  · simp

/-- A column after a statement that is not. -/
lemma column_kept_iff (old : Option String) (v : String) :
    old = (if v = "" then old else some v) ↔ v = "" ∨ old = some v := by
  by_cases hv : v = "" <;> simp [hv]

/-! ### One update -/

section Update

variable {sql : SqlTime} {now : ℤ} {u : StateUpdate} {r : CredentialRow}
  {handled : List (StateUpdate × ℤ)}

/-- The columns of a row hold nothing behind a terminator. -/
def CredentialRow.Plain (r : CredentialRow) : Prop :=
  PlainColumn r.idEnc ∧ PlainColumn r.pwEnc ∧ PlainColumn r.keyEnc

/-- What an update comes to: its statement is carried out, or the row stays. -/
lemma StateUpdate.written_cases (sql : SqlTime) (now : ℤ) (wrote : Bool) (u : StateUpdate)
    (r : CredentialRow) :
    (∃ expiry, sql.timeOf u.expiresAt = some expiry ∧ wrote = true ∧
      (u.written sql now wrote r).idEnc = (nullIf u.idEnc).or r.idEnc ∧
      (u.written sql now wrote r).pwEnc = (nullIf u.pwEnc).or r.pwEnc ∧
      (u.written sql now wrote r).keyEnc = (nullIf u.secretEnc).or r.keyEnc ∧
      (u.written sql now wrote r).issuedAt
        = ((nullIf u.secretEnc).map fun _ => now).or r.issuedAt ∧
      (u.written sql now wrote r).expiresAt = expiry.or r.expiresAt) ∨
    ((sql.timeOf u.expiresAt = none ∨ wrote = false) ∧ u.written sql now wrote r = r) := by
  rw [written, excluded]
  cases hexpiry : sql.timeOf u.expiresAt with
  | none => exact .inr ⟨.inl rfl, rfl⟩
  | some expiry =>
      cases wrote with
      | false => exact .inr ⟨.inr rfl, rfl⟩
      | true => exact .inl ⟨expiry, rfl, rfl, rfl, rfl, rfl, rfl, rfl⟩

/-- No update stores anything behind a terminator. -/
lemma StateUpdate.plain_written (h : r.Plain) (wrote : Bool) : (u.written sql now wrote r).Plain := by
  rcases u.written_cases sql now wrote r with ⟨expiry, -, -, hid, hpw, hkey, -⟩ | ⟨-, hsame⟩
  · rw [CredentialRow.Plain, hid, hpw, hkey]
    exact ⟨plainColumn_nullIf_or h.1 _, plainColumn_nullIf_or h.2.1 _,
      plainColumn_nullIf_or h.2.2 _⟩
  · rwa [hsame]

/-- The dates of a row, under the columns of its sealed values: only those of the
last update with a key count. -/
lemma oneIssuance_iff : OneIssuance sql handled r ↔
    r.idEnc = (lastSupplying StateUpdate.idEnc handled).map (fun e => e.1.idEnc) ∧
    r.pwEnc = (lastSupplying StateUpdate.pwEnc handled).map (fun e => e.1.pwEnc) ∧
    r.keyEnc = (lastSupplying StateUpdate.secretEnc handled).map (fun e => e.1.secretEnc) ∧
    ∀ e, lastSupplying StateUpdate.secretEnc handled = some e →
      r.issuedAt = some e.2 ∧ sql.timeOf e.1.expiresAt = some r.expiresAt := by
  constructor
  · rintro ⟨hissued, hid, hpw, hkey⟩
    refine ⟨hid, hpw, hkey, fun e he => ?_⟩
    rw [he] at hkey
    obtain ⟨e', he', -, hdates⟩ := hissued _ hkey
    cases he.symm.trans he'
    exact hdates
  · rintro ⟨hid, hpw, hkey, hdates⟩
    refine ⟨fun key hheld => ?_, hid, hpw, hkey⟩
    cases hlast : lastSupplying StateUpdate.secretEnc handled with
    | none =>
        rw [hlast, hheld] at hkey
        cases hkey
    | some e =>
        rw [hlast, hheld] at hkey
        cases hkey
        exact ⟨e, rfl, rfl, hdates e hlast⟩

/-- A column behind one more update. -/
lemma map_lastSupplying_snoc (field : StateUpdate → String) (e : StateUpdate × ℤ) {c : Option String}
    (h : c = (lastSupplying field handled).map fun e => field e.1) :
    ((lastSupplying field (handled ++ [e])).map fun e => field e.1)
      = if field e.1 = "" then c else some (field e.1) := by
  rw [lastSupplying_snoc, h]
  split <;> rfl

lemma StateUpdate.meets_of_written {expiry : Option ℤ} (h : sql.timeOf u.expiresAt = some expiry) :
    u.Meets sql now true r ↔ u.Plain ∧ u.DatesItsKey expiry r := by
  unfold Meets
  rw [h]

lemma StateUpdate.meets_of_kept {wrote : Bool}
    (h : sql.timeOf u.expiresAt = none ∨ wrote = false) :
    u.Meets sql now wrote r ↔ u.AddsNothing sql now r := by
  unfold Meets
  split
  · next hexpiry =>
      rcases h with hnone | hfalse
      · rw [hexpiry] at hnone
        cases hnone
      · cases hfalse
  · rfl

/-- The dates behind an update that is carried out. -/
lemma dates_written_iff {expiry : Option ℤ} (hexpiry : sql.timeOf u.expiresAt = some expiry)
    (hread : cStr u.secretEnc = u.secretEnc)
    (hkey : r.keyEnc
      = (lastSupplying StateUpdate.secretEnc handled).map fun e => e.1.secretEnc)
    (hdates : ∀ e, lastSupplying StateUpdate.secretEnc handled = some e →
      r.issuedAt = some e.2 ∧ sql.timeOf e.1.expiresAt = some r.expiresAt) :
    (∀ e, (if u.secretEnc = "" then lastSupplying StateUpdate.secretEnc handled
        else some (u, now)) = some e →
      ((nullIf u.secretEnc).map fun _ => now).or r.issuedAt = some e.2 ∧
        sql.timeOf e.1.expiresAt = some (expiry.or r.expiresAt)) ↔ u.DatesItsKey expiry r := by
  rw [StateUpdate.DatesItsKey]
  by_cases hnew : u.secretEnc = ""
  · have hnull : nullIf u.secretEnc = none := by rw [nullIf, hread, if_pos hnew]
    rw [if_pos hnew, if_pos hnew, hnull]
    cases hlast : lastSupplying StateUpdate.secretEnc handled with
    | none =>
        rw [hlast] at hkey
        exact iff_of_true (fun e he => by cases he) (.inl hkey)
    | some e =>
        obtain ⟨hissued, hexpires⟩ := hdates e hlast
        rw [hlast] at hkey
        have hkept : r.expiresAt = expiry.or r.expiresAt ↔ expiry = none ∨ expiry = r.expiresAt := by
          cases expiry with
          | none => simp
          | some x => simp [eq_comm]
        constructor
        · intro hall
          obtain ⟨-, hsame⟩ := hall e rfl
          rw [hexpires, Option.some.injEq] at hsame
          exact .inr (hkept.mp hsame)
        · intro hall e' he'
          cases he'
          rcases hall with hnone | hsame
          · rw [hkey] at hnone
            cases hnone
          · rw [hexpires, ← hkept.mpr hsame]
            exact ⟨hissued, rfl⟩
  · have hnull : nullIf u.secretEnc = some u.secretEnc := by rw [nullIf, hread, if_neg hnew]
    rw [if_neg hnew, if_neg hnew, hnull]
    have hkept : expiry = expiry.or r.expiresAt ↔ expiry ≠ none ∨ r.expiresAt = none := by
      cases expiry with
      | none => simp [eq_comm]
      | some x => simp
    constructor
    · intro hall
      obtain ⟨-, hsame⟩ := hall (u, now) rfl
      rw [hexpiry, Option.some.injEq] at hsame
      exact hkept.mp hsame
    · intro hall e' he'
      cases he'
      rw [hexpiry, ← hkept.mpr hall]
      exact ⟨rfl, rfl⟩

/-- The dates behind an update that is not. -/
lemma dates_kept_iff
    (hdates : ∀ e, lastSupplying StateUpdate.secretEnc handled = some e →
      r.issuedAt = some e.2 ∧ sql.timeOf e.1.expiresAt = some r.expiresAt) :
    (r.keyEnc = (if u.secretEnc = "" then r.keyEnc else some u.secretEnc) ∧
      ∀ e, (if u.secretEnc = "" then lastSupplying StateUpdate.secretEnc handled
        else some (u, now)) = some e →
      r.issuedAt = some e.2 ∧ sql.timeOf e.1.expiresAt = some r.expiresAt) ↔
    u.secretEnc = "" ∨ (r.keyEnc = some u.secretEnc ∧ r.issuedAt = some now ∧
      sql.timeOf u.expiresAt = some r.expiresAt) := by
  by_cases hnew : u.secretEnc = ""
  · rw [if_pos hnew, if_pos hnew]
    exact iff_of_true ⟨rfl, hdates⟩ (.inl hnew)
  · rw [if_neg hnew, if_neg hnew, or_iff_right hnew]
    simp

/-- **One update keeps the columns to one issuance exactly when it meets the
condition.** -/
theorem oneIssuance_written_iff (hplain : r.Plain) (h : OneIssuance sql handled r) (wrote : Bool) :
    OneIssuance sql (handled ++ [(u, now)]) (u.written sql now wrote r) ↔
      u.Meets sql now wrote r := by
  obtain ⟨hid, hpw, hkey, hdates⟩ := oneIssuance_iff.mp h
  rw [oneIssuance_iff, map_lastSupplying_snoc StateUpdate.idEnc (u, now) hid,
    map_lastSupplying_snoc StateUpdate.pwEnc (u, now) hpw,
    map_lastSupplying_snoc StateUpdate.secretEnc (u, now) hkey, lastSupplying_snoc]
  rcases u.written_cases sql now wrote r with
    ⟨expiry, hexpiry, rfl, hid', hpw', hkey', hissued', hexpires'⟩ | ⟨hnot, hsame⟩
  · rw [StateUpdate.meets_of_written hexpiry, hid', hpw', hkey', hissued', hexpires',
      column_written_iff hplain.1, column_written_iff hplain.2.1, column_written_iff hplain.2.2,
      StateUpdate.Plain, and_assoc, and_assoc]
    refine and_congr_right fun _ => and_congr_right fun _ => and_congr_right fun hread => ?_
    exact dates_written_iff hexpiry hread hkey hdates
  · rw [StateUpdate.meets_of_kept hnot, hsame, column_kept_iff, column_kept_iff,
      dates_kept_iff hdates]
    rfl

end Update

/-! ### Runs -/

section Runs

variable {sql : SqlTime} {oid : String} {s s' : CredentialHistory} {d : Delivery}

/-- The row behind an update of the credential. -/
lemma row_apply (now : ℤ) (wrote : Bool) {u : StateUpdate} (hoid : cStr u.oid = oid)
    (t : CredentialTable) :
    ((u.apply sql now wrote t).lookup oid).getD {}
      = u.written sql now wrote ((t.lookup oid).getD {}) := by
  rw [StateUpdate.apply, StateUpdate.written]
  cases u.excluded sql now with
  | none => rfl
  | some row =>
      dsimp only
      split
      · rw [hoid, lookup_upsert, if_pos rfl, Option.getD_some]
      · rfl

/-- **What one message does**: an update of the credential is written, and
anything else leaves the row as it is. -/
lemma next_cases (h : (credentialUpdates sql oid).next s d = some s') :
    (∃ u, stateUpdateOf oid d.payload = some u ∧ s'.handled = s.handled ++ [(u, d.now)] ∧
      s'.row oid = u.written sql d.now d.wrote (s.row oid)) ∨
    (stateUpdateOf oid d.payload = none ∧ s'.handled = s.handled ∧ s'.row oid = s.row oid) := by
  cases h
  obtain ⟨payload, now, wrote⟩ := d
  simp only [CredentialHistory.row]
  cases payload with
  | empty => exact .inr ⟨rfl, rfl, rfl⟩
  | malformed => exact .inr ⟨rfl, rfl, rfl⟩
  | json root =>
      cases hread : readState root with
      | error e =>
          have hnone : stateUpdateOf oid (.json root) = none := by rw [stateUpdateOf, hread]
          have hstore : storeState sql now wrote (.json root) s.table = .error e := by
            rw [storeState, hread]
            rfl
          rw [hnone, hstore]
          exact .inr ⟨rfl, rfl, rfl⟩
      | ok read =>
          cases read with
          | none =>
              have hnone : stateUpdateOf oid (.json root) = none := by rw [stateUpdateOf, hread]
              have hstore : storeState sql now wrote (.json root) s.table = .ok s.table := by
                rw [storeState, hread]
                rfl
              rw [hnone, hstore]
              exact .inr ⟨rfl, rfl, rfl⟩
          | some u =>
              have hstore : storeState sql now wrote (.json root) s.table
                  = .ok (u.apply sql now wrote s.table) := by
                rw [storeState, hread]
                rfl
              rw [hstore]
              by_cases hoid : cStr u.oid = oid
              · have hsome : stateUpdateOf oid (.json root) = some u := by
                  rw [stateUpdateOf, hread]
                  exact if_pos hoid
                rw [hsome]
                exact .inl ⟨u, rfl, rfl, row_apply now wrote hoid s.table⟩
              · have hnone : stateUpdateOf oid (.json root) = none := by
                  rw [stateUpdateOf, hread]
                  exact if_neg hoid
                rw [hnone]
                refine .inr ⟨rfl, rfl, ?_⟩
                dsimp only
                rw [lookup_apply_of_ne (Ne.symm hoid)]

/-- **A stored credential describes one issuance exactly as long as every update
meets the condition**: in every state of a run over any messages, when every
update of the credential among them does. -/
theorem one_issuance_iff {tr : List (CredentialHistory × Delivery)}
    (hinit : (credentialUpdates sql oid).init s) (h : (credentialUpdates sql oid).Run s tr s') :
    ((∀ p ∈ tr, OneIssuance sql p.1.handled (p.1.row oid)) ∧
      OneIssuance sql s'.handled (s'.row oid)) ↔
    ∀ p ∈ tr, ∀ u, stateUpdateOf oid p.2.payload = some u →
      u.Meets sql p.2.now p.2.wrote (p.1.row oid) := by
  obtain ⟨hrow, hhandled⟩ := hinit
  have hempty : s.row oid = {} := by rw [CredentialHistory.row, hrow, Option.getD_none]
  refine h.always_iff_forall (I := fun s => (s.row oid).Plain)
    (P := fun s => OneIssuance sql s.handled (s.row oid))
    (C := fun s d => ∀ u, stateUpdateOf oid d.payload = some u →
      u.Meets sql d.now d.wrote (s.row oid)) ?_ ?_ ?_ ?_
  · rw [hempty]
    exact ⟨by rintro v ⟨⟩, by rintro v ⟨⟩, by rintro v ⟨⟩⟩
  · rw [hempty, hhandled]
    exact ⟨by rintro v ⟨⟩, rfl, rfl, rfl⟩
  · intro t d t' hplain hnext
    rcases next_cases hnext with ⟨u, -, -, hwritten⟩ | ⟨-, -, hsame⟩
    · rw [hwritten]
      exact u.plain_written hplain d.wrote
    · rwa [hsame]
  · intro t d t' hplain hsound hnext
    rcases next_cases hnext with ⟨u, hu, hlog, hwritten⟩ | ⟨hnone, hlog, hsame⟩
    · rw [hlog, hwritten, oneIssuance_written_iff hplain hsound, hu]
      constructor
      · rintro hmeets u' ⟨⟩
        exact hmeets
      · intro hall
        exact hall u rfl
    · rw [hlog, hsame, hnone]
      exact iff_of_true hsound (by rintro u ⟨⟩)

end Runs

namespace OneIssuance

/-- A database that reads one time. -/
abbrev oneTime : SqlTime where
  timestamptz := fun text => if text = "2026-01-01T00:00:00Z" then some 100 else none
  toChar := fun _ => ""

/-- An update with a key, at a time. -/
def issue (keyEnc expiresAt : String) (now : ℤ) : Delivery where
  payload := .json (.obj [("expires_at", .str expiresAt), ("key_enc", .str keyEnc),
    ("oid", .str "key-1")])
  now
  wrote := true

/-- The update it carries. -/
abbrev issueUpdate (keyEnc expiresAt : String) : StateUpdate where
  oid := "key-1"
  idEnc := ""
  pwEnc := ""
  secretEnc := keyEnc
  expiresAt
  hasTest := false
  ok := false
  note := ""

/-- What there is of the credential. -/
def held (s : CredentialHistory) : CredentialRow × List (StateUpdate × ℤ) :=
  (s.row "key-1", s.handled)

end OneIssuance

open OneIssuance in
theorem one_issuance_issue : ∃ s', (credentialUpdates oneTime "key-1").exec ⟨∅, []⟩
      [issue "v1:a" "2026-01-01T00:00:00Z" 5] = some s' ∧
    s'.row "key-1" = { keyEnc := some "v1:a", issuedAt := some 5, expiresAt := some 100 } ∧
    OneIssuance oneTime s'.handled (s'.row "key-1") := by
  have hend : ((credentialUpdates oneTime "key-1").exec ⟨∅, []⟩
      [issue "v1:a" "2026-01-01T00:00:00Z" 5]).map held
        = some ({ keyEnc := some "v1:a", issuedAt := some 5, expiresAt := some 100 },
          [(issueUpdate "v1:a" "2026-01-01T00:00:00Z", 5)]) := by decide +kernel
  obtain ⟨s', hexec, hheld⟩ := Option.map_eq_some_iff.mp hend
  obtain ⟨hrow, -⟩ := Prod.mk.inj hheld
  refine ⟨s', hexec, hrow, ((one_issuance_iff ⟨rfl, rfl⟩ (Machine.exec_run hexec)).mpr ?_).2⟩
  intro p hp u hu
  simp only [Machine.trace, credentialUpdates, List.mem_singleton] at hp
  subst hp
  have hupdate : stateUpdateOf "key-1" (issue "v1:a" "2026-01-01T00:00:00Z" 5).payload
      = some (issueUpdate "v1:a" "2026-01-01T00:00:00Z") := by decide +kernel
  obtain rfl := Option.some.inj (hupdate.symm.trans hu)
  have hexpiry : oneTime.timeOf (issueUpdate "v1:a" "2026-01-01T00:00:00Z").expiresAt
      = some (some 100) := by decide +kernel
  refine (StateUpdate.meets_of_written hexpiry).mpr ⟨?_, ?_⟩
  · unfold StateUpdate.Plain
    decide +kernel
  · rw [StateUpdate.DatesItsKey, if_neg (by decide)]
    exact .inl (Option.some_ne_none 100)

open OneIssuance in
/-- **A key that is issued again without an expiry keeps the one before.** -/
theorem key_keeps_old_expiry : ∃ s', (credentialUpdates oneTime "key-1").Reachable s' ∧
    s'.row "key-1" = { keyEnc := some "v1:b", issuedAt := some 9, expiresAt := some 100 } ∧
    ¬ OneIssuance oneTime s'.handled (s'.row "key-1") := by
  have hend : ((credentialUpdates oneTime "key-1").exec ⟨∅, []⟩
      [issue "v1:a" "2026-01-01T00:00:00Z" 5, issue "v1:b" "" 9]).map held
        = some ({ keyEnc := some "v1:b", issuedAt := some 9, expiresAt := some 100 },
          [(issueUpdate "v1:a" "2026-01-01T00:00:00Z", 5), (issueUpdate "v1:b" "", 9)]) := by
    decide +kernel
  obtain ⟨s', hexec, hheld⟩ := Option.map_eq_some_iff.mp hend
  obtain ⟨hrow, hhandled⟩ := Prod.mk.inj hheld
  refine ⟨s', Machine.exec_reachable ⟨rfl, rfl⟩ hexec, hrow, fun h => ?_⟩
  rw [hrow, hhandled] at h
  obtain ⟨e, he, -, -, hexpires⟩ := h.issued "v1:b" rfl
  have hlast : lastSupplying StateUpdate.secretEnc
      [(issueUpdate "v1:a" "2026-01-01T00:00:00Z", 5), (issueUpdate "v1:b" "", 9)]
        = some (issueUpdate "v1:b" "", 9) := by decide +kernel
  cases hlast.symm.trans he
  have hnone : oneTime.timeOf "" = some none := by decide +kernel
  exact absurd (hnone.symm.trans hexpires) (by simp)

end Pretzel.Engined
