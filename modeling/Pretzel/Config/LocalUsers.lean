import Pretzel.Library.KeyedTable
import Pretzel.Library.Texts

/-!
The table `local_users` (`shared/db/Database.cpp`), with the two statements that
write it and the lookup every reader makes.

* `LocalUser`, `LocalUsers`: a row, and the table with its primary key and its
  unique oid.
* `cStr`: a text as a statement's parameter, which ends at its first NUL.
* `account?`, `remove`, `store`: the row of a name, `DELETE`, and
  `INSERT … ON CONFLICT (username) DO UPDATE`.
* `account?_remove`, `account?_store_of_some`, `account?_store_of_none`,
  `account?_store_of_ne`: what a reader finds after each of them.
-/

namespace Pretzel.Config

/-- A row of `local_users`. -/
structure LocalUser where
  username : String
  oid : String
  passwordHash : String
  salt : String
  mustChange : Bool
deriving DecidableEq

/-- The oid, which is unique. -/
def LocalUser.uniqueOid (u : LocalUser) : Option String := some u.oid

/-- `local_users`. -/
abbrev LocalUsers := KeyedTable.Table LocalUser.username LocalUser.uniqueOid

/-- A text as `PQexecParams` takes it. -/
def cStr (text : String) : String := String.ofList (text.toList.takeWhile (· ≠ '\x00'))

/-- A text without one is taken whole. -/
lemma cStr_eq_self {text : String} (h : '\x00' ∉ text.toList) : cStr text = text := by
  rw [cStr, Texts.takeWhile_ne_eq_self_iff.mpr h, String.ofList_toList]

namespace LocalUsers

/-- `SELECT … WHERE username = $1`. -/
def account? (t : LocalUsers) (name : String) : Option LocalUser :=
  t.rows.find? fun u => u.username = name

/-- `DELETE FROM local_users WHERE username = $1`. -/
def remove (t : LocalUsers) (name : String) : LocalUsers := t.retain fun u => u.username ≠ name

/-- The upsert: a row that is there keeps its oid. -/
def store (t : LocalUsers) (name passwordHash salt : String) (mustChange : Bool) (oid : String) :
    LocalUsers :=
  match account? t name with
  | some u => t.upsert { u with passwordHash, salt, mustChange }
  | none => t.upsert { username := name, oid, passwordHash, salt, mustChange }

variable {t : LocalUsers} {name name' hash salt oid : String} {mustChange : Bool} {u : LocalUser}

lemma account?_eq_some : account? t name = some u ↔ u ∈ t.rows ∧ u.username = name :=
  KeyedTable.Table.find?_eq_some

lemma account?_eq_none : account? t name = none ↔ ∀ u ∈ t.rows, u.username ≠ name := by
  simp [account?]

/-- Two tables in which a name has the same rows. -/
lemma account?_congr {t' : LocalUsers}
    (h : ∀ u : LocalUser, u.username = name → (u ∈ t'.rows ↔ u ∈ t.rows)) :
    account? t' name = account? t name := by
  rw [Option.ext_iff]
  intro u
  constructor
  · intro hu
    obtain ⟨hmem, hname⟩ := account?_eq_some.mp hu
    exact account?_eq_some.mpr ⟨(h u hname).mp hmem, hname⟩
  · intro hu
    obtain ⟨hmem, hname⟩ := account?_eq_some.mp hu
    exact account?_eq_some.mpr ⟨(h u hname).mpr hmem, hname⟩

/-! ### A removal -/

lemma mem_remove : u ∈ (remove t name).rows ↔ u ∈ t.rows ∧ u.username ≠ name := by
  simp [remove, KeyedTable.Table.retain]

lemma account?_remove_self : account? (remove t name) name = none := by
  rw [account?_eq_none]
  intro u hu
  exact (mem_remove.mp hu).2

lemma account?_remove_of_ne (h : name' ≠ name) :
    account? (remove t name) name' = account? t name' := by
  refine account?_congr fun u hu => ?_
  rw [mem_remove, hu]
  exact and_iff_left h

/-! ### A credential -/

/-- The row of an account that is there keeps its oid, so nothing refuses it. -/
lemma held_update (h : account? t name = some u) : KeyedTable.held LocalUser.username
    LocalUser.uniqueOid t.rows { u with passwordHash := hash, salt, mustChange } = false := by
  rw [KeyedTable.held_eq_false]
  intro q hq hsome heq
  obtain ⟨hmem, -⟩ := account?_eq_some.mp h
  have hrow : q = u := t.attrs q hq u hmem hsome heq
  rw [hrow]

lemma account?_store_of_some (h : account? t name = some u) :
    account? (store t name hash salt mustChange oid) name =
      some { u with passwordHash := hash, salt, mustChange } := by
  have hname := (account?_eq_some.mp h).2
  rw [store, h]
  exact account?_eq_some.mpr
    ⟨(KeyedTable.Table.mem_upsert (held_update h)).mpr (.inl rfl), hname⟩

/-- An oid no row has. -/
def OidFree (t : LocalUsers) (oid : String) : Prop := ∀ u ∈ t.rows, u.oid ≠ oid

instance : Decidable (OidFree t oid) := inferInstanceAs (Decidable (∀ u ∈ t.rows, u.oid ≠ oid))

/-- A row of its own is put where the oid is free, -/
lemma account?_store_of_none (h : account? t name = none) (hfree : OidFree t oid) :
    account? (store t name hash salt mustChange oid) name =
      some { username := name, oid, passwordHash := hash, salt, mustChange } := by
  rw [store, h]
  refine account?_eq_some.mpr ⟨(KeyedTable.Table.mem_upsert ?_).mpr (.inl rfl), rfl⟩
  rw [KeyedTable.held_eq_false]
  intro q hq _ heq
  exact absurd (Option.some.inj heq) (hfree q hq)

/-- and refused where it is not. -/
lemma store_of_not_oidFree (h : account? t name = none) (hheld : ¬OidFree t oid) :
    store t name hash salt mustChange oid = t := by
  rw [store, h]
  refine KeyedTable.Table.upsert_of_held ?_
  rw [← Bool.not_eq_false, KeyedTable.held_eq_false]
  intro hall
  apply hheld
  intro u hu hoid
  exact account?_eq_none.mp h u hu (hall u hu (by simp [LocalUser.uniqueOid]) (congrArg some hoid))

lemma account?_store_of_ne (h : name' ≠ name) :
    account? (store t name hash salt mustChange oid) name' = account? t name' := by
  refine account?_congr fun u hu => ?_
  rw [store]
  cases haccount : account? t name with
  | some v =>
      refine KeyedTable.Table.mem_upsert_of_ne ?_
      rw [hu]
      exact fun heq => h (heq.trans (account?_eq_some.mp haccount).2)
  | none =>
      refine KeyedTable.Table.mem_upsert_of_ne ?_
      rw [hu]
      exact h

/-- The rows after a credential is stored: those of the other accounts, and the
account's own. -/
lemma mem_store (h : u ∈ (store t name hash salt mustChange oid).rows) :
    u ∈ t.rows ∧ u.username ≠ name ∨
      u.username = name ∧ u.passwordHash = hash ∧ u.salt = salt ∧ u.mustChange = mustChange := by
  by_cases hname : u.username = name
  · have hfound : account? (store t name hash salt mustChange oid) name = some u :=
      account?_eq_some.mpr ⟨h, hname⟩
    cases haccount : account? t name with
    | some v =>
        rw [account?_store_of_some haccount, Option.some.injEq] at hfound
        exact .inr ⟨hname, by rw [← hfound], by rw [← hfound], by rw [← hfound]⟩
    | none =>
        by_cases hfree : OidFree t oid
        · rw [account?_store_of_none haccount hfree, Option.some.injEq] at hfound
          exact .inr ⟨hname, by rw [← hfound], by rw [← hfound], by rw [← hfound]⟩
        · rw [store_of_not_oidFree haccount hfree, haccount] at hfound
          cases hfound
  · have hfound : account? (store t name hash salt mustChange oid) u.username = some u :=
      account?_eq_some.mpr ⟨h, rfl⟩
    rw [account?_store_of_ne hname] at hfound
    exact .inl ⟨(account?_eq_some.mp hfound).1, hname⟩

end LocalUsers

end Pretzel.Config
