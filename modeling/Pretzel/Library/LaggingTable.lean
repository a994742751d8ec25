import Mathlib.Tactic

/-!
A table that lags behind: updates are on their way to it, and are carried out in order.

* `settled`: the table once they all are.
* `settled_append`, `settled_cons`: an update is sent, and one arrives.
* `settled_of_forall`: a key none of them is for has its last value in the table already.
* `settled_override`: **where all that is on its way is for one key, the table with that
  key's new value put over it is the settled one.**
-/

namespace LaggingTable

variable {κ ν : Type*} [DecidableEq κ]

/-- The table once the updates on their way are carried out: each gives a key a value, or
takes it. -/
def settled (table : κ → Option ν) (underWay : List (κ × Option ν)) : κ → Option ν :=
  underWay.foldl (fun t u => Function.update t u.1 u.2) table

@[simp]
lemma settled_nil (table : κ → Option ν) : settled table [] = table := rfl

@[simp]
lemma settled_cons (table : κ → Option ν) (u : κ × Option ν) (us : List (κ × Option ν)) :
    settled table (u :: us) = settled (Function.update table u.1 u.2) us := rfl

/-- An update is sent. -/
lemma settled_append (table : κ → Option ν) (us : List (κ × Option ν)) (u : κ × Option ν) :
    settled table (us ++ [u]) = Function.update (settled table us) u.1 u.2 := by
  rw [settled, List.foldl_append]
  rfl

/-- A key that no update is for. -/
lemma settled_of_forall {table : κ → Option ν} {us : List (κ × Option ν)} {k : κ}
    (h : ∀ u ∈ us, u.1 ≠ k) : settled table us k = table k := by
  induction us generalizing table with
  | nil => rfl
  | cons u us ih =>
      obtain ⟨hu, hus⟩ := List.forall_mem_cons.mp h
      calc settled table (u :: us) k = Function.update table u.1 u.2 k := ih hus
        _ = table k := Function.update_of_ne (Ne.symm hu) _ _

/-- **An override is current** where the updates on their way are all for its key. -/
theorem settled_override {table : κ → Option ν} {us : List (κ × Option ν)} {k : κ}
    (h : ∀ u ∈ us, u.1 = k) (v : Option ν) :
    settled table (us ++ [(k, v)]) = Function.update table k v := by
  funext k'
  rw [settled_append]
  by_cases hk : k' = k
  · subst hk
    rw [Function.update_self, Function.update_self]
  · rw [Function.update_of_ne hk, Function.update_of_ne hk]
    exact settled_of_forall fun u hu hku => hk (hku.symm.trans (h u hu))

end LaggingTable
