import Mathlib.Data.List.Sublists
import Mathlib.Tactic

/-!
The length of a longest common subsequence of two lists.

* `LcsLength`: the length, as a relation.
* `LcsLength.nil_left`, `LcsLength.nil_right`, `LcsLength.cons_same`,
  `LcsLength.cons_ne`: the rules a table of lengths is filled by.
* `LcsLength.unique`: one length alone.
-/

namespace List

variable {α : Type*}

/-- A longest common subsequence of the two lists has this length. -/
structure LcsLength (a b : List α) (n : ℕ) : Prop where
  common : ∃ l, l <+ a ∧ l <+ b ∧ l.length = n
  longest : ∀ l, l <+ a → l <+ b → l.length ≤ n

variable {a b : List α} {x y : α} {m n : ℕ}

lemma LcsLength.unique (h : LcsLength a b m) (h' : LcsLength a b n) : m = n := by
  obtain ⟨l, ha, hb, rfl⟩ := h.common
  obtain ⟨l', ha', hb', rfl⟩ := h'.common
  exact Nat.le_antisymm (h'.longest l ha hb) (h.longest l' ha' hb')

lemma LcsLength.nil_left (b : List α) : LcsLength [] b 0 where
  common := ⟨[], .slnil, nil_sublist b, rfl⟩
  longest l ha _ := by rw [sublist_nil.mp ha, length_nil]

lemma LcsLength.nil_right (a : List α) : LcsLength a [] 0 where
  common := ⟨[], nil_sublist a, .slnil, rfl⟩
  longest l _ hb := by rw [sublist_nil.mp hb, length_nil]

/-- A common subsequence does not outlast the first list. -/
lemma LcsLength.le_length (h : LcsLength a b n) : n ≤ a.length := by
  obtain ⟨l, ha, -, rfl⟩ := h.common
  exact ha.length_le

/-- **Two lists of one head**: the head is taken. -/
lemma LcsLength.cons_same (h : LcsLength a b n) : LcsLength (x :: a) (x :: b) (n + 1) where
  common := by
    obtain ⟨l, ha, hb, rfl⟩ := h.common
    exact ⟨x :: l, ha.cons_cons x, hb.cons_cons x, length_cons⟩
  longest l ha hb := by
    cases l with
    | nil => exact Nat.zero_le _
    | cons z l =>
        rw [length_cons, Nat.add_le_add_iff_right]
        exact h.longest l ha.tail hb.tail

/-- **Two lists of different heads**: one of the heads is left out. -/
lemma LcsLength.cons_ne (hne : x ≠ y) (hdown : LcsLength a (y :: b) m)
    (hright : LcsLength (x :: a) b n) : LcsLength (x :: a) (y :: b) (max m n) where
  common := by
    rcases le_total n m with hle | hle
    · obtain ⟨l, ha, hb, hl⟩ := hdown.common
      exact ⟨l, ha.cons x, hb, by rw [hl, Nat.max_eq_left hle]⟩
    · obtain ⟨l, ha, hb, hl⟩ := hright.common
      exact ⟨l, ha, hb.cons y, by rw [hl, Nat.max_eq_right hle]⟩
  longest l ha hb := by
    rcases sublist_cons_iff.mp ha with ha' | ⟨l', rfl, ha'⟩
    · exact (hdown.longest l ha' hb).trans (Nat.le_max_left _ _)
    · -- The head of the first list is taken, so that of the second is not.
      rcases sublist_cons_iff.mp hb with hb' | ⟨l'', heq, -⟩
      · exact (hright.longest _ ha hb').trans (Nat.le_max_right _ _)
      · rw [cons.injEq] at heq
        exact absurd heq.1 hne

end List
