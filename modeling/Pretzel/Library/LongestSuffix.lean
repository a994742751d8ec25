import Mathlib.Tactic

/-!
The longest suffix of a list that has a property: what is left of a list that is
shortened from its front until it fits.

* `IsLongestSuffix`: a suffix with the property, and every other one is a suffix
  of it. `longestSuffix`: the list, shortened.
* `isLongestSuffix_longestSuffix`, `IsLongestSuffix.eq`: there is one, and no other.
* `longestSuffix_and`: **shortened for two properties is shortened for one, then
  for the other**, where the first is kept by every suffix.
* `longestSuffix_length`: the last `n`.
* `longestSuffix_eq_iff`: **a stronger property leaves the same suffix exactly when
  the suffixes of the weaker have it.**
-/

namespace LongestSuffix

variable {α : Type}

/-- A suffix with the property, of which every other one is a suffix. -/
structure IsLongestSuffix (p : List α → Prop) (l r : List α) : Prop where
  suffix : r <:+ l
  holds : p r
  longest : ∀ r', r' <:+ l → p r' → r' <:+ r

/-- Elements leave the front until the property holds, or none is left. -/
def longestSuffix (p : List α → Prop) [DecidablePred p] : List α → List α
  | [] => []
  | a :: l => if p (a :: l) then a :: l else longestSuffix p l

section

variable {p q : List α → Prop} [DecidablePred p] [DecidablePred q] {l r : List α}

lemma longestSuffix_suffix (l : List α) : longestSuffix p l <:+ l := by
  induction l with
  | nil => exact List.suffix_rfl
  | cons a l ih =>
      rw [longestSuffix]
      split
      · exact List.suffix_rfl
      · exact ih.trans (List.suffix_cons a l)

/-- A list that has the property stays. -/
lemma longestSuffix_of_holds (h : p l) : longestSuffix p l = l := by
  cases l with
  | nil => rfl
  | cons a l => rw [longestSuffix, if_pos h]

/-- What is left has the property, or is empty. -/
lemma longestSuffix_holds (l : List α) : longestSuffix p l = [] ∨ p (longestSuffix p l) := by
  induction l with
  | nil => exact .inl rfl
  | cons a l ih =>
      rw [longestSuffix]
      split
      · next h => exact .inr h
      · exact ih

/-- Each suffix with the property is a suffix of what is left. -/
lemma suffix_longestSuffix (hr : r <:+ l) (hp : p r) : r <:+ longestSuffix p l := by
  induction l with
  | nil => exact hr
  | cons a l ih =>
      rw [longestSuffix]
      split
      · exact hr
      · next hnot =>
          rcases List.suffix_cons_iff.mp hr with rfl | hr
          · exact absurd hp hnot
          · exact ih hr

/-- **There is a longest suffix**, where the empty one has the property. -/
theorem isLongestSuffix_longestSuffix (hnil : p []) (l : List α) :
    IsLongestSuffix p l (longestSuffix p l) where
  suffix := longestSuffix_suffix l
  holds := by
    rcases longestSuffix_holds (p := p) l with h | h
    · rwa [h]
    · exact h
  longest _ hr hp := suffix_longestSuffix hr hp

/-- **There is no other.** -/
theorem IsLongestSuffix.eq (h : IsLongestSuffix p l r) : r = longestSuffix p l := by
  have hle : r <:+ longestSuffix p l := suffix_longestSuffix h.suffix h.holds
  rcases longestSuffix_holds (p := p) l with hnil | hp
  · rw [hnil] at hle ⊢
    exact List.suffix_nil.mp hle
  · have hge := h.longest _ (longestSuffix_suffix l) hp
    exact hle.eq_of_length (le_antisymm hle.length_le hge.length_le)

/-- **Shortened for two properties**: for the one, then for the other. -/
theorem longestSuffix_and (hp : ∀ r r', r' <:+ r → p r → p r') (l : List α) :
    longestSuffix (fun r => p r ∧ q r) l = longestSuffix q (longestSuffix p l) := by
  induction l with
  | nil => rfl
  | cons a l ih =>
      rw [longestSuffix]
      by_cases h : p (a :: l)
      · rw [longestSuffix_of_holds h, longestSuffix]
        by_cases hq : q (a :: l)
        · rw [if_pos ⟨h, hq⟩, if_pos hq]
        · rw [if_neg fun h' => hq h'.2, if_neg hq, ih,
            longestSuffix_of_holds (hp _ _ (List.suffix_cons a l) h)]
      · rw [if_neg fun h' => h h'.1, ih]
        conv_rhs => rw [longestSuffix, if_neg h]

/-- The last `n`. -/
lemma longestSuffix_length (n : ℕ) (l : List α) :
    longestSuffix (fun r => r.length ≤ n) l = l.drop (l.length - n) := by
  induction l with
  | nil => simp [longestSuffix]
  | cons a l ih =>
      rw [longestSuffix]
      split
      · next h => rw [Nat.sub_eq_zero_of_le h, List.drop_zero]
      · next h =>
          rw [List.length_cons] at h ⊢
          rw [ih, Nat.sub_add_comm (by omega), List.drop_succ_cons]

/-- **A stronger property leaves the same suffix exactly when the suffixes of the
weaker have it**, the empty one apart. -/
theorem longestSuffix_eq_iff (hqp : ∀ r, q r → p r) (hq : ∀ r r', r' <:+ r → q r → q r')
    (l : List α) : longestSuffix q l = longestSuffix p l ↔
      ∀ r, r <:+ l → r ≠ [] → p r → q r := by
  constructor
  · intro heq r hr hne hp
    have hle : r <:+ longestSuffix q l := heq ▸ suffix_longestSuffix hr hp
    rcases longestSuffix_holds (p := q) l with hnil | hlong
    · rw [hnil] at hle
      exact absurd (List.suffix_nil.mp hle) hne
    · exact hq _ _ hle hlong
  · intro h
    induction l with
    | nil => rfl
    | cons a l ih =>
        rw [longestSuffix, longestSuffix]
        have hiff : q (a :: l) ↔ p (a :: l) :=
          ⟨hqp _, h _ List.suffix_rfl (List.cons_ne_nil a l)⟩
        by_cases hp : p (a :: l)
        · rw [if_pos (hiff.mpr hp), if_pos hp]
        · rw [if_neg fun h' => hp (hiff.mp h'), if_neg hp]
          exact ih fun r hr => h r (hr.trans (List.suffix_cons a l))

end

end LongestSuffix
