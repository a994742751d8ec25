import Pretzel.Library.Json

/-!
Searches that stop at the first hit, over a step that may throw.

* `firstHit`: the search.
* `UpToFirst`: a condition asked of the elements up to and with the first hit.
* `IsFirstHit`: what is found, and at the first hit.
* `Decides`: a step tells the hits of what it can read, each with a finding that
  fits it.
* `Decides.firstHit`: **so does the search**, of the list.
-/

namespace Nlohmann

section FirstHit

variable {ε α β : Type} {step : α → Except ε (Option β)}

/-- The first finding of a step, in list order. -/
def firstHit (step : α → Except ε (Option β)) : List α → Except ε (Option β)
  | [] => .ok none
  | a :: as => do
      match ← step a with
      | some b => return some b
      | none => firstHit step as

/-- Every element up to and with the first hit meets the condition. -/
def UpToFirst (hits reads : α → Prop) : List α → Prop
  | [] => True
  | a :: as => reads a ∧ (¬hits a → UpToFirst hits reads as)

/-- The finding fits the first hit of the list. -/
def IsFirstHit (hits : α → Prop) (fits : α → β → Prop) (as : List α) (b : β) : Prop :=
  ∃ front a back, as = front ++ a :: back ∧ (∀ c ∈ front, ¬hits c) ∧ hits a ∧ fits a b

/-- The step returns on what it can read, and finds something just where there is
a hit. -/
structure Decides (step : α → Except ε (Option β)) (reads hits : α → Prop)
    (fits : α → β → Prop) : Prop where
  returns : ∀ a, Returns (step a) ↔ reads a
  clear : ∀ a, step a = .ok none → ¬hits a
  hit : ∀ a b, step a = .ok (some b) → hits a ∧ fits a b

variable {reads hits : α → Prop} {fits : α → β → Prop}

/-- What is read and no hit leaves the step empty-handed. -/
lemma Decides.eq_none_iff (h : Decides step reads hits fits) (a : α) :
    step a = .ok none ↔ reads a ∧ ¬hits a := by
  constructor
  · intro ha
    exact ⟨(h.returns a).mp ⟨none, ha⟩, h.clear a ha⟩
  · rintro ⟨hreads, hno⟩
    obtain ⟨result, hresult⟩ := (h.returns a).mpr hreads
    cases result with
    | none => exact hresult
    | some b => exact absurd (h.hit a b hresult).1 hno

lemma returns_firstHit (h : Decides step reads hits fits) (as : List α) :
    Returns (firstHit step as) ↔ UpToFirst hits reads as := by
  induction as with
  | nil => simp [firstHit, UpToFirst]
  | cons a as ih =>
      rw [firstHit, returns_bind_option (by intro b; exact returns_pure _), h.returns,
        h.eq_none_iff, UpToFirst]
      dsimp only
      rw [ih]
      tauto

lemma firstHit_eq_none {as : List α} :
    firstHit step as = .ok none ↔ ∀ a ∈ as, step a = .ok none := by
  induction as with
  | nil => simp [firstHit]
  | cons a as ih =>
      rw [firstHit, except_bind_eq_ok, List.forall_mem_cons, ← ih]
      constructor
      · rintro ⟨result, hresult, hrest⟩
        cases result with
        | none => exact ⟨hresult, hrest⟩
        | some b => cases hrest
      · rintro ⟨ha, has⟩
        exact ⟨none, ha, has⟩

lemma firstHit_eq_some {as : List α} {b : β} (h : firstHit step as = .ok (some b)) :
    ∃ front a back, as = front ++ a :: back ∧ (∀ c ∈ front, step c = .ok none) ∧
      step a = .ok (some b) := by
  induction as with
  | nil => cases h
  | cons a as ih =>
      rw [firstHit, except_bind_eq_ok] at h
      obtain ⟨result, hresult, hrest⟩ := h
      cases result with
      | some b' =>
          cases hrest
          exact ⟨[], a, as, rfl, by simp, hresult⟩
      | none =>
          obtain ⟨front, c, back, rfl, hfront, hc⟩ := ih hrest
          exact ⟨a :: front, c, back, rfl, List.forall_mem_cons.mpr ⟨hresult, hfront⟩, hc⟩

/-- **The search decides whether the list has a hit**, and finds the first. -/
theorem Decides.firstHit (h : Decides step reads hits fits) :
    Decides (firstHit step) (UpToFirst hits reads) (fun as => ∃ a ∈ as, hits a)
      (IsFirstHit hits fits) where
  returns := returns_firstHit h
  clear as has := by
    rintro ⟨a, ha, hhit⟩
    exact h.clear a (firstHit_eq_none.mp has a ha) hhit
  hit as b has := by
    obtain ⟨front, a, back, rfl, hfront, ha⟩ := firstHit_eq_some has
    obtain ⟨hhit, hfits⟩ := h.hit a b ha
    refine ⟨⟨a, by simp, hhit⟩, front, a, back, rfl, fun c hc => ?_, hhit, hfits⟩
    exact h.clear c (hfront c hc)

end FirstHit

end Nlohmann
