import Mathlib.Tactic

/-!
Computations in stages: a stage emits, and ends by being done, by an exception,
or by waiting for something from outside, which the next stage is about.

* `Stage`, `Ending`: one stage.
* `Stage.ofExcept`, `Stage.guard`: a fallible read in front of a stage, and
  `try … catch` around one.
* `Stage.run`: the stages of a list of arrivals, as one.
* `Stage.Settled`: a stage that is not waiting.
* `Stage.Owes`: a stage that answers once where it is done, and not at all where
  it ends otherwise. `owes_run`: stages that owe make a run that owes.
-/

namespace Staged

/-- How a stage ends: done, by an exception, or waiting. -/
inductive Ending (κ ε : Type) where
  | done
  | threw (e : ε)
  | waits (k : κ)
deriving DecidableEq

/-- A stage: what it emits, and how it ends. -/
structure Stage (ω κ ε : Type) where
  out : List ω := []
  ending : Ending κ ε := .done

namespace Stage

variable {ω κ ε ρ : Type}

/-- Nothing left to do. -/
def done : Stage ω κ ε := {}

/-- An exception. -/
def throws (e : ε) : Stage ω κ ε := { ending := .threw e }

/-- The stage waits. -/
def waits (k : κ) : Stage ω κ ε := { ending := .waits k }

/-- Something is emitted first. -/
def emit (w : ω) (s : Stage ω κ ε) : Stage ω κ ε := { s with out := w :: s.out }

/-- A read that may throw, in front of a stage. -/
def ofExcept {α : Type} (x : Except ε α) (f : α → Stage ω κ ε) : Stage ω κ ε :=
  match x with
  | .ok a => f a
  | .error e => throws e

/-- `try … catch`. -/
def guard (handler : ε → Stage ω κ ε) (s : Stage ω κ ε) : Stage ω κ ε :=
  match s.ending with
  | .threw e => { out := s.out ++ (handler e).out, ending := (handler e).ending }
  | .done | .waits _ => s

/-- The stages of some arrivals, one after the other. -/
def run (resume : κ → ρ → Stage ω κ ε) : Stage ω κ ε → List ρ → Stage ω κ ε
  | s, [] => s
  | s, r :: rs =>
      match s.ending with
      | .waits k =>
          let rest := run resume (resume k r) rs
          { out := s.out ++ rest.out, ending := rest.ending }
      | .done | .threw _ => s

/-! ### The end of a stage -/

/-- The stage is not waiting. -/
def Settled (s : Stage ω κ ε) : Prop := ∀ k, s.ending ≠ .waits k

section Settled

variable {s : Stage ω κ ε} {resume : κ → ρ → Stage ω κ ε}

lemma settled_done : (done : Stage ω κ ε).Settled := by
  rintro k ⟨⟩

lemma settled_throws {e : ε} : (throws e : Stage ω κ ε).Settled := by
  rintro k ⟨⟩

lemma settled_emit {w : ω} (h : s.Settled) : (emit w s).Settled := h

lemma settled_guard {handler : ε → Stage ω κ ε} (hs : s.Settled)
    (hhandler : ∀ e, (handler e).Settled) : (guard handler s).Settled := by
  rw [guard]
  split
  · next e _ => exact hhandler e
  · exact hs
  · exact hs

/-- Nothing arrives for a stage that is not waiting. -/
lemma run_of_settled (h : s.Settled) (rs : List ρ) : run resume s rs = s := by
  cases rs with
  | nil => rfl
  | cons r rs =>
      rw [run]
      split
      · next k hend => exact absurd hend (h k)
      · rfl
      · rfl

/-- What arrives for one that is. -/
lemma run_of_waits {k : κ} (h : s.ending = .waits k) (r : ρ) (rs : List ρ) :
    (run resume s (r :: rs)).out = s.out ++ (run resume (resume k r) rs).out := by
  rw [run, h]

end Settled

/-! ### One answer -/

/-- The answers a stage is to have given at its end. -/
def due : Ending κ ε → ℕ
  | .done => 1
  | .threw _ | .waits _ => 0

/-- One answer where it is done and none where it is not, and a wait of the given
kind where it waits. -/
structure Owes (isAnswer : ω → Bool) (W : κ → Prop) (s : Stage ω κ ε) : Prop where
  answers : s.out.countP isAnswer = due s.ending
  waits : ∀ k, s.ending = .waits k → W k

section Owes

variable {isAnswer : ω → Bool} {W : κ → Prop} {resume : κ → ρ → Stage ω κ ε} {s : Stage ω κ ε}

lemma owes_throws {e : ε} : (throws e : Stage ω κ ε).Owes isAnswer W :=
  ⟨rfl, by rintro k ⟨⟩⟩

lemma owes_waits {k : κ} (h : W k) : (waits k : Stage ω κ ε).Owes isAnswer W := by
  refine ⟨rfl, ?_⟩
  rintro k' ⟨⟩
  exact h

/-- An answer, and nothing after it. -/
lemma owes_answer {w : ω} (h : isAnswer w = true) :
    (emit w done : Stage ω κ ε).Owes isAnswer W := by
  refine ⟨?_, by rintro k ⟨⟩⟩
  simp [emit, done, due, h]

lemma owes_emit {w : ω} (h : isAnswer w = false) (hs : s.Owes isAnswer W) :
    (emit w s).Owes isAnswer W := by
  refine ⟨?_, hs.waits⟩
  rw [emit, List.countP_cons, h]
  exact hs.answers

/-- A handler that answers. -/
lemma owes_guard {handler : ε → Stage ω κ ε} (hs : s.Owes isAnswer W)
    (hhandler : ∀ e, (handler e).Owes isAnswer W) : (guard handler s).Owes isAnswer W := by
  rw [guard]
  split
  · next e hend =>
      refine ⟨?_, (hhandler e).waits⟩
      have hnone : s.out.countP isAnswer = 0 := by rw [hs.answers, hend, due]
      rw [List.countP_append, hnone, Nat.zero_add]
      exact (hhandler e).answers
  · exact hs
  · exact hs

/-- **Stages that owe make a run that owes.** -/
theorem owes_run (hs : s.Owes isAnswer W)
    (hresume : ∀ k r, W k → (resume k r).Owes isAnswer W) (rs : List ρ) :
    (run resume s rs).Owes isAnswer W := by
  induction rs generalizing s with
  | nil => exact hs
  | cons r rs ih =>
      rw [run]
      split
      · next k hend =>
          have hnone : s.out.countP isAnswer = 0 := by rw [hs.answers, hend, due]
          have hrest := ih (hresume k r (hs.waits k hend))
          refine ⟨?_, hrest.waits⟩
          rw [List.countP_append, hnone, Nat.zero_add]
          exact hrest.answers
      · exact hs
      · exact hs

end Owes

end Stage

end Staged
