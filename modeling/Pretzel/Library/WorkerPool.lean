import Mathlib.Tactic

/-!
A pool of workers over one queue. A worker takes the first task, and carries it out
whenever it comes to it, before or after the workers beside it.

* `Pool`: the tasks queued, those held by workers in the order they were taken, and those
  carried out.
* `push`, `take`, `carryOut`: what happens to a pool.
* `newest`: the task pushed last. `NewestLast`: a task is not carried out before older
  ones where it is the newest.
* `newest_push`, `newest_take`, `newest_carryOut`: **under that rule the newest task stays
  the newest**, so that `done_of_drained` it is the one carried out last.
-/

namespace WorkerPool

/-- A pool. -/
structure Pool (α : Type*) where
  queued : List α := []
  held : List α := []
  done : List α := []

namespace Pool

variable {α : Type*} (p : Pool α)

/-- A task is queued. -/
def push (a : α) : Pool α := { p with queued := p.queued ++ [a] }

/-- A worker takes the first task, where one of so many is free. -/
def take (workers : ℕ) : Option (Pool α) :=
  match p.queued with
  | [] => none
  | a :: queued =>
      if p.held.length < workers then some { p with queued, held := p.held ++ [a] } else none

/-- A worker carries its task out. -/
def carryOut (i : ℕ) : Option (Pool α) :=
  p.held[i]?.map fun a => { p with held := p.held.eraseIdx i, done := p.done ++ [a] }

/-- The task pushed last: the last queued, else the last taken, else the last carried
out. -/
def newest : Option α := (p.held ++ p.queued).getLast?.or p.done.getLast?

/-- Nothing is left to do. -/
def Drained : Prop := p.queued = [] ∧ p.held = []

instance : Decidable p.Drained := inferInstanceAs (Decidable (_ ∧ _))

/-- Where the newest task is carried out no other is left. -/
def NewestLast (i : ℕ) : Prop := p.queued = [] → i + 1 = p.held.length → i = 0

instance (i : ℕ) : Decidable (p.NewestLast i) := inferInstanceAs (Decidable (_ → _ → _))

variable {p} {p' : Pool α}

@[simp]
lemma newest_push (a : α) : (p.push a).newest = some a := by
  rw [newest, push, ← List.append_assoc, List.getLast?_concat]
  rfl

lemma newest_take {workers : ℕ} (h : p.take workers = some p') : p'.newest = p.newest := by
  rw [take] at h
  split at h
  · cases h
  next a queued hqueued =>
  split at h
  · cases h
    rw [newest, newest, hqueued, List.append_assoc, List.singleton_append]
  · cases h

/-- **The newest task stays the newest**, carried out or not. -/
theorem newest_carryOut {i : ℕ} (hlast : p.NewestLast i) (h : p.carryOut i = some p') :
    p'.newest = p.newest := by
  obtain ⟨a, ha, rfl⟩ := Option.map_eq_some_iff.mp h
  obtain ⟨hi, hget⟩ := List.getElem?_eq_some_iff.mp ha
  rw [newest, newest]
  rcases List.eq_nil_or_concat p.queued with hnil | ⟨queued, b, hqueued⟩
  · rw [hnil, List.append_nil, List.append_nil]
    by_cases htop : i + 1 = p.held.length
    · -- it is the newest, and alone
      obtain rfl := hlast hnil htop
      have hone : p.held = [a] := by
        match hheld : p.held, htop with
        | [x], _ =>
            rw [hheld] at ha
            cases ha
            rfl
      rw [hone]
      show Option.or none (p.done ++ [a]).getLast? = some a
      rw [List.getLast?_concat]
      rfl
    · -- one behind it stays
      have hlt : i < p.held.length - 1 := by omega
      have hkept : (p.held.eraseIdx i).getLast? = p.held.getLast? := by
        rw [List.getLast?_eq_getElem?, List.getLast?_eq_getElem?, List.length_eraseIdx_of_lt hi,
          List.getElem?_eraseIdx, if_neg (by omega)]
        congr 1
        omega
      have hsome : ∃ b, p.held.getLast? = some b := by
        rw [← Option.isSome_iff_exists, List.getLast?_isSome]
        exact List.ne_nil_of_length_pos (by omega)
      obtain ⟨b, hb⟩ := hsome
      rw [hkept, hb]
      rfl
  · have hback : ∀ l : List α, (l ++ (queued ++ [b])).getLast? = some b := by
      intro l
      rw [← List.append_assoc, List.getLast?_concat]
    rw [hqueued, List.concat_eq_append, hback, hback]
    rfl

/-- **Where nothing is left, the newest was carried out last.** -/
lemma done_of_drained (h : p.Drained) : p.done.getLast? = p.newest := by
  rw [newest, h.1, h.2]
  rfl

end Pool

end WorkerPool
