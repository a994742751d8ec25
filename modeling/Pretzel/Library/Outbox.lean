import Mathlib.Tactic

/-!
An outbox: elements on their way out over a channel that takes them in parts.

* `Outbox`: what was given to the channel, the batches accepted, and whether the
  owner waits for the channel to be ready.
* `Outbox.Step`: what may happen to it and to the elements still pending. A batch
  is accepted whole, a flush gives some of what is pending, and a channel that is
  closed takes no more.
* `Step.sound`: **nothing is torn and nothing stalls**: what was given is a
  prefix of what was accepted, and while something is pending the owner waits.
-/

/-- The history of an outbox. -/
structure Outbox (α : Type*) where
  given : List α
  accepted : List (List α)
  armed : Bool
deriving DecidableEq, Repr

namespace Outbox

variable {α : Type*}

/-- Nothing accepted and nothing given. -/
def fresh : Outbox α where
  given := []
  accepted := []
  armed := false

/-- A batch accepted. -/
def accept (o : Outbox α) (batch : List α) : Outbox α :=
  { o with accepted := o.accepted ++ [batch], armed := true }

/-- Elements given to the channel, and whether the owner goes on waiting. -/
def flush (o : Outbox α) (sent : List α) (armed : Bool) : Outbox α :=
  { o with given := o.given ++ sent, armed }

/-- What may happen to an outbox and to what is pending in it, which is nothing
at all where the channel is closed. -/
inductive Step : Outbox α → Option (List α) → Outbox α → Option (List α) → Prop
  | idle (o : Outbox α) (pending : Option (List α)) : Step o pending o pending
  | accept (o : Outbox α) (pending batch : List α) :
      Step o (some pending) (o.accept batch) (some (pending ++ batch))
  | flush (o : Outbox α) {sent rest : List α} {armed : Bool} (h : rest ≠ [] → armed = true) :
      Step o (some (sent ++ rest)) (o.flush sent armed) (some rest)
  | shut (o : Outbox α) (sent rest : List α) (armed : Bool) :
      Step o (some (sent ++ rest)) (o.flush sent armed) none
  | close (o : Outbox α) (pending : Option (List α)) : Step o pending o none
  | reopen (o : Outbox α) : Step o none fresh (some [])

/-- **The account of an outbox.** What was given is the front of what was
accepted; over an open channel what is pending is the rest, and is waited for. -/
structure Sound (o : Outbox α) (pending : Option (List α)) : Prop where
  given_isPrefix : o.given <+: o.accepted.flatten
  rest : ∀ p, pending = some p → o.given ++ p = o.accepted.flatten
  armed : ∀ p, pending = some p → p ≠ [] → o.armed = true

lemma sound_fresh : (fresh : Outbox α).Sound (some []) where
  given_isPrefix := List.prefix_rfl
  rest := by
    rintro p ⟨⟩
    rfl
  armed := by
    rintro p ⟨⟩ hne
    exact absurd rfl hne

/-- What is given of the front of the rest keeps to what was accepted. -/
lemma Sound.flush_isPrefix {o : Outbox α} {sent rest : List α} (h : o.Sound (some (sent ++ rest)))
    (armed : Bool) : (o.flush sent armed).given <+: o.accepted.flatten := by
  have hrest : o.given ++ (sent ++ rest) = o.accepted.flatten := h.rest _ rfl
  exact ⟨rest, by rw [flush, List.append_assoc, hrest]⟩

/-- **Nothing is torn and nothing stalls.** -/
theorem Step.sound {o o' : Outbox α} {pending pending' : Option (List α)}
    (hstep : Step o pending o' pending') (h : o.Sound pending) : o'.Sound pending' := by
  cases hstep with
  | idle => exact h
  | accept pending batch =>
      have hrest : o.given ++ pending = o.accepted.flatten := h.rest _ rfl
      have haccepted : (o.accept batch).accepted.flatten = o.accepted.flatten ++ batch := by
        rw [Outbox.accept, List.flatten_append, List.flatten_singleton]
      refine ⟨?_, ?_, fun _ _ _ => rfl⟩
      · rw [haccepted]
        exact h.given_isPrefix.trans (List.prefix_append _ _)
      · rintro p ⟨⟩
        rw [haccepted, ← hrest, List.append_assoc]
        rfl
  | @flush sent rest armed hwait =>
      refine ⟨h.flush_isPrefix armed, ?_, ?_⟩
      · rintro p ⟨⟩
        calc o.given ++ sent ++ rest = o.given ++ (sent ++ rest) := List.append_assoc _ _ _
          _ = o.accepted.flatten := h.rest _ rfl
      · rintro p ⟨⟩ hne
        exact hwait hne
  | shut sent rest armed =>
      exact ⟨h.flush_isPrefix armed, by rintro p ⟨⟩, by rintro p ⟨⟩⟩
  | close => exact ⟨h.given_isPrefix, by rintro p ⟨⟩, by rintro p ⟨⟩⟩
  | reopen => exact sound_fresh

end Outbox
