import Mathlib.Tactic
import Mathlib.Data.List.TakeWhile
import Pretzel.Library.Framing

/-!
Frames received over readiness events.

* `Readiness`: what an event of an event loop is to one connection: bytes to
  read, the end of the stream, or nothing.
* `Endpoint`: an event loop that reads a connection into a buffer of fixed
  capacity and drains the buffer of its whole frames, and that gives the
  connection up when the buffer fills, when the stream ends and when a frame is
  refused.
* `InTime`: every frame completes in an event that leaves the buffer room, before
  the end of the stream, and is admitted.
* `heard_run_iff`: exactly then every frame of the stream is handed over.
-/

/-- What an event is to a connection: of no concern, elements to read, or the end
of the stream with the elements before it. -/
inductive Readiness (α : Type*) where
  | elsewhere
  | read (xs : List α)
  | closing (xs : List α)

/-- The elements of the stream an event stands for. -/
def Readiness.taken {α : Type*} : Readiness α → List α
  | elsewhere => []
  | read xs => xs
  | closing xs => xs

namespace Framing

variable {α τ ε μ : Type*}

/-- An event loop, as one of its connections sees it. -/
structure Endpoint (F : Framing α) (msg : List α → Option μ) (τ ε : Type*) where
  capacity : ℕ
  step : τ → ε → τ
  /-- The events the loop can meet. -/
  Calm : ε → Prop
  readiness : ε → Readiness α
  /-- The connection is open, and its buffer holds this. -/
  Open : τ → List α → Prop
  /-- The connection is gone. -/
  Lost : τ → Prop
  /-- The messages handed over. -/
  heard : τ → List μ
  /-- Whether a frame is let in. -/
  admits : τ → List α → Bool
  step_lost : ∀ {t ev}, Lost t → Calm ev → Lost (step t ev) ∧ heard (step t ev) = heard t
  step_elsewhere : ∀ {t ev xs}, Open t xs → Calm ev → readiness ev = .elsewhere →
    Open (step t ev) xs ∧ heard (step t ev) = heard t
  step_closing : ∀ {t ev xs ys}, Open t xs → Calm ev → readiness ev = .closing ys →
    Lost (step t ev) ∧ heard (step t ev) = heard t
  step_full : ∀ {t ev xs ys}, Open t xs → Calm ev → readiness ev = .read ys →
    capacity ≤ xs.length + ys.length → Lost (step t ev) ∧ heard (step t ev) = heard t
  step_room : ∀ {t ev xs ys}, Open t xs → Calm ev → readiness ev = .read ys →
    xs.length + ys.length < capacity →
    ∀ {fs : List (List α)} {zs rest : List α}, (∀ f ∈ fs, F.IsFrame f ∧ (msg f).isSome) →
      (∀ p q, p ++ q = rest → F.Incomplete p) → xs ++ ys ++ zs = fs.flatten ++ rest →
      heard (step t ev) = heard t ++
        ((fs.take (completed fs (xs.length + ys.length))).takeWhile (admits t)).filterMap msg ∧
      ((∀ f ∈ fs.take (completed fs (xs.length + ys.length)), admits t f = true) →
        Open (step t ev)
          ((xs ++ ys).drop (xs.length + ys.length - leftover fs (xs.length + ys.length)))) ∧
      ((∃ f ∈ fs.take (completed fs (xs.length + ys.length)), admits t f = false) →
        Lost (step t ev))

namespace Endpoint

variable {F : Framing α} {msg : List α → Option μ} (E : Endpoint F msg τ ε)

/-- The state after a run of events. -/
def run (t : τ) (evs : List ε) : τ := evs.foldl E.step t

/-- The elements of the stream a run of events stands for. -/
def bytes (evs : List ε) : List α := (evs.map fun ev => (E.readiness ev).taken).flatten

/-- **Every frame arrives in time**: in an event that leaves the buffer room for
more than it brings, before the end of the stream, and admitted. The frames are
those not complete yet, with the number of elements of the first that are. -/
def InTime : τ → List (List α) → ℕ → List ε → Prop
  | _, _, _, [] => True
  | t, fs, left, ev :: evs =>
      match E.readiness ev with
      | .elsewhere => InTime (E.step t ev) fs left evs
      | .closing _ => fs = []
      | .read ys =>
          left + ys.length < E.capacity ∧
          (∀ f ∈ fs.take (completed fs (left + ys.length)), E.admits t f = true) ∧
          InTime (E.step t ev) (fs.drop (completed fs (left + ys.length)))
            (leftover fs (left + ys.length)) evs

instance decidableInTime : ∀ (t : τ) (fs : List (List α)) (left : ℕ) (evs : List ε),
    Decidable (E.InTime t fs left evs)
  | _, _, _, [] => isTrue trivial
  | t, fs, left, ev :: evs =>
      match h : E.readiness ev with
      | .elsewhere =>
          have := decidableInTime (E.step t ev) fs left evs
          decidable_of_iff (E.InTime (E.step t ev) fs left evs) (by rw [InTime, h])
      | .closing _ => decidable_of_iff (fs = []) (by rw [InTime, h])
      | .read ys =>
          let n := left + ys.length
          have := decidableInTime (E.step t ev) (fs.drop (completed fs n)) (leftover fs n) evs
          decidable_of_iff (n < E.capacity ∧
            (∀ f ∈ fs.take (completed fs n), E.admits t f = true) ∧
            E.InTime (E.step t ev) (fs.drop (completed fs n)) (leftover fs n) evs)
            (by rw [InTime, h])

lemma run_cons (t : τ) (ev : ε) (evs : List ε) : E.run t (ev :: evs) = E.run (E.step t ev) evs :=
  rfl

lemma bytes_cons (ev : ε) (evs : List ε) :
    E.bytes (ev :: evs) = (E.readiness ev).taken ++ E.bytes evs := rfl

/-- Nothing is heard of a connection that is gone. -/
lemma heard_run_of_lost {t : τ} {evs : List ε} (h : E.Lost t) (hcalm : ∀ ev ∈ evs, E.Calm ev) :
    E.heard (E.run t evs) = E.heard t := by
  induction evs generalizing t with
  | nil => rfl
  | cons ev evs ih =>
      obtain ⟨hlost, hheard⟩ := E.step_lost h (hcalm ev List.mem_cons_self)
      rw [run_cons, ih hlost fun e he => hcalm e (List.mem_cons_of_mem _ he), hheard]

variable (msg) in
lemma length_filterMap_eq {fs : List (List α)} (h : ∀ f ∈ fs, (msg f).isSome) :
    (fs.filterMap msg).length = fs.length := by
  induction fs with
  | nil => rfl
  | cons f fs ih =>
      obtain ⟨m, hm⟩ := Option.isSome_iff_exists.mp (h f List.mem_cons_self)
      rw [List.filterMap_cons, hm, List.length_cons, List.length_cons,
        ih fun g hg => h g (List.mem_cons_of_mem _ hg)]

/-- A refusal among the frames stops what is handed over short of them. -/
lemma length_takeWhile_lt {p : List α → Bool} {fs : List (List α)} (h : ∃ f ∈ fs, p f = false) :
    (fs.takeWhile p).length < fs.length := by
  induction fs with
  | nil => simp at h
  | cons f fs ih =>
      rw [List.takeWhile_cons]
      cases hp : p f with
      | false => simp
      | true =>
          obtain ⟨g, hg, hpg⟩ := h
          rcases List.mem_cons.mp hg with rfl | hg
          · rw [hp] at hpg
            cases hpg
          · simpa using ih ⟨g, hg, hpg⟩

/-- One run, by induction on its events: what is in time is handed over whole, and
what is not is handed over short. -/
lemma heard_run {limit : ℕ} (hlimit : limit ≤ E.capacity) {rest : List α}
    (hrest : ∀ p q, p ++ q = rest → F.Incomplete p) (hshort : rest.length < limit)
    {evs : List ε} (hcalm : ∀ ev ∈ evs, E.Calm ev) {t : τ} {xs : List α} {fs : List (List α)}
    (hfs : ∀ f ∈ fs, F.IsFrame f ∧ (msg f).isSome) (hopen : E.Open t xs)
    (hstream : xs ++ E.bytes evs = fs.flatten ++ rest) (hfirst : completed fs xs.length = 0) :
    (E.InTime t fs xs.length evs → E.heard (E.run t evs) = E.heard t ++ fs.filterMap msg) ∧
    (¬ E.InTime t fs xs.length evs →
      (E.heard (E.run t evs)).length < (E.heard t).length + fs.length) := by
  induction evs generalizing t xs fs with
  | nil =>
      -- all the stream is in the buffer, which holds no whole frame
      have hnil : fs = [] := by
        cases fs with
        | nil => rfl
        | cons f fs =>
            rw [completed] at hfirst
            split at hfirst
            · omega
            · next hgt =>
                have hlen := congrArg List.length hstream
                simp only [bytes, List.map_nil, List.flatten_nil, List.append_nil,
                  List.flatten_cons, List.length_append] at hlen
                omega
      subst hnil
      exact ⟨fun _ => (List.append_nil _).symm, fun h => absurd trivial h⟩
  | cons ev evs ih =>
      have hev := hcalm ev List.mem_cons_self
      have hevs : ∀ e ∈ evs, E.Calm e := fun e he => hcalm e (List.mem_cons_of_mem _ he)
      rw [bytes_cons] at hstream
      rw [run_cons, InTime]
      cases hready : E.readiness ev with
      | elsewhere =>
          rw [hready, Readiness.taken, List.nil_append] at hstream
          obtain ⟨hopen', hheard⟩ := E.step_elsewhere hopen hev hready
          rw [← hheard]
          exact ih hevs hfs hopen' hstream hfirst
      | closing ys =>
          obtain ⟨hlost, hheard⟩ := E.step_closing hopen hev hready
          dsimp only
          rw [E.heard_run_of_lost hlost hevs, hheard]
          constructor
          · rintro rfl
            exact (List.append_nil _).symm
          · intro hne
            have := List.length_pos_iff.mpr hne
            omega
      | read ys =>
          rw [hready, Readiness.taken] at hstream
          dsimp only
          by_cases hroom : xs.length + ys.length < E.capacity
          · have hcut : xs ++ ys ++ E.bytes evs = fs.flatten ++ rest := by
              rw [List.append_assoc]
              exact hstream
            obtain ⟨hheard, hstay, hgone⟩ :=
              E.step_room hopen hev hready hroom hfs hrest hcut
            by_cases hadmit : ∀ f ∈ fs.take (completed fs (xs.length + ys.length)),
                E.admits t f = true
            · have hdue : (fs.take (completed fs (xs.length + ys.length))).takeWhile (E.admits t)
                  = fs.take (completed fs (xs.length + ys.length)) :=
                List.takeWhile_eq_self_iff.mpr hadmit
              have hcount := length_flatten_take_completed fs (xs.length + ys.length)
              have hheld : ((xs ++ ys).drop (xs.length + ys.length -
                  leftover fs (xs.length + ys.length))).length
                    = leftover fs (xs.length + ys.length) := by
                rw [List.length_drop, List.length_append]
                omega
              have hnext := ih hevs (t := E.step t ev)
                (fun f hf => hfs f (List.mem_of_mem_drop hf)) (hstay hadmit)
                (by
                  have := drop_append_eq hcut
                  rwa [List.length_append] at this)
                (by
                  rw [hheld]
                  exact completed_leftover fs _)
              rw [hheld, hheard, hdue] at hnext
              have hall := length_filterMap_eq msg
                fun f (hf : f ∈ fs.take (completed fs (xs.length + ys.length))) =>
                  (hfs f (List.mem_of_mem_take hf)).2
              constructor
              · rintro ⟨-, -, hlater⟩
                rw [hnext.1 hlater, List.append_assoc, ← List.filterMap_append,
                  List.take_append_drop]
              · intro hnot
                have hlater := hnext.2 fun h => hnot ⟨hroom, hadmit, h⟩
                rw [List.length_append, hall, List.length_drop] at hlater
                rw [List.length_take] at hlater
                have := completed_le_length fs (xs.length + ys.length)
                omega
            · refine ⟨fun h => absurd h.2.1 hadmit, fun _ => ?_⟩
              have hrefused : ∃ f ∈ fs.take (completed fs (xs.length + ys.length)),
                  E.admits t f = false := by
                simpa using hadmit
              rw [E.heard_run_of_lost (hgone hrefused) hevs, hheard, List.length_append,
                length_filterMap_eq msg fun f hf => (hfs f (List.mem_of_mem_take
                  ((List.takeWhile_prefix _).subset hf))).2]
              have hlt := length_takeWhile_lt hrefused
              rw [List.length_take] at hlt
              omega
          · obtain ⟨hlost, hheard⟩ := E.step_full hopen hev hready (Nat.not_lt.mp hroom)
            refine ⟨fun h => absurd h.1 hroom, fun _ => ?_⟩
            rw [E.heard_run_of_lost hlost hevs, hheard]
            -- a full buffer holds at least one whole frame
            have hne : fs ≠ [] := by
              rintro rfl
              have hlen := congrArg List.length hstream
              simp only [List.length_append, List.flatten_nil, List.length_nil] at hlen
              omega
            have := List.length_pos_iff.mpr hne
            omega

/-- **Every frame is handed over exactly when each arrives in time.** -/
theorem heard_run_iff {limit : ℕ} (hlimit : limit ≤ E.capacity) {rest : List α}
    (hrest : ∀ p q, p ++ q = rest → F.Incomplete p) (hshort : rest.length < limit)
    {evs : List ε} (hcalm : ∀ ev ∈ evs, E.Calm ev) {t : τ} {fs : List (List α)}
    (hfs : ∀ f ∈ fs, F.IsFrame f ∧ (msg f).isSome) (hopen : E.Open t [])
    (hstream : E.bytes evs = fs.flatten ++ rest) :
    E.heard (E.run t evs) = E.heard t ++ fs.filterMap msg ↔ E.InTime t fs 0 evs := by
  have hfirst : completed fs ([] : List α).length = 0 := by
    cases fs with
    | nil => rfl
    | cons f fs =>
        have := (hfs f List.mem_cons_self).1.length_pos
        rw [completed, List.length_nil, if_neg (Nat.not_le.mpr this)]
  obtain ⟨hin, hout⟩ := E.heard_run hlimit hrest hshort hcalm hfs hopen hstream hfirst
  refine ⟨fun h => ?_, hin⟩
  by_contra hnot
  have hlt := hout hnot
  rw [h, List.length_append, length_filterMap_eq msg fun f hf => (hfs f hf).2] at hlt
  exact absurd hlt (Nat.lt_irrefl _)

end Endpoint

end Framing
