import Mathlib.Tactic

/-!
A mirror of a store: it is filled whole by an answer of the store, which comes late, and is
changed in place beside the updates that are sent to the store.

* `settled`: the store once the messages on their way have arrived. `toCome`: what the
  answers to the requests among them will say.
* `Tracks`: a mirror that is filled shows what the store will hold, and so do the answers
  not taken in yet.
* `Tracks.send`: **a message keeps to it** where a filled mirror is changed alike, and where
  what an answer would say is not changed at all. `Tracks.arrive`, `Tracks.fill`: the store
  hears a message, and the mirror an answer.
-/

namespace LateFill

variable {σ μ ν : Type*} (act : σ → μ → σ) (asks : μ → Bool) (view : σ → ν)

/-- The store once the messages on their way have arrived. -/
def settled (store : σ) (wire : List μ) : σ := wire.foldl act store

/-- The answer to a message, if it asks for one. -/
def answer (store : σ) (m : μ) : List ν := if asks m then [view store] else []

/-- What the answers to the messages on their way will say. -/
def toCome : σ → List μ → List ν
  | _, [] => []
  | store, m :: ms => answer asks view store m ++ toCome (act store m) ms

/-- A filled mirror shows what the store will hold, as do the answers still to be taken in. -/
structure Tracks (store : σ) (wire : List μ) (answers : List ν) (filled : Bool) (mirror : ν) :
    Prop where
  mirror_eq : filled = true → mirror = view (settled act store wire)
  answers_eq : ∀ v ∈ answers ++ toCome act asks view store wire, v = view (settled act store wire)

section Messages

variable {act asks view} {store : σ} {wire : List μ}

lemma settled_append (m : μ) : settled act store (wire ++ [m]) = act (settled act store wire) m := by
  rw [settled, List.foldl_append]
  rfl

lemma toCome_append (m : μ) :
    toCome act asks view store (wire ++ [m])
      = toCome act asks view store wire ++ answer asks view (settled act store wire) m := by
  induction wire generalizing store with
  | nil => exact List.append_nil _
  | cons m' ms ih =>
      rw [List.cons_append, toCome, toCome, ih, List.append_assoc]
      rfl

lemma answer_of_asks {m : μ} (h : asks m = true) : answer asks view store m = [view store] :=
  if_pos h

lemma answer_of_not_asks {m : μ} (h : asks m = false) : answer asks view store m = [] :=
  if_neg (Bool.eq_false_iff.mp h)

/-- Messages none of which changes the store. -/
lemma settled_of_forall (h : ∀ m ∈ wire, ∀ s, act s m = s) : settled act store wire = store := by
  induction wire generalizing store with
  | nil => rfl
  | cons m ms ih =>
      obtain ⟨hm, hms⟩ := List.forall_mem_cons.mp h
      calc settled act store (m :: ms) = settled act (act store m) ms := rfl
        _ = act store m := ih hms
        _ = store := hm store

lemma toCome_eq_nil (h : ∀ m ∈ wire, asks m = false) : toCome act asks view store wire = [] := by
  induction wire generalizing store with
  | nil => rfl
  | cons m ms ih =>
      obtain ⟨hm, hms⟩ := List.forall_mem_cons.mp h
      rw [toCome, answer, hm, if_neg Bool.false_ne_true, List.nil_append]
      exact ih hms

end Messages

namespace Tracks

variable {act asks view} {store : σ} {wire : List μ} {answers : List ν} {filled : Bool} {mirror : ν}

/-- **A message is sent**, and the mirror is changed. -/
theorem send (h : Tracks act asks view store wire answers filled mirror) {m : μ} {mirror' : ν}
    (hmirror : filled = true → mirror' = view (act (settled act store wire) m))
    (hasks : asks m = true → act (settled act store wire) m = settled act store wire)
    (hpending : answers ++ toCome act asks view store wire ≠ [] →
      view (act (settled act store wire) m) = view (settled act store wire)) :
    Tracks act asks view store (wire ++ [m]) answers filled mirror' := by
  refine ⟨fun hfilled => ?_, fun v hv => ?_⟩
  · rw [settled_append]
    exact hmirror hfilled
  · rw [toCome_append, ← List.append_assoc] at hv
    rw [settled_append]
    rcases List.mem_append.mp hv with hv | hv
    · rw [hpending (List.ne_nil_of_mem hv)]
      exact h.answers_eq v hv
    · rw [answer] at hv
      split at hv
      · next hm =>
          obtain rfl := List.mem_singleton.mp hv
          rw [hasks hm]
      · cases hv

/-- The store hears the first message, and answers. -/
theorem arrive {m : μ} {ms : List μ}
    (h : Tracks act asks view store (m :: ms) answers filled mirror) :
    Tracks act asks view (act store m) ms (answers ++ answer asks view store m) filled mirror := by
  refine ⟨h.mirror_eq, fun v hv => ?_⟩
  rw [List.append_assoc] at hv
  exact h.answers_eq v hv

/-- **The mirror is filled** by the first answer. -/
theorem fill {v : ν} (h : Tracks act asks view store wire (v :: answers) filled mirror) :
    Tracks act asks view store wire answers true v := by
  refine ⟨fun _ => h.answers_eq v List.mem_cons_self, fun v' hv' => h.answers_eq v' ?_⟩
  exact List.mem_cons_of_mem _ hv'

/-- Where no message on its way changes the store, the mirror shows what it holds. -/
theorem current (h : Tracks act asks view store wire answers true mirror)
    (hwire : ∀ m ∈ wire, ∀ s, act s m = s) : mirror = view store := by
  rw [h.mirror_eq rfl, settled_of_forall hwire]

end Tracks

end LateFill
