import Mathlib.Tactic

/-!
A roll call: entries by their keys, some of which wait for an answer.

* `entryOf`, `update`: the entry of a key, and the entry of a key changed.
* `waiting`: how many entries wait. `waiting_update`: an answer takes one of them
  away; `waiting_eq_zero`: none waits.
-/

namespace RollCall

variable {κ ε : Type} [DecidableEq κ]

/-- The entry of a key. -/
def entryOf (k : κ) : List (κ × ε) → Option ε
  | [] => none
  | (k', e) :: rest => if k' = k then some e else entryOf k rest

/-- The entry of a key, changed. -/
def update (k : κ) (f : ε → ε) (es : List (κ × ε)) : List (κ × ε) :=
  es.map fun p => if p.1 = k then (p.1, f p.2) else p

omit [DecidableEq κ] in
/-- How many entries wait. -/
def waiting (P : ε → Bool) (es : List (κ × ε)) : ℕ := es.countP fun p => P p.2

variable {P : ε → Bool} {k : κ} {f : ε → ε} {es : List (κ × ε)}

@[simp]
lemma keys_update : (update k f es).map Prod.fst = es.map Prod.fst := by
  rw [update, List.map_map]
  refine List.map_congr_left fun p _ => ?_
  by_cases h : p.1 = k <;> simp [h]

lemma mem_of_entryOf {e : ε} (h : entryOf k es = some e) : (k, e) ∈ es := by
  induction es with
  | nil => cases h
  | cons p rest ih =>
      obtain ⟨k', e'⟩ := p
      rw [entryOf] at h
      split at h
      · next heq =>
          cases h
          rw [heq]
          exact List.mem_cons_self
      · exact List.mem_cons_of_mem _ (ih h)

/-- What is there after a change of the entry of a key. -/
lemma mem_update {p : κ × ε} (h : p ∈ update k f es) :
    (p.1 ≠ k ∧ p ∈ es) ∨ (p.1 = k ∧ ∃ e, (k, e) ∈ es ∧ p.2 = f e) := by
  obtain ⟨q, hq, rfl⟩ := List.mem_map.mp h
  by_cases hk : q.1 = k
  · rw [if_pos hk]
    refine .inr ⟨hk, q.2, ?_, rfl⟩
    rw [← hk]
    exact hq
  · rw [if_neg hk]
    exact .inl ⟨hk, hq⟩

/-- A change of a key that is not there changes nothing. -/
lemma update_of_notMem (h : k ∉ es.map Prod.fst) : update k f es = es := by
  rw [update, List.map_congr_left (g := id), List.map_id]
  intro p hp
  rw [if_neg]
  · rfl
  · rintro rfl
    exact h (List.mem_map_of_mem hp)

/-- **An answer**: the entry of the key no longer waits, and all others stay. -/
lemma waiting_update {e : ε} (hkeys : (es.map Prod.fst).Nodup) (he : entryOf k es = some e)
    (hP : P e = true) (hf : P (f e) = false) :
    waiting P (update k f es) + 1 = waiting P es := by
  induction es with
  | nil => cases he
  | cons p rest ih =>
      obtain ⟨k', e'⟩ := p
      rw [List.map_cons, List.nodup_cons] at hkeys
      rw [entryOf] at he
      split at he
      · next heq =>
          cases he
          have hrest : update k f rest = rest := update_of_notMem (heq ▸ hkeys.1)
          change waiting P ((if k' = k then (k', f e) else (k', e)) :: update k f rest) + 1 = _
          rw [hrest, if_pos heq, waiting, waiting, List.countP_cons, List.countP_cons, hP, hf]
          simp
      · next hne =>
          have hstep := ih hkeys.2 he
          change waiting P ((if k' = k then (k', f e') else (k', e')) :: update k f rest) + 1 = _
          rw [waiting] at hstep ⊢
          rw [waiting] at hstep
          rw [if_neg hne, waiting, List.countP_cons, List.countP_cons]
          omega

omit [DecidableEq κ] in
lemma waiting_eq_zero : waiting P es = 0 ↔ ∀ p ∈ es, P p.2 = false := by
  simp [waiting, List.countP_eq_zero]

omit [DecidableEq κ] in
lemma waiting_of_all (h : ∀ p ∈ es, P p.2 = true) : waiting P es = es.length := by
  exact List.countP_eq_length.mpr h

/-- One that waits is counted. -/
lemma waiting_pos {e : ε} (he : entryOf k es = some e) (hP : P e = true) : 0 < waiting P es := by
  exact List.countP_pos_iff.mpr ⟨(k, e), mem_of_entryOf he, hP⟩

end RollCall
