import Mathlib.Tactic

/-!
A table with a primary key and a second attribute that is unique where a row
has it, as a partial unique index keeps it.

* `Table`: the rows, with the two laws.
* `upsert`: `INSERT … ON CONFLICT (key) DO UPDATE`, refused when a row of
  another key holds the attribute; `upsertAll`: one after the other, a refused
  one changing nothing.
* `insertNew`: `INSERT … ON CONFLICT DO NOTHING`.
* `Fits`: the rows of a list can be put into a table one after the other: no key
  and no attribute twice, and an attribute the table holds under another key is
  given up by an earlier row.
* `holdsEach_upsertAll_iff`: after its upserts the table has each row of the list
  exactly when the list fits.
-/

namespace KeyedTable

/-- A table by its rows. -/
structure Table {α κ β : Type} (key : α → κ) (attr : α → Option β) where
  rows : List α
  keys : (rows.map key).Nodup
  attrs : ∀ q ∈ rows, ∀ r ∈ rows, attr r ≠ none → attr q = attr r → q = r

variable {α κ β : Type} [DecidableEq κ] [DecidableEq β] {key : α → κ} {attr : α → Option β}

/-- The row in the place of the one of its key, or behind the others. -/
def put (key : α → κ) (r : α) : List α → List α
  | [] => [r]
  | q :: qs => if key q = key r then r :: qs else q :: put key r qs

lemma mem_put {r z : α} {rows : List α} (h : (rows.map key).Nodup) :
    z ∈ put key r rows ↔ z = r ∨ z ∈ rows ∧ key z ≠ key r := by
  induction rows with
  | nil => simp [put]
  | cons q qs ih =>
      rw [List.map_cons, List.nodup_cons] at h
      rw [put]
      split
      · next hq =>
          have hrest : ∀ z ∈ qs, key z ≠ key r := by
            intro z hz heq
            exact h.1 (List.mem_map.mpr ⟨z, hz, heq.trans hq.symm⟩)
          grind
      · next hq =>
          rw [List.mem_cons, ih h.2]
          grind

lemma nodup_put (r : α) {rows : List α} (h : (rows.map key).Nodup) :
    ((put key r rows).map key).Nodup := by
  induction rows with
  | nil => simp [put]
  | cons q qs ih =>
      have h' := h
      rw [List.map_cons, List.nodup_cons] at h
      rw [put]
      split
      · next hq =>
          rw [List.map_cons, List.nodup_cons, ← hq]
          exact h
      · next hq =>
          rw [List.map_cons, List.nodup_cons]
          refine ⟨?_, ih h.2⟩
          intro hmem
          obtain ⟨z, hz, heq⟩ := List.mem_map.mp hmem
          rcases (mem_put h.2).mp hz with rfl | ⟨hz, -⟩
          · exact hq heq.symm
          · exact h.1 (List.mem_map.mpr ⟨z, hz, heq⟩)

/-- A row of another key holds the attribute. -/
def held (key : α → κ) (attr : α → Option β) (rows : List α) (r : α) : Bool :=
  rows.any fun q => (attr r).isSome && attr q = attr r && key q ≠ key r

lemma held_eq_false {rows : List α} {r : α} : held key attr rows r = false ↔
    ∀ q ∈ rows, attr r ≠ none → attr q = attr r → key q = key r := by
  simp [held, Option.isSome_iff_ne_none]

namespace Table

variable (t : Table key attr)

/-- `INSERT … ON CONFLICT (key) DO UPDATE`, unless the unique index refuses it. -/
def upsert (r : α) : Table key attr :=
  if h : held key attr t.rows r = true then t
  else
    { rows := put key r t.rows
      keys := nodup_put r t.keys
      attrs := by
        rw [Bool.not_eq_true, held_eq_false] at h
        intro q hq q' hq' hsome heq
        rw [mem_put t.keys] at hq hq'
        rcases hq with rfl | ⟨hq, hne⟩ <;> rcases hq' with rfl | ⟨hq', hne'⟩
        · rfl
        · exact absurd (h q' hq' (heq ▸ hsome) heq.symm) hne'
        · exact absurd (h q hq hsome heq) hne
        · exact t.attrs q hq q' hq' hsome heq }

/-- `INSERT … ON CONFLICT DO NOTHING`. -/
def insertNew (r : α) : Table key attr := if key r ∈ t.rows.map key then t else t.upsert r

/-- Upserts in order. -/
def upsertAll (rs : List α) : Table key attr := rs.foldl upsert t

/-- `DELETE` of the rows that are not kept. -/
def retain (keep : α → Bool) : Table key attr where
  rows := t.rows.filter keep
  keys := (List.filter_sublist.map key).nodup t.keys
  attrs q hq r hr := t.attrs q (List.mem_of_mem_filter hq) r (List.mem_of_mem_filter hr)

variable {t}

omit [DecidableEq β] in
/-- The row of a key is found. -/
lemma find?_eq_some {k : κ} {r : α} :
    t.rows.find? (fun q => key q = k) = some r ↔ r ∈ t.rows ∧ key r = k := by
  constructor
  · intro h
    exact ⟨List.mem_of_find?_eq_some h, by simpa using List.find?_some h⟩
  · rintro ⟨hmem, rfl⟩
    cases hfind : t.rows.find? (fun q => key q = key r) with
    | none =>
        have hne : ¬key r = key r := by simpa using List.find?_eq_none.mp hfind r hmem
        exact absurd rfl hne
    | some q =>
        have hq : q ∈ t.rows := List.mem_of_find?_eq_some hfind
        have hkey : key q = key r := by simpa using List.find?_some hfind
        rw [List.inj_on_of_nodup_map t.keys hq hmem hkey]

lemma mem_upsert {r z : α} (h : held key attr t.rows r = false) :
    z ∈ (t.upsert r).rows ↔ z = r ∨ z ∈ t.rows ∧ key z ≠ key r := by
  rw [upsert, dif_neg (by simp [h])]
  exact mem_put t.keys

lemma upsert_of_held {r : α} (h : held key attr t.rows r = true) : t.upsert r = t := by
  rw [upsert, dif_pos h]

/-- A row of another key is there after an upsert exactly when it was before. -/
lemma mem_upsert_of_ne {r z : α} (hne : key z ≠ key r) : z ∈ (t.upsert r).rows ↔ z ∈ t.rows := by
  cases h : held key attr t.rows r with
  | true => rw [upsert_of_held h]
  | false =>
      rw [mem_upsert h]
      constructor
      · rintro (rfl | ⟨hz, -⟩)
        · exact absurd rfl hne
        · exact hz
      · exact fun hz => .inr ⟨hz, hne⟩

/-- An insertion adds its row at most. -/
lemma mem_insertNew {r z : α} (h : z ∈ (t.insertNew r).rows) : z = r ∨ z ∈ t.rows := by
  rw [insertNew] at h
  split at h
  · exact .inr h
  · cases hheld : held key attr t.rows r with
    | true =>
        rw [upsert_of_held hheld] at h
        exact .inr h
    | false => exact ((mem_upsert hheld).mp h).imp_right And.left

/-- An insertion under a new key adds its row exactly when the attribute is free. -/
lemma mem_insertNew_iff {r z : α} (hnew : key r ∉ t.rows.map key) :
    z ∈ (t.insertNew r).rows ↔ z ∈ t.rows ∨ z = r ∧ held key attr t.rows r = false := by
  rw [insertNew, if_neg hnew]
  cases hheld : held key attr t.rows r with
  | true => simp [upsert_of_held hheld]
  | false =>
      have hother : z ∈ t.rows → key z ≠ key r := by
        intro hz heq
        rw [← heq] at hnew
        exact hnew (List.mem_map_of_mem hz)
      rw [mem_upsert hheld]
      tauto

/-- The rows stay. -/
lemma mem_insertNew_of_mem {r z : α} (h : z ∈ t.rows) : z ∈ (t.insertNew r).rows := by
  rw [insertNew]
  split
  · exact h
  · next hnew =>
      refine (mem_upsert_of_ne fun heq => hnew ?_).mpr h
      rw [← heq]
      exact List.mem_map_of_mem h

lemma mem_upsertAll_of_notMem {rs : List α} {z : α} (hne : key z ∉ rs.map key) :
    z ∈ (t.upsertAll rs).rows ↔ z ∈ t.rows := by
  induction rs generalizing t with
  | nil => rfl
  | cons r rs ih =>
      rw [List.map_cons, List.mem_cons, not_or] at hne
      calc z ∈ (t.upsertAll (r :: rs)).rows
          ↔ z ∈ (t.upsert r).rows := ih hne.2
        _ ↔ z ∈ t.rows := mem_upsert_of_ne hne.1

/-- The rows of a list can be put into the table one after the other. -/
structure Fits (t : Table key attr) (rs : List α) : Prop where
  keys : (rs.map key).Nodup
  attrs : rs.Pairwise fun q r => attr r ≠ none → attr q ≠ attr r
  free : ∀ done r rest, rs = done ++ r :: rest → ∀ q ∈ t.rows, attr r ≠ none → attr q = attr r →
    key q = key r ∨ key q ∈ done.map key

/-- A list fits when its first row does, and the others do after it. -/
lemma fits_cons {r : α} {rs : List α} : t.Fits (r :: rs) ↔
    held key attr t.rows r = false ∧ key r ∉ rs.map key ∧
      (∀ q ∈ rs, attr q ≠ none → attr r ≠ attr q) ∧ (t.upsert r).Fits rs := by
  constructor
  · intro h
    have hkeys := h.keys
    have hattrs := h.attrs
    rw [List.map_cons, List.nodup_cons] at hkeys
    rw [List.pairwise_cons] at hattrs
    have hfree : held key attr t.rows r = false := by
      rw [held_eq_false]
      intro q hq hsome heq
      simpa using h.free [] r rs rfl q hq hsome heq
    refine ⟨hfree, hkeys.1, hattrs.1, hkeys.2, hattrs.2, ?_⟩
    rintro done r' rest rfl q hq hsome heq
    rw [mem_upsert hfree] at hq
    rcases hq with rfl | ⟨hq, hne⟩
    · exact absurd heq (hattrs.1 r' (by simp) hsome)
    · rcases h.free (r :: done) r' rest rfl q hq hsome heq with heq' | hmem
      · exact .inl heq'
      · rw [List.map_cons, List.mem_cons] at hmem
        exact .inr (hmem.resolve_left hne)
  · rintro ⟨hfree, hkey, hattr, h⟩
    refine ⟨List.nodup_cons.mpr ⟨hkey, h.keys⟩, List.pairwise_cons.mpr ⟨hattr, h.attrs⟩, ?_⟩
    intro done r' rest hsplit q hq hsome heq
    cases done with
    | nil =>
        obtain ⟨rfl, rfl⟩ := List.cons.inj hsplit
        exact .inl (held_eq_false.mp hfree q hq hsome heq)
    | cons d done =>
        obtain ⟨rfl, rfl⟩ := List.cons.inj hsplit
        by_cases hqr : key q = key r
        · exact .inr (by simp [hqr])
        · rcases h.free done r' rest rfl q ((mem_upsert hfree).mpr (.inr ⟨hq, hqr⟩)) hsome heq with
            heq' | hmem
          · exact .inl heq'
          · exact .inr (List.mem_cons_of_mem _ hmem)

/-- The table has, for each row of the list, a row of its own. -/
def HoldsEach (t : Table key attr) (rs : List α) : Prop :=
  (rs.map key).Nodup ∧ ∀ r ∈ rs, r ∈ t.rows

/-- **The upserts of a list**: the table has each of its rows exactly when the
list fits. -/
theorem holdsEach_upsertAll_iff {rs : List α} : (t.upsertAll rs).HoldsEach rs ↔ t.Fits rs := by
  induction rs generalizing t with
  | nil =>
      refine ⟨fun _ => ⟨List.nodup_nil, List.Pairwise.nil, ?_⟩, fun _ => ⟨List.nodup_nil, by simp⟩⟩
      intro done r rest h
      simp at h
  | cons r rs ih =>
      rw [fits_cons, ← ih]
      change ((t.upsert r).upsertAll rs).HoldsEach (r :: rs) ↔ _
      -- the later rows have other keys, so the first one is there at the end if it was put
      have hfirst : key r ∉ rs.map key →
          (r ∈ ((t.upsert r).upsertAll rs).rows ↔ r ∈ (t.upsert r).rows) := mem_upsertAll_of_notMem
      constructor
      · rintro ⟨hkeys, hall⟩
        rw [List.map_cons, List.nodup_cons] at hkeys
        have hput : r ∈ (t.upsert r).rows := (hfirst hkeys.1).mp (hall r List.mem_cons_self)
        have hrest : ∀ q ∈ rs, q ∈ ((t.upsert r).upsertAll rs).rows :=
          fun q hq => hall q (List.mem_cons_of_mem _ hq)
        refine ⟨?_, hkeys.1, fun q hq hsome heq => ?_, hkeys.2, hrest⟩
        · rw [held_eq_false]
          intro q hq hsome heq
          cases hheld : held key attr t.rows r with
          | false => exact held_eq_false.mp hheld q hq hsome heq
          | true =>
              rw [upsert_of_held hheld] at hput
              rw [t.attrs q hq r hput hsome heq]
        · have heq' := ((t.upsert r).upsertAll rs).attrs r (hall r List.mem_cons_self) q (hrest q hq)
            hsome heq
          exact hkeys.1 (heq' ▸ List.mem_map_of_mem hq)
      · rintro ⟨hfree, hkey, -, hkeys, hrest⟩
        refine ⟨List.nodup_cons.mpr ⟨hkey, hkeys⟩, ?_⟩
        intro q hq
        rcases List.mem_cons.mp hq with rfl | hq
        · exact (hfirst hkey).mpr ((mem_upsert hfree).mpr (.inl rfl))
        · exact hrest q hq

end Table

end KeyedTable
