import Pretzel.Library.Texts

/-!
Forms: pairs of a key and a value, joined by a separator.

* `pieces`: a text read piece by piece, up to its end.
* `formText`: the text of a form.
* `find?_pieces`: a search of the pieces is a search of the split text.
* `find?_formText`: **a search of a form's text is a search of its pairs.**
* `takeWhile_pairText`, `isPrefix_pairText_iff`: two ways to ask for a key.
-/

namespace Texts

section Form

variable {α : Type} [DecidableEq α] {sep eq : α}

/-- The pieces of a text between separators: a piece is read up to the next
separator or the end, and nothing is read at the end. -/
def pieces (sep : α) : List α → List α → List (List α)
  | piece, [] => if piece = [] then [] else [piece]
  | piece, c :: rest =>
      if c = sep then piece :: pieces sep [] rest else pieces sep (piece ++ [c]) rest

/-- A key and its value. -/
def pairText (eq : α) (field : List α × List α) : List α := field.1 ++ eq :: field.2

/-- The pairs in order, a separator between two. -/
def formText (sep eq : α) (fields : List (List α × List α)) : List α :=
  [sep].intercalate (fields.map (pairText eq))

lemma find?_pieces_from {p : List α → Bool} (hp : p [] = false) (piece text : List α) :
    (pieces sep piece text).find? p =
      ((text.splitOn sep).modifyHead (piece ++ ·)).find? p := by
  induction text generalizing piece with
  | nil =>
      rw [pieces, List.splitOn_nil, List.modifyHead_cons, List.append_nil]
      split
      · next h => simp [h, hp]
      · rfl
  | cons c rest ih =>
      rw [pieces, List.splitOn_cons_eq_if_modifyHead]
      by_cases hc : c = sep
      · rw [if_pos hc, if_pos (by simpa using hc), List.modifyHead_cons, List.append_nil,
          List.find?_cons, List.find?_cons, ih]
        have hid : ∀ ps : List (List α), ps.modifyHead ([] ++ ·) = ps := by
          intro ps
          cases ps <;> rfl
        rw [hid]
      · rw [if_neg hc, if_neg (by simpa using hc), ih, List.modifyHead_modifyHead]
        congr 2
        funext tail
        simp

/-- Where no empty piece is looked for, the pieces are those of the split text. -/
lemma find?_pieces {p : List α → Bool} (hp : p [] = false) (text : List α) :
    (pieces sep [] text).find? p = (text.splitOn sep).find? p := by
  rw [find?_pieces_from hp]
  cases text.splitOn sep <;> rfl

/-- **A search of a form's text is a search of its pairs.** -/
theorem find?_formText {p : List α → Bool} (hp : p [] = false) {fields : List (List α × List α)}
    (hfree : ∀ field ∈ fields, sep ∉ pairText eq field) :
    ((formText sep eq fields).splitOn sep).find? p =
      (fields.find? fun field => p (pairText eq field)).map (pairText eq) := by
  by_cases hempty : fields = []
  · subst hempty
    rw [formText, List.map_nil]
    simp [hp]
  · rw [formText, List.splitOn_intercalate, List.find?_map]
    · rfl
    · intro piece hpiece
      obtain ⟨field, hfield, rfl⟩ := List.mem_map.mp hpiece
      exact hfree field hfield
    · simpa using hempty

/-- What stands before the first mark is the key. -/
lemma takeWhile_pairText {field : List α × List α} (h : eq ∉ field.1) :
    (pairText eq field).takeWhile (· ≠ eq) = field.1 := (takeWhile_split h field.2).1

lemma dropWhile_pairText {field : List α × List α} (h : eq ∉ field.1) :
    (pairText eq field).dropWhile (· ≠ eq) = eq :: field.2 := (takeWhile_split h field.2).2

/-- A key and its mark stand at the front of a pair only where it is the pair's
key: there is no second mark. -/
lemma isPrefix_pairText_iff {field : List α × List α} (hkey : eq ∉ field.1) (hvalue : eq ∉ field.2)
    {key : List α} : key ++ [eq] <+: pairText eq field ↔ field.1 = key := by
  constructor
  · rintro ⟨tail, htail⟩
    rw [List.append_assoc, List.singleton_append] at htail
    have hcount := congrArg (List.count eq) htail
    have hmark : eq ∉ key := by
      intro hmem
      have hpos := List.count_pos_iff.mpr hmem
      rw [pairText, List.count_append, List.count_cons_self, List.count_append,
        List.count_cons_self, List.count_eq_zero.mpr hkey, List.count_eq_zero.mpr hvalue] at hcount
      omega
    rw [← takeWhile_pairText hkey, ← htail]
    exact (takeWhile_split hmark tail).1
  · rintro rfl
    exact ⟨field.2, by simp [pairText]⟩

/-- The one pair of its key. -/
lemma find?_key_of_mem {β : Type} {fields : List (List α × β)}
    (hnodup : (fields.map Prod.fst).Nodup) {field : List α × β} (h : field ∈ fields) :
    (fields.find? fun other => other.1 = field.1) = some field := by
  induction fields with
  | nil => cases h
  | cons first rest ih =>
      rw [List.map_cons, List.nodup_cons] at hnodup
      rcases List.mem_cons.mp h with rfl | h
      · simp
      · have hne : first.1 ≠ field.1 := by
          intro heq
          exact hnodup.1 (heq ▸ List.mem_map_of_mem h)
        rw [List.find?_cons_of_neg (by simpa using hne), ih hnodup.2 h]

/-- A key that no pair has. -/
lemma find?_key_eq_none {β : Type} {fields : List (List α × β)} {key : List α}
    (h : key ∉ fields.map Prod.fst) : (fields.find? fun other => other.1 = key) = none := by
  rw [List.find?_eq_none]
  intro field hfield
  rw [decide_eq_true_eq]
  rintro rfl
  exact h (List.mem_map_of_mem hfield)

end Form

end Texts
