import Mathlib.Data.List.TakeWhile
import Mathlib.Tactic

/-!
Texts as bytes: the bytes of a text and the text some bytes stand for, and what
`std::string::find` finds.

* `textBytes`, `utf8Text`: the bytes of a text, and back where they are UTF-8.
* `afterFirst`, `beforeFirst`: what follows and what precedes the first place of
  one text in another. `splitLast`: what stands on the two sides of the last place
  of a character.
* `stoi`, `portOf`: a number read from the front of a text.
* `utf8Text_textBytes`: a text is read back from its bytes.
* `afterFirst_eq_none_iff`, `not_mem_of_mem_splitOn`, `mem_of_splitOn`,
  `infix_of_mem_splitOn`: what is found in a text, and the pieces of one.
* `splitLast_eq_some_iff`, `splitLast_eq_none_iff`, `takeWhile_split`: a text apart at the
  last place of a character, or at the first. `forall_last_iff`, `forall_first_iff`: what
  holds at every such place.
* `isUtf8`: bytes that are a text. `isUtf8_append`: bytes behind a text.
-/

namespace Texts

/-- The bytes of a text. -/
def textBytes (text : String) : List UInt8 := text.toUTF8.data.toList

/-- The text of some bytes, if they are UTF-8. -/
def utf8Text (bytes : List UInt8) : Option String := String.fromUTF8? ⟨bytes.toArray⟩

section Find

variable {α : Type} [BEq α]

/-- What follows the first place of a text, as `std::string::find` finds it. -/
def afterFirst (text : List α) : List α → Option (List α)
  | [] => if text.isEmpty then some [] else none
  | c :: rest =>
      if text.isPrefixOf (c :: rest) then some ((c :: rest).drop text.length)
      else afterFirst text rest

/-- What precedes the first place of a text. -/
def beforeFirst (text : List α) : List α → Option (List α)
  | [] => if text.isEmpty then some [] else none
  | c :: rest =>
      if text.isPrefixOf (c :: rest) then some []
      else (beforeFirst text rest).map (c :: ·)

/-- What precedes and what follows the last place of a character. -/
def splitLast (c : α) (text : List α) : Option (List α × List α) :=
  if text.elem c then
    some ((text.reverse.dropWhile (· != c)).tail.reverse, (text.reverse.takeWhile (· != c)).reverse)
  else none

end Find

/-- `std::stoi`, none where it throws. -/
def stoi (text : List Char) : Option ℤ :=
  let text := text.dropWhile fun c => c = ' ' || ('\t' ≤ c && c ≤ '\r')
  let negative := text.head? = some '-'
  let text := if negative || text.head? = some '+' then text.tail else text
  match text.takeWhile Char.isDigit with
  | [] => none
  | digits =>
      let n : ℕ := digits.foldl (fun n c => 10 * n + (c.toNat - 48)) 0
      let i : ℤ := if negative then -n else n
      if -2 ^ 31 ≤ i ∧ i < 2 ^ 31 then some i else none

/-- A port, as `std::uint16_t`. -/
def portOf (text : List Char) : Option ℕ := (stoi text).map fun i => (i % 2 ^ 16).toNat

/-- **A text is read back from its bytes.** -/
@[simp]
lemma utf8Text_textBytes (text : String) : utf8Text (textBytes text) = some text := by
  have hbytes : (⟨(textBytes text).toArray⟩ : ByteArray) = text.toUTF8 := by
    rw [textBytes, Array.toArray_toList]
  rw [utf8Text, hbytes, String.fromUTF8?, String.toUTF8_eq_toByteArray, dif_pos text.isValidUTF8]
  rfl

@[simp]
lemma textBytes_append (s t : String) : textBytes (s ++ t) = textBytes s ++ textBytes t := by
  simp [textBytes, String.toUTF8_eq_toByteArray]

/-- The bytes of an array, read one after the other. -/
lemma toList_loop (bytes : ByteArray) (i : ℕ) (read : List UInt8) :
    ByteArray.toList.loop bytes i read = read.reverse ++ bytes.data.toList.drop i := by
  induction i, read using ByteArray.toList.loop.induct bytes with
  | case1 i read hi ih =>
      have hlt : i < bytes.data.toList.length := by simpa using hi
      have hget : bytes.get! i = bytes.data.toList[i] := getElem!_pos bytes.data i hi
      rw [ByteArray.toList.loop, if_pos hi, ih, List.reverse_cons, List.append_assoc,
        List.singleton_append, hget, List.getElem_cons_drop]
  | case2 i read hi =>
      have hle : bytes.data.toList.length ≤ i := by simpa using hi
      rw [ByteArray.toList.loop, if_neg hi, List.drop_eq_nil_of_le hle, List.append_nil]

lemma toList_toUTF8 (text : String) : text.toUTF8.toList = textBytes text := by
  rw [ByteArray.toList, toList_loop]
  rfl

@[simp]
lemma textBytes_eq_nil {text : String} : textBytes text = [] ↔ text = "" := by
  constructor
  · intro h
    have hempty : utf8Text (textBytes text) = utf8Text (textBytes "") := congrArg utf8Text h
    rw [utf8Text_textBytes, utf8Text_textBytes] at hempty
    exact Option.some.inj hempty
  · rintro rfl
    rfl

/-! ### Pieces -/

/-- What is found stands somewhere. -/
lemma afterFirst_eq_none_iff {text s : List Char} : afterFirst text s = none ↔ ¬text <:+: s := by
  induction s with
  | nil =>
      rw [afterFirst, List.infix_nil]
      cases text <;> simp
  | cons c rest ih =>
      rw [afterFirst, List.infix_cons_iff, not_or, ← ih]
      split
      · next h => simp [List.isPrefixOf_iff_prefix.mp h]
      · next h =>
          have hfront : ¬text <+: c :: rest := fun h' => h (List.isPrefixOf_iff_prefix.mpr h')
          simp [hfront]

/-- A piece between separators has none. -/
lemma not_mem_of_mem_splitOn {sep : Char} {s l : List Char} (h : l ∈ s.splitOn sep) : sep ∉ l := by
  induction s generalizing l with
  | nil =>
      rw [List.splitOn_nil, List.mem_singleton] at h
      rw [h]
      exact List.not_mem_nil
  | cons c s ih =>
      rw [List.splitOn_cons_eq_if_modifyHead] at h
      split at h
      · rcases List.mem_cons.mp h with rfl | h
        · exact List.not_mem_nil
        · exact ih h
      · next hsep =>
          obtain ⟨first, others, hsplit⟩ := List.exists_cons_of_ne_nil (List.splitOn_ne_nil sep s)
          rw [hsplit] at ih h
          rw [List.modifyHead_cons] at h
          rcases List.mem_cons.mp h with rfl | h
          · rw [List.mem_cons, not_or]
            exact ⟨fun heq => hsep (by simp [heq]), ih List.mem_cons_self⟩
          · exact ih (List.mem_cons_of_mem _ h)

/-- A character of a text is a separator, or stands between two. -/
lemma mem_of_splitOn {α : Type} [BEq α] [LawfulBEq α] (sep : α) {c : α} {s : List α} (h : c ∈ s) :
    c = sep ∨ ∃ l ∈ s.splitOn sep, c ∈ l := by
  induction s with
  | nil => cases h
  | cons d s ih =>
      obtain ⟨first, others, hsplit⟩ := List.exists_cons_of_ne_nil (List.splitOn_ne_nil sep s)
      rw [hsplit] at ih
      rw [List.splitOn_cons_eq_if_modifyHead, hsplit, List.modifyHead_cons]
      rcases List.mem_cons.mp h with rfl | h
      · split
        · next heq => exact .inl (eq_of_beq heq)
        · exact .inr ⟨c :: first, List.mem_cons_self, List.mem_cons_self⟩
      · rcases ih h with rfl | ⟨l, hl, hc⟩
        · exact .inl rfl
        · refine .inr ?_
          split
          · exact ⟨l, List.mem_cons_of_mem _ hl, hc⟩
          · rcases List.mem_cons.mp hl with rfl | hl
            · exact ⟨d :: l, List.mem_cons_self, List.mem_cons_of_mem _ hc⟩
            · exact ⟨l, List.mem_cons_of_mem _ hl, hc⟩

/-- A piece between separators stands in the text. -/
lemma infix_of_mem_splitOn {α : Type} [BEq α] [LawfulBEq α] {sep : α} {s l : List α}
    (h : l ∈ s.splitOn sep) : l <:+: s := by
  have hsplit : [sep].intercalate (s.splitOn sep) = s := List.intercalate_splitOn sep
  rw [← hsplit]
  generalize s.splitOn sep = pieces at h
  induction pieces with
  | nil => cases h
  | cons first others ih =>
      cases others with
      | nil =>
          obtain rfl := List.mem_singleton.mp h
          rw [List.intercalate_singleton]
      | cons second others =>
          rw [List.intercalate_cons_cons]
          rcases List.mem_cons.mp h with rfl | h
          · rw [List.append_assoc]
            exact (List.prefix_append l _).isInfix
          · exact (ih h).trans (List.suffix_append _ _).isInfix

/-! ### The two sides of a character -/

section Split

variable {α : Type} [BEq α] [LawfulBEq α] {c : α} {text before behind : List α}

lemma splitLast_of_mem (h : c ∉ behind) :
    splitLast c (before ++ c :: behind) = some (before, behind) := by
  have hall : ∀ d ∈ behind.reverse, (d != c) = true := by
    intro d hd
    rw [bne_iff_ne]
    rintro rfl
    exact h (List.mem_reverse.mp hd)
  rw [splitLast, if_pos (by simp), List.reverse_append, List.reverse_cons, List.append_assoc,
    List.takeWhile_append_of_pos hall, List.dropWhile_append_of_pos hall]
  simp

/-- A text is split at the last place of the character. -/
lemma splitLast_eq_some_iff :
    splitLast c text = some (before, behind) ↔ text = before ++ c :: behind ∧ c ∉ behind := by
  constructor
  · intro h
    have hmem : c ∈ text := by
      by_contra hnot
      rw [splitLast, if_neg (by simpa using hnot)] at h
      cases h
    obtain ⟨last, first, hsplit, hlast⟩ :=
      List.eq_append_cons_of_mem (List.mem_reverse.mpr hmem)
    have htext : text = first.reverse ++ c :: last.reverse := by
      rw [← List.reverse_reverse text, hsplit]
      simp
    rw [htext, splitLast_of_mem (by simpa using hlast)] at h
    cases h
    exact ⟨htext, by simpa using hlast⟩
  · rintro ⟨rfl, hbehind⟩
    exact splitLast_of_mem hbehind

lemma splitLast_eq_none_iff : splitLast c text = none ↔ c ∉ text := by
  rw [splitLast]
  split
  · next hmem => simpa using hmem
  · next hmem => simpa using hmem

/-- What holds at every last place holds at this one. -/
lemma forall_last_iff {p : List α → List α → Prop} (h : c ∉ behind) :
    (∀ front back, before ++ c :: behind = front ++ c :: back → c ∉ back → p front back) ↔
      p before behind := by
  constructor
  · intro hall
    exact hall before behind rfl h
  · intro hp front back htext hback
    have hplace := (splitLast_eq_some_iff.mpr ⟨htext, hback⟩).symm.trans (splitLast_of_mem h)
    cases hplace
    exact hp

end Split

/-! ### The first place of a character -/

section First

variable {α : Type} [DecidableEq α] {c : α} {text before behind : List α}

lemma decide_ne_of_not_mem (h : c ∉ text) : ∀ d ∈ text, decide (d ≠ c) = true := by
  intro d hd
  rw [decide_eq_true_eq]
  exact ne_of_mem_of_not_mem hd h

/-- A text is taken whole where the character has no place in it. -/
lemma takeWhile_ne_eq_self_iff : text.takeWhile (· ≠ c) = text ↔ c ∉ text := by
  rw [List.takeWhile_eq_self_iff]
  refine ⟨fun h hmem => ?_, decide_ne_of_not_mem⟩
  exact of_decide_eq_true (h c hmem) rfl

/-- The first place of a character, and the only way to come to it. -/
lemma takeWhile_split (h : c ∉ before) (behind : List α) :
    (before ++ c :: behind).takeWhile (· ≠ c) = before ∧
      (before ++ c :: behind).dropWhile (· ≠ c) = c :: behind := by
  have hall := decide_ne_of_not_mem h
  constructor
  · rw [List.takeWhile_append_of_pos hall, List.takeWhile_cons_of_neg (by simp), List.append_nil]
  · rw [List.dropWhile_append_of_pos hall, List.dropWhile_cons_of_neg (by simp)]

/-- What holds at every first place holds at this one. -/
lemma forall_first_iff {p : List α → List α → Prop} (h : c ∉ before) :
    (∀ front back, before ++ c :: behind = front ++ c :: back → c ∉ front → p front back) ↔
      p before behind := by
  constructor
  · intro hall
    exact hall before behind rfl h
  · intro hp front back htext hfront
    obtain ⟨htake, hdrop⟩ := takeWhile_split h behind
    obtain ⟨htake', hdrop'⟩ := takeWhile_split hfront back
    rw [htext, htake'] at htake
    rw [htext, hdrop'] at hdrop
    cases hdrop
    rw [htake]
    exact hp

end First

/-! ### Bytes that are a text -/

/-- The bytes are UTF-8. -/
def isUtf8 (bytes : List UInt8) : Bool := (utf8Text bytes).isSome

@[simp]
lemma isUtf8_textBytes (text : String) : isUtf8 (textBytes text) = true := by
  rw [isUtf8, utf8Text_textBytes]
  rfl

@[simp]
lemma isUtf8_nil : isUtf8 [] = true := isUtf8_textBytes ""

lemma isUtf8_iff {bytes : List UInt8} :
    isUtf8 bytes = true ↔ ByteArray.IsValidUTF8 ⟨bytes.toArray⟩ := by
  rw [isUtf8, utf8Text, String.fromUTF8?]
  split
  · next h => exact iff_of_true rfl h
  · next h => exact iff_of_false Bool.false_ne_true h

lemma isValidUTF8_append_iff (l : List Char) (b : ByteArray) :
    ByteArray.IsValidUTF8 (l.utf8Encode ++ b) ↔ b.IsValidUTF8 := by
  induction l with
  | nil => simp
  | cons c l ih =>
      rw [← List.singleton_append, List.utf8Encode_append, ByteArray.append_assoc,
        ByteArray.isValidUTF8_utf8Encode_singleton_append_iff, ih]

/-- **Bytes behind a text are a text exactly where they are one alone.** -/
@[simp]
theorem isUtf8_append (text : String) (bytes : List UInt8) :
    isUtf8 (textBytes text ++ bytes) = isUtf8 bytes := by
  have hbytes : (⟨(textBytes text ++ bytes).toArray⟩ : ByteArray) =
      text.toList.utf8Encode ++ ⟨bytes.toArray⟩ := by
    rw [String.utf8Encode_toList]
    apply ByteArray.ext
    simp [textBytes, String.toUTF8_eq_toByteArray]
  rw [Bool.eq_iff_iff, isUtf8_iff, isUtf8_iff, hbytes, isValidUTF8_append_iff]

end Texts
