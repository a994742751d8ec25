import Mathlib.Data.List.TakeWhile
import Pretzel.Library.Ipv4
import Pretzel.Library.Texts

/-!
A host with a port behind a colon.

* `IsPort`: digits alone, of a value that is a port.
* `isIpv6`: the text of an IPv6 address, as `inet_pton` takes it.
* `Separated`: a text taken apart into its host and its port, or kept whole with the
  default one; an IPv6 address in it stays intact.
* `stoi_digits`, `portOf_digits`: `std::stoi` on digits.
* `two_le_count_of_isIpv6`: an address has two colons at least.
* `separated_iff`: **a text taken apart at a colon**.
-/

namespace Texts

/-! ### Ports -/

/-- The value of some digits. -/
def decimal (digits : List Char) : ℕ := digits.foldl (fun n c => 10 * n + (c.toNat - 48)) 0

/-- Digits alone, and their value is a port. -/
def IsPort (digits : List Char) : Prop :=
  digits ≠ [] ∧ digits.all Char.isDigit = true ∧ 1 ≤ decimal digits ∧ decimal digits < 2 ^ 16

instance (digits : List Char) : Decidable (IsPort digits) :=
  inferInstanceAs (Decidable (_ ∧ _ ∧ _ ∧ _))

/-- A character that is no digit stands in no port. -/
lemma IsPort.not_mem {digits : List Char} (h : IsPort digits) {c : Char} (hc : c.isDigit = false) :
    c ∉ digits := by
  intro hmem
  rw [List.all_eq_true.mp h.2.1 c hmem] at hc
  cases hc

/-- A digit is no blank and no sign. -/
lemma isDigit_plain {c : Char} (h : c.isDigit = true) :
    (decide (c = ' ') || (decide ('\t' ≤ c) && decide (c ≤ '\r'))) = false ∧ c ≠ '-' ∧ c ≠ '+' := by
  have hblank : decide (c ≤ '\r') = false := by
    rw [decide_eq_false_iff_not]
    intro hle
    have h13 : ('\r' : Char).toNat = 13 := rfl
    simp only [Char.isDigit, Bool.and_eq_true, decide_eq_true_eq, ge_iff_le,
      UInt32.le_iff_toNat_le, Char.toNat_val] at h
    rw [Char.le_def, UInt32.le_iff_toNat_le, Char.toNat_val, Char.toNat_val, h13] at hle
    have h48 : ('0' : Char).toNat = 48 := rfl
    omega
  refine ⟨?_, ?_, ?_⟩
  · rw [hblank, Bool.and_false, Bool.or_false, decide_eq_false_iff_not]
    rintro rfl
    cases h
  · rintro rfl
    cases h
  · rintro rfl
    cases h

/-- **`std::stoi` on digits.** -/
lemma stoi_digits {digits : List Char} (hne : digits ≠ []) (h : ∀ c ∈ digits, c.isDigit = true)
    (hlt : decimal digits < 2 ^ 31) : stoi digits = some (decimal digits : ℤ) := by
  obtain ⟨c, rest, rfl⟩ := List.exists_cons_of_ne_nil hne
  obtain ⟨hblank, hminus, hplus⟩ := isDigit_plain (h c List.mem_cons_self)
  have htake : (c :: rest).takeWhile Char.isDigit = c :: rest := List.takeWhile_eq_self_iff.mpr h
  have hsign : ((c :: rest).head? = some '-') = False := by simpa using hminus
  have hsign' : ((c :: rest).head? = some '+') = False := by simpa using hplus
  have hdrop : (c :: rest).dropWhile (fun c => decide (c = ' ') || (decide ('\t' ≤ c) &&
      decide (c ≤ '\r'))) = c :: rest := List.dropWhile_cons_of_neg (by rw [hblank]; decide)
  rw [stoi]
  simp only [hdrop, hsign, hsign', htake, decide_false, Bool.false_or, Bool.false_eq_true, if_false]
  rw [if_pos]
  · rfl
  · rw [decimal] at hlt
    omega

/-- A port is read as its value. -/
lemma portOf_digits {digits : List Char} (h : IsPort digits) :
    portOf digits = some (decimal digits) := by
  obtain ⟨hne, hdigits, -, hlt⟩ := h
  rw [portOf, stoi_digits hne (List.all_eq_true.mp hdigits) (by omega), Option.map_some]
  congr 1
  omega

lemma portOf_eq_none_iff {text : List Char} : portOf text = none ↔ stoi text = none := by
  rw [portOf, Option.map_eq_none_iff]

/-! ### IPv6 addresses -/

/-- One group of an address: up to four hexadecimal digits. -/
def hexGroup (group : List Char) : Bool :=
  group ≠ [] && group.length ≤ 4 && group.all fun c =>
    c.isDigit || ('a' ≤ c && c ≤ 'f') || ('A' ≤ c && c ≤ 'F')

/-- How many groups stand for these pieces, of which the last may be an IPv4
address. -/
def width : List (List Char) → Option ℕ
  | [] => some 0
  | [group] =>
      if hexGroup group then some 1
      else if (Ipv4.pton (String.ofList group)).isSome then some 2 else none
  | group :: rest => if hexGroup group then (width rest).map (· + 1) else none

/-- What stands before or behind the gap of an address. -/
def side (text : List Char) : Option ℕ := if text = [] then some 0 else width (text.splitOn ':')

/-- **The text of an IPv6 address**: eight groups, or fewer around a gap. -/
def isIpv6 (text : List Char) : Bool :=
  match beforeFirst "::".toList text, afterFirst "::".toList text with
  | some front, some back =>
      (front.all fun c => c ≠ '.') && match side front, side back with
        | some m, some n => m + n ≤ 7
        | _, _ => false
  | _, _ => width (text.splitOn ':') = some 8

/-- The last piece stands for two groups at most, every other one for one. -/
lemma width_le {groups : List (List Char)} {n : ℕ} (h : width groups = some n) :
    n ≤ groups.length + 1 := by
  induction groups generalizing n with
  | nil =>
      cases h
      exact Nat.zero_le _
  | cons group rest ih =>
      cases rest with
      | nil =>
          rw [width] at h
          split at h
          · cases h
            exact Nat.le_add_left 1 1
          · split at h
            · cases h
              exact Nat.le_refl 2
            · cases h
      | cons group' rest =>
          rw [width] at h
          · split at h
            · obtain ⟨m, hm, rfl⟩ := Option.map_eq_some_iff.mp h
              have hle := ih hm
              rw [List.length_cons]
              omega
            · cases h
          · exact fun hnil => nomatch hnil

/-- A text has a piece more than separators. -/
lemma length_splitOn (sep : Char) (text : List Char) :
    (text.splitOn sep).length = text.count sep + 1 := by
  induction text with
  | nil => rfl
  | cons c text ih =>
      rw [List.splitOn_cons_eq_if_modifyHead]
      split
      · next hsep =>
          rw [List.length_cons, ih, eq_of_beq hsep, List.count_cons_self]
      · next hsep =>
          rw [List.length_modifyHead, ih, List.count_cons, if_neg hsep]

/-- **An address has two colons at least.** -/
lemma two_le_count_of_isIpv6 {text : List Char} (h : isIpv6 text = true) : 2 ≤ text.count ':' := by
  by_cases hgap : "::".toList <:+: text
  · exact hgap.sublist.count_le ':'
  · rw [isIpv6, afterFirst_eq_none_iff.mpr hgap] at h
    have hwidth : width (text.splitOn ':') = some 8 := by simpa using h
    have hle := width_le hwidth
    rw [length_splitOn] at hle
    omega

/-! ### A host and its port -/

/-- **A text taken apart into its host and its port**: the port is the value of the
digits behind a colon, and the host what stands before it; or the text is kept whole,
with the default port. An IPv6 address, bare or in brackets, is not cut. -/
structure Separated (dflt : ℕ) (text host : List Char) (port : ℕ) : Prop where
  taken : (∃ digits, text = host ++ ':' :: digits ∧ IsPort digits ∧ decimal digits = port) ∨
    (host = text ∧ port = dflt)
  bare : isIpv6 text = true → host = text
  bracketed : ∀ address rest, text = '[' :: address ++ [']'] ++ rest → isIpv6 address = true →
    rest = [] ∨ rest.head? = some ':' → '[' :: address ++ [']'] <+: host

variable {dflt port : ℕ} {text host rest : List Char}

/-- A text kept whole. -/
lemma Separated.whole : Separated dflt text text dflt where
  taken := .inr ⟨rfl, rfl⟩
  bare := fun _ => rfl
  bracketed := by
    rintro address rest rfl - -
    exact List.prefix_append _ _

/-- **A text taken apart at a colon** is so rightly where a port stands behind it,
unless the text is an IPv6 address. -/
theorem separated_iff :
    Separated dflt (host ++ ':' :: rest) host port ↔
      (IsPort rest ∧ decimal rest = port) ∧ isIpv6 (host ++ ':' :: rest) = false := by
  have hlonger : host ≠ host ++ ':' :: rest := by simp
  constructor
  · intro h
    constructor
    · rcases h.taken with ⟨digits, htext, hport⟩ | ⟨hwhole, -⟩
      · rw [List.append_cancel_left_eq, List.cons.injEq] at htext
        rw [htext.2]
        exact hport
      · exact absurd hwhole hlonger
    · rw [← Bool.not_eq_true]
      exact fun haddress => hlonger (h.bare haddress)
  · rintro ⟨⟨hport, hvalue⟩, haddress⟩
    refine ⟨.inl ⟨rest, rfl, hport, hvalue⟩, fun h => ?_, fun address behind htext _ _ => ?_⟩
    · rw [haddress] at h
      cases h
    · -- The closing bracket is no digit, so that the colon stands behind it.
      rcases List.append_eq_append_iff.mp htext with ⟨middle, hbracket, hrest⟩ | ⟨middle, hhost, -⟩
      · by_cases hmiddle : middle = []
        · rw [hmiddle, List.append_nil] at hbracket
          rw [hbracket]
        · have hlast : middle.getLast? = some ']' := by
            rw [← List.getLast?_append_of_ne_nil host hmiddle, ← hbracket, List.getLast?_concat]
          have hmem : ']' ∈ ':' :: rest := by
            rw [hrest]
            exact List.mem_append_left behind (List.mem_of_getLast? hlast)
          rcases List.mem_cons.mp hmem with hcolon | hmem
          · cases hcolon
          · exact absurd hmem (hport.not_mem rfl)
      · rw [hhost]
        exact List.prefix_append _ _

end Texts
