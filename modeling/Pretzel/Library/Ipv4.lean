import Mathlib.Tactic

/-!
IPv4 addresses and their texts, as `inet_ntop` writes and `inet_pton` reads them.

* `Ipv4`: the four octets. `ntop`: the dotted text.
* `octet`, `pton`: a decimal number up to 255 without a leading zero, and four of
  them with dots between.
* `pton_ntop`: what is written is read back. `mem_ntop`: it consists of digits and
  dots.
-/

/-- An IPv4 address. -/
structure Ipv4 where
  a : Fin 256
  b : Fin 256
  c : Fin 256
  d : Fin 256
deriving DecidableEq, Repr

namespace Ipv4

/-- The digits of an octet. -/
def digits (n : Fin 256) : List Char := Nat.toDigits 10 n.val

/-- The characters of `inet_ntop`. -/
def chars (ip : Ipv4) : List Char :=
  digits ip.a ++ '.' :: (digits ip.b ++ '.' :: (digits ip.c ++ '.' :: digits ip.d))

/-- `inet_ntop`. -/
def ntop (ip : Ipv4) : String := String.ofList ip.chars

/-- One number of `inet_pton`. -/
def octet (text : List Char) : Option (Fin 256) :=
  if text = [] || !text.all Char.isDigit || (text.head? = some '0' && text ≠ ['0']) then none
  else
    let n := text.foldl (fun n c => 10 * n + (c.toNat - 48)) 0
    if h : n < 256 then some ⟨n, h⟩ else none

/-- `inet_pton`. -/
def pton (text : String) : Option Ipv4 :=
  match (text.toList.splitOn '.').map octet with
  | [some a, some b, some c, some d] => some ⟨a, b, c, d⟩
  | _ => none

/-! ### Octets -/

lemma octet_digits : ∀ n : Fin 256, octet (digits n) = some n := by decide +kernel

lemma digits_isDigit : ∀ n : Fin 256, (digits n).all Char.isDigit = true := by decide +kernel

lemma not_dot_of_mem_digits {n : Fin 256} : ∀ c ∈ digits n, (c == '.') = false := by
  intro c hc
  have hdigit : c.isDigit = true := List.all_eq_true.mp (digits_isDigit n) c hc
  rw [beq_eq_false_iff_ne]
  rintro rfl
  cases hdigit

/-! ### Addresses -/

variable {ip ip' : Ipv4}

@[simp]
lemma toList_ntop : ip.ntop.toList = ip.chars := String.toList_ofList

/-- **An address is read back from its text.** -/
@[simp]
theorem pton_ntop : pton ip.ntop = some ip := by
  have hsplit : ip.ntop.toList.splitOn '.' =
      [digits ip.a, digits ip.b, digits ip.c, digits ip.d] := by
    rw [toList_ntop, chars, List.splitOn_eq_splitOnP,
      List.splitOnP_append_cons_of_forall_mem not_dot_of_mem_digits '.' rfl,
      List.splitOnP_append_cons_of_forall_mem not_dot_of_mem_digits '.' rfl,
      List.splitOnP_append_cons_of_forall_mem not_dot_of_mem_digits '.' rfl,
      List.splitOnP_eq_singleton not_dot_of_mem_digits]
  rw [pton, hsplit]
  simp only [List.map_cons, List.map_nil, octet_digits]

lemma ntop_injective : Function.Injective ntop := by
  intro ip ip' h
  have hread : pton ip.ntop = pton ip'.ntop := congrArg pton h
  rw [pton_ntop, pton_ntop] at hread
  exact Option.some.inj hread

/-- The text consists of digits and dots. -/
lemma mem_ntop {c : Char} (h : c ∈ ip.ntop.toList) : c.isDigit = true ∨ c = '.' := by
  have hdigit : ∀ n : Fin 256, c ∈ digits n → c.isDigit = true :=
    fun n hc => List.all_eq_true.mp (digits_isDigit n) c hc
  rw [toList_ntop, chars] at h
  simp only [List.mem_append, List.mem_cons] at h
  rcases h with h | rfl | h | rfl | h | rfl | h
  · exact .inl (hdigit _ h)
  · exact .inr rfl
  · exact .inl (hdigit _ h)
  · exact .inr rfl
  · exact .inl (hdigit _ h)
  · exact .inr rfl
  · exact .inl (hdigit _ h)

end Ipv4
