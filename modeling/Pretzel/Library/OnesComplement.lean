import Mathlib.Tactic

/-!
Sums in one's complement, 16 bits wide.

* `endAround`: the carries put back at the low end, until there are none.
* `endAround_lt`, `endAround_mod`, `endAround_eq_zero_iff`: the residue it keeps,
  and which of the two zeros it is.
* `endAround_add_complement`: **a sum and its complement are the negative zero**.
* `add_complement_lt`: and they fit where the sum did.
* `total`: the 16-bit words of a byte string, added up.
-/

namespace OnesComplement

/-- The carries above the 16 bits put back at the low end, until there are none. -/
def endAround (n : ℕ) : ℕ := if n / 65536 ≠ 0 then endAround (n % 65536 + n / 65536) else n
termination_by n
decreasing_by omega

lemma endAround_lt (n : ℕ) : endAround n < 65536 := by
  induction n using endAround.induct with
  | case1 n h ih => rwa [endAround, if_pos h]
  | case2 n h =>
      rw [endAround, if_neg h]
      omega

/-- A carry put back changes nothing modulo the largest word. -/
lemma endAround_mod (n : ℕ) : endAround n % 65535 = n % 65535 := by
  induction n using endAround.induct with
  | case1 n h ih =>
      rw [endAround, if_pos h, ih]
      omega
  | case2 n h => rw [endAround, if_neg h]

lemma endAround_eq_zero_iff (n : ℕ) : endAround n = 0 ↔ n = 0 := by
  induction n using endAround.induct with
  | case1 n h ih =>
      rw [endAround, if_pos h, ih]
      omega
  | case2 n h => rw [endAround, if_neg h]

/-- **A sum and its complement are the negative zero.** -/
theorem endAround_add_complement (n : ℕ) : endAround (n + (65535 - endAround n)) = 65535 := by
  have hlt := endAround_lt n
  have hmod := endAround_mod n
  have hzero := endAround_eq_zero_iff n
  have hlt' := endAround_lt (n + (65535 - endAround n))
  have hmod' := endAround_mod (n + (65535 - endAround n))
  have hzero' := endAround_eq_zero_iff (n + (65535 - endAround n))
  omega

/-- The complement is too small to carry a sum over the end of 32 bits. -/
lemma add_complement_lt {n : ℕ} (h : n < 2 ^ 32) : n + (65535 - endAround n) < 2 ^ 32 := by
  have hlt := endAround_lt n
  have hmod := endAround_mod n
  have hzero := endAround_eq_zero_iff n
  omega

/-- The words of a byte string added up; a byte left over is the high byte of a
word. -/
def total : List UInt8 → ℕ
  | a :: b :: rest => a.toNat * 256 + b.toNat + total rest
  | [a] => a.toNat * 256
  | [] => 0

end OnesComplement
