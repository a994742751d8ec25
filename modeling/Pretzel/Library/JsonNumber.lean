import Pretzel.Library.Json

/-!
Numbers of a JSON document, read at `double` and at `int`.

* `roundDouble`: the double closest to an integer, ties to even.
* `Json.getDouble`, `Json.valueDouble`: the typed reads.
* `Json.rat?`: the number a value stands for.
* `rat?_toDouble`: **a double is the integer it was read from exactly when 53 bits
  hold it.**
* `rat?_getInt32`: **an `int` is the number it was read from exactly when that is an
  integer in the range.**
-/

namespace Nlohmann

/-! ### Doubles -/

/-- The double closest to an integer, ties to even: its significand and exponent. -/
def roundDouble (n : ℕ) : ℕ × ℕ :=
  let k := n.log2 - 52
  let q := n / 2 ^ k
  let r := 2 * (n % 2 ^ k)
  (if 2 ^ k < r ∨ (r = 2 ^ k ∧ q % 2 = 1) then q + 1 else q, k)

/-- The integer is a double: its significand has 53 bits. -/
def FitsDouble (n : ℕ) : Prop := ∃ m e, m < 2 ^ 53 ∧ n = m * 2 ^ e

lemma fitsDouble_iff {n : ℕ} : FitsDouble n ↔ 2 ^ (n.log2 - 52) ∣ n := by
  constructor
  · rintro ⟨m, e, hm, rfl⟩
    by_contra hnot
    have hlt : e < (m * 2 ^ e).log2 - 52 := by
      by_contra hge
      exact hnot ((Nat.pow_dvd_pow 2 (not_lt.mp hge)).trans (Dvd.intro_left m rfl))
    have hne : m * 2 ^ e ≠ 0 := by
      intro hzero
      rw [hzero] at hnot
      exact hnot (dvd_zero _)
    have hlow := Nat.log2_self_le hne
    have hpow : 2 ^ (53 + e) ≤ 2 ^ (m * 2 ^ e).log2 := Nat.pow_le_pow_right (by norm_num) (by omega)
    have hhigh : m * 2 ^ e < 2 ^ (53 + e) := by
      rw [pow_add]
      exact Nat.mul_lt_mul_of_pos_right hm (by positivity)
    omega
  · rintro ⟨q, hq⟩
    refine ⟨q, n.log2 - 52, ?_, by rw [mul_comm]; exact hq⟩
    by_contra hbig
    have hlog := Nat.lt_log2_self (n := n)
    have hle : 2 ^ (n.log2 + 1) ≤ 2 ^ (53 + (n.log2 - 52)) :=
      Nat.pow_le_pow_right (by norm_num) (by omega)
    have hge : 2 ^ (53 + (n.log2 - 52)) ≤ n := by
      calc 2 ^ (53 + (n.log2 - 52)) = 2 ^ (n.log2 - 52) * 2 ^ 53 := by rw [pow_add, mul_comm]
        _ ≤ 2 ^ (n.log2 - 52) * q := Nat.mul_le_mul_left _ (not_lt.mp hbig)
        _ = n := hq.symm
    omega

/-- **The closest double is the integer itself exactly when it is a double.** -/
theorem roundDouble_eq_iff {n : ℕ} :
    (roundDouble n).1 * 2 ^ (roundDouble n).2 = n ↔ FitsDouble n := by
  rw [fitsDouble_iff, Nat.dvd_iff_mod_eq_zero, roundDouble]
  dsimp only
  generalize hk : n.log2 - 52 = k
  have hsplit : 2 ^ k * (n / 2 ^ k) + n % 2 ^ k = n := Nat.div_add_mod n (2 ^ k)
  have hmod : n % 2 ^ k < 2 ^ k := Nat.mod_lt _ (by positivity)
  rw [mul_comm] at hsplit
  split
  · next hup =>
      have hpos : 0 < 2 ^ k := by positivity
      rw [Nat.add_mul, one_mul]
      constructor <;> intro h <;> omega
  · constructor <;> intro h <;> omega

namespace Json

/-- A double from an integer. -/
def toDouble (i : ℤ) : Json :=
  .float (i.sign * (roundDouble i.natAbs).1) (roundDouble i.natAbs).2

/-- `get<double>()`. -/
def getDouble : Json → Except JsonError Json
  | .int i => .ok (toDouble i)
  | .float m e => .ok (.float m e)
  | _ => .error .wrongType

/-- `value(key, fallback)` at `double`. -/
def valueDouble (j : Json) (key : String) (fallback : Json) : Except JsonError Json :=
  j.valueWith getDouble key fallback

/-- The number is there, or nothing is. -/
def numberOrAbsent (j : Json) (key : String) : Bool := ((j.find? key).map isNumber).getD true

/-- The double under the key, or the fallback. -/
def doubleOr (j : Json) (key : String) (fallback : Json) : Json :=
  match j.find? key with
  | some (.int i) => toDouble i
  | some (.float m e) => .float m e
  | _ => fallback

/-- A double read from an object, by what the object has there. -/
lemma valueDouble_eq_ok_iff {j : Json} (h : j.isObject = true) {key : String} {fallback d : Json} :
    j.valueDouble key fallback = .ok d ↔
      j.numberOrAbsent key = true ∧ d = j.doubleOr key fallback := by
  obtain ⟨ms, rfl⟩ := isObject_iff.mp h
  rw [valueDouble, valueWith_obj, numberOrAbsent, doubleOr]
  cases (Json.obj ms).find? key with
  | none => simp [eq_comm]
  | some v => cases v <;> simp [getDouble, isNumber, eq_comm]

/-- The number a value stands for. -/
def rat? : Json → Option ℚ
  | .int i => some i
  | .float m e => some (m * 2 ^ e)
  | _ => none

/-- A number that is a double as it stands. -/
def IsDouble : Json → Prop
  | .int i => FitsDouble i.natAbs
  | .float _ _ => True
  | _ => False

/-- **A double is the integer it was read from exactly when 53 bits hold it.** -/
lemma rat?_toDouble {i : ℤ} (hi : 0 < i) :
    (toDouble i).rat? = some (i : ℚ) ↔ FitsDouble i.natAbs := by
  rw [← roundDouble_eq_iff, toDouble, rat?, Option.some.injEq, Int.sign_eq_one_of_pos hi, one_mul]
  generalize roundDouble i.natAbs = p
  have hvalue : (((p.1 : ℕ) : ℤ) : ℚ) * 2 ^ ((p.2 : ℕ) : ℤ) = ((p.1 * 2 ^ p.2 : ℕ) : ℤ) := by
    push_cast
    rw [zpow_natCast]
  rw [hvalue, Int.cast_inj]
  omega

/-! ### Integers of 32 bits -/

/-- A number that is an integer of the range of `int32`, and not negative. -/
def IsInt32 (j : Json) : Prop := ∃ n : ℕ, n < 2 ^ 31 ∧ j.rat? = some (n : ℚ)

/-- What a double that is an integer truncates to. -/
lemma truncFloat_of_eq {m e : ℤ} {n : ℤ} (h : (m : ℚ) * 2 ^ e = n) : truncFloat m e = n := by
  rw [truncFloat]
  rcases le_or_gt 0 e with he | he
  · rw [if_pos he]
    obtain ⟨k, rfl⟩ := Int.eq_ofNat_of_zero_le he
    rw [zpow_natCast] at h
    exact_mod_cast h
  · rw [if_neg (not_le.mpr he)]
    obtain ⟨k, hk⟩ := Int.eq_ofNat_of_zero_le (neg_nonneg.mpr he.le)
    have hneg : e = -(k : ℤ) := by omega
    subst hneg
    have hm : m = n * 2 ^ k := by
      rw [zpow_neg, zpow_natCast, mul_inv_eq_iff_eq_mul₀ (by positivity)] at h
      exact_mod_cast h
    rw [hm, neg_neg, Int.toNat_natCast, Int.mul_tdiv_cancel _ (by positivity)]

lemma bmod_bounds (i : ℤ) : -2 ^ 31 ≤ Int.bmod i (2 ^ 32) ∧ Int.bmod i (2 ^ 32) < 2 ^ 31 := by
  have hlow := Int.le_bmod (x := i) (m := 2 ^ 32) (by norm_num)
  have hhigh := Int.bmod_lt (x := i) (m := 2 ^ 32) (by norm_num)
  norm_num at hlow hhigh ⊢
  omega

lemma bmod_of_range {i : ℤ} (h0 : 0 ≤ i) (h : i < 2 ^ 31) : Int.bmod i (2 ^ 32) = i := by
  apply Int.bmod_eq_of_le <;> omega

/-- **An `int` is the number it was read from exactly when that is an integer in the
range.** -/
lemma rat?_getInt32 {v : Json} {r : ℤ} {q : ℚ} (hr : v.getInt32 = .ok r) (hq : v.rat? = some q)
    (hnonneg : 0 ≤ q) : (r : ℚ) = q ↔ v.IsInt32 := by
  have hrange : -2 ^ 31 ≤ r ∧ r < 2 ^ 31 := by
    cases v with
    | int i =>
        cases hr
        exact bmod_bounds i
    | float m e =>
        cases hr
        exact bmod_bounds _
    | _ => cases hq
  constructor
  · intro heq
    have hpos : 0 ≤ r := by
      rw [← heq] at hnonneg
      exact_mod_cast hnonneg
    obtain ⟨n, rfl⟩ := Int.eq_ofNat_of_zero_le hpos
    refine ⟨n, by omega, ?_⟩
    rw [hq, ← heq]
    rfl
  · rintro ⟨n, hn, heq⟩
    have hqn : q = n := Option.some.inj (hq.symm.trans heq)
    subst hqn
    have hlt : (n : ℤ) < 2 ^ 31 := by exact_mod_cast hn
    cases v with
    | int i =>
        cases hr
        rw [rat?, Option.some.injEq] at hq
        have hi : i = n := by exact_mod_cast hq
        rw [hi, bmod_of_range (Int.natCast_nonneg n) hlt]
        rfl
    | float m e =>
        cases hr
        rw [rat?, Option.some.injEq] at hq
        rw [truncFloat_of_eq (n := n) (by exact_mod_cast hq),
          bmod_of_range (Int.natCast_nonneg n) hlt]
        rfl
    | _ => cases hq

end Json

end Nlohmann
