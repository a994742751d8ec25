import Mathlib.Tactic

/-!
Numbers as bytes, most significant first.

* `encode`: the low bytes of a number, as many as asked for.
* `decode`: the number that bytes stand for.
* `decode_encode`: a number comes back as long as it fits.
* `encode_decode`: the bytes of what they stand for are the bytes themselves.
-/

namespace BigEndian

/-- The low bytes of a number, most significant first. -/
def encode : ℕ → ℕ → List UInt8
  | 0, _ => []
  | width + 1, n => UInt8.ofNat (n / 256 ^ width) :: encode width n

/-- The number that bytes stand for, most significant first. -/
def decode : List UInt8 → ℕ
  | [] => 0
  | b :: bs => b.toNat * 256 ^ bs.length + decode bs

@[simp] lemma length_encode (width n : ℕ) : (encode width n).length = width := by
  induction width with
  | zero => rfl
  | succ width ih => rw [encode, List.length_cons, ih]

/-- Decoding gives back what fits in the bytes. -/
lemma decode_encode_mod (width n : ℕ) : decode (encode width n) = n % 256 ^ width := by
  induction width with
  | zero => simp [encode, decode, Nat.mod_one]
  | succ width ih =>
      rw [encode, decode, ih, length_encode, UInt8.toNat_ofNat', show 2 ^ 8 = 256 from rfl,
        Nat.mod_pow_succ, Nat.mul_comm, Nat.add_comm]

/-- **A number that fits comes back.** -/
theorem decode_encode {width n : ℕ} (h : n < 256 ^ width) : decode (encode width n) = n := by
  rw [decode_encode_mod, Nat.mod_eq_of_lt h]

/-- Bytes stand for a number that fits in them. -/
lemma decode_lt (bs : List UInt8) : decode bs < 256 ^ bs.length := by
  induction bs with
  | nil => simp [decode]
  | cons b bs ih =>
      have hb : b.toNat < 256 := b.toNat_lt
      calc decode (b :: bs) = b.toNat * 256 ^ bs.length + decode bs := rfl
        _ < b.toNat * 256 ^ bs.length + 256 ^ bs.length := by omega
        _ = (b.toNat + 1) * 256 ^ bs.length := by ring
        _ ≤ 256 * 256 ^ bs.length := Nat.mul_le_mul_right _ hb
        _ = 256 ^ (b :: bs).length := by rw [List.length_cons, Nat.pow_succ, Nat.mul_comm]

/-- The low bytes do not see what stands above them. -/
lemma encode_mul_add {w : ℕ} (width a n : ℕ) (h : width ≤ w) :
    encode width (a * 256 ^ w + n) = encode width n := by
  induction width with
  | zero => rfl
  | succ width ih =>
      have hpos : 0 < 256 ^ width := Nat.pow_pos (by omega)
      have hw : 256 ^ w = 256 ^ width * (256 * 256 ^ (w - (width + 1))) := by
        rw [← Nat.pow_succ', ← Nat.pow_add]
        congr 1
        omega
      have hdiv : (a * 256 ^ w + n) / 256 ^ width
          = n / 256 ^ width + 256 * (a * 256 ^ (w - (width + 1))) := by
        rw [hw, show a * (256 ^ width * (256 * 256 ^ (w - (width + 1)))) + n
            = n + 256 ^ width * (256 * (a * 256 ^ (w - (width + 1)))) by ring,
          Nat.add_mul_div_left _ _ hpos]
      rw [encode, encode, ih (by omega), hdiv]
      congr 1
      refine UInt8.toNat_inj.mp ?_
      simp

/-- **Bytes come back** from the number they stand for. -/
theorem encode_decode (bs : List UInt8) : encode bs.length (decode bs) = bs := by
  induction bs with
  | nil => rfl
  | cons b bs ih =>
      have hpos : 0 < 256 ^ bs.length := Nat.pow_pos (by omega)
      have hhead : (b.toNat * 256 ^ bs.length + decode bs) / 256 ^ bs.length = b.toNat := by
        rw [Nat.add_comm, Nat.add_mul_div_right _ _ hpos, Nat.div_eq_of_lt (decode_lt bs),
          Nat.zero_add]
      rw [List.length_cons, decode, encode, hhead, encode_mul_add _ _ _ le_rfl, ih]
      simp

end BigEndian
