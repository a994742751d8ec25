import Mathlib.Tactic

/-!
Base 64: bytes regrouped by six bits, and the running values that loops keep on
the way.

* `bitsOf`, `value`: a byte by its bits, the highest first; bits as a number.
* `sextets`: bits in groups of six, the last filled up with zeros.
* `encoded`: the text, filled up to a multiple of four characters.
* `Accumulator`: what a loop does with its running value. `unbounded` and
  `int32`, the `int` of the machine, whose shift to the right copies the sign.
* `Accumulator.Follows`: **the low bits of one are those of the unbounded one**,
  whatever was shifted out. `int32_follows`.
* `emit`: the groups of six that are complete. `emit_sextets`.
-/

namespace Base64

/-! ### The text -/

/-- A byte by its bits. -/
def bitsOf (b : UInt8) : List Bool :=
  [b.toNat.testBit 7, b.toNat.testBit 6, b.toNat.testBit 5, b.toNat.testBit 4,
    b.toNat.testBit 3, b.toNat.testBit 2, b.toNat.testBit 1, b.toNat.testBit 0]

/-- Bits as a number. -/
def value (bits : List Bool) : ℕ := bits.foldl (fun n bit => 2 * n + bit.toNat) 0

/-- Groups of six, the last filled up with zeros. -/
def sextets : List Bool → List ℕ
  | [] => []
  | a :: b :: c :: d :: e :: f :: rest => value [a, b, c, d, e, f] :: sextets rest
  | last => [value (last ++ List.replicate (6 - last.length) false)]

/-- The sixty-four digits. -/
def alphabet : List UInt8 :=
  "ABCDEFGHIJKLMNOPQRSTUVWXYZabcdefghijklmnopqrstuvwxyz0123456789+/".toList.map
    fun c => UInt8.ofNat c.toNat

/-- The digit of a value. -/
def digit (v : ℕ) : UInt8 := alphabet.getD v 0

/-- What fills a text of so many digits up to a multiple of four. -/
def padding (digits : ℕ) : List UInt8 := List.replicate ((4 - digits % 4) % 4) 61

/-- The text of digits. -/
def textOf (groups : List ℕ) : List UInt8 := groups.map digit ++ padding groups.length

/-- The base 64 text of a byte string. -/
def encoded (data : List UInt8) : List UInt8 := textOf (sextets (data.flatMap bitsOf))

lemma value_append (front back : List Bool) :
    value (front ++ back) = value front * 2 ^ back.length + value back := by
  induction back using List.reverseRecOn with
  | nil => simp [value]
  | append_singleton back bit ih =>
      have hsnoc : ∀ bits : List Bool, value (bits ++ [bit]) = 2 * value bits + bit.toNat := by
        intro bits
        simp [value]
      rw [← List.append_assoc, hsnoc, hsnoc, ih, List.length_append, List.length_singleton,
        pow_succ]
      ring

lemma value_lt (bits : List Bool) : value bits < 2 ^ bits.length := by
  induction bits using List.reverseRecOn with
  | nil => decide
  | append_singleton bits bit ih =>
      rw [value_append, List.length_append, List.length_singleton, pow_succ]
      cases bit
      · change value bits * 2 + 0 < _
        omega
      · change value bits * 2 + 1 < _
        omega

lemma value_replicate_false (k : ℕ) : value (List.replicate k false) = 0 := by
  induction k with
  | zero => rfl
  | succ k ih => rw [List.replicate_succ', value_append, ih, Nat.zero_mul]; rfl

lemma value_bitsOf (b : UInt8) : value (bitsOf b) = b.toNat := by
  have hall : ∀ n : Fin 256, value (bitsOf (UInt8.ofNat n)) = n := by decide +kernel
  have hb := hall ⟨b.toNat, b.toNat_lt⟩
  rwa [UInt8.ofNat_toNat] at hb

lemma length_bitsOf (b : UInt8) : (bitsOf b).length = 8 := rfl

/-- A whole group comes off the front. -/
lemma sextets_append {six : List Bool} (h : six.length = 6) (rest : List Bool) :
    sextets (six ++ rest) = value six :: sextets rest := by
  match six, h with
  | [_, _, _, _, _, _], _ => rfl

/-- Zeros that fill up the last group change nothing. -/
lemma sextets_fill {last : List Bool} (hne : last ≠ []) (h : last.length ≤ 6) :
    sextets (last ++ List.replicate (6 - last.length) false) = sextets last := by
  match last, hne, h with
  | [_], _, _ => rfl
  | [_, _], _, _ => rfl
  | [_, _, _], _, _ => rfl
  | [_, _, _, _], _, _ => rfl
  | [_, _, _, _, _], _, _ => rfl
  | [_, _, _, _, _, _], _, _ => rfl

/-- What is left over is one group. -/
lemma sextets_short {last : List Bool} (hne : last ≠ []) (h : last.length < 6) :
    sextets last = [value last * 2 ^ (6 - last.length)] := by
  have hlength : (last ++ List.replicate (6 - last.length) false).length = 6 := by
    rw [List.length_append, List.length_replicate]
    omega
  have hwhole := sextets_append hlength []
  rw [List.append_nil, sextets_fill hne h.le, value_append, value_replicate_false,
    List.length_replicate, Nat.add_zero] at hwhole
  exact hwhole

/-! ### Running values -/

/-- What a loop does with its running value: bits are shifted in at the low end,
by `|` or by `+`, and a window of the bits is read under a mask. -/
structure Accumulator (β : Type) where
  zero : β
  shiftOr : β → ℕ → ℕ → β
  shiftAdd : β → ℕ → ℕ → β
  window : β → ℕ → ℕ → ℕ

/-- A value without bound. -/
def unbounded : Accumulator ℕ where
  zero := 0
  shiftOr acc k v := acc <<< k ||| v
  shiftAdd acc k v := acc <<< k + v
  window acc r mask := acc >>> r &&& mask

/-- `int`, of 32 bits: what is shifted out is lost, and a shift to the right
copies the sign. -/
def int32 : Accumulator (BitVec 32) where
  zero := 0
  shiftOr acc k v := acc <<< k ||| BitVec.ofNat 32 v
  shiftAdd acc k v := acc <<< k + BitVec.ofNat 32 v
  window acc r mask := (acc.sshiftRight r &&& BitVec.ofNat 32 mask).toNat

/-- The value stands for an unbounded one, of which its low bits are left. -/
structure Accumulator.Follows {β : Type} (A : Accumulator β) (w : ℕ) (stands : β → ℕ → Prop) :
    Prop where
  zero : stands A.zero 0
  shiftOr : ∀ {acc n}, stands acc n → ∀ k v, stands (A.shiftOr acc k v) (n <<< k ||| v)
  shiftAdd : ∀ {acc n}, stands acc n → ∀ k v, stands (A.shiftAdd acc k v) (n <<< k + v)
  window : ∀ {acc n}, stands acc n → ∀ r bits, r + bits ≤ w →
    A.window acc r (2 ^ bits - 1) = unbounded.window n r (2 ^ bits - 1)

lemma ofNat_shiftLeft (n k : ℕ) : BitVec.ofNat 32 n <<< k = BitVec.ofNat 32 (n <<< k) := by
  refine BitVec.eq_of_toNat_eq ?_
  rw [BitVec.toNat_shiftLeft, BitVec.toNat_ofNat, BitVec.toNat_ofNat, Nat.shiftLeft_eq,
    Nat.shiftLeft_eq, Nat.mod_mul_mod]

/-- **No bit of a window is lost or copied of the sign** while the window lies within
the 32 bits. -/
theorem int32_follows : int32.Follows 32 fun acc n => acc = BitVec.ofNat 32 n where
  zero := rfl
  shiftOr := by
    rintro _ n rfl k v
    change BitVec.ofNat 32 n <<< k ||| BitVec.ofNat 32 v = _
    rw [ofNat_shiftLeft, BitVec.ofNat_or]
  shiftAdd := by
    rintro _ n rfl k v
    change BitVec.ofNat 32 n <<< k + BitVec.ofNat 32 v = _
    rw [ofNat_shiftLeft, BitVec.ofNat_add]
  window := by
    rintro _ n rfl r bits hbits
    refine Nat.eq_of_testBit_eq fun i => ?_
    change ((BitVec.ofNat 32 n).sshiftRight r &&& BitVec.ofNat 32 (2 ^ bits - 1)).toNat.testBit i
      = (n >>> r &&& 2 ^ bits - 1).testBit i
    rw [BitVec.testBit_toNat, BitVec.getLsbD_and, BitVec.getLsbD_sshiftRight, BitVec.getLsbD_ofNat,
      BitVec.getLsbD_ofNat, Nat.testBit_and, Nat.testBit_shiftRight, Nat.testBit_two_pow_sub_one]
    by_cases hi : i < bits
    · have hlt : r + i < 32 := by omega
      have hlow : i < 32 := by omega
      simp [hi, hlt, hlow]
    · simp [hi]

/-! ### Groups that are complete -/

/-- The groups of six of the pending bits that are complete, and how many bits are
left pending. -/
def Accumulator.emit {β : Type} (A : Accumulator β) (acc : β) (pending : ℕ) : List ℕ × ℕ :=
  if 6 ≤ pending then
    let (groups, left) := A.emit acc (pending - 6)
    (A.window acc (pending - 6) 63 :: groups, left)
  else ([], pending)
termination_by pending

lemma Accumulator.Follows.emit {β : Type} {A : Accumulator β} {stands : β → ℕ → Prop}
    (hA : A.Follows 32 stands) {acc : β} {n : ℕ} (h : stands acc n) {pending : ℕ}
    (hpending : pending ≤ 32) : A.emit acc pending = unbounded.emit n pending := by
  induction pending using Nat.strong_induction_on with
  | _ pending ih =>
      rw [Accumulator.emit]
      conv_rhs => rw [Accumulator.emit]
      split
      · have hwindow := hA.window h (pending - 6) 6 (by omega)
        rw [ih (pending - 6) (by omega) (by omega)]
        exact congrArg (fun w => (w :: _, _)) hwindow
      · rfl

lemma emit_left {β : Type} (A : Accumulator β) (acc : β) (pending : ℕ) :
    (A.emit acc pending).2 < 6 := by
  induction pending using Nat.strong_induction_on with
  | _ pending ih =>
      rw [Accumulator.emit]
      split
      · exact ih (pending - 6) (by omega)
      · next h => exact not_le.mp h

/-- A window above the pending bits, and what it leaves. -/
lemma window_value {six rest : List Bool} {n : ℕ}
    (h : n % 2 ^ (rest.length + 6) = value (six ++ rest)) :
    unbounded.window n rest.length 63 = value six ∧ n % 2 ^ rest.length = value rest := by
  have hlt := value_lt rest
  rw [value_append, pow_add] at h
  have hdiv : n / 2 ^ rest.length % 2 ^ 6 = value six := by
    rw [← Nat.mod_mul_right_div_self, h, Nat.add_comm, Nat.add_mul_div_right _ _ (by positivity),
      Nat.div_eq_of_lt hlt, Nat.zero_add]
  have hmod : n % 2 ^ rest.length = value rest := by
    rw [← Nat.mod_mul_right_mod n _ (2 ^ 6), h, Nat.add_comm, Nat.add_mul_mod_self_right,
      Nat.mod_eq_of_lt hlt]
  refine ⟨?_, hmod⟩
  change n >>> rest.length &&& 2 ^ 6 - 1 = _
  rw [Nat.and_two_pow_sub_one_eq_mod, Nat.shiftRight_eq_div_pow, hdiv]

/-- **What is emitted are the groups of the pending bits**, whatever follows them. -/
theorem emit_sextets {bits : List Bool} {n : ℕ} (h : n % 2 ^ bits.length = value bits) :
    ∃ left : List Bool, (unbounded.emit n bits.length).2 = left.length ∧ left.length < 6 ∧
      n % 2 ^ left.length = value left ∧ ∀ tail, sextets (bits ++ tail) =
        (unbounded.emit n bits.length).1 ++ sextets (left ++ tail) := by
  induction hk : bits.length using Nat.strong_induction_on generalizing bits with
  | _ k ih =>
      subst hk
      rw [Accumulator.emit]
      by_cases hlen : 6 ≤ bits.length
      · rw [if_pos hlen]
        have hsplit : bits.take 6 ++ bits.drop 6 = bits := List.take_append_drop 6 bits
        have hsix : (bits.take 6).length = 6 := by
          rw [List.length_take]
          omega
        have hrest : (bits.drop 6).length = bits.length - 6 := List.length_drop
        have hsum : (bits.drop 6).length + 6 = bits.length := by omega
        have hall : n % 2 ^ ((bits.drop 6).length + 6) = value (bits.take 6 ++ bits.drop 6) := by
          rw [hsum, hsplit, h]
        obtain ⟨hwindow, hmod⟩ := window_value hall
        obtain ⟨left, hleft, hlt, hvalue, htail⟩ := ih _ (by omega) hmod rfl
        rw [← hrest]
        refine ⟨left, hleft, hlt, hvalue, fun tail => ?_⟩
        rw [hwindow, List.cons_append, ← htail, ← sextets_append hsix, ← List.append_assoc, hsplit]
      · rw [if_neg hlen]
        exact ⟨bits, rfl, by omega, h, fun tail => rfl⟩

end Base64
