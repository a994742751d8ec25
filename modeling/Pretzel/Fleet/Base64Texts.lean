import Pretzel.Collectord.ApiUtil
import Pretzel.Library.Base64
import Pretzel.Mgmtd.SsoController
import Pretzel.Util.SealedText

/-!
The base 64 of `util/Secret.cpp`, of authd's `SamlClient.cpp`, of collectord's
`ApiUtil.cpp` and of mgmtd's `SsoController.cpp`, against one text.

Two decoders and one encoder keep a running `int` that is never masked. Each loop
is written over an `Accumulator`, and read at `int32`.

* `Secret.base64Encode`, `SsoController.ssoBase64`, `ApiUtil.base64`: the encoders.
* `Secret.base64Decode`, `SamlClient.base64Decode`: the decoders.
* `follows_secret`, `follows_saml`, `follows_api`: a loop gives what it gives with
  unbounded values.
* `base64Encode_eq`, `apiBase64_eq`: what is written is the text.
* **`base64_texts`**: and the decoders read it back.
-/

namespace Pretzel.Fleet

open Base64 Texts

/-! ### The loops -/

section Loops

variable {β : Type} (A : Accumulator β)

/-- `base64Encode` of `Secret.cpp`. -/
def Secret.base64Encode (data : List UInt8) : List UInt8 := Authd.base64Encode data

/-- `ssoBase64`. -/
def SsoController.ssoBase64 (data : List UInt8) : List UInt8 := Authd.base64Encode data

/-- The loop of `base64Decode` of `Secret.cpp`: the bytes pushed from here on. -/
def Secret.base64Loop : List UInt8 → β → ℕ → List UInt8
  | [], _, _ => []
  | c :: rest, buf, bits =>
      if c = 61 then []
      else
        match Authd.base64Val c with
        | none => Secret.base64Loop rest buf bits
        | some v =>
            let buf := A.shiftOr buf 6 v.toNat
            let bits := bits + 6
            if bits ≥ 8 then
              let bits := bits - 8
              UInt8.ofNat (A.window buf bits 255) :: Secret.base64Loop rest buf bits
            else Secret.base64Loop rest buf bits

/-- `base64Decode` of `Secret.cpp`. -/
def Secret.base64Decode (text : List UInt8) : List UInt8 := Secret.base64Loop A text A.zero 0

/-- A blank, to `SamlClient`. -/
def isBlank (c : UInt8) : Bool := c = 10 ∨ c = 13 ∨ c = 32 ∨ c = 9

/-- The loop of `base64Decode` of `SamlClient.cpp`. -/
def SamlClient.base64Loop : List UInt8 → β → ℕ → Option (List UInt8)
  | [], _, _ => some []
  | c :: rest, buf, bits =>
      if c = 61 then some []
      else if isBlank c then SamlClient.base64Loop rest buf bits
      else
        match Authd.base64Val c with
        | none => none
        | some v =>
            let buf := A.shiftOr buf 6 v.toNat
            let bits := bits + 6
            if bits ≥ 8 then
              let bits := bits - 8
              (SamlClient.base64Loop rest buf bits).map (UInt8.ofNat (A.window buf bits 255) :: ·)
            else SamlClient.base64Loop rest buf bits

/-- `base64Decode` of `SamlClient.cpp`, `none` where it returns false. -/
def SamlClient.base64Decode (text : List UInt8) : Option (List UInt8) :=
  SamlClient.base64Loop A text A.zero 0

/-- The loop of `base64` of `ApiUtil.cpp`: `pending` is its `bits`, and six more. -/
def ApiUtil.base64Loop : List UInt8 → β → ℕ → List ℕ
  | [], val, pending =>
      if 0 < pending then [A.window (A.shiftAdd val 8 0) (pending + 2) 63] else []
  | c :: rest, val, pending =>
      let val := A.shiftAdd val 8 c.toNat
      let (groups, pending) := A.emit val (pending + 8)
      groups ++ ApiUtil.base64Loop rest val pending

/-- `base64` of `ApiUtil.cpp`. -/
def ApiUtil.base64 (data : List UInt8) : List UInt8 :=
  textOf (ApiUtil.base64Loop A data A.zero 0)

end Loops

/-! ### The running value -/

section Follows

variable {β : Type} {A : Accumulator β} {stands : β → ℕ → Prop} {acc : β} {n : ℕ}

lemma follows_secret (hA : A.Follows 32 stands) (text : List UInt8) (h : stands acc n) {bits : ℕ}
    (hbits : bits < 8) :
    Secret.base64Loop A text acc bits = Secret.base64Loop unbounded text n bits := by
  induction text generalizing acc n bits with
  | nil => rfl
  | cons c rest ih =>
      rw [Secret.base64Loop, Secret.base64Loop]
      split
      · rfl
      · cases Authd.base64Val c with
        | none => exact ih h hbits
        | some v =>
            have hpush := hA.shiftOr h 6 v.toNat
            dsimp only
            split
            · next hfull =>
                have hwindow := hA.window hpush (bits + 6 - 8) 8 (by omega)
                rw [ih hpush (by omega)]
                exact congrArg (fun w => UInt8.ofNat w :: _) hwindow
            · exact ih hpush (by omega)

lemma follows_saml (hA : A.Follows 32 stands) (text : List UInt8) (h : stands acc n) {bits : ℕ}
    (hbits : bits < 8) :
    SamlClient.base64Loop A text acc bits = SamlClient.base64Loop unbounded text n bits := by
  induction text generalizing acc n bits with
  | nil => rfl
  | cons c rest ih =>
      rw [SamlClient.base64Loop, SamlClient.base64Loop]
      split
      · rfl
      · split
        · exact ih h hbits
        · cases Authd.base64Val c with
          | none => rfl
          | some v =>
              have hpush := hA.shiftOr h 6 v.toNat
              dsimp only
              split
              · next hfull =>
                  have hwindow := hA.window hpush (bits + 6 - 8) 8 (by omega)
                  rw [ih hpush (by omega)]
                  exact congrArg (fun w => Option.map (UInt8.ofNat w :: ·) _) hwindow
              · exact ih hpush (by omega)

lemma follows_api (hA : A.Follows 32 stands) (data : List UInt8) (h : stands acc n) {pending : ℕ}
    (hpending : pending < 6) :
    ApiUtil.base64Loop A data acc pending = ApiUtil.base64Loop unbounded data n pending := by
  induction data generalizing acc n pending with
  | nil =>
      rw [ApiUtil.base64Loop, ApiUtil.base64Loop]
      have hwindow := hA.window (hA.shiftAdd h 8 0) (pending + 2) 6 (by omega)
      exact congrArg (fun w => if 0 < pending then [w] else []) hwindow
  | cons c rest ih =>
      rw [ApiUtil.base64Loop, ApiUtil.base64Loop]
      have hpush := hA.shiftAdd h 8 c.toNat
      have hemit := hA.emit hpush (show pending + 8 ≤ 32 by omega)
      have hleft := emit_left unbounded (n <<< 8 + c.toNat) (pending + 8)
      dsimp only
      rw [hemit]
      exact congrArg (_ ++ ·) (ih hpush hleft)

end Follows

/-! ### The loops of the earlier models -/

/-- The buffer of a decoder takes a digit. -/
lemma push_or (n : ℕ) (v : UInt32) :
    UInt32.ofNat n <<< 6 ||| v = UInt32.ofNat (n <<< 6 ||| v.toNat) := by
  refine UInt32.toNat_inj.mp ?_
  rw [UInt32.toNat_or, UInt32.toNat_shiftLeft, UInt32.toNat_ofNat', UInt32.toNat_ofNat',
    Nat.or_mod_two_pow, Nat.mod_eq_of_lt v.toNat_lt]
  change (n % 2 ^ 32) <<< 6 % 2 ^ 32 ||| _ = _
  rw [Nat.shiftLeft_eq, Nat.shiftLeft_eq, Nat.mod_mul_mod]

/-- A byte is pushed of the buffer. -/
lemma pulled_eq (n : ℕ) {bits : ℕ} (h : bits < 8) :
    (UInt32.ofNat n >>> UInt32.ofNat bits).toUInt8 = UInt8.ofNat (unbounded.window n bits 255) := by
  have hbits : (UInt32.ofNat bits).toNat = bits := by
    rw [UInt32.toNat_ofNat']
    omega
  have hlt : UInt32.ofNat bits < 32 := by
    rw [UInt32.lt_iff_toNat_lt, hbits]
    exact lt_trans h (by decide)
  have hmask : unbounded.window n bits 255 = n / 2 ^ bits % 2 ^ 8 := by
    change n >>> bits &&& 2 ^ 8 - 1 = _
    rw [Nat.and_two_pow_sub_one_eq_mod, Nat.shiftRight_eq_div_pow]
  refine UInt8.toNat_inj.mp ?_
  rw [Authd.toNat_pulled _ _ hlt, UInt32.toNat_ofNat', hbits, hmask, UInt8.toNat_ofNat',
    Nat.mod_mod]
  interval_cases bits <;> omega

/-- The bits a decoder holds, a digit later. -/
lemma bits_later {bits : ℕ} (h : bits < 8) :
    (UInt32.ofNat bits + 6 ≥ 8 ↔ bits + 6 ≥ 8) ∧
      (bits + 6 ≥ 8 → UInt32.ofNat bits + 6 - 8 = UInt32.ofNat (bits + 6 - 8)) ∧
      UInt32.ofNat bits + 6 = UInt32.ofNat (bits + 6) := by
  interval_cases bits <;> decide

lemma authdLoop_eq (text : List UInt8) (n : ℕ) {bits : ℕ} (h : bits < 8) :
    Authd.base64Loop text (UInt32.ofNat n) (UInt32.ofNat bits) =
      SamlClient.base64Loop unbounded text n bits := by
  induction text generalizing n bits with
  | nil => rfl
  | cons c rest ih =>
      obtain ⟨hfull, hless, hmore⟩ := bits_later h
      rw [Authd.base64Loop, SamlClient.base64Loop]
      split
      · rfl
      · refine ite_congr (by simp [isBlank]) (fun _ => ih n h) fun _ => ?_
        cases Authd.base64Val c with
        | none => rfl
        | some v =>
            dsimp only
            rw [push_or]
            refine ite_congr (by simpa using hfull) (fun hge => ?_) fun hnot => ?_
            · rw [hless hge, ih _ (by omega), pulled_eq _ (by omega)]
              rfl
            · rw [hmore]
              exact ih _ (by omega)

lemma secretLoop_eq (text : List UInt8) (n : ℕ) {bits : ℕ} (h : bits < 8) :
    Util.base64Loop text (UInt32.ofNat n) (UInt32.ofNat bits) =
      Secret.base64Loop unbounded text n bits := by
  induction text generalizing n bits with
  | nil => rfl
  | cons c rest ih =>
      obtain ⟨hfull, hless, hmore⟩ := bits_later h
      rw [Util.base64Loop, Secret.base64Loop]
      split
      · rfl
      · cases Authd.base64Val c with
        | none => exact ih n h
        | some v =>
            dsimp only
            rw [push_or]
            refine ite_congr (by simpa using hfull) (fun hge => ?_) fun hnot => ?_
            · rw [hless hge, ih _ (by omega), pulled_eq _ (by omega)]
              rfl
            · rw [hmore]
              exact ih _ (by omega)

/-! ### What the encoders write -/

/-- A digit of the encoders is the digit of a window. -/
lemma digit_window (m k : UInt32) (h : k < 32) :
    Authd.base64Char (m >>> k &&& 63) = digit (unbounded.window m.toNat k.toNat 63) := by
  have hall : ∀ v < 64, Authd.base64Char (UInt32.ofNat v) = digit v := by decide +kernel
  have hlt : m.toNat / 2 ^ k.toNat % 64 < 64 := Nat.mod_lt _ (by decide)
  have hwindow : unbounded.window m.toNat k.toNat 63 = m.toNat / 2 ^ k.toNat % 64 := by
    change m.toNat >>> k.toNat &&& 2 ^ 6 - 1 = _
    rw [Nat.and_two_pow_sub_one_eq_mod, Nat.shiftRight_eq_div_pow]
  rw [hwindow, ← hall _ hlt, ← Authd.toNat_digit m k h, UInt32.ofNat_toNat]

lemma digit_low (m : UInt32) :
    Authd.base64Char (m &&& 63) = digit (unbounded.window m.toNat 0 63) := by
  have hzero := digit_window m 0 (by decide)
  rwa [UInt32.shiftRight_zero] at hzero

/-- Four digits do not change how far a text has to be filled up. -/
lemma textOf_four (a b c d : ℕ) (groups : List ℕ) :
    textOf (a :: b :: c :: d :: groups) =
      digit a :: digit b :: digit c :: digit d :: textOf groups := by
  have hfour : padding (groups.length + 4) = padding groups.length := by
    rw [padding, padding, Nat.add_mod_right]
  rw [textOf, textOf]
  simp only [List.map_cons, List.length_cons, List.cons_append]
  rw [hfour]

/-- The groups of three bytes. -/
lemma sextets_triple (x y z : UInt8) (tail : List Bool) :
    sextets (bitsOf x ++ (bitsOf y ++ (bitsOf z ++ tail))) =
      let n := x.toNat * 65536 + y.toNat * 256 + z.toNat
      unbounded.window n 18 63 :: unbounded.window n 12 63 :: unbounded.window n 6 63 ::
        unbounded.window n 0 63 :: sextets tail := by
  have hx := x.toNat_lt
  have hy := y.toNat_lt
  have hz := z.toNat_lt
  have hvalue : (x.toNat * 65536 + y.toNat * 256 + z.toNat) %
      2 ^ (bitsOf x ++ (bitsOf y ++ bitsOf z)).length = value (bitsOf x ++ (bitsOf y ++ bitsOf z)) := by
    rw [value_append, value_append, value_bitsOf, value_bitsOf, value_bitsOf]
    simp only [List.length_append, length_bitsOf]
    omega
  obtain ⟨left, hleft, -, -, htail⟩ := emit_sextets hvalue
  have hnil : left = [] := by
    rw [← List.length_eq_zero_iff, ← hleft]
    simp [length_bitsOf, Accumulator.emit]
  have hgroups := htail tail
  rw [hnil, List.nil_append, List.append_assoc, List.append_assoc] at hgroups
  rw [hgroups]
  simp [length_bitsOf, Accumulator.emit]

/-- The groups of one byte that is left at the end. -/
lemma sextets_one (x : UInt8) : sextets (bitsOf x) =
    [unbounded.window (x.toNat * 65536) 18 63, unbounded.window (x.toNat * 65536) 12 63] := by
  have hall : ∀ n : Fin 256, sextets (bitsOf (UInt8.ofNat n)) =
      [unbounded.window ((UInt8.ofNat n).toNat * 65536) 18 63,
        unbounded.window ((UInt8.ofNat n).toNat * 65536) 12 63] := by decide +kernel
  have hx := hall ⟨x.toNat, x.toNat_lt⟩
  rwa [UInt8.ofNat_toNat] at hx

lemma window_eq (n r : ℕ) : unbounded.window n r 63 = n / 2 ^ r % 64 := by
  change n >>> r &&& 2 ^ 6 - 1 = _
  rw [Nat.and_two_pow_sub_one_eq_mod, Nat.shiftRight_eq_div_pow]

/-- The groups of two. -/
lemma sextets_two (x y : UInt8) : sextets (bitsOf x ++ bitsOf y) =
    let n := x.toNat * 65536 + y.toNat * 256
    [unbounded.window n 18 63, unbounded.window n 12 63, unbounded.window n 6 63] := by
  have hx := x.toNat_lt
  have hy := y.toNat_lt
  have hvalue : (x.toNat * 256 + y.toNat) % 2 ^ (bitsOf x ++ bitsOf y).length =
      value (bitsOf x ++ bitsOf y) := by
    rw [value_append, value_bitsOf, value_bitsOf]
    simp only [List.length_append, length_bitsOf]
    omega
  obtain ⟨left, hleft, hlt, hmod, htail⟩ := emit_sextets hvalue
  have hfour : left.length = 4 := by
    rw [← hleft]
    simp [length_bitsOf, Accumulator.emit]
  have hne : left ≠ [] := by
    rintro rfl
    cases hfour
  have hgroups := htail []
  rw [List.append_nil, List.append_nil, sextets_short hne hlt, ← hmod, hfour] at hgroups
  have hemit : (unbounded.emit (x.toNat * 256 + y.toNat) (bitsOf x ++ bitsOf y).length).1 =
      [unbounded.window (x.toNat * 256 + y.toNat) 10 63,
        unbounded.window (x.toNat * 256 + y.toNat) 4 63] := by
    simp [length_bitsOf, Accumulator.emit]
  rw [hgroups, hemit]
  simp only [window_eq, List.cons_append, List.nil_append, List.cons.injEq, and_true]
  omega

/-- **What is encoded is the text**, by the encoder of three of the files. -/
theorem base64Encode_eq (data : List UInt8) : Authd.base64Encode data = encoded data := by
  induction data using Authd.base64Encode.induct with
  | case1 => rfl
  | case2 x =>
      have hn : (x.toUInt32 <<< 16).toNat = x.toNat * 65536 := by
        simpa using Authd.toNat_triple x 0 0
      have hbits : [x].flatMap bitsOf = bitsOf x := rfl
      rw [Authd.base64Encode, encoded, hbits, sextets_one, digit_window _ _ (by decide),
        digit_window _ _ (by decide), hn]
      rfl
  | case3 x y =>
      have hn : (x.toUInt32 <<< 16 ||| y.toUInt32 <<< 8).toNat =
          x.toNat * 65536 + y.toNat * 256 := by
        simpa using Authd.toNat_triple x y 0
      have hbits : [x, y].flatMap bitsOf = bitsOf x ++ bitsOf y := rfl
      rw [Authd.base64Encode, encoded, hbits, sextets_two, digit_window _ _ (by decide),
        digit_window _ _ (by decide), digit_window _ _ (by decide), hn]
      rfl
  | case4 x y z rest ih =>
      have hbits : (x :: y :: z :: rest).flatMap bitsOf =
          bitsOf x ++ (bitsOf y ++ (bitsOf z ++ rest.flatMap bitsOf)) := by
        simp only [List.flatMap_cons]
      rw [Authd.base64Encode, encoded, hbits, sextets_triple, textOf_four,
        digit_window _ _ (by decide), digit_window _ _ (by decide), digit_window _ _ (by decide),
        digit_low, Authd.toNat_triple, ih]
      rfl

/-- The groups of the encoder that keeps its value: those of the pending bits and of
what is still to come. -/
lemma apiLoop_eq {pend : List Bool} {n : ℕ} (hpend : pend.length < 6)
    (h : n % 2 ^ pend.length = value pend) (data : List UInt8) :
    ApiUtil.base64Loop unbounded data n pend.length =
      sextets (pend ++ data.flatMap bitsOf) := by
  induction data generalizing pend n with
  | nil =>
      rw [ApiUtil.base64Loop, List.flatMap_nil, List.append_nil]
      by_cases hempty : pend = []
      · rw [hempty]
        rfl
      · have hpos : 0 < pend.length := List.length_pos_iff.mpr hempty
        rw [if_pos hpos, sextets_short hempty hpend, ← h, window_eq]
        change [(n <<< 8 + 0) / 2 ^ (pend.length + 2) % 64] = _
        rw [Nat.shiftLeft_eq]
        congr 1
        generalize pend.length = p at hpend
        interval_cases p <;> omega
  | cons c rest ih =>
      have hc := c.toNat_lt
      have hvalue : (n <<< 8 + c.toNat) % 2 ^ (pend ++ bitsOf c).length =
          value (pend ++ bitsOf c) := by
        rw [value_append, value_bitsOf, ← h, List.length_append, length_bitsOf, Nat.shiftLeft_eq]
        generalize pend.length = p at hpend
        interval_cases p <;> omega
      obtain ⟨left, hleft, hlt, hmod, htail⟩ := emit_sextets hvalue
      have hlength : (pend ++ bitsOf c).length = pend.length + 8 := List.length_append
      rw [hlength] at hleft htail
      rw [ApiUtil.base64Loop]
      change (unbounded.emit (n <<< 8 + c.toNat) (pend.length + 8)).1 ++
        ApiUtil.base64Loop unbounded rest (n <<< 8 + c.toNat)
          (unbounded.emit (n <<< 8 + c.toNat) (pend.length + 8)).2 = _
      rw [hleft, ih hlt hmod, ← htail, List.flatMap_cons, List.append_assoc]

/-- **So is what the encoder writes that keeps its value.** -/
theorem apiBase64_eq (data : List UInt8) : ApiUtil.base64 int32 data = encoded data := by
  have hempty : (0 : ℕ) % 2 ^ ([] : List Bool).length = value [] := rfl
  rw [ApiUtil.base64, follows_api int32_follows data int32_follows.zero (by decide)]
  exact congrArg textOf (apiLoop_eq (by decide) hempty data)

/-- The value of collectord's encoder takes a byte. -/
lemma push_add (n : ℕ) (c : UInt8) :
    UInt32.ofNat n <<< 8 + c.toUInt32 = UInt32.ofNat (n <<< 8 + c.toNat) := by
  refine UInt32.toNat_inj.mp ?_
  rw [UInt32.toNat_add, UInt32.toNat_shiftLeft, UInt32.toNat_ofNat', UInt32.toNat_ofNat',
    UInt8.toNat_toUInt32]
  change ((n % 2 ^ 32) <<< 8 % 2 ^ 32 + _) % 2 ^ 32 = _
  rw [Nat.shiftLeft_eq, Nat.shiftLeft_eq]
  omega

lemma window_ofNat (n : ℕ) {k : ℕ} (h : k < 8) :
    Authd.base64Char (UInt32.ofNat n >>> UInt32.ofNat k &&& 63) =
      digit (unbounded.window n k 63) := by
  have hk : (UInt32.ofNat k).toNat = k := by
    rw [UInt32.toNat_ofNat']
    omega
  have hlt : UInt32.ofNat k < 32 := by
    rw [UInt32.lt_iff_toNat_lt, hk]
    exact lt_trans h (by decide)
  rw [digit_window _ _ hlt, hk, UInt32.toNat_ofNat', window_eq, window_eq]
  congr 1
  interval_cases k <;> omega

/-- Less than two groups are pending. -/
lemma emit_one (n : ℕ) {left : ℕ} (h : left < 6) :
    unbounded.emit n (left + 6) = ([unbounded.window n left 63], left) := by
  rw [Accumulator.emit, if_pos (by omega), Nat.add_sub_cancel, Accumulator.emit,
    if_neg (by omega)]

lemma emit_two (n : ℕ) {left : ℕ} (h : left < 6) : unbounded.emit n (left + 6 + 6) =
    ([unbounded.window n (left + 6) 63, unbounded.window n left 63], left) := by
  rw [Accumulator.emit, if_pos (by omega), Nat.add_sub_cancel, emit_one n h]

/-- The loop of the earlier model writes the digits of the same groups. -/
lemma collectordLoop_eq (data : List UInt8) (n : ℕ) {pending : ℕ} (h : pending < 6) :
    Collectord.base64Digits data (UInt32.ofNat n) (UInt32.ofNat pending) =
      (ApiUtil.base64Loop unbounded data n pending).map digit := by
  have hadd : UInt32.ofNat pending + 2 = UInt32.ofNat (pending + 2) := by
    interval_cases pending <;> decide
  induction data generalizing n pending with
  | nil =>
      have hshift : UInt32.ofNat n <<< 8 = UInt32.ofNat (n <<< 8 + 0) := by
        have hpush := push_add n 0
        have hzero : (0 : UInt8).toUInt32 = 0 := rfl
        rw [hzero, UInt32.add_zero] at hpush
        exact hpush
      have hzero : UInt32.ofNat pending = 0 ↔ pending = 0 := by
        interval_cases pending <;> decide
      rw [Collectord.base64Digits, ApiUtil.base64Loop, hshift, hadd, window_ofNat _ (by omega)]
      by_cases hempty : pending = 0
      · rw [if_pos (hzero.mpr hempty), if_neg (by omega)]
        rfl
      · rw [if_neg (fun hp => hempty (hzero.mp hp)), if_pos (by omega)]
        rfl
  | cons c rest ih =>
      rw [Collectord.base64Digits, ApiUtil.base64Loop]
      dsimp only
      rw [push_add, hadd, window_ofNat _ (by omega)]
      rcases Nat.lt_or_ge pending 4 with hone | htwo
      · have hlt : UInt32.ofNat (pending + 2) < 6 := by interval_cases pending <;> decide
        have hnext : UInt32.ofNat (pending + 2) + 2 = UInt32.ofNat (pending + 2 + 2) := by
          interval_cases pending <;> decide
        rw [if_pos hlt, ih _ (by omega) hnext, emit_one _ (show pending + 2 < 6 by omega)]
        rfl
      · obtain ⟨left, rfl⟩ := Nat.exists_eq_add_of_le' htwo
        have hleft : left < 2 := by omega
        have hlt : ¬UInt32.ofNat (left + 4 + 2) < 6 := by interval_cases left <;> decide
        have hsub : UInt32.ofNat (left + 4 + 2) - 6 = UInt32.ofNat left := by
          interval_cases left <;> decide
        have hnext : UInt32.ofNat left + 2 = UInt32.ofNat (left + 2) := by
          interval_cases left <;> decide
        rw [if_neg hlt, hsub, window_ofNat _ (by omega), ih _ (by omega) hnext,
          emit_two _ (show left < 6 by omega)]
        rfl

/-- The earlier model writes the text. -/
lemma collectordBase64_eq (data : List UInt8) : Collectord.base64 data = encoded data := by
  have hempty : (0 : ℕ) % 2 ^ ([] : List Bool).length = value [] := rfl
  have hgroups : ApiUtil.base64Loop unbounded data 0 0 = sextets (data.flatMap bitsOf) :=
    apiLoop_eq (by decide) hempty data
  have hdigits : Collectord.base64Digits data 0 0 =
      (ApiUtil.base64Loop unbounded data 0 0).map digit :=
    collectordLoop_eq data 0 (by decide)
  rw [hgroups] at hdigits
  rw [Collectord.base64, hdigits, encoded, textOf, padding, List.length_map]

/-! ### What the decoders read back -/

/-- Blanks are passed over, wherever they stand. -/
lemma samlLoop_filter (text : List UInt8) (n bits : ℕ) :
    SamlClient.base64Loop unbounded (text.filter fun c => !isBlank c) n bits =
      SamlClient.base64Loop unbounded text n bits := by
  induction text generalizing n bits with
  | nil => rfl
  | cons c rest ih =>
      cases hblank : isBlank c with
      | true =>
          have hpad : c ≠ 61 := by
            rintro rfl
            cases hblank
          rw [List.filter_cons_of_neg (by simp [hblank]), ih, SamlClient.base64Loop, if_neg hpad,
            if_pos hblank]
      | false =>
          rw [List.filter_cons_of_pos (by simp [hblank]), SamlClient.base64Loop,
            SamlClient.base64Loop]
          simp only [ih]

lemma saml_eq (text : List UInt8) :
    SamlClient.base64Decode int32 text = SamlClient.base64Decode unbounded text :=
  follows_saml int32_follows text int32_follows.zero (by decide)

lemma secret_eq (text : List UInt8) :
    Secret.base64Decode int32 text = Secret.base64Decode unbounded text :=
  follows_secret int32_follows text int32_follows.zero (by decide)

/-- A text with blanks put in is decoded as it is without them. -/
theorem saml_decodes {data text : List UInt8}
    (h : text.filter (fun c => !isBlank c) = encoded data) :
    SamlClient.base64Decode int32 text = some data := by
  have hdecode := Authd.base64Decode_base64Encode data
  rw [base64Encode_eq, ← h] at hdecode
  rw [saml_eq, ← hdecode]
  exact (samlLoop_filter text 0 0).symm.trans (authdLoop_eq _ 0 (by decide)).symm

/-- What `Secret.cpp` encodes it decodes. -/
theorem secret_decodes (data : List UInt8) :
    Secret.base64Decode int32 (Secret.base64Encode data) = data := by
  have hloop := secretLoop_eq (Authd.base64Encode data) 0 (show 0 < 8 by decide)
  rw [secret_eq]
  exact hloop.symm.trans (Util.base64Loop_of_some (Authd.base64Decode_base64Encode data))

/-- **One text**: the three encoders write the base 64 text of a byte string, the
decoders read it back, blanks between the digits or not, and no loop gives another
result for keeping its value in an `int`. -/
theorem base64_texts (data text : List UInt8)
    (spaced : { text : List UInt8 // text.filter (fun c => !isBlank c) = encoded data }) :
    Secret.base64Encode data = encoded data ∧ SsoController.ssoBase64 data = encoded data ∧
      ApiUtil.base64 int32 data = encoded data ∧
      Secret.base64Decode int32 (Secret.base64Encode data) = data ∧
      SamlClient.base64Decode int32 spaced.1 = some data ∧
      Secret.base64Decode int32 text = Secret.base64Decode unbounded text ∧
      SamlClient.base64Decode int32 text = SamlClient.base64Decode unbounded text ∧
      ApiUtil.base64 int32 data = ApiUtil.base64 unbounded data := by
  have hapi : ApiUtil.base64 int32 data = ApiUtil.base64 unbounded data :=
    congrArg textOf (follows_api int32_follows data int32_follows.zero (by decide))
  exact ⟨base64Encode_eq data, base64Encode_eq data, apiBase64_eq data, secret_decodes data,
    saml_decodes spaced.2, secret_eq text, saml_eq text, hapi⟩

end Pretzel.Fleet
