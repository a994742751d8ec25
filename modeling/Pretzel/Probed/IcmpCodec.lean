import Pretzel.Library.OnesComplement

/-!
`probed/icmp/IcmpCodec.cpp`: echo messages as bytes.

* `calculateChecksum`: a 32-bit sum of words, its carries put back.
  `toNat_calculateChecksum`: by the sum in one's complement.
* `encode`, `decode`: the codec. A read outside of the frame, or a size below
  zero, is `none`. The decoder hands the checksum on as it stands in the frame.
* `encode_eq`: what is written.
* `decode_isSome`: **no frame makes the decoder read outside of it.**
* `calculateChecksum_encode`, `endAround_total_encode`: **what is written verifies.**
* **`codec_roundTrip`**: and is read back.
-/

namespace Pretzel.Probed

open OnesComplement

/-- A byte string. -/
abbrev Bytes := List UInt8

/-- `IcmpType`, of which every byte is a value. -/
abbrev IcmpType := UInt8

def IcmpType.EchoReply : IcmpType := 0

def IcmpType.EchoRequest : IcmpType := 8

/-- `IcmpCode`, of which every byte is a value. -/
abbrev IcmpCode := UInt8

/-- `IcmpHeader`. -/
structure IcmpHeader where
  type : IcmpType
  code : IcmpCode
  checksum : UInt16
  identifier : UInt16
  sequence : UInt16
deriving DecidableEq, Repr

/-- `IcmpPacket`. -/
structure IcmpPacket where
  header : IcmpHeader
  payload : Bytes
deriving DecidableEq, Repr

/-- A packet with a checksum set in its header. -/
def IcmpPacket.setChecksum (packet : IcmpPacket) (checksum : UInt16) : IcmpPacket :=
  { packet with header := { packet.header with checksum := checksum } }

/-- `IcmpDecodeResult`. -/
inductive IcmpDecodeResult where
  | Ok
  | Empty
  | InvalidFrame
deriving DecidableEq, Repr

namespace IcmpCodec

/-! ### The checksum -/

/-- The sum of `calculateChecksum`, over the words and the byte that may be left. -/
def sumWords : Bytes → UInt32 → UInt32
  | a :: b :: rest, sum => sumWords rest (sum + (a.toUInt32 <<< 8 ||| b.toUInt32))
  | [a], sum => sum + a.toUInt32 <<< 8
  | [], sum => sum

lemma toNat_foldStep (sum : UInt32) :
    ((sum &&& (65535 : UInt32)) + (sum >>> 16)).toNat = sum.toNat % 65536 + sum.toNat / 65536 := by
  have hlt := sum.toNat_lt
  have hlow : (sum &&& 65535).toNat = sum.toNat % 65536 := by
    rw [UInt32.toNat_and]
    exact Nat.and_two_pow_sub_one_eq_mod sum.toNat 16
  have hhigh : (sum >>> 16).toNat = sum.toNat / 65536 := by
    rw [UInt32.toNat_shiftRight, Nat.shiftRight_eq_div_pow]
    rfl
  rw [UInt32.toNat_add, hlow, hhigh]
  omega

lemma shift_ne_zero_iff (sum : UInt32) : sum >>> 16 ≠ 0 ↔ sum.toNat / 65536 ≠ 0 := by
  have hhigh : (sum >>> 16).toNat = sum.toNat / 65536 := by
    rw [UInt32.toNat_shiftRight, Nat.shiftRight_eq_div_pow]
    rfl
  rw [ne_eq, ← UInt32.toNat_inj, hhigh]
  rfl

/-- The carries put back. -/
def foldCarries (sum : UInt32) : UInt32 :=
  if sum >>> 16 ≠ 0 then foldCarries ((sum &&& (65535 : UInt32)) + (sum >>> 16)) else sum
termination_by sum.toNat
decreasing_by
  rename_i h
  rw [shift_ne_zero_iff] at h
  rw [toNat_foldStep]
  omega

/-- `calculateChecksum`. -/
def calculateChecksum (data : Bytes) : UInt16 :=
  (~~~(foldCarries (sumWords data 0)) &&& 65535).toUInt16

/-! ### The codec -/

def ICMP_ECHO_HEADER_LEN : ℕ := 8

def kIpv4MinHeaderLen : ℕ := 20

/-- A difference of sizes: `none` where it would be below zero. -/
def minus (a b : ℕ) : Option ℕ := if b ≤ a then some (a - b) else none

/-- So many bytes from a position: `none` where they are not all in the frame. -/
def bytesAt (frame : Bytes) (start len : ℕ) : Option Bytes :=
  if start + len ≤ frame.length then some ((frame.drop start).take len) else none

/-- `readU16Be`. -/
def readU16Be (frame : Bytes) (i : ℕ) : Option UInt16 := do
  let high ← frame[i]?
  let low ← frame[i + 1]?
  return high.toUInt16 <<< 8 ||| low.toUInt16

/-- `writeU16Be`. -/
def writeU16Be (buf : Bytes) (offset : ℕ) (value : UInt16) : Bytes :=
  (buf.set offset (value >>> 8).toUInt8).set (offset + 1) value.toUInt8

/-- `std::memcpy` into a buffer that has the room. -/
def copyAt (buf : Bytes) (offset : ℕ) (bytes : Bytes) : Bytes :=
  buf.take offset ++ bytes ++ buf.drop (offset + bytes.length)

/-- `encode`. -/
def encode (packet : IcmpPacket) : Bytes :=
  let frame := List.replicate (ICMP_ECHO_HEADER_LEN + packet.payload.length) 0
  let frame := (frame.set 0 packet.header.type).set 1 packet.header.code
  let frame := writeU16Be frame 2 0
  let frame := writeU16Be frame 4 packet.header.identifier
  let frame := writeU16Be frame 6 packet.header.sequence
  let frame :=
    if packet.payload ≠ [] then copyAt frame ICMP_ECHO_HEADER_LEN packet.payload else frame
  writeU16Be frame 2 (calculateChecksum frame)

/-- `icmpOffset`: where the message starts, none where the frame is invalid. -/
def icmpOffset (frame : Bytes) : Option (Option ℕ) :=
  if frame = [] then some none
  else if frame.length < ICMP_ECHO_HEADER_LEN then some none
  else do
    let first : UInt8 ← frame[0]?
    let version := first >>> 4
    if version = 4 then
      if frame.length < kIpv4MinHeaderLen then return none
      else
        let ipHeaderLen := (first &&& 15).toNat * 4
        if ipHeaderLen < kIpv4MinHeaderLen then return none
        else if ipHeaderLen > frame.length then return none
        else
          let left ← minus frame.length ipHeaderLen
          if left < ICMP_ECHO_HEADER_LEN then return none else return some ipHeaderLen
    else return some 0

/-- The payload of `decode`: what is left behind the header. -/
def readPayload (frame : Bytes) (start len : ℕ) : Option Bytes :=
  if len > 0 then bytesAt frame start len else some []

/-- `decode`. -/
def decode (frame : Bytes) : Option (IcmpDecodeResult × Option IcmpPacket) :=
  if frame = [] then some (.Empty, none)
  else do
    match ← icmpOffset frame with
    | none => return (.InvalidFrame, none)
    | some offset =>
        let left ← minus frame.length offset
        if left < ICMP_ECHO_HEADER_LEN then return (.InvalidFrame, none)
        else
          let type ← frame[offset]?
          let code ← frame[offset + 1]?
          let identifier ← readU16Be frame (offset + 4)
          let sequence ← readU16Be frame (offset + 6)
          let checksum ← readU16Be frame (offset + 2)
          let payloadLen ← minus left ICMP_ECHO_HEADER_LEN
          let payload ← readPayload frame (offset + ICMP_ECHO_HEADER_LEN) payloadLen
          return (.Ok, some ⟨⟨type, code, checksum, identifier, sequence⟩, payload⟩)

/-! ### The checksum, as a sum in one's complement -/

lemma toNat_foldCarries (sum : UInt32) : (foldCarries sum).toNat = endAround sum.toNat := by
  induction sum using foldCarries.induct with
  | case1 sum h ih =>
      rw [foldCarries, if_pos h, ih, toNat_foldStep]
      conv_rhs => rw [endAround, if_pos ((shift_ne_zero_iff sum).mp h)]
  | case2 sum h =>
      rw [foldCarries, if_neg h, endAround, if_neg (fun hn => h ((shift_ne_zero_iff sum).mpr hn))]

lemma toNat_word (a b : UInt8) :
    (a.toUInt32 <<< 8 ||| b.toUInt32).toNat = a.toNat * 256 + b.toNat := by
  have ha := a.toNat_lt
  have hb : b.toNat < 2 ^ 8 := b.toNat_lt
  have hshift : (a.toUInt32 <<< 8).toNat = a.toNat <<< 8 := by
    rw [UInt32.toNat_shiftLeft, UInt8.toNat_toUInt32]
    change a.toNat <<< 8 % 2 ^ 32 = _
    rw [Nat.shiftLeft_eq]
    omega
  rw [UInt32.toNat_or, hshift, UInt8.toNat_toUInt32, ← Nat.shiftLeft_add_eq_or_of_lt hb,
    Nat.shiftLeft_eq]

lemma toNat_sumWords (data : Bytes) (sum : UInt32) :
    (sumWords data sum).toNat = (sum.toNat + total data) % 2 ^ 32 := by
  induction data, sum using sumWords.induct with
  | case1 a b rest sum ih =>
      rw [sumWords, ih, total, UInt32.toNat_add, toNat_word]
      omega
  | case2 a sum =>
      have hword := toNat_word a 0
      have hzero : (0 : UInt8).toUInt32 = 0 := rfl
      have hnone : (0 : UInt8).toNat = 0 := rfl
      rw [hzero, UInt32.or_zero, hnone, Nat.add_zero] at hword
      rw [sumWords, total, UInt32.toNat_add, hword]
  | case3 sum =>
      rw [sumWords, total, Nat.add_zero, Nat.mod_eq_of_lt sum.toNat_lt]

lemma toNat_calculateChecksum (data : Bytes) :
    (calculateChecksum data).toNat = 65535 - endAround (total data % 2 ^ 32) := by
  have hsum : (foldCarries (sumWords data 0)).toNat = endAround (total data % 2 ^ 32) := by
    rw [toNat_foldCarries, toNat_sumWords]
    simp
  have hlt := endAround_lt (total data % 2 ^ 32)
  have hnot : (~~~(foldCarries (sumWords data 0)) &&& 65535).toNat =
      (2 ^ 32 - 1 - (foldCarries (sumWords data 0)).toNat) % 2 ^ 16 := by
    rw [UInt32.toNat_and, UInt32.toNat_not]
    exact Nat.and_two_pow_sub_one_eq_mod _ 16
  rw [calculateChecksum, UInt32.toNat_toUInt16, hnot, hsum]
  omega

/-! ### What is written -/

/-- The bytes of a message under a checksum. -/
def wire (packet : IcmpPacket) (checksum : UInt16) : Bytes :=
  packet.header.type :: packet.header.code :: (checksum >>> 8).toUInt8 :: checksum.toUInt8 ::
    (packet.header.identifier >>> 8).toUInt8 :: packet.header.identifier.toUInt8 ::
    (packet.header.sequence >>> 8).toUInt8 :: packet.header.sequence.toUInt8 :: packet.payload

/-- **The message under its own checksum**, which is taken with the field at zero. -/
theorem encode_eq (packet : IcmpPacket) :
    encode packet = wire packet (calculateChecksum (wire packet 0)) := by
  obtain ⟨⟨type, code, checksum, identifier, sequence⟩, payload⟩ := packet
  have hzeros : List.replicate (ICMP_ECHO_HEADER_LEN + payload.length) (0 : UInt8) =
      0 :: 0 :: 0 :: 0 :: 0 :: 0 :: 0 :: 0 :: List.replicate payload.length 0 := by
    rw [ICMP_ECHO_HEADER_LEN, Nat.add_comm]
    rfl
  have hcopy : ∀ a b c d e f g h : UInt8,
      (if payload ≠ [] then copyAt (a :: b :: c :: d :: e :: f :: g :: h ::
          List.replicate payload.length 0) ICMP_ECHO_HEADER_LEN payload
        else a :: b :: c :: d :: e :: f :: g :: h :: List.replicate payload.length 0) =
      a :: b :: c :: d :: e :: f :: g :: h :: payload := by
    intro a b c d e f g h
    split
    · simp [copyAt, ICMP_ECHO_HEADER_LEN]
      omega
    · next hempty =>
        rw [not_not.mp hempty]
        rfl
  rw [encode, hzeros]
  simp only [writeU16Be, List.set_cons_zero, List.set_cons_succ, hcopy]
  rfl

/-- A word is the number its bytes write. -/
lemma toNat_halves (v : UInt16) :
    (v >>> 8).toUInt8.toNat * 256 + v.toUInt8.toNat = v.toNat := by
  have hv := v.toNat_lt
  have hhigh : (v >>> 8).toUInt8.toNat = v.toNat / 256 % 256 := by
    rw [UInt16.toNat_toUInt8, UInt16.toNat_shiftRight, Nat.shiftRight_eq_div_pow]
    rfl
  rw [hhigh, UInt16.toNat_toUInt8]
  omega

/-- The checksum counts as one word of the message. -/
lemma total_wire (packet : IcmpPacket) (checksum : UInt16) :
    total (wire packet checksum) = total (wire packet 0) + checksum.toNat := by
  rw [wire, wire, ← toNat_halves checksum]
  simp only [total]
  have hzero : ((0 : UInt16) >>> 8).toUInt8.toNat = 0 := rfl
  have hzero' : (0 : UInt16).toUInt8.toNat = 0 := rfl
  rw [hzero, hzero']
  omega

/-- **What is written verifies**, at any length. -/
theorem calculateChecksum_encode (packet : IcmpPacket) :
    calculateChecksum (encode packet) = 0 := by
  refine UInt16.toNat_inj.mp ?_
  have hmod : total (wire packet 0) % 2 ^ 32 < 2 ^ 32 := Nat.mod_lt _ (by decide)
  have hfits := add_complement_lt hmod
  have hverifies := endAround_add_complement (total (wire packet 0) % 2 ^ 32)
  have htotal : total (encode packet) % 2 ^ 32 = total (wire packet 0) % 2 ^ 32 +
      (65535 - endAround (total (wire packet 0) % 2 ^ 32)) := by
    rw [encode_eq, total_wire, toNat_calculateChecksum, ← Nat.mod_add_mod,
      Nat.mod_eq_of_lt hfits]
  rw [toNat_calculateChecksum, htotal, hverifies]
  rfl

/-- So it does for a receiver that adds up without a bound, where the sum of the
words is below 2^32. -/
theorem endAround_total_encode (packet : IcmpPacket) (h : total (wire packet 0) < 2 ^ 32) :
    endAround (total (encode packet)) = 65535 := by
  rw [encode_eq, total_wire, toNat_calculateChecksum, Nat.mod_eq_of_lt h]
  exact endAround_add_complement _

/-! ### What is read -/

/-- The word at a place of the frame. -/
def wordAt (frame : Bytes) (i : ℕ) : UInt16 :=
  (frame.getD i 0).toUInt16 <<< 8 ||| (frame.getD (i + 1) 0).toUInt16

/-- The message that starts at a place of the frame. -/
def messageAt (frame : Bytes) (offset : ℕ) : IcmpPacket where
  header := {
    type := frame.getD offset 0
    code := frame.getD (offset + 1) 0
    checksum := wordAt frame (offset + 2)
    identifier := wordAt frame (offset + 4)
    sequence := wordAt frame (offset + 6) }
  payload := frame.drop (offset + ICMP_ECHO_HEADER_LEN)

lemma byte_eq {frame : Bytes} {i : ℕ} (h : i < frame.length) : frame[i]? = some (frame.getD i 0) := by
  rw [List.getD_eq_getElem?_getD, List.getElem?_eq_getElem h]
  rfl

lemma readU16Be_eq {frame : Bytes} {i : ℕ} (h : i + 1 < frame.length) :
    readU16Be frame i = some (wordAt frame i) := by
  rw [readU16Be, byte_eq (by omega), byte_eq h]
  rfl

lemma minus_eq {a b : ℕ} (h : b ≤ a) : minus a b = some (a - b) := if_pos h

/-- **An offset leaves room for a header behind it**, whatever length an IPv4 header
claims. -/
lemma icmpOffset_room (frame : Bytes) : icmpOffset frame = some none ∨
    ∃ offset, icmpOffset frame = some (some offset) ∧
      offset + ICMP_ECHO_HEADER_LEN ≤ frame.length := by
  rw [icmpOffset]
  split
  · exact .inl rfl
  · split
    · exact .inl rfl
    · next hne hlen =>
        rw [not_lt] at hlen
        have hpos : 0 < frame.length := lt_of_lt_of_le (by decide) hlen
        rw [byte_eq hpos]
        simp only [Option.bind_eq_bind, Option.bind_some]
        split
        · split
          · exact .inl rfl
          · split
            · exact .inl rfl
            · split
              · exact .inl rfl
              · next hheader =>
                  rw [not_lt] at hheader
                  rw [minus_eq hheader, Option.bind_some]
                  split
                  · exact .inl rfl
                  · next hroom => exact .inr ⟨_, rfl, by omega⟩
        · exact .inr ⟨0, rfl, by omega⟩

/-- A frame that is no IPv4 packet starts with the message. -/
lemma icmpOffset_of_version {frame : Bytes} (hlen : ICMP_ECHO_HEADER_LEN ≤ frame.length)
    (hversion : frame.getD 0 0 >>> 4 ≠ 4) : icmpOffset frame = some (some 0) := by
  have hpos : 0 < frame.length := lt_of_lt_of_le (by decide) hlen
  rw [icmpOffset, if_neg (List.ne_nil_of_length_pos hpos), if_neg (not_lt.mpr hlen), byte_eq hpos]
  simp only [Option.bind_eq_bind, Option.bind_some]
  rw [if_neg hversion]
  rfl

/-- A message is read where it starts. -/
lemma decode_of_offset {frame : Bytes} {offset : ℕ}
    (hoffset : icmpOffset frame = some (some offset))
    (hroom : offset + ICMP_ECHO_HEADER_LEN ≤ frame.length) :
    decode frame = some (.Ok, some (messageAt frame offset)) := by
  have hlen : ICMP_ECHO_HEADER_LEN = 8 := rfl
  have hne : frame ≠ [] := List.ne_nil_of_length_pos (by omega)
  have hpayload : readPayload frame (offset + ICMP_ECHO_HEADER_LEN)
      (frame.length - offset - ICMP_ECHO_HEADER_LEN) =
        some (frame.drop (offset + ICMP_ECHO_HEADER_LEN)) := by
    rw [readPayload]
    split
    · rw [bytesAt, if_pos (by omega), List.take_of_length_le (by rw [List.length_drop]; omega)]
    · rw [List.drop_eq_nil_of_le (by omega)]
  rw [decode, if_neg hne, hoffset]
  simp only [Option.bind_eq_bind, Option.bind_some]
  rw [minus_eq (by omega), Option.bind_some, if_neg (by omega), byte_eq (by omega),
    byte_eq (by omega), readU16Be_eq (by omega), readU16Be_eq (by omega), readU16Be_eq (by omega),
    minus_eq (by omega)]
  simp only [Option.bind_some, hpayload]
  rfl

/-- **No frame makes the decoder read outside of it.** -/
theorem decode_isSome (frame : Bytes) : (decode frame).isSome = true := by
  by_cases hne : frame = []
  · rw [decode, if_pos hne]
    rfl
  · rcases icmpOffset_room frame with hnone | ⟨offset, hoffset, hroom⟩
    · rw [decode, if_neg hne, hnone]
      rfl
    · rw [decode_of_offset hoffset hroom]
      rfl

/-! ### The round trip -/

/-- An echo request or an echo reply. -/
abbrev Echo := { packet : IcmpPacket //
  packet.header.type = IcmpType.EchoRequest ∨ packet.header.type = IcmpType.EchoReply }

/-- A word of its bytes. -/
lemma halves_eq (v : UInt16) : (v >>> 8).toUInt8.toUInt16 <<< 8 ||| v.toUInt8.toUInt16 = v := by
  have hlow : v.toUInt8.toUInt16.toNat < 2 ^ 8 := by
    rw [UInt8.toNat_toUInt16]
    exact v.toUInt8.toNat_lt
  have hhigh : ((v >>> 8).toUInt8.toUInt16 <<< 8).toNat = (v >>> 8).toUInt8.toNat <<< 8 := by
    have hlt := (v >>> 8).toUInt8.toNat_lt
    rw [UInt16.toNat_shiftLeft, UInt8.toNat_toUInt16]
    change _ <<< 8 % 2 ^ 16 = _
    rw [Nat.shiftLeft_eq]
    omega
  refine UInt16.toNat_inj.mp ?_
  rw [UInt16.toNat_or, hhigh, ← Nat.shiftLeft_add_eq_or_of_lt hlow, UInt8.toNat_toUInt16,
    Nat.shiftLeft_eq, ← toNat_halves v]

lemma messageAt_wire (packet : IcmpPacket) (checksum : UInt16) :
    messageAt (wire packet checksum) 0 = packet.setChecksum checksum := by
  have hword : ∀ v : UInt16, ∀ i, (wire packet checksum).getD i 0 = (v >>> 8).toUInt8 →
      (wire packet checksum).getD (i + 1) 0 = v.toUInt8 → wordAt (wire packet checksum) i = v := by
    intro v i hhigh hlow
    rw [wordAt, hhigh, hlow, halves_eq]
  rw [messageAt, hword checksum 2 rfl rfl, hword packet.header.identifier 4 rfl rfl,
    hword packet.header.sequence 6 rfl rfl]
  rfl

/-- **The codec gives a packet back**, with the checksum that its message verifies
by, and reads within the frame whatever is received. -/
theorem codec_roundTrip (packet : Echo) (frame : Bytes) :
    decode (encode packet.1) =
        some (.Ok, some (packet.1.setChecksum (calculateChecksum (wire packet.1 0)))) ∧
      calculateChecksum (encode packet.1) = 0 ∧ (decode frame).isSome = true := by
  refine ⟨?_, calculateChecksum_encode packet.1, decode_isSome frame⟩
  have hlen : ∀ ck, ICMP_ECHO_HEADER_LEN ≤ (wire packet.1 ck).length := by
    intro ck
    change 8 ≤ packet.1.payload.length + 8
    exact Nat.le_add_left 8 _
  have hversion : packet.1.header.type >>> 4 ≠ 4 := by
    rcases packet.2 with h | h <;> rw [h] <;> decide
  have hoffset := fun ck => icmpOffset_of_version (hlen ck) hversion
  rw [encode_eq, decode_of_offset (hoffset _) (by simpa using hlen _),
    messageAt_wire]

end IcmpCodec

end Pretzel.Probed
