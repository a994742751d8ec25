import Mathlib.Tactic
import Pretzel.Ipc.Codec

/-!
The three functions of `shared/ipc/IpcCodec` against each other.

* `ofWire`: the message of the version spoken whose enumerations have the given
  values, named or not; every message of that version the code can hold is one.
* `hostToNet_netToHost`: the sixteen bytes of a header come back from it.
* `decode_ofWire`, `encode_of_decode`: encoding and decoding undo each other.
* `peekFrameSize_eq_ok_iff`, `not_valid_of_peek`: a size is announced exactly
  where a frame of that size decodes, and a header is refused only where no
  frame behind it does.
-/

namespace Pretzel.Ipc

open IpcWireHeader

/-! ### Messages and their bytes -/

/-- The message of `IPC_PROTOCOL_VERSION` whose enumerations have the given
values. -/
def IpcMessage.ofWire (src dst flags : UInt8) (cmd : UInt16) (seqNo : UInt32) (payload : Bytes) :
    IpcMessage Bytes where
  header := IpcHeader.build (.ofByte src) (.ofByte dst) (.ofWord cmd) seqNo flags
  payload

/-- A byte is the byte of the daemon it stands for. -/
@[simp] lemma IpcDaemon.toByte_ofByte (b : UInt8) : (ofByte b).toByte = b := by
  rw [ofByte]
  repeat' split
  all_goals simp_all [toByte]

/-- A word is the word of the command it stands for. -/
@[simp] lemma IpcCmd.toWord_ofWord (w : UInt16) : (ofWord w).toWord = w := by
  rw [ofWord]
  repeat' split
  all_goals simp_all [toWord]

/-- A field of a header, read at its width and written again. -/
lemma IpcWireHeader.encode_field {bytes : Bytes} {i n : ℕ} (h : i + n ≤ bytes.length) :
    BigEndian.decode ((bytes.drop i).take n) < 256 ^ n ∧
      BigEndian.encode n (BigEndian.decode ((bytes.drop i).take n)) = (bytes.drop i).take n := by
  have hlen : ((bytes.drop i).take n).length = n := by
    rw [List.length_take, List.length_drop]
    omega
  have hlt := BigEndian.decode_lt ((bytes.drop i).take n)
  have hback := BigEndian.encode_decode ((bytes.drop i).take n)
  rw [hlen] at hlt hback
  exact ⟨hlt, hback⟩

/-- **The bytes of a header come back** from what it reads. -/
theorem IpcWireHeader.hostToNet_netToHost {bytes : Bytes} (h : headerLen ≤ bytes.length) :
    (netToHost bytes).hostToNet = bytes.take headerLen := by
  have hlen : 16 ≤ bytes.length := h
  obtain ⟨hcmd, hcmd'⟩ := encode_field (show 4 + 2 ≤ bytes.length by omega)
  obtain ⟨hreserved, hreserved'⟩ := encode_field (show 6 + 2 ≤ bytes.length by omega)
  obtain ⟨hseqNo, hseqNo'⟩ := encode_field (show 8 + 4 ≤ bytes.length by omega)
  obtain ⟨hpayload, hpayload'⟩ := encode_field (show 12 + 4 ≤ bytes.length by omega)
  have hbytes : bytes.take headerLen = bytes.take 4 ++ ((bytes.drop 4).take 2 ++
      ((bytes.drop 6).take 2 ++ ((bytes.drop 8).take 4 ++ (bytes.drop 12).take 4))) := by
    calc bytes.take headerLen = bytes.take (4 + (2 + (2 + (4 + 4)))) := rfl
      _ = _ := by simp only [List.take_add, List.drop_drop]
  have hfirst : bytes.take 4
      = [bytes.getD 0 0, bytes.getD 1 0, bytes.getD 2 0, bytes.getD 3 0] := by
    match bytes, hlen with
    | a :: b :: c :: d :: rest, _ => rfl
  rw [hbytes, hfirst, hostToNet]
  simp only [netToHost]
  rw [UInt16.toNat_ofNat_of_lt' hcmd, UInt16.toNat_ofNat_of_lt' hreserved,
    UInt32.toNat_ofNat_of_lt' hseqNo, UInt32.toNat_ofNat_of_lt' hpayload, hcmd', hreserved',
    hseqNo', hpayload']

namespace IpcCodec

/-! ### Encoding and decoding -/

/-- Every enumeration value is the one its bytes stand for. -/
lemma canonical_ofWire (src dst flags : UInt8) (cmd : UInt16) (seqNo : UInt32) (payload : Bytes) :
    Canonical (IpcMessage.ofWire src dst flags cmd seqNo payload).header := by
  refine ⟨rfl, ?_, ?_, ?_⟩
  all_goals simp [IpcMessage.ofWire, IpcHeader.build]

/-- What a frame that decodes says, field by field. -/
lemma eq_of_decode {f : Bytes} {msg : IpcMessage Bytes} (h : decode f = .Ok msg) :
    (netToHost f).version = IPC_PROTOCOL_VERSION ∧ (netToHost f).reserved = 0 ∧
      (netToHost f).payloadLen.toNat ≤ IPC_MAX_FRAME_SIZE - headerLen ∧
      f.length = headerLen + (netToHost f).payloadLen.toNat ∧
      msg = IpcMessage.ofWire (netToHost f).src (netToHost f).dst (netToHost f).flags
        (netToHost f).cmd (netToHost f).seqNo (f.drop headerLen) := by
  obtain ⟨-, hversion, hreserved, hlimit, hsize⟩ := peekFrameSize_eq_ok.mp (decode_eq_ok h)
  refine ⟨hversion, hreserved, hlimit, hsize, ?_⟩
  have hpayload : (f.drop headerLen).take (netToHost f).payloadLen.toNat = f.drop headerLen := by
    refine List.take_of_length_le ?_
    rw [List.length_drop]
    omega
  rw [decode, if_neg (by omega)] at h
  dsimp only at h
  rw [hversion, hreserved, if_neg (by simp), if_neg (by simp), if_neg (by omega),
    if_neg (by omega), if_neg (by omega), hpayload] at h
  cases h
  rfl

/-- A frame decodes when its header is sound and its length the one announced. -/
lemma valid_of_fields {f : Bytes} (hversion : (netToHost f).version = IPC_PROTOCOL_VERSION)
    (hreserved : (netToHost f).reserved = 0)
    (hlimit : (netToHost f).payloadLen.toNat ≤ IPC_MAX_FRAME_SIZE - headerLen)
    (hsize : f.length = headerLen + (netToHost f).payloadLen.toNat) : Valid f := by
  rw [Valid, decode, if_neg (by omega)]
  dsimp only
  rw [hversion, hreserved, if_neg (by simp), if_neg (by simp), if_neg (by omega),
    if_neg (by omega), if_neg (by omega)]
  exact ⟨_, rfl⟩

/-- **A message of the version spoken decodes from what it encodes to**, whatever
its enumerations name. -/
theorem decode_ofWire (src dst flags : UInt8) (cmd : UInt16) (seqNo : UInt32) {payload : Bytes}
    (h : payload.length ≤ IPC_MAX_FRAME_SIZE - headerLen) :
    decode (encode (IpcMessage.ofWire src dst flags cmd seqNo payload))
      = .Ok (IpcMessage.ofWire src dst flags cmd seqNo payload) :=
  decode_encode (canonical_ofWire src dst flags cmd seqNo payload) h

/-- **A frame that decodes is what its message encodes to.** -/
theorem encode_of_decode {f : Bytes} {msg : IpcMessage Bytes} (h : decode f = .Ok msg) :
    encode msg = f := by
  obtain ⟨hversion, hreserved, hlimit, hsize, rfl⟩ := eq_of_decode h
  have hdrop : (f.drop headerLen).length = (netToHost f).payloadLen.toNat := by
    rw [List.length_drop]
    omega
  have hwire : (IpcMessage.ofWire (netToHost f).src (netToHost f).dst (netToHost f).flags
      (netToHost f).cmd (netToHost f).seqNo (f.drop headerLen)).toWireHeader = netToHost f := by
    simp only [IpcMessage.toWireHeader, IpcMessage.ofWire, IpcHeader.build,
      IpcDaemon.toByte_ofByte, IpcCmd.toWord_ofWord, hdrop, UInt32.ofNat_toNat]
    rw [← hversion, ← hreserved]
  calc encode _ = (netToHost f).hostToNet ++ f.drop headerLen := by
        rw [encode_eq (by simpa [IpcMessage.ofWire, hdrop] using hlimit), hwire]
        rfl
    _ = f.take headerLen ++ f.drop headerLen := by rw [hostToNet_netToHost (by omega)]
    _ = f := List.take_append_drop headerLen f

/-! ### The size a header announces -/

/-- A header reads the same with its payload behind it. -/
lemma netToHost_append {header : Bytes} (h : header.length = headerLen) (rest : Bytes) :
    netToHost (header ++ rest) = netToHost header := by
  rw [← netToHost_take (header ++ rest), ← h, List.take_left]

/-- **A size is announced exactly where a frame of that size decodes.** -/
theorem peekFrameSize_eq_ok_iff {header : Bytes} (h : header.length = headerLen) {n : ℕ} :
    peekFrameSize header = .Ok n ↔
      ∃ f, f.length = n ∧ f.take headerLen = header ∧ Valid f := by
  rw [peekFrameSize_eq_ok]
  constructor
  · rintro ⟨-, hversion, hreserved, hlimit, rfl⟩
    -- the header with a payload of zeros behind it
    have hlen : (header ++ List.replicate (netToHost header).payloadLen.toNat 0).length
        = headerLen + (netToHost header).payloadLen.toNat := by
      rw [List.length_append, List.length_replicate, h]
    refine ⟨header ++ List.replicate (netToHost header).payloadLen.toNat 0, hlen, ?_, ?_⟩
    · rw [← h, List.take_left]
    · refine valid_of_fields ?_ ?_ ?_ ?_
      all_goals rw [netToHost_append h]
      exacts [hversion, hreserved, hlimit, hlen]
  · rintro ⟨f, rfl, rfl, msg, hmsg⟩
    obtain ⟨hversion, hreserved, hlimit, hsize, -⟩ := eq_of_decode hmsg
    rw [netToHost_take]
    exact ⟨by omega, hversion, hreserved, hlimit, hsize⟩

/-- **A header that is refused begins no frame that decodes.** -/
theorem not_valid_of_peek {header : Bytes} (h : header.length = headerLen)
    (hrefused : peekFrameSize header = .InvalidFrame) (rest : Bytes) : ¬Valid (header ++ rest) := by
  rintro ⟨msg, hmsg⟩
  obtain ⟨hversion, hreserved, hlimit, -, -⟩ := eq_of_decode hmsg
  rw [netToHost_append h] at hversion hreserved hlimit
  have hok := peekFrameSize_eq_ok.mpr ⟨h.ge, hversion, hreserved, hlimit, rfl⟩
  rw [hok] at hrefused
  cases hrefused

/-- **The codec agrees with itself**: encoding is undone by decoding and decoding
by encoding, and a header is taken or refused as the frames behind it are. -/
theorem codec_agrees :
    (∀ (src dst flags : UInt8) (cmd : UInt16) (seqNo : UInt32) (payload : Bytes),
      payload.length ≤ IPC_MAX_FRAME_SIZE - headerLen →
      decode (encode (IpcMessage.ofWire src dst flags cmd seqNo payload))
        = .Ok (IpcMessage.ofWire src dst flags cmd seqNo payload)) ∧
    (∀ (f : Bytes) (msg : IpcMessage Bytes), decode f = .Ok msg → encode msg = f) ∧
    (∀ header : Bytes, header.length = headerLen →
      (∀ n, peekFrameSize header = .Ok n ↔
        ∃ f, f.length = n ∧ f.take headerLen = header ∧ Valid f) ∧
      (peekFrameSize header = .InvalidFrame → ∀ rest, ¬Valid (header ++ rest))) := by
  refine ⟨?_, ?_, ?_⟩
  · intro src dst flags cmd seqNo payload hlen
    exact decode_ofWire src dst flags cmd seqNo hlen
  · intro f msg hmsg
    exact encode_of_decode hmsg
  · intro header hlen
    exact ⟨fun n => peekFrameSize_eq_ok_iff hlen, fun hrefused => not_valid_of_peek hlen hrefused⟩

/-- A frame of an unnamed command, with a payload of two bytes, there and back. -/
theorem codec_agrees_unnamed :
    decode (encode (IpcMessage.ofWire 9 255 3 65535 7 [1, 2]))
      = .Ok (IpcMessage.ofWire 9 255 3 65535 7 [1, 2]) ∧
    encode (IpcMessage.ofWire 9 255 3 65535 7 [1, 2])
      = [2, 9, 255, 3, 255, 255, 0, 0, 0, 0, 0, 7, 0, 0, 0, 2, 1, 2] ∧
    ∃ f, f.length = 18 ∧ f.take headerLen = [2, 9, 255, 3, 255, 255, 0, 0, 0, 0, 0, 7, 0, 0, 0, 2] ∧
      Valid f :=
  ⟨codec_agrees.1 9 255 3 65535 7 [1, 2] (by decide), by decide,
    ((codec_agrees.2.2 _ rfl).1 18).mp (by decide)⟩

end IpcCodec

end Pretzel.Ipc
