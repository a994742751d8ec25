import Mathlib.Tactic
import Pretzel.Library.BigEndian
import Pretzel.Library.Framing
import Pretzel.Ipc.Protocol

/-!
`shared/ipc/IpcCodec`: frames of the IPC fabric.

* `IpcWireHeader`: the sixteen bytes every frame starts with, the words and
  longs of it in network order.
* `encode`, `decode`, `peekFrameSize`: the codec.
* `framing`: what `peekFrameSize` says of the front of a stream, as a framing.
* `decode_encode`: what is encoded decodes to the message it was.
* `isFrame_of_decode`: what decodes is one whole frame within the limit.
-/

namespace Pretzel.Ipc

/-- A byte as the code counts them. -/
abbrev Bytes := List UInt8

/-- `IpcWireHeader`, in host order. -/
structure IpcWireHeader where
  version : UInt8
  src : UInt8
  dst : UInt8
  flags : UInt8
  cmd : UInt16
  reserved : UInt16
  seqNo : UInt32
  payloadLen : UInt32
deriving DecidableEq, Repr

namespace IpcWireHeader

/-- `sizeof(IpcWireHeader)`. -/
def headerLen : ℕ := 16

/-- `IpcProtocol::hostToNet`, and the bytes of what it gives. -/
def hostToNet (h : IpcWireHeader) : Bytes :=
  [h.version, h.src, h.dst, h.flags] ++ (BigEndian.encode 2 h.cmd.toNat ++
    (BigEndian.encode 2 h.reserved.toNat ++ (BigEndian.encode 4 h.seqNo.toNat ++
      BigEndian.encode 4 h.payloadLen.toNat)))

/-- The bytes of a header, and `IpcProtocol::netToHost`. -/
def netToHost (bytes : Bytes) : IpcWireHeader where
  version := bytes.getD 0 0
  src := bytes.getD 1 0
  dst := bytes.getD 2 0
  flags := bytes.getD 3 0
  cmd := UInt16.ofNat (BigEndian.decode ((bytes.drop 4).take 2))
  reserved := UInt16.ofNat (BigEndian.decode ((bytes.drop 6).take 2))
  seqNo := UInt32.ofNat (BigEndian.decode ((bytes.drop 8).take 4))
  payloadLen := UInt32.ofNat (BigEndian.decode ((bytes.drop 12).take 4))

@[simp] lemma length_hostToNet (h : IpcWireHeader) : h.hostToNet.length = headerLen := by
  simp [hostToNet, headerLen]

/-- **A header comes back from its bytes**, whatever follows them. -/
theorem netToHost_hostToNet (h : IpcWireHeader) (rest : Bytes) :
    netToHost (h.hostToNet ++ rest) = h := by
  have hcmd : ((h.hostToNet ++ rest).drop 4).take 2 = BigEndian.encode 2 h.cmd.toNat := by
    simp [hostToNet, BigEndian.encode]
  have hreserved : ((h.hostToNet ++ rest).drop 6).take 2
      = BigEndian.encode 2 h.reserved.toNat := by
    simp [hostToNet, BigEndian.encode]
  have hseqNo : ((h.hostToNet ++ rest).drop 8).take 4 = BigEndian.encode 4 h.seqNo.toNat := by
    simp [hostToNet, BigEndian.encode]
  have hpayloadLen : ((h.hostToNet ++ rest).drop 12).take 4
      = BigEndian.encode 4 h.payloadLen.toNat := by
    simp [hostToNet, BigEndian.encode]
  rw [netToHost, hcmd, hreserved, hseqNo, hpayloadLen,
    BigEndian.decode_encode (by have := h.cmd.toNat_lt; omega),
    BigEndian.decode_encode (by have := h.reserved.toNat_lt; omega),
    BigEndian.decode_encode (by have := h.seqNo.toNat_lt; omega),
    BigEndian.decode_encode (by have := h.payloadLen.toNat_lt; omega)]
  simp [hostToNet]

/-- A header is read from the first sixteen bytes alone. -/
lemma netToHost_take (bytes : Bytes) : netToHost (bytes.take headerLen) = netToHost bytes := by
  have hget : ∀ i, i < headerLen → (bytes.take headerLen).getD i 0 = bytes.getD i 0 := by
    intro i hi
    rw [List.getD_eq_getElem?_getD, List.getD_eq_getElem?_getD, List.getElem?_take_of_lt hi]
  have hslice : ∀ i n, i + n ≤ headerLen →
      ((bytes.take headerLen).drop i).take n = (bytes.drop i).take n := by
    intro i n hn
    rw [List.drop_take, List.take_take, Nat.min_eq_left (by omega)]
  rw [netToHost, netToHost, hget 0 (by decide), hget 1 (by decide), hget 2 (by decide),
    hget 3 (by decide), hslice 4 2 (by decide), hslice 6 2 (by decide), hslice 8 4 (by decide),
    hslice 12 4 (by decide)]

end IpcWireHeader

open IpcWireHeader

/-- `IpcDecodeResult`, with the message of the `Ok` result. -/
inductive IpcDecodeResult where
  | Ok (msg : IpcMessage Bytes)
  | NeedMoreData
  | InvalidFrame
  | TooLarge
deriving DecidableEq, Repr

/-- `IpcPeekResult`, with the frame size of the `Ok` result. -/
inductive IpcPeekResult where
  | Ok (frameSize : ℕ)
  | NeedMoreData
  | InvalidFrame
deriving DecidableEq, Repr

/-- `IpcMessage::toWireHeader`. -/
def IpcMessage.toWireHeader (msg : IpcMessage Bytes) : IpcWireHeader where
  version := msg.header.version
  src := msg.header.src.toByte
  dst := msg.header.dst.toByte
  flags := msg.header.flags
  cmd := msg.header.cmd.toWord
  reserved := 0
  seqNo := msg.header.seqNo
  payloadLen := UInt32.ofNat msg.payload.length

namespace IpcCodec

/-- `IpcCodec::encode`. No bytes are the failure the callers test for. -/
def encode (msg : IpcMessage Bytes) : Bytes :=
  let payloadLen := msg.payload.length
  if payloadLen > IPC_MAX_FRAME_SIZE - headerLen then []
  else msg.toWireHeader.hostToNet ++ msg.payload

/-- `IpcCodec::decode`. -/
def decode (frame : Bytes) : IpcDecodeResult :=
  if frame.length < headerLen then .NeedMoreData
  else
    let wire := netToHost frame
    if wire.version != IPC_PROTOCOL_VERSION then .InvalidFrame
    else if wire.reserved != 0 then .InvalidFrame
    else if wire.payloadLen.toNat > IPC_MAX_FRAME_SIZE - headerLen then .TooLarge
    else
      let totalLen := headerLen + wire.payloadLen.toNat
      if frame.length < totalLen then .NeedMoreData
      else if frame.length ≠ totalLen then .InvalidFrame
      else
        let header := IpcHeader.build (.ofByte wire.src) (.ofByte wire.dst) (.ofWord wire.cmd)
          wire.seqNo wire.flags
        .Ok { header := { header with version := wire.version }
              payload := (frame.drop headerLen).take wire.payloadLen.toNat }

/-- `IpcCodec::peekFrameSize`. -/
def peekFrameSize (data : Bytes) : IpcPeekResult :=
  if data.length < headerLen then .NeedMoreData
  else
    let wire := netToHost data
    if wire.version != IPC_PROTOCOL_VERSION then .InvalidFrame
    else if wire.reserved != 0 then .InvalidFrame
    else if wire.payloadLen.toNat > IPC_MAX_FRAME_SIZE - headerLen then .InvalidFrame
    else .Ok (headerLen + wire.payloadLen.toNat)

/-! ### Encoding and decoding -/

/-- A header whose enumerations are the ones its bytes stand for, of the version
spoken. -/
structure Canonical (h : IpcHeader) : Prop where
  version : h.version = IPC_PROTOCOL_VERSION
  src : IpcDaemon.ofByte h.src.toByte = h.src
  dst : IpcDaemon.ofByte h.dst.toByte = h.dst
  cmd : IpcCmd.ofWord h.cmd.toWord = h.cmd

instance (h : IpcHeader) : Decidable (Canonical h) :=
  decidable_of_iff (h.version = IPC_PROTOCOL_VERSION ∧ IpcDaemon.ofByte h.src.toByte = h.src ∧
      IpcDaemon.ofByte h.dst.toByte = h.dst ∧ IpcCmd.ofWord h.cmd.toWord = h.cmd)
    ⟨fun ⟨a, b, c, d⟩ => ⟨a, b, c, d⟩, fun ⟨a, b, c, d⟩ => ⟨a, b, c, d⟩⟩

lemma encode_eq {msg : IpcMessage Bytes}
    (h : msg.payload.length ≤ IPC_MAX_FRAME_SIZE - headerLen) :
    encode msg = msg.toWireHeader.hostToNet ++ msg.payload := by
  rw [encode]
  exact if_neg (Nat.not_lt.mpr h)

lemma encode_ne_nil_iff {msg : IpcMessage Bytes} :
    encode msg ≠ [] ↔ msg.payload.length ≤ IPC_MAX_FRAME_SIZE - headerLen := by
  constructor
  · intro hne
    by_contra hgt
    rw [encode] at hne
    exact hne (if_pos (Nat.not_le.mp hgt))
  · intro hle hnil
    have hlen := congrArg List.length (encode_eq hle)
    rw [hnil, List.length_append, length_hostToNet, List.length_nil, headerLen] at hlen
    omega

/-- The payload length survives its 32 bits. -/
lemma payloadLen_toWireHeader {msg : IpcMessage Bytes}
    (h : msg.payload.length ≤ IPC_MAX_FRAME_SIZE - headerLen) :
    msg.toWireHeader.payloadLen.toNat = msg.payload.length := by
  rw [IpcMessage.toWireHeader]
  refine UInt32.toNat_ofNat_of_lt' ?_
  simp only [IPC_MAX_FRAME_SIZE, headerLen] at h
  have : UInt32.size = 4294967296 := rfl
  omega

/-- **What is encoded decodes to the message it was.** -/
theorem decode_encode {msg : IpcMessage Bytes} (hheader : Canonical msg.header)
    (h : msg.payload.length ≤ IPC_MAX_FRAME_SIZE - headerLen) :
    decode (encode msg) = .Ok msg := by
  have hlen : (encode msg).length = headerLen + msg.payload.length := by
    rw [encode_eq h, List.length_append, length_hostToNet]
  have hwire : netToHost (encode msg) = msg.toWireHeader := by
    rw [encode_eq h, netToHost_hostToNet]
  have hpayload : ((encode msg).drop headerLen).take msg.payload.length = msg.payload := by
    rw [encode_eq h, List.drop_left' (length_hostToNet _), List.take_length]
  have hversion : msg.toWireHeader.version = IPC_PROTOCOL_VERSION := hheader.version
  have hreserved : msg.toWireHeader.reserved = 0 := rfl
  rw [decode, if_neg (by omega)]
  dsimp only
  rw [hwire, hversion, hreserved, payloadLen_toWireHeader h, hpayload, if_neg (by simp),
    if_neg (by simp), if_neg (Nat.not_lt.mpr h), if_neg (by omega), if_neg (by omega)]
  obtain ⟨header, payload⟩ := msg
  obtain ⟨version, src, dst, flags, cmd, seqNo⟩ := header
  simp only [IpcMessage.toWireHeader, IpcHeader.build, IpcDecodeResult.Ok.injEq,
    IpcMessage.mk.injEq, IpcHeader.mk.injEq, and_true, true_and]
  exact ⟨hheader.version.symm, hheader.src, hheader.dst, hheader.cmd⟩

/-! ### Frames of a stream -/

/-- What the front of a stream says of its first frame. -/
def peekHead (xs : Bytes) : FrameHead :=
  match peekFrameSize (xs.take headerLen) with
  | .Ok frameSize => .size frameSize
  | .NeedMoreData => .needMore
  | .InvalidFrame => .invalid

lemma peekFrameSize_eq_ok {data : Bytes} {n : ℕ} : peekFrameSize data = .Ok n ↔
    headerLen ≤ data.length ∧ (netToHost data).version = IPC_PROTOCOL_VERSION ∧
      (netToHost data).reserved = 0 ∧
      (netToHost data).payloadLen.toNat ≤ IPC_MAX_FRAME_SIZE - headerLen ∧
      n = headerLen + (netToHost data).payloadLen.toNat := by
  rw [peekFrameSize]
  dsimp only
  split
  · next hlt => simp [hlt]
  · next hge =>
      rw [Nat.not_lt] at hge
      split
      · next hversion =>
          rw [bne_iff_ne] at hversion
          simp [hversion]
      · next hversion =>
          rw [Bool.not_eq_true, bne_eq_false_iff_eq] at hversion
          split
          · next hreserved =>
              rw [bne_iff_ne] at hreserved
              simp [hreserved]
          · next hreserved =>
              rw [Bool.not_eq_true, bne_eq_false_iff_eq] at hreserved
              split
              · next hgt =>
                  constructor
                  · intro h
                    exact absurd h (by simp)
                  · intro h
                    omega
              · next hle =>
                  rw [Nat.not_lt] at hle
                  simp only [IpcPeekResult.Ok.injEq, hge, hversion, hreserved, hle, true_and]
                  exact eq_comm

/-- The first frame is read from the first sixteen bytes, whatever follows. -/
lemma peekHead_append {xs : Bytes} (h : peekHead xs ≠ .needMore) (ys : Bytes) :
    peekHead (xs ++ ys) = peekHead xs := by
  have hlen : headerLen ≤ xs.length := by
    by_contra hlt
    refine h ?_
    have hshort : (xs.take headerLen).length < headerLen := by
      rw [List.length_take]
      omega
    rw [peekHead, peekFrameSize, if_pos hshort]
  rw [peekHead, peekHead, List.take_append_of_le_length hlen]

/-- `peekFrameSize`, as a framing. -/
def framing : Framing UInt8 where
  peek := peekHead
  peek_append := fun h ys => peekHead_append h ys
  size_pos := by
    intro xs n h
    rw [peekHead] at h
    split at h
    · next frameSize hok =>
        obtain ⟨-, -, -, -, hsize⟩ := peekFrameSize_eq_ok.mp hok
        cases h
        simp only [headerLen] at hsize
        omega
    all_goals cases h

/-- The message a frame decodes to. -/
def message (f : Bytes) : Option (IpcMessage Bytes) :=
  match decode f with
  | .Ok msg => some msg
  | .NeedMoreData | .InvalidFrame | .TooLarge => none

/-- A frame the receiver decodes. -/
def Valid (f : Bytes) : Prop := ∃ msg, decode f = .Ok msg

lemma isSome_message_iff {f : Bytes} : (message f).isSome ↔ Valid f := by
  rw [message, Valid]
  cases decode f <;> simp

/-- What a decoded frame says of itself. -/
lemma decode_eq_ok {f : Bytes} {msg : IpcMessage Bytes} (h : decode f = .Ok msg) :
    peekFrameSize f = .Ok f.length := by
  rw [decode] at h
  dsimp only at h
  split at h
  · cases h
  next hlen =>
  split at h
  · cases h
  next hversion =>
  split at h
  · cases h
  next hreserved =>
  split at h
  · cases h
  next hlimit =>
  split at h
  · cases h
  next hshort =>
  split at h
  · cases h
  next heq =>
  rw [Bool.not_eq_true, bne_eq_false_iff_eq] at hversion hreserved
  exact peekFrameSize_eq_ok.mpr ⟨by omega, hversion, hreserved, by omega, by omega⟩

/-- **What decodes is one whole frame.** -/
theorem isFrame_of_decode {f : Bytes} (h : Valid f) : framing.IsFrame f := by
  obtain ⟨msg, hmsg⟩ := h
  obtain ⟨hlen, hfields⟩ := peekFrameSize_eq_ok.mp (decode_eq_ok hmsg)
  have hhead : peekFrameSize (f.take headerLen) = .Ok f.length := by
    rw [peekFrameSize_eq_ok, netToHost_take, List.length_take]
    exact ⟨by omega, hfields⟩
  change peekHead f = .size f.length
  rw [peekHead, hhead]

/-- A frame that decodes is within the limit. -/
lemma length_le_of_decode {f : Bytes} (h : Valid f) :
    headerLen ≤ f.length ∧ f.length ≤ IPC_MAX_FRAME_SIZE := by
  obtain ⟨msg, hmsg⟩ := h
  obtain ⟨hlen, -, -, hlimit, hsize⟩ := peekFrameSize_eq_ok.mp (decode_eq_ok hmsg)
  simp only [IPC_MAX_FRAME_SIZE, headerLen] at *
  omega

end IpcCodec

end Pretzel.Ipc
