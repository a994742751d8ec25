import Mathlib.Tactic
import Pretzel.Library.RingBuffer
import Pretzel.Ipc.Codec

/-!
`shared/ipc/IpcConnection`: a socket with its receive and transmit rings.

* `Inbound`, `SendAnswer`: what the socket answers the calls of one `recv` or
  `send` loop.
* `recv`, `send`, `write`: the operations.
* `recv_room`, `recv_full`: a receive loop reads all there is and ends as the
  socket does while the ring has room to spare, and ends at `BufferFull` when it
  has not.
-/

namespace Pretzel.Ipc

/-- `ByteRingBuffer`. -/
abbrev ByteRingBuffer := RingBuffer UInt8

/-- `IoResult`. -/
inductive IoResult where
  | Ok
  | WouldBlock
  | PeerClosed
  | BufferFull
  | Error
deriving DecidableEq, Repr

/-- What `::recv` answers when no byte is left: `EAGAIN`, end of file, or
another error. -/
inductive SocketEnd where
  | again
  | closed
  | failed
deriving DecidableEq, Repr

/-- What the socket holds for one receive loop: the segments it hands out, an
empty one for a call a signal interrupts, and the end behind them. -/
structure Inbound where
  segments : List Bytes
  ending : SocketEnd
deriving DecidableEq, Repr

/-- What `::send` answers a call: the bytes it would take, or an error. -/
inductive SendAnswer where
  | sent (n : ℕ)
  | interrupted
  | again
  | failed
deriving DecidableEq, Repr

/-- A socket that takes bytes, or none for now. -/
def SendAnswer.Alive : SendAnswer → Prop
  | .sent n => 0 < n
  | .interrupted | .again => True
  | .failed => False

/-- `IpcConnection`. -/
structure IpcConnection where
  fd : ℤ
  rx : ByteRingBuffer
  tx : ByteRingBuffer

/-- How a receive loop ends when the socket has no byte left. -/
def SocketEnd.result : SocketEnd → IoResult
  | again => .WouldBlock
  | closed => .PeerClosed
  | failed => .Error

namespace IpcConnection

lemma capacity_pos (n : ℕ) : 0 < max n IPC_MAX_FRAME_SIZE :=
  lt_of_lt_of_le (by decide) (le_max_right _ _)

/-- The constructor: no ring is smaller than the largest frame. -/
def new (fd : ℤ) (rxBuf txBuf : ℕ) : IpcConnection where
  fd
  rx := RingBuffer.empty (max rxBuf IPC_MAX_FRAME_SIZE) (capacity_pos rxBuf) 0
  tx := RingBuffer.empty (max txBuf IPC_MAX_FRAME_SIZE) (capacity_pos txBuf) 0

/-- The loop of `recv`. Each turn takes bytes off the first segment, or leaves
an empty one behind. -/
def recvLoop (ending : SocketEnd) : ℕ → ByteRingBuffer → List Bytes → ByteRingBuffer × IoResult
  | 0, rx, _ => (rx, ending.result)
  | fuel + 1, rx, segments =>
      if rx.writeLen = 0 then (rx, .BufferFull)
      else
        match segments with
        | [] => (rx, ending.result)
        | seg :: segs =>
            if seg = [] then recvLoop ending fuel rx segs
            else
              let n := min rx.writeLen seg.length
              recvLoop ending fuel (rx.produce (seg.take n)
                ((List.length_take_le _ _).trans (Nat.min_le_left _ _))) (seg.drop n :: segs)

/-- `IpcConnection::recv`. -/
def recv (conn : IpcConnection) (inbound : Inbound) : IpcConnection × IoResult :=
  let (rx, rc) := recvLoop inbound.ending
    (inbound.segments.flatten.length + inbound.segments.length + 1) conn.rx inbound.segments
  ({ conn with rx }, rc)

/-- The loop of `send`, over the answers of the socket. Behind the last of them
the socket takes no more. -/
def sendLoop : List SendAnswer → ByteRingBuffer → ByteRingBuffer × IoResult
  | [], tx => (tx, if tx.readable = 0 then .Ok else .WouldBlock)
  | answer :: answers, tx =>
      if tx.readable = 0 then (tx, .Ok)
      else
        match answer with
        | .sent n =>
            if min n tx.readLen = 0 then (tx, .PeerClosed)
            else
              let tx' := tx.consume (min n tx.readLen)
                ((Nat.min_le_right _ _).trans tx.readLen_le_readable)
              if min n tx.readLen < tx.readLen then (tx', .WouldBlock) else sendLoop answers tx'
        | .interrupted => sendLoop answers tx
        | .again => (tx, .WouldBlock)
        | .failed => (tx, .Error)

/-- `IpcConnection::send`. -/
def send (conn : IpcConnection) (answers : List SendAnswer) : IpcConnection × IoResult :=
  let (tx, rc) := sendLoop answers conn.tx
  ({ conn with tx }, rc)

/-- `IpcConnection::write`. -/
def write (conn : IpcConnection) (data : Bytes) : IpcConnection × Bool :=
  if data = [] then (conn, true)
  else if conn.tx.writable < data.length then (conn, false)
  else ({ conn with tx := (conn.tx.write data).1 }, true)

@[simp] lemma contents_rx_new (fd : ℤ) (rxBuf txBuf : ℕ) :
    (new fd rxBuf txBuf).rx.contents = [] := rfl

@[simp] lemma capacity_rx_new (fd : ℤ) (rxBuf txBuf : ℕ) :
    (new fd rxBuf txBuf).rx.capacity = max rxBuf IPC_MAX_FRAME_SIZE := rfl

/-! ### Receiving -/

/-- The fuel of the receive loop suffices: every turn but the last uses up a
byte or a segment. -/
lemma recvLoop_spec (ending : SocketEnd) (fuel : ℕ) (rx : ByteRingBuffer) (segments : List Bytes)
    (hfuel : segments.flatten.length + segments.length < fuel) :
    (recvLoop ending fuel rx segments).1.capacity = rx.capacity ∧
    (rx.writable ≤ segments.flatten.length →
      (recvLoop ending fuel rx segments).2 = .BufferFull) ∧
    (segments.flatten.length < rx.writable →
      (recvLoop ending fuel rx segments).1.contents = rx.contents ++ segments.flatten ∧
      (recvLoop ending fuel rx segments).2 = ending.result) := by
  induction fuel generalizing rx segments with
  | zero => omega
  | succ fuel ih =>
      have hpos : rx.writeLen ≠ 0 ↔ 0 < rx.writable := by
        rw [Ne, rx.writeLen_eq_zero_iff]
        omega
      cases segments with
      | nil =>
          rw [recvLoop, List.flatten_nil, List.length_nil, List.append_nil]
          split
          · next hfull => exact ⟨rfl, fun _ => rfl, fun h => absurd hfull (hpos.mpr h)⟩
          · next hroom => exact ⟨rfl, fun h => by have := hpos.mp hroom; omega, fun _ => ⟨rfl, rfl⟩⟩
      | cons seg segs =>
          rw [List.flatten_cons, List.length_append, List.length_cons] at hfuel
          rw [recvLoop, List.flatten_cons, List.length_append]
          split
          · next hfull =>
              exact ⟨rfl, fun _ => rfl, fun h => absurd hfull (hpos.mpr (by omega))⟩
          next hroom =>
          split
          · next hnil =>
              rw [hnil, List.length_nil, Nat.zero_add, List.nil_append]
              exact ih rx segs (by omega)
          · next hne =>
              have hseg : 0 < seg.length := List.length_pos_iff.mpr hne
              have hle := rx.writeLen_le_writable
              have htake : (seg.take (min rx.writeLen seg.length)).length
                  = min rx.writeLen seg.length := by
                rw [List.length_take]
                omega
              obtain ⟨hcap, hfull, hread⟩ := ih
                (rx.produce (seg.take (min rx.writeLen seg.length))
                  ((List.length_take_le _ _).trans (Nat.min_le_left _ _)))
                (seg.drop (min rx.writeLen seg.length) :: segs) (by
                  rw [List.flatten_cons, List.length_append, List.length_drop, List.length_cons]
                  omega)
              have hwritable : (rx.produce (seg.take (min rx.writeLen seg.length))
                  ((List.length_take_le _ _).trans (Nat.min_le_left _ _))).writable
                    = rx.writable - min rx.writeLen seg.length := by
                simp only [RingBuffer.writable, RingBuffer.capacity_produce,
                  RingBuffer.size_produce, htake]
                omega
              rw [hwritable, List.flatten_cons, List.length_append, List.length_drop]
                at hfull hread
              refine ⟨hcap, fun h => hfull (by omega), fun h => ?_⟩
              obtain ⟨hcontents, hend⟩ := hread (by omega)
              refine ⟨?_, hend⟩
              rw [hcontents, RingBuffer.contents_produce, List.append_assoc,
                ← List.append_assoc (seg.take _), List.take_append_drop]

/-- **With room to spare, a receive loop reads all there is**, and ends as the
socket does. -/
theorem recv_room (conn : IpcConnection) {inbound : Inbound}
    (h : inbound.segments.flatten.length < conn.rx.writable) :
    (conn.recv inbound).1.rx.contents = conn.rx.contents ++ inbound.segments.flatten ∧
      (conn.recv inbound).1.rx.capacity = conn.rx.capacity ∧
      (conn.recv inbound).2 = inbound.ending.result := by
  obtain ⟨hcap, -, hread⟩ := recvLoop_spec inbound.ending _ conn.rx inbound.segments
    (Nat.lt_succ_self _)
  exact ⟨(hread h).1, hcap, (hread h).2⟩

/-- **A ring filled to the last byte ends the loop at `BufferFull`**, whatever
the socket says behind it. -/
theorem recv_full (conn : IpcConnection) {inbound : Inbound}
    (h : conn.rx.writable ≤ inbound.segments.flatten.length) :
    (conn.recv inbound).2 = .BufferFull :=
  (recvLoop_spec inbound.ending _ conn.rx inbound.segments (Nat.lt_succ_self _)).2.1 h

/-! ### Sending -/

lemma sendLoop_alive {answers : List SendAnswer} (h : ∀ a ∈ answers, a.Alive)
    (tx : ByteRingBuffer) :
    (sendLoop answers tx).2 = .Ok ∨ (sendLoop answers tx).2 = .WouldBlock := by
  induction answers generalizing tx with
  | nil =>
      rw [sendLoop]
      dsimp only
      split
      · exact .inl rfl
      · exact .inr rfl
  | cons answer answers ih =>
      have hrest : ∀ a ∈ answers, a.Alive := fun a ha => h a (List.mem_cons_of_mem _ ha)
      have hanswer := h answer List.mem_cons_self
      cases answer with
      | sent n =>
          have hn : 0 < n := hanswer
          rw [sendLoop]
          split
          · exact .inl rfl
          next hreadable =>
          have hlen : 0 < tx.readLen := by
            have := tx.head_lt
            rw [RingBuffer.readLen, if_neg hreadable]
            omega
          dsimp only
          rw [if_neg (by omega)]
          split
          · exact .inr rfl
          · exact ih hrest _
      | interrupted =>
          rw [sendLoop]
          split
          · exact .inl rfl
          · exact ih hrest tx
      | again =>
          rw [sendLoop]
          split
          · exact .inl rfl
          · exact .inr rfl
      | failed => exact hanswer.elim

@[simp] lemma rx_send (conn : IpcConnection) (answers : List SendAnswer) :
    (conn.send answers).1.rx = conn.rx := rfl

/-! ### Writing -/

/-- **A frame that fits goes to the back of the transmit ring, and any other is
refused.** -/
theorem write_eq (conn : IpcConnection) {data : Bytes} (hne : data ≠ []) :
    ((conn.write data).2 = true ↔ data.length ≤ conn.tx.writable) ∧
    ((conn.write data).2 = true →
      (conn.write data).1.tx.contents = conn.tx.contents ++ data) := by
  rw [write, if_neg hne]
  split
  · next hlt => simp [hlt]
  · next hge =>
      rw [Nat.not_lt] at hge
      refine ⟨⟨fun _ => hge, fun _ => rfl⟩, fun _ => ?_⟩
      exact (conn.tx.contents_write hge).1

end IpcConnection

end Pretzel.Ipc
