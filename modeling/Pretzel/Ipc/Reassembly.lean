import Pretzel.Ipc.Handler
import Pretzel.Library.Machine

/-!
Frames put together again: a stream that arrives in the receive ring in chunks, with a drain
after each.

* `Reassembly`, `reassembly`: the connection and what its drains have handed to `ingress`, over
  every way to cut the stream into chunks for which the ring has room.
* `isFrame_encode`: what is encoded is a frame.
* `reassembled`: **what was handed over are the frames that have arrived whole**, in order, and
  the ring holds what has arrived of the next one; the drain refuses where an invalid header
  has arrived.
-/

namespace Pretzel.Ipc

open IpcWireHeader Reactive

/-- A connection that receives, with the frames handed to `ingress`. -/
structure Reassembly where
  conn : IpcConnection
  handed : List Bytes := []
  /-- What has arrived. -/
  received : Bytes := []
  /-- The last drain has not refused. -/
  ok : Bool := true

/-- `ingress`, which takes every frame. -/
def handOver (handed : List Bytes) (frame : Bytes) : Option (List Bytes) := some (handed ++ [frame])

/-- The machine: a chunk that fits is written to the ring, and the ring is drained. The head of
the empty ring stands anywhere. -/
def reassembly : Machine Reassembly Bytes where
  init s := s.conn.rx.contents = [] ∧ s.handed = [] ∧ s.received = [] ∧ s.ok = true
  next s chunk :=
    if s.ok = true ∧ chunk.length ≤ s.conn.rx.writable then
      let (handed, conn, ok) := IpcHandler.drainRxFrames handOver s.handed
        { s.conn with rx := (s.conn.rx.write chunk).1 }
      some { conn, handed, received := s.received ++ chunk, ok }
    else none

/-- A message that can be encoded: it is of the version spoken, and within the limit. -/
structure Encodable (msg : IpcMessage Bytes) : Prop where
  version : msg.header.version = IPC_PROTOCOL_VERSION
  length : msg.payload.length ≤ IPC_MAX_FRAME_SIZE - headerLen

/-- **What is encoded is a frame.** -/
lemma isFrame_encode {msg : IpcMessage Bytes} (h : Encodable msg) :
    IpcCodec.framing.IsFrame (IpcCodec.encode msg) := by
  have hlen : (IpcCodec.encode msg).length = headerLen + msg.payload.length := by
    rw [IpcCodec.encode_eq h.length, List.length_append, length_hostToNet]
  have hwire : netToHost (IpcCodec.encode msg) = msg.toWireHeader := by
    rw [IpcCodec.encode_eq h.length, netToHost_hostToNet]
  have hhead : IpcCodec.peekFrameSize ((IpcCodec.encode msg).take headerLen)
      = .Ok (IpcCodec.encode msg).length := by
    rw [IpcCodec.peekFrameSize_eq_ok, netToHost_take, hwire, List.length_take, hlen,
      IpcCodec.payloadLen_toWireHeader h.length]
    exact ⟨by omega, h.version, rfl, h.length, rfl⟩
  change IpcCodec.peekHead (IpcCodec.encode msg) = .size (IpcCodec.encode msg).length
  rw [IpcCodec.peekHead, hhead]

/-! ### The invariant -/

section Reassembled

variable {s s' t : Reassembly} {fs : List Bytes} {rest ys : Bytes}

/-- The state stands for a stream: the frames that have arrived whole are handed over, and the
rest of what has arrived is in the ring. -/
structure Stands (s : Reassembly) (fs : List Bytes) : Prop where
  handed : s.handed = fs.take (Framing.completed fs s.received.length)
  ring : s.conn.rx.contents = Framing.remains fs s.received
  ok : s.ok = decide (IpcCodec.framing.peek (Framing.remains fs s.received) ≠ .invalid)

lemma foldl_handOver (handed fs : List Bytes) :
    fs.foldl (fun handed frame => handed ++ [frame]) handed = handed ++ fs := by
  induction fs generalizing handed with
  | nil => exact (List.append_nil _).symm
  | cons f fs ih => rw [List.foldl_cons, ih, List.append_assoc, List.singleton_append]

/-- **A chunk arrives, and the ring is drained.** -/
lemma stands_next {chunk : Bytes} (hfs : ∀ f ∈ fs, IpcCodec.framing.IsFrame f)
    (hrest : IpcCodec.framing.Stops rest) (hstream : s.received ++ chunk ++ ys = fs.flatten ++ rest)
    (h : Stands s fs) (hstep : reassembly.next s chunk = some s') : Stands s' fs := by
  rw [reassembly] at hstep
  dsimp only at hstep
  split at hstep
  swap
  · cases hstep
  next hfits =>
  obtain ⟨new, hnew, hcompleted, hremains⟩ := Framing.remains_append hfs hrest hstream
  obtain ⟨-, hstops⟩ := Framing.take_completed_append_remains hfs hrest hstream
  have hring : (s.conn.rx.write chunk).1.contents
      = new.flatten ++ Framing.remains fs (s.received ++ chunk) := by
    rw [(s.conn.rx.contents_write hfits.2).1, h.ring, hremains]
  obtain ⟨hhanded, hleft, hok, -⟩ := IpcHandler.drainRxFrames_eq handOver s.handed
    { s.conn with rx := (s.conn.rx.write chunk).1 }
  have hdrain : IpcCodec.framing.drain handOver
      ((new.flatten ++ Framing.remains fs (s.received ++ chunk)).length + 1) s.handed
      (new.flatten ++ Framing.remains fs (s.received ++ chunk)) =
    (new.foldl (fun handed frame => handed ++ [frame]) s.handed,
      Framing.remains fs (s.received ++ chunk),
      decide (IpcCodec.framing.peek (Framing.remains fs (s.received ++ chunk)) ≠ .invalid)) :=
    Framing.drain_frames hnew hstops (Nat.lt_succ_self _) s.handed
  rw [hring] at hhanded hleft hok
  rw [hdrain] at hhanded hleft hok
  cases hstep
  refine ⟨?_, hleft, hok⟩
  rw [hcompleted, ← h.handed]
  exact hhanded.trans (foldl_handOver s.handed new)

/-- Before anything has arrived. -/
lemma stands_init (hfs : ∀ f ∈ fs, IpcCodec.framing.IsFrame f) (h : reassembly.init s) :
    Stands s fs := by
  obtain ⟨hring, hhanded, hreceived, hok⟩ := h
  have hnone : Framing.completed fs 0 = 0 := by
    cases fs with
    | nil => rfl
    | cons f fs =>
        have hpos := (hfs f List.mem_cons_self).length_pos
        rw [Framing.completed, if_neg (by omega)]
  have hremains : Framing.remains fs ([] : Bytes) = [] := List.drop_nil
  refine ⟨?_, ?_, ?_⟩
  · rw [hreceived, List.length_nil, hnone, hhanded]
    rfl
  · rw [hreceived, hremains, hring]
  · rw [hreceived, hremains, hok]
    rfl

lemma received_next {chunk : Bytes} (h : reassembly.next s chunk = some s') :
    s'.received = s.received ++ chunk := by
  rw [reassembly] at h
  dsimp only at h
  split at h
  · cases h
    rfl
  · cases h

/-- **What is handed over is what was sent.** In every run, whatever chunks the stream comes
in and wherever the ring begins: a stream of encoded messages, with a rest that no whole frame
begins. -/
theorem reassembled {tr : List (Reassembly × Bytes)} (hinit : reassembly.init s)
    (hrun : reassembly.Run s tr t) {ms : List (IpcMessage Bytes)} (hms : ∀ m ∈ ms, Encodable m)
    (hrest : IpcCodec.framing.Stops rest)
    (hstream : t.received ++ ys = (ms.map IpcCodec.encode).flatten ++ rest) :
    Stands t (ms.map IpcCodec.encode) := by
  have hfs : ∀ f ∈ ms.map IpcCodec.encode, IpcCodec.framing.IsFrame f := by
    intro f hf
    obtain ⟨m, hm, rfl⟩ := List.mem_map.mp hf
    exact isFrame_encode (hms m hm)
  induction hrun generalizing ys with
  | nil => exact stands_init hfs hinit
  | @snoc tr u u' chunk _ hstep ih =>
      rw [received_next hstep] at hstream
      exact stands_next hfs hrest hstream (ih (by rw [← List.append_assoc]; exact hstream)) hstep

end Reassembled

namespace WrappedFrame

/-- A message. -/
def message : IpcMessage Bytes :=
  { header := .build .Mgmtd .Engined (.raw 114) 7 0, payload := [1, 2, 3] }

/-- An empty ring whose head stands before its end. -/
def ring : ByteRingBuffer :=
  { buffer := fun _ => 0, capacity := 32, head := 25, tail := 25, size := 0
    capacity_pos := by decide, head_lt := by decide, size_le := by decide, tail_eq := by decide }

/-- A connection over it. -/
def start : Reassembly := { conn := { fd := 3, rx := ring, tx := ring } }

end WrappedFrame

open WrappedFrame in
/-- A frame whose header wraps, in two chunks with the first byte of the next one. -/
theorem reassembled_wrapped : ∃ t, reassembly.exec start
    [(IpcCodec.encode message).take 10, (IpcCodec.encode message).drop 10 ++ [2]] = some t ∧
      t.handed = [IpcCodec.encode message] ∧ Stands t [IpcCodec.encode message] := by
  have hexec : (reassembly.exec start
      [(IpcCodec.encode message).take 10, (IpcCodec.encode message).drop 10 ++ [2]]).map
        (fun t => (t.handed, t.received)) =
      some ([IpcCodec.encode message], IpcCodec.encode message ++ [2]) := by decide +kernel
  obtain ⟨t, ht, hvalues⟩ := Option.map_eq_some_iff.mp hexec
  obtain ⟨hhanded, hreceived⟩ := Prod.mk.inj hvalues
  have hms : ∀ m ∈ [message], Encodable m := by
    intro m hm
    obtain rfl := List.mem_singleton.mp hm
    exact ⟨rfl, by decide⟩
  have hrest : IpcCodec.framing.Stops [2] := by
    intro n hsize
    cases hsize
  have hstream : t.received ++ [] = ([message].map IpcCodec.encode).flatten ++ [2] := by
    rw [hreceived]
    rfl
  exact ⟨t, ht, hhanded,
    reassembled ⟨rfl, rfl, rfl, rfl⟩ (Machine.exec_run ht) hms hrest hstream⟩

end Pretzel.Ipc
