import Mathlib.Tactic
import Pretzel.Ipc.Connection
import Pretzel.Library.Reception

/-!
`shared/ipc/IpcHandler`: the reading and writing of a ready connection, over the
`ingress` of the handler that derives it.

* `drainRxFrames`: the frames of the receive ring handed to `ingress`.
* `handleRecv`, `handleSend`: one readiness event.
* `EpollEvent`: an event of `epoll_wait`, and what it is to one descriptor.
* `drainRxFrames_eq`: the drain of the ring is the drain of the queue it stands
  for, by the framing of `peekFrameSize`.
* `handleRecv_frames`: what an event with room to spare does to a stream of
  frames.
-/

namespace Pretzel.Ipc

open IpcWireHeader

namespace IpcHandler

variable {σ : Type*} (ingress : σ → Bytes → Option σ)

/-- The loop of `drainRxFrames`. -/
def drainLoop : ℕ → σ → ByteRingBuffer → σ × ByteRingBuffer × Bool
  | 0, s, rx => (s, rx, true)
  | fuel + 1, s, rx =>
      if rx.readable < headerLen then (s, rx, true)
      else
        let headerBuf := rx.peek headerLen
        if headerBuf.length < headerLen then (s, rx, true)
        else
          match IpcCodec.peekFrameSize headerBuf with
          | .NeedMoreData => (s, rx, true)
          | .InvalidFrame => (s, rx, false)
          | .Ok frameSize =>
              if frameSize = 0 ∨ frameSize > IPC_MAX_FRAME_SIZE then (s, rx, false)
              else if h : rx.readable < frameSize then (s, rx, true)
              else
                -- in place where the frame does not wrap, and copied out where it does
                let frame := if rx.readLen ≥ frameSize then rx.view frameSize
                  else rx.peek frameSize
                if frame.length < frameSize then (s, rx, false)
                else
                  match ingress s frame with
                  | none => (s, rx, false)
                  | some s' => drainLoop fuel s' (rx.consume frameSize (Nat.not_lt.mp h))

/-- `IpcHandler::drainRxFrames`. A turn consumes a frame, which is not empty. -/
def drainRxFrames (s : σ) (conn : IpcConnection) : σ × IpcConnection × Bool :=
  let (s, rx, ok) := drainLoop ingress (conn.rx.readable + 1) s conn.rx
  (s, { conn with rx }, ok)

/-- `IpcHandler::handleRecv`. -/
def handleRecv (s : σ) (conn : IpcConnection) (inbound : Inbound) : σ × IpcConnection × Bool :=
  match conn.recv inbound with
  | (conn, .Ok) | (conn, .WouldBlock) => drainRxFrames ingress s conn
  | (conn, .PeerClosed) | (conn, .BufferFull) | (conn, .Error) => (s, conn, false)

/-- What a send event meets: the answers of the socket, and whether the change
of the epoll interest is taken. -/
structure Outbound where
  answers : List SendAnswer
  modOk : Bool
deriving DecidableEq, Repr

/-- `IpcHandler::handleSend`. -/
def handleSend (conn : IpcConnection) (outbound : Outbound) : IpcConnection × Bool :=
  match conn.send outbound.answers with
  | (conn, .Ok) | (conn, .WouldBlock) => (conn, outbound.modOk)
  | (conn, .PeerClosed) | (conn, .BufferFull) | (conn, .Error) => (conn, false)

/-! ### The drain of the queue -/

/-- The ring is drained as the queue it stands for is. -/
lemma drainLoop_eq (fuel : ℕ) (s : σ) (rx : ByteRingBuffer) :
    (drainLoop ingress fuel s rx).1
        = (IpcCodec.framing.drain ingress fuel s rx.contents).1 ∧
    (drainLoop ingress fuel s rx).2.1.contents
        = (IpcCodec.framing.drain ingress fuel s rx.contents).2.1 ∧
    (drainLoop ingress fuel s rx).2.2
        = (IpcCodec.framing.drain ingress fuel s rx.contents).2.2 ∧
    (drainLoop ingress fuel s rx).2.1.capacity = rx.capacity := by
  induction fuel generalizing s rx with
  | zero => exact ⟨rfl, rfl, rfl, rfl⟩
  | succ fuel ih =>
      have hhead : IpcCodec.framing.peek rx.contents
          = IpcCodec.peekHead (rx.peek headerLen) := by
        rw [rx.peek_eq_take]
        change IpcCodec.peekHead rx.contents = _
        rw [IpcCodec.peekHead, IpcCodec.peekHead, List.take_take, Nat.min_self]
      have hself : (rx.peek headerLen).take headerLen = rx.peek headerLen := by
        rw [rx.peek_eq_take, List.take_take, Nat.min_self]
      have hlength : (rx.peek headerLen).length = min headerLen rx.readable := by
        rw [rx.peek_eq_take, List.length_take, rx.length_contents, RingBuffer.readable]
      rw [drainLoop, Framing.drain, hhead, IpcCodec.peekHead, hself]
      split
      · next hshort =>
          have hmore : IpcCodec.peekFrameSize (rx.peek headerLen) = .NeedMoreData := by
            rw [IpcCodec.peekFrameSize, if_pos (by omega)]
          rw [hmore]
          exact ⟨rfl, rfl, rfl, rfl⟩
      next hlong =>
      dsimp only
      rw [if_neg (by omega)]
      cases hpeek : IpcCodec.peekFrameSize (rx.peek headerLen) with
      | NeedMoreData => exact ⟨rfl, rfl, rfl, rfl⟩
      | InvalidFrame => exact ⟨rfl, rfl, rfl, rfl⟩
      | Ok frameSize =>
          dsimp only
          obtain ⟨-, -, -, hlimit, hsize⟩ := IpcCodec.peekFrameSize_eq_ok.mp hpeek
          have hinRange : ¬ (frameSize = 0 ∨ frameSize > IPC_MAX_FRAME_SIZE) := by
            simp only [IPC_MAX_FRAME_SIZE, headerLen] at *
            omega
          rw [if_neg hinRange, rx.length_contents]
          split
          · next hshort =>
              rw [if_pos (show rx.size < frameSize from hshort)]
              exact ⟨rfl, rfl, rfl, rfl⟩
          next hwhole =>
          have hframe : (if rx.readLen ≥ frameSize then rx.view frameSize
              else rx.peek frameSize) = rx.contents.take frameSize := by
            split
            · next hview => exact rx.view_eq_take hview
            · exact rx.peek_eq_take frameSize
          have hfull : ¬ (rx.contents.take frameSize).length < frameSize := by
            rw [List.length_take, rx.length_contents]
            simp only [RingBuffer.readable] at hwhole
            omega
          rw [if_neg (show ¬ rx.size < frameSize from hwhole), hframe, if_neg hfull]
          cases ingress s (rx.contents.take frameSize) with
          | none => exact ⟨rfl, rfl, rfl, rfl⟩
          | some s' =>
              dsimp only
              rw [← rx.contents_consume (Nat.not_lt.mp hwhole)]
              obtain ⟨hs, hcontents, hok, hcap⟩ :=
                ih s' (rx.consume frameSize (Nat.not_lt.mp hwhole))
              exact ⟨hs, hcontents, hok, hcap⟩

/-- **The drain of the ring is the drain of the queue it stands for.** -/
theorem drainRxFrames_eq (s : σ) (conn : IpcConnection) :
    (drainRxFrames ingress s conn).1 = (IpcCodec.framing.drain ingress
        (conn.rx.contents.length + 1) s conn.rx.contents).1 ∧
    (drainRxFrames ingress s conn).2.1.rx.contents = (IpcCodec.framing.drain ingress
        (conn.rx.contents.length + 1) s conn.rx.contents).2.1 ∧
    (drainRxFrames ingress s conn).2.2 = (IpcCodec.framing.drain ingress
        (conn.rx.contents.length + 1) s conn.rx.contents).2.2 ∧
    (drainRxFrames ingress s conn).2.1.rx.capacity = conn.rx.capacity := by
  rw [conn.rx.length_contents]
  exact drainLoop_eq ingress (conn.rx.readable + 1) s conn.rx

/-- What every frame taken in keeps, a drain keeps. -/
lemma drainLoop_induct {P : σ → Prop} (h : ∀ {s f s'}, P s → ingress s f = some s' → P s')
    (fuel : ℕ) {s : σ} (hs : P s) (rx : ByteRingBuffer) : P (drainLoop ingress fuel s rx).1 := by
  rw [(drainLoop_eq ingress fuel s rx).1]
  generalize rx.contents = xs
  induction fuel generalizing s xs with
  | zero => exact hs
  | succ fuel ih =>
      rw [Framing.drain]
      split
      · exact hs
      · exact hs
      · next n hsize =>
          split
          · exact hs
          · cases hin : ingress s (xs.take n) with
            | none => exact hs
            | some s' => exact ih (h hs hin) (xs.drop n)

/-! ### One readiness event -/

/-- What every frame taken in keeps, an event keeps. -/
lemma handleRecv_induct {P : σ → Prop} (h : ∀ {s f s'}, P s → ingress s f = some s' → P s')
    {s : σ} (hs : P s) (conn : IpcConnection) (inbound : Inbound) :
    P (handleRecv ingress s conn inbound).1 := by
  have hdrain : ∀ conn, P (drainRxFrames ingress s conn).1 := fun conn =>
    drainLoop_induct ingress h (conn.rx.readable + 1) hs conn.rx
  rw [handleRecv]
  split
  · exact hdrain _
  · exact hdrain _
  all_goals exact hs

/-- Nothing is handed over by an event that fills the ring. -/
lemma handleRecv_full (s : σ) {conn : IpcConnection} {inbound : Inbound}
    (h : conn.rx.writable ≤ inbound.segments.flatten.length) :
    (handleRecv ingress s conn inbound).1 = s ∧
      (handleRecv ingress s conn inbound).2.2 = false := by
  have hfull := conn.recv_full h
  rw [handleRecv]
  split
  · next hrc =>
      rw [hrc] at hfull
      cases hfull
  · next hrc =>
      rw [hrc] at hfull
      cases hfull
  all_goals exact ⟨rfl, rfl⟩

/-- Nothing is handed over by an event that meets the end of the stream. -/
lemma handleRecv_ended (s : σ) (conn : IpcConnection) {inbound : Inbound}
    (h : inbound.ending ≠ .again) :
    (handleRecv ingress s conn inbound).1 = s ∧
      (handleRecv ingress s conn inbound).2.2 = false := by
  by_cases hroom : conn.rx.writable ≤ inbound.segments.flatten.length
  · exact handleRecv_full ingress s hroom
  · obtain ⟨-, -, hend⟩ := conn.recv_room (Nat.not_le.mp hroom)
    rw [handleRecv]
    split
    · next hrc =>
        rw [hrc] at hend
        cases hending : inbound.ending <;> rw [hending] at hend <;> cases hend
    · next hrc =>
        rw [hrc] at hend
        cases hending : inbound.ending <;> rw [hending] at hend <;> cases hend
        exact absurd hending h
    all_goals exact ⟨rfl, rfl⟩

/-- An event that leaves room to spare reads all there is and drains it. -/
lemma handleRecv_room (s : σ) {conn : IpcConnection} {inbound : Inbound}
    (hending : inbound.ending = .again)
    (h : inbound.segments.flatten.length < conn.rx.writable) :
    handleRecv ingress s conn inbound = drainRxFrames ingress s (conn.recv inbound).1 := by
  obtain ⟨-, -, hend⟩ := conn.recv_room h
  rw [hending] at hend
  rw [handleRecv]
  split
  · next hrc =>
      rw [hrc] at hend
      cases hend
  · next hrc => rw [hrc]
  all_goals
    next hrc =>
      rw [hrc] at hend
      cases hend

/-- **What an event with room to spare does to a stream of frames**: the frames
that end within it are handed over, up to the first one refused, and what is left
over stays in the ring. -/
theorem handleRecv_frames (s : σ) {conn : IpcConnection} {inbound : Inbound}
    (hending : inbound.ending = .again)
    (h : inbound.segments.flatten.length < conn.rx.writable) {fs : List Bytes} {ys rest : Bytes}
    (hfs : ∀ f ∈ fs, IpcCodec.framing.IsFrame f)
    (hrest : ∀ p q, p ++ q = rest → IpcCodec.framing.Incomplete p)
    (hstream : conn.rx.contents ++ inbound.segments.flatten ++ ys = fs.flatten ++ rest) :
    let n := conn.rx.contents.length + inbound.segments.flatten.length
    let handed := Framing.acceptAll ingress s (fs.take (Framing.completed fs n))
    let result := handleRecv ingress s conn inbound
    result.1 = handed.1 ∧ result.2.2 = handed.2 ∧
      (handed.2 = true →
        result.2.1.rx.contents = (conn.rx.contents ++ inbound.segments.flatten).drop
          (n - Framing.leftover fs n)) ∧
      result.2.1.rx.capacity = conn.rx.capacity := by
  obtain ⟨hread, hcap, -⟩ := conn.recv_room h
  have hlen : (conn.rx.contents ++ inbound.segments.flatten).length
      = conn.rx.contents.length + inbound.segments.flatten.length := List.length_append
  rw [handleRecv_room ingress s hending h]
  obtain ⟨hs, hcontents, hok, hcap'⟩ := drainRxFrames_eq ingress s (conn.recv inbound).1
  rw [hread] at hs hcontents hok
  obtain ⟨hds, hdok, hdrest⟩ := Framing.drain_eq (σ := σ) hfs hrest s hstream (Nat.lt_succ_self _)
  rw [hlen] at hds hdok hdrest
  refine ⟨?_, ?_, ?_, hcap'.trans hcap⟩
  · rw [hs, ← hds, hlen]
  · rw [hok, ← hdok, hlen]
  · intro hall
    rw [hcontents, ← hdrest hall, hlen]

/-- Over a socket that takes bytes, a send event keeps the connection and its
receive ring. -/
lemma handleSend_alive (conn : IpcConnection) {outbound : Outbound}
    (halive : ∀ a ∈ outbound.answers, a.Alive) (hmod : outbound.modOk = true) :
    (handleSend conn outbound).1.rx = conn.rx ∧ (handleSend conn outbound).2 = true := by
  have hrx := conn.rx_send outbound.answers
  have hrc : (conn.send outbound.answers).2 = .Ok ∨ (conn.send outbound.answers).2 = .WouldBlock :=
    IpcConnection.sendLoop_alive halive conn.tx
  rw [handleSend]
  split
  all_goals
    next heq =>
      rw [heq] at hrx hrc
      simp_all

end IpcHandler

/-! ### Events -/

/-- An event of `epoll_wait`, with what the kernel answers the calls that
handling it makes. `isClose` stands for `EPOLLERR`, `EPOLLHUP` or `EPOLLRDHUP`,
`connectOk` for a connect that went well, and `accepts` for the descriptors a
listener hands out, each with whether it could be registered. -/
structure EpollEvent where
  fd : ℤ
  isClose : Bool := false
  isRecv : Bool := false
  isSend : Bool := false
  inbound : Inbound := { segments := [], ending := .again }
  outbound : IpcHandler.Outbound := { answers := [], modOk := true }
  connectOk : Bool := true
  accepts : List (ℤ × Bool) := []
deriving DecidableEq, Repr

/-- What an event is to the stream that a descriptor reads. -/
def EpollEvent.readiness (fd : ℤ) (ev : EpollEvent) : Readiness UInt8 :=
  if ev.fd ≠ fd then .elsewhere
  else if ev.isClose then .closing ev.inbound.segments.flatten
  else if ev.isRecv then
    if ev.inbound.ending = .again then .read ev.inbound.segments.flatten
    else .closing ev.inbound.segments.flatten
  else .elsewhere

/-- An event that reads, with the end of the stream not in sight. -/
lemma EpollEvent.readiness_eq_read {fd : ℤ} {ev : EpollEvent} {ys : Bytes}
    (h : ev.readiness fd = .read ys) :
    ev.fd = fd ∧ ¬ ev.isClose = true ∧ ev.isRecv = true ∧ ev.inbound.ending = .again ∧
      ev.inbound.segments.flatten = ys := by
  rw [readiness] at h
  split at h
  · cases h
  next hfd =>
  split at h
  · cases h
  next hclose =>
  split at h
  · next hrecv =>
      split at h
      · next hending =>
          cases h
          exact ⟨not_not.mp hfd, hclose, hrecv, hending, rfl⟩
      · cases h
  · cases h

/-- The socket takes what is sent, or none of it for now, and the descriptor is
not handed out again. -/
structure EpollEvent.Calm (fd : ℤ) (ev : EpollEvent) : Prop where
  answers : ∀ a ∈ ev.outbound.answers, a.Alive
  modOk : ev.outbound.modOk = true
  accepts : ∀ a ∈ ev.accepts, a.1 ≠ fd

end Pretzel.Ipc
