import Mathlib.Tactic
import Pretzel.Ipc.Handler

/-!
`shared/ipc/IpcClient` and `IpcClientHandler`: the daemons' side of the fabric.

* `IpcClient`: the socket, the connection over it and its state, with the
  messages handed to the router.
* `handleEvent`: one event of the loop.
* `enqueueFrame`, `egress`: the way out.
* `endpoint`: the loop, as the connection sees it.
-/

namespace Pretzel.Ipc

/-- `IpcClient::State`. -/
inductive ClientState where
  | Disconnected
  | Connecting
  | Connected
deriving DecidableEq, Repr

/-- `IpcClient`: `socket` is the descriptor of `m_socket`, and `received` the
messages handed to the router, oldest first. -/
structure IpcClient where
  eventFd : ℤ
  socket : Option ℤ
  conn : Option IpcConnection
  state : ClientState
  received : List (IpcMessage Bytes)

namespace IpcClient

/-- `IpcClient::closeConnection`. -/
def closeConnection (c : IpcClient) : IpcClient :=
  { c with conn := none, socket := c.socket.map fun _ => -1, state := .Disconnected }

/-- `IpcClientHandler::ingress`. -/
def ingress (received : List (IpcMessage Bytes)) (frame : Bytes) :
    Option (List (IpcMessage Bytes)) :=
  if frame.length = 0 then none
  else
    match IpcCodec.decode frame with
    | .Ok msg => some (received ++ [msg])
    | .NeedMoreData | .InvalidFrame | .TooLarge => none

/-- The read part of `handleEvent`: the client, its connection, and whether it
is kept. -/
def recvReady (c : IpcClient) (conn : IpcConnection) (ev : EpollEvent) :
    IpcClient × IpcConnection × Bool :=
  if ev.isRecv then
    let (received, conn, ok) := IpcHandler.handleRecv ingress c.received conn ev.inbound
    ({ c with received, conn := some conn }, conn, ok)
  else (c, conn, true)

/-- The write part of `handleEvent`. -/
def sendReady (c : IpcClient) (conn : IpcConnection) (ev : EpollEvent) : IpcClient :=
  if ev.isSend then
    let (conn, ok) := IpcHandler.handleSend conn ev.outbound
    if ok then { c with conn := some conn } else c.closeConnection
  else c

/-- `IpcClient::handleEvent`. -/
def handleEvent (c : IpcClient) (ev : EpollEvent) : IpcClient :=
  if ev.fd = c.eventFd then c
  else if c.socket ≠ some ev.fd then c
  else if c.state = .Connecting then
    if ev.isClose || ev.isRecv || ev.isSend then
      if ev.connectOk then { c with state := .Connected } else c.closeConnection
    else c
  else
    match c.state, c.conn with
    | .Connected, some conn =>
        if ev.isClose then c.closeConnection
        else
          let (c, conn, ok) := c.recvReady conn ev
          if ok then c.sendReady conn ev else c.closeConnection
    | _, _ => c

/-- `IpcClient::enqueueFrame`: the client, and whether the frame went to the
transmit ring. `modOk` is whether the change of the epoll interest is taken. -/
def enqueueFrame (c : IpcClient) (frame : Bytes) (modOk : Bool) : IpcClient × Bool :=
  match c.conn, c.socket, c.state with
  | some conn, some _, .Connected =>
      if frame = [] then (c, false)
      else
        match conn.write frame with
        | (_, false) => (c, false)
        | (conn, true) =>
            let c := { c with conn := some conn }
            if modOk then (c, true) else (c.closeConnection, false)
  | _, _, _ => (c, false)

/-- `IpcClientHandler::egress`. -/
def egress (c : IpcClient) (msg : IpcMessage Bytes) (modOk : Bool) : IpcClient :=
  let frame := IpcCodec.encode msg
  if frame = [] then c else (c.enqueueFrame frame modOk).1

/-- A client connected over a descriptor, that has read nothing yet. -/
def connected (eventFd fd : ℤ) (rxBuf txBuf : ℕ) : IpcClient where
  eventFd
  socket := some fd
  conn := some (IpcConnection.new fd rxBuf txBuf)
  state := .Connected
  received := []

/-! ### Receiving -/

/-- What decodes is never refused. -/
lemma acceptAll_ingress {fs : List Bytes} (h : ∀ f ∈ fs, IpcCodec.framing.IsFrame f ∧
    (IpcCodec.message f).isSome) (received : List (IpcMessage Bytes)) :
    Framing.acceptAll ingress received fs = (received ++ fs.filterMap IpcCodec.message, true) := by
  induction fs generalizing received with
  | nil => simp [Framing.acceptAll]
  | cons f fs ih =>
      obtain ⟨hframe, hsome⟩ := h f List.mem_cons_self
      obtain ⟨msg, hmsg⟩ := IpcCodec.isSome_message_iff.mp hsome
      have hpos := hframe.length_pos
      have hin : ingress received f = some (received ++ [msg]) := by
        rw [ingress, if_neg (by omega), hmsg]
      have hmessage : IpcCodec.message f = some msg := by rw [IpcCodec.message, hmsg]
      rw [Framing.acceptAll, hin]
      dsimp only
      rw [ih (fun g hg => h g (List.mem_cons_of_mem _ hg)), List.filterMap_cons, hmessage,
        List.append_assoc]
      rfl

/-- The connection over a descriptor is open, and its ring holds this. -/
structure Open (fd : ℤ) (capacity : ℕ) (c : IpcClient) (xs : Bytes) : Prop where
  event : fd ≠ c.eventFd
  socket : c.socket = some fd
  state : c.state = .Connected
  ring : ∃ conn, c.conn = some conn ∧ conn.rx.contents = xs ∧ conn.rx.capacity = capacity

/-- An event of another descriptor, or of no client that is connected, changes
nothing. -/
lemma handleEvent_other {fd : ℤ} {c : IpcClient} {ev : EpollEvent} (hsocket : c.socket = some fd)
    (hne : ev.fd ≠ fd) : c.handleEvent ev = c := by
  rw [handleEvent]
  split
  · rfl
  · rw [hsocket, if_pos (by simpa using Ne.symm hne)]

lemma handleEvent_disconnected {c : IpcClient} {ev : EpollEvent} (h : c.state = .Disconnected) :
    c.handleEvent ev = c := by
  rw [handleEvent, h]
  split
  · rfl
  split
  · rfl
  · rfl

/-- An event of the connection itself. -/
lemma handleEvent_open {fd : ℤ} {capacity : ℕ} {c : IpcClient} {xs : Bytes} {ev : EpollEvent}
    (h : Open fd capacity c xs) (hfd : ev.fd = fd) {conn : IpcConnection}
    (hconn : c.conn = some conn) : c.handleEvent ev =
      if ev.isClose then c.closeConnection
      else if (c.recvReady conn ev).2.2 then
        (c.recvReady conn ev).1.sendReady (c.recvReady conn ev).2.1 ev
      else (c.recvReady conn ev).1.closeConnection := by
  rw [handleEvent, if_neg (by rw [hfd]; exact h.event), if_neg (by rw [hfd, h.socket]; simp),
    if_neg (by rw [h.state]; simp), h.state, hconn]

/-- A write event over a calm socket keeps what is there to read. -/
lemma open_sendReady {fd : ℤ} {capacity : ℕ} {c : IpcClient} {xs : Bytes} {ev : EpollEvent}
    {conn : IpcConnection} (h : Open fd capacity c xs) (hconn : c.conn = some conn)
    (hcalm : ev.Calm fd) :
    Open fd capacity (c.sendReady conn ev) xs ∧
      (c.sendReady conn ev).received = c.received := by
  rw [sendReady]
  split
  · obtain ⟨hrx, hok⟩ := IpcHandler.handleSend_alive conn hcalm.answers hcalm.modOk
    obtain ⟨conn', hconn', hcontents, hcap⟩ := h.ring
    cases hconn.symm.trans hconn'
    dsimp only
    rw [if_pos hok]
    exact ⟨⟨h.event, h.socket, h.state, _, rfl, by rw [hrx, hcontents], by rw [hrx, hcap]⟩, rfl⟩
  · exact ⟨h, rfl⟩

/-! ### One event, as the connection sees it -/

section Events

variable {fd : ℤ} {capacity : ℕ} {c : IpcClient} {ev : EpollEvent} {xs ys : Bytes}

lemma handleEvent_lost (hlost : c.state = .Disconnected) :
    (c.handleEvent ev).state = .Disconnected ∧ (c.handleEvent ev).received = c.received := by
  rw [handleEvent_disconnected hlost]
  exact ⟨hlost, rfl⟩

lemma handleEvent_elsewhere (hopen : Open fd capacity c xs) (hcalm : ev.Calm fd)
    (hready : ev.readiness fd = .elsewhere) :
    Open fd capacity (c.handleEvent ev) xs ∧ (c.handleEvent ev).received = c.received := by
  obtain ⟨conn, hconn, -⟩ := hopen.ring
  by_cases hfd : ev.fd = fd
  · rw [EpollEvent.readiness, if_neg (not_not.mpr hfd)] at hready
    split at hready
    · cases hready
    next hclose =>
    split at hready
    · split at hready <;> cases hready
    next hrecv =>
    rw [handleEvent_open hopen hfd hconn, if_neg hclose, recvReady, if_neg hrecv]
    exact open_sendReady hopen hconn hcalm
  · rw [handleEvent_other hopen.socket hfd]
    exact ⟨hopen, rfl⟩

lemma handleEvent_closing (hopen : Open fd capacity c xs) (hready : ev.readiness fd = .closing ys) :
    (c.handleEvent ev).state = .Disconnected ∧ (c.handleEvent ev).received = c.received := by
  obtain ⟨conn, hconn, -⟩ := hopen.ring
  rw [EpollEvent.readiness] at hready
  split at hready
  · cases hready
  next hfd =>
  rw [handleEvent_open hopen (not_not.mp hfd) hconn]
  split at hready
  · next hclose =>
      rw [if_pos hclose]
      exact ⟨rfl, rfl⟩
  next hclose =>
  split at hready
  · next hrecv =>
      split at hready
      · cases hready
      next hending =>
      obtain ⟨hsame, hgone⟩ :=
        IpcHandler.handleRecv_ended ingress c.received conn hending
      rw [if_neg hclose, recvReady, if_pos hrecv]
      dsimp only
      rw [hgone]
      exact ⟨rfl, hsame⟩
  · cases hready

lemma handleEvent_full (hopen : Open fd capacity c xs) (hready : ev.readiness fd = .read ys)
    (hfull : capacity ≤ xs.length + ys.length) :
    (c.handleEvent ev).state = .Disconnected ∧ (c.handleEvent ev).received = c.received := by
  obtain ⟨conn, hconn, hcontents, hcap⟩ := hopen.ring
  obtain ⟨hfd, hclose, hrecv, -, rfl⟩ := EpollEvent.readiness_eq_read hready
  have hsize := conn.rx.length_contents
  rw [hcontents] at hsize
  have hwritable : conn.rx.writable ≤ ev.inbound.segments.flatten.length := by
    rw [RingBuffer.writable, hcap]
    omega
  obtain ⟨hsame, hgone⟩ := IpcHandler.handleRecv_full ingress c.received hwritable
  rw [handleEvent_open hopen hfd hconn, if_neg hclose, recvReady, if_pos hrecv]
  dsimp only
  rw [hgone]
  exact ⟨rfl, hsame⟩

/-- **A read with room**: the frames it completes are received, and the rest is kept. -/
lemma handleEvent_room (hopen : Open fd capacity c xs) (hcalm : ev.Calm fd)
    (hready : ev.readiness fd = .read ys) (hroom : xs.length + ys.length < capacity)
    {fs : List Bytes} {zs rest : Bytes}
    (hfs : ∀ f ∈ fs, IpcCodec.framing.IsFrame f ∧ (IpcCodec.message f).isSome)
    (hrest : ∀ p q, p ++ q = rest → IpcCodec.framing.Incomplete p)
    (hstream : xs ++ ys ++ zs = fs.flatten ++ rest) :
    (c.handleEvent ev).received = c.received ++
        ((fs.take (Framing.completed fs (xs.length + ys.length))).takeWhile
          fun _ => true).filterMap IpcCodec.message ∧
      ((∀ f ∈ fs.take (Framing.completed fs (xs.length + ys.length)), true = true) →
        Open fd capacity (c.handleEvent ev) ((xs ++ ys).drop
          (xs.length + ys.length - Framing.leftover fs (xs.length + ys.length)))) ∧
      ((∃ f ∈ fs.take (Framing.completed fs (xs.length + ys.length)), true = false) →
        (c.handleEvent ev).state = .Disconnected) := by
  obtain ⟨conn, hconn, hcontents, hcap⟩ := hopen.ring
  obtain ⟨hfd, hclose, hrecv, hending, rfl⟩ := EpollEvent.readiness_eq_read hready
  have hsize := conn.rx.length_contents
  rw [hcontents] at hsize
  have hwritable : ev.inbound.segments.flatten.length < conn.rx.writable := by
    rw [RingBuffer.writable, hcap]
    omega
  rw [← hcontents] at hstream
  obtain ⟨hheard, hok, hleft, hcap'⟩ := IpcHandler.handleRecv_frames ingress c.received hending
    hwritable (fun f hf => (hfs f hf).1) hrest hstream
  rw [hcontents] at hheard hok hleft
  generalize xs.length + ev.inbound.segments.flatten.length = n at hheard hok hleft ⊢
  rw [acceptAll_ingress fun f hf => hfs f (List.mem_of_mem_take hf)] at hheard hok hleft
  have hready : c.recvReady conn ev = ({ c with
      received := c.received ++ (fs.take (Framing.completed fs n)).filterMap IpcCodec.message
      conn := some (IpcHandler.handleRecv ingress c.received conn ev.inbound).2.1 },
      (IpcHandler.handleRecv ingress c.received conn ev.inbound).2.1, true) := by
    rw [recvReady, if_pos hrecv]
    dsimp only
    rw [hheard, hok]
  have hkept : Open fd capacity (c.recvReady conn ev).1
      ((xs ++ ev.inbound.segments.flatten).drop (n - Framing.leftover fs n)) := by
    rw [hready]
    exact ⟨hopen.event, hopen.socket, hopen.state, _, rfl, hleft rfl, hcap'.trans hcap⟩
  have hconn' : (c.recvReady conn ev).1.conn = some (c.recvReady conn ev).2.1 := by rw [hready]
  obtain ⟨hopen', hsame⟩ := open_sendReady hkept hconn' hcalm
  rw [handleEvent_open hopen hfd hconn, if_neg hclose, if_pos (by rw [hready])]
  refine ⟨?_, fun _ => hopen', fun h => ?_⟩
  · rw [hsame, hready, List.takeWhile_eq_self_iff.mpr fun _ _ => rfl]
  · simp at h

end Events

/-- **The client's loop, as its connection sees it.** No frame is refused. -/
def endpoint (fd : ℤ) (capacity : ℕ) :
    Framing.Endpoint IpcCodec.framing IpcCodec.message IpcClient EpollEvent where
  capacity
  step := handleEvent
  Calm := EpollEvent.Calm fd
  readiness := EpollEvent.readiness fd
  Open := Open fd capacity
  Lost := fun c => c.state = .Disconnected
  heard := received
  admits := fun _ _ => true
  step_lost := fun hlost _ => handleEvent_lost hlost
  step_elsewhere := handleEvent_elsewhere
  step_closing := fun hopen _ hready => handleEvent_closing hopen hready
  step_full := fun hopen _ hready hfull => handleEvent_full hopen hready hfull
  step_room := handleEvent_room
/-- A client just connected is open, and has read nothing. -/
lemma open_connected {eventFd fd : ℤ} (h : fd ≠ eventFd) (rxBuf txBuf : ℕ) :
    (endpoint fd (max rxBuf IPC_MAX_FRAME_SIZE)).Open (connected eventFd fd rxBuf txBuf) [] :=
  ⟨h, rfl, rfl, _, rfl, rfl, rfl⟩

end IpcClient

end Pretzel.Ipc
