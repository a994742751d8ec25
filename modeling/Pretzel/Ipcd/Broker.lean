import Mathlib.Tactic
import Pretzel.Ipcd.Server
import Pretzel.Library.Machine

/-!
ipcd as one process: `IpcServer` and `IpcServerHandler` with the router, the
queues and `BootstrapService` behind them.

* `enqueueFrame`, `unicast`, `broadcast`, `egress`: what the server sends.
* `Broker`: the server with its queues, the descriptors `accept` has returned
  and nothing has closed, and the readiness reports handled so far.
* `ingress`, `handleRecv`, `handleEvent`: one event of the loop, with the
  messages that are routed while frames are drained.
* `handleBootstrapEvent`, `handleAction`: `BootstrapService`.
* `machine`: the tick, an event, a queued event or a queued action at a time.
* `egress_induct`, `handleRecv_induct`: what a frame that is queued and a
  connection that is closed keep, sending and receiving keep.
* `Preserves`, `handleAccept_induct`: the same of one event. `next_cases`: what a step is.
-/

namespace Pretzel.Ipcd

open Pretzel.Ipc Nlohmann Reactive

/-! ### Sending -/

namespace IpcServer

variable (refused : List ℤ)

/-- `IpcServer::enqueueFrame`; its answer is only logged. `refused` are the
descriptors whose change of interest epoll does not take. -/
def enqueueFrame (s : IpcServer) (fd : ℤ) (frame : Bytes) : IpcServer :=
  match s.connections.lookup fd with
  | none => s
  | some conn =>
      if frame = [] then s
      else
        match conn.write frame with
        | (_, false) => s
        | (conn, true) =>
            let s := { s with connections := s.connections.insert fd conn }
            if fd ∈ refused then s.closeConnection fd else s

/-- `IpcServerHandler::unicast`, with `sendFrame`. -/
def unicast (s : IpcServer) (msg : IpcMessage Bytes) : IpcServer :=
  let fd := s.runtimeTable.findRoute msg.header.dst
  if fd < 0 then s
  else
    let frame := IpcCodec.encode msg
    if frame = [] then s else s.enqueueFrame refused fd frame

/-- The turn of `broadcast` for one daemon. -/
def broadcastTo (src : IpcDaemon) (frame : Bytes) (s : IpcServer) (daemon : IpcDaemon) :
    IpcServer :=
  match s.runtimeTable.lookup daemon with
  | none => s
  | some state =>
      if state.fd < 0 then s
      else if daemon = src ∨ daemon = .Ipcd ∨ daemon = .Broadcast then s
      else s.enqueueFrame refused state.fd frame

/-- `IpcServerHandler::broadcast`. -/
def broadcast (s : IpcServer) (msg : IpcMessage Bytes) : IpcServer :=
  let frame := IpcCodec.encode msg
  if frame = [] then s
  else s.runtimeTable.keys.foldl (broadcastTo refused msg.header.src frame) s

/-- `IpcServerHandler::egress`. -/
def egress (s : IpcServer) (msg : IpcMessage Bytes) : IpcServer :=
  if msg.header.dst = .Broadcast ∨ IpcFlag.hasFlag msg.header.flags .Broadcast then
    s.broadcast refused msg
  else s.unicast refused msg

end IpcServer

/-! ### The process -/

/-- `BootstrapEvent`: a message in the event queue, with the connection it was
received over and the generation of its sender's route then. -/
structure BootstrapEvent where
  message : IpcMessage Bytes
  fd : ℤ
  generation : UInt32
deriving DecidableEq, Repr

/-- `BootstrapAction`. -/
inductive BootstrapAction where
  | SendServerHello (request : IpcMessage Bytes)
  | SendSyncResponse (request : IpcMessage Bytes)
deriving DecidableEq, Repr

/-- A call of `markRuntimeReady`, with where the frame behind it came from. -/
structure Report where
  daemon : IpcDaemon
  appliedVersion : UInt64
  fd : ℤ
  generation : UInt32
deriving DecidableEq, Repr

/-- ipcd. `held` are the descriptors `accept` has returned and nothing has passed
to `::close`, and `reports` the calls of `markRuntimeReady`, newest first;
`executing` is whether the tick is past its poll. -/
structure Broker where
  server : IpcServer
  eventQueue : List BootstrapEvent
  actionQueue : List BootstrapAction
  executing : Bool
  held : Finset ℤ
  reports : List Report

namespace Broker

variable (refused : List ℤ)

/-- `IpcServerHandler::closeConnection`, of the server. -/
def closeConnection (b : Broker) (fd : ℤ) : Broker :=
  { b with server := b.server.closeConnection fd }

/-- `IpcdRxRouter::handleIpcMessage`. -/
def handleIpcMessage (b : Broker) (fd : ℤ) (msg : IpcMessage Bytes) : Broker :=
  match msg.header.cmd with
  | .ClientHello | .SyncRequest | .RuntimeReady =>
      let generation := match b.server.runtimeTable.lookup msg.header.src with
        | none => 0
        | some state => state.generation
      { b with eventQueue := b.eventQueue ++ [{ message := msg, fd, generation }] }
  | _ => { b with server := b.server.egress refused msg }

/-- `IpcServerHandler::ingress`, with the router behind it. -/
def ingress (fd : ℤ) (b : Broker) (frame : Bytes) : Option Broker :=
  (IpcServer.ingress fd (b.server.runtimeTable, b.server.received) frame).map
    fun (runtimeTable, received) =>
      let b := { b with server := { b.server with runtimeTable, received } }
      match IpcCodec.message frame with
      | none => b
      | some msg => b.handleIpcMessage refused fd msg

/-- What was read of a connection, while frames were queued for it. -/
def setRx (b : Broker) (fd : ℤ) (rx : ByteRingBuffer) : Broker :=
  match b.server.connections.lookup fd with
  | none => b
  | some conn =>
      { b with server := { b.server with
          connections := b.server.connections.insert fd { conn with rx } } }

/-- `IpcServerHandler::handleRecv`. -/
def handleRecv (b : Broker) (fd : ℤ) (inbound : Inbound) : Broker :=
  match b.server.connections.lookup fd with
  | none => b
  | some conn =>
      let (b, conn, ok) := IpcHandler.handleRecv (ingress refused fd) b conn inbound
      let b := b.setRx fd conn.rx
      if ok then b else b.closeConnection fd

/-- `IpcServerHandler::handleSend`, of the server. -/
def handleSend (b : Broker) (fd : ℤ) (outbound : IpcHandler.Outbound) : Broker :=
  { b with server := b.server.handleSend fd outbound }

/-- The descriptors that `handleAccept` leaves open: the ones it refuses it
passes to `::close`. -/
def accepted (s : IpcServer) (held : Finset ℤ) : List (ℤ × Bool) → Finset ℤ
  | [] => held
  | (fd, addOk) :: accepts =>
      if s.connections.entries.length ≥ s.maxConnections then accepted s held accepts
      else if !addOk then accepted s held accepts
      else accepted (s.handleAccept [(fd, addOk)]) (insert fd held) accepts

/-- What the kernel promises of the descriptors it hands out: none is one that is
open. -/
def fresh (s : IpcServer) (held : Finset ℤ) : List (ℤ × Bool) → Bool
  | [] => true
  | (fd, addOk) :: accepts =>
      fd ∉ held && 0 ≤ fd &&
        (if s.connections.entries.length ≥ s.maxConnections then fresh s held accepts
        else if !addOk then fresh s held accepts
        else fresh (s.handleAccept [(fd, addOk)]) (insert fd held) accepts)

/-- `IpcServerHandler::handleAccept`. -/
def handleAccept (b : Broker) (accepts : List (ℤ × Bool)) : Broker :=
  { b with server := b.server.handleAccept accepts, held := accepted b.server b.held accepts }

/-- `IpcServer::handleEvent`. -/
def handleEvent (b : Broker) (ev : EpollEvent) : Broker :=
  if ev.fd = b.server.eventFd then b
  else if ev.fd = b.server.listenerFd then
    if ev.isClose then b else if ev.isRecv then b.handleAccept ev.accepts else b
  else
    match b.server.connections.lookup ev.fd with
    | none => b
    | some _ =>
        if ev.isClose then b.closeConnection ev.fd
        else
          let b := if ev.isRecv then b.handleRecv refused ev.fd ev.inbound else b
          if ev.isSend then b.handleSend ev.fd ev.outbound else b

variable (parse : Bytes → Option Json) (dump : Json → Bytes)

/-- The version a `RuntimeReady` reports. -/
def appliedVersionOf (payload : Bytes) : Except JsonError UInt64 :=
  if payload = [] then .ok 0
  else
    match parse payload with
    | none => .ok 0
    | some parsed =>
        if parsed.isObject then
          (parsed.valueUnsigned 64 "applied_version" 0).map UInt64.ofNat
        else .ok 0

/-- `BootstrapService::handleEvent`. An exception leaves the tick. -/
def handleBootstrapEvent (b : Broker) (event : BootstrapEvent) : Except JsonError Broker :=
  match event.message.header.cmd with
  | .ClientHello => .ok { b with
      actionQueue := b.actionQueue ++ [.SendServerHello event.message] }
  | .SyncRequest => .ok { b with
      actionQueue := b.actionQueue ++ [.SendSyncResponse event.message] }
  | .RuntimeReady => do
      let appliedVersion ← appliedVersionOf parse event.message.payload
      let src := event.message.header.src
      return { b with
        server := { b.server with
          runtimeTable := b.server.runtimeTable.markRuntimeReady src true appliedVersion }
        reports := { daemon := src, appliedVersion, fd := event.fd,
                     generation := event.generation } :: b.reports }
  | _ => .ok b

/-- `BootstrapService::buildServerHello`. -/
def buildServerHello (req : IpcMessage Bytes) : IpcMessage Bytes where
  header := .build .Ipcd req.header.src .ServerHello req.header.seqNo IpcFlag.Response.toFlag
  payload := (IpcDaemon.daemonToStr .Ipcd).toUTF8.data.toList

/-- The daemons a `SyncResponse` speaks of. -/
def reported (table : RuntimeTable) : List (IpcDaemon × RuntimeState) :=
  (table.entries.map fun e => (e.1, e.2)).filter fun e =>
    e.1 ≠ .Engined && e.1 ≠ .Mgmtd && 0 ≤ e.2.fd

/-- What a `SyncResponse` says of one daemon. -/
def reportedEntry (e : IpcDaemon × RuntimeState) : Json :=
  .obj [("applied_version", .int e.2.appliedVersion.toNat), ("daemon", .str e.1.daemonToStr),
    ("generation", .int e.2.generation.toNat), ("ready", .bool e.2.ready)]

/-- `BootstrapService::buildSyncResponse`. -/
def buildSyncResponse (table : RuntimeTable) (req : IpcMessage Bytes) : IpcMessage Bytes where
  header := .build .Ipcd req.header.src .SyncResponse req.header.seqNo IpcFlag.Response.toFlag
  payload := dump (.obj [("daemons", .arr ((reported table).map reportedEntry))])

/-- `BootstrapService::handleAction`. -/
def handleAction (b : Broker) : BootstrapAction → Broker
  | .SendServerHello req =>
      { b with server := b.server.egress refused (buildServerHello req) }
  | .SendSyncResponse req =>
      { b with server := b.server.egress refused (buildSyncResponse dump b.server.runtimeTable req) }

/-- What ipcd does next: handle an event of the poll, go on to `execute`, or
handle the front of a queue there. `refused` is what epoll answers meanwhile. -/
inductive Label where
  | event (ev : EpollEvent) (refused : List ℤ)
  | schedule
  | execute (refused : List ℤ)

/-- One step. The tick polls, executes until the queues are empty, and starts
over; an exception ends the process. -/
def next (b : Broker) : Label → Option Broker
  | .event ev refused =>
      if b.executing || (ev.fd = b.server.listenerFd && !fresh b.server b.held ev.accepts) then none
      else some (b.handleEvent refused ev)
  | .schedule => some { b with executing := true }
  | .execute refused =>
      if !b.executing then none
      else
        match b.eventQueue, b.actionQueue with
        | event :: eventQueue, _ =>
            (handleBootstrapEvent parse { b with eventQueue } event).toOption
        | [], action :: actionQueue =>
            some (handleAction refused dump { b with actionQueue } action)
        | [], [] => some { b with executing := false }

/-- ipcd as it starts. -/
structure Initial (b : Broker) : Prop where
  connections : b.server.connections = ∅
  runtimeTable : b.server.runtimeTable = ∅
  eventQueue : b.eventQueue = []
  actionQueue : b.actionQueue = []
  held : b.held = ∅
  reports : b.reports = []

/-- ipcd over its wake-up descriptor and its listener, before its first tick. -/
def start (eventFd listenerFd : ℤ) (maxConnections rxBufferSize txBufferSize : ℕ) : Broker where
  server := { eventFd, listenerFd, maxConnections, rxBufferSize, txBufferSize, connections := ∅,
              runtimeTable := ∅, received := [] }
  eventQueue := []
  actionQueue := []
  executing := false
  held := ∅
  reports := []

lemma initial_start (eventFd listenerFd : ℤ) (maxConnections rxBufferSize txBufferSize : ℕ) :
    Initial (start eventFd listenerFd maxConnections rxBufferSize txBufferSize) :=
  ⟨rfl, rfl, rfl, rfl, rfl, rfl⟩

/-- ipcd, over what the JSON library parses and writes. -/
def machine : Machine Broker Label where
  init := Initial
  next := next parse dump

end Broker

/-! ### What sending keeps -/

namespace IpcServer

variable {refused : List ℤ} {P : IpcServer → Prop}

/-- What a frame written to a connection and a connection that is closed keep,
queueing a frame keeps. -/
lemma enqueueFrame_induct
    (hwrite : ∀ {s fd conn conn'}, P s → s.connections.lookup fd = some conn →
      P { s with connections := s.connections.insert fd conn' })
    (hclose : ∀ {s fd}, P s → fd ∈ refused → P (s.closeConnection fd))
    {s : IpcServer} (h : P s) (fd : ℤ) (frame : Bytes) : P (s.enqueueFrame refused fd frame) := by
  rw [enqueueFrame]
  split
  · exact h
  next conn hconn =>
  split
  · exact h
  split
  · exact h
  next conn' hwritten =>
  have hput : P { s with connections := s.connections.insert fd conn' } := hwrite h hconn
  dsimp only
  split
  · next hrefused => exact hclose hput hrefused
  · exact hput

/-- The same of a message, to one or to all. -/
lemma egress_induct
    (hwrite : ∀ {s fd conn conn'}, P s → s.connections.lookup fd = some conn →
      P { s with connections := s.connections.insert fd conn' })
    (hclose : ∀ {s fd}, P s → fd ∈ refused → P (s.closeConnection fd))
    {s : IpcServer} (h : P s) (msg : IpcMessage Bytes) : P (s.egress refused msg) := by
  have hqueue : ∀ {s}, P s → ∀ fd frame, P (s.enqueueFrame refused fd frame) :=
    fun h => enqueueFrame_induct hwrite hclose h
  have hto : ∀ {s}, P s → ∀ src frame d, P (s.broadcastTo refused src frame d) := by
    intro s h src frame d
    rw [broadcastTo]
    split
    · exact h
    split
    · exact h
    split
    · exact h
    · exact hqueue h _ _
  have hall : ∀ daemons : List IpcDaemon, ∀ {s}, P s → ∀ src frame,
      P (daemons.foldl (broadcastTo refused src frame) s) := by
    intro daemons
    induction daemons with
    | nil => exact fun h _ _ => h
    | cons d daemons ih => exact fun h src frame => ih (hto h src frame d) src frame
  rw [egress]
  split
  · rw [broadcast]
    split
    · exact h
    · exact hall _ h _ _
  · rw [unicast]
    dsimp only
    split
    · exact h
    split
    · exact h
    · exact hqueue h _ _

end IpcServer

namespace Broker

variable {refused : List ℤ} {P : IpcServer → Prop}

/-- A connection that is written back is in the table as it was. -/
lemma mem_insert_iff {s : IpcServer} {fd g : ℤ} {conn conn' : IpcConnection}
    (h : s.connections.lookup fd = some conn) :
    g ∈ s.connections.insert fd conn' ↔ g ∈ s.connections := by
  have hmem : fd ∈ s.connections := AList.lookup_isSome.mp (by rw [h]; rfl)
  rw [AList.mem_insert]
  constructor
  · rintro (rfl | hg)
    · exact hmem
    · exact hg
  · exact Or.inr

/-- What a message that is queued or routed leaves of the process. -/
lemma handleIpcMessage_rest (b : Broker) (fd : ℤ) (msg : IpcMessage Bytes) :
    (b.handleIpcMessage refused fd msg).actionQueue = b.actionQueue ∧
      (b.handleIpcMessage refused fd msg).executing = b.executing ∧
      (b.handleIpcMessage refused fd msg).held = b.held ∧
      (b.handleIpcMessage refused fd msg).reports = b.reports := by
  rw [handleIpcMessage]
  split <;> exact ⟨rfl, rfl, rfl, rfl⟩

/-- A frame that is taken in: it binds the route of its sender, and is queued or
routed. -/
lemma ingress_eq_some {fd : ℤ} {b b' : Broker} {frame : Bytes}
    (h : ingress refused fd b frame = some b') : ∃ msg table,
      b.server.runtimeTable.bindRoute msg.header.src fd = some table ∧
      b' = handleIpcMessage refused { b with server := { b.server with
        runtimeTable := table, received := b.server.received ++ [(fd, msg)] } } fd msg := by
  obtain ⟨⟨table, received⟩, hin, rfl⟩ := Option.map_eq_some_iff.mp h
  rw [IpcServer.ingress] at hin
  split at hin
  · cases hin
  split at hin
  · next msg hmsg =>
      obtain ⟨table', hbind, heq⟩ := Option.map_eq_some_iff.mp hin
      cases heq
      refine ⟨msg, table, hbind, ?_⟩
      have hmessage : IpcCodec.message frame = some msg := by rw [IpcCodec.message, hmsg]
      dsimp only
      rw [hmessage]
  all_goals cases hin

/-- What a binding, a frame written and a connection closed keep, a frame taken
in keeps. -/
lemma ingress_induct {fd : ℤ}
    (hbind : ∀ {s msg table}, P s → s.runtimeTable.bindRoute msg.header.src fd = some table →
      P { s with runtimeTable := table, received := s.received ++ [(fd, msg)] })
    (hwrite : ∀ {s fd conn conn'}, P s → s.connections.lookup fd = some conn →
      P { s with connections := s.connections.insert fd conn' })
    (hclose : ∀ {s fd}, P s → fd ∈ refused → P (s.closeConnection fd))
    {b b' : Broker} {frame : Bytes} (h : P b.server) (hin : ingress refused fd b frame = some b') :
    P b'.server := by
  obtain ⟨msg, table, hbound, rfl⟩ := ingress_eq_some hin
  have hput := hbind h hbound
  rw [handleIpcMessage]
  split
  · exact hput
  · exact hput
  · exact hput
  · exact IpcServer.egress_induct hwrite hclose hput msg

/-- What a frame taken in leaves of the process. -/
lemma ingress_rest {fd : ℤ} {b b' : Broker} {frame : Bytes}
    (h : ingress refused fd b frame = some b') : b'.actionQueue = b.actionQueue ∧
      b'.executing = b.executing ∧ b'.held = b.held ∧ b'.reports = b.reports := by
  obtain ⟨msg, table, -, rfl⟩ := ingress_eq_some h
  exact handleIpcMessage_rest _ fd msg

/-- **A read event** binds routes, writes frames and closes connections; the one
it reads is closed last, if at all. -/
theorem handleRecv_induct {fd : ℤ}
    (hbind : ∀ {s msg table}, P s → s.runtimeTable.bindRoute msg.header.src fd = some table →
      P { s with runtimeTable := table, received := s.received ++ [(fd, msg)] })
    (hwrite : ∀ {s fd conn conn'}, P s → s.connections.lookup fd = some conn →
      P { s with connections := s.connections.insert fd conn' })
    (hclose : ∀ {s fd}, P s → fd ∈ refused → P (s.closeConnection fd))
    {b : Broker} (h : P b.server) (inbound : Inbound) :
    ∃ b' : Broker, P b'.server ∧ b'.held = b.held ∧ b'.reports = b.reports ∧
      (b.handleRecv refused fd inbound = b' ∨
        b.handleRecv refused fd inbound = b'.closeConnection fd ∧
          ∀ conn, b.server.connections.lookup fd = some conn →
            (IpcHandler.handleRecv (ingress refused fd) b conn inbound).2.2 = false) := by
  rw [handleRecv]
  split
  · exact ⟨b, h, rfl, rfl, .inl rfl⟩
  next conn hconn =>
  obtain ⟨hP, hheld, hreports⟩ := IpcHandler.handleRecv_induct (ingress refused fd)
    (P := fun b' => P b'.server ∧ b'.held = b.held ∧ b'.reports = b.reports)
    (fun hb hin => by
      obtain ⟨-, -, hheld, hreports⟩ := ingress_rest hin
      exact ⟨ingress_induct hbind hwrite hclose hb.1 hin, hheld.trans hb.2.1,
        hreports.trans hb.2.2⟩) (s := b) ⟨h, rfl, rfl⟩ conn inbound
  generalize hresult : IpcHandler.handleRecv (ingress refused fd) b conn inbound = result
    at hP hheld hreports
  obtain ⟨b₁, conn₁, ok⟩ := result
  have hset : P (b₁.setRx fd conn₁.rx).server ∧ (b₁.setRx fd conn₁.rx).held = b.held ∧
      (b₁.setRx fd conn₁.rx).reports = b.reports := by
    rw [setRx]
    split
    · exact ⟨hP, hheld, hreports⟩
    · next conn' hconn' => exact ⟨hwrite hP hconn', hheld, hreports⟩
  dsimp only
  refine ⟨b₁.setRx fd conn₁.rx, hset.1, hset.2.1, hset.2.2, ?_⟩
  split
  · exact .inl rfl
  · next hok =>
      refine .inr ⟨rfl, ?_⟩
      rintro conn' hconn'
      obtain rfl : conn = conn' := Option.some.inj (hconn.symm.trans hconn')
      rw [hresult]
      exact Bool.eq_false_iff.mpr hok

/-- A write event writes a frame's bytes off, or closes the connection. -/
lemma handleSend_cases (s : IpcServer) (fd : ℤ) (outbound : IpcHandler.Outbound) :
    (s.connections.lookup fd = none ∧ s.handleSend fd outbound = s) ∨
    ∃ conn, s.connections.lookup fd = some conn ∧
      let conn' := (IpcHandler.handleSend conn outbound).1
      let s' := { s with connections := s.connections.insert fd conn' }
      (s.handleSend fd outbound = s' ∨ (IpcHandler.handleSend conn outbound).2 = false ∧
        s.handleSend fd outbound = s'.closeConnection fd) := by
  rw [IpcServer.handleSend]
  split
  · next hnone => exact .inl ⟨hnone, rfl⟩
  · next conn hconn =>
      refine .inr ⟨conn, hconn, ?_⟩
      dsimp only
      split
      · exact .inl rfl
      · next hok => exact .inr ⟨Bool.eq_false_iff.mpr hok, rfl⟩

/-- What a connection that is accepted keeps, `handleAccept` keeps. -/
lemma handleAccept_induct (haccept : ∀ {s fd conn}, P s → fd ∉ s.connections →
      P { s with connections := s.connections.insert fd conn })
    (accepts : List (ℤ × Bool)) {s : IpcServer} (h : P s) : P (s.handleAccept accepts) := by
  induction accepts generalizing s with
  | nil => exact h
  | cons a accepts ih =>
      rw [IpcServer.handleAccept]
      split
      · exact ih h
      split
      · exact ih h
      split
      · exact ih h
      · next hnone => exact ih (haccept h hnone)

/-- What an event of a connection does to the server, one operation at a time: `P`
holds while frames are drained, `Q` whenever none is. -/
structure Preserves (refused : List ℤ) (fd : ℤ) (P Q : IpcServer → Prop) : Prop where
  bind : ∀ {s msg table}, P s → (fd ∉ refused → fd ∈ s.connections) →
    s.runtimeTable.bindRoute msg.header.src fd = some table →
    P { s with runtimeTable := table, received := s.received ++ [(fd, msg)] }
  write : ∀ {s fd conn conn'}, P s → s.connections.lookup fd = some conn →
    P { s with connections := s.connections.insert fd conn' }
  close : ∀ {s fd}, P s → fd ∈ refused → P (s.closeConnection fd)
  after : ∀ {s}, P s → Q s
  writeAfter : ∀ {s fd conn conn'}, Q s → s.connections.lookup fd = some conn →
    Q { s with connections := s.connections.insert fd conn' }
  closeAfter : ∀ {s} fd, Q s → Q (s.closeConnection fd)

namespace Preserves

variable {Q : IpcServer → Prop} {fd : ℤ}

lemma handleSend (h : Preserves refused fd P Q) {s : IpcServer} (hs : Q s)
    (outbound : IpcHandler.Outbound) : Q (s.handleSend fd outbound) := by
  rcases handleSend_cases s fd outbound with ⟨-, hsame⟩ | ⟨conn, hconn, hkept | ⟨-, hclosed⟩⟩
  · rw [hsame]
    exact hs
  · rw [hkept]
    exact h.writeAfter hs hconn
  · rw [hclosed]
    exact h.closeAfter fd (h.writeAfter hs hconn)

/-- The read part. While it drains, the connection stays in the table, unless
epoll refuses a change for it. -/
lemma handleRecv (h : Preserves refused fd P Q) {b : Broker} (hb : P b.server)
    (inbound : Inbound) : Q (b.handleRecv refused fd inbound).server := by
  cases hconn : b.server.connections.lookup fd with
  | none =>
      rw [Broker.handleRecv, hconn]
      exact h.after hb
  | some conn =>
      have hmem : fd ∈ b.server.connections := AList.lookup_isSome.mp (by rw [hconn]; rfl)
      obtain ⟨b', ⟨hP, -⟩, -, -, hresult⟩ := @handleRecv_induct refused
        (fun s => P s ∧ (fd ∉ refused → fd ∈ s.connections)) fd
        (fun hs hbind => ⟨h.bind hs.1 hs.2 hbind, hs.2⟩)
        (fun hs hconn => ⟨h.write hs.1 hconn, fun hfd =>
          (AList.mem_insert _).mpr (.inr (hs.2 hfd))⟩)
        (fun hs hrefused => ⟨h.close hs.1 hrefused, fun hfd =>
          AList.mem_erase.mpr ⟨fun heq => hfd (heq ▸ hrefused), hs.2 hfd⟩⟩)
        b ⟨hb, fun _ => hmem⟩ inbound
      rcases hresult with hkept | ⟨hclosed, -⟩
      · rw [hkept]
        exact h.after hP
      · rw [hclosed]
        exact h.closeAfter fd (h.after hP)

/-- **One event**, of the listener or of a connection. -/
theorem handleEvent {ev : EpollEvent} (h : Preserves refused ev.fd P Q) {b : Broker}
    (hb : P b.server)
    (haccept : ev.fd = b.server.listenerFd → Q (b.server.handleAccept ev.accepts)) :
    Q (b.handleEvent refused ev).server := by
  rw [Broker.handleEvent]
  split
  · exact h.after hb
  split
  · next hlistener =>
      split
      · exact h.after hb
      split
      · exact haccept hlistener
      · exact h.after hb
  split
  · exact h.after hb
  split
  · exact h.closeAfter ev.fd (h.after hb)
  have hread : Q (if ev.isRecv then b.handleRecv refused ev.fd ev.inbound else b).server := by
    split
    · exact h.handleRecv hb ev.inbound
    · exact h.after hb
  dsimp only
  split
  · exact h.handleSend hread ev.outbound
  · exact hread

end Preserves

/-- What an event leaves of the reports: all of them. -/
lemma reports_handleEvent (b : Broker) (refused : List ℤ) (ev : EpollEvent) :
    (b.handleEvent refused ev).reports = b.reports := by
  rw [handleEvent]
  split
  · rfl
  split
  · split
    · rfl
    split <;> rfl
  split
  · rfl
  split
  · rfl
  have hread : (if ev.isRecv then b.handleRecv refused ev.fd ev.inbound else b).reports
      = b.reports := by
    split
    · obtain ⟨b', -, -, hreports, hkept | ⟨hclosed, -⟩⟩ := @handleRecv_induct refused
        (fun _ => True) ev.fd (fun _ _ => trivial) (fun _ _ => trivial) (fun _ _ => trivial) b
        trivial ev.inbound
      · rw [hkept, hreports]
      · rw [hclosed, ← hreports]
        rfl
    · rfl
  dsimp only
  split
  · exact hread
  · exact hread

/-- What one step of the machine is: an event of the poll, the end of it, a
queued event, a queued action, or the end of the tick. -/
lemma next_cases {parse : Bytes → Option Json} {dump : Json → Bytes} {b b' : Broker} {l : Label}
    (h : next parse dump b l = some b') :
    (∃ ev refused, l = .event ev refused ∧ b' = b.handleEvent refused ev ∧
      (ev.fd = b.server.listenerFd → fresh b.server b.held ev.accepts = true)) ∨
    (∃ executing, b' = { b with executing }) ∨
    (∃ refused event eventQueue, l = .execute refused ∧ b.eventQueue = event :: eventQueue ∧
      handleBootstrapEvent parse { b with eventQueue } event = .ok b') ∨
    ∃ refused actionQueue msg, l = .execute refused ∧ b.eventQueue = [] ∧
      b' = { b with actionQueue, server := b.server.egress refused msg } := by
  cases l with
  | event ev refused =>
      rw [next] at h
      split at h
      · cases h
      next hguard =>
      cases h
      refine .inl ⟨ev, refused, rfl, rfl, fun hlistener => ?_⟩
      by_contra hstale
      exact hguard (by simp [hlistener, hstale])
  | schedule =>
      cases h
      exact .inr (.inl ⟨true, rfl⟩)
  | execute refused =>
      rw [next] at h
      split at h
      · cases h
      split at h
      · next event eventQueue hqueue =>
          refine .inr (.inr (.inl ⟨refused, event, eventQueue, rfl, hqueue, ?_⟩))
          cases hresult : handleBootstrapEvent parse { b with eventQueue } event with
          | error e =>
              rw [hresult] at h
              cases h
          | ok b₁ =>
              rw [hresult] at h
              cases h
              rfl
      · next action actionQueue hqueue _ =>
          cases h
          cases action with
          | SendServerHello req =>
              exact .inr (.inr (.inr ⟨refused, actionQueue, _, rfl, hqueue, rfl⟩))
          | SendSyncResponse req =>
              exact .inr (.inr (.inr ⟨refused, actionQueue, _, rfl, hqueue, rfl⟩))
      · cases h
        exact .inr (.inl ⟨false, rfl⟩)

/-- What a queued event does: it queues an action, or marks the daemon that
reports itself ready. -/
lemma handleBootstrapEvent_cases {parse : Bytes → Option Json} {b b' : Broker}
    {event : BootstrapEvent} (h : handleBootstrapEvent parse b event = .ok b') :
    (∃ actionQueue, b' = { b with actionQueue }) ∨
    event.message.header.cmd = .RuntimeReady ∧ ∃ appliedVersion, b' = { b with
      server := { b.server with runtimeTable :=
        b.server.runtimeTable.markRuntimeReady event.message.header.src true appliedVersion }
      reports := { daemon := event.message.header.src, appliedVersion, fd := event.fd,
                   generation := event.generation } :: b.reports } := by
  rw [handleBootstrapEvent] at h
  split at h
  · cases h
    exact .inl ⟨_, rfl⟩
  · cases h
    exact .inl ⟨_, rfl⟩
  · next hcmd =>
      obtain ⟨version, -, hreturn⟩ := except_bind_eq_ok.mp h
      cases hreturn
      exact .inr ⟨hcmd, version, rfl⟩
  · cases h
    exact .inl ⟨_, rfl⟩

end Broker

end Pretzel.Ipcd
