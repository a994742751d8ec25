import Mathlib.Tactic
import Pretzel.Ipc.Handler
import Pretzel.Ipcd.RuntimeTable

/-!
`ipcd/ipc/IpcServer` and `IpcServerHandler`: the broker's side of the fabric.

* `IpcServer`: the connections by descriptor and the runtime table, with the
  messages handed to the router and the connection each came from.
* `handleAccept`, `handleRecv`, `handleSend`, `closeConnection`, `handleEvent`:
  one event of the loop.
* `handleEvent_other`: an event of another descriptor leaves a connection as it
  is.
* `endpoint`: the loop, as one of its connections sees it.
-/

namespace Pretzel.Ipcd

open Pretzel.Ipc

/-- `IpcServer`: `received` are the messages handed to the router, oldest first,
each with the descriptor it came from. -/
structure IpcServer where
  eventFd : ℤ
  listenerFd : ℤ
  maxConnections : ℕ
  rxBufferSize : ℕ
  txBufferSize : ℕ
  connections : AList fun _ : ℤ => IpcConnection
  runtimeTable : RuntimeTable
  received : List (ℤ × IpcMessage Bytes)

namespace IpcServer

/-- `IpcServerHandler::ingress`: the table and what was received. -/
def ingress (fd : ℤ) (s : RuntimeTable × List (ℤ × IpcMessage Bytes)) (frame : Bytes) :
    Option (RuntimeTable × List (ℤ × IpcMessage Bytes)) :=
  if frame.length = 0 then none
  else
    match IpcCodec.decode frame with
    | .Ok msg => (s.1.bindRoute msg.header.src fd).map fun table => (table, s.2 ++ [(fd, msg)])
    | .NeedMoreData | .InvalidFrame | .TooLarge => none

/-- `IpcServerHandler::handleAccept`. -/
def handleAccept (s : IpcServer) : List (ℤ × Bool) → IpcServer
  | [] => s
  | (fd, addOk) :: accepts =>
      if s.connections.entries.length ≥ s.maxConnections then s.handleAccept accepts
      else if !addOk then s.handleAccept accepts
      else if fd ∈ s.connections then s.handleAccept accepts
      else
        handleAccept { s with
          connections := s.connections.insert fd
            (IpcConnection.new fd s.rxBufferSize s.txBufferSize) } accepts

/-- `IpcServerHandler::closeConnection`. -/
def closeConnection (s : IpcServer) (fd : ℤ) : IpcServer :=
  { s with
    runtimeTable := s.runtimeTable.removeRoute fd
    connections := s.connections.erase fd }

/-- `IpcServerHandler::handleRecv`. -/
def handleRecv (s : IpcServer) (fd : ℤ) (inbound : Inbound) : IpcServer :=
  match s.connections.lookup fd with
  | none => s
  | some conn =>
      let ((runtimeTable, received), conn, ok) :=
        IpcHandler.handleRecv (ingress fd) (s.runtimeTable, s.received) conn inbound
      let s := { s with runtimeTable, received, connections := s.connections.insert fd conn }
      if ok then s else s.closeConnection fd

/-- `IpcServerHandler::handleSend`. -/
def handleSend (s : IpcServer) (fd : ℤ) (outbound : IpcHandler.Outbound) : IpcServer :=
  match s.connections.lookup fd with
  | none => s
  | some conn =>
      let (conn, ok) := IpcHandler.handleSend conn outbound
      let s := { s with connections := s.connections.insert fd conn }
      if ok then s else s.closeConnection fd

/-- `IpcServer::handleEvent`. -/
def handleEvent (s : IpcServer) (ev : EpollEvent) : IpcServer :=
  if ev.fd = s.eventFd then s
  else if ev.fd = s.listenerFd then
    if ev.isClose then s else if ev.isRecv then s.handleAccept ev.accepts else s
  else
    match s.connections.lookup ev.fd with
    | none => s
    | some _ =>
        if ev.isClose then s.closeConnection ev.fd
        else
          let s := if ev.isRecv then s.handleRecv ev.fd ev.inbound else s
          if ev.isSend then s.handleSend ev.fd ev.outbound else s

/-- What was received over one descriptor. -/
def heard (fd : ℤ) (s : IpcServer) : List (IpcMessage Bytes) :=
  (s.received.filter fun m => m.1 = fd).map Prod.snd

/-- Whether the route check lets a frame of a connection in. -/
def admits (fd : ℤ) (s : IpcServer) (frame : Bytes) : Bool :=
  match IpcCodec.message frame with
  | none => false
  | some msg => (s.runtimeTable.bindRoute msg.header.src fd).isSome

/-! ### What one event leaves of a connection -/

/-- What is read over one descriptor is received over that one. -/
lemma heard_ingress {fd g : ℤ} (hne : g ≠ fd) {h : List (IpcMessage Bytes)}
    {s s' : RuntimeTable × List (ℤ × IpcMessage Bytes)} {frame : Bytes}
    (hs : (s.2.filter fun m => m.1 = fd).map Prod.snd = h) (hin : ingress g s frame = some s') :
    (s'.2.filter fun m => m.1 = fd).map Prod.snd = h := by
  rw [ingress] at hin
  split at hin
  · cases hin
  split at hin
  · obtain ⟨table, -, rfl⟩ := Option.map_eq_some_iff.mp hin
    simpa [List.filter_append, hne] using hs
  all_goals cases hin

lemma handleAccept_other {fd : ℤ} {accepts : List (ℤ × Bool)} (h : ∀ a ∈ accepts, a.1 ≠ fd)
    (s : IpcServer) :
    (s.handleAccept accepts).connections.lookup fd = s.connections.lookup fd ∧
      (s.handleAccept accepts).received = s.received ∧
      (s.handleAccept accepts).eventFd = s.eventFd ∧
      (s.handleAccept accepts).listenerFd = s.listenerFd := by
  induction accepts generalizing s with
  | nil => exact ⟨rfl, rfl, rfl, rfl⟩
  | cons a accepts ih =>
      obtain ⟨g, addOk⟩ := a
      have hne : g ≠ fd := h (g, addOk) List.mem_cons_self
      have hrest : ∀ a ∈ accepts, a.1 ≠ fd := fun a ha => h a (List.mem_cons_of_mem _ ha)
      rw [handleAccept]
      split
      · exact ih hrest s
      split
      · exact ih hrest s
      split
      · exact ih hrest s
      · obtain ⟨hlookup, hsame⟩ := ih hrest { s with
          connections := s.connections.insert g
            (IpcConnection.new g s.rxBufferSize s.txBufferSize) }
        exact ⟨hlookup.trans (AList.lookup_insert_ne (Ne.symm hne)), hsame⟩

/-- What an event leaves as it was, of a connection it is not about. -/
structure Untouched (fd : ℤ) (s s' : IpcServer) : Prop where
  lookup : s'.connections.lookup fd = s.connections.lookup fd
  heard : s'.heard fd = s.heard fd
  eventFd : s'.eventFd = s.eventFd
  listenerFd : s'.listenerFd = s.listenerFd

lemma Untouched.refl (fd : ℤ) (s : IpcServer) : Untouched fd s s := ⟨rfl, rfl, rfl, rfl⟩

lemma Untouched.trans {fd : ℤ} {s s' s'' : IpcServer} (h : Untouched fd s s')
    (h' : Untouched fd s' s'') : Untouched fd s s'' :=
  ⟨h'.lookup.trans h.lookup, h'.heard.trans h.heard, h'.eventFd.trans h.eventFd,
    h'.listenerFd.trans h.listenerFd⟩

lemma closeConnection_other {fd g : ℤ} (hne : g ≠ fd) (s : IpcServer) :
    Untouched fd s (s.closeConnection g) :=
  ⟨AList.lookup_erase_ne (Ne.symm hne), rfl, rfl, rfl⟩

lemma handleRecv_other {fd g : ℤ} (hne : g ≠ fd) (s : IpcServer) (inbound : Inbound) :
    Untouched fd s (s.handleRecv g inbound) := by
  rw [handleRecv]
  split
  · exact .refl fd s
  · next conn hconn =>
      have hheard := IpcHandler.handleRecv_induct (ingress g)
        (P := fun st => (st.2.filter fun m => m.1 = fd).map Prod.snd = s.heard fd)
        (fun hs hin => heard_ingress hne hs hin) (s := (s.runtimeTable, s.received)) rfl conn
        inbound
      have hkept : Untouched fd s { s with
          runtimeTable := (IpcHandler.handleRecv (ingress g) (s.runtimeTable, s.received) conn
            inbound).1.1
          received := (IpcHandler.handleRecv (ingress g) (s.runtimeTable, s.received) conn
            inbound).1.2
          connections := s.connections.insert g (IpcHandler.handleRecv (ingress g)
            (s.runtimeTable, s.received) conn inbound).2.1 } :=
        ⟨AList.lookup_insert_ne (Ne.symm hne), hheard, rfl, rfl⟩
      dsimp only
      split
      · exact hkept
      · exact hkept.trans (closeConnection_other hne _)

lemma handleSend_other {fd g : ℤ} (hne : g ≠ fd) (s : IpcServer)
    (outbound : IpcHandler.Outbound) : Untouched fd s (s.handleSend g outbound) := by
  rw [handleSend]
  split
  · exact .refl fd s
  · next conn hconn =>
      have hkept : Untouched fd s { s with
          connections := s.connections.insert g (IpcHandler.handleSend conn outbound).1 } :=
        ⟨AList.lookup_insert_ne (Ne.symm hne), rfl, rfl, rfl⟩
      dsimp only
      split
      · exact hkept
      · exact hkept.trans (closeConnection_other hne _)

/-- **An event of another descriptor leaves a connection, and what was received
over it, as they are.** -/
theorem handleEvent_other {fd : ℤ} {ev : EpollEvent} (hne : ev.fd ≠ fd) (hcalm : ev.Calm fd)
    (s : IpcServer) : Untouched fd s (s.handleEvent ev) := by
  rw [handleEvent]
  split
  · exact .refl fd s
  split
  · split
    · exact .refl fd s
    split
    · obtain ⟨hlookup, hreceived, hevent, hlistener⟩ := handleAccept_other hcalm.accepts s
      exact ⟨hlookup, by rw [heard, heard, hreceived], hevent, hlistener⟩
    · exact .refl fd s
  split
  · exact .refl fd s
  split
  · exact closeConnection_other hne s
  · have hrecv : Untouched fd s (if ev.isRecv then s.handleRecv ev.fd ev.inbound else s) := by
      split
      · exact handleRecv_other hne s ev.inbound
      · exact .refl fd s
    dsimp only
    split
    · exact hrecv.trans (handleSend_other hne _ ev.outbound)
    · exact hrecv

/-! ### Receiving -/

/-- The frames of a connection are handed over up to the first the route check
refuses. The check answers for one connection as it did before its frames. -/
lemma acceptAll_ingress {fd : ℤ} {fs : List Bytes} (h : ∀ f ∈ fs, IpcCodec.framing.IsFrame f ∧
    (IpcCodec.message f).isSome) {s : IpcServer} {table : RuntimeTable}
    (htable : ∀ d, (table.bindRoute d fd).isSome = (s.runtimeTable.bindRoute d fd).isSome)
    (received : List (ℤ × IpcMessage Bytes)) :
    (Framing.acceptAll (ingress fd) (table, received) fs).1.2 = received ++
        ((fs.takeWhile (s.admits fd)).filterMap IpcCodec.message).map (Prod.mk fd) ∧
      (Framing.acceptAll (ingress fd) (table, received) fs).2 = fs.all (s.admits fd) := by
  induction fs generalizing table received with
  | nil => simp [Framing.acceptAll]
  | cons f fs ih =>
      obtain ⟨hframe, hsome⟩ := h f List.mem_cons_self
      obtain ⟨msg, hmsg⟩ := IpcCodec.isSome_message_iff.mp hsome
      have hpos := hframe.length_pos
      have hmessage : IpcCodec.message f = some msg := by rw [IpcCodec.message, hmsg]
      have hin : ingress fd (table, received) f = (table.bindRoute msg.header.src fd).map
          fun table => (table, received ++ [(fd, msg)]) := by
        rw [ingress, if_neg (by omega), hmsg]
      have hadmits : s.admits fd f = (table.bindRoute msg.header.src fd).isSome := by
        rw [admits, hmessage, htable]
      rw [Framing.acceptAll, hin, List.takeWhile_cons, List.all_cons, hadmits]
      cases hbind : table.bindRoute msg.header.src fd with
      | none => simp
      | some table' =>
          obtain ⟨hreceived, hall⟩ := ih (fun g hg => h g (List.mem_cons_of_mem _ hg))
            (fun d => (RuntimeTable.isSome_bindRoute_bindRoute hbind d).trans (htable d))
            (received ++ [(fd, msg)])
          simp only [Option.map_some, Option.isSome_some, if_true, Bool.true_and,
            List.filterMap_cons, hmessage, List.map_cons]
          refine ⟨?_, hall⟩
          rw [hreceived, List.append_assoc]
          rfl

/-- The connection over a descriptor is open, and its ring holds this. -/
structure Open (fd : ℤ) (capacity : ℕ) (s : IpcServer) (xs : Bytes) : Prop where
  event : fd ≠ s.eventFd
  listener : fd ≠ s.listenerFd
  ring : ∃ conn, s.connections.lookup fd = some conn ∧ conn.rx.contents = xs ∧
    conn.rx.capacity = capacity

/-- An event of the connection itself. -/
lemma handleEvent_open {fd : ℤ} {capacity : ℕ} {s : IpcServer} {xs : Bytes} {ev : EpollEvent}
    (h : Open fd capacity s xs) (hfd : ev.fd = fd) : s.handleEvent ev =
      if ev.isClose then s.closeConnection fd
      else
        let s := if ev.isRecv then s.handleRecv fd ev.inbound else s
        if ev.isSend then s.handleSend fd ev.outbound else s := by
  obtain ⟨conn, hconn, -⟩ := h.ring
  rw [handleEvent, hfd, if_neg h.event, if_neg h.listener, hconn]

/-- A write event over a calm socket keeps what is there to read, and one of no
connection does nothing. -/
lemma open_handleSend {fd : ℤ} {capacity : ℕ} {s : IpcServer} {xs : Bytes} {ev : EpollEvent}
    (h : Open fd capacity s xs) (hcalm : ev.Calm fd) :
    Open fd capacity (if ev.isSend then s.handleSend fd ev.outbound else s) xs ∧
      (if ev.isSend then s.handleSend fd ev.outbound else s).heard fd = s.heard fd := by
  split
  · obtain ⟨conn, hconn, hcontents, hcap⟩ := h.ring
    obtain ⟨hrx, hok⟩ := IpcHandler.handleSend_alive conn hcalm.answers hcalm.modOk
    rw [handleSend, hconn]
    dsimp only
    rw [if_pos hok]
    exact ⟨⟨h.event, h.listener, _, AList.lookup_insert _, by rw [hrx, hcontents],
      by rw [hrx, hcap]⟩, rfl⟩
  · exact ⟨h, rfl⟩

/-- What `closeConnection` leaves. -/
lemma lookup_closeConnection (s : IpcServer) (fd : ℤ) :
    (s.closeConnection fd).connections.lookup fd = none := AList.lookup_erase fd _

/-- A connection given up by the read part stays given up by the write part. -/
lemma handleSend_gone {fd : ℤ} {s : IpcServer} (h : s.connections.lookup fd = none)
    (isSend : Bool) (outbound : IpcHandler.Outbound) :
    (if isSend then s.handleSend fd outbound else s) = s := by
  split
  · rw [handleSend, h]
  · rfl

/-- A read event that ends with the connection given up. -/
lemma handleRecv_refused {fd : ℤ} {s : IpcServer} {conn : IpcConnection} {inbound : Inbound}
    (hconn : s.connections.lookup fd = some conn)
    (h : (IpcHandler.handleRecv (ingress fd) (s.runtimeTable, s.received) conn inbound).2.2
      = false) :
    (s.handleRecv fd inbound).connections.lookup fd = none ∧
      (s.handleRecv fd inbound).received
        = (IpcHandler.handleRecv (ingress fd) (s.runtimeTable, s.received) conn inbound).1.2 ∧
      (s.handleRecv fd inbound).eventFd = s.eventFd ∧
      (s.handleRecv fd inbound).listenerFd = s.listenerFd := by
  rw [handleRecv, hconn]
  dsimp only
  rw [h]
  exact ⟨lookup_closeConnection _ fd, rfl, rfl, rfl⟩

/-- A read event that the connection survives. -/
lemma handleRecv_kept {fd : ℤ} {s : IpcServer} {conn : IpcConnection} {inbound : Inbound}
    (hconn : s.connections.lookup fd = some conn)
    (h : (IpcHandler.handleRecv (ingress fd) (s.runtimeTable, s.received) conn inbound).2.2
      = true) :
    (s.handleRecv fd inbound).connections.lookup fd
        = some (IpcHandler.handleRecv (ingress fd) (s.runtimeTable, s.received) conn inbound).2.1 ∧
      (s.handleRecv fd inbound).received
        = (IpcHandler.handleRecv (ingress fd) (s.runtimeTable, s.received) conn inbound).1.2 ∧
      (s.handleRecv fd inbound).eventFd = s.eventFd ∧
      (s.handleRecv fd inbound).listenerFd = s.listenerFd := by
  rw [handleRecv, hconn]
  dsimp only
  rw [h]
  exact ⟨AList.lookup_insert _, rfl, rfl, rfl⟩

/-- An event in which the connection is given up over what it reads: no frame
after that is received over it. -/
lemma handleEvent_refused {fd : ℤ} {capacity : ℕ} {s : IpcServer} {xs : Bytes} {ev : EpollEvent}
    (hopen : Open fd capacity s xs) (hfd : ev.fd = fd) (hclose : ¬ ev.isClose = true)
    (hrecv : ev.isRecv = true) {conn : IpcConnection}
    (hconn : s.connections.lookup fd = some conn)
    (h : (IpcHandler.handleRecv (ingress fd) (s.runtimeTable, s.received) conn ev.inbound).2.2
      = false) :
    ((s.handleEvent ev).connections.lookup fd = none ∧ fd ≠ (s.handleEvent ev).eventFd ∧
      fd ≠ (s.handleEvent ev).listenerFd) ∧
    (s.handleEvent ev).received = (IpcHandler.handleRecv (ingress fd) (s.runtimeTable, s.received)
      conn ev.inbound).1.2 := by
  obtain ⟨hnone, hreceived, hevent, hlistener⟩ := handleRecv_refused hconn h
  rw [handleEvent_open hopen hfd, if_neg hclose, if_pos hrecv]
  dsimp only
  rw [handleSend_gone hnone]
  exact ⟨⟨hnone, by rw [hevent]; exact hopen.event, by rw [hlistener]; exact hopen.listener⟩,
    hreceived⟩

/-- What is received over a descriptor, of messages that came over it. -/
lemma filter_tagged (fd : ℤ) (received : List (ℤ × IpcMessage Bytes))
    (msgs : List (IpcMessage Bytes)) :
    ((received ++ msgs.map (Prod.mk fd)).filter fun m => m.1 = fd).map Prod.snd
      = (received.filter fun m => m.1 = fd).map Prod.snd ++ msgs := by
  have htagged : (msgs.map (Prod.mk fd)).filter (fun m => m.1 = fd) = msgs.map (Prod.mk fd) := by
    rw [List.filter_eq_self]
    simp
  rw [List.filter_append, htagged, List.map_append, List.map_map]
  exact congrArg _ (List.map_id _)

/-! ### One event, as a connection sees it -/

section Events

variable {fd : ℤ} {capacity : ℕ} {s : IpcServer} {ev : EpollEvent} {xs ys : Bytes}

/-- A connection that is gone, of a descriptor the server does not keep for itself. -/
def Lost (fd : ℤ) (s : IpcServer) : Prop :=
  s.connections.lookup fd = none ∧ fd ≠ s.eventFd ∧ fd ≠ s.listenerFd

lemma handleEvent_lost (hlost : Lost fd s) (hcalm : ev.Calm fd) :
    Lost fd (s.handleEvent ev) ∧ (s.handleEvent ev).heard fd = s.heard fd := by
  obtain ⟨hnone, hevent, hlistener⟩ := hlost
  by_cases hfd : ev.fd = fd
  · have hsame : s.handleEvent ev = s := by
      rw [handleEvent, hfd, if_neg hevent, if_neg hlistener, hnone]
    rw [hsame]
    exact ⟨⟨hnone, hevent, hlistener⟩, rfl⟩
  · have hother := handleEvent_other hfd hcalm s
    exact ⟨⟨hother.lookup.trans hnone, by rwa [hother.eventFd], by rwa [hother.listenerFd]⟩,
      hother.heard⟩

lemma handleEvent_elsewhere (hopen : Open fd capacity s xs) (hcalm : ev.Calm fd)
    (hready : ev.readiness fd = .elsewhere) :
    Open fd capacity (s.handleEvent ev) xs ∧ (s.handleEvent ev).heard fd = s.heard fd := by
  by_cases hfd : ev.fd = fd
  · rw [EpollEvent.readiness, if_neg (not_not.mpr hfd)] at hready
    split at hready
    · cases hready
    next hclose =>
    split at hready
    · split at hready <;> cases hready
    next hrecv =>
    rw [handleEvent_open hopen hfd, if_neg hclose, if_neg hrecv]
    exact open_handleSend hopen hcalm
  · have hother := handleEvent_other hfd hcalm s
    obtain ⟨conn, hconn, hring⟩ := hopen.ring
    exact ⟨⟨by rw [hother.eventFd]; exact hopen.event,
      by rw [hother.listenerFd]; exact hopen.listener, conn, hother.lookup.trans hconn, hring⟩,
      hother.heard⟩

lemma handleEvent_closing (hopen : Open fd capacity s xs) (hready : ev.readiness fd = .closing ys) :
    Lost fd (s.handleEvent ev) ∧ (s.handleEvent ev).heard fd = s.heard fd := by
  obtain ⟨conn, hconn, -⟩ := hopen.ring
  rw [EpollEvent.readiness] at hready
  split at hready
  · cases hready
  next hfd =>
  rw [handleEvent_open hopen (not_not.mp hfd)]
  split at hready
  · next hclose =>
      rw [if_pos hclose]
      exact ⟨⟨lookup_closeConnection s fd, hopen.event, hopen.listener⟩, rfl⟩
  next hclose =>
  split at hready
  · next hrecv =>
      split at hready
      · cases hready
      next hending =>
      obtain ⟨hsame, hgone⟩ := IpcHandler.handleRecv_ended (ingress fd)
        (s.runtimeTable, s.received) conn hending
      obtain ⟨hlost, hreceived⟩ :=
        handleEvent_refused hopen (not_not.mp hfd) hclose hrecv hconn hgone
      rw [← handleEvent_open hopen (not_not.mp hfd)]
      exact ⟨hlost, by rw [heard, heard, hreceived, hsame]⟩
  · cases hready

lemma handleEvent_full (hopen : Open fd capacity s xs) (hready : ev.readiness fd = .read ys)
    (hfull : capacity ≤ xs.length + ys.length) :
    Lost fd (s.handleEvent ev) ∧ (s.handleEvent ev).heard fd = s.heard fd := by
  obtain ⟨conn, hconn, hcontents, hcap⟩ := hopen.ring
  obtain ⟨hfd, hclose, hrecv, hending, rfl⟩ := EpollEvent.readiness_eq_read hready
  have hsize := conn.rx.length_contents
  rw [hcontents] at hsize
  have hwritable : conn.rx.writable ≤ ev.inbound.segments.flatten.length := by
    rw [RingBuffer.writable, hcap]
    omega
  obtain ⟨hsame, hgone⟩ :=
    IpcHandler.handleRecv_full (ingress fd) (s.runtimeTable, s.received) hwritable
  obtain ⟨hlost, hreceived⟩ := handleEvent_refused hopen hfd hclose hrecv hconn hgone
  exact ⟨hlost, by rw [heard, heard, hreceived, hsame]⟩

/-- **A read with room**: the frames it completes are heard up to the first that is
refused, and the rest is kept where none is. -/
lemma handleEvent_room (hopen : Open fd capacity s xs) (hcalm : ev.Calm fd)
    (hready : ev.readiness fd = .read ys) (hroom : xs.length + ys.length < capacity)
    {fs : List Bytes} {zs rest : Bytes}
    (hfs : ∀ f ∈ fs, IpcCodec.framing.IsFrame f ∧ (IpcCodec.message f).isSome)
    (hrest : ∀ p q, p ++ q = rest → IpcCodec.framing.Incomplete p)
    (hstream : xs ++ ys ++ zs = fs.flatten ++ rest) :
    (s.handleEvent ev).heard fd = s.heard fd ++
        ((fs.take (Framing.completed fs (xs.length + ys.length))).takeWhile
          (admits fd s)).filterMap IpcCodec.message ∧
      ((∀ f ∈ fs.take (Framing.completed fs (xs.length + ys.length)), admits fd s f = true) →
        Open fd capacity (s.handleEvent ev) ((xs ++ ys).drop
          (xs.length + ys.length - Framing.leftover fs (xs.length + ys.length)))) ∧
      ((∃ f ∈ fs.take (Framing.completed fs (xs.length + ys.length)), admits fd s f = false) →
        Lost fd (s.handleEvent ev)) := by
  obtain ⟨conn, hconn, hcontents, hcap⟩ := hopen.ring
  obtain ⟨hfd, hclose, hrecv, hending, rfl⟩ := EpollEvent.readiness_eq_read hready
  have hsize := conn.rx.length_contents
  rw [hcontents] at hsize
  have hwritable : ev.inbound.segments.flatten.length < conn.rx.writable := by
    rw [RingBuffer.writable, hcap]
    omega
  rw [← hcontents] at hstream
  obtain ⟨hstate, hok, hleft, hcap'⟩ := IpcHandler.handleRecv_frames (ingress fd)
    (s.runtimeTable, s.received) hending hwritable (fun f hf => (hfs f hf).1) hrest hstream
  rw [hcontents] at hstate hok hleft
  generalize xs.length + ev.inbound.segments.flatten.length = n at hstate hok hleft ⊢
  obtain ⟨hreceived, hall⟩ := acceptAll_ingress (s := s)
    (fun f hf => hfs f (List.mem_of_mem_take (i := Framing.completed fs n) hf))
    (fun _ => rfl) s.received
  rw [hall] at hok hleft
  have hheard : ∀ s' : IpcServer, s'.received = (IpcHandler.handleRecv (ingress fd)
      (s.runtimeTable, s.received) conn ev.inbound).1.2 → s'.heard fd = s.heard fd ++
        ((fs.take (Framing.completed fs n)).takeWhile (s.admits fd)).filterMap
          IpcCodec.message := by
    intro s' hs'
    rw [heard, hs', hstate, hreceived, filter_tagged]
    rfl
  by_cases hadmit : (fs.take (Framing.completed fs n)).all (s.admits fd) = true
  · obtain ⟨hkept, hreceived', hevent, hlistener⟩ := handleRecv_kept hconn (hok.trans hadmit)
    have hopen' : Open fd capacity (s.handleRecv fd ev.inbound)
        ((xs ++ ev.inbound.segments.flatten).drop (n - Framing.leftover fs n)) :=
      ⟨by rw [hevent]; exact hopen.event, by rw [hlistener]; exact hopen.listener, _, hkept,
        hleft hadmit, hcap'.trans hcap⟩
    obtain ⟨hopen'', hsame⟩ := open_handleSend hopen' hcalm
    rw [handleEvent_open hopen hfd, if_neg hclose, if_pos hrecv]
    refine ⟨hsame.trans (hheard _ hreceived'), fun _ => hopen'', ?_⟩
    rintro ⟨f, hf, hrefused⟩
    rw [List.all_eq_true.mp hadmit f hf] at hrefused
    cases hrefused
  · rw [Bool.not_eq_true] at hadmit
    obtain ⟨hlost, hreceived'⟩ :=
      handleEvent_refused hopen hfd hclose hrecv hconn (hok.trans hadmit)
    refine ⟨hheard _ hreceived', fun h => ?_, fun _ => hlost⟩
    rw [List.all_eq_true.mpr h] at hadmit
    cases hadmit

end Events

/-- **The server's loop, as one of its connections sees it.** A frame is let in
while no other connection holds the route of the daemon it names. -/
def endpoint (fd : ℤ) (capacity : ℕ) :
    Framing.Endpoint IpcCodec.framing IpcCodec.message IpcServer EpollEvent where
  capacity
  step := handleEvent
  Calm := EpollEvent.Calm fd
  readiness := EpollEvent.readiness fd
  Open := Open fd capacity
  Lost := fun s => s.connections.lookup fd = none ∧ fd ≠ s.eventFd ∧ fd ≠ s.listenerFd
  heard := heard fd
  admits := admits fd
  step_lost := handleEvent_lost
  step_elsewhere := handleEvent_elsewhere
  step_closing := fun hopen _ hready => handleEvent_closing hopen hready
  step_full := fun hopen _ hready hfull => handleEvent_full hopen hready hfull
  step_room := handleEvent_room
end IpcServer

end Pretzel.Ipcd
