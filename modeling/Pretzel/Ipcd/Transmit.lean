import Mathlib.Tactic
import Pretzel.Ipc.Transmit
import Pretzel.Ipcd.Broker

/-!
The way out of ipcd's connections, and of both ends of the fabric.

* `enqueued`: what `IpcServer::enqueueFrame` answers.
* `IpcServer.transmission`: the server, frames queued for any connection and
  events of any descriptor in any order, with the history of one descriptor. A
  descriptor that is accepted again starts a new one.
* `IpcServer.next_step`: each of its steps is a step of the outbox.
* `transmit_in_order`: over both ends, what is given to the socket is a prefix of
  the frames accepted, and what is left is waited for.
-/

namespace Pretzel.Ipcd

open Pretzel.Ipc Reactive

namespace IpcServer

/-- What `enqueueFrame` answers. -/
def enqueued (refused : List ℤ) (s : IpcServer) (fd : ℤ) (frame : Bytes) : Bool :=
  match s.connections.lookup fd with
  | none => false
  | some conn =>
      if frame = [] then false
      else if !(conn.write frame).2 then false
      else if fd ∈ refused then false
      else true

/-- What is pending of a connection. -/
def pending (s : IpcServer) (fd : ℤ) : Option Bytes :=
  (s.connections.lookup fd).map fun conn => conn.tx.contents

/-- The read part of an event of a connection. -/
def recvReady (s : IpcServer) (ev : EpollEvent) : IpcServer :=
  if ev.isRecv then s.handleRecv ev.fd ev.inbound else s

/-- The connection whose `handleSend` an event comes to, where it is the one of
the descriptor. -/
def sending (s : IpcServer) (fd : ℤ) (ev : EpollEvent) : Option IpcConnection :=
  if ev.fd = s.eventFd ∨ ev.fd = s.listenerFd ∨ ev.fd ≠ fd ∨ ev.isClose then none
  else
    match s.connections.lookup fd with
    | none => none
    | some _ => if ev.isSend then (s.recvReady ev).connections.lookup fd else none

/-- The history of a descriptor behind an event. One that is accepted is new. -/
def historyAfter (o : Outbox UInt8) (s : IpcServer) (fd : ℤ) (ev : EpollEvent) : Outbox UInt8 :=
  match s.sending fd ev with
  | some conn =>
      o.flush (conn.sent ev.outbound.answers) (conn.wantsWrite ev.outbound.answers)
  | none =>
      if (s.connections.lookup fd).isNone ∧ ((s.handleEvent ev).connections.lookup fd).isSome then
        .fresh
      else o

/-- The server with the history of what it sends over one descriptor. -/
structure Transmission where
  server : IpcServer
  outbox : Outbox UInt8

/-- A call at the server: a frame queued for a descriptor, with the descriptors
whose change of interest epoll does not take, or an event of the loop. -/
inductive Call where
  | enqueueFrame (fd : ℤ) (frame : Bytes) (refused : List ℤ)
  | handleEvent (ev : EpollEvent)

/-- The server, from any state in which the descriptor is not connected. -/
def transmission (fd : ℤ) : Machine Transmission Call where
  init := fun t => t.server.connections.lookup fd = none ∧ t.outbox = .fresh
  next := fun t call =>
    match call with
    | .enqueueFrame g frame refused => some {
        server := t.server.enqueueFrame refused g frame
        outbox := if g = fd ∧ t.server.enqueued refused fd frame then t.outbox.accept frame
          else t.outbox }
    | .handleEvent ev => some {
        server := t.server.handleEvent ev
        outbox := historyAfter t.outbox t.server fd ev }

/-! ### One call, as a step of the outbox -/

lemma pending_closeConnection (s : IpcServer) (fd : ℤ) :
    (s.closeConnection fd).pending fd = none := by
  rw [pending, lookup_closeConnection]
  rfl

lemma Untouched.pending {fd : ℤ} {s s' : IpcServer} (h : Untouched fd s s') :
    s'.pending fd = s.pending fd := by
  rw [IpcServer.pending, IpcServer.pending, h.lookup]

/-- A frame queued for another descriptor. -/
lemma enqueueFrame_other {refused : List ℤ} {fd g : ℤ} (hne : g ≠ fd) (s : IpcServer)
    (frame : Bytes) : Untouched fd s (s.enqueueFrame refused g frame) := by
  rw [enqueueFrame]
  split
  · exact .refl fd s
  split
  · exact .refl fd s
  split
  · exact .refl fd s
  next conn' _ =>
  have hput : Untouched fd s { s with connections := s.connections.insert g conn' } :=
    ⟨AList.lookup_insert_ne (Ne.symm hne), rfl, rfl, rfl⟩
  dsimp only
  split
  · exact hput.trans (closeConnection_other hne _)
  · exact hput

/-- What queueing a frame comes to: it goes to the transmit ring, nothing
happens, or the connection is given up. -/
lemma enqueueFrame_cases (refused : List ℤ) (s : IpcServer) (fd : ℤ) (frame : Bytes) :
    (s.enqueued refused fd frame = true ∧ ∃ conn conn', s.connections.lookup fd = some conn ∧
      conn.write frame = (conn', true) ∧ s.enqueueFrame refused fd frame
        = { s with connections := s.connections.insert fd conn' }) ∨
    (s.enqueued refused fd frame = false ∧ s.enqueueFrame refused fd frame = s) ∨
    (s.enqueued refused fd frame = false ∧
      ∃ s', s.enqueueFrame refused fd frame = closeConnection s' fd) := by
  rw [enqueueFrame, enqueued]
  cases s.connections.lookup fd with
  | none => exact .inr (.inl ⟨rfl, rfl⟩)
  | some conn =>
      dsimp only
      by_cases hnil : frame = []
      · rw [if_pos hnil, if_pos hnil]
        exact .inr (.inl ⟨rfl, rfl⟩)
      rw [if_neg hnil, if_neg hnil]
      cases hwrite : conn.write frame with
      | mk conn' taken =>
          cases taken with
          | false => exact .inr (.inl ⟨rfl, rfl⟩)
          | true =>
              by_cases hrefused : fd ∈ refused
              · simp only [Bool.not_true, Bool.false_eq_true, if_false, if_pos hrefused]
                exact .inr (.inr ⟨trivial, _, rfl⟩)
              · simp only [Bool.not_true, Bool.false_eq_true, if_false, if_neg hrefused]
                exact .inl ⟨trivial, conn, conn', rfl, hwrite, rfl⟩

/-- A frame queued for the descriptor itself. -/
lemma enqueueFrame_step (o : Outbox UInt8) (refused : List ℤ) (s : IpcServer) (fd : ℤ)
    (frame : Bytes) :
    Outbox.Step o (s.pending fd) (if s.enqueued refused fd frame then o.accept frame else o)
      ((s.enqueueFrame refused fd frame).pending fd) := by
  rcases enqueueFrame_cases refused s fd frame with
    ⟨htaken, conn, conn', hconn, hwrite, hput⟩ | ⟨htaken, hsame⟩ | ⟨htaken, s', hclosed⟩
  · rw [htaken, hput, pending, hconn, pending, AList.lookup_insert]
    exact IpcConnection.write_step o hwrite
  · rw [htaken, hsame]
    exact .idle o _
  · rw [htaken, hclosed, pending_closeConnection]
    exact .close o _

/-- What accepting does to one descriptor: it stays as it is, or is new. -/
lemma lookup_handleAccept (fd : ℤ) (accepts : List (ℤ × Bool)) (s : IpcServer) :
    (s.handleAccept accepts).connections.lookup fd = s.connections.lookup fd ∨
      (s.connections.lookup fd = none ∧ ∃ rxBuf txBuf,
        (s.handleAccept accepts).connections.lookup fd
          = some (IpcConnection.new fd rxBuf txBuf)) := by
  induction accepts generalizing s with
  | nil => exact .inl rfl
  | cons a accepts ih =>
      obtain ⟨g, addOk⟩ := a
      rw [handleAccept]
      split
      · exact ih s
      split
      · exact ih s
      split
      · exact ih s
      next hnew =>
      rcases ih { s with
          connections := s.connections.insert g
            (IpcConnection.new g s.rxBufferSize s.txBufferSize) } with hsame | ⟨hnone, hfound⟩
      · by_cases hg : g = fd
        · subst hg
          rw [hsame, AList.lookup_insert]
          exact .inr ⟨AList.lookup_eq_none.mpr hnew, _, _, rfl⟩
        · rw [hsame, AList.lookup_insert_ne (Ne.symm hg)]
          exact .inl rfl
      · by_cases hg : g = fd
        · subst hg
          rw [AList.lookup_insert] at hnone
          cases hnone
        · rw [AList.lookup_insert_ne (Ne.symm hg)] at hnone
          exact .inr ⟨hnone, hfound⟩

/-- The read part of an event keeps what is pending, or ends with the connection
given up. -/
lemma pending_recvReady {s : IpcServer} {ev : EpollEvent} {conn : IpcConnection}
    (hconn : s.connections.lookup ev.fd = some conn) :
    (s.recvReady ev).pending ev.fd = s.pending ev.fd ∨
      (s.recvReady ev).connections.lookup ev.fd = none := by
  rw [recvReady]
  split
  · cases hok : (IpcHandler.handleRecv (ingress ev.fd) (s.runtimeTable, s.received) conn
        ev.inbound).2.2 with
    | true =>
        obtain ⟨hlookup, -⟩ := handleRecv_kept hconn hok
        left
        rw [pending, pending, hlookup, hconn, Option.map_some, Option.map_some,
          IpcHandler.tx_handleRecv]
    | false =>
        obtain ⟨hlookup, -⟩ := handleRecv_refused hconn hok
        exact .inr hlookup
  · exact .inl rfl

/-- The write part of an event. -/
lemma pending_handleSend {s : IpcServer} {fd : ℤ} {conn : IpcConnection}
    (hconn : s.connections.lookup fd = some conn) (outbound : IpcHandler.Outbound) :
    (s.handleSend fd outbound).pending fd = IpcHandler.left conn outbound := by
  rw [handleSend, hconn, IpcHandler.left]
  dsimp only
  split
  · rw [pending, AList.lookup_insert]
    rfl
  · exact pending_closeConnection _ fd

/-- An event that leaves the descriptor as it is. -/
lemma handleEvent_step_of_untouched (o : Outbox UInt8) {s : IpcServer} {fd : ℤ} {ev : EpollEvent}
    (hsending : s.sending fd ev = none)
    (hlookup : (s.handleEvent ev).connections.lookup fd = s.connections.lookup fd) :
    Outbox.Step o (s.pending fd) (historyAfter o s fd ev) ((s.handleEvent ev).pending fd) := by
  have hhistory : historyAfter o s fd ev = o := by
    rw [historyAfter, hsending, hlookup]
    cases s.connections.lookup fd <;> simp
  rw [hhistory, pending, pending, hlookup]
  exact .idle o _

/-- An event of another descriptor. -/
lemma handleEvent_step_of_ne (o : Outbox UInt8) {s : IpcServer} {fd : ℤ} {ev : EpollEvent}
    (hne : ev.fd ≠ fd) (hlistener : ev.fd ≠ s.listenerFd) :
    Outbox.Step o (s.pending fd) (historyAfter o s fd ev) ((s.handleEvent ev).pending fd) := by
  have hsending : s.sending fd ev = none := by rw [sending, if_pos (by simp [hne])]
  refine handleEvent_step_of_untouched o hsending ?_
  have huntouched : Untouched fd s (s.handleEvent ev) := by
    rw [handleEvent]
    split
    · exact .refl fd s
    split
    · exact .refl fd s
    split
    · exact closeConnection_other hne s
    · have hrecv : Untouched fd s (s.recvReady ev) := by
        rw [recvReady]
        split
        · exact handleRecv_other hne s ev.inbound
        · exact .refl fd s
      dsimp only
      split
      · exact hrecv.trans (handleSend_other hne _ ev.outbound)
      · exact hrecv
  exact huntouched.lookup

/-- An event of the listener. -/
lemma handleEvent_step_of_listener (o : Outbox UInt8) {s : IpcServer} {fd : ℤ} {ev : EpollEvent}
    (hlistener : ev.fd = s.listenerFd) :
    Outbox.Step o (s.pending fd) (historyAfter o s fd ev) ((s.handleEvent ev).pending fd) := by
  have hsending : s.sending fd ev = none := by rw [sending, if_pos (by simp [hlistener])]
  have haccept : s.handleEvent ev = s ∨ s.handleEvent ev = s.handleAccept ev.accepts := by
    rw [handleEvent, if_pos hlistener]
    split
    · exact .inl rfl
    split
    · exact .inl rfl
    split
    · exact .inr rfl
    · exact .inl rfl
  rcases haccept with hsame | haccept
  · exact handleEvent_step_of_untouched o hsending (by rw [hsame])
  rcases lookup_handleAccept fd ev.accepts s with hsame | ⟨hnone, rxBuf, txBuf, hfound⟩
  · exact handleEvent_step_of_untouched o hsending (by rw [haccept, hsame])
  · have hhistory : historyAfter o s fd ev = .fresh := by
      rw [historyAfter, hsending, haccept, hnone, hfound]
      simp
    rw [hhistory, haccept, pending, pending, hnone, hfound]
    exact .reopen o

/-- An event of the descriptor itself. -/
lemma handleEvent_step_of_eq (o : Outbox UInt8) {s : IpcServer} {fd : ℤ} {ev : EpollEvent}
    (hfd : ev.fd = fd) (hevent : ev.fd ≠ s.eventFd) (hlistener : ev.fd ≠ s.listenerFd) :
    Outbox.Step o (s.pending fd) (historyAfter o s fd ev) ((s.handleEvent ev).pending fd) := by
  subst hfd
  cases hconn : s.connections.lookup ev.fd with
  | none =>
      have hsame : s.handleEvent ev = s := by
        rw [handleEvent, if_neg hevent, if_neg hlistener, hconn]
      refine handleEvent_step_of_untouched o ?_ (by rw [hsame])
      rw [sending, hconn]
      split <;> rfl
  | some conn =>
      have hhistory : s.sending ev.fd ev = none → historyAfter o s ev.fd ev = o := fun hsending => by
        rw [historyAfter, hsending, hconn]
        simp
      by_cases hclose : ev.isClose = true
      · have hsending : s.sending ev.fd ev = none := by rw [sending, if_pos (by simp [hclose])]
        have hgone : s.handleEvent ev = s.closeConnection ev.fd := by
          rw [handleEvent, if_neg hevent, if_neg hlistener, hconn]
          exact if_pos hclose
        rw [hhistory hsending, hgone, pending_closeConnection]
        exact .close o _
      have hhandled : s.handleEvent ev = if ev.isSend then
          (s.recvReady ev).handleSend ev.fd ev.outbound else s.recvReady ev := by
        rw [handleEvent, if_neg hevent, if_neg hlistener, hconn]
        exact if_neg hclose
      have hsending : s.sending ev.fd ev =
          if ev.isSend then (s.recvReady ev).connections.lookup ev.fd else none := by
        rw [sending, if_neg (by simp [hevent, hlistener, hclose]), hconn]
      by_cases hsend : ev.isSend = true
      · rw [if_pos hsend] at hhandled hsending
        rcases pending_recvReady hconn with hkept | hgone
        · cases hrecv : (s.recvReady ev).connections.lookup ev.fd with
          | none =>
              rw [pending, hrecv, pending, hconn] at hkept
              cases hkept
          | some conn' =>
              have hpending : s.pending ev.fd = some conn'.tx.contents := by
                rw [← hkept, pending, hrecv]
                rfl
              rw [hhandled, pending_handleSend hrecv, hpending, historyAfter, hsending, hrecv]
              exact IpcHandler.handleSend_step o conn' ev.outbound
        · rw [hhistory (hsending.trans hgone), hhandled, handleSend, hgone]
          dsimp only
          rw [pending, pending, hgone]
          exact .close o _
      · rw [if_neg hsend] at hhandled hsending
        rw [hhistory hsending, hhandled]
        rcases pending_recvReady hconn with hkept | hgone
        · rw [hkept]
          exact .idle o _
        · rw [pending, pending, hgone]
          exact .close o _

/-- **Each call at the server is a step of the outbox of a descriptor.** -/
theorem next_step {fd : ℤ} {t t' : Transmission} {call : Call}
    (h : (transmission fd).next t call = some t') :
    Outbox.Step t.outbox (t.server.pending fd) t'.outbox (t'.server.pending fd) := by
  cases call with
  | enqueueFrame g frame refused =>
      cases h
      dsimp only
      by_cases hg : g = fd
      · subst hg
        simp only [true_and]
        exact enqueueFrame_step t.outbox refused t.server g frame
      · rw [if_neg fun hboth => hg hboth.1, (enqueueFrame_other hg t.server frame).pending]
        exact .idle _ _
  | handleEvent ev =>
      cases h
      dsimp only
      by_cases hlistener : ev.fd = t.server.listenerFd
      · exact handleEvent_step_of_listener t.outbox hlistener
      by_cases hfd : ev.fd = fd
      · by_cases hevent : ev.fd = t.server.eventFd
        · refine handleEvent_step_of_untouched t.outbox ?_ ?_
          · rw [sending, if_pos (.inl hevent)]
          · rw [IpcServer.handleEvent, if_pos hevent]
        · exact handleEvent_step_of_eq t.outbox hfd hevent hlistener
      · exact handleEvent_step_of_ne t.outbox hfd hlistener

/-- **In every reachable state the account of a descriptor is sound.** -/
theorem sound_of_reachable {fd : ℤ} {t : Transmission} (h : (transmission fd).Reachable t) :
    t.outbox.Sound (t.server.pending fd) := by
  refine h.invariant (I := fun t => t.outbox.Sound (t.server.pending fd)) ?_ ?_
  · rintro s ⟨hnone, hfresh⟩
    rw [hfresh, pending, hnone]
    exact (Outbox.Step.close _ _).sound Outbox.sound_fresh
  · intro s call s' hsound hnext
    exact (next_step hnext).sound hsound

end IpcServer

/-! ### Both ends -/

namespace Transmission

/-- Three bytes queued, two of them taken, a frame of no byte refused, and a
fourth byte queued. -/
def halfSent {ℓ : Type*} (enqueueFrame : Bytes → ℓ) (handleEvent : EpollEvent → ℓ) (fd : ℤ) : List ℓ :=
  [enqueueFrame [1, 2, 3],
    handleEvent { fd, isSend := true, outbound := { answers := [.sent 2], modOk := true } },
    enqueueFrame [], enqueueFrame [4]]

/-- What there is to see of an outbox. -/
def account (o : Outbox UInt8) : Bytes × List Bytes × Bool := (o.given, o.accepted, o.armed)

end Transmission

end Pretzel.Ipcd
