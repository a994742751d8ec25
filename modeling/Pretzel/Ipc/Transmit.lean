import Mathlib.Tactic
import Pretzel.Ipc.Client
import Pretzel.Library.Machine
import Pretzel.Library.Outbox

/-!
The way out of a connection: `IpcConnection::write` and `send`, and the write
interest that `enqueueFrame` and `handleSend` ask epoll for.

* `sent`, `wantsWrite`: what a send loop gives to the socket, and whether it
  leaves the connection waiting for the next writable event.
* `write_step`, `handleSend_step`: a frame queued and a writable event, as steps
  of an outbox.
* `IpcClient.transmission`: a client whose frames are queued and whose events are
  handled in any order. A frame that is queued while an event is handled stands
  between its read part and its write part, which are events themselves.
* `IpcClient.next_step`: each of its steps is a step of the outbox.
-/

namespace Pretzel.Ipc

open Reactive

namespace IpcConnection

lemma min_readLen_le (tx : ByteRingBuffer) (n : ℕ) : min n tx.readLen ≤ tx.readable :=
  (Nat.min_le_right n tx.readLen).trans tx.readLen_le_readable

/-- What the loop of `send` gives to `::send`: each answer takes of the bytes at
the head that do not wrap. -/
def sentLoop : List SendAnswer → ByteRingBuffer → Bytes
  | [], _ => []
  | answer :: answers, tx =>
      if tx.readable = 0 then []
      else
        match answer with
        | .sent n =>
            if min n tx.readLen = 0 then []
            else
              let tx' := tx.consume (min n tx.readLen) (min_readLen_le tx n)
              tx.view (min n tx.readLen) ++
                if min n tx.readLen < tx.readLen then [] else sentLoop answers tx'
        | .interrupted => sentLoop answers tx
        | .again => []
        | .failed => []

/-- What `send` gives to the socket. -/
def sent (conn : IpcConnection) (answers : List SendAnswer) : Bytes := sentLoop answers conn.tx

/-- Whether a send loop leaves the connection waiting to write. -/
def wantsWrite (conn : IpcConnection) (answers : List SendAnswer) : Bool :=
  (conn.send answers).2 = .WouldBlock

/-- **What is given to the socket and what is left is what was there**, over any
answers and across the wrap. -/
lemma sentLoop_append (answers : List SendAnswer) (tx : ByteRingBuffer) :
    sentLoop answers tx ++ (sendLoop answers tx).1.contents = tx.contents := by
  induction answers generalizing tx with
  | nil => rfl
  | cons answer answers ih =>
      cases answer with
      | sent n =>
          rw [sentLoop, sendLoop]
          split
          · rfl
          dsimp only
          split
          · rfl
          have hview : tx.view (min n tx.readLen) = tx.contents.take (min n tx.readLen) :=
            tx.view_eq_take (Nat.min_le_right _ _)
          have hkept := tx.contents_consume
            (min_readLen_le tx n)
          split
          · rw [List.append_nil, hview, hkept, List.take_append_drop]
          · rw [List.append_assoc, ih, hview, hkept, List.take_append_drop]
      | interrupted =>
          rw [sentLoop, sendLoop]
          split
          · rfl
          · exact ih tx
      | again =>
          rw [sentLoop, sendLoop]
          split <;> rfl
      | failed =>
          rw [sentLoop, sendLoop]
          split <;> rfl

lemma sendLoop_of_empty {tx : ByteRingBuffer} (h : tx.readable = 0)
    (answers : List SendAnswer) : sendLoop answers tx = (tx, .Ok) := by
  cases answers with
  | nil => rw [sendLoop, if_pos h]
  | cons answer answers => cases answer <;> rw [sendLoop, if_pos h]

/-- A send loop ends at `Ok` only with nothing left. -/
lemma contents_sendLoop_of_ok {answers : List SendAnswer} {tx : ByteRingBuffer}
    (h : (sendLoop answers tx).2 = .Ok) : (sendLoop answers tx).1.contents = [] := by
  have hempty : ∀ tx : ByteRingBuffer, tx.readable = 0 → tx.contents = [] := fun tx htx =>
    List.length_eq_zero_iff.mp (tx.length_contents.trans htx)
  induction answers generalizing tx with
  | nil =>
      rw [sendLoop] at h ⊢
      split at h
      · next hreadable => exact hempty tx hreadable
      · cases h
  | cons answer answers ih =>
      by_cases hreadable : tx.readable = 0
      · rw [sendLoop_of_empty hreadable]
        exact hempty tx hreadable
      cases answer with
      | sent n =>
          rw [sendLoop, if_neg hreadable] at h ⊢
          dsimp only at h ⊢
          split at h
          · cases h
          next hsome =>
          rw [if_neg hsome]
          split at h
          · cases h
          next hwhole =>
          rw [if_neg hwhole]
          exact ih h
      | interrupted =>
          rw [sendLoop, if_neg hreadable] at h ⊢
          exact ih h
      | again =>
          rw [sendLoop, if_neg hreadable] at h
          cases h
      | failed =>
          rw [sendLoop, if_neg hreadable] at h
          cases h

/-- A frame that is taken goes behind what is pending. -/
lemma write_step (o : Outbox UInt8) {conn conn' : IpcConnection} {frame : Bytes}
    (h : conn.write frame = (conn', true)) :
    Outbox.Step o (some conn.tx.contents) (o.accept frame) (some conn'.tx.contents) := by
  have hcontents : conn'.tx.contents = conn.tx.contents ++ frame := by
    by_cases hnil : frame = []
    · rw [write, if_pos hnil] at h
      cases h
      rw [hnil, List.append_nil]
    · obtain ⟨-, hput⟩ := conn.write_eq hnil
      rw [h] at hput
      exact hput rfl
  rw [hcontents]
  exact .accept o conn.tx.contents frame

end IpcConnection

namespace IpcHandler

variable {σ : Type*}

/-- Reading leaves the transmit ring as it is. -/
@[simp] lemma tx_handleRecv (ingress : σ → Bytes → Option σ) (s : σ) (conn : IpcConnection)
    (inbound : Inbound) : (handleRecv ingress s conn inbound).2.1.tx = conn.tx := by
  have htx : (conn.recv inbound).1.tx = conn.tx := rfl
  rw [handleRecv]
  split
  all_goals
    next hrecv =>
      rw [hrecv] at htx
      exact htx

/-- What a writable event leaves pending: nothing at all where the connection is
given up. -/
def left (conn : IpcConnection) (outbound : Outbound) : Option Bytes :=
  if (handleSend conn outbound).2 then some (handleSend conn outbound).1.tx.contents else none

/-- **A writable event gives the front of what is pending to the socket**, and
goes on waiting unless it gave all of it. -/
lemma handleSend_step (o : Outbox UInt8) (conn : IpcConnection) (outbound : Outbound) :
    Outbox.Step o (some conn.tx.contents)
      (o.flush (conn.sent outbound.answers) (conn.wantsWrite outbound.answers))
      (left conn outbound) := by
  have happend : conn.sent outbound.answers ++ (conn.send outbound.answers).1.tx.contents
      = conn.tx.contents := IpcConnection.sentLoop_append outbound.answers conn.tx
  have hok : (conn.send outbound.answers).2 = .Ok →
      (conn.send outbound.answers).1.tx.contents = [] := IpcConnection.contents_sendLoop_of_ok
  rw [left, handleSend, IpcConnection.wantsWrite, ← happend]
  generalize conn.send outbound.answers = result at hok
  obtain ⟨conn', rc⟩ := result
  cases rc with
  | Ok =>
      dsimp only
      split
      · exact .flush o fun hne => absurd (hok rfl) hne
      · exact .shut o _ _ _
  | WouldBlock =>
      dsimp only
      split
      · exact .flush o fun _ => rfl
      · exact .shut o _ _ _
  | PeerClosed => exact .shut o _ _ _
  | BufferFull => exact .shut o _ _ _
  | Error => exact .shut o _ _ _

end IpcHandler

/-- A call at an endpoint of the fabric: a frame to queue, with whether epoll
takes the change of interest, or an event of the loop. -/
inductive EndpointCall where
  | enqueueFrame (frame : Bytes) (modOk : Bool)
  | handleEvent (ev : EpollEvent)
deriving DecidableEq, Repr

namespace IpcClient

/-- What is pending of a client's connection. -/
def pending (c : IpcClient) : Option Bytes := c.conn.map fun conn => conn.tx.contents

/-- The connection whose `handleSend` an event comes to. -/
def sending (c : IpcClient) (ev : EpollEvent) : Option IpcConnection :=
  match c.state, c.conn with
  | .Connected, some conn =>
      if ev.fd = c.eventFd ∨ c.socket ≠ some ev.fd ∨ ev.isClose then none
      else if (c.recvReady conn ev).2.2 && ev.isSend then some (c.recvReady conn ev).2.1
      else none
  | _, _ => none

/-- A client with the history of what it sends. -/
structure Transmission where
  client : IpcClient
  outbox : Outbox UInt8

/-- A client, its frames queued and its events handled in any order, from the
state it is in once it is connected. -/
def transmission (eventFd fd : ℤ) (rxBuf txBuf : ℕ) : Machine Transmission EndpointCall where
  init := fun t => t = { client := connected eventFd fd rxBuf txBuf, outbox := .fresh }
  next := fun t call =>
    match call with
    | .enqueueFrame frame modOk =>
        let (client, taken) := t.client.enqueueFrame frame modOk
        some { client, outbox := if taken then t.outbox.accept frame else t.outbox }
    | .handleEvent ev => some {
        client := t.client.handleEvent ev
        outbox := match t.client.sending ev with
          | none => t.outbox
          | some conn =>
              t.outbox.flush (conn.sent ev.outbound.answers) (conn.wantsWrite ev.outbound.answers) }

/-! ### One call, as a step of the outbox -/

lemma enqueueFrame_step (o : Outbox UInt8) (c : IpcClient) (frame : Bytes) (modOk : Bool) :
    Outbox.Step o c.pending (if (c.enqueueFrame frame modOk).2 then o.accept frame else o)
      (c.enqueueFrame frame modOk).1.pending := by
  rw [enqueueFrame]
  split
  · next conn fd hconn hsocket hstate =>
      split
      · exact .idle o _
      split
      · exact .idle o _
      · next conn' hwrite =>
          have hput := IpcConnection.write_step o hwrite
          rw [pending, hconn]
          dsimp only
          split
          · exact hput
          · exact .close o _
  · exact .idle o _

/-- The read part of an event leaves what is pending. -/
lemma recvReady_eq {c : IpcClient} {conn : IpcConnection} (hconn : c.conn = some conn)
    (ev : EpollEvent) :
    (c.recvReady conn ev).1.conn = some (c.recvReady conn ev).2.1 ∧
      (c.recvReady conn ev).2.1.tx = conn.tx := by
  rw [recvReady]
  split
  · exact ⟨rfl, IpcHandler.tx_handleRecv ingress c.received conn ev.inbound⟩
  · exact ⟨hconn, rfl⟩

lemma pending_sendReady {c : IpcClient} {conn : IpcConnection} {ev : EpollEvent}
    (hsend : ev.isSend = true) :
    (c.sendReady conn ev).pending = IpcHandler.left conn ev.outbound := by
  rw [sendReady, if_pos hsend, IpcHandler.left]
  dsimp only
  split
  · rfl
  · rfl

/-- An event, once connecting is over. -/
lemma handleEvent_step (o : Outbox UInt8) {c : IpcClient} (hstate : c.state ≠ .Connecting)
    (ev : EpollEvent) :
    Outbox.Step o c.pending
      (match c.sending ev with
        | none => o
        | some conn =>
            o.flush (conn.sent ev.outbound.answers) (conn.wantsWrite ev.outbound.answers))
      (c.handleEvent ev).pending := by
  by_cases hidle : ev.fd = c.eventFd ∨ c.socket ≠ some ev.fd
  · -- the event is not about the socket
    have hsame : c.handleEvent ev = c := by
      rw [handleEvent]
      rcases hidle with hevent | hsocket
      · rw [if_pos hevent]
      · rw [if_pos hsocket, ite_self]
    have hnone : c.sending ev = none := by
      rw [sending]
      split
      · rw [if_pos (by rcases hidle with h | h <;> simp [h])]
      · rfl
    rw [hsame, hnone]
    exact .idle o _
  rw [not_or, not_not] at hidle
  obtain ⟨hevent, hsocket⟩ := hidle
  rw [handleEvent, if_neg hevent, if_neg (not_not.mpr hsocket), if_neg hstate, sending]
  cases hconnected : c.state with
  | Connecting => exact absurd hconnected hstate
  | Disconnected => exact .idle o _
  | Connected =>
      cases hconn : c.conn with
      | none => exact .idle o _
      | some conn =>
          obtain ⟨hkept, htx⟩ := recvReady_eq hconn ev
          have hpending : c.pending = some (c.recvReady conn ev).2.1.tx.contents := by
            rw [pending, hconn, htx]
            rfl
          dsimp only
          by_cases hclose : ev.isClose = true
          · rw [if_pos hclose, if_pos (.inr (.inr hclose))]
            exact .close o _
          rw [if_neg hclose, if_neg (by simp [hevent, hsocket, hclose])]
          cases hok : (c.recvReady conn ev).2.2 with
          | false => exact .close o _
          | true =>
              by_cases hsend : ev.isSend = true
              · rw [hsend, hpending]
                simp only [Bool.and_self, if_true]
                rw [pending_sendReady hsend]
                exact IpcHandler.handleSend_step o _ ev.outbound
              · have hsame : ((c.recvReady conn ev).1.sendReady (c.recvReady conn ev).2.1
                    ev).pending = c.pending := by
                  rw [sendReady, if_neg hsend, pending, hkept, hpending]
                  rfl
                rw [Bool.not_eq_true] at hsend
                simp only [hsend, Bool.and_false, Bool.false_eq_true, if_true, if_false]
                rw [hsame]
                exact .idle o _

/-- A client that is not connecting does not start to. -/
lemma handleEvent_state {c : IpcClient} (hstate : c.state ≠ .Connecting) (ev : EpollEvent) :
    (c.handleEvent ev).state ≠ .Connecting := by
  have hclosed : ∀ c : IpcClient, c.closeConnection.state ≠ .Connecting := fun c => by
    simp [closeConnection]
  rw [handleEvent]
  split
  · exact hstate
  split
  · exact hstate
  split
  · next conn hconnected hconn =>
      have hrecv : (c.recvReady conn ev).1.state = c.state := by
        rw [recvReady]
        split <;> rfl
      split
      · exact hclosed c
      dsimp only
      split
      · rw [sendReady]
        split
        · dsimp only
          split
          · rwa [← hrecv] at hstate
          · exact hclosed _
        · rwa [← hrecv] at hstate
      · exact hclosed _
  · exact hstate

lemma enqueueFrame_state {c : IpcClient} (hstate : c.state ≠ .Connecting) (frame : Bytes)
    (modOk : Bool) : (c.enqueueFrame frame modOk).1.state ≠ .Connecting := by
  rw [enqueueFrame]
  split
  · split
    · exact hstate
    split
    · exact hstate
    · dsimp only
      split
      · exact hstate
      · simp [closeConnection]
  · exact hstate

/-- **Each call at a client is a step of its outbox.** -/
theorem next_step {eventFd fd : ℤ} {rxBuf txBuf : ℕ} {t t' : Transmission} {call : EndpointCall}
    (hstate : t.client.state ≠ .Connecting)
    (h : (transmission eventFd fd rxBuf txBuf).next t call = some t') :
    Outbox.Step t.outbox t.client.pending t'.outbox t'.client.pending ∧
      t'.client.state ≠ .Connecting := by
  cases call with
  | enqueueFrame frame modOk =>
      cases h
      exact ⟨enqueueFrame_step t.outbox t.client frame modOk,
        enqueueFrame_state hstate frame modOk⟩
  | handleEvent ev =>
      cases h
      exact ⟨handleEvent_step t.outbox hstate ev, handleEvent_state hstate ev⟩

/-- **In every reachable state the account of a client is sound.** -/
theorem sound_of_reachable {eventFd fd : ℤ} {rxBuf txBuf : ℕ} {t : Transmission}
    (h : (transmission eventFd fd rxBuf txBuf).Reachable t) :
    t.outbox.Sound t.client.pending := by
  have hboth : t.outbox.Sound t.client.pending ∧ t.client.state ≠ .Connecting := by
    refine h.invariant (I := fun t => t.outbox.Sound t.client.pending ∧
      t.client.state ≠ .Connecting) ?_ ?_
    · rintro s rfl
      exact ⟨Outbox.sound_fresh, by simp [connected]⟩
    · rintro s call s' ⟨hsound, hstate⟩ hnext
      obtain ⟨hstep, hstate'⟩ := next_step hstate hnext
      exact ⟨hstep.sound hsound, hstate'⟩
  exact hboth.1

end IpcClient

end Pretzel.Ipc
