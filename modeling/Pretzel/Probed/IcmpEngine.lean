import Pretzel.Library.Ipv4
import Pretzel.Library.Machine
import Pretzel.Probed.IcmpCodec

/-!
The way out of the prober: `IcmpConnection::write` and `send`,
`IcmpEngineHandler::handleSend`, and `IcmpEngine::enqueueFrame`, `handleEvent`
and `poll`.

* `SendtoAnswer`, `Errno`: what `::sendto` answers.
* `IcmpConnection.send`: the loop over the queue, given the answers to its calls;
  `none` where these are not the answers of one whole loop.
* `handleSend`, `handleEvent`, `enqueueFrame`, `reopen`: the layers over it.
* `sweep`: frames queued and writable events, in any order, with what became of
  each frame.
* `SweepKept`: the socket is open, and every frame that was taken has been dealt with
  in its turn or waits in the queue.
* **`sweep_kept_iff`**: that is so all the way just where no call fails with an
  error the loop does not know.
* `forbidden_lost`: a destination that may not be sent to.
-/

namespace Pretzel.Probed

open Reactive

/-! ### The loop -/

/-- `errno`. -/
inductive Errno where
  | EINTR
  | EAGAIN
  | EWOULDBLOCK
  | ENOBUFS
  | EHOSTUNREACH
  | ENETUNREACH
  | EINVAL
  | EADDRNOTAVAIL
  | EMSGSIZE
  | EACCES
  | EPERM
  | other (code : ℕ)
deriving DecidableEq, Repr

/-- What `::sendto` answers: the bytes it took, or an error. -/
inductive SendtoAnswer where
  | took (n : ℕ)
  | failed (err : Errno)
deriving DecidableEq, Repr

/-- `IcmpIoResult`. -/
inductive IcmpIoResult where
  | Ok
  | WouldBlock
  | PeerClosed
  | BufferFull
  | Error
deriving DecidableEq, Repr

/-- `IcmpConnection::TxFrame`. -/
structure TxFrame where
  bytes : Bytes
  dstIp : String
deriving DecidableEq, Repr

/-- What takes a frame off the queue: it is empty, its destination is no address, or
the answer to its own call. -/
inductive Verdict where
  | emptyFrame
  | invalidDst
  | answered (answer : SendtoAnswer)
deriving DecidableEq, Repr

/-- A frame that was taken off the queue. -/
structure Settled where
  frame : TxFrame
  verdict : Verdict
deriving DecidableEq, Repr

/-- What a send loop leaves: the queue, the frames it took off, the frames that the
socket took whole, and its result. -/
structure SendRun where
  queue : List TxFrame
  settled : List Settled
  wire : List TxFrame
  result : IcmpIoResult
deriving DecidableEq, Repr

/-- A run behind a frame that was taken off. -/
def SendRun.behind (frame : TxFrame) (verdict : Verdict) (run : SendRun) : SendRun :=
  { run with settled := ⟨frame, verdict⟩ :: run.settled }

/-- A run behind a call that took so many bytes. -/
def SendRun.behindTaken (frame : TxFrame) (n : ℕ) (run : SendRun) : SendRun :=
  { run.behind frame (.answered (.took n)) with
    wire := if n = frame.bytes.length then frame :: run.wire else run.wire }

/-- The calls for the frame in front: an interrupted one is made again. -/
def sendtoFront : List SendtoAnswer → Option (SendtoAnswer × List SendtoAnswer)
  | [] => none
  | .failed .EINTR :: answers => sendtoFront answers
  | answer :: answers => some (answer, answers)

/-- The errors that the loop waits on. -/
def Errno.blocks (err : Errno) : Bool :=
  err = .EAGAIN ∨ err = .EWOULDBLOCK ∨ err = .ENOBUFS

/-- The errors that the loop drops the frame for. -/
def Errno.drops : Errno → Bool
  | .EHOSTUNREACH | .ENETUNREACH | .EINVAL | .EADDRNOTAVAIL | .EMSGSIZE => true
  | _ => false

/-- The loop of `IcmpConnection::send`. -/
def sendLoop : List TxFrame → List SendtoAnswer → Option SendRun
  | [], answers => if answers = [] then some ⟨[], [], [], .Ok⟩ else none
  | frame :: queue, answers =>
      if frame.bytes = [] then (sendLoop queue answers).map (·.behind frame .emptyFrame)
      else if (Ipv4.pton frame.dstIp).isNone then
        (sendLoop queue answers).map (·.behind frame .invalidDst)
      else
        match sendtoFront answers with
        | none => none
        | some (.took n, rest) =>
            -- in whole, in part or nothing of it: the frame goes
            (sendLoop queue rest).map (·.behindTaken frame n)
        | some (.failed err, rest) =>
            if err.blocks then
              if rest = [] then some ⟨frame :: queue, [], [], .WouldBlock⟩ else none
            else if err.drops then
              (sendLoop queue rest).map (·.behind frame (.answered (.failed err)))
            else if rest = [] then some ⟨frame :: queue, [], [], .Error⟩ else none

/-- `DEFAULT_TX_QUEUE_LIMIT`. -/
def txQueueLimit : ℕ := 4096

/-- `IcmpConnection`, of an open socket. -/
structure IcmpConnection where
  txQueue : List TxFrame
deriving DecidableEq, Repr

namespace IcmpConnection

/-- `write`. -/
def write (conn : IcmpConnection) (frame : TxFrame) : IcmpConnection × Bool :=
  if frame.bytes = [] then (conn, true)
  else if frame.dstIp = "" then (conn, false)
  else if txQueueLimit ≤ conn.txQueue.length then (conn, false)
  else ({ conn with txQueue := conn.txQueue ++ [frame] }, true)

/-- `send`. -/
def send (conn : IcmpConnection) (answers : List SendtoAnswer) : Option SendRun :=
  sendLoop conn.txQueue answers

/-- `hasPendingTx`. -/
def hasPendingTx (conn : IcmpConnection) : Bool := conn.txQueue ≠ []

end IcmpConnection

/-- `IcmpEngineHandler::handleSend`: the loop, and whether the handling went well.
`modOk` is what `epoll.mod` answers. -/
def handleSend (conn : IcmpConnection) (answers : List SendtoAnswer) (modOk : Bool) :
    Option (SendRun × Bool) := do
  let run ← conn.send answers
  match run.result with
  | .Ok =>
      if !(IcmpConnection.mk run.queue).hasPendingTx then return (run, modOk)
      else return (run, true)
  | .WouldBlock => return (run, true)
  | .BufferFull => return (run, true)
  | .PeerClosed => return (run, false)
  | .Error => return (run, false)

/-- `IcmpEngine`: the socket and its connection, which are opened and closed
together. -/
structure IcmpEngine where
  conn : Option IcmpConnection
deriving DecidableEq, Repr

/-- The flags of an event. -/
structure Events where
  isClose : Bool
  isRecv : Bool
  isSend : Bool
deriving DecidableEq, Repr

namespace IcmpEngine

/-- `closeConnection`. -/
def closeConnection (_ : IcmpEngine) : IcmpEngine := { conn := none }

/-- `reopen`, of which `opened` says whether it went well. -/
def reopen (engine : IcmpEngine) (opened : Bool) : IcmpEngine :=
  if opened then { conn := some ⟨[]⟩ } else engine.closeConnection

/-- `enqueueFrame`. -/
def enqueueFrame (engine : IcmpEngine) (frame : TxFrame) (modOk : Bool) : IcmpEngine × Bool :=
  if frame.bytes = [] then (engine, false)
  else
    match engine.conn with
    | none => (engine, false)
    | some conn =>
        let (conn', written) := conn.write frame
        if !written then ({ engine with conn := some conn' }, false)
        else if !modOk then (engine.closeConnection, false)
        else ({ engine with conn := some conn' }, true)

/-- `handleEvent`, of the engine's socket. `recvOk` is what `handleRecv` answers, which
does not touch what is to be sent. -/
def handleEvent (engine : IcmpEngine) (events : Events) (recvOk : Bool)
    (answers : List SendtoAnswer) (modOk : Bool) : Option (IcmpEngine × Option SendRun) :=
  match engine.conn with
  | none => some (engine, none)
  | some conn =>
      if events.isClose then some (engine.closeConnection, none)
      else if events.isRecv && !recvOk then some (engine.closeConnection, none)
      else if events.isSend then do
        let (run, ok) ← handleSend conn answers modOk
        if ok then return ({ engine with conn := some ⟨run.queue⟩ }, some run)
        else return (engine.closeConnection, some run)
      else some (engine, none)

end IcmpEngine

/-! ### Runs -/

/-- The engine, the frames it took to be sent, those it took off its queue, and those
that went out. -/
structure Sweep where
  engine : IcmpEngine
  accepted : List TxFrame
  settled : List Settled
  wire : List TxFrame
deriving DecidableEq, Repr

/-- What a send loop has done is kept. -/
def Sweep.record (s : Sweep) : Option SendRun → Sweep
  | none => s
  | some run => { s with settled := s.settled ++ run.settled, wire := s.wire ++ run.wire }

/-- What may happen to a sweep: a frame is queued, the socket is writable, or it is
opened again after it was closed. -/
inductive SweepAct where
  | enqueue (frame : TxFrame)
  | writable (answers : List SendtoAnswer)
  | reopen (opened : Bool)
deriving DecidableEq, Repr

/-- A sweep over a socket with epoll at work. -/
def sweep : Machine Sweep SweepAct where
  init s := s = ⟨⟨some ⟨[]⟩⟩, [], [], []⟩
  next s
    | .enqueue frame =>
        let (engine, taken) := s.engine.enqueueFrame frame true
        some { s with engine, accepted := if taken then s.accepted ++ [frame] else s.accepted }
    | .writable answers => do
        let (engine, run) ← s.engine.handleEvent ⟨false, false, true⟩ true answers true
        return { s.record run with engine }
    | .reopen opened =>
        if s.engine.conn.isSome then none else some { s with engine := s.engine.reopen opened }

/-- The frame went out whole. -/
def Settled.sent (p : Settled) : Bool := p.verdict = .answered (.took p.frame.bytes.length)

/-- The frame was settled by itself alone: it cannot be sent, it was taken, or its own
call failed. -/
def Settled.Own (p : Settled) : Prop :=
  match p.verdict with
  | .emptyFrame => p.frame.bytes = []
  | .invalidDst => Ipv4.pton p.frame.dstIp = none
  | .answered (.took _) => True
  | .answered (.failed err) => err.drops = true

/-- The socket is open, the frames that were taken to be sent are, in order, those that
were settled, each by itself, and those that wait, and the frames that went out are
those whose own call took them, once each and in order. -/
structure SweepKept (s : Sweep) : Prop where
  queue : ∃ conn, s.engine.conn = some conn ∧
    s.accepted = s.settled.map Settled.frame ++ conn.txQueue
  own : ∀ p ∈ s.settled, p.Own
  wire : s.wire = (s.settled.filter Settled.sent).map Settled.frame

/-- An answer the loop knows what to do with: no other error ends it. -/
def SendtoAnswer.known : SendtoAnswer → Bool
  | .took _ => true
  | .failed err => err = .EINTR || err.blocks || err.drops

/-- The answers of a step are all known. -/
def SweepAct.Known : SweepAct → Prop
  | .writable answers => ∀ answer ∈ answers, answer.known = true
  | _ => True

/-! ### The loop, by what it leaves -/

/-- The calls for one frame: interruptions, and then the answer. -/
lemma known_sendtoFront {answers rest : List SendtoAnswer} {answer : SendtoAnswer}
    (h : sendtoFront answers = some (answer, rest)) :
    (∀ a ∈ answers, a.known = true) ↔ answer.known = true ∧ ∀ a ∈ rest, a.known = true := by
  induction answers using sendtoFront.induct with
  | case1 => cases h
  | case2 answers ih =>
      rw [sendtoFront] at h
      rw [List.forall_mem_cons, ih h]
      exact and_iff_right rfl
  | case3 first answers hfirst =>
      rw [sendtoFront] at h
      · cases h
        exact List.forall_mem_cons
      · exact hfirst

lemma sendtoFront_ne_interrupted {answers rest : List SendtoAnswer} {answer : SendtoAnswer}
    (h : sendtoFront answers = some (answer, rest)) : answer ≠ .failed .EINTR := by
  induction answers using sendtoFront.induct with
  | case1 => cases h
  | case2 answers ih => exact ih h
  | case3 first answers hfirst =>
      rw [sendtoFront] at h
      · cases h
        exact hfirst
      · exact hfirst

/-- What a send loop leaves of a queue. -/
structure SendRun.Leaves (run : SendRun) (queue : List TxFrame) (answers : List SendtoAnswer) :
    Prop where
  queue : queue = run.settled.map Settled.frame ++ run.queue
  own : ∀ p ∈ run.settled, p.Own
  wire : run.wire = (run.settled.filter Settled.sent).map Settled.frame
  error : run.result = .Error ↔ ¬∀ a ∈ answers, a.known = true
  result : run.result = .Ok ∧ run.queue = [] ∨ run.result = .WouldBlock ∨ run.result = .Error

lemma SendRun.Leaves.behind {run : SendRun} {queue : List TxFrame}
    {answers answers' : List SendtoAnswer} (h : run.Leaves queue answers) {frame : TxFrame}
    {verdict : Verdict} (hown : (Settled.mk frame verdict).Own)
    (hsent : (Settled.mk frame verdict).sent = false)
    (hknown : (∀ a ∈ answers', a.known = true) ↔ ∀ a ∈ answers, a.known = true) :
    (run.behind frame verdict).Leaves (frame :: queue) answers' where
  queue := congrArg (frame :: ·) h.queue
  own := List.forall_mem_cons.mpr ⟨hown, h.own⟩
  wire := by
    change run.wire = ((_ :: run.settled).filter _).map _
    rw [List.filter_cons_of_neg (by rw [hsent]; exact Bool.false_ne_true), h.wire]
  error := by
    rw [hknown]
    exact h.error
  result := h.result

lemma SendRun.Leaves.behindTaken {run : SendRun} {queue : List TxFrame}
    {answers answers' : List SendtoAnswer} (h : run.Leaves queue answers) {frame : TxFrame} {n : ℕ}
    (hknown : (∀ a ∈ answers', a.known = true) ↔ ∀ a ∈ answers, a.known = true) :
    (run.behindTaken frame n).Leaves (frame :: queue) answers' where
  queue := congrArg (frame :: ·) h.queue
  own := List.forall_mem_cons.mpr ⟨trivial, h.own⟩
  wire := by
    change (if n = frame.bytes.length then frame :: run.wire else run.wire) =
      ((⟨frame, .answered (.took n)⟩ :: run.settled).filter _).map _
    by_cases hwhole : n = frame.bytes.length
    · rw [if_pos hwhole, List.filter_cons_of_pos (by simp [Settled.sent, hwhole]), h.wire]
      rfl
    · rw [if_neg hwhole, List.filter_cons_of_neg (by simp [Settled.sent, hwhole]), h.wire]
  error := by
    rw [hknown]
    exact h.error
  result := h.result

/-- **A loop deals with the frames in their order, each by its own answer**, and ends
in an error just at an answer it does not know. -/
theorem leaves_sendLoop {queue : List TxFrame} {answers : List SendtoAnswer} {run : SendRun}
    (h : sendLoop queue answers = some run) : run.Leaves queue answers := by
  induction queue generalizing answers run with
  | nil =>
      rw [sendLoop] at h
      split at h
      · next hnone =>
          cases h
          subst hnone
          exact ⟨rfl, by simp, rfl, by simp, .inl ⟨rfl, rfl⟩⟩
      · cases h
  | cons frame queue ih =>
      rw [sendLoop] at h
      split at h
      · next hempty =>
          obtain ⟨run', hrun, rfl⟩ := Option.map_eq_some_iff.mp h
          exact (ih hrun).behind hempty rfl Iff.rfl
      split at h
      · next hdst =>
          obtain ⟨run', hrun, rfl⟩ := Option.map_eq_some_iff.mp h
          exact (ih hrun).behind (Option.isNone_iff_eq_none.mp hdst) rfl Iff.rfl
      split at h
      · cases h
      · next n rest hfront =>
          obtain ⟨run', hrun, rfl⟩ := Option.map_eq_some_iff.mp h
          refine (ih hrun).behindTaken ?_
          rw [known_sendtoFront hfront]
          exact and_iff_right rfl
      · next err rest hfront =>
          split at h
          · next hblocks =>
              split at h
              · next hlast =>
                  cases h
                  refine ⟨rfl, by simp, rfl, ?_, .inr (.inl rfl)⟩
                  rw [known_sendtoFront hfront, hlast]
                  simp [SendtoAnswer.known, hblocks]
              · cases h
          split at h
          · next hdrops =>
              obtain ⟨run', hrun, rfl⟩ := Option.map_eq_some_iff.mp h
              refine (ih hrun).behind hdrops (by simp [Settled.sent]) ?_
              rw [known_sendtoFront hfront]
              exact and_iff_right (by simp [SendtoAnswer.known, hdrops])
          · next hblocks hdrops =>
              split at h
              · next hlast =>
                  cases h
                  have hne : err ≠ .EINTR := by
                    rintro rfl
                    exact sendtoFront_ne_interrupted hfront rfl
                  refine ⟨rfl, by simp, rfl, ?_, .inr (.inr rfl)⟩
                  rw [known_sendtoFront hfront, hlast]
                  simp [SendtoAnswer.known, hblocks, hdrops, hne]
              · cases h

/-- The handling of a writable event goes well where the loop knows all it is
answered. -/
lemma handleSend_eq {conn : IcmpConnection} {answers : List SendtoAnswer} {run : SendRun}
    {ok : Bool} (h : handleSend conn answers true = some (run, ok)) :
    run.Leaves conn.txQueue answers ∧ (ok = true ↔ ∀ a ∈ answers, a.known = true) := by
  rw [handleSend, Option.bind_eq_bind, Option.bind_eq_some_iff] at h
  obtain ⟨run', hrun, h⟩ := h
  have hleaves := leaves_sendLoop hrun
  have herror := not_iff_comm.mp hleaves.error.symm
  rcases hleaves.result with ⟨hresult, hqueue⟩ | hresult | hresult
  · rw [hresult] at h herror
    simp only [hqueue, IcmpConnection.hasPendingTx] at h
    cases h
    exact ⟨hleaves, by simpa using herror⟩
  · rw [hresult] at h herror
    cases h
    exact ⟨hleaves, by simpa using herror⟩
  · rw [hresult] at h herror
    cases h
    exact ⟨hleaves, by simpa using herror⟩

/-! ### Every run -/

lemma kept_init {s : Sweep} (h : sweep.init s) : SweepKept s := by
  obtain rfl := h
  exact ⟨⟨⟨[]⟩, rfl, rfl⟩, by simp, rfl⟩

/-- Over an open socket a frame is queued behind the others, or it is not taken. -/
lemma enqueueFrame_open (conn : IcmpConnection) (frame : TxFrame) :
    ∃ conn' taken, IcmpEngine.enqueueFrame ⟨some conn⟩ frame true = (⟨some conn'⟩, taken) ∧
      conn'.txQueue = if taken then conn.txQueue ++ [frame] else conn.txQueue := by
  rw [IcmpEngine.enqueueFrame]
  split
  · exact ⟨conn, false, rfl, rfl⟩
  · next hbytes =>
      dsimp only
      rw [IcmpConnection.write, if_neg hbytes]
      split
      · exact ⟨conn, false, rfl, rfl⟩
      · split
        · exact ⟨conn, false, rfl, rfl⟩
        · exact ⟨⟨conn.txQueue ++ [frame]⟩, true, rfl, rfl⟩

lemma SweepKept.enqueue {s s' : Sweep} {frame : TxFrame} (hs : SweepKept s)
    (h : sweep.next s (.enqueue frame) = some s') : SweepKept s' := by
  obtain ⟨⟨engine⟩, accepted, settled, wire⟩ := s
  obtain ⟨⟨conn, hconn, haccepted⟩, hown, hwire⟩ := hs
  obtain rfl : engine = some conn := hconn
  obtain ⟨conn', taken, hqueued, hqueue⟩ := enqueueFrame_open conn frame
  simp only [sweep, hqueued, Option.some.injEq] at h
  subst h
  refine ⟨⟨conn', rfl, ?_⟩, hown, hwire⟩
  dsimp only at haccepted ⊢
  rw [hqueue, haccepted]
  cases taken with
  | true => exact List.append_assoc _ _ _
  | false => rfl

/-- A writable event over an open socket. -/
lemma writable_eq {s s' : Sweep} {conn : IcmpConnection} {answers : List SendtoAnswer}
    (hconn : s.engine.conn = some conn) (h : sweep.next s (.writable answers) = some s') :
    ∃ run ok, handleSend conn answers true = some (run, ok) ∧
      s' = { s.record (some run) with
        engine := if ok then ⟨some ⟨run.queue⟩⟩ else ⟨none⟩ } := by
  simp only [sweep, IcmpEngine.handleEvent, hconn, Option.bind_eq_bind] at h
  obtain ⟨result, hresult, h⟩ := Option.bind_eq_some_iff.mp h
  simp only [Bool.false_eq_true, if_false, if_true, Bool.false_and] at hresult
  obtain ⟨⟨run, ok⟩, hsend, hresult⟩ := Option.bind_eq_some_iff.mp hresult
  refine ⟨run, ok, hsend, ?_⟩
  cases ok with
  | true =>
      cases hresult
      cases h
      rfl
  | false =>
      cases hresult
      cases h
      rfl

/-- **One step**: a sweep is kept by the answers the loop knows, and by no others. -/
lemma kept_next_iff {s s' : Sweep} {act : SweepAct} (hs : SweepKept s)
    (h : sweep.next s act = some s') : SweepKept s' ↔ act.Known := by
  cases act with
  | enqueue frame => exact iff_of_true (hs.enqueue h) trivial
  | reopen opened =>
      obtain ⟨conn, hconn, -⟩ := hs.queue
      simp [sweep, hconn] at h
  | writable answers =>
      obtain ⟨conn, hconn, haccepted⟩ := hs.queue
      obtain ⟨run, ok, hsend, rfl⟩ := writable_eq hconn h
      obtain ⟨hleaves, hok⟩ := handleSend_eq hsend
      rw [SweepAct.Known, ← hok]
      constructor
      · rintro ⟨⟨conn', hconn', -⟩, -, -⟩
        cases ok with
        | true => rfl
        | false => cases hconn'
      · rintro rfl
        refine ⟨⟨⟨run.queue⟩, rfl, ?_⟩, ?_, ?_⟩
        · change s.accepted = (s.settled ++ run.settled).map _ ++ run.queue
          rw [haccepted, hleaves.queue, List.map_append, List.append_assoc]
        · intro p hp
          rcases List.mem_append.mp hp with hp | hp
          · exact hs.own p hp
          · exact hleaves.own p hp
        · change s.wire ++ run.wire = ((s.settled ++ run.settled).filter _).map _
          rw [hs.wire, hleaves.wire, List.filter_append, List.map_append]

/-- **A sweep is kept in every state of a run just where the loop knew every answer**
that the calls of the run got. -/
theorem sweep_kept_iff {s s' : Sweep} {tr : List (Sweep × SweepAct)} (hinit : sweep.init s)
    (hrun : sweep.Run s tr s') :
    ((∀ p ∈ tr, SweepKept p.1) ∧ SweepKept s') ↔ ∀ p ∈ tr, p.2.Known := by
  have hstep : ∀ t act t', True → SweepKept t → sweep.next t act = some t' →
      (SweepKept t' ↔ act.Known) :=
    fun t act t' _ ht h => kept_next_iff ht h
  exact hrun.always_iff_forall trivial (kept_init hinit) (fun _ _ _ _ _ => trivial) hstep

/-! ### Two sweeps -/

/-- A sweep before anything happened. -/
def atRest : Sweep := ⟨⟨some ⟨[]⟩⟩, [], [], []⟩

/-- A frame to a destination. -/
def probeTo (dstIp : String) : TxFrame := ⟨[8, 0], dstIp⟩

/-- Two frames are queued, and the socket is writable. -/
def sweepOfTwo (answers : List SendtoAnswer) : List SweepAct :=
  [.enqueue (probeTo "10.0.0.255"), .enqueue (probeTo "10.0.0.2"), .writable answers]

/-- A destination that is not reached costs its own frame. -/
theorem sweep_kept_iff_unreachable :
    (∀ p ∈ sweep.trace atRest (sweepOfTwo [.failed .EINTR, .failed .EHOSTUNREACH, .took 2]),
      SweepKept p.1) ∧
      SweepKept ⟨⟨some ⟨[]⟩⟩, [probeTo "10.0.0.255", probeTo "10.0.0.2"],
        [⟨probeTo "10.0.0.255", .answered (.failed .EHOSTUNREACH)⟩,
          ⟨probeTo "10.0.0.2", .answered (.took 2)⟩], [probeTo "10.0.0.2"]⟩ := by
  have hexec : sweep.exec atRest (sweepOfTwo [.failed .EINTR, .failed .EHOSTUNREACH, .took 2]) =
      some ⟨⟨some ⟨[]⟩⟩, [probeTo "10.0.0.255", probeTo "10.0.0.2"],
        [⟨probeTo "10.0.0.255", .answered (.failed .EHOSTUNREACH)⟩,
          ⟨probeTo "10.0.0.2", .answered (.took 2)⟩], [probeTo "10.0.0.2"]⟩ := by decide +kernel
  refine (sweep_kept_iff rfl (Machine.exec_run hexec)).mpr fun p hp => ?_
  have hlabel := Machine.label_of_mem_trace hp
  simp only [sweepOfTwo, List.mem_cons, List.not_mem_nil, or_false] at hlabel
  rcases hlabel with h | h | h <;> rw [h]
  · exact trivial
  · exact trivial
  · change ∀ answer ∈ _, _
    decide

/-- A destination that may not be sent to costs the frame behind it, and the socket. -/
theorem forbidden_lost :
    sweep.exec atRest (sweepOfTwo [.failed .EACCES]) =
        some ⟨⟨none⟩, [probeTo "10.0.0.255", probeTo "10.0.0.2"], [], []⟩ ∧
      ¬SweepKept ⟨⟨none⟩, [probeTo "10.0.0.255", probeTo "10.0.0.2"], [], []⟩ := by
  refine ⟨by decide +kernel, ?_⟩
  rintro ⟨⟨conn, hconn, -⟩, -, -⟩
  cases hconn

end Pretzel.Probed
