import Pretzel.Engined.State

/-!
`engined/service/commit/CommitService.cpp`: the commit queue and the
application of a commit.

* `trim`: the loop that shortens the queue when a reload ends.
* `stageChange`, `stageChanges`: the changes of a payload merged into the
  running configuration, entry by entry.
* `handleCommitEvent`, `applyCommit`: the two handlers. A JSON type error that
  leaves `applyCommit` ends the process, and is an error of the function.
-/

namespace Pretzel.Engined

open Nlohmann Ipc Config

/-- `CommitService::statusStr`. -/
def statusStr : TaskStatus → String
  | .Pending => "pending"
  | .Running => "running"
  | .Done => "done"
  | .Failed => "failed"

/-- The snapshot `sendQueueStatus` serialises. -/
def queueSnapshot (queue : List Task) : Json :=
  .arr (queue.map fun t => .obj [("id", .int t.id), ("status", .str (statusStr t.status))])

/-- `CommitService::sendQueueStatus`. -/
def sendQueueStatus (s : EnginedState) : EnginedState :=
  s.transmit
    { header := { src := .Engined, dst := .Mgmtd, cmd := .SettingsCommitStatus,
                  flags := IpcFlag.Response.toFlag }
      payload := .json (queueSnapshot s.commitService.queue) }

/-- The first Pending task made Running, if there is one. -/
def runFirstPending : List Task → Option (List Task)
  | [] => none
  | t :: q =>
      if t.status = .Pending then some ({ t with status := .Running } :: q)
      else (runFirstPending q).map (t :: ·)

/-- `CommitService::startNext`. -/
def startNext (s : EnginedState) : EnginedState :=
  match runFirstPending s.commitService.queue with
  | none => s
  | some queue =>
      (sendQueueStatus { s with commitService := { s.commitService with queue } }).postAction
        .ApplyCommit

/-- The first Running task, which the loops of the handlers look for. -/
def runningTask (queue : List Task) : Option Task := queue.find? fun t => t.status = .Running

/-- The first Running task given a new status. -/
def setRunning (status : TaskStatus) : List Task → List Task
  | [] => []
  | t :: q => if t.status = .Running then { t with status } :: q else t :: setRunning status q

/-- `while (size > 5 || front is Done or Failed) pop_front()`: the tasks popped,
in order, and the queue left. -/
def trim : List Task → List Task × List Task
  | [] => ([], [])
  | t :: q =>
      if 5 < (t :: q).length ∨ t.status.isFinished then (t :: (trim q).1, (trim q).2)
      else ([], t :: q)

/-- The first Running task brought to its end. -/
def finishRunning (status : TaskStatus) (s : EnginedState) : EnginedState :=
  { s with
    commitService := { s.commitService with queue := setRunning status s.commitService.queue }
    history := { s.history with
      finished := s.history.finished ++
        (runningTask s.commitService.queue).toList.map fun t => { t with status } } }

/-- The trimming loop, on the queue of the service. -/
def trimQueue (s : EnginedState) : EnginedState :=
  { s with
    commitService := { s.commitService with queue := (trim s.commitService.queue).2 }
    history := { s.history with
      removed := s.history.removed ++ (trim s.commitService.queue).1 } }

/-- The shared body of `ReloadComplete` and `ReloadFailed`. -/
def endReload (status : TaskStatus) (s : EnginedState) : EnginedState :=
  startNext (sendQueueStatus (trimQueue (finishRunning status s)))

/-- A new task at the back of the queue. -/
def enqueueTask (payload : Payload) (s : EnginedState) : EnginedState :=
  { s with commitService :=
      { queue := s.commitService.queue ++ [⟨s.commitService.nextId, payload, .Pending⟩]
        nextId := s.commitService.nextId + 1 } }

/-- `CommitService::handleEvent`. -/
def handleCommitEvent (s : EnginedState) : CommitEvent → EnginedState
  | .ReceiveSettingsCommit .empty => s
  | .ReceiveSettingsCommit payload =>
      let s := sendQueueStatus (enqueueTask payload s)
      if s.commitService.queue.any fun t => t.status = .Running then s else startNext s
  | .ReloadComplete => endReload .Done s
  | .ReloadFailed => endReload .Failed s

lemma handleCommitEvent_receive {payload : Payload} (hne : payload ≠ .empty) (s : EnginedState) :
    handleCommitEvent s (.ReceiveSettingsCommit payload)
      = if (sendQueueStatus (enqueueTask payload s)).commitService.queue.any
            fun t => t.status = .Running
        then sendQueueStatus (enqueueTask payload s)
        else startNext (sendQueueStatus (enqueueTask payload s)) := by
  cases payload with
  | empty => exact absurd rfl hne
  | malformed => rfl
  | json doc => rfl

/-! ### Applying a commit -/

/-- One entry of the change loop: the root it leaves, and whether it was
staged. -/
def stageChange (root change : Json) : Except JsonError (Json × Bool) := do
  let scopeName ← change.valueString "scope" ""
  let domain ← change.valueString "domain" ""
  match change.find? "values" with
  | none => return (root, false)
  | some values =>
      if scopeName = "" ∨ domain = "" ∨ values.isObject = false then return (root, false)
      else
        let scope := root.memberOrNull scopeName
        let scope ← scope.set domain ((scope.memberOrNull domain).mergePatch values)
        let root ← root.set scopeName scope
        return (root, true)

/-- The change loop: the root, and the counts of entries applied and failed. -/
def stageChanges (root : Json) : List Json → Except JsonError (Json × ℕ × ℕ)
  | [] => .ok (root, 0, 0)
  | change :: rest => do
      let (root, staged) ← stageChange root change
      let (root, applied, failed) ← stageChanges root rest
      return (root, applied + staged.toNat, failed + (!staged).toNat)

/-- An early failure of `ApplyCommit`. -/
def failTask (s : EnginedState) : EnginedState :=
  startNext (sendQueueStatus (finishRunning .Failed s))

/-- `kServiceDaemons`. -/
def kServiceDaemons : List IpcDaemon := [.Authd, .Probed, .Collectord, .Topologyd, .Apid]

/-- The `ConfigApply` frame to one daemon. -/
def configApply (dst : IpcDaemon) : IpcMessage Payload :=
  { header := { src := .Engined, dst, cmd := .ConfigApply, flags := IpcFlag.Request.toFlag }
    payload := .empty }

/-- What the calls of one dispatch meet outside the process: the clock, the
database during the fill of the cache, the commit, and the fill after it. -/
structure DispatchIO where
  now : ℕ
  load : LoadIO
  commit : CommitIO
  reload : LoadIO

/-- `BootstrapService::scheduleServiceReload`. -/
def scheduleServiceReload (file : Option Json) (io : DispatchIO) (s : EnginedState) :
    EnginedState :=
  let config := cachedRunningConfig file s.table io.reload s.config
  { s with
    config
    bootstrapService := { s.bootstrapService with
      targetVersion := config.runningConfigVersionCache
      isReload := true
      reloadStartedAt := io.now }
    history := { s.history with reloads := s.history.reloads + 1 } }

/-- What `ApplyCommit` does once `commitConfig` has succeeded. -/
def announceCommit (file : Option Json) (io : DispatchIO) (s : EnginedState) : EnginedState :=
  let s := { s with sent := s.sent ++ kServiceDaemons.map configApply }
  scheduleServiceReload file io { s with config := invalidateConfigCache s.config }

/-- `CommitService::handleAction`, case `ApplyCommit`. -/
def applyCommit (file : Option Json) (io : DispatchIO) (s : EnginedState) :
    Except JsonError EnginedState :=
  match runningTask s.commitService.queue with
  | none => .ok s
  | some running =>
      match running.payload with
      | .json (.arr changes) => do
          let config := cachedRunningConfig file s.table io.load s.config
          let (root, applied, _) ← stageChanges config.runningConfigCache changes
          if applied = 0 then return failTask { s with config }
          else
            match commitConfig s.table io.commit config root with
            | (table, config, false) => return failTask { s with table, config }
            | (table, config, true) =>
                return announceCommit file io
                  { s with
                    table
                    config
                    history := { s.history with insertedVersion := maxVersion table } }
      | _ => .ok (failTask s)

/-! ### What the queue operations leave alone -/

/-- The operations on the queue change the commit service and the history of its
tasks; they append `ApplyCommit` actions and status messages, and that is all. -/
structure QueueOnly (s s' : EnginedState) : Prop where
  bootstrapService : s'.bootstrapService = s.bootstrapService
  config : s'.config = s.config
  table : s'.table = s.table
  preflighted : s'.preflighted = s.preflighted
  eventQueue : s'.eventQueue = s.eventQueue
  actionQueue : ∃ n, s'.actionQueue = s.actionQueue ++ List.replicate n .ApplyCommit
  phase : s'.phase = s.phase
  sent : ∃ ms : List (IpcMessage Payload), s'.sent = s.sent ++ ms ∧
    ∀ m ∈ ms, m.header.cmd = .SettingsCommitStatus
  answered : s'.history.answered = s.history.answered
  insertedVersion : s'.history.insertedVersion = s.history.insertedVersion
  reloads : s'.history.reloads = s.history.reloads

namespace QueueOnly

variable {s s' s'' : EnginedState}

lemma refl (s : EnginedState) : QueueOnly s s :=
  ⟨rfl, rfl, rfl, rfl, rfl, ⟨0, by simp⟩, rfl, ⟨[], by simp⟩, rfl, rfl, rfl⟩

lemma trans (h : QueueOnly s s') (h' : QueueOnly s' s'') : QueueOnly s s'' := by
  obtain ⟨n, hn⟩ := h.actionQueue
  obtain ⟨n', hn'⟩ := h'.actionQueue
  obtain ⟨ms, hms, hcmd⟩ := h.sent
  obtain ⟨ms', hms', hcmd'⟩ := h'.sent
  refine ⟨h'.bootstrapService.trans h.bootstrapService, h'.config.trans h.config,
    h'.table.trans h.table, h'.preflighted.trans h.preflighted,
    h'.eventQueue.trans h.eventQueue, ⟨n + n', ?_⟩, h'.phase.trans h.phase, ⟨ms ++ ms', ?_, ?_⟩,
    h'.answered.trans h.answered, h'.insertedVersion.trans h.insertedVersion,
    h'.reloads.trans h.reloads⟩
  · rw [hn', hn, List.append_assoc, List.replicate_add]
  · rw [hms', hms, List.append_assoc]
  · intro m hm
    rcases List.mem_append.mp hm with hm | hm
    · exact hcmd m hm
    · exact hcmd' m hm

end QueueOnly

lemma queueOnly_sendQueueStatus (s : EnginedState) : QueueOnly s (sendQueueStatus s) :=
  ⟨rfl, rfl, rfl, rfl, rfl, ⟨0, by simp [sendQueueStatus, EnginedState.transmit]⟩, rfl,
    ⟨[_], rfl, by simp⟩, rfl, rfl, rfl⟩

lemma queueOnly_finishRunning (status : TaskStatus) (s : EnginedState) :
    QueueOnly s (finishRunning status s) :=
  ⟨rfl, rfl, rfl, rfl, rfl, ⟨0, by simp [finishRunning]⟩, rfl, ⟨[], by simp [finishRunning]⟩, rfl,
    rfl, rfl⟩

lemma queueOnly_trimQueue (s : EnginedState) : QueueOnly s (trimQueue s) :=
  ⟨rfl, rfl, rfl, rfl, rfl, ⟨0, by simp [trimQueue]⟩, rfl, ⟨[], by simp [trimQueue]⟩, rfl, rfl, rfl⟩

lemma queueOnly_enqueueTask (payload : Payload) (s : EnginedState) :
    QueueOnly s (enqueueTask payload s) :=
  ⟨rfl, rfl, rfl, rfl, rfl, ⟨0, by simp [enqueueTask]⟩, rfl, ⟨[], by simp [enqueueTask]⟩, rfl, rfl,
    rfl⟩

lemma queueOnly_startNext (s : EnginedState) : QueueOnly s (startNext s) := by
  rw [startNext]
  split
  · exact .refl s
  · exact ⟨rfl, rfl, rfl, rfl, rfl, ⟨1, rfl⟩, rfl, ⟨[_], rfl, by simp⟩, rfl, rfl, rfl⟩

lemma queueOnly_failTask (s : EnginedState) : QueueOnly s (failTask s) :=
  ((queueOnly_finishRunning _ s).trans (queueOnly_sendQueueStatus _)).trans (queueOnly_startNext _)

lemma queueOnly_endReload (status : TaskStatus) (s : EnginedState) :
    QueueOnly s (endReload status s) :=
  (((queueOnly_finishRunning _ s).trans (queueOnly_trimQueue _)).trans
    (queueOnly_sendQueueStatus _)).trans (queueOnly_startNext _)

/-- **A commit event touches the queue alone.** -/
theorem queueOnly_handleCommitEvent (s : EnginedState) (e : CommitEvent) :
    QueueOnly s (handleCommitEvent s e) := by
  cases e with
  | ReloadComplete => exact queueOnly_endReload .Done s
  | ReloadFailed => exact queueOnly_endReload .Failed s
  | ReceiveSettingsCommit payload =>
      have hreceive : QueueOnly s (sendQueueStatus (enqueueTask payload s)) :=
        (queueOnly_enqueueTask payload s).trans (queueOnly_sendQueueStatus _)
      by_cases hne : payload = .empty
      · subst hne
        exact .refl s
      · rw [handleCommitEvent_receive hne]
        split
        · exact hreceive
        · exact hreceive.trans (queueOnly_startNext _)

end Pretzel.Engined
