import Pretzel.Engined.CommitService

/-!
`engined/service/bootstrap/BootstrapService.cpp`: the handshake, the sync polls
and the convergence of the fleet onto the target version.

* `schedule`: the timers of a tick, the reload timeout among them.
* `updateProcessMap`: a sync response read into the process map; a type error
  part way leaves what was read so far.
* `handleBootstrapEvent`, `handleBootstrapAction`: the two handlers.
-/

namespace Pretzel.Engined

open Nlohmann Ipc Config

/-! ### The process map -/

/-- The entries `initProcessMap` makes. -/
def initialProcessMap : ProcessMap := kServiceDaemons.map fun d => (d, {})

/-- `BootstrapService::start` with `initProcessMap`. -/
def startBootstrap (file : Option Json) (io : LoadIO) (s : EnginedState) : EnginedState :=
  let config := cachedRunningConfig file s.table io s.config
  { s with
    config
    bootstrapService :=
      { processMap := initialProcessMap, targetVersion := config.runningConfigVersionCache } }

/-- One entry of a sync response: the daemon and the version and generation it
reports, or nothing when the entry names no daemon. -/
def syncItem (item : Json) : Except JsonError (Option (IpcDaemon × ℕ × ℕ)) :=
  match item.find? "daemon" with
  | some (.str daemonName) => do
      let appliedVersion ← item.valueUnsigned 64 "applied_version" 0
      let generation ← item.valueUnsigned 32 "generation" 0
      return some (IpcDaemon.strToDaemon daemonName, appliedVersion, generation)
  | _ => .ok none

/-- A daemon's report entered in the map; an unknown daemon is ignored. -/
def enterReport (m : ProcessMap) (daemon : IpcDaemon) (appliedVersion generation : ℕ) :
    ProcessMap :=
  m.map fun e =>
    if e.1 = daemon then (e.1, { e.2 with connected := true, appliedVersion, generation }) else e

/-- The loop over the entries: the map it leaves, and the daemons reported
unless an entry threw. -/
def readSyncItems (m : ProcessMap) (reported : List IpcDaemon) :
    List Json → ProcessMap × Option (List IpcDaemon)
  | [] => (m, some reported)
  | item :: rest =>
      match syncItem item with
      | .error _ => (m, none)
      | .ok none => readSyncItems m reported rest
      | .ok (some (daemon, appliedVersion, generation)) =>
          readSyncItems (enterReport m daemon appliedVersion generation) (daemon :: reported) rest

/-- The daemons a response does not report are gone. -/
def dropUnreported (m : ProcessMap) (reported : List IpcDaemon) : ProcessMap :=
  m.map fun e =>
    if e.1 ∈ reported then e else (e.1, { e.2 with connected := false, appliedVersion := 0 })

/-- `BootstrapService::updateProcessMap`. -/
def updateProcessMap (m : ProcessMap) : Payload → ProcessMap × Bool
  | .json root =>
      match root.find? "daemons" with
      | some (.arr items) =>
          match readSyncItems m [] items with
          | (m, some reported) => (dropUnreported m reported, true)
          | (m, none) => (m, false)
      | _ => (m, false)
  | _ => (m, false)

/-- A daemon that has converged on the target. -/
def ProcessState.converged (ps : ProcessState) (targetVersion : ℕ) : Bool :=
  ps.connected && decide (targetVersion ≤ ps.appliedVersion)

/-- `BootstrapService::isAllProcessReady`. -/
def isAllProcessReady (m : ProcessMap) (targetVersion : ℕ) : Bool :=
  !m.isEmpty && m.all fun e => e.2.converged targetVersion

/-- Whether some daemon has a connection no `RuntimeStart` was sent for. -/
def anyUnblessed (m : ProcessMap) : Bool :=
  m.any fun e => e.2.blessedGeneration < e.2.generation

/-- The converged daemons marked as started. -/
def blessConverged (m : ProcessMap) (targetVersion : ℕ) : ProcessMap :=
  m.map fun e =>
    if e.2.converged targetVersion then (e.1, { e.2 with blessedGeneration := e.2.generation })
    else e

/-! ### Messages -/

/-- `buildClientHelloMessage`; the payload is the daemon's bare name. -/
def buildClientHelloMessage : IpcMessage Payload :=
  { header := IpcHeader.build .Engined .Ipcd .ClientHello 0 IpcFlag.Request.toFlag
    payload := .malformed }

/-- `buildSyncRequestMessage`; the payload is the daemon's bare name. -/
def buildSyncRequestMessage : IpcMessage Payload :=
  { header := IpcHeader.build .Engined .Ipcd .SyncRequest 0 IpcFlag.Request.toFlag
    payload := .malformed }

/-- `buildRuntimeStartMessage`. -/
def buildRuntimeStartMessage (targetVersion : ℕ) : IpcMessage Payload :=
  { header := IpcHeader.build .Engined .Broadcast .RuntimeStart 0
      (IpcFlag.orFlag .Request .Broadcast)
    payload := .json (.obj [("daemon", .str IpcDaemon.Engined.daemonToStr),
      ("target_version", .int targetVersion)]) }

/-- `buildSettingsCommitResponse`. -/
def buildSettingsCommitResponse (ok : Bool) (targetVersion : ℕ) : IpcMessage Payload :=
  { header := IpcHeader.build .Engined .Mgmtd .SettingsCommitResponse 0
      (if ok then IpcFlag.Response.toFlag else IpcFlag.orFlag .Response .Error)
    payload := .json (.obj [("ok", .bool ok), ("target_version", .int targetVersion)]) }

/-! ### Timers -/

/-- A clock reading and the configured intervals `schedule` compares it with. -/
structure ScheduleIO where
  now : ℕ
  clientHelloInterval : ℕ
  syncRequestInterval : ℕ
  reloadTimeout : ℕ

/-- `BootstrapService::schedule`. -/
def schedule (io : ScheduleIO) (s : EnginedState) : EnginedState :=
  let b := s.bootstrapService
  match b.state with
  | .Init =>
      { s with bootstrapService :=
          { b with state := .WaitHandshake, lastClientHelloSentAt := io.now } }.postEvent
        (.bootstrap .SendClientHello)
  | .WaitHandshake =>
      if io.clientHelloInterval ≤ io.now - b.lastClientHelloSentAt then
        { s with bootstrapService := { b with lastClientHelloSentAt := io.now } }.postEvent
          (.bootstrap .SendClientHello)
      else s
  | .Reconcile =>
      if b.isReload ∧ io.reloadTimeout ≤ io.now - b.reloadStartedAt then
        { s with bootstrapService := { b with isReload := false } }.postEvent
          (.bootstrap .ReloadFailed)
      else if io.syncRequestInterval ≤ io.now - b.lastSyncRequestSentAt then
        { s with bootstrapService := { b with lastSyncRequestSentAt := io.now } }.postEvent
          (.bootstrap .SendSyncRequest)
      else s

/-- **What the timers do**: nothing, a hello or a sync request, or the timeout of
a reload. -/
theorem schedule_cases (io : ScheduleIO) (s : EnginedState) :
    schedule io s = s ∨
    (∃ state helloAt syncAt e, schedule io s =
        { s with bootstrapService := { s.bootstrapService with
            state, lastClientHelloSentAt := helloAt, lastSyncRequestSentAt := syncAt }
          }.postEvent (.bootstrap e) ∧ (e = .SendClientHello ∨ e = .SendSyncRequest)) ∨
    (s.bootstrapService.isReload = true ∧ schedule io s =
        { s with bootstrapService := { s.bootstrapService with isReload := false }
          }.postEvent (.bootstrap .ReloadFailed)) := by
  simp only [schedule]
  split
  · exact .inr (.inl ⟨_, _, _, _, rfl, .inl rfl⟩)
  · split
    · exact .inr (.inl ⟨_, _, _, _, rfl, .inl rfl⟩)
    · exact .inl rfl
  · split
    · next htimeout => exact .inr (.inr ⟨htimeout.1, rfl⟩)
    · split
      · exact .inr (.inl ⟨_, _, _, _, rfl, .inr rfl⟩)
      · exact .inl rfl

/-! ### The handlers -/

/-- `BootstrapService::onServerHello`. -/
def onServerHello (now : ℕ) (s : EnginedState) : EnginedState :=
  if s.bootstrapService.state = .WaitHandshake then
    { s with bootstrapService :=
        { s.bootstrapService with state := .Reconcile, lastSyncRequestSentAt := now } }.postAction
      (.bootstrap .SendSyncRequest)
  else s

/-- The map a sync response leaves, entered in the state. -/
def readSyncResponse (payload : Payload) (s : EnginedState) : EnginedState :=
  { s with bootstrapService := { s.bootstrapService with
      processMap := (updateProcessMap s.bootstrapService.processMap payload).1 } }

/-- `BootstrapService::onSyncResponse`. -/
def onSyncResponse (payload : Payload) (s : EnginedState) : EnginedState :=
  if s.bootstrapService.state = .Reconcile then
    let ok := (updateProcessMap s.bootstrapService.processMap payload).2
    let s := readSyncResponse payload s
    let b := s.bootstrapService
    if ok ∧ isAllProcessReady b.processMap b.targetVersion ∧ anyUnblessed b.processMap then
      s.postAction (.bootstrap (.SendRuntimeStart s.history.reloads))
    else s
  else s

/-- `BootstrapService::handleEvent`. An event `SendRuntimeStart` is never
created; it would queue the action as the others do. -/
def handleBootstrapEvent (now : ℕ) (s : EnginedState) : BootstrapEvent → EnginedState
  | .SendClientHello => s.postAction (.bootstrap .SendClientHello)
  | .ReceiveServerHello => onServerHello now s
  | .SendSyncRequest => s.postAction (.bootstrap .SendSyncRequest)
  | .ReceiveSyncResponse payload => onSyncResponse payload s
  | .SendRuntimeStart => s.postAction (.bootstrap (.SendRuntimeStart s.history.reloads))
  | .ReceiveRuntimeStart => s
  | .ReloadFailed => s.postAction (.bootstrap .SendReloadFailed)

/-- The broadcast of `SendRuntimeStart` and the marks it leaves. -/
def broadcastRuntimeStart (s : EnginedState) : EnginedState :=
  let b := s.bootstrapService
  { s.transmit (buildRuntimeStartMessage b.targetVersion) with
    bootstrapService := { b with
      processMap := blessConverged b.processMap b.targetVersion
      bootstrapped := true } }

/-- A response sent to mgmtd while the running task waits for its end. -/
def answerCommit (ok : Bool) (s : EnginedState) : EnginedState :=
  let msg := buildSettingsCommitResponse ok s.bootstrapService.targetVersion
  { s.transmit msg with
    history := { s.history with
      answered := s.history.answered ++
        (runningTask s.commitService.queue).toList.map fun t => (t.id, msg) } }

/-- The end of `SendRuntimeStart` during a reload. -/
def completeReload (s : EnginedState) : EnginedState :=
  let s := { s with bootstrapService := { s.bootstrapService with isReload := false } }
  (answerCommit true s).postEvent (.commit .ReloadComplete)

/-- `BootstrapService::handleAction`. -/
def handleBootstrapAction (s : EnginedState) : BootstrapAction → EnginedState
  | .SendClientHello =>
      if s.bootstrapService.state = .WaitHandshake then s.transmit buildClientHelloMessage else s
  | .SendSyncRequest =>
      if s.bootstrapService.state = .Reconcile then s.transmit buildSyncRequestMessage else s
  | .SendRuntimeStart _ =>
      let s := broadcastRuntimeStart s
      if s.bootstrapService.isReload then completeReload s else s
  | .SendReloadFailed => (answerCommit false s).postEvent (.commit .ReloadFailed)

/-! ### What the handlers leave alone -/

/-- The handlers change the bootstrap service, the queues, and the frames sent
with their history, and that is all. -/
structure BootstrapOnly (s s' : EnginedState) : Prop where
  commitService : s'.commitService = s.commitService
  config : s'.config = s.config
  table : s'.table = s.table
  preflighted : s'.preflighted = s.preflighted
  phase : s'.phase = s.phase
  finished : s'.history.finished = s.history.finished
  removed : s'.history.removed = s.history.removed
  insertedVersion : s'.history.insertedVersion = s.history.insertedVersion
  reloads : s'.history.reloads = s.history.reloads

lemma BootstrapOnly.refl (s : EnginedState) : BootstrapOnly s s :=
  ⟨rfl, rfl, rfl, rfl, rfl, rfl, rfl, rfl, rfl⟩

/-- **A bootstrap event touches the bootstrap service and queues actions.** -/
theorem bootstrapOnly_handleBootstrapEvent (now : ℕ) (s : EnginedState) (e : BootstrapEvent) :
    BootstrapOnly s (handleBootstrapEvent now s e) ∧
      (handleBootstrapEvent now s e).sent = s.sent ∧
      (handleBootstrapEvent now s e).eventQueue = s.eventQueue ∧
      (handleBootstrapEvent now s e).history = s.history := by
  cases e with
  | ReceiveServerHello =>
      rw [handleBootstrapEvent, onServerHello]
      split <;> exact ⟨⟨rfl, rfl, rfl, rfl, rfl, rfl, rfl, rfl, rfl⟩, rfl, rfl, rfl⟩
  | ReceiveSyncResponse payload =>
      simp only [handleBootstrapEvent, onSyncResponse]
      split
      · split <;> exact ⟨⟨rfl, rfl, rfl, rfl, rfl, rfl, rfl, rfl, rfl⟩, rfl, rfl, rfl⟩
      · exact ⟨.refl s, rfl, rfl, rfl⟩
  | _ => exact ⟨⟨rfl, rfl, rfl, rfl, rfl, rfl, rfl, rfl, rfl⟩, rfl, rfl, rfl⟩

/-- **A bootstrap action touches the bootstrap service, posts events and sends
frames.** -/
theorem bootstrapOnly_handleBootstrapAction (s : EnginedState) (a : BootstrapAction) :
    BootstrapOnly s (handleBootstrapAction s a) ∧
      (handleBootstrapAction s a).actionQueue = s.actionQueue := by
  cases a with
  | SendReloadFailed => exact ⟨⟨rfl, rfl, rfl, rfl, rfl, rfl, rfl, rfl, rfl⟩, rfl⟩
  | _ =>
      simp only [handleBootstrapAction]
      split <;> exact ⟨⟨rfl, rfl, rfl, rfl, rfl, rfl, rfl, rfl, rfl⟩, rfl⟩

end Pretzel.Engined
