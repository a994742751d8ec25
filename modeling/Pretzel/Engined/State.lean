import Pretzel.Config.Store
import Pretzel.Ipc.Protocol

/-!
The state of engined, as far as its commit and bootstrap services reach:
`CommitService.h`, `BootstrapService.h` and `EnginedServiceManager.h`.

* `Task`, `CommitService`: the commit queue.
* `ProcessState`, `BootstrapService`: the five daemons a reload converges, and
  the reload under way.
* `Event`, `Action`: what the two queues of the service manager hold.
* `EnginedState`: both services, the process-wide configuration, the store, the
  queues, and the frames handed to the tx router.
* `History`: what the theorems speak of and the source does not keep.
-/

namespace Pretzel.Engined

open Nlohmann Ipc Config

/-! ### The commit service -/

/-- `CommitService::TaskStatus`. -/
inductive TaskStatus where
  | Pending
  | Running
  | Done
  | Failed
deriving DecidableEq, Repr

/-- Whether a task has come to its end. -/
def TaskStatus.isFinished : TaskStatus → Bool
  | Done | Failed => true
  | Pending | Running => false

/-- `CommitService::Task`. -/
structure Task where
  id : ℕ
  payload : Payload
  status : TaskStatus
deriving DecidableEq

/-- `CommitService`. -/
structure CommitService where
  queue : List Task := []
  nextId : ℕ := 1
deriving DecidableEq

/-! ### The bootstrap service -/

/-- `BootstrapService::State`. -/
inductive BootstrapState where
  | Init
  | WaitHandshake
  | Reconcile
deriving DecidableEq, Repr

/-- `BootstrapService::ProcessState`. -/
structure ProcessState where
  connected : Bool := false
  appliedVersion : ℕ := 0
  generation : ℕ := 0
  blessedGeneration : ℕ := 0
deriving DecidableEq

/-- `m_processMap`, in the order of its entries. -/
abbrev ProcessMap := List (IpcDaemon × ProcessState)

/-- `BootstrapService`; the clock readings are in milliseconds. -/
structure BootstrapService where
  state : BootstrapState := .Init
  lastClientHelloSentAt : ℕ := 0
  lastSyncRequestSentAt : ℕ := 0
  reloadStartedAt : ℕ := 0
  targetVersion : ℕ := 0
  processMap : ProcessMap := []
  isReload : Bool := false
  bootstrapped : Bool := false
deriving DecidableEq

/-! ### Events and actions -/

/-- `BootstrapEventType`, with the payload of a received message. -/
inductive BootstrapEvent where
  | SendClientHello
  | ReceiveServerHello
  | SendSyncRequest
  | ReceiveSyncResponse (payload : Payload)
  | SendRuntimeStart
  | ReceiveRuntimeStart
  | ReloadFailed
deriving DecidableEq

/-- `CommitEventType`, with the payload of a received message. -/
inductive CommitEvent where
  | ReceiveSettingsCommit (payload : Payload)
  | ReloadComplete
  | ReloadFailed
deriving DecidableEq

/-- `EnginedEvent`. -/
inductive Event where
  | bootstrap (e : BootstrapEvent)
  | commit (e : CommitEvent)
deriving DecidableEq

/-- `BootstrapActionType`. `SendRuntimeStart` carries, as history, the number of
reloads that had been scheduled when it was queued. -/
inductive BootstrapAction where
  | SendClientHello
  | SendSyncRequest
  | SendRuntimeStart (reloads : ℕ)
  | SendReloadFailed
deriving DecidableEq

/-- `EnginedAction`. -/
inductive Action where
  | bootstrap (a : BootstrapAction)
  | ApplyCommit
deriving DecidableEq

/-! ### The service manager -/

/-- The parts of a tick: the process has not started its services yet; it polls
and schedules; it drains its queues. -/
inductive Phase where
  | starting
  | polling
  | executing
deriving DecidableEq, Repr

/-- What the source does not keep: the tasks as they came to their end, the
tasks as they left the queue, the responses sent to mgmtd with the task that
ran then, the version the last successful `commitConfig` inserted, and the
number of reloads scheduled. -/
structure History where
  finished : List Task := []
  removed : List Task := []
  answered : List (ℕ × IpcMessage Payload) := []
  insertedVersion : ℕ := 0
  reloads : ℕ := 0
deriving DecidableEq

/-- engined. -/
structure EnginedState where
  commitService : CommitService := {}
  bootstrapService : BootstrapService := {}
  config : ConfigState := {}
  table : Table := []
  preflighted : Bool := false
  eventQueue : List Event := []
  actionQueue : List Action := []
  phase : Phase := .starting
  sent : List (IpcMessage Payload) := []
  history : History := {}
deriving DecidableEq

namespace EnginedState

variable (s : EnginedState)

/-- `EnginedServiceManager::postEvent`. -/
def postEvent (e : Event) : EnginedState := { s with eventQueue := s.eventQueue ++ [e] }

/-- `EnginedServiceManager::postAction`. -/
def postAction (a : Action) : EnginedState := { s with actionQueue := s.actionQueue ++ [a] }

/-- `EnginedTxRouter::handleIpcMessage`. -/
def transmit (m : IpcMessage Payload) : EnginedState := { s with sent := s.sent ++ [m] }

end EnginedState

end Pretzel.Engined
