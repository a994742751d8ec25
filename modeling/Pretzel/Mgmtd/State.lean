import Pretzel.Config.Store
import Pretzel.Ipc.Protocol

/-!
What mgmtd keeps of a commit: its copy of the running configuration and the
status of the reload the browser polls (`MgmtdServiceManager.h`), with the
handler of engined's answer (`mgmtd/service/bootstrap/BootstrapService.cpp`).

* `startReload`, `completeReload`, `failReload`: the three moves of the status.
* `onSettingsCommitResponse`: the flag of the header, unless the payload says
  otherwise.
-/

namespace Pretzel.Mgmtd

open Nlohmann Ipc Config

/-- `MgmtdServiceManager::ReloadStatus`. -/
inductive ReloadStatus where
  | Idle
  | Reloading
  | Complete
  | Failed
deriving DecidableEq, Repr

/-- mgmtd, as far as a commit reaches: it is not the seeding process. -/
structure MgmtdState where
  config : ConfigState := {}
  reloadStatus : ReloadStatus := .Idle
deriving DecidableEq

namespace MgmtdState

variable (s : MgmtdState)

/-- `MgmtdServiceManager::startReload`. -/
def startReload : MgmtdState := { s with reloadStatus := .Reloading }

/-- `MgmtdServiceManager::completeReload`. -/
def completeReload : MgmtdState :=
  { s with config := invalidateConfigCache s.config, reloadStatus := .Complete }

/-- `MgmtdServiceManager::failReload`. -/
def failReload : MgmtdState :=
  { s with config := invalidateConfigCache s.config, reloadStatus := .Failed }

end MgmtdState

/-- Whether a response says that the reload succeeded. -/
def responseOk (msg : IpcMessage Payload) : Bool :=
  let ok := !IpcFlag.hasFlag msg.header.flags .Error
  match msg.payload with
  | .json body =>
      match body.find? "ok" with
      | some (.bool b) => b
      | _ => ok
  | _ => ok

/-- `BootstrapService::onSettingsCommitResponse`. -/
def onSettingsCommitResponse (msg : IpcMessage Payload) (s : MgmtdState) : MgmtdState :=
  if responseOk msg then s.completeReload else s.failReload

end Pretzel.Mgmtd
