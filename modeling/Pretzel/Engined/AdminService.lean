import Pretzel.Config.LocalUsers
import Pretzel.Ipc.Protocol

/-!
engined's writer of the accounts (`engined/service/admin/AdminService.cpp`).

* `StoreIO`: what the database does with the one statement of a message.
* `updatePassword`, `AdminService.handleEvent`: the handler. A JSON type error
  leaves it.
-/

namespace Pretzel.Engined

open Nlohmann Ipc Config

/-- Whether the database carries the statement out, and the id it would issue. -/
structure StoreIO where
  done : Bool
  minted : String

/-- `AdminService::updatePassword`. -/
def updatePassword (io : StoreIO) (root : Json) (t : LocalUsers) : Except JsonError LocalUsers := do
  let username ← root.valueString "username" ""
  if username = "" then return t
  else
    let remove ← root.valueBool "remove" false
    if remove then
      return if io.done then LocalUsers.remove t (cStr username) else t
    else
      let hash ← root.valueString "password_hash" ""
      let salt ← root.valueString "salt" ""
      if hash = "" || salt = "" then return t
      else
        let oid ← root.valueString "oid" ""
        let mustChange := false
        -- the member is read, and what it says is not
        let _ ← root.valueBool "must_change" false
        let oid := if cStr oid = "" then io.minted else cStr oid
        return if io.done then
          LocalUsers.store t (cStr username) (cStr hash) (cStr salt) mustChange oid
        else t

/-- `AdminService::handleEvent`, of a `LocalUserUpdate`. -/
def AdminService.handleEvent (io : StoreIO) (msg : IpcMessage Payload) (t : LocalUsers) :
    Except JsonError LocalUsers :=
  match msg.payload with
  | .empty | .malformed => .ok t
  | .json root => updatePassword io root t

end Pretzel.Engined
