import Mathlib.Tactic
import Pretzel.Library.Json

/-!
`shared/ipc/IpcProtocol` and `IpcMessage`: the daemons and commands of the IPC
fabric, the header every frame carries, and the message.

* `IpcDaemon`, `IpcCmd`: the wire enumerations. A byte or word with no name of
  its own is a value of the C++ enumeration too, and is kept as `raw`.
* `IpcHeader`, `IpcMessage`: a message over any type of payload. The transport
  carries bytes; the services carry `Payload`, what those bytes say as JSON.
-/

namespace Pretzel.Ipc

/-- `IpcDaemon`: 9 and 10 are retired and have no name. -/
inductive IpcDaemon where
  | Unknown
  | Ipcd
  | Engined
  | Authd
  | Probed
  | Collectord
  | Topologyd
  | Mgmtd
  | Apid
  | Broadcast
  | raw (b : UInt8)
deriving DecidableEq, Repr

namespace IpcDaemon

/-- The byte of a daemon on the wire. -/
def toByte : IpcDaemon → UInt8
  | Unknown => 0
  | Ipcd => 1
  | Engined => 2
  | Authd => 3
  | Probed => 4
  | Collectord => 5
  | Topologyd => 6
  | Mgmtd => 7
  | Apid => 8
  | Broadcast => 255
  | raw b => b

/-- The daemon a byte of the wire stands for. -/
def ofByte (b : UInt8) : IpcDaemon :=
  if b = 0 then Unknown
  else if b = 1 then Ipcd
  else if b = 2 then Engined
  else if b = 3 then Authd
  else if b = 4 then Probed
  else if b = 5 then Collectord
  else if b = 6 then Topologyd
  else if b = 7 then Mgmtd
  else if b = 8 then Apid
  else if b = 255 then Broadcast
  else raw b

/-- `IpcProtocol::daemonToStr`. -/
def daemonToStr : IpcDaemon → String
  | Ipcd => "ipcd"
  | Engined => "engined"
  | Authd => "authd"
  | Probed => "probed"
  | Collectord => "collectord"
  | Topologyd => "topologyd"
  | Mgmtd => "mgmtd"
  | Apid => "apid"
  | Broadcast => "broadcast"
  | Unknown | raw _ => "unknown"

/-- `IpcProtocol::strToDaemon`. -/
def strToDaemon (s : String) : IpcDaemon :=
  if s = "ipcd" then Ipcd
  else if s = "engined" then Engined
  else if s = "authd" then Authd
  else if s = "probed" then Probed
  else if s = "collectord" then Collectord
  else if s = "topologyd" then Topologyd
  else if s = "mgmtd" then Mgmtd
  else if s = "apid" then Apid
  else if s = "broadcast" then Broadcast
  else Unknown

end IpcDaemon

/-- `IpcCmd`, by the names the modelled services use; every other word is
`raw`. -/
inductive IpcCmd where
  | Unknown
  | ClientHello
  | ServerHello
  | SyncRequest
  | SyncResponse
  | RuntimeReady
  | RuntimeStart
  | ConfigApply
  | SettingsCommitRequest
  | SettingsCommitResponse
  | SettingsCommitStatus
  | raw (w : UInt16)
deriving DecidableEq, Repr

namespace IpcCmd

/-- The word of a command on the wire. -/
def toWord : IpcCmd → UInt16
  | Unknown => 0
  | ClientHello => 1
  | ServerHello => 2
  | SyncRequest => 3
  | SyncResponse => 4
  | RuntimeReady => 5
  | RuntimeStart => 6
  | ConfigApply => 107
  | SettingsCommitResponse => 109
  | SettingsCommitRequest => 110
  | SettingsCommitStatus => 111
  | raw w => w

/-- The command a word of the wire stands for. -/
def ofWord (w : UInt16) : IpcCmd :=
  if w = 0 then Unknown
  else if w = 1 then ClientHello
  else if w = 2 then ServerHello
  else if w = 3 then SyncRequest
  else if w = 4 then SyncResponse
  else if w = 5 then RuntimeReady
  else if w = 6 then RuntimeStart
  else if w = 107 then ConfigApply
  else if w = 109 then SettingsCommitResponse
  else if w = 110 then SettingsCommitRequest
  else if w = 111 then SettingsCommitStatus
  else raw w

end IpcCmd

/-- `IpcFlag`. -/
inductive IpcFlag where
  | None
  | Request
  | Response
  | Error
  | Broadcast
deriving DecidableEq, Repr

namespace IpcFlag

/-- `IpcProtocol::toFlag`. -/
def toFlag : IpcFlag → UInt8
  | None => 0x00
  | Request => 0x01
  | Response => 0x02
  | Error => 0x04
  | Broadcast => 0x08

/-- `IpcProtocol::orFlag`. -/
def orFlag (lhs rhs : IpcFlag) : UInt8 := lhs.toFlag ||| rhs.toFlag

/-- `IpcProtocol::hasFlag`. -/
def hasFlag (flags : UInt8) (flag : IpcFlag) : Bool := flags &&& flag.toFlag != 0

end IpcFlag

/-- `IPC_PROTOCOL_VERSION`. -/
def IPC_PROTOCOL_VERSION : UInt8 := 2

/-- `IPC_MAX_FRAME_SIZE`. -/
def IPC_MAX_FRAME_SIZE : ℕ := 1024 * 1024

/-- `IpcHeader`. -/
structure IpcHeader where
  version : UInt8 := IPC_PROTOCOL_VERSION
  src : IpcDaemon := .Unknown
  dst : IpcDaemon := .Unknown
  flags : UInt8 := 0
  cmd : IpcCmd := .Unknown
  seqNo : UInt32 := 0
deriving DecidableEq, Repr

/-- `IpcHeader::build`. -/
def IpcHeader.build (src dst : IpcDaemon) (cmd : IpcCmd) (seqNo : UInt32) (flags : UInt8) :
    IpcHeader :=
  { version := IPC_PROTOCOL_VERSION, src, dst, cmd, seqNo, flags }

/-- `IpcMessage`: a header and a payload. -/
structure IpcMessage (π : Type) where
  header : IpcHeader
  payload : π
deriving DecidableEq, Repr

/-- What the bytes of a payload say to a service that reads JSON: no bytes at
all, bytes `json::parse` refuses, or a document. -/
inductive Payload where
  | empty
  | malformed
  | json (doc : Nlohmann.Json)
deriving DecidableEq, Repr

end Pretzel.Ipc
