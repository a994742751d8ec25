import Mathlib.Data.List.AList
import Pretzel.Config.LocalUsers
import Pretzel.Ipc.Codec
import Pretzel.Util.PasswordHash

/-!
mgmtd's sign-in (`mgmtd/service/auth/AuthService`): its sessions, its throttles,
and the checks of a password against the table.

* `AuthService`, `Session`, `Throttle`: what it keeps. A clock is read where
  the source calls `now()`, and each reading is an argument of its own.
* `login`: the sign-in, with what it leaves and its result. Where a JSON error
  leaves it, the throttle is gone and there is no session.
* `sessionUser`, `sessionRole`, `mustChangePassword`, `validateSession`,
  `renewSession`, `logout`: what a session answers.
* `SessionStep`: what else happens to a session.
-/

namespace Pretzel.Mgmtd

open Nlohmann Ipc Config Util

/-- `AuthService::Session`. -/
structure Session where
  expiresAt : UInt64 := 0
  username : String := ""
  role : String := ""
  mustChange : Bool := false
deriving DecidableEq

/-- `AuthService::Throttle`. -/
structure Throttle where
  failures : ℕ := 0
  nextAllowedAt : UInt64 := 0
deriving DecidableEq

/-- `AuthService`, as far as requests reach it. -/
structure AuthService where
  sessions : AList fun _ : Bytes => Session := ∅
  throttles : AList fun _ : String => Throttle := ∅

/-- `AuthService::Stored`. -/
structure Stored where
  username : String := ""
  passwordHash : String := ""
  salt : String := ""
  mustChange : Bool := false
  found : Bool := false
deriving DecidableEq

/-- `AuthService::Credential`. -/
structure Credential where
  passwordHash : String := ""
  salt : String := ""
deriving DecidableEq

/-- `AuthService::LoginResult`. -/
structure LoginResult where
  success : Bool := false
  sessionId : Bytes := []
  mustChange : Bool := false
  rehashNeeded : Bool := false
  throttled : Bool := false
deriving DecidableEq

/-- `kRoleAdmin`. -/
def kRoleAdmin : String := "admin"

/-- `kRoleUser`. -/
def kRoleUser : String := "user"

/-- `m_sessionTtlSec`. -/
def sessionTtlSec : UInt64 := 1800

/-- `kFreeAttempts`. -/
def kFreeAttempts : ℕ := 5

/-- `kMaxBackoffSec`. -/
def kMaxBackoffSec : ℕ := 30

/-- `kMaxThrottled`. -/
def kMaxThrottled : ℕ := 64

/-- `AuthService::readAccount`, of a query that answers or not. -/
def readAccount (answered : Bool) (users : LocalUsers) (username : String) : Stored :=
  if answered then
    match LocalUsers.account? users (cStr username) with
    | none => {}
    | some u =>
        { username := u.username, passwordHash := u.passwordHash, salt := u.salt,
          mustChange := u.mustChange, found := true }
  else {}

/-- The loop of `declaredRole`. -/
def declaredRoleIn (username : String) : List Json → Except JsonError String
  | [] => .ok kRoleUser
  | u :: rest => do
      let name ← if u.isObject then u.valueString "username" "" else .ok ""
      if u.isObject && name = username then
        let role ← u.valueString "role" ""
        return if role = kRoleAdmin then kRoleAdmin else kRoleUser
      else declaredRoleIn username rest

/-- `AuthService::declaredRole`, of the user section of the configuration. -/
def declaredRole (users : Json) (username : String) : Except JsonError String := do
  let list ← users.valueJson "list" (.arr [])
  declaredRoleIn username list.elements

/-- One digit of a session id. -/
def hexByte (n : UInt8) : UInt8 := if n < 10 then 48 + n else 87 + n

/-- `AuthService::generateSessionId`, of the bytes the generator gives, if it
does. -/
def generateSessionId (random : Option (Vector UInt8 32)) : Bytes :=
  match random with
  | none => []
  | some buf => buf.toList.flatMap fun c : UInt8 => [hexByte (c >>> 4 &&& 0xF), hexByte (c &&& 0xF)]

/-- `AuthService::makeCredential`, of the random bytes and of whether the digest
is computed. -/
def makeCredential (D : Digests) (kdf : Bool) (random : Option (Vector UInt8 16))
    (newPassword : String) : Credential :=
  let salt := generateSalt random
  if salt = "" then {}
  else
    let passwordHash := hashPassword D kdf newPassword salt
    if passwordHash = "" then {} else { passwordHash, salt }

namespace AuthService

variable (s : AuthService)

/-! ### Throttles -/

/-- `AuthService::throttled`. -/
def throttled (username : String) (now : UInt64) : Bool :=
  match s.throttles.lookup username with
  | none => false
  | some t => now < t.nextAllowedAt

/-- The doublings of the delay. -/
def doubled : ℕ → ℕ → ℕ
  | 0, delay => delay
  | n + 1, delay => if delay < kMaxBackoffSec then doubled n (delay * 2) else delay

/-- `AuthService::noteLoginFailure`. `first` is the place of the entry the map
begins with. -/
def noteLoginFailure (username : String) (first : ℕ) (now : UInt64) : AuthService :=
  let throttles :=
    if s.throttles.keys.length ≥ kMaxThrottled && username ∉ s.throttles then
      match s.throttles.keys[first]? with
      | none => s.throttles
      | some oldest => s.throttles.erase oldest
    else s.throttles
  let t := (throttles.lookup username).getD {}
  let t := { t with failures := t.failures + 1 }
  if t.failures ≤ kFreeAttempts then { s with throttles := throttles.insert username t }
  else
    let delay := min (doubled (t.failures - (kFreeAttempts + 1)) 1) kMaxBackoffSec
    { s with
      throttles := throttles.insert username { t with nextAllowedAt := now + delay.toUInt64 } }

/-! ### Sign-in -/

/-- What one sign-in meets: the clock where it is read, whether the query
answers and the digest is computed, the random bytes, the user section, and the
place of the entry the throttles begin with. -/
structure LoginIO where
  checkedAt : UInt64
  answered : Bool
  kdf : Bool
  failedAt : UInt64
  first : ℕ
  random : Option (Vector UInt8 32)
  signedInAt : UInt64
  declared : Json

/-- `AuthService::login`. -/
def login (D : Digests) (io : LoginIO) (users : LocalUsers) (username password : String) :
    AuthService × Except JsonError LoginResult :=
  if s.throttled username io.checkedAt then (s, .ok { throttled := true })
  else
    let account := readAccount io.answered users username
    if !account.found || account.passwordHash = "" then (s, .ok {})
    else if !verifyPassword D io.kdf password account.salt account.passwordHash then
      (s.noteLoginFailure username io.first io.failedAt, .ok {})
    else
      let s := { s with throttles := s.throttles.erase username }
      let sessionId := generateSessionId io.random
      if sessionId = [] then (s, .ok {})
      else
        match declaredRole io.declared account.username with
        | .error e => (s, .error e)
        | .ok role =>
            let session : Session :=
              { expiresAt := io.signedInAt + sessionTtlSec, username := account.username, role,
                mustChange := account.mustChange }
            ({ s with sessions := s.sessions.insert sessionId session },
              .ok { success := true, sessionId, mustChange := account.mustChange,
                    rehashNeeded := needsRehash account.passwordHash })

/-- `AuthService::createSsoSession`, with the id it returns. -/
def createSsoSession (random : Option (Vector UInt8 32)) (now : UInt64) (declared : Json)
    (username : String) : Except JsonError (AuthService × Bytes) := do
  let sessionId := generateSessionId random
  let role ← declaredRole declared username
  let session : Session := { expiresAt := now + sessionTtlSec, username, role }
  return ({ s with sessions := s.sessions.insert sessionId session }, sessionId)

/-- `AuthService::checkPassword`. -/
def checkPassword (D : Digests) (answered kdf : Bool) (users : LocalUsers)
    (username password : String) : Bool :=
  let account := readAccount answered users username
  if !account.found || account.passwordHash = "" then false
  else verifyPassword D kdf password account.salt account.passwordHash

/-! ### Sessions -/

/-- A session that has not expired. -/
def live (sessionId : Bytes) (now : UInt64) : Option Session :=
  match s.sessions.lookup sessionId with
  | none => none
  | some session => if session.expiresAt < now then none else some session

/-- `AuthService::sessionUser`. -/
def sessionUser (sessionId : Bytes) (now : UInt64) : String :=
  match s.live sessionId now with
  | none => ""
  | some session => session.username

/-- `AuthService::sessionRole`. -/
def sessionRole (sessionId : Bytes) (now : UInt64) : String :=
  match s.live sessionId now with
  | none => ""
  | some session => session.role

/-- `AuthService::sessionIsAdmin`. -/
def sessionIsAdmin (sessionId : Bytes) (now : UInt64) : Bool :=
  s.sessionRole sessionId now = kRoleAdmin

/-- `AuthService::mustChangePassword`. -/
def mustChangePassword (sessionId : Bytes) (now : UInt64) : Bool :=
  match s.live sessionId now with
  | none => false
  | some session => session.mustChange

/-- `AuthService::validateSession`. -/
def validateSession (sessionId : Bytes) (now : UInt64) : AuthService × Bool :=
  if sessionId = [] then (s, false)
  else
    match s.sessions.lookup sessionId with
    | none => (s, false)
    | some session =>
        if session.expiresAt < now then ({ s with sessions := s.sessions.erase sessionId }, false)
        else (s, true)

/-- `AuthService::renewSession`: the clock of the check, and the clock of the new
expiry. -/
def renewSession (sessionId : Bytes) (now renewedAt : UInt64) : AuthService × Bool :=
  let (s, valid) := s.validateSession sessionId now
  if !valid then (s, false)
  else
    let session := (s.sessions.lookup sessionId).getD {}
    ({ s with sessions :=
        s.sessions.insert sessionId { session with expiresAt := renewedAt + sessionTtlSec } }, true)

/-- `AuthService::logout`. -/
def logout (sessionId : Bytes) : AuthService := { s with sessions := s.sessions.erase sessionId }

/-- What happens to the sessions besides a sign-in with a password. -/
inductive SessionStep where
  | sso (random : Option (Vector UInt8 32)) (now : UInt64) (declared : Json) (username : String)
  | validate (sessionId : Bytes) (now : UInt64)
  | renew (sessionId : Bytes) (now renewedAt : UInt64)
  | logout (sessionId : Bytes)

/-- One of these steps. A sign-in whose role cannot be read leaves no session. -/
def sessionStep : SessionStep → AuthService
  | .sso random now declared username =>
      match s.createSsoSession random now declared username with
      | .error _ => s
      | .ok (s', _) => s'
  | .validate sessionId now => (s.validateSession sessionId now).1
  | .renew sessionId now renewedAt => (s.renewSession sessionId now renewedAt).1
  | .logout sessionId => s.logout sessionId

end AuthService

end Pretzel.Mgmtd
