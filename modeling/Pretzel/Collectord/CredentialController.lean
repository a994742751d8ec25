import Mathlib.Data.List.AList
import Pretzel.Collectord.ApiUtil

/-!
`collectord/service/api/controller/CredentialController.cpp`: the tests that
issue a key, the store of an account, and the look at a certificate.

* `KeyCache`: the issued keys and the accounts `ApiService` holds opened.
* `runKeygenTest`, `finishKeygen`, `onKeygen`, `onSaseResponse`: a key is issued,
  by the device or by the auth server, or one already issued is taken.
* `storeCredential`, `runTlsProbe`, `onTlsProbe`.
-/

namespace Pretzel.Collectord

open Nlohmann Texts Util Staged

/-! ### The key cache -/

/-- `IssuedCredential`. -/
structure IssuedCredential where
  id : Bytes
  pw : Bytes
deriving DecidableEq

/-- `m_issuedKeys` and `m_credentials` of `ApiService`. -/
structure KeyCache where
  issuedKeys : AList fun _ : String => Bytes := ∅
  credentials : AList fun _ : String => IssuedCredential := ∅

namespace KeyCache

variable (c : KeyCache)

/-- `issuedKey`. -/
def issuedKey (authProfileOid : String) : Bytes := (c.issuedKeys.lookup authProfileOid).getD []

/-- `credentialFor`. -/
def credentialFor (oid : String) : Option IssuedCredential := c.credentials.lookup oid

/-- `rememberIssuedKey`. -/
def rememberIssuedKey (authProfileOid : String) (key : Bytes) : KeyCache :=
  { c with issuedKeys := c.issuedKeys.insert authProfileOid key }

/-- `rememberCredential`. -/
def rememberCredential (oid : String) (id pw : Bytes) : KeyCache :=
  { c with credentials := c.credentials.insert oid ⟨id, pw⟩ }

end KeyCache

/-! ### A key is issued -/

/-- A read in front of a stage. -/
def ofRead {α : Type} (x : Except JsonError α) (f : α → Step) : Step :=
  .ofExcept (x.mapError Fault.read) f

@[simp]
lemma ofRead_ok {α : Type} (a : α) (f : α → Step) : ofRead (.ok a) f = f a := rfl

@[simp]
lemma ofRead_error {α : Type} (e : JsonError) (f : α → Step) :
    ofRead (.error e) f = .throws (.read e) := rfl

/-- The `catch` of a test: the start has failed. -/
def startFailed (H : Host) (seqNo : UInt32) (what : String) (e : Fault) : Step :=
  sendTestResponse seqNo (failure (what ++ H.what e))

/-- The report of `finishKeygen`: the key is handed back to the operator. -/
def keygenReport (ctx : ConnectorTest) (key : Bytes) : Draft :=
  let out := ctx.out.put "ok" (.bool (key ≠ []))
  if key = [] then out
  else
    let out := (out.put "message" (.str "API key generated")).put "key" (.text key)
    if ctx.expiresAt = "" then out else out.put "expires_at" (.str ctx.expiresAt)

/-- `finishKeygen`. -/
def finishKeygen (H : Host) (m : Moment) (ctx : ConnectorTest) (key : Bytes) : Step :=
  let out := keygenReport ctx key
  let answer := sendTestResponse ctx.seqNo (out.put "stored" (.bool (available H.key)))
  if ctx.keyOid = "" then answer
  else
    sendApiCredentialState H m ctx.keyOid ctx.target.username ctx.target.password key ctx.expiresAt
      (key ≠ []) (out.textAt "message")
      (if key = [] then answer else .emit (.rememberIssuedKey ctx.keyOid key) answer)

/-- `onKeygen`. -/
def onKeygen (H : Host) (m : Moment) (ctx : ConnectorTest) (res : ClientResponse) : Step :=
  let (key, out) := readKeygenKey res (ctx.target.fingerprint ≠ "") ctx.out
  finishKeygen H m { ctx with out } key

/-- The JSON object a body is, if it is one. -/
def bodyObject (H : Host) (res : ClientResponse) : Option Json :=
  (H.parse res.body).filter Json.isObject

/-- What the auth server says against a request for a token. -/
def saseRefusal (H : Host) (res : ClientResponse) : Except JsonError String := do
  let detail := "auth server returned HTTP " ++ toString res.status
  match bodyObject H res with
  | none => return detail
  | some body =>
      let error ← body.valueString "error" ""
      let e ← body.valueString "error_description" error
      return if e = "" then detail else e

/-- The token in the answer of the auth server. -/
def accessToken (H : Host) (res : ClientResponse) : Except JsonError String :=
  match bodyObject H res with
  | none => .ok ""
  | some body => body.valueString "access_token" ""

/-- The token in the auth server's answer. -/
def serverToken (H : Host) (res : ClientResponse) : Option Bytes :=
  if res.tlsOk && res.status = 200 then
    match accessToken H res with
    | .ok token => if token = "" then none else some (textBytes token)
    | .error _ => none
  else none

/-- The seconds a token lives. -/
def expiresIn (H : Host) (res : ClientResponse) : Except JsonError ℤ :=
  match bodyObject H res with
  | none => .ok 0
  | some body => body.valueInt64 "expires_in" 0

/-- `onSaseResponse`. -/
def onSaseResponse (H : Host) (m : Moment) (ctx : ConnectorTest) (res : ClientResponse) : Step :=
  let finish (out : Draft) (expiresAt : String) (key : Bytes) : Step :=
    finishKeygen H m { ctx with out, expiresAt } key
  if !res.tlsOk then
    let detail := orElse res.error "could not reach the SASE auth server"
    finish ((putStep "tls" false detail ctx.out).put "message" (.text detail)) ctx.expiresAt []
  else
    let out := putStep "tls" true (textBytes "connected to the SASE auth server") ctx.out
    if res.status ≠ 200 then
      ofRead (saseRefusal H res) fun detail =>
        finish ((putStep "auth" false (textBytes detail) out).put "message" (.str detail))
          ctx.expiresAt []
    else
      ofRead (accessToken H res) fun token =>
        if token = "" then
          finish ((putStep "auth" false (textBytes "no access_token in the auth server response")
            out).put "message" (.str "token issuance failed")) ctx.expiresAt []
        else
          ofRead (expiresIn H res) fun seconds =>
            finish (putStep "auth" true (textBytes "access token issued") out)
              (if 0 < seconds then m.expiry seconds else ctx.expiresAt) (textBytes token)

/-- The request of `runSaseToken`. -/
def saseTokenRequest (t : TestTarget) : ClientRequest :=
  buildOAuthTokenRequest (splitHostPath t.keygenEndpoint kSaseAuthHost kSaseTokenPath) t.username
    t.password t.host

/-- What a keygen test comes to at its start. -/
inductive KeygenPlan where
  | reject (message : String)
  | token (ctx : ConnectorTest)
  | stored (ctx : ConnectorTest) (key : Bytes)
  | keygen (ctx : ConnectorTest)

/-- The account of a target: the one stored under the oid stands in for a password
that was not typed. -/
def withStored (cache : KeyCache) (keyOid : String) (t : TestTarget) : TestTarget :=
  if t.password = [] then
    match cache.credentialFor keyOid with
    | none => t
    | some cred =>
        { t with username := if t.username = [] then cred.id else t.username, password := cred.pw }
  else t

/-- The reads and the checks of `runKeygenTest`. -/
def keygenPlan (cache : KeyCache) (seqNo : UInt32) (input : Json) :
    Except JsonError KeygenPlan := do
  let keyOid ← input.valueString "oid" ""
  let target := withStored cache keyOid (← parseTestTarget input)
  let ctx : ConnectorTest :=
    { seqNo, target, keyOid, input, out := .object [("steps", .object [])] }
  if target.host = "" then return .reject "target is required"
  else if target.deviceType = "sase" then
    if target.username = [] ∨ target.password = [] then
      return .reject "the SASE client id and client secret are required to issue a token"
    else return .token ctx
  else
    match cache.issuedKey target.authProfileOid with
    | [] =>
        if target.username = [] ∨ target.password = [] then
          return .reject ("no key has been issued for this API key yet, and its password is not " ++
            "available — enter the password on the API Key page and run the key generation once")
        else return .keygen ctx
    | key =>
        let out := (putStep "auth" true
          (textBytes "using the key already issued for this profile") ctx.out).put
            "used_stored_key" (.bool true)
        return .stored { ctx with out } key

/-- The rest of it. -/
def keygenStart (H : Host) (m : Moment) (seqNo : UInt32) : KeygenPlan → Step
  | .reject message => rejectTest seqNo message
  | .token ctx => requestAsync (saseTokenRequest ctx.target) (.saseToken ctx)
  | .stored ctx key => finishKeygen H m ctx key
  | .keygen ctx => requestAsync (buildKeygenRequest ctx.target) (.keygen ctx)

/-- `CredentialController::runKeygenTest`. -/
def runKeygenTest (H : Host) (m : Moment) (cache : KeyCache) (seqNo : UInt32) (input : Json) :
    Step :=
  .guard (startFailed H seqNo "test could not be started: ")
    (ofRead (keygenPlan cache seqNo input) (keygenStart H m seqNo))

/-! ### An account is stored -/

/-- What `storeCredential` reads: the oid, the user name and the password. -/
def readCredential (input : Json) : Except JsonError (String × String × String) := do
  let oid ← input.valueString "oid" ""
  let secrets ← input.valueJson "secrets" (.obj [])
  if secrets.isObject then
    let username ← secrets.valueString "username" ""
    let password ← secrets.valueString "password" ""
    return (oid, username, password)
  else return (oid, "", "")

/-- A report of success, with no steps. -/
def success (message : String) : Draft :=
  .object [("ok", .bool true), ("steps", .object []), ("message", .str message)]

/-- `CredentialController::storeCredential`. -/
def storeCredential (H : Host) (m : Moment) (seqNo : UInt32) (input : Json) : Step :=
  match readCredential input with
  | .error e =>
      sendTestResponse seqNo (failure ("the credential could not be saved: " ++ H.what (.read e)))
  | .ok (oid, username, password) =>
      if oid = "" ∨ password = "" then
        sendTestResponse seqNo (failure "the API Key and its password are both required")
      else
        match credentialStore H m oid (textBytes username) (textBytes password) with
        | none =>
            sendTestResponse seqNo
              (failure "the credential store is unavailable — the password was not saved")
        | some state =>
            match state.dump with
            | none =>
                sendTestResponse seqNo
                  (failure ("the credential could not be saved: " ++ H.what .notUtf8))
            | some payload =>
                .emit (.credentialState payload)
                  (.emit (.rememberCredential oid (textBytes username) (textBytes password))
                    (sendTestResponse seqNo (success "credential saved")))

/-! ### A look at a certificate -/

/-- A test as it starts. -/
def newTest (seqNo : UInt32) (input : Json) (target : TestTarget) : ConnectorTest :=
  { seqNo, target, input, out := .object [("steps", .object [])] }

/-- The rest of `runTlsProbe`, once the target is read. -/
def probeStart (seqNo : UInt32) (input : Json) (target : TestTarget) : Step :=
  if target.host = "" then rejectTest seqNo "target is required"
  else
    requestAsync { baseRequest target with method := "GET", target := "/" }
      (.tlsProbe (newTest seqNo input target))

/-- `CredentialController::runTlsProbe`. -/
def runTlsProbe (H : Host) (seqNo : UInt32) (input : Json) : Step :=
  .guard (startFailed H seqNo "probe could not be started: ")
    (ofRead (parseTestTarget input) (probeStart seqNo input))

/-- The callback of `runTlsProbe`. -/
def onTlsProbe (ctx : ConnectorTest) (res : ClientResponse) : Step :=
  let hadPin : Bool := ctx.target.fingerprint ≠ ""
  let (trusted, out) := recordTlsStep res hadPin ctx.out
  let haveFingerprint : Bool := out.textAt "fingerprint" ≠ []
  let out := out.put "ok" (.bool haveFingerprint)
  let out :=
    if trusted then out.put "message" (.str "certificate already trusted")
    else if haveFingerprint && !hadPin then
      out.put "message" (.str "certificate retrieved — confirm the fingerprint to trust it")
    else out
  sendTestResponse ctx.seqNo out

/-! ### The ends of the stages -/

lemma deviceKey_ne_nil {res : ClientResponse} {key : Bytes} (h : deviceKey res = some key) : key ≠ [] := by
  rw [deviceKey] at h
  split at h
  · split at h
    · cases h
    · next hne =>
        cases h
        exact hne
  · cases h

/-- An answer is the end of a stage. -/
lemma settled_sendTestResponse (seqNo : UInt32) (out : Draft) :
    (sendTestResponse seqNo out).Settled := by
  rw [sendTestResponse]
  split
  · exact Stage.settled_done
  · split
    · exact Stage.settled_throws
    · exact Stage.settled_emit Stage.settled_done

/-- So is a report. -/
lemma settled_finishKeygen (H : Host) (m : Moment) (ctx : ConnectorTest) (key : Bytes) :
    (finishKeygen H m ctx key).Settled := by
  rw [finishKeygen]
  split
  · exact settled_sendTestResponse _ _
  · rw [sendApiCredentialState]
    split
    · exact Stage.settled_throws
    · refine Stage.settled_emit ?_
      split
      · exact settled_sendTestResponse _ _
      · exact Stage.settled_emit (settled_sendTestResponse _ _)

lemma settled_ofRead {α : Type} {x : Except JsonError α} {f : α → Step}
    (h : ∀ a, (f a).Settled) : (ofRead x f).Settled := by
  cases x with
  | error e => exact Stage.settled_throws
  | ok a => exact h a

/-- The callback of a token request is the end of a test. -/
lemma settled_onSaseResponse (H : Host) (m : Moment) (ctx : ConnectorTest) (res : ClientResponse) :
    (onSaseResponse H m ctx res).Settled := by
  rw [onSaseResponse]
  dsimp only
  split
  · exact settled_finishKeygen _ _ _ _
  · split
    · exact settled_ofRead fun detail => settled_finishKeygen _ _ _ _
    · refine settled_ofRead fun token => ?_
      split
      · exact settled_finishKeygen _ _ _ _
      · exact settled_ofRead fun seconds => settled_finishKeygen _ _ _ _

end Pretzel.Collectord
