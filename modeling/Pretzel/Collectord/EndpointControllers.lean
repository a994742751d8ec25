import Pretzel.Collectord.CredentialController

/-!
The endpoint tests: `collectord/service/api/controller/NgfwController.cpp` and
its sibling `SaseController.cpp`.

* `readApiType`, `appendParams`: what the two read of a request alike.
* `NgfwController`: a device is called with a key already issued, or with one
  issued for this call.
* `SaseController`: the cloud is called with a token, in the same two ways.
-/

namespace Pretzel.Collectord

open Nlohmann Texts Util Staged

/-- `subtype`, else `api_type`, else `rest`. -/
def readApiType (input : Json) : Except JsonError String := do
  let apiType ← input.valueString "api_type" "rest"
  input.valueString "subtype" apiType

/-- One turn of the loop over `params`. -/
def appendParam (path : String) (p : Json) : Except JsonError String :=
  if p.isObject then do
    let name ← p.valueString "name" ""
    if name = "" then return path
    else
      let value ← p.valueString "value" ""
      return path ++ separator path ++ urlEncode (textBytes name) ++ "=" ++
        urlEncode (textBytes value)
  else .ok path

/-- The loop over `params`: the path with its parameters. -/
def appendParams (path : String) (input : Json) : Except JsonError String := do
  let params ← input.valueJson "params" (.arr [])
  params.elements.foldlM appendParam path

/-- The first characters of a body, and whether they are not all of it. -/
def shownBody (limit : ℕ) (res : ClientResponse) : Draft :=
  .object [("status", .int res.status), ("body", .text (res.body.take limit)),
    ("bytes", .int res.body.length), ("truncated", .bool (limit < res.body.length))]

/-- A call that could not be sent. -/
def notSent (out : Draft) (res : ClientResponse) : Draft :=
  ((putStep "endpoint" false (orElse res.error "request was not sent") out).put "ok"
    (.bool false)).put "message" (.text res.error)

/-- The key a test uses is one already issued. -/
def usingStored (detail : String) (out : Draft) : Draft :=
  (putStep "auth" true (textBytes detail) out).put "used_stored_key" (.bool true)

/-- A test with the request that is shown of it. -/
def ConnectorTest.showing (ctx : ConnectorTest) (shown : Json) : ConnectorTest :=
  { ctx with out := ctx.out.put "request" (.value shown) }

/-- `kMaxSampleBody`. -/
def kMaxSampleBody : ℕ := 64 * 1024

/-! ### A device is called -/

namespace NgfwController

/-- `onEndpointResponse`. -/
def onEndpointResponse (ctx : ConnectorTest) (res : ClientResponse) : Step :=
  ofRead (readApiType ctx.input) fun apiType =>
    if !res.tlsOk || !res.requestSent then sendTestResponse ctx.seqNo (notSent ctx.out res)
    else
      let ok : Bool := res.status = 200
      let refused := if apiType = "xml" then xmlErrorMessage res.body else res.body.take 160
      let detail := textBytes ("HTTP " ++ toString res.status) ++
        (if ok then [] else textBytes " — " ++ refused)
      let message := if ok then "endpoint responded"
        else "endpoint returned HTTP " ++ toString res.status
      sendTestResponse ctx.seqNo ((((putStep "endpoint" ok detail ctx.out).put "ok"
        (.bool ok)).put "response" (shownBody kMaxSampleBody res)).put "message" (.str message))

/-- The call of an endpoint, and what is shown of it. -/
def endpointCall (ctx : ConnectorTest) (key : Bytes) (apiType path : String) :
    ClientRequest × Json :=
  let t := ctx.target
  let xml : Bool := apiType = "xml"
  let target := if xml then path ++ separator path ++ "key=" ++ urlEncode key else path
  let displayTarget := if xml then path ++ separator path ++ "key=<redacted>" else path
  let portPart := if t.port = 443 then "" else ":" ++ toString t.port
  ({ baseRequest t with target, headers := if xml then [] else [("X-PAN-KEY", key)] },
    .obj [("key_delivery", .str (if xml then "key= query parameter" else "X-PAN-KEY header")),
      ("method", .str "GET"), ("url", .str ("https://" ++ t.host ++ portPart ++ displayTarget))])

/-- The reads of `callEndpoint`: the kind of the API, and the path. -/
def readPath (input : Json) : Except JsonError (String × String) := do
  let apiType ← readApiType input
  let endpoint ← input.valueString "endpoint" ""
  let path ← appendParams endpoint input
  return (apiType, path)

/-- `callEndpoint`. -/
def callEndpoint (ctx : ConnectorTest) (key : Bytes) : Step :=
  ofRead (readPath ctx.input) fun (apiType, path) =>
    let (call, shown) := endpointCall ctx key apiType path
    requestAsync call (.endpoint (ctx.showing shown))

/-- `onKeygenForEndpoint`. -/
def onKeygenForEndpoint (ctx : ConnectorTest) (res : ClientResponse) : Step :=
  let (key, out) := readKeygenKey res (ctx.target.fingerprint ≠ "") ctx.out
  if key = [] then sendTestResponse ctx.seqNo (out.put "ok" (.bool false))
  else callEndpoint { ctx with out } key

/-- What an endpoint test comes to at its start. -/
inductive Plan where
  | reject (message : String)
  | stored (ctx : ConnectorTest) (key : Bytes)
  | keygen (ctx : ConnectorTest)

/-- The reads and the checks of `runEndpointTest`. -/
def plan (cache : KeyCache) (seqNo : UInt32) (input : Json) : Except JsonError Plan := do
  let target ← parseTestTarget input
  let ctx : ConnectorTest := { seqNo, target, input, out := .object [("steps", .object [])] }
  if target.host = "" then return .reject "target is required"
  else
    let endpoint ← input.valueString "endpoint" ""
    let apiType ← readApiType input
    if endpoint.toList.head? ≠ some '/' then
      return .reject "endpoint must be a path starting with /"
    else if apiType ≠ "xml" ∧ apiType ≠ "rest" then
      return .reject "subtype must be xml or rest"
    else
      let params ← input.valueJson "params" (.arr [])
      if params.isArray = false then return .reject "params must be an array of \x7bname, value\x7d"
      else
        match cache.issuedKey target.authProfileOid with
        | [] =>
            if target.username = [] ∨ target.password = [] then
              return .reject ("no key has been issued for this API key yet, and its password is " ++
                "not available — enter the password on the API Key page and run the key " ++
                "generation once")
            else return .keygen ctx
        | key =>
            return .stored { ctx with
              out := usingStored "using the key already issued for this profile" ctx.out } key

/-- The rest of it. -/
def start (seqNo : UInt32) : Plan → Step
  | .reject message => rejectTest seqNo message
  | .stored ctx key => callEndpoint ctx key
  | .keygen ctx => requestAsync (buildKeygenRequest ctx.target) (.keygenForEndpoint ctx)

/-- `NgfwController::runEndpointTest`. -/
def runEndpointTest (H : Host) (cache : KeyCache) (seqNo : UInt32) (input : Json) : Step :=
  .guard (startFailed H seqNo "test could not be started: ")
    (ofRead (plan cache seqNo input) (start seqNo))

end NgfwController

/-! ### The cloud is called -/

namespace SaseController

/-- `kMaxBody`. -/
def kMaxBody : ℕ := 16000

/-- `onSaseEndpointResponse`. -/
def onSaseEndpointResponse (ctx : ConnectorTest) (res : ClientResponse) : Step :=
  if !res.tlsOk || !res.requestSent then sendTestResponse ctx.seqNo (notSent ctx.out res)
  else
    let ok : Bool := res.status = 200
    let reason : Bytes :=
      if ok then []
      else if res.status = 424 then
        textBytes " — the tenant was not found in this region. Check the x-panw-region header."
      else if res.status = 401 ∨ res.status = 403 then
        textBytes " — the token was rejected. Check the credential's scope for this tenant."
      else textBytes " — " ++ res.body.take 160
    let detail := textBytes ("HTTP " ++ toString res.status) ++ reason
    sendTestResponse ctx.seqNo ((((putStep "endpoint" ok detail ctx.out).put "ok"
      (.bool ok)).put "response" (shownBody kMaxBody res)).put "message"
        (if ok then .str "endpoint responded" else .text detail))

/-- A lower-case letter, of ASCII. -/
def toLowerAscii (c : Char) : Char := if 'A' ≤ c && c ≤ 'Z' then Char.ofNat (c.toNat + 32) else c

/-- `strcasecmp` finds a text the same, up to its first NUL. -/
def sameCase (text other : String) : Bool :=
  (text.toList.takeWhile (· ≠ '\x00')).map toLowerAscii = other.toList

/-- One turn of the loop over `headers`. -/
def readHeader (h : Json) : Except JsonError (Option (String × String)) :=
  if h.isObject then do
    let name ← h.valueString "name" ""
    if name = "" ∨ sameCase name "authorization" = true then return none
    else
      let value ← h.valueString "value" ""
      return some (name, value)
  else .ok none

/-- The loop over `headers`. -/
def readHeaders (input : Json) : Except JsonError (List (String × String)) := do
  let headers ← input.valueJson "headers" (.arr [])
  Json.readEach readHeader headers.elements

/-- The call of an endpoint, and what is shown of it. -/
def endpointCall (token : Bytes) (host path : String) (headers : List (String × String)) :
    ClientRequest × Json :=
  ({ host, verifyCa := true, target := path, timeout := 30
     headers := ("Authorization", textBytes "Bearer " ++ token) ::
      headers.map fun h => (h.1, textBytes h.2) },
    .obj [("headers", .arr (headers.map fun h => .obj [("name", .str h.1), ("value", .str h.2)])),
      ("key_delivery", .str "Authorization: Bearer <redacted>"), ("method", .str "GET"),
      ("url", .str ("https://" ++ host ++ path))])

/-- The reads of `callSaseEndpoint`: the host, the path and the headers. -/
def readPath (input : Json) : Except JsonError (String × String × List (String × String)) := do
  let host ← input.valueString "host" ""
  let endpoint ← input.valueString "endpoint" ""
  let path ← appendParams endpoint input
  let headers ← readHeaders input
  return (host, path, headers)

/-- `callSaseEndpoint`. -/
def callSaseEndpoint (ctx : ConnectorTest) (token : Bytes) : Step :=
  ofRead (readPath ctx.input) fun (host, path, headers) =>
    let (call, shown) := endpointCall token host path headers
    requestAsync call (.saseEndpoint (ctx.showing shown))

/-- The token of an answer: whatever fails in reading it leaves it empty. -/
def tokenOf (H : Host) (res : ClientResponse) : String :=
  match H.parse res.body with
  | none => ""
  | some body => (body.valueString "access_token" "").toOption.getD ""

/-- `onTokenForEndpoint`. -/
def onTokenForEndpoint (H : Host) (ctx : ConnectorTest) (res : ClientResponse) : Step :=
  let refuse (detail : Bytes) : Step :=
    sendTestResponse ctx.seqNo ((putStep "auth" false detail ctx.out).put "ok" (.bool false))
  if !res.tlsOk || !res.requestSent then
    refuse (orElse res.error "the token request was not sent")
  else if res.status ≠ 200 then
    refuse (textBytes ("the auth server answered HTTP " ++ toString res.status ++
      (if res.status = 401 then " — check the client id and secret" else "")))
  else if tokenOf H res = "" then
    refuse (textBytes "the auth server returned no access_token")
  else
    callSaseEndpoint { ctx with
      out := putStep "auth" true (textBytes "token issued for this test") ctx.out }
      (textBytes (tokenOf H res))

/-- What an endpoint test comes to at its start. -/
inductive Plan where
  | reject (message : String)
  | stored (ctx : ConnectorTest) (key : Bytes)
  | token (ctx : ConnectorTest)

/-- The reads and the checks of `runEndpointTest`. -/
def plan (cache : KeyCache) (seqNo : UInt32) (input : Json) : Except JsonError Plan := do
  let target ← parseTestTarget input
  let host ← input.valueString "host" ""
  let endpoint ← input.valueString "endpoint" ""
  if target.host = "" then return .reject "the tenant (TSG id) is required"
  else if host = "" then
    return .reject "host is required, e.g. api.sase.paloaltonetworks.com"
  else if endpoint.toList.head? ≠ some '/' then
    return .reject "endpoint must be a path starting with /"
  else
    let params ← input.valueJson "params" (.arr [])
    if params.isArray = false then return .reject "params must be an array of \x7bname, value\x7d"
    else
      let headers ← input.valueJson "headers" (.arr [])
      if headers.isArray = false then return .reject "headers must be an array of \x7bname, value\x7d"
      else
        let out := putStep "tls" true (textBytes "verified against the public CA chain") (.object [])
        let ctx : ConnectorTest := { seqNo, target, input, out }
        match cache.issuedKey target.authProfileOid with
        | [] =>
            if target.username = [] ∨ target.password = [] then
              return .reject ("no token has been issued for this credential yet, and its client " ++
                "secret is not available — enter it on the API Credential page and run the " ++
                "credential test once")
            else return .token ctx
        | key =>
            return .stored { ctx with
              out := usingStored "using the token already issued for this credential" out } key

/-- The rest of it. -/
def start (seqNo : UInt32) : Plan → Step
  | .reject message => rejectTest seqNo message
  | .stored ctx token => callSaseEndpoint ctx token
  | .token ctx => requestAsync (saseTokenRequest ctx.target) (.tokenForEndpoint ctx)

/-- `SaseController::runEndpointTest`. -/
def runEndpointTest (H : Host) (cache : KeyCache) (seqNo : UInt32) (input : Json) : Step :=
  .guard (startFailed H seqNo "test could not be started: ")
    (ofRead (plan cache seqNo input) (start seqNo))

end SaseController

end Pretzel.Collectord
