import Pretzel.Collectord.EndpointControllers

/-!
The health of a SASE device (`collectord/service/api/controller/StatusController.cpp`),
and the requests as `ApiService` hands them to the controllers.

* `runSaseTest`, `onSaseTest`: the API is asked with a key, which is stored where
  the operator has entered it and it works.
* `storeApiKey`: a key is stored without asking.
* `TestRequest`, `decodeTest`, `route`: a request to its controller.
* `resume`: an answer to its callback. `handled`: a request and the answers it
  meets, as one.
-/

namespace Pretzel.Collectord

open Nlohmann Texts Util Staged

/-! ### The health of a device -/

/-- The document of `sealAndStoreApiKey`. -/
def saseState (oid sealed : String) : Json := .obj [("api_key_enc", .str sealed), ("oid", .str oid)]

/-- What `runSaseTest` reads. -/
structure SaseTest where
  oid : String
  url : String
  apiKey : Bytes
  keyFromOperator : Bool
  body : String
deriving DecidableEq

/-- The reads of `runSaseTest`. -/
def readSaseTest (cache : KeyCache) (input : Json) : Except JsonError SaseTest := do
  let oid ← input.valueString "oid" ""
  let url ← input.valueString "url" ""
  let apiKey ← input.valueString "api_key" ""
  let body ← input.valueString "body" ""
  return { oid, url, keyFromOperator := apiKey ≠ ""
           apiKey := if apiKey = "" then cache.issuedKey oid else textBytes apiKey
           body := if body = "" then
             "\x7b\"serviceType\":\"all\",\"addrType\":\"all\",\"location\":\"all\"\x7d" else body }

/-- The host and the port of a URL's authority: what follows a colon is a port
where it is a number. -/
def authority (hostport : List Char) : String × ℕ :=
  if ':' ∈ hostport then
    (String.ofList (hostport.takeWhile (· ≠ ':')),
      (portOf (hostport.dropWhile (· ≠ ':')).tail).getD 443)
  else (String.ofList hostport, 443)

/-- The request of `runSaseTest`. -/
def SaseTest.request (t : SaseTest) : ClientRequest :=
  let rest := t.url.toList.drop 8
  let (host, port) := authority (rest.takeWhile (· ≠ '/'))
  let target := match rest.dropWhile (· ≠ '/') with
    | [] => "/"
    | path => String.ofList path
  { host, port, method := "POST", target, body := t.body, verifyCa := true, timeout := 25
    headers := [("header-api-key", t.apiKey), ("Content-Type", textBytes "application/json")] }

/-- The checks of `runSaseTest`: why it is not begun, if it is not. -/
def SaseTest.refusal (t : SaseTest) : Option String :=
  if t.oid = "" ∨ t.url = "" then some "the device and probe URL are both required"
  else if t.apiKey = [] then
    some "no api-key is stored for this device — paste the command again"
  else if !"https://".toList.isPrefixOf t.url.toList then some "the probe URL must be https"
  else none

/-- The callback a SASE test waits for. -/
def SaseTest.wait (t : SaseTest) (seqNo : UInt32) : Wait :=
  .saseTest seqNo (.object [("steps", .object [])]) t.oid t.apiKey t.keyFromOperator

/-- The rest of `runSaseTest`. -/
def SaseTest.start (seqNo : UInt32) (t : SaseTest) : Step :=
  match t.refusal with
  | some message => rejectTest seqNo message
  | none => requestAsync t.request (t.wait seqNo)

/-- `StatusController::runSaseTest`. -/
def runSaseTest (H : Host) (cache : KeyCache) (seqNo : UInt32) (input : Json) : Step :=
  .guard (startFailed H seqNo "test could not be started: ")
    (ofRead (readSaseTest cache input) (SaseTest.start seqNo))

/-- The API says that it succeeded. -/
def saseSucceeded (H : Host) (res : ClientResponse) : Except JsonError Bool :=
  if res.status = 200 then
    match bodyObject H res with
    | none => .ok false
    | some body => do return (← body.valueString "status" "") = "success"
  else .ok false

/-- What is said of a test that did not succeed. -/
def saseNote (res : ClientResponse) : Bytes :=
  if res.status = 200 then textBytes "reached the API but the response was not a success"
  else if res.status = 401 ∨ res.status = 403 then
    textBytes ("the api-key was rejected (HTTP " ++ toString res.status ++ ")")
  else if res.status ≠ 0 then textBytes ("the API answered HTTP " ++ toString res.status)
  else orElse res.error "could not reach the SASE API"

/-- The report of a SASE test. -/
def saseReport (H : Host) (out : Draft) (res : ClientResponse) (ok : Bool) : Draft :=
  let out := ((out.put "ok" (.bool ok)).put "message"
    (if ok then .str "SASE health check passed — api-key saved" else .text (saseNote res))).put
      "http_status" (.int res.status)
  match H.parse res.body with
  | some parsed => out.put "egress" (.value parsed)
  | none => if res.body = [] then out else out.put "egress_raw" (.text res.body)

/-- The callback of `runSaseTest`. -/
def onSaseTest (H : Host) (m : Moment) (seqNo : UInt32) (out : Draft) (oid : String)
    (apiKey : Bytes) (keyFromOperator : Bool) (res : ClientResponse) : Step :=
  ofRead (saseSucceeded H res) fun ok =>
    let out := saseReport H out res ok
    if ok && keyFromOperator then
      match encrypt H.key (m.nonces 0) apiKey with
      | none =>
          sendTestResponse seqNo (out.put "message" (.str ("health check passed, but the " ++
            "credential store is unavailable to save the key")))
      | some sealed => .emit (.saseApiKey (saseState oid sealed)) (sendTestResponse seqNo out)
    else sendTestResponse seqNo out

/-- What `storeApiKey` reads. -/
def readApiKey (input : Json) : Except JsonError (String × String) := do
  let oid ← input.valueString "oid" ""
  let apiKey ← input.valueString "api_key" ""
  return (oid, apiKey)

/-- `StatusController::storeApiKey`. -/
def storeApiKey (H : Host) (m : Moment) (seqNo : UInt32) (input : Json) : Step :=
  match readApiKey input with
  | .error e =>
      sendTestResponse seqNo (failure ("the api-key could not be saved: " ++ H.what (.read e)))
  | .ok (oid, apiKey) =>
      if oid = "" ∨ apiKey = "" then
        sendTestResponse seqNo (failure "the device and api-key are both required")
      else
        match encrypt H.key (m.nonces 0) (textBytes apiKey) with
        | none =>
            sendTestResponse seqNo
              (failure "the credential store is unavailable — the api-key was not saved")
        | some sealed =>
            .emit (.saseApiKey (saseState oid sealed))
              (sendTestResponse seqNo (success "api-key saved"))

/-! ### The requests -/

/-- The requests mgmtd sends for an operator. -/
inductive TestRequest where
  | RunKeygenTest
  | RunEndpointTest
  | RunSaseTest
  | RunTlsProbe
  | StoreSaseKey
  | StoreCredential
deriving DecidableEq

/-- `ApiService::decodeTest`: the document of a payload, none where it returns
false. -/
def decodeTest (H : Host) (payload : Bytes) : Option Json :=
  if payload = [] then none else H.parse payload

/-- `ApiService::route`, of a request. -/
def route (H : Host) (m : Moment) (cache : KeyCache) (request : TestRequest) (seqNo : UInt32)
    (payload : Bytes) : Step :=
  match decodeTest H payload with
  | none => .done
  | some input =>
      match request with
      | .RunKeygenTest => runKeygenTest H m cache seqNo input
      | .RunEndpointTest =>
          ofRead (input.valueString "device_type" "ngfw") fun deviceType =>
            if deviceType = "sase" then SaseController.runEndpointTest H cache seqNo input
            else NgfwController.runEndpointTest H cache seqNo input
      | .RunSaseTest => runSaseTest H cache seqNo input
      | .RunTlsProbe => runTlsProbe H seqNo input
      | .StoreSaseKey => storeApiKey H m seqNo input
      | .StoreCredential => storeCredential H m seqNo input

/-- What an exchange settles with, and the moment it does. -/
abbrev Arrival := ClientResponse × Moment

/-- The callback of an exchange that settles. -/
def resume (H : Host) (k : Wait) (arrival : Arrival) : Step :=
  let (res, m) := arrival
  match k with
  | .keygen ctx => onKeygen H m ctx res
  | .saseToken ctx => onSaseResponse H m ctx res
  | .tlsProbe ctx => onTlsProbe ctx res
  | .keygenForEndpoint ctx => NgfwController.onKeygenForEndpoint ctx res
  | .endpoint ctx => NgfwController.onEndpointResponse ctx res
  | .tokenForEndpoint ctx => SaseController.onTokenForEndpoint H ctx res
  | .saseEndpoint ctx => SaseController.onSaseEndpointResponse ctx res
  | .saseTest seqNo out oid apiKey keyFromOperator =>
      onSaseTest H m seqNo out oid apiKey keyFromOperator res

/-- A request and the answers it meets. -/
def handled (H : Host) (m : Moment) (cache : KeyCache) (request : TestRequest) (seqNo : UInt32)
    (payload : Bytes) (arrivals : List Arrival) : Step :=
  .run (resume H) (route H m cache request seqNo payload) arrivals

end Pretzel.Collectord
