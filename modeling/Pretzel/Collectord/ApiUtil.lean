import Pretzel.Library.Draft
import Pretzel.Library.Staged
import Pretzel.Util.Secret

/-!
`collectord/service/api/ApiUtil.cpp`: what the connector tests share.

* `TestTarget`, `parseTestTarget`: the device under test, read from the request.
* `ConnectorTest`: a test under way. `Wait`: the callback that will hear of it.
* `Out`, `Step`: what a handler sends, and how it ends; an exception may leave it.
* `recordTlsStep`, `readKeygenKey`: what a device answers to a key request.
* `sendTestResponse`, `sendApiCredentialState`, `sendApiCredentialStore`: the
  messages to mgmtd and to engined.
-/

namespace Pretzel.Collectord

open Nlohmann Texts Util Staged

/-- A byte string. -/
abbrev Bytes := List UInt8

/-! ### Requests -/

/-- `pz::http::ClientRequest`. -/
structure ClientRequest where
  host : String
  port : ℕ := 443
  method : String := "GET"
  target : String := "/"
  headers : List (String × Bytes) := []
  body : String := ""
  expectedFingerprint : String := ""
  verifyCa : Bool := false
  timeout : ℕ := 8
deriving DecidableEq

/-- `pz::http::ClientResponse`. -/
structure ClientResponse where
  tlsOk : Bool := false
  pinMatched : Bool := false
  requestSent : Bool := false
  status : ℤ := 0
  body : Bytes := []
  error : Bytes := []
  fingerprint : Bytes := []
  certSubject : Bytes := []
deriving DecidableEq

/-- The characters `isalnum` takes, and the four marks that go as they are. -/
def unreserved (c : UInt8) : Bool :=
  (48 ≤ c && c ≤ 57) || (65 ≤ c && c ≤ 90) || (97 ≤ c && c ≤ 122) ||
    c == 45 || c == 95 || c == 46 || c == 126

/-- `urlEncode`. -/
def urlEncode (raw : Bytes) : String :=
  let hex (v : ℕ) : Char := if v < 10 then Char.ofNat (48 + v) else Char.ofNat (55 + v)
  String.ofList (raw.flatMap fun c =>
    if unreserved c then [Char.ofNat c.toNat] else ['%', hex (c.toNat / 16), hex (c.toNat % 16)])

/-- The loop of `base64`: `pending` bits of `val` are not written yet. -/
def base64Digits : Bytes → UInt32 → UInt32 → Bytes
  | [], val, pending =>
      if pending = 0 then [] else [Authd.base64Char ((val <<< 8) >>> (pending + 2) &&& 63)]
  | c :: rest, val, pending =>
      let val := val <<< 8 + c.toUInt32
      let pending := pending + 2
      let digit := Authd.base64Char (val >>> pending &&& 63)
      if pending < 6 then digit :: base64Digits rest val pending
      else digit :: Authd.base64Char (val >>> (pending - 6) &&& 63) ::
        base64Digits rest val (pending - 6)

/-- `base64`. -/
def base64 (data : Bytes) : Bytes :=
  let digits := base64Digits data 0 0
  digits ++ List.replicate ((4 - digits.length % 4) % 4) 61

/-- `HostPath`. -/
structure HostPath where
  host : String
  port : ℕ := 443
  path : String := "/"
deriving DecidableEq

/-- `kSaseAuthHost`. -/
def kSaseAuthHost : String := "auth.apps.paloaltonetworks.com"

/-- `kSaseTokenPath`. -/
def kSaseTokenPath : String := "/oauth2/access_token"

/-- `splitHostPath`. -/
def splitHostPath (urlish defaultHost defaultPath : String) : HostPath :=
  if urlish = "" then { host := defaultHost, path := defaultPath }
  else
    let rest := (afterFirst "://".toList urlish.toList).getD urlish.toList
    let hostport := rest.takeWhile (· ≠ '/')
    let path := match rest.dropWhile (· ≠ '/') with
      | [] => "/"
      | path => String.ofList path
    let (hostport, port) := match splitLast ':' hostport with
      | none => (hostport, 443)
      | some (host, text) =>
          match portOf text with
          | none => (hostport, 443)
          | some port => (host, port)
    { host := if hostport = [] then defaultHost else String.ofList hostport, port, path }

/-- `buildOAuthTokenRequest`. -/
def buildOAuthTokenRequest (hp : HostPath) (clientId clientSecret : Bytes) (tsgId : String) :
    ClientRequest :=
  { host := hp.host, port := hp.port, verifyCa := true, method := "POST", target := hp.path
    timeout := 15
    headers := [("Authorization", textBytes "Basic " ++ base64 (clientId ++ [58] ++ clientSecret)),
      ("Content-Type", textBytes "application/x-www-form-urlencoded")]
    body := "grant_type=client_credentials&scope=tsg_id:" ++ urlEncode (textBytes tsgId) }

/-! ### The target of a test -/

/-- `TestTarget`. The account may come out of the store, where a text is any
bytes. -/
structure TestTarget where
  host : String
  port : ℕ
  fingerprint : String
  username : Bytes
  password : Bytes
  keygenEndpoint : String
  authProfileOid : String
  deviceType : String
deriving DecidableEq

/-- A host with its port, where there is one colon and no bracket. -/
def hostAndPort (target : String) : String × ℕ :=
  let text := target.toList
  match splitLast ':' text with
  | none => (target, 443)
  | some (host, rest) =>
      if text.head? = some '[' || host.elem ':' then (target, 443)
      else
        match portOf rest with
        | none => (target, 443)
        | some port => (String.ofList host, port)

/-- `parseTestTarget`. -/
def parseTestTarget (body : Json) : Except JsonError TestTarget := do
  let (host, port) := hostAndPort (← body.valueString "target" "")
  let fingerprint ← body.valueString "fingerprint" ""
  let secrets ← body.valueJson "secrets" (.obj [])
  let username ← body.valueString "username" ""
  let (username, password) ←
    if secrets.isObject then do
      let username ← secrets.valueString "username" username
      let password ← secrets.valueString "password" ""
      pure (username, password)
    else pure (username, "")
  let endpoint ← body.valueString "endpoint" ""
  let keygenEndpoint ← body.valueString "keygen_endpoint" endpoint
  let authProfileOid ← body.valueString "api_key_oid" ""
  let deviceType ← body.valueString "device_type" "ngfw"
  return { host, port, fingerprint, username := textBytes username, password := textBytes password,
           keygenEndpoint, authProfileOid, deviceType }

/-- `baseRequest`. -/
def baseRequest (t : TestTarget) : ClientRequest :=
  { host := t.host, port := t.port, expectedFingerprint := t.fingerprint, timeout := 10 }

/-- What separates a further parameter from a target. -/
def separator (target : String) : String := if '?' ∈ target.toList then "&" else "?"

/-- `buildKeygenRequest`. -/
def buildKeygenRequest (t : TestTarget) : ClientRequest :=
  let base := if t.keygenEndpoint = "" then "/api/?type=keygen" else t.keygenEndpoint
  { baseRequest t with
    target := base ++ separator base ++ "user=" ++ urlEncode t.username ++ "&password=" ++
      urlEncode t.password }

/-! ### Tests -/

/-- `ConnectorTest`. -/
structure ConnectorTest where
  seqNo : UInt32
  target : TestTarget
  keyOid : String := ""
  expiresAt : String := ""
  input : Json
  out : Draft := .object []

/-- The callbacks an exchange settles in. -/
inductive Wait where
  | keygen (ctx : ConnectorTest)
  | saseToken (ctx : ConnectorTest)
  | tlsProbe (ctx : ConnectorTest)
  | keygenForEndpoint (ctx : ConnectorTest)
  | endpoint (ctx : ConnectorTest)
  | tokenForEndpoint (ctx : ConnectorTest)
  | saseEndpoint (ctx : ConnectorTest)
  | saseTest (seqNo : UInt32) (out : Draft) (oid : String) (apiKey : Bytes)
      (keyFromOperator : Bool)

/-- The exceptions of the handlers: of a typed read, and of a text that is not
UTF-8. -/
inductive Fault where
  | read (e : JsonError)
  | notUtf8
deriving DecidableEq

/-- What a handler does beside computing: a request to a device, the messages to
mgmtd and engined, and the notes in the key cache. -/
inductive Out where
  | request (r : ClientRequest)
  | testResponse (seqNo : UInt32) (out : Json)
  | credentialState (state : Json)
  | saseApiKey (state : Json)
  | rememberIssuedKey (oid : String) (key : Bytes)
  | rememberCredential (oid : String) (id pw : Bytes)
deriving DecidableEq

/-- A stage of a handler. -/
abbrev Step := Stage Out Wait Fault

/-- What a daemon has for as long as it runs: the master key, the parser of the
JSON library, and the texts of its exceptions. -/
structure Host where
  key : MasterKey
  parse : Bytes → Option Json
  what : Fault → String

/-- What a stage meets: the nonces it draws, and the text of the time some seconds
from now. -/
structure Moment where
  nonces : ℕ → Option (Vector UInt8 12)
  expiry : ℤ → String

/-- An exchange begins, and the handler returns. -/
def requestAsync (r : ClientRequest) (k : Wait) : Step := .emit (.request r) (.waits k)

/-- `stepJson`. -/
def stepJson (ok : Bool) (detail : Bytes) : Draft :=
  .object [("ok", .bool ok), ("detail", .text detail)]

/-- The step of a report, assigned. -/
def putStep (name : String) (ok : Bool) (detail : Bytes) (out : Draft) : Draft :=
  out.putAt "steps" name (stepJson ok detail)

/-- `a.empty() ? b : a`. -/
def orElse (a : Bytes) (b : String) : Bytes := if a = [] then textBytes b else a

@[simp]
lemma isUtf8_orElse (a : Bytes) (b : String) : isUtf8 (orElse a b) = isUtf8 a := by
  rw [orElse]
  split
  · next h => rw [h, isUtf8_textBytes, isUtf8_nil]
  · rfl

/-- `recordTlsStep`. -/
def recordTlsStep (r : ClientResponse) (hadPin : Bool) (out : Draft) : Bool × Draft :=
  let out := ((out.put "fingerprint" (.text r.fingerprint)).put "cert_subject"
    (.text r.certSubject)).put "fingerprint_trusted" (.bool r.pinMatched)
  if !r.tlsOk then
    (false, (putStep "tls" false (orElse r.error "TLS handshake failed") out).put "message"
      (.text r.error))
  else if !r.pinMatched then
    let firstContact := !hadPin && r.fingerprint ≠ []
    (false, (putStep "tls" false (textBytes
      (if firstContact then "certificate not yet trusted — confirm the fingerprint"
        else "certificate fingerprint does not match the pinned value")) out).put "message" (.str
      (if firstContact then "confirm the device certificate to continue"
        else "certificate fingerprint mismatch — possible interception")))
  else (true, putStep "tls" true (textBytes "TLS established, certificate pinned") out)

/-- `extractXmlTag`. -/
def extractXmlTag (xml : Bytes) (tag : String) : Bytes :=
  match afterFirst (textBytes ("<" ++ tag ++ ">")) xml with
  | none => []
  | some rest => (beforeFirst (textBytes ("</" ++ tag ++ ">")) rest).getD []

/-- `xmlErrorMessage`. -/
def xmlErrorMessage (xml : Bytes) : Bytes :=
  orElse (extractXmlTag xml "msg") "device rejected the request"

/-- `readKeygenKey`. -/
def readKeygenKey (res : ClientResponse) (hadPin : Bool) (out : Draft) : Bytes × Draft :=
  match recordTlsStep res hadPin out with
  | (false, out) => ([], out)
  | (true, out) =>
      let message := xmlErrorMessage res.body
      if res.status ≠ 200 then
        ([], (putStep "auth" false (textBytes ("HTTP " ++ toString res.status ++ " — ") ++ message)
          out).put "message" (.text message))
      else
        match extractXmlTag res.body "key" with
        | [] => ([], (putStep "auth" false message out).put "message" (.text message))
        | key => (key, putStep "auth" true
            (textBytes ("API key issued (" ++ toString key.length ++ " chars)")) out)

/-- The key in a device's answer. -/
def deviceKey (res : ClientResponse) : Option Bytes :=
  if res.tlsOk && res.pinMatched && res.status = 200 then
    match extractXmlTag res.body "key" with
    | [] => none
    | key => some key
  else none

/-! ### Messages -/

/-- `sendTestResponse`. -/
def sendTestResponse (seqNo : UInt32) (out : Draft) : Step :=
  if seqNo = 0 then .done
  else
    match out.dump with
    | none => .throws .notUtf8
    | some payload => .emit (.testResponse seqNo payload) .done

/-- A report of failure. -/
def failure (message : String) : Draft :=
  .object [("ok", .bool false), ("steps", .object []), ("message", .str message)]

/-- `rejectTest`. -/
def rejectTest (seqNo : UInt32) (message : String) : Step := sendTestResponse seqNo (failure message)

/-- A plaintext sealed, where there is one and it can be. -/
def sealed (H : Host) (nonce : Option (Vector UInt8 12)) (plain : Bytes) : Option String :=
  if plain = [] then none else encrypt H.key nonce plain

/-- One field of a state. -/
def sealField (H : Host) (nonce : Option (Vector UInt8 12)) (field : String) (plain : Bytes)
    (state : Draft) : Draft :=
  match sealed H nonce plain with
  | none => state
  | some text => state.put field (.str text)

/-- The fields of a state that go as they are. -/
def plainState (keyOid expiresAt : String) (ok : Bool) (note : Bytes) : Draft :=
  let state : Draft := .object [("oid", .str keyOid), ("ok", .bool ok), ("note", .text note)]
  if expiresAt = "" then state else state.put "expires_at" (.str expiresAt)

/-- The document of `sendApiCredentialState`. -/
def credentialState (H : Host) (m : Moment) (keyOid : String) (id pw key : Bytes)
    (expiresAt : String) (ok : Bool) (note : Bytes) : Draft :=
  sealField H (m.nonces 2) "key_enc" key
    (sealField H (m.nonces 1) "pw_enc" pw
      (sealField H (m.nonces 0) "id_enc" id (plainState keyOid expiresAt ok note)))

/-- `sendApiCredentialState`, and what follows it. -/
def sendApiCredentialState (H : Host) (m : Moment) (keyOid : String) (id pw key : Bytes)
    (expiresAt : String) (ok : Bool) (note : Bytes) (next : Step) : Step :=
  match (credentialState H m keyOid id pw key expiresAt ok note).dump with
  | none => .throws .notUtf8
  | some payload => .emit (.credentialState payload) next

/-- A field of a store, sealed: nothing to store is no failure. -/
def storeField (H : Host) (nonce : Option (Vector UInt8 12)) (field : String) (plain : Bytes)
    (state : Draft) : Option Draft :=
  if plain = [] then some state
  else (sealed H nonce plain).map fun text => state.put field (.str text)

/-- The document of `sendApiCredentialStore`, none where it returns false. -/
def credentialStore (H : Host) (m : Moment) (keyOid : String) (id pw : Bytes) : Option Draft := do
  let state ← storeField H (m.nonces 0) "id_enc" id (.object [("oid", .str keyOid)])
  let state ← storeField H (m.nonces 1) "pw_enc" pw state
  if id = [] ∧ pw = [] then none else return state

/-! ### What a state says -/

section State

variable {H : Host} {m : Moment} {nonce : Option (Vector UInt8 12)} {field keyOid expiresAt : String}
  {plain id pw key note : Bytes} {state : Draft} {ok : Bool}

lemma isObject_sealField (h : state.isObject = true) :
    (sealField H nonce field plain state).isObject = true := by
  rw [sealField]
  split
  · exact h
  · rfl

lemma find?_sealField (k : String) : (sealField H nonce field plain state).find? k =
    if k = field then ((sealed H nonce plain).map .str).or (state.find? k) else state.find? k := by
  rw [sealField]
  cases sealed H nonce plain with
  | none => exact (ite_self _).symm
  | some text => exact Draft.find?_put state field (.str text) k

lemma isText_sealField (hobj : state.isObject = true) (h : state.find? field = none) :
    (sealField H nonce field plain state).isText = state.isText := by
  rw [sealField]
  split
  · rfl
  · exact Draft.isText_put hobj h

lemma isObject_plainState : (plainState keyOid expiresAt ok note).isObject = true := by
  rw [plainState]
  split <;> rfl

lemma find?_plainState (k : String) : (plainState keyOid expiresAt ok note).find? k =
    if k = "expires_at" then (if expiresAt = "" then none else some (.str expiresAt))
    else if k = "oid" then some (.str keyOid)
    else if k = "ok" then some (.bool ok)
    else if k = "note" then some (.text note)
    else none := by
  have hfixed : (Draft.object [("oid", .str keyOid), ("ok", .bool ok),
      ("note", .text note)]).find? k = if k = "oid" then some (.str keyOid)
        else if k = "ok" then some (.bool ok)
        else if k = "note" then some (.text note) else none := by
    simp only [Draft.find?, Draft.members, List.find?_cons, List.find?_nil]
    grind
  rw [plainState]
  split
  · next hempty =>
      rw [hfixed]
      by_cases hk : k = "expires_at"
      · subst hk
        rfl
      · rw [if_neg hk]
  · rw [Draft.find?_put, hfixed]

lemma isText_plainState :
    (plainState keyOid expiresAt ok note).isText = isUtf8 note := by
  rw [plainState]
  split <;> simp [Draft.isText, Draft.areTexts, Draft.put, Draft.members, Draft.str, Draft.bool]

lemma isObject_credentialState :
    (credentialState H m keyOid id pw key expiresAt ok note).isObject = true :=
  isObject_sealField (isObject_sealField (isObject_sealField isObject_plainState))

/-- **A state is sent where its note is UTF-8.** -/
lemma isText_credentialState : (credentialState H m keyOid id pw key expiresAt ok note).isText =
    isUtf8 note := by
  have hid : (plainState keyOid expiresAt ok note).find? "id_enc" = none := find?_plainState _
  have hpw : (sealField H (m.nonces 0) "id_enc" id (plainState keyOid expiresAt ok note)).find?
      "pw_enc" = none := by
    rw [find?_sealField, if_neg (by decide)]
    exact find?_plainState _
  have hkey : (sealField H (m.nonces 1) "pw_enc" pw (sealField H (m.nonces 0) "id_enc" id
      (plainState keyOid expiresAt ok note))).find? "key_enc" = none := by
    rw [find?_sealField, if_neg (by decide), find?_sealField, if_neg (by decide)]
    exact find?_plainState _
  rw [credentialState, isText_sealField (isObject_sealField (isObject_sealField
    isObject_plainState)) hkey, isText_sealField (isObject_sealField isObject_plainState) hpw,
    isText_sealField isObject_plainState hid, isText_plainState]

/-- The members of a state. -/
lemma find?_credentialState (k : String) :
    (credentialState H m keyOid id pw key expiresAt ok note).find? k =
      if k = "key_enc" then (sealed H (m.nonces 2) key).map .str
      else if k = "pw_enc" then (sealed H (m.nonces 1) pw).map .str
      else if k = "id_enc" then (sealed H (m.nonces 0) id).map .str
      else (plainState keyOid expiresAt ok note).find? k := by
  rw [credentialState, find?_sealField, find?_sealField, find?_sealField, find?_plainState]
  split
  · next hk =>
      subst hk
      exact Option.or_none
  · split
    · next hk =>
        subst hk
        exact Option.or_none
    · split
      · next hk =>
          subst hk
          exact Option.or_none
      · rfl

/-- A field that is stored is sealed. -/
lemma storeField_eq_some {state' : Draft} (h : storeField H nonce field plain state = some state') :
    state' = sealField H nonce field plain state ∧
      (plain ≠ [] → (sealed H nonce plain).isSome = true) := by
  rw [storeField] at h
  split at h
  · next hnone =>
      cases h
      refine ⟨?_, fun hplain => absurd hnone hplain⟩
      rw [sealField, sealed, if_pos hnone]
  · obtain ⟨text, htext, rfl⟩ := Option.map_eq_some_iff.mp h
    refine ⟨?_, fun _ => ?_⟩
    · rw [sealField, htext]
    · rw [htext]
      rfl

/-- The document of a store, and what it seals. -/
lemma credentialStore_eq_some (h : credentialStore H m keyOid id pw = some state) :
    state = sealField H (m.nonces 1) "pw_enc" pw
        (sealField H (m.nonces 0) "id_enc" id (.object [("oid", .str keyOid)])) ∧
      (id ≠ [] → (sealed H (m.nonces 0) id).isSome = true) ∧
      (pw ≠ [] → (sealed H (m.nonces 1) pw).isSome = true) := by
  rw [credentialStore] at h
  obtain ⟨withId, hid, h⟩ := Option.bind_eq_some_iff.mp h
  obtain ⟨withPw, hpw, h⟩ := Option.bind_eq_some_iff.mp h
  obtain ⟨rfl, hidSealed⟩ := storeField_eq_some hid
  obtain ⟨rfl, hpwSealed⟩ := storeField_eq_some hpw
  split at h
  · cases h
  · cases h
    exact ⟨rfl, hidSealed, hpwSealed⟩

/-- The members of the document of a store. -/
lemma find?_credentialStore (h : credentialStore H m keyOid id pw = some state) (k : String) :
    state.find? k = if k = "pw_enc" then (sealed H (m.nonces 1) pw).map .str
      else if k = "id_enc" then (sealed H (m.nonces 0) id).map .str
      else if k = "oid" then some (.str keyOid) else none := by
  have hoid : (Draft.object [("oid", .str keyOid)]).find? k
      = if k = "oid" then some (.str keyOid) else none := by
    simp only [Draft.find?, Draft.members, List.find?_cons, List.find?_nil]
    grind
  obtain ⟨rfl, -⟩ := credentialStore_eq_some h
  rw [find?_sealField, find?_sealField, hoid]
  split
  · next hk =>
      subst hk
      exact Option.or_none
  · split
    · next hk =>
        subst hk
        exact Option.or_none
    · rfl

end State

end Pretzel.Collectord
