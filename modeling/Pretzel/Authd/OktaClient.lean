import Pretzel.Library.Json
import Pretzel.Library.Texts

/-!
`authd/service/auth/OktaClient`: the sign-in with an OpenID provider.

* `OktaClient`: the configuration and the transactions under way, by their states.
* `buildAuthorizeUrl`: a transaction begun. `exchangeAndVerify`: one taken up, and
  its answer checked by `verifyIdToken`. An exception of `std::stoi` leaves them
  with what they have done.
* `Net`: what the clocks, the provider, the JSON parser and the signature check
  say to one exchange.
* `exchange_cases`: what an exchange does to the transactions.
  `nonce_of_success`: whose nonce its token carries.
-/

namespace Pretzel.Authd

open Nlohmann Texts

/-- `HttpsClient::Request`. -/
structure HttpsRequest where
  method : String := "GET"
  host : String
  port : ℕ := 443
  target : String := "/"
  body : String := ""
  contentType : String := "application/x-www-form-urlencoded"
  timeoutMs : ℤ := 5000
  verifyTls : Bool := true
deriving DecidableEq

/-- `HttpsClient::Response`. -/
structure HttpsResponse where
  ok : Bool := false
  status : ℤ := 0
  body : List UInt8 := []
  error : String := ""
deriving DecidableEq

/-- `HttpsClient::urlEncode`. -/
def HttpsClient.urlEncode (s : String) : String :=
  let hex (v : ℕ) : Char := if v < 10 then Char.ofNat (48 + v) else Char.ofNat (55 + v)
  String.ofList ((textBytes s).flatMap fun c =>
    if (65 ≤ c && c ≤ 90) || (97 ≤ c && c ≤ 122) || (48 ≤ c && c ≤ 57) || c == 45 || c == 95 ||
        c == 46 || c == 126 then
      [Char.ofNat c.toNat]
    else ['%', hex (c.toNat / 16), hex (c.toNat % 16)])

/-- `randomToken` of so many bytes: two digits for each. -/
structure RandomToken (bytes : ℕ) where
  text : String
  length : text.length = 2 * bytes

instance {bytes : ℕ} : DecidableEq (RandomToken bytes) := fun a b =>
  decidable_of_iff (a.text = b.text) (by cases a; cases b; simp)

/-- A digit of `base64UrlEncode`. -/
def base64UrlChar (v : UInt32) : Char :=
  if v < 26 then Char.ofNat (v.toNat + 65)
  else if v < 52 then Char.ofNat (v.toNat - 26 + 97)
  else if v < 62 then Char.ofNat (v.toNat - 52 + 48)
  else if v = 62 then '-'
  else '_'

/-- `base64UrlEncode`, without padding. -/
def base64UrlEncode : List UInt8 → List Char
  | [] => []
  | [x] =>
      let n := x.toUInt32 <<< 16
      [base64UrlChar (n >>> 18 &&& 63), base64UrlChar (n >>> 12 &&& 63)]
  | [x, y] =>
      let n := x.toUInt32 <<< 16 ||| y.toUInt32 <<< 8
      [base64UrlChar (n >>> 18 &&& 63), base64UrlChar (n >>> 12 &&& 63),
        base64UrlChar (n >>> 6 &&& 63)]
  | x :: y :: z :: rest =>
      let n := x.toUInt32 <<< 16 ||| y.toUInt32 <<< 8 ||| z.toUInt32
      base64UrlChar (n >>> 18 &&& 63) :: base64UrlChar (n >>> 12 &&& 63) ::
        base64UrlChar (n >>> 6 &&& 63) :: base64UrlChar (n &&& 63) :: base64UrlEncode rest

/-- A digit of `base64UrlDecode`. -/
def base64UrlVal (c : Char) : Option UInt32 :=
  if 'A' ≤ c ∧ c ≤ 'Z' then some (c.val - 65)
  else if 'a' ≤ c ∧ c ≤ 'z' then some (c.val - 97 + 26)
  else if '0' ≤ c ∧ c ≤ '9' then some (c.val - 48 + 52)
  else if c = '-' then some 62
  else if c = '_' then some 63
  else none

/-- The loop of `base64UrlDecode`: the bytes pushed from here on. -/
def base64UrlLoop : List Char → UInt32 → UInt32 → Option (List UInt8)
  | [], _, _ => some []
  | c :: rest, buf, bits =>
      if c = '=' then some []
      else
        match base64UrlVal c with
        | none => none
        | some v =>
            let buf := buf <<< 6 ||| v
            let bits := bits + 6
            if bits ≥ 8 then
              let bits := bits - 8
              (base64UrlLoop rest buf bits).map ((buf >>> bits).toUInt8 :: ·)
            else base64UrlLoop rest buf bits

/-- `base64UrlDecode`, `none` where it returns false. -/
def base64UrlDecode (input : String) : Option (List UInt8) := base64UrlLoop input.toList 0 0

/-- `splitJwt`: three parts between two dots. -/
def splitJwt (jwt : String) : Option (String × String × String) :=
  let h := jwt.toList.takeWhile (· ≠ '.')
  match jwt.toList.dropWhile (· ≠ '.') with
  | [] => none
  | _ :: rest =>
      match rest.dropWhile (· ≠ '.') with
      | [] => none
      | _ :: s =>
          if s.elem '.' then none
          else some (String.ofList h, String.ofList (rest.takeWhile (· ≠ '.')), String.ofList s)

namespace OktaClient

/-- `OktaClient::Config`. -/
structure Config where
  enabled : Bool := false
  issuer : String := ""
  clientId : String := ""
  clientSecret : String := ""
  redirectUri : String := ""
  scopes : String := "openid email profile"
  verifyTls : Bool := true
  timeoutMs : ℤ := 5000
  txnTtlSec : UInt64 := 300
deriving DecidableEq

/-- `OktaClient::Result`. -/
structure Result where
  success : Bool := false
  username : String := ""
  error : String := ""
deriving DecidableEq

/-- `OktaClient::StartResult`. -/
structure StartResult where
  success : Bool := false
  authorizeUrl : String := ""
  state : String := ""
  error : String := ""
deriving DecidableEq

/-- `OktaClient::Txn`. -/
structure Txn where
  nonce : String
  codeVerifier : String
  expiresAt : UInt64
deriving DecidableEq

/-- `OktaClient::Endpoint`. -/
structure Endpoint where
  host : String
  port : ℕ := 443
  basePath : String
deriving DecidableEq

/-- `std::stoi` has thrown. -/
inductive Thrown where
  | stoi
deriving DecidableEq

/-- `parseIssuer`. -/
def parseIssuer (issuer : String) : Except Thrown (Option Endpoint) :=
  if !"https://".toList.isPrefixOf issuer.toList then .ok none
  else
    let rest := issuer.toList.drop 8
    let hostport := rest.takeWhile (· ≠ '/')
    let basePath := rest.dropWhile (· ≠ '/')
    let host := hostport.takeWhile (· ≠ ':')
    let port : Except Thrown ℕ := match hostport.dropWhile (· ≠ ':') with
      | [] => .ok 443
      | _ :: text => (portOf text).elim (.error .stoi) .ok
    match port with
    | .error e => .error e
    | .ok port =>
        if host = [] then .ok none
        else
          let basePath := if basePath.getLast? = some '/' then basePath.dropLast else basePath
          .ok (some { host := String.ofList host, port, basePath := String.ofList basePath })

end OktaClient

open OktaClient in
/-- The members of `OktaClient`: the transactions are at most one for each state. -/
structure OktaClient where
  cfg : Config := {}
  txns : List (String × Txn) := []
deriving DecidableEq

namespace OktaClient

def configure (cfg : Config) : OktaClient := { cfg }

def pruneExpired (now : UInt64) (c : OktaClient) : OktaClient :=
  { c with txns := c.txns.filter fun p => !(p.2.expiresAt < now) }

/-- `m_txns.erase`. -/
def eraseTxn (state : String) (txns : List (String × Txn)) : List (String × Txn) :=
  txns.filter fun p => p.1 ≠ state

/-- What `buildAuthorizeUrl` draws. -/
structure Draws where
  nonce : RandomToken 16
  codeVerifier : RandomToken 32
  state : RandomToken 16
deriving DecidableEq

/-- The address the browser is sent to. -/
def authorizeUrl (sha256Raw : List UInt8 → List UInt8) (cfg : Config) (ep : Endpoint)
    (draws : Draws) : String :=
  let challenge := String.ofList (base64UrlEncode (sha256Raw (textBytes draws.codeVerifier.text)))
  "https://" ++ ep.host ++ (if ep.port ≠ 443 then ":" ++ toString ep.port else "") ++ ep.basePath ++
    "/v1/authorize" ++ "?client_id=" ++ HttpsClient.urlEncode cfg.clientId ++
    "&response_type=code" ++ "&scope=" ++ HttpsClient.urlEncode cfg.scopes ++
    "&redirect_uri=" ++ HttpsClient.urlEncode cfg.redirectUri ++ "&state=" ++ draws.state.text ++
    "&nonce=" ++ draws.nonce.text ++ "&code_challenge=" ++ challenge ++
    "&code_challenge_method=S256"

/-- `buildAuthorizeUrl` at the given time. -/
def buildAuthorizeUrl (sha256Raw : List UInt8 → List UInt8) (t : UInt64) (draws : Draws)
    (c : OktaClient) : Except Thrown StartResult × OktaClient :=
  if !c.cfg.enabled then (.ok { error := "oidc disabled" }, c)
  else
    match parseIssuer c.cfg.issuer with
    | .error e => (.error e, c)
    | .ok none => (.ok { error := "bad issuer" }, c)
    | .ok (some ep) =>
        let c := c.pruneExpired t
        let txn : Txn := { nonce := draws.nonce.text, codeVerifier := draws.codeVerifier.text
                           expiresAt := t + c.cfg.txnTtlSec }
        (.ok { success := true, authorizeUrl := authorizeUrl sha256Raw c.cfg ep draws
               state := draws.state.text },
          { c with txns := (draws.state.text, txn) :: eraseTxn draws.state.text c.txns })

/-- What an exchange meets: the clock at its start and at the check of the claims,
the provider, the JSON parser with the texts of its exceptions, and the check of a
signature by its signing input, itself and the key it names. -/
structure Net where
  now : UInt64
  claimsNow : UInt64
  send : HttpsRequest → HttpsResponse
  parse : List UInt8 → Except String Json
  what : JsonError → String
  verifySignatureRs256 : String → String → String → Except String Unit

/-- What a `catch` makes of an exception. -/
def caught {α : Type} (text : String) (net : Net) (x : Except JsonError α) : Except String α :=
  x.mapError fun e => text ++ net.what e

/-- A check, with its error. -/
def require (ok : Bool) (error : String) : Except String Unit := if ok then .ok () else .error error

/-- What the `catch` of the claims makes of an exception. -/
def claimsCaught {α : Type} (net : Net) (x : Except JsonError α) : Except String α :=
  caught "claims parse: " net x

/-- The key that signed the token, by its header. -/
def readHeader (net : Net) (bytes : List UInt8) : Except String String := do
  let hdr ← (net.parse bytes).mapError fun what => "header parse: " ++ what
  require ((← caught "header parse: " net (hdr.valueString "alg" "")) = "RS256") "unexpected alg"
  let kid ← caught "header parse: " net (hdr.valueString "kid" "")
  require (kid ≠ "") "no kid"
  return kid

/-- The audience of the claims has the client. -/
def audienceOk (cfg : Config) (claims : Json) : Bool :=
  match claims.find? "aud" with
  | some (.str aud) => aud = cfg.clientId
  | some (.arr auds) => auds.any fun a => a = .str cfg.clientId
  | _ => false

/-- The times of the claims. -/
def checkTimes (net : Net) (claims : Json) : Except String Unit := do
  let exp ← claimsCaught net (claims.valueUnsigned 64 "exp" 0)
  require (net.claimsNow.toNat < exp) "expired"
  match claims.find? "nbf" with
  | none => .ok ()
  | some nbf => do
      let nbf ← claimsCaught net (nbf.getUnsigned 64)
      require (nbf ≤ (net.claimsNow + 60).toNat) "not yet valid"

/-- The nonce of the claims. -/
def checkNonce (net : Net) (expectedNonce : String) (claims : Json) : Except String Unit :=
  if expectedNonce = "" then .ok ()
  else do
    let nonce ← claimsCaught net (claims.valueString "nonce" "")
    require (nonce = expectedNonce) "nonce mismatch"

/-- A text of the claims, where there is none yet. -/
def orClaim (net : Net) (claims : Json) (key email : String) : Except String String :=
  if email = "" then claimsCaught net (claims.valueString key "") else .ok email

/-- The claims checked: the name they give. -/
def checkClaims (cfg : Config) (net : Net) (expectedNonce : String) (claims : Json) :
    Except String String := do
  let iss ← claimsCaught net (claims.valueString "iss" "")
  require (iss = cfg.issuer) "iss mismatch"
  require (audienceOk cfg claims) "aud mismatch"
  checkTimes net claims
  checkNonce net expectedNonce claims
  let email ← claimsCaught net (claims.valueString "email" "")
  let email ← orClaim net claims "preferred_username" email
  let email ← orClaim net claims "sub" email
  require (email ≠ "") "no email/sub claim"
  return email

/-- `verifyIdToken`: the mail address, or the error. -/
def verifyIdToken (cfg : Config) (net : Net) (idToken expectedNonce : String) :
    Except String String :=
  match splitJwt idToken with
  | none => .error "malformed jwt"
  | some (h64, p64, s64) =>
      match base64UrlDecode h64, base64UrlDecode p64 with
      | some hBytes, some pBytes => do
          let kid ← readHeader net hBytes
          net.verifySignatureRs256 (h64 ++ "." ++ p64) s64 kid
          let claims ← (net.parse pBytes).mapError fun what => "claims parse: " ++ what
          checkClaims cfg net expectedNonce claims
      | _, _ => .error "base64url decode failed"

/-- The request for a token. -/
def tokenRequest (cfg : Config) (ep : Endpoint) (code : String) (txn : Txn) : HttpsRequest :=
  { method := "POST", host := ep.host, port := ep.port, target := ep.basePath ++ "/v1/token"
    body := "grant_type=authorization_code" ++ "&code=" ++ HttpsClient.urlEncode code ++
      "&redirect_uri=" ++ HttpsClient.urlEncode cfg.redirectUri ++
      "&client_id=" ++ HttpsClient.urlEncode cfg.clientId ++
      "&client_secret=" ++ HttpsClient.urlEncode cfg.clientSecret ++
      "&code_verifier=" ++ txn.codeVerifier
    verifyTls := cfg.verifyTls, timeoutMs := cfg.timeoutMs }

/-- The token in the answer of the provider, or what the `catch` says. -/
def idTokenOf (net : Net) (resp : HttpsResponse) : Except String String := do
  let j ← net.parse resp.body
  (j.valueString "id_token" "").mapError net.what

/-- The part of `exchangeAndVerify` behind the transaction. -/
def finishExchange (cfg : Config) (net : Net) (code : String) (txn : Txn) :
    Except Thrown Result :=
  match parseIssuer cfg.issuer with
  | .error e => .error e
  | .ok none => .ok { error := "bad issuer" }
  | .ok (some ep) =>
      let resp := net.send (tokenRequest cfg ep code txn)
      if !resp.ok then
        .ok { error := "token endpoint failed: " ++
                (if resp.error = "" then "status " ++ toString resp.status else resp.error) }
      else
        match idTokenOf net resp with
        | .error what => .ok { error := "token response parse error: " ++ what }
        | .ok idToken =>
            if idToken = "" then .ok { error := "no id_token in token response" }
            else
              match verifyIdToken cfg net idToken txn.nonce with
              | .error err => .ok { error := "id_token verification failed: " ++ err }
              | .ok email => .ok { success := true, username := email }

/-- The transaction an exchange takes up. -/
def takenUp (now : UInt64) (state : String) (c : OktaClient) : Option Txn :=
  if c.cfg.enabled then (c.pruneExpired now).txns.lookup state else none

/-- `exchangeAndVerify`. -/
def exchangeAndVerify (net : Net) (code state : String) (c : OktaClient) :
    Except Thrown Result × OktaClient :=
  if !c.cfg.enabled then (.ok { error := "oidc disabled" }, c)
  else
    let c := c.pruneExpired net.now
    match c.txns.lookup state with
    | none => (.ok { error := "unknown or expired state" }, c)
    | some txn => (finishExchange c.cfg net code txn, { c with txns := eraseTxn state c.txns })

/-! ### What an exchange does -/

/-- **What an exchange does to the transactions**: the one it takes up is gone,
whatever comes of it; else only those that have expired are. -/
lemma exchange_cases (net : Net) (code state : String) (c : OktaClient) :
    (takenUp net.now state c = none ∧
      (∀ p ∈ (exchangeAndVerify net code state c).2.txns, p ∈ c.txns) ∧
      ∃ error, (exchangeAndVerify net code state c).1 = .ok { error }) ∨
    ∃ txn, takenUp net.now state c = some txn ∧ (state, txn) ∈ c.txns ∧ net.now ≤ txn.expiresAt ∧
      (exchangeAndVerify net code state c).1 = finishExchange c.cfg net code txn ∧
      ∀ p ∈ (exchangeAndVerify net code state c).2.txns, p ∈ c.txns ∧ p.1 ≠ state := by
  rw [takenUp, exchangeAndVerify]
  cases henabled : c.cfg.enabled with
  | false => exact .inl ⟨rfl, fun p hp => hp, _, rfl⟩
  | true =>
      have hpruned : ∀ p ∈ (c.pruneExpired net.now).txns, p ∈ c.txns ∧ net.now ≤ p.2.expiresAt := by
        intro p hp
        obtain ⟨hmem, hlive⟩ := List.mem_filter.mp hp
        exact ⟨hmem, by simpa using hlive⟩
      simp only [Bool.not_true, Bool.false_eq_true, if_false, if_true]
      cases hfound : (c.pruneExpired net.now).txns.lookup state with
      | none => exact .inl ⟨rfl, fun p hp => (hpruned p hp).1, _, rfl⟩
      | some txn =>
          have hmem : (state, txn) ∈ (c.pruneExpired net.now).txns := by
            obtain ⟨before, after, hsplit, -⟩ := List.lookup_eq_some_iff.mp hfound
            rw [hsplit]
            simp
          refine .inr ⟨txn, rfl, (hpruned _ hmem).1, (hpruned _ hmem).2, rfl, fun p hp => ?_⟩
          obtain ⟨hp, hne⟩ := List.mem_filter.mp hp
          exact ⟨(hpruned p hp).1, by simpa using hne⟩

/-- What a start does to the transactions. -/
lemma start_cases (sha256Raw : List UInt8 → List UInt8) (t : UInt64) (draws : Draws)
    (c : OktaClient) :
    (buildAuthorizeUrl sha256Raw t draws c).2 = c ∨
    (∃ r, (buildAuthorizeUrl sha256Raw t draws c).1 = .ok r ∧ r.success = true ∧
        r.state = draws.state.text) ∧
      ∀ p ∈ (buildAuthorizeUrl sha256Raw t draws c).2.txns, p ∈ c.txns ∨
        p = (draws.state.text,
          { nonce := draws.nonce.text, codeVerifier := draws.codeVerifier.text
            expiresAt := t + c.cfg.txnTtlSec }) := by
  rw [buildAuthorizeUrl]
  split
  · exact .inl rfl
  · split
    · exact .inl rfl
    · exact .inl rfl
    · refine .inr ⟨⟨_, rfl, rfl, rfl⟩, fun p hp => ?_⟩
      rcases List.mem_cons.mp hp with rfl | hp
      · exact .inr rfl
      · exact .inl (List.mem_of_mem_filter (List.mem_of_mem_filter hp))

/-! ### The nonce of a token -/

/-- The payload of the token carries the nonce. -/
def CarriesNonce (net : Net) (idToken nonce : String) : Prop :=
  ∃ h p s bytes claims, splitJwt idToken = some (h, p, s) ∧ base64UrlDecode p = some bytes ∧
    net.parse bytes = .ok claims ∧ claims.valueString "nonce" "" = .ok nonce

lemma claimsCaught_eq_ok {α : Type} {net : Net} {x : Except JsonError α} {a : α} :
    claimsCaught net x = .ok a ↔ x = .ok a := by
  cases x with
  | error e => exact iff_of_false (by rintro ⟨⟩) (by rintro ⟨⟩)
  | ok b => simp [claimsCaught, caught, Except.mapError]

lemma nonce_of_checkClaims {cfg : Config} {net : Net} {nonce email : String} {claims : Json}
    (hne : nonce ≠ "") (h : checkClaims cfg net nonce claims = .ok email) :
    claims.valueString "nonce" "" = .ok nonce := by
  rw [checkClaims] at h
  obtain ⟨_, -, h⟩ := except_bind_eq_ok.mp h
  obtain ⟨_, -, h⟩ := except_bind_eq_ok.mp h
  obtain ⟨_, -, h⟩ := except_bind_eq_ok.mp h
  obtain ⟨_, -, h⟩ := except_bind_eq_ok.mp h
  obtain ⟨_, hnonce, -⟩ := except_bind_eq_ok.mp h
  rw [checkNonce, if_neg hne] at hnonce
  obtain ⟨found, hfound, hsame⟩ := except_bind_eq_ok.mp hnonce
  rw [require] at hsame
  split at hsame
  · next heq =>
      rw [of_decide_eq_true heq] at hfound
      exact claimsCaught_eq_ok.mp hfound
  · cases hsame

/-- A token that is verified against a nonce carries it. -/
lemma carriesNonce_of_verifyIdToken {cfg : Config} {net : Net} {idToken nonce email : String}
    (hne : nonce ≠ "") (h : verifyIdToken cfg net idToken nonce = .ok email) :
    CarriesNonce net idToken nonce := by
  rw [verifyIdToken] at h
  split at h
  · cases h
  · next h64 p64 s64 hsplit =>
      split at h
      · next hBytes pBytes hheader hpayload =>
          obtain ⟨_, -, h⟩ := except_bind_eq_ok.mp h
          obtain ⟨_, -, h⟩ := except_bind_eq_ok.mp h
          obtain ⟨claims, hclaims, h⟩ := except_bind_eq_ok.mp h
          refine ⟨h64, p64, s64, pBytes, claims, hsplit, hpayload, ?_, nonce_of_checkClaims hne h⟩
          cases hparse : net.parse pBytes with
          | error e => rw [hparse] at hclaims; cases hclaims
          | ok j =>
              rw [hparse] at hclaims
              exact hclaims
      · cases h

/-- The token the provider answers the transaction with carries its nonce. -/
def AnswersNonce (cfg : Config) (net : Net) (code : String) (txn : Txn) : Prop :=
  ∃ ep idToken, parseIssuer cfg.issuer = .ok (some ep) ∧
    idTokenOf net (net.send (tokenRequest cfg ep code txn)) = .ok idToken ∧
    CarriesNonce net idToken txn.nonce

/-- **Whose nonce the token of an exchange carries**: that of the transaction. -/
lemma nonce_of_success {cfg : Config} {net : Net} {code : String} {txn : Txn} {r : Result}
    (hne : txn.nonce ≠ "") (h : finishExchange cfg net code txn = .ok r) (hr : r.success = true) :
    AnswersNonce cfg net code txn := by
  have hfailed : ∀ error : String, Except.ok (ε := Thrown) { error := error : Result } ≠ .ok r := by
    rintro error ⟨⟩
    cases hr
  rw [finishExchange] at h
  split at h
  · cases h
  · exact absurd h (hfailed _)
  · next ep hep =>
      dsimp only at h
      split at h
      · exact absurd h (hfailed _)
      · split at h
        · exact absurd h (hfailed _)
        · next idToken hidToken =>
            split at h
            · exact absurd h (hfailed _)
            · split at h
              · exact absurd h (hfailed _)
              · next email hverified =>
                  exact ⟨ep, idToken, hep, hidToken, carriesNonce_of_verifyIdToken hne hverified⟩

end OktaClient

end Pretzel.Authd
