import Pretzel.Library.Texts
import Pretzel.Mgmtd.AccountControllers

/-!
mgmtd's side of a SAML sign-in: the tickets and results `MgmtdServiceManager`
keeps, `AuthService::handleEvent`, which files authd's answer, and the two
public handlers of `mgmtd/service/web/controller/SsoController`.

* `ssoUrlDecode`, `ssoFormField`, `strtoul`, `ticketOf`: what the handlers read
  of a request.
* `SsoTickets`: the next ticket, and the results by their tickets.
* `SsoController.samlAcs`: an assertion is posted. A text that is not UTF-8
  throws where nothing catches it, and there is no answer.
* `AuthService.handleEvent`: authd's answer is filed under its `seqNo`.
* `SsoController.samlResult`: the result of a ticket is collected.
-/

namespace Pretzel.Mgmtd

open Nlohmann Ipc Texts

/-! ### What a request says -/

/-- `hexv`. -/
def hexv (h : UInt8) : Option UInt8 :=
  if 48 ≤ h && h ≤ 57 then some (h - 48)
  else if 97 ≤ h && h ≤ 102 then some (h - 97 + 10)
  else if 65 ≤ h && h ≤ 70 then some (h - 65 + 10)
  else none

/-- A character that is no escape: `+` stands for a blank. -/
def ssoPlain (c : UInt8) : UInt8 := if c = 43 then 32 else c

/-- `ssoUrlDecode`. -/
def ssoUrlDecode : Bytes → Bytes
  | [] => []
  | [c] => [ssoPlain c]
  | [c, d] => [ssoPlain c, ssoPlain d]
  | c :: h :: l :: rest =>
      if c = 37 then
        match hexv h, hexv l with
        | some hi, some lo => (hi <<< 4 ||| lo) :: ssoUrlDecode rest
        | _, _ => c :: ssoUrlDecode (h :: l :: rest)
      else ssoPlain c :: ssoUrlDecode (h :: l :: rest)

/-- `ssoFormField`: the first pair of the form under the key. -/
def ssoFormField (body : Bytes) (key : String) : Bytes :=
  let pfx := (key ++ "=").toUTF8.toList
  match (body.splitOn 38).find? pfx.isPrefixOf with
  | none => []
  | some pair => ssoUrlDecode (pair.drop pfx.length)

/-- `isspace`. -/
def isSpaceByte (c : UInt8) : Bool := c = 32 || (9 ≤ c && c ≤ 13)

/-- `strtoul`, of base ten: past the largest it is the largest. -/
def strtoul (text : Bytes) : UInt64 :=
  let text := text.dropWhile isSpaceByte
  let negative := text.head? = some 45
  let text := if negative || text.head? = some 43 then text.tail else text
  let digits := text.takeWhile fun c => 48 ≤ c && c ≤ 57
  let n := digits.foldl (fun n c => 10 * n + (c.toNat - 48)) 0
  if UInt64.size ≤ n then UInt64.ofNat (UInt64.size - 1)
  else if negative then -UInt64.ofNat n
  else UInt64.ofNat n

/-- The ticket `samlResult` reads of a target, 0 where there is none. -/
def ticketOf (target : Bytes) : UInt32 :=
  match afterFirst (textBytes "ticket=") target with
  | none => 0
  | some text => (strtoul text).toUInt32

/-! ### Tickets and results -/

/-- `IpcCmd::AuthSamlAcsRequest`. -/
def AuthSamlAcsRequest : IpcCmd := .raw 124

/-- `IpcCmd::AuthSamlAcsResponse`. -/
def AuthSamlAcsResponse : IpcCmd := .raw 125

/-- The SSO tickets of `MgmtdServiceManager`. -/
structure SsoTickets where
  ssoTicket : UInt32 := 1
  ssoResults : AList fun _ : UInt32 => Payload := ∅

namespace SsoTickets

variable (s : SsoTickets)

/-- `MgmtdServiceManager::nextSsoTicket`. -/
def nextSsoTicket : UInt32 × SsoTickets := (s.ssoTicket, { s with ssoTicket := s.ssoTicket + 1 })

/-- `MgmtdServiceManager::setSsoResult`. -/
def setSsoResult (ticket : UInt32) (resultJson : Payload) : SsoTickets :=
  let kept := if s.ssoResults.keys.length > 256 then ∅ else s.ssoResults
  { s with ssoResults := kept.insert ticket resultJson }

/-- `MgmtdServiceManager::takeSsoResult`. -/
def takeSsoResult (ticket : UInt32) : Option Payload × SsoTickets :=
  match s.ssoResults.lookup ticket with
  | none => (none, s)
  | some out => (some out, { s with ssoResults := s.ssoResults.erase ticket })

end SsoTickets

/-- The result filed where authd returned nothing. -/
def emptyResult : Payload :=
  .json (.obj [("error", .str "authd returned an empty result"), ("ok", .bool false)])

/-- `AuthService::handleEvent`, of authd's answer. -/
def AuthService.handleEvent (msg : IpcMessage Payload) (s : SsoTickets) : SsoTickets :=
  match msg.payload with
  | .empty => s.setSsoResult msg.header.seqNo emptyResult
  | payload => s.setSsoResult msg.header.seqNo payload

/-! ### The handlers -/

/-- What the SSO handlers answer: a redirect, a page, or a document with its
cookie. -/
inductive SsoReply where
  | redirect (location : String)
  | page (html : String)
  | json (body : Json) (setCookie : Option Bytes)
deriving DecidableEq

/-- The cookie of an answer. -/
def SsoReply.setCookie : SsoReply → Option Bytes
  | .json _ cookie => cookie
  | _ => none

/-- `redirectErr`. -/
def redirectErr (code : String) : SsoReply := .redirect ("/index.html?sso_error=" ++ code)

/-- The page that polls under its ticket. -/
def signingInPage (ticket : UInt32) : String :=
  "<!doctype html><html><head><meta charset=\"utf-8\"><title>Signing in…</title></head>" ++
  "<body><p style=\"font-family:sans-serif\">Signing in…</p><script>" ++
  "(function()\x7bvar t=" ++ toString ticket ++ ",n=0;" ++
  "function go()\x7bn++;if(n>40)\x7blocation.href='/index.html?sso_error=timeout';return;\x7d" ++
  "fetch('/api/auth/saml/result?ticket='+t).then(function(r)\x7breturn r.json();\x7d)" ++
  ".then(function(d)\x7b" ++
  "if(d.status==='ok')\x7blocation.href=d.redirect||'/home.html';\x7d" ++
  "else if(d.status==='error')\x7blocation.href='/index.html?sso_error='+" ++
  "encodeURIComponent(d.error||'failed');\x7d" ++
  "else\x7bsetTimeout(go,600);\x7d" ++
  "\x7d).catch(function()\x7bsetTimeout(go,900);\x7d);\x7d" ++
  "go();\x7d)();" ++
  "</script></body></html>"

/-- The text of a posted form, if it has one that `dump` takes. -/
def postedText (body : Bytes) : Option String :=
  String.fromUTF8? ⟨(ssoFormField body "SAMLResponse").toArray⟩

/-- The message that asks authd about an assertion. -/
def samlAcsRequest (ticket : UInt32) (samlResponse : String) : IpcMessage Payload :=
  { header := { src := .Mgmtd, dst := .Authd, cmd := AuthSamlAcsRequest, seqNo := ticket,
                flags := IpcFlag.Request.toFlag }
    payload := .json (.obj [("saml_response", .str samlResponse)]) }

/-- `SsoController::samlAcs`: the tickets, the reply and the message it leaves. -/
def SsoController.samlAcs (body : Bytes) (s : SsoTickets) :
    Option (SsoTickets × SsoReply × Option (IpcMessage Payload)) :=
  if ssoFormField body "SAMLResponse" = [] then some (s, redirectErr "no_saml_response", none)
  else
    let (ticket, s) := s.nextSsoTicket
    match postedText body with
    | none => none
    | some samlResponse =>
        some (s, .page (signingInPage ticket), some (samlAcsRequest ticket samlResponse))

/-- What a session made for a result meets: the random bytes, the clock and the
user section. -/
structure SsoIO where
  random : Option (Vector UInt8 32)
  now : UInt64
  declared : Json

/-- An answer that names an error. -/
def ssoError (error : String) : SsoReply :=
  .json (.obj [("error", .str error), ("status", .str "error")]) none

/-- What `samlResult` does with a verdict. -/
def openVerdict (io : SsoIO) (auth : AuthService) (verdict : Json) :
    Except JsonError (AuthService × SsoReply) := do
  let success ← verdict.valueBool "success" false
  if success then
    let user ← verdict.valueString "username" ""
    let (auth, sid) ← auth.createSsoSession io.random io.now io.declared user
    if sid = [] then return (auth, ssoError "session error")
    else
      return (auth, .json (.obj [("redirect", .str "/home"), ("status", .str "ok")])
        (some (sessionSetCookie sid)))
  else
    let error ← verdict.valueString "error" "verification failed"
    return (auth, ssoError error)

/-- `SsoController::samlResult`: the tickets, the sessions and the reply. -/
def SsoController.samlResult (io : SsoIO) (target : Bytes) (s : SsoTickets) (auth : AuthService) :
    SsoTickets × AuthService × SsoReply :=
  if ticketOf target = 0 then (s, auth, ssoError "bad ticket")
  else
    match s.takeSsoResult (ticketOf target) with
    | (none, s) => (s, auth, .json (.obj [("status", .str "pending")]) none)
    | (some (.json verdict), s) =>
        match openVerdict io auth verdict with
        | .ok (auth, reply) => (s, auth, reply)
        | .error _ => (s, auth, ssoError "bad result")
    | (some _, s) => (s, auth, ssoError "bad result")

/-! ### What they leave -/

namespace SsoTickets

variable {s : SsoTickets} {t ticket : UInt32} {r result : Payload}

/-- A result that waits after one is filed is that one, or waited before. -/
lemma lookup_setSsoResult (h : (s.setSsoResult ticket result).ssoResults.lookup t = some r) :
    t = ticket ∧ r = result ∨ t ≠ ticket ∧ s.ssoResults.lookup t = some r := by
  change ((if s.ssoResults.keys.length > 256 then ∅ else s.ssoResults).insert
    ticket result).lookup t = some r at h
  by_cases heq : t = ticket
  · subst heq
    rw [AList.lookup_insert, Option.some.injEq] at h
    exact .inl ⟨rfl, h.symm⟩
  · rw [AList.lookup_insert_ne heq] at h
    split at h
    · simp at h
    · exact .inr ⟨heq, h⟩

/-- What is collected waited, and the other results wait on. -/
lemma lookup_takeSsoResult (h : (s.takeSsoResult ticket).2.ssoResults.lookup t = some r) :
    s.ssoResults.lookup t = some r := by
  rw [takeSsoResult] at h
  split at h
  · exact h
  · by_cases heq : t = ticket
    · subst heq
      rw [AList.lookup_erase] at h
      cases h
    · rwa [AList.lookup_erase_ne heq] at h

end SsoTickets

/-- authd's answer is filed under its `seqNo`. -/
lemma AuthService.handleEvent_eq (msg : IpcMessage Payload) (s : SsoTickets) :
    ∃ result, AuthService.handleEvent msg s = s.setSsoResult msg.header.seqNo result := by
  rw [AuthService.handleEvent]
  split
  · exact ⟨_, rfl⟩
  · exact ⟨_, rfl⟩

variable {io : SsoIO} {target : Bytes} {s : SsoTickets} {auth : AuthService}

/-- A poll takes no ticket, and leaves the results it does not collect. -/
lemma samlResult_tickets (io : SsoIO) (target : Bytes) (s : SsoTickets) (auth : AuthService) :
    (SsoController.samlResult io target s auth).1 = s ∨
      (SsoController.samlResult io target s auth).1 = (s.takeSsoResult (ticketOf target)).2 := by
  rw [SsoController.samlResult]
  split
  · exact .inl rfl
  · right
    split
    · next h => rw [h]
    · next h => rw [h]; split <;> rfl
    · next h => rw [h]

/-- A poll that signs in collects a verdict of success under its ticket. -/
lemma waits_of_setCookie
    (h : (SsoController.samlResult io target s auth).2.2.setCookie ≠ none) :
    ∃ verdict, s.ssoResults.lookup (ticketOf target) = some (.json verdict) ∧
      verdict.valueBool "success" false = .ok true := by
  rw [SsoController.samlResult] at h
  split at h
  · exact absurd rfl h
  · split at h
    · exact absurd rfl h
    · next _ verdict s' htake =>
        have hwaits : s.ssoResults.lookup (ticketOf target) = some (.json verdict) := by
          rw [SsoTickets.takeSsoResult] at htake
          split at htake
          · cases htake
          · next out hout => cases htake; exact hout
        refine ⟨verdict, hwaits, ?_⟩
        split at h
        · next auth' reply hopen =>
            rw [openVerdict, except_bind_eq_ok] at hopen
            obtain ⟨success, hsuccess, hopen⟩ := hopen
            cases success with
            | true => exact hsuccess
            | false =>
                obtain ⟨error, -, hopen⟩ := except_bind_eq_ok.mp hopen
                cases hopen
                exact absurd rfl h
        · exact absurd rfl h
    · exact absurd rfl h

end Pretzel.Mgmtd
