import Pretzel.Library.Machine
import Pretzel.Mgmtd.SsoController

/-!
Signing in by SAML: clients that post assertions and poll for results, mgmtd,
and authd.

The messages to and from authd travel in any order and may be lost, authd
answers what it likes, and anyone polls under any number. Beside them the state
keeps who posted which assertion, to whom and for which assertion each ticket
was last handed out, and which assertion the result filed under a ticket is for.

* `ssoSignIn`: the machine.
* `CookieFor`: a poll that gives its client the cookie of an assertion's session.
* `HandedTo`, `Unused`, `TicketsKept`: a client polls under a ticket it was handed,
  and a ticket is handed out that is not in use.
* `session_to_poster`: where tickets are kept so, the cookie of an assertion's
  session goes to a client that posted it.
* `any_client_signs_in`: a result of success signs in whoever polls its ticket,
  and `stranger_signs_in`: a client that posted nothing does.
-/

namespace Pretzel.Fleet

open Nlohmann Ipc Mgmtd Reactive

/-- The clients' sign-ins. -/
structure SsoFleet (C : Type) where
  tickets : SsoTickets := {}
  auth : AuthService := {}
  requests : List (IpcMessage Payload) := []
  responses : List (String × IpcMessage Payload) := []
  posted : List (C × String) := []
  handed : AList fun _ : UInt32 => C × String := ∅
  filed : AList fun _ : UInt32 => String := ∅

/-- One step. -/
inductive SsoStep (C : Type) where
  | post (client : C) (body : Bytes)
  | verify (i : ℕ) (answer : Payload)
  | loseRequest (i : ℕ)
  | file (i : ℕ)
  | loseResponse (i : ℕ)
  | poll (client : C) (io : SsoIO) (target : Bytes)
  | session (step : AuthService.SessionStep)

/-- The assertion a request asks about, as authd reads it. -/
def assertionOf (msg : IpcMessage Payload) : String :=
  match msg.payload with
  | .json req => req.textOr "saml_response" ""
  | _ => ""

/-- authd's answer to a request. -/
def samlAcsResponse (req : IpcMessage Payload) (answer : Payload) : IpcMessage Payload :=
  { header := .build .Authd req.header.src AuthSamlAcsResponse req.header.seqNo
      IpcFlag.Response.toFlag
    payload := answer }

namespace SsoFleet

variable {C : Type} (s : SsoFleet C)

/-- A client posts a form. -/
def post (client : C) (body : Bytes) : Option (SsoFleet C) :=
  match SsoController.samlAcs body s.tickets with
  | none => none
  | some (tickets, _, none) => some { s with tickets }
  | some (tickets, _, some msg) =>
      some { s with
        tickets
        requests := s.requests ++ [msg]
        posted := s.posted ++ [(client, assertionOf msg)]
        handed := s.handed.insert msg.header.seqNo (client, assertionOf msg) }

/-- What a client's poll answers. -/
def polled (io : SsoIO) (target : Bytes) : SsoTickets × AuthService × SsoReply :=
  SsoController.samlResult io target s.tickets s.auth

end SsoFleet

/-- The sign-ins, from no ticket handed out. -/
def ssoSignIn (C : Type) : Machine (SsoFleet C) (SsoStep C) where
  init s := s.tickets = {} ∧ s.requests = [] ∧ s.responses = []
  next s l :=
    match l with
    | .post client body => s.post client body
    | .verify i answer =>
        s.requests[i]?.map fun req =>
          { s with
            requests := s.requests.eraseIdx i
            responses := s.responses ++ [(assertionOf req, samlAcsResponse req answer)] }
    | .loseRequest i => some { s with requests := s.requests.eraseIdx i }
    | .file i =>
        s.responses[i]?.map fun response =>
          { s with
            tickets := AuthService.handleEvent response.2 s.tickets
            responses := s.responses.eraseIdx i
            filed := s.filed.insert response.2.header.seqNo response.1 }
    | .loseResponse i => some { s with responses := s.responses.eraseIdx i }
    | .poll _ io target =>
        some { s with tickets := (s.polled io target).1, auth := (s.polled io target).2.1 }
    | .session step => some { s with auth := s.auth.sessionStep step }

/-- The step gives a client the cookie of the session of an assertion. -/
def CookieFor {C : Type} (s : SsoFleet C) (l : SsoStep C) (client : C) (assertion : String) : Prop :=
  match l with
  | .poll c io target =>
      c = client ∧ (s.polled io target).2.2.setCookie ≠ none ∧
        s.filed.lookup (ticketOf target) = some assertion
  | _ => False

instance {C : Type} [DecidableEq C] (s : SsoFleet C) (l : SsoStep C) (client : C)
    (assertion : String) : Decidable (CookieFor s l client assertion) :=
  match l with
  | .poll _ _ _ => inferInstanceAs (Decidable (_ ∧ _ ∧ _))
  | .post _ _ | .verify _ _ | .loseRequest _ | .file _ | .loseResponse _ | .session _ =>
      inferInstanceAs (Decidable False)

/-! ### The condition -/

/-- A result that waits under the ticket was handed out to the client. -/
def HandedTo {C : Type} (s : SsoFleet C) (client : C) (ticket : UInt32) : Prop :=
  s.tickets.ssoResults.lookup ticket ≠ none → (s.handed.lookup ticket).map Prod.fst = some client

/-- Nothing is on its way under the ticket, and nothing waits under it. -/
def Unused {C : Type} (s : SsoFleet C) (ticket : UInt32) : Prop :=
  (∀ req ∈ s.requests, req.header.seqNo ≠ ticket) ∧
    (∀ response ∈ s.responses, response.2.header.seqNo ≠ ticket) ∧
    s.tickets.ssoResults.lookup ticket = none

/-- A client polls under a ticket it was handed, and a ticket that is not in use
is handed out. -/
def TicketsKept {C : Type} (s : SsoFleet C) (l : SsoStep C) : Prop :=
  match l with
  | .post _ _ => Unused s s.tickets.ssoTicket
  | .poll client _ target => HandedTo s client (ticketOf target)
  | _ => True

instance {C : Type} [DecidableEq C] (s : SsoFleet C) (l : SsoStep C) :
    Decidable (TicketsKept s l) :=
  match l with
  | .post _ _ => inferInstanceAs (Decidable (_ ∧ _ ∧ _))
  | .poll _ _ _ => inferInstanceAs (Decidable (_ → _))
  | .verify _ _ | .loseRequest _ | .file _ | .loseResponse _ | .session _ =>
      inferInstanceAs (Decidable True)

/-! ### What holds in every state -/

/-- A ticket was last handed out for the assertion, to a client that posted it. -/
def HandedFor {C : Type} (s : SsoFleet C) (ticket : UInt32) (assertion : String) : Prop :=
  ∃ client, s.handed.lookup ticket = some (client, assertion) ∧ (client, assertion) ∈ s.posted

/-- What travels and waits under a ticket is about the assertion the ticket was
handed out for. -/
structure Matched {C : Type} (s : SsoFleet C) : Prop where
  requests : ∀ req ∈ s.requests, HandedFor s req.header.seqNo (assertionOf req)
  responses : ∀ response ∈ s.responses, HandedFor s response.2.header.seqNo response.1
  results : ∀ ticket r, s.tickets.ssoResults.lookup ticket = some r →
    ∃ a, s.filed.lookup ticket = some a ∧ HandedFor s ticket a

section Steps

variable {C : Type} {s s' : SsoFleet C} {l : SsoStep C}

/-- What a post leaves: nothing is sent, or the next ticket is handed out for the
text of the form. -/
lemma post_eq_some {client : C} {body : Bytes} (h : s.post client body = some s') :
    s' = s ∨ ∃ text, postedText body = some text ∧
      s' = { s with
        tickets := s.tickets.nextSsoTicket.2
        requests := s.requests ++ [samlAcsRequest s.tickets.ssoTicket text]
        posted := s.posted ++ [(client, text)]
        handed := s.handed.insert s.tickets.ssoTicket (client, text) } := by
  rw [SsoFleet.post, SsoController.samlAcs] at h
  by_cases hfield : ssoFormField body "SAMLResponse" = []
  · rw [if_pos hfield] at h
    exact .inl (Option.some.inj h).symm
  · rw [if_neg hfield] at h
    cases htext : postedText body with
    | none => rw [htext] at h; cases h
    | some text =>
        rw [htext] at h
        exact .inr ⟨text, rfl, (Option.some.inj h).symm⟩

/-- A ticket that was handed out before is so still, where another is handed out. -/
lemma HandedFor.of_post {ticket next : UInt32} {a text : String} {client : C}
    {tickets : SsoTickets} {requests : List (IpcMessage Payload)} (h : HandedFor s ticket a)
    (hne : ticket ≠ next) :
    HandedFor { s with tickets, requests, posted := s.posted ++ [(client, text)],
                       handed := s.handed.insert next (client, text) } ticket a := by
  obtain ⟨c, hhanded, hposted⟩ := h
  exact ⟨c, (AList.lookup_insert_ne hne).trans hhanded, List.mem_append_left _ hposted⟩

lemma matched_post {client : C} {body : Bytes} (hI : Matched s)
    (hfree : Unused s s.tickets.ssoTicket) (h : s.post client body = some s') : Matched s' := by
  obtain ⟨hreq, hresp, hres⟩ := hfree
  rcases post_eq_some h with rfl | ⟨text, -, rfl⟩
  · exact hI
  refine ⟨?_, ?_, ?_⟩
  · intro req hmem
    rcases List.mem_append.mp hmem with hmem | hmem
    · exact (hI.requests req hmem).of_post (hreq req hmem)
    · obtain rfl := List.mem_singleton.mp hmem
      exact ⟨client, AList.lookup_insert _, List.mem_append_right _ (List.mem_singleton_self _)⟩
  · intro response hmem
    exact (hI.responses response hmem).of_post (hresp response hmem)
  · intro ticket r hwaits
    have hne : ticket ≠ s.tickets.ssoTicket := by
      rintro rfl
      rw [show s.tickets.nextSsoTicket.2.ssoResults = s.tickets.ssoResults from rfl, hres] at hwaits
      cases hwaits
    obtain ⟨a, hfiled, hhanded⟩ := hI.results ticket r hwaits
    exact ⟨a, hfiled, hhanded.of_post hne⟩

lemma matched_verify {i : ℕ} {answer : Payload} {req : IpcMessage Payload} (hI : Matched s)
    (hreq : s.requests[i]? = some req) :
    Matched { s with
      requests := s.requests.eraseIdx i
      responses := s.responses ++ [(assertionOf req, samlAcsResponse req answer)] } := by
  refine ⟨?_, ?_, hI.results⟩
  · intro req' hmem
    exact hI.requests req' (List.mem_of_mem_eraseIdx hmem)
  · intro response hmem
    rcases List.mem_append.mp hmem with hmem | hmem
    · exact hI.responses response hmem
    · obtain rfl := List.mem_singleton.mp hmem
      exact hI.requests req (List.mem_of_getElem? hreq)

lemma matched_file {i : ℕ} {response : String × IpcMessage Payload} (hI : Matched s)
    (hresponse : s.responses[i]? = some response) :
    Matched { s with
      tickets := AuthService.handleEvent response.2 s.tickets
      responses := s.responses.eraseIdx i
      filed := s.filed.insert response.2.header.seqNo response.1 } := by
  have hhanded := hI.responses response (List.mem_of_getElem? hresponse)
  refine ⟨hI.requests, ?_, ?_⟩
  · intro response' hmem
    exact hI.responses response' (List.mem_of_mem_eraseIdx hmem)
  · intro ticket r hwaits
    obtain ⟨result, heq⟩ := AuthService.handleEvent_eq response.2 s.tickets
    rw [heq] at hwaits
    rcases SsoTickets.lookup_setSsoResult hwaits with ⟨rfl, -⟩ | ⟨hne, hwaited⟩
    · exact ⟨response.1, AList.lookup_insert _, hhanded⟩
    · obtain ⟨a, hfiled, hfor⟩ := hI.results ticket r hwaited
      exact ⟨a, (AList.lookup_insert_ne hne).trans hfiled, hfor⟩

lemma matched_poll {io : SsoIO} {target : Bytes} (hI : Matched s) :
    Matched { s with tickets := (s.polled io target).1, auth := (s.polled io target).2.1 } := by
  refine ⟨hI.requests, hI.responses, ?_⟩
  intro ticket r hwaits
  have hwaited : s.tickets.ssoResults.lookup ticket = some r := by
    rcases samlResult_tickets io target s.tickets s.auth with heq | heq
    · rwa [SsoFleet.polled, heq] at hwaits
    · rw [SsoFleet.polled, heq] at hwaits
      exact SsoTickets.lookup_takeSsoResult hwaits
  exact hI.results ticket r hwaited

/-- What travels and waits stays matched where tickets are kept. -/
lemma matched_step (hI : Matched s) (hkept : TicketsKept s l) (h : (ssoSignIn C).next s l = some s') :
    Matched s' := by
  cases l with
  | post client body => exact matched_post hI hkept h
  | verify i answer =>
      obtain ⟨req, hreq, rfl⟩ := Option.map_eq_some_iff.mp h
      exact matched_verify hI hreq
  | loseRequest i =>
      obtain rfl := Option.some.inj h
      exact ⟨fun req hmem => hI.requests req (List.mem_of_mem_eraseIdx hmem), hI.responses,
        hI.results⟩
  | file i =>
      obtain ⟨response, hresponse, rfl⟩ := Option.map_eq_some_iff.mp h
      exact matched_file hI hresponse
  | loseResponse i =>
      obtain rfl := Option.some.inj h
      exact ⟨hI.requests, fun r hmem => hI.responses r (List.mem_of_mem_eraseIdx hmem), hI.results⟩
  | poll client io target =>
      obtain rfl := Option.some.inj h
      exact matched_poll hI
  | session step =>
      obtain rfl := Option.some.inj h
      exact ⟨hI.requests, hI.responses, hI.results⟩

lemma matched_init (h : (ssoSignIn C).init s) : Matched s := by
  obtain ⟨htickets, hreq, hresp⟩ := h
  refine ⟨?_, ?_, ?_⟩
  · rw [hreq]
    intro req hmem
    cases hmem
  · rw [hresp]
    intro response hmem
    cases hmem
  · rw [htickets]
    intro ticket r hwaits
    simp at hwaits

/-- A poll under one's own ticket signs in a client that posted the assertion. -/
lemma posted_of_cookieFor {client : C} {assertion : String} (hI : Matched s) (hkept : TicketsKept s l)
    (h : CookieFor s l client assertion) : (client, assertion) ∈ s.posted := by
  cases l with
  | poll c io target =>
      obtain ⟨rfl, hcookie, hfiled⟩ := h
      obtain ⟨verdict, hwaits, -⟩ := waits_of_setCookie hcookie
      obtain ⟨a, hfiled', c', hhanded', hposted⟩ := hI.results _ _ hwaits
      have hown := hkept (by rw [hwaits]; exact Option.some_ne_none _)
      rw [hhanded', Option.map_some, Option.some.injEq] at hown
      have hsame : a = assertion := Option.some.inj (hfiled'.symm.trans hfiled)
      rwa [← hsame, ← hown]
  | post | verify | loseRequest | file | loseResponse | session => exact h.elim

/-- **A result of success signs in whoever polls its ticket.** -/
theorem any_client_signs_in {io : SsoIO} {target : Bytes} {verdict : Json} {user role assertion : String}
    {random : Vector UInt8 32} (hticket : ticketOf target ≠ 0)
    (hwaits : s.tickets.ssoResults.lookup (ticketOf target) = some (.json verdict))
    (hsuccess : verdict.valueBool "success" false = .ok true)
    (huser : verdict.valueString "username" "" = .ok user) (hrandom : io.random = some random)
    (hrole : declaredRole io.declared user = .ok role)
    (hfiled : s.filed.lookup (ticketOf target) = some assertion) (client : C) :
    CookieFor s (.poll client io target) client assertion := by
  refine ⟨rfl, ?_, hfiled⟩
  have hid : generateSessionId io.random ≠ [] := by
    rw [hrandom, Ne, generateSessionId_eq_nil]
    exact Bool.noConfusion
  have htake : s.tickets.takeSsoResult (ticketOf target) =
      (some (.json verdict), { s.tickets with
        ssoResults := s.tickets.ssoResults.erase (ticketOf target) }) := by
    rw [SsoTickets.takeSsoResult, hwaits]
  have hopen : ∃ auth, openVerdict io s.auth verdict = .ok (auth,
      .json (.obj [("redirect", .str "/home"), ("status", .str "ok")])
        (some (sessionSetCookie (generateSessionId io.random)))) := by
    simp [openVerdict, AuthService.createSsoSession, hsuccess, huser, hrole, hid, bind, Except.bind,
      pure, Except.pure]
  obtain ⟨auth, hopen⟩ := hopen
  rw [SsoFleet.polled, SsoController.samlResult, if_neg hticket, htake]
  simp only [hopen]
  exact Option.some_ne_none _

end Steps

/-! ### Runs -/

/-- **The session of an assertion goes to a client that posted it**, in every run
in which clients poll under tickets they were handed and no ticket is handed out
that is still in use. -/
theorem session_to_poster {C : Type} {s s' : SsoFleet C} {tr : List (SsoFleet C × SsoStep C)}
    (hinit : (ssoSignIn C).init s) (hrun : (ssoSignIn C).Run s tr s')
    (hkept : ∀ p ∈ tr, TicketsKept p.1 p.2) :
    ∀ p ∈ tr, ∀ client assertion, CookieFor p.1 p.2 client assertion →
      (client, assertion) ∈ p.1.posted := by
  have hmatched : ∀ p ∈ tr, Matched p.1 :=
    hrun.invariant_at (matched_init hinit) (fun _ _ _ hI hC h => matched_step hI hC h) hkept
  intro p hp client assertion h
  exact posted_of_cookieFor (hmatched p hp) (hkept p hp) h

/-- A form that posts an assertion. -/
def annasForm : Bytes := "RelayState=&SAMLResponse=dGVzdA%3D%3D".toUTF8.toList

/-- A poll of the first ticket. -/
def firstTicket : Bytes := "/api/auth/saml/result?ticket=1".toUTF8.toList

/-- authd's answer to an assertion it accepts. -/
def accepted : Payload := .json (.obj [("success", .bool true), ("username", .str "anna")])

/-- What a session is made of. -/
def sessionMade : SsoIO where
  random := some (Vector.replicate 32 7)
  now := 100
  declared := .obj [("list", .arr [])]

/-- An assertion posted, verified, and its result filed. -/
def annasPost : List (SsoStep String) :=
  [.post "anna" annasForm, .verify 0 accepted, .file 0]

/-- The client that posted it polls the ticket it was handed. -/
def annasSignIn : List (SsoStep String) := annasPost ++ [.poll "anna" sessionMade firstTicket]

/-- The law where one client signs in. -/
theorem session_to_poster_anna :
    ((ssoSignIn String).trace {} annasSignIn).any
        (fun p => decide (CookieFor p.1 p.2 "anna" "dGVzdA==")) = true ∧
      ∀ p ∈ (ssoSignIn String).trace {} annasSignIn, ∀ client assertion,
        CookieFor p.1 p.2 client assertion → (client, assertion) ∈ p.1.posted := by
  have hrun : ((ssoSignIn String).exec {} annasSignIn).map (fun _ => ()) = some () := by
    decide +kernel
  obtain ⟨t, hexec, -⟩ := Option.map_eq_some_iff.mp hrun
  have hkept : ((ssoSignIn String).trace {} annasSignIn).all
      (fun p => decide (TicketsKept p.1 p.2)) = true := by
    decide +kernel
  refine ⟨by decide +kernel, session_to_poster ⟨rfl, rfl, rfl⟩ (Machine.exec_run hexec) ?_⟩
  intro p hp
  exact of_decide_eq_true (List.all_eq_true.mp hkept p hp)

/-- **A client that posted nothing signs in**: it polls the first ticket, which
another client was handed. -/
theorem stranger_signs_in :
    ¬∀ (s s' : SsoFleet String) (tr : List (SsoFleet String × SsoStep String)),
      (ssoSignIn String).init s → (ssoSignIn String).Run s tr s' →
      ∀ p ∈ tr, ∀ client assertion, CookieFor p.1 p.2 client assertion →
        (client, assertion) ∈ p.1.posted := by
  intro hall
  have hrun : ((ssoSignIn String).exec {} annasPost).map (fun t =>
      decide (CookieFor t (.poll "ben" sessionMade firstTicket) "ben" "dGVzdA==") &&
        decide (("ben", "dGVzdA==") ∉ t.posted)) = some true := by
    decide +kernel
  obtain ⟨t, hexec, hlast⟩ := Option.map_eq_some_iff.mp hrun
  rw [Bool.and_eq_true, decide_eq_true_eq, decide_eq_true_eq] at hlast
  have hnext : (ssoSignIn String).next t (.poll "ben" sessionMade firstTicket) = some _ := rfl
  exact hlast.2 (hall _ _ _ ⟨rfl, rfl, rfl⟩ ((Machine.exec_run hexec).snoc hnext) _
    (List.mem_append_right _ (List.mem_singleton_self _)) _ _ hlast.1)

end Pretzel.Fleet
