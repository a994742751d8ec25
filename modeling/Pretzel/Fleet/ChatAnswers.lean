import Pretzel.Library.Machine
import Pretzel.Mgmtd.ChatController

/-!
Chat turns: accounts that send them and poll for their answers, mgmtd, and the
assistant.

The assistant answers a call as often and with what it likes, in any order, and any
account polls under any number. Beside them the state keeps to whom each ticket was
last handed out (`none` for a call that is no turn), and whose the result, the text
and the turn are that are kept under it.

* `chatTurns`: the machine.
* `Discloses`: a poll that hands an account what is kept of another's turn.
* `PollsKept`, `Free`, `TurnsKept`: an account polls under tickets it was handed, and
  a ticket is handed out that is not in use.
* `answer_to_asker`: where tickets are kept so, what is kept of a turn goes to the
  account that sent it. `answer_to_stranger`: where they are not.
-/

namespace Pretzel.Fleet

open Nlohmann Ipc Mgmtd Reactive

/-- The accounts' turns. -/
structure ChatFleet (C : Type) where
  tickets : ChatTickets := {}
  calls : List (Option C × ChatCall) := []
  answers : List (Option C × ChatCall × Option Json) := []
  stored : List (IpcMessage Payload) := []
  handed : AList fun _ : UInt32 => Option C := ∅
  asked : AList fun _ : UInt32 => Option C := ∅
  filed : AList fun _ : UInt32 => Option C := ∅
  written : AList fun _ : UInt32 => Option C := ∅

/-- One step. -/
inductive ChatStep (C : Type) where
  | send (user : C) (ownerOid transactionId : String) (body : Option Json)
  | models
  | answer (i : ℕ) (doc : Option Json)
  | finish (i : ℕ)
  | file (i : ℕ)
  | poll (user : C) (target : Bytes)

/-- The answer is more of a text, and no result. -/
def isPartial : ChatCall → Option Json → Bool
  | .chat .., some body =>
      match body.valueBool "partial" false with
      | .ok b => b
      | .error _ => false
  | _, _ => false

namespace ChatFleet

variable {C : Type} (s : ChatFleet C)

/-- A call made under a ticket, of a turn of the account or of none. -/
def handOut (user : Option C) (tickets : ChatTickets) (call : ChatCall) : ChatFleet C :=
  { s with
    tickets
    calls := s.calls ++ [(user, call)]
    handed := s.handed.insert call.ticket user }

/-- An account sends a turn. -/
def send (user : C) (ownerOid transactionId : String) (body : Option Json) :
    Except JsonError (ChatFleet C) := do
  let (tickets, _, call) ← ChatController.send ownerOid transactionId body s.tickets
  match call with
  | none => return { s with tickets }
  | some call =>
      return { s.handOut (some user) tickets call with
               asked := s.asked.insert call.ticket (some user) }

/-- An answer is filed: more of a text, or a result. -/
def file (i : ℕ) (user : Option C) (call : ChatCall) (doc : Option Json) :
    Except JsonError (ChatFleet C) := do
  let tickets ← WebGrpcEvent.dispatch call doc s.tickets
  return { s with
    tickets
    answers := s.answers.eraseIdx i
    filed := if isPartial call doc then s.filed else s.filed.insert call.ticket user
    written := if isPartial call doc then s.written.insert call.ticket user else s.written }

end ChatFleet

/-- The turns, from no ticket handed out. -/
def chatTurns (C : Type) : Machine (ChatFleet C) (ChatStep C) where
  init s := s = {}
  next s l :=
    match l with
    | .send user ownerOid transactionId body =>
        (s.send user ownerOid transactionId body).toOption
    | .models =>
        let (tickets, _, call) := ChatController.models s.tickets
        some (s.handOut none tickets call)
    | .answer i doc =>
        s.calls[i]?.map fun c => { s with answers := s.answers ++ [(c.1, c.2, doc)] }
    | .finish i => some { s with calls := s.calls.eraseIdx i }
    | .file i =>
        match s.answers[i]? with
        | none => none
        | some (user, call, doc) => (s.file i user call doc).toOption
    | .poll _ target =>
        match ChatController.result target s.tickets with
        | .error _ => none
        | .ok (tickets, _, message) =>
            some { s with tickets, stored := s.stored ++ message.toList }

/-! ### The law and its condition -/

/-- The poll is answered with the result, or with the text written so far. -/
def Answers {C : Type} (s : ChatFleet C) (ticket : UInt32) : Prop :=
  ticket ≠ 0 ∧ (s.tickets.chatResults.lookup ticket ≠ none ∨ s.tickets.chatPartial ticket ≠ "")

/-- The step hands an account what is kept of a turn of the sender: the result, the
text where there is no result, and the turn that a result closes. -/
def Discloses {C : Type} (s : ChatFleet C) (l : ChatStep C) (user sender : C) : Prop :=
  match l with
  | .poll u target =>
      u = user ∧ chatTicketOf target ≠ 0 ∧
        ((s.tickets.chatResults.lookup (chatTicketOf target) ≠ none ∧
            (s.filed.lookup (chatTicketOf target) = some (some sender) ∨
              s.tickets.chatContexts.lookup (chatTicketOf target) ≠ none ∧
                s.asked.lookup (chatTicketOf target) = some (some sender))) ∨
          s.tickets.chatResults.lookup (chatTicketOf target) = none ∧
            s.tickets.chatPartial (chatTicketOf target) ≠ "" ∧
            s.written.lookup (chatTicketOf target) = some (some sender))
  | _ => False

/-- A ticket that is polled where something waits under it, and that was last handed
out for a turn, was handed to the account. -/
def PollsKept {C : Type} (s : ChatFleet C) (user : C) (ticket : UInt32) : Prop :=
  Answers s ticket → ∀ sender, s.handed.lookup ticket = some (some sender) → sender = user

/-- Nothing is on its way under the ticket, and nothing is kept under it. -/
def Free {C : Type} (s : ChatFleet C) (ticket : UInt32) : Prop :=
  (∀ c ∈ s.calls, c.2.ticket ≠ ticket) ∧ (∀ a ∈ s.answers, a.2.1.ticket ≠ ticket) ∧
    s.tickets.chatResults.lookup ticket = none ∧ s.tickets.chatContexts.lookup ticket = none ∧
    s.tickets.chatPartials.lookup ticket = none

/-- An account polls under tickets it was handed, and a ticket that is not in use is
handed out. -/
def TurnsKept {C : Type} (s : ChatFleet C) (l : ChatStep C) : Prop :=
  match l with
  | .send _ _ _ _ | .models => Free s s.tickets.chatTicket
  | .poll user target => PollsKept s user (chatTicketOf target)
  | _ => True

section Decide

variable {C : Type} [DecidableEq C]

lemma pollsKept_iff (s : ChatFleet C) (user : C) (ticket : UInt32) :
    (Answers s ticket → (s.handed.lookup ticket).join.all (· = user) = true) ↔
      PollsKept s user ticket := by
  refine forall_congr' fun _ => ?_
  constructor
  · intro h sender hsender
    rw [hsender] at h
    simpa using h
  · intro h
    cases hhanded : s.handed.lookup ticket with
    | none => rfl
    | some owner =>
        cases owner with
        | none => rfl
        | some sender => simpa using h sender hhanded

instance (s : ChatFleet C) (ticket : UInt32) : Decidable (Answers s ticket) :=
  inferInstanceAs (Decidable (_ ∧ (¬_ ∨ ¬_)))

instance (s : ChatFleet C) (user : C) (ticket : UInt32) : Decidable (PollsKept s user ticket) :=
  decidable_of_iff _ (pollsKept_iff s user ticket)

instance (s : ChatFleet C) (ticket : UInt32) : Decidable (Free s ticket) :=
  inferInstanceAs (Decidable ((∀ c ∈ s.calls, ¬_) ∧ (∀ a ∈ s.answers, ¬_) ∧ _ ∧ _ ∧ _))

instance (s : ChatFleet C) (l : ChatStep C) : Decidable (TurnsKept s l) :=
  match l with
  | .send _ _ _ _ | .models => inferInstanceAs (Decidable (Free _ _))
  | .poll _ _ => inferInstanceAs (Decidable (PollsKept _ _ _))
  | .answer _ _ | .finish _ | .file _ => inferInstanceAs (Decidable True)

instance (s : ChatFleet C) (l : ChatStep C) (user sender : C) :
    Decidable (Discloses s l user sender) :=
  match l with
  | .poll _ _ => inferInstanceAs (Decidable (_ ∧ ¬_ ∧ ((¬_ ∧ (_ ∨ ¬_ ∧ _)) ∨ _ ∧ ¬_ ∧ _)))
  | .send _ _ _ _ | .models | .answer _ _ | .finish _ | .file _ => inferInstanceAs (Decidable False)

end Decide

/-! ### What holds in every state -/

/-- What travels and what is kept under a ticket is of whom it was handed to. -/
structure Owned {C : Type} (s : ChatFleet C) : Prop where
  calls : ∀ c ∈ s.calls, s.handed.lookup c.2.ticket = some c.1
  answers : ∀ a ∈ s.answers, s.handed.lookup a.2.1.ticket = some a.1
  results : ∀ ticket, s.tickets.chatResults.lookup ticket ≠ none →
    s.filed.lookup ticket = s.handed.lookup ticket
  texts : ∀ ticket, s.tickets.chatPartials.lookup ticket ≠ none →
    s.written.lookup ticket = s.handed.lookup ticket
  turns : ∀ ticket, s.tickets.chatContexts.lookup ticket ≠ none →
    s.asked.lookup ticket = s.handed.lookup ticket

section Steps

variable {C : Type} {s s' : ChatFleet C} {l : ChatStep C}

/-- What a map has that may have been cleared and got an entry. -/
lemma lookup_bounded_insert {β : Type} {m : AList fun _ : UInt32 => β} {k t : UInt32} {v : β}
    (h : ((bounded m).insert k v).lookup t ≠ none) : t = k ∨ t ≠ k ∧ m.lookup t ≠ none := by
  by_cases heq : t = k
  · exact .inl heq
  · rw [AList.lookup_insert_ne heq, bounded] at h
    split at h
    · exact absurd (AList.lookup_empty t) h
    · exact .inr ⟨heq, h⟩

/-- What a map has that has lost an entry. -/
lemma lookup_erase_ne_none {β : Type} {m : AList fun _ : UInt32 => β} {k t : UInt32}
    (h : (m.erase k).lookup t ≠ none) : m.lookup t ≠ none := by
  by_cases heq : t = k
  · subst heq
    exact absurd (AList.lookup_erase t m) h
  · rwa [AList.lookup_erase_ne heq] at h

/-- What a send leaves: nothing is sent, or the next ticket is handed out. -/
lemma send_eq_ok {user : C} {ownerOid transactionId : String} {body : Option Json}
    (h : s.send user ownerOid transactionId body = .ok s') :
    s' = s ∨ ∃ call ctx, call.ticket = s.tickets.chatTicket ∧
      s' = { s.handOut (some user) (s.tickets.nextChatTicket.2.setChatContext s.tickets.chatTicket ctx)
               call with asked := s.asked.insert call.ticket (some user) } := by
  rw [ChatFleet.send] at h
  obtain ⟨⟨tickets, resp, call⟩, hsend, h⟩ := except_bind_eq_ok.mp h
  rcases send_cases hsend with ⟨rfl, rfl⟩ | ⟨made, ctx, hticket, rfl, rfl⟩
  · exact .inl (Except.ok.inj h).symm
  · exact .inr ⟨made, ctx, hticket, (Except.ok.inj h).symm⟩

/-- What an answer leaves: more of the text, or a result. -/
lemma file_eq_ok {i : ℕ} {user : Option C} {call : ChatCall} {doc : Option Json}
    (h : s.file i user call doc = .ok s') :
    (isPartial call doc = true ∧ ∃ text,
      s' = { s with tickets := s.tickets.appendChatPartial call.ticket text
                    answers := s.answers.eraseIdx i
                    written := s.written.insert call.ticket user }) ∨
    isPartial call doc = false ∧
      s' = { s with tickets := s.tickets.setChatResult call.ticket doc
                    answers := s.answers.eraseIdx i
                    filed := s.filed.insert call.ticket user } := by
  rw [ChatFleet.file] at h
  obtain ⟨tickets, htickets, h⟩ := except_bind_eq_ok.mp h
  obtain rfl := Except.ok.inj h
  cases call with
  | unary ticket =>
      cases htickets
      exact .inr ⟨rfl, rfl⟩
  | chat ticket model message systemPrompt history sessionId transactionId =>
      cases doc with
      | none =>
          cases htickets
          exact .inr ⟨rfl, rfl⟩
      | some body =>
          simp only [WebGrpcEvent.dispatch, WebGrpcEvent.onChatResponse] at htickets
          obtain ⟨b, hb, htickets⟩ := except_bind_eq_ok.mp htickets
          have hisDelta : isPartial (.chat ticket model message systemPrompt history sessionId
              transactionId) (some body) = b := by
            rw [isPartial, hb]
          cases b with
          | true =>
              rw [if_pos rfl] at htickets
              obtain ⟨text, -, htickets⟩ := except_bind_eq_ok.mp htickets
              obtain rfl := Except.ok.inj htickets
              refine .inl ⟨hisDelta, text, ?_⟩
              rw [hisDelta]
              rfl
          | false =>
              rw [if_neg Bool.false_ne_true] at htickets
              obtain rfl := Except.ok.inj htickets
              refine .inr ⟨hisDelta, ?_⟩
              rw [hisDelta]
              rfl

/-- What a poll leaves of the tickets: no more than there was. -/
lemma result_eq_ok {target : Bytes} {t t' : ChatTickets} {resp : HttpResponse}
    {message : Option (IpcMessage Payload)}
    (h : ChatController.result target t = .ok (t', resp, message)) (ticket : UInt32) :
    (t'.chatResults.lookup ticket ≠ none → t.chatResults.lookup ticket ≠ none) ∧
      (t'.chatPartials.lookup ticket ≠ none → t.chatPartials.lookup ticket ≠ none) ∧
      (t'.chatContexts.lookup ticket ≠ none → t.chatContexts.lookup ticket ≠ none) := by
  have htake : ∀ k, ((t.takeChatResult k).2.chatResults.lookup ticket ≠ none →
        t.chatResults.lookup ticket ≠ none) ∧
      ((t.takeChatResult k).2.chatPartials.lookup ticket ≠ none →
        t.chatPartials.lookup ticket ≠ none) ∧
      (t.takeChatResult k).2.chatContexts = t.chatContexts := by
    intro k
    rw [ChatTickets.takeChatResult]
    split
    · exact ⟨id, id, rfl⟩
    · exact ⟨lookup_erase_ne_none, lookup_erase_ne_none, rfl⟩
  have hcontext : ∀ (u : ChatTickets) k, (u.takeChatContext k).2.chatResults = u.chatResults ∧
      (u.takeChatContext k).2.chatPartials = u.chatPartials ∧
      ((u.takeChatContext k).2.chatContexts.lookup ticket ≠ none →
        u.chatContexts.lookup ticket ≠ none) := by
    intro u k
    rw [ChatTickets.takeChatContext]
    split
    · exact ⟨rfl, rfl, id⟩
    · exact ⟨rfl, rfl, lookup_erase_ne_none⟩
  obtain ⟨hresults, hpartials, hcontexts⟩ := htake (chatTicketOf target)
  rcases result_cases h with ⟨-, rfl, -⟩ | ⟨-, -, rfl, -⟩ | ⟨_, -, -, rfl | rfl, -⟩
  · exact ⟨id, id, id⟩
  · exact ⟨id, id, id⟩
  · exact ⟨hresults, hpartials, fun h => hcontexts ▸ h⟩
  · obtain ⟨hr, hp, hc⟩ := hcontext (t.takeChatResult (chatTicketOf target)).2 (chatTicketOf target)
    refine ⟨fun h => hresults (hr ▸ h), fun h => hpartials (hp ▸ h), fun h => ?_⟩
    exact hcontexts ▸ hc h

/-- What travels and what is kept is owned by whom it was handed to, after a ticket
that was free is handed out. -/
lemma owned_handOut {user : Option C} {tickets : ChatTickets} {call : ChatCall}
    {asked : AList fun _ : UInt32 => Option C} (hI : Owned s) (hfree : Free s call.ticket)
    (hresults : tickets.chatResults = s.tickets.chatResults)
    (htexts : tickets.chatPartials = s.tickets.chatPartials)
    (hturns : ∀ ticket, tickets.chatContexts.lookup ticket ≠ none →
      asked.lookup ticket = (s.handed.insert call.ticket user).lookup ticket) :
    Owned { s.handOut user tickets call with asked := asked } := by
  obtain ⟨hcalls, hanswers, hnoResult, -, hnoText⟩ := hfree
  have hother : ∀ ticket, ticket ≠ call.ticket →
      (s.handed.insert call.ticket user).lookup ticket = s.handed.lookup ticket :=
    fun ticket hne => AList.lookup_insert_ne hne
  refine ⟨?_, ?_, ?_, ?_, hturns⟩
  · intro c hc
    rcases List.mem_append.mp hc with hc | hc
    · exact (hother _ (hcalls c hc)).trans (hI.calls c hc)
    · obtain rfl := List.mem_singleton.mp hc
      exact AList.lookup_insert _
  · intro a ha
    exact (hother _ (hanswers a ha)).trans (hI.answers a ha)
  · intro ticket hkept
    have hkept : s.tickets.chatResults.lookup ticket ≠ none := hresults ▸ hkept
    have hne : ticket ≠ call.ticket := by
      rintro rfl
      exact hkept hnoResult
    exact (hI.results ticket hkept).trans (hother _ hne).symm
  · intro ticket hkept
    have hkept : s.tickets.chatPartials.lookup ticket ≠ none := htexts ▸ hkept
    have hne : ticket ≠ call.ticket := by
      rintro rfl
      exact hkept hnoText
    exact (hI.texts ticket hkept).trans (hother _ hne).symm

lemma owned_send {user : C} {ownerOid transactionId : String} {body : Option Json} (hI : Owned s)
    (hfree : Free s s.tickets.chatTicket) (h : s.send user ownerOid transactionId body = .ok s') :
    Owned s' := by
  rcases send_eq_ok h with rfl | ⟨call, ctx, hticket, rfl⟩
  · exact hI
  · have hnoTurn := hfree.2.2.2.1
    rw [← hticket] at hfree
    refine owned_handOut hI hfree rfl rfl fun ticket hkept => ?_
    rcases lookup_bounded_insert hkept with rfl | ⟨hne, hkept⟩
    · rw [hticket, AList.lookup_insert, AList.lookup_insert]
    · have hne : ticket ≠ call.ticket := hticket ▸ hne
      rw [AList.lookup_insert_ne hne, AList.lookup_insert_ne hne]
      exact hI.turns ticket hkept

lemma owned_models (hI : Owned s) (hfree : Free s s.tickets.chatTicket) :
    Owned (s.handOut none (ChatController.models s.tickets).1
      (ChatController.models s.tickets).2.2) := by
  have hkept : Owned { s.handOut none (ChatController.models s.tickets).1
      (ChatController.models s.tickets).2.2 with asked := s.asked } := by
    refine owned_handOut hI hfree rfl rfl fun ticket hkept => ?_
    have hne : ticket ≠ s.tickets.chatTicket := by
      rintro rfl
      exact hkept hfree.2.2.2.1
    exact (hI.turns ticket hkept).trans (AList.lookup_insert_ne hne).symm
  exact hkept

lemma owned_file {i : ℕ} {user : Option C} {call : ChatCall} {doc : Option Json} (hI : Owned s)
    (hanswer : s.answers[i]? = some (user, call, doc)) (h : s.file i user call doc = .ok s') :
    Owned s' := by
  have hhanded := hI.answers _ (List.mem_of_getElem? hanswer)
  rcases file_eq_ok h with ⟨-, text, rfl⟩ | ⟨-, rfl⟩
  · refine ⟨hI.calls, fun a ha => hI.answers a (List.mem_of_mem_eraseIdx ha), hI.results,
      fun ticket hkept => ?_, hI.turns⟩
    rcases lookup_bounded_insert hkept with rfl | ⟨hne, hkept⟩
    · exact (AList.lookup_insert _).trans hhanded.symm
    · exact (AList.lookup_insert_ne hne).trans (hI.texts ticket hkept)
  · refine ⟨hI.calls, fun a ha => hI.answers a (List.mem_of_mem_eraseIdx ha),
      fun ticket hkept => ?_, hI.texts, hI.turns⟩
    rcases lookup_bounded_insert hkept with rfl | ⟨hne, hkept⟩
    · exact (AList.lookup_insert _).trans hhanded.symm
    · exact (AList.lookup_insert_ne hne).trans (hI.results ticket hkept)

/-- Every step keeps what is owned, where tickets are kept. -/
lemma owned_step (hI : Owned s) (hkept : TurnsKept s l) (h : (chatTurns C).next s l = some s') :
    Owned s' := by
  cases l with
  | send user ownerOid transactionId body =>
      cases hsend : s.send user ownerOid transactionId body with
      | error e => simp only [chatTurns, hsend] at h; cases h
      | ok t =>
          simp only [chatTurns, hsend] at h
          obtain rfl := Option.some.inj h
          exact owned_send hI hkept hsend
  | models =>
      obtain rfl := Option.some.inj h
      exact owned_models hI hkept
  | answer i doc =>
      obtain ⟨c, hc, rfl⟩ := Option.map_eq_some_iff.mp h
      refine ⟨hI.calls, fun a ha => ?_, hI.results, hI.texts, hI.turns⟩
      rcases List.mem_append.mp ha with ha | ha
      · exact hI.answers a ha
      · obtain rfl := List.mem_singleton.mp ha
        exact hI.calls c (List.mem_of_getElem? hc)
  | finish i =>
      obtain rfl := Option.some.inj h
      exact ⟨fun c hc => hI.calls c (List.mem_of_mem_eraseIdx hc), hI.answers, hI.results, hI.texts,
        hI.turns⟩
  | file i =>
      cases hanswer : s.answers[i]? with
      | none => simp only [chatTurns, hanswer] at h; cases h
      | some a =>
          obtain ⟨user, call, doc⟩ := a
          simp only [chatTurns, hanswer] at h
          cases hfile : s.file i user call doc with
          | error e => rw [hfile] at h; cases h
          | ok t =>
              rw [hfile] at h
              obtain rfl := Option.some.inj h
              exact owned_file hI hanswer hfile
  | poll user target =>
      cases hresult : ChatController.result target s.tickets with
      | error e => simp only [chatTurns, hresult] at h; cases h
      | ok r =>
          obtain ⟨tickets, resp, message⟩ := r
          simp only [chatTurns, hresult] at h
          obtain rfl := Option.some.inj h
          refine ⟨hI.calls, hI.answers, fun ticket hleft => ?_, fun ticket hleft => ?_,
            fun ticket hleft => ?_⟩
          · exact hI.results ticket ((result_eq_ok hresult ticket).1 hleft)
          · exact hI.texts ticket ((result_eq_ok hresult ticket).2.1 hleft)
          · exact hI.turns ticket ((result_eq_ok hresult ticket).2.2 hleft)

/-- A poll under one's own ticket is handed one's own turn. -/
lemma sender_of_discloses {user sender : C} (hI : Owned s) (hkept : TurnsKept s l)
    (h : Discloses s l user sender) : user = sender := by
  cases l with
  | poll u target =>
      obtain ⟨rfl, hticket, hkeeps⟩ := h
      have htext : s.tickets.chatPartial (chatTicketOf target) ≠ "" →
          s.tickets.chatPartials.lookup (chatTicketOf target) ≠ none := by
        intro hne hnone
        rw [ChatTickets.chatPartial, hnone] at hne
        exact hne rfl
      rcases hkeeps with ⟨hwaits, hfiled | ⟨hturn, hasked⟩⟩ | ⟨-, hwritten, hof⟩
      · have hhanded := (hI.results _ hwaits).symm.trans hfiled
        exact (hkept ⟨hticket, .inl hwaits⟩ sender hhanded).symm
      · have hhanded := (hI.turns _ hturn).symm.trans hasked
        exact (hkept ⟨hticket, .inl hwaits⟩ sender hhanded).symm
      · have hhanded := (hI.texts _ (htext hwritten)).symm.trans hof
        exact (hkept ⟨hticket, .inr hwritten⟩ sender hhanded).symm
  | send | models | answer | finish | file => exact h.elim

end Steps

/-! ### Runs -/

/-- anna's turn. -/
def annasTurn : Json :=
  .obj [("answer_oid", .str "a1"), ("message", .str "who is on the vpn?"),
    ("question_oid", .str "q1"), ("session_id", .str "s1")]

/-- The assistant's answer. -/
def assistantAnswer : Json := .obj [("ok", .bool true), ("reply", .str "anna, from home")]

/-- A poll of the first ticket. -/
def firstChatTicket : Bytes := "/api/chat/result?ticket=1".toUTF8.toList

/-- A turn sent and answered. -/
def annasTurnAnswered : List (ChatStep String) :=
  [.send "anna" "o1" "txn" (some annasTurn), .answer 0 (some assistantAnswer), .file 0]

/-- The account that asked polls. -/
def annasPoll : List (ChatStep String) := annasTurnAnswered ++ [.poll "anna" firstChatTicket]

end Pretzel.Fleet
