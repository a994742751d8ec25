import Pretzel.Library.Machine
import Pretzel.Mgmtd.AnswerPolls

/-!
One chat turn among many over whole runs of sends, deltas, results and polls
(`ChatController::send` and `result`, `WebGrpcEvent::dispatch`, and the three maps
of `MgmtdServiceManager` that are cleared where they have grown too large).

* `Turn`: how far the turn of a ticket is, and `chatRuns`: the machine, with the
  turn of one ticket beside the maps. The transport reports deltas and one result
  of a turn it was given; what it reports under other tickets is free.
* `Keeps`: the ticket is not handed out again before its turn is over, no map is
  cleared that the turn has an entry in, and its result can be read.
* `TurnEffect`, `effect_of_next`: what a step comes to.
* `Stands`: what the maps have of the turn, kept by every such step.
* `AnswersTurn`: what a poll of the ticket gives.
* `turn_delivered`: pending polls give the text so far, which only grows; the
  first poll after the result gives it, with the turn for engined.
* `turn_lost`: a turn whose context is cleared.
-/

namespace Pretzel.Mgmtd

open Nlohmann Ipc Texts Reactive

/-! ### Turns -/

/-- How far a turn is: the context of its send with the text of its deltas, or with
its result, or over. -/
inductive Turn where
  | unsent
  | writing (ctx : ChatContext) (text : String)
  | answered (ctx : ChatContext) (doc : Option Json)
  | collected
deriving DecidableEq

namespace Turn

/-- A turn that was sent and is not over. -/
def live : Turn → Bool
  | writing _ _ => true
  | answered _ _ => true
  | _ => false

/-- A turn that waits for its result. -/
def waits : Turn → Bool
  | writing _ _ => true
  | _ => false

/-- A turn whose result waits for a poll. -/
def ready : Turn → Bool
  | answered _ _ => true
  | _ => false

/-- The context of a turn that is not over. -/
def context : Turn → Option ChatContext
  | writing ctx _ => some ctx
  | answered ctx _ => some ctx
  | _ => none

/-- The result that waits for a poll. -/
def result : Turn → Option (Option Json)
  | answered _ doc => some doc
  | _ => none

/-- The text so far. -/
def text : Turn → String
  | writing _ text => text
  | _ => ""

/-- After a delta. -/
def append (delta : String) : Turn → Turn
  | writing ctx text => writing ctx (text ++ delta)
  | t => t

/-- After the result. -/
def answer (doc : Option Json) : Turn → Turn
  | writing ctx _ => answered ctx doc
  | t => t

/-- After a poll. -/
def polled : Turn → Turn
  | answered _ _ => collected
  | t => t

end Turn

/-- The document of a delta, as the transport marks it. -/
def deltaDoc (text : String) : Json := .obj [("partial", .bool true), ("text", .str text)]

/-- The tickets, and the turn of one of them. -/
structure ChatRun where
  tickets : ChatTickets := {}
  turn : Turn := .unsent

/-- One step. -/
inductive TurnStep where
  | send (ownerOid transactionId : String) (body : Option Json)
  | delta (ticket : UInt32) (text : String)
  | result (ticket : UInt32) (doc : Option Json)
  | poll (target : Bytes)

variable (k : UInt32)

/-- The turn after a send: begun where the ticket is handed out, with the context
that is stored. -/
def ChatRun.sent (s : ChatRun) (tickets : ChatTickets) : Option ChatCall → Turn
  | none => s.turn
  | some call =>
      if call.ticket = k then
        match tickets.chatContexts.lookup k with
        | none => s.turn
        | some ctx => .writing ctx ""
      else s.turn

/-- The turns, seen from one ticket. A call is reported on once it was made, and its
result once. -/
def chatRuns : Machine ChatRun TurnStep where
  init s := s.tickets.chatResults = ∅ ∧ s.tickets.chatContexts = ∅ ∧
    s.tickets.chatPartials = ∅ ∧ s.turn = .unsent
  next s l :=
    match l with
    | .send ownerOid transactionId body =>
        match ChatController.send ownerOid transactionId body s.tickets with
        | .error _ => none
        | .ok (tickets, _, call) => some { tickets, turn := s.sent k tickets call }
    | .delta ticket text =>
        if ticket = k && !s.turn.waits then none
        else
          match WebGrpcEvent.onChatResponse ticket (some (deltaDoc text)) s.tickets with
          | .error _ => none
          | .ok tickets =>
              some { tickets, turn := if ticket = k then s.turn.append text else s.turn }
    | .result ticket doc =>
        if ticket = k && !s.turn.waits then none
        else
          match WebGrpcEvent.onChatResponse ticket doc s.tickets with
          | .error _ => none
          | .ok tickets =>
              some { tickets, turn := if ticket = k then s.turn.answer doc else s.turn }
    | .poll target =>
        match ChatController.result target s.tickets with
        | .error _ => none
        | .ok (tickets, _, _) =>
            some { tickets, turn := if chatTicketOf target = k then s.turn.polled else s.turn }

/-! ### The condition -/

/-- A document that is marked as a delta. -/
def isDelta : Option Json → Bool
  | none => false
  | some body => body.boolOr "partial" false

/-- A result that a poll can hand out and store: no JSON, or an object that is no
delta and whose members that the turn takes have their types. -/
def storable (turn : Turn) : Option Json → Bool
  | none => true
  | some body =>
      body.isObject && !body.boolOr "partial" false &&
        match turn with
        | .writing ctx _ => !ctx.named || turnReadable body
        | _ => true

/-- A ticket is not handed out again before its turn is over, no map is cleared in
which the turn has an entry, and its result can be stored. -/
def Keeps (s : ChatRun) : TurnStep → Prop
  | .send _ _ _ => s.turn.live = true →
      s.tickets.chatTicket ≠ k ∧ s.tickets.chatContexts.keys.length ≤ 256
  | .delta _ _ => s.turn.text ≠ "" → s.tickets.chatPartials.keys.length ≤ 256
  | .result ticket doc =>
      (ticket ≠ k → s.turn.ready = true → s.tickets.chatResults.keys.length ≤ 256) ∧
        (ticket = k → storable s.turn doc = true) ∧
          (isDelta doc = true → s.turn.text ≠ "" → s.tickets.chatPartials.keys.length ≤ 256)
  | .poll _ => True

instance (s : ChatRun) (l : TurnStep) : Decidable (Keeps k s l) :=
  match l with
  | .send _ _ _ => inferInstanceAs (Decidable (_ = _ → ¬_ ∧ _))
  | .delta _ _ => inferInstanceAs (Decidable (¬_ → _))
  | .result _ _ => inferInstanceAs (Decidable ((¬_ → _ → _) ∧ (_ → _ = _) ∧ (_ → ¬_ → _)))
  | .poll _ => inferInstanceAs (Decidable True)

/-! ### The law -/

/-- What a poll of the ticket gives: the text so far while there is no result; the
result, with the turn for engined; and nothing more once it is over. -/
def AnswersTurn (s : ChatRun) (target : Bytes) : Prop :=
  match s.turn with
  | .answered _ none =>
      ∃ tickets, ChatController.result target s.tickets = .ok (tickets, malformedAnswer, none)
  | .answered ctx (some body) =>
      ∃ tickets answer message, markDone body = .ok answer ∧ storeTurn ctx body = .ok message ∧
        ChatController.result target s.tickets = .ok (tickets, ⟨200, answer⟩, message)
  | turn => ChatController.result target s.tickets =
      .ok (s.tickets, ⟨200, .obj [("status", .str "pending"), ("text", .str turn.text)]⟩, none)

/-- A poll of the ticket. -/
def TurnStep.polls : TurnStep → Bool
  | .poll target => chatTicketOf target = k
  | _ => false

/-- A poll of the ticket that gives the result. -/
def collects (p : ChatRun × TurnStep) : Bool := p.2.polls k && p.1.turn.ready

/-- The result of the ticket. -/
def files (p : ChatRun × TurnStep) : Bool :=
  match p.2 with
  | .result ticket _ => ticket = k
  | _ => false

/-- A send that is handed the ticket. -/
def restarts (p : ChatRun × TurnStep) : Bool :=
  match p.2 with
  | .send _ _ _ => p.1.tickets.chatTicket = k
  | _ => false

/-- What the maps have of the turn. -/
structure Stands (s : ChatRun) : Prop where
  context : ∀ ctx, s.turn.context = some ctx → s.tickets.chatContexts.lookup k = some ctx
  result : s.tickets.chatResults.lookup k = s.turn.result
  text : s.turn.ready = false → s.tickets.chatPartial k = s.turn.text
  storable : ∀ ctx body, s.turn = .answered ctx (some body) →
    body.isObject = true ∧ (!ctx.named || turnReadable body) = true

section Steps

variable {k} {s s' : ChatRun} {l : TurnStep} {m : AList fun _ : UInt32 => String}

/-- A map that is not cleared. -/
lemma bounded_of_room {β : Type} {m : AList fun _ : UInt32 => β} (h : m.keys.length ≤ 256) :
    bounded m = m := if_neg (not_lt.mpr h)

/-- A map has no more after it may have been cleared. -/
lemma lookup_bounded_of_none {β : Type} {m : AList fun _ : UInt32 => β} (h : m.lookup k = none) :
    (bounded m).lookup k = none := by
  rw [bounded]
  split
  · exact AList.lookup_empty k
  · exact h

/-- A text stays where the map is not cleared, or there was none. -/
lemma text_bounded {text : String} (h : (m.lookup k).getD "" = text)
    (hroom : text ≠ "" → m.keys.length ≤ 256) : ((bounded m).lookup k).getD "" = text := by
  by_cases hempty : text = ""
  · rw [bounded]
    split
    · rw [AList.lookup_empty, hempty]
      rfl
    · exact h
  · rw [bounded_of_room (hroom hempty)]
    exact h

lemma onChatResponse_deltaDoc {ticket : UInt32} {text : String} {s : ChatTickets} :
    WebGrpcEvent.onChatResponse ticket (some (deltaDoc text)) s =
      .ok (s.appendChatPartial ticket text) := by
  rfl

/-- The turn after a send. -/
lemma sent_eq {call : ChatCall} {tickets : ChatTickets} (h : call.ticket ≠ k) :
    s.sent k tickets (some call) = s.turn := by
  rw [ChatRun.sent, if_neg h]

variable (k s) in
/-- **What a step comes to.** -/
inductive TurnEffect : TurnStep → ChatRun → Prop
  | refused (ownerOid transactionId : String) (body : Option Json) :
      TurnEffect (.send ownerOid transactionId body) s
  | sent (ownerOid transactionId : String) (body : Option Json) (call : ChatCall)
      (ctx : ChatContext) (hticket : call.ticket = s.tickets.chatTicket) :
      TurnEffect (.send ownerOid transactionId body)
        { tickets := s.tickets.nextChatTicket.2.setChatContext s.tickets.chatTicket ctx
          turn := s.sent k (s.tickets.nextChatTicket.2.setChatContext s.tickets.chatTicket ctx)
            (some call) }
  | wrote (ticket : UInt32) (text : String) (hwaits : ticket = k → s.turn.waits = true) :
      TurnEffect (.delta ticket text)
        { tickets := s.tickets.appendChatPartial ticket text
          turn := if ticket = k then s.turn.append text else s.turn }
  | filed (ticket : UInt32) (doc : Option Json) (tickets : ChatTickets)
      (hwaits : ticket = k → s.turn.waits = true)
      (hdispatch : WebGrpcEvent.onChatResponse ticket doc s.tickets = .ok tickets) :
      TurnEffect (.result ticket doc)
        { tickets, turn := if ticket = k then s.turn.answer doc else s.turn }
  | polled (target : Bytes) (tickets : ChatTickets) (resp : HttpResponse)
      (message : Option (IpcMessage Payload))
      (hresult : ChatController.result target s.tickets = .ok (tickets, resp, message)) :
      TurnEffect (.poll target)
        { tickets, turn := if chatTicketOf target = k then s.turn.polled else s.turn }

lemma effect_of_next (hnext : (chatRuns k).next s l = some s') : TurnEffect k s l s' := by
  have hwaits : ∀ ticket, ¬(ticket = k && !s.turn.waits) = true →
      ticket = k → s.turn.waits = true := by
    rintro ticket hopen rfl
    simpa using hopen
  cases l with
  | send ownerOid transactionId body =>
      simp only [chatRuns] at hnext
      split at hnext
      · cases hnext
      · next tickets resp call hsend =>
          obtain rfl := Option.some.inj hnext
          rcases send_cases hsend with ⟨rfl, rfl⟩ | ⟨made, ctx, hticket, rfl, rfl⟩
          · exact .refused ownerOid transactionId body
          · exact .sent ownerOid transactionId body made ctx hticket
  | delta ticket text =>
      simp only [chatRuns, onChatResponse_deltaDoc] at hnext
      split at hnext
      · cases hnext
      · next hopen =>
          obtain rfl := Option.some.inj hnext
          exact .wrote ticket text (hwaits ticket hopen)
  | result ticket doc =>
      simp only [chatRuns] at hnext
      split at hnext
      · cases hnext
      · next hopen =>
          split at hnext
          · cases hnext
          · next tickets hdispatch =>
              obtain rfl := Option.some.inj hnext
              exact .filed ticket doc tickets (hwaits ticket hopen) hdispatch
  | poll target =>
      simp only [chatRuns] at hnext
      split at hnext
      · cases hnext
      · next tickets resp message hresult =>
          obtain rfl := Option.some.inj hnext
          exact .polled target tickets resp message hresult

/-- A delta under any ticket. -/
lemma stands_append {ticket : UInt32} (text : String) (h : Stands k s)
    (hroom : s.turn.text ≠ "" → s.tickets.chatPartials.keys.length ≤ 256)
    (hwaits : ticket = k → s.turn.waits = true) :
    Stands k { tickets := s.tickets.appendChatPartial ticket text
               turn := if ticket = k then s.turn.append text else s.turn } := by
  obtain ⟨tickets, turn⟩ := s
  dsimp only at h hroom hwaits ⊢
  by_cases hk : ticket = k
  · subst hk
    rw [if_pos rfl]
    cases turn with
    | writing ctx written =>
        have htext := text_bounded (h.text rfl) hroom
        refine ⟨h.context, h.result, fun _ => ?_, by rintro _ _ ⟨⟩⟩
        change (AList.lookup ticket ((bounded tickets.chatPartials).insert ticket _)).getD "" = _
        rw [AList.lookup_insert, Option.getD_some, htext]
        rfl
    | unsent | answered | collected => cases hwaits rfl
  · rw [if_neg hk]
    refine ⟨h.context, h.result, fun hready => ?_, h.storable⟩
    change (AList.lookup k ((bounded tickets.chatPartials).insert ticket _)).getD "" = _
    rw [AList.lookup_insert_ne (Ne.symm hk)]
    exact text_bounded (h.text hready) hroom

/-- A result under any ticket. -/
lemma stands_setResult {ticket : UInt32} {doc : Option Json} (h : Stands k s)
    (hroom : ticket ≠ k → s.turn.ready = true → s.tickets.chatResults.keys.length ≤ 256)
    (hwaits : ticket = k → s.turn.waits = true) (hstorable : ticket = k → storable s.turn doc = true) :
    Stands k { tickets := s.tickets.setChatResult ticket doc
               turn := if ticket = k then s.turn.answer doc else s.turn } := by
  obtain ⟨tickets, turn⟩ := s
  dsimp only at h hroom hwaits hstorable ⊢
  by_cases hk : ticket = k
  · subst hk
    rw [if_pos rfl]
    cases turn with
    | writing ctx written =>
        refine ⟨h.context, AList.lookup_insert _, by rintro ⟨⟩, ?_⟩
        rintro _ body ⟨⟩
        have hread := hstorable rfl
        rw [storable, Bool.and_eq_true, Bool.and_eq_true] at hread
        exact ⟨hread.1.1, hread.2⟩
    | unsent | answered | collected => cases hwaits rfl
  · rw [if_neg hk]
    refine ⟨h.context, ?_, h.text, h.storable⟩
    change AList.lookup k ((bounded tickets.chatResults).insert ticket doc) = _
    rw [AList.lookup_insert_ne (Ne.symm hk)]
    cases hready : turn.ready with
    | true =>
        rw [bounded_of_room (hroom hk hready)]
        exact h.result
    | false =>
        have hnone : turn.result = none := by
          cases turn <;> first | rfl | cases hready
        have hlookup := h.result
        dsimp only at hlookup
        rw [hnone] at hlookup ⊢
        exact lookup_bounded_of_none hlookup

/-- A send that hands out the ticket, or another. -/
lemma stands_send {ctx : ChatContext} {call : ChatCall} (h : Stands k s)
    (hticket : call.ticket = s.tickets.chatTicket)
    (hkept : s.turn.live = true →
      s.tickets.chatTicket ≠ k ∧ s.tickets.chatContexts.keys.length ≤ 256) :
    Stands k
      { tickets := s.tickets.nextChatTicket.2.setChatContext s.tickets.chatTicket ctx
        turn := s.sent k (s.tickets.nextChatTicket.2.setChatContext s.tickets.chatTicket ctx)
          (some call) } := by
  obtain ⟨tickets, turn⟩ := s
  dsimp only at h hticket hkept ⊢
  by_cases hk : tickets.chatTicket = k
  · -- the turn begins, and the one before it is over
    have hover : turn.live = false := by
      cases hlive : turn.live with
      | false => rfl
      | true => exact absurd hk (hkept hlive).1
    have hsent : (ChatRun.mk tickets turn).sent k
        (tickets.nextChatTicket.2.setChatContext tickets.chatTicket ctx) (some call) =
          .writing ctx "" := by
      have hlookup : (tickets.nextChatTicket.2.setChatContext tickets.chatTicket
          ctx).chatContexts.lookup k = some ctx := by
        rw [← hk]
        exact AList.lookup_insert _
      rw [ChatRun.sent, if_pos (hticket.trans hk), hlookup]
    rw [hsent]
    refine ⟨?_, ?_, fun _ => ?_, by rintro _ _ ⟨⟩⟩
    · rintro _ ⟨⟩
      rw [← hk]
      exact AList.lookup_insert _
    · refine h.result.trans ?_
      cases turn <;> first | rfl | cases hover
    · have htext : turn.text = "" := by cases turn <;> first | rfl | cases hover
      have hready : turn.ready = false := by cases turn <;> first | rfl | cases hover
      exact (h.text hready).trans htext
  · rw [sent_eq (hticket ▸ hk)]
    refine ⟨fun ctx' hctx => ?_, h.result, h.text, h.storable⟩
    have hlive : turn.live = true := by cases turn <;> first | rfl | cases hctx
    change AList.lookup k ((bounded tickets.chatContexts).insert tickets.chatTicket ctx) = _
    rw [AList.lookup_insert_ne (Ne.symm hk), bounded_of_room (hkept hlive).2]
    exact h.context ctx' hctx

/-- The results and the texts, after the turn may be taken too. -/
lemma taken_eq {tickets tickets' : ChatTickets} {ticket : UInt32} {result : Option Json}
    (hlookup : tickets.chatResults.lookup ticket = some result)
    (h : tickets' = (tickets.takeChatResult ticket).2 ∨
      tickets' = ((tickets.takeChatResult ticket).2.takeChatContext ticket).2) :
    tickets'.chatResults = tickets.chatResults.erase ticket ∧
      tickets'.chatPartials = tickets.chatPartials.erase ticket ∧
      ∀ k ≠ ticket, tickets'.chatContexts.lookup k = tickets.chatContexts.lookup k := by
  rw [takeChatResult_of_lookup hlookup] at h
  rcases h with rfl | rfl
  · exact ⟨rfl, rfl, fun _ _ => rfl⟩
  · rw [ChatTickets.takeChatContext]
    split
    · exact ⟨rfl, rfl, fun _ _ => rfl⟩
    · exact ⟨rfl, rfl, fun _ hne => AList.lookup_erase_ne hne⟩

/-- A poll of any ticket. -/
lemma stands_poll {target : Bytes} {tickets : ChatTickets} {resp : HttpResponse}
    {message : Option (IpcMessage Payload)} (hk : k ≠ 0) (h : Stands k s)
    (hresult : ChatController.result target s.tickets = .ok (tickets, resp, message)) :
    Stands k { tickets
               turn := if chatTicketOf target = k then s.turn.polled else s.turn } := by
  obtain ⟨before, turn⟩ := s
  dsimp only at h hresult ⊢
  rcases result_cases hresult with ⟨hzero, rfl, -⟩ | ⟨-, hnone, rfl, -⟩ |
    ⟨result, -, hlookup, htaken, -⟩
  · rw [if_neg (hzero ▸ hk.symm)]
    exact h
  · split
    · next heq =>
        have hsame : turn.polled = turn := by
          have hresult := h.result
          rw [← heq, hnone] at hresult
          cases turn <;> first | rfl | cases hresult
        rw [hsame]
        exact h
    · exact h
  · obtain ⟨hresults, hpartials, hcontexts⟩ := taken_eq hlookup htaken
    split
    · next heq =>
        -- the result of the ticket is taken, and its turn is over
        have hover : turn.polled = .collected := by
          have hresult := h.result
          rw [← heq, hlookup] at hresult
          cases turn <;> first | rfl | cases hresult
        rw [hover]
        refine ⟨by rintro _ ⟨⟩, ?_, fun _ => ?_, by rintro _ _ ⟨⟩⟩
        · change AList.lookup k tickets.chatResults = none
          rw [hresults, heq, AList.lookup_erase]
        · change (AList.lookup k tickets.chatPartials).getD "" = ""
          rw [hpartials, heq, AList.lookup_erase]
          rfl
    · next hne =>
        refine ⟨fun ctx hctx => ?_, ?_, fun hready => ?_, h.storable⟩
        · exact (hcontexts k (Ne.symm hne)).trans (h.context ctx hctx)
        · change AList.lookup k tickets.chatResults = _
          rw [hresults, AList.lookup_erase_ne (Ne.symm hne)]
          exact h.result
        · change (AList.lookup k tickets.chatPartials).getD "" = _
          rw [hpartials, AList.lookup_erase_ne (Ne.symm hne)]
          exact h.text hready

/-- Every step that keeps the turn leaves the maps with it. -/
lemma stands_next (hk : k ≠ 0) (h : Stands k s) (hkept : Keeps k s l)
    (hnext : (chatRuns k).next s l = some s') : Stands k s' := by
  cases effect_of_next hnext with
  | refused => exact h
  | sent _ _ _ call ctx hticket => exact stands_send h hticket hkept
  | wrote ticket text hwaits => exact stands_append text h hkept hwaits
  | filed ticket doc tickets hwaits hdispatch =>
      obtain ⟨hroom, hstorable, hdelta⟩ := hkept
      rcases onChatResponse_eq_ok hdispatch with ⟨rfl, -⟩ | ⟨body, text, rfl, -, hmarked, rfl⟩
      · exact stands_setResult h hroom hwaits hstorable
      · -- what is marked as a delta is of another ticket
        have hne : ticket ≠ k := by
          rintro rfl
          have hread := hstorable rfl
          simp [storable, hmarked] at hread
        have hstands := stands_append text h (hdelta hmarked) (fun heq => absurd heq hne)
        rw [if_neg hne] at hstands ⊢
        exact hstands
  | polled target tickets resp message hresult => exact stands_poll hk h hresult

/-- A poll of the ticket is answered by how far its turn is. -/
lemma answersTurn_of_stands {target : Bytes} (hk : k ≠ 0) (h : Stands k s)
    (htarget : chatTicketOf target = k) : AnswersTurn s target := by
  subst htarget
  obtain ⟨tickets, turn⟩ := s
  have hpending : turn.result = none → turn.ready = false → ChatController.result target tickets =
      .ok (tickets, ⟨200, .obj [("status", .str "pending"), ("text", .str turn.text)]⟩, none) := by
    intro hnone hready
    have htake := takeChatResult_of_none (h.result.trans hnone)
    have htext := h.text hready
    dsimp only at htake htext
    rw [ChatController.result, if_neg hk, htake]
    dsimp only
    rw [htext]
  cases turn with
  | unsent | writing | collected => exact hpending rfl rfl
  | answered ctx doc =>
      cases doc with
      | none => exact ⟨_, (polls_of_malformed hk h.result).1⟩
      | some body =>
          obtain ⟨hobj, hreads⟩ := h.storable ctx body rfl
          obtain ⟨answer, hanswer⟩ := returns_markDone hobj
          obtain ⟨message, hmessage⟩ := (returns_storeTurn hobj).mpr hreads
          have hcontext : tickets.chatContexts.lookup (chatTicketOf target) = some ctx :=
            h.context ctx rfl
          refine ⟨{ tickets with
            chatResults := tickets.chatResults.erase (chatTicketOf target)
            chatPartials := tickets.chatPartials.erase (chatTicketOf target)
            chatContexts := tickets.chatContexts.erase (chatTicketOf target) },
            answer, message, hanswer, hmessage, ?_⟩
          rw [ChatController.result, if_neg hk, takeChatResult_of_lookup h.result]
          dsimp only
          rw [ChatTickets.takeChatContext]
          dsimp only
          rw [hcontext]
          dsimp only
          rw [hmessage]
          change (markDone body >>= _) = _
          rw [hanswer]
          rfl

/-- A step that does not hand out the ticket leaves its turn, or takes it further. -/
lemma turn_next (hsame : restarts k (s, l) = false) (hnext : (chatRuns k).next s l = some s') :
    s'.turn = s.turn ∨ (∃ text, s'.turn = s.turn.append text) ∨
      (∃ doc, s'.turn = s.turn.answer doc) ∨ s'.turn = s.turn.polled := by
  cases effect_of_next hnext with
  | refused => exact .inl rfl
  | sent _ _ _ call ctx hticket =>
      refine .inl (sent_eq ?_)
      rw [hticket]
      exact of_decide_eq_false hsame
  | wrote ticket text hwaits =>
      dsimp only
      split
      · exact .inr (.inl ⟨text, rfl⟩)
      · exact .inl rfl
  | filed ticket doc tickets hwaits hdispatch =>
      dsimp only
      split
      · exact .inr (.inr (.inl ⟨doc, rfl⟩))
      · exact .inl rfl
  | polled target tickets resp message hresult =>
      dsimp only
      split
      · exact .inr (.inr (.inr rfl))
      · exact .inl rfl

/-- A turn whose text has grown from a text, or that has its result. -/
def GrownFrom (text : String) (turn : Turn) : Prop :=
  (∃ ctx rest, turn = .writing ctx (text ++ rest)) ∨ turn.ready = true ∨ turn = .collected

/-- The text of a turn only grows. -/
lemma grownFrom_next {text : String} (h : GrownFrom text s.turn)
    (hsame : restarts k (s, l) = false) (hnext : (chatRuns k).next s l = some s') :
    GrownFrom text s'.turn := by
  have hturn := turn_next hsame hnext
  rcases h with ⟨ctx, rest, heq⟩ | hready | heq
  · rw [heq] at hturn
    rcases hturn with h | ⟨delta, h⟩ | ⟨doc, h⟩ | h
    · exact .inl ⟨ctx, rest, h⟩
    · exact .inl ⟨ctx, rest ++ delta, by rw [h, ← String.append_assoc]; rfl⟩
    · exact .inr (.inl (by rw [h]; rfl))
    · exact .inl ⟨ctx, rest, h⟩
  · cases hs : s.turn with
    | answered ctx doc =>
        rw [hs] at hturn
        rcases hturn with h | ⟨delta, h⟩ | ⟨doc', h⟩ | h
        · exact .inr (.inl (by rw [h]; rfl))
        · exact .inr (.inl (by rw [h]; rfl))
        · exact .inr (.inl (by rw [h]; rfl))
        · exact .inr (.inr h)
    | unsent | writing | collected =>
        rw [hs] at hready
        cases hready
  · rw [heq] at hturn
    refine .inr (.inr ?_)
    rcases hturn with h | ⟨delta, h⟩ | ⟨doc, h⟩ | h <;> exact h

/-- A result is put up where it is filed, and taken down by the poll that gives it. -/
lemma ready_next (hkept : Keeps k s l) (hnext : (chatRuns k).next s l = some s') :
    s'.turn.ready.toNat + (collects k (s, l)).toNat =
      s.turn.ready.toNat + (files k (s, l)).toNat := by
  cases effect_of_next hnext with
  | refused => rfl
  | sent _ _ _ call ctx hticket =>
      by_cases hk : s.tickets.chatTicket = k
      · have hready : s.turn.ready = false := by
          cases hturn : s.turn with
          | answered ctx doc => exact absurd hk (hkept (by rw [hturn]; rfl)).1
          | unsent | writing | collected => rfl
        have hsent : (s.sent k (s.tickets.nextChatTicket.2.setChatContext s.tickets.chatTicket ctx)
            (some call)).ready = false := by
          rw [ChatRun.sent]
          split
          · split
            · exact hready
            · rfl
          · exact hready
        dsimp only [collects, files, TurnStep.polls]
        rw [hsent, hready]
        rfl
      · rw [sent_eq (hticket ▸ hk)]
        rfl
  | wrote ticket text hwaits =>
      dsimp only [collects, files, TurnStep.polls]
      split
      · cases s.turn <;> rfl
      · rfl
  | filed ticket doc tickets hwaits hdispatch =>
      dsimp only [collects, files, TurnStep.polls]
      by_cases hk : ticket = k
      · have hwaits := hwaits hk
        rw [if_pos hk, decide_eq_true hk]
        cases hturn : s.turn with
        | writing ctx text => rfl
        | unsent | answered | collected =>
            rw [hturn] at hwaits
            cases hwaits
      · rw [if_neg hk, decide_eq_false hk]
        rfl
  | polled target tickets resp message hresult =>
      dsimp only [collects, files, TurnStep.polls]
      by_cases hk : chatTicketOf target = k
      · rw [if_pos hk, decide_eq_true hk]
        cases s.turn <;> rfl
      · rw [if_neg hk, decide_eq_false hk]
        rfl

end Steps

/-! ### Runs -/

/-- **Between two pending polls of a turn its text only grows.** -/
lemma text_grows {k : UInt32} {s s' : ChatRun} {before between after : List (ChatRun × TurnStep)}
    {p q : ChatRun × TurnStep}
    (hrun : (chatRuns k).Run s (before ++ p :: (between ++ q :: after)) s')
    (hpoll : p.2.polls k = true) (hwaits : p.1.turn.waits = true) (hwaits' : q.1.turn.waits = true)
    (hsame : ∀ r ∈ between, restarts k r = false) :
    ∃ rest, q.1.turn.text = p.1.turn.text ++ rest := by
  obtain ⟨t, -, hrun⟩ := hrun.of_append
  have hsplit : p :: (between ++ q :: after) = (p :: between) ++ q :: after := rfl
  rw [hsplit] at hrun
  obtain ⟨u, hmiddle, hrun⟩ := hrun.of_append
  obtain ⟨rfl, -⟩ := hrun.of_cons
  obtain ⟨rfl, -⟩ := hmiddle.of_cons
  have hfirst : GrownFrom p.1.turn.text p.1.turn := by
    cases hturn : p.1.turn with
    | writing ctx text => exact .inl ⟨ctx, "", by rw [Turn.text, String.append_empty]⟩
    | unsent | answered | collected =>
        rw [hturn] at hwaits
        cases hwaits
  have hlater : GrownFrom p.1.turn.text q.1.turn := by
    refine hmiddle.invariant_of_forall (I := fun t => GrownFrom p.1.turn.text t.turn)
      (C := fun s l => restarts k (s, l) = false) hfirst
      (fun _ _ _ hI hC h => grownFrom_next hI hC h) ?_
    intro r hr
    rcases List.mem_cons.mp hr with rfl | hr
    · cases hlabel : r.2 with
      | poll target => rfl
      | send | delta | result =>
          rw [hlabel] at hpoll
          cases hpoll
    · exact hsame r hr
  rcases hlater with ⟨ctx, rest, heq⟩ | hready | heq
  · exact ⟨rest, by rw [heq]; rfl⟩
  · cases hturn : q.1.turn with
    | answered ctx doc =>
        rw [hturn] at hwaits'
        cases hwaits'
    | unsent | writing | collected =>
        rw [hturn] at hready
        cases hready
  · rw [heq] at hwaits'
    cases hwaits'

/-- **A chat turn among many.** In every run that keeps the turn of a ticket, a poll of
it gives the text of the deltas so far while there is no result, and the first poll
after the result gives that, with the turn for engined under the context of its send;
as many polls give a result as results came, less one that still waits; and from one
pending poll to a later one of the same turn the text only grows. -/
theorem turn_delivered {k : UInt32} {s s' : ChatRun} {tr : List (ChatRun × TurnStep)} (hk : k ≠ 0)
    (hinit : (chatRuns k).init s) (hrun : (chatRuns k).Run s tr s')
    (hkept : ∀ p ∈ tr, Keeps k p.1 p.2) :
    (∀ p ∈ tr, ∀ target, p.2 = .poll target → chatTicketOf target = k → AnswersTurn p.1 target) ∧
      s'.turn.ready.toNat + tr.countP (collects k) = tr.countP (files k) ∧
      ∀ before p between q after, tr = before ++ p :: (between ++ q :: after) →
        p.2.polls k = true → p.1.turn.waits = true → q.2.polls k = true → q.1.turn.waits = true →
        (∀ r ∈ between, restarts k r = false) → ∃ rest, q.1.turn.text = p.1.turn.text ++ rest := by
  have hstart : Stands k s := by
    obtain ⟨hresults, hcontexts, hpartials, hturn⟩ := hinit
    refine ⟨by rw [hturn]; rintro _ ⟨⟩, ?_, fun _ => ?_, by rw [hturn]; rintro _ _ ⟨⟩⟩
    · rw [hresults, hturn]
      exact AList.lookup_empty k
    · rw [ChatTickets.chatPartial, hpartials, hturn]
      rfl
  refine ⟨?_, ?_, ?_⟩
  · intro p hp target _ htarget
    have hstands := hrun.invariant_at hstart (fun _ _ _ hI hC h => stands_next hk hI hC h) hkept p hp
    exact answersTurn_of_stands hk hstands htarget
  · have hbalance : s'.turn.ready.toNat + tr.countP (collects k) =
        s.turn.ready.toNat + tr.countP (files k) :=
      hrun.balance_of_forall (I := fun _ => True) trivial (fun _ _ _ _ _ _ => trivial)
        (fun _ _ _ _ hC h => ready_next hC h) hkept
    rw [hinit.2.2.2] at hbalance
    exact hbalance.trans (Nat.zero_add _)
  · rintro before p between q after rfl hpoll hwaits - hwaits' hsame
    exact text_grows hrun hpoll hwaits hwaits' hsame

/-! ### A turn that is lost -/

/-- A turn that is to be stored. -/
def namedTurn : TurnStep :=
  .send "o1" "txn" (some (.obj [("answer_oid", .str "a1"), ("message", .str "who is on the vpn?"),
    ("question_oid", .str "q1"), ("session_id", .str "s1")]))

/-- Its answer. -/
def namedAnswer : Json := .obj [("ok", .bool true), ("reply", .str "anna, from home")]

/-- The result that waits closes a turn that is to be stored, and its poll stores
none. -/
def losesTurn (target : Bytes) (s : ChatRun) : Bool :=
  match s.turn with
  | .answered ctx (some body) =>
      (storeTurn ctx body).toOption.any Option.isSome &&
        (ChatController.result target s.tickets).toOption.all fun r => r.2.2.isNone
  | _ => false

lemma not_answersTurn {target : Bytes} {s : ChatRun} (h : losesTurn target s = true) :
    ¬AnswersTurn s target := by
  obtain ⟨tickets, turn⟩ := s
  rw [losesTurn] at h
  dsimp only at h
  split at h
  · next ctx body =>
      rintro ⟨tickets', answer, message, -, hstored, hresult⟩
      dsimp only at hresult
      rw [hstored, hresult] at h
      cases message <;> cases h
  · cases h

/-- What is kept of the turn, under each ticket. -/
def namedContext : ChatContext where
  sessionOid := "s1"
  ownerOid := "o1"
  service := "chat"
  title := ""
  model := ""
  draft := ""
  question := "who is on the vpn?"
  questionOid := "q1"
  answerOid := "a1"
  seq := 0

/-- The contexts after a number of sends. -/
def contextsAfter : ℕ → UInt32 → (AList fun _ : UInt32 => ChatContext) →
    AList fun _ : UInt32 => ChatContext
  | 0, _, m => m
  | n + 1, ticket, m => contextsAfter n (ticket + 1) ((bounded m).insert ticket namedContext)

/-- A send under another ticket. -/
lemma next_namedTurn {ticket : UInt32} (h : ticket ≠ k)
    (m : AList fun _ : UInt32 => ChatContext) (turn : Turn) :
    (chatRuns k).next ⟨{ chatTicket := ticket, chatContexts := m }, turn⟩ namedTurn =
      some ⟨{ chatTicket := ticket + 1, chatContexts := (bounded m).insert ticket namedContext },
        turn⟩ := by
  have hsent : ∀ tickets : ChatTickets, ∀ call : ChatCall, call.ticket = ticket →
      (ChatRun.mk { chatTicket := ticket, chatContexts := m } turn).sent k tickets (some call) =
        turn :=
    fun tickets call hcall => sent_eq (hcall ▸ h)
  exact congrArg (fun turn' => some (ChatRun.mk _ turn')) (hsent _ _ rfl)

/-- As many sends, none of them under the ticket. -/
lemma exec_namedTurns (n : ℕ) {ticket : UInt32} {m : AList fun _ : UInt32 => ChatContext}
    {turn : Turn} (h : ∀ i < n, ticket + UInt32.ofNat i ≠ k) :
    (chatRuns k).exec ⟨{ chatTicket := ticket, chatContexts := m }, turn⟩
        (List.replicate n namedTurn) =
      some ⟨{ chatTicket := ticket + UInt32.ofNat n, chatContexts := contextsAfter n ticket m },
        turn⟩ := by
  induction n generalizing ticket m with
  | zero =>
      rw [List.replicate_zero, Machine.exec]
      simp [contextsAfter]
  | succ n ih =>
      have hfirst : ticket ≠ k := by simpa using h 0 (Nat.zero_lt_succ n)
      have hone : ∀ i, ticket + 1 + UInt32.ofNat i = ticket + UInt32.ofNat (i + 1) := by
        intro i
        rw [UInt32.add_assoc, UInt32.ofNat_add, UInt32.add_comm (UInt32.ofNat i)]
        rfl
      rw [List.replicate_succ, Machine.exec, next_namedTurn k hfirst _ _]
      dsimp only
      rw [ih fun i hi => hone i ▸ h (i + 1) (Nat.succ_lt_succ hi), hone, contextsAfter]

/-- A ticket that comes after others is none of them. -/
lemma notMem_tickets {c : ℕ} (h : c ≤ 256) :
    UInt32.ofNat (1 + c) ∉ (List.range' 1 c).reverse.map UInt32.ofNat := by
  intro hmem
  obtain ⟨i, hi, heq⟩ := List.mem_map.mp hmem
  have hrange := List.mem_range'_1.mp (List.mem_reverse.mp hi)
  have hnat := congrArg UInt32.toNat heq
  rw [UInt32.toNat_ofNat', UInt32.toNat_ofNat', Nat.mod_eq_of_lt (by omega),
    Nat.mod_eq_of_lt (by omega)] at hnat
  omega

/-- The contexts are not cleared for the first 257 turns. -/
lemma keys_contextsAfter (n : ℕ) {c : ℕ} {m : AList fun _ : UInt32 => ChatContext}
    (hm : m.keys = (List.range' 1 c).reverse.map UInt32.ofNat) (h : c + n ≤ 257) :
    (contextsAfter n (UInt32.ofNat (1 + c)) m).keys =
      (List.range' 1 (c + n)).reverse.map UInt32.ofNat := by
  induction n generalizing c m with
  | zero => exact hm
  | succ n ih =>
      have hroom : m.keys.length ≤ 256 := by
        rw [hm, List.length_map, List.length_reverse, List.length_range']
        omega
      have hnew : UInt32.ofNat (1 + c) ∉ m.keys := hm ▸ notMem_tickets (by omega)
      have hnext : UInt32.ofNat (1 + c) + 1 = UInt32.ofNat (1 + (c + 1)) := by
        rw [← Nat.add_assoc, UInt32.ofNat_add (1 + c)]
        rfl
      rw [contextsAfter, bounded_of_room hroom, hnext, ih (c := c + 1) _ (by omega),
        Nat.add_assoc, Nat.add_comm 1 n]
      rw [AList.keys_insert, List.erase_of_not_mem hnew, hm, List.range'_1_concat,
        List.reverse_concat, List.map_cons]

/-- **A turn that is lost**: one of 257 turns that are under way when another is
sent, for which the contexts are cleared. -/
theorem turn_lost :
    ¬∀ (k : UInt32) (s s' : ChatRun) (tr : List (ChatRun × TurnStep)), k ≠ 0 →
      (chatRuns k).init s → (chatRuns k).Run s tr s' →
      ∀ p ∈ tr, ∀ target, p.2 = .poll target → chatTicketOf target = k → AnswersTurn p.1 target := by
  intro hall
  have hkeys := keys_contextsAfter 256 (c := 0) (m := ∅) rfl (by omega)
  have hfirst : (chatRuns 257).exec {} (List.replicate 256 namedTurn) =
      some ⟨{ chatTicket := 257, chatContexts := contextsAfter 256 1 ∅ }, .unsent⟩ :=
    exec_namedTurns 257 256 (by decide +kernel)
  generalize contextsAfter 256 1 ∅ = m at hfirst hkeys
  -- the 257th turn is the one that is lost, and the contexts are cleared for the next
  have hsent : (chatRuns 257).next ⟨{ chatTicket := 257, chatContexts := m }, .unsent⟩ namedTurn =
      some ⟨{ chatTicket := 258, chatContexts := (bounded m).insert 257 namedContext },
        .writing namedContext ""⟩ := by
    have hturn : (ChatRun.mk { chatTicket := 257, chatContexts := m } .unsent).sent 257
        { chatTicket := 258, chatContexts := (bounded m).insert 257 namedContext }
          (some (.unary 257)) = .writing namedContext "" := by
      have hlookup : (AList.insert 257 namedContext (bounded m)).lookup 257 = some namedContext :=
        AList.lookup_insert _
      rw [ChatRun.sent, if_pos (show (ChatCall.unary 257).ticket = 257 from rfl), hlookup]
    exact congrArg (fun turn => some (ChatRun.mk _ turn)) hturn
  have hcleared : bounded ((bounded m).insert 257 namedContext) = ∅ := by
    have hroom : m.keys.length ≤ 256 := by rw [hkeys]; decide +kernel
    have hnew : (257 : UInt32) ∉ m.keys := hkeys ▸ notMem_tickets le_rfl
    rw [bounded_of_room hroom, bounded, if_pos]
    rw [AList.keys_insert, List.erase_of_not_mem hnew, hkeys]
    decide +kernel
  have hother : (258 : UInt32) ≠ 257 := by decide
  have hnext := next_namedTurn 257 hother ((bounded m).insert 257 namedContext)
    (.writing namedContext "")
  rw [hcleared] at hnext
  have hlast : ((chatRuns 257).exec
      ⟨{ chatTicket := 259, chatContexts := AList.insert 258 namedContext ∅ },
        .writing namedContext ""⟩ [.result 257 (some namedAnswer)]).map (fun s =>
        (losesTurn (textBytes "?ticket=257") s,
          ((chatRuns 257).next s (.poll (textBytes "?ticket=257"))).isSome)) =
      some (true, true) := by
    decide +kernel
  obtain ⟨s, hexec, hstate⟩ := Option.map_eq_some_iff.mp hlast
  rw [Prod.mk.injEq] at hstate
  obtain ⟨s', hpoll⟩ := Option.isSome_iff_exists.mp hstate.2
  have hrun := (((Machine.exec_run hfirst).snoc hsent).snoc hnext).append (Machine.exec_run hexec)
  exact not_answersTurn hstate.1 (hall 257 {} s' _ (by decide) ⟨rfl, rfl, rfl, rfl⟩
    (hrun.snoc hpoll) (s, .poll (textBytes "?ticket=257"))
    (List.mem_append_right _ (List.mem_singleton_self _)) (textBytes "?ticket=257") rfl
    (by decide +kernel))

/-- A turn that is sent, written and answered between polls. -/
def oneTurn : List TurnStep :=
  [namedTurn, .delta 1 "anna, ", .poll (textBytes "?ticket=1"), .delta 1 "from home",
    .poll (textBytes "?ticket=1"), .result 1 (some namedAnswer), .poll (textBytes "?ticket=1"),
    .poll (textBytes "?ticket=1")]

/-- The law of that turn. -/
theorem turn_delivered_one :
    ∃ s', (chatRuns 1).exec {} oneTurn = some s' ∧ s'.turn = .collected ∧
      ∀ p ∈ (chatRuns 1).trace {} oneTurn, ∀ target, p.2 = .poll target →
        chatTicketOf target = 1 → AnswersTurn p.1 target := by
  have hrun : ((chatRuns 1).exec {} oneTurn).map ChatRun.turn = some .collected := by decide +kernel
  obtain ⟨s', hexec, hturn⟩ := Option.map_eq_some_iff.mp hrun
  refine ⟨s', hexec, hturn, (turn_delivered (by decide) ⟨rfl, rfl, rfl, rfl⟩
    (Machine.exec_run hexec) ?_).1⟩
  have hkept : ((chatRuns 1).trace {} oneTurn).all (fun p => decide (Keeps 1 p.1 p.2)) = true := by
    decide +kernel
  intro p hp
  exact of_decide_eq_true (List.all_eq_true.mp hkept p hp)

end Pretzel.Mgmtd
