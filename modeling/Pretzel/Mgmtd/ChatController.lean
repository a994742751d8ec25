import Pretzel.Mgmtd.SsoController

/-!
A chat turn in mgmtd: what `MgmtdServiceManager` keeps of it under its ticket,
`ChatController::send` and `result`, and `WebGrpcEvent::dispatch`, which files what
the assistant answers.

* `ChatTickets`: the next ticket, and the contexts, results and partial texts by
  their tickets. A text the parser refuses is `none`.
* `ChatController.send`, `models`: a ticket is taken, and a call made under it.
* `WebGrpcEvent.dispatch`: an answer is filed.
* `ChatController.result`: what waits under a ticket is handed out, and the turn
  it closes is stored. A JSON type error leaves a handler, and no one catches it.
  `send_cases`, `result_cases`.
-/

namespace Pretzel.Mgmtd

open Nlohmann Ipc Texts

/-! ### What a request says -/

/-- `urlDecode`. -/
def urlDecode (text : Bytes) : Bytes := ssoUrlDecode text

/-- `queryParam`. -/
def queryParam (target : Bytes) (key : String) : Bytes :=
  match target.dropWhile (· ≠ 63) with
  | [] => []
  | _ :: query =>
      match (query.splitOn 38).find? fun token =>
          token.elem 61 && token.takeWhile (· ≠ 61) = textBytes key with
      | none => []
      | some token => urlDecode (token.dropWhile (· ≠ 61)).tail

/-- The ticket a poll asks for, 0 where there is none. -/
def chatTicketOf (target : Bytes) : UInt32 := (strtoul (queryParam target "ticket")).toUInt32

def kMaxMessageChars : ℕ := 32 * 1024

def kMaxHistoryTurns : ℕ := 20

def kMaxHistoryChars : ℕ := 64 * 1024

/-- `GrpcMessage::Turn`. -/
structure ChatTurn where
  role : String
  content : String
deriving DecidableEq

/-- One turn of `parseHistory`, if it is kept. -/
def historyTurn (entry : Json) : Except JsonError (Option ChatTurn) :=
  if !entry.isObject then .ok none
  else do
    let role ← entry.valueString "role" ""
    let content ← entry.valueString "content" ""
    if content = "" ∨ (role ≠ "user" ∧ role ≠ "assistant") then return none
    else if content.utf8ByteSize > kMaxMessageChars then return none
    else return some ⟨role, content⟩

/-- The second loop of the trim: turns leave the front while there are too many
characters, of all turns read, those dropped for their number too. -/
def trimChars : ℕ → List ChatTurn → List ChatTurn
  | _, [] => []
  | chars, t :: ts =>
      if chars > kMaxHistoryChars then trimChars (chars - t.content.utf8ByteSize) ts else t :: ts

/-- `parseHistory`. -/
def parseHistory (input : Json) : Except JsonError (List ChatTurn) :=
  match input.find? "history" with
  | some (.arr entries) => do
      let turns ← Json.readEach historyTurn entries
      let chars := (turns.map fun t => t.content.utf8ByteSize).sum
      return trimChars chars (turns.drop (turns.length - kMaxHistoryTurns))
  | _ => .ok []

/-! ### Tickets -/

/-- `MgmtdServiceManager::ChatContext`. -/
structure ChatContext where
  sessionOid : String
  ownerOid : String
  service : String
  title : String
  model : String
  draft : String
  question : String
  questionOid : String
  answerOid : String
  seq : ℤ
deriving DecidableEq

/-- The chat tickets of `MgmtdServiceManager`. -/
structure ChatTickets where
  chatTicket : UInt32 := 1
  chatContexts : AList fun _ : UInt32 => ChatContext := ∅
  chatResults : AList fun _ : UInt32 => Option Json := ∅
  chatPartials : AList fun _ : UInt32 => String := ∅

/-- A map that is cleared where it has grown too large. -/
def bounded {β : Type} (m : AList fun _ : UInt32 => β) : AList fun _ : UInt32 => β :=
  if m.keys.length > 256 then ∅ else m

namespace ChatTickets

variable (s : ChatTickets)

/-- `nextChatTicket`. -/
def nextChatTicket : UInt32 × ChatTickets := (s.chatTicket, { s with chatTicket := s.chatTicket + 1 })

def setChatContext (ticket : UInt32) (ctx : ChatContext) : ChatTickets :=
  { s with chatContexts := (bounded s.chatContexts).insert ticket ctx }

def takeChatContext (ticket : UInt32) : Option ChatContext × ChatTickets :=
  match s.chatContexts.lookup ticket with
  | none => (none, s)
  | some ctx => (some ctx, { s with chatContexts := s.chatContexts.erase ticket })

def setChatResult (ticket : UInt32) (result : Option Json) : ChatTickets :=
  { s with chatResults := (bounded s.chatResults).insert ticket result }

def takeChatResult (ticket : UInt32) : Option (Option Json) × ChatTickets :=
  match s.chatResults.lookup ticket with
  | none => (none, s)
  | some result =>
      (some result, { s with
        chatResults := s.chatResults.erase ticket
        chatPartials := s.chatPartials.erase ticket })

def chatPartial (ticket : UInt32) : String := (s.chatPartials.lookup ticket).getD ""

def appendChatPartial (ticket : UInt32) (delta : String) : ChatTickets :=
  let kept := bounded s.chatPartials
  { s with chatPartials := kept.insert ticket ((kept.lookup ticket).getD "" ++ delta) }

end ChatTickets

/-! ### The handlers -/

/-- `GrpcMessage`: a chat turn, or any other call that is answered under a chat
ticket. -/
inductive ChatCall where
  | chat (ticket : UInt32) (model message systemPrompt : String) (history : List ChatTurn)
      (sessionId transactionId : String)
  | unary (ticket : UInt32)
deriving DecidableEq

def ChatCall.ticket : ChatCall → UInt32
  | .chat ticket _ _ _ _ _ _ => ticket
  | .unary ticket => ticket

/-- The answer of a handler that refuses. -/
def chatError (status : ℕ) (error : String) : HttpResponse := ⟨status, .obj [("error", .str error)]⟩

/-- The answer of a handler that has taken a ticket. -/
def chatPending (ticket : UInt32) : HttpResponse :=
  ⟨202, .obj [("status", .str "pending"), ("ticket", .int ticket.toNat)]⟩

/-- `ChatController::models`. -/
def ChatController.models (s : ChatTickets) : ChatTickets × HttpResponse × ChatCall :=
  let (ticket, s) := s.nextChatTicket
  (s, chatPending ticket, .unary ticket)

/-- `ChatController::send`, with the owner `ownerOf` finds and the id of the
transaction. -/
def ChatController.send (ownerOid transactionId : String) (body : Option Json) (s : ChatTickets) :
    Except JsonError (ChatTickets × HttpResponse × Option ChatCall) :=
  match body with
  | none => .ok (s, chatError 400 "invalid JSON body", none)
  | some input => do
      let message ← input.valueString "message" ""
      if message = "" then return (s, chatError 400 "message is required", none)
      else if message.utf8ByteSize > kMaxMessageChars then
        return (s, chatError 413 "message is too long", none)
      else
        let model ← input.valueString "model" ""
        let sessionId ← input.valueString "session_id" ""
        let history ← parseHistory input
        let service ← input.valueString "service" "chat"
        let title ← input.valueString "title" ""
        let draft ← input.valueString "draft" ""
        let questionOid ← input.valueString "question_oid" ""
        let answerOid ← input.valueString "answer_oid" ""
        let seq ← input.valueInt32 "seq" 0
        let (ticket, s) := s.nextChatTicket
        let ctx : ChatContext := { sessionOid := sessionId, ownerOid, service, title, model, draft,
                                   question := message, questionOid, answerOid, seq }
        return (s.setChatContext ticket ctx, chatPending ticket,
          some (.chat ticket model message "" history sessionId transactionId))

/-- `IpcCmd::ChatTurnStore`. -/
def ChatTurnStore : IpcCmd := .raw 141

/-- The answer of a turn, as it is stored. -/
def replyJson (ctx : ChatContext) (answer : Json) : Except JsonError Json := do
  let answered ← answer.valueBool "ok" false
  let content ← if answered then answer.valueString "reply" "" else answer.valueString "error" ""
  let model ← answer.valueString "model" ctx.model
  let code ← answer.valueString "code" ""
  let latency ← answer.valueInt32 "latency_ms" 0
  return .obj ([("code", .str code), ("content", .str content), ("latency_ms", .int latency),
    ("model", .str model), ("oid", .str ctx.answerOid), ("ok", .bool answered),
    ("role", .str "assistant")] ++ ((answer.find? "scan").map fun v => ("scan", v)).toList ++
    [("seq", .int (ctx.seq + 1))])

/-- `storeTurn`: the turn for engined, where it has its names. -/
def storeTurn (ctx : ChatContext) (answer : Json) :
    Except JsonError (Option (IpcMessage Payload)) :=
  if ctx.sessionOid = "" ∨ ctx.ownerOid = "" ∨ ctx.questionOid = "" then .ok none
  else do
    let reply ← replyJson ctx answer
    let question : Json := .obj [("content", .str ctx.question), ("oid", .str ctx.questionOid),
      ("role", .str "user"), ("seq", .int ctx.seq)]
    return some
      { header := { src := .Mgmtd, dst := .Engined, cmd := ChatTurnStore,
                    flags := IpcFlag.Request.toFlag }
        payload := .json (.obj [("draft", .str ctx.draft), ("messages", .arr [question, reply]),
          ("model", .str ctx.model), ("owner", .str ctx.ownerOid), ("service", .str ctx.service),
          ("session", .str ctx.sessionOid), ("title", .str ctx.title)]) }

/-- `body["status"] = "done"`. -/
def markDone : Json → Except JsonError Json
  | .obj ms => .ok (.obj (ms.filter (·.1 ≠ "status") ++ [("status", .str "done")]))
  | .null => .ok (.obj [("status", .str "done")])
  | _ => .error .wrongType

/-- The answer where what the assistant said is no document. -/
def malformedAnswer : HttpResponse :=
  ⟨500, .obj [("code", .str "BAD_RESPONSE"), ("error", .str "malformed answer from pretzel-ai"),
    ("ok", .bool false), ("status", .str "done")]⟩

/-- `ChatController::result`: the tickets, the response and the message for
engined. -/
def ChatController.result (target : Bytes) (s : ChatTickets) :
    Except JsonError (ChatTickets × HttpResponse × Option (IpcMessage Payload)) :=
  let ticket := chatTicketOf target
  if ticket = 0 then .ok (s, chatError 400 "bad ticket", none)
  else
    match s.takeChatResult ticket with
    | (none, s) =>
        .ok (s, ⟨200, .obj [("status", .str "pending"), ("text", .str (s.chatPartial ticket))]⟩, none)
    | (some none, s) => .ok (s, malformedAnswer, none)
    | (some (some body), s) =>
        match s.takeChatContext ticket with
        | (none, s) => do
            let body ← markDone body
            return (s, ⟨200, body⟩, none)
        | (some ctx, s) => do
            let stored ← storeTurn ctx body
            let body ← markDone body
            return (s, ⟨200, body⟩, stored)

/-! ### What the assistant answers -/

/-- `WebGrpcEvent::dispatch` of a `ChatResponse`: more of the text, or the turn. -/
def WebGrpcEvent.onChatResponse (ticket : UInt32) (json : Option Json) (s : ChatTickets) :
    Except JsonError ChatTickets :=
  match json with
  | none => .ok (s.setChatResult ticket none)
  | some body => do
      if ← body.valueBool "partial" false then
        let text ← body.valueString "text" ""
        return s.appendChatPartial ticket text
      else return s.setChatResult ticket (some body)

/-- `WebGrpcEvent::dispatch` of an answer to any other call under a chat ticket. -/
def WebGrpcEvent.onUnaryResponse (ticket : UInt32) (json : Option Json) (s : ChatTickets) :
    ChatTickets := s.setChatResult ticket json

/-- `WebGrpcEvent::dispatch` of the answer to a call. -/
def WebGrpcEvent.dispatch (call : ChatCall) (json : Option Json) (s : ChatTickets) :
    Except JsonError ChatTickets :=
  match call with
  | .chat ticket .. => WebGrpcEvent.onChatResponse ticket json s
  | .unary ticket => .ok (WebGrpcEvent.onUnaryResponse ticket json s)

/-! ### What a send leaves -/

/-- **What a send leaves**: nothing is sent, or the next ticket is handed out with
the turn under it. -/
lemma send_cases {ownerOid transactionId : String} {body : Option Json} {s s' : ChatTickets}
    {resp : HttpResponse} {call : Option ChatCall}
    (h : ChatController.send ownerOid transactionId body s = .ok (s', resp, call)) :
    (s' = s ∧ call = none) ∨
      ∃ made ctx, made.ticket = s.chatTicket ∧ call = some made ∧
        s' = s.nextChatTicket.2.setChatContext s.chatTicket ctx := by
  cases body with
  | none =>
      cases h
      exact .inl ⟨rfl, rfl⟩
  | some input =>
      rw [ChatController.send] at h
      obtain ⟨message, -, h⟩ := except_bind_eq_ok.mp h
      split at h
      · cases h
        exact .inl ⟨rfl, rfl⟩
      · split at h
        · cases h
          exact .inl ⟨rfl, rfl⟩
        · iterate 9 obtain ⟨_, -, h⟩ := except_bind_eq_ok.mp h
          cases h
          exact .inr ⟨_, _, rfl, rfl, rfl⟩

/-! ### What a poll hands out -/

/-- **What a poll hands out**: nothing without a ticket; the text written so far while
there is no result; else the result, which is gone then with the text and the turn,
and with it the turn that it closes. -/
lemma result_cases {target : Bytes} {s s' : ChatTickets} {resp : HttpResponse}
    {message : Option (IpcMessage Payload)}
    (h : ChatController.result target s = .ok (s', resp, message)) :
    (chatTicketOf target = 0 ∧ s' = s ∧ message = none) ∨
    (chatTicketOf target ≠ 0 ∧ s.chatResults.lookup (chatTicketOf target) = none ∧ s' = s ∧
      resp = ⟨200, .obj [("status", .str "pending"),
        ("text", .str (s.chatPartial (chatTicketOf target)))]⟩ ∧ message = none) ∨
    ∃ result, chatTicketOf target ≠ 0 ∧ s.chatResults.lookup (chatTicketOf target) = some result ∧
      (s' = (s.takeChatResult (chatTicketOf target)).2 ∨
        s' = ((s.takeChatResult (chatTicketOf target)).2.takeChatContext (chatTicketOf target)).2) ∧
      (resp = malformedAnswer ∨ ∃ body answer, result = some body ∧ markDone body = .ok answer ∧
        resp = ⟨200, answer⟩) ∧
      ∀ m, message = some m → ∃ ctx body, s.chatContexts.lookup (chatTicketOf target) = some ctx ∧
        storeTurn ctx body = .ok (some m) := by
  rw [ChatController.result] at h
  split at h
  · next hzero =>
      cases h
      exact .inl ⟨hzero, rfl, rfl⟩
  · next hticket =>
      cases hfound : s.chatResults.lookup (chatTicketOf target) with
      | none =>
          have htake : s.takeChatResult (chatTicketOf target) = (none, s) := by
            rw [ChatTickets.takeChatResult, hfound]
          rw [htake] at h
          cases h
          exact .inr (.inl ⟨hticket, rfl, rfl, rfl, rfl⟩)
      | some result =>
          refine .inr (.inr ⟨result, hticket, rfl, ?_⟩)
          have htake : s.takeChatResult (chatTicketOf target) =
              (some result, (s.takeChatResult (chatTicketOf target)).2) := by
            rw [ChatTickets.takeChatResult, hfound]
          have hcontexts : (s.takeChatResult (chatTicketOf target)).2.chatContexts =
              s.chatContexts := by
            rw [ChatTickets.takeChatResult, hfound]
          rw [htake] at h
          cases result with
          | none =>
              cases h
              exact ⟨.inl rfl, .inl rfl, by rintro m ⟨⟩⟩
          | some body =>
              cases hctx : s.chatContexts.lookup (chatTicketOf target) with
              | none =>
                  have hnone : (s.takeChatResult (chatTicketOf target)).2.takeChatContext
                      (chatTicketOf target) = (none, (s.takeChatResult (chatTicketOf target)).2) := by
                    rw [ChatTickets.takeChatContext, hcontexts, hctx]
                  simp only [hnone] at h
                  obtain ⟨answer, hanswer, h⟩ := except_bind_eq_ok.mp h
                  cases h
                  exact ⟨.inl rfl, .inr ⟨body, answer, rfl, hanswer, rfl⟩, by rintro m ⟨⟩⟩
              | some ctx =>
                  have hsome : (s.takeChatResult (chatTicketOf target)).2.takeChatContext
                      (chatTicketOf target) = (some ctx, ((s.takeChatResult
                        (chatTicketOf target)).2.takeChatContext (chatTicketOf target)).2) := by
                    rw [ChatTickets.takeChatContext, hcontexts, hctx]
                  dsimp only at h
                  rw [hsome] at h
                  obtain ⟨stored, hstored, h⟩ := except_bind_eq_ok.mp h
                  obtain ⟨answer, hanswer, h⟩ := except_bind_eq_ok.mp h
                  cases h
                  refine ⟨.inr rfl, .inr ⟨body, answer, rfl, hanswer, rfl⟩, ?_⟩
                  rintro m rfl
                  exact ⟨ctx, body, rfl, hstored⟩

end Pretzel.Mgmtd
