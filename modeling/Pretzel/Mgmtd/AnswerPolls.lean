import Pretzel.Mgmtd.RunsEnd
import Pretzel.Mgmtd.ChatController

/-!
What mgmtd does with a document of the assistant: `WebGrpcEvent::dispatch` files
it, and `ChatController::result`, `TechDocController::result` and `progress`,
`BenchtestController::result` and `runProgress` hand it out. The parser refuses a
text without an exception; the typed reads behind it throw.

* `TechDocController.result`, `BenchtestController.result`: the other polls of the
  tickets; `TechDocController.progress`, `BenchtestController.runProgress`: the
  polls of the runs.
* `readable`, `runReadable`: the members that are read have their types.
* `Survived`, `RunSurvived`: no exception from the arrival of a document to the
  polls that collect it, and what a document of the wrong shape costs.
* `survived_iff`: a document is survived exactly where it is readable, or no JSON
  at all and the results are few enough to stay.
* `array_throws`: an answer that is an array.
-/

namespace Pretzel.Mgmtd

open Nlohmann Ipc Texts

/-! ### The polls -/

/-- The answer of a poll that still waits. -/
def stillPending : HttpResponse := ⟨200, .obj [("status", .str "pending")]⟩

/-- The answer of the other polls where what the assistant said is no document. -/
def malformedDocument : HttpResponse :=
  ⟨500, .obj [("error", .str "malformed answer from pretzel-ai"), ("status", .str "done")]⟩

/-- `TechDocController::result`. -/
def TechDocController.result (target : Bytes) (s : ChatTickets) :
    Except JsonError (ChatTickets × HttpResponse) :=
  let ticket := chatTicketOf target
  if ticket = 0 then .ok (s, chatError 400 "bad ticket")
  else
    match s.takeChatResult ticket with
    | (none, s) => .ok (s, stillPending)
    | (some none, s) => .ok (s, malformedDocument)
    | (some (some body), s) => do
        let body ← markDone body
        return (s, ⟨200, body⟩)

/-- The file of an export. -/
structure FileResponse where
  contentType : String
  body : String
  contentDisposition : String
deriving DecidableEq

/-- A character that would break out of the header. -/
def headerSafe (c : Char) : Char := if c.toNat = 34 || c.toNat = 92 || c.toNat < 32 then '_' else c

/-- `BenchtestController::result`: a document, or the file of an export. -/
def BenchtestController.result (target : Bytes) (s : ChatTickets) :
    Except JsonError (ChatTickets × (HttpResponse ⊕ FileResponse)) :=
  let ticket := chatTicketOf target
  if ticket = 0 then .ok (s, .inl (chatError 400 "bad ticket"))
  else
    match s.takeChatResult ticket with
    | (none, s) => .ok (s, .inl stillPending)
    | (some none, s) => .ok (s, .inl malformedDocument)
    | (some (some body), s) =>
        if body.contains "content" && body.contains "filename" then do
          let error ← body.valueString "error" ""
          if error ≠ "" then
            return (s, .inl ⟨502, .obj [("error", .str error), ("status", .str "done")]⟩)
          else
            let filename ← body.valueString "filename" "benchtest.jsonl"
            let content ← body.valueString "content" ""
            let filename := String.ofList (filename.toList.map headerSafe)
            return (s, .inr { contentType := "application/x-ndjson; charset=utf-8", body := content
                              contentDisposition := "attachment; filename=\"" ++ filename ++ "\"" })
        else do
          let body ← markDone body
          return (s, .inl ⟨200, body⟩)

section Runs

variable (H : StreamTexts) (m : RunSlots)

/-- `TechDocController::progress`. -/
def TechDocController.progress : Except JsonError HttpResponse :=
  let latest := (m.slots .CorpusRefresh).progress
  if latest = [] then
    .ok ⟨200, .obj [("idle", .bool true), ("running", .bool m.corpusRefreshing)]⟩
  else do
    let body ← ((H.parse latest).getD (.obj [])).set "running" (.bool m.corpusRefreshing)
    let body ← body.set "idle" (.bool false)
    return ⟨200, body⟩

/-- `BenchtestController::runProgress`, which drains the cases. -/
def BenchtestController.runProgress : Except JsonError (RunSlots × HttpResponse) := do
  let latest := (m.slots .BenchtestRun).progress
  let body := if latest = [] then .obj [] else (H.parse latest).getD (.obj [])
  let body ← body.set "running" (.bool m.benchtestRunning)
  let cases := m.benchtestCases.filterMap fun one => (H.parse one).bind (·.find? "last_case")
  let body ← body.set "cases" (.arr cases)
  return ({ m with benchtestCases := [] }, ⟨200, body⟩)

end Runs

/-! ### What is read -/

/-- The turn has the names it is stored under. -/
def ChatContext.named (ctx : ChatContext) : Bool :=
  ctx.sessionOid ≠ "" && ctx.ownerOid ≠ "" && ctx.questionOid ≠ ""

/-- The members that a stored turn takes have their types. -/
def turnReadable (body : Json) : Bool :=
  body.boolOrAbsent "ok" &&
    (if body.boolOr "ok" false then body.stringOrAbsent "reply" else body.stringOrAbsent "error") &&
    body.stringOrAbsent "model" && body.stringOrAbsent "code" && body.numericOrAbsent "latency_ms"

/-- The members that the file of an export takes have their types. -/
def fileReadable (body : Json) : Bool :=
  !(body.contains "content" && body.contains "filename") ||
    (body.stringOrAbsent "error" && (body.textOr "error" "" ≠ "" ||
      (body.stringOrAbsent "filename" && body.stringOrAbsent "content")))

/-- An answer under a chat ticket: an object, and the members that are read of it
have their types. -/
def readable (ctx : Option ChatContext) (body : Json) : Bool :=
  body.isObject && body.boolOrAbsent "partial" &&
    if body.boolOr "partial" false then body.stringOrAbsent "text"
    else (ctx.all fun c => !c.named || turnReadable body) && fileReadable body

/-- A progress document: no JSON, or an object whose members that are read have
their types. -/
def runReadable (cmd : StreamCmd) : Option Json → Bool
  | none => true
  | some body =>
      body.isObject && body.boolOrAbsent "final" &&
        (cmd = .CorpusRefresh || body.stringOrAbsent "stage")

/-! ### The law -/

/-- Nothing is changed under any other ticket. -/
def OwnOnly (ticket : UInt32) (s s' : ChatTickets) : Prop :=
  ∀ other ≠ ticket, s'.chatResults.lookup other = s.chatResults.lookup other ∧
    s'.chatContexts.lookup other = s.chatContexts.lookup other ∧
      s'.chatPartials.lookup other = s.chatPartials.lookup other

/-- A later state in which the ticket has the result it had, and the turn. -/
structure Later (ticket : UInt32) (ctx : Option ChatContext) (s later : ChatTickets) : Prop where
  result : later.chatResults.lookup ticket = s.chatResults.lookup ticket
  turn : later.chatContexts.lookup ticket = ctx

/-- No exception leaves the arrival of an answer or a poll that collects it; and
what is no readable document is reported as malformed, and costs its own ticket
only. -/
structure Survived (target : Bytes) (ctx : Option ChatContext) (doc : Option Json)
    (s : ChatTickets) : Prop where
  dispatched : Returns (WebGrpcEvent.onChatResponse (chatTicketOf target) doc s)
  polled : ∀ s', WebGrpcEvent.onChatResponse (chatTicketOf target) doc s = .ok s' →
    ∀ later, Later (chatTicketOf target) ctx s' later →
      Returns (ChatController.result target later) ∧ Returns (TechDocController.result target later) ∧
        Returns (BenchtestController.result target later)
  reported : (∀ body, doc = some body → readable ctx body = false) →
    ∀ s', WebGrpcEvent.onChatResponse (chatTicketOf target) doc s = .ok s' →
      OwnOnly (chatTicketOf target) s s' ∧ ∀ later, Later (chatTicketOf target) ctx s' later →
        ∃ left, OwnOnly (chatTicketOf target) later left ∧
          ChatController.result target later = .ok (left, malformedAnswer, none) ∧
          TechDocController.result target later = .ok (left, malformedDocument) ∧
          BenchtestController.result target later = .ok (left, .inl malformedDocument)

/-- The poll of a run leaves no exception. -/
def RunPolled (H : StreamTexts) (m : RunSlots) : StreamCmd → Prop
  | .CorpusRefresh => Returns (TechDocController.progress H m)
  | .BenchtestRun => Returns (BenchtestController.runProgress H m)

/-- No exception leaves the arrival of a progress document or a poll of its run. -/
structure RunSurvived (H : StreamTexts) (cmd : StreamCmd) (json : Bytes) : Prop where
  dispatched : ∀ m : RunSlots, Returns (m.dispatch H cmd json)
  polled : ∀ m m' : RunSlots, m.dispatch H cmd json = .ok m' →
    ∀ later : RunSlots, (later.slots cmd).progress = (m'.slots cmd).progress →
      RunPolled H later cmd

section Reads

variable {body : Json} {ctx : ChatContext}

lemma returns_markDone (h : body.isObject = true) : Returns (markDone body) := by
  obtain ⟨ms, rfl⟩ := Json.isObject_iff.mp h
  exact returns_ok _

lemma returns_replyJson (h : body.isObject = true) :
    Returns (replyJson ctx body) ↔ turnReadable body = true := by
  rw [replyJson, Json.returns_bool, turnReadable]
  cases hok : body.boolOr "ok" false with
  | true =>
      rw [if_pos rfl, if_pos rfl, Json.returns_text h, Json.returns_text h, Json.returns_text h,
        Json.returns_int32 h]
      simp [h, and_assoc, returns_pure]
  | false =>
      rw [if_neg Bool.false_ne_true, if_neg Bool.false_ne_true, Json.returns_text h,
        Json.returns_text h, Json.returns_text h, Json.returns_int32 h]
      simp [h, and_assoc, returns_pure]

lemma returns_storeTurn (h : body.isObject = true) :
    Returns (storeTurn ctx body) ↔ (!ctx.named || turnReadable body) = true := by
  rw [storeTurn, ChatContext.named]
  split
  · next hnameless =>
      refine iff_of_true (returns_ok _) ?_
      rcases hnameless with h | h | h <;> simp [h]
  · next hnamed =>
      rw [not_or, not_or] at hnamed
      obtain ⟨hsession, howner, hquestion⟩ := hnamed
      rw [returns_bind_iff (p := True) fun _ _ => iff_of_true (returns_pure _) trivial, and_true,
        returns_replyJson h]
      simp [hsession, howner, hquestion]

end Reads

/-! ### One arrival and one poll -/

section Tickets

variable {target : Bytes} {ticket : UInt32} {doc : Option Json} {body : Json} {s s' : ChatTickets}

lemma returns_onChatResponse :
    Returns (WebGrpcEvent.onChatResponse ticket (some body) s) ↔
      body.isObject = true ∧ body.boolOrAbsent "partial" = true ∧
        (body.boolOr "partial" false = true → body.stringOrAbsent "text" = true) := by
  rw [WebGrpcEvent.onChatResponse, Json.returns_bool]
  refine and_congr_right fun hobj => and_congr_right fun _ => ?_
  cases body.boolOr "partial" false with
  | true =>
      rw [if_pos rfl, Json.returns_text hobj]
      simp [returns_pure]
  | false =>
      rw [if_neg Bool.false_ne_true]
      simp [returns_pure]

/-- What an answer leaves: a result, or more of the text. -/
lemma onChatResponse_eq_ok (h : WebGrpcEvent.onChatResponse ticket doc s = .ok s') :
    (s' = s.setChatResult ticket doc ∧
        ∀ body, doc = some body → body.isObject = true ∧ body.boolOr "partial" false = false) ∨
      ∃ body text, doc = some body ∧ body.isObject = true ∧ body.boolOr "partial" false = true ∧
        s' = s.appendChatPartial ticket text := by
  cases doc with
  | none =>
      cases h
      exact .inl ⟨rfl, fun body hbody => by cases hbody⟩
  | some body =>
      rw [WebGrpcEvent.onChatResponse] at h
      obtain ⟨b, hb, h⟩ := except_bind_eq_ok.mp h
      obtain ⟨hobj, -, rfl⟩ := Json.valueBool_eq_ok_iff.mp hb
      split at h
      · next hdelta =>
          obtain ⟨text, -, h⟩ := except_bind_eq_ok.mp h
          cases h
          exact .inr ⟨body, text, rfl, hobj, hdelta, rfl⟩
      · next hdelta =>
          cases h
          refine .inl ⟨rfl, ?_⟩
          rintro _ ⟨⟩
          exact ⟨hobj, Bool.not_eq_true _ ▸ hdelta⟩

/-- A poll takes what is there, and leaves the turn. -/
lemma takeChatResult_of_lookup {result : Option Json}
    (h : s.chatResults.lookup ticket = some result) :
    s.takeChatResult ticket = (some result, { s with
      chatResults := s.chatResults.erase ticket
      chatPartials := s.chatPartials.erase ticket }) := by
  rw [ChatTickets.takeChatResult, h]

lemma takeChatResult_of_none (h : s.chatResults.lookup ticket = none) :
    s.takeChatResult ticket = (none, s) := by
  rw [ChatTickets.takeChatResult, h]

/-- Polls that find nothing. -/
lemma polls_of_none (h : s.chatResults.lookup (chatTicketOf target) = none) :
    Returns (ChatController.result target s) ∧ Returns (TechDocController.result target s) ∧
      Returns (BenchtestController.result target s) := by
  have htake := takeChatResult_of_none h
  refine ⟨?_, ?_, ?_⟩
  · rw [ChatController.result, htake]
    dsimp only
    split <;> exact returns_ok _
  · rw [TechDocController.result, htake]
    dsimp only
    split <;> exact returns_ok _
  · rw [BenchtestController.result, htake]
    dsimp only
    split <;> exact returns_ok _

/-- Polls that find what is no document. -/
lemma polls_of_malformed (hticket : chatTicketOf target ≠ 0)
    (h : s.chatResults.lookup (chatTicketOf target) = some none) :
    ChatController.result target s =
        .ok ((s.takeChatResult (chatTicketOf target)).2, malformedAnswer, none) ∧
      TechDocController.result target s =
        .ok ((s.takeChatResult (chatTicketOf target)).2, malformedDocument) ∧
      BenchtestController.result target s =
        .ok ((s.takeChatResult (chatTicketOf target)).2, .inl malformedDocument) := by
  have htake := takeChatResult_of_lookup h
  refine ⟨?_, ?_, ?_⟩
  · rw [ChatController.result, if_neg hticket, htake]
  · rw [TechDocController.result, if_neg hticket, htake]
  · rw [BenchtestController.result, if_neg hticket, htake]

/-- Polls that find an object. -/
lemma polls_of_document (hticket : chatTicketOf target ≠ 0) (hobj : body.isObject = true)
    (h : s.chatResults.lookup (chatTicketOf target) = some (some body)) :
    (Returns (ChatController.result target s) ∧ Returns (TechDocController.result target s) ∧
        Returns (BenchtestController.result target s)) ↔
      ((s.chatContexts.lookup (chatTicketOf target)).all fun c => !c.named || turnReadable body) =
        true ∧ fileReadable body = true := by
  have htake := takeChatResult_of_lookup h
  have hdone := returns_markDone hobj
  have hchat : Returns (ChatController.result target s) ↔
      ((s.chatContexts.lookup (chatTicketOf target)).all fun c => !c.named || turnReadable body) =
        true := by
    rw [ChatController.result, if_neg hticket, htake]
    dsimp only
    rw [ChatTickets.takeChatContext]
    dsimp only
    cases s.chatContexts.lookup (chatTicketOf target) with
    | none =>
        dsimp only
        rw [returns_bind_iff (p := True) fun _ _ => iff_of_true (returns_pure _) trivial]
        simp [hdone]
    | some c =>
        dsimp only
        rw [returns_bind_iff (p := True) fun stored _ => ?_, and_true, returns_storeTurn hobj,
          Option.all_some]
        rw [returns_bind_iff (p := True) fun _ _ => iff_of_true (returns_pure _) trivial]
        simp [hdone]
  have htech : Returns (TechDocController.result target s) := by
    rw [TechDocController.result, if_neg hticket, htake]
    dsimp only
    rw [returns_bind_iff (p := True) fun _ _ => iff_of_true (returns_pure _) trivial]
    simp [hdone]
  have hbench : Returns (BenchtestController.result target s) ↔ fileReadable body = true := by
    rw [BenchtestController.result, if_neg hticket, htake]
    dsimp only
    rw [fileReadable]
    split
    · next hfile =>
        rw [Json.returns_text hobj, hfile]
        by_cases herror : body.textOr "error" "" = ""
        · rw [if_neg (not_not.mpr herror), Json.returns_text hobj, Json.returns_text hobj]
          simp [herror, returns_pure]
        · rw [if_pos herror]
          simp [herror, returns_pure]
    · next hfile =>
        rw [Bool.not_eq_true] at hfile
        rw [returns_bind_iff (p := True) fun _ _ => iff_of_true (returns_pure _) trivial]
        simp [hfile, hdone]
  rw [hchat, hbench]
  simp [htech]

/-! ### What is left of the other tickets -/

lemma ownOnly_takeChatResult : OwnOnly ticket s (s.takeChatResult ticket).2 := by
  intro other hother
  rw [ChatTickets.takeChatResult]
  split
  · exact ⟨rfl, rfl, rfl⟩
  · exact ⟨AList.lookup_erase_ne hother, rfl, AList.lookup_erase_ne hother⟩

/-- A result leaves the others where the map is not cleared for it. -/
lemma ownOnly_setChatResult_iff (h : s.chatResults.lookup ticket = none) :
    OwnOnly ticket s (s.setChatResult ticket doc) ↔ s.chatResults.keys.length ≤ 256 := by
  constructor
  · intro hown
    by_contra hfull
    rw [not_le] at hfull
    obtain ⟨other, hother⟩ := List.exists_mem_of_length_pos (Nat.zero_lt_of_lt hfull)
    have hne : other ≠ ticket := by
      rintro rfl
      exact AList.lookup_eq_none.mp h (AList.mem_keys.mpr hother)
    have hlookup := (hown other hne).1
    rw [ChatTickets.setChatResult, bounded, if_pos hfull] at hlookup
    dsimp only at hlookup
    rw [AList.lookup_insert_ne hne, AList.lookup_empty] at hlookup
    exact AList.lookup_eq_none.mp hlookup.symm (AList.mem_keys.mpr hother)
  · intro hroom other hother
    rw [ChatTickets.setChatResult, bounded, if_neg (not_lt.mpr hroom)]
    exact ⟨AList.lookup_insert_ne hother, rfl, rfl⟩

/-! ### The law of an answer -/

/-- An answer is readable, or no JSON where there is room among the results. -/
def Endures (ctx : Option ChatContext) (doc : Option Json) (s : ChatTickets) : Prop :=
  match doc with
  | none => s.chatResults.keys.length ≤ 256
  | some body => readable ctx body = true

lemma survived_none_iff (hticket : chatTicketOf target ≠ 0) {ctx : Option ChatContext}
    (hfresh : s.chatResults.lookup (chatTicketOf target) = none) :
    Survived target ctx none s ↔ s.chatResults.keys.length ≤ 256 := by
  have hfound : ∀ later, Later (chatTicketOf target) ctx
      (s.setChatResult (chatTicketOf target) none) later →
      later.chatResults.lookup (chatTicketOf target) = some none :=
    fun later hlater => hlater.result.trans (AList.lookup_insert _)
  constructor
  · intro h
    exact (ownOnly_setChatResult_iff hfresh).mp (h.reported (fun _ hbody => by cases hbody) _ rfl).1
  · intro hroom
    refine ⟨returns_ok _, ?_, ?_⟩
    · rintro s' ⟨⟩ later hlater
      obtain ⟨hchat, htech, hbench⟩ := polls_of_malformed hticket (hfound later hlater)
      exact ⟨⟨_, hchat⟩, ⟨_, htech⟩, ⟨_, hbench⟩⟩
    · rintro - s' ⟨⟩
      refine ⟨(ownOnly_setChatResult_iff hfresh).mpr hroom, fun later hlater => ?_⟩
      exact ⟨_, ownOnly_takeChatResult, polls_of_malformed hticket (hfound later hlater)⟩

/-- The tickets with a turn under one of them. -/
def ChatTickets.withTurn (s : ChatTickets) (ticket : UInt32) (ctx : Option ChatContext) :
    ChatTickets :=
  { s with chatContexts := match ctx with
      | none => ∅
      | some c => AList.insert ticket c ∅ }

lemma later_withTurn {ctx : Option ChatContext} : Later ticket ctx s (s.withTurn ticket ctx) := by
  refine ⟨rfl, ?_⟩
  cases ctx with
  | none => exact AList.lookup_empty ticket
  | some c => exact AList.lookup_insert _

lemma survived_some_iff (hticket : chatTicketOf target ≠ 0) {ctx : Option ChatContext}
    (hfresh : s.chatResults.lookup (chatTicketOf target) = none) :
    Survived target ctx (some body) s ↔ readable ctx body = true := by
  rw [readable, Bool.and_eq_true, Bool.and_eq_true]
  constructor
  · intro h
    obtain ⟨s', hs'⟩ := h.dispatched
    obtain ⟨hobj, hflag, htext⟩ := returns_onChatResponse.mp h.dispatched
    refine ⟨⟨hobj, hflag⟩, ?_⟩
    rcases onChatResponse_eq_ok hs' with ⟨rfl, hfiled⟩ | ⟨_, text, ⟨⟩, -, hdelta, rfl⟩
    · -- the document is filed, and a poll of each kind collects it
      have hfound : ((s.setChatResult (chatTicketOf target) (some body)).withTurn
          (chatTicketOf target) ctx).chatResults.lookup (chatTicketOf target) = some (some body) :=
        AList.lookup_insert _
      have hread := (polls_of_document hticket hobj hfound).mp (h.polled _ hs' _ later_withTurn)
      rw [later_withTurn.turn] at hread
      rw [(hfiled body rfl).2, if_neg Bool.false_ne_true, Bool.and_eq_true]
      exact hread
    · rw [hdelta, if_pos rfl]
      exact htext hdelta
  · rintro ⟨⟨hobj, hflag⟩, hread⟩
    have hdispatched : Returns (WebGrpcEvent.onChatResponse (chatTicketOf target) (some body) s) := by
      refine returns_onChatResponse.mpr ⟨hobj, hflag, fun hdelta => ?_⟩
      rw [hdelta, if_pos rfl] at hread
      exact hread
    refine ⟨hdispatched, ?_, ?_⟩
    · intro s' hs' later hlater
      rcases onChatResponse_eq_ok hs' with ⟨rfl, hfiled⟩ | ⟨_, text, -, -, -, rfl⟩
      · have hfound : later.chatResults.lookup (chatTicketOf target) = some (some body) :=
          hlater.result.trans (AList.lookup_insert _)
        rw [(hfiled body rfl).2, if_neg Bool.false_ne_true, Bool.and_eq_true] at hread
        rw [polls_of_document hticket hobj hfound, hlater.turn]
        exact hread
      · exact polls_of_none (hlater.result.trans hfresh)
    · intro hunreadable
      have hno := hunreadable body rfl
      rw [readable, hobj, hflag, hread] at hno
      cases hno

end Tickets

/-! ### The law of a progress document -/

section Progress

variable {H : StreamTexts} {cmd : StreamCmd} {json : Bytes} {m m' : RunSlots}

lemma returns_dispatch : Returns (m.dispatch H cmd json) ↔ runReadable cmd (H.parse json) = true := by
  rw [RunSlots.dispatch, StreamTexts.finished]
  cases hparse : H.parse json with
  | none =>
      refine iff_of_true ?_ rfl
      cases cmd <;> exact returns_ok _
  | some body =>
      dsimp only
      rw [Json.returns_bool, runReadable, Bool.and_eq_true, Bool.and_eq_true, and_assoc]
      refine and_congr_right fun hobj => and_congr_right fun _ => ?_
      cases cmd with
      | CorpusRefresh => simp [returns_pure]
      | BenchtestRun =>
          dsimp only
          rw [Json.returns_text hobj]
          split <;> simp [returns_pure]

/-- The document is in the slot after it arrived. -/
lemma progress_of_dispatch (h : m.dispatch H cmd json = .ok m') : (m'.slots cmd).progress = json := by
  rw [RunSlots.dispatch] at h
  obtain ⟨finished, -, h⟩ := except_bind_eq_ok.mp h
  cases cmd with
  | CorpusRefresh =>
      cases h
      simp [RunSlots.setCorpusProgress, RunSlots.setProgress]
  | BenchtestRun =>
      dsimp only at h
      cases hparse : H.parse json with
      | none =>
          rw [hparse] at h
          cases h
          simp [RunSlots.setBenchtestProgress, RunSlots.setProgress]
      | some body =>
          rw [hparse] at h
          obtain ⟨stage, -, h⟩ := except_bind_eq_ok.mp h
          split at h <;> cases h <;> simp [RunSlots.setBenchtestProgress, RunSlots.setProgress]

lemma returns_set {body : Json} (h : body.isObject = true) (key : String) (v : Json) :
    ∃ j, body.set key v = .ok j ∧ j.isObject = true := by
  obtain ⟨ms, rfl⟩ := Json.isObject_iff.mp h
  exact ⟨_, rfl, rfl⟩

/-- A poll of a run whose document is an object, or none. -/
lemma polls_of_progress
    (h : ∀ body, H.parse (m.slots cmd).progress = some body → body.isObject = true) :
    RunPolled H m cmd := by
  have hobject : ((H.parse (m.slots cmd).progress).getD (.obj [])).isObject = true := by
    cases hparse : H.parse (m.slots cmd).progress with
    | none => rfl
    | some body => exact h body hparse
  cases cmd with
  | CorpusRefresh =>
      rw [RunPolled, TechDocController.progress]
      split
      · exact returns_ok _
      · obtain ⟨j, hj, hjobj⟩ := returns_set hobject "running" (.bool m.corpusRefreshing)
        obtain ⟨j', hj', -⟩ := returns_set hjobj "idle" (.bool false)
        refine ⟨⟨200, j'⟩, ?_⟩
        rw [hj]
        change (j.set "idle" (.bool false) >>= _) = _
        rw [hj']
        rfl
  | BenchtestRun =>
      rw [RunPolled, BenchtestController.runProgress]
      generalize m.benchtestCases.filterMap _ = cases
      have hbody : (if (m.slots .BenchtestRun).progress = [] then Json.obj []
          else (H.parse (m.slots .BenchtestRun).progress).getD (.obj [])).isObject = true := by
        split
        · rfl
        · exact hobject
      generalize (if (m.slots .BenchtestRun).progress = [] then Json.obj []
          else (H.parse (m.slots .BenchtestRun).progress).getD (.obj [])) = body at hbody ⊢
      obtain ⟨j, hj, hjobj⟩ := returns_set hbody "running" (.bool m.benchtestRunning)
      obtain ⟨j', hj', -⟩ := returns_set hjobj "cases" (.arr cases)
      refine ⟨({ m with benchtestCases := [] }, ⟨200, j'⟩), ?_⟩
      rw [hj]
      change (j.set "cases" (.arr cases) >>= _) = _
      rw [hj']
      rfl

lemma runSurvived_iff : RunSurvived H cmd json ↔ runReadable cmd (H.parse json) = true := by
  constructor
  · intro h
    exact returns_dispatch.mp (h.dispatched {})
  · intro hread
    refine ⟨fun m => returns_dispatch.mpr hread, fun m m' hm' later hlater => ?_⟩
    refine polls_of_progress fun body hbody => ?_
    rw [hlater, progress_of_dispatch hm'] at hbody
    rw [hbody, runReadable, Bool.and_eq_true, Bool.and_eq_true] at hread
    exact hread.1.1

end Progress

/-- **What the assistant may answer.** From its arrival to the polls that collect it
an answer under a new ticket leaves no exception, and is reported as malformed at
its own ticket's cost where it is no readable document, exactly where it is
readable, or no JSON and there is room among the results; a progress document
leaves none exactly where it is no JSON or readable. -/
theorem survived_iff (target : Bytes) (ctx : Option ChatContext) (doc : Option Json)
    (s : ChatTickets) (H : StreamTexts) (cmd : StreamCmd) (json : Bytes) :
    (chatTicketOf target ≠ 0 → s.chatResults.lookup (chatTicketOf target) = none →
      (Survived target ctx doc s ↔ Endures ctx doc s)) ∧
      (RunSurvived H cmd json ↔ runReadable cmd (H.parse json) = true) := by
  refine ⟨fun hticket hfresh => ?_, runSurvived_iff⟩
  cases doc with
  | none => exact survived_none_iff hticket hfresh
  | some body => exact survived_some_iff hticket hfresh

/-- A poll of the first ticket. -/
def firstPoll : Bytes := textBytes "/api/chat/result?ticket=1"

/-- An answer under the first ticket that is survived, and a last message. -/
theorem survived_iff_first :
    Survived firstPoll none (some (.obj [("ok", .bool true), ("reply", .str "hello")])) {} ∧
      RunSurvived Sample.texts .BenchtestRun Sample.doneDoc := by
  obtain ⟨hanswer, hrun⟩ := survived_iff firstPoll none
    (some (.obj [("ok", .bool true), ("reply", .str "hello")])) {} Sample.texts .BenchtestRun
    Sample.doneDoc
  exact ⟨(hanswer (by decide +kernel) rfl).mpr (show readable _ _ = true by decide +kernel),
    hrun.mpr (by decide +kernel)⟩

/-- **An answer that throws**: an array under the first ticket. -/
theorem array_throws :
    ¬∀ target ctx doc s, chatTicketOf target ≠ 0 →
      s.chatResults.lookup (chatTicketOf target) = none → Survived target ctx doc s := by
  intro hall
  have hsurvived := hall firstPoll none (some (.arr [])) {} (by decide +kernel) rfl
  exact not_returns_error _ hsurvived.dispatched

end Pretzel.Mgmtd
