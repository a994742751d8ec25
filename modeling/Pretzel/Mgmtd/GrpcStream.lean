import Pretzel.Ipc.Codec
import Pretzel.Library.Json
import Pretzel.Library.Machine
import Pretzel.Library.Texts

/-!
The two streaming calls to the assistant (`mgmtd/grpc/GrpcClientHandler.cpp`), and what
the main loop makes of their documents.

* `StreamTexts`: `json::parse` and protobuf's JSON printer, with what is documented of
  them.
* `unreachableDoc`, `saysFinal`: the document of a stream without an answer, and the
  search for a final one.
* `RunSlots`: the two runs as `MgmtdServiceManager` keeps them; `RunSlots.dispatch` is
  `WebGrpcEvent::dispatch` of a progress document.
* `StreamRun`: the stream thread. `Streams`: it, the main loop and the two queues between
  them.
* `streams`: the machine. Requests, polls, dispatches and the thread's steps are taken in
  any order.
* `finished_toJson`, `finished_cancelledDoc`, `finished_unreachableDoc`: the documents that
  end a run. `slots_of_beginRun`, `slots_of_dispatch`: what a begin and a dispatch do.
-/

namespace Pretzel.Mgmtd

open Texts Nlohmann Ipc Reactive

/-! ### Documents -/

/-- The commands that stream. -/
inductive StreamCmd where
  | CorpusRefresh
  | BenchtestRun
deriving DecidableEq

/-- A progress message of the assistant: what the client reads of it, and the rest. -/
structure Progress where
  final : Bool
  error : Bytes := []
  fields : List (String × Json) := []
deriving DecidableEq

/-- `grpc::Status`. -/
inductive Status where
  | ok
  | failed (cancelled : Bool) (message : Bytes)

/-- `jsonEscape`. -/
def jsonEscape (raw : Bytes) : Bytes :=
  raw.flatMap fun c =>
    (if c = 34 ∨ c = 92 then [92] else []) ++ (if c = 10 ∨ c = 13 ∨ c = 9 then [32] else [c])

/-- `unreachableDoc`, of a stream. -/
def unreachableDoc (cmd : StreamCmd) (reason : Bytes) : Bytes :=
  let escaped := jsonEscape reason
  match cmd with
  | .CorpusRefresh =>
      textBytes "\x7b\"stage\":\"failed\",\"final\":true,\"error\":\"" ++ escaped ++ textBytes "\"\x7d"
  | .BenchtestRun => textBytes "\x7b\"error\":\"" ++ escaped ++ textBytes "\"\x7d"

/-- The document of a cancelled stream. -/
def cancelledDoc : Bytes := textBytes "\x7b\"stage\":\"cancelled\",\"final\":true\x7d"

/-- `json::parse` and `MessageToJsonString`. A printed message is an object with every
field of the message; a document around an escaped text is its members, or no document at
all where the text is none of JSON. -/
structure StreamTexts where
  parse : Bytes → Option Json
  print : Progress → Option Bytes
  parse_print : ∀ {p text}, print p = some text →
    ∃ ms, parse text = some (.obj ms) ∧ Json.lookup "final" ms = some (.bool p.final)
  parse_cancelled : parse cancelledDoc
    = some (.obj [("final", .bool true), ("stage", .str "cancelled")])
  parse_failed : ∀ {reason j}, parse (unreachableDoc .CorpusRefresh reason) = some j →
    ∃ error, j = .obj [("error", .str error), ("final", .bool true), ("stage", .str "failed")]

variable (H : StreamTexts)

/-- `toJson`. -/
def StreamTexts.toJson (p : Progress) : Bytes := (H.print p).getD (textBytes "\x7b\x7d")

/-- The search of `onProgress` for a final document. -/
def saysFinal (json : Bytes) : Bool :=
  match afterFirst (textBytes "\"final\"") json with
  | none => false
  | some rest => (afterFirst (textBytes "true") (textBytes "\"final\"" ++ rest)).isSome

/-- The error of a stream names a cancellation. -/
def saysCancelled (error : Bytes) : Bool :=
  (afterFirst (textBytes "CANCELLED") error).isSome ||
    (afterFirst (textBytes "Cancelled") error).isSome

/-! ### The runs of the service manager -/

/-- A run: whether it is running, and its live slot. -/
structure RunSlot where
  running : Bool := false
  progress : Bytes := []

/-- The runs of `MgmtdServiceManager`. -/
structure RunSlots where
  slots : StreamCmd → RunSlot := fun _ => {}
  benchtestCases : List Bytes := []

namespace RunSlots

variable (m : RunSlots)

/-- `m_corpusRefreshing`. -/
def corpusRefreshing : Bool := (m.slots .CorpusRefresh).running

/-- `m_benchtestRunning`. -/
def benchtestRunning : Bool := (m.slots .BenchtestRun).running

/-- A run begins, unless it is running. -/
def begin (cmd : StreamCmd) : Option RunSlots :=
  if (m.slots cmd).running then none
  else some { m with slots := Function.update m.slots cmd { running := true } }

/-- `beginCorpusRefresh`. -/
def beginCorpusRefresh : Option RunSlots := m.begin .CorpusRefresh

/-- `beginBenchtestRun`. -/
def beginBenchtestRun : Option RunSlots :=
  (m.begin .BenchtestRun).map fun m => { m with benchtestCases := [] }

/-- A document in the live slot, and the end of the run. -/
def setProgress (cmd : StreamCmd) (json : Bytes) (finished : Bool) : RunSlots :=
  { m with
    slots := Function.update m.slots cmd
      { running := (m.slots cmd).running && !finished, progress := json } }

/-- `setCorpusProgress`. -/
def setCorpusProgress (json : Bytes) (finished : Bool) : RunSlots :=
  m.setProgress .CorpusRefresh json finished

/-- `setBenchtestProgress`. -/
def setBenchtestProgress (json : Bytes) (finished : Bool) : RunSlots :=
  m.setProgress .BenchtestRun json finished

/-- `kMaxQueued`. -/
def maxQueued : ℕ := 2000

/-- `queueBenchtestCase`. -/
def queueBenchtestCase (json : Bytes) : RunSlots :=
  { m with
    benchtestCases :=
      (if maxQueued ≤ m.benchtestCases.length then m.benchtestCases.tail else m.benchtestCases)
        ++ [json] }

/-- The run of a command begins. -/
def beginRun : StreamCmd → Option RunSlots
  | .CorpusRefresh => m.beginCorpusRefresh
  | .BenchtestRun => m.beginBenchtestRun

end RunSlots

/-- A progress document ends the run: it does not parse, or it says so. -/
def StreamTexts.finished (json : Bytes) : Except JsonError Bool :=
  match H.parse json with
  | none => .ok true
  | some body => body.valueBool "final" false

/-- `WebGrpcEvent::dispatch` of a progress document. -/
def RunSlots.dispatch (m : RunSlots) (cmd : StreamCmd) (json : Bytes) :
    Except JsonError RunSlots := do
  let finished ← H.finished json
  match cmd with
  | .CorpusRefresh => return m.setCorpusProgress json finished
  | .BenchtestRun =>
      match H.parse json with
      | none => return m.setBenchtestProgress json finished
      | some body =>
          let stage ← body.valueString "stage" ""
          if stage = "case" then
            return (m.queueBenchtestCase json).setBenchtestProgress json finished
          else return m.setBenchtestProgress json finished

/-! ### The stream thread -/

/-- Where the thread is: it reads the stream, it has reported the end and has still to
clear `streaming`, or an exception has cleared it and has still to be reported. -/
inductive Stage where
  | reading
  | reported
  | threw (what : Bytes)
deriving DecidableEq

/-- The thread of `runStreamGuarded`, with the messages of the stream so far. -/
structure StreamRun where
  cmd : StreamCmd
  error : Bytes := []
  sawFinal : Bool := false
  stage : Stage := .reading
  received : List Progress := []

namespace StreamRun

variable (r : StreamRun)

/-- `onProgress`, and what `refreshCorpus` keeps of a message. -/
def onProgress (p : Progress) : StreamRun :=
  { r with
    sawFinal := r.sawFinal || saysFinal (H.toJson p)
    error :=
      if r.cmd = .CorpusRefresh ∧ p.final = true ∧ p.error ≠ [] then p.error else r.error
    received := r.received ++ [p] }

/-- The error of the call, when its stream is finished: `benchtestRun` leaves a cancelled
one without, `refreshCorpus` one that has an error. -/
def finishError (status : Status) : Bytes :=
  match status, r.cmd with
  | .ok, _ => r.error
  | .failed cancelled message, .BenchtestRun =>
      if cancelled then r.error else textBytes "gRPC transport error: " ++ message
  | .failed _ message, .CorpusRefresh =>
      if r.error = [] then textBytes "gRPC transport error: " ++ message else r.error

/-- Why there is no final document. -/
def endReason (status : Status) : Bytes :=
  let error := r.finishError status
  if error = [] then textBytes "the stream closed" else error

/-- The end of `runStream`: a document where no final one was seen. -/
def terminal (status : Status) : Option Bytes :=
  if r.sawFinal then none
  else if saysCancelled (r.finishError status) then some cancelledDoc
  else some (unreachableDoc r.cmd (r.endReason status))

end StreamRun

/-! ### The machine -/

/-- mgmtd's main loop, the queues to it, and the stream thread. -/
structure Streams where
  runs : RunSlots := {}
  events : List (StreamCmd × Bytes) := []
  done : List (StreamCmd × Bytes) := []
  streaming : Bool := false
  thread : Option StreamRun := none
  /-- A stream the main loop has accepted, waiting in `join` for the thread before. -/
  joining : Option StreamCmd := none

/-- The steps of the main loop, and those of the thread. -/
inductive StreamStep where
  | start (cmd : StreamCmd)
  | cancel (cmd : StreamCmd)
  | poll
  | dispatch
  | spawn
  | progress (p : Progress)
  | ended (status : Status)
  | cleared
  | threw (what : Bytes)
  | reported

namespace Streams

variable (s : Streams)

/-- `report`. -/
def report (cmd : StreamCmd) (json : Bytes) : Streams :=
  { s with done := s.done ++ [(cmd, json)] }

/-- `egress` of a stream. -/
def egress (cmd : StreamCmd) : Streams :=
  if s.streaming then s.report cmd (unreachableDoc cmd (textBytes "a refresh is already running"))
  else { s with streaming := true, joining := some cmd }

/-- `TechDocController::refresh` and `BenchtestController::runStart`, of a request that is
well formed. -/
def start (cmd : StreamCmd) : ℕ × Streams :=
  match s.runs.beginRun cmd with
  | none => (409, s)
  | some runs => (202, ({ s with runs } : Streams).egress cmd)

/-- A step of the main loop, which waits while it joins. -/
def loop (f : Streams → Option Streams) : Option Streams :=
  if s.joining = none then f s else none

/-- A step of the thread, where it is at a stage. -/
def atStage (stage : Stage) (f : StreamRun → Streams) : Option Streams :=
  match s.thread with
  | none => none
  | some r => if r.stage = stage then some (f r) else none

/-- `drain`: the results become events. -/
def poll : Streams := { s with events := s.events ++ s.done, done := [] }

/-- The first event is dispatched. -/
def dispatch : Option Streams :=
  match s.events with
  | [] => none
  | (cmd, json) :: events =>
      match s.runs.dispatch H cmd json with
      | .error _ => none
      | .ok runs => some { s with runs, events }

/-- The thread of the stream that was accepted starts, after the one before. -/
def spawn : Option Streams :=
  match s.joining, s.thread with
  | some cmd, none => some { s with joining := none, thread := some { cmd } }
  | _, _ => none

/-- The client's call has returned. -/
def ended (status : Status) (r : StreamRun) : Streams :=
  let t := { s with thread := some { r with stage := .reported } }
  match r.terminal status with
  | none => t
  | some json => t.report r.cmd json

end Streams

/-- The streams, from none. A cancel reaches the context of the call only, which then may
end as it may end anyway. An exception leaves `runStream` wherever it is. -/
def streams : Machine Streams StreamStep where
  init s := s = {}
  next s
    | .start cmd => s.loop fun s => some (s.start cmd).2
    | .cancel _ => s.loop some
    | .poll => s.loop fun s => some s.poll
    | .dispatch => s.loop (Streams.dispatch H)
    | .spawn => s.spawn
    | .progress p => s.atStage .reading fun r =>
        ({ s with thread := some (r.onProgress H p) } : Streams).report r.cmd (H.toJson p)
    | .ended status => s.atStage .reading (s.ended status)
    | .cleared => s.atStage .reported fun _ => { s with streaming := false, thread := none }
    | .threw what =>
        match s.thread with
        | none => none
        | some r =>
            match r.stage with
            | .threw _ => none
            | _ => some { s with streaming := false, thread := some { r with stage := .threw what } }
    | .reported =>
        match s.thread with
        | none => none
        | some r =>
            match r.stage with
            | .threw what =>
                some (({ s with thread := none } : Streams).report r.cmd (unreachableDoc r.cmd what))
            | _ => none

/-- No stream thread is running, and everything reported is dispatched. -/
structure Streams.Idle (s : Streams) : Prop where
  thread : s.thread = none
  joining : s.joining = none
  events : s.events = []
  done : s.done = []

/-! ### What ends a run -/

section Documents

variable {H}

/-- A final message that can be printed ends the run. -/
lemma finished_toJson {p : Progress} (hfinal : p.final = true) (hprint : (H.print p).isSome = true) :
    H.finished (H.toJson p) = .ok true := by
  obtain ⟨text, htext⟩ := Option.isSome_iff_exists.mp hprint
  obtain ⟨ms, hparse, hmember⟩ := H.parse_print htext
  rw [StreamTexts.finished, StreamTexts.toJson, htext, Option.getD_some, hparse]
  show (Json.obj ms).valueBool "final" false = .ok true
  rw [← hfinal]
  exact Json.valueBool_of_find? hmember

lemma finished_cancelledDoc : H.finished cancelledDoc = .ok true := by
  rw [StreamTexts.finished, H.parse_cancelled]
  rfl

/-- A stream without an answer ends a refresh, and a run where its reason cannot be
read. -/
lemma finished_unreachableDoc {cmd : StreamCmd} {reason : Bytes}
    (h : cmd = .CorpusRefresh ∨ H.parse (unreachableDoc cmd reason) = none) :
    H.finished (unreachableDoc cmd reason) = .ok true := by
  rw [StreamTexts.finished]
  cases hparse : H.parse (unreachableDoc cmd reason) with
  | none => rfl
  | some j =>
      have hcmd : cmd = .CorpusRefresh := h.resolve_right (by simp [hparse])
      subst hcmd
      obtain ⟨error, rfl⟩ := H.parse_failed hparse
      rfl

end Documents

section Slots

variable {H} {m m' : RunSlots} {cmd : StreamCmd}

lemma slots_of_beginRun (h : m.beginRun cmd = some m') :
    (m.slots cmd).running = false ∧
      m'.slots = Function.update m.slots cmd { running := true } := by
  have hbegin : ∀ m₁, m.begin cmd = some m₁ → (m.slots cmd).running = false ∧
      m₁.slots = Function.update m.slots cmd { running := true } := by
    intro m₁ h₁
    simp only [RunSlots.begin, Option.ite_none_left_eq_some, Option.some.injEq,
      Bool.not_eq_true] at h₁
    obtain ⟨hnot, rfl⟩ := h₁
    exact ⟨hnot, rfl⟩
  cases cmd with
  | CorpusRefresh => exact hbegin m' h
  | BenchtestRun =>
      obtain ⟨m₁, h₁, rfl⟩ := Option.map_eq_some_iff.mp h
      exact hbegin m₁ h₁

lemma slots_of_dispatch {json : Bytes} (h : m.dispatch H cmd json = .ok m') :
    ∃ finished, H.finished json = .ok finished ∧
      m'.slots = Function.update m.slots cmd
        { running := (m.slots cmd).running && !finished, progress := json } := by
  rw [RunSlots.dispatch, except_bind_eq_ok] at h
  obtain ⟨finished, hfinished, h⟩ := h
  refine ⟨finished, hfinished, ?_⟩
  cases cmd with
  | CorpusRefresh =>
      cases h
      rfl
  | BenchtestRun =>
      dsimp only at h
      split at h
      · cases h
        rfl
      · rw [except_bind_eq_ok] at h
        obtain ⟨stage, -, h⟩ := h
        split at h <;> (cases h; rfl)

end Slots

end Pretzel.Mgmtd
