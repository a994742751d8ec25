import Pretzel.Ipc.Protocol
import Pretzel.Library.Machine
import Pretzel.Library.RollCall

/-!
`engined/service/heartbeat/HeartbeatService`, and the queues it is run from.

* `HeartbeatService.schedule`, `handleEvent`, `handleAction`: the service, the
  times in nanoseconds.
* `buildResultJson`: the result of a round; `aliveIn`: whom it states alive.
* `heartbeat`: the machine. A response has no sign of the request it answers;
  the machine keeps one beside it, and the number of the round, so that a round
  can be spoken of. `step_of_next` lists its steps.
-/

namespace Pretzel.Engined

open Nlohmann Ipc Reactive RollCall

/-- `HeartbeatService::DaemonEntry`. -/
structure DaemonEntry where
  pending : Bool := false
  alive : Bool := false
  latencyMs : ℤ := -1
  sentAt : ℤ := 0
deriving DecidableEq

/-- The members of `HeartbeatService`. -/
structure HeartbeatService where
  daemonMap : List (IpcDaemon × DaemonEntry) := []
  lastPollAt : ℤ := 0
  roundStartedAt : ℤ := 0
  roundActive : Bool := false
  pendingCount : ℤ := 0
deriving DecidableEq

namespace HeartbeatService

/-- The events of the service. A response carries, unseen by the service, the
round of the request it answers. -/
inductive Event where
  | SendHeartbeatRequests
  | ReceiveHeartbeatResponse (src : IpcDaemon) (request : Option ℕ)
  | SendHeartbeatResult
deriving DecidableEq

/-- The actions of the service. -/
inductive Action where
  | SendHeartbeatRequest (dst : IpcDaemon)
  | SendHeartbeatResult (result : Json)
deriving DecidableEq

/-- A second, in nanoseconds. -/
def second : ℤ := 1000000000

def pollInterval (hb : Json) : Except JsonError ℤ := do
  return (← hb.valueInt32 "poll_interval_sec" 5) * second

def responseTimeout (hb : Json) : Except JsonError ℤ := do
  return (← hb.valueInt32 "response_timeout_sec" 2) * second

def targets : List IpcDaemon := [.Authd, .Probed, .Collectord, .Topologyd, .Mgmtd, .Apid]

def selfReported : List IpcDaemon := [.Ipcd, .Engined]

/-- The order of the daemons in a result. -/
def kOrder : List IpcDaemon :=
  [.Ipcd, .Engined, .Authd, .Probed, .Collectord, .Topologyd, .Mgmtd, .Apid]

/-- `start`, the map in the order its hashes give. -/
def start (order : List IpcDaemon) : HeartbeatService :=
  { daemonMap := order.map fun d => (d, {}) }

def markTimeoutsAsDead (s : HeartbeatService) : HeartbeatService :=
  { s with daemonMap := s.daemonMap.map fun p =>
      if p.2.pending then (p.1, { p.2 with pending := false, alive := false, latencyMs := -1 })
      else p }

/-- `schedule`: the end of a round that has timed out, or the start of one. -/
def schedule (now : ℤ) (hb : Json) (s : HeartbeatService) :
    Except JsonError (HeartbeatService × Option Event) :=
  if s.roundActive then do
    if now - s.roundStartedAt ≥ (← responseTimeout hb) then
      return ({ s.markTimeoutsAsDead with roundActive := false, pendingCount := 0 },
        some .SendHeartbeatResult)
    return (s, none)
  else if s.lastPollAt = 0 then
    .ok ({ s with lastPollAt := now }, some .SendHeartbeatRequests)
  else do
    if now - s.lastPollAt ≥ (← pollInterval hb) then
      return ({ s with lastPollAt := now }, some .SendHeartbeatRequests)
    return (s, none)

/-- The part of a daemon in the result of a round. -/
def daemonResult (s : HeartbeatService) (d : IpcDaemon) : Json :=
  let state (status : String) (latency : Json) : Json :=
    .obj [("latency_ms", latency), ("name", .str d.daemonToStr), ("status", .str status)]
  if d ∈ selfReported then state "alive" (.int 0)
  else
    match entryOf d s.daemonMap with
    | some e => if e.alive then state "alive" (.int e.latencyMs) else state "dead" .null
    | none => state "dead" .null

/-- `buildResultJson`, the clock of the wall in milliseconds. -/
def buildResultJson (nowMs : ℤ) (s : HeartbeatService) : Json :=
  .obj [("daemons", .arr (kOrder.map (daemonResult s))), ("timestamp_ms", .int nowMs)]

/-- The entry of a daemon whose request is about to be sent. -/
def asked (now : ℤ) : DaemonEntry :=
  { pending := true, alive := false, latencyMs := -1, sentAt := now }

/-- The entry of a daemon that has answered. -/
def answered (now : ℤ) (e : DaemonEntry) : DaemonEntry :=
  { e with pending := false, alive := true, latencyMs := (now - e.sentAt).tdiv 1000000 }

/-- The events and actions a handler posts. -/
abbrev Posts := List Event × List Action

/-- The start of a round: `handleEvent` of `SendHeartbeatRequests`. -/
def beginRound (now : ℤ) (s : HeartbeatService) : HeartbeatService × Posts :=
  ({ s with
      daemonMap := s.daemonMap.map fun p => (p.1, asked now)
      roundStartedAt := now
      roundActive := true
      pendingCount := s.daemonMap.length },
    [], s.daemonMap.map fun p => .SendHeartbeatRequest p.1)

def onHeartbeatResponse (now : ℤ) (src : IpcDaemon) (s : HeartbeatService) :
    HeartbeatService × Posts :=
  match entryOf src s.daemonMap with
  | none => (s, [], [])
  | some entry =>
      if entry.pending then
        let s' := { s with
          daemonMap := update src (answered now) s.daemonMap
          pendingCount := s.pendingCount - 1 }
        if s'.pendingCount ≤ 0 then
          ({ s' with roundActive := false, pendingCount := 0 }, [.SendHeartbeatResult], [])
        else (s', [], [])
      else (s, [], [])

def handleEvent (now nowMs : ℤ) (s : HeartbeatService) : Event → HeartbeatService × Posts
  | .SendHeartbeatRequests => s.beginRound now
  | .ReceiveHeartbeatResponse src _ => s.onHeartbeatResponse now src
  | .SendHeartbeatResult => (s, [], [.SendHeartbeatResult (s.buildResultJson nowMs)])

/-! ### Whom a result states alive -/

/-- The result states the daemon alive. -/
def aliveIn (doc : Json) (d : IpcDaemon) : Bool :=
  (doc.elementsAt "daemons").any fun e =>
    e.find? "name" = some (.str d.daemonToStr) && e.find? "status" = some (.str "alive")

lemma find?_name_daemonResult (s : HeartbeatService) (d : IpcDaemon) :
    (s.daemonResult d).find? "name" = some (.str d.daemonToStr) := by
  rw [daemonResult]
  split
  · rfl
  · split
    · split <;> rfl
    · rfl

lemma find?_status_daemonResult (s : HeartbeatService) (d : IpcDaemon) :
    (s.daemonResult d).find? "status" = some (.str "alive") ↔
      d ∈ selfReported ∨ ∃ e, entryOf d s.daemonMap = some e ∧ e.alive = true := by
  have hdead : Json.find? (.obj [("latency_ms", .null), ("name", .str d.daemonToStr),
      ("status", .str "dead")]) "status" ≠ some (.str "alive") := by
    change some (Json.str "dead") ≠ some (.str "alive")
    decide
  rw [daemonResult]
  split
  · next hself => exact iff_of_true rfl (.inl hself)
  · next hself =>
      rw [or_iff_right hself]
      split
      · next e he =>
          rw [he]
          cases halive : e.alive with
          | true => exact iff_of_true rfl ⟨e, rfl, halive⟩
          | false =>
              refine iff_of_false hdead ?_
              rintro ⟨_, ⟨⟩, h⟩
              rw [halive] at h
              cases h
      · next he =>
          rw [he]
          exact iff_of_false hdead (by rintro ⟨_, ⟨⟩, -⟩)

/-- **A daemon that is polled is stated alive** by its entry. -/
lemma aliveIn_buildResultJson {s : HeartbeatService} {nowMs : ℤ} {d : IpcDaemon}
    (hd : d ∈ targets) :
    aliveIn (s.buildResultJson nowMs) d = true ↔
      ∃ e, entryOf d s.daemonMap = some e ∧ e.alive = true := by
  have hname : ∀ d' ∈ kOrder, ∀ d ∈ targets, d'.daemonToStr = d.daemonToStr → d' = d := by decide
  have hmem : ∀ d ∈ targets, d ∈ kOrder ∧ d ∉ selfReported := by decide
  have hall : (s.buildResultJson nowMs).elementsAt "daemons" = kOrder.map (daemonResult s) := rfl
  have hstatus := find?_status_daemonResult s d
  rw [or_iff_right (hmem d hd).2] at hstatus
  rw [aliveIn, hall, List.any_eq_true, ← hstatus]
  simp only [List.mem_map, exists_exists_and_eq_and, find?_name_daemonResult, Option.some.injEq,
    Json.str.injEq, Bool.and_eq_true, decide_eq_true_eq]
  constructor
  · rintro ⟨d', hd', heq, hfound⟩
    rwa [hname d' hd' d hd heq] at hfound
  · intro hfound
    exact ⟨d, (hmem d hd).1, rfl, hfound⟩

end HeartbeatService

end Pretzel.Engined
