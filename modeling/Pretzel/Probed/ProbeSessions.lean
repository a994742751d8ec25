import Pretzel.Library.Machine
import Pretzel.Probed.IcmpService

/-!
The sessions of the probe service, in probed's loop (`ProbedProcess::tick`,
`ProbedServiceManager::execute`, `IcmpService.cpp`).

* `Probing`, `handleEvent`, `handleAction`, `probing`: the queues around the
  service, and the loop as a machine. A turn reads requests and replies, schedules,
  and executes events before actions until none is left.
* `Record`, `observe`: the sessions as somebody sees them who watches the run, with
  all replies that came while one was under way.
* `Sound`: each result is the verdict over one completed session, in their order,
  and at rest there are as many as requests were accepted.
* `Usable`, `Kept`: settings that can be used, and requests accepted in time.
  **`results_sound`**: in a run that keeps to them results are sound, and every
  batch sends something.
-/

namespace Pretzel.Probed

open Nlohmann Reactive

/-! ### The loop -/

/-- The actions of the service. -/
inductive IcmpAction
  | StartProbe
  | SendProbeBatch
  | SendProbeResult
deriving DecidableEq, Repr

/-- The service and its queues; the echo requests handed out, and the results
sent. -/
structure Probing where
  service : IcmpService
  events : List IcmpEvent := []
  actions : List IcmpAction := []
  executing : Bool := false
  crashed : Bool := false
  egress : List (String × ℕ) := []
  sent : List ProbeResult := []
deriving DecidableEq

/-- What happens: a request or a reply is read; the service is scheduled, or is not
yet, while probed starts; the next event or the next action is executed; nothing is
left. -/
inductive ProbeStep
  | request
  | reply (r : EchoReply)
  | schedule (now : ℤ)
  | starting
  | event (now : ℤ)
  | action (now : ℤ)
  | rest
deriving DecidableEq, Repr

/-- `IcmpService::handleEvent`. -/
def handleEvent (now : ℤ) (s : Probing) : IcmpEvent → Probing
  | .StartProbe => { s with actions := s.actions ++ [.StartProbe] }
  | .SendProbeBatch => { s with actions := s.actions ++ [.SendProbeBatch] }
  | .EchoReply r => { s with service := s.service.onEchoReply now r }
  | .ProbeCompleted =>
      match s.service.completeProbeSession with
      | none => { s with crashed := true }
      | some service => { s with service, actions := s.actions ++ [.SendProbeResult] }

/-- `IcmpService::handleAction`. -/
def handleAction (cfg : ProbeConfig) (now : ℤ) (s : Probing) : IcmpAction → Probing
  | .StartProbe =>
      if s.service.canAcceptReply then s
      else
        match s.service.beginProbeSession cfg now with
        | .error _ => { s with crashed := true }
        | .ok service =>
            { s with
              service
              actions := if service.targets = [] then s.actions ++ [.SendProbeResult]
                else s.actions }
  | .SendProbeBatch =>
      if s.service.state ≠ .Sending then s
      else
        match s.service.sendProbeBatch cfg now with
        | .error _ => { s with crashed := true }
        | .ok (service, requests) => { s with service, egress := s.egress ++ requests }
  | .SendProbeResult => { s with sent := s.sent ++ [s.service.sendProbeResult] }

/-- The loop, as a machine. An exception ends it. -/
def probing (cfg : ProbeConfig) : Machine Probing ProbeStep where
  init s := ∃ service, IcmpService.start {} cfg = .ok service ∧ s = { service }
  next s l :=
    if s.crashed then none
    else
      match l with
      | .request =>
          if s.executing then none else some { s with events := s.events ++ [.StartProbe] }
      | .reply r =>
          if s.executing then none else some { s with events := s.events ++ [.EchoReply r] }
      | .starting => if s.executing then none else some { s with executing := true }
      | .schedule now =>
          if s.executing then none
          else
            match s.service.schedule cfg now with
            | .error _ => some { s with crashed := true }
            | .ok (service, e) =>
                some { s with service, events := s.events ++ e.toList, executing := true }
      | .event now =>
          match s.executing, s.events with
          | true, e :: events => some (handleEvent now { s with events } e)
          | _, _ => none
      | .action now =>
          match s.executing, s.events, s.actions with
          | true, [], a :: actions => some (handleAction cfg now { s with actions } a)
          | _, _, _ => none
      | .rest =>
          if s.executing && s.events = [] && s.actions = [] then some { s with executing := false }
          else none

/-! ### Sessions -/

/-- A session: its targets, and the replies that came before it was completed. -/
structure Session where
  targets : List String
  replies : List EchoReply := []
deriving DecidableEq, Repr

/-- The addresses that answered, and how many they are. -/
def Session.verdict (identifier : ℕ) (c : Session) : ProbeResult :=
  let ips := (c.targets.zipIdx.filter (answers identifier c.replies)).map Prod.fst
  ⟨ips.length, ips⟩

/-- The sessions of a run: how many requests were accepted, the sessions completed,
and the one under way. -/
structure Record where
  accepted : ℕ := 0
  completed : List Session := []
  current : Option Session := none

/-- One step, watched. -/
def observe (cfg : ProbeConfig) (rec : Record) (p : Probing × ProbeStep) : Record :=
  match p.2 with
  | .event _ =>
      match p.1.events with
      | .EchoReply r :: _ =>
          { rec with current := rec.current.map fun c => { c with replies := c.replies ++ [r] } }
      | .ProbeCompleted :: _ =>
          if p.1.service.state = .WaitingReplies then
            { rec with completed := rec.completed ++ rec.current.toList, current := none }
          else rec
      | _ => rec
  | .action _ =>
      match p.1.actions with
      | .StartProbe :: _ =>
          if p.1.service.canAcceptReply then rec
          else
            match probeExplicitTargets cfg.site with
            | .error _ => rec
            | .ok [] =>
                { rec with
                  accepted := rec.accepted + 1, completed := rec.completed ++ [{ targets := [] }] }
            | .ok ips =>
                { rec with
                  accepted := rec.accepted + 1
                  current := some { targets := sessionTargets p.1.service.localIps ips } }
      | _ => rec
  | _ => rec

/-- A run, watched. -/
def recordOf (cfg : ProbeConfig) (tr : List (Probing × ProbeStep)) : Record :=
  tr.foldl (observe cfg) {}

/-- Each result is the verdict over a completed session, in their order; and when
the service is idle and no result waits, each request accepted has had one. -/
structure Sound (cfg : ProbeConfig) (s : Probing) (rec : Record) : Prop where
  results : s.sent <+: rec.completed.map (Session.verdict cfg.identifier)
  settled : s.service.state = .Idle → .SendProbeResult ∉ s.actions → s.sent.length = rec.accepted

/-- A batch of a session with targets left sends to one of them. -/
def SendsOne (cfg : ProbeConfig) (s : Probing) : ProbeStep → Prop
  | .action now => s.actions.head? = some .SendProbeBatch → s.service.state = .Sending →
      s.service.allProbeSent = false →
        ∀ s', (probing cfg).next s (.action now) = some s' → s.egress.length < s'.egress.length
  | _ => True

/-- Settings that can be used: they are numbers, the size of a batch is not zero,
and the targets are texts. -/
structure Usable (cfg : ProbeConfig) : Prop where
  size : ∃ n, probeBatchSize cfg.probe = .ok n ∧ n ≠ 0
  interval : ∃ n, probeBatchInterval cfg.probe = .ok n
  idle : ∃ n, replyIdleTimeout cfg.probe = .ok n
  wait : ∃ n, replyMaxWaitTimeout cfg.probe = .ok n
  targets : ∃ ips, probeExplicitTargets cfg.site = .ok ips

/-- A request is accepted where there is no firewall, or where one of them is not
excluded and no result waits to be sent. -/
def Kept (cfg : ProbeConfig) (s : Probing) : ProbeStep → Bool
  | .action _ =>
      match s.actions with
      | .StartProbe :: rest =>
          if s.service.canAcceptReply then true
          else
            match probeExplicitTargets cfg.site with
            | .error _ | .ok [] => true
            | .ok ips => sessionTargets s.service.localIps ips ≠ [] && .SendProbeResult ∉ rest
      | _ => true
  | _ => true

/-! ### One operation -/

namespace IcmpService

variable {cfg : ProbeConfig} {svc svc' : IcmpService} {now : ℤ}

/-- The session goes on as it is. -/
structure SameSession (svc svc' : IcmpService) : Prop where
  targets : svc'.targets = svc.targets
  index : svc'.targetIndexByIp = svc.targetIndexByIp
  identifier : svc'.identifier = svc.identifier
  count : svc'.lastAliveCount = svc.lastAliveCount
  accept : svc'.canAcceptReply = svc.canAcceptReply
  idle : svc'.state = .Idle ↔ svc.state = .Idle

lemma SameSession.refl : SameSession svc svc := ⟨rfl, rfl, rfl, rfl, rfl, Iff.rfl⟩

lemma SameSession.result (h : SameSession svc svc') :
    svc'.sendProbeResult = svc.sendProbeResult := by
  rw [sendProbeResult, sendProbeResult, aliveIps, aliveIps, h.targets, h.count]

/-- With settings that can be used, scheduling goes through. -/
lemma schedule_ok (h : Usable cfg) (now : ℤ) (svc : IcmpService) :
    ∃ svc' e, svc.schedule cfg now = .ok (svc', e) ∧ SameSession svc svc' ∧
      (e = some .ProbeCompleted → svc'.state = .WaitingReplies) := by
  obtain ⟨interval, hinterval⟩ := h.interval
  obtain ⟨idle, hidle⟩ := h.idle
  obtain ⟨wait, hwait⟩ := h.wait
  rw [schedule]
  cases hstate : svc.state with
  | Init => exact ⟨svc, none, rfl, .refl, by rintro ⟨⟩⟩
  | Idle => exact ⟨svc, none, rfl, .refl, by rintro ⟨⟩⟩
  | Sending =>
      dsimp only
      rw [hidle, hwait, hinterval]
      split
      · exact ⟨_, none, rfl, ⟨rfl, rfl, rfl, rfl, by simp [canAcceptReply, hstate],
          by simp [hstate]⟩, by rintro ⟨⟩⟩
      · refine ⟨svc, _, rfl, .refl, ?_⟩
        split <;> rintro ⟨⟩
  | WaitingReplies =>
      dsimp only
      rw [replyWaitExpired, hidle, hwait]
      exact ⟨svc, _, rfl, .refl, fun _ => hstate⟩

/-- So does sending a batch, and it sends something while a target is left. -/
lemma sendProbeBatch_ok (h : Usable cfg) (now : ℤ) (svc : IcmpService) :
    ∃ svc' requests, svc.sendProbeBatch cfg now = .ok (svc', requests) ∧ SameSession svc svc' ∧
      svc'.state = svc.state ∧ (svc.allProbeSent = false → requests ≠ []) := by
  obtain ⟨size, hsize, hpos⟩ := h.size
  rw [sendProbeBatch]
  split
  · next hall => exact ⟨_, [], rfl, ⟨rfl, rfl, rfl, rfl, rfl, Iff.rfl⟩, rfl, by simp [hall]⟩
  · next hleft =>
      rw [hsize]
      refine ⟨_, _, rfl, ⟨rfl, rfl, rfl, rfl, rfl, Iff.rfl⟩, rfl, fun _ hnone => ?_⟩
      rw [allProbeSent, decide_eq_true_eq] at hleft
      have hlength := congrArg List.length hnone
      rw [List.length_map, List.length_take, List.length_drop, List.length_nil] at hlength
      omega

lemma onEchoReply_of_closed {r : EchoReply} (h : svc.canAcceptReply = false) :
    svc.onEchoReply now r = svc := by
  rw [onEchoReply]
  cases svc.indexOf r.src.ntop <;> simp [h]

/-- A reply changes the targets at most. -/
lemma onEchoReply_fields (now : ℤ) (r : EchoReply) (svc : IcmpService) :
    (svc.onEchoReply now r).state = svc.state ∧
      (svc.onEchoReply now r).targetIndexByIp = svc.targetIndexByIp ∧
      (svc.onEchoReply now r).identifier = svc.identifier := by
  rw [onEchoReply]
  repeat' split
  all_goals exact ⟨rfl, rfl, rfl⟩

/-- The addresses of the targets that are alive. -/
lemma aliveIps_probedTargets {identifier : ℕ} {c : Session}
    (h : svc.targets = probedTargets identifier c.targets c.replies) :
    svc.aliveIps = (c.verdict identifier).ips := by
  rw [aliveIps, h, probedTargets, List.filter_map, List.map_map, Session.verdict]
  rfl

/-- Completing a session goes through: what answered is an address. -/
lemma completeProbeSession_ok {identifier : ℕ} {c : Session}
    (h : svc.targets = probedTargets identifier c.targets c.replies)
    (hstate : svc.state = .WaitingReplies) :
    ∃ svc', svc.completeProbeSession = some svc' ∧ svc'.state = .Idle ∧
      svc'.sendProbeResult = c.verdict identifier := by
  have hips := aliveIps_probedTargets h
  have haddress : (svc.aliveIps.any fun ip => (Ipv4.pton ip).isNone) = false := by
    rw [hips, List.any_eq_false]
    intro ip hip
    obtain ⟨p, hp, rfl⟩ := List.mem_map.mp hip
    obtain ⟨r, -, hr⟩ := List.any_eq_true.mp (List.mem_filter.mp hp).2
    simp only [Bool.and_eq_true, decide_eq_true_eq] at hr
    rw [← hr.1.1, Ipv4.pton_ntop]
    exact Bool.false_ne_true
  rw [completeProbeSession, if_neg (by simp [hstate]), haddress, Bool.and_false, if_neg (by simp)]
  refine ⟨_, rfl, rfl, ?_⟩
  rw [sendProbeResult]
  change ProbeResult.mk svc.aliveIps.length svc.aliveIps = _
  rw [hips]
  rfl

end IcmpService

/-! ### The invariant -/

open IcmpService

/-- The service holds the session under way. -/
structure Holds (cfg : ProbeConfig) (svc : IcmpService) (c : Session) : Prop where
  accept : svc.canAcceptReply = true
  nodup : c.targets.Nodup
  identifier : svc.identifier = cfg.identifier
  targets : svc.targets = probedTargets cfg.identifier c.targets c.replies
  index : svc.targetIndexByIp = c.targets.zipIdx

/-- What the queues and the service are in step with. A result is due for each
session completed whose result was not sent, and is what the service would send. -/
structure InStep (cfg : ProbeConfig) (s : Probing) (rec : Record) : Prop where
  running : s.crashed = false
  polling : s.executing = false → s.actions = []
  completing : .ProbeCompleted ∈ s.events → s.executing = true ∧
    s.service.state = .WaitingReplies ∧ s.events.count .ProbeCompleted = 1
  accepted : rec.accepted = rec.completed.length + rec.current.toList.length
  due : rec.completed.length = s.sent.length + s.actions.count .SendProbeResult
  sent : s.sent <+: rec.completed.map (Session.verdict cfg.identifier)
  closed : rec.current = none → s.service.state = .Idle ∧
    ∀ c ∈ rec.completed.drop s.sent.length, c.verdict cfg.identifier = s.service.sendProbeResult
  underWay : ∀ c ∈ rec.current, Holds cfg s.service c ∧ .SendProbeResult ∉ s.actions
  noTargets : probeExplicitTargets cfg.site = .ok [] →
    rec.current = none ∧ ∀ c ∈ rec.completed, c.targets = []

variable {cfg : ProbeConfig} {s s' : Probing} {rec : Record}

lemma Holds.same {svc svc' : IcmpService} {c : Session} (h : Holds cfg svc c)
    (hsame : SameSession svc svc') : Holds cfg svc' c :=
  ⟨hsame.accept.trans h.accept, h.nodup, hsame.identifier.trans h.identifier,
    hsame.targets.trans h.targets, hsame.index.trans h.index⟩

/-- A session under way is not idle. -/
lemma Holds.not_idle {svc : IcmpService} {c : Session} (h : Holds cfg svc c) :
    svc.state ≠ .Idle := by
  intro hidle
  have haccept := h.accept
  rw [canAcceptReply, hidle] at haccept
  cases haccept

/-- A step of the queues that leaves the session, the results due and those sent. -/
lemma InStep.same (h : InStep cfg s rec) (hsame : SameSession s.service s'.service)
    (hcrashed : s'.crashed = false) (hpolling : s'.executing = false → s'.actions = [])
    (hcompleting : .ProbeCompleted ∈ s'.events → s'.executing = true ∧
      s'.service.state = .WaitingReplies ∧ s'.events.count .ProbeCompleted = 1)
    (hdue : s'.actions.count .SendProbeResult = s.actions.count .SendProbeResult)
    (hsent : s'.sent = s.sent) : InStep cfg s' rec where
  running := hcrashed
  polling := hpolling
  completing := hcompleting
  accepted := h.accepted
  due := by rw [h.due, hdue, hsent]
  sent := by rw [hsent]; exact h.sent
  closed hnone := by
    obtain ⟨hidle, hverdict⟩ := h.closed hnone
    rw [hsent, hsame.result]
    exact ⟨hsame.idle.mpr hidle, hverdict⟩
  underWay c hc := by
    obtain ⟨hholds, hnone⟩ := h.underWay c hc
    refine ⟨hholds.same hsame, ?_⟩
    rw [← List.count_eq_zero] at hnone ⊢
    rw [hdue, hnone]
  noTargets := h.noTargets

lemma InStep.sound (h : InStep cfg s rec) : Sound cfg s rec := by
  refine ⟨h.sent, fun hidle hnone => ?_⟩
  have hdue := h.due
  rw [List.count_eq_zero.mpr hnone, Nat.add_zero] at hdue
  cases hcurrent : rec.current with
  | none =>
      have haccepted := h.accepted
      rw [hcurrent, Option.toList_none, List.length_nil, Nat.add_zero] at haccepted
      rw [haccepted, hdue]
  | some c => exact absurd hidle (h.underWay c hcurrent).1.not_idle

lemma inStep_init (h : (probing cfg).init s) : InStep cfg s {} := by
  obtain ⟨svc, hstart, rfl⟩ := h
  have hidle : svc.state = .Idle := by
    rw [IcmpService.start] at hstart
    cases hips : probeExcludedIps cfg.probe with
    | error e => rw [hips] at hstart; cases hstart
    | ok ips =>
        rw [hips] at hstart
        cases hstart
        rfl
  exact ⟨rfl, fun _ => rfl, fun hmem => (by cases hmem), rfl, rfl, List.nil_prefix,
    fun _ => ⟨hidle, by simp⟩, fun c hc => (by cases hc), fun _ => ⟨rfl, by simp⟩⟩

/-! ### Events -/

/-- A reply that finds a session under way. -/
lemma inStep_onEchoReply {now : ℤ} {r : EchoReply} {events : List IcmpEvent} {c : Session}
    (h : InStep cfg s rec) (hcurrent : rec.current = some c)
    (hrest : .ProbeCompleted ∈ events → s.executing = true ∧
      s.service.state = .WaitingReplies ∧ events.count .ProbeCompleted = 1) :
    InStep cfg { s with events, service := s.service.onEchoReply now r }
      { rec with current := some { c with replies := c.replies ++ [r] } } := by
  obtain ⟨hholds, hnone⟩ := h.underWay c hcurrent
  obtain ⟨hstate, hindex, hid⟩ := onEchoReply_fields now r s.service
  have htargets := @targets_onEchoReply _ _ r s.service now hholds.nodup
    (hholds.identifier ▸ hholds.targets) hholds.index hholds.accept
  rw [hholds.identifier] at htargets
  have haccept : (s.service.onEchoReply now r).canAcceptReply = true := by
    rw [canAcceptReply, hstate]
    exact hholds.accept
  have haccepted := h.accepted
  rw [hcurrent] at haccepted
  refine ⟨h.running, h.polling, ?_, haccepted, h.due, h.sent, (by rintro ⟨⟩), ?_, ?_⟩
  · intro hmem
    obtain ⟨hexec, hwaiting, hone⟩ := hrest hmem
    exact ⟨hexec, hstate.trans hwaiting, hone⟩
  · rintro c' ⟨⟩
    exact ⟨⟨haccept, hholds.nodup, hid.trans hholds.identifier, htargets,
      hindex.trans hholds.index⟩, hnone⟩
  · intro hempty
    have hno := (h.noTargets hempty).1
    rw [hcurrent] at hno
    cases hno

/-- A session that is completed: its result is due. -/
lemma inStep_completeProbeSession {events : List IcmpEvent} {c : Session} (h : InStep cfg s rec)
    (hevents : s.events = .ProbeCompleted :: events) (hcurrent : rec.current = some c) :
    ∃ svc, s.service.completeProbeSession = some svc ∧
      InStep cfg { s with events, service := svc, actions := s.actions ++ [.SendProbeResult] }
        { rec with completed := rec.completed ++ [c], current := none } := by
  obtain ⟨hexec, hwaiting, hone⟩ := h.completing (hevents ▸ List.mem_cons_self)
  obtain ⟨hholds, hnone⟩ := h.underWay c hcurrent
  obtain ⟨svc, hsvc, hidle, hresult⟩ := completeProbeSession_ok hholds.targets hwaiting
  have hdue := h.due
  rw [List.count_eq_zero.mpr hnone, Nat.add_zero] at hdue
  have haccepted := h.accepted
  rw [hcurrent] at haccepted
  refine ⟨svc, hsvc, h.running, ?_, ?_, ?_, ?_, ?_, ?_, (by rintro c' ⟨⟩), ?_⟩
  · intro hfalse
    rw [hexec] at hfalse
    cases hfalse
  · intro hmem
    have hpos : 0 < events.count .ProbeCompleted := List.count_pos_iff.mpr hmem
    rw [hevents, List.count_cons_self] at hone
    omega
  · simpa using haccepted
  · simp [List.count_append, List.count_eq_zero.mpr hnone, hdue]
  · rw [List.map_append]
    exact h.sent.trans (List.prefix_append _ _)
  · refine fun _ => ⟨hidle, fun c' hc' => ?_⟩
    dsimp only at hc'
    rw [List.drop_append, ← hdue, List.drop_length, Nat.sub_self, List.drop_zero] at hc'
    obtain rfl : c' = c := by simpa using hc'
    exact hresult.symm
  · intro hempty
    have hno := (h.noTargets hempty).1
    rw [hcurrent] at hno
    cases hno

/-- **One event**, read off the queue. -/
lemma inStep_event {now : ℤ} {e : IcmpEvent} {events : List IcmpEvent} (h : InStep cfg s rec)
    (hexec : s.executing = true) (hevents : s.events = e :: events) :
    InStep cfg (handleEvent now { s with events } e) (observe cfg rec (s, .event now)) := by
  have hrest : .ProbeCompleted ∈ events → s.executing = true ∧
      s.service.state = .WaitingReplies ∧ events.count .ProbeCompleted = 1 := by
    intro hmem
    obtain ⟨hexec, hstate, hone⟩ := h.completing (hevents ▸ List.mem_cons_of_mem e hmem)
    refine ⟨hexec, hstate, ?_⟩
    have hpos : 0 < events.count .ProbeCompleted := List.count_pos_iff.mpr hmem
    rw [hevents, List.count_cons] at hone
    omega
  have hpolling : ∀ {s' : Probing}, s'.executing = s.executing → s'.executing = false →
      s'.actions = [] := by
    intro s' heq hfalse
    rw [heq, hexec] at hfalse
    cases hfalse
  rw [observe, hevents]
  cases e with
  | StartProbe =>
      exact h.same .refl h.running (hpolling rfl) hrest (by simp [handleEvent, List.count_append]) rfl
  | SendProbeBatch =>
      exact h.same .refl h.running (hpolling rfl) hrest (by simp [handleEvent, List.count_append]) rfl
  | EchoReply r =>
      dsimp only [handleEvent]
      cases hcurrent : rec.current with
      | none =>
          have hclosed : s.service.canAcceptReply = false := by
            simp [canAcceptReply, (h.closed hcurrent).1]
          have hrec : { rec with current := none } = rec := by rw [← hcurrent]
          rw [onEchoReply_of_closed hclosed, Option.map_none, hrec]
          exact h.same .refl h.running (hpolling rfl) hrest rfl rfl
      | some c =>
          exact inStep_onEchoReply h hcurrent hrest
  | ProbeCompleted =>
      obtain ⟨-, hwaiting, -⟩ := h.completing (hevents ▸ List.mem_cons_self)
      dsimp only [handleEvent]
      rw [if_pos hwaiting]
      cases hcurrent : rec.current with
      | none =>
          have hidle := (h.closed hcurrent).1
          rw [hwaiting] at hidle
          cases hidle
      | some c =>
          obtain ⟨svc, hsvc, hcompleted⟩ := inStep_completeProbeSession h hevents hcurrent
          rw [hsvc]
          exact hcompleted

/-! ### Actions -/

/-- Where there is no firewall, the service is idle with no target. -/
lemma beginProbeSession_none {now : ℤ} {svc : IcmpService}
    (h : probeExplicitTargets cfg.site = .ok []) :
    ∃ svc', svc.beginProbeSession cfg now = .ok svc' ∧ svc'.targets = [] ∧ svc'.state = .Idle ∧
      svc'.sendProbeResult = ⟨0, []⟩ := by
  rw [beginProbeSession, h]
  exact ⟨_, rfl, rfl, rfl, rfl⟩

/-- Where there is one it holds a session without a reply. -/
lemma beginProbeSession_some (hu : Usable cfg) {now : ℤ} {svc : IcmpService} {ip : String}
    {ips : List String} (h : probeExplicitTargets cfg.site = .ok (ip :: ips)) :
    ∃ svc', svc.beginProbeSession cfg now = .ok svc' ∧
      Holds cfg svc' { targets := sessionTargets svc.localIps (ip :: ips) } := by
  obtain ⟨interval, hinterval⟩ := hu.interval
  rw [beginProbeSession, h, hinterval]
  exact ⟨_, rfl, rfl, nodup_sessionTargets _ _, rfl, rfl, rfl⟩

/-- A result is sent: it is the verdict over the next session completed. -/
lemma inStep_sendProbeResult {actions : List IcmpAction} (h : InStep cfg s rec)
    (hexec : s.executing = true) (hevents : s.events = [])
    (hactions : s.actions = .SendProbeResult :: actions) :
    InStep cfg { s with actions, sent := s.sent ++ [s.service.sendProbeResult] } rec := by
  have hcurrent : rec.current = none := by
    cases hcurrent : rec.current with
    | none => rfl
    | some c =>
        have hnone := (h.underWay c hcurrent).2
        rw [hactions] at hnone
        exact absurd List.mem_cons_self hnone
  obtain ⟨hidle, hverdict⟩ := h.closed hcurrent
  obtain ⟨left, hleft⟩ := h.sent
  have hdue := h.due
  rw [hactions, List.count_cons_self] at hdue
  have hrest : left = (rec.completed.drop s.sent.length).map (Session.verdict cfg.identifier) := by
    rw [List.map_drop, ← hleft, List.drop_left]
  have hlength : s.sent.length + left.length = rec.completed.length := by
    rw [← List.length_append, hleft, List.length_map]
  refine ⟨h.running, fun hfalse => ?_, fun hmem => ?_, h.accepted, ?_, ?_, fun _ => ⟨hidle, ?_⟩,
    fun c hc => ?_, h.noTargets⟩
  · rw [hexec] at hfalse
    cases hfalse
  · rw [hevents] at hmem
    cases hmem
  · dsimp only
    rw [List.length_append, List.length_singleton]
    omega
  · cases left with
    | nil => simp only [List.length_nil] at hlength; omega
    | cons x left =>
        have hx : x ∈ (rec.completed.drop s.sent.length).map (Session.verdict cfg.identifier) :=
          hrest ▸ List.mem_cons_self
        obtain ⟨c, hc, rfl⟩ := List.mem_map.mp hx
        rw [← hverdict c hc]
        exact ⟨left, by rw [← hleft, List.append_assoc, List.singleton_append]⟩
  · intro c hc
    refine hverdict c ?_
    rw [List.length_append, ← List.drop_drop] at hc
    exact List.mem_of_mem_drop hc
  · rw [hcurrent] at hc
    cases hc

/-- A session that begins without a target: its result is due at once. -/
lemma inStep_begin_none {now : ℤ} {actions : List IcmpAction} (h : InStep cfg s rec)
    (hexec : s.executing = true) (hevents : s.events = [])
    (hactions : s.actions = .StartProbe :: actions) (hcurrent : rec.current = none)
    (hnone : probeExplicitTargets cfg.site = .ok []) :
    ∃ svc, s.service.beginProbeSession cfg now = .ok svc ∧ svc.targets = [] ∧
      InStep cfg { s with service := svc, actions := actions ++ [.SendProbeResult] }
        { rec with
          accepted := rec.accepted + 1, completed := rec.completed ++ [{ targets := [] }] } := by
  obtain ⟨svc, hsvc, htargets, hidle, hresult⟩ := @beginProbeSession_none cfg now s.service hnone
  have hempty := (h.noTargets hnone).2
  have hall : ∀ c ∈ rec.completed ++ [{ targets := [] }], c.targets = [] := by
    intro c hc
    rcases List.mem_append.mp hc with hc | hc
    · exact hempty c hc
    · rw [List.mem_singleton.mp hc]
  have hdue := h.due
  rw [hactions, List.count_cons_of_ne (by decide)] at hdue
  have haccepted := h.accepted
  refine ⟨svc, hsvc, htargets, h.running, ?_, ?_, ?_, ?_, ?_, fun _ => ⟨hidle, ?_⟩, ?_, ?_⟩
  · intro hfalse
    rw [hexec] at hfalse
    cases hfalse
  · intro hmem
    rw [hevents] at hmem
    cases hmem
  · rw [hcurrent] at haccepted
    simp [haccepted, hcurrent]
  · simp [List.count_append, hdue]
    omega
  · rw [List.map_append]
    exact h.sent.trans (List.prefix_append _ _)
  · intro c hc
    rw [hresult, Session.verdict, hall c (List.mem_of_mem_drop hc)]
    rfl
  · intro c hc
    rw [hcurrent] at hc
    cases hc
  · exact fun _ => ⟨hcurrent, hall⟩

/-- A session that begins with some targets: it is under way. -/
lemma inStep_begin_some {now : ℤ} {actions : List IcmpAction} (hu : Usable cfg)
    (h : InStep cfg s rec) (hexec : s.executing = true) (hevents : s.events = [])
    (hactions : s.actions = .StartProbe :: actions) (hcurrent : rec.current = none) {ip : String}
    {ips : List String} (hips : probeExplicitTargets cfg.site = .ok (ip :: ips))
    (hsome : sessionTargets s.service.localIps (ip :: ips) ≠ [])
    (hsends : .SendProbeResult ∉ actions) :
    ∃ svc, s.service.beginProbeSession cfg now = .ok svc ∧ svc.targets ≠ [] ∧
      InStep cfg { s with service := svc, actions }
        { rec with
          accepted := rec.accepted + 1
          current := some { targets := sessionTargets s.service.localIps (ip :: ips) } } := by
  obtain ⟨svc, hsvc, hholds⟩ := @beginProbeSession_some cfg hu now s.service _ _ hips
  have hdue := h.due
  rw [hactions, List.count_cons_of_ne (by decide)] at hdue
  have haccepted := h.accepted
  rw [hcurrent] at haccepted
  refine ⟨svc, hsvc, ?_, h.running, ?_, ?_, ?_, hdue, h.sent, (by rintro ⟨⟩), ?_, ?_⟩
  · rw [hholds.targets, probedTargets]
    simpa using hsome
  · intro hfalse
    rw [hexec] at hfalse
    cases hfalse
  · intro hmem
    rw [hevents] at hmem
    cases hmem
  · simpa using haccepted
  · rintro c ⟨⟩
    exact ⟨hholds, hsends⟩
  · intro hnone
    rw [hips] at hnone
    cases hnone

/-- **One action**, read off the queue while no event is left. -/
lemma inStep_action {now : ℤ} {a : IcmpAction} {actions : List IcmpAction} (hu : Usable cfg)
    (h : InStep cfg s rec) (hexec : s.executing = true) (hevents : s.events = [])
    (hactions : s.actions = a :: actions) (hkept : Kept cfg s (.action now) = true) :
    InStep cfg (handleAction cfg now { s with actions } a) (observe cfg rec (s, .action now)) := by
  have hpolling : ∀ {s' : Probing}, s'.executing = s.executing → s'.executing = false →
      s'.actions = [] := by
    intro s' heq hfalse
    rw [heq, hexec] at hfalse
    cases hfalse
  have hcompleting : ∀ {P : Prop}, .ProbeCompleted ∈ s.events → P := by
    intro P hmem
    rw [hevents] at hmem
    cases hmem
  rw [observe, hactions]
  cases a with
  | SendProbeResult =>
      have hsent := inStep_sendProbeResult h hexec hevents hactions
      exact hsent
  | SendProbeBatch =>
      dsimp only [handleAction]
      split
      · exact h.same .refl h.running (hpolling rfl) hcompleting (by simp [hactions]) rfl
      · obtain ⟨svc, requests, hsvc, hsame, -, -⟩ := sendProbeBatch_ok hu now s.service
        rw [hsvc]
        exact h.same hsame h.running (hpolling rfl) hcompleting (by simp [hactions]) rfl
  | StartProbe =>
      dsimp only [handleAction]
      cases haccept : s.service.canAcceptReply with
      | true =>
          exact h.same .refl h.running (hpolling rfl) hcompleting (by simp [hactions]) rfl
      | false =>
          have hcurrent : rec.current = none := by
            cases hcurrent : rec.current with
            | none => rfl
            | some c =>
                have hopen := (h.underWay c hcurrent).1.accept
                rw [haccept] at hopen
                cases hopen
          obtain ⟨ips, hips⟩ := hu.targets
          rw [Kept, hactions, hips] at hkept
          rw [hips]
          cases ips with
          | nil =>
              obtain ⟨svc, hsvc, htargets, hbegun⟩ :=
                @inStep_begin_none _ _ _ now _ h hexec hevents hactions hcurrent hips
              rw [hsvc]
              simp only [Bool.false_eq_true, if_false, if_pos htargets]
              exact hbegun
          | cons ip ips =>
              simp only [haccept, Bool.false_eq_true, if_false, Bool.and_eq_true,
                decide_eq_true_eq] at hkept
              obtain ⟨svc, hsvc, hsome, hbegun⟩ :=
                @inStep_begin_some _ _ _ now _ hu h hexec hevents hactions hcurrent _ _ hips
                  hkept.1 hkept.2
              rw [hsvc]
              simp only [Bool.false_eq_true, if_false, if_neg hsome]
              exact hbegun

/-! ### Runs -/

/-- **One step.** -/
lemma inStep_step {l : ProbeStep} (hu : Usable cfg) (h : InStep cfg s rec)
    (hkept : Kept cfg s l = true) (hnext : (probing cfg).next s l = some s') :
    InStep cfg s' (observe cfg rec (s, l)) := by
  have hcompleting : ∀ {e : IcmpEvent}, e ≠ .ProbeCompleted → .ProbeCompleted ∈ s.events ++ [e] →
      s.executing = true ∧ s.service.state = .WaitingReplies ∧
        (s.events ++ [e]).count .ProbeCompleted = 1 := by
    intro e hne hmem
    rcases List.mem_append.mp hmem with hmem | hmem
    · rw [List.count_append, List.count_eq_zero.mpr fun hlast => hne (List.mem_singleton.mp hlast).symm]
      exact h.completing hmem
    · exact absurd (List.mem_singleton.mp hmem).symm hne
  have hrunning : ¬s.crashed = true := by simp [h.running]
  cases l <;> simp only [probing] at hnext <;> rw [if_neg hrunning] at hnext
  case request =>
      split at hnext
      · cases hnext
      · cases hnext
        exact h.same .refl h.running h.polling (hcompleting (by decide)) rfl rfl
  case reply r =>
      split at hnext
      · cases hnext
      · cases hnext
        exact h.same .refl h.running h.polling (hcompleting (by simp)) rfl rfl
  case starting =>
      split at hnext
      · cases hnext
      · next hidle =>
          cases hnext
          exact h.same .refl h.running (by simp) (fun hmem => absurd (h.completing hmem).1 hidle)
            rfl rfl
  case schedule now =>
      split at hnext
      · cases hnext
      · next hidle =>
          obtain ⟨svc, e, hsvc, hsame, hcompleted⟩ := schedule_ok hu now s.service
          rw [hsvc] at hnext
          cases hnext
          refine h.same hsame h.running (by simp) (fun hmem => ?_) rfl rfl
          have hold : .ProbeCompleted ∉ s.events := fun hmem => hidle (h.completing hmem).1
          rcases List.mem_append.mp hmem with hmem | hmem
          · exact absurd hmem hold
          · obtain rfl : e = some .ProbeCompleted := by simpa using hmem
            refine ⟨rfl, hcompleted rfl, ?_⟩
            simp [List.count_append, List.count_eq_zero.mpr hold]
  case event now =>
      split at hnext
      · next hexec hevents =>
          cases hnext
          exact inStep_event h hexec hevents
      · cases hnext
  case action now =>
      split at hnext
      · next hexec hevents hactions =>
          cases hnext
          exact inStep_action hu h hexec hevents hactions hkept
      · cases hnext
  case rest =>
      split at hnext
      · next hdone =>
          cases hnext
          simp only [Bool.and_eq_true, decide_eq_true_eq] at hdone
          exact h.same .refl h.running (fun _ => hdone.2)
            (fun hmem => by rw [hdone.1.2] at hmem; cases hmem) rfl rfl
      · cases hnext

/-- **A run**, watched: the service is in step with its sessions. -/
lemma inStep_run {tr : List (Probing × ProbeStep)} (hu : Usable cfg) (hinit : (probing cfg).init s)
    (hrun : (probing cfg).Run s tr s') (hkept : ∀ p ∈ tr, Kept cfg p.1 p.2 = true) :
    InStep cfg s' (recordOf cfg tr) := by
  induction hrun with
  | nil => exact inStep_init hinit
  | @snoc tr t t' l hrun hnext ih =>
      have hbefore := ih fun p hp => hkept p (List.mem_append_left _ hp)
      have hlast := hkept (t, l) (List.mem_append_right _ List.mem_cons_self)
      rw [recordOf, List.foldl_append]
      exact inStep_step hu hbefore hlast hnext

lemma sendsOne (hu : Usable cfg) (l : ProbeStep) : SendsOne cfg s l := by
  cases l with
  | action now =>
      intro hhead hsending hleft s' hnext
      obtain ⟨actions, hactions⟩ := List.head?_eq_some_iff.mp hhead
      obtain ⟨svc, requests, hsvc, -, -, hsome⟩ := sendProbeBatch_ok hu now s.service
      simp only [probing] at hnext
      split at hnext
      · cases hnext
      · split at hnext
        · next a rest _ _ hactions' =>
            obtain ⟨rfl, rfl⟩ := List.cons.inj (hactions'.symm.trans hactions)
            cases hnext
            simp only [handleAction, hsending, ne_eq, not_true_eq_false, if_false, hsvc,
              List.length_append]
            have hpos := List.length_pos_iff.mpr (hsome hleft)
            omega
        · cases hnext
  | _ => trivial

/-- **Results are sound**, in every run that keeps to its conditions: no exception
ends it, each result is the verdict over a completed session, at rest each request
accepted has had one, and each batch sends something. -/
theorem results_sound {tr : List (Probing × ProbeStep)} (hu : Usable cfg)
    (hinit : (probing cfg).init s) (hrun : (probing cfg).Run s tr s')
    (hkept : ∀ p ∈ tr, Kept cfg p.1 p.2 = true) :
    s'.crashed = false ∧ Sound cfg s' (recordOf cfg tr) ∧ ∀ p ∈ tr, SendsOne cfg p.1 p.2 := by
  have hstep := inStep_run hu hinit hrun hkept
  exact ⟨hstep.running, hstep.sound, fun p _ => sendsOne hu p.2⟩

/-! ### One firewall -/

namespace OneFirewall

/-- One firewall, and no setting of its own. -/
def config : ProbeConfig where
  probe := .obj []
  site := .obj [("ngfw_devices", .arr [.obj [("oid", .str "f1"), ("target", .str "10.0.0.1")]])]
  pid := 7

lemma usable : Usable config :=
  ⟨⟨32, rfl, by decide⟩, ⟨_, rfl⟩, ⟨_, rfl⟩, ⟨_, rfl⟩, ⟨["10.0.0.1"], by decide⟩⟩

/-- The service, started. -/
def started : Probing := { service := { state := .Idle } }

lemma started_init : (probing config).init started := ⟨_, by decide, rfl⟩

/-- A request, the batch it leads to, and the reply. -/
def answered : List ProbeStep :=
  [.request, .schedule 0, .event 0, .action 0, .rest,
    .schedule 20000000, .event 20000000, .action 20000000, .rest,
    .reply ⟨⟨10, 0, 0, 1⟩, 7, 1⟩, .schedule 20000001, .event 20000001, .rest]

/-- The wait expires, and the result is sent. -/
def expired : List ProbeStep :=
  answered ++ [.schedule 6000000000, .event 6000000000, .action 6000000000, .rest]

/-- A request comes in the turn in which the wait expires. -/
def overlapped : List ProbeStep :=
  answered ++ [.request, .schedule 6000000000, .event 6000000000, .event 6000000000,
    .action 6000000000, .action 6000000000]

end OneFirewall

open OneFirewall in
/-- The law where the firewall answers and the wait expires. -/
theorem results_sound_answered :
    ∃ s', (probing config).Run started ((probing config).trace started expired) s' ∧
      s'.sent = [⟨1, ["10.0.0.1"]⟩] ∧ s'.crashed = false ∧
      Sound config s' (recordOf config ((probing config).trace started expired)) ∧
      ∀ p ∈ (probing config).trace started expired, SendsOne config p.1 p.2 := by
  have hexec : ((probing config).exec started expired).map (fun s => s.sent) =
      some [⟨1, ["10.0.0.1"]⟩] := by
    decide +kernel
  obtain ⟨s', hs', hsent⟩ := Option.map_eq_some_iff.mp hexec
  have hkept : ((probing config).trace started expired).all (fun p => Kept config p.1 p.2) = true := by
    decide +kernel
  exact ⟨s', Machine.exec_run hs', hsent,
    results_sound usable started_init (Machine.exec_run hs') (List.all_eq_true.mp hkept)⟩

open OneFirewall in
/-- **Two sessions mixed**: the result of the first session is sent with the
addresses of the second, which no one has answered. -/
theorem sessions_mixed :
    ¬∀ (cfg : ProbeConfig) (s s' : Probing) (tr : List (Probing × ProbeStep)),
      (probing cfg).init s → (probing cfg).Run s tr s' →
        s'.crashed = false ∧ Sound cfg s' (recordOf cfg tr) ∧ ∀ p ∈ tr, SendsOne cfg p.1 p.2 := by
  intro hall
  have hexec : ((probing config).exec started overlapped).map (fun s => s.sent) =
      some [⟨1, []⟩] := by
    decide +kernel
  obtain ⟨s', hs', hsent⟩ := Option.map_eq_some_iff.mp hexec
  obtain ⟨-, hsound, -⟩ := hall config started s' _ started_init (Machine.exec_run hs')
  have hcompleted : (recordOf config ((probing config).trace started overlapped)).completed.map
      (Session.verdict config.identifier) = [⟨1, ["10.0.0.1"]⟩] := by
    decide +kernel
  have hresults := hsound.results
  rw [hsent, hcompleted] at hresults
  revert hresults
  decide

end Pretzel.Probed
