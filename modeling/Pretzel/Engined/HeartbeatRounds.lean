import Pretzel.Engined.HeartbeatService

/-!
The rounds of heartbeats, run from the queues of engined.

* `heartbeat`: the machine. A response has no sign of the request it answers;
  the machine keeps one beside it, and the number of the round, so that rounds
  can be spoken of. `Step`, `step_of_next`: its steps.
* `due`: the results a state still owes. `Counted`: the counter and the entries
  agree, and what the queues hold fits the phase.
* `Numbered`: the rounds whose results are out. `accounts_of_rounds`: every round
  has its one result.
-/

namespace Pretzel.Engined.HeartbeatService

open Nlohmann Ipc Reactive RollCall

/-- The service, the two queues, and what has gone out. `round` counts the
rounds begun. -/
structure State where
  service : HeartbeatService
  eventQueue : List Event := []
  actionQueue : List Action := []
  executing : Bool := false
  round : ℕ := 0
  requests : List (ℕ × IpcDaemon) := []
  results : List (ℕ × Json) := []
deriving DecidableEq

/-- A frame with a response, that answers a request that was sent or none; the
timers; and one turn of the drain. -/
inductive Label where
  | receive (src : IpcDaemon) (request : Option ℕ)
  | schedule (ready : Bool) (now : ℤ) (hb : Json)
  | execute (now nowMs : ℤ)

/-- `handleAction`: what is handed to the router. -/
def handleAction (s : State) : Action → State
  | .SendHeartbeatRequest dst => { s with requests := s.requests ++ [(s.round, dst)] }
  | .SendHeartbeatResult doc => { s with results := s.results ++ [(s.round, doc)] }

/-- An event handled, and what its handler posts. -/
def dispatch (now nowMs : ℤ) (s : State) (e : Event) : State :=
  let (service, events, actions) := s.service.handleEvent now nowMs e
  { s with
      service
      eventQueue := s.eventQueue ++ events
      actionQueue := s.actionQueue ++ actions
      round := if e = .SendHeartbeatRequests then s.round + 1 else s.round }

/-- `EnginedServiceManager::schedule`, past the gate of the bootstrap. -/
def timers (ready : Bool) (now : ℤ) (hb : Json) (s : State) : Except JsonError State :=
  if ready then do
    let (service, e) ← s.service.schedule now hb
    return { s with service, eventQueue := s.eventQueue ++ e.toList, executing := true }
  else .ok { s with executing := true }

/-- The heartbeat part of engined. -/
def heartbeat : Machine State Label where
  init s := ∃ order, order.Perm targets ∧ s = { service := start order }
  next s
    | .receive src request =>
        if !s.executing && request.all fun r => (r, src) ∈ s.requests then
          some { s with eventQueue := s.eventQueue ++ [.ReceiveHeartbeatResponse src request] }
        else none
    | .schedule ready now hb => if s.executing then none else (timers ready now hb s).toOption
    | .execute now nowMs =>
        if s.executing then
          match s.eventQueue, s.actionQueue with
          | e :: rest, _ => some (dispatch now nowMs { s with eventQueue := rest } e)
          | [], a :: rest => some (handleAction { s with actionQueue := rest } a)
          | [], [] => some { s with executing := false }
        else none

/-- What `schedule` can do. -/
inductive Scheduled (now : ℤ) (hb : Json) (s : HeartbeatService) :
    HeartbeatService → Option Event → Prop
  | timeout (t : ℤ) (hactive : s.roundActive = true) (ht : responseTimeout hb = .ok t)
      (hover : t ≤ now - s.roundStartedAt) :
      Scheduled now hb s { s.markTimeoutsAsDead with roundActive := false, pendingCount := 0 }
        (some .SendHeartbeatResult)
  | waits (t : ℤ) (hactive : s.roundActive = true) (ht : responseTimeout hb = .ok t)
      (hover : now - s.roundStartedAt < t) : Scheduled now hb s s none
  | poll (hactive : s.roundActive = false) :
      Scheduled now hb s { s with lastPollAt := now } (some .SendHeartbeatRequests)
  | idle (hactive : s.roundActive = false) : Scheduled now hb s s none

lemma scheduled_of_schedule {now : ℤ} {hb : Json} {s s' : HeartbeatService} {e : Option Event}
    (h : s.schedule now hb = .ok (s', e)) : Scheduled now hb s s' e := by
  rw [schedule] at h
  split at h
  · next hactive =>
      cases ht : responseTimeout hb with
      | error _ => rw [ht] at h; cases h
      | ok t =>
          rw [ht] at h
          change (if now - s.roundStartedAt ≥ t then _ else _) = _ at h
          split at h
          · next hover =>
              cases h
              exact .timeout t hactive ht hover
          · next hover =>
              cases h
              exact .waits t hactive ht (not_le.mp hover)
  · next hactive =>
      rw [Bool.not_eq_true] at hactive
      split at h
      · cases h
        exact .poll hactive
      · cases hi : pollInterval hb with
        | error _ => rw [hi] at h; cases h
        | ok i =>
            rw [hi] at h
            change (if now - s.lastPollAt ≥ i then _ else _) = _ at h
            split at h
            · cases h
              exact .poll hactive
            · cases h
              exact .idle hactive

/-- Everything a step can be. -/
inductive Step (s : State) : Label → State → Prop
  | receive (src : IpcDaemon) (request : Option ℕ) (hphase : s.executing = false)
      (hsent : ∀ r, request = some r → (r, src) ∈ s.requests) :
      Step s (.receive src request)
        { s with eventQueue := s.eventQueue ++ [.ReceiveHeartbeatResponse src request] }
  | notReady (now : ℤ) (hb : Json) (hphase : s.executing = false) :
      Step s (.schedule false now hb) { s with executing := true }
  | schedule (now : ℤ) (hb : Json) (service : HeartbeatService) (e : Option Event)
      (hphase : s.executing = false) (h : Scheduled now hb s.service service e) :
      Step s (.schedule true now hb)
        { s with service, eventQueue := s.eventQueue ++ e.toList, executing := true }
  | event (now nowMs : ℤ) (e : Event) (rest : List Event) (hphase : s.executing = true)
      (hevents : s.eventQueue = e :: rest) :
      Step s (.execute now nowMs) (dispatch now nowMs { s with eventQueue := rest } e)
  | action (now nowMs : ℤ) (a : Action) (rest : List Action) (hphase : s.executing = true)
      (hevents : s.eventQueue = []) (hactions : s.actionQueue = a :: rest) :
      Step s (.execute now nowMs) (handleAction { s with actionQueue := rest } a)
  | drained (now nowMs : ℤ) (hphase : s.executing = true) (hevents : s.eventQueue = [])
      (hactions : s.actionQueue = []) : Step s (.execute now nowMs) { s with executing := false }

/-- **The steps of the machine**, one case each. -/
theorem step_of_next {s s' : State} {l : Label} (h : heartbeat.next s l = some s') :
    Step s l s' := by
  cases l with
  | receive src request =>
      simp only [heartbeat, Option.ite_none_right_eq_some, Option.some.injEq, Bool.and_eq_true,
        Bool.not_eq_true'] at h
      obtain ⟨⟨hphase, hsent⟩, rfl⟩ := h
      refine .receive src request hphase fun r hr => ?_
      subst hr
      exact of_decide_eq_true hsent
  | schedule ready now hb =>
      simp only [heartbeat, Option.ite_none_left_eq_some, Bool.not_eq_true] at h
      obtain ⟨hphase, h⟩ := h
      cases ready with
      | false =>
          cases h
          exact .notReady now hb hphase
      | true =>
          rw [timers, if_pos rfl] at h
          cases hs : s.service.schedule now hb with
          | error _ => rw [hs] at h; cases h
          | ok p =>
              rw [hs] at h
              cases h
              exact .schedule now hb p.1 p.2 hphase (scheduled_of_schedule hs)
  | execute now nowMs =>
      simp only [heartbeat, Option.ite_none_right_eq_some] at h
      obtain ⟨hphase, h⟩ := h
      cases he : s.eventQueue with
      | cons e rest =>
          rw [he] at h
          cases h
          exact .event now nowMs e rest hphase he
      | nil =>
          cases ha : s.actionQueue with
          | cons a rest =>
              rw [he, ha] at h
              simp only [Option.some.injEq] at h
              rw [← h, ← he]
              exact .action now nowMs a rest hphase he ha
          | nil =>
              rw [he, ha] at h
              simp only [Option.some.injEq] at h
              rw [← h, ← he, ← ha]
              exact .drained now nowMs hphase he ha

/-! ### What a response does -/

/-- What a response can do: nothing, the answer of one that waits, or the last
such answer, which ends the round. -/
inductive Heard (now : ℤ) (src : IpcDaemon) (s : HeartbeatService) :
    HeartbeatService × Posts → Prop
  | ignored (h : ∀ e, entryOf src s.daemonMap = some e → e.pending = false) :
      Heard now src s (s, [], [])
  | answer (e : DaemonEntry) (he : entryOf src s.daemonMap = some e) (hpending : e.pending = true)
      (hcount : 1 < s.pendingCount) :
      Heard now src s
        ({ s with daemonMap := update src (answered now) s.daemonMap
                  pendingCount := s.pendingCount - 1 }, [], [])
  | last (e : DaemonEntry) (he : entryOf src s.daemonMap = some e) (hpending : e.pending = true)
      (hcount : s.pendingCount ≤ 1) :
      Heard now src s
        ({ s with daemonMap := update src (answered now) s.daemonMap
                  roundActive := false
                  pendingCount := 0 }, [.SendHeartbeatResult], [])

lemma heard_onHeartbeatResponse (now : ℤ) (src : IpcDaemon) (s : HeartbeatService) :
    Heard now src s (s.onHeartbeatResponse now src) := by
  rw [onHeartbeatResponse]
  split
  · next hnone =>
      refine .ignored fun e he => ?_
      rw [hnone] at he
      cases he
  · next e he =>
      split
      · next hpending =>
          dsimp only
          split
          · next hcount => exact .last e he hpending (by omega)
          · next hcount => exact .answer e he hpending (by omega)
      · next hpending =>
          refine .ignored fun e' he' => ?_
          rw [he] at he'
          cases he'
          exact Bool.not_eq_true _ ▸ hpending

/-! ### The counter and the queues -/

/-- An event that starts a round. -/
def starts (e : Event) : Bool := e = .SendHeartbeatRequests

/-- An event that sends a result. -/
def ends (e : Event) : Bool := e = .SendHeartbeatResult

/-- An action that sends a result. -/
def yields : Action → Bool
  | .SendHeartbeatRequest _ => false
  | .SendHeartbeatResult _ => true

/-- The results owed: of the round that is on, and of those on their way. -/
def due (s : State) : ℕ :=
  s.service.roundActive.toNat + s.eventQueue.countP ends + s.actionQueue.countP yields

/-- The daemons that have not answered. -/
def stillPending (s : HeartbeatService) : ℕ := waiting DaemonEntry.pending s.daemonMap

/-- The invariant: the counter counts what waits, nothing waits outside a round,
and of the start of a round and the results owed there is one at most. -/
structure Counted (s : State) : Prop where
  keys : (s.service.daemonMap.map Prod.fst).Perm targets
  count : s.service.pendingCount = stillPending s.service
  active : s.service.roundActive = true → 0 < stillPending s.service
  idle : s.service.roundActive = false → stillPending s.service = 0
  polling : s.executing = false →
    s.actionQueue = [] ∧ ∀ e ∈ s.eventQueue, starts e = false ∧ ends e = false
  one : s.eventQueue.countP starts + due s ≤ 1

lemma Counted.due_of_polling {s : State} (h : Counted s) (hphase : s.executing = false) :
    s.eventQueue.countP starts = 0 ∧ s.eventQueue.countP ends = 0 ∧
      s.actionQueue.countP yields = 0 := by
  obtain ⟨hactions, hevents⟩ := h.polling hphase
  refine ⟨?_, ?_, ?_⟩
  · exact List.countP_eq_zero.mpr fun e he => by simp [(hevents e he).1]
  · exact List.countP_eq_zero.mpr fun e he => by simp [(hevents e he).2]
  · rw [hactions]
    rfl

lemma counted_init {s : State} (h : heartbeat.init s) : Counted s := by
  obtain ⟨order, horder, rfl⟩ := h
  have hnone : stillPending (start order) = 0 := by
    rw [stillPending, waiting_eq_zero]
    intro p hp
    obtain ⟨d, -, rfl⟩ := List.mem_map.mp hp
    rfl
  refine ⟨?_, ?_, ?_, fun _ => hnone, fun _ => ⟨rfl, by simp⟩, by simp [due, start]⟩
  · simpa [start, Function.comp_def] using horder
  · rw [hnone]
    rfl
  · intro h
    cases h

lemma keys_markTimeoutsAsDead (s : HeartbeatService) :
    s.markTimeoutsAsDead.daemonMap.map Prod.fst = s.daemonMap.map Prod.fst := by
  rw [markTimeoutsAsDead, List.map_map]
  refine List.map_congr_left fun p _ => ?_
  rw [Function.comp_apply]
  split <;> rfl

lemma stillPending_markTimeoutsAsDead (s : HeartbeatService) :
    stillPending s.markTimeoutsAsDead = 0 := by
  rw [stillPending, waiting_eq_zero]
  intro p hp
  obtain ⟨q, -, rfl⟩ := List.mem_map.mp hp
  split
  · rfl
  · next h => exact Bool.not_eq_true _ ▸ h

/-- A round begins with every daemon asked. -/
lemma stillPending_beginRound (now : ℤ) (s : HeartbeatService) :
    stillPending (s.beginRound now).1 = s.daemonMap.length := by
  rw [stillPending, waiting_of_all]
  · simp [beginRound]
  · intro p hp
    obtain ⟨q, -, rfl⟩ := List.mem_map.mp hp
    rfl

lemma stillPending_update (now : ℤ) {src : IpcDaemon} {s : HeartbeatService} {e : DaemonEntry}
    (hkeys : (s.daemonMap.map Prod.fst).Perm targets) (he : entryOf src s.daemonMap = some e)
    (hpending : e.pending = true) :
    waiting DaemonEntry.pending (update src (answered now) s.daemonMap) + 1 = stillPending s := by
  have hnodup : targets.Nodup := by decide
  exact waiting_update (hkeys.nodup_iff.mpr hnodup) he hpending rfl

/-- A step begins a round. -/
def begins (p : State × Label) : Bool :=
  match p.2 with
  | .execute _ _ => p.1.executing && p.1.eventQueue.head?.any starts
  | _ => false

/-- A step hands a result to the router. -/
def produces (p : State × Label) : Bool :=
  match p.2 with
  | .execute _ _ => p.1.executing && p.1.eventQueue.isEmpty && p.1.actionQueue.head?.any yields
  | _ => false

/-- The timers keep the invariant. -/
lemma counted_scheduled {s : State} {now : ℤ} {hb : Json} {service : HeartbeatService}
    {e : Option Event} (h : Counted s) (hphase : s.executing = false)
    (hs : Scheduled now hb s.service service e) :
    Counted { s with service, eventQueue := s.eventQueue ++ e.toList, executing := true } := by
  obtain ⟨hstarts, hends, hyields⟩ := h.due_of_polling hphase
  cases hs with
  | timeout t hactive ht hover =>
      have hnone := stillPending_markTimeoutsAsDead s.service
      refine ⟨?_, ?_, (by rintro ⟨⟩), fun _ => hnone, by rintro ⟨⟩, ?_⟩
      · exact (keys_markTimeoutsAsDead s.service).symm ▸ h.keys
      · exact (congrArg Nat.cast hnone).symm
      · simp [due, hstarts, hends, hyields, starts, ends]
  | waits t hactive ht hover =>
      refine ⟨h.keys, h.count, h.active, h.idle, by rintro ⟨⟩, ?_⟩
      simp [due, hstarts, hends, hyields, hactive]
  | poll hactive =>
      refine ⟨h.keys, h.count, h.active, h.idle, by rintro ⟨⟩, ?_⟩
      simp [due, hstarts, hends, hyields, hactive, starts, ends]
  | idle hactive =>
      refine ⟨h.keys, h.count, h.active, h.idle, by rintro ⟨⟩, ?_⟩
      simp [due, hstarts, hends, hyields, hactive]

/-- A response keeps the invariant. -/
lemma counted_heard {s : State} {now : ℤ} {src : IpcDaemon} {rest : List Event}
    {r : HeartbeatService × Posts} (h : Counted s) (hphase : s.executing = true)
    (hevents : s.eventQueue.countP starts = rest.countP starts ∧
      s.eventQueue.countP ends = rest.countP ends)
    (hr : Heard now src s.service r) :
    Counted { s with service := r.1, eventQueue := rest ++ r.2.1,
                     actionQueue := s.actionQueue ++ r.2.2 } := by
  have hpolling : ∀ t : State, t.executing = true → t.executing = false → False := by
    intro t htrue hfalse
    rw [htrue] at hfalse
    cases hfalse
  have hone := h.one
  rw [due, hevents.1, hevents.2] at hone
  cases hr with
  | ignored _ =>
      refine ⟨h.keys, h.count, h.active, h.idle, fun hp => (hpolling s hphase hp).elim, ?_⟩
      simpa [due] using hone
  | answer e he hpending hcount =>
      have hstep := stillPending_update now h.keys he hpending
      have hcounter := h.count
      have hactive : s.service.roundActive = true := by
        by_contra hidle
        have hnone := h.idle (Bool.not_eq_true _ ▸ hidle)
        omega
      refine ⟨by simpa using h.keys, ?_, ?_, ?_, fun hp => (hpolling s hphase hp).elim, ?_⟩
      · rw [stillPending]
        dsimp only
        omega
      · intro _
        rw [stillPending]
        dsimp only
        omega
      · intro hidle
        rw [hactive] at hidle
        cases hidle
      · simpa [due] using hone
  | last e he hpending hcount =>
      have hstep := stillPending_update now h.keys he hpending
      have hcounter := h.count
      have hactive : s.service.roundActive = true := by
        by_contra hidle
        have hnone := h.idle (Bool.not_eq_true _ ▸ hidle)
        omega
      have hnone : waiting DaemonEntry.pending (update src (answered now) s.service.daemonMap) = 0 :=
        by omega
      refine ⟨by simpa using h.keys, ?_, by rintro ⟨⟩, fun _ => hnone,
        fun hp => (hpolling s hphase hp).elim, ?_⟩
      · rw [stillPending, hnone]
        rfl
      · rw [hactive] at hone
        simp only [Bool.toNat_true] at hone
        simp [due, starts, ends]
        omega

lemma countP_requests (s : HeartbeatService) :
    (s.daemonMap.map fun p => Action.SendHeartbeatRequest p.1).countP yields = 0 := by
  rw [List.countP_eq_zero]
  intro a ha
  obtain ⟨p, -, rfl⟩ := List.mem_map.mp ha
  exact Bool.false_ne_true

/-- Every step keeps the invariant. -/
lemma counted_step {s s' : State} {l : Label} (h : Counted s) (hstep : Step s l s') :
    Counted s' := by
  cases hstep with
  | receive src request hphase hsent =>
      obtain ⟨hactions, hevents⟩ := h.polling hphase
      refine ⟨h.keys, h.count, h.active, h.idle, fun _ => ⟨hactions, ?_⟩, ?_⟩
      · intro e he
        rcases List.mem_append.mp he with he | he
        · exact hevents e he
        · rw [List.mem_singleton.mp he]
          exact ⟨rfl, rfl⟩
      · have hone := h.one
        rw [due] at hone
        simpa [due, starts, ends] using hone
  | notReady now hb hphase => exact ⟨h.keys, h.count, h.active, h.idle, by rintro ⟨⟩, h.one⟩
  | schedule now hb service e hphase hs => exact counted_scheduled h hphase hs
  | event now nowMs e rest hphase hevents =>
      have hpolling : ∀ {P : Prop}, s.executing = false → P := by
        intro P hidle
        rw [hphase] at hidle
        cases hidle
      have hone := h.one
      rw [due, hevents, List.countP_cons, List.countP_cons] at hone
      cases e with
      | SendHeartbeatRequests =>
          have hasked := stillPending_beginRound now s.service
          have hlength : s.service.daemonMap.length = 6 := by
            rw [← List.length_map (f := Prod.fst), h.keys.length_eq]
            rfl
          have hnone := countP_requests s.service
          refine ⟨?_, ?_, ?_, by rintro ⟨⟩, fun hidle => hpolling hidle, ?_⟩
          · simpa [dispatch, handleEvent, beginRound, Function.comp_def] using h.keys
          · exact (congrArg Nat.cast hasked).symm
          · intro _
            change 0 < stillPending (s.service.beginRound now).1
            omega
          · simp only [starts, ends, decide_true, if_true] at hone
            simp [due, dispatch, handleEvent, beginRound, List.countP_append, hnone]
            omega
      | ReceiveHeartbeatResponse src request =>
          have hcounts : s.eventQueue.countP starts = rest.countP starts ∧
              s.eventQueue.countP ends = rest.countP ends := by
            rw [hevents]
            simp [starts, ends]
          have hheard := heard_onHeartbeatResponse now src s.service
          rw [dispatch, if_neg (by rintro ⟨⟩)]
          have hkept := counted_heard h hphase hcounts hheard
          exact hkept
      | SendHeartbeatResult =>
          refine ⟨h.keys, h.count, h.active, h.idle, fun hidle => hpolling hidle, ?_⟩
          simp [starts, ends] at hone
          simp [due, dispatch, handleEvent, yields]
          omega
  | action now nowMs a rest hphase hevents hactions =>
      have hone := h.one
      rw [due, hactions, List.countP_cons] at hone
      cases a with
      | SendHeartbeatRequest dst =>
          refine ⟨h.keys, h.count, h.active, h.idle, fun hidle => ?_, ?_⟩
          · exact absurd (hphase.symm.trans hidle) (by decide)
          · simpa [due, handleAction, yields] using hone
      | SendHeartbeatResult doc =>
          refine ⟨h.keys, h.count, h.active, h.idle, fun hidle => ?_, ?_⟩
          · exact absurd (hphase.symm.trans hidle) (by decide)
          · simp [due, handleAction]
            omega
  | drained now nowMs hphase hevents hactions =>
      refine ⟨h.keys, h.count, h.active, h.idle, fun _ => ⟨hactions, ?_⟩, h.one⟩
      rw [hevents]
      rintro e ⟨⟩

/-- **The balance of a step**: what a step that begins a round owes, and what one
that produces a result pays. -/
lemma due_step {s s' : State} {l : Label} (h : Counted s) (hstep : Step s l s') :
    due s' + (produces (s, l)).toNat = due s + (begins (s, l)).toNat := by
  cases hstep with
  | receive src request hphase hsent => simp [due, produces, begins, ends]
  | notReady now hb hphase => rfl
  | schedule now hb service e hphase hs =>
      obtain ⟨-, hends, hyields⟩ := h.due_of_polling hphase
      cases hs with
      | timeout t hactive ht hover =>
          simp [due, produces, begins, hends, hyields, hactive, ends]
      | waits t hactive ht hover => simp [due, produces, begins]
      | poll hactive => simp [due, produces, begins, ends]
      | idle hactive => simp [due, produces, begins]
  | event now nowMs e rest hphase hevents =>
      have hone := h.one
      rw [due, hevents, List.countP_cons, List.countP_cons] at hone
      cases e with
      | SendHeartbeatRequests =>
          have hnone := countP_requests s.service
          simp [starts, ends] at hone
          simp [due, produces, begins, hphase, hevents, dispatch, handleEvent, beginRound, hnone,
            starts, ends]
          omega
      | ReceiveHeartbeatResponse src request =>
          have hheard := heard_onHeartbeatResponse now src s.service
          rw [due, due, hevents]
          change (s.service.onHeartbeatResponse now src).1.roundActive.toNat
            + (rest ++ (s.service.onHeartbeatResponse now src).2.1).countP ends
            + (s.actionQueue ++ (s.service.onHeartbeatResponse now src).2.2).countP yields + _ = _
          generalize s.service.onHeartbeatResponse now src = r at hheard
          cases hheard with
          | ignored _ => simp [produces, begins, hevents, starts, ends]
          | answer e he hpending hcount => simp [produces, begins, hevents, starts, ends]
          | last e he hpending hcount =>
              have hactive : s.service.roundActive = true := by
                by_contra hidle
                have hnone := h.idle (Bool.not_eq_true _ ▸ hidle)
                have hwaits : 0 < stillPending s.service := waiting_pos he hpending
                omega
              simp [produces, begins, hevents, starts, ends, hactive]
              omega
      | SendHeartbeatResult =>
          simp [due, produces, begins, hevents, dispatch, handleEvent, starts, ends, yields]
          omega
  | action now nowMs a rest hphase hevents hactions =>
      cases a with
      | SendHeartbeatRequest dst =>
          simp [due, produces, begins, hphase, hevents, hactions, handleAction, yields]
      | SendHeartbeatResult doc =>
          simp [due, produces, begins, hphase, hevents, hactions, handleAction, List.countP_cons, yields]
          omega
  | drained now nowMs hphase hevents hactions =>
      simp [due, produces, begins, hphase, hevents, hactions]

/-! ### One result for each round -/

/-- The rounds begun are those whose results are out, in their order, and the one
whose result is due. -/
structure Numbered (s : State) : Prop where
  results : s.results.map Prod.fst = (List.range s.results.length).map (· + 1)
  owed : s.round = s.results.length + due s

lemma numbered_step {s s' : State} {l : Label} (h : Counted s) (hn : Numbered s)
    (hstep : Step s l s') : Numbered s' := by
  have hbalance := due_step h hstep
  have howed := hn.owed
  cases hstep with
  | receive src request hphase hsent =>
      refine ⟨hn.results, ?_⟩
      simp only [begins, produces, Bool.toNat_false] at hbalance
      dsimp only
      omega
  | notReady now hb hphase => exact ⟨hn.results, hn.owed⟩
  | schedule now hb service e hphase hs =>
      refine ⟨hn.results, ?_⟩
      simp only [begins, produces, Bool.toNat_false] at hbalance
      dsimp only
      omega
  | event now nowMs e rest hphase hevents =>
      have hbegins : begins (s, .execute now nowMs) = starts e := by simp [begins, hphase, hevents]
      have hproduces : produces (s, .execute now nowMs) = false := by simp [produces, hevents]
      rw [hbegins, hproduces, Bool.toNat_false, starts] at hbalance
      refine ⟨hn.results, ?_⟩
      change (if e = .SendHeartbeatRequests then s.round + 1 else s.round) = s.results.length + _
      by_cases he : e = .SendHeartbeatRequests
      · rw [decide_eq_true he, Bool.toNat_true] at hbalance
        rw [if_pos he]
        omega
      · rw [decide_eq_false he, Bool.toNat_false] at hbalance
        rw [if_neg he]
        omega
  | action now nowMs a rest hphase hevents hactions =>
      have hbegins : begins (s, .execute now nowMs) = false := by simp [begins, hevents]
      have hproduces : produces (s, .execute now nowMs) = yields a := by
        simp [produces, hphase, hevents, hactions]
      rw [hbegins, hproduces, Bool.toNat_false] at hbalance
      cases a with
      | SendHeartbeatRequest dst =>
          refine ⟨hn.results, ?_⟩
          rw [yields, Bool.toNat_false] at hbalance
          change s.round = s.results.length + _
          omega
      | SendHeartbeatResult doc =>
          rw [yields, Bool.toNat_true] at hbalance
          have hone := h.one
          have hlast : s.round = s.results.length + 1 := by omega
          refine ⟨?_, ?_⟩
          · simp [handleAction, List.range_succ, hn.results, hlast]
          · change s.round = (s.results ++ [(s.round, doc)]).length + _
            rw [List.length_append, List.length_singleton]
            omega
  | drained now nowMs hphase hevents hactions => exact ⟨hn.results, hn.owed⟩

lemma reachable_counted {s : State} (h : heartbeat.Reachable s) : Counted s ∧ Numbered s := by
  refine h.invariant (I := fun s => Counted s ∧ Numbered s) ?_ ?_
  · intro s hinit
    refine ⟨counted_init hinit, ?_⟩
    obtain ⟨order, -, rfl⟩ := hinit
    exact ⟨rfl, rfl⟩
  · rintro t l t' ⟨hcounted, hnumbered⟩ hnext
    have hstep := step_of_next hnext
    exact ⟨counted_step hcounted hstep, numbered_step hcounted hnumbered hstep⟩

/-! ### The end of a drain -/

/-- The turns an event leads to. -/
def Event.turns (s : HeartbeatService) : Event → ℕ
  | .SendHeartbeatRequests => s.daemonMap.length + 1
  | .ReceiveHeartbeatResponse _ _ => 3
  | .SendHeartbeatResult => 2

/-- The turns a drain has left, but for its last. -/
def turnsLeft (s : State) : ℕ :=
  (s.eventQueue.map (Event.turns s.service)).sum + s.actionQueue.length

/-- No event of the queue begins a round. -/
def Quiet (s : State) : Prop := ∀ e ∈ s.eventQueue, starts e = false

/-- A turn of a quiet drain: fewer turns are left, and no round is begun. -/
structure Drains (s s' : State) : Prop where
  turns : turnsLeft s' < turnsLeft s
  quiet : Quiet s'
  executing : s'.executing = s.executing
  round : s'.round = s.round
  idle : s.service.roundActive = false → s'.service.roundActive = false

lemma turns_of_quiet (s s' : HeartbeatService) {es : List Event}
    (h : ∀ e ∈ es, starts e = false) :
    es.map (Event.turns s) = es.map (Event.turns s') := by
  refine List.map_congr_left fun e he => ?_
  cases e with
  | SendHeartbeatRequests => exact absurd (h _ he) (by decide)
  | ReceiveHeartbeatResponse src request => rfl
  | SendHeartbeatResult => rfl

lemma drains_event {now nowMs : ℤ} {s : State} {e : Event} {rest : List Event}
    (hquiet : Quiet s) (hevents : s.eventQueue = e :: rest) :
    Drains s (dispatch now nowMs { s with eventQueue := rest } e) := by
  have hrest : ∀ e ∈ rest, starts e = false := fun e he => hquiet e (by simp [hevents, he])
  cases e with
  | SendHeartbeatRequests =>
      have hfirst := hquiet .SendHeartbeatRequests (by simp [hevents])
      exact absurd hfirst (by decide)
  | ReceiveHeartbeatResponse src request =>
      have hheard := heard_onHeartbeatResponse now src s.service
      have hkept : ∀ r, Heard now src s.service r →
          Drains s { s with service := r.1, eventQueue := rest ++ r.2.1,
                            actionQueue := s.actionQueue ++ r.2.2 } := by
        intro r hr
        cases hr with
        | ignored _ =>
            refine ⟨?_, by simpa [Quiet] using hrest, rfl, rfl, id⟩
            simp [turnsLeft, hevents, Event.turns]
        | answer e he hpending hcount =>
            refine ⟨?_, by simpa [Quiet] using hrest, rfl, rfl, id⟩
            simp only [turnsLeft, hevents, List.append_nil, List.map_cons, List.sum_cons]
            rw [turns_of_quiet _ s.service hrest, Event.turns]
            omega
        | last e he hpending hcount =>
            refine ⟨?_, ?_, rfl, rfl, fun _ => rfl⟩
            · simp only [turnsLeft, hevents, List.append_nil, List.map_cons, List.sum_cons,
                List.map_append, List.sum_append, List.map_nil, List.sum_nil]
              rw [turns_of_quiet _ s.service hrest, Event.turns, Event.turns]
              omega
            · intro e he
              rcases List.mem_append.mp he with he | he
              · exact hrest e he
              · rw [List.mem_singleton.mp he]
                rfl
      exact hkept _ hheard
  | SendHeartbeatResult =>
      refine ⟨?_, by simpa [Quiet, dispatch, handleEvent] using hrest, rfl, rfl, id⟩
      simp [turnsLeft, dispatch, handleEvent, hevents, Event.turns]
      omega

/-- A drain that has no round to begin comes to its end, in the same round. -/
lemma exists_drained (now nowMs : ℤ) {s : State} (hphase : s.executing = true)
    (hquiet : Quiet s) :
    ∃ n s', heartbeat.exec s (List.replicate n (.execute now nowMs)) = some s' ∧
      s'.executing = false ∧ s'.round = s.round ∧
      (s.service.roundActive = false → s'.service.roundActive = false) := by
  induction hturns : turnsLeft s using Nat.strong_induction_on generalizing s with
  | _ k ih =>
  have hgo : ∀ t, heartbeat.next s (.execute now nowMs) = some t → Drains s t →
      ∃ n s', heartbeat.exec s (List.replicate n (.execute now nowMs)) = some s' ∧
        s'.executing = false ∧ s'.round = s.round ∧
        (s.service.roundActive = false → s'.service.roundActive = false) := by
    intro t hnext hdrains
    obtain ⟨n, s', hexec, hdone, hround, hidle⟩ := ih _ (hturns ▸ hdrains.turns)
      (hdrains.executing.trans hphase) hdrains.quiet rfl
    refine ⟨n + 1, s', ?_, hdone, hround.trans hdrains.round, fun h => hidle (hdrains.idle h)⟩
    rw [List.replicate_succ, Machine.exec, hnext]
    exact hexec
  cases hevents : s.eventQueue with
  | cons e rest =>
      refine hgo (dispatch now nowMs { s with eventQueue := rest } e) ?_ ?_
      · simp [heartbeat, hphase, hevents]
      · exact drains_event hquiet hevents
  | nil =>
      cases hactions : s.actionQueue with
      | cons a rest =>
          refine hgo (handleAction { s with actionQueue := rest } a) ?_ ?_
          · simp [heartbeat, hphase, hevents, hactions]
          · cases a with
            | SendHeartbeatRequest dst =>
                refine ⟨?_, hquiet, rfl, rfl, id⟩
                simp [turnsLeft, handleAction, hevents, hactions]
            | SendHeartbeatResult doc =>
                refine ⟨?_, hquiet, rfl, rfl, id⟩
                simp [turnsLeft, handleAction, hevents, hactions]
      | nil =>
          refine ⟨1, { s with executing := false }, ?_, rfl, rfl, id⟩
          simp [Machine.exec, heartbeat, hphase, hevents, hactions]

/-! ### The accounts of a round -/

/-- The accounts of a state: the counter counts what waits, an answer of one that
waits finds it above zero, the results out are those of the rounds begun but for
the one due, and outside a drain one is due exactly in a round. -/
structure Accounted (s : State) : Prop where
  counter : s.service.roundActive = true → s.service.pendingCount = stillPending s.service
  nonneg : 0 ≤ s.service.pendingCount
  answered : ∀ d e, entryOf d s.service.daemonMap = some e → e.pending = true →
    s.service.roundActive = true ∧ 0 < s.service.pendingCount
  results : s.results.map Prod.fst = (List.range s.results.length).map (· + 1)
  owed : s.round = s.results.length + due s
  one : due s ≤ 1
  settled : s.executing = false → due s = s.service.roundActive.toNat

lemma accounted_of_counted {s : State} (h : Counted s) (hn : Numbered s) : Accounted s := by
  have hcount := h.count
  refine ⟨fun _ => hcount, by omega, fun d e he hpending => ?_, hn.results, hn.owed,
    le_trans (Nat.le_add_left _ _) h.one, fun hphase => ?_⟩
  · have hwaits : 0 < stillPending s.service := waiting_pos he hpending
    refine ⟨?_, by omega⟩
    by_contra hidle
    have hnone := h.idle (Bool.not_eq_true _ ▸ hidle)
    omega
  · obtain ⟨-, hends, hyields⟩ := h.due_of_polling hphase
    rw [due, hends, hyields]
    rfl

/-- What timers past the timeout leave. -/
def timedOut (s : State) : State :=
  { s with
    service := { s.service.markTimeoutsAsDead with roundActive := false, pendingCount := 0 }
    eventQueue := s.eventQueue ++ [.SendHeartbeatResult]
    executing := true }

/-- **Every round has its one result**: the accounts hold in every state, and the
first timers past the timeout end the round, whose result is out when the queues
are drained. -/
theorem accounts_of_rounds {s : State} (h : heartbeat.Reachable s) :
    Accounted s ∧ ∀ now nowMs hb timeout, s.executing = false → s.service.roundActive = true →
      responseTimeout hb = .ok timeout → timeout ≤ now - s.service.roundStartedAt →
      ∃ s₁ n s₂, heartbeat.next s (.schedule true now hb) = some s₁ ∧
        heartbeat.exec s₁ (List.replicate n (.execute now nowMs)) = some s₂ ∧
        s₂.executing = false ∧ s₂.service.roundActive = false ∧ s₂.round = s.round ∧
        s₂.results.length = s.round := by
  obtain ⟨hcounted, hnumbered⟩ := reachable_counted h
  refine ⟨accounted_of_counted hcounted hnumbered, ?_⟩
  intro now nowMs hb timeout hphase hactive htimeout hover
  have hschedule : s.service.schedule now hb = .ok
      ({ s.service.markTimeoutsAsDead with roundActive := false, pendingCount := 0 },
        some .SendHeartbeatResult) := by
    rw [schedule, if_pos hactive, htimeout]
    change (if now - s.service.roundStartedAt ≥ timeout then _ else _) = _
    rw [if_pos hover]
    rfl
  have hnext : heartbeat.next s (.schedule true now hb) = some (timedOut s) := by
    simp only [heartbeat, hphase, timers, hschedule]
    rfl
  have hquiet : Quiet (timedOut s) := by
    intro e he
    rcases List.mem_append.mp he with he | he
    · exact ((hcounted.polling hphase).2 e he).1
    · rw [List.mem_singleton.mp he]
      rfl
  obtain ⟨n, s₂, hexec, hdone, hround, hidle⟩ := exists_drained now nowMs rfl hquiet
  refine ⟨timedOut s, n, s₂, hnext, hexec, hdone, hidle rfl, hround, ?_⟩
  have hreach : heartbeat.Reachable s₂ := by
    obtain ⟨s₀, tr, hinit, hrun⟩ := h.step hnext
    exact ⟨s₀, _, hinit, hrun.append (Machine.exec_run hexec)⟩
  obtain ⟨hcounted₂, hnumbered₂⟩ := reachable_counted hreach
  have hdue := (accounted_of_counted hcounted₂ hnumbered₂).settled hdone
  have howed := hnumbered₂.owed
  rw [hdue, hidle rfl, hround] at howed
  exact howed.symm

namespace Sample

/-- engined as it starts its services. -/
def started : State := { service := start targets }

lemma init_started : heartbeat.init started := ⟨targets, List.Perm.refl _, rfl⟩

/-- A drain, turn by turn. -/
def drain (now : ℤ) (n : ℕ) : List Label := List.replicate n (.execute now 0)

/-- A round that nobody has answered yet, at its start after one second. -/
def firstRound : List Label := .schedule true second (.obj []) :: drain second 8

/-- The timeout of a round, two seconds later. -/
def timeout : List Label := .schedule true (3 * second) (.obj []) :: drain (3 * second) 3

end Sample

/-- A round begun, and brought to its end. -/
theorem accounts_of_first_round : ∃ s, heartbeat.Reachable s ∧ s.service.roundActive = true ∧
    Accounted s ∧ ∃ s₂ : State, s₂.round = 1 ∧ s₂.results.length = 1 := by
  have hexec : (heartbeat.exec Sample.started Sample.firstRound).map (fun s =>
      (s.executing, s.service.roundActive, s.service.roundStartedAt, s.round)) =
      some (false, true, second, 1) := by decide +kernel
  obtain ⟨s, hs, hshape⟩ := Option.map_eq_some_iff.mp hexec
  simp only [Prod.mk.injEq] at hshape
  obtain ⟨hphase, hactive, hat, hround⟩ := hshape
  have hreach : heartbeat.Reachable s := Machine.exec_reachable Sample.init_started hs
  have htimeout : responseTimeout (.obj []) = .ok (2 * second) := rfl
  obtain ⟨haccounts, hends⟩ := accounts_of_rounds hreach
  obtain ⟨_, _, s₂, -, -, -, -, hround₂, hresults⟩ := hends (3 * second) 0 (.obj []) (2 * second)
    hphase hactive htimeout (by rw [hat]; decide)
  exact ⟨s, hreach, hactive, haccounts, s₂, hround₂.trans hround, hresults.trans hround⟩

end Pretzel.Engined.HeartbeatService
