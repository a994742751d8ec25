import Pretzel.Engined.ServiceManager
import Pretzel.Engined.ApplyCommit
import Pretzel.Engined.Pipeline

/-!
The commit queue of engined over whole runs: no task lost, one answer a task.

* `pipelineOf`, `effect`: engined seen as the commit pipeline. The token is
  carried by an `ApplyCommit` or `SendReloadFailed` action, by the reload under
  way, or by the timeout's event; a completion is a `ReloadComplete` or
  `ReloadFailed` event of the commit service.
* `pipelineOf_next`: every step of engined is a step of the pipeline.
* `task_kept_iff`: every task ever enqueued is in the queue or left it Done or
  Failed, exactly when no completion is handled while a task past the last five
  waits.
* `answered_once_iff`: every task that ended got exactly one response, which
  says how it ended, exactly when every `ApplyCommit` passes its early checks.
-/

namespace Pretzel.Engined

open Nlohmann Ipc Config Mgmtd Reactive

/-! ### engined as the pipeline -/

/-- The event with which the timeout hands the token on. -/
def Event.carriesToken : Event → Bool
  | .bootstrap .ReloadFailed => true
  | _ => false

/-- The actions that hold the token. -/
def Action.carriesToken : Action → Bool
  | .ApplyCommit | .bootstrap .SendReloadFailed => true
  | _ => false

/-- A completion on its way back to the queue. -/
def Event.completion : Event → Option Bool
  | .commit .ReloadComplete => some true
  | .commit .ReloadFailed => some false
  | _ => none

/-- The token of the running task, before mgmtd is answered. -/
def carried (s : EnginedState) : ℕ :=
  s.eventQueue.countP (fun e => e.carriesToken) + s.actionQueue.countP (fun a => a.carriesToken) +
    s.bootstrapService.isReload.toNat

/-- engined seen as the pipeline. -/
def pipelineOf (s : EnginedState) : Pipeline where
  queue := s.commitService.queue
  nextId := s.commitService.nextId
  finished := s.history.finished
  removed := s.history.removed
  answered := s.history.answered
  carried := carried s
  inflight := s.eventQueue.filterMap fun e => e.completion

/-- What an event does to the pipeline. -/
def eventEffect : Event → Pipeline.Effect
  | .commit (.ReceiveSettingsCommit payload) =>
      if payload = .empty then .quiet else .enqueue payload
  | .commit .ReloadComplete | .commit .ReloadFailed => .settle
  | .bootstrap _ => .quiet

/-- What an action does to the pipeline. -/
def actionEffect (io : DispatchIO) (s : EnginedState) : Action → Pipeline.Effect
  | .ApplyCommit => if goesThrough io s then .quiet else .refuse
  | .bootstrap (.SendRuntimeStart _) =>
      if s.bootstrapService.isReload then
        .answer (buildSettingsCommitResponse true s.bootstrapService.targetVersion)
      else .quiet
  | .bootstrap .SendReloadFailed =>
      .answer (buildSettingsCommitResponse false s.bootstrapService.targetVersion)
  | .bootstrap _ => .quiet

/-- What a step of engined does to the pipeline. -/
def effect (s : EnginedState) : Label → Pipeline.Effect
  | .execute io =>
      match s.eventQueue, s.actionQueue with
      | e :: _, _ => eventEffect e
      | [], a :: _ => actionEffect io s a
      | [], [] => .quiet
  | _ => .quiet

@[simp] lemma pipelineOf_sendQueueStatus (s : EnginedState) :
    pipelineOf (sendQueueStatus s) = pipelineOf s := rfl

@[simp] lemma pipelineOf_transmit (s : EnginedState) (m : IpcMessage Payload) :
    pipelineOf (s.transmit m) = pipelineOf s := rfl

@[simp] lemma pipelineOf_enqueueTask (payload : Payload) (s : EnginedState) :
    pipelineOf (enqueueTask payload s) = (pipelineOf s).push payload := rfl

@[simp] lemma pipelineOf_finishRunning (status : TaskStatus) (s : EnginedState) :
    pipelineOf (finishRunning status s) = (pipelineOf s).finish status := rfl

@[simp] lemma pipelineOf_trimQueue (s : EnginedState) :
    pipelineOf (trimQueue s) = (pipelineOf s).shorten := rfl

@[simp] lemma pipelineOf_startNext (s : EnginedState) :
    pipelineOf (startNext s) = (pipelineOf s).start := by
  rw [startNext, Pipeline.start]
  cases hq : runFirstPending s.commitService.queue with
  | none => simp [pipelineOf, hq]
  | some queue =>
      simp [pipelineOf, carried, hq, EnginedState.postAction, sendQueueStatus,
        EnginedState.transmit, List.countP_append, Action.carriesToken]
      omega

/-- An event that neither carries the token nor completes a task is nothing to
the pipeline. -/
lemma pipelineOf_postEvent {e : Event} (s : EnginedState) (hc : e.carriesToken = false)
    (hi : e.completion = none) : pipelineOf (s.postEvent e) = pipelineOf s := by
  simp [pipelineOf, carried, EnginedState.postEvent, hc, hi]

lemma pipelineOf_postAction {a : Action} (s : EnginedState) (hc : a.carriesToken = false) :
    pipelineOf (s.postAction a) = pipelineOf s := by
  simp [pipelineOf, carried, EnginedState.postAction, hc]

/-- The bootstrap service may change as it likes, but for the reload. -/
lemma pipelineOf_bootstrap {b : BootstrapService} (s : EnginedState)
    (h : b.isReload = s.bootstrapService.isReload) :
    pipelineOf { s with bootstrapService := b } = pipelineOf s := by
  simp [pipelineOf, carried, h]

/-! ### Each step is a step of the pipeline -/

section Simulation

variable {file : Option Json} {s s' : EnginedState}

/-- A popped event that is nothing to the pipeline. -/
lemma pipelineOf_pop {e : Event} {rest : List Event} (hq : s.eventQueue = e :: rest)
    (hc : e.carriesToken = false) (hi : e.completion = none) :
    pipelineOf { s with eventQueue := rest } = pipelineOf s := by
  simp [pipelineOf, carried, hq, hc, hi]

lemma pipelineOf_onSyncResponse (payload : Payload) (s : EnginedState) :
    pipelineOf (onSyncResponse payload s) = pipelineOf s := by
  rw [onSyncResponse]
  split
  · dsimp only
    split
    · rw [pipelineOf_postAction _ rfl]
      exact pipelineOf_bootstrap s rfl
    · exact pipelineOf_bootstrap s rfl
  · rfl

lemma pipelineOf_onServerHello (now : ℕ) (s : EnginedState) :
    pipelineOf (onServerHello now s) = pipelineOf s := by
  rw [onServerHello]
  split
  · rw [pipelineOf_postAction _ rfl]
    exact pipelineOf_bootstrap s rfl
  · rfl

/-- The event of a timeout turns into an action, and the token goes with it. -/
lemma pipelineOf_timeout {rest : List Event} (hq : s.eventQueue = .bootstrap .ReloadFailed :: rest) :
    pipelineOf ({ s with eventQueue := rest }.postAction (.bootstrap .SendReloadFailed))
      = pipelineOf s := by
  simp [pipelineOf, carried, hq, EnginedState.postAction, Event.carriesToken, Event.completion,
    Action.carriesToken]
  omega

lemma step_bootstrapEvent {e : BootstrapEvent} {rest : List Event} (now : ℕ)
    (hq : s.eventQueue = .bootstrap e :: rest) :
    pipelineOf (handleBootstrapEvent now { s with eventQueue := rest } e) = pipelineOf s := by
  have hpop : e ≠ .ReloadFailed → pipelineOf { s with eventQueue := rest } = pipelineOf s := by
    intro hne
    refine pipelineOf_pop hq ?_ rfl
    cases e <;> first | rfl | exact absurd rfl hne
  cases e with
  | ReloadFailed => exact pipelineOf_timeout hq
  | ReceiveServerHello =>
      rw [handleBootstrapEvent, pipelineOf_onServerHello, hpop (by simp)]
  | ReceiveSyncResponse payload =>
      rw [handleBootstrapEvent, pipelineOf_onSyncResponse, hpop (by simp)]
  | ReceiveRuntimeStart => exact hpop (by simp)
  | SendClientHello => rw [handleBootstrapEvent, pipelineOf_postAction _ rfl, hpop (by simp)]
  | SendSyncRequest => rw [handleBootstrapEvent, pipelineOf_postAction _ rfl, hpop (by simp)]
  | SendRuntimeStart => rw [handleBootstrapEvent, pipelineOf_postAction _ rfl, hpop (by simp)]

/-- A completion handled is a settlement. -/
lemma step_completion {e : CommitEvent} (ok : Bool) {rest : List Event}
    (hq : s.eventQueue = .commit e :: rest) (hok : (Event.commit e).completion = some ok) :
    (pipelineOf s).step .settle
      = some (pipelineOf (endReload (.ofOk ok) { s with eventQueue := rest })) := by
  have hview : { pipelineOf s with inflight := (pipelineOf { s with eventQueue := rest }).inflight }
      = pipelineOf { s with eventQueue := rest } := by
    simp [pipelineOf, carried, hq, Event.carriesToken]
  have hinflight : (pipelineOf s).inflight
      = ok :: (pipelineOf { s with eventQueue := rest }).inflight := by
    simp [pipelineOf, hq, hok]
  rw [Pipeline.step, hinflight]
  simp only [endReload, pipelineOf_startNext, pipelineOf_sendQueueStatus, pipelineOf_trimQueue,
    pipelineOf_finishRunning, hview]

/-- A payload received is a task enqueued, and started if none runs. -/
lemma pipelineOf_receive {payload : Payload} (hne : payload ≠ .empty) (s : EnginedState) :
    (pipelineOf s).step (.enqueue payload)
      = some (pipelineOf (handleCommitEvent s (.ReceiveSettingsCommit payload))) := by
  have hqueue : (sendQueueStatus (enqueueTask payload s)).commitService.queue
      = s.commitService.queue ++ [⟨s.commitService.nextId, payload, .Pending⟩] := rfl
  have hany : ((sendQueueStatus (enqueueTask payload s)).commitService.queue.any
      fun t => t.status = .Running) = true ↔ ¬ runningCount (pipelineOf s).queue = 0 := by
    rw [hqueue, runningCount, List.countP_eq_zero]
    simp [pipelineOf]
  rw [handleCommitEvent_receive hne, Pipeline.step]
  by_cases hidle : runningCount (pipelineOf s).queue = 0
  · rw [if_pos hidle, if_neg (by rw [hany, not_not]; exact hidle)]
    simp
  · rw [if_neg hidle, if_pos (hany.mpr hidle)]
    simp

lemma step_commitEvent {e : CommitEvent} {rest : List Event} (hq : s.eventQueue = .commit e :: rest) :
    (pipelineOf s).step (eventEffect (.commit e))
      = some (pipelineOf (handleCommitEvent { s with eventQueue := rest } e)) := by
  cases e with
  | ReloadComplete =>
      rw [handleCommitEvent, eventEffect]
      exact step_completion true hq rfl
  | ReloadFailed =>
      rw [handleCommitEvent, eventEffect]
      exact step_completion false hq rfl
  | ReceiveSettingsCommit payload =>
      have hpop := pipelineOf_pop hq rfl rfl
      rw [eventEffect]
      split
      · next hempty =>
          subst hempty
          rw [Pipeline.step, handleCommitEvent, hpop]
      · next hne =>
          rw [← hpop]
          exact pipelineOf_receive hne _

/-- A popped action that does not hold the token. -/
lemma pipelineOf_popAction {a : Action} {rest : List Action} (hq : s.actionQueue = a :: rest)
    (hc : a.carriesToken = false) : pipelineOf { s with actionQueue := rest } = pipelineOf s := by
  simp [pipelineOf, carried, hq, hc]

/-- A popped action that holds the token. -/
lemma carried_popAction {a : Action} {rest : List Action} (hq : s.actionQueue = a :: rest)
    (hc : a.carriesToken = true) : carried s = carried { s with actionQueue := rest } + 1 := by
  simp [carried, hq, hc]
  omega

lemma responseOk_build (ok : Bool) (targetVersion : ℕ) :
    responseOk (buildSettingsCommitResponse ok targetVersion) = ok := rfl

/-- mgmtd answered and the completion posted: the token comes back. -/
lemma step_answer {t : EnginedState} (ok : Bool) {e : Event} (hc : e.carriesToken = false)
    (hi : e.completion = some ok) (hview : pipelineOf s = { pipelineOf t with
      carried := carried t + 1 }) :
    (pipelineOf s).step (.answer (buildSettingsCommitResponse ok t.bootstrapService.targetVersion))
      = some (pipelineOf ((answerCommit ok t).postEvent e)) := by
  rw [hview, Pipeline.step, if_pos (Nat.succ_pos _)]
  simp [pipelineOf, carried, answerCommit, EnginedState.postEvent, EnginedState.transmit, hc, hi,
    responseOk_build]

lemma step_bootstrapAction {a : BootstrapAction} {rest : List Action} (io : DispatchIO)
    (hq : s.actionQueue = .bootstrap a :: rest) :
    (pipelineOf s).step (actionEffect io s (.bootstrap a))
      = some (pipelineOf (handleBootstrapAction { s with actionQueue := rest } a)) := by
  cases a with
  | SendClientHello =>
      rw [actionEffect, Pipeline.step, handleBootstrapAction, ← pipelineOf_popAction hq rfl]
      · split <;> rfl
      · simp
      · simp
  | SendSyncRequest =>
      rw [actionEffect, Pipeline.step, handleBootstrapAction, ← pipelineOf_popAction hq rfl]
      · split <;> rfl
      · simp
      · simp
  | SendReloadFailed =>
      rw [actionEffect, handleBootstrapAction]
      refine step_answer (t := { s with actionQueue := rest }) false rfl rfl ?_
      have := carried_popAction hq rfl
      simp [pipelineOf, this]
  | SendRuntimeStart reloads =>
      have hpop := pipelineOf_popAction hq rfl
      rw [actionEffect, handleBootstrapAction]
      generalize hu : broadcastRuntimeStart { s with actionQueue := rest } = u
      have hbroadcast : pipelineOf u = pipelineOf s := by
        rw [← hpop, ← hu]
        rfl
      have hreload : u.bootstrapService.isReload = s.bootstrapService.isReload := by
        rw [← hu]
        rfl
      have htarget : u.bootstrapService.targetVersion = s.bootstrapService.targetVersion := by
        rw [← hu]
        rfl
      rw [← hreload, ← htarget, ← hbroadcast]
      cases hr : u.bootstrapService.isReload with
      | false => rw [if_neg (by simp), Pipeline.step, if_neg (by simp)]
      | true =>
          rw [if_pos rfl, if_pos rfl, completeReload]
          refine step_answer (t := { u with
            bootstrapService := { u.bootstrapService with isReload := false } }) true rfl rfl ?_
          simp [pipelineOf, carried, hr]

/-- An `ApplyCommit` fails its task early, or hands the token to the reload. -/
lemma step_applyCommit {io : DispatchIO} {rest : List Action} (h : (pipelineOf s).Inv)
    (hq : s.actionQueue = .ApplyCommit :: rest)
    (hs : applyCommit file io { s with actionQueue := rest } = .ok s') :
    (pipelineOf s).step (actionEffect io s .ApplyCommit) = some (pipelineOf s') := by
  have hcarried : carried s = carried { s with actionQueue := rest } + 1 :=
    carried_popAction hq rfl
  have htoken : runningCount s.commitService.queue = carried s + (pipelineOf s).inflight.length :=
    h.token
  have hsingle : runningCount s.commitService.queue ≤ 1 := h.single
  rcases applyCommit_cases hs with ⟨hnone, -⟩ | ⟨running, hrun, hgoes, config, rfl, -⟩ |
    ⟨running, changes, hrun, -, hgoes, rfl⟩
  · have hzero : runningCount s.commitService.queue = 0 := runningTask_eq_none_iff.mp hnone
    omega
  · have hgoes' : goesThrough io s = false := hgoes
    have hpos : 0 < (pipelineOf s).carried := by
      show 0 < carried s
      omega
    have hview : { pipelineOf s with carried := (pipelineOf s).carried - 1 }
        = pipelineOf { s with actionQueue := rest, config } := by
      show { pipelineOf s with carried := carried s - 1 } = _
      rw [hcarried]
      rfl
    rw [actionEffect, hgoes', if_neg (by simp), Pipeline.step, if_pos hpos, hview]
    simp [failTask]
  · have hgoes' : goesThrough io s = true := hgoes
    have hreload : s.bootstrapService.isReload = false := by
      cases hr : s.bootstrapService.isReload with
      | false => rfl
      | true =>
          have : 1 ≤ carried { s with actionQueue := rest } := by simp [carried, hr]
          omega
    rw [actionEffect, hgoes', if_pos rfl, Pipeline.step]
    have : carried (announceCommit file io (committedState file io { s with actionQueue := rest }
        changes)) = carried s := by
      rw [hcarried]
      simp [carried, announceCommit, scheduleServiceReload, committedState, hreload]
    simp [pipelineOf, this]
    simp [announceCommit, scheduleServiceReload, committedState]

/-- What the simulation rests on: the token, and no reload before the start. -/
def Tracked (s : EnginedState) : Prop :=
  (pipelineOf s).Inv ∧ (s.phase = .starting → s.bootstrapService.isReload = false)

/-- A timeout takes the token from the reload to its event. -/
lemma pipelineOf_schedule (io : ScheduleIO) (s : EnginedState) :
    pipelineOf (schedule io s) = pipelineOf s := by
  rcases schedule_cases io s with h | ⟨state, helloAt, syncAt, e, h, he⟩ | ⟨hreload, h⟩
  · rw [h]
  · have hquiet : (Event.bootstrap e).carriesToken = false := by
      rcases he with rfl | rfl <;> rfl
    rw [h, pipelineOf_postEvent _ hquiet rfl]
    exact pipelineOf_bootstrap s rfl
  · rw [h]
    simp [pipelineOf, carried, EnginedState.postEvent, hreload, Event.carriesToken,
      Event.completion]
    omega

lemma effect_event {io : DispatchIO} {e : Event} {rest : List Event}
    (he : s.eventQueue = e :: rest) : effect s (.execute io) = eventEffect e := by
  simp [effect, he]

lemma effect_action {io : DispatchIO} {a : Action} {rest : List Action} (he : s.eventQueue = [])
    (ha : s.actionQueue = a :: rest) : effect s (.execute io) = actionEffect io s a := by
  simp [effect, he, ha]

lemma effect_drained {io : DispatchIO} (he : s.eventQueue = []) (ha : s.actionQueue = []) :
    effect s (.execute io) = .quiet := by
  simp [effect, he, ha]

lemma quiet_of_createEvent {msg : IpcMessage Payload} {e : Event} (h : createEvent msg = some e) :
    e.carriesToken = false ∧ e.completion = none := by
  rw [createEvent] at h
  split at h <;> cases h <;> exact ⟨rfl, rfl⟩

/-- **Every step of engined is a step of the pipeline.** -/
theorem pipelineOf_next {l : Label} (h : Tracked s) (hs : (engined file).next s l = some s') :
    pipeline.next (pipelineOf s) (effect s l) = some (pipelineOf s') := by
  show (pipelineOf s).step (effect s l) = some (pipelineOf s')
  cases step_of_next hs with
  | start io hphase => exact congrArg some (pipelineOf_bootstrap s (h.2 hphase).symm).symm
  | receive msg e hphase hmsg =>
      obtain ⟨hc, hi⟩ := quiet_of_createEvent hmsg
      exact congrArg some (pipelineOf_postEvent s hc hi).symm
  | ignore msg hphase hmsg => rfl
  | readConfig io => rfl
  | preflight io hphase hevents =>
      refine congrArg some ?_
      rw [ensureStorePreflighted]
      split <;> rfl
  | schedule io hphase => exact congrArg some (pipelineOf_schedule io s).symm
  | bootstrapEvent io e rest hphase hevents =>
      rw [effect_event hevents]
      exact congrArg some (step_bootstrapEvent io.now hevents).symm
  | commitEvent io e rest hphase hevents =>
      rw [effect_event hevents]
      exact step_commitEvent hevents
  | bootstrapAction io a rest hphase hevents hactions =>
      rw [effect_action hevents hactions]
      exact step_bootstrapAction io hactions
  | applyCommit io rest _ hphase hevents hactions hok =>
      rw [effect_action hevents hactions]
      exact step_applyCommit h.1 hactions hok
  | drained io hphase hevents hactions =>
      rw [effect_drained hevents hactions]
      rfl

lemma tracked_next {l : Label} (h : Tracked s) (hs : (engined file).next s l = some s') :
    Tracked s' := by
  refine ⟨h.1.step (pipelineOf_next h hs), fun hphase => ?_⟩
  obtain ⟨io, rfl⟩ := readConfig_of_starting (step_of_next hs) hphase
  exact h.2 hphase

lemma pipelineOf_fresh (h : Fresh s) : pipelineOf s = {} := by
  obtain ⟨tbl, dbReady, preflighted, rfl⟩ := h
  rfl

lemma tracked_fresh (h : Fresh s) : Tracked s := by
  refine ⟨pipelineOf_fresh h ▸ Pipeline.inv_init, fun _ => ?_⟩
  obtain ⟨tbl, dbReady, preflighted, rfl⟩ := h
  rfl

/-- A run of engined, seen as a run of the pipeline. -/
lemma pipelineOf_run {tr : List (EnginedState × Label)} (h0 : Fresh s)
    (h : (engined file).Run s tr s') :
    pipeline.Run {} (tr.map fun p => (pipelineOf p.1, effect p.1 p.2)) (pipelineOf s') := by
  rw [← pipelineOf_fresh h0]
  exact h.map pipelineOf effect (tracked_fresh h0) (fun _ _ _ => tracked_next)
    (fun _ _ _ => pipelineOf_next)

end Simulation

/-! ### No task lost -/

section Kept

variable {file : Option Json} {s s' : EnginedState} {tr : List (EnginedState × Label)}

/-- Every task ever enqueued is in the queue, or left it Done or Failed. -/
def NoTaskLost (s : EnginedState) : Prop :=
  (∀ id, 1 ≤ id → id < s.commitService.nextId →
    (∃ t ∈ s.commitService.queue, t.id = id) ∨ ∃ t ∈ s.history.removed, t.id = id) ∧
  ∀ t ∈ s.history.removed, t.status = .Done ∨ t.status = .Failed

/-- The step handles no completion while a task past the last five waits. -/
def SettlesKeeping (s : EnginedState) (l : Label) : Prop :=
  ∀ io e rest, l = .execute io → s.eventQueue = .commit e :: rest →
    e = .ReloadComplete ∨ e = .ReloadFailed → NoneWaitsEarly s.commitService.queue

lemma effect_eq_settle_iff {l : Label} : effect s l = .settle ↔ ∃ io e rest, l = .execute io ∧
    s.eventQueue = .commit e :: rest ∧ (e = .ReloadComplete ∨ e = .ReloadFailed) := by
  constructor
  · intro h
    cases l with
    | execute io =>
        cases he : s.eventQueue with
        | nil =>
            cases ha : s.actionQueue with
            | nil => rw [effect_drained he ha] at h; cases h
            | cons a rest =>
                rw [effect_action he ha] at h
                unfold actionEffect at h
                split at h
                · split at h <;> cases h
                · split at h <;> cases h
                · cases h
                · cases h
        | cons e rest =>
            rw [effect_event he] at h
            cases e with
            | bootstrap e => cases h
            | commit e =>
                refine ⟨io, e, rest, rfl, rfl, ?_⟩
                cases e with
                | ReceiveSettingsCommit payload =>
                    rw [eventEffect] at h
                    split at h <;> cases h
                | ReloadComplete => exact .inl rfl
                | ReloadFailed => exact .inr rfl
    | _ => cases h
  · rintro ⟨io, e, rest, rfl, he, rfl | rfl⟩ <;> rw [effect_event he] <;> rfl

lemma settlesKeeping_iff {l : Label} : SettlesKeeping s l ↔
    (effect s l = .settle → NoneWaitsEarly (pipelineOf s).queue) := by
  rw [effect_eq_settle_iff]
  constructor
  · rintro h ⟨io, e, rest, hl, he, hcompletion⟩
    exact h io e rest hl he hcompletion
  · intro h io e rest hl he hcompletion
    exact h ⟨io, e, rest, hl, he, hcompletion⟩

lemma isFinished_iff {status : TaskStatus} :
    status.isFinished = true ↔ status = .Done ∨ status = .Failed := by
  cases status <;> simp [TaskStatus.isFinished]

/-- Every id given out is in the queue or was removed. -/
lemma Pipeline.Ledger.exists_of_id {v : Pipeline} (h : v.Ledger) {id : ℕ} (hpos : 1 ≤ id)
    (hlt : id < v.nextId) : (∃ t ∈ v.queue, t.id = id) ∨ ∃ t ∈ v.removed, t.id = id := by
  have hmem : id ∈ (v.removed ++ v.queue).map Task.id := by
    rw [h.ids, List.mem_range'_1]
    omega
  obtain ⟨t, ht, hid⟩ := List.mem_map.mp hmem
  rcases List.mem_append.mp ht with ht | ht
  · exact .inr ⟨t, ht, hid⟩
  · exact .inl ⟨t, ht, hid⟩

/-- The token and what is owed hold along every run. -/
lemma inv_of_run (h0 : Fresh s) (h : (engined file).Run s tr s') :
    (pipelineOf s').Inv ∧ (pipelineOf s').Owed :=
  Pipeline.run_inv Pipeline.inv_init Pipeline.owed_init (pipelineOf_run h0 h)

/-- **No task lost**: in every run, every task ever enqueued is in the queue or
left it Done or Failed, exactly when no completion of the run was handled while
a task past the last five waited. -/
theorem task_kept_iff (h0 : Fresh s) (h : (engined file).Run s tr s') :
    NoTaskLost s' ↔ ∀ p ∈ tr, SettlesKeeping p.1 p.2 := by
  have hledger := (inv_of_run h0 h).1.toLedger
  have hpipe := Pipeline.removed_finished_iff (pipelineOf_run h0 h)
  have hlost : NoTaskLost s' ↔ (pipelineOf s').RemovedFinished := by
    have hids : ∀ id, 1 ≤ id → id < s'.commitService.nextId →
        (∃ t ∈ s'.commitService.queue, t.id = id) ∨ ∃ t ∈ s'.history.removed, t.id = id :=
      fun id hpos hlt => hledger.exists_of_id hpos hlt
    rw [NoTaskLost, and_iff_right hids]
    exact forall₂_congr fun t _ => isFinished_iff.symm
  rw [hlost, hpipe, List.forall_mem_map]
  exact forall₂_congr fun p _ => settlesKeeping_iff.symm

/-- Seven commits before the first reload ends. -/
def Sample.pileUp : List Label := List.flatten
  [[.start Sample.up, .receive (Sample.fromIpcd .ServerHello .malformed)],
    List.replicate 7 (.receive (Sample.commitRequest [Sample.change "site" [("sites", .arr [])]])),
    [.schedule (Sample.tick 0)], List.replicate 13 (.execute (Sample.dispatch 0)),
    [.schedule (Sample.tick 60000)], List.replicate 3 (.execute (Sample.dispatch 60000))]

lemma Sample.exec_pileUp : ((engined none).exec Sample.boot Sample.pileUp).map
    (fun t => t.history.removed.map fun t => (t.id, t.status))
      = some [(1, .Failed), (2, .Pending)] := by
  decide

/-- The second of seven commits leaves the queue while it waits. -/
theorem task_lost : ¬ ∀ s tr s', Fresh s → (engined none).Run s tr s' → NoTaskLost s' := by
  intro hall
  obtain ⟨s', hexec, hremoved⟩ := Option.map_eq_some_iff.mp Sample.exec_pileUp
  have hkept := (hall _ _ _ Sample.fresh_boot (Machine.exec_run hexec)).2
  have hmem : (2, TaskStatus.Pending) ∈ s'.history.removed.map fun t => (t.id, t.status) := by
    rw [hremoved]
    simp
  obtain ⟨t, ht, heq⟩ := List.mem_map.mp hmem
  rw [Prod.mk.injEq] at heq
  have hfinished := hkept t ht
  rw [heq.2] at hfinished
  simp at hfinished

/-- The law on that run: it holds of its end exactly if every step settled in
time. -/
theorem task_kept_iff_pileUp : ∃ s', (engined none).exec Sample.boot Sample.pileUp = some s' ∧
    (NoTaskLost s' ↔
      ∀ p ∈ (engined none).trace Sample.boot Sample.pileUp, SettlesKeeping p.1 p.2) := by
  obtain ⟨s', hexec, -⟩ := Option.map_eq_some_iff.mp Sample.exec_pileUp
  exact ⟨s', hexec, task_kept_iff Sample.fresh_boot (Machine.exec_run hexec)⟩

end Kept

/-! ### One answer a task -/

section Answered

variable {file : Option Json} {s s' : EnginedState} {tr : List (EnginedState × Label)}

/-- The responses to mgmtd among the frames sent. -/
def responses (s : EnginedState) : List (IpcMessage Payload) :=
  s.sent.filter fun m => m.header.cmd = .SettingsCommitResponse

/-- The responses sent are those the history attributes to a task, and all go to
mgmtd. -/
def Recorded (s : EnginedState) : Prop :=
  responses s = s.history.answered.map Prod.snd ∧ ∀ m ∈ responses s, m.header.dst = .Mgmtd

/-- Frames sent that are no responses. -/
lemma Recorded.of_sent {ms : List (IpcMessage Payload)} (h : Recorded s)
    (hsent : s'.sent = s.sent ++ ms) (hms : ∀ m ∈ ms, m.header.cmd ≠ .SettingsCommitResponse)
    (hanswered : s'.history.answered = s.history.answered) : Recorded s' := by
  have hnil : ms.filter (fun m => m.header.cmd = .SettingsCommitResponse) = [] := by
    rw [List.filter_eq_nil_iff]
    intro m hm
    simpa using hms m hm
  have hsame : responses s' = responses s := by
    rw [responses, hsent, List.filter_append, hnil, List.append_nil, responses]
  rw [Recorded, hsame, hanswered]
  exact h

lemma Recorded.queueOnly (h : Recorded s) (hq : QueueOnly s s') : Recorded s' := by
  obtain ⟨ms, hsent, hcmd⟩ := hq.sent
  refine h.of_sent hsent (fun m hm => ?_) hq.answered
  rw [hcmd m hm]
  simp

/-- The response sent while a task runs. -/
lemma Recorded.answerCommit (h : Recorded s) (hrun : ∃ t, runningTask s.commitService.queue = some t)
    (ok : Bool) : Recorded (answerCommit ok s) := by
  obtain ⟨t, ht⟩ := hrun
  have hresp : responses (Engined.answerCommit ok s) = responses s ++
      [buildSettingsCommitResponse ok s.bootstrapService.targetVersion] := by
    rw [responses, responses, Engined.answerCommit, EnginedState.transmit, List.filter_append]
    rfl
  rw [Recorded, hresp]
  refine ⟨?_, ?_⟩
  · rw [h.1]
    simp [Engined.answerCommit, ht]
  · intro m hm
    rcases List.mem_append.mp hm with hm | hm
    · exact h.2 m hm
    · rw [List.mem_singleton] at hm
      rw [hm]
      rfl

lemma recorded_bootstrapAction {a : BootstrapAction} (h : Recorded s)
    (hrun : (Action.bootstrap a).carriesToken = true ∨ s.bootstrapService.isReload = true →
      ∃ t, runningTask s.commitService.queue = some t) : Recorded (handleBootstrapAction s a) := by
  cases a with
  | SendClientHello =>
      rw [handleBootstrapAction]
      split
      · exact h.of_sent rfl (by simp [buildClientHelloMessage, IpcHeader.build]) rfl
      · exact h
  | SendSyncRequest =>
      rw [handleBootstrapAction]
      split
      · exact h.of_sent rfl (by simp [buildSyncRequestMessage, IpcHeader.build]) rfl
      · exact h
  | SendReloadFailed => exact h.answerCommit (hrun (.inl rfl)) false
  | SendRuntimeStart reloads =>
      have hbroadcast : Recorded (broadcastRuntimeStart s) :=
        h.of_sent rfl (by simp [buildRuntimeStartMessage, IpcHeader.build]) rfl
      simp only [handleBootstrapAction]
      split
      · next hreload =>
          have hidle : Recorded { broadcastRuntimeStart s with
              bootstrapService := { (broadcastRuntimeStart s).bootstrapService with
                isReload := false } } := hbroadcast
          exact hidle.answerCommit (hrun (.inr hreload)) true
      · exact hbroadcast

lemma recorded_next {l : Label} (ht : Tracked s) (h : Recorded s)
    (hs : (engined file).next s l = some s') : Recorded s' := by
  cases step_of_next hs with
  | start io hphase => exact h
  | receive msg e hphase hmsg => exact h
  | ignore msg hphase hmsg => exact h
  | readConfig io => exact h
  | preflight io hphase hevents =>
      rw [ensureStorePreflighted]
      split <;> exact h
  | schedule io hphase =>
      rcases schedule_cases io s with hc | ⟨_, _, _, e, hc, -⟩ | ⟨-, hc⟩ <;> rw [hc] <;> exact h
  | bootstrapEvent io e rest hphase hevents =>
      obtain ⟨-, hsent, -, hhistory⟩ :=
        bootstrapOnly_handleBootstrapEvent io.now { s with eventQueue := rest } e
      have hpop : Recorded { s with eventQueue := rest } := h
      refine hpop.of_sent (hsent.trans (List.append_nil _).symm) (by simp) ?_
      rw [hhistory]
  | commitEvent io e rest hphase hevents =>
      have hpop : Recorded { s with eventQueue := rest } := h
      exact hpop.queueOnly (queueOnly_handleCommitEvent _ e)
  | bootstrapAction io a rest hphase hevents hactions =>
      have hpop : Recorded { s with actionQueue := rest } := h
      refine recorded_bootstrapAction hpop fun htoken => ?_
      have hcarried : 0 < carried s := by
        rw [carried, hactions, List.countP_cons]
        rcases htoken with hc | hc
        · simp only [hc, if_true]
          omega
        · have hc' : s.bootstrapService.isReload = true := hc
          simp only [hc', Bool.toNat_true]
          omega
      obtain ⟨t, -, -, hfind⟩ := ht.1.exists_running (by show 0 < carried s + _; omega)
      exact ⟨t, hfind⟩
  | applyCommit io rest _ hphase hevents hactions hok =>
      have hpop : Recorded { s with actionQueue := rest } := h
      rcases applyCommit_cases hok with ⟨-, rfl⟩ | ⟨_, -, -, config, rfl, -⟩ |
        ⟨_, changes, -, -, -, rfl⟩
      · exact hpop
      · have hconfig : Recorded { s with actionQueue := rest, config } := h
        exact hconfig.queueOnly (queueOnly_failTask _)
      · refine hpop.of_sent rfl (fun m hm => ?_) rfl
        obtain ⟨d, -, rfl⟩ := List.mem_map.mp hm
        simp [configApply]
  | drained io hphase hevents hactions => exact h

/-- Exactly one response was sent to mgmtd for the task, and read by mgmtd it
ends the reload as the task ended. -/
def TerminalAnswer (s : EnginedState) (t : Task) : Prop :=
  ∃ msg, (s.history.answered.filter fun a => a.1 = t.id) = [(t.id, msg)] ∧
    msg ∈ s.sent ∧ msg.header.dst = .Mgmtd ∧ msg.header.cmd = .SettingsCommitResponse ∧
    responseOk msg = decide (t.status = .Done) ∧
    ∀ m : MgmtdState, (onSettingsCommitResponse msg m).reloadStatus
      = if t.status = .Done then .Complete else .Failed

/-- The step dispatches no `ApplyCommit` that fails an early check. -/
def CommitsGoThrough (s : EnginedState) (l : Label) : Prop :=
  ∀ io rest, l = .execute io → s.eventQueue = [] → s.actionQueue = .ApplyCommit :: rest →
    goesThrough io s = true

lemma effect_eq_refuse_iff {l : Label} : effect s l = .refuse ↔ ∃ io rest, l = .execute io ∧
    s.eventQueue = [] ∧ s.actionQueue = .ApplyCommit :: rest ∧ goesThrough io s = false := by
  constructor
  · intro h
    cases l with
    | execute io =>
        cases he : s.eventQueue with
        | nil =>
            cases ha : s.actionQueue with
            | nil => rw [effect_drained he ha] at h; cases h
            | cons a rest =>
                rw [effect_action he ha] at h
                unfold actionEffect at h
                split at h
                · refine ⟨io, rest, rfl, rfl, rfl, ?_⟩
                  split at h
                  · cases h
                  · next hgoes => exact Bool.eq_false_iff.mpr hgoes
                · split at h <;> cases h
                · cases h
                · cases h
        | cons e rest =>
            rw [effect_event he] at h
            unfold eventEffect at h
            split at h
            · split at h <;> cases h
            · cases h
            · cases h
            · cases h
    | _ => cases h
  · rintro ⟨io, rest, rfl, he, ha, hgoes⟩
    rw [effect_action he ha, actionEffect, if_neg (by simp [hgoes])]

lemma commitsGoThrough_iff {l : Label} : CommitsGoThrough s l ↔ effect s l ≠ .refuse := by
  rw [ne_eq, effect_eq_refuse_iff]
  constructor
  · rintro h ⟨io, rest, hl, he, ha, hgoes⟩
    rw [h io rest hl he ha] at hgoes
    cases hgoes
  · intro h io rest hl he ha
    by_contra hgoes
    exact h ⟨io, rest, hl, he, ha, Bool.eq_false_iff.mpr hgoes⟩

/-- What mgmtd makes of a response. -/
lemma reloadStatus_onSettingsCommitResponse (msg : IpcMessage Payload) (m : MgmtdState) :
    (onSettingsCommitResponse msg m).reloadStatus
      = if responseOk msg then .Complete else .Failed := by
  rw [onSettingsCommitResponse]
  split <;> rfl

lemma terminalAnswer_iff (h : Recorded s) {t : Task} (ht : t.status = .Done ∨ t.status = .Failed) :
    TerminalAnswer s t ↔ (pipelineOf s).AnsweredOnce t := by
  constructor
  · rintro ⟨msg, hmsg, -, -, -, hok, -⟩
    refine ⟨msg, hmsg, ?_⟩
    rcases ht with ht | ht <;> rw [hok, ht] <;> rfl
  · rintro ⟨msg, hmsg, hstatus⟩
    have hmem : msg ∈ responses s := by
      rw [h.1, List.mem_map]
      refine ⟨(t.id, msg), ?_, rfl⟩
      have : (t.id, msg) ∈ (pipelineOf s).answers t.id := by
        rw [hmsg]
        exact List.mem_singleton_self _
      exact (List.mem_filter.mp this).1
    obtain ⟨hsent, hcmd⟩ := List.mem_filter.mp hmem
    have hok : responseOk msg = decide (t.status = .Done) := by
      rw [← hstatus]
      cases responseOk msg <;> rfl
    refine ⟨msg, hmsg, hsent, h.2 msg hmem, by simpa using hcmd, hok, fun m => ?_⟩
    rw [reloadStatus_onSettingsCommitResponse, hok]
    simp

/-- **One answer a task**: in every run the responses sent are those to some
task, and every task that came to its end was answered exactly once, and as it
ended, exactly when every `ApplyCommit` of the run passed its early checks. -/
theorem answered_once_iff (h0 : Fresh s) (h : (engined file).Run s tr s') :
    responses s' = s'.history.answered.map Prod.snd ∧
    ((∀ t ∈ s'.history.removed ++ s'.commitService.queue,
        t.status = .Done ∨ t.status = .Failed → TerminalAnswer s' t) ↔
      ∀ p ∈ tr, CommitsGoThrough p.1 p.2) := by
  have hrecorded : Recorded s' := by
    have hinit : Tracked s ∧ Recorded s := by
      refine ⟨tracked_fresh h0, ?_⟩
      obtain ⟨tbl, dbReady, preflighted, rfl⟩ := h0
      exact ⟨rfl, by simp [responses]⟩
    have hrun := h.invariant (I := fun s => Tracked s ∧ Recorded s) hinit
      fun _ _ _ hI hs => ⟨tracked_next hI.1 hs, recorded_next hI.1 hI.2 hs⟩
    exact hrun.2
  have hledger := (inv_of_run h0 h).1.toLedger
  have hpipe := Pipeline.answered_iff (pipelineOf_run h0 h)
  refine ⟨hrecorded.1, ?_⟩
  have htasks : (∀ t ∈ s'.history.removed ++ s'.commitService.queue,
      t.status = .Done ∨ t.status = .Failed → TerminalAnswer s' t) ↔
      ∀ t ∈ (pipelineOf s').finished, (pipelineOf s').AnsweredOnce t := by
    constructor
    · intro hall t ht
      obtain ⟨hmem, hfin⟩ := (hledger.finished t).mp ht
      have hfin' := isFinished_iff.mp hfin
      exact (terminalAnswer_iff hrecorded hfin').mp (hall t hmem hfin')
    · intro hall t hmem hfin
      refine (terminalAnswer_iff hrecorded hfin).mpr (hall t ?_)
      exact (hledger.finished t).mpr ⟨hmem, isFinished_iff.mpr hfin⟩
  rw [htasks, hpipe, List.forall_mem_map]
  exact forall₂_congr fun p _ => commitsGoThrough_iff.symm

/-- A commit the database does not begin. -/
def Sample.refusedCommit : List Label :=
  [.start Sample.up, .receive (Sample.commitRequest [Sample.change "site" [("sites", .arr [])]]),
    .schedule (Sample.tick 0), .execute (Sample.dispatch 0), .execute (Sample.dispatch 0),
    .execute { Sample.dispatch 0 with commit := ⟨true, false, true, true, true⟩ }]

lemma Sample.exec_refusedCommit : ((engined none).exec Sample.boot Sample.refusedCommit).map
    (fun s => (s.commitService.queue.map (fun t => (t.id, t.status)), s.history.answered))
      = some ([(1, .Failed)], []) := by
  decide

/-- The task fails, and mgmtd is not told. -/
theorem refused_commit_unanswered : ¬ ∀ s tr s', Fresh s → (engined none).Run s tr s' →
    ∀ t ∈ s'.history.removed ++ s'.commitService.queue,
      t.status = .Done ∨ t.status = .Failed → TerminalAnswer s' t := by
  intro hall
  obtain ⟨s', hexec, hend⟩ := Option.map_eq_some_iff.mp Sample.exec_refusedCommit
  rw [Prod.mk.injEq] at hend
  have hmem : (1, TaskStatus.Failed) ∈ s'.commitService.queue.map fun t => (t.id, t.status) := by
    rw [hend.1]
    exact List.mem_singleton_self _
  obtain ⟨t, ht, heq⟩ := List.mem_map.mp hmem
  rw [Prod.mk.injEq] at heq
  obtain ⟨msg, hmsg, -⟩ := hall _ _ _ Sample.fresh_boot (Machine.exec_run hexec) t
    (List.mem_append_right _ ht) (.inr heq.2)
  rw [hend.2] at hmsg
  cases hmsg

/-- The law on that run. -/
theorem answered_once_iff_refusedCommit :
    ∃ s', (engined none).exec Sample.boot Sample.refusedCommit = some s' ∧
      responses s' = s'.history.answered.map Prod.snd ∧
      ((∀ t ∈ s'.history.removed ++ s'.commitService.queue,
          t.status = .Done ∨ t.status = .Failed → TerminalAnswer s' t) ↔
        ∀ p ∈ (engined none).trace Sample.boot Sample.refusedCommit,
          CommitsGoThrough p.1 p.2) := by
  obtain ⟨s', hexec, -⟩ := Option.map_eq_some_iff.mp Sample.exec_refusedCommit
  exact ⟨s', hexec, answered_once_iff Sample.fresh_boot (Machine.exec_run hexec)⟩

end Answered

end Pretzel.Engined
