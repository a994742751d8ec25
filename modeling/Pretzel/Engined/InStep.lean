import Pretzel.Engined.CommitQueue

/-!
Commit and reload in step: what the queue and the reload of engined agree on
between two ticks' work.

* `Busy`: while a task is Pending, one is Running.
* `due`: the completions a reload that was scheduled still owes; `raises` and
  `delivers`, the steps that put one up and take one down.
* `commit_and_reload_in_step`: with both queues empty, at most one task runs, one
  does if any waits, and one does exactly during a reload; and between two reloads
  exactly one completion is delivered.
-/

namespace Pretzel.Engined

open Nlohmann Ipc Config Reactive

/-! ### A queue that does not idle -/

namespace Pipeline

/-- While a task is Pending, one is Running. -/
def Busy (v : Pipeline) : Prop :=
  (∃ t ∈ v.queue, t.status = .Pending) → 0 < runningCount v.queue

/-- The loop finds no Pending task where there is none. -/
lemma runFirstPending_eq_none {queue : List Task} (h : runFirstPending queue = none) :
    ∀ t ∈ queue, t.status ≠ .Pending := by
  induction queue with
  | nil => exact fun t ht => absurd ht List.not_mem_nil
  | cons t q ih =>
      rw [runFirstPending] at h
      split at h
      · cases h
      · next hpending =>
          rw [Option.map_eq_none_iff] at h
          exact List.forall_mem_cons.mpr ⟨hpending, ih h⟩

/-- After `startNext` the queue does not idle. -/
lemma busy_start (v : Pipeline) : Busy (start v) := by
  rw [Pipeline.start]
  cases hq : runFirstPending v.queue with
  | none =>
      rintro ⟨t, ht, hpending⟩
      exact absurd hpending (runFirstPending_eq_none hq t ht)
  | some queue =>
      obtain ⟨pre, t, post, -, -, rfl⟩ := runFirstPending_eq_some hq
      exact fun _ => List.countP_pos_iff.mpr
        ⟨_, List.mem_append_right _ List.mem_cons_self, by simp⟩

lemma Busy.step {v v' : Pipeline} (h : Busy v) {e : Effect} (hstep : v.step e = some v') :
    Busy v' := by
  cases e with
  | quiet =>
      cases hstep
      exact h
  | enqueue payload =>
      cases hstep
      split
      · exact busy_start _
      · next hrunning =>
          intro _
          have hpos : 0 < runningCount v.queue := Nat.pos_of_ne_zero hrunning
          simp only [push, runningCount, List.countP_append] at hpos ⊢
          omega
  | answer msg =>
      rw [Pipeline.step] at hstep
      split at hstep
      · cases hstep
        exact h
      · cases hstep
  | refuse =>
      rw [Pipeline.step] at hstep
      split at hstep
      · cases hstep
        exact busy_start _
      · cases hstep
  | settle =>
      rw [Pipeline.step] at hstep
      split at hstep
      · cases hstep
      · cases hstep
        exact busy_start _

lemma busy_run {v : Pipeline} {tr : List (Pipeline × Effect)} (h : pipeline.Run {} tr v) :
    Busy v := by
  refine h.invariant (I := Busy) ?_ fun _ _ _ hbusy hstep => hbusy.step hstep
  rintro ⟨t, ht, -⟩
  cases ht

end Pipeline

/-! ### What a reload owes -/

/-- An event on the way to the completion of a reload. -/
def Event.completes (e : Event) : Bool := e.carriesToken || e.completion.isSome

/-- The action on the way to it. -/
def Action.completes : Action → Bool
  | .bootstrap .SendReloadFailed => true
  | _ => false

/-- The completions still to be delivered. -/
def due (s : EnginedState) : ℕ :=
  s.bootstrapService.isReload.toNat + s.eventQueue.countP (fun e => e.completes) +
    s.actionQueue.countP (fun a => a.completes)

/-- A step that sets `m_isReload`. -/
def raises (file : Option Json) (p : EnginedState × Label) : Bool :=
  match (engined file).next p.1 p.2 with
  | none => false
  | some s' => !p.1.bootstrapService.isReload && s'.bootstrapService.isReload

/-- A step that delivers `ReloadComplete` or `ReloadFailed` to the commit service. -/
def delivers (p : EnginedState × Label) : Bool :=
  match p.2, p.1.eventQueue with
  | .execute _, e :: _ => e.completion.isSome
  | _, _ => false

section Steps

variable {file : Option Json} {s s' : EnginedState}

lemma raises_of_next {l : Label} (h : (engined file).next s l = some s') :
    raises file (s, l) = (!s.bootstrapService.isReload && s'.bootstrapService.isReload) := by
  rw [raises, h]

lemma due_postEvent (s : EnginedState) (e : Event) :
    due (s.postEvent e) = due s + e.completes.toNat := by
  cases he : e.completes <;> simp [due, EnginedState.postEvent, he]
  omega

lemma due_postAction (s : EnginedState) (a : Action) :
    due (s.postAction a) = due s + a.completes.toNat := by
  cases ha : a.completes <;> simp [due, EnginedState.postAction, ha]
  omega

lemma due_popEvent {e : Event} {rest : List Event} (h : s.eventQueue = e :: rest) :
    due s = due { s with eventQueue := rest } + e.completes.toNat := by
  cases he : e.completes <;> simp [due, h, he]
  omega

lemma due_popAction {a : Action} {rest : List Action} (h : s.actionQueue = a :: rest) :
    due s = due { s with actionQueue := rest } + a.completes.toNat := by
  cases ha : a.completes <;> simp [due, h, ha]
  omega

/-- The operations on the queue owe nothing and pay nothing. -/
lemma QueueOnly.due_eq (h : QueueOnly s s') : due s' = due s := by
  obtain ⟨n, hn⟩ := h.actionQueue
  rw [due, due, h.bootstrapService, h.eventQueue, hn, List.countP_append]
  simp [Action.completes]

/-- The bootstrap service may change as it likes, but for the reload. -/
lemma due_bootstrap {b : BootstrapService} (s : EnginedState)
    (h : b.isReload = s.bootstrapService.isReload) : due { s with bootstrapService := b } = due s := by
  rw [due, due, h]

/-- A bootstrap event leaves what is due and the reload as they are: the event of
the timeout turns into its action. -/
lemma due_handleBootstrapEvent (now : ℕ) (s : EnginedState) (e : BootstrapEvent) :
    due (handleBootstrapEvent now s e) = due s + (Event.bootstrap e).completes.toNat ∧
      (handleBootstrapEvent now s e).bootstrapService.isReload = s.bootstrapService.isReload := by
  cases e with
  | ReceiveServerHello =>
      rw [handleBootstrapEvent, onServerHello]
      split
      · exact ⟨(due_postAction _ _).trans (due_bootstrap s rfl), rfl⟩
      · exact ⟨rfl, rfl⟩
  | ReceiveSyncResponse payload =>
      simp only [handleBootstrapEvent, onSyncResponse]
      split
      · split
        · exact ⟨(due_postAction _ _).trans (due_bootstrap s rfl), rfl⟩
        · exact ⟨due_bootstrap s rfl, rfl⟩
      · exact ⟨rfl, rfl⟩
  | ReceiveRuntimeStart => exact ⟨rfl, rfl⟩
  | SendClientHello => exact ⟨due_postAction s _, rfl⟩
  | SendSyncRequest => exact ⟨due_postAction s _, rfl⟩
  | SendRuntimeStart => exact ⟨due_postAction s _, rfl⟩
  | ReloadFailed => exact ⟨due_postAction s _, rfl⟩

/-- A bootstrap action leaves what is due as it is: where it ends the reload, it
posts the completion. -/
lemma due_handleBootstrapAction (s : EnginedState) (a : BootstrapAction) :
    due (handleBootstrapAction s a) = due s + (Action.bootstrap a).completes.toNat ∧
      ((handleBootstrapAction s a).bootstrapService.isReload = true →
        s.bootstrapService.isReload = true) := by
  cases a with
  | SendClientHello =>
      rw [handleBootstrapAction]
      split <;> exact ⟨rfl, id⟩
  | SendSyncRequest =>
      rw [handleBootstrapAction]
      split <;> exact ⟨rfl, id⟩
  | SendReloadFailed => exact ⟨due_postEvent (answerCommit false s) _, id⟩
  | SendRuntimeStart reloads =>
      rw [handleBootstrapAction]
      split
      · next hreload =>
          have hreload' : s.bootstrapService.isReload = true := hreload
          refine ⟨?_, fun _ => hreload'⟩
          rw [completeReload, due_postEvent]
          simp [due, answerCommit, EnginedState.transmit, broadcastRuntimeStart, hreload',
            Event.completes, Event.completion, Event.carriesToken, Action.completes]
          omega
      · exact ⟨due_bootstrap s rfl, id⟩

/-- A timeout turns the reload into its event. -/
lemma due_schedule (io : ScheduleIO) (s : EnginedState) : due (schedule io s) = due s ∧
    ((schedule io s).bootstrapService.isReload = true → s.bootstrapService.isReload = true) := by
  rcases schedule_cases io s with h | ⟨state, helloAt, syncAt, e, h, he⟩ | ⟨hreload, h⟩
  · rw [h]
    exact ⟨rfl, id⟩
  · have hquiet : (Event.bootstrap e).completes = false := by
      rcases he with rfl | rfl <;> rfl
    rw [h]
    refine ⟨?_, id⟩
    rw [due_postEvent, hquiet]
    exact due_bootstrap s rfl
  · rw [h]
    refine ⟨?_, fun h => by cases h⟩
    rw [due_postEvent]
    simp [due, hreload, Event.completes, Event.carriesToken]
    omega

/-- A step that leaves a reload unset, or as it was, sets none. -/
lemma not_raises {l : Label} (h : (engined file).next s l = some s')
    (hkept : s'.bootstrapService.isReload = true → s.bootstrapService.isReload = true) :
    raises file (s, l) = false := by
  rw [raises_of_next h]
  cases hs : s.bootstrapService.isReload with
  | true => rfl
  | false =>
      rw [Bool.not_false, Bool.true_and]
      by_contra hset
      rw [Bool.not_eq_false] at hset
      rw [hkept hset] at hs
      cases hs

/-- **One step**: what is due grows by a reload that is set and falls by a
completion that is delivered. -/
lemma due_next {l : Label} (ht : Tracked s) (h : (engined file).next s l = some s') :
    due s' + (delivers (s, l)).toNat = due s + (raises file (s, l)).toNat := by
  have hquiet : (s'.bootstrapService.isReload = true → s.bootstrapService.isReload = true) →
      delivers (s, l) = false → due s' = due s →
      due s' + (delivers (s, l)).toNat = due s + (raises file (s, l)).toNat := by
    intro hkept hdelivers hdue
    rw [not_raises h hkept, hdelivers, hdue]
  cases step_of_next h with
  | start io hphase =>
      refine hquiet (fun h => by cases h) rfl ?_
      exact due_bootstrap s (ht.2 hphase).symm
  | receive msg e hphase hmsg =>
      obtain ⟨hc, hi⟩ := quiet_of_createEvent hmsg
      refine hquiet id rfl ?_
      rw [due_postEvent, Event.completes, hc, hi]
      rfl
  | ignore msg hphase hmsg => exact hquiet id rfl rfl
  | readConfig io => exact hquiet id rfl rfl
  | preflight io hphase hevents =>
      refine hquiet ?_ rfl ?_
      · rw [ensureStorePreflighted]
        split <;> exact id
      · rw [ensureStorePreflighted]
        split <;> rfl
  | schedule io hphase =>
      obtain ⟨hdue, hkept⟩ := due_schedule io s
      exact hquiet hkept rfl hdue
  | bootstrapEvent io e rest hphase hevents =>
      obtain ⟨hdue, hkept⟩ := due_handleBootstrapEvent io.now { s with eventQueue := rest } e
      have hdelivers : delivers (s, .execute io) = false := by
        rw [delivers]
        simp [hevents, Event.completion]
      refine hquiet (fun h => hkept ▸ h) hdelivers ?_
      rw [hdue, ← due_popEvent hevents]
  | commitEvent io e rest hphase hevents =>
      have hqueue := queueOnly_handleCommitEvent { s with eventQueue := rest } e
      have hkept : (handleCommitEvent { s with eventQueue := rest } e).bootstrapService
          = s.bootstrapService := hqueue.bootstrapService
      have hdelivers : delivers (s, .execute io) = (Event.commit e).completes := by
        rw [delivers]
        simp [hevents, Event.completes, Event.carriesToken]
      rw [not_raises h (by rw [hkept]; exact id), hdelivers, hqueue.due_eq, due_popEvent hevents]
      rfl
  | bootstrapAction io a rest hphase hevents hactions =>
      obtain ⟨hdue, hkept⟩ := due_handleBootstrapAction { s with actionQueue := rest } a
      have hdelivers : delivers (s, .execute io) = false := by
        rw [delivers]
        simp [hevents]
      refine hquiet hkept hdelivers ?_
      rw [hdue, ← due_popAction hactions]
  | applyCommit io rest _ hphase hevents hactions hok =>
      have hdelivers : delivers (s, .execute io) = false := by
        rw [delivers]
        simp [hevents]
      have hpop : due { s with actionQueue := rest } = due s := (due_popAction hactions).symm
      rcases applyCommit_cases hok with ⟨-, rfl⟩ | ⟨running, -, -, config, rfl, -⟩ |
        ⟨running, changes, -, -, -, rfl⟩
      · exact hquiet id hdelivers hpop
      · have hqueue := queueOnly_failTask { s with actionQueue := rest, config }
        refine hquiet (fun h => hqueue.bootstrapService ▸ h) hdelivers ?_
        rw [hqueue.due_eq]
        exact hpop
      · rw [hdelivers, raises_of_next h]
        cases hs : s.bootstrapService.isReload <;>
          simp [due, announceCommit, scheduleServiceReload, committedState, hs, hactions,
            Action.completes]
        omega
  | drained io hphase hevents hactions =>
      refine hquiet id ?_ rfl
      rw [delivers]
      simp [hevents]

/-! ### The token and what is due -/

/-- The events on the way to a completion hold the token, or are it. -/
lemma countP_completes (events : List Event) :
    events.countP (fun e => e.completes) = events.countP (fun e => e.carriesToken) +
      (events.filterMap fun e => e.completion).length := by
  induction events with
  | nil => rfl
  | cons e events ih =>
      have hone : (e.completes).toNat = (e.carriesToken).toNat + (e.completion).toList.length := by
        cases e with
        | bootstrap e => cases e <;> rfl
        | commit e => cases e <;> rfl
      rw [List.countP_cons, List.countP_cons, List.filterMap_cons, ih]
      cases hc : e.completion with
      | none =>
          rw [hc] at hone
          cases h₁ : e.completes <;> cases h₂ : e.carriesToken <;> simp_all
          omega
      | some ok =>
          rw [hc] at hone
          cases h₁ : e.completes <;> cases h₂ : e.carriesToken <;> simp_all
          omega

/-- The token is with an `ApplyCommit`, or what it leads to is due. -/
lemma due_add_applies (s : EnginedState) :
    due s + s.actionQueue.countP (fun a => a = .ApplyCommit) =
      carried s + (pipelineOf s).inflight.length := by
  have hactions : s.actionQueue.countP (fun a => a.carriesToken) =
      s.actionQueue.countP (fun a => a.completes) +
        s.actionQueue.countP (fun a => a = .ApplyCommit) := by
    induction s.actionQueue with
    | nil => rfl
    | cons a actions ih =>
        rw [List.countP_cons, List.countP_cons, List.countP_cons, ih]
        cases a with
        | ApplyCommit => simp [Action.carriesToken, Action.completes]; omega
        | bootstrap a =>
            cases a <;> simp [Action.carriesToken, Action.completes]
            omega
  have hinflight : (pipelineOf s).inflight = s.eventQueue.filterMap fun e => e.completion := rfl
  rw [due, carried, countP_completes, hactions, hinflight]
  omega

/-- Only an `ApplyCommit` sets the reload. -/
lemma applyCommit_of_raises {l : Label} (h : (engined file).next s l = some s')
    (hraises : raises file (s, l) = true) : ∃ io rest, l = .execute io ∧ s.eventQueue = [] ∧
      s.actionQueue = .ApplyCommit :: rest := by
  have hno : (s'.bootstrapService.isReload = true → s.bootstrapService.isReload = true) → False := by
    intro hkept
    rw [not_raises h hkept] at hraises
    cases hraises
  cases step_of_next h with
  | start io hphase => exact (hno fun h => by cases h).elim
  | receive msg e hphase hmsg => exact (hno id).elim
  | ignore msg hphase hmsg => exact (hno id).elim
  | readConfig io => exact (hno id).elim
  | preflight io hphase hevents =>
      refine (hno ?_).elim
      rw [ensureStorePreflighted]
      split <;> exact id
  | schedule io hphase => exact (hno (due_schedule io s).2).elim
  | bootstrapEvent io e rest hphase hevents =>
      have hkept := (due_handleBootstrapEvent io.now { s with eventQueue := rest } e).2
      exact (hno fun h => hkept ▸ h).elim
  | commitEvent io e rest hphase hevents =>
      have hqueue := queueOnly_handleCommitEvent { s with eventQueue := rest } e
      exact (hno fun h => hqueue.bootstrapService ▸ h).elim
  | bootstrapAction io a rest hphase hevents hactions =>
      exact (hno (due_handleBootstrapAction { s with actionQueue := rest } a).2).elim
  | applyCommit io rest _ hphase hevents hactions hok => exact ⟨io, rest, rfl, hevents, hactions⟩
  | drained io hphase hevents hactions => exact (hno id).elim

/-- A step that sets the reload finds nothing due: its task has the token. -/
lemma due_of_raises {l : Label} (ht : Tracked s) (h : (engined file).next s l = some s')
    (hraises : raises file (s, l) = true) : due s = 0 ∧ delivers (s, l) = false := by
  obtain ⟨io, rest, rfl, hevents, hactions⟩ := applyCommit_of_raises h hraises
  have htoken : runningCount s.commitService.queue = carried s + (pipelineOf s).inflight.length :=
    ht.1.token
  have hsingle : runningCount s.commitService.queue ≤ 1 := ht.1.single
  have hdue := due_add_applies s
  have happlies : 0 < s.actionQueue.countP fun a => a = .ApplyCommit := by
    rw [hactions]
    simp
  refine ⟨by omega, ?_⟩
  rw [delivers]
  simp [hevents]

end Steps

/-! ### The runs -/

section Runs

variable {file : Option Json} {s s' : EnginedState} {tr : List (EnginedState × Label)}

/-- What the queue and the reload agree on. -/
structure InStep (s : EnginedState) : Prop where
  single : runningCount s.commitService.queue ≤ 1
  busy : (∃ t ∈ s.commitService.queue, t.status = .Pending) →
    ∃ t ∈ s.commitService.queue, t.status = .Running
  reload : (∃ t ∈ s.commitService.queue, t.status = .Running) ↔
    s.bootstrapService.isReload = true

lemma tracked_run (h0 : Fresh s) (h : (engined file).Run s tr s') : Tracked s' :=
  h.invariant (I := Tracked) (tracked_fresh h0) fun _ _ _ ht hstep => tracked_next ht hstep

lemma exists_running_iff {queue : List Task} :
    (∃ t ∈ queue, t.status = .Running) ↔ 0 < runningCount queue := by
  rw [runningCount, List.countP_pos_iff]
  simp

/-- **Commit and reload stay in step**: whenever both queues of engined are empty,
at most one task runs, one does if any waits, and one does exactly during a reload;
and between one reload and the next exactly one completion is delivered. -/
theorem commit_and_reload_in_step (h0 : Fresh s) (h : (engined file).Run s tr s') :
    (s'.eventQueue = [] → s'.actionQueue = [] → InStep s') ∧
    ∀ before p between q after, tr = before ++ p :: (between ++ q :: after) →
      raises file p = true → raises file q = true → (∀ r ∈ between, raises file r = false) →
        between.countP delivers = 1 := by
  refine ⟨fun hevents hactions => ?_, ?_⟩
  · obtain ⟨hinv, -⟩ := tracked_run h0 h
    have hbusy := Pipeline.busy_run (pipelineOf_run h0 h)
    have htoken : runningCount s'.commitService.queue =
        carried s' + (pipelineOf s').inflight.length := hinv.token
    have hreload : runningCount s'.commitService.queue = s'.bootstrapService.isReload.toNat := by
      calc runningCount s'.commitService.queue
          = carried s' + (pipelineOf s').inflight.length := htoken
        _ = s'.bootstrapService.isReload.toNat := by
            simp [carried, pipelineOf, hevents, hactions]
    refine ⟨hinv.single, fun hpending => exists_running_iff.mpr (hbusy hpending), ?_⟩
    rw [exists_running_iff, hreload]
    cases s'.bootstrapService.isReload <;> simp
  · rintro before p between q after rfl hp hq hnone
    exact h.alternate (I := Tracked) (tracked_fresh h0)
      (fun _ _ _ ht hstep => tracked_next ht hstep) (fun _ _ _ ht hstep => due_next ht hstep)
      (fun _ _ _ ht hstep hraises => due_of_raises ht hstep hraises) hp hq hnone

/-- Seven commits, the first of which times out, and the next one applied. -/
def Sample.twoReloads : List Label :=
  Sample.pileUp ++ [.execute (Sample.dispatch 60000)]

lemma Sample.exec_twoReloads :
    ((engined none).exec Sample.boot Sample.twoReloads).map
      (fun t => (t.eventQueue.isEmpty && t.actionQueue.isEmpty,
        t.commitService.queue.map fun t => (t.id, t.status))) = some (true,
          [(3, .Running), (4, .Pending), (5, .Pending), (6, .Pending), (7, .Pending)]) ∧
    ((engined none).trace Sample.boot Sample.twoReloads).countP (raises none) = 2 := by
  decide

/-- The law on that run, which sets the reload twice. -/
theorem commit_and_reload_in_step_twoReloads : ∃ t,
    (engined none).exec Sample.boot Sample.twoReloads = some t ∧ InStep t ∧
    ((engined none).trace Sample.boot Sample.twoReloads).countP (raises none) = 2 ∧
    ∀ before p between q after,
      (engined none).trace Sample.boot Sample.twoReloads = before ++ p :: (between ++ q :: after) →
      raises none p = true → raises none q = true → (∀ r ∈ between, raises none r = false) →
        between.countP delivers = 1 := by
  obtain ⟨hend, hraised⟩ := Sample.exec_twoReloads
  obtain ⟨t, hexec, ht⟩ := Option.map_eq_some_iff.mp hend
  obtain ⟨hempty, -⟩ := Prod.mk.inj ht
  rw [Bool.and_eq_true, List.isEmpty_iff, List.isEmpty_iff] at hempty
  obtain ⟨hquiet, hbetween⟩ := commit_and_reload_in_step Sample.fresh_boot (Machine.exec_run hexec)
  exact ⟨t, hexec, hquiet hempty.1 hempty.2, hraised, hbetween⟩

end Runs

end Pretzel.Engined
