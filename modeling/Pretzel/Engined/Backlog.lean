import Pretzel.Engined.CommitQueue

/-!
The commits engined has received and not yet applied.

* `unapplied`, `backlog`: the payloads of the tasks that wait, of the running
  one while its `ApplyCommit` is queued, and of the events behind them, in the
  order they arrived in.
* `backlog_next`: a step that does not commit leaves the table alone and drops
  payloads at most; a step that commits takes the running task's payload out.
-/

namespace Pretzel.Engined

open Nlohmann Ipc Config Reactive

/-- A task whose payload has not been applied, given whether an `ApplyCommit` is
queued. -/
def isUnapplied (queued : Bool) (t : Task) : Bool :=
  decide (t.status = .Pending) || (queued && decide (t.status = .Running))

/-- The payloads of a queue that have not been applied. -/
def unapplied (queued : Bool) (queue : List Task) : List Payload :=
  (queue.filter fun t => isUnapplied queued t).map Task.payload

/-- The payload of a commit on its way to the queue. -/
def arrival : Event → Option Payload
  | .commit (.ReceiveSettingsCommit payload) => some payload
  | _ => none

/-- Whether an `ApplyCommit` is queued. -/
def applyQueued (s : EnginedState) : Bool := decide (Action.ApplyCommit ∈ s.actionQueue)

/-- The commits received and not yet applied. -/
def backlog (s : EnginedState) : List Payload :=
  unapplied (applyQueued s) s.commitService.queue ++ s.eventQueue.filterMap arrival

/-! ### The queue -/

lemma unapplied_append (queued : Bool) (q q' : List Task) :
    unapplied queued (q ++ q') = unapplied queued q ++ unapplied queued q' := by
  rw [unapplied, List.filter_append, List.map_append]
  rfl

/-- With no task running it does not matter whether an `ApplyCommit` is queued. -/
lemma unapplied_of_idle {queue : List Task} (h : runningCount queue = 0) (queued : Bool) :
    unapplied queued queue = unapplied true queue := by
  rw [unapplied, unapplied]
  congr 1
  refine List.filter_congr fun t ht => ?_
  have hne : t.status ≠ .Running := by simpa using List.countP_eq_zero.mp h t ht
  simp [isUnapplied, hne]

lemma unapplied_sublist (queued : Bool) (queue : List Task) :
    (unapplied queued queue).Sublist (unapplied true queue) := by
  refine List.Sublist.map _ (List.monotone_filter_right queue fun t ht => ?_)
  simp only [isUnapplied, Bool.or_eq_true, Bool.and_eq_true] at ht ⊢
  exact ht.imp_right fun h => ⟨trivial, h.2⟩

/-- A task that ends leaves the unapplied ones. -/
lemma unapplied_setRunning {status : TaskStatus} (hs : status.isFinished = true) (queued : Bool)
    (queue : List Task) :
    (unapplied queued (setRunning status queue)).Sublist (unapplied queued queue) := by
  have hfin : ∀ t : Task, isUnapplied queued { t with status } = false := by
    intro t
    cases status <;> first | rfl | cases hs
    all_goals simp [isUnapplied]
  induction queue with
  | nil => exact List.Sublist.refl _
  | cons t q ih =>
      rw [setRunning]
      split
      · rw [unapplied, List.filter_cons_of_neg (by rw [hfin]; simp)]
        refine List.Sublist.map _ ?_
        rw [List.filter_cons]
        split
        · exact List.sublist_cons_self _ _
        · exact List.Sublist.refl _
      · have hcons : ∀ q', unapplied queued (t :: q') = unapplied queued [t] ++ unapplied queued q' :=
          fun q' => unapplied_append queued [t] q'
        rw [hcons (setRunning status q), hcons q]
        exact (List.Sublist.refl _).append ih

lemma unapplied_trim (queued : Bool) (queue : List Task) :
    (unapplied queued (trim queue).2).Sublist (unapplied queued queue) := by
  have happend := unapplied_append queued (trim queue).1 (trim queue).2
  rw [trim_append] at happend
  rw [happend]
  exact List.sublist_append_right _ _

/-- The running task's payload is one of the unapplied, on top of those that
wait. -/
lemma countP_unapplied (f : Payload → Bool) {queue : List Task} {t : Task}
    (h : runningTask queue = some t) :
    (unapplied false queue).countP f + (f t.payload).toNat ≤ (unapplied true queue).countP f := by
  induction queue with
  | nil => cases h
  | cons u q ih =>
      have hcons : ∀ b, unapplied b (u :: q) = unapplied b [u] ++ unapplied b q :=
        fun b => unapplied_append b [u] q
      rw [hcons, hcons, List.countP_append, List.countP_append]
      by_cases hu : u.status = .Running
      · have htask : t = u := by
          rw [runningTask, List.find?_cons_of_pos (by simpa using hu)] at h
          exact (Option.some.inj h).symm
        subst htask
        have hrest := (unapplied_sublist false q).countP_le (p := f)
        have hfalse : unapplied false [t] = [] := by simp [unapplied, isUnapplied, hu]
        have htrue : unapplied true [t] = [t.payload] := by simp [unapplied, isUnapplied, hu]
        rw [hfalse, htrue, List.countP_nil, List.countP_singleton]
        cases hf : f t.payload <;> simp <;> omega
      · rw [runningTask, List.find?_cons_of_neg (by simpa using hu)] at h
        have hsame : unapplied false [u] = unapplied true [u] := by
          simp [unapplied, isUnapplied, List.filter_cons, hu]
        have := ih h
        rw [hsame]
        omega

lemma mem_unapplied_of_runningTask {queue : List Task} {t : Task} (h : runningTask queue = some t) :
    t.payload ∈ unapplied true queue := by
  have hrun : t.status = .Running := by simpa using List.find?_some h
  refine List.mem_map.mpr ⟨t, List.mem_filter.mpr ⟨List.mem_of_find?_eq_some h, ?_⟩, rfl⟩
  simp [isUnapplied, hrun]

/-! ### The operations on the queue -/

section Operations

variable {s s' : EnginedState}

/-- Starting a task does not change what is unapplied. -/
lemma backlog_startNext (hidle : runningCount s.commitService.queue = 0) :
    backlog (startNext s) = backlog s := by
  have hidle' := hidle
  rw [startNext]
  cases hq : runFirstPending s.commitService.queue with
  | none => rfl
  | some queue =>
      obtain ⟨pre, t, post, hqueue, hpending, rfl⟩ := runFirstPending_eq_some hq
      have hqueued : applyQueued ((sendQueueStatus { s with commitService :=
          { s.commitService with queue := pre ++ { t with status := .Running } :: post } }).postAction
            .ApplyCommit) = true := by
        simp [applyQueued, EnginedState.postAction]
      rw [backlog, backlog, hqueued, unapplied_of_idle hidle]
      congr 1
      rw [hqueue]
      simp [EnginedState.postAction, sendQueueStatus, EnginedState.transmit, unapplied, isUnapplied,
        hpending]

lemma backlog_finishRunning {status : TaskStatus} (hs : status.isFinished = true) :
    (backlog (finishRunning status s)).Sublist (backlog s) :=
  (unapplied_setRunning hs _ _).append (List.Sublist.refl _)

lemma backlog_endReload {status : TaskStatus} (hs : status.isFinished = true)
    (hone : runningCount s.commitService.queue ≤ 1) :
    (backlog (endReload status s)).Sublist (backlog s) := by
  have hne : status ≠ .Running := by
    rintro rfl
    cases hs
  have hidle : runningCount (trimQueue (finishRunning status s)).commitService.queue = 0 := by
    have hfinished := runningCount_setRunning hne hone
    rw [← trim_append (setRunning status s.commitService.queue), runningCount,
      List.countP_append] at hfinished
    show List.countP _ (trim (setRunning status s.commitService.queue)).2 = 0
    omega
  have htrim : (backlog (trimQueue (finishRunning status s))).Sublist
      (backlog (finishRunning status s)) :=
    (unapplied_trim _ _).append (List.Sublist.refl _)
  have hstart : backlog (endReload status s) = backlog (trimQueue (finishRunning status s)) :=
    backlog_startNext (s := sendQueueStatus (trimQueue (finishRunning status s))) hidle
  rw [hstart]
  exact htrim.trans (backlog_finishRunning hs)

lemma backlog_failTask (hone : runningCount s.commitService.queue ≤ 1) :
    (backlog (failTask s)).Sublist (backlog s) := by
  have hidle : runningCount (finishRunning .Failed s).commitService.queue = 0 :=
    runningCount_setRunning (by simp) hone
  have hstart : backlog (failTask s) = backlog (finishRunning .Failed s) :=
    backlog_startNext (s := sendQueueStatus (finishRunning .Failed s)) hidle
  rw [hstart]
  exact backlog_finishRunning rfl

/-- A payload that arrives goes from its event to the back of the queue. -/
lemma backlog_receive {payload : Payload} {rest : List Event}
    (hq : s.eventQueue = .commit (.ReceiveSettingsCommit payload) :: rest) :
    (backlog (handleCommitEvent { s with eventQueue := rest } (.ReceiveSettingsCommit payload)))
      |>.Sublist (backlog s) := by
  have hbacklog : backlog s = unapplied (applyQueued s) s.commitService.queue ++
      payload :: rest.filterMap arrival := by
    rw [backlog, hq]
    rfl
  have henqueue : backlog (sendQueueStatus (enqueueTask payload { s with eventQueue := rest }))
      = backlog s := by
    have hqueue : unapplied (applyQueued s) (s.commitService.queue ++
        [⟨s.commitService.nextId, payload, .Pending⟩])
          = unapplied (applyQueued s) s.commitService.queue ++ [payload] := by
      rw [unapplied_append]
      simp [unapplied, isUnapplied]
    rw [hbacklog, List.append_cons, ← hqueue]
    rfl
  by_cases hempty : payload = .empty
  · subst hempty
    rw [hbacklog]
    exact (List.Sublist.refl _).append (List.sublist_cons_self _ _)
  · rw [handleCommitEvent_receive hempty]
    split
    · rw [henqueue]
    · next hnone =>
        rw [backlog_startNext, henqueue]
        rw [List.any_eq_true] at hnone
        refine List.countP_eq_zero.mpr fun t ht hrun => hnone ⟨t, ht, hrun⟩

end Operations

/-! ### The steps -/

section Steps

variable {file : Option Json} {s s' : EnginedState}

/-- The payload a frame brings. -/
def arrivals : Label → List Payload
  | .receive msg => ((createEvent msg).bind arrival).toList
  | _ => []

/-- Bootstrap events and actions add nothing to the backlog and take nothing
from it. -/
lemma backlog_congr (hqueue : s'.commitService = s.commitService)
    (hactions : Action.ApplyCommit ∈ s'.actionQueue ↔ Action.ApplyCommit ∈ s.actionQueue)
    (hevents : s'.eventQueue.filterMap arrival = s.eventQueue.filterMap arrival) :
    backlog s' = backlog s := by
  rw [backlog, backlog, hqueue, hevents, applyQueued, applyQueued, decide_eq_decide.mpr hactions]

lemma mem_actionQueue_handleBootstrapEvent (now : ℕ) (s : EnginedState) (e : BootstrapEvent) :
    Action.ApplyCommit ∈ (handleBootstrapEvent now s e).actionQueue ↔
      Action.ApplyCommit ∈ s.actionQueue := by
  cases e with
  | ReceiveServerHello =>
      rw [handleBootstrapEvent, onServerHello]
      split <;> simp [EnginedState.postAction]
  | ReceiveSyncResponse payload =>
      rw [handleBootstrapEvent, onSyncResponse]
      split
      · dsimp only
        split <;> simp [EnginedState.postAction, readSyncResponse]
      · rfl
  | _ => simp [handleBootstrapEvent, EnginedState.postAction]

lemma arrivals_handleBootstrapAction (s : EnginedState) (a : BootstrapAction) :
    (handleBootstrapAction s a).eventQueue.filterMap arrival = s.eventQueue.filterMap arrival := by
  cases a with
  | SendReloadFailed => simp [handleBootstrapAction, EnginedState.postEvent, answerCommit,
      EnginedState.transmit, arrival]
  | SendRuntimeStart reloads =>
      simp only [handleBootstrapAction]
      split
      · simp [completeReload, EnginedState.postEvent, answerCommit, EnginedState.transmit, arrival,
          broadcastRuntimeStart]
      · rfl
  | _ =>
      simp only [handleBootstrapAction]
      split <;> rfl

/-- The step commits: what it merges, and the backlog before and after. -/
structure Commits (s : EnginedState) (l : Label) (s' : EnginedState) (changes : List Json) :
    Prop where
  step : ∃ io rest running, l = .execute io ∧ s.eventQueue = [] ∧
    s.actionQueue = .ApplyCommit :: rest ∧ runningTask s.commitService.queue = some running ∧
    running.payload = .json (.arr changes) ∧ goesThrough io s = true
  mem : .json (.arr changes) ∈ backlog s
  sublist : (backlog s').Sublist (backlog s)
  count : ∀ f : Payload → Bool,
    (backlog s').countP f + (f (.json (.arr changes))).toNat ≤ (backlog s).countP f

/-- The token of the running task was on the action just taken, so none is left. -/
lemma notMem_rest_of_running {rest : List Action} (ht : Tracked s)
    (hactions : s.actionQueue = .ApplyCommit :: rest) : Action.ApplyCommit ∉ rest := by
  have hone : runningCount s.commitService.queue ≤ 1 := ht.1.single
  have htoken : runningCount s.commitService.queue
      = carried s + (pipelineOf s).inflight.length := ht.1.token
  have hcarried : carried s = carried { s with actionQueue := rest } + 1 :=
    carried_popAction hactions rfl
  have hle : rest.countP (fun a => a.carriesToken) ≤ carried { s with actionQueue := rest } := by
    simp only [carried]
    omega
  have hzero : rest.countP (fun a => a.carriesToken) = 0 := by omega
  intro hmem
  exact absurd rfl (List.countP_eq_zero.mp hzero _ hmem)

/-- A commit takes the running task's payload out. -/
lemma commits_announceCommit {io : DispatchIO} {rest : List Action} {running : Task}
    {changes : List Json} (ht : Tracked s) (hevents : s.eventQueue = [])
    (hactions : s.actionQueue = .ApplyCommit :: rest)
    (hrun : runningTask s.commitService.queue = some running)
    (hpayload : running.payload = .json (.arr changes)) (hgoes : goesThrough io s = true) :
    Commits s (.execute io) (announceCommit file io (committedState file io
      { s with actionQueue := rest } changes)) changes := by
  have hbefore : backlog s = unapplied true s.commitService.queue := by
    simp [backlog, applyQueued, hactions, hevents]
  have hafter : backlog (announceCommit file io (committedState file io
      { s with actionQueue := rest } changes)) = unapplied false s.commitService.queue := by
    have hqueued : applyQueued (announceCommit file io (committedState file io
        { s with actionQueue := rest } changes)) = false :=
      decide_eq_false (notMem_rest_of_running ht hactions)
    rw [backlog, hqueued]
    show unapplied false s.commitService.queue ++ s.eventQueue.filterMap arrival = _
    rw [hevents, List.filterMap_nil, List.append_nil]
  refine ⟨⟨io, rest, running, rfl, hevents, hactions, hrun, hpayload, hgoes⟩, ?_, ?_, ?_⟩
  · rw [hbefore, ← hpayload]
    exact mem_unapplied_of_runningTask hrun
  · rw [hbefore, hafter]
    exact unapplied_sublist _ _
  · intro f
    rw [hbefore, hafter, ← hpayload]
    exact countP_unapplied f hrun

/-- **What a step does to the backlog**: without a commit the table stays and
payloads are dropped at most; a commit takes the running task's payload out. -/
theorem backlog_next {l : Label} (ht : Tracked s) (hp : s.preflighted = true)
    (hs : (engined file).next s l = some s') :
    s'.preflighted = true ∧
      ((s'.table = s.table ∧ (backlog s').Sublist (backlog s ++ arrivals l)) ∨
        ∃ changes, Commits s l s' changes) := by
  have hone : runningCount s.commitService.queue ≤ 1 := ht.1.single
  have hsame : ∀ {u : EnginedState}, u.preflighted = s.preflighted → u.table = s.table →
      (backlog u).Sublist (backlog s) → u.preflighted = true ∧
        ((u.table = s.table ∧ (backlog u).Sublist (backlog s ++ arrivals l)) ∨
          ∃ changes, Commits s l u changes) := by
    intro u hpre htable hsub
    exact ⟨hpre.trans hp, .inl ⟨htable, hsub.trans (List.sublist_append_left _ _)⟩⟩
  have hquiet : ∀ {u : EnginedState}, u.preflighted = s.preflighted → u.table = s.table →
      backlog u = backlog s → u.preflighted = true ∧
        ((u.table = s.table ∧ (backlog u).Sublist (backlog s ++ arrivals l)) ∨
          ∃ changes, Commits s l u changes) := by
    intro u hpre htable heq
    exact hsame hpre htable (heq ▸ List.Sublist.refl _)
  cases step_of_next hs with
  | start io hphase => exact hsame rfl rfl (List.Sublist.refl _)
  | receive msg e hphase hmsg =>
      refine ⟨hp, .inl ⟨rfl, ?_⟩⟩
      have hbacklog : backlog (s.postEvent e) = backlog s ++ (arrival e).toList := by
        simp only [backlog, EnginedState.postEvent, List.filterMap_append, List.append_assoc]
        cases harr : arrival e <;> simp [harr] <;> rfl
      rw [hbacklog, arrivals, hmsg]
      exact List.Sublist.refl _
  | ignore msg hphase hmsg => exact hsame rfl rfl (List.Sublist.refl _)
  | readConfig io => exact hsame rfl rfl (List.Sublist.refl _)
  | preflight io hphase hevents => simp [engined, hp] at hs
  | schedule io hphase =>
      rcases schedule_cases io s with h | ⟨_, _, _, e, h, -⟩ | ⟨-, h⟩ <;> rw [h]
      · exact hsame rfl rfl (List.Sublist.refl _)
      · exact hquiet rfl rfl (backlog_congr rfl Iff.rfl (by simp [EnginedState.postEvent, arrival]))
      · exact hquiet rfl rfl (backlog_congr rfl Iff.rfl (by simp [EnginedState.postEvent, arrival]))
  | bootstrapEvent io e rest hphase hevents =>
      obtain ⟨hframe, -, heq, -⟩ :=
        bootstrapOnly_handleBootstrapEvent io.now { s with eventQueue := rest } e
      refine hquiet hframe.preflighted hframe.table (backlog_congr hframe.commitService
        (mem_actionQueue_handleBootstrapEvent io.now { s with eventQueue := rest } e) ?_)
      rw [heq, hevents]
      rfl
  | commitEvent io e rest hphase hevents =>
      have hframe := queueOnly_handleCommitEvent { s with eventQueue := rest } e
      refine hsame hframe.preflighted hframe.table ?_
      have hpop (hnone : arrival (.commit e) = none) :
          backlog { s with eventQueue := rest } = backlog s := by
        refine backlog_congr rfl Iff.rfl ?_
        rw [hevents, List.filterMap_cons_none hnone]
      cases e with
      | ReceiveSettingsCommit payload => exact backlog_receive hevents
      | ReloadComplete =>
          rw [← hpop rfl]
          exact backlog_endReload rfl hone
      | ReloadFailed =>
          rw [← hpop rfl]
          exact backlog_endReload rfl hone
  | bootstrapAction io a rest hphase hevents hactions =>
      obtain ⟨hframe, heq⟩ := bootstrapOnly_handleBootstrapAction { s with actionQueue := rest } a
      refine hquiet hframe.preflighted hframe.table (backlog_congr hframe.commitService ?_ ?_)
      · rw [heq, hactions]
        simp
      · exact arrivals_handleBootstrapAction _ a
  | applyCommit io rest _ hphase hevents hactions hok =>
      have hpop : (backlog { s with actionQueue := rest }).Sublist (backlog s) := by
        have hqueued : applyQueued s = true := by simp [applyQueued, hactions]
        rw [backlog, backlog, hqueued]
        exact (unapplied_sublist _ _).append (List.Sublist.refl _)
      rcases applyCommit_cases hok with ⟨-, rfl⟩ | ⟨running, -, -, config, rfl, -⟩ |
        ⟨running, changes, hrun, hpayload, hgoes, rfl⟩
      · exact hsame rfl rfl hpop
      · have hframe := queueOnly_failTask { { s with actionQueue := rest } with config }
        refine hsame hframe.preflighted hframe.table ?_
        have hfail := backlog_failTask (s := { { s with actionQueue := rest } with config }) hone
        exact hfail.trans hpop
      · exact ⟨hp, .inr ⟨changes, commits_announceCommit ht hevents hactions hrun hpayload hgoes⟩⟩
  | drained io hphase hevents hactions => exact hsame rfl rfl (List.Sublist.refl _)

end Steps

end Pretzel.Engined
