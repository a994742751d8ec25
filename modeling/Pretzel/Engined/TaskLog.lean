import Pretzel.Engined.Backlog

/-!
The tasks of engined from the frame that brings them to their end, counted.

* `Pipeline.unfinished`, `Pipeline.payloads`: the tasks that have not ended, and
  the payloads of all of them in the order of their ids.
* `waiting`, `underway`, `taskLog`: the same with the events counted that have
  not become tasks.
* `underway_next`, `taskLog_next`: a frame adds one, an end takes one away, and
  nothing else does either.
* `responses_next`: the responses a step sends are the answers of the pipeline.
* `Drained`: completions wait while the queues are drained, and at no other
  time.
-/

namespace Pretzel.Engined

open Nlohmann Ipc Config Reactive

namespace Pipeline

variable {v v' : Pipeline}

/-- Every task, in the order of the ids. -/
def tasks (v : Pipeline) : List Task := v.removed ++ v.queue

/-- The payloads of the tasks. -/
def payloads (v : Pipeline) : List Payload := v.tasks.map Task.payload

/-- The tasks that have not ended. -/
def unfinished (v : Pipeline) : ℕ := v.tasks.countP fun t => !t.status.isFinished

/-- The payloads of the tasks an effect makes. -/
def Effect.enters : Effect → List Payload
  | .enqueue payload => [payload]
  | _ => []

/-- The tasks an effect brings to their end. -/
def Effect.ends : Effect → ℕ
  | .refuse | .settle => 1
  | _ => 0

/-- The completions an effect takes. -/
def Effect.takes : Effect → ℕ
  | .settle => 1
  | _ => 0

/-- The answers an effect sends. -/
def Effect.sends : Effect → List (IpcMessage Payload)
  | .answer msg => [msg]
  | _ => []

/-! ### The operations -/

lemma start_tasks : (start v).payloads = v.payloads ∧ (start v).unfinished = v.unfinished := by
  rw [start]
  cases hq : runFirstPending v.queue with
  | none => exact ⟨rfl, rfl⟩
  | some queue =>
      obtain ⟨pre, t, post, hqueue, hpending, rfl⟩ := runFirstPending_eq_some hq
      simp [payloads, unfinished, tasks, hqueue, List.countP_append, hpending,
        TaskStatus.isFinished]

lemma push_tasks (payload : Payload) : (push payload v).payloads = v.payloads ++ [payload] ∧
    (push payload v).unfinished = v.unfinished + 1 := by
  constructor
  · simp [payloads, tasks, push]
  · simp [unfinished, tasks, push, TaskStatus.isFinished, List.countP_append]
    omega

lemma shorten_tasks :
    (shorten v).payloads = v.payloads ∧ (shorten v).unfinished = v.unfinished := by
  have htasks : (shorten v).tasks = v.tasks := by
    show (v.removed ++ (trim v.queue).1) ++ (trim v.queue).2 = v.removed ++ v.queue
    rw [List.append_assoc, trim_append]
  rw [payloads, unfinished, htasks]
  exact ⟨rfl, rfl⟩

/-- Where one task runs at most, its end takes one from those that have not
ended. -/
lemma countP_setRunning {status : TaskStatus} (hs : status.isFinished = true) {queue : List Task}
    (hone : runningCount queue ≤ 1) :
    (setRunning status queue).countP (fun t => !t.status.isFinished) + runningCount queue
      = queue.countP fun t => !t.status.isFinished := by
  rw [setRunning_eq_map status hone, runningCount]
  clear hone
  induction queue with
  | nil => rfl
  | cons t q ih =>
      rw [List.map_cons, List.countP_cons, List.countP_cons, List.countP_cons, ← ih]
      by_cases ht : t.status = .Running
      · have hend : (!status.isFinished) = false := by rw [hs]; rfl
        have hrun : (!TaskStatus.isFinished .Running) = true := rfl
        simp only [ht, if_true, hend, hrun, decide_true, Bool.false_eq_true, if_false]
        omega
      · simp only [ht, if_false, decide_false, Bool.false_eq_true]
        omega

lemma payload_setRunning (status : TaskStatus) (queue : List Task) :
    (setRunning status queue).map Task.payload = queue.map Task.payload := by
  induction queue with
  | nil => rfl
  | cons t q ih =>
      rw [setRunning]
      split
      · rfl
      · rw [List.map_cons, List.map_cons, ih]

lemma finish_tasks {status : TaskStatus} (hs : status.isFinished = true)
    (hone : runningCount v.queue = 1) : (finish status v).payloads = v.payloads ∧
      (finish status v).unfinished + 1 = v.unfinished := by
  constructor
  · simp [payloads, tasks, finish, payload_setRunning]
  · have hcount := countP_setRunning hs hone.le
    show (v.removed ++ setRunning status v.queue).countP _ + _ = (v.removed ++ v.queue).countP _
    rw [List.countP_append, List.countP_append]
    omega

/-! ### One effect -/

/-- **What an effect does to the tasks.** -/
theorem tasks_step (h : Inv v) {e : Effect} (hstep : v.step e = some v') :
    v'.payloads = v.payloads ++ e.enters ∧
      v'.unfinished + e.ends = v.unfinished + e.enters.length := by
  have htoken := h.token
  have hsingle := h.single
  cases e with
  | quiet =>
      cases hstep
      simp [Effect.enters, Effect.ends]
  | enqueue payload =>
      cases hstep
      obtain ⟨hpayloads, hunfinished⟩ := push_tasks (v := v) payload
      obtain ⟨hpayloads', hunfinished'⟩ := start_tasks (v := push payload v)
      split
      · exact ⟨hpayloads'.trans hpayloads, hunfinished'.trans hunfinished⟩
      · exact ⟨hpayloads, hunfinished⟩
  | answer msg =>
      rw [Pipeline.step] at hstep
      split at hstep
      · cases hstep
        exact ⟨(List.append_nil _).symm, rfl⟩
      · cases hstep
  | refuse =>
      rw [Pipeline.step] at hstep
      split at hstep
      · next hpos =>
          cases hstep
          obtain ⟨hpayloads, hunfinished⟩ := start_tasks
            (v := finish .Failed { v with carried := v.carried - 1 })
          have hone : runningCount v.queue = 1 := by omega
          have hfinish := @finish_tasks { v with carried := v.carried - 1 } .Failed rfl hone
          constructor
          · rw [hpayloads, hfinish.1]
            exact (List.append_nil _).symm
          · rw [hunfinished]
            exact hfinish.2
      · cases hstep
  | settle =>
      rw [Pipeline.step] at hstep
      cases hv : v.inflight with
      | nil => rw [hv] at hstep; cases hstep
      | cons ok rest =>
          rw [hv] at hstep
          cases hstep
          rw [hv, List.length_cons] at htoken
          obtain ⟨hpayloads, hunfinished⟩ := start_tasks
            (v := shorten (finish (.ofOk ok) { v with inflight := rest }))
          obtain ⟨hpayloads', hunfinished'⟩ := shorten_tasks
            (v := finish (.ofOk ok) { v with inflight := rest })
          have hone : runningCount v.queue = 1 := by omega
          have hfinish := @finish_tasks { v with inflight := rest } _ (isFinished_ofOk ok) hone
          constructor
          · rw [hpayloads, hpayloads', hfinish.1]
            exact (List.append_nil _).symm
          · rw [hunfinished, hunfinished']
            exact hfinish.2

/-- What an effect answers. -/
lemma answered_step (h : Inv v) {e : Effect} (hstep : v.step e = some v') :
    v'.answered.map Prod.snd = v.answered.map Prod.snd ++ e.sends := by
  have hstart : ∀ u : Pipeline, (start u).answered = u.answered := fun u => start_fields.1
  cases e with
  | quiet =>
      cases hstep
      exact (List.append_nil _).symm
  | enqueue payload =>
      cases hstep
      split
      · rw [hstart]
        exact (List.append_nil _).symm
      · exact (List.append_nil _).symm
  | answer msg =>
      rw [Pipeline.step] at hstep
      split at hstep
      · next hpos =>
          cases hstep
          obtain ⟨r, -, -, hfind⟩ := h.exists_running (by omega)
          simp [hfind, Effect.sends]
      · cases hstep
  | refuse =>
      rw [Pipeline.step] at hstep
      split at hstep
      · cases hstep
        rw [hstart]
        exact (List.append_nil _).symm
      · cases hstep
  | settle =>
      rw [Pipeline.step] at hstep
      cases hv : v.inflight with
      | nil => rw [hv] at hstep; cases hstep
      | cons ok rest =>
          rw [hv] at hstep
          cases hstep
          rw [hstart]
          exact (List.append_nil _).symm

/-- What an effect does to the completions on their way. -/
lemma inflight_step {e : Effect} (hstep : v.step e = some v') :
    v'.inflight.length + e.takes = v.inflight.length + e.sends.length := by
  have hstart : ∀ u : Pipeline, (start u).inflight = u.inflight := fun u => start_fields.2.2
  cases e with
  | quiet =>
      cases hstep
      simp [Effect.sends, Effect.takes]
  | enqueue payload =>
      cases hstep
      split
      · rw [hstart]
        rfl
      · rfl
  | answer msg =>
      rw [Pipeline.step] at hstep
      split at hstep
      · cases hstep
        simp [Effect.sends, Effect.takes]
      · cases hstep
  | refuse =>
      rw [Pipeline.step] at hstep
      split at hstep
      · cases hstep
        rw [hstart]
        simp [finish, Effect.sends, Effect.takes]
      · cases hstep
  | settle =>
      rw [Pipeline.step] at hstep
      cases hv : v.inflight with
      | nil => rw [hv] at hstep; cases hstep
      | cons ok rest =>
          rw [hv] at hstep
          cases hstep
          rw [hstart]
          simp [shorten, finish, Effect.sends, Effect.takes]

/-- The token an effect needs. -/
lemma token_step {e : Effect} (hstep : v.step e = some v') :
    e.takes ≤ e.ends ∧ e.takes ≤ v.inflight.length ∧
      e.ends + e.sends.length ≤ v.carried + e.takes := by
  cases e with
  | quiet => simp [Effect.takes, Effect.ends, Effect.sends]
  | enqueue payload => simp [Effect.takes, Effect.ends, Effect.sends]
  | answer msg =>
      rw [Pipeline.step] at hstep
      split at hstep
      · next hpos =>
          refine ⟨le_rfl, Nat.zero_le _, ?_⟩
          show 0 + 1 ≤ v.carried + 0
          omega
      · cases hstep
  | refuse =>
      rw [Pipeline.step] at hstep
      split at hstep
      · next hpos =>
          refine ⟨Nat.zero_le _, Nat.zero_le _, ?_⟩
          show 1 + 0 ≤ v.carried + 0
          omega
      · cases hstep
  | settle =>
      rw [Pipeline.step] at hstep
      cases hv : v.inflight with
      | nil => rw [hv] at hstep; cases hstep
      | cons ok rest => simp [Effect.takes, Effect.ends, Effect.sends]

/-- A task that runs has not ended. -/
lemma runningCount_le_unfinished : runningCount v.queue ≤ v.unfinished := by
  have hle : runningCount v.queue ≤ v.queue.countP fun t => !t.status.isFinished := by
    refine List.countP_mono_left fun t _ ht => ?_
    rw [of_decide_eq_true ht]
    rfl
  rw [unfinished, tasks, List.countP_append]
  omega

/-- With every task ended, the task of a place has ended. -/
lemma Ledger.ended_of_unfinished (h : Ledger v) (hzero : v.unfinished = 0) {i : ℕ}
    {payload : Payload} (hi : v.payloads[i]? = some payload) :
    ∃ t ∈ v.finished, t.id = i + 1 ∧ t.payload = payload ∧ t.status.isFinished = true := by
  rw [payloads, List.getElem?_map, Option.map_eq_some_iff] at hi
  obtain ⟨t, ht, rfl⟩ := hi
  have hmem : t ∈ v.tasks := List.mem_of_getElem? ht
  have hfin : t.status.isFinished = true := by
    have := List.countP_eq_zero.mp hzero t hmem
    simpa using this
  have hid : (v.tasks.map Task.id)[i]? = some t.id := by
    rw [List.getElem?_map, ht]
    rfl
  rw [tasks, h.ids, List.getElem?_eq_some_iff] at hid
  obtain ⟨hlt, hid⟩ := hid
  rw [List.getElem_range'] at hid
  exact ⟨t, (h.finished t).mpr ⟨hmem, hfin⟩, by omega, rfl, hfin⟩

end Pipeline

/-! ### engined -/

section Steps

variable {file : Option Json} {s s' : EnginedState}

/-- The commits that have not become tasks. -/
def waiting (s : EnginedState) : List Payload := s.eventQueue.filterMap arrival

/-- The commits received that have not ended. -/
def underway (s : EnginedState) : ℕ := (pipelineOf s).unfinished + (waiting s).length

/-- The payloads of the commits received, in order. -/
def taskLog (s : EnginedState) : List Payload := (pipelineOf s).payloads ++ waiting s

/-- No commit that waits is without a payload. -/
def NoneEmpty (s : EnginedState) : Prop := ∀ p ∈ waiting s, p ≠ .empty

lemma enters_actionEffect (io : DispatchIO) (a : Action) : (actionEffect io s a).enters = [] := by
  unfold actionEffect
  split
  · split <;> rfl
  · split <;> rfl
  · rfl
  · rfl

/-- **What a step does to the commits that wait**: those it receives go to the
back, and the first leaves when it becomes a task. -/
lemma waiting_next {l : Label} (hne : NoneEmpty s) (hs : (engined file).next s l = some s') :
    waiting s ++ arrivals l = (effect s l).enters ++ waiting s' := by
  have hsame : arrivals l = [] → (effect s l).enters = [] → waiting s' = waiting s →
      waiting s ++ arrivals l = (effect s l).enters ++ waiting s' := by
    intro harr henters hwaiting
    rw [harr, henters, hwaiting, List.append_nil, List.nil_append]
  cases step_of_next hs with
  | start io hphase => exact hsame rfl rfl rfl
  | receive msg e hphase hmsg =>
      have harr : arrivals (.receive msg) = (arrival e).toList := by
        rw [arrivals, hmsg]
        rfl
      rw [harr, waiting, waiting, EnginedState.postEvent, List.filterMap_append]
      cases he : arrival e <;> simp [he, effect, Pipeline.Effect.enters]
  | ignore msg hphase hmsg =>
      refine hsame ?_ rfl rfl
      rw [arrivals, hmsg]
      rfl
  | readConfig io => exact hsame rfl rfl rfl
  | preflight io hphase hevents =>
      refine hsame rfl rfl ?_
      rw [ensureStorePreflighted]
      split <;> rfl
  | schedule io hphase =>
      refine hsame rfl rfl ?_
      rcases schedule_cases io s with h | ⟨_, _, _, e, h, -⟩ | ⟨-, h⟩ <;> rw [h]
      · rfl
      · simp [waiting, EnginedState.postEvent, arrival]
      · simp [waiting, EnginedState.postEvent, arrival]
  | bootstrapEvent io e rest hphase hevents =>
      obtain ⟨-, -, heq, -⟩ :=
        bootstrapOnly_handleBootstrapEvent io.now { s with eventQueue := rest } e
      refine hsame rfl (by rw [effect_event hevents]; rfl) ?_
      rw [waiting, heq, waiting, hevents]
      rfl
  | commitEvent io e rest hphase hevents =>
      have hrest : waiting (handleCommitEvent { s with eventQueue := rest } e)
          = rest.filterMap arrival := by
        rw [waiting, (queueOnly_handleCommitEvent _ e).eventQueue]
      rw [effect_event hevents, hrest, waiting, hevents]
      cases e with
      | ReceiveSettingsCommit payload =>
          have hmem : payload ∈ waiting s := by
            rw [waiting, hevents]
            exact List.mem_cons_self
          rw [eventEffect, if_neg (hne payload hmem)]
          exact List.append_nil _
      | ReloadComplete => exact List.append_nil _
      | ReloadFailed => exact List.append_nil _
  | bootstrapAction io a rest hphase hevents hactions =>
      refine hsame rfl (by rw [effect_action hevents hactions, enters_actionEffect]) ?_
      exact arrivals_handleBootstrapAction _ a
  | applyCommit io rest _ hphase hevents hactions hok =>
      refine hsame rfl (by rw [effect_action hevents hactions, enters_actionEffect]) ?_
      rcases applyCommit_cases hok with ⟨-, rfl⟩ | ⟨_, -, -, config, rfl, -⟩ |
        ⟨_, changes, -, -, -, rfl⟩
      · rfl
      · rw [waiting, (queueOnly_failTask _).eventQueue]
        rfl
      · rfl
  | drained io hphase hevents hactions =>
      exact hsame rfl (by rw [effect_drained hevents hactions]; rfl) rfl

/-- **What a step does to the tasks underway**: a frame adds one, an end takes
one away. -/
theorem underway_next {l : Label} (ht : Tracked s) (hne : NoneEmpty s)
    (hs : (engined file).next s l = some s') :
    underway s' + (effect s l).ends = underway s + (arrivals l).length := by
  have hwaiting := congrArg List.length (waiting_next hne hs)
  have htasks := (Pipeline.tasks_step ht.1 (pipelineOf_next ht hs)).2
  rw [List.length_append, List.length_append] at hwaiting
  rw [underway, underway]
  omega

/-- **What a step does to the log**: a frame is a line at its end. -/
theorem taskLog_next {l : Label} (ht : Tracked s) (hne : NoneEmpty s)
    (hs : (engined file).next s l = some s') : taskLog s' = taskLog s ++ arrivals l := by
  rw [taskLog, (Pipeline.tasks_step ht.1 (pipelineOf_next ht hs)).1, List.append_assoc,
    ← waiting_next hne hs, ← List.append_assoc, taskLog]

/-- engined takes no frame back. -/
lemma sent_next {l : Label} (hs : (engined file).next s l = some s') :
    ∃ ms, s'.sent = s.sent ++ ms := by
  have hsame : s'.sent = s.sent → ∃ ms, s'.sent = s.sent ++ ms :=
    fun h => ⟨[], by rw [h, List.append_nil]⟩
  cases step_of_next hs with
  | start io hphase => exact hsame rfl
  | receive msg e hphase hmsg => exact hsame rfl
  | ignore msg hphase hmsg => exact hsame rfl
  | readConfig io => exact hsame rfl
  | preflight io hphase hevents =>
      refine hsame ?_
      rw [ensureStorePreflighted]
      split <;> rfl
  | schedule io hphase =>
      refine hsame ?_
      rcases schedule_cases io s with h | ⟨_, _, _, e, h, -⟩ | ⟨-, h⟩ <;> rw [h] <;> rfl
  | bootstrapEvent io e rest hphase hevents =>
      exact hsame (bootstrapOnly_handleBootstrapEvent io.now { s with eventQueue := rest } e).2.1
  | commitEvent io e rest hphase hevents =>
      obtain ⟨ms, hsent, -⟩ := (queueOnly_handleCommitEvent { s with eventQueue := rest } e).sent
      exact ⟨ms, hsent⟩
  | bootstrapAction io a rest hphase hevents hactions =>
      cases a with
      | SendReloadFailed => exact ⟨_, rfl⟩
      | SendRuntimeStart k =>
          simp only [handleBootstrapAction]
          split
          · exact ⟨_, List.append_assoc _ _ _⟩
          · exact ⟨_, rfl⟩
      | _ =>
          simp only [handleBootstrapAction]
          split
          · exact ⟨_, rfl⟩
          · exact ⟨[], (List.append_nil _).symm⟩
  | applyCommit io rest _ hphase hevents hactions hok =>
      rcases applyCommit_cases hok with ⟨-, rfl⟩ | ⟨_, -, -, config, rfl, -⟩ |
        ⟨_, changes, -, -, -, rfl⟩
      · exact hsame rfl
      · obtain ⟨ms, hsent, -⟩ := (queueOnly_failTask { s with actionQueue := rest, config }).sent
        exact ⟨ms, hsent⟩
      · exact ⟨_, rfl⟩
  | drained io hphase hevents hactions => exact hsame rfl

/-- A response to mgmtd. -/
def isResponse (m : IpcMessage Payload) : Bool := m.header.cmd = .SettingsCommitResponse

/-- **The responses a step sends** are the answers of the pipeline. -/
theorem responses_next {l : Label} (ht : Tracked s) (hr : Recorded s)
    (hs : (engined file).next s l = some s') :
    ∃ ms, s'.sent = s.sent ++ ms ∧ ms.filter isResponse = (effect s l).sends := by
  obtain ⟨ms, hsent⟩ := sent_next hs
  refine ⟨ms, hsent, ?_⟩
  have hbefore : responses s = (pipelineOf s).answered.map Prod.snd := hr.1
  have hafter : responses s' = (pipelineOf s').answered.map Prod.snd := (recorded_next ht hr hs).1
  rw [Pipeline.answered_step ht.1 (pipelineOf_next ht hs), ← hbefore, responses, hsent,
    List.filter_append] at hafter
  exact List.append_cancel_left hafter

/-- Outside the drain of the queues no completion waits. -/
def Drained (s : EnginedState) : Prop := s.phase ≠ .executing → (pipelineOf s).inflight = []

lemma drained_next {l : Label} (ht : Tracked s) (hd : Drained s)
    (hs : (engined file).next s l = some s') : Drained s' := by
  have hquiet : effect s l = .quiet → s.phase ≠ .executing → (pipelineOf s').inflight = [] := by
    intro hq hphase
    have hsame := Pipeline.inflight_step (pipelineOf_next ht hs)
    rw [hq, hd hphase] at hsame
    exact List.length_eq_zero_iff.mp hsame
  have hstays : ∀ {u : EnginedState}, s.phase = .executing → u.phase = s.phase → Drained u :=
    fun hphase hu hne => absurd (hu.trans hphase) hne
  cases step_of_next hs with
  | start io hphase => exact fun _ => hquiet rfl (by rw [hphase]; simp)
  | receive msg e hphase hmsg => exact fun _ => hquiet rfl (by rw [hphase]; simp)
  | ignore msg hphase hmsg => exact hd
  | readConfig io => exact hd
  | preflight io hphase hevents => exact fun _ => hquiet rfl (by rw [hphase]; simp)
  | schedule io hphase => exact fun hne => absurd rfl hne
  | bootstrapEvent io e rest hphase hevents =>
      exact hstays hphase (bootstrapOnly_handleBootstrapEvent _ _ e).1.phase
  | commitEvent io e rest hphase hevents =>
      exact hstays hphase (queueOnly_handleCommitEvent _ e).phase
  | bootstrapAction io a rest hphase hevents hactions =>
      exact hstays hphase (bootstrapOnly_handleBootstrapAction _ a).1.phase
  | applyCommit io rest _ hphase hevents hactions hok =>
      have hkept := phase_applyCommit hok
      exact hstays hphase hkept
  | drained io hphase hevents hactions =>
      intro _
      show s.eventQueue.filterMap _ = []
      rw [hevents]
      rfl

end Steps

end Pretzel.Engined
