import Pretzel.Library.Machine
import Pretzel.Engined.CommitService
import Pretzel.Mgmtd.State

/-!
The commit pipeline: what the two services of engined do to a commit, with
their timers, sync polls and process map left out.

A task waits in the queue, becomes Running, and then owns the one token of the
pipeline until it is Done or Failed. The token is `carried` while the commit is
applied and the fleet converges, and `inflight` once mgmtd has been answered and
the completion is on its way back to the queue.

* `Pipeline.Effect`, `pipeline`: the four things that happen to the pipeline.
* `Pipeline.Ledger`, `Pipeline.Inv`: every id ever given is in the queue or was
  removed, in order; at most one task runs, and it holds the token.
* `Pipeline.removed_finished_iff`: a settlement removes only finished tasks
  exactly when none of the tasks past the last five waits.
* `Pipeline.answered_iff`: each finished task has exactly its answer exactly
  when no commit is refused.
-/

namespace Pretzel.Engined

open Ipc Mgmtd Reactive

/-! ### The loops over the queue -/

/-- The number of tasks that run. -/
def runningCount (queue : List Task) : ℕ := queue.countP fun t => t.status = .Running

lemma runningTask_eq_none_iff {queue : List Task} :
    runningTask queue = none ↔ runningCount queue = 0 := by
  simp [runningTask, runningCount, List.countP_eq_zero]

lemma exists_runningTask {queue : List Task} (h : 0 < runningCount queue) :
    ∃ t ∈ queue, t.status = .Running ∧ runningTask queue = some t := by
  cases ht : runningTask queue with
  | none => rw [runningTask_eq_none_iff] at ht; omega
  | some t =>
      have hmem : t ∈ queue := List.mem_of_find?_eq_some ht
      have hrun : t.status = .Running := by simpa using List.find?_some ht
      exact ⟨t, hmem, hrun, rfl⟩

/-- Where one task runs at most, it is the one the loops find. -/
lemma runningTask_of_mem {queue : List Task} (h : runningCount queue ≤ 1) {t : Task}
    (ht : t ∈ queue) (hrun : t.status = .Running) : runningTask queue = some t := by
  have hpos : 0 < runningCount queue := List.countP_pos_iff.mpr ⟨t, ht, by simp [hrun]⟩
  obtain ⟨r, hr, hrrun, heq⟩ := exists_runningTask hpos
  have htf : t ∈ queue.filter fun t => t.status = .Running := by simp [ht, hrun]
  have hrf : r ∈ queue.filter fun t => t.status = .Running := by simp [hr, hrrun]
  have hone : (queue.filter fun t => t.status = .Running).length = 1 := by
    rw [← List.countP_eq_length_filter]
    exact le_antisymm h hpos
  obtain ⟨u, hu⟩ := List.length_eq_one_iff.mp hone
  rw [hu, List.mem_singleton] at htf hrf
  rw [heq, htf, hrf]

/-- Where one task runs at most, the loop reaches it as a map would. -/
lemma setRunning_eq_map (status : TaskStatus) {queue : List Task} (h : runningCount queue ≤ 1) :
    setRunning status queue
      = queue.map fun t => if t.status = .Running then { t with status } else t := by
  induction queue with
  | nil => rfl
  | cons t q ih =>
      by_cases ht : t.status = .Running
      · have hq : ∀ t' ∈ q, t'.status ≠ .Running := by
          have : runningCount q = 0 := by
            simp only [runningCount, List.countP_cons, ht, decide_true, if_true] at h ⊢
            omega
          simpa [runningCount, List.countP_eq_zero] using this
        have hmap : q.map (fun t => if t.status = .Running then { t with status } else t) = q := by
          refine (List.map_congr_left fun t' ht' => ?_).trans (List.map_id q)
          rw [if_neg (hq t' ht'), id]
        rw [setRunning, if_pos ht, List.map_cons, if_pos ht, hmap]
      · have hq : runningCount q ≤ 1 := by
          simpa [runningCount, List.countP_cons, ht] using h
        rw [setRunning, if_neg ht, List.map_cons, if_neg ht, ih hq]

lemma runningCount_setRunning {status : TaskStatus} (hs : status ≠ .Running) {queue : List Task}
    (h : runningCount queue ≤ 1) : runningCount (setRunning status queue) = 0 := by
  rw [setRunning_eq_map status h, runningCount, List.countP_eq_zero]
  intro t ht
  obtain ⟨t', -, rfl⟩ := List.mem_map.mp ht
  by_cases h' : t'.status = .Running <;> simp [h', hs]

/-- The first Pending task, its neighbours, and the queue with it Running. -/
lemma runFirstPending_eq_some {queue queue' : List Task}
    (h : runFirstPending queue = some queue') :
    ∃ pre t post, queue = pre ++ t :: post ∧ t.status = .Pending ∧
      queue' = pre ++ { t with status := .Running } :: post := by
  induction queue generalizing queue' with
  | nil => cases h
  | cons t q ih =>
      rw [runFirstPending] at h
      by_cases ht : t.status = .Pending
      · rw [if_pos ht, Option.some.injEq] at h
        exact ⟨[], t, q, rfl, ht, h.symm⟩
      · rw [if_neg ht, Option.map_eq_some_iff] at h
        obtain ⟨q', hq', rfl⟩ := h
        obtain ⟨pre, t', post, rfl, ht', rfl⟩ := ih hq'
        exact ⟨t :: pre, t', post, rfl, ht', rfl⟩

/-- The loop pops a prefix. -/
lemma trim_append (queue : List Task) : (trim queue).1 ++ (trim queue).2 = queue := by
  induction queue with
  | nil => rfl
  | cons t q ih =>
      rw [trim]
      split
      · rw [List.cons_append, ih]
      · rfl

/-- The tasks popped are all finished exactly when those past the last five
are. -/
lemma forall_trim_iff (queue : List Task) :
    (∀ t ∈ (trim queue).1, t.status.isFinished = true) ↔
      ∀ t ∈ queue.take (queue.length - 5), t.status.isFinished = true := by
  induction queue with
  | nil => simp [trim]
  | cons t q ih =>
      rw [trim]
      by_cases hlen : 5 < (t :: q).length
      · have htake : (t :: q).take ((t :: q).length - 5) = t :: q.take (q.length - 5) := by
          have : (t :: q).length - 5 = q.length - 5 + 1 := by
            rw [List.length_cons] at hlen ⊢
            omega
          rw [this, List.take_succ_cons]
        rw [if_pos (Or.inl hlen), htake, List.forall_mem_cons, List.forall_mem_cons, ih]
      · have htake : (t :: q).length - 5 = 0 := by omega
        have htake' : q.length - 5 = 0 := by
          rw [List.length_cons] at htake
          omega
        rw [htake, List.take_zero]
        rw [htake', List.take_zero] at ih
        split
        · next h =>
            have ht : t.status.isFinished = true := h.resolve_left hlen
            rw [List.forall_mem_cons, ih]
            simp [ht]
        · simp

/-- No task past the last five waits. -/
def NoneWaitsEarly (queue : List Task) : Prop :=
  ∀ t ∈ queue.take (queue.length - 5), t.status ≠ .Pending

/-! ### The pipeline -/

/-- The status a task ends in. -/
def TaskStatus.ofOk (ok : Bool) : TaskStatus := if ok then .Done else .Failed

/-- The pipeline: the commit service and what became of its tasks, the token of
the running one, and the completions on their way back. -/
structure Pipeline where
  queue : List Task := []
  nextId : ℕ := 1
  finished : List Task := []
  removed : List Task := []
  answered : List (ℕ × IpcMessage Payload) := []
  carried : ℕ := 0
  inflight : List Bool := []

namespace Pipeline

/-- What happens to the pipeline: nothing, a task arrives, mgmtd is answered,
`ApplyCommit` fails early, a completion comes back. -/
inductive Effect where
  | quiet
  | enqueue (payload : Payload)
  | answer (msg : IpcMessage Payload)
  | refuse
  | settle

/-- The first Pending task set going. -/
def start (v : Pipeline) : Pipeline :=
  match runFirstPending v.queue with
  | none => v
  | some queue => { v with queue, carried := v.carried + 1 }

/-- The running task brought to its end. -/
def finish (status : TaskStatus) (v : Pipeline) : Pipeline :=
  { v with
    queue := setRunning status v.queue
    finished := v.finished ++ (runningTask v.queue).toList.map fun t => { t with status } }

/-- The queue shortened. -/
def shorten (v : Pipeline) : Pipeline :=
  { v with queue := (trim v.queue).2, removed := v.removed ++ (trim v.queue).1 }

/-- A task at the back of the queue. -/
def push (payload : Payload) (v : Pipeline) : Pipeline :=
  { v with queue := v.queue ++ [⟨v.nextId, payload, .Pending⟩], nextId := v.nextId + 1 }

/-- The steps of the pipeline, each where the token allows it. -/
def step (v : Pipeline) : Effect → Option Pipeline
  | .quiet => some v
  | .enqueue payload =>
      some (if runningCount v.queue = 0 then start (push payload v) else push payload v)
  | .answer msg =>
      if 0 < v.carried then
        some { v with
          carried := v.carried - 1
          inflight := v.inflight ++ [responseOk msg]
          answered := v.answered ++ (runningTask v.queue).toList.map fun t => (t.id, msg) }
      else none
  | .refuse =>
      if 0 < v.carried then some (start (finish .Failed { v with carried := v.carried - 1 }))
      else none
  | .settle =>
      match v.inflight with
      | [] => none
      | ok :: rest =>
          some (start (shorten (finish (.ofOk ok) { v with inflight := rest })))

end Pipeline

/-- The pipeline as a machine. -/
def pipeline : Machine Pipeline Pipeline.Effect where
  init v := v = {}
  next := Pipeline.step

namespace Pipeline

/-! ### The ledger of tasks -/

/-- Every id given so far is in the queue or was removed, in order; the finished
tasks are those of either that ended. -/
structure Ledger (v : Pipeline) : Prop where
  pos : 1 ≤ v.nextId
  ids : (v.removed ++ v.queue).map Task.id = List.range' 1 (v.nextId - 1)
  finished : ∀ t, t ∈ v.finished ↔ t ∈ v.removed ++ v.queue ∧ t.status.isFinished = true
  idle : ∀ t ∈ v.removed, t.status ≠ .Running

/-- The token: one for the running task, none without. -/
structure Inv (v : Pipeline) : Prop extends Ledger v where
  token : runningCount v.queue = v.carried + v.inflight.length
  single : runningCount v.queue ≤ 1

lemma inv_init : Inv {} where
  pos := le_rfl
  ids := rfl
  finished t := by simp
  idle t ht := by cases ht
  token := rfl
  single := by decide

namespace Ledger

variable {v : Pipeline}

/-- Two tasks of one id are one task. -/
lemma eq_of_id (h : Ledger v) {t t' : Task} (ht : t ∈ v.removed ++ v.queue)
    (ht' : t' ∈ v.removed ++ v.queue) (hid : t.id = t'.id) : t = t' := by
  have hnodup : ((v.removed ++ v.queue).map Task.id).Nodup := by
    rw [h.ids]
    exact List.nodup_range'
  exact List.inj_on_of_nodup_map hnodup ht ht' hid

lemma start (h : Ledger v) : Ledger (start v) := by
  rw [Pipeline.start]
  cases hq : runFirstPending v.queue with
  | none => exact h
  | some queue =>
      obtain ⟨pre, t, post, hqueue, hpending, rfl⟩ := runFirstPending_eq_some hq
      refine ⟨h.pos, ?_, ?_, h.idle⟩
      · have := h.ids
        rw [hqueue] at this
        simpa using this
      · intro u
        rw [h.finished u, hqueue]
        simp only [List.mem_append, List.mem_cons]
        constructor
        · rintro ⟨hmem | hmem | rfl | hmem, hfin⟩
          · exact ⟨.inl hmem, hfin⟩
          · exact ⟨.inr (.inl hmem), hfin⟩
          · rw [hpending] at hfin
            cases hfin
          · exact ⟨.inr (.inr (.inr hmem)), hfin⟩
        · rintro ⟨hmem | hmem | rfl | hmem, hfin⟩
          · exact ⟨.inl hmem, hfin⟩
          · exact ⟨.inr (.inl hmem), hfin⟩
          · cases hfin
          · exact ⟨.inr (.inr (.inr hmem)), hfin⟩

lemma push (h : Ledger v) (payload : Payload) : Ledger (push payload v) := by
  refine ⟨Nat.le_succ_of_le h.pos, ?_, ?_, h.idle⟩
  · have hpos := h.pos
    have hsucc : v.nextId + 1 - 1 = v.nextId - 1 + 1 := by omega
    have hlast : 1 + (v.nextId - 1) = v.nextId := by omega
    simp only [Pipeline.push]
    rw [← List.append_assoc, List.map_append, h.ids, hsucc, List.range'_concat, one_mul, hlast]
    rfl
  · intro u
    simp only [Pipeline.push]
    rw [h.finished u, ← List.append_assoc, List.mem_append (s := v.removed ++ v.queue)]
    constructor
    · rintro ⟨hmem, hfin⟩
      exact ⟨.inl hmem, hfin⟩
    · rintro ⟨hmem | hmem, hfin⟩
      · exact ⟨hmem, hfin⟩
      · rw [List.mem_singleton] at hmem
        rw [hmem] at hfin
        cases hfin

lemma finish (h : Ledger v) (hone : runningCount v.queue ≤ 1) {status : TaskStatus}
    (hstatus : status.isFinished = true) : Ledger (finish status v) := by
  refine ⟨h.pos, ?_, ?_, h.idle⟩
  · have hmap : (setRunning status v.queue).map Task.id = v.queue.map Task.id := by
      rw [setRunning_eq_map status hone, List.map_map]
      refine List.map_congr_left fun t _ => ?_
      by_cases ht : t.status = .Running <;> simp [ht]
    have := h.ids
    rw [List.map_append] at this
    rw [Pipeline.finish, List.map_append, hmap, this]
  · intro u
    have hmem : u ∈ (Pipeline.finish status v).finished ↔
        u ∈ v.finished ∨ ∃ t, runningTask v.queue = some t ∧ { t with status } = u := by
      simp [Pipeline.finish]
    rw [hmem, Pipeline.finish, setRunning_eq_map status hone, h.finished u, List.mem_append,
      List.mem_append, List.mem_map]
    constructor
    · rintro (⟨hu | hu, hfin⟩ | ⟨t, ht, rfl⟩)
      · exact ⟨.inl hu, hfin⟩
      · have hne : u.status ≠ .Running := by
          intro he
          rw [he] at hfin
          cases hfin
        exact ⟨.inr ⟨u, hu, if_neg hne⟩, hfin⟩
      · have hrun : t.status = .Running := by simpa using List.find?_some ht
        exact ⟨.inr ⟨t, List.mem_of_find?_eq_some ht, if_pos hrun⟩, hstatus⟩
    · rintro ⟨hu | ⟨t, ht, rfl⟩, hfin⟩
      · exact .inl ⟨.inl hu, hfin⟩
      · by_cases hrun : t.status = .Running
        · rw [if_pos hrun]
          exact .inr ⟨t, runningTask_of_mem hone ht hrun, rfl⟩
        · rw [if_neg hrun] at hfin ⊢
          exact .inl ⟨.inr ht, hfin⟩

lemma shorten (h : Ledger v) (hidle : runningCount v.queue = 0) : Ledger (shorten v) := by
  have happ : v.removed ++ (trim v.queue).1 ++ (trim v.queue).2 = v.removed ++ v.queue := by
    rw [List.append_assoc, trim_append]
  refine ⟨h.pos, ?_, ?_, ?_⟩
  · rw [Pipeline.shorten, happ, h.ids]
  · intro u
    rw [Pipeline.shorten, happ, h.finished u]
  · intro t ht
    rcases List.mem_append.mp ht with ht | ht
    · exact h.idle t ht
    · have hmem : t ∈ v.queue := by
        rw [← trim_append v.queue]
        exact List.mem_append_left _ ht
      simpa using List.countP_eq_zero.mp hidle t hmem

end Ledger

/-! ### The token -/

section Token

variable {v v' : Pipeline}

/-- `start` with no task running: the token it takes is the one of its task. -/
lemma Inv.start (h : Ledger v) (hidle : runningCount v.queue = 0) (hcarried : v.carried = 0)
    (hinflight : v.inflight = []) : Inv (Pipeline.start v) := by
  refine ⟨h.start, ?_, ?_⟩ <;> rw [Pipeline.start] <;> cases hq : runFirstPending v.queue with
  | none => simp [hidle, hcarried, hinflight]
  | some queue =>
      obtain ⟨pre, t, post, hqueue, hpending, rfl⟩ := runFirstPending_eq_some hq
      rw [hqueue] at hidle
      simp only [runningCount, List.countP_append, List.countP_cons] at hidle ⊢
      simp [hcarried, hinflight]
      omega

/-- A task that ends gives its token back. -/
lemma runningCount_finish {status : TaskStatus} (hstatus : status.isFinished = true)
    (hone : runningCount v.queue ≤ 1) : runningCount (finish status v).queue = 0 := by
  have hne : status ≠ .Running := by
    intro he
    rw [he] at hstatus
    cases hstatus
  exact runningCount_setRunning hne hone

lemma runningCount_shorten (hidle : runningCount v.queue = 0) :
    runningCount (shorten v).queue = 0 := by
  rw [← trim_append v.queue, runningCount, List.countP_append] at hidle
  show List.countP _ (trim v.queue).2 = 0
  omega

lemma isFinished_ofOk (ok : Bool) : (TaskStatus.ofOk ok).isFinished = true := by
  cases ok <;> rfl

/-- **The token invariant**: every step of the pipeline keeps it. -/
theorem Inv.step (h : Inv v) {e : Effect} (hstep : v.step e = some v') : Inv v' := by
  cases e with
  | quiet =>
      cases hstep
      exact h
  | enqueue payload =>
      have hcount : runningCount (push payload v).queue = runningCount v.queue := by
        simp [push, runningCount]
      rw [Pipeline.step, Option.some.injEq] at hstep
      subst hstep
      have htoken := h.token
      split
      · next hidle =>
          have hinflight : v.inflight = [] := List.length_eq_zero_iff.mp (by omega)
          exact Inv.start (h.toLedger.push payload) (by omega) (by show v.carried = 0; omega)
            hinflight
      · exact ⟨h.toLedger.push payload, hcount.trans htoken, hcount ▸ h.single⟩
  | answer msg =>
      rw [Pipeline.step] at hstep
      split at hstep
      · next hpos =>
          cases hstep
          refine ⟨⟨h.pos, h.ids, h.finished, h.idle⟩, ?_, h.single⟩
          have htoken := h.token
          simp only [List.length_append, List.length_singleton]
          omega
      · cases hstep
  | refuse =>
      rw [Pipeline.step] at hstep
      split at hstep
      · next hpos =>
          cases hstep
          have htoken := h.token
          have hsingle := h.single
          have hledger : Ledger { v with carried := v.carried - 1 } :=
            ⟨h.pos, h.ids, h.finished, h.idle⟩
          have hinflight : v.inflight = [] := List.length_eq_zero_iff.mp (by omega)
          exact Inv.start (hledger.finish hsingle rfl) (runningCount_finish rfl hsingle)
            (by show v.carried - 1 = 0; omega) hinflight
      · cases hstep
  | settle =>
      rw [Pipeline.step] at hstep
      cases hv : v.inflight with
      | nil => rw [hv] at hstep; cases hstep
      | cons ok rest =>
          rw [hv] at hstep
          cases hstep
          have htoken := h.token
          have hsingle := h.single
          rw [hv, List.length_cons] at htoken
          have hledger : Ledger { v with inflight := rest } :=
            ⟨h.pos, h.ids, h.finished, h.idle⟩
          have hidle : runningCount (finish (.ofOk ok) { v with inflight := rest }).queue = 0 :=
            runningCount_finish (isFinished_ofOk ok) hsingle
          have hrest : rest = [] := List.length_eq_zero_iff.mp (by omega)
          exact Inv.start ((hledger.finish hsingle (isFinished_ofOk ok)).shorten hidle)
            (runningCount_shorten hidle) (by show v.carried = 0; omega) hrest

end Token

/-! ### No task lost -/

section Lost

variable {v v' : Pipeline}

/-- Every task that left the queue had ended. -/
def RemovedFinished (v : Pipeline) : Prop := ∀ t ∈ v.removed, t.status.isFinished = true

lemma removed_start : (start v).removed = v.removed := by
  rw [start]
  split <;> rfl

/-- Once the running task has ended, the early tasks are all finished exactly
when none of them waited. -/
lemma forall_take_setRunning {status : TaskStatus} (hstatus : status.isFinished = true)
    {queue : List Task} (hone : runningCount queue ≤ 1) :
    (∀ t ∈ (setRunning status queue).take ((setRunning status queue).length - 5),
      t.status.isFinished = true) ↔ NoneWaitsEarly queue := by
  rw [setRunning_eq_map status hone, List.length_map, ← List.map_take, List.forall_mem_map]
  refine forall₂_congr fun t _ => ?_
  by_cases ht : t.status = .Running
  · simp [ht, hstatus]
  · rw [if_neg ht]
    cases hs : t.status <;> simp_all [TaskStatus.isFinished]

/-- **No task lost, for one step**: a step removes only finished tasks exactly
when, should it be a settlement, no early task waits. -/
theorem removedFinished_step (h : Inv v) {e : Effect} (hstep : v.step e = some v') :
    RemovedFinished v' ↔ RemovedFinished v ∧ (e = .settle → NoneWaitsEarly v.queue) := by
  have hother : v'.removed = v.removed → e ≠ .settle →
      (RemovedFinished v' ↔ RemovedFinished v ∧ (e = .settle → NoneWaitsEarly v.queue)) := by
    intro hremoved hne
    rw [RemovedFinished, hremoved]
    simp [hne, RemovedFinished]
  cases e with
  | quiet =>
      cases hstep
      exact hother rfl (by simp)
  | enqueue payload =>
      cases hstep
      refine hother ?_ (by simp)
      split
      · rw [removed_start]
        rfl
      · rfl
  | answer msg =>
      rw [Pipeline.step] at hstep
      split at hstep
      · cases hstep
        exact hother rfl (by simp)
      · cases hstep
  | refuse =>
      rw [Pipeline.step] at hstep
      split at hstep
      · cases hstep
        exact hother removed_start (by simp)
      · cases hstep
  | settle =>
      rw [Pipeline.step] at hstep
      cases hv : v.inflight with
      | nil => rw [hv] at hstep; cases hstep
      | cons ok rest =>
          rw [hv] at hstep
          cases hstep
          have hpopped : (∀ t ∈ (trim (setRunning (.ofOk ok) v.queue)).1,
              t.status.isFinished = true) ↔ NoneWaitsEarly v.queue := by
            rw [forall_trim_iff, forall_take_setRunning (isFinished_ofOk ok) h.single]
          rw [RemovedFinished, removed_start, shorten, finish, List.forall_mem_append, hpopped]
          simp [RemovedFinished]

end Lost

/-! ### One answer a task -/

section Answered

variable {v v' : Pipeline}

/-- The answers to a task. -/
def answers (v : Pipeline) (id : ℕ) : List (ℕ × IpcMessage Payload) :=
  v.answered.filter fun a => a.1 = id

/-- Exactly one answer to the task, and it says how the task ended. -/
def AnsweredOnce (v : Pipeline) (t : Task) : Prop :=
  ∃ msg, v.answers t.id = [(t.id, msg)] ∧ TaskStatus.ofOk (responseOk msg) = t.status

/-- An answer is to a finished task, or to the running one while its completion
comes back; that one has its answer, and no other. -/
structure Owed (v : Pipeline) : Prop where
  of_answered : ∀ a ∈ v.answered, (∃ t ∈ v.finished, t.id = a.1) ∨
    (v.inflight ≠ [] ∧ ∃ t ∈ v.queue, t.status = .Running ∧ t.id = a.1)
  inflight : ∀ ok rest, v.inflight = ok :: rest → ∀ t ∈ v.queue, t.status = .Running →
    ∃ msg, v.answers t.id = [(t.id, msg)] ∧ responseOk msg = ok

lemma owed_init : Owed {} where
  of_answered a ha := by cases ha
  inflight ok rest hv := by cases hv

/-- With no completion on its way, an answer is to a finished task. -/
lemma Owed.of_idle (hfin : ∀ a ∈ v.answered, ∃ t ∈ v.finished, t.id = a.1)
    (hinflight : v.inflight = []) : Owed v where
  of_answered a ha := .inl (hfin a ha)
  inflight ok rest hv := by rw [hinflight] at hv; cases hv

lemma Owed.finished_of_idle (ho : Owed v) (hinflight : v.inflight = []) :
    ∀ a ∈ v.answered, ∃ t ∈ v.finished, t.id = a.1 := by
  intro a ha
  rcases ho.of_answered a ha with h | ⟨hne, -⟩
  · exact h
  · exact absurd hinflight hne

/-- A task that runs is not among the finished ones. -/
lemma Ledger.id_ne_of_running (h : Ledger v) {t u : Task} (ht : t ∈ v.queue)
    (hrun : t.status = .Running) (hu : u ∈ v.finished) : u.id ≠ t.id := by
  intro hid
  obtain ⟨humem, hufin⟩ := (h.finished u).mp hu
  have heq : u = t := h.eq_of_id humem (List.mem_append_right _ ht) hid
  rw [heq, hrun] at hufin
  cases hufin

/-- Before mgmtd is answered, the running task has no answer. -/
lemma Owed.answers_eq_nil (ho : Owed v) (h : Ledger v) (hinflight : v.inflight = []) {t : Task}
    (ht : t ∈ v.queue) (hrun : t.status = .Running) : v.answers t.id = [] := by
  rw [answers, List.filter_eq_nil_iff]
  intro a ha haid
  obtain ⟨u, hu, huid⟩ := ho.finished_of_idle hinflight a ha
  exact h.id_ne_of_running ht hrun hu (huid.trans (by simpa using haid))

/-- The running task, where the token says there is one. -/
lemma Inv.exists_running (h : Inv v) (hpos : 0 < v.carried + v.inflight.length) :
    ∃ t ∈ v.queue, t.status = .Running ∧ runningTask v.queue = some t := by
  have htoken := h.token
  exact exists_runningTask (by omega)

lemma start_fields : (start v).answered = v.answered ∧ (start v).finished = v.finished ∧
    (start v).inflight = v.inflight := by
  rw [start]
  split <;> exact ⟨rfl, rfl, rfl⟩

/-- `start` with no completion on its way owes what was owed. -/
lemma Owed.start (ho : Owed v) (hinflight : v.inflight = []) : Owed (Pipeline.start v) := by
  obtain ⟨hanswered, hfinished, hsame⟩ := start_fields (v := v)
  refine .of_idle ?_ (hsame.trans hinflight)
  rw [hanswered, hfinished]
  exact ho.finished_of_idle hinflight

lemma Owed.push (ho : Owed v) (payload : Payload) : Owed (push payload v) where
  of_answered a ha := by
    rcases ho.of_answered a ha with h | ⟨hne, t, ht, hrun⟩
    · exact .inl h
    · exact .inr ⟨hne, t, List.mem_append_left _ ht, hrun⟩
  inflight ok rest hv t ht hrun := by
    rcases List.mem_append.mp ht with ht | ht
    · exact ho.inflight ok rest hv t ht hrun
    · rw [List.mem_singleton] at ht
      rw [ht] at hrun
      cases hrun

/-- The running task brought to its end, with its completion consumed. -/
lemma Owed.finish (ho : Owed v) (h : Inv v) (status : TaskStatus) (carried : ℕ) :
    Owed (Pipeline.finish status { v with carried, inflight := [] }) := by
  refine .of_idle ?_ rfl
  intro a ha
  rcases ho.of_answered a ha with ⟨t, ht, hid⟩ | ⟨-, t, ht, hrun, hid⟩
  · exact ⟨t, List.mem_append_left _ ht, hid⟩
  · refine ⟨{ t with status }, List.mem_append_right _ ?_, hid⟩
    simp [runningTask_of_mem h.single ht hrun]

/-- What is owed stays owed. -/
lemma Owed.step (ho : Owed v) (h : Inv v) {e : Effect} (hstep : v.step e = some v') :
    Owed v' := by
  have htoken := h.token
  have hsingle := h.single
  cases e with
  | quiet =>
      cases hstep
      exact ho
  | enqueue payload =>
      cases hstep
      split
      · next hidle =>
          have hinflight : v.inflight = [] := List.length_eq_zero_iff.mp (by omega)
          exact (ho.push payload).start hinflight
      · exact ho.push payload
  | answer msg =>
      rw [Pipeline.step] at hstep
      split at hstep
      · next hpos =>
          cases hstep
          have hinflight : v.inflight = [] := List.length_eq_zero_iff.mp (by omega)
          obtain ⟨r, hr, hrun, hfind⟩ := h.exists_running (by omega)
          constructor
          · intro a ha
            simp only [hfind, Option.toList_some, List.map_singleton, List.mem_append,
              List.mem_singleton] at ha
            rcases ha with ha | rfl
            · exact .inl (ho.finished_of_idle hinflight a ha)
            · exact .inr ⟨by simp, r, hr, hrun, rfl⟩
          · intro ok rest hv t ht htrun
            simp only [hinflight, List.nil_append, List.cons.injEq] at hv
            have htr : t = r := by
              have := runningTask_of_mem hsingle ht htrun
              rw [hfind, Option.some.injEq] at this
              exact this.symm
            refine ⟨msg, ?_, hv.1⟩
            have hnil := ho.answers_eq_nil h.toLedger hinflight ht htrun
            rw [answers] at hnil
            rw [answers, List.filter_append, hnil, hfind, htr]
            simp
      · cases hstep
  | refuse =>
      rw [Pipeline.step] at hstep
      split at hstep
      · next hpos =>
          cases hstep
          have hinflight : v.inflight = [] := List.length_eq_zero_iff.mp (by omega)
          have := ho.finish h .Failed (v.carried - 1)
          rw [← hinflight] at this
          exact this.start hinflight
      · cases hstep
  | settle =>
      rw [Pipeline.step] at hstep
      cases hv : v.inflight with
      | nil => rw [hv] at hstep; cases hstep
      | cons ok rest =>
          rw [hv] at hstep
          cases hstep
          rw [hv, List.length_cons] at htoken
          have hrest : rest = [] := List.length_eq_zero_iff.mp (by omega)
          subst hrest
          have hfinish := ho.finish h (.ofOk ok) v.carried
          exact Owed.start (.of_idle (hfinish.finished_of_idle rfl) rfl) rfl

/-- **One answer a task, for one step**: a step leaves every finished task with
exactly its answer exactly when it refuses no commit. -/
theorem answeredOnce_step (h : Inv v) (ho : Owed v) {e : Effect} (hstep : v.step e = some v') :
    (∀ t ∈ v'.finished, v'.AnsweredOnce t) ↔
      (∀ t ∈ v.finished, v.AnsweredOnce t) ∧ e ≠ .refuse := by
  have htoken := h.token
  have hsingle := h.single
  have hother : v'.finished = v.finished → (∀ t ∈ v.finished, v'.answers t.id = v.answers t.id) →
      e ≠ .refuse → ((∀ t ∈ v'.finished, v'.AnsweredOnce t) ↔
        (∀ t ∈ v.finished, v.AnsweredOnce t) ∧ e ≠ .refuse) := by
    intro hfinished hanswers hne
    rw [hfinished, and_iff_left hne]
    refine forall₂_congr fun t ht => ?_
    rw [AnsweredOnce, AnsweredOnce, hanswers t ht]
  cases e with
  | quiet =>
      cases hstep
      exact hother rfl (fun _ _ => rfl) (by simp)
  | enqueue payload =>
      cases hstep
      obtain ⟨hanswered, hfinished, -⟩ := start_fields (v := push payload v)
      refine hother ?_ (fun t _ => ?_) (by simp)
      · split
        · exact hfinished
        · rfl
      · rw [answers, answers]
        split
        · rw [hanswered]
          rfl
        · rfl
  | answer msg =>
      rw [Pipeline.step] at hstep
      split at hstep
      · next hpos =>
          cases hstep
          obtain ⟨r, hr, hrun, hfind⟩ := h.exists_running (by omega)
          refine hother rfl (fun t ht => ?_) (by simp)
          have hne : r.id ≠ t.id := fun he => h.id_ne_of_running hr hrun ht he.symm
          simp [answers, hfind, hne]
      · cases hstep
  | refuse =>
      rw [Pipeline.step] at hstep
      split at hstep
      · next hpos =>
          cases hstep
          have hinflight : v.inflight = [] := List.length_eq_zero_iff.mp (by omega)
          obtain ⟨r, hr, hrun, hfind⟩ := h.exists_running (by omega)
          obtain ⟨hanswered, hfinished, -⟩ :=
            start_fields (v := finish .Failed { v with carried := v.carried - 1 })
          have hnil : v.answers r.id = [] := ho.answers_eq_nil h.toLedger hinflight hr hrun
          simp only [ne_eq, not_true_eq_false, and_false, iff_false]
          intro hall
          have hmem : { r with status := .Failed } ∈
              (start (finish .Failed { v with carried := v.carried - 1 })).finished := by
            rw [hfinished]
            simp [finish, hfind]
          obtain ⟨msg, hmsg, -⟩ := hall _ hmem
          rw [answers, hanswered] at hmsg
          rw [answers] at hnil
          exact List.cons_ne_nil _ _ (hmsg.symm.trans hnil)
      · cases hstep
  | settle =>
      rw [Pipeline.step] at hstep
      cases hv : v.inflight with
      | nil => rw [hv] at hstep; cases hstep
      | cons ok rest =>
          rw [hv] at hstep
          cases hstep
          obtain ⟨r, hr, hrun, hfind⟩ := h.exists_running (by rw [hv]; simp)
          obtain ⟨hanswered, hfinished, -⟩ :=
            start_fields (v := shorten (finish (.ofOk ok) { v with inflight := rest }))
          obtain ⟨msg, hmsg, hok⟩ := ho.inflight ok rest hv r hr hrun
          have hsame : ∀ t, AnsweredOnce
              (start (shorten (finish (.ofOk ok) { v with inflight := rest }))) t ↔
                v.AnsweredOnce t := by
            intro t
            rw [AnsweredOnce, answers, hanswered]
            rfl
          have hlast : v.AnsweredOnce { r with status := .ofOk ok } := ⟨msg, hmsg, by rw [hok]⟩
          simp only [hsame]
          rw [hfinished]
          simp [shorten, finish, hfind, or_imp, forall_and, hlast]

end Answered

/-! ### Whole runs -/

section Runs

variable {v v' : Pipeline} {tr : List (Pipeline × Effect)}

/-- What every run of the pipeline keeps. -/
theorem run_inv (hinv : Inv v) (howed : Owed v) (h : pipeline.Run v tr v') :
    Inv v' ∧ Owed v' :=
  h.invariant (I := fun v => Inv v ∧ Owed v) ⟨hinv, howed⟩
    fun _ _ _ hI hstep => ⟨hI.1.step hstep, hI.2.step hI.1 hstep⟩

/-- **No task lost**: at the end of a run every removed task had ended exactly
when no settlement of the run met a waiting task past the last five. -/
theorem removed_finished_iff (h : pipeline.Run {} tr v') :
    RemovedFinished v' ↔ ∀ p ∈ tr, p.2 = .settle → NoneWaitsEarly p.1.queue := by
  refine h.iff_forall (I := Inv) (P := RemovedFinished)
    (C := fun v e => e = .settle → NoneWaitsEarly v.queue) inv_init
    (fun t ht => by cases ht) (fun _ _ _ hI hstep => hI.step hstep) ?_
  intro t e t' hI hstep
  exact removedFinished_step hI hstep

/-- **One answer a task**: at the end of a run every finished task has exactly
its answer exactly when the run refused no commit. -/
theorem answered_iff (h : pipeline.Run {} tr v') :
    (∀ t ∈ v'.finished, v'.AnsweredOnce t) ↔ ∀ p ∈ tr, p.2 ≠ .refuse := by
  refine h.iff_forall (I := fun v => Inv v ∧ Owed v)
    (P := fun v => ∀ t ∈ v.finished, v.AnsweredOnce t) (C := fun _ e => e ≠ .refuse)
    ⟨inv_init, owed_init⟩ (fun t ht => by cases ht)
    (fun _ _ _ hI hstep => ⟨hI.1.step hstep, hI.2.step hI.1 hstep⟩) ?_
  intro t e t' hI hstep
  exact answeredOnce_step hI.1 hI.2 hstep

end Runs

end Pipeline

end Pretzel.Engined
