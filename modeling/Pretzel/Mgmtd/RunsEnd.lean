import Pretzel.Mgmtd.GrpcStream

/-!
The end of a run: when neither flag is left set.

* `StreamsEnd`: the condition on a step. A benchtest run is started while no stream is in
  flight, and a stream ends with a final document that the main loop reads.
* `Covered`: a run that is set running has a document on its way that ends it, or a stream
  that still owes one.
* `covered_next`: **a step that meets the condition keeps runs covered.** `runs_end`: so,
  once all is quiet, no run is running.
* `Stranded`, `stranded_run`: a run with neither is running for ever.
* `run_left_running`: a benchtest run that is cancelled.
-/

namespace Pretzel.Mgmtd

open Texts Nlohmann Ipc Reactive

variable (H : StreamTexts)

/-! ### The condition -/

/-- A final message came over the stream, and could be printed. -/
def StreamRun.Ended (r : StreamRun) : Prop :=
  ∃ p ∈ r.received, p.final = true ∧ (H.print p).isSome = true

/-- The document about a stream without an answer ends the run: that of a refresh does,
that of a benchtest where it cannot be parsed. -/
def Tells (cmd : StreamCmd) (reason : Bytes) : Prop :=
  cmd = .CorpusRefresh ∨ H.parse (unreachableDoc cmd reason) = none

/-- A document that ends the run is on its way to the main loop. -/
def Streams.Pending (s : Streams) (cmd : StreamCmd) : Prop :=
  ∃ q ∈ s.events ++ s.done, q.1 = cmd ∧ H.finished q.2 = .ok true

/-- The condition on a step. A benchtest run that is accepted finds no stream in flight,
or a document that ends it before. A stream that ends brought a final message; or it was a
refresh or was cancelled with an error that says so, and no message of it reads as final
where it is not. A stream that throws brought a final message, or was a refresh. -/
def StreamsEnd (s : Streams) : StreamStep → Prop
  | .start cmd =>
      cmd = .BenchtestRun → s.runs.benchtestRunning = false → s.streaming = true →
        s.Pending H .BenchtestRun
  | .ended status =>
      ∀ r, s.thread = some r → r.Ended H ∨
        ((∀ p ∈ r.received, saysFinal (H.toJson p) = false) ∧
          (saysCancelled (r.finishError status) = true ∨ Tells H r.cmd (r.endReason status)))
  | .threw what => ∀ r, s.thread = some r → r.Ended H ∨ Tells H r.cmd what
  | _ => True

instance (r : StreamRun) : Decidable (r.Ended H) :=
  inferInstanceAs (Decidable (∃ p ∈ r.received, p.final = true ∧ (H.print p).isSome = true))

instance (cmd : StreamCmd) (reason : Bytes) : Decidable (Tells H cmd reason) :=
  inferInstanceAs (Decidable (_ ∨ _))

instance (s : Streams) (cmd : StreamCmd) : Decidable (s.Pending H cmd) :=
  inferInstanceAs (Decidable (∃ q ∈ s.events ++ s.done, q.1 = cmd ∧ H.finished q.2 = .ok true))

instance (s : Streams) : (l : StreamStep) → Decidable (StreamsEnd H s l)
  | .start _ => inferInstanceAs (Decidable (_ → _ → _ → _))
  | .ended status => inferInstanceAs (Decidable (∀ r ∈ s.thread, r.Ended H ∨
      ((∀ p ∈ r.received, saysFinal (H.toJson p) = false) ∧
        (saysCancelled (r.finishError status) = true ∨ Tells H r.cmd (r.endReason status)))))
  | .threw what => inferInstanceAs (Decidable (∀ r ∈ s.thread, r.Ended H ∨ Tells H r.cmd what))
  | .cancel _ | .poll | .dispatch | .spawn | .progress _ | .cleared | .reported => isTrue trivial

/-! ### The invariant -/

/-- A stream of the run is to come, or is in flight without a final message so far. -/
def Streams.Owes (s : Streams) (cmd : StreamCmd) : Prop :=
  s.joining = some cmd ∨
    ∃ r, s.thread = some r ∧ r.cmd = cmd ∧ r.stage ≠ .reported ∧ ¬ r.Ended H

/-- What the thread remembers of its stream. -/
structure StreamRun.Tracked (r : StreamRun) : Prop where
  sawFinal : r.sawFinal = r.received.any fun p => saysFinal (H.toJson p)
  threw : ∀ what, r.stage = .threw what → r.Ended H ∨ Tells H r.cmd what

/-- Every run that is running has its end on its way, or has it owed. -/
structure Covered (s : Streams) : Prop where
  runs : ∀ cmd, (s.runs.slots cmd).running = true → s.Pending H cmd ∨ s.Owes H cmd
  thread : ∀ r, s.thread = some r → r.Tracked H

section Invariant

variable {H} {s s' : Streams} {cmd : StreamCmd} {json : Bytes}

lemma Streams.Pending.report (h : s.Pending H cmd) (c : StreamCmd) (j : Bytes) :
    (s.report c j).Pending H cmd := by
  obtain ⟨q, hmem, hfinished⟩ := h
  refine ⟨q, ?_, hfinished⟩
  show q ∈ s.events ++ (s.done ++ [(c, j)])
  rw [← List.append_assoc]
  exact List.mem_append_left _ hmem

lemma pending_report (h : H.finished json = .ok true) : (s.report cmd json).Pending H cmd := by
  refine ⟨(cmd, json), ?_, rfl, h⟩
  show (cmd, json) ∈ s.events ++ (s.done ++ [(cmd, json)])
  simp

/-- A poll moves what is on its way. -/
lemma Streams.Pending.poll (h : s.Pending H cmd) : s.poll.Pending H cmd := by
  obtain ⟨q, hmem, hfinished⟩ := h
  exact ⟨q, by rwa [Streams.poll, List.append_nil], hfinished⟩

/-- Where the flags stay, and what is on its way and what is owed do. -/
lemma Covered.of_frame (h : Covered H s) (hruns : s'.runs = s.runs)
    (hpending : ∀ cmd, s.Pending H cmd → s'.Pending H cmd)
    (howes : ∀ cmd, s.Owes H cmd → s'.Pending H cmd ∨ s'.Owes H cmd)
    (hthread : ∀ r, s'.thread = some r → r.Tracked H) : Covered H s' := by
  refine ⟨fun cmd hcmd => ?_, hthread⟩
  rw [hruns] at hcmd
  rcases h.runs cmd hcmd with hcovered | hcovered
  · exact .inl (hpending cmd hcovered)
  · exact howes cmd hcovered

lemma covered_start (h : Covered H s) (hok : StreamsEnd H s (.start cmd)) (hjoining : s.joining = none) :
    Covered H (s.start cmd).2 := by
  rw [Streams.start]
  cases hbegin : s.runs.beginRun cmd with
  | none => exact h
  | some runs =>
      obtain ⟨hidle, hslots⟩ := slots_of_beginRun hbegin
      -- the other run is as it was
      have hother : ∀ c, c ≠ cmd → (runs.slots c).running = true →
          s.Pending H c ∨ s.Owes H c := by
        intro c hne hc
        rw [hslots, Function.update_of_ne hne] at hc
        exact h.runs c hc
      have howes : ∀ c, s.Owes H c → ∃ r, s.thread = some r ∧ r.cmd = c ∧ r.stage ≠ .reported ∧
          ¬ r.Ended H := by
        rintro c (hc | hc)
        · rw [hjoining] at hc
          cases hc
        · exact hc
      dsimp only [Streams.egress]
      split
      · next hstreaming =>
          refine ⟨fun c hc => ?_, h.thread⟩
          by_cases hne : c = cmd
          · subst hne
            cases c with
            | CorpusRefresh => exact .inl (pending_report (finished_unreachableDoc (.inl rfl)))
            | BenchtestRun =>
                have hpending : s.Pending H .BenchtestRun := hok rfl hidle hstreaming
                exact .inl (hpending.report _ _)
          · rcases hother c hne hc with hpending | hc'
            · exact .inl (hpending.report _ _)
            · exact .inr (.inr (howes c hc'))
      · refine ⟨fun c hc => ?_, h.thread⟩
        by_cases hne : c = cmd
        · subst hne
          exact .inr (.inl rfl)
        · rcases hother c hne hc with hpending | hc'
          · exact .inl hpending
          · exact .inr (.inr (howes c hc'))

lemma covered_dispatch (h : Covered H s) (hs : s.dispatch H = some s') : Covered H s' := by
  rw [Streams.dispatch] at hs
  split at hs
  · cases hs
  next c json events hevents =>
  split at hs
  · cases hs
  next runs hdispatch =>
  cases hs
  obtain ⟨finished, hfinished, hslots⟩ := slots_of_dispatch hdispatch
  refine ⟨fun cmd hcmd => ?_, h.thread⟩
  have hflag : (s.runs.slots cmd).running = true ∧ (cmd = c → finished = false) := by
    rw [hslots] at hcmd
    by_cases hne : cmd = c
    · subst hne
      simpa using hcmd
    · rw [Function.update_of_ne hne] at hcmd
      exact ⟨hcmd, fun heq => absurd heq hne⟩
  obtain ⟨hrunning, hnot⟩ := hflag
  rcases h.runs cmd hrunning with ⟨q, hmem, hcmd', hends⟩ | howes
  · -- the document dispatched was not the one
    rw [hevents, List.cons_append, List.mem_cons] at hmem
    rcases hmem with rfl | hmem
    · rw [hfinished, hnot hcmd'.symm] at hends
      cases hends
    · exact .inl ⟨q, hmem, hcmd', hends⟩
  · exact .inr howes

lemma covered_spawn (h : Covered H s) (hs : s.spawn = some s') : Covered H s' := by
  rw [Streams.spawn] at hs
  split at hs
  · next c hjoining hthread =>
      cases hs
      refine h.of_frame rfl (fun _ hpending => hpending) ?_ ?_
      · rintro cmd (hcmd | ⟨r, hr, -⟩)
        · cases hjoining.symm.trans hcmd
          refine .inr (.inr ⟨_, rfl, rfl, by simp, ?_⟩)
          rintro ⟨p, hp, -⟩
          cases hp
        · cases hthread.symm.trans hr
      · rintro r ⟨⟩
        exact ⟨rfl, fun what hwhat => by cases hwhat⟩
  · cases hs

/-- A step of the thread, taken apart. -/
lemma atStage_eq_some {stage : Stage} {f : StreamRun → Streams} :
    s.atStage stage f = some s' ↔ ∃ r, s.thread = some r ∧ r.stage = stage ∧ s' = f r := by
  rw [Streams.atStage]
  cases s.thread with
  | none => simp
  | some r => simp [eq_comm]

/-- An exception of the thread clears `streaming`. -/
lemma threw_eq_some {what : Bytes} (hs : (streams H).next s (.threw what) = some s') :
    ∃ r, s.thread = some r ∧
      s' = { s with streaming := false, thread := some { r with stage := .threw what } } := by
  dsimp only [streams] at hs
  split at hs
  · cases hs
  next r hr =>
  split at hs
  · cases hs
  · cases hs
    exact ⟨r, hr, rfl⟩

/-- What was thrown is reported last. -/
lemma reported_eq_some (hs : (streams H).next s .reported = some s') :
    ∃ r what, s.thread = some r ∧ r.stage = .threw what ∧
      s' = ({ s with thread := none } : Streams).report r.cmd (unreachableDoc r.cmd what) := by
  dsimp only [streams] at hs
  split at hs
  · cases hs
  next r hr =>
  split at hs
  · next what hstage =>
      cases hs
      exact ⟨r, what, hr, hstage, rfl⟩
  · cases hs

lemma covered_progress {p : Progress} {r : StreamRun} (h : Covered H s) (hr : s.thread = some r)
    (hstage : r.stage = .reading) :
    Covered H (({ s with thread := some (r.onProgress H p) } : Streams).report r.cmd (H.toJson p)) := by
  have htracked := h.thread r hr
  refine h.of_frame rfl (fun cmd hpending => hpending.report _ _) ?_ ?_
  · rintro cmd (hjoining | ⟨r', hr', rfl, -, hnot⟩)
    · exact .inr (.inl hjoining)
    · cases hr.symm.trans hr'
      by_cases hp : p.final = true ∧ (H.print p).isSome = true
      · exact .inl (pending_report (finished_toJson hp.1 hp.2))
      · refine .inr (.inr ⟨r.onProgress H p, rfl, rfl, ?_, ?_⟩)
        · show r.stage ≠ .reported
          rw [hstage]
          exact Stage.noConfusion
        · rintro ⟨q, hq, hfinal⟩
          rcases List.mem_append.mp hq with hq | hq
          · exact hnot ⟨q, hq, hfinal⟩
          · cases List.mem_singleton.mp hq
            exact hp hfinal
  · rintro r' ⟨⟩
    refine ⟨?_, fun what hwhat => ?_⟩
    · show (r.sawFinal || saysFinal (H.toJson p)) = (r.received ++ [p]).any _
      rw [List.any_append, List.any_cons, List.any_nil, Bool.or_false, htracked.sawFinal]
    · cases hstage.symm.trans hwhat

/-- The document a stream without a final one ends with. -/
lemma finished_terminal {status : Status} {r : StreamRun} (hjson : r.terminal status = some json)
    (h : saysCancelled (r.finishError status) = true ∨ Tells H r.cmd (r.endReason status)) :
    H.finished json = .ok true := by
  simp only [StreamRun.terminal, Option.ite_none_left_eq_some] at hjson
  obtain ⟨-, hjson⟩ := hjson
  split at hjson
  · cases hjson
    exact finished_cancelledDoc
  · next hnot =>
      cases hjson
      exact finished_unreachableDoc (h.resolve_left hnot)

lemma covered_ended {status : Status} {r : StreamRun} (h : Covered H s)
    (hok : StreamsEnd H s (.ended status)) (hr : s.thread = some r) :
    Covered H (s.ended status r) := by
  have htracked := h.thread r hr
  have hreported : ({ r with stage := .reported } : StreamRun).Tracked H :=
    ⟨htracked.sawFinal, fun what hwhat => by cases hwhat⟩
  rw [Streams.ended]
  cases hterminal : r.terminal status with
  | none =>
      refine h.of_frame rfl (fun _ hpending => hpending) ?_ fun r' hr' => by cases hr'; exact hreported
      rintro cmd (hjoining | ⟨r', hr', rfl, -, hnot⟩)
      · exact .inr (.inl hjoining)
      · -- nothing is reported where a final document was seen
        cases hr.symm.trans hr'
        obtain ⟨hnone, -⟩ := (hok r hr).resolve_left hnot
        have hsaw : r.sawFinal = false := by
          rw [htracked.sawFinal]
          exact List.any_eq_false.mpr fun p hp => by simp [hnone p hp]
        rw [StreamRun.terminal, hsaw, if_neg Bool.false_ne_true] at hterminal
        split at hterminal <;> cases hterminal
  | some json =>
      refine h.of_frame rfl (fun cmd hpending => hpending.report _ _) ?_
        fun r' hr' => by cases hr'; exact hreported
      rintro cmd (hjoining | ⟨r', hr', rfl, -, hnot⟩)
      · exact .inr (.inl hjoining)
      · cases hr.symm.trans hr'
        obtain ⟨-, hends⟩ := (hok r hr).resolve_left hnot
        exact .inl (pending_report (finished_terminal hterminal hends))

lemma covered_cleared {r : StreamRun} (h : Covered H s) (hr : s.thread = some r)
    (hstage : r.stage = .reported) :
    Covered H { s with streaming := false, thread := none } := by
  refine h.of_frame rfl (fun _ hpending => hpending) ?_ fun r' hr' => by cases hr'
  rintro cmd (hjoining | ⟨r', hr', -, hnot, -⟩)
  · exact .inr (.inl hjoining)
  · cases hr.symm.trans hr'
    exact absurd hstage hnot

lemma covered_threw {what : Bytes} {r : StreamRun} (h : Covered H s)
    (hok : StreamsEnd H s (.threw what)) (hr : s.thread = some r) :
    Covered H { s with streaming := false, thread := some { r with stage := .threw what } } := by
  refine h.of_frame rfl (fun _ hpending => hpending) ?_ ?_
  · rintro cmd (hjoining | ⟨r', hr', rfl, -, hnot⟩)
    · exact .inr (.inl hjoining)
    · cases hr.symm.trans hr'
      exact .inr (.inr ⟨_, rfl, rfl, Stage.noConfusion, hnot⟩)
  · rintro r' ⟨⟩
    refine ⟨(h.thread r hr).sawFinal, fun what' hwhat => ?_⟩
    cases hwhat
    exact hok r hr

lemma covered_reported {what : Bytes} {r : StreamRun} (h : Covered H s) (hr : s.thread = some r)
    (hstage : r.stage = .threw what) :
    Covered H (({ s with thread := none } : Streams).report r.cmd (unreachableDoc r.cmd what)) := by
  refine h.of_frame rfl (fun cmd hpending => hpending.report _ _) ?_ fun r' hr' => by cases hr'
  rintro cmd (hjoining | ⟨r', hr', rfl, -, hnot⟩)
  · exact .inr (.inl hjoining)
  · cases hr.symm.trans hr'
    have htells := ((h.thread r hr).threw what hstage).resolve_left hnot
    exact .inl (pending_report (finished_unreachableDoc htells))

/-- A step of the main loop is one while it does not wait. -/
lemma loop_eq_some {f : Streams → Option Streams} :
    s.loop f = some s' ↔ s.joining = none ∧ f s = some s' := by
  rw [Streams.loop, Option.ite_none_right_eq_some]

/-- **Every step that meets the condition keeps runs covered.** -/
theorem covered_next {l : StreamStep} (h : Covered H s) (hok : StreamsEnd H s l)
    (hs : (streams H).next s l = some s') : Covered H s' := by
  dsimp only [streams] at hs
  cases l with
  | start cmd =>
      obtain ⟨hjoining, hs⟩ := loop_eq_some.mp hs
      cases hs
      exact covered_start h hok hjoining
  | cancel cmd =>
      obtain ⟨-, hs⟩ := loop_eq_some.mp hs
      cases hs
      exact h
  | poll =>
      obtain ⟨-, hs⟩ := loop_eq_some.mp hs
      cases hs
      exact h.of_frame rfl (fun _ hpending => hpending.poll) (fun _ howes => .inr howes) h.thread
  | dispatch =>
      obtain ⟨-, hs⟩ := loop_eq_some.mp hs
      exact covered_dispatch h hs
  | spawn => exact covered_spawn h hs
  | progress p =>
      obtain ⟨r, hr, hstage, rfl⟩ := atStage_eq_some.mp hs
      exact covered_progress h hr hstage
  | ended status =>
      obtain ⟨r, hr, -, rfl⟩ := atStage_eq_some.mp hs
      exact covered_ended h hok hr
  | cleared =>
      obtain ⟨r, hr, hstage, rfl⟩ := atStage_eq_some.mp hs
      exact covered_cleared h hr hstage
  | threw what =>
      obtain ⟨r, hr, rfl⟩ := threw_eq_some (H := H) hs
      exact covered_threw h hok hr
  | reported =>
      obtain ⟨r, what, hr, hstage, rfl⟩ := reported_eq_some (H := H) hs
      exact covered_reported h hr hstage

lemma covered_init (h : (streams H).init s) : Covered H s := by
  cases h
  refine ⟨fun cmd hcmd => ?_, fun r hr => ?_⟩
  · cases hcmd
  · cases hr

end Invariant

/-! ### Whole runs -/

section Runs

variable {H} {s t : Streams} {tr : List (Streams × StreamStep)}

/-- **The end of runs**: where every step meets the condition, no run is running in any
state reached in which no stream is and everything reported is dispatched. -/
theorem runs_end (h0 : (streams H).init s) (h : (streams H).Run s tr t)
    (hok : ∀ p ∈ tr, StreamsEnd H p.1 p.2) (hidle : t.Idle) :
    t.runs.corpusRefreshing = false ∧ t.runs.benchtestRunning = false := by
  have hcovered : Covered H t :=
    h.invariant_of_forall (covered_init h0) (fun u l u' hu hl hs => covered_next hu hl hs) hok
  have hnone : ∀ cmd, (t.runs.slots cmd).running = false := by
    intro cmd
    refine Bool.eq_false_iff.mpr fun hrunning => ?_
    rcases hcovered.runs cmd hrunning with ⟨q, hmem, -⟩ | hjoining | ⟨r, hr, -⟩
    · rw [hidle.events, hidle.done] at hmem
      cases hmem
    · rw [hidle.joining] at hjoining
      cases hjoining
    · rw [hidle.thread] at hr
      cases hr
  exact ⟨hnone .CorpusRefresh, hnone .BenchtestRun⟩

end Runs

/-! ### Runs left running -/

/-- A run that is running, with no document of it on its way and no stream of it. -/
structure Stranded (s : Streams) (cmd : StreamCmd) : Prop where
  running : (s.runs.slots cmd).running = true
  queued : ∀ q ∈ s.events ++ s.done, q.1 ≠ cmd
  joining : s.joining ≠ some cmd
  thread : ∀ r, s.thread = some r → r.cmd ≠ cmd

section Stranded

variable {H} {s s' t : Streams} {tr : List (Streams × StreamStep)} {cmd : StreamCmd}

/-- A run that is running is refused. -/
lemma start_of_running (h : (s.runs.slots cmd).running = true) : s.start cmd = (409, s) := by
  have hnone : s.runs.beginRun cmd = none := by
    cases cmd <;> simp [RunSlots.beginRun, RunSlots.beginCorpusRefresh, RunSlots.beginBenchtestRun,
      RunSlots.begin, h]
  rw [Streams.start, hnone]

lemma Stranded.report (h : Stranded s cmd) {c : StreamCmd} (hne : c ≠ cmd) (json : Bytes) :
    Stranded (s.report c json) cmd := by
  refine ⟨h.running, fun q hq => ?_, h.joining, h.thread⟩
  have hq' : q ∈ (s.events ++ s.done) ++ [(c, json)] := by
    rw [List.append_assoc]
    exact hq
  rcases List.mem_append.mp hq' with hq' | hq'
  · exact h.queued q hq'
  · cases List.mem_singleton.mp hq'
    exact hne

lemma Stranded.withThread (h : Stranded s cmd) (streaming : Bool) {thread : Option StreamRun}
    (hthread : ∀ r, thread = some r → r.cmd ≠ cmd) : Stranded { s with streaming, thread } cmd :=
  ⟨h.running, h.queued, h.joining, hthread⟩

lemma stranded_start (h : Stranded s cmd) (c : StreamCmd) : Stranded (s.start c).2 cmd := by
  by_cases hne : c = cmd
  · subst hne
    rw [start_of_running h.running]
    exact h
  rw [Streams.start]
  cases hbegin : s.runs.beginRun c with
  | none => exact h
  | some runs =>
      have hruns : Stranded { s with runs } cmd := by
        refine ⟨?_, h.queued, h.joining, h.thread⟩
        show (runs.slots cmd).running = true
        rw [(slots_of_beginRun hbegin).2, Function.update_of_ne (Ne.symm hne)]
        exact h.running
      dsimp only [Streams.egress]
      split
      · exact hruns.report hne _
      · refine ⟨hruns.running, hruns.queued, fun hjoining => ?_, hruns.thread⟩
        cases hjoining
        exact hne rfl

lemma stranded_dispatch (h : Stranded s cmd) (hs : s.dispatch H = some s') : Stranded s' cmd := by
  rw [Streams.dispatch] at hs
  split at hs
  · cases hs
  next c json events hevents =>
  split at hs
  · cases hs
  next runs hdispatch =>
  cases hs
  obtain ⟨finished, -, hslots⟩ := slots_of_dispatch hdispatch
  have hqueued : ∀ q ∈ (c, json) :: (events ++ s.done), q.1 ≠ cmd := by
    rw [← List.cons_append, ← hevents]
    exact h.queued
  obtain ⟨hne, hrest⟩ := List.forall_mem_cons.mp hqueued
  refine ⟨?_, hrest, h.joining, h.thread⟩
  show (runs.slots cmd).running = true
  rw [hslots, Function.update_of_ne (Ne.symm hne)]
  exact h.running

/-- **A stranded run stays so.** -/
lemma stranded_next {l : StreamStep} (h : Stranded s cmd) (hs : (streams H).next s l = some s') :
    Stranded s' cmd := by
  dsimp only [streams] at hs
  cases l with
  | start c =>
      obtain ⟨-, hs⟩ := loop_eq_some.mp hs
      cases hs
      exact stranded_start h c
  | cancel c =>
      obtain ⟨-, hs⟩ := loop_eq_some.mp hs
      cases hs
      exact h
  | poll =>
      obtain ⟨-, hs⟩ := loop_eq_some.mp hs
      cases hs
      refine ⟨h.running, fun q hq => h.queued q ?_, h.joining, h.thread⟩
      rwa [Streams.poll, List.append_nil] at hq
  | dispatch =>
      obtain ⟨-, hs⟩ := loop_eq_some.mp hs
      exact stranded_dispatch h hs
  | spawn =>
      dsimp only [Streams.spawn] at hs
      split at hs
      · next c hjoining _ =>
          cases hs
          refine ⟨h.running, h.queued, by simp, ?_⟩
          rintro r ⟨⟩ rfl
          exact h.joining hjoining
      · cases hs
  | progress p =>
      obtain ⟨r, hr, -, rfl⟩ := atStage_eq_some.mp hs
      refine Stranded.report (h.withThread s.streaming ?_) (h.thread r hr) _
      rintro r' ⟨⟩
      exact h.thread r hr
  | ended status =>
      obtain ⟨r, hr, -, rfl⟩ := atStage_eq_some.mp hs
      have hthread : Stranded { s with thread := some { r with stage := .reported } } cmd := by
        refine h.withThread s.streaming ?_
        rintro r' ⟨⟩
        exact h.thread r hr
      rw [Streams.ended]
      cases r.terminal status with
      | none => exact hthread
      | some json => exact hthread.report (h.thread r hr) json
  | cleared =>
      obtain ⟨r, hr, -, rfl⟩ := atStage_eq_some.mp hs
      exact h.withThread false fun r' hr' => by cases hr'
  | threw what =>
      obtain ⟨r, hr, rfl⟩ := threw_eq_some (H := H) hs
      refine h.withThread false ?_
      rintro r' ⟨⟩
      exact h.thread r hr
  | reported =>
      obtain ⟨r, what, hr, -, rfl⟩ := reported_eq_some (H := H) hs
      exact Stranded.report (h.withThread s.streaming fun r' hr' => by cases hr') (h.thread r hr) _

/-- **For ever**: every later start is refused. -/
theorem stranded_run (h : Stranded s cmd) (hrun : (streams H).Run s tr t) :
    t.start cmd = (409, t) := by
  have hstranded : Stranded t cmd :=
    hrun.invariant (I := fun u => Stranded u cmd) h fun u l u' hu hs => stranded_next hu hs
  exact start_of_running hstranded.running

end Stranded

namespace Sample

/-- A last message, and one before. -/
def doneDoc : Bytes := textBytes "\x7b\"stage\":\"done\",\"final\":true\x7d"

/-- A message before. -/
def fetchDoc : Bytes := textBytes "\x7b\"stage\":\"fetch\",\"final\":false\x7d"

/-- The document of a run without an answer. -/
def closedDoc : Bytes := unreachableDoc .BenchtestRun (textBytes "the stream closed")

lemma take_failedDoc (reason : Bytes) :
    (unreachableDoc .CorpusRefresh reason).take 12 = textBytes "\x7b\"stage\":\"fa" := by
  rw [unreachableDoc, List.append_assoc, List.take_append_of_le_length (by decide)]
  decide

/-- Messages of two kinds, read and written. -/
def texts : StreamTexts where
  parse b :=
    if b = doneDoc then some (.obj [("final", .bool true), ("stage", .str "done")])
    else if b = fetchDoc then some (.obj [("final", .bool false), ("stage", .str "fetch")])
    else if b = cancelledDoc then some (.obj [("final", .bool true), ("stage", .str "cancelled")])
    else if b = closedDoc then some (.obj [("error", .str "the stream closed")])
    else none
  print p := some (if p.final then doneDoc else fetchDoc)
  parse_print := by
    rintro ⟨final, error, fields⟩ text ⟨⟩
    cases final with
    | true => exact ⟨_, if_pos rfl, rfl⟩
    | false =>
        have hne : fetchDoc ≠ doneDoc := by decide
        exact ⟨_, (if_neg hne).trans (if_pos rfl), rfl⟩
  parse_cancelled := by decide
  parse_failed := by
    intro reason j hj
    have hne : ∀ doc : Bytes, doc.take 12 ≠ textBytes "\x7b\"stage\":\"fa" →
        unreachableDoc .CorpusRefresh reason ≠ doc :=
      fun doc htake heq => htake (heq ▸ take_failedDoc reason)
    rw [if_neg (hne doneDoc (by decide)), if_neg (hne fetchDoc (by decide)),
      if_neg (hne cancelledDoc (by decide)), if_neg (hne closedDoc (by decide))] at hj
    cases hj

/-- A benchtest run that is cancelled: the call leaves no error, and the document about
the stream that closed is not final. -/
def cancelledRun : List StreamStep :=
  [.start .BenchtestRun, .spawn, .progress ⟨false, [], []⟩, .cancel .BenchtestRun,
    .ended (.failed true (textBytes "CANCELLED")), .cleared, .poll, .dispatch, .dispatch]

/-- A refresh, and a benchtest run after it. -/
def finishedRuns : List StreamStep :=
  [.start .CorpusRefresh, .spawn, .progress ⟨false, [], []⟩, .ended (.failed false []), .cleared,
    .poll, .start .BenchtestRun, .spawn, .dispatch, .dispatch, .progress ⟨true, [], []⟩, .poll,
    .dispatch, .ended .ok, .cleared]

/-- What is left of a run. -/
def quiet (t : Streams) : Bool :=
  t.thread.isNone && t.joining.isNone && t.events.isEmpty && t.done.isEmpty

lemma exec_cancelledRun : ((streams texts).exec {} cancelledRun).map
    (fun t => (quiet t, t.runs.benchtestRunning)) = some (true, true) := by
  decide

lemma exec_finishedRuns : ((streams texts).exec {} finishedRuns).map
    (fun t => (quiet t, t.runs.benchtestRunning)) = some (true, false) := by
  decide

lemma streamsEnd_finishedRuns : ∀ p ∈ (streams texts).trace {} finishedRuns,
    StreamsEnd texts p.1 p.2 := by
  decide

lemma idle_of_quiet {t : Streams} (h : quiet t = true) : t.Idle := by
  simp only [quiet, Bool.and_eq_true, Option.isNone_iff_eq_none, List.isEmpty_iff] at h
  obtain ⟨⟨⟨hthread, hjoining⟩, hevents⟩, hdone⟩ := h
  exact ⟨hthread, hjoining, hevents, hdone⟩

end Sample

/-- **A run left running**: a benchtest run is cancelled, all is quiet, and every later
start is refused. -/
theorem run_left_running : ∃ t, (streams Sample.texts).exec {} Sample.cancelledRun = some t ∧
    t.Idle ∧ t.runs.benchtestRunning = true ∧
    ∀ tr u, (streams Sample.texts).Run t tr u → u.start .BenchtestRun = (409, u) := by
  obtain ⟨t, hexec, hend⟩ := Option.map_eq_some_iff.mp Sample.exec_cancelledRun
  have hidle : t.Idle := Sample.idle_of_quiet (congrArg Prod.fst hend)
  have hrunning : t.runs.benchtestRunning = true := congrArg Prod.snd hend
  have hstranded : Stranded t .BenchtestRun := by
    refine ⟨hrunning, ?_, ?_, ?_⟩
    · simp [hidle.events, hidle.done]
    · simp [hidle.joining]
    · simp [hidle.thread]
  exact ⟨t, hexec, hidle, hrunning, fun tr u hrun => stranded_run hstranded hrun⟩

/-- The end of runs, on two that end. -/
theorem runs_end_finished : ∃ t, (streams Sample.texts).exec {} Sample.finishedRuns = some t ∧
    t.runs.corpusRefreshing = false ∧ t.runs.benchtestRunning = false := by
  obtain ⟨t, hexec, hend⟩ := Option.map_eq_some_iff.mp Sample.exec_finishedRuns
  exact ⟨t, hexec, runs_end rfl (Machine.exec_run hexec) Sample.streamsEnd_finishedRuns
    (Sample.idle_of_quiet (congrArg Prod.fst hend))⟩

end Pretzel.Mgmtd
