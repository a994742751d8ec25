import Pretzel.Engined.Convergence
import Pretzel.Engined.TaskLog
import Pretzel.Fleet.CommitPath
import Pretzel.Fleet.HandOver

/-!
The reload a browser watches: mgmtd with its one reload status, engined with its
queue of tasks, and the frames between them.

* `ReloadWatch.Label`, `reloadWatch`: a batch posted, a read of mgmtd's
  configuration, a restart of mgmtd, a request delivered or lost, a step of
  engined, and a frame of engined that leaves, arrives or is lost.
* `Ended`, `NoEarlyComplete`: a commit that has reached Done or Failed; the
  status says Complete only when every commit forwarded since the start has.
* `Settled`, `ForwardedInTurn`: nothing forwarded is underway and no ok response
  is on its way; a batch is forwarded only then.
* `no_early_complete`: in a run whose batches are forwarded in turn the status
  is never Complete too early.
* `completes_early`: the response to a first commit completes the reload of a
  second.
-/

namespace Pretzel.Fleet

open Nlohmann Ipc Config Mgmtd Engined Reactive

/-! ### The system -/

/-- mgmtd, the frames on their way to engined, engined, and how many of its
frames have left and been taken off. The commits forwarded are numbered: by
`serial` the next, by `startedAt` the first since mgmtd started. -/
structure ReloadWatch where
  mgmtd : MgmtdState := {}
  commitQueueSnapshot : Payload := .json (.arr [])
  serial : ℕ := 0
  startedAt : ℕ := 0
  wire : List (ℕ × IpcMessage Payload) := []
  received : List (ℕ × IpcMessage Payload) := []
  engined : EnginedState
  left : ℕ := 0
  taken : ℕ := 0

namespace ReloadWatch

/-- The steps. -/
inductive Label where
  | post (body : Option Json.Document) (isAdmin : Bool) (load : LoadIO)
  | readConfig (load : LoadIO)
  | restart
  | deliver
  | loseRequest (i : ℕ)
  | engined (l : Engined.Label)
  | send
  | arrive
  | loseAnswer

/-- What a read of mgmtd meets. -/
def source (file : Option Json) (s : ReloadWatch) (load : LoadIO) : ConfigSource :=
  ⟨file, s.engined.table, load⟩

/-- A batch handed to the tx router takes the next number. -/
def forward (out : CommitOutcome) (s : ReloadWatch) : ReloadWatch :=
  match out.sent with
  | none => { s with mgmtd := out.state }
  | some msg =>
      { s with mgmtd := out.state, wire := s.wire ++ [(s.serial, msg)], serial := s.serial + 1 }

/-- What mgmtd makes of a frame of engined: a response ends the reload, a status
replaces the snapshot of the queue. -/
def hear (msg : IpcMessage Payload) (s : ReloadWatch) : ReloadWatch :=
  if msg.header.dst = .Mgmtd then
    match msg.header.cmd with
    | .SettingsCommitResponse => { s with mgmtd := onSettingsCommitResponse msg s.mgmtd }
    | .SettingsCommitStatus =>
        if msg.payload = .empty then s else { s with commitQueueSnapshot := msg.payload }
    | _ => s
  else s

/-- Nothing has started. -/
def Fresh (s : ReloadWatch) : Prop := s = { engined := s.engined } ∧ Engined.Fresh s.engined

end ReloadWatch

open ReloadWatch in
/-- The two processes, over the startup file both read. -/
def reloadWatch (file : Option Json) : Machine ReloadWatch ReloadWatch.Label where
  init := ReloadWatch.Fresh
  next s
    | .post body isAdmin load =>
        match commit (source file s load) isAdmin (body.map Subtype.val) s.mgmtd with
        | .ok out => some (forward out s)
        | .error _ => none
    | .readConfig load =>
        some { s with mgmtd := { s.mgmtd with
          config := (source file s load).fill s.mgmtd.config } }
    | .restart =>
        some { s with mgmtd := {}, commitQueueSnapshot := .json (.arr []), startedAt := s.serial }
    | .deliver =>
        match s.wire with
        | [] => none
        | (n, msg) :: wire =>
            ((engined file).next s.engined (.receive msg)).map fun e =>
              { s with wire, received := s.received ++ [(n, msg)], engined := e }
    | .loseRequest i => some { s with wire := s.wire.eraseIdx i }
    | .engined l =>
        if isForeign l then
          ((engined file).next s.engined l).map fun e => { s with engined := e }
        else none
    | .send =>
        -- the transmit ring is drained by the poll, before the timers and the queues
        if s.engined.phase = .polling ∧ s.left < s.engined.sent.length then
          some { s with left := s.left + 1 }
        else none
    | .arrive =>
        if s.taken < s.left then
          (s.engined.sent[s.taken]?).map fun msg => hear msg { s with taken := s.taken + 1 }
        else none
    | .loseAnswer => if s.taken < s.left then some { s with taken := s.taken + 1 } else none

namespace ReloadWatch

/-! ### The law -/

/-- The commit of this number has reached Done or Failed: the task engined made
of it has. engined numbers its tasks in the order it receives them. -/
def Ended (s : ReloadWatch) (n : ℕ) : Prop :=
  ∃ i msg, s.received[i]? = some (n, msg) ∧ ∃ t ∈ s.engined.history.finished,
    t.id = i + 1 ∧ t.payload = msg.payload ∧ (t.status = .Done ∨ t.status = .Failed)

/-- The status is Complete only when every commit forwarded since mgmtd started
has ended. -/
def NoEarlyComplete (s : ReloadWatch) : Prop :=
  s.mgmtd.reloadStatus = .Complete → ∀ n, s.startedAt ≤ n → n < s.serial → s.Ended n

/-- A response that completes a reload. -/
def isOkResponse (m : IpcMessage Payload) : Bool := isResponse m && responseOk m

/-- The frames of engined that mgmtd has yet to take off. -/
def onTheirWay (s : ReloadWatch) : List (IpcMessage Payload) := s.engined.sent.drop s.taken

/-- Every commit forwarded since mgmtd started has ended, no other one is
underway, and no ok response is on its way. -/
structure Settled (s : ReloadWatch) : Prop where
  ended : ∀ n, s.startedAt ≤ n → n < s.serial → s.Ended n
  wire : s.wire = []
  idle : underway s.engined = 0
  answers : ∀ m ∈ s.onTheirWay, isOkResponse m = false

/-- A batch mgmtd accepts is posted when everything has settled. -/
def ForwardedInTurn (file : Option Json) (s : ReloadWatch) : Label → Prop
  | .post body isAdmin load => ∀ changes,
      Publishable (source file s load) isAdmin (body.map Subtype.val) s.mgmtd changes → s.Settled
  | _ => True

/-! ### The invariant -/

/-- The commits forwarded that have not ended, lost ones apart. -/
def unsettled (s : ReloadWatch) : ℕ := s.wire.length + underway s.engined

/-- The frames that have left engined and not been taken off. -/
def gone (s : ReloadWatch) : List (IpcMessage Payload) := (s.engined.sent.take s.left).drop s.taken

/-- A commit as mgmtd sends it. -/
def IsCommit (msg : IpcMessage Payload) : Prop :=
  ∃ changes, msg = buildSettingsCommitRequest changes

/-- What holds between the steps of a run whose batches are forwarded in turn:
one commit at most is unsettled; while an ok response is on its way it is the
one whose completion waits, and once that response has left there is none; and
no commit since the start is missing, but where nothing will complete. -/
structure InTurn (s : ReloadWatch) : Prop where
  tracked : Tracked s.engined
  recorded : Recorded s.engined
  drained : Drained s.engined
  log : taskLog s.engined = s.received.map fun p => p.2.payload
  commits : ∀ p ∈ s.wire ++ s.received, IsCommit p.2
  taken : s.taken ≤ s.left
  left : s.left ≤ s.engined.sent.length
  single : s.unsettled ≤ 1
  answering : ∀ m ∈ s.onTheirWay, isOkResponse m = true →
    s.unsettled = (pipelineOf s.engined).inflight.length
  answered : ∀ m ∈ s.gone, isOkResponse m = true → s.unsettled = 0
  complete : s.mgmtd.reloadStatus = .Complete → s.unsettled = 0
  kept : (∀ n, s.startedAt ≤ n → n < s.serial → n ∈ (s.wire ++ s.received).map Prod.fst) ∨
    (s.unsettled = 0 ∧ (∀ m ∈ s.onTheirWay, isOkResponse m = false) ∧
      s.mgmtd.reloadStatus ≠ .Complete)

section Steps

variable {file : Option Json} {s s' : ReloadWatch}

/-- With nothing unsettled, what was forwarded and not lost has ended. -/
lemma InTurn.ended (h : InTurn s) (hzero : s.unsettled = 0) {n : ℕ}
    (hn : n ∈ (s.wire ++ s.received).map Prod.fst) : s.Ended n := by
  rw [unsettled, underway] at hzero
  have hwire : s.wire = [] := List.length_eq_zero_iff.mp (by omega)
  have hwaiting : waiting s.engined = [] := List.length_eq_zero_iff.mp (by omega)
  rw [hwire, List.nil_append] at hn
  obtain ⟨⟨n', msg⟩, hmem, rfl⟩ := List.mem_map.mp hn
  obtain ⟨i, hi⟩ := List.mem_iff_getElem?.mp hmem
  have hlog := h.log
  rw [taskLog, hwaiting, List.append_nil] at hlog
  have hpayload : (pipelineOf s.engined).payloads[i]? = some msg.payload := by
    rw [hlog, List.getElem?_map, hi]
    rfl
  obtain ⟨t, ht, hid, hsame, hfin⟩ :=
    h.tracked.1.toLedger.ended_of_unfinished (by omega) hpayload
  exact ⟨i, msg, hi, t, ht, hid, hsame, isFinished_iff.mp hfin⟩

/-- **Under the invariant the status is not Complete too early.** -/
theorem InTurn.noEarlyComplete (h : InTurn s) : NoEarlyComplete s := by
  intro hcomplete n hstart hn
  have hzero := h.complete hcomplete
  rcases h.kept with hkept | ⟨-, -, hne⟩
  · exact h.ended hzero (hkept n hstart hn)
  · exact absurd hcomplete hne

lemma inTurn_fresh (h : Fresh s) : InTurn s := by
  obtain ⟨heq, tbl, dbReady, preflighted, hengined⟩ := h
  have htracked : Tracked s.engined := tracked_fresh ⟨tbl, dbReady, preflighted, hengined⟩
  rw [hengined] at heq htracked
  subst heq
  refine ⟨htracked, ⟨rfl, by simp [responses]⟩, fun _ => rfl, rfl, by simp, le_rfl, Nat.zero_le _,
    Nat.zero_le _, ?_, ?_, fun _ => rfl, .inl ?_⟩
  · simp [onTheirWay]
  · simp [gone]
  · intro n _ hn
    cases hn

/-- A step of mgmtd that completes nothing. -/
lemma InTurn.of_mgmtd (h : InTurn s) {m : MgmtdState} {snapshot : Payload}
    (hm : m.reloadStatus = .Complete → s.mgmtd.reloadStatus = .Complete) :
    InTurn { s with mgmtd := m, commitQueueSnapshot := snapshot } :=
  ⟨h.tracked, h.recorded, h.drained, h.log, h.commits, h.taken, h.left, h.single, h.answering,
    h.answered, fun hc => h.complete (hm hc),
    h.kept.imp_right fun hk => ⟨hk.1, hk.2.1, fun hc => hk.2.2 (hm hc)⟩⟩

/-- A post. -/
lemma inTurn_post {body : Option Json.Document} {isAdmin : Bool} {load : LoadIO}
    {out : CommitOutcome} (h : InTurn s) (hturn : ForwardedInTurn file s (.post body isAdmin load))
    (hcommit : commit (source file s load) isAdmin (body.map Subtype.val) s.mgmtd = .ok out) :
    InTurn (forward out s) := by
  rcases commit_cases hcommit with ⟨changes, hpublishable, hsent, -⟩ | ⟨-, hsent, -, -, hstatus⟩
  · have hsettled := hturn changes hpublishable
    have hstatus : out.state.reloadStatus = .Reloading := by
      have hsorted : ∀ j, body.map Subtype.val = some j → j.isSorted = true := by
        intro j hj
        obtain ⟨doc, -, rfl⟩ := Option.map_eq_some_iff.mp hj
        exact doc.property
      obtain ⟨-, -, -, -, -, -, -, config, -, hstate⟩ := commit_sent hcommit hsorted hsent
      rw [hstate]
      rfl
    have hone : unsettled { s with mgmtd := out.state, wire := s.wire ++
        [(s.serial, buildSettingsCommitRequest changes)], serial := s.serial + 1 } = 1 := by
      rw [unsettled, hsettled.wire]
      show 1 + underway s.engined = 1
      rw [hsettled.idle]
    have hquiet : ∀ m ∈ s.onTheirWay, ¬ isOkResponse m = true :=
      fun m hm => Bool.eq_false_iff.mp (hsettled.answers m hm)
    have hgone : ∀ m ∈ s.gone, m ∈ s.onTheirWay := by
      intro m hm
      rw [gone, List.drop_take] at hm
      exact List.mem_of_mem_take hm
    rw [forward, hsent]
    refine ⟨h.tracked, h.recorded, h.drained, h.log, ?_, h.taken, h.left, hone.le,
      fun m hm hok => absurd hok (hquiet m hm),
      fun m hm hok => absurd hok (hquiet m (hgone m hm)),
      fun hc => absurd (hstatus.symm.trans hc) (by simp), .inl ?_⟩
    · intro p hp
      simp only [List.mem_append, List.mem_singleton] at hp
      rcases hp with (hp | rfl) | hp
      · exact h.commits p (List.mem_append_left _ hp)
      · exact ⟨changes, rfl⟩
      · exact h.commits p (List.mem_append_right _ hp)
    · intro n hstart hn
      have hn' : n < s.serial + 1 := hn
      rcases Nat.lt_succ_iff_lt_or_eq.mp hn' with hlt | rfl
      · obtain ⟨i, msg, hi, -⟩ := hsettled.ended n hstart hlt
        exact List.mem_map.mpr ⟨(n, msg), List.mem_append_right _ (List.mem_of_getElem? hi), rfl⟩
      · simp
  · rw [forward, hsent]
    exact h.of_mgmtd (by rw [hstatus]; exact id)

/-- A completion that waits is that of a commit underway. -/
lemma InTurn.inflight_le (h : InTurn s) :
    (pipelineOf s.engined).carried + (pipelineOf s.engined).inflight.length ≤ underway s.engined ∧
      (pipelineOf s.engined).carried + (pipelineOf s.engined).inflight.length ≤ 1 := by
  have htoken := h.tracked.1.token
  have hsingle := h.tracked.1.single
  have hle := Pipeline.runningCount_le_unfinished (v := pipelineOf s.engined)
  rw [underway]
  omega

/-- **A step of engined**, with the commit it receives taken off the wire. -/
lemma inTurn_engined {l : Engined.Label} {e : EnginedState}
    {moved wire : List (ℕ × IpcMessage Payload)} (h : InTurn s)
    (hs : (Engined.engined file).next s.engined l = some e) (hwire : s.wire = moved ++ wire)
    (harrivals : arrivals l = moved.map fun p => p.2.payload) :
    InTurn { s with wire, received := s.received ++ moved, engined := e } := by
  have hne : NoneEmpty s.engined := by
    intro p hp
    have hmem : p ∈ taskLog s.engined := List.mem_append_right _ hp
    rw [h.log] at hmem
    obtain ⟨q, hq, rfl⟩ := List.mem_map.mp hmem
    obtain ⟨changes, hcommit⟩ := h.commits q (List.mem_append_right _ hq)
    rw [hcommit]
    simp [buildSettingsCommitRequest]
  have htracked := tracked_next h.tracked hs
  have hstep := pipelineOf_next h.tracked hs
  obtain ⟨hends, htakes, hneeds⟩ := Pipeline.token_step hstep
  have hinflight := Pipeline.inflight_step hstep
  have hunderway := underway_next h.tracked hne hs
  obtain ⟨ms, hsent, hsends⟩ := responses_next h.tracked h.recorded hs
  obtain ⟨hle, hone⟩ := h.inflight_le
  have hsingle := h.single
  have htotal : unsettled { s with wire, received := s.received ++ moved, engined := e }
      + (effect s.engined l).ends = s.unsettled := by
    rw [unsettled, unsettled, hwire, List.length_append]
    rw [harrivals, List.length_map] at hunderway
    show wire.length + underway e + _ = _
    omega
  generalize htotal' : unsettled { s with wire, received := s.received ++ moved, engined := e }
    = total at htotal
  have hway : onTheirWay { s with wire, received := s.received ++ moved, engined := e }
      = s.onTheirWay ++ ms := by
    show e.sent.drop s.taken = _
    rw [hsent, List.drop_append_of_le_length (h.taken.trans h.left)]
    rfl
  have hgone : gone { s with wire, received := s.received ++ moved, engined := e } = s.gone := by
    show (e.sent.take s.left).drop s.taken = _
    rw [hsent, List.take_append_of_le_length h.left]
    rfl
  have hnew : ∀ m ∈ ms, isOkResponse m = true → 1 ≤ (effect s.engined l).sends.length := by
    intro m hm hok
    have hmem : m ∈ ms.filter isResponse :=
      List.mem_filter.mpr ⟨hm, ((Bool.and_eq_true _ _).mp hok).1⟩
    rw [hsends] at hmem
    exact List.length_pos_of_mem hmem
  refine ⟨htracked, recorded_next h.tracked h.recorded hs, drained_next h.tracked h.drained hs,
    ?_, ?_, h.taken, ?_, ?_, ?_, ?_, ?_, ?_⟩
  · show taskLog e = (s.received ++ moved).map _
    rw [taskLog_next h.tracked hne hs, h.log, harrivals, List.map_append]
  · intro p hp
    refine h.commits p ?_
    rw [hwire]
    simp only [List.mem_append] at hp ⊢
    tauto
  · show s.left ≤ e.sent.length
    rw [hsent, List.length_append]
    exact h.left.trans (Nat.le_add_right _ _)
  · rw [htotal']
    omega
  · intro m hm hok
    rw [hway] at hm
    rw [htotal']
    show total = (pipelineOf e).inflight.length
    rcases List.mem_append.mp hm with hm | hm
    · have := h.answering m hm hok
      have hunder : underway s.engined ≤ s.unsettled := Nat.le_add_left _ _
      omega
    · have := hnew m hm hok
      have hunder : underway s.engined ≤ s.unsettled := Nat.le_add_left _ _
      omega
  · intro m hm hok
    rw [hgone] at hm
    rw [htotal']
    have := h.answered m hm hok
    omega
  · intro hc
    rw [htotal']
    have := h.complete hc
    omega
  · rcases h.kept with hkept | ⟨hzero, hquiet, hstatus⟩
    · refine .inl fun n hstart hn => ?_
      have hmem := hkept n hstart hn
      rw [hwire] at hmem
      simp only [List.map_append, List.mem_append] at hmem ⊢
      tauto
    · refine .inr ⟨by omega, fun m hm => ?_, hstatus⟩
      rw [hway] at hm
      rcases List.mem_append.mp hm with hm | hm
      · exact hquiet m hm
      · cases hok : isOkResponse m with
        | false => rfl
        | true =>
            have := hnew m hm hok
            have hunder : underway s.engined ≤ s.unsettled := Nat.le_add_left _ _
            omega

/-- A restart of mgmtd. -/
lemma inTurn_restart (h : InTurn s) : InTurn { s with
    mgmtd := {}, commitQueueSnapshot := .json (.arr []), startedAt := s.serial } := by
  refine ⟨h.tracked, h.recorded, h.drained, h.log, h.commits, h.taken, h.left, h.single,
    h.answering, h.answered, ?_, .inl ?_⟩
  · intro hc
    cases hc
  · intro n hstart hn
    exact absurd hn (Nat.not_lt_of_le hstart)

/-- A request lost: it was the one that is unsettled, and nothing will complete
before the next. -/
lemma inTurn_loseRequest (h : InTurn s) (i : ℕ) :
    InTurn { s with wire := s.wire.eraseIdx i } := by
  rcases Nat.lt_or_ge i s.wire.length with hi | hi
  · have hlength : (s.wire.eraseIdx i).length + 1 = s.wire.length := by
      rw [List.length_eraseIdx_of_lt hi]
      omega
    have hsingle := h.single
    have hone : s.unsettled = 1 := by
      rw [unsettled] at hsingle ⊢
      omega
    have hzero : unsettled { s with wire := s.wire.eraseIdx i } = 0 := by
      rw [unsettled] at hsingle
      show (s.wire.eraseIdx i).length + underway s.engined = 0
      omega
    have hquiet : ∀ m ∈ s.onTheirWay, isOkResponse m = false := by
      intro m hm
      refine Bool.eq_false_iff.mpr fun hok => ?_
      have hall := h.answering m hm hok
      have hle := h.inflight_le.1
      rw [unsettled] at hone hall
      omega
    refine ⟨h.tracked, h.recorded, h.drained, h.log, ?_, h.taken, h.left, hzero ▸ Nat.zero_le 1,
      ?_, fun _ _ _ => hzero, fun _ => hzero, .inr ⟨hzero, hquiet, ?_⟩⟩
    · intro p hp
      refine h.commits p (List.mem_append.mpr ((List.mem_append.mp hp).imp_left ?_))
      exact fun hmem => List.mem_of_mem_eraseIdx hmem
    · intro m hm hok
      rw [hquiet m hm] at hok
      cases hok
    · intro hc
      have := h.complete hc
      omega
  · rw [List.eraseIdx_of_length_le hi]
    exact h

/-- A frame leaves engined: its queues are drained. -/
lemma inTurn_send (h : InTurn s) (hphase : s.engined.phase = .polling)
    (hleft : s.left < s.engined.sent.length) : InTurn { s with left := s.left + 1 } := by
  refine ⟨h.tracked, h.recorded, h.drained, h.log, h.commits, h.taken.trans (Nat.le_succ _), hleft,
    h.single, h.answering, fun m hm hok => ?_, h.complete, h.kept⟩
  have hway : m ∈ s.onTheirWay := by
    have hm' : m ∈ (s.engined.sent.take (s.left + 1)).drop s.taken := hm
    rw [List.drop_take] at hm'
    exact List.mem_of_mem_take hm'
  have hnone := h.drained (by rw [hphase]; simp)
  have hall := h.answering m hway hok
  rw [hnone] at hall
  exact hall

/-- A frame taken off, or lost. -/
lemma inTurn_taken (h : InTurn s) (htaken : s.taken < s.left) :
    InTurn { s with taken := s.taken + 1 } := by
  have hdrop : ∀ {m} (l : List (IpcMessage Payload)), m ∈ l.drop (s.taken + 1) → m ∈ l.drop s.taken := by
    intro m l hm
    rw [← List.drop_drop] at hm
    exact List.mem_of_mem_drop hm
  exact ⟨h.tracked, h.recorded, h.drained, h.log, h.commits, htaken, h.left, h.single,
    fun m hm hok => h.answering m (hdrop _ hm) hok, fun m hm hok => h.answered m (hdrop _ hm) hok,
    h.complete, h.kept.imp_right fun hk => ⟨hk.1, fun m hm => hk.2.1 m (hdrop _ hm), hk.2.2⟩⟩

/-- A frame that reaches mgmtd. An ok response has left engined, so that nothing
is unsettled. -/
lemma inTurn_arrive {msg : IpcMessage Payload} (h : InTurn s) (htaken : s.taken < s.left)
    (hmsg : s.engined.sent[s.taken]? = some msg) :
    InTurn (hear msg { s with taken := s.taken + 1 }) := by
  have htook := inTurn_taken h htaken
  obtain ⟨hlt, hget⟩ := List.getElem?_eq_some_iff.mp hmsg
  have hgone : msg ∈ s.gone := by
    rw [gone, List.drop_take, List.drop_eq_getElem_cons hlt, hget]
    have : s.left - s.taken = (s.left - s.taken - 1) + 1 := by omega
    rw [this, List.take_succ_cons]
    exact List.mem_cons_self
  have hway : msg ∈ s.onTheirWay := by
    rw [gone, List.drop_take] at hgone
    exact List.mem_of_mem_take hgone
  rw [hear]
  split
  · split
    · next hcmd =>
        cases hok : responseOk msg with
        | false =>
            refine htook.of_mgmtd fun hc => ?_
            rw [onSettingsCommitResponse, hok] at hc
            cases hc
        | true =>
            have hok' : isOkResponse msg = true := by
              rw [isOkResponse, isResponse, hcmd, hok]
              rfl
            have hzero := h.answered msg hgone hok'
            refine ⟨htook.tracked, htook.recorded, htook.drained, htook.log, htook.commits,
              htook.taken, htook.left, htook.single, htook.answering, htook.answered,
              fun _ => hzero, .inl ?_⟩
            rcases h.kept with hkept | ⟨-, hquiet, -⟩
            · exact hkept
            · rw [hquiet msg hway] at hok'
              cases hok'
    · split
      · exact htook
      · exact htook.of_mgmtd id
    · exact htook
  · exact htook

/-- **Every step in turn keeps the invariant.** -/
theorem inTurn_next {l : Label} (h : InTurn s) (hturn : ForwardedInTurn file s l)
    (hs : (reloadWatch file).next s l = some s') : InTurn s' := by
  cases l with
  | post body isAdmin load =>
      simp only [reloadWatch] at hs
      split at hs
      · next out hcommit =>
          cases hs
          exact inTurn_post h hturn hcommit
      · cases hs
  | readConfig load =>
      cases hs
      exact h.of_mgmtd id
  | restart =>
      cases hs
      exact inTurn_restart h
  | deliver =>
      simp only [reloadWatch] at hs
      split at hs
      · cases hs
      · next n msg wire hwire =>
          obtain ⟨e, hnext, rfl⟩ := Option.map_eq_some_iff.mp hs
          have hmoved : s.wire = [(n, msg)] ++ wire := hwire
          refine inTurn_engined h hnext hmoved ?_
          have hmem : (n, msg) ∈ s.wire ++ s.received := by
            rw [hwire]
            exact List.mem_append_left _ List.mem_cons_self
          obtain ⟨changes, hcommit⟩ := h.commits (n, msg) hmem
          have hmsg : msg = buildSettingsCommitRequest changes := hcommit
          rw [hmsg]
          rfl
  | loseRequest i =>
      cases hs
      exact inTurn_loseRequest h i
  | engined l =>
      simp only [reloadWatch, Option.ite_none_right_eq_some, Option.map_eq_some_iff] at hs
      obtain ⟨hforeign, e, hs, rfl⟩ := hs
      have hmoved : s.wire = [] ++ s.wire := rfl
      have hkeep := inTurn_engined h hs hmoved (arrivals_of_isForeign hforeign)
      rw [List.append_nil] at hkeep
      exact hkeep
  | send =>
      simp only [reloadWatch, Option.ite_none_right_eq_some, Option.some.injEq] at hs
      obtain ⟨⟨hphase, hleft⟩, rfl⟩ := hs
      exact inTurn_send h hphase hleft
  | arrive =>
      simp only [reloadWatch, Option.ite_none_right_eq_some, Option.map_eq_some_iff] at hs
      obtain ⟨htaken, msg, hmsg, rfl⟩ := hs
      exact inTurn_arrive h htaken hmsg
  | loseAnswer =>
      simp only [reloadWatch, Option.ite_none_right_eq_some, Option.some.injEq] at hs
      obtain ⟨htaken, rfl⟩ := hs
      exact inTurn_taken h htaken

end Steps

/-! ### Whole runs -/

section Runs

variable {file : Option Json} {s t : ReloadWatch} {tr : List (ReloadWatch × Label)}

/-- **Commits forwarded in turn are not reported complete early**: in a run where
a batch is forwarded only when every earlier one has ended and no ok response is
on its way, the status is Complete only when every commit forwarded since mgmtd
started has reached Done or Failed. -/
theorem no_early_complete (h0 : Fresh s) (h : (reloadWatch file).Run s tr t)
    (htr : ∀ p ∈ tr, ForwardedInTurn file p.1 p.2) : NoEarlyComplete t := by
  have hinTurn : InTurn t := by
    refine h.invariant_of_forall (C := ForwardedInTurn file) (inTurn_fresh h0) ?_ htr
    intro u l u' hI hC hs
    exact inTurn_next hI hC hs
  exact hinTurn.noEarlyComplete

namespace Sample

/-- Both processes about to start. -/
def boot : ReloadWatch := { engined := Engined.Sample.boot }

lemma fresh_boot : ReloadWatch.Fresh boot := ⟨rfl, Engined.Sample.fresh_boot⟩

/-- A batch posted by an admin. -/
def post : Label :=
  .post (some ⟨.obj [("changes", .arr [Engined.Sample.change "probe" [("interval", .int 30)]])],
    by decide⟩) true Engined.Sample.up

/-- The handshake of engined. -/
def handshake : List Label := Engined.Sample.reconciling.map Label.engined

/-- The timers, and a number of dispatches. -/
def drain (n : ℕ) : List Label :=
  .engined (.schedule (Engined.Sample.tick 0)) ::
    List.replicate n (.engined (.execute (Engined.Sample.dispatch 0)))

/-- The five daemons report a version, from a connection of the same number. -/
def synced (version : ℤ) : Label :=
  .engined (.receive (Engined.Sample.fromIpcd .SyncResponse (.json (.obj [("daemons",
    .arr (kServiceDaemons.map fun d => .obj [("applied_version", .int version),
      ("daemon", .str d.daemonToStr), ("generation", .int version)]))]))))

/-- The daemons report; the frames of engined that follow reach mgmtd. -/
def converge (version : ℤ) (n frames : ℕ) : List Label := List.flatten
  [[synced version], drain n, List.replicate frames .send, List.replicate frames .arrive]

/-- Two batches, the second posted before the first is applied. -/
def overlapping : List Label := List.flatten
  [handshake, [post, post, .deliver, .deliver], drain 4, converge 1 5 12]

/-- Two batches, the second posted when the first is complete. -/
def inTurn : List Label := List.flatten
  [handshake, [post, .deliver], drain 3, converge 1 4 11, [post, .deliver], drain 3, converge 2 4 10]

/-- What the browser is shown, the numbers forwarded and received, and the tasks
that have ended. -/
def shown (s : ReloadWatch) : ReloadStatus × ℕ × ℕ × List ℕ × List ℕ :=
  (s.mgmtd.reloadStatus, s.startedAt, s.serial, s.received.map Prod.fst,
    s.engined.history.finished.map Task.id)

/-- A commit that has ended, decided. -/
def hasEnded (s : ReloadWatch) (n : ℕ) : Bool :=
  s.received.zipIdx.any fun p => decide (p.1.1 = n) && s.engined.history.finished.any fun t =>
    decide (t.id = p.2 + 1) && decide (t.payload = p.1.2.payload) && t.status.isFinished

lemma ended_of_hasEnded {s : ReloadWatch} {n : ℕ} (h : hasEnded s n = true) : s.Ended n := by
  obtain ⟨⟨⟨n', msg⟩, i⟩, hmem, h⟩ := List.any_eq_true.mp h
  rw [Bool.and_eq_true, decide_eq_true_eq, List.any_eq_true] at h
  obtain ⟨rfl, t, ht, h⟩ := h
  simp only [Bool.and_eq_true, decide_eq_true_eq] at h
  exact ⟨i, msg, List.mem_zipIdx_iff_getElem?.mp hmem, t, ht, h.1.1, h.1.2, isFinished_iff.mp h.2⟩

/-- A step in turn, decided. -/
def forwardedInTurn (p : ReloadWatch × Label) : Bool :=
  match p.2 with
  | .post .. =>
      (List.range p.1.serial).all (fun n => hasEnded p.1 n) && p.1.wire.isEmpty &&
        decide (underway p.1.engined = 0) && p.1.onTheirWay.all fun m => !isOkResponse m
  | _ => true

lemma forwardedInTurn_of {p : ReloadWatch × Label} (h : forwardedInTurn p = true) :
    ForwardedInTurn none p.1 p.2 := by
  obtain ⟨s, l⟩ := p
  cases l with
  | post body isAdmin load =>
      intro changes _
      simp only [forwardedInTurn, Bool.and_eq_true, List.all_eq_true, List.mem_range,
        decide_eq_true_eq, List.isEmpty_iff, Bool.not_eq_true'] at h
      exact ⟨fun n _ hn => ended_of_hasEnded (h.1.1.1 n hn), h.1.1.2, h.1.2, h.2⟩
  | _ => trivial

lemma exec_overlapping : ((reloadWatch none).exec boot overlapping).map shown
    = some (.Complete, 0, 2, [0, 1], [1]) := by
  decide

lemma exec_inTurn : ((reloadWatch none).exec boot inTurn).map shown
      = some (.Complete, 0, 2, [0, 1], [1, 2]) ∧
    ((reloadWatch none).trace boot inTurn).all forwardedInTurn = true := by
  decide

end Sample

/-- The law on two batches in turn: the second is complete as well. -/
theorem no_early_complete_inTurn : ∃ t, (reloadWatch none).exec Sample.boot Sample.inTurn = some t ∧
    t.mgmtd.reloadStatus = .Complete ∧ NoEarlyComplete t := by
  obtain ⟨hend, hturns⟩ := Sample.exec_inTurn
  obtain ⟨t, hexec, hshown⟩ := Option.map_eq_some_iff.mp hend
  rw [Sample.shown, Prod.mk.injEq] at hshown
  exact ⟨t, hexec, hshown.1, no_early_complete Sample.fresh_boot (Machine.exec_run hexec)
    fun p hp => Sample.forwardedInTurn_of (List.all_eq_true.mp hturns p hp)⟩

/-- **A first response completes a second reload**: with the second of two
commits running, the status is Complete. -/
theorem completes_early : ¬ ∀ s tr t, ReloadWatch.Fresh s → (reloadWatch none).Run s tr t →
    NoEarlyComplete t := by
  intro hall
  obtain ⟨t, hexec, hshown⟩ := Option.map_eq_some_iff.mp Sample.exec_overlapping
  simp only [Sample.shown, Prod.mk.injEq] at hshown
  obtain ⟨hstatus, hstart, hserial, hreceived, hfinished⟩ := hshown
  obtain ⟨i, msg, hi, u, hu, hid, -⟩ := hall _ _ _ Sample.fresh_boot (Machine.exec_run hexec)
    hstatus 1 (by omega) (by omega)
  have hnumber : (t.received.map Prod.fst)[i]? = some 1 := by
    rw [List.getElem?_map, hi]
    rfl
  have hone : i = 1 := by
    rw [hreceived] at hnumber
    match i with
    | 0 => cases hnumber
    | 1 => rfl
    | k + 2 => cases hnumber
  have hmem : u.id ∈ t.engined.history.finished.map Task.id := List.mem_map_of_mem hu
  rw [hfinished, List.mem_singleton] at hmem
  omega

end Runs

end ReloadWatch

end Pretzel.Fleet
