import Pretzel.Engined.CommittedBase
import Pretzel.Mgmtd.State

/-!
What a reload reported successful says about the fleet.

* `Aligned`: a queued `SendRuntimeStart` belongs to the current reload, and
  during a reload the fleet it was queued for is still converged on the target;
  the target is no older than the version committed last.
* `KeepsAligned`: a commit finds no `SendRuntimeStart` queued and reads its
  version back; a sync response handled during a reload, with one queued, leaves
  the fleet converged.
* `reload_converged`: in a run of such steps an ok response goes out only with
  all five daemons connected on its version or a later one.
* `stale_start_completes`: a `SendRuntimeStart` queued behind an `ApplyCommit`
  completes the reload that commit schedules.
-/

namespace Pretzel.Engined

open Nlohmann Ipc Config Mgmtd Reactive

/-! ### The process map -/

lemma keys_enterReport (m : ProcessMap) (daemon : IpcDaemon) (v g : ℕ) :
    (enterReport m daemon v g).map Prod.fst = m.map Prod.fst := by
  rw [enterReport, List.map_map]
  refine List.map_congr_left fun e _ => ?_
  by_cases he : e.1 = daemon <;> simp [he]

lemma keys_dropUnreported (m : ProcessMap) (reported : List IpcDaemon) :
    (dropUnreported m reported).map Prod.fst = m.map Prod.fst := by
  rw [dropUnreported, List.map_map]
  refine List.map_congr_left fun e _ => ?_
  by_cases he : e.1 ∈ reported <;> simp [he]

lemma keys_readSyncItems (items : List Json) (m : ProcessMap) (reported : List IpcDaemon) :
    (readSyncItems m reported items).1.map Prod.fst = m.map Prod.fst := by
  induction items generalizing m reported with
  | nil => rfl
  | cons item rest ih =>
      rw [readSyncItems]
      split
      · rfl
      · exact ih m reported
      · next daemon v g _ => rw [ih, keys_enterReport]

/-- A sync response changes what the daemons report, never which daemons there
are. -/
lemma keys_updateProcessMap (m : ProcessMap) (payload : Payload) :
    (updateProcessMap m payload).1.map Prod.fst = m.map Prod.fst := by
  rw [updateProcessMap.eq_def]
  split
  · next root =>
      split
      · next items _ =>
          have hkeys := keys_readSyncItems items m []
          split
          · next m' reported hread =>
              rw [hread] at hkeys
              rw [keys_dropUnreported, hkeys]
          · next m' hread =>
              rw [hread] at hkeys
              exact hkeys
      · rfl
  · rfl

lemma keys_blessConverged (m : ProcessMap) (target : ℕ) :
    (blessConverged m target).map Prod.fst = m.map Prod.fst := by
  rw [blessConverged, List.map_map]
  refine List.map_congr_left fun e _ => ?_
  by_cases he : e.2.converged target <;> simp [he]

/-- The marks change nobody's convergence. -/
lemma isAllProcessReady_blessConverged (m : ProcessMap) (target : ℕ) :
    isAllProcessReady (blessConverged m target) target = isAllProcessReady m target := by
  have hsame : ∀ e : IpcDaemon × ProcessState,
      (if e.2.converged target then
        (e.1, { e.2 with blessedGeneration := e.2.generation }) else e).2.converged target
        = e.2.converged target := by
    intro e
    split <;> rfl
  have hempty : (blessConverged m target).isEmpty = m.isEmpty := by
    cases m <;> rfl
  rw [isAllProcessReady, isAllProcessReady, hempty, blessConverged, List.all_map]
  congr 2
  funext e
  exact hsame e

/-- A ready fleet: every daemon of the map connected on the target or later. -/
lemma isAllProcessReady_iff {m : ProcessMap} {target : ℕ} :
    isAllProcessReady m target = true ↔
      m ≠ [] ∧ ∀ e ∈ m, e.2.connected = true ∧ target ≤ e.2.appliedVersion := by
  simp [isAllProcessReady, ProcessState.converged]

/-! ### The invariant -/

/-- `SendRuntimeStart`, queued when so many reloads had been scheduled. -/
def runtimeStart (reloads : ℕ) : Action := .bootstrap (.SendRuntimeStart reloads)

/-- Every queued `SendRuntimeStart` belongs to the reload under way. -/
structure Aligned (s : EnginedState) : Prop where
  keys : s.bootstrapService.processMap = [] ∨
    s.bootstrapService.processMap.map Prod.fst = kServiceDaemons
  noEvent : .bootstrap .SendRuntimeStart ∉ s.eventQueue
  current : ∀ k, runtimeStart k ∈ s.actionQueue → k = s.history.reloads
  ready : ∀ k, runtimeStart k ∈ s.actionQueue → s.bootstrapService.isReload = true →
    isAllProcessReady s.bootstrapService.processMap s.bootstrapService.targetVersion = true
  version : s.bootstrapService.isReload = true →
    s.history.insertedVersion ≤ s.bootstrapService.targetVersion

/-- The step neither schedules a reload behind a queued `SendRuntimeStart`, nor
loses the version it committed, nor sees the fleet diverge with a
`SendRuntimeStart` queued during a reload. -/
def KeepsAligned (s : EnginedState) (l : Label) : Prop :=
  ∀ io, l = .execute io →
    (∀ rest, s.eventQueue = [] → s.actionQueue = .ApplyCommit :: rest →
      (runningTask s.commitService.queue).isSome = true → goesThrough io s = true →
        (∀ k, runtimeStart k ∉ rest) ∧ ∃ i < selectCount s.config, io.reload.select i = true) ∧
    (∀ payload rest k, s.eventQueue = .bootstrap (.ReceiveSyncResponse payload) :: rest →
      s.bootstrapService.state = .Reconcile → s.bootstrapService.isReload = true →
      runtimeStart k ∈ s.actionQueue →
        isAllProcessReady (updateProcessMap s.bootstrapService.processMap payload).1
          s.bootstrapService.targetVersion = true)

section Steps

variable {file : Option Json} {s s' : EnginedState}

lemma maxVersion_insertRow (tbl : Table) (config : Json) :
    maxVersion (insertRow tbl config) = maxVersion tbl + 1 := by
  have hsupersede : (supersede tbl).map Row.version = tbl.map Row.version := by
    rw [supersede, List.map_map]
    refine List.map_congr_left fun r _ => ?_
    by_cases hr : r.state = .active <;> simp [hr]
  have hfold : ∀ (vs : List ℕ) (a : ℕ), vs.foldr max a = max (vs.foldr max 0) a := by
    intro vs a
    induction vs with
    | nil => simp
    | cons v vs ih => rw [List.foldr_cons, List.foldr_cons, ih, max_assoc]
  rw [maxVersion, insertRow, List.map_append, List.foldr_append, hsupersede]
  simp only [List.map_cons, List.map_nil, List.foldr_cons, List.foldr_nil]
  rw [hfold, ← maxVersion]
  omega

/-- A reload whose version is read back targets the version committed. -/
lemma targetVersion_announceCommit (file : Option Json) {io : DispatchIO} {running : Task}
    {changes : List Json} (hgoes : goesThrough io s = true)
    (hrun : runningTask s.commitService.queue = some running)
    (hpayload : running.payload = .json (.arr changes))
    (hselect : ∃ i < selectCount s.config, io.reload.select i = true) :
    (announceCommit file io (committedState file io s changes)).bootstrapService.targetVersion
      = (announceCommit file io (committedState file io s changes)).history.insertedVersion := by
  obtain ⟨hdb, hobj, hsel⟩ := fillFinds_reload file hgoes hrun hpayload hselect rfl _
    (activeRow_committedState file io s changes)
  have hready : (bootstrapDatabase io.reload.connect { invalidateConfigCache
      (committedState file io s changes).config with runningConfigVersionCache := 0 }).dbReady
        = true := by
    rcases hdb with hdb | hdb
    · simp only [bootstrapDatabase, invalidateConfigCache, hdb, Bool.true_or]
    · simp only [bootstrapDatabase, hdb, Bool.or_true]
  have hquery := queryRunningConfig_of_activeRow
    (activeRow_committedState file io s changes) hobj hready hsel
  have hinserted : (announceCommit file io (committedState file io s changes)).history.insertedVersion
      = maxVersion s.table + 1 := maxVersion_insertRow _ _
  rw [hinserted]
  simp only [announceCommit, scheduleServiceReload, cachedRunningConfig, loadRunningConfigRoot,
    invalidateConfigCache, Bool.false_eq_true, if_false] at hquery ⊢
  rw [hquery]

/-- A sync response keeps the map's daemons, and queues a `SendRuntimeStart` only
for a fleet that is ready. -/
lemma Aligned.onSyncResponse (h : Aligned s) (payload : Payload)
    (hdiverge : ∀ k, s.bootstrapService.state = .Reconcile →
      s.bootstrapService.isReload = true → runtimeStart k ∈ s.actionQueue →
      isAllProcessReady (updateProcessMap s.bootstrapService.processMap payload).1
        s.bootstrapService.targetVersion = true) : Aligned (onSyncResponse payload s) := by
  have hkeys : (updateProcessMap s.bootstrapService.processMap payload).1 = [] ∨
      (updateProcessMap s.bootstrapService.processMap payload).1.map Prod.fst = kServiceDaemons := by
    have hmap := keys_updateProcessMap s.bootstrapService.processMap payload
    rcases h.keys with hnil | hfive
    · left
      rw [hnil] at hmap ⊢
      exact List.map_eq_nil_iff.mp hmap
    · exact .inr (hmap.trans hfive)
  simp only [Engined.onSyncResponse]
  split
  · next hstate =>
      split
      · next hready =>
          refine ⟨hkeys, h.noEvent, ?_, fun _ _ _ => hready.2.1, h.version⟩
          intro k hk
          rcases List.mem_append.mp hk with hk | hk
          · exact h.current k hk
          · rw [List.mem_singleton, runtimeStart] at hk
            cases hk
            rfl
      · exact ⟨hkeys, h.noEvent, h.current,
          fun k hk hreload => hdiverge k hstate hreload hk, h.version⟩
  · exact h

/-- An action queued that is no `SendRuntimeStart`. -/
lemma Aligned.postAction (h : Aligned s) {a : Action} (ha : ∀ k, a ≠ runtimeStart k) :
    Aligned (s.postAction a) := by
  have hmem : ∀ k, runtimeStart k ∈ (s.postAction a).actionQueue →
      runtimeStart k ∈ s.actionQueue := by
    intro k hk
    rcases List.mem_append.mp hk with hk | hk
    · exact hk
    · exact absurd (List.mem_singleton.mp hk).symm (ha k)
  exact ⟨h.keys, h.noEvent, fun k hk => h.current k (hmem k hk),
    fun k hk => h.ready k (hmem k hk), h.version⟩

lemma Aligned.postEvent (h : Aligned s) {e : Event} (he : e ≠ .bootstrap .SendRuntimeStart) :
    Aligned (s.postEvent e) := by
  refine ⟨h.keys, ?_, h.current, h.ready, h.version⟩
  intro hmem
  rcases List.mem_append.mp hmem with hmem | hmem
  · exact h.noEvent hmem
  · exact he (List.mem_singleton.mp hmem).symm

lemma Aligned.popEvent (h : Aligned s) {e : Event} {rest : List Event}
    (hevents : s.eventQueue = e :: rest) : Aligned { s with eventQueue := rest } := by
  refine ⟨h.keys, fun hmem => h.noEvent ?_, h.current, h.ready, h.version⟩
  rw [hevents]
  exact List.mem_cons_of_mem _ hmem

lemma Aligned.popAction (h : Aligned s) {a : Action} {rest : List Action}
    (hactions : s.actionQueue = a :: rest) : Aligned { s with actionQueue := rest } := by
  have hmem : ∀ k, runtimeStart k ∈ rest → runtimeStart k ∈ s.actionQueue := by
    intro k hk
    rw [hactions]
    exact List.mem_cons_of_mem _ hk
  exact ⟨h.keys, h.noEvent, fun k hk => h.current k (hmem k hk),
    fun k hk => h.ready k (hmem k hk), h.version⟩

/-- A reload that is over asks for nothing. -/
lemma Aligned.idle (h : Aligned s) : Aligned { s with
    bootstrapService := { s.bootstrapService with isReload := false } } := by
  refine ⟨h.keys, h.noEvent, h.current, ?_, ?_⟩
  · intro k _ hreload
    cases hreload
  · intro hreload
    cases hreload

/-- What the commit service does by itself. -/
lemma Aligned.of_queueOnly (h : Aligned s) (hframe : QueueOnly s s') : Aligned s' := by
  have hmem : ∀ k, runtimeStart k ∈ s'.actionQueue → runtimeStart k ∈ s.actionQueue := by
    obtain ⟨n, hn⟩ := hframe.actionQueue
    intro k hk
    rw [hn] at hk
    rcases List.mem_append.mp hk with hk | hk
    · exact hk
    · exact absurd (List.eq_of_mem_replicate hk) (by simp [runtimeStart])
  refine ⟨?_, ?_, ?_, ?_, ?_⟩
  · rw [hframe.bootstrapService]
    exact h.keys
  · rw [hframe.eventQueue]
    exact h.noEvent
  · intro k hk
    rw [hframe.reloads]
    exact h.current k (hmem k hk)
  · intro k hk
    rw [hframe.bootstrapService]
    exact h.ready k (hmem k hk)
  · rw [hframe.bootstrapService, hframe.insertedVersion]
    exact h.version

lemma Aligned.schedule (h : Aligned s) (io : ScheduleIO) : Aligned (Engined.schedule io s) := by
  rcases schedule_cases io s with hc | ⟨state, helloAt, syncAt, e, hc, he⟩ | ⟨-, hc⟩ <;> rw [hc]
  · exact h
  · have hmoved : Aligned { s with bootstrapService := { s.bootstrapService with
        state, lastClientHelloSentAt := helloAt, lastSyncRequestSentAt := syncAt } } :=
      ⟨h.keys, h.noEvent, h.current, h.ready, h.version⟩
    refine hmoved.postEvent ?_
    rcases he with rfl | rfl <;> simp
  · exact h.idle.postEvent (by simp)

lemma Aligned.bootstrapEvent (h : Aligned s) {e : BootstrapEvent} (now : ℕ)
    (he : e ≠ .SendRuntimeStart) (hdiverge : ∀ payload k, e = .ReceiveSyncResponse payload →
      s.bootstrapService.state = .Reconcile → s.bootstrapService.isReload = true →
      runtimeStart k ∈ s.actionQueue →
      isAllProcessReady (updateProcessMap s.bootstrapService.processMap payload).1
        s.bootstrapService.targetVersion = true) : Aligned (handleBootstrapEvent now s e) := by
  cases e with
  | SendClientHello => exact h.postAction (by simp [runtimeStart])
  | SendSyncRequest => exact h.postAction (by simp [runtimeStart])
  | ReloadFailed => exact h.postAction (by simp [runtimeStart])
  | SendRuntimeStart => exact absurd rfl he
  | ReceiveRuntimeStart => exact h
  | ReceiveSyncResponse payload =>
      exact h.onSyncResponse payload fun k => hdiverge payload k rfl
  | ReceiveServerHello =>
      rw [handleBootstrapEvent, onServerHello]
      split
      · have hmoved : Aligned { s with bootstrapService := { s.bootstrapService with
            state := .Reconcile, lastSyncRequestSentAt := now } } :=
          ⟨h.keys, h.noEvent, h.current, h.ready, h.version⟩
        exact hmoved.postAction (by simp [runtimeStart])
      · exact h

lemma Aligned.bootstrapAction (h : Aligned s) (a : BootstrapAction) :
    Aligned (handleBootstrapAction s a) := by
  cases a with
  | SendClientHello =>
      rw [handleBootstrapAction]
      split
      · exact ⟨h.keys, h.noEvent, h.current, h.ready, h.version⟩
      · exact h
  | SendSyncRequest =>
      rw [handleBootstrapAction]
      split
      · exact ⟨h.keys, h.noEvent, h.current, h.ready, h.version⟩
      · exact h
  | SendReloadFailed =>
      have hanswered : Aligned (answerCommit false s) :=
        ⟨h.keys, h.noEvent, h.current, h.ready, h.version⟩
      exact hanswered.postEvent (by simp)
  | SendRuntimeStart k =>
      have hbroadcast : Aligned (broadcastRuntimeStart s) := by
        refine ⟨?_, h.noEvent, h.current, fun k hk hreload => ?_, h.version⟩
        · have hmap := keys_blessConverged s.bootstrapService.processMap
            s.bootstrapService.targetVersion
          rcases h.keys with hnil | hfive
          · left
            show blessConverged s.bootstrapService.processMap _ = []
            rw [hnil]
            rfl
          · exact .inr (hmap.trans hfive)
        · show isAllProcessReady (blessConverged s.bootstrapService.processMap
            s.bootstrapService.targetVersion) s.bootstrapService.targetVersion = true
          rw [isAllProcessReady_blessConverged]
          exact h.ready k hk hreload
      simp only [handleBootstrapAction]
      split
      · have hanswered : Aligned (answerCommit true { broadcastRuntimeStart s with
            bootstrapService := { (broadcastRuntimeStart s).bootstrapService with
              isReload := false } }) :=
          have hidle := hbroadcast.idle
          ⟨hidle.keys, hidle.noEvent, hidle.current, hidle.ready, hidle.version⟩
        exact hanswered.postEvent (by simp)
      · exact hbroadcast

/-- **The invariant of the reload.** -/
theorem aligned_next {l : Label} (h : Aligned s) (hl : KeepsAligned s l)
    (hs : (engined file).next s l = some s') : Aligned s' := by
  cases step_of_next hs with
  | start io hphase =>
      refine ⟨.inr ?_, h.noEvent, h.current, ?_, ?_⟩
      · show initialProcessMap.map Prod.fst = kServiceDaemons
        decide
      · intro k _ hreload
        cases hreload
      · intro hreload
        cases hreload
  | receive msg e hphase hmsg =>
      refine h.postEvent ?_
      rintro rfl
      rw [createEvent] at hmsg
      split at hmsg <;> cases hmsg
  | ignore msg hphase hmsg => exact h
  | readConfig io => exact ⟨h.keys, h.noEvent, h.current, h.ready, h.version⟩
  | preflight io hphase hevents =>
      rw [ensureStorePreflighted]
      split <;> exact ⟨h.keys, h.noEvent, h.current, h.ready, h.version⟩
  | schedule io hphase =>
      have hscheduled := h.schedule io
      exact ⟨hscheduled.keys, hscheduled.noEvent, hscheduled.current, hscheduled.ready,
        hscheduled.version⟩
  | bootstrapEvent io e rest hphase hevents =>
      refine (h.popEvent hevents).bootstrapEvent io.now ?_ ?_
      · rintro rfl
        exact h.noEvent (by simp [hevents])
      · rintro payload k rfl hstate hreload hk
        exact (hl io rfl).2 payload rest k hevents hstate hreload hk
  | commitEvent io e rest hphase hevents =>
      exact (h.popEvent hevents).of_queueOnly (queueOnly_handleCommitEvent _ e)
  | bootstrapAction io a rest hphase hevents hactions =>
      exact (h.popAction hactions).bootstrapAction a
  | applyCommit io rest _ hphase hevents hactions hok =>
      have hpop := h.popAction hactions
      rcases applyCommit_cases hok with ⟨-, rfl⟩ | ⟨running, hrun, -, config, rfl, -⟩ |
        ⟨running, changes, hrun, hpayload, hgoes, rfl⟩
      · exact hpop
      · have hloaded : Aligned { s with actionQueue := rest, config } :=
          ⟨hpop.keys, hpop.noEvent, hpop.current, hpop.ready, hpop.version⟩
        exact hloaded.of_queueOnly (queueOnly_failTask _)
      · obtain ⟨hnone, hselect⟩ := (hl io rfl).1 rest hevents hactions
          (Option.isSome_iff_exists.mpr ⟨running, hrun⟩) hgoes
        refine ⟨h.keys, h.noEvent, fun k hk => absurd hk (hnone k),
          fun k hk => absurd hk (hnone k), fun _ => ?_⟩
        exact (targetVersion_announceCommit file
          (s := { s with actionQueue := rest }) hgoes hrun hpayload hselect).ge
  | drained io hphase hevents hactions => exact ⟨h.keys, h.noEvent, h.current, h.ready, h.version⟩

end Steps

/-- An action other than `SendRuntimeStart`. -/
def Action.carriesNoStart : Action → Bool
  | .bootstrap (.SendRuntimeStart _) => false
  | _ => true

/-! ### The report -/

section Report

variable {file : Option Json} {s t t' : EnginedState} {tr : List (EnginedState × Label)}

/-- Should the step send an ok response, of version `V` say, then it posts the
matching `ReloadComplete`; the map, as the last sync response left it, has all
five daemons connected on `V` or later; `V` is no older than the version
committed; and a `SendRuntimeStart` that sends it was queued for this reload. -/
def ReportsConverged (t t' : EnginedState) : Prop :=
  ∀ ms, t'.sent = t.sent ++ ms → ∀ m ∈ ms, m.header.cmd = .SettingsCommitResponse →
    responseOk m = true → ∃ V, m = buildSettingsCommitResponse true V ∧
      t'.eventQueue = t.eventQueue ++ [.commit .ReloadComplete] ∧
      t.bootstrapService.processMap.map Prod.fst = kServiceDaemons ∧
      (∀ e ∈ t.bootstrapService.processMap, e.2.connected = true ∧ V ≤ e.2.appliedVersion) ∧
      t.history.insertedVersion ≤ V ∧
      ∃ rest, t.actionQueue = runtimeStart t.history.reloads :: rest

/-- A step that sends no ok response reports nothing. -/
lemma reportsConverged_of_sent {ms : List (IpcMessage Payload)} (hsent : t'.sent = t.sent ++ ms)
    (hms : ∀ m ∈ ms, m.header.cmd = .SettingsCommitResponse → responseOk m = false) :
    ReportsConverged t t' := by
  intro ms' hsent' m hm hcmd hok
  rw [hsent, List.append_cancel_left_eq] at hsent'
  rw [← hsent'] at hm
  rw [hms m hm hcmd] at hok
  cases hok

lemma reportsConverged_of_eq (hsent : t'.sent = t.sent) : ReportsConverged t t' := by
  have hnil : t'.sent = t.sent ++ [] := by rw [hsent, List.append_nil]
  exact reportsConverged_of_sent hnil (by simp)

/-- The completion of a reload, under the invariant. -/
lemma reportsConverged_complete {k : ℕ} {rest : List Action} (h : Aligned t)
    (hevents : t.eventQueue = []) (hactions : t.actionQueue = runtimeStart k :: rest)
    (hreload : t.bootstrapService.isReload = true) :
    ReportsConverged t (completeReload (broadcastRuntimeStart { t with actionQueue := rest })) := by
  have hqueued : runtimeStart k ∈ t.actionQueue := by
    rw [hactions]
    exact List.mem_cons_self
  have hready := isAllProcessReady_iff.mp (h.ready k hqueued hreload)
  have hcurrent : k = t.history.reloads := h.current k hqueued
  have hsent : (completeReload (broadcastRuntimeStart { t with actionQueue := rest })).sent
      = t.sent ++ [buildRuntimeStartMessage t.bootstrapService.targetVersion,
          buildSettingsCommitResponse true t.bootstrapService.targetVersion] := by
    simp [completeReload, broadcastRuntimeStart, answerCommit, EnginedState.transmit,
      EnginedState.postEvent]
  intro ms hsent' m hm hcmd _
  rw [hsent, List.append_cancel_left_eq] at hsent'
  rw [← hsent', List.mem_cons, List.mem_singleton] at hm
  rcases hm with rfl | rfl
  · cases hcmd
  · refine ⟨t.bootstrapService.targetVersion, rfl, ?_, ?_, hready.2, h.version hreload, rest, ?_⟩
    · rw [hevents]
      simp [completeReload, broadcastRuntimeStart, answerCommit, EnginedState.transmit,
        EnginedState.postEvent]
    · exact h.keys.resolve_left hready.1
    · rw [hactions, hcurrent]

/-- **A reload reported successful has converged**: in a run whose commits find
no `SendRuntimeStart` queued and read their version back, and whose sync
responses, during a reload with one queued, leave the fleet converged, every ok
response goes out with the five daemons connected on its version or a later one,
that version no older than the one committed, by a `SendRuntimeStart` queued for
this very reload. -/
theorem reload_converged {l : Label} (h0 : Fresh s) (h : (engined file).Run s tr t)
    (htr : ∀ p ∈ tr, KeepsAligned p.1 p.2) (hs : (engined file).next t l = some t') :
    ReportsConverged t t' := by
  have haligned : Aligned t := by
    refine h.invariant_of_forall (C := KeepsAligned) ?_
      (fun _ _ _ hI hC hs => aligned_next hI hC hs) htr
    obtain ⟨tbl, dbReady, preflighted, rfl⟩ := h0
    exact ⟨.inl rfl, by simp, by simp, by simp, by simp⟩
  cases step_of_next hs with
  | start io hphase => exact reportsConverged_of_eq rfl
  | receive msg e hphase hmsg => exact reportsConverged_of_eq rfl
  | ignore msg hphase hmsg => exact reportsConverged_of_eq rfl
  | readConfig io => exact reportsConverged_of_eq rfl
  | preflight io hphase hevents =>
      refine reportsConverged_of_eq ?_
      rw [ensureStorePreflighted]
      split <;> rfl
  | schedule io hphase =>
      refine reportsConverged_of_eq ?_
      rcases schedule_cases io t with hc | ⟨_, _, _, e, hc, -⟩ | ⟨-, hc⟩ <;> rw [hc] <;> rfl
  | bootstrapEvent io e rest hphase hevents =>
      exact reportsConverged_of_eq
        (bootstrapOnly_handleBootstrapEvent io.now { t with eventQueue := rest } e).2.1
  | commitEvent io e rest hphase hevents =>
      obtain ⟨ms, hsent, hcmd⟩ := (queueOnly_handleCommitEvent { t with eventQueue := rest } e).sent
      refine reportsConverged_of_sent hsent fun m hm hresp => ?_
      rw [hcmd m hm] at hresp
      cases hresp
  | bootstrapAction io a rest hphase hevents hactions =>
      cases a with
      | SendClientHello =>
          rw [handleBootstrapAction]
          split
          · exact reportsConverged_of_sent rfl (by simp [buildClientHelloMessage, IpcHeader.build])
          · exact reportsConverged_of_eq rfl
      | SendSyncRequest =>
          rw [handleBootstrapAction]
          split
          · exact reportsConverged_of_sent rfl (by simp [buildSyncRequestMessage, IpcHeader.build])
          · exact reportsConverged_of_eq rfl
      | SendReloadFailed =>
          refine reportsConverged_of_sent rfl fun m hm _ => ?_
          rw [List.mem_singleton] at hm
          rw [hm]
          rfl
      | SendRuntimeStart k =>
          simp only [handleBootstrapAction]
          split
          · next hreload => exact reportsConverged_complete haligned hevents hactions hreload
          · exact reportsConverged_of_sent rfl (by simp [buildRuntimeStartMessage, IpcHeader.build])
  | applyCommit io rest _ hphase hevents hactions hok =>
      rcases applyCommit_cases hok with ⟨-, rfl⟩ | ⟨running, hrun, -, config, rfl, -⟩ |
        ⟨running, changes, hrun, hpayload, hgoes, rfl⟩
      · exact reportsConverged_of_eq rfl
      · obtain ⟨ms, hsent, hcmd⟩ := (queueOnly_failTask { t with actionQueue := rest, config }).sent
        refine reportsConverged_of_sent hsent fun m hm hresp => ?_
        rw [hcmd m hm] at hresp
        cases hresp
      · refine reportsConverged_of_sent rfl fun m hm hresp => ?_
        obtain ⟨d, -, rfl⟩ := List.mem_map.mp hm
        cases hresp
  | drained io hphase hevents hactions => exact reportsConverged_of_eq rfl

/-- A sync response in which the five daemons report the given version. -/
def Sample.synced (version : ℤ) : Label :=
  .receive (Sample.fromIpcd .SyncResponse (.json (.obj [("daemons", .arr (kServiceDaemons.map fun d =>
    .obj [("applied_version", .int version), ("daemon", .str d.daemonToStr),
      ("generation", .int 1)]))])))

/-- engined past its handshake, with nothing to do. -/
def Sample.reconciling : List Label := List.flatten
  [[.start Sample.up, .receive (Sample.fromIpcd .ServerHello .malformed),
    .schedule (Sample.tick 0)], List.replicate 5 (.execute (Sample.dispatch 0))]

/-- A commit of the operator. -/
def Sample.commit : Label :=
  .receive (Sample.commitRequest [Sample.change "site" [("sites", .arr [])]])

/-- A commit and a sync response of the old version in one tick, up to the
`SendRuntimeStart` behind the `ApplyCommit`. -/
def Sample.oneTick : List Label := List.flatten
  [Sample.reconciling, [Sample.commit, Sample.synced 0, .schedule (Sample.tick 0)],
    List.replicate 3 (.execute (Sample.dispatch 0))]

/-- A commit, and a sync response of its version in a later tick. -/
def Sample.twoTicks : List Label := List.flatten
  [Sample.reconciling, [Sample.commit, .schedule (Sample.tick 0)],
    List.replicate 3 (.execute (Sample.dispatch 0)),
    [Sample.synced 1, .schedule (Sample.tick 0), .execute (Sample.dispatch 0)]]

/-- The versions the map shows, and whether the next dispatch sends the start and
the ok response of version 1. -/
def Sample.reportOne (t : EnginedState) : List ℕ × Option Bool :=
  (t.bootstrapService.processMap.map fun e => e.2.appliedVersion,
    ((engined none).next t (.execute (Sample.dispatch 0))).map fun t' =>
      t'.sent = t.sent ++ [buildRuntimeStartMessage 1, buildSettingsCommitResponse true 1])

lemma Sample.exec_oneTick : ((engined none).exec Sample.boot Sample.oneTick).map Sample.reportOne
    = some ([0, 0, 0, 0, 0], some true) := by
  decide +kernel

/-- The start queued for version 0 completes the reload of version 1, with every
daemon still on version 0. -/
theorem stale_start_completes : ¬ ∀ s tr t l t', Fresh s → (engined none).Run s tr t →
    (engined none).next t l = some t' → ReportsConverged t t' := by
  intro hall
  obtain ⟨t, hexec, hend⟩ := Option.map_eq_some_iff.mp Sample.exec_oneTick
  rw [Sample.reportOne, Prod.mk.injEq] at hend
  obtain ⟨t', hs, hsent⟩ := Option.map_eq_some_iff.mp hend.2
  obtain ⟨V, hV, -, -, hconv, -⟩ := hall _ _ _ _ _ Sample.fresh_boot (Machine.exec_run hexec) hs _
    (by simpa using hsent) (buildSettingsCommitResponse true 1) (by simp) rfl rfl
  have hone : V = 1 := by
    simp only [buildSettingsCommitResponse, IpcMessage.mk.injEq, Payload.json.injEq,
      Json.obj.injEq, List.cons.injEq, Prod.mk.injEq, Json.int.injEq] at hV
    omega
  have hzero : ∃ e ∈ t.bootstrapService.processMap, e.2.appliedVersion = 0 := by
    have hmem : 0 ∈ t.bootstrapService.processMap.map fun e => e.2.appliedVersion := by
      rw [hend.1]
      exact List.mem_cons_self
    exact List.mem_map.mp hmem
  obtain ⟨e, he, hev⟩ := hzero
  have := (hconv e he).2
  omega

/-- A step that commits with no `SendRuntimeStart` queued and reads back, and
handles no sync response with one queued. -/
def Sample.keepsAligned (p : EnginedState × Label) : Bool :=
  match p.2 with
  | .execute io =>
      match p.1.eventQueue, p.1.actionQueue with
      | [], .ApplyCommit :: rest =>
          (rest.all fun a => a.carriesNoStart) && io.reload.select 0
      | .bootstrap (.ReceiveSyncResponse _) :: _, actions => actions.all fun a => a.carriesNoStart
      | _, _ => true
  | _ => true

lemma Sample.keepsAligned_of {p : EnginedState × Label} (h : Sample.keepsAligned p = true) :
    KeepsAligned p.1 p.2 := by
  obtain ⟨s, l⟩ := p
  have hno : ∀ actions : List Action, (actions.all fun a => a.carriesNoStart) = true →
      ∀ k, runtimeStart k ∉ actions := by
    intro actions hall k hk
    exact absurd (List.all_eq_true.mp hall _ hk) (by simp [runtimeStart, Action.carriesNoStart])
  rintro io rfl
  constructor
  · intro rest hevents hactions _ _
    have hevents' : s.eventQueue = [] := hevents
    have hactions' : s.actionQueue = .ApplyCommit :: rest := hactions
    rw [Sample.keepsAligned] at h
    simp only [hevents', hactions', Bool.and_eq_true] at h
    refine ⟨hno rest h.1, 0, ?_, h.2⟩
    rw [selectCount]
    split <;> omega
  · intro payload rest k hevents _ _ hk
    have hevents' : s.eventQueue = .bootstrap (.ReceiveSyncResponse payload) :: rest := hevents
    rw [Sample.keepsAligned] at h
    simp only [hevents'] at h
    exact absurd hk (hno _ h k)

lemma Sample.exec_twoTicks : ((engined none).exec Sample.boot Sample.twoTicks).map Sample.reportOne
      = some ([1, 1, 1, 1, 1], some true) ∧
    ((engined none).trace Sample.boot Sample.twoTicks).all Sample.keepsAligned = true := by
  decide +kernel

/-- The law on a reload that converges: its ok response goes out. -/
theorem reload_converged_twoTicks : ∃ t t',
    (engined none).exec Sample.boot Sample.twoTicks = some t ∧
    (engined none).next t (.execute (Sample.dispatch 0)) = some t' ∧
    buildSettingsCommitResponse true 1 ∈ t'.sent ∧ ReportsConverged t t' := by
  obtain ⟨hend, haligned⟩ := Sample.exec_twoTicks
  obtain ⟨t, hexec, hend⟩ := Option.map_eq_some_iff.mp hend
  rw [Sample.reportOne, Prod.mk.injEq] at hend
  obtain ⟨t', hs, hsent⟩ := Option.map_eq_some_iff.mp hend.2
  refine ⟨t, t', hexec, hs, ?_, reload_converged Sample.fresh_boot (Machine.exec_run hexec)
    (fun p hp => Sample.keepsAligned_of (List.all_eq_true.mp haligned p hp)) hs⟩
  rw [of_decide_eq_true hsent]
  simp

end Report

end Pretzel.Engined
