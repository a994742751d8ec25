import Pretzel.Engined.ServiceManager

/-!
What a commit is built on.

* `FillFinds`, `FillsFind`: a fill of the cache gives the active row when there
  is one; a step all of whose fills do.
* `Coherent`: a filled cache is the document a commit ought to start from.
* `commit_on_base`: in a run whose fills all find the active row, a commit makes
  active the redacted merge of its well-formed changes into the document that
  was active before, or into the startup configuration.
* `commit_on_fallback`: one SELECT that fails, and the next commit replaces the
  operator's configuration.
-/

namespace Pretzel.Engined

open Nlohmann Ipc Config Reactive

/-! ### The fills of the cache -/

/-- Should the cache be filled with a row active, the fill gives that row: the
database is connected, the document is an object, and one of the SELECTs the
process makes returns it. -/
def FillFinds (tbl : Table) (io : LoadIO) (c : ConfigState) : Prop :=
  c.runningConfigLoaded = false → ∀ r, activeRow tbl = some r →
    (c.dbReady = true ∨ io.connect = true) ∧ r.config.isObject = true ∧
      ∃ i < selectCount c, io.select i = true

lemma queryRunningConfig_of_activeRow {tbl : Table} {io : LoadIO} {c : ConfigState} {r : Row}
    (hr : activeRow tbl = some r) (hobj : r.config.isObject = true) (hdb : c.dbReady = true)
    (hselect : ∃ i < selectCount c, io.select i = true) :
    queryRunningConfig tbl io c = some (r.version, r.config) := by
  obtain ⟨i, hi, hsel⟩ := hselect
  have hlatest : ∀ b, latestRunningConfig b tbl = if b then some (r.version, r.config) else none := by
    intro b
    simp [latestRunningConfig, hr, hobj]
  rw [queryRunningConfig, if_pos hdb]
  cases hfind : (List.range (selectCount c)).findSome? fun i =>
      latestRunningConfig (io.select i) tbl with
  | none =>
      have := List.findSome?_eq_none_iff.mp hfind i (List.mem_range.mpr hi)
      rw [hlatest, hsel] at this
      cases this
  | some q =>
      obtain ⟨j, -, hj⟩ := List.exists_of_findSome?_eq_some hfind
      rw [hlatest] at hj
      split at hj
      · exact hj.symm
      · cases hj

lemma queryRunningConfig_of_none {tbl : Table} {io : LoadIO} {c : ConfigState}
    (hr : activeRow tbl = none) : queryRunningConfig tbl io c = none := by
  cases hq : queryRunningConfig tbl io c with
  | none => rfl
  | some q =>
      obtain ⟨r, hr', -⟩ := queryRunningConfig_eq_some hq
      rw [hr] at hr'
      cases hr'

/-- **A fill that finds the active row** reads its document and its version. -/
lemma fill_of_fillFinds {file : Option Json} {tbl : Table} {io : LoadIO} {c : ConfigState}
    (hfill : FillFinds tbl io c) (hl : c.runningConfigLoaded = false) :
    (cachedRunningConfig file tbl io c).runningConfigCache = baseDoc file tbl ∧
      (cachedRunningConfig file tbl io c).runningConfigVersionCache
        = ((activeRow tbl).map Row.version).getD 0 := by
  rw [cachedRunningConfig, hl, if_neg Bool.false_ne_true, loadRunningConfigRoot]
  cases hr : activeRow tbl with
  | none =>
      rw [queryRunningConfig_of_none hr, baseDoc, hr]
      exact ⟨rfl, rfl⟩
  | some r =>
      obtain ⟨hdb, hobj, hselect⟩ := hfill hl r hr
      have hready : (bootstrapDatabase io.connect
          { c with runningConfigVersionCache := 0 }).dbReady = true := by
        rcases hdb with hdb | hdb <;> simp [bootstrapDatabase, hdb]
      rw [queryRunningConfig_of_activeRow hr hobj hready hselect, baseDoc, hr]
      exact ⟨rfl, rfl⟩

/-- A cache that is filled holds the document a commit ought to start from. -/
def CacheCoherent (file : Option Json) (tbl : Table) (c : ConfigState) : Prop :=
  c.runningConfigLoaded = true → c.runningConfigCache = baseDoc file tbl

/-- **A fill that finds the active row leaves a coherent cache.** -/
theorem cacheCoherent_cachedRunningConfig {file : Option Json} {tbl : Table} {io : LoadIO}
    {c : ConfigState} (h : CacheCoherent file tbl c) (hfill : FillFinds tbl io c) :
    (cachedRunningConfig file tbl io c).runningConfigCache = baseDoc file tbl := by
  cases hl : c.runningConfigLoaded with
  | true =>
      rw [cachedRunningConfig, if_pos hl]
      exact h hl
  | false => exact (fill_of_fillFinds hfill hl).1

/-! ### The steps -/

/-- The fills of the step all find the active row. An `ApplyCommit` fills the
cache before it reads a payload that is an array, and once more after a commit
that went through. -/
def FillsFind (s : EnginedState) : Label → Prop
  | .start io | .readConfig io => FillFinds s.table io s.config
  | .execute io =>
      ∀ rest running changes, s.eventQueue = [] → s.actionQueue = .ApplyCommit :: rest →
        runningTask s.commitService.queue = some running →
        running.payload = .json (.arr changes) →
        FillFinds s.table io.load s.config ∧
          (goesThrough io s = true → ∃ i < selectCount s.config, io.reload.select i = true)
  | _ => True

/-- The invariant of the cache. -/
def Coherent (file : Option Json) (s : EnginedState) : Prop :=
  CacheCoherent file s.table s.config

lemma isObject_mergePatch_obj (doc : Json) (patch : List (String × Json)) :
    (doc.mergePatch (.obj patch)).isObject = true := by
  rw [Json.mergePatch]
  rfl

lemma changePatch_eq_obj (change : Json) : ∃ patch, changePatch change = .obj patch := by
  rw [changePatch]
  split
  · exact ⟨_, rfl⟩
  · exact ⟨[], rfl⟩

/-- A well-formed change makes an object of whatever it is merged into. -/
lemma isObject_mergeChanges {root : Json} {changes : List Json}
    (h : changes.any (fun c => isWellFormed c) = true) :
    (mergeChanges root changes).isObject = true := by
  have hne : changes.filter (fun c => isWellFormed c) ≠ [] := by
    rw [ne_eq, List.filter_eq_nil_iff]
    intro hall
    obtain ⟨c, hc, hw⟩ := List.any_eq_true.mp h
    exact hall c hc hw
  rcases List.eq_nil_or_concat (changes.filter fun c => isWellFormed c) with hnil | ⟨cs, c, heq⟩
  · exact absurd hnil hne
  · obtain ⟨patch, hpatch⟩ := changePatch_eq_obj c
    rw [mergeChanges, heq, List.concat_eq_append, List.foldl_append, List.foldl_cons, hpatch]
    exact isObject_mergePatch_obj _ patch

lemma isObject_redact (root : Json) : (redactSecretsForPersist root).isObject = root.isObject :=
  Json.isObject_modify root "pretzel" _

/-- A commit that goes through had a well-formed change, and a connection. -/
lemma of_goesThrough {io : DispatchIO} {s : EnginedState} {running : Task} {changes : List Json}
    (hgoes : goesThrough io s = true) (hrun : runningTask s.commitService.queue = some running)
    (hpayload : running.payload = .json (.arr changes)) :
    changes.any (fun c => isWellFormed c) = true ∧ (s.config.dbReady ||
      (!s.config.runningConfigLoaded && io.load.connect) || io.commit.connect) = true := by
  simp only [goesThrough, hrun, hpayload, commitsTo, Bool.and_eq_true] at hgoes
  exact ⟨hgoes.1, hgoes.2.1.1.1.1⟩

section Steps

variable {file : Option Json} {s s' : EnginedState} {io : DispatchIO}

/-- The reload's fill reads the row just committed. -/
lemma fillFinds_reload (file : Option Json) {running : Task} {changes : List Json}
    (hgoes : goesThrough io s = true)
    (hrun : runningTask s.commitService.queue = some running)
    (hpayload : running.payload = .json (.arr changes))
    (hselect : ∃ i < selectCount s.config, io.reload.select i = true) :
    FillFinds (committedState file io s changes).table io.reload
      (committedState file io s changes).config := by
  intro _ r hr
  obtain ⟨hany, hdb⟩ := of_goesThrough hgoes hrun hpayload
  rw [activeRow_committedState, Option.some.injEq] at hr
  refine ⟨.inl ?_, ?_, ?_⟩
  · have := dbReady_cachedRunningConfig file s.table io.load s.config
    simp only [committedState, invalidateConfigCache, bootstrapDatabase, this]
    exact hdb
  · rw [← hr, isObject_redact]
    exact isObject_mergeChanges hany
  · have hcount : selectCount (committedState file io s changes).config = selectCount s.config := by
      have hseed : (cachedRunningConfig file s.table io.load s.config).seederProcess
          = s.config.seederProcess := by
        rw [cachedRunningConfig]
        split
        · rfl
        · rcases loadRunningConfigRoot_cases file s.table io.load s.config with
            ⟨r, -, -, h⟩ | h <;> simp [h]
      simp [selectCount, committedState, invalidateConfigCache, bootstrapDatabase, hseed]
    rw [hcount]
    exact hselect

/-- **The cache stays coherent** under a step whose fills find the active row. -/
theorem coherent_next {l : Label} (h : Coherent file s) (hl : FillsFind s l)
    (hs : (engined file).next s l = some s') : Coherent file s' := by
  cases step_of_next hs with
  | start io hphase => exact fun _ => cacheCoherent_cachedRunningConfig h hl
  | receive msg e hphase hmsg => exact h
  | ignore msg hphase hmsg => exact h
  | readConfig io => exact fun _ => cacheCoherent_cachedRunningConfig h hl
  | preflight io hphase hevents =>
      rw [ensureStorePreflighted]
      split
      · intro hloaded
        cases hloaded
      · next tbl config hpre =>
          rw [preflight] at hpre
          dsimp only at hpre
          split at hpre
          · cases hpre
          · cases hpre
            exact h
  | schedule io hphase =>
      rcases schedule_cases io s with hc | ⟨_, _, _, e, hc, -⟩ | ⟨-, hc⟩ <;> rw [hc] <;> exact h
  | bootstrapEvent io e rest hphase hevents =>
      have hframe := (bootstrapOnly_handleBootstrapEvent io.now
        { s with eventQueue := rest } e).1
      rw [Coherent, hframe.config, hframe.table]
      exact h
  | commitEvent io e rest hphase hevents =>
      have hframe := queueOnly_handleCommitEvent { s with eventQueue := rest } e
      rw [Coherent, hframe.config, hframe.table]
      exact h
  | bootstrapAction io a rest hphase hevents hactions =>
      have hframe := (bootstrapOnly_handleBootstrapAction { s with actionQueue := rest } a).1
      rw [Coherent, hframe.config, hframe.table]
      exact h
  | applyCommit io rest _ hphase hevents hactions hok =>
      rcases applyCommit_cases hok with ⟨-, rfl⟩ | ⟨running, hrun, -, config, rfl, hconfig⟩ |
        ⟨running, changes, hrun, hpayload, hgoes, rfl⟩
      · exact h
      · have hframe := queueOnly_failTask { s with actionQueue := rest, config }
        rw [Coherent, hframe.config, hframe.table]
        rcases hconfig with rfl | ⟨changes, connect, hpayload, rfl⟩
        · exact h
        · obtain ⟨hfill, -⟩ := hl rest running changes hevents hactions hrun hpayload
          exact fun _ => cacheCoherent_cachedRunningConfig h hfill
      · obtain ⟨-, hselect⟩ := hl rest running changes hevents hactions hrun hpayload
        have hreload : FillFinds _ io.reload _ := fillFinds_reload file
          (s := { s with actionQueue := rest }) hgoes hrun hpayload (hselect hgoes)
        have hinvalid : CacheCoherent file
            (committedState file io { s with actionQueue := rest } changes).table
            (invalidateConfigCache (committedState file io { s with actionQueue := rest }
              changes).config) := by
          intro hloaded
          cases hloaded
        exact fun _ => cacheCoherent_cachedRunningConfig hinvalid hreload
  | drained io hphase hevents hactions => exact h

end Steps

/-! ### The committed document -/

section Commits

variable {file : Option Json} {s t t' : EnginedState} {tr : List (EnginedState × Label)}

/-- Should the step commit, the new active document is the redacted merge of the
well-formed changes, in order, into the document a commit ought to start from. -/
def CommitsOnBase (file : Option Json) (t : EnginedState) (l : Label) (t' : EnginedState) : Prop :=
  ∀ io rest running changes, l = .execute io → t.eventQueue = [] →
    t.actionQueue = .ApplyCommit :: rest → runningTask t.commitService.queue = some running →
    running.payload = .json (.arr changes) → goesThrough io t = true →
    (activeRow t'.table).map Row.config
      = some (redactSecretsForPersist (mergeChanges (baseDoc file t.table) changes))

/-- A step from a coherent cache commits on the base. -/
lemma commitsOnBase_next {l : Label} (hcoherent : Coherent file t) (hl : FillsFind t l)
    (hs : (engined file).next t l = some t') : CommitsOnBase file t l t' := by
  rintro io rest running changes rfl hevents hactions hrun hpayload hgoes
  obtain ⟨hfill, -⟩ := hl rest running changes hevents hactions hrun hpayload
  have hcache := cacheCoherent_cachedRunningConfig hcoherent hfill
  cases step_of_next hs with
  | applyCommit _ rest' _ hphase _ hactions' hok =>
      rcases applyCommit_cases hok with ⟨hnone, -⟩ | ⟨_, -, hrefused, -⟩ |
        ⟨running', changes', hrun', hpayload', -, rfl⟩
      · exact absurd (hnone.symm.trans hrun) (by simp)
      · exact absurd (hrefused.symm.trans hgoes) (by simp)
      · have heq : running' = running := Option.some.inj (hrun'.symm.trans hrun)
        rw [heq, hpayload, Payload.json.injEq, Json.arr.injEq] at hpayload'
        have hactive := activeRow_committedState file io { t with actionQueue := rest' } changes'
        have htable : (announceCommit file io (committedState file io
            { t with actionQueue := rest' } changes')).table
              = (committedState file io { t with actionQueue := rest' } changes').table := rfl
        rw [htable, hactive, ← hpayload', ← hcache]
        rfl
  | bootstrapEvent _ _ _ _ hevents' => rw [hevents] at hevents'; cases hevents'
  | commitEvent _ _ _ _ hevents' => rw [hevents] at hevents'; cases hevents'
  | bootstrapAction _ _ _ _ _ hactions' => rw [hactions] at hactions'; cases hactions'
  | drained _ _ _ hactions' => rw [hactions] at hactions'; cases hactions'

lemma coherent_fresh (h : Fresh s) : Coherent file s := by
  obtain ⟨tbl, dbReady, preflighted, rfl⟩ := h
  intro hloaded
  cases hloaded

/-- **A commit is built on the active configuration**: in a run whose fills all
find the active row, whenever `commitConfig` succeeds the document it makes
active is the redacted merge of the task's well-formed changes, in order, into
the one that was active, or into the startup configuration where none was. -/
theorem commit_on_base {l : Label} (h0 : Fresh s) (h : (engined file).Run s tr t)
    (htr : ∀ p ∈ tr, FillsFind p.1 p.2) (hl : FillsFind t l)
    (hs : (engined file).next t l = some t') : CommitsOnBase file t l t' := by
  have hcoherent : Coherent file t := by
    refine h.invariant_of_forall (C := FillsFind) (coherent_fresh h0) ?_ htr
    intro u k u' hI hC hs
    exact coherent_next hI hC hs
  exact commitsOnBase_next hcoherent hl hs

/-- A store an operator configured. -/
def Sample.configured : EnginedState :=
  { Sample.boot with
    table := [⟨7, .obj [("pretzel", .obj [("site", .obj [("sites", .arr [.str "hq"])])])], .active⟩] }

/-- A commit to another domain, up to its `ApplyCommit`, behind the given start. -/
def Sample.commitAfter (start : LoadIO) : List Label :=
  [.start start, .receive (Sample.commitRequest [Sample.change "user" [("users", .arr [])]]),
    .schedule (Sample.tick 0), .execute (Sample.dispatch 0), .execute (Sample.dispatch 0)]

/-- What the run comes to before its `ApplyCommit`, and the document active after
it. -/
def Sample.atCommit (t : EnginedState) :=
  (t.eventQueue, t.actionQueue, runningTask t.commitService.queue, goesThrough (Sample.dispatch 0) t,
    t.config.runningConfigLoaded, baseDoc none t.table,
    ((engined none).next t (.execute (Sample.dispatch 0))).map fun t' =>
      (activeRow t'.table).map Row.config)

lemma Sample.exec_configured :
    ((engined none).exec Sample.configured (Sample.commitAfter ⟨true, fun _ => false⟩)).map
        Sample.atCommit
      = some ([], [.ApplyCommit, .bootstrap .SendClientHello],
          some ⟨1, .json (.arr [Sample.change "user" [("users", .arr [])]]), .Running⟩, true, true,
          .obj [("pretzel", .obj [("site", .obj [("sites", .arr [.str "hq"])])])],
          some (some (.obj [("pretzel", .obj [("user", .obj [("users", .arr [])])])]))) := by
  rfl

/-- One failed SELECT at the start, and the commit drops the operator's sites. -/
theorem commit_on_fallback : ¬ ∀ s tr t l t', Fresh s → (engined none).Run s tr t →
    (engined none).next t l = some t' → CommitsOnBase none t l t' := by
  intro hall
  obtain ⟨t, hexec, hend⟩ := Option.map_eq_some_iff.mp Sample.exec_configured
  simp only [Sample.atCommit, Prod.mk.injEq] at hend
  obtain ⟨hevents, hactions, hrun, hgoes, -, hbase, hnext⟩ := hend
  obtain ⟨t', hs, hdoc⟩ := Option.map_eq_some_iff.mp hnext
  have hfresh : Fresh Sample.configured := ⟨_, true, false, rfl⟩
  have hcommit := hall _ _ _ _ _ hfresh (Machine.exec_run hexec) hs _ _ _ _ rfl hevents hactions
    hrun rfl hgoes
  rw [hdoc, hbase] at hcommit
  exact absurd hcommit (by decide +kernel)

/-- A step that fills no cache while a row is active. -/
def Sample.fillsNone (p : EnginedState × Label) : Bool :=
  match p.2 with
  | .start _ | .readConfig _ => (activeRow p.1.table).isNone
  | .execute _ => !p.1.eventQueue.isEmpty
  | _ => true

lemma Sample.fillsFind_of_fillsNone {p : EnginedState × Label} (h : Sample.fillsNone p = true) :
    FillsFind p.1 p.2 := by
  obtain ⟨s, l⟩ := p
  have hnone : (activeRow s.table).isNone = true → ∀ io, FillFinds s.table io s.config := by
    intro hr io _ r hr'
    rw [hr'] at hr
    cases hr
  cases l with
  | start io => exact hnone h io
  | readConfig io => exact hnone h io
  | execute io =>
      intro rest running changes hevents
      have hempty : s.eventQueue = [] := hevents
      rw [Sample.fillsNone, hempty] at h
      cases h
  | _ => trivial

lemma Sample.exec_commit :
    ((engined none).exec Sample.boot (Sample.commitAfter Sample.up)).map
        (fun t => (t.config.runningConfigLoaded,
          ((engined none).next t (.execute (Sample.dispatch 0))).isSome)) = some (true, true) ∧
      ((engined none).trace Sample.boot (Sample.commitAfter Sample.up)).all Sample.fillsNone
        = true := by
  decide

/-- The law on a commit whose fills all read the store. -/
theorem commit_on_base_boot : ∃ t t',
    (engined none).exec Sample.boot (Sample.commitAfter Sample.up) = some t ∧
    (engined none).next t (.execute (Sample.dispatch 0)) = some t' ∧
    CommitsOnBase none t (.execute (Sample.dispatch 0)) t' := by
  obtain ⟨hend, hfills⟩ := Sample.exec_commit
  obtain ⟨t, hexec, hend⟩ := Option.map_eq_some_iff.mp hend
  rw [Prod.mk.injEq] at hend
  obtain ⟨t', hs⟩ := Option.isSome_iff_exists.mp hend.2
  have hlast : FillsFind t (.execute (Sample.dispatch 0)) := by
    intro rest running changes _ _ _ _
    refine ⟨fun hloaded => ?_, fun _ => ⟨0, ?_, rfl⟩⟩
    · rw [hend.1] at hloaded
      cases hloaded
    · rw [selectCount]
      split <;> omega
  exact ⟨t, t', hexec, hs, commit_on_base Sample.fresh_boot (Machine.exec_run hexec)
    (fun p hp => Sample.fillsFind_of_fillsNone (List.all_eq_true.mp hfills p hp)) hlast hs⟩

end Commits

end Pretzel.Engined
