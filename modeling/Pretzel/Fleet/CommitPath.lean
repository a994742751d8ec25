import Pretzel.Engined.Backlog
import Pretzel.Engined.CommittedBase
import Pretzel.Engined.MergedSection
import Pretzel.Mgmtd.SettingsController

/-!
The path of a commit: mgmtd, which checks a batch, and engined, which merges it.

* `Label`, `commitPath`: a batch posted, a read of the configuration by any
  other handler of mgmtd, an answer of engined handled, a frame delivered, and a
  step of engined.
* `outstanding`: the batches accepted and not yet merged, in order.
* `PostedInTurn`: a batch that brings connector arrays is posted when no such
  batch is outstanding and mgmtd's copy of these arrays is the active one's.
* `references_kept`: in a run of such posts every active document passes the
  reference check.
* `references_broken`: two batches, each sound alone, and the document does not.
-/

namespace Pretzel.Fleet

open Nlohmann Ipc Config Mgmtd Engined Reactive

/-! ### The system -/

/-- mgmtd, the frames on their way from it to engined, and engined. -/
structure CommitPath where
  mgmtd : MgmtdState := {}
  wire : List (IpcMessage Payload) := []
  engined : EnginedState

/-- The steps of the path. -/
inductive Label where
  | post (body : Option Json.Document) (isAdmin : Bool) (load : LoadIO)
  | readConfig (load : LoadIO)
  | answer (msg : IpcMessage Payload)
  | deliver
  | engined (l : Engined.Label)

/-- The frames engined is given by any other process. -/
def isForeign : Engined.Label → Bool
  | .receive msg => decide (msg.header.cmd ≠ .SettingsCommitRequest)
  | _ => true

/-- No other process sends a commit. -/
lemma arrivals_of_isForeign {l : Engined.Label} (h : isForeign l = true) : arrivals l = [] := by
  cases l with
  | receive msg =>
      have hcmd : msg.header.cmd ≠ .SettingsCommitRequest := by simpa [isForeign] using h
      rw [arrivals, createEvent]
      split <;> first | rfl | exact absurd ‹_› hcmd
  | _ => rfl

/-- What a read of mgmtd meets. -/
def configSource (file : Option Json) (s : CommitPath) (load : LoadIO) : ConfigSource :=
  ⟨file, s.engined.table, load⟩

/-- The active document of a preflighted store passes the reference check, and
no process has started. -/
def Sound (s : CommitPath) : Prop :=
  s.mgmtd = {} ∧ s.wire = [] ∧ Fresh s.engined ∧ s.engined.preflighted = true ∧
    ∃ r, activeRow s.engined.table = some r ∧ r.config.isObject = true ∧
      checkApiReferences (connectorSection r.config) = .ok none

/-- The path, over the startup file both processes read. -/
def commitPath (file : Option Json) : Machine CommitPath Label where
  init := Sound
  next s
    | .post body isAdmin load =>
        match commit (configSource file s load) isAdmin (body.map Subtype.val) s.mgmtd with
        | .ok out => some { s with mgmtd := out.state, wire := s.wire ++ out.sent.toList }
        | .error _ => none
    | .readConfig load =>
        some { s with mgmtd := { s.mgmtd with config := (configSource file s load).fill s.mgmtd.config } }
    | .answer msg =>
        if msg ∈ s.engined.sent ∧ msg.header.cmd = .SettingsCommitResponse then
          some { s with mgmtd := onSettingsCommitResponse msg s.mgmtd }
        else none
    | .deliver =>
        match s.wire with
        | [] => none
        | msg :: wire =>
            ((engined file).next s.engined (.receive msg)).map fun e => { s with wire, engined := e }
    | .engined l =>
        if isForeign l then
          ((engined file).next s.engined l).map fun e => { s with engined := e }
        else none

/-! ### The batches outstanding -/

/-- The batch a frame carries to engined. -/
def carriedBatch (msg : IpcMessage Payload) : Option Payload := (createEvent msg).bind arrival

/-- The batches accepted and not yet merged, in the order they were posted. -/
def outstanding (s : CommitPath) : List Payload :=
  backlog s.engined ++ s.wire.filterMap carriedBatch

/-- A batch that brings connector arrays. -/
def touches : Payload → Bool
  | .json (.arr changes) => touchesReferences changes
  | _ => false

/-- The connector domain of the document a commit starts from: the active one. -/
def activeSection (file : Option Json) (s : CommitPath) : Json :=
  connectorSection (baseDoc file s.engined.table)

/-- A batch with connector arrays is posted when none is outstanding and mgmtd,
with its cache filled, has the three arrays of the active document. -/
def PostedInTurn (file : Option Json) (s : CommitPath) : Label → Prop
  | .post (some body) _ load => ∀ changes, body.val.find? "changes" = some (.arr changes) →
      touchesReferences changes = true → (∀ p ∈ outstanding s, touches p = false) ∧
        ∀ key ∈ referenceKeys,
          (configSection ((configSource file s load).fill s.mgmtd.config) "pretzel" "connector").find? key
            = (activeSection file s).find? key
  | .engined l => FillsFind s.engined l
  | _ => True

/-- Every active document passes the reference check, and its references
resolve. -/
def ReferencesIntact (s : CommitPath) : Prop :=
  ∀ r, activeRow s.engined.table = some r →
    checkApiReferences (connectorSection r.config) = .ok none ∧ RefsResolve (connectorSection r.config)

/-- A step that merges one of the batches outstanding into the active document. -/
structure MergesBatch (file : Option Json) (s s' : CommitPath) (changes : List Json) : Prop where
  active : ∃ r, activeRow s'.engined.table = some r
  doc : baseDoc file s'.engined.table
    = redactSecretsForPersist (mergeChanges (baseDoc file s.engined.table) changes)
  mem : .json (.arr changes) ∈ outstanding s
  sublist : (outstanding s').Sublist (outstanding s)
  count : ∀ f : Payload → Bool, (outstanding s').countP f
    + (f (.json (.arr changes))).toNat ≤ (outstanding s).countP f

/-- The batch a frame carries is taken off the wire. -/
lemma arrivals_deliver {msg : IpcMessage Payload} {wire wire' : List (IpcMessage Payload)}
    (hwire : wire' = msg :: wire) :
    arrivals (.receive msg) ++ wire.filterMap carriedBatch = wire'.filterMap carriedBatch := by
  rw [hwire, List.filterMap_cons]
  show (carriedBatch msg).toList ++ _ = _
  cases carriedBatch msg <;> rfl

/-- **A step of engined on the path**, with the batch it receives taken off the wire:
the table stays, or one batch is merged. -/
lemma engined_cases {file : Option Json} {s : CommitPath} {l : Engined.Label} {e : EnginedState}
    {wire : List (IpcMessage Payload)} (htracked : Tracked s.engined)
    (hcoherent : Coherent file s.engined) (hpre : s.engined.preflighted = true)
    (hfills : FillsFind s.engined l) (hs : (engined file).next s.engined l = some e)
    (hwire : arrivals l ++ wire.filterMap carriedBatch = s.wire.filterMap carriedBatch) :
    (Tracked e ∧ Coherent file e ∧ e.preflighted = true) ∧
      ((e.table = s.engined.table ∧
          (outstanding { s with wire, engined := e }).Sublist (outstanding s)) ∨
        ∃ changes, MergesBatch file s { s with wire, engined := e } changes) := by
  have houtstanding : outstanding s
      = backlog s.engined ++ arrivals l ++ wire.filterMap carriedBatch := by
    rw [outstanding, ← hwire, List.append_assoc]
  obtain ⟨hpre', ⟨htable, hsub⟩ | ⟨changes, hcommits⟩⟩ := backlog_next htracked hpre hs
  · refine ⟨⟨tracked_next htracked hs, coherent_next hcoherent hfills hs, hpre'⟩,
      .inl ⟨htable, ?_⟩⟩
    rw [houtstanding]
    exact hsub.append (List.Sublist.refl _)
  · refine ⟨⟨tracked_next htracked hs, coherent_next hcoherent hfills hs, hpre'⟩,
      .inr ⟨changes, ?_⟩⟩
    -- the running task's batch is merged into the active document
    obtain ⟨io, rest, running, rfl, hevents, hactions, hrun, hpayload, hgoes⟩ := hcommits.step
    have hbase := commitsOnBase_next hcoherent hfills hs io rest running changes rfl hevents
      hactions hrun hpayload hgoes
    obtain ⟨r, hr, hconfig⟩ := Option.map_eq_some_iff.mp hbase
    refine ⟨⟨r, hr⟩, ?_, ?_, ?_, fun f => ?_⟩
    · rw [← hconfig]
      show baseDoc file e.table = r.config
      rw [baseDoc, hr]
      rfl
    · rw [houtstanding, List.append_assoc]
      exact List.mem_append_left _ hcommits.mem
    · rw [houtstanding]
      exact (hcommits.sublist.trans (List.sublist_append_left _ _)).append (List.Sublist.refl _)
    · have hcount := hcommits.count f
      rw [houtstanding]
      simp only [outstanding, List.countP_append]
      omega

/-! ### Batches over a section -/

lemma soundOver_rebase {a b : Json} {changes : List Json} (h : SoundOver a changes)
    (hab : touchesReferences changes = true → ∀ key ∈ referenceKeys, a.find? key = b.find? key) :
    SoundOver b changes := by
  refine ⟨h.accepted, h.sorted, fun ht => ?_⟩
  obtain ⟨effective, hobj, hcheck, hfind⟩ := h.references ht
  refine ⟨effective, hobj, hcheck, fun key hkey => ?_⟩
  rw [hfind key hkey, hab ht key hkey]

/-- What has passed the schema is merged as it was checked. -/
lemma publishesArray_of_soundOver {section_ : Json} {changes : List Json}
    (h : SoundOver section_ changes) {key : String} (hkey : key ∈ referenceKeys) :
    ∀ c ∈ changes, PublishesArray key c := by
  refine fun c hc => ⟨h.sorted c hc, fun v hv => ?_⟩
  rw [publishedBy] at hv
  split at hv
  · next hconn => exact (h.accepted c hc).arrays hconn key hkey v hv
  · cases hv

/-- **The merge of a sound batch keeps the references**: a batch with connector
arrays leaves the arrays that were checked, any other leaves those it finds. -/
theorem check_merged {doc : Json} {changes : List Json}
    (h : SoundOver (connectorSection doc) changes)
    (hdoc : checkApiReferences (connectorSection doc) = .ok none) :
    checkApiReferences (connectorSection (redactSecretsForPersist (mergeChanges doc changes)))
      = .ok none := by
  rw [connectorSection_redact]
  have hmerged : ∀ key ∈ referenceKeys, (connectorSection (mergeChanges doc changes)).find? key
      = (published key changes).or ((connectorSection doc).find? key) :=
    fun key hkey => find?_mergeChanges (publishesArray_of_soundOver h hkey) doc
  cases ht : touchesReferences changes with
  | true =>
      obtain ⟨effective, hobj, hcheck, hfind⟩ := h.references ht
      rw [← hcheck]
      refine checkApiReferences_congr (isObject_connectorSection _) hobj fun key hkey => ?_
      rw [hmerged key hkey, hfind key hkey]
  | false =>
      rw [← hdoc]
      refine checkApiReferences_congr (isObject_connectorSection _) (isObject_connectorSection _)
        fun key hkey => ?_
      rw [hmerged key hkey, published_of_untouched ht hkey]
      rfl

/-- A batch without connector arrays leaves the three as they are. -/
lemma find?_merged {doc : Json} {changes : List Json}
    (h : SoundOver (connectorSection doc) changes) (ht : touchesReferences changes = false)
    {key : String} (hkey : key ∈ referenceKeys) :
    (connectorSection (redactSecretsForPersist (mergeChanges doc changes))).find? key
      = (connectorSection doc).find? key := by
  rw [connectorSection_redact, find?_mergeChanges (publishesArray_of_soundOver h hkey),
    published_of_untouched ht hkey]
  rfl

/-! ### The invariant -/

/-- A batch that is sound over a section. -/
def SoundBatch (section_ : Json) (p : Payload) : Prop :=
  ∃ changes, p = .json (.arr changes) ∧ SoundOver section_ changes

/-- What holds between steps: the active document passes the check, and so would
it with any one of the outstanding batches merged, of which at most one brings
connector arrays. -/
structure Intact (file : Option Json) (s : CommitPath) : Prop where
  tracked : Tracked s.engined
  coherent : Coherent file s.engined
  preflighted : s.engined.preflighted = true
  active : ∃ r, activeRow s.engined.table = some r
  check : checkApiReferences (activeSection file s) = .ok none
  batches : ∀ p ∈ outstanding s, SoundBatch (activeSection file s) p
  single : (outstanding s).countP touches ≤ 1

section Steps

variable {file : Option Json} {s s' : CommitPath}

lemma intact_init (h : Sound s) : Intact file s := by
  obtain ⟨hmgmtd, hwire, hfresh, hpre, r, hr, -, hcheck⟩ := h
  have hempty : outstanding s = [] := by
    obtain ⟨tbl, dbReady, preflighted, heq⟩ := hfresh
    rw [outstanding, hwire, heq]
    rfl
  refine ⟨tracked_fresh hfresh, coherent_fresh hfresh, hpre, ⟨r, hr⟩, ?_, ?_, ?_⟩
  · rw [activeSection, baseDoc, hr]
    exact hcheck
  · rw [hempty]
    simp
  · rw [hempty]
    simp

/-- A step that leaves engined alone, and adds at most batches that are in
turn. -/
lemma Intact.of_engined_eq (h : Intact file s) (hengined : s'.engined = s.engined)
    (hbatches : ∀ p ∈ outstanding s', SoundBatch (activeSection file s) p)
    (hsingle : (outstanding s').countP touches ≤ 1) : Intact file s' := by
  have hsection : activeSection file s' = activeSection file s := by
    rw [activeSection, hengined, activeSection]
  refine ⟨hengined ▸ h.tracked, hengined ▸ h.coherent, hengined ▸ h.preflighted,
    hengined ▸ h.active, ?_, ?_, hsingle⟩
  · rw [hsection]
    exact h.check
  · rw [hsection]
    exact hbatches

lemma Intact.of_mgmtd (h : Intact file s) (m : MgmtdState) : Intact file { s with mgmtd := m } :=
  h.of_engined_eq rfl h.batches h.single

/-- **A post in turn.** -/
lemma intact_post {body : Option Json.Document} {isAdmin : Bool} {load : LoadIO}
    {out : CommitOutcome} (h : Intact file s)
    (hturn : PostedInTurn file s (.post body isAdmin load))
    (hcommit : commit (configSource file s load) isAdmin (body.map Subtype.val) s.mgmtd = .ok out) :
    Intact file { s with mgmtd := out.state, wire := s.wire ++ out.sent.toList } := by
  cases hmsg : out.sent with
  | none =>
      rw [Option.toList_none, List.append_nil]
      exact h.of_mgmtd out.state
  | some msg =>
      have hsorted : ∀ j, body.map Subtype.val = some j → j.isSorted = true := by
        intro j hj
        obtain ⟨doc, -, rfl⟩ := Option.map_eq_some_iff.mp hj
        exact doc.property
      obtain ⟨j, changes, hj, hchanges, rfl, -, hsound, -⟩ := commit_sent hcommit hsorted hmsg
      obtain ⟨doc, rfl, rfl⟩ := Option.map_eq_some_iff.mp hj
      have hturn' := hturn changes hchanges
      have hnew : outstanding { s with mgmtd := out.state, wire := s.wire ++
          (some (buildSettingsCommitRequest changes)).toList }
            = outstanding s ++ [.json (.arr changes)] := by
        rw [outstanding, Option.toList_some, List.filterMap_append, ← List.append_assoc]
        rfl
      refine h.of_engined_eq rfl ?_ ?_ <;> rw [hnew]
      · intro p hp
        rcases List.mem_append.mp hp with hp | hp
        · exact h.batches p hp
        · rw [List.mem_singleton] at hp
          exact ⟨changes, hp, soundOver_rebase hsound fun ht => (hturn' ht).2⟩
      · rw [List.countP_append, List.countP_singleton]
        split
        · next ht =>
            have hnone := List.countP_eq_zero.mpr fun p hp =>
              Bool.eq_false_iff.mp ((hturn' ht).1 p hp)
            omega
        · have := h.single
          omega

/-- **A step of engined**, with the batch it receives taken off the wire. -/
lemma intact_engined {l : Engined.Label} {e : EnginedState} {wire : List (IpcMessage Payload)}
    (h : Intact file s) (hfills : FillsFind s.engined l)
    (hs : (engined file).next s.engined l = some e)
    (hwire : arrivals l ++ wire.filterMap carriedBatch = s.wire.filterMap carriedBatch) :
    Intact file { s with wire, engined := e } := by
  obtain ⟨⟨htracked, hcoherent, hpre⟩, ⟨htable, hless⟩ | ⟨changes, hmerges⟩⟩ :=
    engined_cases h.tracked h.coherent h.preflighted hfills hs hwire
  · have hsection : activeSection file { s with wire, engined := e } = activeSection file s := by
      rw [activeSection, activeSection, htable]
    refine ⟨htracked, hcoherent, hpre, htable ▸ h.active, hsection ▸ h.check, ?_, ?_⟩
    · rw [hsection]
      exact fun p hp => h.batches p (hless.subset hp)
    · exact hless.countP_le.trans h.single
  · have hsection : activeSection file { s with wire, engined := e } = connectorSection
        (redactSecretsForPersist (mergeChanges (baseDoc file s.engined.table) changes)) := by
      rw [activeSection, hmerges.doc]
    obtain ⟨changes', heq, hsound⟩ := h.batches _ hmerges.mem
    rw [Payload.json.injEq, Json.arr.injEq] at heq
    subst heq
    have hcount := hmerges.count touches
    refine ⟨htracked, hcoherent, hpre, hmerges.active, ?_, ?_, ?_⟩
    · rw [hsection]
      exact check_merged hsound h.check
    · intro p hp
      obtain ⟨changes', rfl, hsound'⟩ := h.batches p (hmerges.sublist.subset hp)
      rw [hsection]
      refine ⟨changes', rfl, soundOver_rebase hsound' fun ht key hkey => ?_⟩
      have huntouched : touchesReferences changes = false := by
        -- a second batch with connector arrays is outstanding
        cases htouch : touchesReferences changes with
        | false => rfl
        | true =>
            have hpos : 0 < (outstanding { s with wire, engined := e }).countP touches :=
              List.countP_pos_iff.mpr ⟨_, hp, ht⟩
            have hone : (touches (.json (.arr changes))).toNat = 1 := by
              rw [touches, htouch]
              rfl
            have := h.single
            omega
      exact (find?_merged hsound huntouched hkey).symm
    · have := h.single
      omega

/-- **Every step in turn keeps the invariant.** -/
theorem intact_next {l : Label} (h : Intact file s) (hturn : PostedInTurn file s l)
    (hs : (commitPath file).next s l = some s') : Intact file s' := by
  cases l with
  | post body isAdmin load =>
      simp only [commitPath] at hs
      split at hs
      · next out hcommit =>
          cases hs
          exact intact_post h hturn hcommit
      · cases hs
  | readConfig load =>
      cases hs
      exact h.of_mgmtd _
  | answer msg =>
      simp only [commitPath, Option.ite_none_right_eq_some, Option.some.injEq] at hs
      obtain ⟨-, rfl⟩ := hs
      exact h.of_mgmtd _
  | deliver =>
      simp only [commitPath] at hs
      split at hs
      · cases hs
      · next msg wire hwire =>
          obtain ⟨e, hnext, rfl⟩ := Option.map_eq_some_iff.mp hs
          have hfills : FillsFind s.engined (.receive msg) := trivial
          exact intact_engined h hfills hnext (arrivals_deliver hwire)
  | engined l =>
      simp only [commitPath, Option.ite_none_right_eq_some, Option.map_eq_some_iff] at hs
      obtain ⟨hforeign, e, hs, rfl⟩ := hs
      refine intact_engined h hturn hs ?_
      rw [arrivals_of_isForeign hforeign, List.nil_append]

end Steps

/-! ### Whole runs -/

section Runs

variable {file : Option Json} {s t : CommitPath} {tr : List (CommitPath × Label)}

/-- **Commits posted in turn keep referential integrity**: in a run where every
batch with connector arrays is posted with none outstanding and on a current
copy of them, every active document passes the reference check. -/
theorem references_kept (h0 : Sound s) (h : (commitPath file).Run s tr t)
    (htr : ∀ p ∈ tr, PostedInTurn file p.1 p.2) : ReferencesIntact t := by
  have hintact : Intact file t := by
    refine h.invariant_of_forall (C := PostedInTurn file) (intact_init h0) ?_ htr
    intro u l u' hI hC hs
    exact intact_next hI hC hs
  intro r hr
  have hcheck := hintact.check
  rw [activeSection, baseDoc, hr] at hcheck
  exact ⟨hcheck, refsResolve_of_check hcheck⟩

/-- A store whose active document has one endpoint and one API key, and no
connector. -/
def Sample.configured : CommitPath where
  engined :=
    { Engined.Sample.boot with
      preflighted := true
      table := [⟨7, .obj [("pretzel", .obj [("connector", .obj
        [("api_credentials", .arr [.obj [("oid", .str "k1")]]),
          ("endpoints", .arr [.obj [("oid", .str "e1")]])])])], .active⟩] }

lemma Sample.sound_configured : Sound Sample.configured :=
  ⟨rfl, rfl, ⟨_, true, true, rfl⟩, rfl, _, rfl, rfl, rfl⟩

/-- A body that publishes values of the connector domain. -/
def Sample.body (values : List (String × Json)) : Json :=
  .obj [("changes", .arr [Engined.Sample.change "connector" values])]

/-- A batch that deletes the endpoint. -/
def Sample.deletes : Json.Document := ⟨Sample.body [("endpoints", .arr [])], by decide⟩

/-- A batch that adds a connector which collects the endpoint. -/
def Sample.collects : Json.Document :=
  ⟨Sample.body [("connectors", .arr [.obj [("auth_profile", .str "k1"),
    ("items", .arr [.obj [("endpoint", .str "e1")]]), ("object", .str "d1"),
    ("oid", .str "c1")]])], by decide⟩

/-- The labels of a dispatch, a number of times. -/
def Sample.dispatches (n now : ℕ) : List Label :=
  List.replicate n (.engined (.execute (Engined.Sample.dispatch now)))

/-- Both batches posted before either is merged; the first reload times out. -/
def Sample.bothPosted : List Label := List.flatten
  [[.post (some Sample.deletes) true Engined.Sample.up,
      .post (some Sample.collects) true Engined.Sample.up,
      .engined (.start Engined.Sample.up),
      .engined (.receive (Engined.Sample.fromIpcd .ServerHello .malformed)), .deliver, .deliver,
      .engined (.schedule (Engined.Sample.tick 0))], Sample.dispatches 8 0,
    [.engined (.schedule (Engined.Sample.tick 60000))], Sample.dispatches 4 60000]

/-- What the reference check says of the active document. -/
def Sample.verdict (s : CommitPath) : Option (Option (Option String)) :=
  (activeRow s.engined.table).map fun r =>
    (checkApiReferences (connectorSection r.config)).toOption

lemma Sample.exec_bothPosted : ((commitPath none).exec Sample.configured Sample.bothPosted).map
    Sample.verdict = some (some (some (some ("connector 'c1' collects an endpoint that does not " ++
      "exist — remove that entry from the connector first")))) := by
  decide +kernel

/-- Two batches, each sound on the active document, are accepted before either
is merged, and the document that results names an endpoint it does not have. -/
theorem references_broken : ¬ ∀ s tr t, Sound s → (commitPath none).Run s tr t →
    ReferencesIntact t := by
  intro hall
  obtain ⟨t, hexec, hverdict⟩ := Option.map_eq_some_iff.mp Sample.exec_bothPosted
  obtain ⟨r, hr, hcheck⟩ := Option.map_eq_some_iff.mp hverdict
  have hintact := (hall _ _ _ Sample.sound_configured (Machine.exec_run hexec) r hr).1
  rw [hintact] at hcheck
  cases hcheck

/-- The fill gives the active row, by its first SELECT. -/
def Sample.fillFinds (tbl : Table) (io : LoadIO) (c : ConfigState) : Bool :=
  io.select 0 && (activeRow tbl).all fun r => (c.dbReady || io.connect) && r.config.isObject

lemma Sample.fillFinds_spec {tbl : Table} {io : LoadIO} {c : ConfigState}
    (h : Sample.fillFinds tbl io c = true) : FillFinds tbl io c := by
  rw [Sample.fillFinds, Bool.and_eq_true] at h
  intro _ r hr
  have hrow := h.2
  rw [hr, Option.all_some, Bool.and_eq_true, Bool.or_eq_true] at hrow
  refine ⟨hrow.1, hrow.2, 0, ?_, h.1⟩
  rw [selectCount]
  split <;> omega

/-- A step in turn, decided. -/
def Sample.inTurn (p : CommitPath × Label) : Bool :=
  match p.2 with
  | .post (some body) _ load =>
      match body.val.find? "changes" with
      | some (.arr changes) => !touchesReferences changes ||
          ((outstanding p.1).all (fun batch => !touches batch) && referenceKeys.all fun key =>
            decide ((configSection ((configSource none p.1 load).fill p.1.mgmtd.config) "pretzel"
              "connector").find? key = (activeSection none p.1).find? key))
      | _ => true
  | .engined (.start io) | .engined (.readConfig io) =>
      Sample.fillFinds p.1.engined.table io p.1.engined.config
  | .engined (.execute io) =>
      Sample.fillFinds p.1.engined.table io.load p.1.engined.config && io.reload.select 0
  | _ => true

lemma Sample.postedInTurn_of_inTurn {p : CommitPath × Label} (h : Sample.inTurn p = true) :
    PostedInTurn none p.1 p.2 := by
  obtain ⟨s, l⟩ := p
  cases l with
  | post body isAdmin load =>
      cases body with
      | none => trivial
      | some body =>
          intro changes hchanges ht
          simp only [Sample.inTurn, hchanges, ht, Bool.not_true, Bool.false_or, Bool.and_eq_true,
            List.all_eq_true, decide_eq_true_eq, Bool.not_eq_true'] at h
          exact h
  | engined l =>
      cases l with
      | start io => exact Sample.fillFinds_spec h
      | readConfig io => exact Sample.fillFinds_spec h
      | execute io =>
          obtain ⟨hload, hreload⟩ := (Bool.and_eq_true _ _).mp h
          intro rest running changes _ _ _ _
          refine ⟨Sample.fillFinds_spec hload, fun _ => ⟨0, ?_, hreload⟩⟩
          rw [selectCount]
          split <;> omega
      | _ => trivial
  | _ => trivial

/-- One batch posted and merged. -/
def Sample.onePosted : List Label := List.flatten
  [[.post (some Sample.collects) true Engined.Sample.up, .engined (.start Engined.Sample.up), .deliver,
      .engined (.schedule (Engined.Sample.tick 0))], Sample.dispatches 3 0]

lemma Sample.exec_onePosted :
    ((commitPath none).exec Sample.configured Sample.onePosted).map
        (fun t => (activeRow t.engined.table).map Row.version) = some (some 8) ∧
      ((commitPath none).trace Sample.configured Sample.onePosted).all Sample.inTurn = true := by
  decide

/-- The law on a batch posted in turn. -/
theorem references_kept_onePosted : ∃ t,
    (commitPath none).exec Sample.configured Sample.onePosted = some t ∧
    (activeRow t.engined.table).map Row.version = some 8 ∧ ReferencesIntact t := by
  obtain ⟨hend, hturns⟩ := Sample.exec_onePosted
  obtain ⟨t, hexec, hversion⟩ := Option.map_eq_some_iff.mp hend
  exact ⟨t, hexec, hversion, references_kept Sample.sound_configured (Machine.exec_run hexec)
    fun p hp => Sample.postedInTurn_of_inTurn (List.all_eq_true.mp hturns p hp)⟩

end Runs

end Pretzel.Fleet
