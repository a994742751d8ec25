import Pretzel.Engined.ApplyCommit
import Pretzel.Mgmtd.SettingsController

/-!
A batch between the check of mgmtd and the change loop of engined.

* `stageChanges_counts`: the loop counts the well-formed changes and the
  others.
* `stageChanges_total`: on a document whose settings scopes are objects, or are
  not there yet, the loop runs to its end.
* `isWellFormed_iff`: of the changes mgmtd accepts, engined takes those that name
  a domain.
* `applied_whole_iff`: a batch mgmtd forwards is staged whole, entry by entry,
  exactly when no change of it has an empty domain.
* `half_applied`: two changes accepted, one of them merged.
-/

namespace Pretzel.Fleet

open Nlohmann Ipc Config Mgmtd Engined

/-! ### The change loop, counted -/

/-- The loop counts the changes it stages and those it skips. -/
lemma stageChanges_counts {changes : List Json} {root root' : Json} {applied failed : ℕ}
    (h : stageChanges root changes = .ok (root', applied, failed)) :
    applied = changes.countP (fun c => isWellFormed c) ∧
      failed = changes.countP fun c => !isWellFormed c := by
  induction changes generalizing root applied failed with
  | nil =>
      cases h
      exact ⟨rfl, rfl⟩
  | cons change rest ih =>
      rw [stageChanges, except_bind_eq_ok] at h
      obtain ⟨⟨root₁, staged⟩, hstage, h⟩ := h
      rw [except_bind_eq_ok] at h
      obtain ⟨⟨root₂, applied', failed'⟩, hrest, h⟩ := h
      cases h
      obtain ⟨rfl, rfl⟩ := ih hrest
      obtain ⟨rfl, -, -⟩ := stageChange_eq_ok hstage
      rw [List.countP_cons, List.countP_cons]
      cases isWellFormed change <;> exact ⟨rfl, rfl⟩

/-- The settings scopes of a document are objects, or not there yet. -/
structure HoldsScopes (doc : Json) : Prop where
  isObject : doc.isObject = true
  scopes : ∀ scopeName ∈ kSettingsScopes,
    (doc.memberOrNull scopeName).isObject = true ∨ doc.memberOrNull scopeName = .null

/-- What is an object or null takes a member. -/
lemma set_of_isObject_or_null {j : Json} (h : j.isObject = true ∨ j = .null) (key : String)
    (v : Json) : ∃ j', j.set key v = .ok j' := by
  rcases h with h | rfl
  · obtain ⟨ms, rfl⟩ := Json.isObject_iff.mp h
    exact ⟨_, rfl⟩
  · exact ⟨_, rfl⟩

/-- One turn of the loop on a change mgmtd has accepted. -/
lemma stageChange_total {doc c : Json} (h : HoldsScopes doc) (hc : Accepted c) :
    ∃ doc' staged, stageChange doc c = .ok (doc', staged) ∧ HoldsScopes doc' := by
  obtain ⟨scopeName, hknown, hscope⟩ := hc.scope
  obtain ⟨domain, hdomain⟩ := hc.domain
  obtain ⟨values, hvalues⟩ := hc.values
  rw [stageChange, Json.valueString_of_find? hscope, Json.valueString_of_find? hdomain, hvalues]
  change ∃ doc' staged, (if scopeName = "" ∨ domain = "" ∨ (Json.obj values).isObject = false
    then Except.ok (doc, false) else _) = Except.ok (doc', staged) ∧ HoldsScopes doc'
  split
  · exact ⟨doc, false, rfl, h⟩
  · obtain ⟨scope, hset⟩ := set_of_isObject_or_null (h.scopes scopeName hknown) domain
      (((doc.memberOrNull scopeName).memberOrNull domain).mergePatch (.obj values))
    obtain ⟨doc', hset'⟩ := set_of_isObject_or_null (.inl h.isObject) scopeName scope
    refine ⟨doc', true, ?_, Json.isObject_set hset', ?_⟩
    · simp only [hset, hset', bind, Except.bind, pure, Except.pure]
    · intro other hother
      rw [Json.memberOrNull, Json.find?_set hset']
      split
      · exact .inl (Json.isObject_set hset)
      · exact h.scopes other hother

/-- **The loop runs to its end** on changes mgmtd has accepted. -/
lemma stageChanges_total {changes : List Json} {doc : Json} (h : HoldsScopes doc)
    (hc : ∀ c ∈ changes, Accepted c) :
    ∃ doc' applied failed, stageChanges doc changes = .ok (doc', applied, failed) := by
  induction changes generalizing doc with
  | nil => exact ⟨doc, 0, 0, rfl⟩
  | cons c rest ih =>
      obtain ⟨doc₁, staged, hstage, h₁⟩ := stageChange_total h (hc c List.mem_cons_self)
      obtain ⟨doc', applied, failed, hrest⟩ :=
        ih h₁ fun c' hc' => hc c' (List.mem_cons_of_mem _ hc')
      refine ⟨doc', applied + staged.toNat, failed + (!staged).toNat, ?_⟩
      rw [stageChanges, except_bind_eq_ok]
      refine ⟨_, hstage, ?_⟩
      rw [except_bind_eq_ok]
      exact ⟨_, hrest, rfl⟩

/-! ### The two tests of an entry -/

/-- The change names a domain. -/
def NamesDomain (c : Json) : Prop := c.find? "domain" ≠ some (.str "")

/-- **What mgmtd accepts and engined stages**: the two tests differ on the empty
domain, and nowhere else. -/
theorem isWellFormed_iff {c : Json} (hc : Accepted c) : isWellFormed c = true ↔ NamesDomain c := by
  obtain ⟨scopeName, hknown, hscope⟩ := hc.scope
  obtain ⟨domain, hdomain⟩ := hc.domain
  obtain ⟨values, hvalues⟩ := hc.values
  have hne : scopeName ≠ "" := by
    rintro rfl
    exact absurd hknown (by decide)
  rw [isWellFormed, hscope, hdomain, hvalues, NamesDomain, hdomain]
  simp [hne, Json.isObject]

/-! ### A forwarded batch -/

/-- `ApplyCommit`, on the configuration it reads, stages every change of the
batch and skips none. -/
def StagesWhole (file : Option Json) (io : DispatchIO) (e : EnginedState)
    (changes : List Json) : Prop :=
  ∃ root, stageChanges (cachedRunningConfig file e.table io.load e.config).runningConfigCache changes
    = .ok (root, changes.length, 0)

/-- `ApplyCommit` of a batch returns when its change loop does. -/
lemma stageChanges_of_applyCommit {file : Option Json} {io : DispatchIO} {e e' : EnginedState}
    {running : Task} {changes : List Json} (hrun : runningTask e.commitService.queue = some running)
    (hpayload : running.payload = .json (.arr changes)) :
    applyCommit file io e = .ok e' → ∃ staged, stageChanges
      (cachedRunningConfig file e.table io.load e.config).runningConfigCache changes = .ok staged := by
  intro h
  rw [applyCommit, hrun] at h
  dsimp only at h
  rw [hpayload] at h
  dsimp only at h
  rw [except_bind_eq_ok] at h
  obtain ⟨staged, hstage, -⟩ := h
  exact ⟨staged, hstage⟩

/-- And returns whenever it does. -/
lemma applyCommit_of_stageChanges {file : Option Json} {io : DispatchIO} {e : EnginedState}
    {running : Task} {changes : List Json} {staged : Json × ℕ × ℕ}
    (hrun : runningTask e.commitService.queue = some running)
    (hpayload : running.payload = .json (.arr changes))
    (h : stageChanges (cachedRunningConfig file e.table io.load e.config).runningConfigCache changes
      = .ok staged) : ∃ e', applyCommit file io e = .ok e' := by
  obtain ⟨root, applied, failed⟩ := staged
  rw [applyCommit, hrun]
  dsimp only
  rw [hpayload]
  dsimp only
  rw [h]
  change ∃ e', (if applied = 0 then _ else _) = Except.ok e'
  split
  · exact ⟨_, rfl⟩
  · split <;> exact ⟨_, rfl⟩

/-- **A batch mgmtd accepts and forwards**: whenever engined applies it, every
change of it is staged exactly when every one names a domain; and engined does
apply it on any configuration whose settings scopes are objects, or are not
there yet. -/
theorem applied_whole_iff {src : ConfigSource} {isAdmin : Bool} {body : Option Json.Document}
    {m : MgmtdState} {out : CommitOutcome} {msg : IpcMessage Payload}
    (h : Mgmtd.commit src isAdmin (body.map Subtype.val) m = .ok out)
    (hmsg : out.sent = some msg) :
    ∃ changes, msg = buildSettingsCommitRequest changes ∧
      ∀ file io (e : EnginedState) running,
        runningTask e.commitService.queue = some running → running.payload = msg.payload →
        (∀ e', applyCommit file io e = .ok e' →
          (StagesWhole file io e changes ↔ ∀ c ∈ changes, NamesDomain c)) ∧
        (HoldsScopes (cachedRunningConfig file e.table io.load e.config).runningConfigCache →
          ∃ e', applyCommit file io e = .ok e') := by
  have hsorted : ∀ j, body.map Subtype.val = some j → j.isSorted = true := by
    intro j hj
    obtain ⟨doc, -, rfl⟩ := Option.map_eq_some_iff.mp hj
    exact doc.property
  obtain ⟨-, changes, -, -, rfl, -, hsound, -⟩ := commit_sent h hsorted hmsg
  refine ⟨changes, rfl, fun file io e running hrun hpayload => ⟨fun e' happly => ?_, fun hscopes => ?_⟩⟩
  · obtain ⟨⟨root, applied, failed⟩, hstage⟩ := stageChanges_of_applyCommit hrun hpayload happly
    obtain ⟨happlied, hfailed⟩ := stageChanges_counts hstage
    have hiff : (∀ c ∈ changes, isWellFormed c = true) ↔ ∀ c ∈ changes, NamesDomain c :=
      forall₂_congr fun c hc => isWellFormed_iff (hsound.accepted c hc)
    rw [← hiff]
    constructor
    · rintro ⟨root', hwhole⟩
      rw [hstage] at hwhole
      cases hwhole
      exact List.countP_eq_length.mp happlied.symm
    · intro hall
      refine ⟨root, ?_⟩
      have hnone : failed = 0 := by
        rw [hfailed, List.countP_eq_zero]
        simpa using hall
      rw [hstage, happlied, hnone, List.countP_eq_length.mpr hall]
  · obtain ⟨root, applied, failed, hstage⟩ := stageChanges_total hscopes hsound.accepted
    exact applyCommit_of_stageChanges hrun hpayload hstage

/-! ### Two changes posted together -/

namespace TwoChanges

/-- A change of the pretzel scope. -/
def change (domain : String) : Json :=
  .obj [("domain", .str domain), ("scope", .str "pretzel"),
    ("values", .obj [("interval", .int 30)])]

/-- A change of one domain, and a change of another. -/
def batch (domain : String) : List Json := [change "probe", change domain]

/-- The body that posts both. -/
def body (domain : String) : Json.Document :=
  ⟨.obj [("changes", .arr (batch domain))], by
    have hkeys : ["domain", "scope", "values"].Pairwise (· < ·) := by decide
    simp only [batch, change, Json.isSorted, Json.isSortedMembers, Json.isSortedList,
      List.map_cons, List.map_nil, hkeys, List.pairwise_singleton, decide_true, Bool.and_self]⟩

/-- A configuration that cannot be read by mgmtd. -/
def source : ConfigSource := ⟨none, [], ⟨false, fun _ => false⟩⟩

/-- The calls of a dispatch that all succeed. -/
def up : DispatchIO :=
  { now := 0, load := ⟨true, fun _ => true⟩, commit := ⟨true, true, true, true, true⟩
    reload := ⟨true, fun _ => true⟩ }

/-- engined, with an active document, once it has been handed the batch. -/
def handed (domain : String) : EnginedState :=
  handleCommitEvent { table := [⟨7, .obj [("pretzel", .obj [])], .active⟩] }
    (.ReceiveSettingsCommit (buildSettingsCommitRequest (batch domain)).payload)

/-- What mgmtd makes of that body. -/
def posted (domain : String) : Except JsonError CommitOutcome :=
  Mgmtd.commit source true (some (body domain).val) {}

/-- What engined has committed of it. -/
def committed (domain : String) : Option Json :=
  match applyCommit none up (handed domain) with
  | .ok e => (activeRow e.table).map Row.config
  | .error _ => none

end TwoChanges

open TwoChanges in
/-- The law on a batch that names two domains. -/
theorem applied_whole_iff_twoDomains : ∃ out, posted "site" = .ok out ∧
    out.sent = some (buildSettingsCommitRequest (batch "site")) ∧
    StagesWhole none up (handed "site") (batch "site") := by
  refine ⟨_, rfl, rfl, ?_⟩
  obtain ⟨changes, heq, hall⟩ := @applied_whole_iff source true (some (body "site")) {} _ _ rfl rfl
  obtain rfl : batch "site" = changes := by
    rw [buildSettingsCommitRequest, buildSettingsCommitRequest, IpcMessage.mk.injEq] at heq
    exact Json.arr.inj (Payload.json.inj heq.2)
  obtain ⟨hwhole, happlies⟩ := hall none up (handed "site") _ rfl rfl
  obtain ⟨e', he'⟩ := happlies ⟨rfl, by decide +kernel⟩
  exact (hwhole e' he').mpr (by simp [batch, change, NamesDomain, Json.find?, Json.lookup])

open TwoChanges in
/-- **Two changes are answered as applied, and one of them is merged**: engined
skips the change whose domain is empty and commits the other. -/
theorem half_applied : ∃ out, posted "" = .ok out ∧ out.response.status = 200 ∧
    out.response.body.find? "applied" = some (.int 2) ∧
    out.sent = some (buildSettingsCommitRequest (batch "")) ∧
    ¬ StagesWhole none up (handed "") (batch "") ∧
    committed "" = some (.obj [("pretzel", .obj [("probe", .obj [("interval", .int 30)])])]) := by
  refine ⟨_, rfl, rfl, rfl, rfl, ?_, ?_⟩
  · rintro ⟨root, hwhole⟩
    obtain ⟨-, hfailed⟩ := stageChanges_counts hwhole
    exact absurd hfailed (by decide +kernel)
  · decide +kernel

end Pretzel.Fleet
