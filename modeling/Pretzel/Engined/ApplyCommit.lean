import Pretzel.Engined.CommitService

/-!
What one `ApplyCommit` does.

* `isWellFormed`, `changePatch`: a change the loop stages, as the merge patch
  `{scope: {domain: values}}` it stands for.
* `stageChanges_eq_ok`: the loop merges the patches of the well-formed changes
  in order and counts them.
* `goesThrough`: the payload and the database calls with which a commit passes
  every early check.
* `applyCommit_cases`: a refused commit and one that goes through, with all
  each of them changes.
-/

namespace Pretzel.Engined

open Nlohmann Ipc Config

/-! ### The changes of a payload -/

/-- A change with a scope, a domain, and an object of values. -/
def isWellFormed (change : Json) : Bool :=
  match change.find? "scope", change.find? "domain", change.find? "values" with
  | some (.str scopeName), some (.str domain), some values =>
      scopeName != "" && domain != "" && values.isObject
  | _, _, _ => false

/-- The merge patch a change stands for. -/
def changePatch (change : Json) : Json :=
  match change.find? "scope", change.find? "domain", change.find? "values" with
  | some (.str scopeName), some (.str domain), some values =>
      .obj [(scopeName, .obj [(domain, values)])]
  | _, _, _ => .obj []

/-- The well-formed changes merged into a document, in order. -/
def mergeChanges (root : Json) (changes : List Json) : Json :=
  (changes.filter fun c => isWellFormed c).foldl (fun doc c => doc.mergePatch (changePatch c)) root

lemma mergeChanges_cons (root change : Json) (rest : List Json) :
    mergeChanges root (change :: rest) = mergeChanges
      (if isWellFormed change = true then root.mergePatch (changePatch change) else root) rest := by
  rw [mergeChanges, List.filter_cons]
  split <;> rfl

/-- Assignment through two levels of `operator[]` is a merge patch. -/
lemma set_set_eq_mergePatch {root scope root' : Json} {scopeName domain : String}
    {values : List (String × Json)}
    (hscope : (root.memberOrNull scopeName).set domain
      (((root.memberOrNull scopeName).memberOrNull domain).mergePatch (.obj values)) = .ok scope)
    (hroot : root.set scopeName scope = .ok root') :
    root' = root.mergePatch (.obj [(scopeName, .obj [(domain, .obj values)])]) := by
  have hscope' : scope = (root.memberOrNull scopeName).mergePatch (.obj [(domain, .obj values)]) := by
    cases hs : root.memberOrNull scopeName with
    | obj ms =>
        rw [hs] at hscope
        cases hscope
        simp [Json.mergePatch, Json.mergeMembers, Json.memberOrNull, Json.find?]
    | null =>
        rw [hs] at hscope
        cases hscope
        simp [Json.mergePatch, Json.mergeMembers, Json.memberOrNull, Json.find?, Json.members,
          Json.lookup, Json.insertMember]
    | _ => rw [hs] at hscope; cases hscope
  cases root with
  | obj ms =>
      cases hroot
      rw [hscope']
      simp [Json.mergePatch, Json.mergeMembers, Json.memberOrNull, Json.find?]
  | null =>
      cases hroot
      rw [hscope']
      simp [Json.mergePatch, Json.mergeMembers, Json.memberOrNull, Json.find?, Json.members,
        Json.lookup, Json.insertMember]
  | _ => cases hroot

/-- **One entry of the change loop**: a well-formed change is merged, any other
is skipped. -/
lemma stageChange_eq_ok {root change root' : Json} {staged : Bool}
    (h : stageChange root change = .ok (root', staged)) :
    staged = isWellFormed change ∧
      root' = (if isWellFormed change then root.mergePatch (changePatch change) else root) ∧
      (staged = true → root'.isObject = true) := by
  rw [stageChange, except_bind_eq_ok] at h
  obtain ⟨scopeName, hscope, h⟩ := h
  rw [except_bind_eq_ok] at h
  obtain ⟨domain, hdomain, h⟩ := h
  have hskip : isWellFormed change = false → root' = root → staged = false →
      staged = isWellFormed change ∧
      root' = (if isWellFormed change then root.mergePatch (changePatch change) else root) ∧
      (staged = true → root'.isObject = true) := by
    rintro hw rfl rfl
    simp [hw]
  cases hvalues : change.find? "values" with
  | none =>
      rw [hvalues] at h
      cases h
      refine hskip ?_ rfl rfl
      simp [isWellFormed, hvalues]
  | some values =>
      rw [hvalues] at h
      dsimp only at h
      split at h
      · next hbad =>
          cases h
          refine hskip ?_ rfl rfl
          rcases Json.valueString_eq_ok hscope with hs | ⟨hs, hs'⟩
          · rcases Json.valueString_eq_ok hdomain with hd | ⟨hd, -⟩
            · rw [isWellFormed, hs, hd, hvalues]
              rcases hbad with rfl | rfl | hobj
              · rfl
              · simp
              · simp [hobj]
            · simp [isWellFormed, hd]
          · simp [isWellFormed, hs]
      · next hgood =>
          rw [not_or, not_or] at hgood
          obtain ⟨hs0, hd0, hobj⟩ := hgood
          rw [Bool.not_eq_false, Json.isObject_iff] at hobj
          obtain ⟨vs, rfl⟩ := hobj
          have hs : change.find? "scope" = some (.str scopeName) :=
            (Json.valueString_eq_ok hscope).resolve_right fun hnone => hs0 hnone.2
          have hd : change.find? "domain" = some (.str domain) :=
            (Json.valueString_eq_ok hdomain).resolve_right fun hnone => hd0 hnone.2
          have hw : isWellFormed change = true := by
            simp [isWellFormed, hs, hd, hvalues, hs0, hd0, Json.isObject]
          rw [except_bind_eq_ok] at h
          obtain ⟨scope, hset, h⟩ := h
          rw [except_bind_eq_ok] at h
          obtain ⟨root'', hset', h⟩ := h
          cases h
          refine ⟨hw.symm, ?_, fun _ => Json.isObject_set hset'⟩
          rw [if_pos hw, changePatch, hs, hd, hvalues]
          exact set_set_eq_mergePatch hset hset'

/-- **The change loop.** -/
theorem stageChanges_eq_ok {changes : List Json} {root root' : Json} {applied failed : ℕ}
    (h : stageChanges root changes = .ok (root', applied, failed)) :
    root' = mergeChanges root changes ∧
      applied = (changes.filter fun c => isWellFormed c).length ∧
      (root.isObject = true ∨ applied ≠ 0 → root'.isObject = true) := by
  induction changes generalizing root applied failed with
  | nil =>
      cases h
      simp [mergeChanges]
  | cons change rest ih =>
      rw [stageChanges, except_bind_eq_ok] at h
      obtain ⟨⟨root₁, staged⟩, hstage, h⟩ := h
      rw [except_bind_eq_ok] at h
      obtain ⟨⟨root₂, applied', failed'⟩, hrest, h⟩ := h
      cases h
      obtain ⟨hstaged, hroot₁, hobj₁⟩ := stageChange_eq_ok hstage
      obtain ⟨hroot₂, happlied, hobj₂⟩ := ih hrest
      subst hroot₁ hstaged
      rw [mergeChanges_cons]
      refine ⟨hroot₂, ?_⟩
      cases hw : isWellFormed change with
      | true =>
          refine ⟨?_, fun _ => hobj₂ (.inl (hobj₁ hw))⟩
          rw [List.filter_cons_of_pos hw, List.length_cons, happlied]
          rfl
      | false =>
          have hw' : ¬ isWellFormed change = true := by simp [hw]
          rw [if_neg hw'] at hobj₂
          refine ⟨?_, hobj₂⟩
          rw [List.filter_cons_of_neg hw', happlied]
          rfl

/-! ### The action -/

/-- The calls with which `commitConfig` inserts its row: a connection, made
now, by the fill of the cache or before, and the five statements. -/
def commitsTo (io : DispatchIO) (c : ConfigState) : Bool :=
  (c.dbReady || (!c.runningConfigLoaded && io.load.connect) || io.commit.connect) &&
    io.commit.begin && io.commit.update && io.commit.insert && io.commit.commit

/-- A commit passes every early check: its payload is an array with a
well-formed change, and the database takes it. -/
def goesThrough (io : DispatchIO) (s : EnginedState) : Bool :=
  match runningTask s.commitService.queue with
  | none => true
  | some running =>
      match running.payload with
      | .json (.arr changes) => changes.any (fun c => isWellFormed c) && commitsTo io s.config
      | _ => false

lemma dbReady_cachedRunningConfig (file : Option Json) (tbl : Table) (io : LoadIO)
    (c : ConfigState) : (cachedRunningConfig file tbl io c).dbReady
      = (c.dbReady || (!c.runningConfigLoaded && io.connect)) := by
  rw [cachedRunningConfig]
  cases hl : c.runningConfigLoaded with
  | true => simp
  | false =>
      rcases loadRunningConfigRoot_cases file tbl io c with ⟨r, -, -, h⟩ | h <;> simp [h]

/-- `commitConfig` of an object: all of it or nothing. -/
lemma commitConfig_of_isObject {tbl : Table} {io : CommitIO} {c : ConfigState} {root : Json}
    (hobj : root.isObject = true) :
    commitConfig tbl io c root =
      if (c.dbReady || io.connect) && io.begin && io.update && io.insert && io.commit then
        (insertRow tbl (redactSecretsForPersist root),
          invalidateConfigCache (bootstrapDatabase io.connect c), true)
      else (tbl, bootstrapDatabase io.connect c, false) := by
  rw [commitConfig, if_pos hobj]
  rfl

/-- The state in which a commit that went through is announced. -/
def committedState (file : Option Json) (io : DispatchIO) (s : EnginedState)
    (changes : List Json) : EnginedState :=
  let config := cachedRunningConfig file s.table io.load s.config
  let table := insertRow s.table
    (redactSecretsForPersist (mergeChanges config.runningConfigCache changes))
  { s with
    table
    config := invalidateConfigCache (bootstrapDatabase io.commit.connect config)
    history := { s.history with insertedVersion := maxVersion table } }

/-- The row of the commit is the active one. -/
lemma activeRow_committedState (file : Option Json) (io : DispatchIO) (s : EnginedState)
    (changes : List Json) : activeRow (committedState file io s changes).table =
      some ⟨maxVersion s.table + 1, redactSecretsForPersist (mergeChanges
        (cachedRunningConfig file s.table io.load s.config).runningConfigCache changes), .active⟩ :=
  activeRow_insertRow _ _

/-- **What one `ApplyCommit` does**: nothing without a running task; a commit
that passes the early checks is inserted and announced; any other fails its
task and leaves the table alone. -/
theorem applyCommit_cases {file : Option Json} {io : DispatchIO} {s s' : EnginedState}
    (h : applyCommit file io s = .ok s') :
    (runningTask s.commitService.queue = none ∧ s' = s) ∨
    (∃ running, runningTask s.commitService.queue = some running ∧ goesThrough io s = false ∧
      ∃ config, s' = failTask { s with config } ∧ (config = s.config ∨
        ∃ changes connect, running.payload = .json (.arr changes) ∧ config =
          bootstrapDatabase connect (cachedRunningConfig file s.table io.load s.config))) ∨
    (∃ running changes, runningTask s.commitService.queue = some running ∧
      running.payload = .json (.arr changes) ∧ goesThrough io s = true ∧
      s' = announceCommit file io (committedState file io s changes)) := by
  rw [applyCommit] at h
  cases hr : runningTask s.commitService.queue with
  | none =>
      rw [hr] at h
      cases h
      exact .inl ⟨rfl, rfl⟩
  | some running =>
      right
      rw [hr] at h
      dsimp only at h
      split at h
      · next changes hp =>
          rw [except_bind_eq_ok] at h
          obtain ⟨⟨root, applied, failed⟩, hstage, h⟩ := h
          obtain ⟨hroot, happlied, hobj⟩ := stageChanges_eq_ok hstage
          have hgoes : goesThrough io s =
              (changes.any (fun c => isWellFormed c) && commitsTo io s.config) := by
            rw [goesThrough, hr]
            simp only [hp]
          have hany : changes.any (fun c => isWellFormed c) = true ↔ applied ≠ 0 := by
            rw [happlied, ne_eq, List.length_eq_zero_iff, List.filter_eq_nil_iff, List.any_eq_true]
            simp
          dsimp only at h
          split at h
          · next hzero =>
              cases h
              refine .inl ⟨running, rfl, ?_, _, rfl, .inr ⟨changes, false, hp, ?_⟩⟩
              · rw [hgoes, Bool.and_eq_false_iff]
                left
                rw [← Bool.not_eq_true, hany]
                simpa using hzero
              · simp [bootstrapDatabase]
          · next hstaged =>
              rw [commitConfig_of_isObject (hobj (.inr hstaged)), dbReady_cachedRunningConfig] at h
              have hcommits : commitsTo io s.config = goesThrough io s := by
                rw [hgoes, hany.mpr hstaged, Bool.true_and]
              cases hc : commitsTo io s.config with
              | false =>
                  rw [commitsTo] at hc
                  rw [hc] at h
                  cases h
                  exact .inl ⟨running, rfl, hcommits ▸ hc, _, rfl, .inr ⟨changes, _, hp, rfl⟩⟩
              | true =>
                  have hc' := hc
                  rw [commitsTo] at hc'
                  rw [hc'] at h
                  cases h
                  refine .inr ⟨running, changes, rfl, hp, hcommits ▸ hc, ?_⟩
                  rw [committedState, hroot]
      · next hp =>
          cases h
          refine .inl ⟨running, rfl, ?_, s.config, rfl, .inl rfl⟩
          rw [goesThrough, hr]
          dsimp only
          split
          · next changes hp' => exact absurd hp' (hp changes)
          · rfl

end Pretzel.Engined
