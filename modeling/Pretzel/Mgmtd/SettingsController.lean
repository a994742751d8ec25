import Pretzel.Mgmtd.CommitSchema
import Pretzel.Mgmtd.State

/-!
`SettingsController::commit`: the handler of a posted batch.

* `checkChange`, `checkChanges`: the schema pass, one result for each change.
* `mergedByDomain`, `referencePass`: the reference pass, on the merged view of
  each target.
* `commit`: the handler, with the state it leaves, the message it hands to the
  tx router, and the response. A JSON type error leaves it, and is an error of
  the function.
* `commit_sent`: what a batch that is published has passed.
-/

namespace Pretzel.Mgmtd

open Nlohmann Ipc Config

/-- `HttpResponse`, with its body as the document it serialises. -/
structure HttpResponse where
  status : ℕ
  body : Json
deriving DecidableEq

/-! ### The schema pass -/

/-- `kSettingsScopes`. -/
def kSettingsScopes : List String := ["pretzel", "pretzel-ai"]

/-- The result of one change: accepted when it has no error. -/
structure ChangeResult where
  scope : String
  domain : String
  error : Option String
deriving DecidableEq

/-- A result as the browser reads it. -/
def ChangeResult.toJson (r : ChangeResult) : Json :=
  .obj ([("domain", .str r.domain)] ++ r.error.toList.map (fun e => ("error", .str e)) ++
    [("ok", .bool r.error.isNone), ("scope", .str r.scope)])

/-- One turn of the schema pass. -/
def checkChange (change : Json) : Except JsonError ChangeResult := do
  let scopeName ← change.valueString "scope" ""
  let domain ← change.valueString "domain" ""
  if !change.contains "scope" || !change.contains "domain" || !change.contains "values" then
    return ⟨scopeName, domain, some "entry is missing scope/domain/values"⟩
  else
    let values := change.memberOrNull "values"
    if !values.isObject then return ⟨scopeName, domain, some "values is not an object"⟩
    else if scopeName ∉ kSettingsScopes then return ⟨scopeName, domain, some "unknown scope"⟩
    else
      match ← validateCommitShape scopeName domain values with
      | some error =>
          return ⟨scopeName, domain, some (if error = "" then "schema validation failed" else error)⟩
      | none => return ⟨scopeName, domain, none⟩

/-- The schema pass: the changes that are valid, and a result for each. -/
def checkChanges : List Json → Except JsonError (List Json × List ChangeResult)
  | [] => .ok ([], [])
  | change :: rest => do
      let result ← checkChange change
      let (validChanges, results) ← checkChanges rest
      return (if result.error.isNone then change :: validChanges else validChanges,
        result :: results)

/-- `failed`: the changes with an error. -/
def failedCount (results : List ChangeResult) : ℕ := results.countP fun r => r.error.isSome

/-! ### The reference pass -/

/-- A scope and a domain. -/
abbrev Target := String × String

/-- The target that is checked. -/
def connectorTarget : Target := ("pretzel", "connector")

/-- The values of one change merged at their target. The targets are kept in the
order they arrive in: at most one of them is checked, so the order of the map
does not show. -/
def mergeTarget (target : Target) (values : List (String × Json)) :
    List (Target × Json) → List (Target × Json)
  | [] => [(target, (Json.obj []).overlay values)]
  | (t, dst) :: rest =>
      if t = target then (t, dst.overlay values) :: rest
      else (t, dst) :: mergeTarget target values rest

/-- `mergedByDomain`, from what it holds already. -/
def mergedByDomain (merged : List (Target × Json)) :
    List Json → Except JsonError (List (Target × Json))
  | [] => .ok merged
  | c :: rest => do
      let scopeName ← c.valueString "scope" ""
      let domain ← c.valueString "domain" ""
      mergedByDomain (mergeTarget (scopeName, domain) (c.memberOrNull "values").members merged) rest

/-- What a read of the configuration meets: the startup file, the store, and the
database calls of a fill. -/
structure ConfigSource where
  file : Option Json
  table : Table
  load : LoadIO

/-- `cachedRunningConfig`. -/
def ConfigSource.fill (io : ConfigSource) (c : ConfigState) : ConfigState :=
  cachedRunningConfig io.file io.table io.load c

/-- `validateApiReferences`: the arrays arriving, over the ones stored. -/
def validateApiReferences (io : ConfigSource) (values : Json) (c : ConfigState) :
    Except JsonError (Option String × ConfigState) := do
  let c := io.fill c
  let effective := (configSection c "pretzel" "connector").overlay values.members
  return (← checkApiReferences effective, c)

/-- `validateCommitRefs`. -/
def validateCommitRefs (io : ConfigSource) (target : Target) (values : Json) (c : ConfigState) :
    Except JsonError (Option String × ConfigState) :=
  if target = connectorTarget then validateApiReferences io values c
  else .ok (none, c)

/-- The error of a target, on every change aimed at it. -/
def markTarget (target : Target) (error : String) (results : List ChangeResult) :
    List ChangeResult :=
  results.map fun r => if (r.scope, r.domain) = target then { r with error := some error } else r

/-- The loop of the reference pass. -/
def referencePass (io : ConfigSource) :
    List (Target × Json) → List ChangeResult → ConfigState →
      Except JsonError (List ChangeResult × ConfigState)
  | [], results, c => .ok (results, c)
  | (target, values) :: rest, results, c => do
      let (error, c) ← validateCommitRefs io target values c
      match error with
      | none => referencePass io rest results c
      | some error =>
          let error := if error = "" then "reference check failed" else error
          referencePass io rest (markTarget target error results) c

/-! ### The handler -/

/-- Whether some change is aimed at the accounts, up to the first that is. -/
def publishesAccounts : List Json → Except JsonError Bool
  | [] => .ok false
  | c :: rest =>
      if c.isObject then do
        if (← c.valueString "scope" "") = "pretzel" then
          if (← c.valueString "domain" "") = "user" then return true else publishesAccounts rest
        else publishesAccounts rest
      else publishesAccounts rest

/-- The accounts are refused to anyone but an admin. -/
def accountsRefused (isAdmin : Bool) (changes : List Json) : Except JsonError Bool :=
  if isAdmin then .ok false else publishesAccounts changes

/-- What the handler leaves: the state, the message handed to the tx router, and
the response. -/
structure CommitOutcome where
  state : MgmtdState
  sent : Option (IpcMessage Payload)
  response : HttpResponse

/-- A request turned away before its changes are looked at. -/
def turnAway (s : MgmtdState) (status : ℕ) (body : List (String × Json)) : CommitOutcome :=
  ⟨s, none, ⟨status, .obj body⟩⟩

/-- The `SettingsCommitRequest` of a batch. -/
def buildSettingsCommitRequest (validChanges : List Json) : IpcMessage Payload :=
  { header := { src := .Mgmtd, dst := .Engined, cmd := .SettingsCommitRequest,
                flags := IpcFlag.Request.toFlag }
    payload := .json (.arr validChanges) }

/-- The end of the handler: all or nothing. -/
def answerBatch (validChanges : List Json) (results : List ChangeResult) (s : MgmtdState) :
    CommitOutcome :=
  let failed := failedCount results
  let applied := validChanges.length
  let results := Json.arr (results.map ChangeResult.toJson)
  if failed = 0 ∧ 0 < applied then
    ⟨s.startReload, some (buildSettingsCommitRequest validChanges),
      ⟨200, .obj [("applied", .int applied), ("failed", .int failed), ("reloading", .bool true),
        ("results", results)]⟩⟩
  else
    ⟨s, none, ⟨409, .obj [("applied", .int 0),
      ("error", .str (if 0 < failed then
        "no change was published — the batch is applied whole or not at all"
        else "nothing to commit")),
      ("failed", .int failed), ("reloading", .bool false), ("results", results)]⟩⟩

/-- The part of the handler behind its guards. -/
def commitChanges (io : ConfigSource) (changes : List Json) (s : MgmtdState) :
    Except JsonError CommitOutcome := do
  let (validChanges, results) ← checkChanges changes
  if failedCount results = 0 then
    let merged ← mergedByDomain [] validChanges
    let (results, config) ← referencePass io merged results s.config
    return answerBatch validChanges results { s with config }
  else return answerBatch validChanges results s

/-- `SettingsController::commit`, of a body that was parsed or not. -/
def commit (io : ConfigSource) (isAdmin : Bool) (input : Option Json) (s : MgmtdState) :
    Except JsonError CommitOutcome :=
  match input with
  | none => .ok (turnAway s 400 [("error", .str "invalid JSON body")])
  | some input =>
      match input.find? "changes" with
      | some (.arr changes) => do
          if ← accountsRefused isAdmin changes then
            return turnAway s 403 [("code", .str "FORBIDDEN"),
              ("error", .str "only an admin may change accounts")]
          else commitChanges io changes s
      | _ =>
          .ok (turnAway s 400
            [("error", .str "expected \x7bchanges: [\x7bscope, domain, values\x7d]\x7d")])

/-! ### What a published change has passed -/

/-- A change the schema pass accepts. -/
structure Accepted (c : Json) : Prop where
  scope : ∃ scopeName ∈ kSettingsScopes, c.find? "scope" = some (.str scopeName)
  domain : ∃ domain, c.find? "domain" = some (.str domain)
  values : ∃ values, c.find? "values" = some (.obj values)
  arrays : isConnectorChange c = true → ∀ key ∈ referenceKeys, ∀ v,
    (c.memberOrNull "values").find? key = some v → v.isArray = true

/-- A member that is there is read as itself. -/
lemma valueString_of_contains {j : Json} {key s : String} (hc : j.contains key = true)
    (h : j.valueString key "" = .ok s) : j.find? key = some (.str s) := by
  obtain ⟨v, hv⟩ := Json.contains_iff.mp hc
  obtain ⟨ms, rfl⟩ := Json.isObject_iff.mp (Json.isObject_of_find? hv)
  rw [Json.valueString, Json.valueWith_obj, hv] at h
  cases v with
  | str s' =>
      cases h
      exact hv
  | _ => cases h

/-- What a result without an error says of its change. -/
lemma checkChange_eq_ok {c : Json} {r : ChangeResult} (h : checkChange c = .ok r) :
    c.valueString "scope" "" = .ok r.scope ∧ c.valueString "domain" "" = .ok r.domain ∧
      (r.error = none → Accepted c) := by
  rw [checkChange, except_bind_eq_ok] at h
  obtain ⟨scopeName, hscope, h⟩ := h
  rw [except_bind_eq_ok] at h
  obtain ⟨domain, hdomain, h⟩ := h
  have hreject : ∀ why, (⟨scopeName, domain, some why⟩ : ChangeResult) = r →
      c.valueString "scope" "" = .ok r.scope ∧ c.valueString "domain" "" = .ok r.domain ∧
        (r.error = none → Accepted c) := by
    rintro why rfl
    exact ⟨hscope, hdomain, fun hnone => by cases hnone⟩
  split at h
  · exact hreject _ (Except.ok.inj h)
  · next hmembers =>
      simp only [Bool.or_eq_true, Bool.not_eq_true', not_or, Bool.not_eq_false] at hmembers
      obtain ⟨⟨hs, hd⟩, hv⟩ := hmembers
      dsimp only at h
      split at h
      · exact hreject _ (Except.ok.inj h)
      · next hobj =>
          split at h
          · exact hreject _ (Except.ok.inj h)
          · next hknown =>
              rw [except_bind_eq_ok] at h
              obtain ⟨error, hshape, h⟩ := h
              cases error with
              | some error => exact hreject _ (Except.ok.inj h)
              | none =>
                  have hresult : (⟨scopeName, domain, none⟩ : ChangeResult) = r := Except.ok.inj h
                  subst hresult
                  have hs' := valueString_of_contains hs hscope
                  have hd' := valueString_of_contains hd hdomain
                  refine ⟨hscope, hdomain, fun _ =>
                    ⟨⟨scopeName, by simpa using hknown, hs'⟩, ⟨domain, hd'⟩, ?_, ?_⟩⟩
                  · obtain ⟨v, hv⟩ := Json.contains_iff.mp hv
                    rw [Json.memberOrNull, hv, Option.getD_some, Bool.not_eq_true',
                      Bool.not_eq_false, Json.isObject_iff] at hobj
                    obtain ⟨ms, rfl⟩ := hobj
                    exact ⟨ms, hv⟩
                  · intro hconn key hkey v hfind
                    rw [isConnectorChange, hs', hd'] at hconn
                    simp only [Option.some.injEq, Json.str.injEq, Bool.and_eq_true,
                      decide_eq_true_eq] at hconn
                    obtain ⟨rfl, rfl⟩ := hconn
                    exact isArray_of_validateCommitShape hshape hkey hfind

lemma checkChanges_eq_ok {changes validChanges : List Json} {results : List ChangeResult}
    (h : checkChanges changes = .ok (validChanges, results)) :
    (∀ c ∈ changes, ∃ r ∈ results, checkChange c = .ok r) ∧
      (failedCount results = 0 → validChanges = changes) := by
  induction changes generalizing validChanges results with
  | nil =>
      cases h
      simp
  | cons c rest ih =>
      rw [checkChanges, except_bind_eq_ok] at h
      obtain ⟨result, hresult, h⟩ := h
      rw [except_bind_eq_ok] at h
      obtain ⟨⟨valid, results'⟩, hrest, h⟩ := h
      cases h
      obtain ⟨hall, hvalid⟩ := ih hrest
      constructor
      · intro c' hc'
        rcases List.mem_cons.mp hc' with rfl | hc'
        · exact ⟨result, List.mem_cons_self, hresult⟩
        · obtain ⟨r, hr, hcheck⟩ := hall c' hc'
          exact ⟨r, List.mem_cons_of_mem _ hr, hcheck⟩
      · intro hnone
        rw [failedCount, List.countP_cons] at hnone
        have hsome : ¬ result.error.isSome = true := by
          intro hsome
          rw [if_pos hsome] at hnone
          omega
        have hisNone : result.error.isNone = true := by simpa using hsome
        rw [if_pos hisNone, hvalid (by rw [failedCount]; omega)]

/-! ### The merged view -/

/-- What the merged view holds for the connector domain. -/
def connectorValues (merged : List (Target × Json)) : Json :=
  ((merged.find? fun p => p.1 = connectorTarget).map Prod.snd).getD (.obj [])

lemma connectorValues_mergeTarget (target : Target) (values : List (String × Json))
    (merged : List (Target × Json)) : connectorValues (mergeTarget target values merged) =
      if target = connectorTarget then (connectorValues merged).overlay values
      else connectorValues merged := by
  induction merged with
  | nil =>
      by_cases ht : target = connectorTarget <;> simp [mergeTarget, connectorValues, ht]
  | cons p rest ih =>
      obtain ⟨t, dst⟩ := p
      rw [mergeTarget]
      by_cases ht : t = target
      · subst ht
        by_cases hc : t = connectorTarget <;> simp [connectorValues, hc]
      · rw [if_neg ht]
        by_cases hc : t = connectorTarget
        · subst hc
          simp [connectorValues, Ne.symm ht]
        · have hskip : ∀ l, connectorValues ((t, dst) :: l) = connectorValues l := by
            intro l
            simp [connectorValues, hc]
          rw [hskip, hskip, ih]

lemma isConnectorChange_iff {c : Json} {scopeName domain : String}
    (hs : c.valueString "scope" "" = .ok scopeName)
    (hd : c.valueString "domain" "" = .ok domain) :
    isConnectorChange c = true ↔ (scopeName, domain) = connectorTarget := by
  rw [isConnectorChange, Bool.and_eq_true, decide_eq_true_eq, decide_eq_true_eq, connectorTarget,
    Prod.mk.injEq]
  have hiff : ∀ {key s lit : String}, lit ≠ "" → c.valueString key "" = .ok s →
      (c.find? key = some (.str lit) ↔ s = lit) := by
    intro key s lit hne h
    constructor
    · intro hfind
      rw [Json.valueString_of_find? hfind] at h
      exact (Except.ok.inj h).symm
    · rintro rfl
      rcases Json.valueString_eq_ok h with hfind | ⟨-, hempty⟩
      · exact hfind
      · exact absurd hempty hne
  rw [hiff (by decide) hs, hiff (by decide) hd]

/-- **The merged view of the connector domain** holds what the batch publishes. -/
lemma connectorValues_mergedByDomain {changes : List Json} {merged merged' : List (Target × Json)}
    (h : mergedByDomain merged changes = .ok merged')
    (hsorted : ∀ c ∈ changes, c.isSorted = true) :
    (Json.SortedKeys (connectorValues merged).members →
      Json.SortedKeys (connectorValues merged').members) ∧
    ∀ key, (connectorValues merged').find? key
      = (published key changes).or ((connectorValues merged).find? key) := by
  induction changes generalizing merged with
  | nil =>
      cases h
      exact ⟨id, fun key => rfl⟩
  | cons c rest ih =>
      rw [mergedByDomain, except_bind_eq_ok] at h
      obtain ⟨scopeName, hs, h⟩ := h
      rw [except_bind_eq_ok] at h
      obtain ⟨domain, hd, h⟩ := h
      obtain ⟨hkeys, hfind⟩ := ih h fun c' hc' => hsorted c' (List.mem_cons_of_mem _ hc')
      have hconn := isConnectorChange_iff hs hd
      have hvalues : Json.SortedKeys (c.memberOrNull "values").members := by
        rw [Json.memberOrNull]
        cases hv : c.find? "values" with
        | none => exact List.Pairwise.nil
        | some v =>
            exact Json.sortedKeys_of_isSorted
              (Json.isSorted_of_find? (hsorted c List.mem_cons_self) hv)
      constructor
      · intro h0
        refine hkeys ?_
        rw [connectorValues_mergeTarget]
        split
        · exact h0.setMembers _
        · exact h0
      · intro key
        rw [hfind key, connectorValues_mergeTarget, published, Option.or_assoc, publishedBy]
        by_cases ht : (scopeName, domain) = connectorTarget
        · rw [if_pos ht, if_pos (hconn.mpr ht), Json.find?_overlay hvalues.nodup]
          rfl
        · rw [if_neg ht, if_neg (fun hc => ht (hconn.mp hc))]
          simp

lemma targets_mergeTarget {target : Target} {values : List (String × Json)}
    {merged : List (Target × Json)} {p : Target × Json} (h : p ∈ mergeTarget target values merged) :
    p.1 = target ∨ ∃ q ∈ merged, q.1 = p.1 := by
  induction merged with
  | nil =>
      rw [mergeTarget, List.mem_singleton] at h
      exact .inl (congrArg Prod.fst h)
  | cons q rest ih =>
      obtain ⟨t, dst⟩ := q
      rw [mergeTarget] at h
      split at h
      · next ht =>
          rcases List.mem_cons.mp h with rfl | h
          · exact .inl ht
          · exact .inr ⟨p, List.mem_cons_of_mem _ h, rfl⟩
      · rcases List.mem_cons.mp h with rfl | h
        · exact .inr ⟨_, List.mem_cons_self, rfl⟩
        · rcases ih h with h | ⟨q, hq, heq⟩
          · exact .inl h
          · exact .inr ⟨q, List.mem_cons_of_mem _ hq, heq⟩

/-- Every target of the merged view is some change's. -/
lemma targets_mergedByDomain {changes : List Json} {merged merged' : List (Target × Json)}
    (h : mergedByDomain merged changes = .ok merged') {p : Target × Json} (hp : p ∈ merged') :
    (∃ q ∈ merged, q.1 = p.1) ∨ ∃ c ∈ changes, c.valueString "scope" "" = .ok p.1.1 ∧
      c.valueString "domain" "" = .ok p.1.2 := by
  induction changes generalizing merged with
  | nil =>
      cases h
      exact .inl ⟨p, hp, rfl⟩
  | cons c rest ih =>
      rw [mergedByDomain, except_bind_eq_ok] at h
      obtain ⟨scopeName, hs, h⟩ := h
      rw [except_bind_eq_ok] at h
      obtain ⟨domain, hd, h⟩ := h
      rcases ih h with ⟨q, hq, heq⟩ | ⟨c', hc', hfound⟩
      · rcases targets_mergeTarget hq with hq | ⟨q', hq', heq'⟩
        · refine .inr ⟨c, List.mem_cons_self, ?_⟩
          rw [← heq, hq]
          exact ⟨hs, hd⟩
        · exact .inl ⟨q', hq', heq'.trans heq⟩
      · exact .inr ⟨c', List.mem_cons_of_mem _ hc', hfound⟩

/-! ### The reference pass of a published batch -/

lemma fill_fill (io : ConfigSource) (c : ConfigState) : io.fill (io.fill c) = io.fill c := by
  have hloaded : (io.fill c).runningConfigLoaded = true := by
    rw [ConfigSource.fill, cachedRunningConfig]
    split
    · assumption
    · rfl
  rw [ConfigSource.fill, cachedRunningConfig, if_pos hloaded]

/-- A result marked stays marked. -/
lemma referencePass_keeps_error {io : ConfigSource} {merged : List (Target × Json)}
    {results results' : List ChangeResult} {c c' : ConfigState}
    (h : referencePass io merged results c = .ok (results', c'))
    (herror : ∃ r ∈ results, r.error.isSome = true) : 0 < failedCount results' := by
  induction merged generalizing results c with
  | nil =>
      cases h
      exact List.countP_pos_iff.mpr herror
  | cons p rest ih =>
      obtain ⟨target, values⟩ := p
      rw [referencePass, except_bind_eq_ok] at h
      obtain ⟨⟨error, c₁⟩, -, h⟩ := h
      cases error with
      | none => exact ih h herror
      | some error =>
          refine ih h ?_
          obtain ⟨r, hr, hsome⟩ := herror
          refine ⟨_, List.mem_map_of_mem hr, ?_⟩
          split
          · rfl
          · exact hsome

/-- **The reference pass of a batch that is published**: the check of the
connector domain found no error, and filled the cache at most. -/
lemma referencePass_eq_ok {io : ConfigSource} {merged : List (Target × Json)}
    {results results' : List ChangeResult} {c c' : ConfigState}
    (h : referencePass io merged results c = .ok (results', c'))
    (hnone : failedCount results' = 0)
    (htargets : ∀ p ∈ merged, ∃ r ∈ results, (r.scope, r.domain) = p.1) :
    (∀ p ∈ merged, p.1 = connectorTarget → checkApiReferences
      ((configSection (io.fill c) "pretzel" "connector").overlay p.2.members) = .ok none) ∧
    (c' = c ∨ c' = io.fill c) := by
  induction merged generalizing c with
  | nil =>
      cases h
      exact ⟨by simp, .inl rfl⟩
  | cons p rest ih =>
      obtain ⟨target, values⟩ := p
      rw [referencePass, except_bind_eq_ok] at h
      obtain ⟨⟨error, c₁⟩, hvalid, h⟩ := h
      cases error with
      | some error =>
          -- the change aimed at this target is marked, and the batch is not published
          obtain ⟨r, hr, heq⟩ := htargets _ List.mem_cons_self
          have hmarked := referencePass_keeps_error h
            ⟨_, List.mem_map_of_mem hr, by rw [if_pos heq]; rfl⟩
          omega
      | none =>
          obtain ⟨hrest, hc'⟩ := ih h fun q hq => htargets q (List.mem_cons_of_mem _ hq)
          by_cases ht : target = connectorTarget
          · rw [validateCommitRefs, if_pos ht, validateApiReferences, except_bind_eq_ok] at hvalid
            obtain ⟨error, hcheck, hvalid⟩ := hvalid
            cases hvalid
            rw [fill_fill] at hrest hc'
            refine ⟨?_, .inr (hc'.elim id id)⟩
            intro q hq hconn
            rcases List.mem_cons.mp hq with rfl | hq
            · exact hcheck
            · exact hrest q hq hconn
          · rw [validateCommitRefs, if_neg ht] at hvalid
            cases hvalid
            refine ⟨?_, hc'⟩
            intro q hq hconn
            rcases List.mem_cons.mp hq with rfl | hq
            · exact absurd hconn ht
            · exact hrest q hq hconn

/-! ### A published batch -/

/-- A batch of documents that the check found sound on top of a section. -/
structure SoundOver (stored : Json) (changes : List Json) : Prop where
  accepted : ∀ c ∈ changes, Accepted c
  sorted : ∀ c ∈ changes, c.isSorted = true
  references : touchesReferences changes = true → ∃ effective : Json,
    effective.isObject = true ∧ checkApiReferences effective = .ok none ∧
    ∀ key ∈ referenceKeys, effective.find? key = (published key changes).or (stored.find? key)

lemma touches_of_values {changes : List Json} {merged : List (Target × Json)}
    (h : mergedByDomain [] changes = .ok merged) (hsorted : ∀ c ∈ changes, c.isSorted = true)
    (ht : touchesReferences changes = true) :
    (connectorTarget, connectorValues merged) ∈ merged := by
  obtain ⟨key, -, hkey⟩ := List.any_eq_true.mp ht
  have hfind := (connectorValues_mergedByDomain h hsorted).2 key
  cases hc : merged.find? fun p => p.1 = connectorTarget with
  | none =>
      have hempty : connectorValues merged = .obj [] := by rw [connectorValues, hc]; rfl
      have hnil : connectorValues [] = .obj [] := rfl
      rw [hempty, hnil] at hfind
      obtain ⟨v, hv⟩ := Option.isSome_iff_exists.mp hkey
      rw [hv] at hfind
      cases hfind
  | some p =>
      have htarget : p.1 = connectorTarget := by simpa using List.find?_some hc
      have hvalues : connectorValues merged = p.2 := by rw [connectorValues, hc]; rfl
      rw [hvalues, ← htarget]
      exact List.mem_of_find?_eq_some hc

/-- **A batch that is published** has passed the schema, change by change, and,
where it brings one of the three arrays, the reference check on top of the
section this process has cached. -/
theorem commit_sent {io : ConfigSource} {isAdmin : Bool} {input : Option Json} {s : MgmtdState}
    {out : CommitOutcome} {msg : IpcMessage Payload} (h : commit io isAdmin input s = .ok out)
    (hsorted : ∀ j, input = some j → j.isSorted = true) (hmsg : out.sent = some msg) :
    ∃ j changes, input = some j ∧ j.find? "changes" = some (.arr changes) ∧
      msg = buildSettingsCommitRequest changes ∧ changes ≠ [] ∧
      SoundOver (configSection (io.fill s.config) "pretzel" "connector") changes ∧
      ∃ config, (config = s.config ∨ config = io.fill s.config) ∧
        out.state = { s with config }.startReload := by
  cases input with
  | none => cases h; cases hmsg
  | some input =>
      dsimp only [commit] at h
      split at h
      · next changes hchanges =>
          rw [except_bind_eq_ok] at h
          obtain ⟨forbidden, -, h⟩ := h
          split at h
          · cases h
            cases hmsg
          · rw [commitChanges, except_bind_eq_ok] at h
            obtain ⟨⟨validChanges, results⟩, hcheck, h⟩ := h
            obtain ⟨hall, hvalid⟩ := checkChanges_eq_ok hcheck
            dsimp only at h
            split at h
            · next hzero =>
                rw [hvalid hzero, except_bind_eq_ok] at h
                obtain ⟨merged, hmerged, h⟩ := h
                rw [except_bind_eq_ok] at h
                obtain ⟨⟨results', config⟩, hpass, h⟩ := h
                cases h
                rw [answerBatch] at hmsg ⊢
                dsimp only at hmsg ⊢
                split at hmsg
                · next haccepted =>
                    rw [if_pos haccepted]
                    cases hmsg
                    have hdocs : ∀ c ∈ changes, c.isSorted = true := fun c hc =>
                      Json.isSorted_of_mem
                        (Json.isSorted_of_find? (hsorted input rfl) hchanges) hc
                    have htargets : ∀ p ∈ merged, ∃ r ∈ results, (r.scope, r.domain) = p.1 := by
                      intro p hp
                      rcases targets_mergedByDomain hmerged hp with ⟨q, hq, -⟩ | ⟨c, hc, hs, hd⟩
                      · cases hq
                      · obtain ⟨r, hr, hres⟩ := hall c hc
                        obtain ⟨hs', hd', -⟩ := checkChange_eq_ok hres
                        refine ⟨r, hr, Prod.ext ?_ ?_⟩
                        · exact Except.ok.inj (hs'.symm.trans hs)
                        · exact Except.ok.inj (hd'.symm.trans hd)
                    obtain ⟨hrefs, hconfig⟩ := referencePass_eq_ok hpass haccepted.1 htargets
                    refine ⟨input, changes, rfl, hchanges, rfl,
                      List.ne_nil_of_length_pos haccepted.2, ⟨?_, hdocs, ?_⟩, config, hconfig, rfl⟩
                    · intro c hc
                      obtain ⟨r, hr, hres⟩ := hall c hc
                      refine (checkChange_eq_ok hres).2.2 ?_
                      simpa using List.countP_eq_zero.mp hzero r hr
                    · intro ht
                      have hmem := touches_of_values hmerged hdocs ht
                      obtain ⟨hkeys, hfind⟩ := connectorValues_mergedByDomain hmerged hdocs
                      have hkeys' := hkeys List.Pairwise.nil
                      refine ⟨_, rfl, hrefs _ hmem rfl, ?_⟩
                      intro key _
                      rw [Json.find?_overlay hkeys'.nodup]
                      have := hfind key
                      rw [Json.find?, show connectorValues [] = Json.obj [] from rfl] at this
                      rw [this]
                      simp [Json.find?, Json.lookup]
                · cases hmsg
            · next hfailed =>
                cases h
                rw [answerBatch, if_neg (fun hc => hfailed hc.1)] at hmsg
                cases hmsg
      · cases h
        cases hmsg

end Pretzel.Mgmtd
