import Pretzel.Library.Json

/-!
`shared/config/Config.cpp` over the `running_config` table: the process-wide
cache, its fill and its fallback to the startup file, the commit transaction,
and the seeding of the store.

The table is the list of its rows; a statement that fails changes nothing and a
query that fails returns no row, so the outcome of each database call is a
boolean of the step that makes it (`LoadIO`, `CommitIO`, `SeedIO`).

* `cachedRunningConfig`: the fill keeps whatever `loadRunningConfigRoot` gave,
  the active row or the startup file.
* `commitConfig`: the transaction supersedes every active row and inserts the
  redacted root one version above all others; `activeRow_insertRow` reads the
  new row back as the active one.
* `baseDoc`: the document a commit ought to start from, the active row's or,
  without one, the startup configuration.
-/

namespace Pretzel.Config

open Nlohmann

/-! ### The table -/

/-- The states of the `state` column. -/
inductive RowState where
  | pending
  | active
  | superseded
deriving DecidableEq, Repr

/-- A row of `running_config`. -/
structure Row where
  version : ℕ
  config : Json
  state : RowState
deriving DecidableEq

/-- `running_config`, by its rows. -/
abbrev Table := List Row

/-- The rows `WHERE state = 'active'`. -/
def activeRows (tbl : Table) : List Row := tbl.filter fun r => r.state = .active

/-- `… WHERE state = 'active' ORDER BY version DESC LIMIT 1`. -/
def activeRow (tbl : Table) : Option Row := (activeRows tbl).argmax Row.version

/-- `COALESCE(MAX(version), 0)`. -/
def maxVersion (tbl : Table) : ℕ := (tbl.map Row.version).foldr max 0

/-- `UPDATE running_config SET state = 'superseded' WHERE state = 'active'`. -/
def supersede (tbl : Table) : Table :=
  tbl.map fun r => if r.state = .active then { r with state := .superseded } else r

/-- The two statements of the commit transaction. -/
def insertRow (tbl : Table) (config : Json) : Table :=
  supersede tbl ++ [⟨maxVersion tbl + 1, config, .active⟩]

lemma activeRows_supersede (tbl : Table) : activeRows (supersede tbl) = [] := by
  rw [activeRows, List.filter_eq_nil_iff]
  intro r hr
  obtain ⟨r', -, rfl⟩ := List.mem_map.mp hr
  by_cases h : r'.state = .active <;> simp [h]

/-- The inserted row is the only active one. -/
lemma activeRow_insertRow (tbl : Table) (config : Json) :
    activeRow (insertRow tbl config) = some ⟨maxVersion tbl + 1, config, .active⟩ := by
  have h : activeRows (insertRow tbl config) = [⟨maxVersion tbl + 1, config, .active⟩] := by
    have := activeRows_supersede tbl
    simp only [activeRows, insertRow, List.filter_append] at this ⊢
    simp [this]
  rw [activeRow, h, List.argmax_singleton]

/-! ### The startup file -/

/-- `readStartupFile`: the object the file holds, or an empty one. -/
def readStartupFile (file : Option Json) : Json :=
  match file with
  | some j => if j.isObject then j else .obj []
  | none => .obj []

lemma isObject_readStartupFile (file : Option Json) : (readStartupFile file).isObject = true := by
  cases file with
  | none => rfl
  | some j =>
      by_cases h : j.isObject = true
      · simp [readStartupFile, h]
      · rw [readStartupFile, if_neg h]
        rfl

/-- The document a commit starts from: the active row's, or the startup
configuration where no row is active. -/
def baseDoc (file : Option Json) (tbl : Table) : Json :=
  ((activeRow tbl).map Row.config).getD (readStartupFile file)

/-! ### The process-wide cache -/

/-- The statics of `Config.cpp` in one process. -/
structure ConfigState where
  dbReady : Bool := false
  seederProcess : Bool := false
  runningConfigLoaded : Bool := false
  runningConfigCache : Json := .obj []
  runningConfigVersionCache : ℕ := 0
deriving DecidableEq

/-- The database calls of one cache fill: whether a first connection succeeds,
and whether the `i`-th SELECT returns its rows. -/
structure LoadIO where
  connect : Bool
  select : ℕ → Bool

/-- `kSeedWaitMaxAttempts`. -/
def kSeedWaitMaxAttempts : ℕ := 30

/-- `bootstrapDatabase`: connected once, connected for good. -/
def bootstrapDatabase (connect : Bool) (c : ConfigState) : ConfigState :=
  { c with dbReady := c.dbReady || connect }

/-- `latestRunningConfig`, of a SELECT that succeeded or not. -/
def latestRunningConfig (select : Bool) (tbl : Table) : Option (ℕ × Json) :=
  if select then
    match activeRow tbl with
    | some r => if r.config.isObject then some (r.version, r.config) else none
    | none => none
  else none

/-- The SELECTs one fill may make: one in the seeding process, up to thirty more
in any other. -/
def selectCount (c : ConfigState) : ℕ :=
  if c.seederProcess then 1 else 1 + kSeedWaitMaxAttempts

/-- The SELECTs of one fill, up to the first that gives a document. -/
def queryRunningConfig (tbl : Table) (io : LoadIO) (c : ConfigState) : Option (ℕ × Json) :=
  if c.dbReady then
    (List.range (selectCount c)).findSome? fun i => latestRunningConfig (io.select i) tbl
  else none

/-- `loadRunningConfigRoot`: the document, and the version cache it leaves. -/
def loadRunningConfigRoot (file : Option Json) (tbl : Table) (io : LoadIO) (c : ConfigState) :
    Json × ConfigState :=
  let c := bootstrapDatabase io.connect { c with runningConfigVersionCache := 0 }
  match queryRunningConfig tbl io c with
  | some (version, root) => (root, { c with runningConfigVersionCache := version })
  | none => (readStartupFile file, c)

lemma latestRunningConfig_eq_some {select : Bool} {tbl : Table} {v : ℕ} {root : Json}
    (h : latestRunningConfig select tbl = some (v, root)) :
    ∃ r, activeRow tbl = some r ∧ r.config.isObject = true ∧ r.version = v ∧ r.config = root := by
  rw [latestRunningConfig] at h
  split at h
  · cases hr : activeRow tbl with
    | none => rw [hr] at h; cases h
    | some r =>
        rw [hr] at h
        dsimp only at h
        split at h
        · next hobj =>
            cases h
            exact ⟨r, rfl, hobj, rfl, rfl⟩
        · cases h
  · cases h

lemma queryRunningConfig_eq_some {tbl : Table} {io : LoadIO} {c : ConfigState} {v : ℕ}
    {root : Json} (h : queryRunningConfig tbl io c = some (v, root)) :
    ∃ r, activeRow tbl = some r ∧ r.config.isObject = true ∧ r.version = v ∧ r.config = root := by
  rw [queryRunningConfig] at h
  split at h
  · obtain ⟨i, -, hi⟩ := List.exists_of_findSome?_eq_some h
    exact latestRunningConfig_eq_some hi
  · cases h

/-- A fill gives the active row with its version, or the startup file with none;
it changes nothing else but the connection. -/
lemma loadRunningConfigRoot_cases (file : Option Json) (tbl : Table) (io : LoadIO)
    (c : ConfigState) :
    (∃ r, activeRow tbl = some r ∧ r.config.isObject = true ∧
      loadRunningConfigRoot file tbl io c = (r.config,
        { c with dbReady := c.dbReady || io.connect, runningConfigVersionCache := r.version })) ∨
    loadRunningConfigRoot file tbl io c = (readStartupFile file,
      { c with dbReady := c.dbReady || io.connect, runningConfigVersionCache := 0 }) := by
  rw [loadRunningConfigRoot]
  cases hq : queryRunningConfig tbl io
      (bootstrapDatabase io.connect { c with runningConfigVersionCache := 0 }) with
  | none => exact .inr rfl
  | some q =>
      obtain ⟨r, hr, hobj, hv, hroot⟩ := queryRunningConfig_eq_some hq
      exact .inl ⟨r, hr, hobj, by rw [hv, hroot]; rfl⟩

/-- `cachedRunningConfig`: the cache filled if it is not. -/
def cachedRunningConfig (file : Option Json) (tbl : Table) (io : LoadIO) (c : ConfigState) :
    ConfigState :=
  if c.runningConfigLoaded then c
  else
    let (root, c) := loadRunningConfigRoot file tbl io c
    { c with runningConfigCache := root, runningConfigLoaded := true }

/-- A member that is an object, or an empty one. -/
def objectMember (j : Json) (key : String) : Json :=
  match j.find? key with
  | some v => if v.isObject then v else .obj []
  | none => .obj []

/-- A domain of a document, as `Config::section` reads it. -/
def docSection (doc : Json) (scopeName domain : String) : Json :=
  objectMember (objectMember doc scopeName) domain

/-- `Config::scopeConfig` of a filled cache. -/
def scopeConfig (c : ConfigState) (scopeName : String) : Json :=
  objectMember c.runningConfigCache scopeName

/-- `Config::section` of a filled cache. -/
def configSection (c : ConfigState) (scopeName domain : String) : Json :=
  objectMember (scopeConfig c scopeName) domain

/-- `Config::invalidateConfigCache`. -/
def invalidateConfigCache (c : ConfigState) : ConfigState :=
  { c with runningConfigLoaded := false }

/-! ### The commit -/

/-- `redactSecretsForPersist`: on a value that is no object `modify` and `erase`
change nothing, which is what the `is_object` guards ask. -/
def redactSecretsForPersist (root : Json) : Json :=
  root.modify "pretzel" fun s =>
    (s.modify "database" fun d => d.erase "password").modify "console" fun c => c.erase "admin"

/-- The database calls of one commit. -/
structure CommitIO where
  connect : Bool
  begin : Bool
  update : Bool
  insert : Bool
  commit : Bool

/-- `Config::commitConfig`: the table and cache it leaves, and whether it
committed. -/
def commitConfig (tbl : Table) (io : CommitIO) (c : ConfigState) (fullRoot : Json) :
    Table × ConfigState × Bool :=
  if fullRoot.isObject then
    let c := bootstrapDatabase io.connect c
    if c.dbReady && io.begin && io.update && io.insert && io.commit then
      (insertRow tbl (redactSecretsForPersist fullRoot), invalidateConfigCache c, true)
    else (tbl, c, false)
  else (tbl, c, false)

/-! ### Seeding the store -/

/-- The database calls of one `preflight`. -/
structure SeedIO where
  connect : Bool
  schema : Bool
  seed : Bool
  load : LoadIO
  backfill : Bool

/-- A key of the template's comments. -/
def isComment (key : String) : Bool := "//".toList.isPrefixOf key.toList

/-- The domains of a startup scope the active one lacks. -/
def missingDomains (active : Json) : List (String × Json) → List (String × Json)
  | [] => []
  | (k, v) :: ms =>
      if isComment k || active.contains k then missingDomains active ms
      else (k, v) :: missingDomains active ms

/-- The scopes and domains `seedStore` back-fills. -/
def additions (active : Json) : List (String × Json) → List (String × Json)
  | [] => []
  | (k, v) :: ms =>
      if isComment k then additions active ms
      else
        match active.find? k with
        | none => (k, v) :: additions active ms
        | some scope =>
            if scope.isObject && v.isObject then
              match missingDomains scope v.members with
              | [] => additions active ms
              | missing => (k, .obj missing) :: additions active ms
            else additions active ms

/-- `jsonb || jsonb`. -/
def jsonbConcat (a b : Json) : Json :=
  match a, b with
  | .obj ms, .obj ns => .obj (ns.foldl (fun acc n => Json.insertMember n.1 n.2 acc) ms)
  | .arr as, .arr bs => .arr (as ++ bs)
  | .arr as, b => .arr (as ++ [b])
  | a, .arr bs => .arr (a :: bs)
  | a, b => .arr [a, b]

/-- The back-fill UPDATE, on the document of an active row. -/
def backfillDoc (adds : List (String × Json)) (doc : Json) : Json :=
  jsonbConcat doc (.obj (adds.map fun a =>
    (a.1, jsonbConcat ((doc.find? a.1).getD (.obj [])) a.2)))

/-- `Config::preflight` with `seedStore`: the table and cache state it leaves,
and whether the store is preflighted. -/
def preflight (file : Option Json) (tbl : Table) (io : SeedIO) (c : ConfigState) :
    Table × ConfigState × Bool :=
  let c := bootstrapDatabase io.connect { c with seederProcess := true }
  let startup := readStartupFile file
  if c.dbReady && io.schema && !startup.isEmpty && io.seed then
    let tbl := if tbl = [] then [⟨1, redactSecretsForPersist startup, .active⟩] else tbl
    let (activeRoot, c) := loadRunningConfigRoot file tbl io.load c
    let adds := additions activeRoot (redactSecretsForPersist startup).members
    let tbl :=
      if adds ≠ [] ∧ io.backfill then
        tbl.map fun r => if r.state = .active then { r with config := backfillDoc adds r.config }
          else r
      else tbl
    (tbl, c, true)
  else (tbl, c, false)

end Pretzel.Config
