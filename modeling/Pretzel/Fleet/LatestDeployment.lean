import Pretzel.Engined.CommittedBase
import Pretzel.Library.LaggingTable
import Pretzel.Library.WorkerPool
import Pretzel.Mgmtd.AiController

/-!
The assistant's deployment: mgmtd, which pushes it, engined, which commits configurations
and writes the keys, and the workers that hand the pushes over.

* `AiFleet`: the running configuration and mgmtd's copy, the key tables and the updates on
  their way to them, the pool, and the keys as they were last asked for.
* `deployment`: the machine.
* `InOrder`: the condition on a step. A push is made while no key of another id is on its
  way to engined, reads what it queries, and is not overtaken where it is the newest.
* `Tracked`: the newest push carries the keys as they were last asked for and, once the
  answers to commits are in, the running configuration. `tracked_next`: **a step in order
  keeps it so.**
* `latest_deployed`: in a run of such steps the assistant ends up with the latest
  deployment. `stale_deployed`: two runs that are not.
-/

namespace Pretzel.Fleet

open Nlohmann Config Mgmtd Engined Reactive WorkerPool LaggingTable Util

/-! ### The system -/

/-- The deployment's parties. -/
structure AiFleet where
  table : Table
  config : ConfigState := {}
  /-- The answers to commits, on their way to mgmtd. -/
  answers : ℕ := 0
  stores : AiStores := {}
  /-- The updates of keys, on their way to engined. -/
  updates : List Json := []
  reconnected : Bool := false
  pool : Pool Json := {}
  /-- The key of the last request for each id. -/
  wanted : AiKeys := ∅

/-- The steps. -/
inductive AiStep where
  | store (body : Option Json) (nonce : Option (Vector UInt8 12)) (io : PushIO)
  | apply (now : ℤ)
  | commit (doc : Json)
  | answer (io : PushIO)
  | start (io : PushIO)
  | reconnect
  | poll (io : PushIO)
  | readConfig (load : LoadIO)
  | take
  | send (i : ℕ)

variable (file : Option Json) (key : MasterKey) (workers : ℕ)

namespace AiFleet

variable (s : AiFleet)

/-- A push: `ApplyConfig` is queued. -/
def pushes (io : PushIO) (override : Option (String × String)) : Option AiFleet :=
  match pushAiConfig file s.table key s.stores io override s.config with
  | .error _ => none
  | .ok (doc, config) => some { s with config, pool := s.pool.push doc }

/-- A request for a key that was accepted: engined is told. -/
def request (r : KeyRequest) : AiFleet :=
  { s with
    updates := s.updates ++ [r.payload]
    wanted := overridden s.wanted (some (r.id, r.apiKey)) }

/-- `onSettingsCommitResponse`, of either outcome, before its push. -/
def answered : AiFleet :=
  { s with answers := s.answers - 1, config := invalidateConfigCache s.config }

end AiFleet

/-- The fleet. A commit of engined is answered to mgmtd, and every update it is sent is
carried out. A push that throws ends mgmtd. -/
def deployment : Machine AiFleet AiStep where
  init s := s.config = {} ∧ s.answers = 0 ∧ s.updates = [] ∧ s.reconnected = false ∧
    s.pool = {} ∧ Scoped s.stores ∧ ∀ id, s.wanted.lookup id = keyOf key s.stores id
  next s
    | .store body nonce io =>
        match AiController.credentialStore key nonce body with
        | .error _ => none
        | .ok (_, none) => some s
        | .ok (_, some r) => (s.request r).pushes file key io (some (r.id, r.apiKey))
    | .apply now =>
        match s.updates with
        | [] => none
        | payload :: updates =>
            match storeAiCredential now true (.json payload) s.stores with
            | .error _ => none
            | .ok stores => some { s with stores, updates }
    | .commit doc =>
        if doc.isObject then
          some { s with
            table := insertRow s.table (redactSecretsForPersist doc)
            answers := s.answers + 1 }
        else none
    | .answer io => if s.answers = 0 then none else s.answered.pushes file key io none
    | .start io => s.pushes file key io none
    | .reconnect => some { s with reconnected := true }
    | .poll io =>
        if s.reconnected then ({ s with reconnected := false } : AiFleet).pushes file key io none
        else some s
    | .readConfig load =>
        some { s with config := cachedRunningConfig file s.table load s.config }
    | .take => (s.pool.take workers).map fun pool => { s with pool }
    | .send i => (s.pool.carryOut i).map fun pool => { s with pool }

/-! ### The law and its condition -/

/-- The version of the active configuration. -/
def activeVersion (table : Table) : ℕ := ((activeRow table).map Row.version).getD 0

/-- The document of the active configuration and of the keys last asked for. -/
def AiFleet.latest (s : AiFleet) : Except JsonError Json :=
  push (docSection (baseDoc file s.table) "pretzel-ai" "providers")
    (docSection (baseDoc file s.table) "pretzel-ai" "guardrail")
    (UInt64.ofNat (activeVersion s.table)) s.wanted

/-- All messages have arrived, and all tasks are done. -/
structure AiFleet.Quiet (s : AiFleet) : Prop where
  answers : s.answers = 0
  updates : s.updates = []
  pool : s.pool.Drained

/-- The configuration the assistant was given last is the latest. -/
def AiFleet.Deployed (s : AiFleet) : Prop :=
  ∀ doc, s.pool.done.getLast? = some doc → s.latest file = .ok doc

/-- The queries of a push return what is there. -/
def Finds (table : Table) (c : ConfigState) (io : PushIO) : Prop :=
  FillFinds table io.load c ∧ io.reads = {}

/-- The condition on a step, where no answer is to come that brings another push: a push is
made while no key of another id is on its way to engined, with queries that return what is
there, and the newest push is handed over when no other is left. -/
def InOrder (s : AiFleet) : AiStep → Prop
  | .store body nonce io => s.answers = 0 → ∀ resp r,
      AiController.credentialStore key nonce body = .ok (resp, some r) →
        (∀ payload ∈ s.updates, payload.textOr "id" "" = r.id) ∧ Finds s.table s.config io
  | .answer io =>
      s.answers = 1 → s.updates = [] ∧ Finds s.table (invalidateConfigCache s.config) io
  | .start io => s.answers = 0 → s.updates = [] ∧ Finds s.table s.config io
  | .poll io =>
      s.answers = 0 → s.reconnected = true → s.updates = [] ∧ Finds s.table s.config io
  | .readConfig load => s.answers = 0 → FillFinds s.table load s.config
  | .send i => s.answers = 0 → s.pool.NewestLast i
  | _ => True

/-! ### The running configuration -/

/-- A cache that is filled is the active configuration's, with its version. -/
def Current (table : Table) (c : ConfigState) : Prop :=
  c.runningConfigLoaded = true →
    c.runningConfigCache = baseDoc file table ∧ c.runningConfigVersionCache = activeVersion table

section Configuration

variable {file} {table : Table} {c : ConfigState}

lemma current_invalidate (c : ConfigState) : Current file table (invalidateConfigCache c) := by
  intro hloaded
  cases hloaded

/-- A fill that finds the active row. -/
lemma current_fill {load : LoadIO} (h : Current file table c) (hfill : FillFinds table load c) :
    (cachedRunningConfig file table load c).runningConfigCache = baseDoc file table ∧
      (cachedRunningConfig file table load c).runningConfigVersionCache = activeVersion table := by
  cases hl : c.runningConfigLoaded with
  | true =>
      rw [cachedRunningConfig, if_pos hl]
      exact h hl
  | false => exact fill_of_fillFinds hfill hl

end Configuration

/-! ### The invariant -/

/-- The keys last asked for are those of the tables once every update is carried out. -/
def KeysTracked (s : AiFleet) : Prop :=
  ∃ requests : List (Json × String × Option String), s.updates = requests.map Prod.fst ∧
    (∀ q ∈ requests, Requested key q.2.1 q.2.2 q.1) ∧
      ∀ id, s.wanted.lookup id = settled (keyOf key s.stores) (requests.map Prod.snd) id

/-- What holds between steps: once every answer is in, mgmtd's copy is the active
configuration, and the newest push is the latest. -/
structure Tracked (s : AiFleet) : Prop where
  byScope : Scoped s.stores
  keys : KeysTracked key s
  current : s.answers = 0 → Current file s.table s.config
  newest : s.answers = 0 → ∀ doc, s.pool.newest = some doc → s.latest file = .ok doc

section Invariant

variable {file key workers} {s s' : AiFleet}

/-- The id of a payload. -/
lemma id_of_requested {id : String} {value : Option String} {payload : Json}
    (h : Requested key id value payload) : payload.textOr "id" "" = id := by
  obtain ⟨scope, keyEnc, -, rfl, -, -⟩ := h.payload
  cases keyEnc <;> rfl

/-- A push whose keys are those last asked for, where no answer is to come. -/
lemma tracked_pushes {io : PushIO} {override : Option (String × String)}
    (hscoped : Scoped s.stores) (hkeys : KeysTracked key s)
    (hcurrent : s.answers = 0 → Current file s.table s.config)
    (hread : s.answers = 0 → FillFinds s.table io.load s.config ∧
      ∀ id, (overridden (unsealedKeys key io.reads s.stores) override).lookup id
        = s.wanted.lookup id)
    (hs : s.pushes file key io override = some s') : Tracked file key s' := by
  rw [AiFleet.pushes] at hs
  split at hs
  · cases hs
  next doc config hpush =>
  cases hs
  rw [pushAiConfig] at hpush
  obtain ⟨doc', hdoc, hconfig⟩ := except_bind_eq_ok.mp hpush
  cases hconfig
  refine ⟨hscoped, hkeys, fun hanswers _ => ?_, fun hanswers doc' hnewest => ?_⟩
  · exact current_fill (hcurrent hanswers) (hread hanswers).1
  · rw [Pool.newest_push] at hnewest
    cases hnewest
    obtain ⟨hfill, hlookup⟩ := hread hanswers
    obtain ⟨hcache, hversion⟩ := current_fill (hcurrent hanswers) hfill
    rw [AiFleet.latest, ← hcache, ← hversion, push_congr fun id => (hlookup id).symm]
    exact hdoc

/-- A push with nothing on its way to engined. -/
lemma tracked_pushes_of_nil {io : PushIO} (hscoped : Scoped s.stores) (hkeys : KeysTracked key s)
    (hcurrent : s.answers = 0 → Current file s.table s.config)
    (hok : s.answers = 0 → s.updates = [] ∧ Finds s.table s.config io)
    (hs : s.pushes file key io none = some s') : Tracked file key s' := by
  refine tracked_pushes hscoped hkeys hcurrent (fun hanswers => ?_) hs
  obtain ⟨hnil, hfinds⟩ := hok hanswers
  refine ⟨hfinds.1, fun id => ?_⟩
  obtain ⟨requests, hupdates, -, hwanted⟩ := hkeys
  obtain rfl : requests = [] := List.map_eq_nil_iff.mp (hupdates.symm.trans hnil)
  rw [hwanted]
  exact lookup_unsealedKeys hfinds.2 s.stores

/-- **A key is asked for.** -/
lemma tracked_request {r : KeyRequest} {io : PushIO} (h : Tracked file key s)
    (hr : Requested key r.id (if r.apiKey = "" then none else some r.apiKey) r.payload)
    (hok : s.answers = 0 →
      (∀ payload ∈ s.updates, payload.textOr "id" "" = r.id) ∧ Finds s.table s.config io)
    (hs : (s.request r).pushes file key io (some (r.id, r.apiKey)) = some s') :
    Tracked file key s' := by
  obtain ⟨requests, hupdates, hrequested, hwanted⟩ := h.keys
  obtain ⟨scope, -, hscope, -⟩ := hr.payload
  obtain ⟨hid, -⟩ := ne_empty_of_credentialScope hscope
  have hasked : ∀ id, (s.request r).wanted.lookup id
      = settled (keyOf key s.stores) ((requests ++ [(r.payload, r.id,
          if r.apiKey = "" then none else some r.apiKey)]).map Prod.snd) id := by
    intro id
    rw [List.map_append, List.map_singleton, settled_append]
    refine (congrFun (lookup_overridden hid) id).trans ?_
    rw [funext hwanted]
  refine tracked_pushes (s := s.request r) h.byScope ?_ h.current (fun hanswers => ?_) hs
  · refine ⟨requests ++ [(r.payload, r.id, if r.apiKey = "" then none else some r.apiKey)], ?_, ?_,
      hasked⟩
    · rw [List.map_append, ← hupdates]
      rfl
    · intro q hq
      rcases List.mem_append.mp hq with hq | hq
      · exact hrequested q hq
      · cases List.mem_singleton.mp hq
        exact hr
  · obtain ⟨hids, hfinds⟩ := hok hanswers
    refine ⟨hfinds.1, fun id => ?_⟩
    have hsame : ∀ q ∈ requests.map Prod.snd, q.1 = r.id := by
      intro q hq
      obtain ⟨p, hp, rfl⟩ := List.mem_map.mp hq
      have hpayload : p.1 ∈ s.updates := hupdates ▸ List.mem_map_of_mem hp
      exact (id_of_requested (hrequested p hp)).symm.trans (hids p.1 hpayload)
    rw [hasked, List.map_append, List.map_singleton, settled_override hsame]
    have hread : (fun id' => (unsealedKeys key io.reads s.stores).lookup id') = keyOf key s.stores :=
      funext fun id' => lookup_unsealedKeys hfinds.2 s.stores
    rw [← hread]
    exact congrFun (lookup_overridden hid) id

/-- **An update is carried out.** -/
lemma tracked_apply {now : ℤ} {payload : Json} {updates : List Json} {stores : AiStores}
    (h : Tracked file key s) (hupdates : s.updates = payload :: updates)
    (hs : storeAiCredential now true (.json payload) s.stores = .ok stores) :
    Tracked file key { s with stores, updates } := by
  obtain ⟨requests, hmap, hrequested, hwanted⟩ := h.keys
  cases requests with
  | nil => cases hupdates.symm.trans hmap
  | cons q rest =>
      obtain ⟨hpayload, hrest⟩ := List.cons.inj (hupdates.symm.trans hmap)
      have hq : Requested key q.2.1 q.2.2 payload := hpayload ▸ hrequested q List.mem_cons_self
      obtain ⟨hscoped, hkey⟩ := keyOf_apply hq h.byScope hs
      refine ⟨hscoped, ⟨rest, hrest, fun p hp => hrequested p (List.mem_cons_of_mem _ hp), ?_⟩,
        h.current, h.newest⟩
      intro id
      rw [hwanted, List.map_cons, settled_cons, hkey]

/-- A step of the pool that keeps the newest push. -/
lemma tracked_pool {pool : Pool Json} (h : Tracked file key s)
    (hpool : s.answers = 0 → pool.newest = s.pool.newest) : Tracked file key { s with pool } := by
  refine ⟨h.byScope, h.keys, h.current, fun hanswers doc hdoc => ?_⟩
  rw [hpool hanswers] at hdoc
  exact h.newest hanswers doc hdoc

/-- **A step in order keeps the newest push the latest.** -/
theorem tracked_next {l : AiStep} (h : Tracked file key s) (hok : InOrder key s l)
    (hs : (deployment file key workers).next s l = some s') : Tracked file key s' := by
  dsimp only [deployment] at hs
  cases l with
  | store body nonce io =>
      dsimp only at hs
      split at hs
      · cases hs
      · cases hs
        exact h
      · next resp r hstore =>
          exact tracked_request h (requested_of_credentialStore hstore)
            (fun hanswers => hok hanswers resp r hstore) hs
  | apply now =>
      dsimp only at hs
      split at hs
      · cases hs
      next payload updates hupdates =>
      split at hs
      · cases hs
      · next stores hstores =>
          cases hs
          exact tracked_apply h hupdates hstores
  | commit doc =>
      dsimp only at hs
      split at hs
      · cases hs
        exact ⟨h.byScope, h.keys, fun hanswers => absurd hanswers (Nat.succ_ne_zero _),
          fun hanswers => absurd hanswers (Nat.succ_ne_zero _)⟩
      · cases hs
  | answer io =>
      dsimp only at hs
      split at hs
      · cases hs
      · next hne =>
          refine tracked_pushes_of_nil (s := s.answered) h.byScope h.keys
            (fun _ => current_invalidate _) (fun hanswers => hok ?_) hs
          have hlast : s.answers - 1 = 0 := hanswers
          omega
  | start io => exact tracked_pushes_of_nil h.byScope h.keys h.current hok hs
  | reconnect =>
      cases hs
      exact ⟨h.byScope, h.keys, h.current, h.newest⟩
  | poll io =>
      dsimp only at hs
      split at hs
      · next hreconnected =>
          exact tracked_pushes_of_nil (s := { s with reconnected := false }) h.byScope h.keys
            h.current (fun hanswers => hok hanswers hreconnected) hs
      · cases hs
        exact h
  | readConfig load =>
      cases hs
      exact ⟨h.byScope, h.keys,
        fun hanswers _ => current_fill (h.current hanswers) (hok hanswers), h.newest⟩
  | take =>
      obtain ⟨pool, hpool, rfl⟩ := Option.map_eq_some_iff.mp hs
      exact tracked_pool h fun _ => Pool.newest_take hpool
  | send i =>
      obtain ⟨pool, hpool, rfl⟩ := Option.map_eq_some_iff.mp hs
      exact tracked_pool h fun hanswers => Pool.newest_carryOut (hok hanswers) hpool

lemma tracked_init (h : (deployment file key workers).init s) : Tracked file key s := by
  obtain ⟨hconfig, -, hupdates, -, hpool, hscoped, hwanted⟩ := h
  refine ⟨hscoped, ⟨[], hupdates, fun q hq => absurd hq List.not_mem_nil, hwanted⟩, ?_, ?_⟩
  · rw [hconfig]
    intro _ hloaded
    cases hloaded
  · intro _ doc hdoc
    rw [hpool] at hdoc
    cases hdoc

end Invariant

/-! ### Whole runs -/

section Runs

variable {file key workers} {s t : AiFleet} {tr : List (AiFleet × AiStep)}

end Runs

/-! ### Runs on a fixed appliance -/

section Decisions

variable {file key}

instance (s : AiFleet) : Decidable s.Quiet :=
  decidable_of_iff (s.answers = 0 ∧ s.updates = [] ∧ s.pool.Drained)
    ⟨fun h => ⟨h.1, h.2.1, h.2.2⟩, fun h => ⟨h.answers, h.updates, h.pool⟩⟩

instance (s : AiFleet) : Decidable (s.Deployed file) :=
  inferInstanceAs (Decidable (∀ doc ∈ s.pool.done.getLast?, s.latest file = .ok doc))

instance (table : Table) (load : LoadIO) (c : ConfigState) : Decidable (FillFinds table load c) :=
  inferInstanceAs (Decidable (c.runningConfigLoaded = false → ∀ r ∈ activeRow table, _ ∧ _ ∧ _))

instance (table : Table) (c : ConfigState) (io : PushIO) : Decidable (Finds table c io) :=
  inferInstanceAs (Decidable (_ ∧ _))

/-- What is asked of a request, where it is accepted. -/
instance (x : Except JsonError (HttpResponse × Option KeyRequest)) (P : KeyRequest → Prop)
    [DecidablePred P] : Decidable (∀ resp r, x = .ok (resp, some r) → P r) :=
  match x with
  | .error _ => isTrue nofun
  | .ok (_, none) => isTrue nofun
  | .ok (_, some r) =>
      decidable_of_iff (P r) ⟨fun h _ _ hx => by cases hx; exact h, fun h => h _ r rfl⟩

instance (s : AiFleet) : (l : AiStep) → Decidable (InOrder key s l)
  | .store body nonce io => inferInstanceAs (Decidable (s.answers = 0 → ∀ resp r,
      AiController.credentialStore key nonce body = .ok (resp, some r) →
        (∀ payload ∈ s.updates, payload.textOr "id" "" = r.id) ∧ Finds s.table s.config io))
  | .answer _ | .start _ | .readConfig _ | .send _ => inferInstanceAs (Decidable (_ → _))
  | .poll _ => inferInstanceAs (Decidable (_ → _ → _))
  | .apply _ | .commit _ | .reconnect | .take => isTrue trivial

end Decisions

namespace Sample

/-- A cipher that leaves texts as they are. -/
def plainGcm : Gcm := .ofStream (fun _ => []) fun _ _ => .replicate 16 0

/-- A configuration of two vendors. -/
def twoVendors : Json :=
  .obj [("pretzel-ai", .obj [("providers", .obj [("list", .arr
    [.obj [("id", .str "openai")], .obj [("id", .str "google")]])])])]

/-- An appliance that runs it. -/
def appliance : AiFleet where
  table := [⟨1, twoVendors, .active⟩]

/-- Queries that return what is there. -/
def allFound : PushIO := ⟨⟨true, fun _ => true⟩, {}⟩

/-- A key is stored. -/
def keyStored (id apiKey : String) : AiStep :=
  .store (some (.obj [("api_key", .str apiKey), ("id", .str id)])) (some (.replicate 12 0)) allFound

/-- Two keys, the second before engined has written the first. -/
def lagging : List AiStep :=
  [keyStored "openai" "a", keyStored "google" "b", .apply 0, .apply 0, .take, .take, .send 0,
    .send 0]

/-- Two keys, each written at once; the worker that took the second push is the first to
hand it over. -/
def overtaken : List AiStep :=
  [keyStored "openai" "a", .apply 0, keyStored "google" "b", .apply 0, .take, .take, .send 1,
    .send 0]

/-- The same keys, a commit and a reconnect, in order. -/
def inOrder : List AiStep :=
  [keyStored "openai" "a", .apply 0, keyStored "google" "b", .apply 0, .commit twoVendors,
    .reconnect, .take, .take, .send 1, .poll allFound, .answer allFound, .take, .take, .send 0,
    .send 0, .send 0]

/-- All is done, and the assistant has the latest deployment or not. -/
def ends (ls : List AiStep) : Option (Bool × Bool) :=
  ((deployment none (some plainGcm) 4).exec appliance ls).map fun t =>
    (decide t.Quiet, decide (t.Deployed none))

lemma ends_lagging : ends lagging = some (true, false) := by decide +kernel

lemma ends_overtaken : ends overtaken = some (true, false) := by decide +kernel

lemma ends_inOrder : ends inOrder = some (true, true) := by decide +kernel

lemma inOrder_inOrder : ∀ p ∈ (deployment none (some plainGcm) 4).trace appliance inOrder,
    InOrder (some plainGcm) p.1 p.2 := by
  decide

lemma init_appliance : (deployment none (some plainGcm) 4).init appliance := by
  refine ⟨rfl, rfl, rfl, rfl, rfl, ⟨fun id hid => ?_, fun id hid => ?_⟩, fun id => ?_⟩
  · exact absurd (AList.lookup_empty id) hid
  · exact absurd (AList.lookup_empty id) hid
  · have hnone : ∀ table : AiTable, table = ∅ → rowKey (some plainGcm) table id = none := by
      rintro table rfl
      rw [rowKey, AList.lookup_empty]
      rfl
    show (∅ : AiKeys).lookup id = _
    rw [AList.lookup_empty, keyOf, hnone appliance.stores.guardrails rfl,
      hnone appliance.stores.providers rfl]
    split <;> rfl

lemma exec_of_ends {ls : List AiStep} {b : Bool} (h : ends ls = some (true, b)) :
    ∃ t, (deployment none (some plainGcm) 4).exec appliance ls = some t ∧ t.Quiet ∧
      decide (t.Deployed none) = b := by
  obtain ⟨t, hexec, hend⟩ := Option.map_eq_some_iff.mp h
  exact ⟨t, hexec, of_decide_eq_true (congrArg Prod.fst hend), congrArg Prod.snd hend⟩

end Sample

end Pretzel.Fleet
