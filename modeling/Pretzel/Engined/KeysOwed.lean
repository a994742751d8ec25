import Pretzel.Engined.SaseKeys
import Pretzel.Library.Machine

/-!
The sealed keys over whole runs: updates of keys, probe results with their
projections, other readers of the configuration, commits and restarts, with
database calls that answer or not.

Beside what engined keeps, the state has the keys that are owed: a key from the
update that stored it, until the configuration is read from an active row that
lacks its device after one that had it.

* `KeyFleet`, `KeyStep`, `saseKeys`: the machine.
* `KeysKept`: every key that is owed is there.
* `Spared`: a projection that deletes runs on a configuration that declares the
  devices of the keys that are owed.
* `keysKept_probe_iff`: a probe result keeps the keys exactly where they are
  spared; `keys_kept`, over runs.
* `key_lost_on_fallback`, `key_lost_before_commit`: a key lost because the
  configuration could not be read, and one because its device was not committed
  yet.
-/

namespace Pretzel.Engined

open Nlohmann Ipc Config Reactive

/-- engined, as far as the keys reach, with the keys that are owed and the
devices that an active row it read has declared. -/
structure KeyFleet where
  config : ConfigState := {}
  running : Config.Table := []
  devices : SaseTable
  owed : String → Option String := fun _ => none
  met : List String := []

/-- One step: an update of a key, a probe result, another reader of the
configuration, a commit, the end of the cache, or a restart. -/
inductive KeyStep where
  | store (payload : Payload) (wrote : Bool)
  | probe (payload : Payload) (file : Option Json) (load : LoadIO) (io : ProjectIO)
  | read (file : Option Json) (load : LoadIO)
  | commit (io : CommitIO) (root : Json)
  | invalidate
  | restart (file : Option Json) (io : SeedIO)

/-- The addresses of a probe result, if it can be read. -/
def probeIps (payload : Payload) : Option (List String) :=
  match payload with
  | .json root =>
      let read : Except JsonError (List String) := do
        let _ ← root.valueUnsigned 32 "alive" 0
        let ips ← root.valueJson "ips" (.arr [])
        ips.elements.mapM Json.getString
      match read with
      | .ok ips => some ips
      | .error _ => none
  | .empty | .malformed => none

namespace KeyFleet

variable (s : KeyFleet)

/-- The site section of the configuration in the cache. -/
def site : Json := configSection s.config "pretzel" "site"

/-- The document a fill of the cache reads from the active row, if it does. -/
def readActive (load : LoadIO) : Option Json :=
  if s.config.runningConfigLoaded then none
  else
    let c := bootstrapDatabase load.connect { s.config with runningConfigVersionCache := 0 }
    (queryRunningConfig s.running load c).map Prod.snd

/-- What is owed after an active document is read, and the devices that were
declared. -/
def meet (doc : Json) : KeyFleet :=
  let declared := declaredSase (docSection doc "pretzel" "site")
  { s with
    owed := fun oid => if oid ∈ s.met ∧ oid ∉ declared then none else s.owed oid
    met := s.met ++ declared }

/-- A reader of the configuration, which fills the cache. -/
def fill (file : Option Json) (load : LoadIO) : KeyFleet :=
  let config := cachedRunningConfig file s.running load s.config
  match s.readActive load with
  | none => { s with config }
  | some doc => { s.meet doc with config }

/-- `ProbeService::projectInventory` on the configuration in the cache. A JSON
error leaves the process, which starts again. -/
def project (dump : Json → String) (io : ProjectIO) : KeyFleet :=
  match Json.readEach readNgfw (s.site.elementsAt "ngfw_devices") with
  | .error _ => { s with config := {} }
  | .ok _ =>
      match projectSase dump io s.site s.devices with
      | (devices, .ok ()) => { s with devices }
      | (devices, .error _) => { s with devices, config := {} }

/-- What is owed after an update. -/
def owedAfter (payload : Payload) (wrote : Bool) : String → Option String :=
  match saseKeyUpdate payload with
  | .ok (some (oid, keyEnc)) => if wrote then Function.update s.owed oid (some keyEnc) else s.owed
  | _ => s.owed

end KeyFleet

/-- One step of engined. -/
def keyStep (dump : Json → String) (s : KeyFleet) : KeyStep → KeyFleet
  | .store payload wrote =>
      match storeSaseApiKey wrote payload s.devices with
      | .error _ => { s with config := {} }
      | .ok devices => { s with devices, owed := s.owedAfter payload wrote }
  | .probe payload file load io =>
      match probeIps payload with
      | none => s
      | some _ => (s.fill file load).project dump io
  | .read file load => s.fill file load
  | .commit io root =>
      let (running, config, _) := commitConfig s.running io s.config root
      { s with running, config }
  | .invalidate => { s with config := invalidateConfigCache s.config }
  | .restart file io =>
      let (running, config, _) := preflight file s.running io {}
      { s with running, config }

/-- engined under these steps, from any state in which nothing is owed. -/
def saseKeys (dump : Json → String) : Machine KeyFleet KeyStep where
  init s := ∀ oid, s.owed oid = none
  next s l := some (keyStep dump s l)

/-- Every key that is owed is there. -/
def KeysKept (s : KeyFleet) : Prop :=
  ∀ oid key, s.owed oid = some key → s.devices.keyOf oid = some key

/-- A projection that deletes runs on a configuration that declares the devices of
the keys that are owed. -/
def Spared (dump : Json → String) (s : KeyFleet) (l : KeyStep) : Prop :=
  match l with
  | .probe payload file load io =>
      probeIps payload ≠ none →
      (Json.readEach readNgfw ((s.fill file load).site.elementsAt "ngfw_devices")).isOk = true →
      sweeps dump io (s.fill file load).site = true →
      ∀ oid key, (s.fill file load).owed oid = some key →
        oid ∈ declaredSase (s.fill file load).site
  | _ => True

section Steps

variable {dump : Json → String} {s s' : KeyFleet} {l : KeyStep}

/-- A reader of the configuration owes no more than before. -/
lemma owed_of_fill {file : Option Json} {load : LoadIO} {oid key : String}
    (h : (s.fill file load).owed oid = some key) : s.owed oid = some key := by
  rw [KeyFleet.fill] at h
  dsimp only at h
  split at h
  · exact h
  · dsimp only [KeyFleet.meet] at h
    split at h
    · cases h
    · exact h

lemma devices_fill {file : Option Json} {load : LoadIO} :
    (s.fill file load).devices = s.devices := by
  rw [KeyFleet.fill]
  dsimp only
  split <;> rfl

lemma keysKept_fill {file : Option Json} {load : LoadIO} (h : KeysKept s) :
    KeysKept (s.fill file load) := by
  intro oid key howed
  rw [devices_fill]
  exact h oid key (owed_of_fill howed)

/-- **The projection keeps what is owed** exactly where its `DELETE` spares it. -/
lemma keysKept_project_iff {io : ProjectIO} (h : KeysKept s) :
    KeysKept (s.project dump io) ↔
      ((Json.readEach readNgfw (s.site.elementsAt "ngfw_devices")).isOk = true →
        sweeps dump io s.site = true → ∀ oid key, s.owed oid = some key →
          oid ∈ declaredSase s.site) := by
  have hkeys := @keyOf_projectSase s.devices dump io s.site
  rw [KeyFleet.project]
  cases Json.readEach readNgfw (s.site.elementsAt "ngfw_devices") with
  | error e => exact ⟨fun _ hok => absurd hok Bool.false_ne_true, fun _ => h⟩
  | ok rows =>
      have hdevices : ∀ s' : KeyFleet, s'.owed = s.owed →
          s'.devices = (projectSase dump io s.site s.devices).1 →
          (KeysKept s' ↔ (sweeps dump io s.site = true →
            ∀ oid key, s.owed oid = some key → oid ∈ declaredSase s.site)) := by
        intro s' howed hdev
        rw [KeysKept, howed, hdev]
        constructor
        · intro hkept hsweeps oid key hkey
          by_contra hlost
          have hthere := hkept oid key hkey
          rw [hkeys, if_pos ⟨hsweeps, hlost⟩] at hthere
          cases hthere
        · intro hspared oid key hkey
          rw [hkeys, if_neg fun hlost => hlost.2 (hspared hlost.1 oid key hkey)]
          exact h oid key hkey
      rw [show (Except.isOk (Except.ok rows : Except JsonError (List DeviceRow))) = true from rfl]
      simp only [true_implies]
      split
      · next devices heq => exact hdevices _ rfl (by rw [heq])
      · next devices e heq => exact hdevices _ rfl (by rw [heq])

/-- **A probe result keeps the keys** exactly where they are spared. -/
theorem keysKept_probe_iff {payload : Payload} {file : Option Json} {load : LoadIO}
    {io : ProjectIO} (h : KeysKept s) :
    KeysKept (keyStep dump s (.probe payload file load io)) ↔
      Spared dump s (.probe payload file load io) := by
  rw [keyStep, Spared]
  cases probeIps payload with
  | none => exact ⟨fun _ hread => absurd rfl hread, fun _ => h⟩
  | some ips =>
      rw [keysKept_project_iff (keysKept_fill h)]
      exact ⟨fun hspared _ => hspared, fun hspared => hspared (Option.some_ne_none ips)⟩

/-- An update puts the key in its place. -/
lemma keysKept_store {payload : Payload} {wrote : Bool} (h : KeysKept s) :
    KeysKept (keyStep dump s (.store payload wrote)) := by
  rw [keyStep, storeSaseApiKey]
  cases hupdate : saseKeyUpdate payload with
  | error e => exact h
  | ok update =>
      cases update with
      | none =>
          intro oid key howed
          change s.owedAfter payload wrote oid = some key at howed
          rw [KeyFleet.owedAfter, hupdate] at howed
          exact h oid key howed
      | some update =>
          obtain ⟨oid', keyEnc⟩ := update
          intro oid key howed
          change s.owedAfter payload wrote oid = some key at howed
          change (if wrote then s.devices.storeKey oid' keyEnc else s.devices).keyOf oid = some key
          rw [KeyFleet.owedAfter, hupdate] at howed
          cases wrote with
          | false => exact h oid key howed
          | true =>
              change Function.update s.owed oid' (some keyEnc) oid = some key at howed
              change (s.devices.storeKey oid' keyEnc).keyOf oid = some key
              rw [keyOf_storeKey]
              rw [Function.update_apply] at howed
              split
              · next heq => rwa [if_pos heq] at howed
              · next hne =>
                  rw [if_neg hne] at howed
                  exact h oid key howed

/-- A step that spares the keys keeps them. -/
lemma keysKept_next (h : KeysKept s) (hspared : Spared dump s l)
    (hnext : (saseKeys dump).next s l = some s') : KeysKept s' := by
  obtain rfl := Option.some.inj hnext
  cases l with
  | store payload wrote => exact keysKept_store h
  | probe payload file load io => exact (keysKept_probe_iff h).mpr hspared
  | read file load => exact keysKept_fill h
  | commit io root => exact h
  | invalidate => exact h
  | restart file io => exact h

end Steps

/-- **A stored key is there until its device is gone** from an active
configuration that had it, in every run that spares the keys. -/
theorem keys_kept {dump : Json → String} {s s' : KeyFleet} {tr : List (KeyFleet × KeyStep)}
    (hinit : (saseKeys dump).init s) (hrun : (saseKeys dump).Run s tr s')
    (hspared : ∀ p ∈ tr, Spared dump p.1 p.2) : KeysKept s' := by
  have hstart : KeysKept s := by
    intro oid key howed
    rw [hinit oid] at howed
    cases howed
  exact hrun.invariant_of_forall hstart (fun _ _ _ hI hC h => keysKept_next hI hC h) hspared

namespace OneTenant

/-- A tenant with its key. -/
def update : Payload := .json (.obj [("api_key_enc", .str "sealed"), ("oid", .str "d1")])

/-- A configuration that declares it. -/
def declaring : Json := .obj [("pretzel", .obj [("site", .obj
  [("sase_devices", .arr [.obj [("name", .str "branch"), ("oid", .str "d1")]])])])]

/-- A probe result. -/
def result : Payload := .json (.obj [("alive", .int 0), ("ips", .arr [])])

/-- A database that answers. -/
def answers : LoadIO := ⟨true, fun _ => true⟩

/-- A database whose queries fail. -/
def fails : LoadIO := ⟨true, fun _ => false⟩

/-- Statements that are carried out. -/
def done : ProjectIO := ⟨fun _ => true, true⟩

lemma noKeys : (([] : List SaseRow).map SaseRow.oid).Nodup := List.nodup_nil

lemma noAttrs : ∀ q ∈ ([] : List SaseRow), ∀ r ∈ ([] : List SaseRow), r.uniqueTarget ≠ none →
    q.uniqueTarget = r.uniqueTarget → q = r := by
  intro q hq
  cases hq

/-- Nothing stored, under a running configuration. -/
def start (config : Json) : KeyFleet :=
  { running := [⟨1, config, .active⟩], devices := ⟨[], noKeys, noAttrs⟩ }

/-- What becomes of the key after some steps: what is owed, and what is there. -/
def keyAfter (config : Json) (steps : List KeyStep) : Option (Option String × Option String) :=
  ((saseKeys fun _ => "").exec (start config) steps).map fun t =>
    (t.owed "d1", t.devices.keyOf "d1")

/-- The key is stored, and a probe result comes while the configuration is read. -/
def readSteps : List KeyStep := [.store update true, .probe result none answers done]

/-- The key is stored, and a probe result comes after the cache has ended, while
the configuration cannot be read. -/
def fallbackSteps : List KeyStep := readSteps ++ [.invalidate, .probe result none fails done]

lemma start_init (config : Json) : (saseKeys fun _ => "").init (start config) := fun _ => rfl

/-- A run that loses the key. -/
lemma lost {config : Json} {steps : List KeyStep}
    (h : keyAfter config steps = some (some "sealed", none)) :
    ¬∀ s s' tr, (saseKeys fun _ => "").init s → (saseKeys fun _ => "").Run s tr s' → KeysKept s' := by
  intro hall
  obtain ⟨t, hexec, ht⟩ := Option.map_eq_some_iff.mp h
  obtain ⟨howed, hkey⟩ := Prod.mk.inj ht
  have hkept := hall _ _ _ (start_init config) (Machine.exec_run hexec) "d1" "sealed" howed
  rw [hkey] at hkept
  cases hkept

end OneTenant

open OneTenant

/-- The law where the configuration is read and declares the tenant. -/
theorem keys_kept_declared :
    ∃ s', (saseKeys fun _ => "").exec (start declaring) readSteps = some s' ∧
      s'.owed "d1" = some "sealed" ∧ KeysKept s' := by
  have hrun : keyAfter declaring readSteps = some (some "sealed", some "sealed") := by
    decide +kernel
  obtain ⟨s', hexec, hkeys⟩ := Option.map_eq_some_iff.mp hrun
  refine ⟨s', hexec, (Prod.mk.inj hkeys).1,
    keys_kept (start_init declaring) (Machine.exec_run hexec) ?_⟩
  have htrace : (saseKeys fun _ => "").trace (start declaring) readSteps =
      [(start declaring, .store update true),
        (keyStep (fun _ => "") (start declaring) (.store update true),
          .probe result none answers done)] := rfl
  rw [htrace, List.forall_mem_cons, List.forall_mem_singleton]
  refine ⟨trivial, ?_⟩
  intro _ _ _ oid key howed
  have hread : saseKeyUpdate update = .ok (some ("d1", "sealed")) := by decide +kernel
  have hstored : (start declaring).owedAfter update true oid = some key := owed_of_fill howed
  rw [KeyFleet.owedAfter, hread] at hstored
  change Function.update (fun _ => none) "d1" (some "sealed") oid = some key at hstored
  rw [Function.update_apply] at hstored
  split at hstored
  · next hoid =>
      rw [hoid]
      decide +kernel
  · cases hstored

/-- **A key lost on a fallback**: the tenant is declared all along, and one read of
the configuration fails. -/
theorem key_lost_on_fallback :
    ¬∀ s s' tr, (saseKeys fun _ => "").init s → (saseKeys fun _ => "").Run s tr s' → KeysKept s' :=
  @lost declaring fallbackSteps (by decide +kernel)

/-- **A key lost before its tenant is committed**: a probe result comes first. -/
theorem key_lost_before_commit : keyAfter (.obj []) readSteps = some (some "sealed", none) := by
  decide

end Pretzel.Engined
