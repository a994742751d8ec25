import Pretzel.Engined.Inventory
import Pretzel.Ipc.Protocol

/-!
`ProbeService::onProbeResult` and `onSaseHealthResult`: what the results of the
probes make of the inventory.

* `DeviceInventory`: the two tables, with the status of each firewall.
* `readProbeResult`: the addresses of a payload. `markWhere`: one `UPDATE`.
* `onProbeResult`: the handler, on a database that answers.
* `status_reflect`: afterwards the status of a row is whether its target is among
  the addresses.
* `SaseDevices`, `readSaseHealthResult`, `onSaseHealthResult`: the same of the tenants,
  whose targets are named alive, down or not at all. `status_record`: what a row's status
  is afterwards.
-/

namespace Pretzel.Engined

open Nlohmann Ipc

/-- `ngfw_device.status`. -/
inductive DeviceStatus
  | unknown
  | active
  | down
deriving DecidableEq, Repr

/-- The devices, the status of a firewall by the oid of its row, and the addresses
the service manager was told. -/
structure DeviceInventory where
  ngfw : DeviceTable
  sase : DeviceTable
  status : String → DeviceStatus := fun _ => .unknown
  aliveIps : List String := []

/-- The addresses of a `ProbeResult`. -/
def readProbeResult (root : Json) : Except JsonError (List String) := do
  let _ ← root.valueUnsigned 32 "alive" 0
  let ips ← root.valueJson "ips" (.arr [])
  ips.elements.mapM Json.getString

/-- `UPDATE ngfw_device SET status = …`, for the rows of some targets. -/
def markWhere (p : String → Bool) (status : DeviceStatus) (inv : DeviceInventory) :
    DeviceInventory :=
  { inv with
    status := fun oid =>
      if inv.ngfw.rows.any fun r => r.oid = oid && p r.target then status else inv.status oid }

/-- What the two statements make of the rows. -/
def reflect (ips : List String) (inv : DeviceInventory) : DeviceInventory :=
  markWhere (fun target => target ∈ ips) .active (markWhere (fun target => target ∉ ips) .down inv)

/-- `ProbeService::onProbeResult`. -/
def onProbeResult (dump : Json → String) (site : Json) (inv : DeviceInventory) (payload : Payload) :
    Except JsonError DeviceInventory :=
  match payload with
  | .empty | .malformed => .ok inv
  | .json root =>
      match readProbeResult root with
      | .error _ => .ok inv
      | .ok ips =>
          (projectInventory dump site inv.ngfw inv.sase).map fun tables =>
            { reflect ips { inv with ngfw := tables.1, sase := tables.2 } with aliveIps := ips }

variable {ips : List String} {inv : DeviceInventory} {row : DeviceRow}

/-- One `UPDATE`, at a row. -/
lemma status_markWhere (h : row ∈ inv.ngfw.rows) (p : String → Bool) (status : DeviceStatus) :
    (markWhere p status inv).status row.oid =
      if p row.target then status else inv.status row.oid := by
  have hany : (inv.ngfw.rows.any fun r => r.oid = row.oid && p r.target) = p row.target := by
    rw [Bool.eq_iff_iff, List.any_eq_true]
    constructor
    · rintro ⟨r, hr, hmatch⟩
      rw [Bool.and_eq_true, decide_eq_true_eq] at hmatch
      rw [← List.inj_on_of_nodup_map inv.ngfw.keys hr h hmatch.1]
      exact hmatch.2
    · exact fun hp => ⟨row, h, by simp [hp]⟩
  rw [markWhere]
  dsimp only
  rw [hany]

/-- **The status of a row** follows its target alone. -/
lemma status_reflect (h : row ∈ inv.ngfw.rows) : (reflect ips inv).status row.oid =
    if row.target ∈ ips then .active else .down := by
  have hdown : row ∈ (markWhere (fun target => target ∉ ips) .down inv).ngfw.rows := h
  rw [reflect, status_markWhere hdown, status_markWhere h]
  by_cases hmem : row.target ∈ ips <;> simp [hmem]

/-! ### The tenants -/

/-- `sase_device`, with the columns the health of a tenant is kept in, by the oid of its
row. -/
structure SaseDevices where
  table : DeviceTable
  status : String → DeviceStatus := fun _ => .unknown
  egressResult : String → Option Json := fun _ => none

/-- The members of a `SaseHealthResult`. -/
structure SaseHealthResult where
  saseAlive : List String
  saseDown : List String
  saseEgress : List (String × Json)

/-- The reads of `onSaseHealthResult`. -/
def readSaseHealthResult (root : Json) : Except JsonError SaseHealthResult := do
  let alive ← root.valueJson "sase_alive" (.arr [])
  let saseAlive ← alive.elements.mapM Json.getString
  let down ← root.valueJson "sase_down" (.arr [])
  let saseDown ← down.elements.mapM Json.getString
  let saseEgress := match root.find? "sase_egress" with
    | some (.obj ms) => ms
    | _ => []
  return { saseAlive, saseDown, saseEgress }

namespace SaseDevices

/-- `UPDATE sase_device SET status = …`, for the rows of some targets. -/
def markTargets (targets : List String) (status : DeviceStatus) (devices : SaseDevices) :
    SaseDevices :=
  { devices with
    status := fun oid =>
      if devices.table.rows.any fun r => r.oid = oid && r.target ∈ targets then status
      else devices.status oid }

/-- `UPDATE sase_device SET egress_result = …`, for the rows of a target. -/
def storeEgress (devices : SaseDevices) (e : String × Json) : SaseDevices :=
  { devices with
    egressResult := fun oid =>
      if devices.table.rows.any fun r => r.oid = oid && r.target = e.1 then some e.2
      else devices.egressResult oid }

/-- The statements of `onSaseHealthResult`, those of an empty list left out. -/
def record (result : SaseHealthResult) (devices : SaseDevices) : SaseDevices :=
  let devices :=
    if result.saseAlive = [] then devices else devices.markTargets result.saseAlive .active
  let devices :=
    if result.saseDown = [] then devices else devices.markTargets result.saseDown .down
  result.saseEgress.foldl storeEgress devices

end SaseDevices

/-- `ProbeService::onSaseHealthResult`, on a database that answers. -/
def onSaseHealthResult (devices : SaseDevices) (payload : Payload) : SaseDevices :=
  match payload with
  | .empty | .malformed => devices
  | .json root =>
      match readSaseHealthResult root with
      | .error _ => devices
      | .ok result => devices.record result

/-- Strings in an array, read one by one. -/
lemma mapM_getString (texts : List String) : (texts.map Json.str).mapM Json.getString = .ok texts := by
  induction texts with
  | nil => rfl
  | cons text texts ih =>
      rw [List.map_cons, List.mapM_cons, ih]
      rfl

variable {devices : SaseDevices} {result : SaseHealthResult}

/-- One `UPDATE`, at a row. -/
lemma status_markTargets (h : row ∈ devices.table.rows) (targets : List String)
    (status : DeviceStatus) : (devices.markTargets targets status).status row.oid =
      if row.target ∈ targets then status else devices.status row.oid := by
  have hany : (devices.table.rows.any fun r => r.oid = row.oid && r.target ∈ targets) =
      decide (row.target ∈ targets) := by
    rw [Bool.eq_iff_iff, List.any_eq_true, decide_eq_true_eq]
    constructor
    · rintro ⟨r, hr, hmatch⟩
      rw [Bool.and_eq_true, decide_eq_true_eq, decide_eq_true_eq] at hmatch
      rw [← List.inj_on_of_nodup_map devices.table.keys hr h hmatch.1]
      exact hmatch.2
    · exact fun hp => ⟨row, h, by simp [hp]⟩
  rw [SaseDevices.markTargets]
  dsimp only
  simp only [hany, decide_eq_true_eq]

lemma status_foldl_storeEgress (es : List (String × Json)) (devices : SaseDevices) :
    (es.foldl SaseDevices.storeEgress devices).status = devices.status := by
  induction es generalizing devices with
  | nil => rfl
  | cons e es ih => rw [List.foldl_cons, ih, SaseDevices.storeEgress]

/-- **The status of a tenant**: down where its target is named down, else active where it
is named alive, else what it was. -/
lemma status_record (h : row ∈ devices.table.rows) : (devices.record result).status row.oid =
    if row.target ∈ result.saseDown then .down
    else if row.target ∈ result.saseAlive then .active else devices.status row.oid := by
  have halive : (if result.saseAlive = [] then devices
      else devices.markTargets result.saseAlive .active).status row.oid =
        if row.target ∈ result.saseAlive then .active else devices.status row.oid := by
    split
    · next hnone => rw [hnone, if_neg List.not_mem_nil]
    · exact status_markTargets h _ _
  rw [SaseDevices.record, status_foldl_storeEgress, ← halive]
  by_cases hdown : result.saseDown = []
  · rw [if_pos hdown, hdown, if_neg List.not_mem_nil]
  · rw [if_neg hdown]
    refine status_markTargets ?_ _ _
    split <;> exact h

end Pretzel.Engined
