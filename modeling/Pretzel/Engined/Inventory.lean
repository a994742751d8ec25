import Pretzel.Library.Json
import Pretzel.Library.KeyedTable

/-!
`ProbeService::projectInventory`: the devices of the site section, projected into
the tables `ngfw_device` and `sase_device`.

* `DeviceRow`, `DeviceTable`: a row by the columns the projection writes, and a
  table of them with its primary key and its unique target.
* `projectDevices`: the loop over one array, one upsert a device, and the
  `DELETE` of every other row.
* `projectDevices_eq_ok`, `holdsEach_project_iff`: the loop reads every device
  first or last, and every row read is there when the rows fit the table.
* `readNgfw_eq_ok_iff`, `readSase_eq_ok_iff`: the members that have to be of the
  type read, and the row that comes of them.
-/

namespace Pretzel.Engined

open Nlohmann

/-! ### The tables -/

/-- The columns of a device the projection writes: after the description the
fingerprint of an `ngfw_device`, the health url and body of a `sase_device`. -/
structure DeviceRow where
  oid : String
  site : String
  target : String
  name : String
  description : String
  rest : List String
deriving DecidableEq

/-- The target as the unique index takes it, which leaves the empty one out. -/
def DeviceRow.uniqueTarget (r : DeviceRow) : Option String :=
  if r.target = "" then none else some r.target

/-- `ngfw_device`, or `sase_device`. -/
abbrev DeviceTable := KeyedTable.Table DeviceRow.oid DeviceRow.uniqueTarget

/-! ### The projection -/

/-- The oid of a device, under its legacy keys too. -/
def readDeviceOid (d : Json) : Except JsonError String := do
  let id ← d.valueString "id" ""
  let uuid ← d.valueString "uuid" id
  d.valueString "oid" uuid

/-- One turn of the loop over `ngfw_devices`. -/
def readNgfw (d : Json) : Except JsonError (Option DeviceRow) :=
  if d.isObject then do
    let oid ← readDeviceOid d
    if oid = "" then return none
    else
      let site ← d.valueString "site" ""
      let target ← d.valueString "target" ""
      let name ← d.valueString "name" ""
      let description ← d.valueString "description" ""
      let fingerprint ← d.valueString "fingerprint" ""
      return some { oid, site, target, name, description, rest := [fingerprint] }
  else .ok none

/-- `health_body`: the text of the member, or what it serialises to. -/
def healthBody (dump : Json → String) (health : Json) : String :=
  match health.find? "body" with
  | none => ""
  | some (.str s) => s
  | some body => dump body

/-- One turn of the loop over `sase_devices`. -/
def readSase (dump : Json → String) (d : Json) : Except JsonError (Option DeviceRow) :=
  if d.isObject then do
    let oid ← readDeviceOid d
    if oid = "" then return none
    else
      let health ← d.valueJson "health" (.obj [])
      let site ← d.valueString "site" ""
      let target ← d.valueString "target" ""
      let name ← d.valueString "name" ""
      let description ← d.valueString "description" ""
      let url ← health.valueString "url" ""
      return some { oid, site, target, name, description, rest := [url, healthBody dump health] }
  else .ok none

/-- The loop over one array: the table after its upserts, and the oids it has
seen. -/
def projectEach (read : Json → Except JsonError (Option DeviceRow)) :
    List Json → DeviceTable → Except JsonError (DeviceTable × List String)
  | [], t => .ok (t, [])
  | d :: ds, t => do
      match ← read d with
      | none => projectEach read ds t
      | some row =>
          let (t, ids) ← projectEach read ds (t.upsert row)
          return (t, row.oid :: ids)

/-- One half of `projectInventory`, on a database that answers. -/
def projectDevices (read : Json → Except JsonError (Option DeviceRow)) (site : Json) (key : String)
    (t : DeviceTable) : Except JsonError DeviceTable := do
  let devices ← site.valueJson key (.arr [])
  let (t, ids) ← projectEach read devices.elements t
  return t.retain fun row => row.oid ∈ ids

/-- `ProbeService::projectInventory`: the two tables it leaves. -/
def projectInventory (dump : Json → String) (site : Json) (ngfw sase : DeviceTable) :
    Except JsonError (DeviceTable × DeviceTable) := do
  let ngfw ← projectDevices readNgfw site "ngfw_devices" ngfw
  let sase ← projectDevices (readSase dump) site "sase_devices" sase
  return (ngfw, sase)

/-! ### The loop -/

/-- The loop reads every device, and upserts the rows in order. -/
lemma projectEach_eq (read : Json → Except JsonError (Option DeviceRow)) (ds : List Json)
    (t : DeviceTable) : projectEach read ds t =
      (Json.readEach read ds).map fun rows => (t.upsertAll rows, rows.map DeviceRow.oid) := by
  induction ds generalizing t with
  | nil => rfl
  | cons d ds ih =>
      rw [projectEach, Json.readEach]
      cases read d with
      | error e => rfl
      | ok r =>
          cases r with
          | none =>
              change projectEach read ds t = _
              rw [ih]
              cases Json.readEach read ds <;> rfl
          | some row =>
              change (do let (t, ids) ← projectEach read ds (t.upsert row); _) = _
              rw [ih]
              cases Json.readEach read ds <;> rfl

/-- **One half of the projection**, by the rows that are read. -/
lemma projectDevices_eq_ok {read : Json → Except JsonError (Option DeviceRow)} {site : Json}
    (h : site.isObject = true) {key : String} {t t' : DeviceTable} :
    projectDevices read site key t = .ok t' ↔ ∃ rows,
      Json.readEach read (site.elementsAt key) = .ok rows ∧
        (t.upsertAll rows).retain (fun row => row.oid ∈ rows.map DeviceRow.oid) = t' := by
  rw [projectDevices, Json.valueJson_of_isObject h]
  change (do let (t, ids) ← projectEach read (site.elementsAt key) t; _) = _ ↔ _
  rw [projectEach_eq]
  cases Json.readEach read (site.elementsAt key) with
  | error e => simp [Except.map, bind, Except.bind]
  | ok rows => simp [Except.map, bind, Except.bind, pure, Except.pure]

/-- After the projection of some rows, each of them is there exactly when they
fit the table. -/
lemma holdsEach_project_iff {t : DeviceTable} {rows : List DeviceRow} :
    ((t.upsertAll rows).retain fun row => row.oid ∈ rows.map DeviceRow.oid).HoldsEach rows ↔
      t.Fits rows := by
  rw [← KeyedTable.Table.holdsEach_upsertAll_iff]
  refine and_congr_right fun _ => forall₂_congr fun row hrow => ?_
  have hkept : row.oid ∈ rows.map DeviceRow.oid := List.mem_map_of_mem hrow
  simp only [KeyedTable.Table.retain, List.mem_filter, hkept, decide_true, and_true]

/-! ### What can be read -/

/-- The oid a device has, under its legacy keys too. -/
def deviceOid (d : Json) : String := d.textOr "oid" (d.textOr "uuid" (d.textOr "id" ""))

/-- The row of a firewall. -/
def ngfwRow (d : Json) : DeviceRow :=
  { oid := deviceOid d, site := d.textOr "site" "", target := d.textOr "target" ""
    name := d.textOr "name" "", description := d.textOr "description" ""
    rest := [d.textOr "fingerprint" ""] }

/-- The health check of a tenant, an empty object where there is none. -/
def healthOf (d : Json) : Json := (d.find? "health").getD (.obj [])

/-- The row of a tenant. -/
def saseRow (dump : Json → String) (d : Json) : DeviceRow :=
  { oid := deviceOid d, site := d.textOr "site" "", target := d.textOr "target" ""
    name := d.textOr "name" "", description := d.textOr "description" ""
    rest := [(healthOf d).textOr "url" "", healthBody dump (healthOf d)] }

/-- A firewall whose members have the types that are read. -/
def NgfwReads (d : Json) : Prop :=
  ∀ key ∈ ["id", "uuid", "oid", "site", "target", "name", "description", "fingerprint"],
    d.stringOrAbsent key = true

/-- A tenant whose members have the types that are read: the health check is an
object, and its url a string. -/
def SaseReads (d : Json) : Prop :=
  (∀ key ∈ ["id", "uuid", "oid", "site", "target", "name", "description"],
    d.stringOrAbsent key = true) ∧
  (healthOf d).isObject = true ∧ (healthOf d).stringOrAbsent "url" = true

lemma readDeviceOid_eq_ok_iff {d : Json} (h : d.isObject = true) {oid : String} :
    readDeviceOid d = .ok oid ↔ (d.stringOrAbsent "id" = true ∧ d.stringOrAbsent "uuid" = true ∧
      d.stringOrAbsent "oid" = true) ∧ oid = deviceOid d := by
  rw [readDeviceOid, deviceOid]
  simp only [except_bind_eq_ok, Json.valueString_eq_ok_iff h, and_assoc, exists_and_left,
    exists_eq_left]

/-- **One firewall** with an oid. -/
lemma readNgfw_eq_ok_iff {d : Json} (h : d.isObject = true) (hoid : deviceOid d ≠ "")
    {r : Option DeviceRow} : readNgfw d = .ok r ↔ NgfwReads d ∧ some (ngfwRow d) = r := by
  rw [readNgfw, if_pos h, NgfwReads, ngfwRow]
  simp only [except_bind_eq_ok, readDeviceOid_eq_ok_iff h, Json.valueString_eq_ok_iff h,
    and_assoc, exists_and_left, exists_eq_left, if_neg hoid, List.forall_mem_cons,
    List.not_mem_nil, false_implies, implies_true, true_and, pure, Except.pure, Except.ok.injEq]

/-- **One tenant** with an oid. -/
lemma readSase_eq_ok_iff {dump : Json → String} {d : Json} (h : d.isObject = true)
    (hoid : deviceOid d ≠ "") {r : Option DeviceRow} :
    readSase dump d = .ok r ↔ SaseReads d ∧ some (saseRow dump d) = r := by
  have hurl : ∀ url, (healthOf d).valueString "url" "" = .ok url ↔
      ((healthOf d).isObject = true ∧ (healthOf d).stringOrAbsent "url" = true) ∧
        url = (healthOf d).textOr "url" "" := by
    intro url
    cases hobj : (healthOf d).isObject with
    | true => simp [Json.valueString_eq_ok_iff hobj]
    | false =>
        have herror : (healthOf d).valueString "url" "" = .error .notObject := by
          cases hd : healthOf d with
          | obj ms => rw [hd] at hobj; cases hobj
          | _ => rfl
        simp [herror]
  have hhealth : d.valueJson "health" (.obj []) = .ok (healthOf d) :=
    Json.valueJson_of_isObject h _ _
  rw [readSase, if_pos h, SaseReads, saseRow]
  simp only [except_bind_eq_ok, readDeviceOid_eq_ok_iff h, Json.valueString_eq_ok_iff h, hhealth,
    hurl, and_assoc, exists_and_left, exists_eq_left, exists_eq_left', if_neg hoid,
    List.forall_mem_cons, List.not_mem_nil, false_implies, implies_true, true_and, pure, Except.pure,
    Except.ok.injEq]

end Pretzel.Engined
