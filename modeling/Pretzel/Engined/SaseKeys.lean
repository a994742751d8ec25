import Pretzel.Config.LocalUsers
import Pretzel.Config.Store
import Pretzel.Engined.Inventory
import Pretzel.Ipc.Protocol

/-!
The sealed keys of `sase_device`, and their two writers: `storeSaseApiKey`
(`engined/service/apicredential/ApiCredentialService.cpp`), which stores one,
and the projection of a probe result (`ProbeService::projectInventory`), which
writes the columns of the configuration and deletes the rows it lacks.

* `SaseRow`, `SaseTable`: the table with its keys, and `keyOf`, the key of a
  device.
* `saseKeyUpdate`, `storeSaseApiKey`: what an update says, and what it leaves.
* `projectSase`: the second loop of the projection, each of whose statements is
  carried out or not. A JSON error leaves it with the rows written so far.
* `keyOf_storeKey`, `keyOf_projectSase`: the key of each device afterwards.
-/

namespace Pretzel.Engined

open Nlohmann Ipc Config

/-! ### The table -/

/-- A row of `sase_device`: the columns of the projection, and the sealed key. -/
structure SaseRow where
  device : DeviceRow
  apiKeyEnc : Option String := none
deriving DecidableEq

/-- The primary key. -/
def SaseRow.oid (r : SaseRow) : String := r.device.oid

/-- The target as the unique index takes it. -/
def SaseRow.uniqueTarget (r : SaseRow) : Option String := r.device.uniqueTarget

/-- `sase_device`. -/
abbrev SaseTable := KeyedTable.Table SaseRow.oid SaseRow.uniqueTarget

namespace SaseTable

variable (t : SaseTable)

/-- The row of a device. -/
def row? (oid : String) : Option SaseRow := t.rows.find? fun r => r.oid = oid

/-- The sealed key of a device. -/
def keyOf (oid : String) : Option String := (t.row? oid).bind SaseRow.apiKeyEnc

/-- The columns of a device, none of them set where it has no row. -/
def deviceOf (oid : String) : DeviceRow :=
  ((t.row? oid).map SaseRow.device).getD
    { oid, site := "", target := "", name := "", description := "", rest := ["", ""] }

/-- `INSERT INTO sase_device (oid, api_key_enc) … ON CONFLICT (oid) DO UPDATE`. -/
def storeKey (oid keyEnc : String) : SaseTable :=
  t.upsert { device := t.deviceOf oid, apiKeyEnc := some keyEnc }

/-- `INSERT INTO sase_device … ON CONFLICT (oid) DO UPDATE`, which leaves the key
as it is. -/
def project (device : DeviceRow) : SaseTable :=
  t.upsert { device, apiKeyEnc := t.keyOf device.oid }

end SaseTable

/-! ### An update of a key -/

/-- What `storeSaseApiKey` stores, if anything: the oid and the sealed key. -/
def saseKeyUpdate (payload : Payload) : Except JsonError (Option (String × String)) :=
  match payload with
  | .json root => do
      let oid ← root.valueString "oid" ""
      let keyEnc ← root.valueString "api_key_enc" ""
      if oid = "" || keyEnc = "" then return none else return some (cStr oid, cStr keyEnc)
  | .empty | .malformed => .ok none

/-- `ApiCredentialService::storeSaseApiKey`, of a statement that is carried out or
not. -/
def storeSaseApiKey (wrote : Bool) (payload : Payload) (t : SaseTable) :
    Except JsonError SaseTable := do
  match ← saseKeyUpdate payload with
  | none => return t
  | some (oid, keyEnc) => return if wrote then t.storeKey oid keyEnc else t

/-! ### The projection -/

/-- What a projection meets: whether each upsert and the `DELETE` are carried
out. -/
structure ProjectIO where
  upserted : ℕ → Bool
  deleted : Bool

/-- The columns as `PQexecParams` takes them. -/
def DeviceRow.cut (r : DeviceRow) : DeviceRow :=
  { oid := cStr r.oid, site := cStr r.site, target := cStr r.target, name := cStr r.name
    description := cStr r.description, rest := r.rest.map cStr }

/-- The loop over `sase_devices`: the table it leaves, and the oids it has seen. -/
def projectSaseEach (dump : Json → String) (upserted : ℕ → Bool) : ℕ → List Json → SaseTable →
    SaseTable × Except JsonError (List String)
  | _, [], t => (t, .ok [])
  | i, d :: ds, t =>
      match readSase dump d with
      | .error e => (t, .error e)
      | .ok none => projectSaseEach dump upserted (i + 1) ds t
      | .ok (some row) =>
          let (t, ids) :=
            projectSaseEach dump upserted (i + 1) ds (if upserted i then t.project row.cut else t)
          (t, ids.map (row.oid :: ·))

/-- The `DELETE` of a list of oids is carried out: its parameter is a document that
`jsonb` takes, in which no text has a NUL. -/
def deletes (io : ProjectIO) (ids : List String) : Bool :=
  io.deleted && ids.all fun oid => '\x00' ∉ oid.toList

/-- The second half of `projectInventory`. -/
def projectSase (dump : Json → String) (io : ProjectIO) (site : Json) (t : SaseTable) :
    SaseTable × Except JsonError Unit :=
  match projectSaseEach dump io.upserted 0 (site.elementsAt "sase_devices") t with
  | (t, .error e) => (t, .error e)
  | (t, .ok ids) => (if deletes io ids then t.retain fun r => r.oid ∈ ids else t, .ok ())

/-- The tenants a site section declares. -/
def declaredSase (site : Json) : List String :=
  (((site.elementsAt "sase_devices").filter Json.isObject).map deviceOid).filter (· ≠ "")

/-- The projection reads every tenant, and its `DELETE` is carried out. -/
def sweeps (dump : Json → String) (io : ProjectIO) (site : Json) : Bool :=
  (Json.readEach (readSase dump) (site.elementsAt "sase_devices")).isOk &&
    deletes io (declaredSase site)

/-! ### The keys they leave -/

section Keys

variable {t : SaseTable} {oid : String}

lemma row?_eq_some {r : SaseRow} : t.row? oid = some r ↔ r ∈ t.rows ∧ r.oid = oid :=
  KeyedTable.Table.find?_eq_some

lemma keyOf_eq_some {key : String} :
    t.keyOf oid = some key ↔ ∃ r ∈ t.rows, r.oid = oid ∧ r.apiKeyEnc = some key := by
  rw [SaseTable.keyOf, Option.bind_eq_some_iff]
  simp only [row?_eq_some, and_assoc]

lemma deviceOf_oid : (t.deviceOf oid).oid = oid := by
  rw [SaseTable.deviceOf]
  cases h : t.row? oid with
  | none => rfl
  | some r => exact (row?_eq_some.mp h).2

/-- A key is stored in the row of its device, whatever target that has. -/
lemma held_storeKey {keyEnc : String} : KeyedTable.held SaseRow.oid SaseRow.uniqueTarget t.rows
    { device := t.deviceOf oid, apiKeyEnc := some keyEnc } = false := by
  rw [KeyedTable.held_eq_false]
  intro q hq hsome heq
  have hkey : SaseRow.oid { device := t.deviceOf oid, apiKeyEnc := some keyEnc } = oid :=
    deviceOf_oid
  rw [hkey]
  cases h : t.row? oid with
  | none =>
      rw [SaseRow.uniqueTarget, SaseTable.deviceOf, h] at hsome
      exact absurd rfl hsome
  | some r =>
      obtain ⟨hr, hoid⟩ := row?_eq_some.mp h
      have hdevice : t.deviceOf oid = r.device := by rw [SaseTable.deviceOf, h]; rfl
      rw [SaseRow.uniqueTarget, SaseRow.uniqueTarget, hdevice] at heq
      rw [SaseRow.uniqueTarget, hdevice] at hsome
      rw [t.attrs q hq r hr hsome heq, hoid]

/-- **The keys after a key is stored.** -/
lemma keyOf_storeKey {other keyEnc : String} :
    (t.storeKey other keyEnc).keyOf oid = if oid = other then some keyEnc else t.keyOf oid := by
  have hkey : SaseRow.oid { device := t.deviceOf other, apiKeyEnc := some keyEnc } = other :=
    deviceOf_oid
  split
  · next heq =>
      subst heq
      rw [keyOf_eq_some]
      exact ⟨_, (KeyedTable.Table.mem_upsert held_storeKey).mpr (.inl rfl), hkey, rfl⟩
  · next hne =>
      refine Option.ext fun key => ?_
      rw [keyOf_eq_some, keyOf_eq_some]
      refine exists_congr fun r => and_congr_left fun hr => ?_
      refine KeyedTable.Table.mem_upsert_of_ne ?_
      rw [hkey, hr.1]
      exact hne

/-- **A projected row leaves every key as it is.** -/
lemma keyOf_project {device : DeviceRow} : (t.project device).keyOf oid = t.keyOf oid := by
  cases hheld : KeyedTable.held SaseRow.oid SaseRow.uniqueTarget t.rows
      { device, apiKeyEnc := t.keyOf device.oid } with
  | true => rw [SaseTable.project, KeyedTable.Table.upsert_of_held hheld]
  | false =>
      refine Option.ext fun key => ?_
      by_cases heq : oid = device.oid
      · subst heq
        have hput := (KeyedTable.Table.mem_upsert hheld).mpr (.inl rfl)
        constructor
        · intro h
          obtain ⟨r, hr, hoid, hkey⟩ := keyOf_eq_some.mp h
          rcases (KeyedTable.Table.mem_upsert hheld).mp hr with rfl | ⟨-, hne⟩
          · exact hkey
          · exact absurd hoid hne
        · exact fun h => keyOf_eq_some.mpr ⟨_, hput, rfl, h⟩
      · rw [keyOf_eq_some, keyOf_eq_some]
        refine exists_congr fun r => and_congr_left fun hr => ?_
        refine KeyedTable.Table.mem_upsert_of_ne ?_
        rw [hr.1]
        exact heq

lemma keyOf_retain {ids : List String} :
    SaseTable.keyOf (t.retain fun r => r.oid ∈ ids) oid = if oid ∈ ids then t.keyOf oid else none := by
  refine Option.ext fun key => ?_
  rw [keyOf_eq_some]
  simp only [KeyedTable.Table.retain, List.mem_filter, decide_eq_true_eq]
  split
  · next hmem =>
      rw [keyOf_eq_some]
      refine exists_congr fun r => ?_
      constructor
      · rintro ⟨⟨hr, -⟩, hrest⟩
        exact ⟨hr, hrest⟩
      · rintro ⟨hr, rfl, hkey⟩
        exact ⟨⟨hr, hmem⟩, rfl, hkey⟩
  · next hmem =>
      constructor
      · rintro ⟨r, ⟨-, hin⟩, rfl, -⟩
        exact absurd hin hmem
      · exact fun h => absurd h (Option.some_ne_none key).symm

/-- The oid of a tenant that is read. -/
lemma readSase_oid {dump : Json → String} {d : Json} {r : Option DeviceRow}
    (hobj : d.isObject = true) (h : readSase dump d = .ok r) :
    r.map DeviceRow.oid = if deviceOid d = "" then none else some (deviceOid d) := by
  rw [readSase, if_pos hobj, except_bind_eq_ok] at h
  obtain ⟨oid, hoid, h⟩ := h
  obtain ⟨-, rfl⟩ := (readDeviceOid_eq_ok_iff hobj).mp hoid
  split at h
  · next hnone =>
      cases h
      rw [if_pos hnone]
      rfl
  · next hsome =>
      simp only [except_bind_eq_ok] at h
      obtain ⟨_, -, _, -, _, -, _, -, _, -, _, -, h⟩ := h
      cases h
      rw [if_neg hsome]
      rfl

/-- The tenants that are read are the ones declared. -/
lemma oids_of_readEach {dump : Json → String} {ds : List Json} {rows : List DeviceRow}
    (h : Json.readEach (readSase dump) ds = .ok rows) :
    rows.map DeviceRow.oid = ((ds.filter Json.isObject).map deviceOid).filter (· ≠ "") := by
  induction ds generalizing rows with
  | nil =>
      cases h
      rfl
  | cons d ds ih =>
      rw [Json.readEach, except_bind_eq_ok] at h
      obtain ⟨r, hr, h⟩ := h
      obtain ⟨rest, hrest, h⟩ := except_bind_eq_ok.mp h
      cases h
      rw [List.map_append, ih hrest]
      cases hobj : d.isObject with
      | false =>
          rw [readSase, if_neg (by rw [hobj]; exact Bool.false_ne_true)] at hr
          cases hr
          rw [List.filter_cons_of_neg (by rw [hobj]; exact Bool.false_ne_true)]
          rfl
      | true =>
          have hoid := readSase_oid hobj hr
          rw [List.filter_cons_of_pos hobj, List.map_cons]
          by_cases hnone : deviceOid d = ""
          · rw [if_pos hnone, Option.map_eq_none_iff] at hoid
            rw [hoid, List.filter_cons_of_neg (by simpa using hnone)]
            rfl
          · rw [if_neg hnone] at hoid
            obtain ⟨row, rfl, hrow⟩ := Option.map_eq_some_iff.mp hoid
            rw [List.filter_cons_of_pos (by simpa using hnone), ← hrow]
            rfl

/-- The oids the loop has seen do not depend on the table. -/
lemma projectSaseEach_snd {dump : Json → String} {upserted : ℕ → Bool} (ds : List Json) (i : ℕ)
    (t : SaseTable) : (projectSaseEach dump upserted i ds t).2 =
      (Json.readEach (readSase dump) ds).map fun rows => rows.map DeviceRow.oid := by
  induction ds generalizing i t with
  | nil => rfl
  | cons d ds ih =>
      rw [projectSaseEach, Json.readEach]
      cases readSase dump d with
      | error e => rfl
      | ok r =>
          cases r with
          | none =>
              dsimp only
              rw [ih]
              cases Json.readEach (readSase dump) ds <;> rfl
          | some row =>
              dsimp only
              rw [ih]
              cases Json.readEach (readSase dump) ds <;> rfl

/-- The loop leaves every key as it is. -/
lemma keyOf_projectSaseEach {dump : Json → String} {upserted : ℕ → Bool} (ds : List Json) (i : ℕ)
    (t : SaseTable) (oid : String) :
    (projectSaseEach dump upserted i ds t).1.keyOf oid = t.keyOf oid := by
  induction ds generalizing i t with
  | nil => rfl
  | cons d ds ih =>
      rw [projectSaseEach]
      split
      · rfl
      · exact ih (i + 1) t
      · next row _ =>
          dsimp only
          rw [ih]
          split
          · exact keyOf_project
          · rfl

/-- **The keys after a projection**: its `DELETE` takes those of the tenants the
configuration does not declare. -/
lemma keyOf_projectSase {dump : Json → String} {io : ProjectIO} {site : Json} (oid : String) :
    (projectSase dump io site t).1.keyOf oid =
      if sweeps dump io site = true ∧ oid ∉ declaredSase site then none else t.keyOf oid := by
  have hids := @projectSaseEach_snd dump io.upserted
    (site.elementsAt "sase_devices") 0 t
  have hkeys := @keyOf_projectSaseEach dump io.upserted
    (site.elementsAt "sase_devices") 0 t oid
  rw [projectSase, sweeps]
  cases hread : Json.readEach (readSase dump) (site.elementsAt "sase_devices") with
  | error e =>
      rw [hread] at hids
      split
      · next t' e' hloop =>
          rw [hloop] at hkeys
          rw [if_neg (by simp [Except.isOk, Except.toBool])]
          exact hkeys
      · next t' ids hloop =>
          rw [hloop] at hids
          cases hids
  | ok rows =>
      rw [hread] at hids
      split
      · next t' e' hloop =>
          rw [hloop] at hids
          cases hids
      · next t' ids hloop =>
          rw [hloop] at hids hkeys
          have hsame : ids = declaredSase site := by
            rw [declaredSase, ← oids_of_readEach hread]
            exact Except.ok.inj hids
          subst hsame
          dsimp only
          split
          · next hdeleted =>
              rw [keyOf_retain, hkeys]
              simp [hdeleted, Except.isOk, Except.toBool]
          · next hdeleted =>
              rw [hkeys, if_neg (by simp [hdeleted])]

end Keys

end Pretzel.Engined
