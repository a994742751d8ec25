import Mathlib.Data.List.AList
import Pretzel.Engined.CollectionService
import Pretzel.Library.JsonAccess
import Pretzel.Mgmtd.ChatController

/-!
The overview of what the connectors collect (`CollectionController::overview`): the streams
the configuration declares, joined to the samples of `api_collection`.

* `readEntry`: what is read of an entry with an oid, a site, a device, an endpoint or a
  credential.
* `latestRows`, `windowOf`, `sparkOf`: the three queries.
* `connectorStreams`: the streams of one connector, in the scope of a site. `readCensus`: its
  part in the census of the sites.
* `overview`: the handler.
* `EntryReads`, `StreamsRead`, `CensusReads`: the members each of them is read for.
-/

namespace Pretzel.Mgmtd

open Nlohmann Ipc Texts Engined

namespace CollectionController

/-- `kDefaultWindowHours`. -/
def kDefaultWindowHours : ℤ := 24

/-- `kMaxWindowHours`. -/
def kMaxWindowHours : ℤ := 24 * 14

/-- `kSparkPoints`. -/
def kSparkPoints : ℕ := 30

/-- `intParam`. -/
def intParam (target : Bytes) (key : String) (fallback lo hi : ℤ) : ℤ :=
  match stoi ((queryParam target key).map fun c => Char.ofNat c.toNat) with
  | none => fallback
  | some n => max lo (min n hi)

/-- `streamKey`. -/
def streamKey (connector endpoint : String) : String := connector ++ "\x1f" ++ endpoint

/-! ### The declaration -/

/-- What is read of an entry with an oid, by that; none of one that is passed over. -/
def readEntry {α : Type} (read : Json → Except JsonError α) (e : Json) :
    Except JsonError (Option (String × α)) :=
  if e.isObject = false then .ok none
  else do
    let oid ← e.valueString "oid" ""
    if oid = "" then return none
    else return some (oid, ← read e)

/-- The name of an entry. -/
def readName (e : Json) : Except JsonError String := e.valueString "name" ""

/-- `Device`. -/
structure Device where
  name : String
  target : String
  site : String
  type : String
deriving DecidableEq

/-- What is read of a device of a type. -/
def readDevice (type : String) (d : Json) : Except JsonError Device := do
  let name ← d.valueString "name" ""
  let target ← d.valueString "target" ""
  let site ← d.valueString "site" ""
  return { name, target, site, type }

/-- The entries under a key, by their oids. -/
def readEntries {α : Type} (read : Json → Except JsonError α) (j : Json) (key : String) :
    Except JsonError (List (String × α)) := do
  let entries ← j.valueJson key (.arr [])
  Json.readEach (readEntry read) entries.elements

/-- The entry of an oid: of several the last. -/
def entryOf {α : Type} (entries : List (String × α)) (oid : String) : Option α :=
  (entries.reverse.find? fun e => e.1 = oid).map Prod.snd

/-- What the configuration declares beside the connectors. -/
structure Declaration where
  sites : List (String × String)
  devices : List (String × Device)
  endpoints : List (String × Json)
  credentials : List (String × String)

/-- The declaration, of the sections `site` and `connector`. -/
def readDeclaration (site api : Json) : Except JsonError Declaration := do
  let sites ← readEntries readName site "sites"
  let ngfw ← readEntries (readDevice "ngfw") site "ngfw_devices"
  let sase ← readEntries (readDevice "sase") site "sase_devices"
  let endpoints ← readEntries .ok api "endpoints"
  let credentials ← readEntries readName api "api_credentials"
  return { sites, devices := ngfw ++ sase, endpoints, credentials }

/-! ### The samples -/

/-- A row of `api_collection`, with its oid. -/
abbrev CollectionRow := ℕ × CollectionSample

/-- The stream of a row. -/
def rowPair (r : CollectionRow) : String × String := (r.2.connectorOid, r.2.endpointOid)

/-- The newest of some rows. -/
def newest : List CollectionRow → Option CollectionRow
  | [] => none
  | r :: rest =>
      match newest rest with
      | none => some r
      | some q => if q.2.collectedAt < r.2.collectedAt then some r else some q

/-- `SELECT DISTINCT ON (connector_oid, endpoint_oid) … ORDER BY …, collected_at DESC`: the
newest row of each stream. -/
def latestRows (rows : List CollectionRow) : List CollectionRow :=
  (rows.map rowPair).dedup.filterMap fun p => newest (rows.filter fun r => rowPair r = p)

/-- `last`: the newest rows, by the keys of their streams. -/
def lastOf (rows : List CollectionRow) : AList fun _ : String => CollectionRow :=
  (latestRows rows).foldl (fun m r => m.insert (streamKey r.2.connectorOid r.2.endpointOid) r) ∅

/-- The rows of a key since a moment. -/
def rowsSince (rows : List CollectionRow) (since : ℤ) (key : String) : List CollectionSample :=
  (rows.map Prod.snd).filter fun r =>
    streamKey r.connectorOid r.endpointOid = key && since < r.collectedAt

/-- `Window`: the aggregates of a stream. -/
structure Window where
  total : ℕ
  ok : ℕ
  p50 : Option ℤ
  max : Option ℤ
  avgBytes : Option ℤ
  first : Option ℤ
  lastAt : Option ℤ
deriving DecidableEq

/-- `round(avg(…))`: halves go away from zero. -/
def roundedAvg (ns : List ℤ) : Option ℤ :=
  if ns = [] then none
  else some (ns.sum.sign * ((2 * ns.sum.natAbs + ns.length) / (2 * ns.length) : ℕ))

/-- The aggregates of the rows of a stream, none where there are no rows. -/
def windowOf (rows : List CollectionSample) : Option Window :=
  if rows = [] then none
  else
    let latencies := (rows.filterMap CollectionSample.latencyMs).mergeSort
    some {
      total := rows.length
      ok := rows.countP CollectionSample.ok
      p50 := latencies[(latencies.length + 1) / 2 - 1]?
      max := latencies.getLast?
      avgBytes := roundedAvg (rows.filterMap CollectionSample.bytes)
      first := (rows.map CollectionSample.collectedAt).mergeSort.head?
      lastAt := (rows.map CollectionSample.collectedAt).mergeSort.getLast? }

/-- The newest points of a stream, the oldest first. -/
def sparkOf (rows : List CollectionSample) : List CollectionSample :=
  let sorted := rows.mergeSort fun a b => a.collectedAt ≤ b.collectedAt
  sorted.drop (sorted.length - kSparkPoints)

/-! ### The join -/

/-- One parameter behind a path. -/
def addParam (qs : String) (p : Json) : Except JsonError String :=
  if p.isObject = false then .ok qs
  else do
    let name ← p.valueString "name" ""
    if name = "" then return qs
    else
      let value ← p.valueString "value" ""
      return qs ++ (if qs = "" then "?" else "&") ++ name ++ "=" ++ value

/-- What stands behind the path of an endpoint. -/
def queryOf (ep : Json) : Except JsonError String := do
  let params ← ep.valueJson "params" (.arr [])
  if !params.isArray || params.isEmpty then return ""
  else params.elements.foldlM addParam ""

/-- The host of an endpoint, which a SASE one has. -/
def hostOf (type : String) (ep : Json) : Except JsonError String :=
  if type = "sase" then ep.valueString "host" "" else .ok ""

/-- `endpointDisplayPath`. -/
def endpointDisplayPath (ep : Json) : Except JsonError String := do
  let path ← ep.valueString "path" ""
  let type ← ep.valueString "device_type" "ngfw"
  let host ← hostOf type ep
  let qs ← queryOf ep
  return (if host = "" then path else "https://" ++ host ++ path) ++ qs

/-- The kind of an endpoint under its older name. -/
def olderKind (type : String) (ep : Json) : Except JsonError String :=
  if type = "sase" then ep.valueString "product" "ztna" else ep.valueString "api_type" ""

/-- `endpointKind`. -/
def endpointKind (ep : Json) : Except JsonError String := do
  let type ← ep.valueString "device_type" "ngfw"
  let fallback ← olderKind type ep
  ep.valueString "subtype" fallback

/-- A row of the streams. The type of the endpoint is read too, and then that of the device
is shown. -/
structure Stream where
  key : String
  connectorOid : String
  connectorName : String
  endpointOid : String
  endpointName : String
  endpointPath : String
  apiType : String
  deviceOid : String
  device : Option Device
  siteName : String
  credentialOid : String
  credentialName : String
  intervalSec : ℤ
  enabled : Bool
  configError : Option String
  last : Option CollectionRow
  window : Option Window
  spark : List CollectionSample

/-- What is shown of an endpoint, nothing where it is gone. -/
def endpointColumns (ep : Option Json) : Except JsonError (String × String × String) :=
  match ep with
  | none => .ok ("", "", "")
  | some ep => do
      let name ← ep.valueString "name" ""
      let path ← endpointDisplayPath ep
      let kind ← endpointKind ep
      let _ ← ep.valueString "device_type" "ngfw"
      return (name, path, kind)

section Streams

variable (d : Declaration) (rows : List CollectionRow) (since : ℤ)

/-- The stream of one item of a connector. -/
def itemStream (c : Json) (connectorOid deviceOid credOid : String) (configError : Option String)
    (i : Json) : Except JsonError (Option Stream) :=
  if i.isObject = false then .ok none
  else do
    let endpointOid ← i.valueString "endpoint" ""
    if endpointOid = "" then return none
    else
      let ep := entryOf d.endpoints endpointOid
      let key := streamKey connectorOid endpointOid
      let connectorName ← c.valueString "name" ""
      let (endpointName, endpointPath, apiType) ← endpointColumns ep
      let intervalSec ← i.valueInt32 "poll_interval_sec" 60
      let enabled ← i.valueBool "enabled" true
      let device := entryOf d.devices deviceOid
      return some {
        key, connectorOid, connectorName, endpointOid, endpointName, endpointPath, apiType
        deviceOid, device
        siteName := (device.bind fun dev => entryOf d.sites dev.site).getD ""
        credentialOid := credOid
        credentialName := (entryOf d.credentials credOid).getD ""
        intervalSec, enabled
        configError :=
          if ep.isNone then some "the endpoint this item points at no longer exists"
          else configError
        last := (lastOf rows).lookup key
        window := windowOf (rowsSince rows since key)
        spark := sparkOf (rowsSince rows since key) }

/-- The oid of a connector, under its older name where it has no other. -/
def readConnectorOid (c : Json) : Except JsonError String := do
  let uuid ← c.valueString "uuid" ""
  c.valueString "oid" uuid

/-- Why a connector does not run. -/
def configErrorOf (c : Json) (credOid : String) (dev : Option Device) : Option String :=
  if c.contains "endpoint" || c.contains "params" then
    some "connector still has the pre-policy single-endpoint shape — rebuild it"
  else if credOid = "" then some "no API credential bound — collectord will not run this connector"
  else if dev.isNone then some "bound device no longer exists"
  else none

/-- The streams of one connector, in the scope of a site. -/
def connectorStreams (siteOid : Bytes) (c : Json) : Except JsonError (List Stream) :=
  if c.isObject = false then .ok []
  else do
    let connectorOid ← readConnectorOid c
    if connectorOid = "" then return []
    else
      let deviceOid ← c.valueString "object" ""
      let credOid ← c.valueString "auth_profile" ""
      let dev := entryOf d.devices deviceOid
      if siteOid ≠ [] && dev.all (fun dev => textBytes dev.site ≠ siteOid) then return []
      else
        let items ← c.valueJson "items" (.arr [])
        Json.readEach (itemStream d rows since c connectorOid deviceOid credOid
          (configErrorOf c credOid dev)) items.elements

end Streams

/-! ### The census -/

/-- A connector in the census: its device, and its endpoints. -/
structure CensusRow where
  deviceOid : String
  device : Device
  endpoints : List String

/-- The endpoint of an item, if it has one. -/
def readItemEndpoint (i : Json) : Except JsonError (Option String) :=
  if i.isObject = false then .ok none
  else do
    let endpointOid ← i.valueString "endpoint" ""
    return if endpointOid = "" then none else some endpointOid

/-- What the census takes of a connector. -/
def readCensus (d : Declaration) (c : Json) : Except JsonError (Option CensusRow) :=
  if c.isObject = false then .ok none
  else do
    let connectorOid ← readConnectorOid c
    let deviceOid ← c.valueString "object" ""
    match entryOf d.devices deviceOid with
    | none => return none
    | some device =>
        if connectorOid = "" then return none
        else
          let items ← c.valueJson "items" (.arr [])
          let endpoints ← Json.readEach readItemEndpoint items.elements
          return some { deviceOid, device, endpoints }

/-- A row of the sites. -/
structure SiteRow where
  oid : String
  name : String
  ngfw : ℕ
  sase : ℕ
  devices : ℕ
  endpoints : ℕ
deriving DecidableEq

/-- A site with its part in the census. -/
def siteRow (census : List CensusRow) (site : String × String) : SiteRow :=
  let here := census.filter fun c => c.device.site = site.1
  let ngfw := ((here.filter fun c => c.device.type ≠ "sase").map CensusRow.deviceOid).dedup.length
  let sase := ((here.filter fun c => c.device.type = "sase").map CensusRow.deviceOid).dedup.length
  { oid := site.1, name := site.2, ngfw, sase, devices := ngfw + sase
    endpoints := (here.flatMap CensusRow.endpoints).dedup.length }

/-! ### The handler -/

/-- What the overview shows. -/
structure Overview where
  windowHours : ℤ
  site : Bytes
  sites : List SiteRow
  streams : List Stream
  orphanStreams : ℕ

/-- What the handler ends in: an overview, an error, or an exception of `dump`. -/
inductive OverviewAnswer where
  | shown (overview : Overview)
  | unavailable
  | threw

section Overview

variable (site api : Json) (rows : List CollectionRow) (now : ℤ) (target : Bytes)

/-- The connectors whose streams are listed: none where no site was chosen. -/
def listedConnectors (siteOid : Bytes) : Except JsonError Json :=
  if siteOid = [] then .ok (.arr []) else api.valueJson "connectors" (.arr [])

/-- What `overview` composes of the configuration and the samples. -/
def composeOverview : Except JsonError Overview := do
  let windowHours := intParam target "window" kDefaultWindowHours 1 kMaxWindowHours
  let siteOid := queryParam target "site"
  let d ← readDeclaration site api
  let connectors ← listedConnectors api siteOid
  let streams ← collect (connectorStreams d rows (now - windowHours * 3600) siteOid)
    connectors.elements
  let connectors ← api.valueJson "connectors" (.arr [])
  let census ← Json.readEach (readCensus d) connectors.elements
  return {
    windowHours, site := siteOid, sites := d.sites.map (siteRow census), streams
    orphanStreams := ((lastOf rows).keys.filter fun key => key ∉ streams.map Stream.key).length }

/-- `CollectionController::overview`. -/
def overview : OverviewAnswer :=
  match composeOverview site api rows now target with
  | .error _ => .unavailable
  | .ok out => if isUtf8 out.site then .shown out else .threw

end Overview

/-! ### What is read -/

variable {α : Type} {e c i ep : Json} {d : Declaration} {rows : List CollectionRow} {since : ℤ}

/-- The entry is read for its oid, and for the rest where it has one. -/
def EntryReads (reads : Json → Prop) (e : Json) : Prop :=
  e.isObject = true → e.stringOrAbsent "oid" = true ∧ (e.textOr "oid" "" ≠ "" → reads e)

/-- The texts a device is read for. -/
def DeviceReads (d : Json) : Prop :=
  d.stringOrAbsent "name" = true ∧ d.stringOrAbsent "target" = true ∧ d.stringOrAbsent "site" = true

/-- What an entry is, by its members. -/
def entryAt (value : Json → α) (e : Json) : Option (String × α) :=
  if e.isObject = false ∨ e.textOr "oid" "" = "" then none else some (e.textOr "oid" "", value e)

/-- A device, by its members. -/
def deviceAt (type : String) (d : Json) : Device :=
  { name := d.textOr "name" "", target := d.textOr "target" "", site := d.textOr "site" "", type }

/-- **An entry that is read.** -/
lemma readEntry_eq_ok_iff {read : Json → Except JsonError α} {reads : Json → Prop}
    {value : Json → α}
    (h : ∀ e, e.isObject = true → ∀ a, read e = .ok a ↔ reads e ∧ a = value e) (e : Json)
    (r : Option (String × α)) :
    readEntry read e = .ok r ↔ EntryReads reads e ∧ r = entryAt value e := by
  rw [readEntry, EntryReads, entryAt]
  cases hobject : e.isObject with
  | false =>
      rw [if_pos rfl, if_pos (.inl rfl), Except.ok.injEq]
      exact ⟨fun hr => ⟨fun hno => (Bool.false_ne_true hno).elim, hr.symm⟩, fun hr => hr.2.symm⟩
  | true =>
      simp only [Bool.true_eq_false, if_false, false_or, true_implies]
      rw [Json.bind_text_eq_ok_iff hobject, and_assoc]
      refine and_congr_right fun _ => ?_
      by_cases hoid : e.textOr "oid" "" = ""
      · rw [if_pos hoid, if_pos hoid]
        change Except.ok none = Except.ok r ↔ _
        rw [Except.ok.injEq]
        exact ⟨fun hr => ⟨fun hsome => absurd hoid hsome, hr.symm⟩, fun hr => hr.2.symm⟩
      · rw [if_neg hoid, if_neg hoid, except_bind_eq_ok]
        constructor
        · rintro ⟨a, ha, hrest⟩
          cases hrest
          obtain ⟨hreads, rfl⟩ := (h e hobject a).mp ha
          exact ⟨fun _ => hreads, rfl⟩
        · rintro ⟨hreads, rfl⟩
          exact ⟨_, (h e hobject _).mpr ⟨hreads hoid, rfl⟩, rfl⟩

/-- **The entries under a key that are read.** -/
lemma readEntries_eq_ok_iff {read : Json → Except JsonError α} {reads : Json → Prop}
    {value : Json → α} (h : ∀ e, e.isObject = true → ∀ a, read e = .ok a ↔ reads e ∧ a = value e)
    {j : Json} (hj : j.isObject = true) {key : String} {rs : List (String × α)} :
    readEntries read j key = .ok rs ↔
      (∀ e ∈ j.elementsAt key, EntryReads reads e) ∧
        rs = (j.elementsAt key).filterMap (entryAt value) := by
  rw [readEntries, Json.valueJson_of_isObject hj]
  exact Json.readEach_eq_ok_iff (readEntry_eq_ok_iff h)

lemma readDevice_eq_ok_iff (type : String) (d : Json) (hd : d.isObject = true) (a : Device) :
    readDevice type d = .ok a ↔ DeviceReads d ∧ a = deviceAt type d := by
  rw [readDevice, Json.bind_text_eq_ok_iff hd, Json.bind_text_eq_ok_iff hd, Json.bind_text_eq_ok_iff hd,
    DeviceReads, and_assoc, and_assoc]
  change _ ∧ _ ∧ _ ∧ Except.ok (deviceAt type d) = _ ↔ _
  rw [Except.ok.injEq, eq_comm (a := a)]

/-! ### The declaration that is read -/

/-- The devices of a site, of both types. -/
def deviceEntries (site : Json) : List (String × Device) :=
  (site.elementsAt "ngfw_devices").filterMap (entryAt (deviceAt "ngfw")) ++
    (site.elementsAt "sase_devices").filterMap (entryAt (deviceAt "sase"))

/-- The declaration of the sections, by their members. -/
def declarationAt (site api : Json) : Declaration where
  sites := (site.elementsAt "sites").filterMap (entryAt fun s => s.textOr "name" "")
  devices := deviceEntries site
  endpoints := (api.elementsAt "endpoints").filterMap (entryAt id)
  credentials := (api.elementsAt "api_credentials").filterMap (entryAt fun k => k.textOr "name" "")

/-- The members the declaration is read for. -/
structure DeclarationReads (site api : Json) : Prop where
  sites : ∀ s ∈ site.elementsAt "sites", EntryReads (fun s => s.stringOrAbsent "name" = true) s
  ngfw : ∀ d ∈ site.elementsAt "ngfw_devices", EntryReads DeviceReads d
  sase : ∀ d ∈ site.elementsAt "sase_devices", EntryReads DeviceReads d
  endpoints : ∀ e ∈ api.elementsAt "endpoints", EntryReads (fun _ => True) e
  credentials : ∀ k ∈ api.elementsAt "api_credentials",
    EntryReads (fun k => k.stringOrAbsent "name" = true) k

lemma readDeclaration_eq_ok_iff {site api : Json} (hsite : site.isObject = true)
    (hapi : api.isObject = true) :
    readDeclaration site api = .ok d ↔ DeclarationReads site api ∧ d = declarationAt site api := by
  have hname : ∀ e : Json, e.isObject = true → ∀ a, readName e = .ok a ↔
      e.stringOrAbsent "name" = true ∧ a = e.textOr "name" "" := fun e he a =>
    Json.valueString_eq_ok_iff he
  have hwhole : ∀ e : Json, e.isObject = true → ∀ a, (.ok e : Except JsonError Json) = .ok a ↔
      True ∧ a = id e := by
    intro e _ a
    rw [Except.ok.injEq, true_and, eq_comm, id]
  rw [readDeclaration]
  constructor
  · intro h
    obtain ⟨sites, hsites, h⟩ := except_bind_eq_ok.mp h
    obtain ⟨ngfw, hngfw, h⟩ := except_bind_eq_ok.mp h
    obtain ⟨sase, hsase, h⟩ := except_bind_eq_ok.mp h
    obtain ⟨endpoints, hendpoints, h⟩ := except_bind_eq_ok.mp h
    obtain ⟨credentials, hcredentials, h⟩ := except_bind_eq_ok.mp h
    cases h
    obtain ⟨readsSites, rfl⟩ := (readEntries_eq_ok_iff hname hsite).mp hsites
    obtain ⟨readsNgfw, rfl⟩ := (readEntries_eq_ok_iff (readDevice_eq_ok_iff "ngfw") hsite).mp hngfw
    obtain ⟨readsSase, rfl⟩ := (readEntries_eq_ok_iff (readDevice_eq_ok_iff "sase") hsite).mp hsase
    obtain ⟨readsEndpoints, rfl⟩ := (readEntries_eq_ok_iff hwhole hapi).mp hendpoints
    obtain ⟨readsCredentials, rfl⟩ := (readEntries_eq_ok_iff hname hapi).mp hcredentials
    exact ⟨⟨readsSites, readsNgfw, readsSase, readsEndpoints, readsCredentials⟩, rfl⟩
  · rintro ⟨h, rfl⟩
    refine except_bind_eq_ok.mpr ⟨_, (readEntries_eq_ok_iff hname hsite).mpr ⟨h.sites, rfl⟩, ?_⟩
    refine except_bind_eq_ok.mpr ⟨_, (readEntries_eq_ok_iff (readDevice_eq_ok_iff "ngfw") hsite).mpr
      ⟨h.ngfw, rfl⟩, ?_⟩
    refine except_bind_eq_ok.mpr ⟨_, (readEntries_eq_ok_iff (readDevice_eq_ok_iff "sase") hsite).mpr
      ⟨h.sase, rfl⟩, ?_⟩
    refine except_bind_eq_ok.mpr ⟨_, (readEntries_eq_ok_iff hwhole hapi).mpr
      ⟨h.endpoints, rfl⟩, ?_⟩
    exact except_bind_eq_ok.mpr ⟨_, (readEntries_eq_ok_iff hname hapi).mpr
      ⟨h.credentials, rfl⟩, rfl⟩

/-! ### The endpoints that are read -/

/-- A parameter is read for its name, and for its value where it has one. -/
def ParamReads (p : Json) : Prop :=
  p.isObject = true → p.stringOrAbsent "name" = true ∧
    (p.textOr "name" "" ≠ "" → p.stringOrAbsent "value" = true)

/-- The members an endpoint is read for where it is shown. -/
structure ColumnsRead (ep : Json) : Prop where
  name : ep.stringOrAbsent "name" = true
  path : ep.stringOrAbsent "path" = true
  type : ep.stringOrAbsent "device_type" = true
  host : ep.textOr "device_type" "ngfw" = "sase" → ep.stringOrAbsent "host" = true
  params : ∀ v, ep.find? "params" = some v → v.isArray = true → ∀ p ∈ v.elements, ParamReads p
  fallback : if ep.textOr "device_type" "ngfw" = "sase" then ep.stringOrAbsent "product" = true
    else ep.stringOrAbsent "api_type" = true
  subtype : ep.stringOrAbsent "subtype" = true

lemma returns_addParam {qs : String} {p : Json} : Returns (addParam qs p) ↔ ParamReads p := by
  rw [addParam, ParamReads]
  refine Json.returns_ofObject fun hobject => ?_
  rw [Json.returns_text hobject]
  refine and_congr_right fun _ => ?_
  split
  · next hnone => simp [hnone]
  · next hsome =>
      rw [Json.returns_text hobject]
      simp [hsome]

lemma returns_params (qs : String) (ps : List Json) :
    Returns (ps.foldlM addParam qs) ↔ ∀ p ∈ ps, ParamReads p := by
  induction ps generalizing qs with
  | nil => simp
  | cons p ps ih =>
      rw [List.foldlM_cons, returns_bind_iff fun qs _ => ih qs, returns_addParam,
        List.forall_mem_cons]

lemma returns_queryOf (h : ep.isObject = true) :
    Returns (queryOf ep) ↔ ∀ v, ep.find? "params" = some v → v.isArray = true →
      ∀ p ∈ v.elements, ParamReads p := by
  rw [queryOf, Json.valueJson_of_isObject h]
  change Returns (if _ then _ else _) ↔ _
  cases hparams : ep.find? "params" with
  | none => simp [Json.isArray, Json.isEmpty]
  | some v =>
      rw [Option.getD_some]
      split
      · next hnone =>
          refine iff_of_true (returns_pure _) fun w hw harray p hp => ?_
          cases hw
          rw [harray, Bool.not_true, Bool.false_or] at hnone
          obtain ⟨es, rfl⟩ := Json.isArray_iff.mp harray
          rw [Json.isEmpty, List.isEmpty_iff] at hnone
          rw [hnone] at hp
          cases hp
      · next hsome =>
          rw [Bool.or_eq_true, not_or, Bool.not_eq_true, Bool.not_eq_false'] at hsome
          rw [returns_params]
          exact ⟨fun hall w hw _ => Option.some.inj hw ▸ hall, fun hall => hall v rfl hsome.1⟩

lemma returns_hostOf (h : ep.isObject = true) {type : String} :
    Returns (hostOf type ep) ↔ (type = "sase" → ep.stringOrAbsent "host" = true) := by
  rw [hostOf]
  split
  · next hsase => rw [Json.returns_valueString h, imp_iff_right hsase]
  · next hother => exact iff_of_true (returns_ok _) fun hsase => absurd hsase hother

lemma returns_olderKind (h : ep.isObject = true) {type : String} :
    Returns (olderKind type ep) ↔ if type = "sase" then ep.stringOrAbsent "product" = true
      else ep.stringOrAbsent "api_type" = true := by
  rw [olderKind]
  split <;> exact Json.returns_valueString h

lemma returns_endpointDisplayPath (h : ep.isObject = true) :
    Returns (endpointDisplayPath ep) ↔ ep.stringOrAbsent "path" = true ∧
      ep.stringOrAbsent "device_type" = true ∧
      (ep.textOr "device_type" "ngfw" = "sase" → ep.stringOrAbsent "host" = true) ∧
      ∀ v, ep.find? "params" = some v → v.isArray = true → ∀ p ∈ v.elements, ParamReads p := by
  rw [endpointDisplayPath, Json.returns_text h, Json.returns_text h,
    returns_bind_iff fun host _ => returns_bind_iff fun qs _ => iff_true_intro (returns_pure _),
    and_true, returns_queryOf h, returns_hostOf h]

lemma returns_endpointKind (h : ep.isObject = true) :
    Returns (endpointKind ep) ↔ ep.stringOrAbsent "device_type" = true ∧
      (if ep.textOr "device_type" "ngfw" = "sase" then ep.stringOrAbsent "product" = true
        else ep.stringOrAbsent "api_type" = true) ∧ ep.stringOrAbsent "subtype" = true := by
  rw [endpointKind, Json.returns_text h, returns_bind_iff fun _ _ => Json.returns_valueString h,
    returns_olderKind h]

lemma returns_endpointColumns (h : ep.isObject = true) :
    Returns (endpointColumns (some ep)) ↔ ColumnsRead ep := by
  rw [endpointColumns, Json.returns_text h, returns_bind_iff fun path _ => returns_bind_iff
    fun kind _ => returns_bind_iff fun type _ => iff_true_intro (returns_pure _),
    returns_endpointDisplayPath h, returns_endpointKind h, Json.returns_valueString h]
  constructor
  · rintro ⟨hname, ⟨hpath, htype, hhost, hparams⟩, ⟨-, hfallback, hsubtype⟩, -⟩
    exact ⟨hname, hpath, htype, hhost, hparams, hfallback, hsubtype⟩
  · rintro ⟨hname, hpath, htype, hhost, hparams, hfallback, hsubtype⟩
    exact ⟨hname, ⟨hpath, htype, hhost, hparams⟩, ⟨htype, hfallback, hsubtype⟩, htype, trivial⟩

/-! ### The streams that are read -/

/-- The members the item of a connector is read for. -/
def ItemReads (d : Declaration) (c i : Json) : Prop :=
  i.isObject = true → i.stringOrAbsent "endpoint" = true ∧ (i.textOr "endpoint" "" ≠ "" →
    c.stringOrAbsent "name" = true ∧
    (∀ ep, entryOf d.endpoints (i.textOr "endpoint" "") = some ep → ColumnsRead ep) ∧
    i.numericOrAbsent "poll_interval_sec" = true ∧ i.boolOrAbsent "enabled" = true)

/-- The oid of a connector. -/
def connectorOidAt (c : Json) : String := c.textOr "oid" (c.textOr "uuid" "")

/-- The connector is in the scope of a site. -/
def InScope (d : Declaration) (siteOid : Bytes) (c : Json) : Prop :=
  siteOid = [] ∨ ∃ dev, entryOf d.devices (c.textOr "object" "") = some dev ∧
    textBytes dev.site = siteOid

instance (siteOid : Bytes) : Decidable (InScope d siteOid c) :=
  decidable_of_iff (siteOid = [] ∨
      (entryOf d.devices (c.textOr "object" "")).any fun dev => textBytes dev.site = siteOid) <| by
    rw [InScope, Option.any_eq_true]
    simp only [decide_eq_true_eq]

/-- The members a connector is read for. -/
def StreamsRead (d : Declaration) (siteOid : Bytes) (c : Json) : Prop :=
  c.isObject = true → (c.stringOrAbsent "uuid" = true ∧ c.stringOrAbsent "oid" = true) ∧
    (connectorOidAt c ≠ "" → c.stringOrAbsent "object" = true ∧
      c.stringOrAbsent "auth_profile" = true ∧
      (InScope d siteOid c → ∀ i ∈ c.elementsAt "items", ItemReads d c i))

/-- The stream an item declares. -/
def itemPair (connectorOid : String) (i : Json) : Option (String × String) :=
  if i.isObject = false ∨ i.textOr "endpoint" "" = "" then none
  else some (connectorOid, i.textOr "endpoint" "")

/-- The streams a connector declares. -/
def declaredBy (c : Json) : List (String × String) :=
  if c.isObject = false ∨ connectorOidAt c = "" then []
  else (c.elementsAt "items").filterMap (itemPair (connectorOidAt c))

/-- The key of a stream of the overview, and the stream. -/
def Stream.keyed (s : Stream) : String × String × String := (s.key, s.connectorOid, s.endpointOid)

/-- A stream by its key. -/
def keyedPair (p : String × String) : String × String × String := (streamKey p.1 p.2, p)

/-- The oid of a connector, and what comes behind it. -/
lemma bind_connectorOid_eq_ok_iff {β : Type} (h : c.isObject = true)
    {f : String → Except JsonError β} {b : β} : (readConnectorOid c >>= f) = .ok b ↔
      (c.stringOrAbsent "uuid" = true ∧ c.stringOrAbsent "oid" = true) ∧
        f (connectorOidAt c) = .ok b := by
  rw [readConnectorOid, bind_assoc, Json.bind_text_eq_ok_iff h, Json.bind_text_eq_ok_iff h, and_assoc,
    connectorOidAt]

lemma returns_connectorOid {β : Type} (h : c.isObject = true) {f : String → Except JsonError β} :
    Returns (readConnectorOid c >>= f) ↔
      (c.stringOrAbsent "uuid" = true ∧ c.stringOrAbsent "oid" = true) ∧
        Returns (f (connectorOidAt c)) := by
  simp only [Returns, bind_connectorOid_eq_ok_iff h, exists_and_left]

lemma returns_columns {ep : Option Json} (h : ∀ e, ep = some e → e.isObject = true) :
    Returns (endpointColumns ep) ↔ ∀ e, ep = some e → ColumnsRead e := by
  cases ep with
  | none => exact iff_of_true (returns_ok _) fun e he => nomatch he
  | some e =>
      rw [returns_endpointColumns (h e rfl)]
      exact ⟨fun hreads e' he => Option.some.inj he ▸ hreads, fun hall => hall e rfl⟩

lemma mem_of_entryOf {entries : List (String × α)} {oid : String} {a : α}
    (h : entryOf entries oid = some a) : (oid, a) ∈ entries := by
  obtain ⟨e, hfound, rfl⟩ := Option.map_eq_some_iff.mp h
  have hoid : e.1 = oid := by simpa using List.find?_some hfound
  rw [← hoid]
  exact List.mem_reverse.mp (List.mem_of_find?_eq_some hfound)

lemma returns_itemStream (hd : ∀ e ∈ d.endpoints, e.2.isObject = true) (hc : c.isObject = true)
    {connectorOid deviceOid credOid : String} {configError : Option String} :
    Returns (itemStream d rows since c connectorOid deviceOid credOid configError i) ↔
      ItemReads d c i := by
  rw [itemStream, ItemReads]
  refine Json.returns_ofObject fun hobject => ?_
  rw [Json.returns_text hobject]
  refine and_congr_right fun _ => ?_
  by_cases hnone : i.textOr "endpoint" "" = ""
  · simp [hnone]
  · rw [if_neg hnone, imp_iff_right hnone, Json.returns_text hc]
    refine and_congr_right fun _ => ?_
    have hep : ∀ e, entryOf d.endpoints (i.textOr "endpoint" "") = some e →
        e.isObject = true := fun e he => hd _ (mem_of_entryOf he)
    rw [← returns_columns hep]
    refine returns_bind_iff fun columns _ => ?_
    rw [Json.returns_int32 hobject, Json.returns_bool]
    simp [hobject]

/-- **The stream of an item** is the one it declares. -/
lemma keyed_itemStream {connectorOid deviceOid credOid : String} {configError : Option String}
    {r : Option Stream}
    (h : itemStream d rows since c connectorOid deviceOid credOid configError i = .ok r) :
    r.map Stream.keyed = (itemPair connectorOid i).map keyedPair := by
  rw [itemStream] at h
  rw [itemPair]
  cases hobject : i.isObject with
  | false =>
      rw [hobject, if_pos rfl] at h
      cases h
      rw [if_pos (.inl rfl)]
      rfl
  | true =>
      rw [hobject, if_neg (by decide), Json.bind_text_eq_ok_iff hobject] at h
      obtain ⟨-, h⟩ := h
      by_cases hnone : i.textOr "endpoint" "" = ""
      · rw [if_pos hnone] at h
        cases h
        rw [if_pos (.inr hnone)]
        rfl
      · rw [if_neg hnone] at h
        obtain ⟨name, -, h⟩ := except_bind_eq_ok.mp h
        obtain ⟨columns, -, h⟩ := except_bind_eq_ok.mp h
        obtain ⟨interval, -, h⟩ := except_bind_eq_ok.mp h
        obtain ⟨enabled, -, h⟩ := except_bind_eq_ok.mp h
        cases h
        have hdeclares : ¬(true = false ∨ i.textOr "endpoint" "" = "") := by simp [hnone]
        rw [if_neg hdeclares]
        rfl

/-- A connector is passed over where it is out of the scope. -/
lemma passed_over_iff {siteOid : Bytes} :
    (siteOid ≠ [] && (entryOf d.devices (c.textOr "object" "")).all fun dev =>
      textBytes dev.site ≠ siteOid) = true ↔ ¬InScope d siteOid c := by
  rw [InScope]
  cases entryOf d.devices (c.textOr "object" "") <;> simp

lemma returns_connectorStreams (hd : ∀ e ∈ d.endpoints, e.2.isObject = true) {siteOid : Bytes} :
    Returns (connectorStreams d rows since siteOid c) ↔ StreamsRead d siteOid c := by
  rw [connectorStreams, StreamsRead]
  refine Json.returns_ofObject fun hobject => ?_
  rw [returns_connectorOid hobject]
  refine and_congr_right fun _ => ?_
  by_cases hnone : connectorOidAt c = ""
  · simp [hnone]
  · rw [if_neg hnone, imp_iff_right hnone, Json.returns_text hobject, Json.returns_text hobject]
    refine and_congr_right fun _ => and_congr_right fun _ => ?_
    by_cases hscope : InScope d siteOid c
    · rw [if_neg fun hpassed => passed_over_iff.mp hpassed hscope, imp_iff_right hscope,
        Json.valueJson_of_isObject hobject]
      change Returns (Json.readEach _ (c.elementsAt "items")) ↔ _
      rw [Returns, Json.readEach_isOk]
      exact forall₂_congr fun i _ => returns_itemStream hd hobject
    · rw [if_pos (passed_over_iff.mpr hscope)]
      exact iff_of_true (returns_pure _) fun h => absurd h hscope

/-- **The streams of a connector** are those it declares, in the scope of the site. -/
lemma keyed_connectorStreams {siteOid : Bytes} {rs : List Stream}
    (h : connectorStreams d rows since siteOid c = .ok rs) :
    rs.map Stream.keyed =
      (if InScope d siteOid c then declaredBy c else []).map keyedPair := by
  rw [connectorStreams] at h
  rw [declaredBy]
  cases hobject : c.isObject with
  | false =>
      rw [hobject, if_pos rfl] at h
      cases h
      simp
  | true =>
      rw [hobject, if_neg (by decide), bind_connectorOid_eq_ok_iff hobject] at h
      obtain ⟨-, h⟩ := h
      by_cases hnone : connectorOidAt c = ""
      · rw [if_pos hnone] at h
        cases h
        simp [hnone]
      · rw [if_neg hnone, Json.bind_text_eq_ok_iff hobject, Json.bind_text_eq_ok_iff hobject] at h
        obtain ⟨-, -, h⟩ := h
        dsimp only at h
        by_cases hscope : InScope d siteOid c
        · rw [if_neg fun hpassed => passed_over_iff.mp hpassed hscope,
            Json.valueJson_of_isObject hobject] at h
          have hdeclares : ¬(true = false ∨ connectorOidAt c = "") := by simp [hnone]
          rw [if_pos hscope, if_neg hdeclares, List.map_filterMap]
          exact Json.map_readEach (fun i r hr => keyed_itemStream hr) h
        · rw [if_pos (passed_over_iff.mpr hscope)] at h
          cases h
          rw [if_neg hscope]
          rfl

/-! ### The census that is read -/

/-- The item is read for its endpoint. -/
def EndpointReads (i : Json) : Prop := i.isObject = true → i.stringOrAbsent "endpoint" = true

/-- The members the census reads a connector for. -/
def CensusReads (d : Declaration) (c : Json) : Prop :=
  c.isObject = true → (c.stringOrAbsent "uuid" = true ∧ c.stringOrAbsent "oid" = true) ∧
    c.stringOrAbsent "object" = true ∧
      (entryOf d.devices (c.textOr "object" "") ≠ none → connectorOidAt c ≠ "" →
        ∀ i ∈ c.elementsAt "items", EndpointReads i)

lemma returns_readItemEndpoint : Returns (readItemEndpoint i) ↔ EndpointReads i := by
  rw [readItemEndpoint, EndpointReads]
  refine Json.returns_ofObject fun hobject => ?_
  rw [Json.returns_text hobject]
  simp

lemma returns_readCensus : Returns (readCensus d c) ↔ CensusReads d c := by
  rw [readCensus, CensusReads]
  refine Json.returns_ofObject fun hobject => ?_
  rw [returns_connectorOid hobject, Json.returns_text hobject]
  refine and_congr_right fun _ => and_congr_right fun _ => ?_
  cases entryOf d.devices (c.textOr "object" "") with
  | none => simp
  | some device =>
      dsimp only
      by_cases hnone : connectorOidAt c = ""
      · simp [hnone]
      · rw [if_neg hnone, imp_iff_right (Option.some_ne_none device), imp_iff_right hnone,
          Json.valueJson_of_isObject hobject]
        change Returns (Json.readEach _ (c.elementsAt "items") >>= _) ↔ _
        rw [returns_bind_iff fun _ _ => iff_true_intro (returns_pure _), and_true, Returns,
          Json.readEach_isOk]
        exact forall₂_congr fun i _ => returns_readItemEndpoint

/-! ### The overview -/

/-- The members the overview reads. -/
structure Readable (site api : Json) (siteOid : Bytes) : Prop where
  siteObject : site.isObject = true
  apiObject : api.isObject = true
  declaration : DeclarationReads site api
  streams : siteOid ≠ [] → ∀ c ∈ api.elementsAt "connectors",
    StreamsRead (declarationAt site api) siteOid c
  census : ∀ c ∈ api.elementsAt "connectors", CensusReads (declarationAt site api) c

/-- The streams declared in the scope of a site, none where no site was chosen. -/
def scopedStreams (site api : Json) (siteOid : Bytes) : List (String × String) :=
  if siteOid = [] then []
  else
    (api.elementsAt "connectors").flatMap fun c =>
      if InScope (declarationAt site api) siteOid c then declaredBy c else []

/-- The streams declared, whatever their site. -/
def declaredStreams (api : Json) : List (String × String) :=
  (api.elementsAt "connectors").flatMap declaredBy

section Compose

variable {site api : Json} {now : ℤ} {target : Bytes}

/-- The keys of the overview's streams are those of the scope, and the rest are orphans. -/
structure Composed (site api : Json) (rows : List CollectionRow) (siteOid : Bytes)
    (o : Overview) : Prop where
  asked : o.site = siteOid
  streams : o.streams.map Stream.keyed = (scopedStreams site api siteOid).map keyedPair
  orphans : o.orphanStreams = ((lastOf rows).keys.filter fun key =>
    key ∉ (scopedStreams site api siteOid).map fun p => streamKey p.1 p.2).length

lemma isObject_of_readEntries {read : Json → Except JsonError α} {j : Json} {key : String}
    {rs : List (String × α)} (h : readEntries read j key = .ok rs) : j.isObject = true := by
  obtain ⟨entries, hentries, -⟩ := except_bind_eq_ok.mp h
  exact Json.isObject_of_valueJson hentries

/-- The endpoints of the declaration are objects. -/
lemma isObject_of_mem_endpoints {e : String × Json} (h : e ∈ (declarationAt site api).endpoints) :
    e.2.isObject = true := by
  obtain ⟨j, -, hj⟩ := List.mem_filterMap.mp h
  rw [entryAt] at hj
  split at hj
  · cases hj
  · next hentry =>
      cases hj
      simpa using (not_or.mp hentry).1

lemma listedConnectors_eq (hapi : api.isObject = true) (siteOid : Bytes) :
    listedConnectors api siteOid =
      .ok (if siteOid = [] then .arr [] else (api.find? "connectors").getD (.arr [])) := by
  rw [listedConnectors]
  split
  · rfl
  · exact Json.valueJson_of_isObject hapi _ _

lemma keyed_streams {siteOid : Bytes} {since : ℤ} {streams : List Stream}
    (h : collect (connectorStreams (declarationAt site api) rows since siteOid)
      (if siteOid = [] then .arr [] else (api.find? "connectors").getD (.arr [])).elements =
        .ok streams) :
    streams.map Stream.keyed = (scopedStreams site api siteOid).map keyedPair := by
  rw [map_collect (fun c r hr => keyed_connectorStreams hr) h, scopedStreams]
  split
  · rfl
  · rw [List.map_flatMap]
    rfl

/-- **What is composed.** -/
lemma composed_of_ok {o : Overview} (h : composeOverview site api rows now target = .ok o) :
    Readable site api (queryParam target "site") ∧
      Composed site api rows (queryParam target "site") o := by
  obtain ⟨d, hd, h⟩ := except_bind_eq_ok.mp h
  have hsite : site.isObject = true := by
    obtain ⟨sites, hsites, -⟩ := except_bind_eq_ok.mp hd
    exact isObject_of_readEntries hsites
  have hapi : api.isObject = true := by
    obtain ⟨sites, -, hd⟩ := except_bind_eq_ok.mp hd
    obtain ⟨ngfw, -, hd⟩ := except_bind_eq_ok.mp hd
    obtain ⟨sase, -, hd⟩ := except_bind_eq_ok.mp hd
    obtain ⟨endpoints, hendpoints, -⟩ := except_bind_eq_ok.mp hd
    exact isObject_of_readEntries hendpoints
  obtain ⟨hdeclaration, rfl⟩ := (readDeclaration_eq_ok_iff hsite hapi).mp hd
  obtain ⟨listed, hlisted, h⟩ := except_bind_eq_ok.mp h
  rw [listedConnectors_eq hapi] at hlisted
  cases hlisted
  obtain ⟨streams, hstreams, h⟩ := except_bind_eq_ok.mp h
  obtain ⟨connectors, hconnectors, h⟩ := except_bind_eq_ok.mp h
  rw [Json.valueJson_of_isObject hapi] at hconnectors
  cases hconnectors
  obtain ⟨census, hcensus, h⟩ := except_bind_eq_ok.mp h
  cases h
  have hkeyed := keyed_streams hstreams
  refine ⟨⟨hsite, hapi, hdeclaration, fun hchosen c hc => ?_, fun c hc => ?_⟩, rfl, hkeyed, ?_⟩
  · have hall := returns_collect.mp ⟨streams, hstreams⟩
    rw [if_neg hchosen] at hall
    exact (returns_connectorStreams fun e he => isObject_of_mem_endpoints he).mp (hall c hc)
  · exact returns_readCensus.mp (Json.readEach_isOk.mp ⟨census, hcensus⟩ c hc)
  · have hkeys : streams.map Stream.key =
        (scopedStreams site api (queryParam target "site")).map fun p => streamKey p.1 p.2 := by
      have hfirst := congrArg (List.map Prod.fst) hkeyed
      rw [List.map_map, List.map_map] at hfirst
      exact hfirst
    rw [← hkeys]

/-- A configuration that can be read is composed. -/
lemma returns_composeOverview (rows : List CollectionRow) (now : ℤ)
    (h : Readable site api (queryParam target "site")) :
    Returns (composeOverview site api rows now target) := by
  have hd := (readDeclaration_eq_ok_iff h.siteObject h.apiObject).mpr ⟨h.declaration, rfl⟩
  have hstreams : Returns (collect (connectorStreams (declarationAt site api) rows
      (now - intParam target "window" kDefaultWindowHours 1 kMaxWindowHours * 3600)
        (queryParam target "site")) (if queryParam target "site" = [] then .arr []
          else (api.find? "connectors").getD (.arr [])).elements) := by
    rw [returns_collect]
    split
    · exact fun c hc => nomatch hc
    · next hchosen =>
        exact fun c hc => (returns_connectorStreams fun e he => isObject_of_mem_endpoints he).mpr
          (h.streams hchosen c hc)
  obtain ⟨streams, hstreams⟩ := hstreams
  obtain ⟨census, hcensus⟩ := Json.readEach_isOk.mpr fun c hc =>
    returns_readCensus.mpr (h.census c hc)
  have hlisted := listedConnectors_eq h.apiObject (queryParam target "site")
  have hconnectors := Json.valueJson_of_isObject h.apiObject "connectors" (.arr [])
  exact ⟨_, except_bind_eq_ok.mpr ⟨_, hd, except_bind_eq_ok.mpr ⟨_, hlisted,
    except_bind_eq_ok.mpr ⟨_, hstreams, except_bind_eq_ok.mpr ⟨_, hconnectors,
      except_bind_eq_ok.mpr ⟨_, hcensus, rfl⟩⟩⟩⟩⟩⟩

end Compose

end CollectionController

end Pretzel.Mgmtd
