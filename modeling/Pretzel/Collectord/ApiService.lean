import Pretzel.Library.Json

/-!
`collectord/service/api/ApiService.cpp`: what the collector loads from the
connector section.

* `AuthProfile`, `ApiEndpoint`, `ApiConnector`: the records.
* `readProfile`, `readEndpoint`, `readConnector`: one turn of each loop; an entry
  that is passed over gives none, and a member of another type than the one read
  throws.
* `start`: the three loads in order.
* `readProfile_eq_ok_iff` and its siblings: the members that have to be of the
  type read, and the record that comes of them.
-/

namespace Pretzel.Collectord

open Nlohmann

/-! ### The records -/

/-- `AuthProfile`. -/
structure AuthProfile where
  oid : String
  name : String
  vendor : String
  username : String
  tls : String
  fingerprint : String
  device : String
  endpoint : String
  refreshMode : String
  refreshIntervalMin : ℤ
deriving DecidableEq

/-- `ApiVendor`. -/
inductive ApiVendor where
  | Ngfw
  | Sase
deriving DecidableEq

/-- `ApiSubtype`. -/
inductive ApiSubtype where
  | Rest
  | Xml
  | Ztna
  | Pab
  | Scm
deriving DecidableEq

/-- `ApiParam`. -/
structure ApiParam where
  name : String
  value : String
deriving DecidableEq

/-- `ApiEndpoint`. -/
structure ApiEndpoint where
  oid : String
  name : String
  path : String
  params : List ApiParam
  vendor : ApiVendor := .Ngfw
  subtype : ApiSubtype := .Rest
  host : String := ""
  headers : List ApiParam := []
deriving DecidableEq

/-- `ApiCollectionItem`. -/
structure ApiCollectionItem where
  endpointOid : String
  pollIntervalSec : ℤ
  enabled : Bool
deriving DecidableEq

/-- `ApiConnector`. -/
structure ApiConnector where
  oid : String
  name : String
  objectOid : String
  authProfileOid : String
  items : List ApiCollectionItem
deriving DecidableEq

/-! ### The loops -/

/-- One turn of `loadProfiles`. -/
def readProfile (p : Json) : Except JsonError (Option AuthProfile) :=
  if p.isObject then do
    let id ← p.valueString "id" ""
    let uuid ← p.valueString "uuid" id
    let oid ← p.valueString "oid" uuid
    let name ← p.valueString "name" ""
    let vendor ← p.valueString "vendor" ""
    let username ← p.valueString "username" ""
    let tls ← p.valueString "tls" "pin"
    let fingerprint ← p.valueString "fingerprint" ""
    let device ← p.valueString "device" ""
    let endpoint ← p.valueString "endpoint" ""
    let refreshMode ← p.valueString "refresh_mode" "manual"
    let refreshIntervalMin ← p.valueInt32 "refresh_interval_min" 60
    return if oid = "" then none
      else some { oid, name, vendor, username, tls, fingerprint, device, endpoint, refreshMode,
                  refreshIntervalMin }
  else .ok none

/-- One turn of `readPairs`. -/
def readPair (p : Json) : Except JsonError (Option ApiParam) :=
  if p.isObject then do
    let name ← p.valueString "name" ""
    let value ← p.valueString "value" ""
    return if name = "" then none else some ⟨name, value⟩
  else .ok none

/-- The elements of an array, each read; nothing where there is no array. -/
def readArray {α : Type} (read : Json → Except JsonError (Option α)) (j : Json) (key : String) :
    Except JsonError (List α) :=
  match j.find? key with
  | some (.arr es) => Json.readEach read es
  | _ => .ok []

/-- `readPairs`, of `loadEndpoints`. -/
def readPairs (e : Json) (key : String) : Except JsonError (List ApiParam) :=
  readArray readPair e key

/-- The end of a turn of `loadEndpoints`: an oid, and a path from the root. -/
def keepEndpoint (endpoint : ApiEndpoint) : Option ApiEndpoint :=
  if endpoint.oid = "" then none
  else if endpoint.path.toList.head? = some '/' then some endpoint else none

/-- The paths that say they are the REST API. -/
def isRestPath (path : String) : Bool := "/restapi/".toList.isPrefixOf path.toList

/-- One turn of `loadEndpoints`. -/
def readEndpoint (e : Json) : Except JsonError (Option ApiEndpoint) :=
  if e.isObject then do
    let uuid ← e.valueString "uuid" ""
    let oid ← e.valueString "oid" uuid
    let name ← e.valueString "name" ""
    let path ← e.valueString "path" ""
    let params ← readPairs e "params"
    let deviceType ← e.valueString "device_type" "ngfw"
    if deviceType = "sase" then
      let product ← e.valueString "product" "ztna"
      let subtype ← e.valueString "subtype" product
      if subtype = "ztna" then
        let host ← e.valueString "host" ""
        let headers ← readPairs e "headers"
        return if host = "" then none
          else keepEndpoint { oid, name, path, params, vendor := .Sase, subtype := .Ztna, host,
                              headers }
      else return none
    else
      let apiType ← e.valueString "api_type" ""
      let subtype ← e.valueString "subtype" apiType
      let xml := if subtype = "" then !isRestPath path else subtype == "xml"
      return keepEndpoint { oid, name, path, params, subtype := if xml then .Xml else .Rest }
  else .ok none

/-- One turn of the loop over the items of a connector. -/
def readItem (i : Json) : Except JsonError (Option ApiCollectionItem) :=
  if i.isObject then do
    let endpointOid ← i.valueString "endpoint" ""
    let pollIntervalSec ← i.valueInt64 "poll_interval_sec" 60
    let enabled ← i.valueBool "enabled" true
    return if endpointOid = "" then none
      else some ⟨endpointOid, if pollIntervalSec < 1 then 60 else pollIntervalSec, enabled⟩
  else .ok none

/-- One turn of `loadConnectors`. The references that do not resolve are logged
and no more. -/
def readConnector (c : Json) : Except JsonError (Option ApiConnector) :=
  if c.isObject then do
    let uuid ← c.valueString "uuid" ""
    let oid ← c.valueString "oid" uuid
    let name ← c.valueString "name" ""
    let objectOid ← c.valueString "object" ""
    let authProfileOid ← c.valueString "auth_profile" ""
    if c.contains "endpoint" || c.contains "params" then return none
    else
      let items ← readArray readItem c "items"
      return if oid = "" ∨ objectOid = "" ∨ authProfileOid = "" then none
        else some { oid, name, objectOid, authProfileOid, items }
  else .ok none

/-- What `ApiService` holds of its configuration. -/
structure ApiService where
  profiles : List AuthProfile
  endpoints : List ApiEndpoint
  connectors : List ApiConnector
deriving DecidableEq

/-- `loadProfiles`. -/
def loadProfiles (cfg : Json) : Except JsonError (List AuthProfile) :=
  readArray readProfile cfg "api_credentials"

/-- `loadEndpoints`. -/
def loadEndpoints (cfg : Json) : Except JsonError (List ApiEndpoint) :=
  readArray readEndpoint cfg "endpoints"

/-- `loadConnectors`. -/
def loadConnectors (cfg : Json) : Except JsonError (List ApiConnector) :=
  readArray readConnector cfg "connectors"

/-- `ApiService::start`. -/
def start (cfg : Json) : Except JsonError ApiService := do
  let profiles ← loadProfiles cfg
  let endpoints ← loadEndpoints cfg
  let connectors ← loadConnectors cfg
  return { profiles, endpoints, connectors }

/-! ### What can be read -/

/-- The members `loadProfiles` reads as strings. -/
def profileTexts : List String :=
  ["id", "uuid", "oid", "name", "vendor", "username", "tls", "fingerprint", "device", "endpoint",
    "refresh_mode"]

/-- A profile whose members have the types that are read. -/
def ProfileReads (p : Json) : Prop :=
  (∀ key ∈ profileTexts, p.stringOrAbsent key = true) ∧
    p.numericOrAbsent "refresh_interval_min" = true

/-- The oid of an entry, under its legacy keys too. -/
def profileOid (p : Json) : String := p.textOr "oid" (p.textOr "uuid" (p.textOr "id" ""))

/-- The record of a profile. -/
def profileOf (p : Json) : Option AuthProfile :=
  if profileOid p = "" then none
  else
    some
      { oid := profileOid p
        name := p.textOr "name" ""
        vendor := p.textOr "vendor" ""
        username := p.textOr "username" ""
        tls := p.textOr "tls" "pin"
        fingerprint := p.textOr "fingerprint" ""
        device := p.textOr "device" ""
        endpoint := p.textOr "endpoint" ""
        refreshMode := p.textOr "refresh_mode" "manual"
        refreshIntervalMin := p.int32Or "refresh_interval_min" 60 }

/-- **One profile.** -/
lemma readProfile_eq_ok_iff {p : Json} (h : p.isObject = true) {r : Option AuthProfile} :
    readProfile p = .ok r ↔ ProfileReads p ∧ profileOf p = r := by
  rw [readProfile, if_pos h, ProfileReads, profileTexts, profileOf, profileOid]
  simp only [except_bind_eq_ok, Json.valueString_eq_ok_iff h, Json.valueInt32_eq_ok_iff h,
    and_assoc, exists_and_left, exists_eq_left, List.forall_mem_cons, List.not_mem_nil,
    false_implies, implies_true, true_and, pure, Except.pure, Except.ok.injEq]

/-- An array whose elements can be read, or no array. -/
def ArrayReads (reads : Json → Prop) (j : Json) (key : String) : Prop :=
  ∀ es, j.find? key = some (.arr es) → ∀ e ∈ es, reads e

lemma readArray_isOk {α : Type} {read : Json → Except JsonError (Option α)} {reads : Json → Prop}
    (hread : ∀ e, (∃ r, read e = .ok r) ↔ reads e) {j : Json} {key : String} :
    (∃ rs, readArray read j key = .ok rs) ↔ ArrayReads reads j key := by
  rw [readArray, ArrayReads]
  split
  · next es hes =>
      rw [Json.readEach_isOk]
      simp [hes, hread]
  · next hno =>
      refine ⟨fun _ es hes => absurd hes (hno es), fun _ => ⟨[], rfl⟩⟩

/-- A pair with a name and a value that are strings. -/
def PairReads (p : Json) : Prop :=
  p.isObject = true → p.stringOrAbsent "name" = true ∧ p.stringOrAbsent "value" = true

lemma readPair_isOk (p : Json) : (∃ r, readPair p = .ok r) ↔ PairReads p := by
  rw [readPair, PairReads]
  split
  · next h =>
      simp [except_bind_eq_ok, Json.valueString_eq_ok_iff h, h, pure, Except.pure]
  · next h => simp [h]

/-- An endpoint whose members have the types that are read. -/
structure EndpointReads (e : Json) : Prop where
  texts : ∀ key ∈ ["uuid", "oid", "name", "path", "device_type", "subtype"],
    e.stringOrAbsent key = true
  params : ArrayReads PairReads e "params"
  ngfw : e.textOr "device_type" "ngfw" ≠ "sase" → e.stringOrAbsent "api_type" = true
  sase : e.textOr "device_type" "ngfw" = "sase" → e.stringOrAbsent "product" = true ∧
    (e.textOr "subtype" (e.textOr "product" "ztna") = "ztna" →
      e.stringOrAbsent "host" = true ∧ ArrayReads PairReads e "headers")

/-- The oid of an endpoint or a connector, under its legacy key too. -/
def entryOid (e : Json) : String := e.textOr "oid" (e.textOr "uuid" "")

/-- **One endpoint**: what can be read. -/
lemma readEndpoint_isOk {e : Json} (h : e.isObject = true) :
    (∃ r, readEndpoint e = .ok r) ↔ EndpointReads e := by
  have hpairs : ∀ key, (∃ rs, readPairs e key = .ok rs) ↔ ArrayReads PairReads e key :=
    fun key => readArray_isOk readPair_isOk
  rw [readEndpoint, if_pos h]
  simp only [except_bind_eq_ok, Json.valueString_eq_ok_iff h, and_assoc, exists_and_left,
    exists_eq_left]
  by_cases hsase : e.textOr "device_type" "ngfw" = "sase"
  · simp only [if_pos hsase, except_bind_eq_ok, Json.valueString_eq_ok_iff h, and_assoc,
      exists_and_left, exists_eq_left]
    by_cases hztna : e.textOr "subtype" (e.textOr "product" "ztna") = "ztna"
    · simp only [if_pos hztna, except_bind_eq_ok, Json.valueString_eq_ok_iff h, and_assoc,
        exists_and_left, exists_eq_left]
      constructor
      · rintro ⟨huuid, hoid, hname, hpath, r, params, hparams, hdevice, hproduct, hsubtype, hhost,
          headers, hheaders, -⟩
        refine ⟨by simp [*], (hpairs _).mp ⟨params, hparams⟩, fun hn => absurd hsase hn,
          fun _ => ⟨hproduct, fun _ => ⟨hhost, (hpairs _).mp ⟨headers, hheaders⟩⟩⟩⟩
      · rintro ⟨htexts, hparams, -, hcloud⟩
        obtain ⟨hproduct, hproducts⟩ := hcloud hsase
        obtain ⟨hhost, hheaders⟩ := hproducts hztna
        obtain ⟨params, hparams⟩ := (hpairs _).mpr hparams
        obtain ⟨headers, hheaders⟩ := (hpairs _).mpr hheaders
        simp only [List.forall_mem_cons] at htexts
        obtain ⟨huuid, hoid, hname, hpath, hdevice, hsubtype, -⟩ := htexts
        exact ⟨huuid, hoid, hname, hpath, _, params, hparams, hdevice, hproduct, hsubtype, hhost,
          headers, hheaders, rfl⟩
    · simp only [if_neg hztna]
      constructor
      · rintro ⟨huuid, hoid, hname, hpath, r, params, hparams, hdevice, hproduct, hsubtype, -⟩
        exact ⟨by simp [*], (hpairs _).mp ⟨params, hparams⟩, fun hn => absurd hsase hn,
          fun _ => ⟨hproduct, fun hz => absurd hz hztna⟩⟩
      · rintro ⟨htexts, hparams, -, hcloud⟩
        obtain ⟨params, hparams⟩ := (hpairs _).mpr hparams
        simp only [List.forall_mem_cons] at htexts
        obtain ⟨huuid, hoid, hname, hpath, hdevice, hsubtype, -⟩ := htexts
        exact ⟨huuid, hoid, hname, hpath, _, params, hparams, hdevice, (hcloud hsase).1, hsubtype,
          rfl⟩
  · simp only [if_neg hsase, except_bind_eq_ok, Json.valueString_eq_ok_iff h, and_assoc,
      exists_and_left, exists_eq_left]
    constructor
    · rintro ⟨huuid, hoid, hname, hpath, r, params, hparams, hdevice, hapi, hsubtype, -⟩
      exact ⟨by simp [*], (hpairs _).mp ⟨params, hparams⟩, fun _ => hapi,
        fun hs => absurd hs hsase⟩
    · rintro ⟨htexts, hparams, hapi, -⟩
      obtain ⟨params, hparams⟩ := (hpairs _).mpr hparams
      simp only [List.forall_mem_cons] at htexts
      obtain ⟨huuid, hoid, hname, hpath, hdevice, hsubtype, -⟩ := htexts
      exact ⟨huuid, hoid, hname, hpath, _, params, hparams, hdevice, hapi hsase, hsubtype, rfl⟩

/-- An endpoint that is not passed over. -/
structure EndpointKept (e : Json) : Prop where
  oid : entryOid e ≠ ""
  path : (e.textOr "path" "").toList.head? = some '/'
  sase : e.textOr "device_type" "ngfw" = "sase" →
    e.textOr "subtype" (e.textOr "product" "ztna") = "ztna" ∧ e.textOr "host" "" ≠ ""

/-- **One endpoint**: what comes of it. -/
lemma readEndpoint_kept {e : Json} (h : e.isObject = true) (hkept : EndpointKept e)
    {r : Option ApiEndpoint} (hr : readEndpoint e = .ok r) : ∃ endpoint, r = some endpoint ∧
      endpoint.oid = entryOid e ∧ endpoint.name = e.textOr "name" "" ∧
      endpoint.path = e.textOr "path" "" := by
  have hkeep : ∀ endpoint : ApiEndpoint, endpoint.oid = entryOid e →
      endpoint.path = e.textOr "path" "" → keepEndpoint endpoint = some endpoint := by
    intro endpoint hoid hpath
    rw [keepEndpoint, hoid, hpath, if_neg hkept.oid, if_pos hkept.path]
  rw [readEndpoint, if_pos h] at hr
  simp only [except_bind_eq_ok, Json.valueString_eq_ok_iff h, and_assoc, exists_and_left,
    exists_eq_left] at hr
  obtain ⟨-, -, -, -, params, -, -, hr⟩ := hr
  by_cases hsase : e.textOr "device_type" "ngfw" = "sase"
  · obtain ⟨hztna, hhost⟩ := hkept.sase hsase
    simp only [if_pos hsase, if_pos hztna, if_neg hhost, except_bind_eq_ok,
      Json.valueString_eq_ok_iff h, and_assoc, exists_and_left, exists_eq_left] at hr
    obtain ⟨-, -, -, headers, -, hr⟩ := hr
    cases hr
    exact ⟨_, hkeep _ rfl rfl, rfl, rfl, rfl⟩
  · simp only [if_neg hsase, except_bind_eq_ok, Json.valueString_eq_ok_iff h, and_assoc,
      exists_and_left, exists_eq_left] at hr
    obtain ⟨-, -, hr⟩ := hr
    cases hr
    exact ⟨_, hkeep _ rfl rfl, rfl, rfl, rfl⟩

/-! ### Connectors -/

/-- An item whose members have the types that are read. -/
def ItemReads (i : Json) : Prop :=
  i.isObject = true → i.stringOrAbsent "endpoint" = true ∧
    (∃ n, i.valueInt64 "poll_interval_sec" 60 = .ok n) ∧ ∃ b, i.valueBool "enabled" true = .ok b

lemma readItem_isOk (i : Json) : (∃ r, readItem i = .ok r) ↔ ItemReads i := by
  rw [readItem, ItemReads]
  split
  · next h =>
      simp only [except_bind_eq_ok, Json.valueString_eq_ok_iff h, and_assoc, exists_and_left,
        exists_eq_left, h, true_imp_iff, pure, Except.pure, Except.ok.injEq]
      refine and_congr_right fun _ => ⟨?_, ?_⟩
      · rintro ⟨r, n, hn, b, hb, -⟩
        exact ⟨⟨n, hn⟩, b, hb⟩
      · rintro ⟨⟨n, hn⟩, b, hb⟩
        exact ⟨_, n, hn, b, hb, rfl⟩
  · next h => simp [h]

/-- A connector whose members have the types that are read. -/
structure ConnectorReads (c : Json) : Prop where
  texts : ∀ key ∈ ["uuid", "oid", "name", "object", "auth_profile"], c.stringOrAbsent key = true
  items : (c.contains "endpoint" || c.contains "params") = false → ArrayReads ItemReads c "items"

/-- **One connector**: what can be read. -/
lemma readConnector_isOk {c : Json} (h : c.isObject = true) :
    (∃ r, readConnector c = .ok r) ↔ ConnectorReads c := by
  have hitems : (∃ rs, readArray readItem c "items" = .ok rs) ↔ ArrayReads ItemReads c "items" :=
    readArray_isOk readItem_isOk
  rw [readConnector, if_pos h]
  simp only [except_bind_eq_ok, Json.valueString_eq_ok_iff h, and_assoc, exists_and_left,
    exists_eq_left]
  cases hshape : c.contains "endpoint" || c.contains "params" with
  | true =>
      simp only [if_true]
      constructor
      · rintro ⟨huuid, hoid, hname, hobject, hauth, -⟩
        exact ⟨by simp [*], fun hfalse => by simp [hshape] at hfalse⟩
      · rintro ⟨htexts, -⟩
        simp only [List.forall_mem_cons] at htexts
        obtain ⟨huuid, hoid, hname, hobject, hauth, -⟩ := htexts
        exact ⟨huuid, hoid, hname, hobject, hauth, _, rfl⟩
  | false =>
      simp only [Bool.false_eq_true, if_false, except_bind_eq_ok]
      constructor
      · rintro ⟨huuid, hoid, hname, hobject, hauth, r, items, hread, -⟩
        exact ⟨by simp [*], fun _ => hitems.mp ⟨items, hread⟩⟩
      · rintro ⟨htexts, hread⟩
        simp only [List.forall_mem_cons] at htexts
        obtain ⟨huuid, hoid, hname, hobject, hauth, -⟩ := htexts
        obtain ⟨items, hread⟩ := hitems.mpr (hread hshape)
        exact ⟨huuid, hoid, hname, hobject, hauth, _, items, hread, rfl⟩

/-- An item with an endpoint is not passed over. -/
lemma readItem_kept {i : Json} {endpoint : String} (hne : endpoint ≠ "")
    (hendpoint : i.find? "endpoint" = some (.str endpoint)) {r : Option ApiCollectionItem}
    (hr : readItem i = .ok r) : ∃ item, r = some item ∧ item.endpointOid = endpoint := by
  have h : i.isObject = true := Json.isObject_of_find? hendpoint
  rw [readItem, if_pos h, Json.valueString_of_find? hendpoint] at hr
  change (do let pollIntervalSec ← i.valueInt64 "poll_interval_sec" 60; _) = _ at hr
  simp only [except_bind_eq_ok, if_neg hne] at hr
  obtain ⟨n, -, b, -, hr⟩ := hr
  cases hr
  exact ⟨_, rfl, rfl⟩

/-- A connector that is not passed over. -/
structure ConnectorKept (c : Json) : Prop where
  oid : entryOid c ≠ ""
  object : c.textOr "object" "" ≠ ""
  authProfile : c.textOr "auth_profile" "" ≠ ""
  shape : (c.contains "endpoint" || c.contains "params") = false

/-- **One connector**: what comes of it. -/
lemma readConnector_kept {c : Json} (h : c.isObject = true) (hkept : ConnectorKept c)
    {r : Option ApiConnector} (hr : readConnector c = .ok r) : ∃ connector, r = some connector ∧
      connector.oid = entryOid c ∧ connector.objectOid = c.textOr "object" "" ∧
      connector.authProfileOid = c.textOr "auth_profile" "" ∧
      readArray readItem c "items" = .ok connector.items := by
  have hkeep : ¬ (entryOid c = "" ∨ c.textOr "object" "" = "" ∨ c.textOr "auth_profile" "" = "") := by
    rintro (hoid | hobject | hauth)
    · exact hkept.oid hoid
    · exact hkept.object hobject
    · exact hkept.authProfile hauth
  rw [readConnector, if_pos h, hkept.shape] at hr
  simp only [except_bind_eq_ok, Json.valueString_eq_ok_iff h, and_assoc, exists_and_left,
    exists_eq_left, Bool.false_eq_true, if_false] at hr
  obtain ⟨-, -, -, -, -, items, hitems, hr⟩ := hr
  rw [entryOid] at hkeep
  rw [if_neg hkeep] at hr
  cases hr
  exact ⟨_, rfl, rfl, rfl, rfl, hitems⟩

end Pretzel.Collectord
