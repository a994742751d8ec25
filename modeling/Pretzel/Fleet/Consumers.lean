import Pretzel.Collectord.ApiService
import Pretzel.Engined.Inventory
import Pretzel.Engined.MergedSection
import Pretzel.Mgmtd.AcceptedEntries
import Pretzel.Probed.IcmpService

/-!
A configuration that mgmtd accepts, and the daemons that load it.

* `Built`: the documents that are built from accepted values.
* `arraysValid_of_built`: under the keys of the schema such a document holds
  arrays of accepted entries, and nothing else.
* `Loaded`: every reader runs to its end and has every entry: the collector
  its profiles, endpoints and connectors, engined a row for each device, and
  probed the target of each firewall.
* `Readable`: the members the schema leaves open have the types the readers ask
  for, and the devices fit the tables.
* `loaded_iff`: the document that results from an accepted change is loaded
  exactly when it is readable.
* `description_not_read`: a device is accepted that stops engined.
-/

namespace Pretzel.Fleet

open Nlohmann Config Mgmtd Engined Collectord Probed

/-! ### The documents -/

/-- Values the schema of a domain accepts, as a parsed object. -/
structure AcceptedValues (scopeName domain : String) (values : List (String × Json)) : Prop where
  sorted : (Json.obj values).isSorted = true
  shape : validateCommitShape scopeName domain (.obj values) = .ok none

/-- `root[scope][domain].merge_patch(values)`. -/
def mergeValues (doc : Json) (scopeName domain : String) (values : List (String × Json)) : Json :=
  doc.mergePatch (.obj [(scopeName, .obj [(domain, .obj values)])])

/-- The documents built from accepted values. -/
inductive Built : Json → Prop
  | empty : Built (.obj [])
  | merge {doc : Json} {scopeName domain : String} {values : List (String × Json)} :
      Built doc → AcceptedValues scopeName domain values →
      Built (mergeValues doc scopeName domain values)

/-- `section(pretzel, site)`. -/
def siteSection (doc : Json) : Json := docSection doc "pretzel" "site"

/-- A merge patches the domain it is aimed at, and no other. -/
lemma docSection_mergeValues (doc : Json) (scopeName domain s d : String)
    (values : List (String × Json)) : docSection (mergeValues doc scopeName domain values) s d =
      if s = scopeName ∧ d = domain then (docSection doc s d).mergePatch (.obj values)
      else docSection doc s d := by
  rw [docSection, mergeValues, objectMember_mergePatch]
  by_cases hs : s = scopeName
  · rw [if_pos hs, objectMember_mergePatch]
    by_cases hd : d = domain
    · rw [if_pos hd, if_pos ⟨hs, hd⟩]
      rfl
    · rw [if_neg hd, if_neg fun h => hd h.2]
      rfl
  · rw [if_neg hs, if_neg fun h => hs h.1]
    rfl

/-- A merge of arrays that are valid leaves arrays that are. -/
lemma arraysValid_mergePatch {arrays : List ArraySchema} {old : Json}
    {values : List (String × Json)} (hold : ArraysValid arrays old)
    (hsorted : (Json.obj values).isSorted = true) (hvalues : ArraysValid arrays (.obj values)) :
    ArraysValid arrays (old.mergePatch (.obj values)) := by
  intro a ha v hv
  have hnodup : (values.map Prod.fst).Nodup := (Json.sortedKeys_of_isSorted hsorted).nodup
  rw [Json.mergePatch, Json.find?_obj, Json.lookup_mergeMembers _ _ hnodup] at hv
  cases hfind : Json.lookup a.1 values with
  | none =>
      rw [hfind] at hv
      exact hold a ha v hv
  | some w =>
      obtain ⟨es, rfl, hes⟩ := hvalues a ha w hfind
      rw [hfind] at hv
      simp only [Json.mergePatch, Option.some.injEq] at hv
      exact ⟨es, hv.symm, hes⟩

lemma arraysValid_empty (arrays : List ArraySchema) : ArraysValid arrays (.obj []) := by
  intro a _ v hv
  cases hv

/-- What the schema of the two domains asks. -/
lemma arraysValid_of_accepted {domain : String} {values : List (String × Json)}
    {arrays : List ArraySchema} (h : AcceptedValues "pretzel" domain values)
    (hdomain : (domain = "site" ∧ arrays = siteArrays) ∨
      (domain = "connector" ∧ arrays = connectorArrays)) :
    ArraysValid arrays (.obj values) := by
  have hshape := h.shape
  rcases hdomain with ⟨rfl, rfl⟩ | ⟨rfl, rfl⟩
  · rw [validateCommitShape, if_pos ⟨rfl, rfl⟩] at hshape
    exact arraysValid_of_validateArrays hshape
  · rw [validateCommitShape, if_neg (by decide), if_pos ⟨rfl, rfl⟩] at hshape
    exact arraysValid_of_validateArrays hshape

/-- **A document built from accepted values** holds arrays of accepted entries. -/
theorem arraysValid_of_built {doc : Json} (h : Built doc) {domain : String}
    {arrays : List ArraySchema} (hdomain : (domain = "site" ∧ arrays = siteArrays) ∨
      (domain = "connector" ∧ arrays = connectorArrays)) :
    ArraysValid arrays (docSection doc "pretzel" domain) := by
  induction h with
  | empty => exact arraysValid_empty arrays
  | merge _ haccepted ih =>
      rw [docSection_mergeValues]
      split
      · next htarget =>
          obtain ⟨rfl, rfl⟩ := htarget
          exact arraysValid_mergePatch ih haccepted.sorted
            (arraysValid_of_accepted haccepted hdomain)
      · exact ih

/-! ### What is loaded -/

/-- The profile of an API key. -/
def ProfileAppears (k : Json) (p : AuthProfile) : Prop :=
  k.find? "oid" = some (.str p.oid) ∧ k.find? "name" = some (.str p.name) ∧
    k.find? "device" = some (.str p.device)

/-- The endpoint of an entry. -/
def EndpointAppears (e : Json) (endpoint : ApiEndpoint) : Prop :=
  e.find? "oid" = some (.str endpoint.oid) ∧ e.find? "name" = some (.str endpoint.name) ∧
    e.find? "path" = some (.str endpoint.path)

/-- The connector of an entry, with each of its items. -/
def ConnectorAppears (c : Json) (connector : ApiConnector) : Prop :=
  c.find? "oid" = some (.str connector.oid) ∧ c.find? "object" = some (.str connector.objectOid) ∧
    c.find? "auth_profile" = some (.str connector.authProfileOid) ∧
    ∃ items, c.find? "items" = some (.arr items) ∧ List.Forall₂
      (fun i item => i.find? "endpoint" = some (.str item.endpointOid)) items connector.items

/-- Every reader runs to its end and has every entry. -/
structure Loaded (dump : Json → String) (ngfw sase : DeviceTable) (doc : Json) : Prop where
  api : ∃ service, start (connectorSection doc) = .ok service ∧
    List.Forall₂ ProfileAppears ((connectorSection doc).elementsAt "api_credentials") service.profiles ∧
    List.Forall₂ EndpointAppears ((connectorSection doc).elementsAt "endpoints") service.endpoints ∧
    List.Forall₂ ConnectorAppears ((connectorSection doc).elementsAt "connectors") service.connectors
  inventory : ∃ ngfw' sase', projectInventory dump (siteSection doc) ngfw sase = .ok (ngfw', sase') ∧
    ngfw'.HoldsEach (((siteSection doc).elementsAt "ngfw_devices").map ngfwRow) ∧
    sase'.HoldsEach (((siteSection doc).elementsAt "sase_devices").map (saseRow dump))
  targets : ∃ targets, probeExplicitTargets (siteSection doc) = .ok targets ∧
    List.Forall₂ (fun d target => d.find? "target" = some (.str target))
      ((siteSection doc).elementsAt "ngfw_devices") targets

/-- The members the readers read have the types they ask for, and the devices fit
the tables they are projected into. -/
structure Readable (dump : Json → String) (ngfw sase : DeviceTable) (doc : Json) : Prop where
  profiles : ∀ k ∈ (connectorSection doc).elementsAt "api_credentials", ProfileReads k
  endpoints : ∀ e ∈ (connectorSection doc).elementsAt "endpoints", EndpointReads e
  connectors : ∀ c ∈ (connectorSection doc).elementsAt "connectors", ConnectorReads c
  firewalls : ∀ d ∈ (siteSection doc).elementsAt "ngfw_devices", NgfwReads d
  tenants : ∀ d ∈ (siteSection doc).elementsAt "sase_devices", SaseReads d
  firewallsFit : ngfw.Fits (((siteSection doc).elementsAt "ngfw_devices").map ngfwRow)
  tenantsFit : sase.Fits (((siteSection doc).elementsAt "sase_devices").map (saseRow dump))

/-! ### The readers on accepted entries -/

/-- Under the key there is an array of accepted entries, or nothing. -/
def EntriesValid (valid : Json → Except JsonError Bool) (j : Json) (key : String) : Prop :=
  ∀ v, j.find? key = some v → ∃ es, v = .arr es ∧ ∀ e ∈ es, valid e = .ok true

lemma valid_of_mem_elementsAt {valid : Json → Except JsonError Bool} {j : Json} {key : String}
    (h : EntriesValid valid j key) : ∀ e ∈ j.elementsAt key, valid e = .ok true := by
  intro e he
  rw [Json.elementsAt] at he
  cases hfind : j.find? key with
  | none =>
      rw [hfind] at he
      cases he
  | some v =>
      obtain ⟨es, rfl, hes⟩ := h v hfind
      rw [hfind] at he
      exact hes e he

/-- A loop over an array that is there, or not. -/
lemma readArray_eq {α : Type} {read : Json → Except JsonError (Option α)}
    {valid : Json → Except JsonError Bool} {j : Json} {key : String}
    (h : EntriesValid valid j key) : readArray read j key = Json.readEach read (j.elementsAt key) := by
  rw [readArray, Json.elementsAt]
  cases hfind : j.find? key with
  | none => rfl
  | some v =>
      obtain ⟨es, rfl, -⟩ := h v hfind
      rfl

/-- One API key the schema accepts. -/
lemma readProfile_accepted {k : Json} (h : validApiKey k = .ok true) :
    ((∃ r, readProfile k = .ok r) ↔ ProfileReads k) ∧
      ∀ r, readProfile k = .ok r → ∃ p, r = some p ∧ ProfileAppears k p := by
  obtain ⟨hoid, hname, hdevice⟩ := validApiKey_eq_ok h
  have hiff := @readProfile_eq_ok_iff k hoid.isObject
  constructor
  · simp [hiff]
  · intro r hr
    obtain ⟨-, rfl⟩ := hiff.mp hr
    rw [profileOf, profileOid, if_neg hoid.of_textOr.2]
    exact ⟨_, rfl, hoid.of_textOr.1, hname.of_textOr.1, hdevice.of_textOr.1⟩

/-- One endpoint the schema accepts. -/
lemma readEndpoint_accepted {e : Json} (h : validApiEndpoint e = .ok true) :
    ((∃ r, readEndpoint e = .ok r) ↔ EndpointReads e) ∧
      ∀ r, readEndpoint e = .ok r → ∃ endpoint, r = some endpoint ∧ EndpointAppears e endpoint := by
  obtain ⟨hoid, hname, ⟨path, hpath, hslash⟩, hsase⟩ := validApiEndpoint_eq_ok h
  have hkept : EndpointKept e := by
    refine ⟨hoid.of_textOr.2, ?_, fun hs => ?_⟩
    · rw [Json.textOr_of_find? hpath]
      exact hslash
    · obtain ⟨hztna, hhost⟩ := hsase hs
      exact ⟨hztna, hhost.of_textOr.2⟩
  refine ⟨readEndpoint_isOk hoid.isObject, fun r hr => ?_⟩
  obtain ⟨endpoint, rfl, ho, hn, hp⟩ := readEndpoint_kept hoid.isObject hkept hr
  refine ⟨endpoint, rfl, ?_, ?_, ?_⟩
  · rw [ho]
    exact hoid.of_textOr.1
  · rw [hn]
    exact hname.of_textOr.1
  · rw [hp, Json.textOr_of_find? hpath]
    exact hpath

/-- One connector the schema accepts. -/
lemma readConnector_accepted {c : Json} (h : validApiConnector c = .ok true) :
    ((∃ r, readConnector c = .ok r) ↔ ConnectorReads c) ∧
      ∀ r, readConnector c = .ok r → ∃ connector, r = some connector ∧
        ConnectorAppears c connector := by
  obtain ⟨hoid, hobject, hauth, hshape, items, hitems, hall⟩ := validApiConnector_eq_ok h
  have hkept : ConnectorKept c :=
    ⟨hoid.of_textOr.2, hobject.of_textOr.2, hauth.of_textOr.2, hshape⟩
  refine ⟨readConnector_isOk hoid.isObject, fun r hr => ?_⟩
  obtain ⟨connector, rfl, ho, hob, ha, hread⟩ := readConnector_kept hoid.isObject hkept hr
  rw [readArray, hitems] at hread
  refine ⟨connector, rfl, ?_, ?_, ?_, items, hitems, ?_⟩
  · rw [ho]
    exact hoid.of_textOr.1
  · rw [hob]
    exact hobject.of_textOr.1
  · rw [ha]
    exact hauth.of_textOr.1
  · refine Json.forall₂_readEach hread fun i hi r hr => ?_
    obtain ⟨endpoint, hne, hendpoint⟩ := hall i hi
    obtain ⟨item, rfl, hitem⟩ := readItem_kept hne hendpoint hr
    exact ⟨item, rfl, hitem ▸ hendpoint⟩

/-- An array of accepted entries is loaded when each of them can be read, and
then every one is there. -/
lemma readArray_accepted {α : Type} {read : Json → Except JsonError (Option α)}
    {valid : Json → Except JsonError Bool} {reads : Json → Prop} {Appears : Json → α → Prop}
    (hread : ∀ e, valid e = .ok true → ((∃ r, read e = .ok r) ↔ reads e) ∧
      ∀ r, read e = .ok r → ∃ a, r = some a ∧ Appears e a)
    {j : Json} {key : String} (h : EntriesValid valid j key) :
    ((∃ rs, readArray read j key = .ok rs) ↔ ∀ e ∈ j.elementsAt key, reads e) ∧
      ∀ rs, readArray read j key = .ok rs → List.Forall₂ Appears (j.elementsAt key) rs := by
  have hvalid := valid_of_mem_elementsAt h
  rw [readArray_eq h]
  constructor
  · rw [Json.readEach_isOk]
    exact forall₂_congr fun e he => (hread e (hvalid e he)).1
  · intro rs hrs
    exact Json.forall₂_readEach hrs fun e he => (hread e (hvalid e he)).2

/-- **The collector** loads every entry of its section, or stops at one it cannot
read. -/
lemma start_iff {cfg : Json} (h : ArraysValid connectorArrays cfg) :
    (∃ service, start cfg = .ok service ∧
      List.Forall₂ ProfileAppears (cfg.elementsAt "api_credentials") service.profiles ∧
      List.Forall₂ EndpointAppears (cfg.elementsAt "endpoints") service.endpoints ∧
      List.Forall₂ ConnectorAppears (cfg.elementsAt "connectors") service.connectors) ↔
    (∀ k ∈ cfg.elementsAt "api_credentials", ProfileReads k) ∧
      (∀ e ∈ cfg.elementsAt "endpoints", EndpointReads e) ∧
      ∀ c ∈ cfg.elementsAt "connectors", ConnectorReads c := by
  obtain ⟨hprofiles, hprofiles'⟩ := readArray_accepted (fun _ => readProfile_accepted)
    (h ("api_credentials", validApiKey) (by simp [connectorArrays]))
  obtain ⟨hendpoints, hendpoints'⟩ := readArray_accepted (fun _ => readEndpoint_accepted)
    (h ("endpoints", validApiEndpoint) (by simp [connectorArrays]))
  obtain ⟨hconnectors, hconnectors'⟩ := readArray_accepted (fun _ => readConnector_accepted)
    (h ("connectors", validApiConnector) (by simp [connectorArrays]))
  rw [← hprofiles, ← hendpoints, ← hconnectors]
  constructor
  · rintro ⟨service, hstart, -⟩
    rw [start, except_bind_eq_ok] at hstart
    obtain ⟨profiles, hp, hstart⟩ := hstart
    rw [except_bind_eq_ok] at hstart
    obtain ⟨endpoints, he, hstart⟩ := hstart
    rw [except_bind_eq_ok] at hstart
    obtain ⟨connectors, hc, -⟩ := hstart
    exact ⟨⟨profiles, hp⟩, ⟨endpoints, he⟩, connectors, hc⟩
  · rintro ⟨⟨profiles, hp⟩, ⟨endpoints, he⟩, connectors, hc⟩
    refine ⟨⟨profiles, endpoints, connectors⟩, ?_, hprofiles' _ hp, hendpoints' _ he,
      hconnectors' _ hc⟩
    rw [start, loadProfiles, hp, loadEndpoints, he, loadConnectors, hc]
    rfl

/-- **One table of the inventory**: the projection runs to its end, and every
device has its row, when the devices can be read and fit the table. -/
lemma projectDevices_iff {read : Json → Except JsonError (Option DeviceRow)} {reads : Json → Prop}
    {row : Json → DeviceRow} {site : Json} {key : String} (hobj : site.isObject = true)
    (hvalid : EntriesValid validDevice site key)
    (hread : ∀ d, d.isObject = true → deviceOid d ≠ "" → ∀ r,
      read d = .ok r ↔ reads d ∧ some (row d) = r) (t : DeviceTable) :
    (∃ t', projectDevices read site key t = .ok t' ∧ t'.HoldsEach ((site.elementsAt key).map row)) ↔
      (∀ d ∈ site.elementsAt key, reads d) ∧ t.Fits ((site.elementsAt key).map row) := by
  have hdevice : ∀ d ∈ site.elementsAt key, ∀ r, read d = .ok r ↔ reads d ∧ some (row d) = r := by
    intro d hd
    obtain ⟨hoid, -⟩ := validDevice_eq_ok (valid_of_mem_elementsAt hvalid d hd)
    exact hread d hoid.isObject hoid.of_textOr.2
  have hrows : ∀ rows, Json.readEach read (site.elementsAt key) = .ok rows →
      rows = (site.elementsAt key).map row := by
    intro rows hrows
    have hall : List.Forall₂ (fun d r => row d = r) (site.elementsAt key) rows :=
      Json.forall₂_readEach hrows fun d hd r hr => ⟨row d, (((hdevice d hd r).mp hr).2).symm, rfl⟩
    rw [← List.forall₂_map_left_iff, List.forall₂_eq_eq_eq] at hall
    exact hall.symm
  have hreads : (∃ rows, Json.readEach read (site.elementsAt key) = .ok rows) ↔
      ∀ d ∈ site.elementsAt key, reads d := by
    rw [Json.readEach_isOk]
    exact forall₂_congr fun d hd => by simp [hdevice d hd]
  constructor
  · rintro ⟨t', hproject, hholds⟩
    obtain ⟨rows, hr, rfl⟩ := (projectDevices_eq_ok hobj).mp hproject
    rw [← hrows rows hr] at hholds ⊢
    exact ⟨hreads.mp ⟨rows, hr⟩, holdsEach_project_iff.mp hholds⟩
  · rintro ⟨hall, hfits⟩
    obtain ⟨rows, hr⟩ := hreads.mpr hall
    refine ⟨_, (projectDevices_eq_ok hobj).mpr ⟨rows, hr, rfl⟩, ?_⟩
    rw [← hrows rows hr] at hfits ⊢
    exact holdsEach_project_iff.mpr hfits

/-- **The law of a loaded configuration**: where a change that is accepted is
merged into a document built from accepted values, every reader runs to its end
and has every entry exactly when the document is readable. -/
theorem loaded_iff {doc : Json} (hdoc : Built doc) {domain : String}
    {values : List (String × Json)} (hvalues : AcceptedValues "pretzel" domain values)
    (dump : Json → String) (ngfw sase : DeviceTable) :
    Loaded dump ngfw sase (mergeValues doc "pretzel" domain values) ↔
      Readable dump ngfw sase (mergeValues doc "pretzel" domain values) := by
  have hbuilt := hdoc.merge hvalues
  generalize mergeValues doc "pretzel" domain values = merged at hbuilt
  have hsite : ArraysValid siteArrays (siteSection merged) :=
    arraysValid_of_built hbuilt (.inl ⟨rfl, rfl⟩)
  have hconnector : ArraysValid connectorArrays (connectorSection merged) :=
    arraysValid_of_built hbuilt (.inr ⟨rfl, rfl⟩)
  have hobj : (siteSection merged).isObject = true := isObject_objectMember _ _
  have hfirewalls : EntriesValid validDevice (siteSection merged) "ngfw_devices" :=
    hsite ("ngfw_devices", validDevice) (by simp [siteArrays])
  have htenants : EntriesValid validDevice (siteSection merged) "sase_devices" :=
    hsite ("sase_devices", validDevice) (by simp [siteArrays])
  have hngfw := projectDevices_iff hobj hfirewalls (fun d ho hoid r => readNgfw_eq_ok_iff ho hoid) ngfw
  have hsase := projectDevices_iff hobj htenants
    (fun d ho hoid r => @readSase_eq_ok_iff dump d ho hoid r) sase
  constructor
  · intro h
    obtain ⟨hprofiles, hendpoints, hconnectors⟩ := (start_iff hconnector).mp h.api
    obtain ⟨ngfw', sase', hproject, hn, hs⟩ := h.inventory
    rw [projectInventory, except_bind_eq_ok] at hproject
    obtain ⟨ngfw'', hproject₁, hproject⟩ := hproject
    rw [except_bind_eq_ok] at hproject
    obtain ⟨sase'', hproject₂, hproject⟩ := hproject
    cases hproject
    obtain ⟨hnreads, hnfits⟩ := hngfw.mp ⟨ngfw', hproject₁, hn⟩
    obtain ⟨hsreads, hsfits⟩ := hsase.mp ⟨sase', hproject₂, hs⟩
    exact ⟨hprofiles, hendpoints, hconnectors, hnreads, hsreads, hnfits, hsfits⟩
  · intro h
    obtain ⟨ngfw', hproject₁, hn⟩ := hngfw.mpr ⟨h.firewalls, h.firewallsFit⟩
    obtain ⟨sase', hproject₂, hs⟩ := hsase.mpr ⟨h.tenants, h.tenantsFit⟩
    refine ⟨(start_iff hconnector).mpr ⟨h.profiles, h.endpoints, h.connectors⟩,
      ⟨ngfw', sase', ?_, hn, hs⟩, ?_⟩
    · rw [projectInventory, hproject₁]
      change (do let sase ← projectDevices (readSase dump) _ _ _; _) = _
      rw [hproject₂]
      rfl
    · refine probeExplicitTargets_of_targets hobj fun d hd => ?_
      obtain ⟨-, target, hne, htarget⟩ :=
        validDevice_eq_ok (valid_of_mem_elementsAt hfirewalls d hd)
      exact ⟨target, hne, htarget⟩

/-! ### One firewall -/

namespace OneFirewall

/-- A table without a row. -/
def noRows : DeviceTable := ⟨[], List.nodup_nil, by simp⟩

/-- An API key. -/
def apiKey : Json := .obj [("device", .str "d1"), ("name", .str "key"), ("oid", .str "k1")]

/-- An endpoint. -/
def endpoint : Json := .obj [("name", .str "system"), ("oid", .str "e1"), ("path", .str "/api/")]

/-- The connector that uses both. -/
def connector : Json :=
  .obj [("auth_profile", .str "k1"), ("items", .arr [.obj [("endpoint", .str "e1")]]),
    ("object", .str "d1"), ("oid", .str "c1")]

/-- A firewall with a description. -/
def firewall (description : Json) : Json :=
  .obj [("description", description), ("oid", .str "d1"), ("target", .str "192.0.2.1")]

/-- The values of the connector domain. -/
def connectorValues : List (String × Json) :=
  [("api_credentials", .arr [apiKey]), ("connectors", .arr [connector]),
    ("endpoints", .arr [endpoint])]

/-- The values of the site domain. -/
def siteValues (description : Json) : List (String × Json) :=
  [("ngfw_devices", .arr [firewall description])]

lemma connectorValues_accepted : AcceptedValues "pretzel" "connector" connectorValues :=
  ⟨by decide, by decide⟩

/-- The document of the connector, with the firewall merged. -/
def document (description : Json) : Json :=
  mergeValues (mergeValues (.obj []) "pretzel" "connector" connectorValues) "pretzel" "site"
    (siteValues description)

end OneFirewall

open OneFirewall in
/-- The law on a firewall whose description is a text. -/
theorem loaded_iff_described :
    Loaded (fun _ => "") noRows noRows (document (.str "edge firewall")) := by
  have hvalues : AcceptedValues "pretzel" "site" (siteValues (.str "edge firewall")) :=
    ⟨by decide +kernel, by decide +kernel⟩
  refine (loaded_iff (Built.empty.merge connectorValues_accepted) hvalues _ noRows noRows).mpr ?_
  change Readable _ noRows noRows (document (.str "edge firewall"))
  have hkeys : (connectorSection (document (.str "edge firewall"))).elementsAt "api_credentials"
      = [apiKey] := rfl
  have hendpoints : (connectorSection (document (.str "edge firewall"))).elementsAt "endpoints"
      = [endpoint] := rfl
  have hconnectors : (connectorSection (document (.str "edge firewall"))).elementsAt "connectors"
      = [connector] := rfl
  have hfirewalls : (siteSection (document (.str "edge firewall"))).elementsAt "ngfw_devices"
      = [firewall (.str "edge firewall")] := rfl
  have htenants : (siteSection (document (.str "edge firewall"))).elementsAt "sase_devices"
      = [] := rfl
  constructor
  · rw [hkeys, List.forall_mem_singleton]
    exact ⟨by decide, by decide⟩
  · rw [hendpoints, List.forall_mem_singleton]
    refine ⟨by decide, ?_, fun _ => by decide, fun h => absurd h (by decide)⟩
    intro params hparams
    cases hparams
  · rw [hconnectors, List.forall_mem_singleton]
    refine ⟨by decide, fun _ items hitems => ?_⟩
    cases hitems
    rw [List.forall_mem_singleton]
    exact fun _ => ⟨by decide, ⟨60, rfl⟩, true, rfl⟩
  · rw [hfirewalls, List.forall_mem_singleton]
    change ∀ key ∈ _, _
    decide
  · rw [htenants]
    simp
  · rw [hfirewalls]
    refine ⟨by simp, by simp, fun done r rest _ q hq => ?_⟩
    cases hq
  · rw [htenants]
    refine ⟨by simp, by simp, fun done r rest _ q hq => ?_⟩
    cases hq

open OneFirewall in
/-- **A device is accepted that stops engined**: its description is a number, and
the projection throws on it. -/
theorem description_not_read : AcceptedValues "pretzel" "site" (siteValues (.int 5)) ∧
    projectInventory (fun _ => "") (siteSection (document (.int 5))) noRows noRows
      = .error .wrongType ∧
    ¬ Loaded (fun _ => "") noRows noRows (document (.int 5)) := by
  have hthrows : projectInventory (fun _ => "") (siteSection (document (.int 5))) noRows noRows
      = .error .wrongType := rfl
  refine ⟨⟨by decide +kernel, by decide +kernel⟩, hthrows, fun hloaded => ?_⟩
  obtain ⟨ngfw, sase, hproject, -⟩ := hloaded.inventory
  rw [hthrows] at hproject
  cases hproject

end Pretzel.Fleet
