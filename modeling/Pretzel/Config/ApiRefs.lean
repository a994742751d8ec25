import Pretzel.Library.Json

/-!
`shared/config/ApiRefs.cpp`: referential integrity of a connector section.

* `checkApiReferences`: the check, with the error it names and the exceptions of
  its typed reads.
* `RefsResolve`: what it is for: every item of a connector names an endpoint
  of the section, and every connector an API key.
* `refsResolve_of_check`: a section that passes the check resolves.
* `checkApiReferences_congr`: the check reads three arrays and nothing else.
* `published`: what a batch of changes brings to the connector domain.
-/

namespace Pretzel.Config

open Nlohmann

/-! ### The check -/

/-- The loop of `containsOid`. -/
def anyOid (oid : String) : List Json → Except JsonError Bool
  | [] => .ok false
  | entry :: rest =>
      if entry.isObject then do
        let entryOid ← entry.valueString "oid" ""
        if entryOid = oid then return true else anyOid oid rest
      else anyOid oid rest

/-- `containsOid`. -/
def containsOid (arr : Json) (oid : String) : Except JsonError Bool :=
  match arr with
  | .arr es => anyOid oid es
  | _ => .ok false

/-- `oid.empty() || containsOid(arr, oid)`. -/
def resolves (arr : Json) (oid : String) : Except JsonError Bool :=
  if oid = "" then .ok true else containsOid arr oid

/-- The loop over the items of one connector: an error, or none. -/
def checkItems (endpoints : Json) (label : String) : List Json → Except JsonError (Option String)
  | [] => .ok none
  | item :: rest =>
      if item.isObject then do
        let endpoint ← item.valueString "endpoint" ""
        let found ← resolves endpoints endpoint
        if found then checkItems endpoints label rest
        else
          return some ("connector '" ++ label ++ "' collects an endpoint that does not exist — " ++
            "remove that entry from the connector first")
      else checkItems endpoints label rest

/-- One connector: its items, then its API key. -/
def checkConnector (endpoints apiKeys c : Json) : Except JsonError (Option String) := do
  let oid ← c.valueString "oid" "unnamed"
  let label ← c.valueString "name" oid
  let items ← c.valueJson "items" (.arr [])
  let error ← checkItems endpoints label (if items.isArray then items.elements else [])
  match error with
  | some error => return some error
  | none =>
      let authProfile ← c.valueString "auth_profile" ""
      let found ← resolves apiKeys authProfile
      if found then return none
      else
        return some ("connector '" ++ label ++ "' references an API key that does not exist — " ++
          "re-point or remove that connector first")

/-- The loop over the connectors. -/
def checkConnectors (endpoints apiKeys : Json) : List Json → Except JsonError (Option String)
  | [] => .ok none
  | c :: rest =>
      if c.isObject then do
        let error ← checkConnector endpoints apiKeys c
        match error with
        | some error => return some error
        | none => checkConnectors endpoints apiKeys rest
      else checkConnectors endpoints apiKeys rest

/-- `checkApiReferences`: the error, or none when every reference resolves. -/
def checkApiReferences (api : Json) : Except JsonError (Option String) :=
  if api.isObject then do
    let endpoints ← api.valueJson "endpoints" (.arr [])
    let apiKeys ← api.valueJson "api_credentials" (.arr [])
    let connectors ← api.valueJson "connectors" (.arr [])
    if connectors.isArray then checkConnectors endpoints apiKeys connectors.elements
    else return none
  else .ok none

/-! ### What it is for -/

/-- The section has, under the key, an entry of the given oid. -/
def HasOid (api : Json) (key oid : String) : Prop :=
  ∃ es, api.find? key = some (.arr es) ∧ ∃ e ∈ es, e.find? "oid" = some (.str oid)

/-- Every endpoint a connector collects and every API key it uses is there. -/
def RefsResolve (api : Json) : Prop :=
  ∀ cs, api.find? "connectors" = some (.arr cs) → ∀ c ∈ cs,
    (∀ items, c.find? "items" = some (.arr items) → ∀ item ∈ items, ∀ endpoint,
      item.find? "endpoint" = some (.str endpoint) → endpoint ≠ "" →
        HasOid api "endpoints" endpoint) ∧
    ∀ profile, c.find? "auth_profile" = some (.str profile) → profile ≠ "" →
      HasOid api "api_credentials" profile

lemma exists_of_anyOid {oid : String} (hoid : oid ≠ "") {es : List Json}
    (h : anyOid oid es = .ok true) : ∃ e ∈ es, e.find? "oid" = some (.str oid) := by
  induction es with
  | nil => cases h
  | cons entry rest ih =>
      have hrest : anyOid oid rest = .ok true →
          ∃ e ∈ entry :: rest, e.find? "oid" = some (.str oid) := by
        intro h
        obtain ⟨e, he, heq⟩ := ih h
        exact ⟨e, List.mem_cons_of_mem _ he, heq⟩
      rw [anyOid] at h
      split at h
      · next hobj =>
          rw [except_bind_eq_ok] at h
          obtain ⟨entryOid, hread, h⟩ := h
          split at h
          · next heq =>
              subst heq
              refine ⟨entry, List.mem_cons_self, ?_⟩
              obtain ⟨ms, rfl⟩ := Json.isObject_iff.mp hobj
              rw [Json.valueString, Json.valueWith_obj] at hread
              cases hv : (Json.obj ms).find? "oid" with
              | none =>
                  rw [hv] at hread
                  cases hread
                  exact absurd rfl hoid
              | some v =>
                  rw [hv] at hread
                  cases v with
                  | str s => cases hread; rfl
                  | _ => cases hread
          · exact hrest h
      · exact hrest h

lemma exists_of_resolves {arr : Json} {oid : String} (hoid : oid ≠ "")
    (h : resolves arr oid = .ok true) :
    ∃ es, arr = .arr es ∧ ∃ e ∈ es, e.find? "oid" = some (.str oid) := by
  rw [resolves, if_neg hoid] at h
  cases arr with
  | arr es => exact ⟨es, rfl, exists_of_anyOid hoid h⟩
  | _ => cases h

/-- Items that pass name endpoints that are there. -/
lemma resolves_of_checkItems {endpoints : Json} {label : String} {items : List Json}
    (h : checkItems endpoints label items = .ok none) {item : Json} (hmem : item ∈ items)
    {endpoint : String} (hitem : item.find? "endpoint" = some (.str endpoint)) :
    resolves endpoints endpoint = .ok true := by
  induction items with
  | nil => cases hmem
  | cons first rest ih =>
      rw [checkItems] at h
      split at h
      · next hobj =>
          rw [except_bind_eq_ok] at h
          obtain ⟨firstEndpoint, hread, h⟩ := h
          rw [except_bind_eq_ok] at h
          obtain ⟨found, hfound, h⟩ := h
          split at h
          · next htrue =>
              rcases List.mem_cons.mp hmem with rfl | hmem
              · rw [Json.valueString_of_find? hitem] at hread
                cases hread
                rw [hfound, htrue]
              · exact ih h hmem
          · cases h
      · next hobj =>
          rcases List.mem_cons.mp hmem with rfl | hmem
          · exact absurd (Json.isObject_of_find? hitem) hobj
          · exact ih h hmem

/-- A connector that passes. -/
lemma resolves_of_checkConnector {endpoints apiKeys c : Json}
    (h : checkConnector endpoints apiKeys c = .ok none) :
    (∀ items, c.find? "items" = some (.arr items) → ∀ item ∈ items, ∀ endpoint,
      item.find? "endpoint" = some (.str endpoint) → resolves endpoints endpoint = .ok true) ∧
    ∀ profile, c.find? "auth_profile" = some (.str profile) →
      resolves apiKeys profile = .ok true := by
  rw [checkConnector, except_bind_eq_ok] at h
  obtain ⟨oid, -, h⟩ := h
  rw [except_bind_eq_ok] at h
  obtain ⟨label, -, h⟩ := h
  rw [except_bind_eq_ok] at h
  obtain ⟨items, hitems, h⟩ := h
  rw [except_bind_eq_ok] at h
  obtain ⟨error, herror, h⟩ := h
  cases error with
  | some error => cases h
  | none =>
      dsimp only at h
      rw [except_bind_eq_ok] at h
      obtain ⟨authProfile, hauth, h⟩ := h
      rw [except_bind_eq_ok] at h
      obtain ⟨found, hfound, h⟩ := h
      constructor
      · intro is his item hmem endpoint hitem
        rw [Json.valueJson_of_isObject (Json.isObject_of_find? his), his] at hitems
        cases hitems
        exact resolves_of_checkItems herror hmem hitem
      · intro profile hprofile
        rw [Json.valueString_of_find? hprofile] at hauth
        cases hauth
        split at h
        · next htrue => rw [hfound, htrue]
        · cases h

lemma checkConnector_of_checkConnectors {endpoints apiKeys : Json} {cs : List Json}
    (h : checkConnectors endpoints apiKeys cs = .ok none) {c : Json} (hc : c ∈ cs)
    (hobj : c.isObject = true) : checkConnector endpoints apiKeys c = .ok none := by
  induction cs with
  | nil => cases hc
  | cons first rest ih =>
      rw [checkConnectors] at h
      split at h
      · rw [except_bind_eq_ok] at h
        obtain ⟨error, herror, h⟩ := h
        cases error with
        | some error => cases h
        | none =>
            rcases List.mem_cons.mp hc with rfl | hc
            · exact herror
            · exact ih h hc
      · next hnot =>
          rcases List.mem_cons.mp hc with rfl | hc
          · exact absurd hobj hnot
          · exact ih h hc

/-- What resolves against the list of a section is there. -/
lemma hasOid_of_resolves {api : Json} {key oid : String} (hoid : oid ≠ "")
    (h : resolves ((api.find? key).getD (.arr [])) oid = .ok true) : HasOid api key oid := by
  obtain ⟨es, hes, e, he, heq⟩ := exists_of_resolves hoid h
  refine ⟨es, ?_, e, he, heq⟩
  cases hfind : api.find? key with
  | some v =>
      rw [hfind] at hes
      rw [← hes]
      rfl
  | none =>
      rw [hfind] at hes
      cases hes
      cases he

/-- **A section that passes the check resolves.** -/
theorem refsResolve_of_check {api : Json} (h : checkApiReferences api = .ok none) :
    RefsResolve api := by
  intro cs hcs c hc
  have hobj := Json.isObject_of_find? hcs
  rw [checkApiReferences, if_pos hobj, Json.valueJson_of_isObject hobj, Json.valueJson_of_isObject hobj,
    Json.valueJson_of_isObject hobj, hcs] at h
  have hchecks : checkConnectors ((api.find? "endpoints").getD (.arr []))
      ((api.find? "api_credentials").getD (.arr [])) cs = .ok none := h
  constructor
  · intro items hitems item hitem endpoint hendpoint hne
    have hcheck := checkConnector_of_checkConnectors hchecks hc (Json.isObject_of_find? hitems)
    exact hasOid_of_resolves hne
      ((resolves_of_checkConnector hcheck).1 items hitems item hitem endpoint hendpoint)
  · intro profile hprofile hne
    have hcheck := checkConnector_of_checkConnectors hchecks hc (Json.isObject_of_find? hprofile)
    exact hasOid_of_resolves hne
      ((resolves_of_checkConnector hcheck).2 profile hprofile)

/-- The arrays the check reads. -/
def referenceKeys : List String := ["endpoints", "api_credentials", "connectors"]

/-- The check reads the three arrays and nothing else. -/
theorem checkApiReferences_congr {a b : Json} (ha : a.isObject = true) (hb : b.isObject = true)
    (h : ∀ key ∈ referenceKeys, a.find? key = b.find? key) :
    checkApiReferences a = checkApiReferences b := by
  simp only [checkApiReferences, if_pos ha, if_pos hb, Json.valueJson_of_isObject ha,
    Json.valueJson_of_isObject hb, h "endpoints" (by simp [referenceKeys]),
    h "api_credentials" (by simp [referenceKeys]), h "connectors" (by simp [referenceKeys])]

/-! ### What a batch publishes -/

/-- A change aimed at `pretzel.connector`. -/
def isConnectorChange (c : Json) : Bool :=
  decide (c.find? "scope" = some (.str "pretzel")) &&
    decide (c.find? "domain" = some (.str "connector"))

/-- The value a change brings under a key of the connector domain. -/
def publishedBy (key : String) (c : Json) : Option Json :=
  if isConnectorChange c then (c.memberOrNull "values").find? key else none

/-- The value a batch brings under a key: the last change that carries it wins. -/
def published (key : String) : List Json → Option Json
  | [] => none
  | c :: rest => (published key rest).or (publishedBy key c)

/-- A batch brings one of the three arrays. -/
def touchesReferences (changes : List Json) : Bool :=
  referenceKeys.any fun key => (published key changes).isSome

lemma published_of_untouched {changes : List Json} (h : touchesReferences changes = false)
    {key : String} (hkey : key ∈ referenceKeys) : published key changes = none := by
  rw [touchesReferences, List.any_eq_false] at h
  simpa using h key hkey

end Pretzel.Config
