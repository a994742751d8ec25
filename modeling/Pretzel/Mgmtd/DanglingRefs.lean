import Pretzel.Mgmtd.CommitReads
import Pretzel.Library.FirstHit

/-!
The reference check, exactly: which sections it passes, which connector it
names, and which sections it throws on.

* `Dangles`: a reference to an entry the section does not have.
* `ConnectorDangles`: a connector with such a reference.
* `LinksRead`: the members a connector is checked by are strings where they are
  there at all.
* `decides_checkRef`, `decides_checkItem`, `decides_checkConnector`: each layer
  of the check, by what it can read and what it finds.
* `Exact`: the answer is true just where every reference resolves, and an error
  names the first connector with one that does not.
* **`checkApiReferences_exact_iff`**: the check is exact just where what it reads is typed.
* `numberedConnector_thrown`: a name that is a number.
-/

namespace Pretzel.Mgmtd

open Nlohmann Config

/-! ### One reference -/

/-- What the check looks an oid up in. -/
def listAt (api : Json) (key : String) : Json := (api.find? key).getD (.arr [])

/-- The member is a non-empty string, and no entry of the list has it as oid. -/
def Dangles (api : Json) (list : String) (j : Json) (key : String) : Prop :=
  ∃ oid, j.find? key = some (.str oid) ∧ oid ≠ "" ∧ ¬HasOid api list oid

/-- The member is a string or absent, and so is the oid of every entry up to the
one it names. -/
def LinkRead (api : Json) (list : String) (j : Json) (key : String) : Prop :=
  j.stringOrAbsent key = true ∧ ResolveRead (listAt api list) (j.textOr key "")

/-- One reference: an error where it dangles. -/
def checkRef (arr j : Json) (key error : String) : Except JsonError (Option String) := do
  let oid ← j.valueString key ""
  let found ← resolves arr oid
  if found then return none else return some error

lemma anyOid_of_mem {oid : String} {es : List Json} (hreturns : Returns (anyOid oid es)) {e : Json}
    (he : e ∈ es) (hoid : e.find? "oid" = some (.str oid)) : anyOid oid es = .ok true := by
  rw [returns_anyOid] at hreturns
  induction es with
  | nil => cases he
  | cons entry rest ih =>
      obtain ⟨hread, hrest⟩ := hreturns
      have hlater : ¬(entry.isObject = true ∧ entry.textOr "oid" "" = oid) →
          anyOid oid rest = .ok true := by
        intro hother
        refine ih (hrest hother) ?_
        rcases List.mem_cons.mp he with rfl | he
        · exact absurd ⟨Json.isObject_of_find? hoid, Json.textOr_of_find? hoid⟩ hother
        · exact he
      rw [anyOid]
      split
      · next hobj =>
          rw [Json.bind_text_eq_ok_iff hobj]
          refine ⟨hread hobj, ?_⟩
          split
          · rfl
          · next hne => exact hlater fun h => hne h.2
      · next hobj => exact hlater fun h => hobj h.1

/-- An oid resolves just where an entry has it. -/
lemma resolves_eq_true_iff {api : Json} {list oid : String} (hne : oid ≠ "")
    (hreturns : Returns (resolves (listAt api list) oid)) :
    resolves (listAt api list) oid = .ok true ↔ HasOid api list oid := by
  refine ⟨hasOid_of_resolves hne, ?_⟩
  rintro ⟨es, hes, e, he, hoid⟩
  have hlist : listAt api list = .arr es := by
    rw [listAt, hes]
    rfl
  rw [hlist, resolves, if_neg hne] at hreturns ⊢
  exact anyOid_of_mem hreturns he hoid

lemma resolves_text_iff {api j : Json} {list key : String} (hread : LinkRead api list j key) :
    resolves (listAt api list) (j.textOr key "") = .ok true ↔ ¬Dangles api list j key := by
  obtain ⟨hstring, hresolve⟩ := hread
  rcases Json.find?_of_stringOrAbsent hstring with habsent | ⟨oid, hoid⟩
  · have hempty : j.textOr key "" = "" := by rw [Json.textOr, habsent]
    rw [hempty]
    refine iff_of_true (if_pos rfl) ?_
    rintro ⟨oid, hoid, -⟩
    rw [habsent] at hoid
    cases hoid
  · have htext : j.textOr key "" = oid := Json.textOr_of_find? hoid
    rw [htext] at hresolve ⊢
    by_cases hne : oid = ""
    · refine iff_of_true (if_pos hne) ?_
      rintro ⟨oid', hoid', hne', -⟩
      rw [hoid] at hoid'
      cases hoid'
      exact hne' hne
    · rw [resolves_eq_true_iff hne ((returns_resolves _ _).mpr hresolve)]
      constructor
      · rintro hhas ⟨oid', hoid', -, hnone⟩
        rw [hoid] at hoid'
        cases hoid'
        exact hnone hhas
      · intro hresolved
        by_contra hnone
        exact hresolved ⟨oid, hoid, hne, hnone⟩

/-- **One reference**: read where it is typed, an error where it dangles. -/
lemma checkRef_eq_ok_iff {api j : Json} (h : j.isObject = true) {list key error : String}
    {result : Option String} : checkRef (listAt api list) j key error = .ok result ↔
      LinkRead api list j key ∧ ((Dangles api list j key ∧ result = some error) ∨
        (¬Dangles api list j key ∧ result = none)) := by
  rw [checkRef, Json.bind_text_eq_ok_iff h, except_bind_eq_ok]
  constructor
  · rintro ⟨hstring, found, hfound, hresult⟩
    have hread : LinkRead api list j key := ⟨hstring, (returns_resolves _ _).mp ⟨found, hfound⟩⟩
    have hiff := resolves_text_iff hread
    rw [hfound] at hiff
    cases found with
    | true =>
        cases hresult
        exact ⟨hread, .inr ⟨hiff.mp rfl, rfl⟩⟩
    | false =>
        cases hresult
        refine ⟨hread, .inl ⟨?_, rfl⟩⟩
        by_contra hno
        cases hiff.mpr hno
  · rintro ⟨hread, hresult⟩
    obtain ⟨found, hfound⟩ := (returns_resolves _ _).mpr hread.2
    have hiff := resolves_text_iff hread
    rw [hfound] at hiff
    refine ⟨hread.1, found, hfound, ?_⟩
    rcases hresult with ⟨hdangles, rfl⟩ | ⟨hno, rfl⟩
    · cases found with
      | true => exact absurd hdangles (hiff.mp rfl)
      | false => rfl
    · cases hiff.mpr hno
      rfl

lemma returns_checkRef {api j : Json} (h : j.isObject = true) {list key error : String} :
    Returns (checkRef (listAt api list) j key error) ↔ LinkRead api list j key := by
  constructor
  · rintro ⟨result, hresult⟩
    exact ((checkRef_eq_ok_iff h).mp hresult).1
  · intro hread
    by_cases hdangles : Dangles api list j key
    · exact ⟨_, (checkRef_eq_ok_iff h).mpr ⟨hread, .inl ⟨hdangles, rfl⟩⟩⟩
    · exact ⟨_, (checkRef_eq_ok_iff h).mpr ⟨hread, .inr ⟨hdangles, rfl⟩⟩⟩

lemma not_dangles_of_not_isObject {api j : Json} (h : ¬j.isObject = true) (list key : String) :
    ¬Dangles api list j key := by
  rintro ⟨oid, hoid, -⟩
  exact h (Json.isObject_of_find? hoid)

/-! ### The items of a connector -/

/-- The refusal of an item. -/
def danglingEndpoint (label : String) : String :=
  "connector '" ++ label ++ "' collects an endpoint that does not exist — " ++
    "remove that entry from the connector first"

/-- The refusal of a connector's own reference. -/
def danglingKey (label : String) : String :=
  "connector '" ++ label ++ "' references an API key that does not exist — " ++
    "re-point or remove that connector first"

/-- One item: passed over when it is no object. -/
def checkItem (endpoints : Json) (label : String) (item : Json) :
    Except JsonError (Option String) :=
  if item.isObject then checkRef endpoints item "endpoint" (danglingEndpoint label) else .ok none

lemma checkItems_eq (endpoints : Json) (label : String) (items : List Json) :
    checkItems endpoints label items = firstHit (checkItem endpoints label) items := by
  induction items with
  | nil => rfl
  | cons item rest ih =>
      rw [checkItems, firstHit, checkItem]
      split
      · rw [checkRef, bind_assoc]
        refine bind_congr fun endpoint => ?_
        rw [bind_assoc]
        refine bind_congr fun found => ?_
        cases found with
        | true => exact ih
        | false => rfl
      · exact ih

/-- An item is read where it is an object. -/
def ItemRead (api item : Json) : Prop :=
  item.isObject = true → LinkRead api "endpoints" item "endpoint"

lemma decides_checkItem (api : Json) (label : String) :
    Decides (checkItem (listAt api "endpoints") label) (ItemRead api)
      (fun item => Dangles api "endpoints" item "endpoint")
      (fun _ e => e = danglingEndpoint label) where
  returns item := by
    rw [checkItem, ItemRead]
    split
    · next hobj => simp [returns_checkRef hobj, hobj]
    · next hobj => simp [hobj]
  clear item h := by
    rw [checkItem] at h
    split at h
    · next hobj =>
        rcases ((checkRef_eq_ok_iff hobj).mp h).2 with ⟨-, hnone⟩ | ⟨hno, -⟩
        · cases hnone
        · exact hno
    · next hobj => exact not_dangles_of_not_isObject hobj _ _
  hit item e h := by
    rw [checkItem] at h
    split at h
    · next hobj =>
        rcases ((checkRef_eq_ok_iff hobj).mp h).2 with ⟨hdangles, heq⟩ | ⟨-, hsome⟩
        · cases heq
          exact ⟨hdangles, rfl⟩
        · cases hsome
    · cases h

/-! ### The connectors of a section -/

lemma mem_connectorItems {c item : Json} : item ∈ connectorItems c ↔
    ∃ items, c.find? "items" = some (.arr items) ∧ item ∈ items := by
  rw [connectorItems]
  cases hfind : c.find? "items" with
  | none => simp [Json.elements, Json.isArray]
  | some v => cases v <;> simp [Json.elements, Json.isArray]

/-- What an error calls a connector. -/
def labelOf (c : Json) : String := c.textOr "name" (c.textOr "oid" "unnamed")

/-- Some item of the connector dangles. -/
def ItemDangles (api c : Json) : Prop :=
  ∃ item ∈ connectorItems c, Dangles api "endpoints" item "endpoint"

/-- Some reference of the connector dangles. -/
def ConnectorDangles (api c : Json) : Prop :=
  ItemDangles api c ∨ Dangles api "api_credentials" c "auth_profile"

/-- The error that a connector is refused with: its items come first. -/
def IsRefusal (api c : Json) (e : String) : Prop :=
  (ItemDangles api c ∧ e = danglingEndpoint (labelOf c)) ∨
    (¬ItemDangles api c ∧ e = danglingKey (labelOf c))

/-- The members a connector is checked by, up to the first that dangles. -/
def LinksRead (api c : Json) : Prop :=
  c.isObject = true → c.stringOrAbsent "oid" = true ∧ c.stringOrAbsent "name" = true ∧
    UpToFirst (fun item => Dangles api "endpoints" item "endpoint") (ItemRead api)
      (connectorItems c) ∧
    (¬ItemDangles api c → LinkRead api "api_credentials" c "auth_profile")

/-- One connector of the loop: passed over when it is no object. -/
def checkEntry (endpoints apiKeys c : Json) : Except JsonError (Option String) :=
  if c.isObject then checkConnector endpoints apiKeys c else .ok none

lemma checkConnectors_eq (endpoints apiKeys : Json) (cs : List Json) :
    checkConnectors endpoints apiKeys cs = firstHit (checkEntry endpoints apiKeys) cs := by
  induction cs with
  | nil => rfl
  | cons c rest ih =>
      rw [checkConnectors, firstHit, checkEntry]
      split
      · refine bind_congr fun error => ?_
        cases error with
        | none => exact ih
        | some e => rfl
      · exact ih

/-- A connector is its names, its items and its key. -/
lemma checkConnector_eq_ok_iff {api c : Json} (h : c.isObject = true) {result : Option String} :
    checkConnector (listAt api "endpoints") (listAt api "api_credentials") c = .ok result ↔
      c.stringOrAbsent "oid" = true ∧ c.stringOrAbsent "name" = true ∧
        ∃ error, firstHit (checkItem (listAt api "endpoints") (labelOf c)) (connectorItems c) =
            .ok error ∧
          ((∃ e, error = some e ∧ result = some e) ∨ (error = none ∧
            checkRef (listAt api "api_credentials") c "auth_profile" (danglingKey (labelOf c)) =
              .ok result)) := by
  rw [checkConnector, Json.bind_text_eq_ok_iff h, Json.bind_text_eq_ok_iff h,
    Json.valueJson_of_isObject h]
  refine and_congr_right fun _ => and_congr_right fun _ => ?_
  change (checkItems _ (labelOf c) (connectorItems c) >>= _) = _ ↔ _
  rw [except_bind_eq_ok, checkItems_eq]
  refine exists_congr fun error => and_congr_right fun _ => ?_
  cases error with
  | some e =>
      change (pure (some e) : Except JsonError _) = _ ↔ _
      simp [pure, Except.pure, eq_comm]
  | none =>
      change checkRef _ _ _ (danglingKey (labelOf c)) = _ ↔ _
      simp

lemma decides_checkEntry (api : Json) :
    Decides (checkEntry (listAt api "endpoints") (listAt api "api_credentials")) (LinksRead api)
      (ConnectorDangles api) (IsRefusal api) where
  returns c := by
    rw [checkEntry, LinksRead]
    have hitems := (decides_checkItem api (labelOf c)).firstHit
    split
    · next hobj =>
        simp only [hobj, true_imp_iff]
        constructor
        · rintro ⟨result, hresult⟩
          obtain ⟨hoid, hname, error, herror, hrest⟩ := (checkConnector_eq_ok_iff hobj).mp hresult
          refine ⟨hoid, hname, (hitems.returns _).mp ⟨error, herror⟩, fun hno => ?_⟩
          rcases hrest with ⟨e, rfl, -⟩ | ⟨-, hkey⟩
          · exact absurd (hitems.hit _ _ herror).1 hno
          · exact (returns_checkRef hobj).mp ⟨result, hkey⟩
        · rintro ⟨hoid, hname, hread, hkey⟩
          obtain ⟨error, herror⟩ := (hitems.returns _).mpr hread
          cases error with
          | some e =>
              exact ⟨some e, (checkConnector_eq_ok_iff hobj).mpr
                ⟨hoid, hname, _, herror, .inl ⟨e, rfl, rfl⟩⟩⟩
          | none =>
              have hreturns : Returns (checkRef (listAt api "api_credentials") c "auth_profile"
                  (danglingKey (labelOf c))) :=
                (returns_checkRef hobj).mpr (hkey (hitems.clear _ herror))
              obtain ⟨result, hresult⟩ := hreturns
              exact ⟨result, (checkConnector_eq_ok_iff hobj).mpr
                ⟨hoid, hname, _, herror, .inr ⟨rfl, hresult⟩⟩⟩
    · next hobj => simp [hobj]
  clear c h := by
    rw [checkEntry] at h
    have hitems := (decides_checkItem api (labelOf c)).firstHit
    split at h
    · next hobj =>
        obtain ⟨-, -, error, herror, hrest⟩ := (checkConnector_eq_ok_iff hobj).mp h
        rcases hrest with ⟨e, -, hsome⟩ | ⟨rfl, hkey⟩
        · cases hsome
        · rcases ((checkRef_eq_ok_iff hobj).mp hkey).2 with ⟨-, hnone⟩ | ⟨hno, -⟩
          · cases hnone
          · exact not_or.mpr ⟨hitems.clear _ herror, hno⟩
    · next hobj =>
        refine not_or.mpr ⟨?_, not_dangles_of_not_isObject hobj _ _⟩
        rintro ⟨item, hitem, -⟩
        obtain ⟨items, hitems, -⟩ := mem_connectorItems.mp hitem
        exact hobj (Json.isObject_of_find? hitems)
  hit c e h := by
    rw [checkEntry] at h
    have hitems := (decides_checkItem api (labelOf c)).firstHit
    split at h
    · next hobj =>
        obtain ⟨-, -, error, herror, hrest⟩ := (checkConnector_eq_ok_iff hobj).mp h
        rcases hrest with ⟨e', rfl, heq⟩ | ⟨rfl, hkey⟩
        · cases heq
          obtain ⟨hdangles, -, item, -, -, -, -, hmsg⟩ := hitems.hit _ _ herror
          exact ⟨.inl hdangles, .inl ⟨hdangles, hmsg⟩⟩
        · rcases ((checkRef_eq_ok_iff hobj).mp hkey).2 with ⟨hdangles, heq⟩ | ⟨-, hsome⟩
          · cases heq
            exact ⟨.inr hdangles, .inr ⟨hitems.clear _ herror, rfl⟩⟩
          · cases hsome
    · cases h

/-! ### The section -/

/-- Every reference of every connector resolves, connector by connector. -/
lemma refsResolve_iff {api : Json} : RefsResolve api ↔
    ∀ cs, api.find? "connectors" = some (.arr cs) → ∀ c ∈ cs, ¬ConnectorDangles api c := by
  refine forall_congr' fun cs => imp_congr_right fun _ => forall_congr' fun c =>
    imp_congr_right fun _ => ?_
  rw [ConnectorDangles, not_or]
  refine and_congr ?_ ?_
  · constructor
    · rintro h ⟨item, hitem, endpoint, hendpoint, hne, hnone⟩
      obtain ⟨items, hitems, hmem⟩ := mem_connectorItems.mp hitem
      exact hnone (h items hitems item hmem endpoint hendpoint hne)
    · intro h items hitems item hmem endpoint hendpoint hne
      by_contra hnone
      exact h ⟨item, mem_connectorItems.mpr ⟨items, hitems, hmem⟩, endpoint, hendpoint, hne, hnone⟩
  · constructor
    · rintro h ⟨profile, hprofile, hne, hnone⟩
      exact hnone (h profile hprofile hne)
    · intro h profile hprofile hne
      by_contra hnone
      exact h ⟨profile, hprofile, hne, hnone⟩

/-- The members the check of a section reads: strings or absent, up to the first
connector that dangles. -/
def SectionRead (api : Json) : Prop :=
  ∀ cs, api.find? "connectors" = some (.arr cs) →
    UpToFirst (ConnectorDangles api) (LinksRead api) cs

/-- The error is the refusal of the first connector with a dangling reference. -/
def NamesFirst (api : Json) (e : String) : Prop :=
  ∃ cs, api.find? "connectors" = some (.arr cs) ∧
    IsFirstHit (ConnectorDangles api) (IsRefusal api) cs e

/-- The check passes a section just where every reference resolves, and an error
names the first connector that is in the way. -/
def Exact (api : Json) (result : Option String) : Prop :=
  (result = none ↔ RefsResolve api) ∧ ∀ e, result = some e → NamesFirst api e

/-- The check of a section is the search through its connectors. -/
lemma checkApiReferences_eq {api : Json} {cs : List Json}
    (hcs : api.find? "connectors" = some (.arr cs)) : checkApiReferences api =
      firstHit (checkEntry (listAt api "endpoints") (listAt api "api_credentials")) cs := by
  have hobj := Json.isObject_of_find? hcs
  rw [checkApiReferences, if_pos hobj, Json.valueJson_of_isObject hobj,
    Json.valueJson_of_isObject hobj, Json.valueJson_of_isObject hobj, hcs, ← checkConnectors_eq]
  rfl

/-- A section without a list of connectors passes. -/
lemma checkApiReferences_of_none {api : Json}
    (hnone : ¬∃ cs, api.find? "connectors" = some (.arr cs)) :
    checkApiReferences api = .ok none := by
  rw [checkApiReferences]
  split
  · next hobj =>
      rw [Json.valueJson_of_isObject hobj, Json.valueJson_of_isObject hobj,
        Json.valueJson_of_isObject hobj]
      cases hfind : api.find? "connectors" with
      | none => rfl
      | some v =>
          cases v with
          | arr cs => exact absurd ⟨cs, hfind⟩ hnone
          | _ => rfl
  · rfl

/-- **The check is exact on what it can read**, and on nothing else. -/
theorem checkApiReferences_exact_iff (api : Json) :
    (∃ result, checkApiReferences api = .ok result ∧ Exact api result) ↔ SectionRead api := by
  by_cases hlist : ∃ cs, api.find? "connectors" = some (.arr cs)
  · obtain ⟨cs, hcs⟩ := hlist
    have hsearch := (decides_checkEntry api).firstHit
    have hsection : SectionRead api ↔ UpToFirst (ConnectorDangles api) (LinksRead api) cs := by
      simp [SectionRead, hcs]
    have hresolve : RefsResolve api ↔ ¬∃ c ∈ cs, ConnectorDangles api c := by
      simp [refsResolve_iff, hcs]
    rw [checkApiReferences_eq hcs, hsection, ← hsearch.returns]
    refine exists_congr fun result => and_iff_left_of_imp fun hresult => ?_
    rw [Exact, hresolve]
    cases result with
    | none => exact ⟨iff_of_true rfl (hsearch.clear cs hresult), by simp⟩
    | some e =>
        obtain ⟨hdangles, hfirst⟩ := hsearch.hit cs e hresult
        refine ⟨iff_of_false (by simp) (not_not.mpr hdangles), fun e' he' => ?_⟩
        cases he'
        exact ⟨cs, hcs, hfirst⟩
  · have hpass := checkApiReferences_of_none hlist
    have hvacuous : RefsResolve api := fun cs hcs => absurd ⟨cs, hcs⟩ hlist
    refine iff_of_true ⟨none, hpass, iff_of_true rfl hvacuous, by simp⟩ fun cs hcs => ?_
    exact absurd ⟨cs, hcs⟩ hlist

/-- A section with a connector whose name is a number. -/
def numberedConnector : Json :=
  .obj [("connectors", .arr [.obj [("name", .int 5), ("oid", .str "conn-1")]])]

/-- The check throws on it. -/
theorem numberedConnector_thrown : numberedConnector.isObject = true ∧
    ¬∃ result, checkApiReferences numberedConnector = .ok result ∧
      Exact numberedConnector result := by
  refine ⟨rfl, ?_⟩
  rintro ⟨result, hresult, -⟩
  have hthrows : checkApiReferences numberedConnector = .error .wrongType := by decide +kernel
  rw [hthrows] at hresult
  cases hresult

end Pretzel.Mgmtd
