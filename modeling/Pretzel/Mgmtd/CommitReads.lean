import Pretzel.Mgmtd.SettingsController

/-!
The typed reads of the commit endpoint, and the requests it answers.

`value()` throws where a member is of another type, and the handler catches
nothing. Each validator reads up to its first refusal, so what is asked of an entry
ends there too.

* `TextsRead`, `EndpointRead`, `ConnectorRead`, `ProvidersRead`, `ServicesRead`,
  `UsersRead`, `ShapeRead`: the members a validator reads are of the types it reads
  them as. Each comes with the validator it is about.
* `RefsRead`: the same, of the check of references.
* `connectorView`: what a batch brings to the connector domain.
* `Readable`: the reads of a request.
* **`commit_answers_iff`**: the requests that are answered.
* `number_thrown`: one that is not.
-/

namespace Pretzel.Mgmtd

open Nlohmann Ipc Config

/-! ### Entries of an array -/

/-- The texts that are asked for, up to the first that is not there. -/
def TextsRead (j : Json) : List String → Prop
  | [] => True
  | key :: keys => j.stringOrAbsent key = true ∧ (j.textOr key "" ≠ "" → TextsRead j keys)

lemma returns_requireStrings {j : Json} (h : j.isObject = true) (keys : List String) :
    Returns (requireStrings j keys) ↔ TextsRead j keys := by
  induction keys with
  | nil => simp [requireStrings, TextsRead]
  | cons key keys ih =>
      rw [requireStrings, Json.returns_text h, TextsRead]
      refine and_congr_right fun _ => ?_
      split
      · next hempty => simp [hempty]
      · next hne => simp [hne, ih]

/-- The names of a name/value list, up to the first that is not there. -/
def PairEntriesRead : List Json → Prop
  | [] => True
  | p :: rest => p.isObject = true →
      p.stringOrAbsent "name" = true ∧ (p.textOr "name" "" ≠ "" → PairEntriesRead rest)

lemma returns_validPairEntries (ps : List Json) :
    Returns (validPairEntries ps) ↔ PairEntriesRead ps := by
  induction ps with
  | nil => simp [validPairEntries, PairEntriesRead]
  | cons p rest ih =>
      rw [validPairEntries, PairEntriesRead]
      split
      · next hobj =>
          rw [Json.returns_text hobj]
          simp only [hobj, true_imp_iff]
          refine and_congr_right fun _ => ?_
          split
          · next hempty => simp [hempty]
          · next hne => simp [hne, ih]
      · next hobj => simp [hobj]

/-- A name/value list, where there is one. -/
def PairsRead (e : Json) (key : String) : Prop :=
  ∀ ps, e.find? key = some (.arr ps) → PairEntriesRead ps

lemma returns_validPairs (e : Json) (key : String) :
    Returns (validPairs e key) ↔ PairsRead e key := by
  rw [validPairs, PairsRead]
  split
  · next hnone => simp [hnone]
  · next ps hps => simp [hps, returns_validPairEntries]
  · next v hother hv =>
      refine iff_of_true (returns_ok _) fun ps hps => ?_
      exact absurd (Option.some.inj (hv.symm.trans hps)) (hother ps)

/-- Headers that are valid have a name each. -/
lemma returns_noAuthorization {hs : List Json} (h : validPairEntries hs = .ok true) :
    Returns (noAuthorization hs) := by
  induction hs with
  | nil => exact returns_ok _
  | cons p rest ih =>
      rw [validPairEntries] at h
      split at h
      · next hobj =>
          rw [except_bind_eq_ok] at h
          obtain ⟨name, hname, h⟩ := h
          rw [noAuthorization, hname]
          split at h
          · cases h
          · change Returns (if _ then _ else _)
            split
            · exact returns_pure _
            · exact ih h
      · cases h

/-- The host and the headers of an endpoint of a cloud product. -/
def SaseRead (e : Json) (subtype : String) : Prop :=
  subtype = "ztna" → e.stringOrAbsent "host" = true ∧
    (¬(e.textOr "host" "" = "" ∨ '/' ∈ (e.textOr "host" "").toList) → PairsRead e "headers")

lemma returns_validSaseEndpoint {e : Json} (h : e.isObject = true) (subtype : String) :
    Returns (validSaseEndpoint e subtype) ↔ SaseRead e subtype := by
  rw [validSaseEndpoint, SaseRead]
  split
  · next hztna =>
      rw [Json.returns_text h]
      simp only [hztna, true_imp_iff]
      refine and_congr_right fun _ => ?_
      split
      · next hbad => simp [hbad]
      · next hgood =>
          rw [returns_bind_bool, returns_validPairs, Json.valueJson_of_isObject h]
          simp only [hgood, not_false_eq_true, true_imp_iff, and_iff_left_iff_imp]
          intro _ hvalid
          rw [validPairs] at hvalid
          split at hvalid
          · next hnone => simp [hnone, bind, Except.bind, Json.elements, noAuthorization]
          · next ps hps => simpa [hps, bind, Except.bind, Json.elements] using
              returns_noAuthorization hvalid
          · cases hvalid
  · next hother => simp [hother]

/-- The members of an endpoint. -/
def EndpointRead (e : Json) : Prop :=
  TextsRead e ["oid", "name"] ∧ (requireStrings e ["oid", "name"] = .ok true →
    e.stringOrAbsent "path" = true ∧ ((e.textOr "path" "").toList.head? = some '/' →
      PairsRead e "params" ∧ (validPairs e "params" = .ok true →
        e.stringOrAbsent "device_type" = true ∧
        (e.textOr "device_type" "ngfw" = "sase" → e.stringOrAbsent "product" = true ∧
          e.stringOrAbsent "subtype" = true ∧
            SaseRead e (e.textOr "subtype" (e.textOr "product" "ztna"))) ∧
        (e.textOr "device_type" "ngfw" = "ngfw" → e.stringOrAbsent "api_type" = true ∧
          e.stringOrAbsent "subtype" = true))))

lemma returns_validApiEndpoint (e : Json) :
    Returns (validApiEndpoint e) ↔ (e.isObject = true → EndpointRead e) := by
  rw [validApiEndpoint]
  split
  · next h =>
      rw [returns_bind_bool, returns_requireStrings h, Json.returns_text h, EndpointRead]
      simp only [h, true_imp_iff]
      refine and_congr_right fun _ => imp_congr_right fun _ => and_congr_right fun _ => ?_
      split
      · next hslash =>
          rw [returns_bind_bool, returns_validPairs, Json.returns_text h]
          simp only [hslash, true_imp_iff]
          refine and_congr_right fun _ => imp_congr_right fun _ => and_congr_right fun _ => ?_
          split
          · next hsase =>
              rw [Json.returns_text h, Json.returns_text h, returns_validSaseEndpoint h]
              simp [hsase]
          · split
            · next hsase hngfw =>
                rw [Json.returns_text h, Json.returns_text h]
                simp [hngfw]
            · next hsase hngfw => simp [hsase, hngfw]
      · next hslash => simp [hslash]
  · next h => simp [h]

/-- The endpoints of a connector's items, up to the first item that is not valid. -/
def ItemsRead : List Json → Prop
  | [] => True
  | item :: rest => (item.isObject = true → item.stringOrAbsent "endpoint" = true) ∧
      (validConnectorItem item = .ok true → ItemsRead rest)

lemma returns_validConnectorItem (item : Json) : Returns (validConnectorItem item) ↔
    (item.isObject = true → item.stringOrAbsent "endpoint" = true) := by
  rw [validConnectorItem]
  split
  · next h =>
      rw [Json.returns_text h]
      simp only [h, true_imp_iff, and_iff_left_iff_imp]
      intro _
      split
      · exact returns_pure _
      · cases hinterval : item.find? "poll_interval_sec" with
        | none => simp [pure_bind]
        | some v =>
            cases v <;> simp [Json.isNumberInteger, Json.getInt64, bind, Except.bind, pure,
              Except.pure]
  · next h => simp [h]

lemma returns_validConnectorItems (items : List Json) :
    Returns (validConnectorItems items) ↔ ItemsRead items := by
  induction items with
  | nil => simp [validConnectorItems, ItemsRead]
  | cons item rest ih =>
      rw [validConnectorItems, returns_bind_bool, returns_validConnectorItem, ih, ItemsRead]

/-- The members of a connector. -/
def ConnectorRead (c : Json) : Prop :=
  TextsRead c ["oid", "object", "auth_profile"] ∧
    (requireStrings c ["oid", "object", "auth_profile"] = .ok true →
      (c.contains "endpoint" || c.contains "params" || c.contains "poll_interval_sec") = false →
        ∀ items, c.find? "items" = some (.arr items) → ItemsRead items)

lemma returns_validApiConnector (c : Json) :
    Returns (validApiConnector c) ↔ (c.isObject = true → ConnectorRead c) := by
  rw [validApiConnector]
  split
  · next h =>
      rw [returns_bind_bool, returns_requireStrings h, ConnectorRead]
      simp only [h, true_imp_iff]
      refine and_congr_right fun _ => imp_congr_right fun _ => ?_
      split
      · next hlegacy => simp [hlegacy]
      · next hlegacy =>
          rw [Bool.not_eq_true] at hlegacy
          simp only [hlegacy, true_imp_iff]
          split
          · next items hitems => simp [hitems, returns_validConnectorItems]
          · next hnone =>
              exact iff_of_true (returns_pure _) fun items hitems => absurd hitems (hnone items)
  · next h => simp [h]

/-- The entries of an array, up to the first that is refused, whose name is read. -/
def EntriesRead (validEntry : Json → Except JsonError Bool) (reads : Json → Prop) :
    List Json → Prop
  | [] => True
  | entry :: rest => (entry.isObject = true → reads entry) ∧
      (validEntry entry = .ok true → EntriesRead validEntry reads rest) ∧
      (validEntry entry = .ok false → entry.isObject = true → entry.stringOrAbsent "name" = true)

lemma returns_validateEntries {validEntry : Json → Except JsonError Bool} {reads : Json → Prop}
    (h : ∀ e, Returns (validEntry e) ↔ (e.isObject = true → reads e)) (key : String)
    (es : List Json) (idx : ℕ) :
    Returns (validateEntries key validEntry idx es) ↔ EntriesRead validEntry reads es := by
  induction es generalizing idx with
  | nil => simp [validateEntries, EntriesRead]
  | cons entry rest ih =>
      rw [validateEntries, returns_bind, h, EntriesRead]
      refine and_congr_right fun _ => ⟨fun hall => ⟨fun hvalid => ?_, fun hvalid hobj => ?_⟩, ?_⟩
      · exact (ih _).mp (by simpa using hall true hvalid)
      · have hname := hall false hvalid
        simp only [Bool.false_eq_true, if_false, hobj, if_true] at hname
        exact ((Json.returns_text hobj).mp hname).1
      · rintro ⟨hrest, hname⟩ valid hvalid
        cases valid with
        | true => simpa using (ih _).mpr (hrest hvalid)
        | false =>
            simp only [Bool.false_eq_true, if_false]
            split
            · next hobj => exact (Json.returns_text hobj).mpr ⟨hname hvalid hobj, returns_pure _⟩
            · exact returns_pure _

/-! ### The domains with a list -/

/-- The id of a model, none where the entry is no object. -/
def modelId (m : Json) : String := if m.isObject then m.textOr "id" "" else ""

/-- The ids of a provider's models, up to the first that is refused. -/
def ModelsRead : List String → List Json → Prop
  | _, [] => True
  | seen, m :: rest => (m.isObject = true → m.stringOrAbsent "id" = true) ∧
      (modelId m ≠ "" → '/' ∉ (modelId m).toList → modelId m ∉ seen →
        ModelsRead (modelId m :: seen) rest)

lemma returns_validateModels (at_ : String) (ms : List Json) (idx : ℕ) (seen : List String) :
    Returns (validateModels at_ idx seen ms) ↔ ModelsRead seen ms := by
  induction ms generalizing idx seen with
  | nil => simp [validateModels, ModelsRead]
  | cons m rest ih =>
      have hverdict : ∀ mid, Returns (if mid = "" then
          (pure (some (indexed (at_ ++ ".models") idx ++ " has no model id")) :
            Except JsonError (Option String))
        else if '/' ∈ mid.toList then
          pure (some (indexed (at_ ++ ".models") idx ++ " (\"" ++ mid ++
            "\") must be the bare model name — the provider is " ++ "the entry it sits under"))
        else if mid ∈ seen then
          pure (some (indexed (at_ ++ ".models") idx ++ " repeats model '" ++ mid ++ "'"))
        else validateModels at_ (idx + 1) (mid :: seen) rest) ↔
          (mid ≠ "" → '/' ∉ mid.toList → mid ∉ seen → ModelsRead (mid :: seen) rest) := by
        intro mid
        rw [← ih (idx + 1) (mid :: seen)]
        split
        · next h => simp [h]
        · split
          · next h => simp [h]
          · split
            · next h => simp [h]
            · next h₁ h₂ h₃ => simp [h₁, h₂, h₃]
      rw [validateModels, ModelsRead, modelId]
      cases hobj : m.isObject with
      | true =>
          simp only [if_true, true_imp_iff]
          rw [Json.returns_text hobj]
          exact and_congr_right fun _ => hverdict _
      | false =>
          simp only [Bool.false_eq_true, if_false, false_imp_iff, true_and]
          rw [pure_bind]
          exact hverdict ""

/-- The members of the providers, up to the first that is refused. -/
def ProvidersRead : ℕ → List String → List Json → Prop
  | _, _, [] => True
  | idx, seen, p :: rest => p.isObject = true → p.stringOrAbsent "id" = true ∧
      (p.textOr "id" "" ∈ kAiProviders → p.textOr "id" "" ∉ seen →
        (p.find? "models" = none → ProvidersRead (idx + 1) (p.textOr "id" "" :: seen) rest) ∧
        ∀ models, p.find? "models" = some (.arr models) → ModelsRead [] models ∧
          (validateModels (indexed "providers.list" idx) 0 [] models = .ok none →
            rejectSecrets p (indexed "providers.list" idx) = none →
              ProvidersRead (idx + 1) (p.textOr "id" "" :: seen) rest))

lemma returns_validateProviders (ps : List Json) (idx : ℕ) (seen : List String) :
    Returns (validateProviders idx seen ps) ↔ ProvidersRead idx seen ps := by
  induction ps generalizing idx seen with
  | nil => simp [validateProviders, ProvidersRead]
  | cons p rest ih =>
      rw [validateProviders, ProvidersRead]
      split
      · next hobj =>
          rw [Json.returns_text hobj]
          simp only [hobj, true_imp_iff]
          refine and_congr_right fun _ => ?_
          split
          · next hunknown => simp [hunknown]
          · next hknown =>
              rw [not_not] at hknown
              simp only [hknown, true_imp_iff]
              split
              · next hseen => simp [hseen]
              · next hnew =>
                  simp only [hnew, not_false_eq_true, true_imp_iff]
                  split
                  · next hnone => simp [hnone, ih]
                  · next models hmodels =>
                      rw [returns_bind_option (by intro e; exact returns_pure _), returns_validateModels]
                      simp only [hmodels, reduceCtorEq, false_imp_iff, true_and, Option.some.injEq,
                        Json.arr.injEq, forall_eq']
                      refine and_congr_right fun _ => imp_congr_right fun _ => ?_
                      split
                      · next e he => simp [he]
                      · next hclean => simp [hclean, ih]
                  · next v hother hv =>
                      refine iff_of_true (returns_pure _) ⟨fun hnone => ?_, fun models hmodels => ?_⟩
                      · rw [hv] at hnone
                        cases hnone
                      · exact absurd (Option.some.inj (hv.symm.trans hmodels)) (hother models)
      · next hobj => simp [hobj]

/-- The members of an engine. -/
def ServiceRead (at_ : String) (e : Json) : Prop :=
  e.isObject = true → rejectSecrets e at_ = none → e.stringOrAbsent "service" = true ∧
    (e.textOr "service" "" ∈ kAiServices → e.stringOrAbsent "guardrail" = true)

lemma returns_validateServiceEntry (e : Json) (at_ : String) :
    Returns (validateServiceEntry e at_) ↔ ServiceRead at_ e := by
  rw [validateServiceEntry, ServiceRead]
  split
  · next hobj =>
      simp only [hobj, true_imp_iff]
      split
      · next error herror => simp [herror]
      · next hclean =>
          rw [Json.returns_text hobj]
          simp only [hclean, true_imp_iff]
          refine and_congr_right fun _ => ?_
          split
          · next hunknown => simp [hunknown]
          · next hknown =>
              rw [not_not] at hknown
              rw [Json.returns_text hobj]
              simp only [hknown, true_imp_iff, and_iff_left_iff_imp]
              intro _
              split <;> exact returns_pure _
  · next hobj => simp [hobj]

/-- An engine that is accepted is an object with a text. -/
lemma service_of_validateServiceEntry {e : Json} {at_ : String}
    (h : validateServiceEntry e at_ = .ok none) :
    e.isObject = true ∧ e.stringOrAbsent "service" = true := by
  have hread := (returns_validateServiceEntry e at_).mp ⟨_, h⟩
  rw [validateServiceEntry] at h
  split at h
  · next hobj =>
      split at h
      · cases h
      · next hclean => exact ⟨hobj, (hread hobj hclean).1⟩
  · cases h

/-- The members of the engines, up to the first that is refused. -/
def ServicesRead : ℕ → List String → List Json → Prop
  | _, _, [] => True
  | idx, seen, e :: rest => ServiceRead (indexed "guardrail.list" idx) e ∧
      (validateServiceEntry e (indexed "guardrail.list" idx) = .ok none →
        e.textOr "service" "" ∉ seen →
          ServicesRead (idx + 1) (e.textOr "service" "" :: seen) rest)

lemma returns_validateServices (es : List Json) (idx : ℕ) (seen : List String) :
    Returns (validateServices idx seen es) ↔ ServicesRead idx seen es := by
  induction es generalizing idx seen with
  | nil => simp [validateServices, ServicesRead]
  | cons e rest ih =>
      rw [validateServices, ServicesRead]
      rw [returns_bind_option (by intro e; exact returns_pure _), returns_validateServiceEntry]
      refine and_congr_right fun _ => imp_congr_right fun hvalid => ?_
      obtain ⟨hobj, hservice⟩ := service_of_validateServiceEntry hvalid
      dsimp only
      rw [Json.returns_text hobj]
      simp only [hservice, true_and]
      split
      · next hseen => simp [hseen]
      · next hnew => simp [hnew, ih]

/-- The members of an account. -/
def UserRead (at_ : String) (u : Json) : Prop :=
  u.isObject = true → rejectSecrets u at_ = none → u.stringOrAbsent "oid" = true ∧
    (u.textOr "oid" "" ≠ "" → u.stringOrAbsent "role" = true ∧
      (u.textOr "role" "" = "admin" ∨ u.textOr "role" "" = "user" →
        u.stringOrAbsent "username" = true))

lemma returns_validUserEntry (u : Json) (at_ : String) :
    Returns (validUserEntry u at_) ↔ UserRead at_ u := by
  rw [validUserEntry, UserRead]
  split
  · next hobj =>
      simp only [hobj, true_imp_iff]
      split
      · next error herror => simp [herror]
      · next hclean =>
          rw [Json.returns_text hobj]
          simp only [hclean, true_imp_iff]
          refine and_congr_right fun _ => ?_
          split
          · next hempty => simp [hempty]
          · next hoid =>
              rw [Json.returns_text hobj]
              simp only [ne_eq, hoid, not_false_eq_true, true_imp_iff]
              refine and_congr_right fun _ => ?_
              split
              · next hrole =>
                  refine iff_of_true (returns_pure _) fun hknown => ?_
                  exact absurd hknown (not_or.mpr hrole)
              · next hrole =>
                  have hknown : u.textOr "role" "" = "admin" ∨ u.textOr "role" "" = "user" := by
                    tauto
                  rw [Json.returns_text hobj]
                  simp only [hknown, true_imp_iff, and_iff_left_iff_imp]
                  intro _
                  repeat' split
                  all_goals exact returns_pure _
  · next hobj => simp [hobj]

/-- An account that is accepted is an object with texts. -/
lemma texts_of_validUserEntry {u : Json} {at_ : String} (h : validUserEntry u at_ = .ok none) :
    u.isObject = true ∧ u.stringOrAbsent "oid" = true ∧ u.stringOrAbsent "username" = true := by
  have hread := (returns_validUserEntry u at_).mp ⟨_, h⟩
  rw [validUserEntry] at h
  split at h
  · next hobj =>
      split at h
      · cases h
      · next hclean =>
          obtain ⟨hoid, hrest⟩ := hread hobj hclean
          rw [except_bind_eq_ok] at h
          obtain ⟨oid, ho, h⟩ := h
          obtain ⟨-, rfl⟩ := (Json.valueString_eq_ok_iff hobj).mp ho
          split at h
          · cases h
          · next hne =>
              obtain ⟨hrole, hname⟩ := hrest hne
              rw [except_bind_eq_ok] at h
              obtain ⟨role, hr, h⟩ := h
              obtain ⟨-, rfl⟩ := (Json.valueString_eq_ok_iff hobj).mp hr
              split at h
              · cases h
              · next hknown => exact ⟨hobj, hoid, hname (by tauto)⟩
  · cases h

/-- The roles, up to the first admin. -/
def RolesRead : List Json → Prop
  | [] => True
  | u :: rest => (u.isObject = true → u.stringOrAbsent "role" = true) ∧
      (¬(u.isObject = true ∧ u.textOr "role" "" = "admin") → RolesRead rest)

lemma returns_anyAdmin (us : List Json) : Returns (anyAdmin us) ↔ RolesRead us := by
  induction us with
  | nil => simp [anyAdmin, RolesRead]
  | cons u rest ih =>
      rw [anyAdmin, RolesRead]
      cases hobj : u.isObject with
      | true =>
          simp only [if_true, true_imp_iff, true_and]
          rw [Json.returns_text hobj]
          refine and_congr_right fun _ => ?_
          split
          · next hadmin => simp [hadmin]
          · next hadmin => simp [hadmin, ih]
      | false =>
          simp only [Bool.false_eq_true, if_false, false_imp_iff, true_and, false_and,
            not_false_eq_true, true_imp_iff, pure_bind]
          rw [if_neg (by decide), ih]

/-- The members of the accounts, up to the first that is refused. -/
def AccountsRead : ℕ → List String → List String → List Json → Prop
  | _, _, _, [] => True
  | idx, oids, names, u :: rest => UserRead (indexed "user.list" idx) u ∧
      (validUserEntry u (indexed "user.list" idx) = .ok none → u.textOr "oid" "" ∉ oids →
        (u.textOr "username" "").toLower ∉ names →
          AccountsRead (idx + 1) (u.textOr "oid" "" :: oids)
            ((u.textOr "username" "").toLower :: names) rest)

lemma returns_validateAccounts (us : List Json) (idx : ℕ) (oids names : List String) :
    Returns (validateAccounts idx oids names us) ↔ AccountsRead idx oids names us := by
  induction us generalizing idx oids names with
  | nil => simp [validateAccounts, AccountsRead]
  | cons u rest ih =>
      rw [validateAccounts, AccountsRead]
      rw [returns_bind_option (by intro e; exact returns_pure _), returns_validUserEntry]
      refine and_congr_right fun _ => imp_congr_right fun hvalid => ?_
      obtain ⟨hobj, hoid, hname⟩ := texts_of_validUserEntry hvalid
      dsimp only
      rw [Json.returns_text hobj]
      simp only [hoid, true_and]
      split
      · next hseen => simp [hseen]
      · next hnew =>
          rw [Json.returns_text hobj]
          simp only [hnew, not_false_eq_true, true_imp_iff, hname, true_and]
          split
          · next hseen => simp [hseen]
          · next hnew => simp [hnew, ih]

/-- The members of the list of accounts. -/
def UsersRead (list : List Json) : Prop :=
  list ≠ [] → RolesRead list ∧ (anyAdmin list = .ok true → AccountsRead 0 [] [] list)

/-- The list of a domain that carries no credential. -/
def ListRead (values : Json) (domain : String) (reads : List Json → Prop) : Prop :=
  rejectSecrets values domain = none → ∀ list, values.find? "list" = some (.arr list) → reads list

lemma returns_validateList {values : Json} {domain : String}
    {validate : List Json → Except JsonError (Option String)} {reads : List Json → Prop}
    (h : ∀ list, Returns (validate list) ↔ reads list) :
    Returns (validateList values domain validate) ↔ ListRead values domain reads := by
  rw [validateList, ListRead]
  split
  · next error herror => simp [herror]
  · next hclean =>
      simp only [hclean, true_imp_iff]
      split
      · next hnone => simp [hnone]
      · next list hlist => simp [hlist, h]
      · next v hother hv =>
          refine iff_of_true (returns_ok _) fun list hlist => ?_
          exact absurd (Option.some.inj (hv.symm.trans hlist)) (hother list)

/-! ### The schema pass -/

/-- A key, the validator of its entries, and the members it reads. -/
abbrev ReadSchema := String × (Json → Except JsonError Bool) × (Json → Prop)

/-- The entries of the arrays of a domain, up to the first array that is refused. -/
def ArraysRead (values : Json) : List ReadSchema → Prop
  | [] => True
  | (key, validEntry, reads) :: rest =>
      (∀ es, values.find? key = some (.arr es) → EntriesRead validEntry reads es) ∧
        (validateArray values key validEntry = .ok none → ArraysRead values rest)

lemma returns_validateArrays {values : Json} {schema : List ReadSchema}
    (h : ∀ a ∈ schema, ∀ e, Returns (a.2.1 e) ↔ (e.isObject = true → a.2.2 e)) :
    Returns (validateArrays values (schema.map fun a => (a.1, a.2.1))) ↔
      ArraysRead values schema := by
  induction schema with
  | nil => simp [validateArrays, ArraysRead]
  | cons a rest ih =>
      obtain ⟨key, validEntry, reads⟩ := a
      have harray : Returns (validateArray values key validEntry) ↔
          ∀ es, values.find? key = some (.arr es) → EntriesRead validEntry reads es := by
        rw [validateArray]
        split
        · next hnone => simp [hnone]
        · next es hes =>
            simp [hes, returns_validateEntries (h _ List.mem_cons_self)]
        · next v hother hv =>
            refine iff_of_true (returns_ok _) fun es hes => ?_
            exact absurd (Option.some.inj (hv.symm.trans hes)) (hother es)
      rw [List.map_cons, validateArrays, ArraysRead,
        returns_bind_option (by intro e; exact returns_pure _), harray]
      refine and_congr_right fun _ => imp_congr_right fun _ => ?_
      exact ih fun a ha => h a (List.mem_cons_of_mem _ ha)

/-- The arrays of `pretzel.site`. -/
def siteReads : List ReadSchema :=
  [("sites", validSite, fun s => TextsRead s ["oid", "name"]),
    ("ngfw_devices", validDevice, fun d => TextsRead d ["oid", "target"]),
    ("sase_devices", validDevice, fun d => TextsRead d ["oid", "target"])]

/-- The arrays of `pretzel.connector`. -/
def connectorReads : List ReadSchema :=
  [("api_credentials", validApiKey, fun k => TextsRead k ["oid", "name", "device"]),
    ("endpoints", validApiEndpoint, EndpointRead),
    ("connectors", validApiConnector, ConnectorRead)]

/-- The members of the values of a domain. -/
def ShapeRead (scopeName domain : String) (values : Json) : Prop :=
  if scopeName = "pretzel" ∧ domain = "site" then ArraysRead values siteReads
  else if scopeName = "pretzel" ∧ domain = "connector" then ArraysRead values connectorReads
  else if scopeName = "pretzel-ai" ∧ domain = "providers" then
    ListRead values "providers" (ProvidersRead 0 [])
  else if scopeName = "pretzel-ai" ∧ domain = "guardrail" then
    ListRead values "guardrail" (ServicesRead 0 [])
  else if scopeName = "pretzel" ∧ domain = "user" then ListRead values "user" UsersRead
  else True

lemma returns_validDevice (d : Json) :
    Returns (validDevice d) ↔ (d.isObject = true → TextsRead d ["oid", "target"]) := by
  rw [validDevice]
  split
  · next h => simp [h, returns_requireStrings h]
  · next h => simp [h]

lemma returns_validSite (s : Json) :
    Returns (validSite s) ↔ (s.isObject = true → TextsRead s ["oid", "name"]) := by
  rw [validSite]
  split
  · next h => simp [h, returns_requireStrings h]
  · next h => simp [h]

lemma returns_validApiKey (k : Json) :
    Returns (validApiKey k) ↔ (k.isObject = true → TextsRead k ["oid", "name", "device"]) := by
  rw [validApiKey]
  split
  · next h =>
      rw [returns_bind_bool, returns_requireStrings h]
      simp [h]
  · next h => simp [h]

lemma returns_validateUsers (values : Json) :
    Returns (validateUsers values) ↔ ListRead values "user" UsersRead := by
  refine returns_validateList fun list => ?_
  rw [UsersRead]
  split
  · next hempty => simp [hempty]
  · next hne =>
      rw [returns_bind_bool, returns_anyAdmin, returns_validateAccounts]
      simp [hne]

lemma returns_validateCommitShape (scopeName domain : String) (values : Json) :
    Returns (validateCommitShape scopeName domain values) ↔ ShapeRead scopeName domain values := by
  have hsite := @returns_validateArrays values siteReads (by
    simp only [siteReads, List.forall_mem_cons, List.not_mem_nil, false_imp_iff, implies_true,
      and_true]
    exact ⟨returns_validSite, returns_validDevice, returns_validDevice⟩)
  have hconnector := @returns_validateArrays values connectorReads (by
    simp only [connectorReads, List.forall_mem_cons, List.not_mem_nil, false_imp_iff, implies_true,
      and_true]
    exact ⟨returns_validApiKey, returns_validApiEndpoint, returns_validApiConnector⟩)
  rw [validateCommitShape, ShapeRead]
  split
  · exact hsite
  · split
    · exact hconnector
    · split
      · exact returns_validateList fun list => returns_validateProviders list 0 []
      · split
        · exact returns_validateList fun list => returns_validateServices list 0 []
        · split
          · exact returns_validateUsers values
          · exact iff_of_true (returns_ok _) trivial

/-- The members of a change: it is an object, its scope and its domain are texts or
not there, and so are the members its values are read for. -/
def ChangeRead (c : Json) : Prop :=
  c.isObject = true ∧ c.stringOrAbsent "scope" = true ∧ c.stringOrAbsent "domain" = true ∧
    (c.contains "scope" = true → c.contains "domain" = true →
      c.textOr "scope" "" ∈ kSettingsScopes → ∀ ms, c.find? "values" = some (.obj ms) →
        ShapeRead (c.textOr "scope" "") (c.textOr "domain" "") (.obj ms))

lemma returns_checkChange (c : Json) : Returns (checkChange c) ↔ ChangeRead c := by
  rw [checkChange, ChangeRead]
  cases hobj : c.isObject with
  | false =>
      have hthrows : c.valueString "scope" "" = .error .notObject := by
        cases c with
        | obj ms => cases hobj
        | _ => rfl
      rw [hthrows]
      exact iff_of_false (not_returns_error _) fun h => Bool.false_ne_true h.1
  | true =>
      rw [Json.returns_text hobj, Json.returns_text hobj]
      simp only [true_and]
      refine and_congr_right fun _ => and_congr_right fun _ => ?_
      split
      · next hmissing =>
          refine iff_of_true (returns_pure _) fun hs hd _ ms hms => ?_
          have hv : c.contains "values" = true := Json.contains_iff.mpr ⟨_, hms⟩
          simp [hs, hd, hv] at hmissing
      · next hmembers =>
          simp only [Bool.or_eq_true, Bool.not_eq_true', not_or, Bool.not_eq_false] at hmembers
          obtain ⟨⟨hs, hd⟩, hv⟩ := hmembers
          obtain ⟨v, hfind⟩ := Json.contains_iff.mp hv
          simp only [hs, hd, true_imp_iff, Json.memberOrNull, hfind, Option.getD_some]
          split
          · next hnot =>
              refine iff_of_true (returns_pure _) fun _ ms hms => ?_
              cases hms
              simp [Json.isObject] at hnot
          · next hvalues =>
              rw [Bool.not_eq_true', Bool.not_eq_false, Json.isObject_iff] at hvalues
              obtain ⟨ms, rfl⟩ := hvalues
              split
              · next hunknown => simp [hunknown]
              · next hknown =>
                  rw [not_not] at hknown
                  rw [returns_bind_option (by intro e; exact returns_pure _),
                    returns_validateCommitShape]
                  simp [hknown]

lemma returns_checkChanges (changes : List Json) :
    Returns (checkChanges changes) ↔ ∀ c ∈ changes, ChangeRead c := by
  induction changes with
  | nil => simp [checkChanges]
  | cons c rest ih =>
      rw [checkChanges, returns_bind, returns_checkChange, List.forall_mem_cons, ← ih]
      refine and_congr_right fun hread => ?_
      constructor
      · intro h
        obtain ⟨r, hr⟩ := (returns_checkChange c).mpr hread
        exact (returns_bind.mp (h r hr)).1
      · intro h r _
        exact returns_bind.mpr ⟨h, fun _ _ => returns_pure _⟩

/-! ### The reference pass -/

/-- The oids of the entries, up to the one that is looked for. -/
def OidsRead (oid : String) : List Json → Prop
  | [] => True
  | entry :: rest => (entry.isObject = true → entry.stringOrAbsent "oid" = true) ∧
      (¬(entry.isObject = true ∧ entry.textOr "oid" "" = oid) → OidsRead oid rest)

lemma returns_anyOid (oid : String) (es : List Json) :
    Returns (anyOid oid es) ↔ OidsRead oid es := by
  induction es with
  | nil => simp [anyOid, OidsRead]
  | cons entry rest ih =>
      rw [anyOid, OidsRead]
      split
      · next hobj =>
          rw [Json.returns_text hobj]
          simp only [hobj, true_imp_iff, true_and]
          refine and_congr_right fun _ => ?_
          split
          · next hfound => simp [hfound]
          · next hother => simp [hother, ih]
      · next hobj => simp [hobj, ih]

/-- The entries an oid is looked for in. -/
def ResolveRead (arr : Json) (oid : String) : Prop :=
  oid ≠ "" → ∀ es, arr = .arr es → OidsRead oid es

lemma returns_resolves (arr : Json) (oid : String) :
    Returns (resolves arr oid) ↔ ResolveRead arr oid := by
  rw [resolves, ResolveRead]
  split
  · next hempty => simp [hempty]
  · next hne =>
      unfold containsOid
      split
      · next es => simp [hne, returns_anyOid]
      · next hnot => exact iff_of_true (returns_ok _) fun _ es hes => absurd hes (hnot es)

/-- The endpoints of a connector's items, up to one that does not resolve. -/
def ItemsResolve (endpoints : Json) : List Json → Prop
  | [] => True
  | item :: rest =>
      (item.isObject = true → item.stringOrAbsent "endpoint" = true ∧
        ResolveRead endpoints (item.textOr "endpoint" "") ∧
        (resolves endpoints (item.textOr "endpoint" "") = .ok true →
          ItemsResolve endpoints rest)) ∧
      (item.isObject = false → ItemsResolve endpoints rest)

lemma returns_checkItems (endpoints : Json) (label : String) (items : List Json) :
    Returns (checkItems endpoints label items) ↔ ItemsResolve endpoints items := by
  induction items with
  | nil => simp [checkItems, ItemsResolve]
  | cons item rest ih =>
      rw [checkItems, ItemsResolve]
      split
      · next hobj =>
          rw [Json.returns_text hobj, returns_bind_bool, returns_resolves, ih]
          simp [hobj]
      · next hobj => simp [hobj, ih]

/-- The items of a connector, where they are a list. -/
def connectorItems (c : Json) : List Json :=
  let items := (c.find? "items").getD (.arr [])
  if items.isArray then items.elements else []

/-- The members of a connector that its references are read from. -/
def ReferencesRead (endpoints apiKeys c : Json) : Prop :=
  c.stringOrAbsent "oid" = true ∧ c.stringOrAbsent "name" = true ∧
    ItemsResolve endpoints (connectorItems c) ∧
    (checkItems endpoints (c.textOr "name" (c.textOr "oid" "unnamed")) (connectorItems c) =
        .ok none →
      c.stringOrAbsent "auth_profile" = true ∧ ResolveRead apiKeys (c.textOr "auth_profile" ""))

lemma returns_checkConnector {c : Json} (h : c.isObject = true) (endpoints apiKeys : Json) :
    Returns (checkConnector endpoints apiKeys c) ↔ ReferencesRead endpoints apiKeys c := by
  rw [checkConnector, ReferencesRead, Json.returns_text h, Json.returns_text h,
    Json.valueJson_of_isObject h]
  refine and_congr_right fun _ => and_congr_right fun _ => ?_
  change Returns (checkItems _ _ (connectorItems c) >>= _) ↔ _
  rw [returns_bind_option (by intro e; exact returns_pure _), returns_checkItems,
    Json.returns_text h, returns_bind, returns_resolves]
  refine and_congr_right fun _ => imp_congr_right fun _ => and_congr_right fun _ => ?_
  refine and_iff_left fun found _ => ?_
  split
  · exact returns_pure _
  · exact returns_pure _

/-- The connectors, up to one whose references do not resolve. -/
def ConnectorsRead (endpoints apiKeys : Json) : List Json → Prop
  | [] => True
  | c :: rest =>
      (c.isObject = true → ReferencesRead endpoints apiKeys c ∧
        (checkConnector endpoints apiKeys c = .ok none → ConnectorsRead endpoints apiKeys rest)) ∧
      (c.isObject = false → ConnectorsRead endpoints apiKeys rest)

lemma returns_checkConnectors (endpoints apiKeys : Json) (cs : List Json) :
    Returns (checkConnectors endpoints apiKeys cs) ↔ ConnectorsRead endpoints apiKeys cs := by
  induction cs with
  | nil => simp [checkConnectors, ConnectorsRead]
  | cons c rest ih =>
      rw [checkConnectors, ConnectorsRead]
      split
      · next hobj =>
          rw [returns_bind_option (by intro e; exact returns_pure _),
            returns_checkConnector hobj, ih]
          simp [hobj]
      · next hobj => simp [hobj, ih]

/-- The references of a connector section. -/
def RefsRead (api : Json) : Prop :=
  ∀ cs, api.find? "connectors" = some (.arr cs) →
    ConnectorsRead ((api.find? "endpoints").getD (.arr []))
      ((api.find? "api_credentials").getD (.arr [])) cs

lemma returns_checkApiReferences (api : Json) :
    Returns (checkApiReferences api) ↔ RefsRead api := by
  rw [checkApiReferences, RefsRead]
  split
  · next hobj =>
      rw [Json.valueJson_of_isObject hobj, Json.valueJson_of_isObject hobj,
        Json.valueJson_of_isObject hobj]
      change Returns (if _ then _ else _) ↔ _
      cases hfind : api.find? "connectors" with
      | none => simp [Json.elements, Json.isArray, checkConnectors]
      | some v =>
          cases v with
          | arr cs => simp [Json.elements, Json.isArray, returns_checkConnectors]
          | _ => simp [Json.isArray]
  · next hnot =>
      refine iff_of_true (returns_ok _) fun cs hcs => ?_
      exact absurd (Json.isObject_of_find? hcs) hnot

/-! ### The merged view -/

/-- What the changes aimed at the connector domain bring together, a later one over
the ones before it. -/
def connectorView (dst : Json) : List Json → Json
  | [] => dst
  | c :: rest =>
      connectorView
        (if isConnectorChange c then dst.overlay (c.memberOrNull "values").members else dst) rest

lemma mergeTarget_targets (target : Target) (values : List (String × Json))
    (merged : List (Target × Json)) : (mergeTarget target values merged).map Prod.fst =
      if target ∈ merged.map Prod.fst then merged.map Prod.fst
      else merged.map Prod.fst ++ [target] := by
  induction merged with
  | nil => rfl
  | cons p rest ih =>
      obtain ⟨t, dst⟩ := p
      rw [mergeTarget]
      by_cases ht : t = target
      · simp [ht]
      · rw [if_neg ht, List.map_cons, ih, List.map_cons]
        by_cases hrest : target ∈ rest.map Prod.fst
        · rw [if_pos hrest, if_pos (List.mem_cons_of_mem _ hrest)]
        · rw [if_neg hrest, if_neg (by simpa [Ne.symm ht] using hrest), List.cons_append]

/-- The merged view of readable changes: one entry for each target, and at the
connector domain what the changes aimed at it bring. -/
lemma mergedByDomain_view {changes : List Json} {merged merged' : List (Target × Json)}
    (h : mergedByDomain merged changes = .ok merged') (hnodup : (merged.map Prod.fst).Nodup) :
    (merged'.map Prod.fst).Nodup ∧
      (connectorTarget ∈ merged'.map Prod.fst ↔
        connectorTarget ∈ merged.map Prod.fst ∨ ∃ c ∈ changes, isConnectorChange c = true) ∧
      connectorValues merged' = connectorView (connectorValues merged) changes := by
  induction changes generalizing merged with
  | nil =>
      cases h
      exact ⟨hnodup, by simp, rfl⟩
  | cons c rest ih =>
      rw [mergedByDomain, except_bind_eq_ok] at h
      obtain ⟨scopeName, hs, h⟩ := h
      rw [except_bind_eq_ok] at h
      obtain ⟨domain, hd, h⟩ := h
      have hconn := isConnectorChange_iff hs hd
      have htargets := mergeTarget_targets (scopeName, domain) (c.memberOrNull "values").members
        merged
      have hnodup' : ((mergeTarget (scopeName, domain) (c.memberOrNull "values").members
          merged).map Prod.fst).Nodup := by
        rw [htargets]
        split
        · exact hnodup
        · next hnew =>
            refine List.nodup_append.mpr ⟨hnodup, List.nodup_singleton _, ?_⟩
            rintro a ha b hb rfl
            exact hnew (List.mem_singleton.mp hb ▸ ha)
      obtain ⟨hkeep, hmem, hview⟩ := ih h hnodup'
      refine ⟨hkeep, ?_, ?_⟩
      · rw [hmem, htargets, List.exists_mem_cons_iff, hconn]
        split
        · next hold =>
            constructor
            · exact Or.imp_right .inr
            · rintro (h | heq | h)
              · exact .inl h
              · exact .inl (heq ▸ hold)
              · exact .inr h
        · rw [List.mem_append, List.mem_singleton, or_assoc, @eq_comm _ connectorTarget]
      · rw [hview, connectorView, connectorValues_mergeTarget]
        by_cases hc : isConnectorChange c = true
        · rw [if_pos (hconn.mp hc), if_pos hc]
        · rw [if_neg fun heq => hc (hconn.mpr heq), if_neg hc]

lemma connectorValues_of_mem {merged : List (Target × Json)}
    (hnodup : (merged.map Prod.fst).Nodup) {p : Target × Json} (hp : p ∈ merged)
    (ht : p.1 = connectorTarget) : connectorValues merged = p.2 := by
  induction merged with
  | nil => cases hp
  | cons q rest ih =>
      rw [List.map_cons, List.nodup_cons] at hnodup
      rcases List.mem_cons.mp hp with rfl | hp
      · simp [connectorValues, ht]
      · have hq : q.1 ≠ connectorTarget := fun heq =>
          hnodup.1 (heq ▸ ht ▸ List.mem_map_of_mem hp)
        have hrest := ih hnodup.2 hp
        simpa [connectorValues, hq] using hrest

lemma returns_mergedByDomain {changes : List Json} (merged : List (Target × Json))
    (h : ∀ c ∈ changes, ChangeRead c) : Returns (mergedByDomain merged changes) := by
  induction changes generalizing merged with
  | nil => exact returns_ok _
  | cons c rest ih =>
      obtain ⟨hobj, hscope, hdomain, -⟩ := h c List.mem_cons_self
      rw [mergedByDomain, Json.returns_text hobj, Json.returns_text hobj]
      exact ⟨hscope, hdomain, ih _ fun c' hc' => h c' (List.mem_cons_of_mem _ hc')⟩

lemma returns_referencePass (io : ConfigSource) (merged : List (Target × Json))
    (results : List ChangeResult) (c : ConfigState) :
    Returns (referencePass io merged results c) ↔ ∀ p ∈ merged, p.1 = connectorTarget →
      RefsRead ((configSection (io.fill c) "pretzel" "connector").overlay p.2.members) := by
  induction merged generalizing results c with
  | nil => simp [referencePass]
  | cons p rest ih =>
      obtain ⟨target, values⟩ := p
      -- the check fills the cache at most, so the rest reads the same section
      have hfilled : ∀ e, validateCommitRefs io target values c = .ok e →
          io.fill e.2 = io.fill c := by
        intro e he
        rw [validateCommitRefs] at he
        split at he
        · rw [validateApiReferences, except_bind_eq_ok] at he
          obtain ⟨error, -, he⟩ := he
          cases he
          exact fill_fill io c
        · cases he
          rfl
      rw [referencePass, List.forall_mem_cons, returns_bind_iff]
      · refine and_congr_left fun _ => ?_
        rw [validateCommitRefs]
        split
        · next ht =>
            rw [validateApiReferences, returns_bind_iff fun _ _ => iff_of_true (returns_pure _)
              trivial, returns_checkApiReferences]
            simp [ht]
        · next ht => simp [ht]
      · intro e he
        obtain ⟨error, c'⟩ := e
        have hfill : io.fill c' = io.fill c := hfilled _ he
        cases error with
        | none => exact (ih results c').trans (by rw [hfill])
        | some error => exact (ih _ c').trans (by rw [hfill])

/-! ### The handler -/

/-- The change is aimed at the accounts. -/
def AimedAtAccounts (c : Json) : Prop :=
  c.isObject = true ∧ c.textOr "scope" "" = "pretzel" ∧ c.textOr "domain" "" = "user"

/-- The scopes and the domains, up to a change aimed at the accounts: read before the
changes are known to be objects, and only for a user who is no admin. -/
def PublishesRead : List Json → Prop
  | [] => True
  | c :: rest =>
      (c.isObject = true → c.stringOrAbsent "scope" = true ∧
        (c.textOr "scope" "" = "pretzel" → c.stringOrAbsent "domain" = true)) ∧
      (¬AimedAtAccounts c → PublishesRead rest)

lemma returns_publishesAccounts (changes : List Json) :
    Returns (publishesAccounts changes) ↔ PublishesRead changes := by
  induction changes with
  | nil => simp [publishesAccounts, PublishesRead]
  | cons c rest ih =>
      rw [publishesAccounts, PublishesRead, AimedAtAccounts]
      split
      · next hobj =>
          rw [Json.returns_text hobj]
          simp only [hobj, true_imp_iff, true_and, and_assoc]
          refine and_congr_right fun _ => ?_
          split
          · next hpretzel =>
              rw [Json.returns_text hobj]
              simp only [hpretzel, true_imp_iff, true_and]
              refine and_congr_right fun _ => ?_
              split
              · next huser => simp [huser]
              · next hother => simp [hother, ih]
          · next hother => simp [hother, ih]
      · next hobj => simp [hobj, ih]

lemma publishesAccounts_eq {changes : List Json} {b : Bool}
    (h : publishesAccounts changes = .ok b) :
    b = false ↔ ∀ c ∈ changes, ¬AimedAtAccounts c := by
  induction changes with
  | nil =>
      cases h
      simp
  | cons c rest ih =>
      rw [publishesAccounts] at h
      rw [List.forall_mem_cons, AimedAtAccounts]
      split at h
      · next hobj =>
          rw [except_bind_eq_ok] at h
          obtain ⟨scopeName, hs, h⟩ := h
          obtain ⟨-, rfl⟩ := (Json.valueString_eq_ok_iff hobj).mp hs
          split at h
          · next hpretzel =>
              rw [except_bind_eq_ok] at h
              obtain ⟨domain, hd, h⟩ := h
              obtain ⟨-, rfl⟩ := (Json.valueString_eq_ok_iff hobj).mp hd
              split at h
              · next huser =>
                  cases h
                  simp [hobj, hpretzel, huser]
              · next hother => simp [hother, ih h]
          · next hother => simp [hother, ih h]
      · next hobj => simp [hobj, ih h]

/-- The change has its three members, a scope that is known, and values that its
validator accepts. -/
def Passes (c : Json) : Prop :=
  c.contains "scope" = true ∧ c.contains "domain" = true ∧ c.textOr "scope" "" ∈ kSettingsScopes ∧
    ∃ ms, c.find? "values" = some (.obj ms) ∧
      validateCommitShape (c.textOr "scope" "") (c.textOr "domain" "") (.obj ms) = .ok none

lemma passes_iff {c : Json} {r : ChangeResult} (h : checkChange c = .ok r) :
    r.error = none ↔ Passes c := by
  have hread := (returns_checkChange c).mp ⟨r, h⟩
  obtain ⟨hobj, -⟩ := hread
  rw [checkChange, except_bind_eq_ok] at h
  obtain ⟨scopeName, hs, h⟩ := h
  rw [except_bind_eq_ok] at h
  obtain ⟨domain, hd, h⟩ := h
  obtain ⟨-, rfl⟩ := (Json.valueString_eq_ok_iff hobj).mp hs
  obtain ⟨-, rfl⟩ := (Json.valueString_eq_ok_iff hobj).mp hd
  rw [Passes]
  split at h
  · next hmissing =>
      cases h
      refine iff_of_false (Option.some_ne_none _) ?_
      rintro ⟨hs, hd, -, ms, hms, -⟩
      have hv : c.contains "values" = true := Json.contains_iff.mpr ⟨_, hms⟩
      simp [hs, hd, hv] at hmissing
  · next hmembers =>
      simp only [Bool.or_eq_true, Bool.not_eq_true', not_or, Bool.not_eq_false] at hmembers
      obtain ⟨⟨hs, hd⟩, hv⟩ := hmembers
      obtain ⟨v, hfind⟩ := Json.contains_iff.mp hv
      simp only [Json.memberOrNull, hfind, Option.getD_some] at h
      split at h
      · next hnot =>
          cases h
          refine iff_of_false (Option.some_ne_none _) ?_
          rintro ⟨-, -, -, ms, hms, -⟩
          cases hfind.symm.trans hms
          simp [Json.isObject] at hnot
      · next hvalues =>
          rw [Bool.not_eq_true', Bool.not_eq_false, Json.isObject_iff] at hvalues
          obtain ⟨ms, rfl⟩ := hvalues
          split at h
          · next hunknown =>
              cases h
              exact iff_of_false (Option.some_ne_none _) fun hp => hunknown hp.2.2.1
          · next hknown =>
              rw [except_bind_eq_ok] at h
              obtain ⟨error, hshape, h⟩ := h
              cases error with
              | some error =>
                  cases h
                  refine iff_of_false (Option.some_ne_none _) ?_
                  rintro ⟨-, -, -, ms', hms', haccepted⟩
                  cases hfind.symm.trans hms'
                  cases hshape.symm.trans haccepted
              | none =>
                  cases h
                  exact iff_of_true rfl ⟨hs, hd, not_not.mp hknown, ms, hfind, hshape⟩

lemma failedCount_eq_zero_iff {changes validChanges : List Json} {results : List ChangeResult}
    (h : checkChanges changes = .ok (validChanges, results)) :
    failedCount results = 0 ↔ ∀ c ∈ changes, Passes c := by
  induction changes generalizing validChanges results with
  | nil =>
      cases h
      simp [failedCount]
  | cons c rest ih =>
      rw [checkChanges, except_bind_eq_ok] at h
      obtain ⟨result, hresult, h⟩ := h
      rw [except_bind_eq_ok] at h
      obtain ⟨⟨valid, results'⟩, hrest, h⟩ := h
      cases h
      rw [List.forall_mem_cons, ← passes_iff hresult, ← ih hrest, failedCount, failedCount,
        List.countP_cons]
      cases result.error <;> simp

/-- The reads of a batch: every change, and the references of the connector section
where every change passes and one is aimed there. -/
def BatchRead (io : ConfigSource) (changes : List Json) (s : MgmtdState) : Prop :=
  (∀ c ∈ changes, ChangeRead c) ∧
    ((∀ c ∈ changes, Passes c) → (∃ c ∈ changes, isConnectorChange c = true) →
      RefsRead ((configSection (io.fill s.config) "pretzel" "connector").overlay
        (connectorView (.obj []) changes).members))

lemma returns_commitChanges (io : ConfigSource) (changes : List Json) (s : MgmtdState) :
    Returns (commitChanges io changes s) ↔ BatchRead io changes s := by
  rw [commitChanges, BatchRead, returns_bind, returns_checkChanges]
  refine and_congr_right fun hread => ?_
  obtain ⟨⟨validChanges, results⟩, hresults⟩ := (returns_checkChanges changes).mpr hread
  have hfailed := failedCount_eq_zero_iff hresults
  have hvalid := (checkChanges_eq_ok hresults).2
  rw [hresults]
  simp only [Except.ok.injEq, forall_eq']
  split
  · next hnone =>
      obtain rfl := hvalid hnone
      obtain ⟨merged, hmerged⟩ := returns_mergedByDomain [] hread
      obtain ⟨hnodup, htarget, hview⟩ := mergedByDomain_view hmerged List.nodup_nil
      have hpass := hfailed.mp hnone
      rw [hmerged]
      change Returns (referencePass io merged results s.config >>= _) ↔ _
      rw [returns_bind_iff fun _ _ => iff_of_true (returns_pure _) trivial,
        returns_referencePass, and_true]
      constructor
      · intro h _ haimed
        obtain ⟨p, hp, hconn⟩ := List.mem_map.mp (htarget.mpr (.inr haimed))
        have hread := h p hp hconn
        rwa [← connectorValues_of_mem hnodup hp hconn, hview] at hread
      · intro h p hp hconn
        have haimed := (htarget.mp (hconn ▸ List.mem_map_of_mem hp)).resolve_left
          List.not_mem_nil
        have hread := h hpass haimed
        rwa [← connectorValues_of_mem hnodup hp hconn, hview]
  · next hsome =>
      exact iff_of_true (returns_pure _) fun hpass => absurd (hfailed.mpr hpass) hsome

/-- The reads of a request, where its body holds a list of changes: the ones that
tell whether it is aimed at the accounts, and where it is not refused for that, the
ones of the batch. -/
def Readable (io : ConfigSource) (isAdmin : Bool) (input : Option Json) (s : MgmtdState) : Prop :=
  ∀ j changes, input = some j → j.find? "changes" = some (.arr changes) →
    (isAdmin = false → PublishesRead changes) ∧
    ((isAdmin = true ∨ ∀ c ∈ changes, ¬AimedAtAccounts c) → BatchRead io changes s)

/-- **A request is answered exactly when its reads are of the types they are made as.** -/
theorem commit_answers_iff (io : ConfigSource) (isAdmin : Bool) (input : Option Json)
    (s : MgmtdState) : Returns (commit io isAdmin input s) ↔ Readable io isAdmin input s := by
  rw [Readable]
  cases input with
  | none => exact iff_of_true (returns_ok _) (by simp)
  | some input =>
      rw [commit]
      split
      · next changes hchanges =>
          have honly : ∀ p : List Json → Prop, (∀ j changes', some input = some j →
              j.find? "changes" = some (.arr changes') → p changes') ↔ p changes := by
            intro p
            constructor
            · intro h
              exact h input changes rfl hchanges
            · rintro h j changes' ⟨⟩ hfind
              cases hchanges.symm.trans hfind
              exact h
          refine Iff.trans ?_ (honly fun changes => _ ∧ (_ → BatchRead io changes s)).symm
          rw [returns_bind, accountsRefused]
          cases isAdmin with
          | true => simp [returns_commitChanges]
          | false =>
              rw [if_neg Bool.false_ne_true, returns_publishesAccounts]
              simp only [Bool.false_eq_true, false_or, true_imp_iff]
              refine and_congr_right fun hread => ?_
              obtain ⟨refused, hrefused⟩ := (returns_publishesAccounts changes).mpr hread
              rw [hrefused, ← publishesAccounts_eq hrefused]
              cases refused <;> simp [returns_commitChanges]
      · next hother =>
          refine iff_of_true (returns_ok _) fun j changes hj hchanges => ?_
          cases hj
          exact absurd hchanges (hother changes)

/-- A change that is a number: the read of its scope throws, and nothing answers. -/
theorem number_thrown : ¬∀ (io : ConfigSource) (isAdmin : Bool) (input : Option Json)
    (s : MgmtdState), Returns (commit io isAdmin input s) := by
  intro h
  obtain ⟨outcome, houtcome⟩ := h ⟨none, [], ⟨false, fun _ => false⟩⟩ true
    (some (.obj [("changes", .arr [.int 5])])) {}
  cases houtcome

end Pretzel.Mgmtd
