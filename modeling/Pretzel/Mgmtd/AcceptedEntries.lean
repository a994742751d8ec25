import Pretzel.Mgmtd.CommitSchema

/-!
What the commit schema says of an entry it accepts.

* `ArraysValid`: every array of a domain holds entries its validator accepts;
  `arraysValid_of_validateArrays`: values that pass the schema do.
* `validDevice_eq_ok`, `validApiKey_eq_ok`, `validApiEndpoint_eq_ok`,
  `validApiConnector_eq_ok`: the members an accepted entry has.
-/

namespace Pretzel.Mgmtd

open Nlohmann

/-! ### The arrays of a domain -/

/-- A key and the validator of its entries. -/
abbrev ArraySchema := String × (Json → Except JsonError Bool)

/-- The arrays of `pretzel.site`. -/
def siteArrays : List ArraySchema :=
  [("sites", validSite), ("ngfw_devices", validDevice), ("sase_devices", validDevice)]

/-- The arrays of `pretzel.connector`. -/
def connectorArrays : List ArraySchema :=
  [("api_credentials", validApiKey), ("endpoints", validApiEndpoint),
    ("connectors", validApiConnector)]

/-- Under each key there is an array of entries that are accepted, or nothing. -/
def ArraysValid (arrays : List ArraySchema) (values : Json) : Prop :=
  ∀ a ∈ arrays, ∀ v, values.find? a.1 = some v → ∃ es, v = .arr es ∧ ∀ e ∈ es, a.2 e = .ok true

lemma validateEntries_eq_ok {key : String} {validEntry : Json → Except JsonError Bool}
    {idx : ℕ} {es : List Json} (h : validateEntries key validEntry idx es = .ok none) :
    ∀ e ∈ es, validEntry e = .ok true := by
  induction es generalizing idx with
  | nil => simp
  | cons e es ih =>
      rw [validateEntries, except_bind_eq_ok] at h
      obtain ⟨valid, hvalid, h⟩ := h
      cases valid with
      | true =>
          intro e' he'
          rcases List.mem_cons.mp he' with rfl | he'
          · exact hvalid
          · exact ih h e' he'
      | false =>
          simp only [Bool.false_eq_true, if_false] at h
          split at h
          · rw [except_bind_eq_ok] at h
            obtain ⟨name, -, h⟩ := h
            cases h
          · cases h

/-- **Values that pass the schema** hold arrays of accepted entries. -/
theorem arraysValid_of_validateArrays {arrays : List ArraySchema} {values : Json}
    (h : validateArrays values arrays = .ok none) : ArraysValid arrays values := by
  induction arrays with
  | nil =>
      intro a ha
      cases ha
  | cons first rest ih =>
      obtain ⟨key, validEntry⟩ := first
      rw [validateArrays, except_bind_eq_ok] at h
      obtain ⟨error, herror, h⟩ := h
      cases error with
      | some error => cases h
      | none =>
          intro a ha v hv
          rcases List.mem_cons.mp ha with rfl | ha
          · rw [validateArray, hv] at herror
            cases v with
            | arr es => exact ⟨es, rfl, validateEntries_eq_ok herror⟩
            | _ => cases herror
          · exact ih h a ha v hv

/-! ### Entries -/

/-- A string under the key, and not the empty one. -/
def HasText (j : Json) (key : String) : Prop := ∃ s ≠ "", j.find? key = some (.str s)

lemma HasText.of_textOr {j : Json} {key fallback : String} (h : HasText j key) :
    j.find? key = some (.str (j.textOr key fallback)) ∧ j.textOr key fallback ≠ "" := by
  obtain ⟨s, hne, hs⟩ := h
  rw [Json.textOr_of_find? hs]
  exact ⟨hs, hne⟩

lemma HasText.isObject {j : Json} {key : String} (h : HasText j key) : j.isObject = true := by
  obtain ⟨s, -, hs⟩ := h
  exact Json.isObject_of_find? hs

lemma requireStrings_eq_ok {j : Json} {keys : List String} (h : requireStrings j keys = .ok true) :
    ∀ key ∈ keys, HasText j key := by
  induction keys with
  | nil => simp
  | cons key keys ih =>
      rw [requireStrings, except_bind_eq_ok] at h
      obtain ⟨s, hs, h⟩ := h
      split at h
      · cases h
      · next hne =>
          intro key' hkey'
          rcases List.mem_cons.mp hkey' with rfl | hkey'
          · exact ⟨s, hne, (Json.valueString_eq_ok hs).resolve_right fun hnone => hne hnone.2⟩
          · exact ih h key' hkey'

/-- **A device that is accepted.** -/
lemma validDevice_eq_ok {d : Json} (h : validDevice d = .ok true) :
    HasText d "oid" ∧ HasText d "target" := by
  rw [validDevice] at h
  split at h
  · have hall := requireStrings_eq_ok h
    exact ⟨hall "oid" (by simp), hall "target" (by simp)⟩
  · cases h

/-- **An API key that is accepted.** -/
lemma validApiKey_eq_ok {k : Json} (h : validApiKey k = .ok true) :
    HasText k "oid" ∧ HasText k "name" ∧ HasText k "device" := by
  rw [validApiKey] at h
  split at h
  · rw [except_bind_eq_ok] at h
    obtain ⟨required, hrequired, h⟩ := h
    cases required with
    | false => cases h
    | true =>
        have hall := requireStrings_eq_ok hrequired
        exact ⟨hall "oid" (by simp), hall "name" (by simp), hall "device" (by simp)⟩
  · cases h

/-- **An endpoint that is accepted**: the checks the collector makes again. -/
lemma validApiEndpoint_eq_ok {e : Json} (h : validApiEndpoint e = .ok true) :
    HasText e "oid" ∧ HasText e "name" ∧
      (∃ path, e.find? "path" = some (.str path) ∧ path.toList.head? = some '/') ∧
      (e.textOr "device_type" "ngfw" = "sase" →
        e.textOr "subtype" (e.textOr "product" "ztna") = "ztna" ∧ HasText e "host") := by
  rw [validApiEndpoint] at h
  split at h
  · next hobj =>
      rw [except_bind_eq_ok] at h
      obtain ⟨required, hrequired, h⟩ := h
      cases required with
      | false => cases h
      | true =>
          have hall := requireStrings_eq_ok hrequired
          simp only [if_true, except_bind_eq_ok] at h
          obtain ⟨path, hpath, h⟩ := h
          split at h
          · next hslash =>
              rw [except_bind_eq_ok] at h
              obtain ⟨params, -, h⟩ := h
              have hfind : e.find? "path" = some (.str path) := by
                refine (Json.valueString_eq_ok hpath).resolve_right fun hnone => ?_
                rw [hnone.2] at hslash
                cases hslash
              refine ⟨hall "oid" (by simp), hall "name" (by simp), ⟨path, hfind, hslash⟩, ?_⟩
              intro hsase
              cases params with
              | false => cases h
              | true =>
                  simp only [if_true, except_bind_eq_ok, Json.valueString_eq_ok_iff hobj, and_assoc,
                    exists_and_left, exists_eq_left, if_pos hsase] at h
                  obtain ⟨-, -, -, h⟩ := h
                  rw [validSaseEndpoint] at h
                  split at h
                  · next hztna =>
                      rw [except_bind_eq_ok] at h
                      obtain ⟨host, hhost, h⟩ := h
                      split at h
                      · cases h
                      · next hbad =>
                          rw [not_or] at hbad
                          exact ⟨hztna, host, hbad.1, (Json.valueString_eq_ok hhost).resolve_right
                            fun hnone => hbad.1 hnone.2⟩
                  · cases h
          · cases h
  · cases h

/-- An item of a connector that is accepted. -/
lemma validConnectorItem_eq_ok {i : Json} (h : validConnectorItem i = .ok true) :
    HasText i "endpoint" := by
  rw [validConnectorItem] at h
  split at h
  · rw [except_bind_eq_ok] at h
    obtain ⟨endpoint, hendpoint, h⟩ := h
    split at h
    · cases h
    · next hne =>
        exact ⟨endpoint, hne, (Json.valueString_eq_ok hendpoint).resolve_right
          fun hnone => hne hnone.2⟩
  · cases h

lemma validConnectorItems_eq_ok {items : List Json} (h : validConnectorItems items = .ok true) :
    ∀ i ∈ items, HasText i "endpoint" := by
  induction items with
  | nil => simp
  | cons i items ih =>
      rw [validConnectorItems, except_bind_eq_ok] at h
      obtain ⟨valid, hvalid, h⟩ := h
      cases valid with
      | false => cases h
      | true =>
          intro i' hi'
          rcases List.mem_cons.mp hi' with rfl | hi'
          · exact validConnectorItem_eq_ok hvalid
          · exact ih h i' hi'

/-- **A connector that is accepted.** -/
lemma validApiConnector_eq_ok {c : Json} (h : validApiConnector c = .ok true) :
    HasText c "oid" ∧ HasText c "object" ∧ HasText c "auth_profile" ∧
      (c.contains "endpoint" || c.contains "params") = false ∧
      ∃ items, c.find? "items" = some (.arr items) ∧ ∀ i ∈ items, HasText i "endpoint" := by
  rw [validApiConnector] at h
  split at h
  · rw [except_bind_eq_ok] at h
    obtain ⟨required, hrequired, h⟩ := h
    cases required with
    | false => cases h
    | true =>
        have hall := requireStrings_eq_ok hrequired
        simp only [if_true] at h
        split at h
        · cases h
        · next hshape =>
            split at h
            · next items hitems =>
                refine ⟨hall "oid" (by simp), hall "object" (by simp), hall "auth_profile" (by simp),
                  ?_, items, hitems, validConnectorItems_eq_ok h⟩
                simp only [Bool.or_eq_true, not_or, Bool.not_eq_true] at hshape
                rw [hshape.1.1, hshape.1.2]
                rfl
            · cases h
  · cases h

end Pretzel.Mgmtd
