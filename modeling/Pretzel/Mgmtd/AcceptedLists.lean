import Pretzel.Mgmtd.AcceptedEntries

/-!
What the commit schema says of the domains that are one list.

* `NoCredential`: a value that `rejectSecrets` lets pass.
* `AcceptedList`: values whose list is accepted.
* `AcceptedProvider`, `accepted_of_validateProviders`: a provider, its models, and
  that no vendor is there twice.
* `AcceptedService`, `accepted_of_validateServices`: an engine, its switches, blocks
  and shape, and that none is there twice.
* `accepted_of_validateAccounts`: an account.
-/

namespace Pretzel.Mgmtd

open Nlohmann

/-- The members that are credentials. -/
def secretWords : List String := ["api_key", "key", "token", "password", "secret"]

/-- None of them is there. -/
def NoCredential (j : Json) : Prop := ∀ name ∈ secretWords, j.contains name = false

lemma noCredential_of_rejectSecrets {j : Json} {at_ : String} (h : rejectSecrets j at_ = none) :
    NoCredential j := by
  rw [rejectSecrets, Option.map_eq_none_iff, List.find?_eq_none] at h
  exact fun name hname => Bool.eq_false_iff.mpr (h name hname)

/-- A text read that comes to a text that is not empty. -/
lemma find?_of_valueString {j : Json} {key s : String} (h : j.valueString key "" = .ok s)
    (hne : s ≠ "") : j.find? key = some (.str s) :=
  (Json.valueString_eq_ok h).resolve_right fun hnone => hne hnone.2

/-- What passes `validateList`. -/
lemma validateList_eq_ok {values : Json} {domain : String}
    {validate : List Json → Except JsonError (Option String)}
    (h : validateList values domain validate = .ok none) :
    NoCredential values ∧ ∀ v, values.find? "list" = some v →
      ∃ list, v = .arr list ∧ validate list = .ok none := by
  rw [validateList] at h
  split at h
  · cases h
  next hnone =>
  refine ⟨noCredential_of_rejectSecrets hnone, fun v hv => ?_⟩
  rw [hv] at h
  cases v with
  | arr list => exact ⟨list, rfl, h⟩
  | _ => cases h

/-- One more entry of a list none of whose texts is there twice, nor was seen before. -/
lemma nodup_unseen_cons {α : Type*} (text : α → String) {a : α} {s : String} {rest : List α}
    {seen : List String} (htext : text a = s) (hnew : s ∉ seen)
    (h : (rest.map text).Nodup ∧ ∀ b ∈ rest, text b ∉ s :: seen) :
    ((a :: rest).map text).Nodup ∧ ∀ b ∈ a :: rest, text b ∉ seen := by
  obtain ⟨hnodup, hseen⟩ := h
  have hfresh : s ∉ rest.map text := by
    intro hmem
    obtain ⟨b, hb, heq⟩ := List.mem_map.mp hmem
    exact hseen b hb (heq ▸ List.mem_cons_self)
  refine ⟨?_, List.forall_mem_cons.mpr ⟨htext ▸ hnew, fun b hb hmem => ?_⟩⟩
  · rw [List.map_cons, htext, List.nodup_cons]
    exact ⟨hfresh, hnodup⟩
  · exact hseen b hb (List.mem_cons_of_mem _ hmem)

/-! ### The providers -/

/-- Models that are accepted: each has an id, none twice. -/
structure AcceptedModels (models : List Json) : Prop where
  ids : ∀ m ∈ models, HasText m "id"
  nodup : (models.map fun m => m.textOr "id" "").Nodup

/-- A provider that is accepted. -/
structure AcceptedProvider (p : Json) : Prop where
  isObject : p.isObject = true
  id : ∃ id ∈ kAiProviders, p.find? "id" = some (.str id)
  models : ∀ v, p.find? "models" = some v →
    NoCredential p ∧ ∃ models, v = .arr models ∧ AcceptedModels models

lemma accepted_of_validateModels {at_ : String} {idx : ℕ} {seen : List String} {models : List Json}
    (h : validateModels at_ idx seen models = .ok none) :
    AcceptedModels models ∧ ∀ m ∈ models, m.textOr "id" "" ∉ seen := by
  induction models generalizing idx seen with
  | nil => exact ⟨⟨by simp, List.nodup_nil⟩, by simp⟩
  | cons m rest ih =>
      rw [validateModels] at h
      dsimp only at h
      split at h
      case isFalse => cases h
      rw [except_bind_eq_ok] at h
      obtain ⟨mid, hmid, h⟩ := h
      split at h
      · cases h
      next hne =>
      split at h
      · cases h
      split at h
      · cases h
      next hnew =>
      obtain ⟨hrest, hseen⟩ := ih h
      have hfind := find?_of_valueString hmid hne
      obtain ⟨hnodup, hunseen⟩ :=
        nodup_unseen_cons (fun m : Json => m.textOr "id" "") (Json.textOr_of_find? hfind) hnew
          ⟨hrest.nodup, hseen⟩
      exact ⟨⟨List.forall_mem_cons.mpr ⟨⟨mid, hne, hfind⟩, hrest.ids⟩, hnodup⟩, hunseen⟩

/-- **Providers that are accepted**, no vendor twice. -/
theorem accepted_of_validateProviders {idx : ℕ} {seen : List String} {list : List Json}
    (h : validateProviders idx seen list = .ok none) :
    (∀ p ∈ list, AcceptedProvider p) ∧ (list.map fun p => p.textOr "id" "").Nodup ∧
      ∀ p ∈ list, p.textOr "id" "" ∉ seen := by
  induction list generalizing idx seen with
  | nil => simp
  | cons p rest ih =>
      rw [validateProviders] at h
      split at h
      case isFalse => cases h
      next hobj =>
      rw [except_bind_eq_ok] at h
      obtain ⟨id, hid, h⟩ := h
      split at h
      · cases h
      next hknown =>
      rw [not_not] at hknown
      split at h
      · cases h
      next hnew =>
      have hne : id ≠ "" := by
        rintro rfl
        exact absurd hknown (by decide)
      have hfind := find?_of_valueString hid hne
      have hmodels : (∀ v, p.find? "models" = some v →
          NoCredential p ∧ ∃ models, v = .arr models ∧ AcceptedModels models) ∧
            validateProviders (idx + 1) (id :: seen) rest = .ok none := by
        split at h
        · next hnone =>
            refine ⟨fun v hv => ?_, h⟩
            cases hnone.symm.trans hv
        · next models hmodels =>
            rw [except_bind_eq_ok] at h
            obtain ⟨error, hvalid, h⟩ := h
            cases error with
            | some error => cases h
            | none =>
                dsimp only at h
                split at h
                · cases h
                next hreject =>
                refine ⟨fun v hv => ?_, h⟩
                cases hmodels.symm.trans hv
                exact ⟨noCredential_of_rejectSecrets hreject, models, rfl,
                  (accepted_of_validateModels hvalid).1⟩
        · cases h
      obtain ⟨hrest, hseen⟩ := ih hmodels.2
      exact ⟨List.forall_mem_cons.mpr ⟨⟨hobj, ⟨id, hknown, hfind⟩, hmodels.1⟩, hrest⟩,
        nodup_unseen_cons _ (Json.textOr_of_find? hfind) hnew hseen⟩

/-! ### The engines -/

/-- The names of the switches. -/
def checkpointKeys : List String := ["prompt", "response", "tool_call", "tool_result"]

/-- A block of an engine that is accepted. -/
structure AcceptedBlock (blk : Json) : Prop where
  isObject : blk.isObject = true
  noCredential : NoCredential blk
  timeout : ∀ t, blk.find? "timeout_sec" = some t → isPositive t = true

/-- A shape that is accepted. -/
structure AcceptedShape (sh : Json) : Prop where
  isObject : sh.isObject = true
  prompt : ∀ sp, sh.find? "system_prompt" = some sp → sp.isString = true
  tokens : ∀ mt, sh.find? "max_tokens" = some mt → isNonNegative mt = true

/-- An engine that is accepted. -/
structure AcceptedService (e : Json) : Prop where
  isObject : e.isObject = true
  noCredential : NoCredential e
  service : ∃ s ∈ kAiServices, e.find? "service" = some (.str s)
  guardrail : ∃ g ∈ kGuardrailKinds, e.find? "guardrail" = some (.str g)
  checkpoints : ∀ cp, e.find? "checkpoints" = some cp → cp.isObject = true ∧
    ∀ f ∈ checkpointKeys, ∀ v, cp.find? f = some v → v.isBoolean = true
  airs : ∀ blk, e.find? "airs" = some blk → AcceptedBlock blk
  gateway : ∀ blk, e.find? "gateway" = some blk → AcceptedBlock blk
  shape : ∀ sh, e.find? "shape" = some sh → AcceptedShape sh

lemma accepted_of_validateCheckpoints {e : Json} {at_ : String}
    (h : validateCheckpoints e at_ = none) : ∀ cp, e.find? "checkpoints" = some cp →
      cp.isObject = true ∧ ∀ f ∈ checkpointKeys, ∀ v, cp.find? f = some v → v.isBoolean = true := by
  intro cp hcp
  rw [validateCheckpoints, hcp] at h
  dsimp only at h
  split at h
  · next hobj =>
      rw [Option.map_eq_none_iff, List.find?_eq_none] at h
      refine ⟨hobj, fun f hf v hv => ?_⟩
      have hnot := h f hf
      rw [hv] at hnot
      simpa using hnot
  · cases h

lemma accepted_of_validateBlock {e : Json} {at_ key : String}
    (h : validateBlock e at_ key = none) : ∀ blk, e.find? key = some blk → AcceptedBlock blk := by
  intro blk hblk
  rw [validateBlock, hblk] at h
  dsimp only at h
  split at h
  case isFalse => cases h
  next hobj =>
  split at h
  · cases h
  next hnone =>
  refine ⟨hobj, noCredential_of_rejectSecrets hnone, fun t ht => ?_⟩
  rw [ht] at h
  dsimp only at h
  split at h
  · assumption
  · cases h

lemma accepted_of_validateShape {e : Json} {at_ : String} (h : validateShape e at_ = none) :
    ∀ sh, e.find? "shape" = some sh → AcceptedShape sh := by
  intro sh hsh
  rw [validateShape, hsh] at h
  dsimp only at h
  split at h
  case isFalse => cases h
  next hobj =>
  split at h
  case isFalse => cases h
  next hprompt =>
  split at h
  case isFalse => cases h
  next htokens =>
  refine ⟨hobj, fun sp hsp => ?_, fun mt hmt => ?_⟩
  · simpa [hsp] using hprompt
  · simpa [hmt] using htokens

/-- **An engine that is accepted.** -/
theorem accepted_of_validateServiceEntry {e : Json} {at_ : String}
    (h : validateServiceEntry e at_ = .ok none) : AcceptedService e := by
  rw [validateServiceEntry] at h
  split at h
  case isFalse => cases h
  next hobj =>
  split at h
  · cases h
  next hnone =>
  rw [except_bind_eq_ok] at h
  obtain ⟨service, hservice, h⟩ := h
  split at h
  · cases h
  next hknown =>
  rw [not_not] at hknown
  rw [except_bind_eq_ok] at h
  obtain ⟨guardrail, hguardrail, h⟩ := h
  split at h
  · cases h
  next hkind =>
  rw [not_not] at hkind
  have hparts := Except.ok.inj h
  rw [Option.or_eq_none_iff, Option.or_eq_none_iff, Option.or_eq_none_iff] at hparts
  obtain ⟨hcheckpoints, hairs, hgateway, hshape⟩ := hparts
  have hserviceNe : service ≠ "" := by
    rintro rfl
    exact absurd hknown (by decide)
  have hguardrailNe : guardrail ≠ "" := by
    rintro rfl
    exact absurd hkind (by decide)
  exact ⟨hobj, noCredential_of_rejectSecrets hnone,
    ⟨service, hknown, find?_of_valueString hservice hserviceNe⟩,
    ⟨guardrail, hkind, find?_of_valueString hguardrail hguardrailNe⟩,
    accepted_of_validateCheckpoints hcheckpoints, accepted_of_validateBlock hairs,
    accepted_of_validateBlock hgateway, accepted_of_validateShape hshape⟩

/-- **Engines that are accepted**, none twice. -/
theorem accepted_of_validateServices {idx : ℕ} {seen : List String} {list : List Json}
    (h : validateServices idx seen list = .ok none) :
    (∀ e ∈ list, AcceptedService e) ∧ (list.map fun e => e.textOr "service" "").Nodup ∧
      ∀ e ∈ list, e.textOr "service" "" ∉ seen := by
  induction list generalizing idx seen with
  | nil => simp
  | cons e rest ih =>
      rw [validateServices, except_bind_eq_ok] at h
      obtain ⟨error, hentry, h⟩ := h
      cases error with
      | some error => cases h
      | none =>
          rw [except_bind_eq_ok] at h
          obtain ⟨service, hservice, h⟩ := h
          split at h
          · cases h
          next hnew =>
          obtain ⟨hrest, hseen⟩ := ih h
          exact ⟨List.forall_mem_cons.mpr ⟨accepted_of_validateServiceEntry hentry, hrest⟩,
            nodup_unseen_cons _ (Json.textOr_of_valueString hservice) hnew hseen⟩

/-! ### The accounts -/

lemma accepted_of_validateAccounts {idx : ℕ} {oids names : List String} {list : List Json}
    (h : validateAccounts idx oids names list = .ok none) :
    ∀ u ∈ list, u.isObject = true ∧ NoCredential u := by
  induction list generalizing idx oids names with
  | nil => simp
  | cons u rest ih =>
      rw [validateAccounts, except_bind_eq_ok] at h
      obtain ⟨error, hentry, h⟩ := h
      cases error with
      | some error => cases h
      | none =>
          rw [except_bind_eq_ok] at h
          obtain ⟨oid, -, h⟩ := h
          split at h
          · cases h
          rw [except_bind_eq_ok] at h
          obtain ⟨name, -, h⟩ := h
          split at h
          · cases h
          refine List.forall_mem_cons.mpr ⟨?_, ih h⟩
          rw [validUserEntry] at hentry
          split at hentry
          · next hobj =>
              split at hentry
              · cases hentry
              · next hnone => exact ⟨hobj, noCredential_of_rejectSecrets hnone⟩
          · cases hentry

end Pretzel.Mgmtd
