import Mathlib.Tactic
import Pretzel.Config.Store

/-!
What the back-fill of `Config::seedStore` does to the active document.

* `additions_eq`: the scopes and domains it adds, as a table of the startup
  document.
* `find?_backfillDoc`, `domain?_backfillDoc`: the document behind the UPDATE, by
  scope and by domain.
* `OnlyAdds`: what the back-fill is for. What is there stays, what is missing is
  added, and no comment of the template comes along.
* `BringsComment`: a scope that the active document lacks and that the startup
  document has a comment in. `onlyAdds_backfillDoc_iff`: the back-fill only adds
  exactly when there is none.
* `activeRow_preflight`: the active row behind `preflight`.
-/

namespace Pretzel.Config

open Nlohmann

/-- The value of a domain. -/
def domain? (doc : Json) (scope domain : String) : Option Json :=
  (doc.find? scope).bind fun v => v.find? domain

/-- **What the back-fill is for**, of a startup document and an active one. -/
structure OnlyAdds (startup active after : Json) : Prop where
  kept : ∀ s d v, domain? active s d = some v → domain? after s d = some v
  complete : ∀ s d, isComment s = false → isComment d = false → (domain? startup s d).isSome →
    (∀ v, active.find? s = some v → v.isObject = true) → (domain? after s d).isSome
  noScope : ∀ s, isComment s = true → active.find? s = none → after.find? s = none
  noDomain : ∀ s d, isComment d = true → domain? active s d = none → domain? after s d = none
  scalar : ∀ s v, active.find? s = some v → v.isObject = false → after.find? s = some v

/-- A scope the active document lacks, with a comment among its domains. -/
def BringsComment (startup active : Json) : Prop :=
  ∃ s d, isComment s = false ∧ active.find? s = none ∧ isComment d = true ∧
    (domain? startup s d).isSome

/-- Objects whose members have no key twice, down to the domains. -/
structure TwoLevels (j : Json) : Prop where
  scopes : (j.members.map Prod.fst).Nodup
  domains : ∀ s v, j.find? s = some v → (v.members.map Prod.fst).Nodup

lemma twoLevels_of_isSorted {j : Json} (h : j.isSorted = true) : TwoLevels j where
  scopes := (Json.sortedKeys_of_isSorted h).nodup
  domains := fun _ _ hv => (Json.sortedKeys_of_isSorted (Json.isSorted_of_find? h hv)).nodup

/-! ### What is added -/

lemma lookup_missingDomains (active : Json) (d : String) (ms : List (String × Json)) :
    Json.lookup d (missingDomains active ms) =
      if isComment d || active.contains d then none else Json.lookup d ms := by
  induction ms with
  | nil => simp [missingDomains, Json.lookup]
  | cons m ms ih =>
      obtain ⟨k, v⟩ := m
      rw [missingDomains, Json.lookup]
      split
      · next hskip =>
          rw [ih]
          by_cases hk : k = d
          · rw [← hk, hskip]
            rfl
          · rw [if_neg hk]
      · next hkeep =>
          rw [Json.lookup, ih]
          by_cases hk : k = d
          · rw [← hk, if_pos rfl, if_pos rfl, if_neg hkeep]
          · rw [if_neg hk, if_neg hk]

lemma keys_missingDomains (active : Json) (ms : List (String × Json)) :
    ((missingDomains active ms).map Prod.fst).Sublist (ms.map Prod.fst) := by
  induction ms with
  | nil => exact List.Sublist.refl _
  | cons m ms ih =>
      obtain ⟨k, v⟩ := m
      rw [missingDomains]
      split
      · exact ih.cons k
      · exact ih.cons_cons k

/-- What is added under one scope of the startup document. -/
def addition (active : Json) (k : String) (v : Json) : Option Json :=
  if isComment k then none
  else
    match active.find? k with
    | none => some v
    | some scope =>
        if scope.isObject && v.isObject then
          match missingDomains scope v.members with
          | [] => none
          | missing => some (.obj missing)
        else none

/-- **The additions, scope by scope.** -/
lemma additions_eq (active : Json) (ms : List (String × Json)) :
    additions active ms = ms.filterMap fun m => (addition active m.1 m.2).map (Prod.mk m.1) := by
  induction ms with
  | nil => rfl
  | cons m ms ih =>
      obtain ⟨k, v⟩ := m
      rw [additions, List.filterMap_cons, ih, addition]
      split
      · rfl
      cases active.find? k with
      | none => rfl
      | some scope =>
          dsimp only
          split
          · cases missingDomains scope v.members <;> rfl
          · rfl

lemma keys_additions (active : Json) (ms : List (String × Json)) :
    ((additions active ms).map Prod.fst).Sublist (ms.map Prod.fst) := by
  rw [additions_eq]
  induction ms with
  | nil => exact List.Sublist.refl _
  | cons m ms ih =>
      obtain ⟨k, v⟩ := m
      rw [List.filterMap_cons]
      cases addition active k v with
      | none => exact ih.cons k
      | some w => exact ih.cons_cons k

lemma lookup_additions (active : Json) (k : String) {ms : List (String × Json)}
    (h : (ms.map Prod.fst).Nodup) :
    Json.lookup k (additions active ms) = (Json.lookup k ms).bind (addition active k) := by
  rw [additions_eq]
  induction ms with
  | nil => rfl
  | cons m ms ih =>
      obtain ⟨k', v⟩ := m
      rw [List.map_cons, List.nodup_cons] at h
      rw [List.filterMap_cons, Json.lookup]
      by_cases hk : k' = k
      · subst hk
        rw [if_pos rfl, Option.bind_some]
        cases hadd : addition active k' v with
        | none =>
            rw [Option.map_none]
            dsimp only
            rw [ih h.2, Json.lookup_eq_none_of_notMem h.1]
            rfl
        | some w =>
            rw [Option.map_some]
            dsimp only
            rw [Json.lookup, if_pos rfl]
      · rw [if_neg hk, ← ih h.2]
        cases addition active k' v with
        | none => rfl
        | some w =>
            rw [Option.map_some]
            dsimp only
            rw [Json.lookup, if_neg hk]

/-! ### The document behind the UPDATE -/

lemma lookup_map_snd (f : String → Json → Json) (k : String) (ms : List (String × Json)) :
    Json.lookup k (ms.map fun m => (m.1, f m.1 m.2)) = (Json.lookup k ms).map (f k) := by
  induction ms with
  | nil => rfl
  | cons m ms ih =>
      obtain ⟨k', v⟩ := m
      rw [List.map_cons, Json.lookup, Json.lookup]
      by_cases hk : k' = k
      · rw [if_pos hk, if_pos hk, hk]
        rfl
      · rw [if_neg hk, if_neg hk, ih]

lemma jsonbConcat_obj (ms ns : List (String × Json)) :
    jsonbConcat (.obj ms) (.obj ns) = .obj (Json.setMembers ms ns) := rfl

/-- A scope behind the UPDATE. -/
lemma find?_backfillDoc {adds : List (String × Json)} (h : (adds.map Prod.fst).Nodup) {doc : Json}
    (hobj : doc.isObject = true) (k : String) :
    (backfillDoc adds doc).find? k =
      ((Json.lookup k adds).map fun v => jsonbConcat ((doc.find? k).getD (.obj [])) v).or
        (doc.find? k) := by
  obtain ⟨ms, rfl⟩ := Json.isObject_iff.mp hobj
  have hkeys : ((adds.map fun a =>
      (a.1, jsonbConcat (((Json.obj ms).find? a.1).getD (.obj [])) a.2)).map Prod.fst).Nodup := by
    rw [List.map_map]
    exact h
  rw [backfillDoc, jsonbConcat_obj, Json.find?_obj, Json.lookup_setMembers hkeys,
    lookup_map_snd fun k v => jsonbConcat (((Json.obj ms).find? k).getD (.obj [])) v]
  rfl

/-- With nothing to add the document is what it was. -/
lemma backfillDoc_nil {doc : Json} (hobj : doc.isObject = true) : backfillDoc [] doc = doc := by
  obtain ⟨ms, rfl⟩ := Json.isObject_iff.mp hobj
  rfl

/-! ### Domain by domain -/

section Domains

variable {startup active : Json}

/-- The document that `seedStore` leaves. -/
def backfilled (startup active : Json) : Json :=
  backfillDoc (additions active startup.members) active

lemma find?_backfilled (hstartup : TwoLevels startup) (hobj : active.isObject = true) (s : String) :
    (backfilled startup active).find? s =
      (((startup.find? s).bind (addition active s)).map fun v =>
        jsonbConcat ((active.find? s).getD (.obj [])) v).or (active.find? s) := by
  have hkeys := (keys_additions active startup.members).nodup hstartup.scopes
  rw [backfilled, find?_backfillDoc hkeys hobj, lookup_additions active s hstartup.scopes]
  rfl

/-- A scope that is a comment is not touched. -/
lemma find?_of_isComment (hstartup : TwoLevels startup) (hobj : active.isObject = true) {s : String}
    (hs : isComment s = true) : (backfilled startup active).find? s = active.find? s := by
  have hnone : ∀ v, addition active s v = none := fun v => by rw [addition, if_pos hs]
  rw [find?_backfilled hstartup hobj]
  cases startup.find? s with
  | none => rfl
  | some v => rw [Option.bind_some, hnone]; rfl

/-- Nor is one that is no object. -/
lemma find?_of_scalar (hstartup : TwoLevels startup) (hobj : active.isObject = true) {s : String}
    {v : Json} (hv : active.find? s = some v) (hscalar : v.isObject = false) :
    (backfilled startup active).find? s = some v := by
  have hnone : ∀ w, addition active s w = none := fun w => by
    rw [addition, hv]
    simp [hscalar]
  rw [find?_backfilled hstartup hobj, hv]
  cases startup.find? s with
  | none => rfl
  | some w => rw [Option.bind_some, hnone]; rfl

lemma lookup_of_mem {ms : List (String × Json)} (h : (ms.map Prod.fst).Nodup) {k : String} {v : Json}
    (hmem : (k, v) ∈ ms) : Json.lookup k ms = some v := by
  induction ms with
  | nil => cases hmem
  | cons m ms ih =>
      obtain ⟨k', w⟩ := m
      rw [List.map_cons, List.nodup_cons] at h
      rw [Json.lookup]
      rcases List.mem_cons.mp hmem with heq | hmem
      · cases heq
        rw [if_pos rfl]
      · have hne : k' ≠ k := by
          rintro rfl
          exact h.1 (List.mem_map.mpr ⟨_, hmem, rfl⟩)
        rw [if_neg hne]
        exact ih h.2 hmem

lemma find?_of_not_isObject {j : Json} (h : j.isObject = false) (key : String) :
    j.find? key = none := by
  cases j with
  | obj => cases h
  | _ => rfl

/-- What is concatenated to an object. -/
lemma find?_jsonbConcat (ms : List (String × Json)) {v : Json} (h : (v.members.map Prod.fst).Nodup)
    (hobj : v.isObject = true) (d : String) :
    (jsonbConcat (.obj ms) v).find? d = (v.find? d).or (Json.lookup d ms) := by
  obtain ⟨ns, rfl⟩ := Json.isObject_iff.mp hobj
  rw [jsonbConcat_obj]
  exact Json.lookup_setMembers h ms

lemma isObject_jsonbConcat_scalar (ms : List (String × Json)) {v : Json}
    (h : v.isObject = false) : (jsonbConcat (.obj ms) v).isObject = false := by
  cases v with
  | obj => cases h
  | _ => rfl

/-- **A scope that is new comes as the startup document has it**, its comments too. -/
lemma domain?_of_absent (hstartup : TwoLevels startup) (hobj : active.isObject = true) {s : String}
    (hs : isComment s = false) (hnone : active.find? s = none) (d : String) :
    domain? (backfilled startup active) s d = domain? startup s d := by
  rw [domain?, domain?, find?_backfilled hstartup hobj, hnone]
  cases hv : startup.find? s with
  | none => rfl
  | some v =>
      have hadd : addition active s v = some v := by
        rw [addition, hnone, hs]
        rfl
      rw [Option.bind_some, hadd]
      change (jsonbConcat (.obj []) v).find? d = v.find? d
      by_cases hv' : v.isObject = true
      · rw [find?_jsonbConcat [] (hstartup.domains s v hv) hv']
        cases v.find? d <;> rfl
      · rw [Bool.not_eq_true] at hv'
        rw [find?_of_not_isObject (isObject_jsonbConcat_scalar [] hv'),
          find?_of_not_isObject hv']

lemma addition_of_present {s : String} (hs : isComment s = false) {scope v : Json}
    (hscope : active.find? s = some scope) (hobj : scope.isObject = true) :
    addition active s v =
      if v.isObject then
        match missingDomains scope v.members with
        | [] => none
        | missing => some (.obj missing)
      else none := by
  rw [addition, if_neg (by rw [hs]; exact Bool.false_ne_true), hscope]
  dsimp only
  rw [hobj, Bool.true_and]

/-- **A scope that is there gets the domains it lacks**, and no comment. -/
lemma domain?_of_present (hstartup : TwoLevels startup) (hobj : active.isObject = true)
    {s : String} (hs : isComment s = false) {scope : Json} (hscope : active.find? s = some scope)
    (hscopeObj : scope.isObject = true) (d : String) :
    domain? (backfilled startup active) s d =
      (scope.find? d).or (if isComment d then none else domain? startup s d) := by
  obtain ⟨ms, rfl⟩ := Json.isObject_iff.mp hscopeObj
  rw [domain?, domain?, find?_backfilled hstartup hobj, hscope]
  cases hv : startup.find? s with
  | none =>
      change (Json.obj ms).find? d = _
      rw [Option.bind_none, ite_self, Option.or_none]
  | some v =>
      rw [Option.bind_some, Option.bind_some]
      by_cases hv' : v.isObject = true
      · have hlookup := lookup_missingDomains (.obj ms) d v.members
        have hkeys := (keys_missingDomains (.obj ms) v.members).nodup (hstartup.domains s v hv)
        have hadded : ((Json.obj ms).find? d).or (if isComment d then none else v.find? d)
            = (Json.lookup d (missingDomains (.obj ms) v.members)).or ((Json.obj ms).find? d) := by
          rw [hlookup, Json.contains]
          cases (Json.obj ms).find? d with
          | none => simp [Json.find?]
          | some w => simp
        rw [hadded, addition_of_present hs hscope rfl, if_pos hv']
        cases hmissing : missingDomains (.obj ms) v.members with
        | nil => rfl
        | cons m rest =>
            rw [hmissing] at hkeys
            have hconcat := find?_jsonbConcat ms (v := .obj (m :: rest)) hkeys rfl d
            rwa [Json.find?_obj] at hconcat
      · rw [addition_of_present hs hscope rfl, if_neg hv']
        rw [Bool.not_eq_true] at hv'
        rw [find?_of_not_isObject hv', ite_self, Option.or_none]
        rfl

/-- What is there stays. -/
lemma domain?_kept (hstartup : TwoLevels startup) (hobj : active.isObject = true) {s d : String}
    {v : Json} (hv : domain? active s d = some v) :
    domain? (backfilled startup active) s d = some v := by
  obtain ⟨scope, hscope, hfound⟩ := Option.bind_eq_some_iff.mp hv
  cases hs : isComment s with
  | true => rw [domain?, find?_of_isComment hstartup hobj hs, ← domain?, hv]
  | false =>
      have hscopeObj : scope.isObject = true := Json.isObject_of_find? hfound
      rw [domain?_of_present hstartup hobj hs hscope hscopeObj, hfound, Option.some_or]

/-- What is new is what the startup document has. -/
lemma domain?_added (hstartup : TwoLevels startup) (hobj : active.isObject = true) {s d : String}
    {v : Json} (hnone : domain? active s d = none)
    (hv : domain? (backfilled startup active) s d = some v) : domain? startup s d = some v := by
  cases hs : isComment s with
  | true =>
      rw [domain?, find?_of_isComment hstartup hobj hs, ← domain?, hnone] at hv
      cases hv
  | false =>
      cases hscope : active.find? s with
      | none => rwa [domain?_of_absent hstartup hobj hs hscope] at hv
      | some scope =>
          rw [domain?, hscope, Option.bind_some] at hnone
          by_cases hscopeObj : scope.isObject = true
          · rw [domain?_of_present hstartup hobj hs hscope hscopeObj, hnone, Option.none_or] at hv
            split at hv
            · cases hv
            · exact hv
          · rw [Bool.not_eq_true] at hscopeObj
            rw [domain?, find?_of_scalar hstartup hobj hscope hscopeObj, Option.bind_some,
              hnone] at hv
            cases hv

/-- What is missing is added. -/
lemma isSome_domain?_backfilled (hstartup : TwoLevels startup) (hobj : active.isObject = true)
    {s d : String} (hs : isComment s = false) (hd : isComment d = false)
    (hdomain : (domain? startup s d).isSome)
    (hscalar : ∀ v, active.find? s = some v → v.isObject = true) :
    (domain? (backfilled startup active) s d).isSome := by
  cases hscope : active.find? s with
  | none => rwa [domain?_of_absent hstartup hobj hs hscope]
  | some scope =>
      rw [domain?_of_present hstartup hobj hs hscope (hscalar scope hscope), hd,
        Option.isSome_or]
      simp [hdomain]

/-- **The back-fill only adds exactly when no scope brings its comments.** -/
theorem onlyAdds_backfilled_iff (hstartup : TwoLevels startup) (hobj : active.isObject = true) :
    OnlyAdds startup active (backfilled startup active) ↔ ¬ BringsComment startup active := by
  constructor
  · rintro h ⟨s, d, hs, hnone, hd, hdomain⟩
    have habsent : domain? active s d = none := by
      rw [domain?, hnone]
      rfl
    have hgone := h.noDomain s d hd habsent
    rw [domain?_of_absent hstartup hobj hs hnone] at hgone
    rw [hgone] at hdomain
    cases hdomain
  · intro hbrings
    refine ⟨fun s d v hv => domain?_kept hstartup hobj hv,
      fun s d hs hd hdomain hscalar =>
        isSome_domain?_backfilled hstartup hobj hs hd hdomain hscalar,
      fun s hs hnone => ?_, fun s d hd hnone => ?_,
      fun s v hv hscalar => find?_of_scalar hstartup hobj hv hscalar⟩
    · rw [find?_of_isComment hstartup hobj hs, hnone]
    · cases hs : isComment s with
      | true => rw [domain?, find?_of_isComment hstartup hobj hs, ← domain?, hnone]
      | false =>
          cases hscope : active.find? s with
          | none =>
              rw [domain?_of_absent hstartup hobj hs hscope]
              by_contra hsome
              exact hbrings ⟨s, d, hs, hscope, hd, Option.isSome_iff_ne_none.mpr hsome⟩
          | some scope =>
              rw [domain?, hscope, Option.bind_some] at hnone
              by_cases hscopeObj : scope.isObject = true
              · rw [domain?_of_present hstartup hobj hs hscope hscopeObj, hnone, hd]
                rfl
              · rw [Bool.not_eq_true] at hscopeObj
                rw [domain?, find?_of_scalar hstartup hobj hscope hscopeObj, Option.bind_some,
                  hnone]

lemma isObject_backfilled (hobj : active.isObject = true) :
    (backfilled startup active).isObject = true := by
  obtain ⟨ms, rfl⟩ := Json.isObject_iff.mp hobj
  rfl

/-- A scope of the startup document is there afterwards. -/
lemma find?_backfilled_ne_none (hstartup : TwoLevels startup) (hobj : active.isObject = true)
    {s : String} {v : Json} (hs : isComment s = false) (hv : startup.find? s = some v) :
    (backfilled startup active).find? s ≠ none := by
  rw [find?_backfilled hstartup hobj, hv, Option.bind_some]
  cases hscope : active.find? s with
  | none =>
      rw [addition, hs, hscope]
      simp
  | some scope => simp

/-- **A second back-fill has nothing to add.** -/
theorem additions_backfilled (hstartup : TwoLevels startup) (hobj : active.isObject = true) :
    additions (backfilled startup active) startup.members = [] := by
  rw [additions_eq, List.filterMap_eq_nil_iff]
  rintro ⟨s, v⟩ hmem
  have hv : startup.find? s = some v := lookup_of_mem hstartup.scopes hmem
  have hnone : addition (backfilled startup active) s v = none := by
    rw [addition]
    split
    · rfl
    next hcomment =>
    rw [Bool.not_eq_true] at hcomment
    cases hafter : (backfilled startup active).find? s with
    | none => exact absurd hafter (find?_backfilled_ne_none hstartup hobj hcomment hv)
    | some scope =>
        dsimp only
        split
        · next hboth =>
            rw [Bool.and_eq_true] at hboth
            cases hmissing : missingDomains scope v.members with
            | nil => rfl
            | cons m rest =>
                -- a domain still missing would be one of the startup scope
                exfalso
                obtain ⟨d, w⟩ := m
                have hlookup := lookup_missingDomains scope d v.members
                rw [hmissing, Json.lookup, if_pos rfl] at hlookup
                split at hlookup
                · cases hlookup
                next hlacks =>
                rw [Bool.or_eq_true, not_or, Bool.not_eq_true, Bool.not_eq_true] at hlacks
                have hdomain : (domain? startup s d).isSome := by
                  rw [domain?, hv, Option.bind_some, Json.find?, ← hlookup]
                  rfl
                have hscalar : ∀ u, active.find? s = some u → u.isObject = true := by
                  intro u hu
                  by_contra hu'
                  rw [Bool.not_eq_true] at hu'
                  rw [find?_of_scalar hstartup hobj hu hu'] at hafter
                  cases hafter
                  rw [hu'] at hboth
                  exact Bool.false_ne_true hboth.1
                have hthere := isSome_domain?_backfilled hstartup hobj hcomment hlacks.1 hdomain
                  hscalar
                rw [domain?, hafter, Option.bind_some, ← Json.contains, hlacks.2] at hthere
                cases hthere
        · rfl
  rw [hnone]
  rfl

end Domains

/-! ### Redaction -/

lemma keys_modify (j : Json) (key : String) (f : Json → Json) :
    (j.modify key f).members.map Prod.fst = j.members.map Prod.fst := by
  cases j with
  | obj ms =>
      rw [Json.modify, Json.members_obj, Json.members_obj]
      induction ms with
      | nil => rfl
      | cons m ms ih =>
          obtain ⟨k, v⟩ := m
          rw [Json.modifyMembers]
          split
          · rfl
          · rw [List.map_cons, List.map_cons, ih]
  | _ => rfl

lemma isSome_find?_modify (j : Json) (key d : String) (f : Json → Json) :
    ((j.modify key f).find? d).isSome = (j.find? d).isSome := by
  rw [Json.find?_modify]
  split
  · rw [Option.isSome_map]
  · rfl

/-- **Redaction takes no domain away**: it looks inside two of them. -/
lemma isSome_domain?_redact (j : Json) (s d : String) :
    (domain? (redactSecretsForPersist j) s d).isSome = (domain? j s d).isSome := by
  rw [domain?, domain?, redactSecretsForPersist, Json.find?_modify]
  split
  · cases j.find? s with
    | none => rfl
    | some v =>
        rw [Option.map_some, Option.bind_some, Option.bind_some, isSome_find?_modify,
          isSome_find?_modify]
  · rfl

lemma twoLevels_redact {j : Json} (h : TwoLevels j) : TwoLevels (redactSecretsForPersist j) where
  scopes := by
    rw [redactSecretsForPersist, keys_modify]
    exact h.scopes
  domains := by
    intro s v hv
    rw [redactSecretsForPersist, Json.find?_modify] at hv
    split at hv
    · obtain ⟨w, hw, rfl⟩ := Option.map_eq_some_iff.mp hv
      rw [keys_modify, keys_modify]
      exact h.domains s w hw
    · exact h.domains s v hv

/-- Neither what the back-fill is for nor what it brings tells the redacted
document from the whole one. -/
lemma onlyAdds_redact_iff {startup active after : Json} :
    OnlyAdds (redactSecretsForPersist startup) active after ↔ OnlyAdds startup active after := by
  constructor
  · rintro ⟨hkept, hcomplete, hscope, hdomain, hscalar⟩
    refine ⟨hkept, fun s d hs hd h => ?_, hscope, hdomain, hscalar⟩
    rw [← isSome_domain?_redact] at h
    exact hcomplete s d hs hd h
  · rintro ⟨hkept, hcomplete, hscope, hdomain, hscalar⟩
    refine ⟨hkept, fun s d hs hd h => ?_, hscope, hdomain, hscalar⟩
    rw [isSome_domain?_redact] at h
    exact hcomplete s d hs hd h

lemma bringsComment_redact_iff {startup active : Json} :
    BringsComment (redactSecretsForPersist startup) active ↔ BringsComment startup active := by
  simp only [BringsComment, isSome_domain?_redact]

/-! ### The table -/

/-- Every call of a `preflight` that the database has to answer is answered. -/
structure SeedIO.Answered (io : SeedIO) : Prop where
  connect : io.connect = true
  schema : io.schema = true
  seed : io.seed = true
  select : io.load.select 0 = true
  backfill : io.backfill = true

/-- Rows changed but for their versions and states keep the active one. -/
lemma activeRow_map {f : Row → Row} (hversion : ∀ r, (f r).version = r.version)
    (hstate : ∀ r, (f r).state = r.state) (tbl : Table) :
    activeRow (tbl.map f) = (activeRow tbl).map f := by
  have hrows : activeRows (tbl.map f) = (activeRows tbl).map f := by
    rw [activeRows, activeRows, List.filter_map]
    congr 1
    refine List.filter_congr fun r _ => ?_
    rw [Function.comp_apply, hstate]
  rw [activeRow, activeRow, hrows]
  induction activeRows tbl with
  | nil => rfl
  | cons r rows ih =>
      rw [List.map_cons, List.argmax_cons, List.argmax_cons, ih]
      cases rows.argmax Row.version with
      | none => rfl
      | some r' =>
          rw [Option.map_some]
          dsimp only
          rw [hversion, hversion]
          split <;> rfl

/-- The back-fill of a row. -/
def fillRow (adds : List (String × Json)) (r : Row) : Row :=
  if r.state = .active then { r with config := backfillDoc adds r.config } else r

/-- `preflight` over an active row, with a database that answers. -/
lemma preflight_eq {file : Option Json} {tbl : Table} {io : SeedIO} (hio : io.Answered)
    {r : Row} (hr : activeRow tbl = some r) (hobj : r.config.isObject = true) (c : ConfigState) :
    (preflight file tbl io c).1 =
      if additions r.config (redactSecretsForPersist (readStartupFile file)).members = [] then tbl
      else tbl.map (fillRow
        (additions r.config (redactSecretsForPersist (readStartupFile file)).members)) := by
  have hne : tbl ≠ [] := by
    rintro rfl
    cases hr
  have hload : (loadRunningConfigRoot file tbl io.load
      (bootstrapDatabase io.connect { c with seederProcess := true })).1 = r.config := by
    have hquery : queryRunningConfig tbl io.load (bootstrapDatabase io.load.connect
        { bootstrapDatabase io.connect { c with seederProcess := true } with
          runningConfigVersionCache := 0 }) = some (r.version, r.config) := by
      rw [queryRunningConfig, if_pos (by simp [bootstrapDatabase, hio.connect])]
      have hcount : selectCount (bootstrapDatabase io.load.connect
          { bootstrapDatabase io.connect { c with seederProcess := true } with
            runningConfigVersionCache := 0 }) = 1 := rfl
      rw [hcount]
      simp [latestRunningConfig, hio.select, hr, hobj]
    rw [loadRunningConfigRoot, hquery]
  rw [preflight]
  dsimp only
  rw [hio.schema, hio.seed, hio.backfill, if_neg hne, hload]
  cases hempty : (readStartupFile file).isEmpty with
  | true =>
      have hnone : additions r.config
          (redactSecretsForPersist (readStartupFile file)).members = [] := by
        obtain ⟨ms, hms⟩ := Json.isObject_iff.mp (isObject_readStartupFile file)
        rw [hms] at hempty ⊢
        cases ms with
        | nil => rfl
        | cons m ms => cases hempty
      simp [hnone]
  | false =>
      simp only [bootstrapDatabase, hio.connect, Bool.or_true, Bool.and_true, Bool.not_false,
        if_true, and_true, ne_eq, ite_not]
      rfl

/-- **The active row behind `preflight`** is the one before it, back-filled. -/
theorem activeRow_preflight {file : Option Json} {tbl : Table} {io : SeedIO} (hio : io.Answered)
    {r : Row} (hr : activeRow tbl = some r) (hobj : r.config.isObject = true) (c : ConfigState) :
    activeRow (preflight file tbl io c).1 = some { r with
      config := backfilled (redactSecretsForPersist (readStartupFile file)) r.config } := by
  have hactive : r.state = .active := by
    have hmem := (List.mem_filter.mp (List.argmax_mem hr)).2
    rwa [decide_eq_true_eq] at hmem
  rw [preflight_eq hio hr hobj]
  split
  · next hnone => rw [backfilled, hnone, backfillDoc_nil hobj, hr]
  · have hversion : ∀ adds r, (fillRow adds r).version = r.version := fun adds r => by
      rw [fillRow]
      split <;> rfl
    have hstate : ∀ adds r, (fillRow adds r).state = r.state := fun adds r => by
      rw [fillRow]
      split <;> rfl
    rw [activeRow_map (hversion _) (hstate _), hr, Option.map_some, fillRow, if_pos hactive]
    rfl

/-- **The back-fill only adds, and adds once, exactly when no scope brings its
comments**: over any startup file and any active document, with a database that
answers. What it adds is redacted. -/
theorem seedStore_onlyAdds_iff {file : Option Json} {tbl : Table} {io io' : SeedIO}
    (hfile : (readStartupFile file).isSorted = true) (hio : io.Answered) (hio' : io'.Answered)
    {r : Row} (hr : activeRow tbl = some r) (hobj : r.config.isObject = true)
    (c c' : ConfigState) :
    ((∃ r', activeRow (preflight file tbl io c).1 = some r' ∧
        OnlyAdds (readStartupFile file) r.config r'.config ∧
        ∀ s d v, domain? r.config s d = none → domain? r'.config s d = some v →
          domain? (redactSecretsForPersist (readStartupFile file)) s d = some v) ∧
      (preflight file (preflight file tbl io c).1 io' c').1 = (preflight file tbl io c).1) ↔
    ¬ BringsComment (readStartupFile file) r.config := by
  have hstartup : TwoLevels (redactSecretsForPersist (readStartupFile file)) :=
    twoLevels_redact (twoLevels_of_isSorted hfile)
  have hafter : activeRow (preflight file tbl io c).1 = some { r with
      config := backfilled (redactSecretsForPersist (readStartupFile file)) r.config } :=
    activeRow_preflight hio hr hobj c
  have htwice : (preflight file (preflight file tbl io c).1 io' c').1
      = (preflight file tbl io c).1 := by
    rw [preflight_eq hio' hafter (isObject_backfilled hobj),
      if_pos (additions_backfilled hstartup hobj)]
  rw [and_iff_left htwice, ← bringsComment_redact_iff, ← onlyAdds_backfilled_iff hstartup hobj,
    onlyAdds_redact_iff, hafter]
  constructor
  · rintro ⟨r', heq, honly, -⟩
    cases heq
    exact honly
  · intro honly
    exact ⟨_, rfl, honly, fun s d v => domain?_added hstartup hobj⟩

namespace Backfill

/-- An active document from before the assistant. -/
abbrev before : Row := ⟨3, .obj [("pretzel", .obj [("site", .int 1)])], .active⟩

/-- A startup document with a scope for it. -/
abbrev startupDoc (assistant : List (String × Json)) : Json :=
  .obj [("pretzel", .obj [("site", .int 0)]), ("pretzel-ai", .obj assistant)]

/-- A database that answers. -/
abbrev answering : SeedIO where
  connect := true
  schema := true
  seed := true
  load := { connect := true, select := fun _ => true }
  backfill := true

lemma answered : answering.Answered := ⟨rfl, rfl, rfl, rfl, rfl⟩

end Backfill

open Backfill in
theorem seedStore_onlyAdds_assistant :
    ∃ r', activeRow (preflight (some (startupDoc [("guardrail", .null)])) [before] answering {}).1
        = some r' ∧
      OnlyAdds (startupDoc [("guardrail", .null)]) before.config r'.config := by
  have hbrings : ¬ BringsComment (startupDoc [("guardrail", .null)]) before.config := by
    rintro ⟨s, d, -, hlacks, hd, hdomain⟩
    have hs : s ≠ "pretzel" := by
      rintro rfl
      revert hlacks
      decide +kernel
    have hdomain' : d = "guardrail" := by
      by_contra hne
      simp only [domain?, Json.find?, Json.members_obj, Json.lookup, if_neg (Ne.symm hs)] at hdomain
      split at hdomain
      · simp [Json.lookup, Ne.symm hne] at hdomain
      · cases hdomain
    rw [hdomain'] at hd
    revert hd
    decide +kernel
  have hsorted : (readStartupFile (some (startupDoc [("guardrail", .null)]))).isSorted = true := by
    decide +kernel
  have hactive : activeRow [before] = some before := by decide +kernel
  obtain ⟨⟨r', hr', honly, -⟩, -⟩ :=
    (seedStore_onlyAdds_iff hsorted answered answered hactive rfl {} {}).mpr hbrings
  exact ⟨r', hr', honly⟩

open Backfill in
/-- **A comment that is reintroduced**: the scope is new, and comes with its
comments. -/
theorem seedStore_brings_comment :
    ∃ r', activeRow (preflight (some (startupDoc
        [("//guardrail", .str "Prompt scanning."), ("guardrail", .null)])) [before] answering {}).1
        = some r' ∧
      ¬ OnlyAdds (startupDoc [("//guardrail", .str "Prompt scanning."), ("guardrail", .null)])
        before.config r'.config := by
  have hend : (activeRow (preflight (some (startupDoc
      [("//guardrail", .str "Prompt scanning."), ("guardrail", .null)])) [before]
        answering {}).1).map (fun r => (domain? r.config "pretzel-ai" "//guardrail"))
      = some (some (.str "Prompt scanning.")) := by decide +kernel
  obtain ⟨r', hr', hcomment⟩ := Option.map_eq_some_iff.mp hend
  refine ⟨r', hr', fun h => ?_⟩
  have hnone := h.noDomain "pretzel-ai" "//guardrail" (by decide +kernel) (by decide +kernel)
  rw [hcomment] at hnone
  cases hnone

end Pretzel.Config
