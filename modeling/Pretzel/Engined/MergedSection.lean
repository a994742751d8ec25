import Pretzel.Config.ApiRefs
import Pretzel.Engined.ApplyCommit

/-!
What the merge of a commit leaves of one domain.

* `docSection_mergePatch`: a change merged into a document is a patch of the
  domain it is aimed at, and nothing to any other.
* `find?_mergeChanges`: under the key of an array, the connector domain of the
  merged document holds what the batch publishes, or what it held.
* `docSection_redact`: redaction leaves the connector domain alone.
-/

namespace Pretzel.Engined

open Nlohmann Config

/-- The connector domain of a document. -/
def connectorSection (doc : Json) : Json := docSection doc "pretzel" "connector"

/-! ### Members that are objects -/

lemma isObject_objectMember (j : Json) (key : String) : (objectMember j key).isObject = true := by
  rw [objectMember]
  cases j.find? key with
  | none => rfl
  | some v =>
      dsimp only
      split
      · assumption
      · rfl

lemma isObject_connectorSection (doc : Json) : (connectorSection doc).isObject = true :=
  isObject_objectMember _ _

lemma members_objectMember (j : Json) (key : String) :
    (objectMember j key).members = (j.memberOrNull key).members := by
  rw [objectMember, Json.memberOrNull]
  cases j.find? key with
  | none => rfl
  | some v => cases v <;> rfl

/-- A patch of one member, itself an object, patches that member alone. -/
lemma objectMember_mergePatch (j : Json) (key k : String) (patch : List (String × Json)) :
    objectMember (j.mergePatch (.obj [(key, .obj patch)])) k =
      if k = key then (objectMember j k).mergePatch (.obj patch) else objectMember j k := by
  rw [objectMember, Json.find?_mergePatch_singleton]
  by_cases hk : k = key
  · subst hk
    rw [if_pos rfl, if_pos rfl]
    simp only [Json.mergePatch, members_objectMember]
    rfl
  · rw [if_neg hk, if_neg hk]
    rfl

/-! ### One change -/

/-- A change that is well formed, by its parts. -/
lemma isWellFormed_iff {c : Json} : isWellFormed c = true ↔ ∃ scopeName domain values,
    c.find? "scope" = some (.str scopeName) ∧ c.find? "domain" = some (.str domain) ∧
      c.find? "values" = some (.obj values) ∧ scopeName ≠ "" ∧ domain ≠ "" := by
  rw [isWellFormed]
  constructor
  · intro h
    split at h
    · next scopeName domain values hs hd hv =>
        simp only [Bool.and_eq_true, bne_iff_ne, Json.isObject_iff] at h
        obtain ⟨⟨hs0, hd0⟩, ms, rfl⟩ := h
        exact ⟨scopeName, domain, ms, hs, hd, hv, hs0, hd0⟩
    · cases h
  · rintro ⟨scopeName, domain, values, hs, hd, hv, hs0, hd0⟩
    rw [hs, hd, hv]
    have hnonempty : (scopeName != "" && domain != "") = true := by
      rw [Bool.and_eq_true, bne_iff_ne, bne_iff_ne]
      exact ⟨hs0, hd0⟩
    exact Bool.and_eq_true_iff.mpr ⟨hnonempty, rfl⟩

/-- **A change merged into a document** patches the domain it is aimed at. -/
lemma docSection_mergePatch {c : Json} (h : isWellFormed c = true) (doc : Json) :
    connectorSection (doc.mergePatch (changePatch c)) =
      if isConnectorChange c then (connectorSection doc).mergePatch (c.memberOrNull "values")
      else connectorSection doc := by
  obtain ⟨scopeName, domain, values, hs, hd, hv, -, -⟩ := isWellFormed_iff.mp h
  have hconn : isConnectorChange c = true ↔ "pretzel" = scopeName ∧ "connector" = domain := by
    rw [isConnectorChange, hs, hd]
    simp only [Option.some.injEq, Json.str.injEq, Bool.and_eq_true, decide_eq_true_eq]
    exact and_congr eq_comm eq_comm
  rw [changePatch, hs, hd, hv, connectorSection, docSection, objectMember_mergePatch,
    Json.memberOrNull, hv]
  by_cases hscope : "pretzel" = scopeName
  · by_cases hdomain : "connector" = domain
    · rw [if_pos hscope, objectMember_mergePatch, if_pos hdomain, if_pos (hconn.mpr ⟨hscope, hdomain⟩)]
      rfl
    · rw [if_pos hscope, objectMember_mergePatch, if_neg hdomain,
        if_neg fun hc => hdomain (hconn.mp hc).2]
      rfl
  · rw [if_neg hscope, if_neg fun hc => hscope (hconn.mp hc).1]
    rfl

/-- A change that is not well formed publishes nothing. -/
lemma publishedBy_of_not_isWellFormed {c : Json} (h : isWellFormed c = false) (key : String) :
    publishedBy key c = none := by
  rw [publishedBy]
  split
  · next hconn =>
      simp only [isConnectorChange, Bool.and_eq_true, decide_eq_true_eq] at hconn
      cases hv : c.find? "values" with
      | none =>
          rw [Json.memberOrNull, hv]
          rfl
      | some v =>
          rw [Json.memberOrNull, hv, Option.getD_some]
          cases v with
          | obj ms =>
              have hw : isWellFormed c = true := isWellFormed_iff.mpr
                ⟨_, _, ms, hconn.1, hconn.2, hv, by decide, by decide⟩
              rw [h] at hw
              cases hw
          | _ => rfl
  · rfl

/-- A change with the keys of a parsed document, and an array under the given
key where it publishes one. -/
def PublishesArray (key : String) (c : Json) : Prop :=
  c.isSorted = true ∧ ∀ v, publishedBy key c = some v → v.isArray = true

lemma find?_stageChange {key : String} {c : Json} (hw : isWellFormed c = true)
    (hc : PublishesArray key c) (doc : Json) :
    (connectorSection (doc.mergePatch (changePatch c))).find? key
      = (publishedBy key c).or ((connectorSection doc).find? key) := by
  obtain ⟨scopeName, domain, values, hs, hd, hv, -, -⟩ := isWellFormed_iff.mp hw
  have hvalues : c.memberOrNull "values" = .obj values := by rw [Json.memberOrNull, hv]; rfl
  have hsorted := Json.sortedKeys_of_isSorted (Json.isSorted_of_find? hc.1 hv)
  have harray := hc.2
  rw [docSection_mergePatch hw]
  rw [publishedBy] at harray ⊢
  split
  · next hconn =>
      rw [if_pos hconn, hvalues, Json.find?_obj] at harray
      have hnodup : (values.map Prod.fst).Nodup := hsorted.nodup
      rw [hvalues, Json.mergePatch, Json.find?_obj, Json.lookup_mergeMembers _ _ hnodup,
        Json.find?_obj]
      cases hfind : Json.lookup key values with
      | none => rfl
      | some v =>
          obtain ⟨es, rfl⟩ := Json.isArray_iff.mp (harray v hfind)
          simp [Json.mergePatch]
  · rfl

/-! ### The batch -/

/-- **The merge of a batch**: under a key of arrays the connector domain holds
what the batch publishes, or what it held. -/
theorem find?_mergeChanges {key : String} {changes : List Json}
    (h : ∀ c ∈ changes, PublishesArray key c) (doc : Json) :
    (connectorSection (mergeChanges doc changes)).find? key
      = (published key changes).or ((connectorSection doc).find? key) := by
  induction changes generalizing doc with
  | nil => rfl
  | cons c rest ih =>
      have hrest : ∀ c' ∈ rest, PublishesArray key c' :=
        fun c' hc' => h c' (List.mem_cons_of_mem _ hc')
      rw [published, Option.or_assoc, mergeChanges_cons, ih hrest]
      cases hw : isWellFormed c with
      | true => rw [if_pos rfl, find?_stageChange hw (h c List.mem_cons_self)]
      | false => rw [if_neg Bool.false_ne_true, publishedBy_of_not_isWellFormed hw, Option.none_or]

/-- Redaction leaves the connector domain alone. -/
lemma connectorSection_redact (doc : Json) :
    connectorSection (redactSecretsForPersist doc) = connectorSection doc := by
  have hscope : ∀ s : Json, objectMember ((s.modify "database" fun d => d.erase "password").modify
      "console" fun c => c.erase "admin") "connector" = objectMember s "connector" := by
    intro s
    simp [objectMember, Json.find?_modify]
  have hmember : ∀ (doc : Json) (f : Json → Json), (∀ j, (f j).isObject = j.isObject) →
      objectMember (doc.modify "pretzel" f) "pretzel"
        = (doc.find? "pretzel").elim (.obj []) fun v => if v.isObject then f v else .obj [] := by
    intro doc f hf
    rw [objectMember, Json.find?_modify, if_pos rfl]
    cases doc.find? "pretzel" with
    | none => rfl
    | some v => simp only [Option.map_some, hf, Option.elim_some]
  rw [connectorSection, docSection, redactSecretsForPersist,
    hmember _ _ fun j => by rw [Json.isObject_modify, Json.isObject_modify], connectorSection,
    docSection]
  have hobject : objectMember doc "pretzel"
      = (doc.find? "pretzel").elim (.obj []) fun v => if v.isObject then v else .obj [] := by
    rw [objectMember]
    cases doc.find? "pretzel" <;> rfl
  rw [hobject]
  cases doc.find? "pretzel" with
  | none => rfl
  | some v =>
      rw [Option.elim_some, Option.elim_some]
      split
      · exact hscope v
      · rfl

end Pretzel.Engined
