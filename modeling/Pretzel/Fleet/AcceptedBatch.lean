import Pretzel.Fleet.HandOver
import Pretzel.Mgmtd.CommitReads

/-!
A batch that mgmtd's handler accepts, and what its changes have passed.

* `Accepts`: the handler hands the changes to the tx router.
* `PassedChange`, `passed_of_accepts`: a change with its scope, its domain and its
  values, which the validator of the domain takes.
* `unaimed_of_accepts`: a session that is no admin's changes no accounts.
-/

namespace Pretzel.Fleet

open Nlohmann Ipc Config Mgmtd

/-- The handler accepts a posted batch, and hands these changes over. -/
def Accepts (io : ConfigSource) (isAdmin : Bool) (body : Json.Document) (s : MgmtdState)
    (changes : List Json) : Prop :=
  ∃ out, Mgmtd.commit io isAdmin (some body.val) s = .ok out ∧
    out.sent = some (buildSettingsCommitRequest changes)

/-- A change that is aimed at a domain. -/
def AimsAt (c : Json) (scope domain : String) : Prop :=
  c.find? "scope" = some (.str scope) ∧ c.find? "domain" = some (.str domain)

/-- A change of an accepted batch: the document `json::parse` gave has no key of an
object twice. -/
structure PassedChange (c : Json) (scopeName domainName : String) (ms : List (String × Json)) :
    Prop where
  scope : c.find? "scope" = some (.str scopeName)
  domain : c.find? "domain" = some (.str domainName)
  values : c.find? "values" = some (.obj ms)
  known : scopeName ∈ kSettingsScopes
  shape : validateCommitShape scopeName domainName (.obj ms) = .ok none
  sorted : (Json.obj ms).isSorted = true

section Accepted

variable {io : ConfigSource} {isAdmin : Bool} {body : Json.Document} {s : MgmtdState}
  {changes : List Json}

lemma publishable_of_accepts (h : Accepts io isAdmin body s changes) :
    Publishable io isAdmin (some body.val) s changes := by
  obtain ⟨out, hcommit, hsent⟩ := h
  rcases commit_cases hcommit with ⟨changes', hpub, hsent', -⟩ | ⟨-, hsent', -⟩
  · have hsame : buildSettingsCommitRequest changes' = buildSettingsCommitRequest changes :=
      Option.some.inj (hsent'.symm.trans hsent)
    simp only [buildSettingsCommitRequest, IpcMessage.mk.injEq, Payload.json.injEq,
      Json.arr.injEq, true_and] at hsame
    exact hsame ▸ hpub
  · cases hsent'.symm.trans hsent

/-- **What a change of an accepted batch has passed.** -/
theorem passed_of_accepts (h : Accepts io isAdmin body s changes) {c : Json} (hc : c ∈ changes) :
    ∃ scopeName domain values, PassedChange c scopeName domain values := by
  have hpub := publishable_of_accepts h
  obtain ⟨j, hj, hposted⟩ := hpub.posted
  obtain ⟨results, -, -, -, hcheck, hzero, -⟩ := hpub.checks
  have hpasses := (failedCount_eq_zero_iff hcheck).mp hzero c hc
  obtain ⟨r, -, hr⟩ := (checkChanges_eq_ok hcheck).1 c hc
  have haccepted := (checkChange_eq_ok hr).2.2 ((passes_iff hr).mpr hpasses)
  obtain ⟨-, -, -, values, hvalues, hshape⟩ := hpasses
  obtain ⟨scopeName, hknown, hs⟩ := haccepted.scope
  obtain ⟨domain, hd⟩ := haccepted.domain
  rw [Json.textOr_of_find? hs, Json.textOr_of_find? hd] at hshape
  have hsorted : c.isSorted = true := by
    cases hj
    exact Json.isSorted_of_mem (Json.isSorted_of_find? body.property hposted) hc
  exact ⟨scopeName, domain, values, hs, hd, hvalues, hknown, hshape,
    Json.isSorted_of_find? hsorted hvalues⟩

/-- **A batch of a session that is no admin's changes no accounts.** -/
theorem unaimed_of_accepts (h : Accepts io false body s changes) {c : Json} (hc : c ∈ changes) :
    ¬ AimedAtAccounts c := by
  have hrefused := (publishable_of_accepts h).accounts
  rw [accountsRefused] at hrefused
  exact (publishesAccounts_eq hrefused).mp rfl c hc

end Accepted

end Pretzel.Fleet
