import Pretzel.Fleet.AcceptedBatch
import Pretzel.Library.JsonScreen
import Pretzel.Mgmtd.AcceptedLists

/-!
Credentials in the values of an accepted batch.

* `declaredDomains`: the domains with a schema.
* `screen`: where the validator of a domain looks for which of the names.
* `clear_of_validateCommitShape`: what a validator accepts is clear on its screen.
* `NoSecrets`, `NoSecretsElsewhere`: no credential in a batch; none where no
  validator looks.
* `no_secrets_iff`: an accepted batch carries none exactly when it carries none
  elsewhere.
* `secret_committed`: one that is accepted with an API key.
-/

namespace Pretzel.Fleet

open Nlohmann Ipc Config Mgmtd

/-! ### Where the validators look -/

/-- The scopes and domains with a schema. -/
def declaredDomains : List (String × String) :=
  [("pretzel", "site"), ("pretzel", "connector"), ("pretzel", "user"),
    ("pretzel-ai", "providers"), ("pretzel-ai", "guardrail")]

/-- An object whose members are looked at, and nothing further inside. -/
def flatScreen (looked : List String) : Screen := .object looked fun _ => .unseen

/-- A domain that is a list: its own members, and the entries. -/
def listScreen (entry : Json → Screen) : Screen :=
  .object secretWords fun key => if key = "list" then .array entry else .unseen

/-- `validApiKey`, whose names have no `token` among them, and nothing else. -/
def connectorScreen : Screen :=
  .object [] fun key =>
    if key = "api_credentials" then .array fun _ => flatScreen ["password", "secret", "api_key", "key"]
    else .unseen

/-- A provider without models is done before its credentials are looked for. -/
def providerScreen (p : Json) : Screen :=
  if p.contains "models" then flatScreen secretWords else .unseen

/-- An engine and its two blocks. -/
def serviceScreen : Screen :=
  .object secretWords fun key =>
    if key = "airs" ∨ key = "gateway" then flatScreen secretWords else .unseen

/-- The screen of a scope and domain. -/
def screen (scopeName domain : String) : Screen :=
  if scopeName = "pretzel" ∧ domain = "connector" then connectorScreen
  else if scopeName = "pretzel-ai" ∧ domain = "providers" then listScreen providerScreen
  else if scopeName = "pretzel-ai" ∧ domain = "guardrail" then listScreen fun _ => serviceScreen
  else if scopeName = "pretzel" ∧ domain = "user" then listScreen fun _ => flatScreen secretWords
  else .unseen

/-! ### What a validator accepts -/

lemma clear_flatScreen {looked : List String} {j : Json} (hobj : j.isObject = true)
    (h : ∀ name ∈ looked, j.contains name = false) : (flatScreen looked).Clear j :=
  ⟨hobj, h, fun _ _ _ => trivial⟩

/-- An API key that is accepted. -/
lemma clear_of_validApiKey {k : Json} (h : validApiKey k = .ok true) :
    (flatScreen ["password", "secret", "api_key", "key"]).Clear k := by
  rw [validApiKey] at h
  split at h
  case isFalse => cases h
  next hobj =>
  rw [except_bind_eq_ok] at h
  obtain ⟨required, -, h⟩ := h
  cases required with
  | false => cases h
  | true =>
      have hnone := Except.ok.inj h
      rw [Bool.not_eq_true', List.any_eq_false] at hnone
      exact clear_flatScreen hobj fun name hname => Bool.eq_false_iff.mpr (hnone name hname)

lemma clear_connector {values : Json} (hobj : values.isObject = true)
    (h : ArraysValid connectorArrays values) : connectorScreen.Clear values := by
  refine ⟨hobj, fun name hname => absurd hname List.not_mem_nil, fun key v hv => ?_⟩
  show (if key = "api_credentials" then _ else Screen.unseen).Clear v
  split
  · next hkey =>
      have hmem : ("api_credentials", validApiKey) ∈ connectorArrays := List.mem_cons_self
      obtain ⟨es, rfl, hvalid⟩ := h _ hmem v (hkey ▸ hv)
      exact ⟨rfl, fun e he => clear_of_validApiKey (hvalid e he)⟩
  · trivial

/-- A domain that is a list. -/
lemma clear_of_validateList {values : Json} {domain : String} {entry : Json → Screen}
    {validate : List Json → Except JsonError (Option String)} (hobj : values.isObject = true)
    (h : validateList values domain validate = .ok none)
    (hvalidate : ∀ list, validate list = .ok none → ∀ e ∈ list, (entry e).Clear e) :
    (listScreen entry).Clear values := by
  obtain ⟨hnone, hlist⟩ := validateList_eq_ok h
  refine ⟨hobj, hnone, fun key v hv => ?_⟩
  show (if key = "list" then Screen.array entry else .unseen).Clear v
  split
  · next hkey =>
      obtain ⟨list, rfl, hvalid⟩ := hlist v (hkey ▸ hv)
      exact ⟨rfl, hvalidate list hvalid⟩
  · trivial

lemma clear_of_acceptedProvider {p : Json} (h : AcceptedProvider p) :
    (providerScreen p).Clear p := by
  rw [providerScreen]
  split
  · next hmodels =>
      obtain ⟨v, hv⟩ := Json.contains_iff.mp hmodels
      exact clear_flatScreen h.isObject (h.models v hv).1
  · trivial

lemma clear_of_acceptedService {e : Json} (h : AcceptedService e) : serviceScreen.Clear e := by
  refine ⟨h.isObject, h.noCredential, fun key v hv => ?_⟩
  show (if key = "airs" ∨ key = "gateway" then flatScreen secretWords else .unseen).Clear v
  split
  · next hkey =>
      rcases hkey with rfl | rfl
      · exact clear_flatScreen (h.airs v hv).isObject (h.airs v hv).noCredential
      · exact clear_flatScreen (h.gateway v hv).isObject (h.gateway v hv).noCredential
  · trivial

/-- The accounts, behind the checks of the list as a whole. -/
lemma clear_of_validateUsers {values : Json} (hobj : values.isObject = true)
    (h : validateUsers values = .ok none) :
    (listScreen fun _ => flatScreen secretWords).Clear values := by
  refine clear_of_validateList hobj h fun list hlist u hu => ?_
  split at hlist
  · cases hlist
  rw [except_bind_eq_ok] at hlist
  obtain ⟨admin, -, hlist⟩ := hlist
  cases admin with
  | false => cases hlist
  | true =>
      obtain ⟨hu, hnone⟩ := accepted_of_validateAccounts hlist u hu
      exact clear_flatScreen hu hnone

/-- **What the schema accepts is clear on its screen.** -/
theorem clear_of_validateCommitShape {scopeName domain : String} {values : Json}
    (hobj : values.isObject = true)
    (h : validateCommitShape scopeName domain values = .ok none) :
    (screen scopeName domain).Clear values := by
  rw [validateCommitShape] at h
  rw [screen]
  split at h
  · next hsite =>
      obtain ⟨rfl, rfl⟩ := hsite
      trivial
  split at h
  · next hconnector =>
      rw [if_pos hconnector]
      exact clear_connector hobj (arraysValid_of_validateArrays h)
  next hconnector =>
  rw [if_neg hconnector]
  split at h
  · next hproviders =>
      rw [if_pos hproviders]
      refine clear_of_validateList hobj h fun list hlist p hp => ?_
      exact clear_of_acceptedProvider ((accepted_of_validateProviders hlist).1 p hp)
  next hproviders =>
  rw [if_neg hproviders]
  split at h
  · next hguardrail =>
      rw [if_pos hguardrail]
      refine clear_of_validateList hobj h fun list hlist e he => ?_
      exact clear_of_acceptedService ((accepted_of_validateServices hlist).1 e he)
  next hguardrail =>
  rw [if_neg hguardrail]
  split at h
  · next huser =>
      rw [if_pos huser]
      exact clear_of_validateUsers hobj h
  · next huser =>
      rw [if_neg huser]
      trivial

/-! ### Batches -/

/-- No object inside the values of a domain with a schema has a member that is a
credential. -/
def NoSecrets (changes : List Json) : Prop :=
  ∀ c ∈ changes, ∀ target ∈ declaredDomains, AimsAt c target.1 target.2 →
    (c.memberOrNull "values").FreeOf secretWords

/-- None has one where the validator of the domain does not look for it. -/
def NoSecretsElsewhere (changes : List Json) : Prop :=
  ∀ c ∈ changes, ∀ target ∈ declaredDomains, AimsAt c target.1 target.2 →
    (screen target.1 target.2).FreeElsewhere secretWords (c.memberOrNull "values")

section Batches

variable {io : ConfigSource} {isAdmin : Bool} {body : Json.Document} {s : MgmtdState}
  {changes : List Json}

/-- **An accepted batch carries no credential exactly when it carries none where no
validator looks.** -/
theorem no_secrets_iff (h : Accepts io isAdmin body s changes) :
    NoSecrets changes ↔ NoSecretsElsewhere changes := by
  refine forall_congr' fun c => forall_congr' fun hc => forall_congr' fun target =>
    forall_congr' fun _ => forall_congr' fun haimed => ?_
  obtain ⟨scopeName, domain, values, hpassed⟩ := passed_of_accepts h hc
  obtain ⟨scopeName', domain'⟩ := target
  cases hpassed.scope.symm.trans haimed.1
  cases hpassed.domain.symm.trans haimed.2
  rw [Json.memberOrNull, hpassed.values, Option.getD_some]
  exact Screen.freeOf_iff (clear_of_validateCommitShape rfl hpassed.shape)

/-- A store without a configuration. -/
def Sample.emptySource : ConfigSource := ⟨none, [], ⟨true, fun _ => true⟩⟩

/-- A change of the providers. -/
def Sample.providers (entry : List (String × Json)) : Json :=
  .obj [("domain", .str "providers"), ("scope", .str "pretzel-ai"),
    ("values", .obj [("list", .arr [.obj entry])])]

/-- A provider with its key, and without models. -/
def Sample.keyed : Json := Sample.providers [("api_key", .str "sk-1"), ("id", .str "openai")]

/-- A provider without its key. -/
def Sample.keyless : Json := Sample.providers [("id", .str "openai"), ("models", .arr [])]

/-- The body of one change. -/
def Sample.oneChange (c : Json) : Json := .obj [("changes", .arr [c])]

def Sample.keyedBody : Json.Document := ⟨Sample.oneChange Sample.keyed, by decide⟩

def Sample.keylessBody : Json.Document := ⟨Sample.oneChange Sample.keyless, by decide⟩

lemma Sample.accepts_of_sent {body : Json.Document} {changes : List Json}
    (h : (Mgmtd.commit Sample.emptySource false (some body.val) {}).toOption.bind CommitOutcome.sent
      = some (buildSettingsCommitRequest changes)) :
    Accepts Sample.emptySource false body {} changes := by
  obtain ⟨out, hout, hsent⟩ := Option.bind_eq_some_iff.mp h
  cases hcommit : Mgmtd.commit Sample.emptySource false (some body.val) {} with
  | error e =>
      rw [hcommit] at hout
      cases hout
  | ok out' =>
      rw [hcommit] at hout
      cases hout
      exact ⟨out, hcommit, hsent⟩

lemma Sample.accepts_keyed : Accepts Sample.emptySource false Sample.keyedBody {} [Sample.keyed] :=
  Sample.accepts_of_sent (by decide)

lemma Sample.accepts_keyless :
    Accepts Sample.emptySource false Sample.keylessBody {} [Sample.keyless] :=
  Sample.accepts_of_sent (by decide)

/-- A provider without models is committed with its API key. -/
theorem secret_committed : ¬ ∀ io isAdmin body s changes, Accepts io isAdmin body s changes →
    NoSecrets changes := by
  intro hall
  have hnone := hall _ _ _ _ _ Sample.accepts_keyed Sample.keyed List.mem_cons_self
    ("pretzel-ai", "providers") (by decide) ⟨rfl, rfl⟩
  have hlist : (Sample.keyed.memberOrNull "values").find? "list"
      = some (.arr [.obj [("api_key", .str "sk-1"), ("id", .str "openai")]]) := rfl
  cases hnone _ (.member hlist (.element List.mem_cons_self .refl)) "api_key" List.mem_cons_self

lemma Sample.elsewhere_keyless : NoSecretsElsewhere [Sample.keyless] := by
  intro c hc target htarget haims
  obtain rfl := List.mem_singleton.mp hc
  have hproviders : target = ("pretzel-ai", "providers") := by
    obtain ⟨scopeName, domain⟩ := target
    cases haims.1
    cases haims.2
    rfl
  subst hproviders
  refine ⟨fun name hname hnot => absurd hname hnot, fun key v hv => ?_⟩
  have hlist : key = "list" ∧ v = .arr [.obj [("id", .str "openai"), ("models", .arr [])]] := by
    have hlookup : Json.lookup key
        [("list", .arr [.obj [("id", .str "openai"), ("models", .arr [])]])] = some v := hv
    simpa [Json.lookup, eq_comm] using hlookup
  obtain ⟨rfl, rfl⟩ := hlist
  intro p hp
  obtain rfl := List.mem_singleton.mp hp
  refine ⟨fun name hname hnot => absurd hname hnot, fun key v hv => ?_⟩
  have hscalar : v = .str "openai" ∨ v = .arr [] := by
    have hlookup : Json.lookup key [("id", .str "openai"), ("models", .arr [])] = some v := hv
    simp only [Json.lookup] at hlookup
    grind
  rcases hscalar with rfl | rfl
  · exact Json.freeOf_scalar rfl rfl
  · exact Json.freeOf_arr.mpr fun e he => absurd he List.not_mem_nil

/-- The law on a provider without its key. -/
theorem no_secrets_iff_keyless :
    Accepts Sample.emptySource false Sample.keylessBody {} [Sample.keyless] ∧
      NoSecrets [Sample.keyless] :=
  ⟨Sample.accepts_keyless, (no_secrets_iff Sample.accepts_keyless).mpr Sample.elsewhere_keyless⟩

end Batches

end Pretzel.Fleet
