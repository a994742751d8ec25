import Pretzel.Config.ApiRefs

/-!
The commit schema of `SettingsController.cpp`: which entries a batch may carry.

* `validDevice`, `validSite`, `validApiKey`, `validApiEndpoint`,
  `validApiConnector`: one entry of an array of `pretzel.site` or
  `pretzel.connector`.
* `rejectSecrets`, `validateAiProviders`, `validateAiServices`, `validateUsers`:
  the domains with a schema of their own; the result is the error, or none.
* `validateCommitShape`: the schema of a scope and domain; any other domain is
  opaque.

A typed read that meets another type throws, and is an error of the function.
-/

namespace Pretzel.Mgmtd

open Nlohmann Config

/-! ### Entries -/

/-- Members read as strings in order, all of them non-empty. -/
def requireStrings (j : Json) : List String → Except JsonError Bool
  | [] => .ok true
  | key :: keys => do
      let s ← j.valueString key ""
      if s = "" then return false else requireStrings j keys

/-- `validDevice`. -/
def validDevice (d : Json) : Except JsonError Bool :=
  if d.isObject then requireStrings d ["oid", "target"] else .ok false

/-- `validSite`. -/
def validSite (s : Json) : Except JsonError Bool :=
  if s.isObject then requireStrings s ["oid", "name"] else .ok false

/-- `validApiKey`. -/
def validApiKey (k : Json) : Except JsonError Bool :=
  if k.isObject then do
    if ← requireStrings k ["oid", "name", "device"] then
      return !(["password", "secret", "api_key", "key"].any fun secret => k.contains secret)
    else return false
  else .ok false

/-- The loop of `validPairs`. -/
def validPairEntries : List Json → Except JsonError Bool
  | [] => .ok true
  | p :: rest =>
      if p.isObject then do
        let name ← p.valueString "name" ""
        if name = "" then return false else validPairEntries rest
      else .ok false

/-- `validPairs`: a name/value list, where there is one. -/
def validPairs (e : Json) (key : String) : Except JsonError Bool :=
  match e.find? key with
  | none => .ok true
  | some (.arr ps) => validPairEntries ps
  | some _ => .ok false

/-- No header is the bearer token. -/
def noAuthorization : List Json → Except JsonError Bool
  | [] => .ok true
  | h :: rest => do
      let name ← h.valueString "name" ""
      if name.toLower = "authorization" then return false else noAuthorization rest

/-- The part of `validApiEndpoint` for a cloud product. -/
def validSaseEndpoint (e : Json) (subtype : String) : Except JsonError Bool :=
  if subtype = "ztna" then do
    let host ← e.valueString "host" ""
    if host = "" ∨ '/' ∈ host.toList then return false
    else if ← validPairs e "headers" then
      let headers ← e.valueJson "headers" (.arr [])
      noAuthorization headers.elements
    else return false
  else .ok false

/-- `validApiEndpoint`. -/
def validApiEndpoint (e : Json) : Except JsonError Bool :=
  if e.isObject then do
    if ← requireStrings e ["oid", "name"] then
      let path ← e.valueString "path" ""
      if path.toList.head? = some '/' then
        if ← validPairs e "params" then
          let deviceType ← e.valueString "device_type" "ngfw"
          if deviceType = "sase" then
            let product ← e.valueString "product" "ztna"
            let subtype ← e.valueString "subtype" product
            validSaseEndpoint e subtype
          else if deviceType = "ngfw" then
            let apiType ← e.valueString "api_type" ""
            let subtype ← e.valueString "subtype" apiType
            return decide (subtype = "" ∨ subtype = "xml" ∨ subtype = "rest")
          else return false
        else return false
      else return false
    else return false
  else .ok false

/-- One item of a connector. -/
def validConnectorItem (item : Json) : Except JsonError Bool :=
  if item.isObject then do
    let endpoint ← item.valueString "endpoint" ""
    if endpoint = "" then return false
    else
      let interval ← match item.find? "poll_interval_sec" with
        | none => pure true
        | some v =>
            if v.isNumberInteger then do return decide (1 ≤ (← v.getInt64)) else pure false
      if interval then
        return match item.find? "enabled" with
          | none => true
          | some v => v.isBoolean
      else return false
  else .ok false

/-- The items of a connector, up to the first that is not valid. -/
def validConnectorItems : List Json → Except JsonError Bool
  | [] => .ok true
  | item :: rest => do
      if ← validConnectorItem item then validConnectorItems rest else return false

/-- `validApiConnector`. -/
def validApiConnector (c : Json) : Except JsonError Bool :=
  if c.isObject then do
    if ← requireStrings c ["oid", "object", "auth_profile"] then
      if c.contains "endpoint" || c.contains "params" || c.contains "poll_interval_sec" then
        return false
      else
        match c.find? "items" with
        | some (.arr items) => validConnectorItems items
        | _ => return false
    else return false
  else .ok false

/-! ### Credentials -/

/-- `rejectSecrets`: the error of the first credential among the members. -/
def rejectSecrets (values : Json) (domain : String) : Option String :=
  (["api_key", "key", "token", "password", "secret"].find? fun secret => values.contains secret).map
    fun secret => domain ++ "." ++ secret ++
      " is a credential and cannot be committed to the running configuration"

/-! ### The assistant's providers -/

/-- `kAiProviders`. -/
def kAiProviders : List String := ["openai", "google", "anthropic"]

/-- `name[index]`. -/
def indexed (name : String) (idx : ℕ) : String := name ++ "[" ++ toString idx ++ "]"

/-- The loop over a provider's models, with the ids seen so far. -/
def validateModels (at_ : String) :
    ℕ → List String → List Json → Except JsonError (Option String)
  | _, _, [] => .ok none
  | idx, seen, m :: rest => do
      let mat := indexed (at_ ++ ".models") idx
      let mid ← if m.isObject then m.valueString "id" "" else pure ""
      if mid = "" then return some (mat ++ " has no model id")
      else if '/' ∈ mid.toList then
        return some (mat ++ " (\"" ++ mid ++ "\") must be the bare model name — the provider is " ++
          "the entry it sits under")
      else if mid ∈ seen then return some (mat ++ " repeats model '" ++ mid ++ "'")
      else validateModels at_ (idx + 1) (mid :: seen) rest

/-- The loop over the providers. One without models is done before its
credentials are looked for. -/
def validateProviders : ℕ → List String → List Json → Except JsonError (Option String)
  | _, _, [] => .ok none
  | idx, seen, p :: rest =>
      let at_ := indexed "providers.list" idx
      if p.isObject then do
        let id ← p.valueString "id" ""
        if id ∉ kAiProviders then
          return some (at_ ++ " has an unknown provider id '" ++ id ++
            "' — one of openai, google, anthropic")
        else if id ∈ seen then return some (at_ ++ " repeats provider '" ++ id ++ "'")
        else
          match p.find? "models" with
          | none => validateProviders (idx + 1) (id :: seen) rest
          | some (.arr models) => do
              match ← validateModels at_ 0 [] models with
              | some error => return some error
              | none =>
                  match rejectSecrets p at_ with
                  | some error => return some error
                  | none => validateProviders (idx + 1) (id :: seen) rest
          | some _ => return some (at_ ++ " (\"" ++ id ++ "\") models must be an array")
      else .ok (some (at_ ++ " is not an object"))

/-- The credentials and the list of a domain that is one. -/
def validateList (values : Json) (domain : String)
    (validate : List Json → Except JsonError (Option String)) : Except JsonError (Option String) :=
  match rejectSecrets values domain with
  | some error => .ok (some error)
  | none =>
      match values.find? "list" with
      | none => .ok none
      | some (.arr list) => validate list
      | some _ => .ok (some (domain ++ ".list must be an array"))

/-- `validateAiProviders`. -/
def validateAiProviders (values : Json) : Except JsonError (Option String) :=
  validateList values "providers" (validateProviders 0 [])

/-! ### The assistant's engines -/

/-- `kAiServices`. -/
def kAiServices : List String := ["chat", "agent"]

/-- `kGuardrailKinds`. -/
def kGuardrailKinds : List String := ["none", "api_application", "ai_gateway"]

/-- The switches of `checkpoints`. -/
def validateCheckpoints (e : Json) (at_ : String) : Option String :=
  match e.find? "checkpoints" with
  | none => none
  | some cp =>
      if cp.isObject then
        (["prompt", "response", "tool_call", "tool_result"].find? fun f =>
          ((cp.find? f).map fun v => !v.isBoolean).getD false).map
            fun f => at_ ++ ".checkpoints." ++ f ++ " must be a boolean"
      else some (at_ ++ ".checkpoints must be an object")

/-- `get<double>() > 0` of a number. -/
def isPositive : Json → Bool
  | .int i => decide (0 < i)
  | .float m _ => decide (0 < m)
  | _ => false

/-- `get<double>() >= 0` of a number. -/
def isNonNegative : Json → Bool
  | .int i => decide (0 ≤ i)
  | .float m _ => decide (0 ≤ m)
  | _ => false

/-- One of the two blocks of a guardrail. -/
def validateBlock (e : Json) (at_ key : String) : Option String :=
  match e.find? key with
  | none => none
  | some blk =>
      if blk.isObject then
        match rejectSecrets blk (at_ ++ "." ++ key) with
        | some error => some error
        | none =>
            match blk.find? "timeout_sec" with
            | some t =>
                if isPositive t then none
                else some (at_ ++ "." ++ key ++ ".timeout_sec must be a positive number")
            | none => none
      else some (at_ ++ "." ++ key ++ " must be an object")

/-- The block `shape`. -/
def validateShape (e : Json) (at_ : String) : Option String :=
  match e.find? "shape" with
  | none => none
  | some sh =>
      if sh.isObject then
        if ((sh.find? "system_prompt").map fun sp => sp.isString).getD true then
          if ((sh.find? "max_tokens").map fun mt => isNonNegative mt).getD true then none
          else some (at_ ++ ".shape.max_tokens must be a non-negative number")
        else some (at_ ++ ".shape.system_prompt must be a string")
      else some (at_ ++ ".shape must be an object")

/-- `validateServiceEntry`. -/
def validateServiceEntry (e : Json) (at_ : String) : Except JsonError (Option String) :=
  if e.isObject then
    match rejectSecrets e at_ with
    | some error => .ok (some error)
    | none => do
        let service ← e.valueString "service" ""
        if service ∉ kAiServices then
          return some (at_ ++ ".service must be one of chat, agent — got '" ++ service ++ "'")
        else
          let guardrail ← e.valueString "guardrail" ""
          if guardrail ∉ kGuardrailKinds then
            return some (at_ ++ ".guardrail must be one of none, api_application, ai_gateway " ++
          "— got '" ++ guardrail ++ "'")
          else
            return (validateCheckpoints e at_).or
              ((validateBlock e at_ "airs").or
                ((validateBlock e at_ "gateway").or (validateShape e at_)))
  else .ok (some (at_ ++ " must be an object"))

/-- The loop over the engines. -/
def validateServices : ℕ → List String → List Json → Except JsonError (Option String)
  | _, _, [] => .ok none
  | idx, seen, e :: rest => do
      let at_ := indexed "guardrail.list" idx
      match ← validateServiceEntry e at_ with
      | some error => return some error
      | none =>
          let service ← e.valueString "service" ""
          if service ∈ seen then return some (at_ ++ " repeats service '" ++ service ++ "'")
          else validateServices (idx + 1) (service :: seen) rest

/-- `validateAiServices`. -/
def validateAiServices (values : Json) : Except JsonError (Option String) :=
  validateList values "guardrail" (validateServices 0 [])

/-! ### The local accounts -/

/-- A character a username may use. -/
def usernameChar (c : Char) : Bool :=
  c.isAlphanum || c == '.' || c == '-' || c == '_'

/-- `validUserEntry`. -/
def validUserEntry (u : Json) (at_ : String) : Except JsonError (Option String) :=
  if u.isObject then
    match rejectSecrets u at_ with
    | some error => .ok (some error)
    | none => do
        let oid ← u.valueString "oid" ""
        if oid = "" then return some (at_ ++ " has no oid")
        else
          let role ← u.valueString "role" ""
          if role ≠ "admin" ∧ role ≠ "user" then
            return some (at_ ++ ".role must be admin or user — got '" ++ role ++ "'")
          else
            let name ← u.valueString "username" ""
            if name = "" then return some (at_ ++ " has no username")
            else if 64 < name.utf8ByteSize then
              return some (at_ ++ ".username is longer than 64 characters")
            else if name.toList.all usernameChar then return none
            else
              return some (at_ ++ ".username may use letters, digits, dot, dash and underscore only")
  else .ok (some (at_ ++ " must be an object"))

/-- Whether some account is an admin, up to the first that is. -/
def anyAdmin : List Json → Except JsonError Bool
  | [] => .ok false
  | u :: rest => do
      let role ← if u.isObject then u.valueString "role" "" else pure ""
      if role = "admin" then return true else anyAdmin rest

/-- The loop over the accounts, with the oids and lower-case names seen so far. -/
def validateAccounts :
    ℕ → List String → List String → List Json → Except JsonError (Option String)
  | _, _, _, [] => .ok none
  | idx, oids, names, u :: rest => do
      let at_ := indexed "user.list" idx
      match ← validUserEntry u at_ with
      | some error => return some error
      | none =>
          let oid ← u.valueString "oid" ""
          if oid ∈ oids then return some (at_ ++ " repeats an oid")
          else
            let name ← u.valueString "username" ""
            if name.toLower ∈ names then
              return some (at_ ++ " repeats the username '" ++ name ++ "'")
            else validateAccounts (idx + 1) (oid :: oids) (name.toLower :: names) rest

/-- `validateUsers`. -/
def validateUsers (values : Json) : Except JsonError (Option String) :=
  validateList values "user" fun list =>
    if list = [] then
      .ok (some "at least one local account must remain — the appliance would have no way in")
    else do
      if ← anyAdmin list then validateAccounts 0 [] [] list
      else
        return some "at least one account must be an admin — nobody could manage accounts otherwise"

/-! ### The schema of a domain -/

/-- The loop of `validateArray`. -/
def validateEntries (key : String) (validEntry : Json → Except JsonError Bool) :
    ℕ → List Json → Except JsonError (Option String)
  | _, [] => .ok none
  | idx, entry :: rest => do
      if ← validEntry entry then validateEntries key validEntry (idx + 1) rest
      else
        let name ← if entry.isObject then entry.valueString "name" "" else pure ""
        return some ("invalid " ++ key ++ " entry #" ++ toString idx ++
          if name = "" then "" else " (\"" ++ name ++ "\")")

/-- `validateArray`, of `validateCommitShape`. -/
def validateArray (values : Json) (key : String) (validEntry : Json → Except JsonError Bool) :
    Except JsonError (Option String) :=
  match values.find? key with
  | none => .ok none
  | some (.arr entries) => validateEntries key validEntry 0 entries
  | some _ => .ok (some (key ++ " must be an array"))

/-- The arrays of a domain checked in order, up to the first error. -/
def validateArrays (values : Json) :
    List (String × (Json → Except JsonError Bool)) → Except JsonError (Option String)
  | [] => .ok none
  | (key, validEntry) :: rest => do
      match ← validateArray values key validEntry with
      | some error => return some error
      | none => validateArrays values rest

/-- `validateCommitShape`: the error, or none. -/
def validateCommitShape (scopeName domain : String) (values : Json) :
    Except JsonError (Option String) :=
  if scopeName = "pretzel" ∧ domain = "site" then
    validateArrays values
      [("sites", validSite), ("ngfw_devices", validDevice), ("sase_devices", validDevice)]
  else if scopeName = "pretzel" ∧ domain = "connector" then
    validateArrays values [("api_credentials", validApiKey), ("endpoints", validApiEndpoint),
      ("connectors", validApiConnector)]
  else if scopeName = "pretzel-ai" ∧ domain = "providers" then validateAiProviders values
  else if scopeName = "pretzel-ai" ∧ domain = "guardrail" then validateAiServices values
  else if scopeName = "pretzel" ∧ domain = "user" then validateUsers values
  else .ok none

lemma validateArray_eq_ok {values : Json} {key : String} {validEntry : Json → Except JsonError Bool}
    (h : validateArray values key validEntry = .ok none) {v : Json}
    (hv : values.find? key = some v) : v.isArray = true := by
  rw [validateArray, hv] at h
  cases v with
  | arr es => rfl
  | _ => cases h

/-- What passes is an array under every key of the list. -/
lemma validateArrays_eq_ok {values : Json}
    {arrays : List (String × (Json → Except JsonError Bool))}
    (h : validateArrays values arrays = .ok none) {a : String × (Json → Except JsonError Bool)}
    (ha : a ∈ arrays) {v : Json} (hv : values.find? a.1 = some v) : v.isArray = true := by
  induction arrays with
  | nil => cases ha
  | cons first rest ih =>
      obtain ⟨key, validEntry⟩ := first
      rw [validateArrays, except_bind_eq_ok] at h
      obtain ⟨error, herror, h⟩ := h
      cases error with
      | some error => cases h
      | none =>
          rcases List.mem_cons.mp ha with rfl | ha
          · exact validateArray_eq_ok herror hv
          · exact ih h ha

/-- **Values that pass the schema of `pretzel.connector`** hold arrays where the
references are. -/
theorem isArray_of_validateCommitShape {values : Json}
    (h : validateCommitShape "pretzel" "connector" values = .ok none) {key : String}
    (hkey : key ∈ referenceKeys) {v : Json} (hv : values.find? key = some v) :
    v.isArray = true := by
  rw [validateCommitShape, if_neg (by decide), if_pos ⟨rfl, rfl⟩] at h
  have hall : ∀ validEntry, (key, validEntry) ∈ [("api_credentials", validApiKey),
      ("endpoints", validApiEndpoint), ("connectors", validApiConnector)] → v.isArray = true :=
    fun _ hmem => validateArrays_eq_ok h hmem hv
  simp only [referenceKeys, List.mem_cons, List.not_mem_nil, or_false] at hkey
  rcases hkey with rfl | rfl | rfl
  · exact hall validApiEndpoint (by simp)
  · exact hall validApiKey (by simp)
  · exact hall validApiConnector (by simp)

end Pretzel.Mgmtd
