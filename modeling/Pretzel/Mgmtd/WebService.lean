import Pretzel.Library.Texts
import Pretzel.Mgmtd.AccountControllers

/-!
mgmtd's HTTP entry (`mgmtd/service/web/WebService`): the route table, the two
gates in front of the controllers, and the static files behind them
(`shared/http/StaticFileCache`).

* `WebRoute`, `Row`, `kRoutes`, `resolve`: the table, and the first row that
  claims a request.
* `sessionCookie`: the session id a cookie header names.
* `StaticFileCache`: a target, its file and what goes out with it.
* `route`: what becomes of a request, up to its controller. The clock is read
  where the session is validated and again where its lock is looked up.
* `validateSession_eq_true`, `handled_authenticated`: what a request that reaches
  a controller carries.
-/

namespace Pretzel.Mgmtd

open Nlohmann Ipc Texts

/-! ### The route table -/

/-- `WebRoute`. -/
inductive WebRoute where
  | None
  | Metric
  | Health
  | Login
  | Logout
  | ChangePassword
  | Whoami
  | SessionKeepalive
  | SsoInfo
  | SsoLogin
  | SamlAcs
  | SamlResult
  | Settings
  | RunningConfig
  | SettingsCommit
  | ReloadStatus
  | CommitQueue
  | SaveConfig
  | SavedConfigs
  | SavedConfigContent
  | DeviceStatus
  | SiteTopology
  | KeygenTest
  | EndpointTest
  | SaseTest
  | SaseKeyStore
  | CredentialStore
  | TlsProbe
  | ApiTestResult
  | KeysState
  | CollectionOverview
  | CollectionSamples
  | CollectionSample
  | AiCredentials
  | AiCredentialStore
  | ChatSessions
  | ChatSession
  | ChatSessionDelete
  | ChatSessionPatch
  | UserCredentials
  | UserCredentialStore
  | ChatSend
  | ChatResult
  | ChatModels
  | TechDocStatus
  | TechDocResult
  | TechDocRefresh
  | TechDocProgress
  | TechDocCancel
  | TechDocDocuments
  | BenchtestDatasets
  | BenchtestUpload
  | BenchtestDelete
  | BenchtestSummary
  | BenchtestRows
  | BenchtestExport
  | BenchtestResult
  | BenchtestRunStart
  | BenchtestRunProgress
  | BenchtestRunCancel
  | BenchtestRuns
  | BenchtestRunInfo
  | BenchtestCases
  | BenchtestCase
  | Logs
deriving DecidableEq, Repr

/-- `WebService::Access`. -/
inductive Access where
  | Public
  | Authenticated
deriving DecidableEq, Repr

/-- `WebService::Match`. -/
inductive Match where
  | Exact
  | Prefix
deriving DecidableEq, Repr

/-- A row of the table. -/
structure Row where
  method : String
  path : String
  matching : Match
  route : WebRoute
  access : Access
  mustChangeExempt : Bool
deriving DecidableEq, Repr

/-- `kRoutes`. -/
def kRoutes : List Row :=
  [⟨"GET", "/metrics", .Exact, .Metric, .Public, false⟩,
   ⟨"GET", "/health", .Exact, .Health, .Public, false⟩,
   ⟨"POST", "/api/login", .Exact, .Login, .Public, false⟩,
   ⟨"POST", "/api/logout", .Exact, .Logout, .Public, false⟩,
   ⟨"POST", "/api/change-password", .Exact, .ChangePassword, .Authenticated, true⟩,
   ⟨"GET", "/api/whoami", .Exact, .Whoami, .Authenticated, false⟩,
   ⟨"POST", "/api/session/keepalive", .Exact, .SessionKeepalive, .Authenticated, false⟩,
   ⟨"GET", "/api/auth/sso/info", .Exact, .SsoInfo, .Public, false⟩,
   ⟨"GET", "/api/auth/sso/login", .Exact, .SsoLogin, .Public, false⟩,
   ⟨"POST", "/api/auth/saml/acs", .Exact, .SamlAcs, .Public, false⟩,
   ⟨"GET", "/api/auth/saml/result", .Prefix, .SamlResult, .Public, false⟩,
   ⟨"GET", "/api/settings", .Exact, .Settings, .Authenticated, false⟩,
   ⟨"GET", "/api/settings/running-config", .Exact, .RunningConfig, .Authenticated, false⟩,
   ⟨"POST", "/api/settings/commit", .Exact, .SettingsCommit, .Authenticated, false⟩,
   ⟨"GET", "/api/settings/reload-status", .Exact, .ReloadStatus, .Authenticated, false⟩,
   ⟨"GET", "/api/settings/commit-queue", .Exact, .CommitQueue, .Authenticated, false⟩,
   ⟨"POST", "/api/settings/save-config", .Exact, .SaveConfig, .Authenticated, false⟩,
   ⟨"GET", "/api/settings/saved-configs", .Exact, .SavedConfigs, .Authenticated, false⟩,
   ⟨"GET", "/api/settings/saved-config-content", .Prefix, .SavedConfigContent, .Authenticated, false⟩,
   ⟨"GET", "/api/status/devices", .Exact, .DeviceStatus, .Authenticated, false⟩,
   ⟨"GET", "/api/topology", .Prefix, .SiteTopology, .Authenticated, false⟩,
   ⟨"POST", "/api/connector/keygen-test", .Exact, .KeygenTest, .Authenticated, false⟩,
   ⟨"POST", "/api/connector/endpoint-test", .Exact, .EndpointTest, .Authenticated, false⟩,
   ⟨"POST", "/api/connector/sase-test", .Exact, .SaseTest, .Authenticated, false⟩,
   ⟨"POST", "/api/connector/sase-key", .Exact, .SaseKeyStore, .Authenticated, false⟩,
   ⟨"POST", "/api/connector/credential", .Exact, .CredentialStore, .Authenticated, false⟩,
   ⟨"POST", "/api/connector/tls-probe", .Exact, .TlsProbe, .Authenticated, false⟩,
   ⟨"GET", "/api/connector/test-result", .Prefix, .ApiTestResult, .Authenticated, false⟩,
   ⟨"GET", "/api/connector/keys-state", .Exact, .KeysState, .Authenticated, false⟩,
   ⟨"GET", "/api/ai/credentials", .Exact, .AiCredentials, .Authenticated, false⟩,
   ⟨"POST", "/api/ai/credential", .Exact, .AiCredentialStore, .Authenticated, false⟩,
   ⟨"GET", "/api/chat/sessions", .Prefix, .ChatSessions, .Authenticated, false⟩,
   ⟨"GET", "/api/chat/session", .Prefix, .ChatSession, .Authenticated, false⟩,
   ⟨"POST", "/api/chat/session/delete", .Exact, .ChatSessionDelete, .Authenticated, false⟩,
   ⟨"POST", "/api/chat/session/patch", .Exact, .ChatSessionPatch, .Authenticated, false⟩,
   ⟨"GET", "/api/user/credentials", .Exact, .UserCredentials, .Authenticated, false⟩,
   ⟨"POST", "/api/user/credential", .Exact, .UserCredentialStore, .Authenticated, false⟩,
   ⟨"GET", "/api/collection/overview", .Prefix, .CollectionOverview, .Authenticated, false⟩,
   ⟨"GET", "/api/collection/samples", .Prefix, .CollectionSamples, .Authenticated, false⟩,
   ⟨"GET", "/api/collection/sample", .Prefix, .CollectionSample, .Authenticated, false⟩,
   ⟨"POST", "/api/chat", .Exact, .ChatSend, .Authenticated, false⟩,
   ⟨"GET", "/api/chat/models", .Exact, .ChatModels, .Authenticated, false⟩,
   ⟨"GET", "/api/chat/result", .Prefix, .ChatResult, .Authenticated, false⟩,
   ⟨"GET", "/api/techdoc/status", .Exact, .TechDocStatus, .Authenticated, false⟩,
   ⟨"GET", "/api/techdoc/result", .Prefix, .TechDocResult, .Authenticated, false⟩,
   ⟨"POST", "/api/techdoc/refresh", .Exact, .TechDocRefresh, .Authenticated, false⟩,
   ⟨"GET", "/api/techdoc/progress", .Exact, .TechDocProgress, .Authenticated, false⟩,
   ⟨"POST", "/api/techdoc/cancel", .Exact, .TechDocCancel, .Authenticated, false⟩,
   ⟨"GET", "/api/benchtest/datasets", .Prefix, .BenchtestDatasets, .Authenticated, false⟩,
   ⟨"POST", "/api/benchtest/datasets", .Prefix, .BenchtestUpload, .Authenticated, false⟩,
   ⟨"DELETE", "/api/benchtest/datasets", .Prefix, .BenchtestDelete, .Authenticated, false⟩,
   ⟨"GET", "/api/benchtest/summary", .Prefix, .BenchtestSummary, .Authenticated, false⟩,
   ⟨"GET", "/api/benchtest/rows", .Prefix, .BenchtestRows, .Authenticated, false⟩,
   ⟨"GET", "/api/benchtest/export", .Prefix, .BenchtestExport, .Authenticated, false⟩,
   ⟨"GET", "/api/benchtest/result", .Prefix, .BenchtestResult, .Authenticated, false⟩,
   ⟨"GET", "/api/benchtest/run/progress", .Exact, .BenchtestRunProgress, .Authenticated, false⟩,
   ⟨"POST", "/api/benchtest/run/cancel", .Exact, .BenchtestRunCancel, .Authenticated, false⟩,
   ⟨"GET", "/api/benchtest/runs", .Prefix, .BenchtestRuns, .Authenticated, false⟩,
   ⟨"GET", "/api/benchtest/run", .Prefix, .BenchtestRunInfo, .Authenticated, false⟩,
   ⟨"POST", "/api/benchtest/run", .Prefix, .BenchtestRunStart, .Authenticated, false⟩,
   ⟨"GET", "/api/benchtest/cases", .Prefix, .BenchtestCases, .Authenticated, false⟩,
   ⟨"GET", "/api/benchtest/case", .Prefix, .BenchtestCase, .Authenticated, false⟩,
   ⟨"GET", "/api/techdoc/documents", .Prefix, .TechDocDocuments, .Authenticated, false⟩,
   ⟨"GET", "/api/logs", .Prefix, .Logs, .Authenticated, false⟩]

/-- The row claims the request. -/
def Row.hit (r : Row) (method target : Bytes) : Bool :=
  method = textBytes r.method &&
    match r.matching with
    | .Exact => target = textBytes r.path
    | .Prefix => (textBytes r.path).isPrefixOf target

/-- `WebService::Resolved`. -/
structure Resolved where
  route : WebRoute := .None
  access : Access := .Authenticated
  mustChangeExempt : Bool := false
deriving DecidableEq

/-- `WebService::resolve`: the first row that claims the request. -/
def resolve (method target : Bytes) : Resolved :=
  match kRoutes.find? fun r => r.hit method target with
  | none => {}
  | some r => ⟨r.route, r.access, r.mustChangeExempt⟩

/-! ### The session of a request -/

/-- `HttpRequest`, as far as the gates read it. -/
structure HttpRequest where
  method : Bytes
  target : Bytes
  cookie : Bytes

/-- The first `session=` at the start of a cookie. -/
def cookieValue (key : Bytes) : Option UInt8 → Bytes → Option Bytes
  | _, [] => none
  | before, c :: rest =>
      if key.isPrefixOf (c :: rest) && (before = none || before = some 32 || before = some 59) then
        some ((c :: rest).drop key.length)
      else cookieValue key (some c) rest

/-- `sessionCookie`: the value up to the next semicolon. -/
def sessionCookie (cookies : Bytes) : Bytes :=
  match cookieValue (textBytes "session=") none cookies with
  | none => []
  | some value => value.takeWhile (· ≠ 59)

/-! ### Static files -/

/-- `StaticFileCache::Entry`. -/
structure StaticFile where
  body : Bytes
  contentType : String
  etag : String
deriving DecidableEq

/-- `StaticFileCache`: the files read beforehand, or the disk, by their keys. -/
structure StaticFileCache where
  reload : Bool := false
  files : Bytes → Option Bytes
  disk : Bytes → Option Bytes

namespace StaticFileCache

/-- `StaticFileCache::contentType`. -/
def contentType (target : Bytes) : String :=
  if (textBytes ".html").isSuffixOf target then "text/html; charset=utf-8"
  else if (textBytes ".js").isSuffixOf target then "application/javascript; charset=utf-8"
  else if (textBytes ".css").isSuffixOf target then "text/css; charset=utf-8"
  else if (textBytes ".json").isSuffixOf target then "application/json; charset=utf-8"
  else if (textBytes ".svg").isSuffixOf target then "image/svg+xml"
  else if (textBytes ".png").isSuffixOf target then "image/png"
  else if (textBytes ".ico").isSuffixOf target then "image/x-icon"
  else "text/plain; charset=utf-8"

/-- `StaticFileCache::makeEtag`. -/
def makeEtag (body : Bytes) : String :=
  let h := body.foldl (fun h c => (h ^^^ c.toUInt64) * 1099511628211) (1469598103934665603 : UInt64)
  let h := h ^^^ UInt64.ofNat body.length
  "\"" ++ String.ofList ((Nat.toDigits 16 h.toNat).leftpad 16 '0') ++ "\""

/-- Whether a text has two dots in a row. -/
def hasDots : Bytes → Bool
  | c :: d :: rest => (c = 46 && d = 46) || hasDots (d :: rest)
  | _ => false

/-- `StaticFileCache::safeTarget`. -/
def safeTarget (target : Bytes) : Bool := target.head? = some 47 && !hasDots target

/-- `StaticFileCache::normalize`: a last segment without a dot is a page. -/
def normalize (target : Bytes) : Bytes :=
  if target = textBytes "/" then textBytes "/index.html"
  else
    let seg := (target.reverse.takeWhile (· ≠ 47)).reverse
    if 46 ∈ seg then target else target ++ textBytes ".html"

/-- `StaticFileCache::get`. -/
def get (cache : StaticFileCache) (target : Bytes) : Option StaticFile :=
  if !safeTarget target then none
  else
    let key := normalize target
    let body := if cache.reload then cache.disk key else cache.files key
    body.map fun body => { body, contentType := contentType key, etag := makeEtag body }

end StaticFileCache

/-- `kPublicPages`. -/
def kPublicPages : List Bytes :=
  ["/", "/index.html", "/css/main.css", "/js/main.js", "/js/login.js"].map textBytes

/-! ### The gates -/

/-- What becomes of a request. `served` is the file, or that there is none. -/
inductive Routed where
  | unclaimed
  | handled (route : WebRoute)
  | refused (response : HttpResponse)
  | redirected (location : String)
  | unavailable
  | served (file : Option StaticFile)
deriving DecidableEq

/-- The clock of one request: where its session is validated, and where its lock
is looked up. -/
structure GateIO where
  validatedAt : UInt64
  lockedAt : UInt64

namespace WebService

/-- `WebService::isStaticTarget`. -/
def isStaticTarget (target : Bytes) : Bool := !(textBytes "/api").isPrefixOf target

/-- `WebService::serveStatic`. -/
def serveStatic (cache : Option StaticFileCache) (req : HttpRequest) : Routed :=
  match cache with
  | none => .unavailable
  | some cache => .served (cache.get (req.target.takeWhile (· ≠ 63)))

/-- `WebService::staticFallback`. -/
def staticFallback (io : GateIO) (cache : Option StaticFileCache) (req : HttpRequest)
    (s : AuthService) : AuthService × Routed :=
  if req.target ∈ kPublicPages then (s, serveStatic cache req)
  else
    match s.validateSession (sessionCookie req.cookie) io.validatedAt with
    | (s, true) => (s, serveStatic cache req)
    | (s, false) => (s, .redirected "/index.html")

/-- The answer to a request without a session. -/
def unauthorized : HttpResponse :=
  ⟨401, .obj [("code", .str "UNAUTHENTICATED"), ("error", .str "unauthorized")]⟩

/-- The answer to a request of an account that must change its password. -/
def mustChange : HttpResponse :=
  ⟨403, .obj [("code", .str "MUST_CHANGE_PASSWORD"), ("error", .str "password change required")]⟩

/-- `WebService::route`. -/
def route (io : GateIO) (cache : Option StaticFileCache) (req : HttpRequest) (s : AuthService) :
    AuthService × Routed :=
  let r := resolve req.method req.target
  if r.route = .None then
    if isStaticTarget req.target then staticFallback io cache req s else (s, .unclaimed)
  else if r.access = .Authenticated then
    match s.validateSession (sessionCookie req.cookie) io.validatedAt with
    | (s, false) => (s, .refused unauthorized)
    | (s, true) =>
        if !r.mustChangeExempt && (textBytes "/api/").isPrefixOf req.target &&
            s.mustChangePassword (sessionCookie req.cookie) io.lockedAt then
          (s, .refused mustChange)
        else (s, .handled r.route)
  else (s, .handled r.route)

end WebService

/-! ### The rows of the table -/

/-- A route has one row. -/
lemma nodup_routes : (kRoutes.map Row.route).Nodup := by decide

lemma route_ne_none : ∀ row ∈ kRoutes, row.route ≠ .None := by decide

/-- What needs a session is under `/api/`. -/
lemma api_of_authenticated : ∀ row ∈ kRoutes, row.access = .Authenticated →
    (textBytes "/api/").isPrefixOf (textBytes row.path) = true := by decide

/-- A request that resolves to a route is claimed by its row. -/
lemma hit_of_resolve {method target : Bytes} (h : (resolve method target).route ≠ .None) :
    ∃ row ∈ kRoutes, row.hit method target = true ∧
      resolve method target = ⟨row.route, row.access, row.mustChangeExempt⟩ := by
  rw [resolve] at h ⊢
  cases hfind : kRoutes.find? fun r => r.hit method target with
  | none =>
      rw [hfind] at h
      exact absurd rfl h
  | some row =>
      have hhit : row.hit method target = true := by
        have := List.find?_some hfind
        exact this
      exact ⟨row, List.mem_of_find?_eq_some hfind, hhit, rfl⟩

/-- The target of a request that a row claims begins with its path. -/
lemma path_of_hit {row : Row} {method target : Bytes} (h : row.hit method target = true) :
    textBytes row.path <+: target := by
  rw [Row.hit, Bool.and_eq_true] at h
  obtain ⟨-, h⟩ := h
  cases hmatch : row.matching with
  | Exact =>
      rw [hmatch] at h
      rw [of_decide_eq_true h]
  | Prefix =>
      rw [hmatch] at h
      exact List.isPrefixOf_iff_prefix.mp h

/-! ### What reaches a controller -/

/-- The id of a stored session that has not expired. -/
def Unexpired (s : AuthService) (id : Bytes) (now : UInt64) : Prop :=
  id ≠ [] ∧ ∃ session, s.sessions.lookup id = some session ∧ now ≤ session.expiresAt

section Gates

variable {s : AuthService} {id : Bytes} {now : UInt64}

lemma validateSession_eq_true : (s.validateSession id now).2 = true ↔ Unexpired s id now := by
  rw [AuthService.validateSession, Unexpired]
  by_cases hid : id = []
  · rw [if_pos hid]
    exact ⟨fun h => absurd h Bool.false_ne_true, fun h => absurd hid h.1⟩
  · rw [if_neg hid]
    cases hlookup : s.sessions.lookup id with
    | none =>
        refine ⟨fun h => absurd h Bool.false_ne_true, ?_⟩
        rintro ⟨-, session, hsome, -⟩
        cases hsome
    | some session =>
        dsimp only
        split
        · next hexpired =>
            refine ⟨fun h => absurd h Bool.false_ne_true, ?_⟩
            rintro ⟨-, _, hsome, hle⟩
            cases hsome
            exact absurd hexpired (UInt64.not_lt.mpr hle)
        · next hlive => exact ⟨fun _ => ⟨hid, session, rfl, UInt64.not_lt.mp hlive⟩, fun _ => rfl⟩

/-- A session that is found valid leaves the sessions as they are. -/
lemma validateSession_of_unexpired (h : Unexpired s id now) :
    s.validateSession id now = (s, true) := by
  obtain ⟨hid, session, hlookup, hle⟩ := h
  rw [AuthService.validateSession, if_neg hid, hlookup]
  exact if_neg (UInt64.not_lt.mpr hle)

lemma validateSession_of_not_unexpired (h : ¬Unexpired s id now) :
    (s.validateSession id now).2 = false := by
  rwa [← validateSession_eq_true, Bool.not_eq_true] at h

lemma mustChangePassword_eq_true : s.mustChangePassword id now = true ↔
    ∃ session, s.sessions.lookup id = some session ∧ now ≤ session.expiresAt ∧
      session.mustChange = true := by
  rw [AuthService.mustChangePassword, AuthService.live]
  cases hlookup : s.sessions.lookup id with
  | none => simp
  | some session =>
      dsimp only
      split
      · next h =>
          split at h
          · next hexpired =>
              refine ⟨fun h => absurd h Bool.false_ne_true, ?_⟩
              rintro ⟨_, hsome, hle, -⟩
              cases hsome
              exact absurd hexpired (UInt64.not_lt.mpr hle)
          · cases h
      · next session' h =>
          split at h
          · cases h
          · next hlive =>
              cases h
              constructor
              · exact fun hmust => ⟨session, rfl, UInt64.not_lt.mp hlive, hmust⟩
              · rintro ⟨_, hsome, -, hmust⟩
                cases hsome
                exact hmust

variable {io : GateIO} {cache : Option StaticFileCache} {req : HttpRequest}

lemma serveStatic_ne_handled {route : WebRoute} :
    WebService.serveStatic cache req ≠ .handled route := by
  cases cache with
  | none => exact Routed.noConfusion
  | some cache => exact Routed.noConfusion

/-- **What reaches the controller of a route that needs a session**: the request
is claimed by its row, carries the id of a session, and does not meet the lock. -/
theorem handled_authenticated_iff {row : Row} (hrow : row ∈ kRoutes)
    (haccess : row.access = .Authenticated) :
    (WebService.route io cache req s).2 = .handled row.route ↔
      resolve req.method req.target = ⟨row.route, .Authenticated, row.mustChangeExempt⟩ ∧
        Unexpired s (sessionCookie req.cookie) io.validatedAt ∧
        (row.mustChangeExempt = true ∨
          s.mustChangePassword (sessionCookie req.cookie) io.lockedAt = false) := by
  rw [WebService.route]
  split
  · next hnone =>
      constructor
      · intro h
        split at h
        · rw [WebService.staticFallback] at h
          split at h
          · exact absurd h serveStatic_ne_handled
          · split at h
            · exact absurd h serveStatic_ne_handled
            · cases h
        · cases h
      · rintro ⟨hresolve, -⟩
        rw [hresolve] at hnone
        exact absurd hnone (route_ne_none row hrow)
  · next hroute =>
      obtain ⟨row', hrow', hhit, hresolve⟩ := hit_of_resolve hroute
      have hsame : row'.route = row.route → row' = row :=
        List.inj_on_of_nodup_map nodup_routes hrow' hrow
      have hback : resolve req.method req.target =
          ⟨row.route, .Authenticated, row.mustChangeExempt⟩ → row' = row := by
        intro h
        rw [hresolve] at h
        exact hsame (congrArg Resolved.route h)
      rw [hresolve]
      dsimp only
      by_cases heq : row' = row
      · subst heq
        have hapi : (textBytes "/api/").isPrefixOf req.target = true := by
          rw [List.isPrefixOf_iff_prefix]
          exact (List.isPrefixOf_iff_prefix.mp (api_of_authenticated row' hrow haccess)).trans
            (path_of_hit hhit)
        rw [if_pos haccess, hapi, Bool.and_true, haccess]
        by_cases hlive : Unexpired s (sessionCookie req.cookie) io.validatedAt
        · rw [validateSession_of_unexpired hlive]
          dsimp only
          cases row'.mustChangeExempt <;>
            cases s.mustChangePassword (sessionCookie req.cookie) io.lockedAt <;> simp [hlive]
        · constructor
          · intro h
            split at h
            · cases h
            · next hvalid =>
                rw [Prod.ext_iff] at hvalid
                exact absurd (validateSession_eq_true.mp hvalid.2) hlive
          · exact fun h => absurd h.2.1 hlive
      · constructor
        · intro h
          refine absurd (hsame ?_) heq
          split at h
          · split at h
            · cases h
            · split at h
              · cases h
              · exact Routed.handled.inj h
          · exact Routed.handled.inj h
        · rintro ⟨h, -⟩
          exact absurd (hback (hresolve.trans h)) heq

/-- **What the static files are served to**: a public page, or a session. -/
theorem unexpired_of_served {file : Option StaticFile}
    (h : (WebService.route io cache req s).2 = .served file) :
    req.target ∈ kPublicPages ∨ Unexpired s (sessionCookie req.cookie) io.validatedAt := by
  rw [WebService.route] at h
  split at h
  · split at h
    · rw [WebService.staticFallback] at h
      split at h
      · next hpublic => exact .inl hpublic
      · split at h
        · next hvalid =>
            rw [Prod.ext_iff] at hvalid
            exact .inr (validateSession_eq_true.mp hvalid.2)
        · cases h
    · cases h
  · split at h
    · split at h
      · cases h
      · split at h <;> cases h
    · cases h

end Gates

end Pretzel.Mgmtd
