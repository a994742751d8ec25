import Pretzel.Library.Machine
import Pretzel.Mgmtd.WebService

/-!
The session gate over whole runs: sign-ins, renewals, sign-outs and requests,
each with its own readings of the clock.

* `GateKept`: what one request may reach with the session it carries, and
  `LockMissed`: the session expires between the two readings of a request that
  its lock should stop.
* `RenewalKept`, `ExpiresBetween`: the same of a renewal.
* `sessionGate`: the machine. Beside the sessions its state keeps the latest
  reading of the clock and the ids handed out.
* `Timely`: no reading is earlier than that of a step before, and an id that is
  handed out is a new one.
* `sessions_gated`: the gate is kept exactly where the lock is not missed, and an
  id that does not pass once never passes again.
* `lock_missed`: a request that reaches the settings past its lock.
-/

namespace Pretzel.Mgmtd

open Nlohmann Ipc Config Util Reactive Texts

/-! ### One request -/

/-- What a request reaches, it may reach: the controller of a route that needs a
session with a session, one whose account must change its password only where
the row is exempt, and a file that is not public with a session. -/
structure GateKept (io : GateIO) (cache : Option StaticFileCache) (req : HttpRequest)
    (s : AuthService) : Prop where
  authenticated : ∀ row ∈ kRoutes, row.access = .Authenticated →
    (WebService.route io cache req s).2 = .handled row.route →
      Unexpired s (sessionCookie req.cookie) io.validatedAt
  exempt : ∀ row ∈ kRoutes, row.access = .Authenticated →
    (WebService.route io cache req s).2 = .handled row.route →
      ∀ session, s.sessions.lookup (sessionCookie req.cookie) = some session →
        session.mustChange = true → row.mustChangeExempt = true
  files : ∀ file, (WebService.route io cache req s).2 = .served (some file) →
    req.target ∉ kPublicPages → Unexpired s (sessionCookie req.cookie) io.validatedAt

/-- A session expires between two readings of the clock. -/
def ExpiresBetween (s : AuthService) (id : Bytes) (first second : UInt64) : Prop :=
  Unexpired s id first ∧ ¬Unexpired s id second

/-- The session of a request that its lock should stop expires before the lock is
looked up. -/
def LockMissed (io : GateIO) (req : HttpRequest) (s : AuthService) : Prop :=
  resolve req.method req.target =
      ⟨(resolve req.method req.target).route, .Authenticated, false⟩ ∧
    (resolve req.method req.target).route ≠ .None ∧
    (∃ session, s.sessions.lookup (sessionCookie req.cookie) = some session ∧
      session.mustChange = true) ∧
    ExpiresBetween s (sessionCookie req.cookie) io.validatedAt io.lockedAt

section Requests

variable {s : AuthService} {id : Bytes} {io : GateIO} {cache : Option StaticFileCache}
  {req : HttpRequest}

/-- An expired session meets no lock. -/
lemma mustChangePassword_of_expired {now : UInt64} (hid : id ≠ []) (h : ¬Unexpired s id now) :
    s.mustChangePassword id now = false := by
  rw [← Bool.not_eq_true, mustChangePassword_eq_true]
  rintro ⟨session, hlookup, hle, -⟩
  exact h ⟨hid, session, hlookup, hle⟩

lemma gateKept_iff : GateKept io cache req s ↔ ¬LockMissed io req s := by
  constructor
  · rintro h ⟨hresolve, hroute, ⟨session, hlookup, hmust⟩, hlive, hexpired⟩
    obtain ⟨row, hrow, -, hclaimed⟩ := hit_of_resolve hroute
    have hnot : row.mustChangeExempt = false := by
      rw [hclaimed] at hresolve
      exact congrArg Resolved.mustChangeExempt hresolve
    have haccess : row.access = .Authenticated := by
      rw [hclaimed] at hresolve
      exact congrArg Resolved.access hresolve
    have hhandled : (WebService.route io cache req s).2 = .handled row.route := by
      rw [handled_authenticated_iff hrow haccess, hclaimed, haccess]
      exact ⟨rfl, hlive, .inr (mustChangePassword_of_expired hlive.1 hexpired)⟩
    rw [h.exempt row hrow haccess hhandled session hlookup hmust] at hnot
    cases hnot
  · intro h
    refine ⟨?_, ?_, ?_⟩
    · intro row hrow haccess hhandled
      exact ((handled_authenticated_iff hrow haccess).mp hhandled).2.1
    · intro row hrow haccess hhandled session hlookup hmust
      obtain ⟨hresolve, hlive, hpassed⟩ := (handled_authenticated_iff hrow haccess).mp hhandled
      rcases hpassed with hexempt | hunlocked
      · exact hexempt
      · by_contra hnot
        rw [Bool.not_eq_true] at hnot
        have hexpired : ¬Unexpired s (sessionCookie req.cookie) io.lockedAt := by
          rintro ⟨-, session', hlookup', hle⟩
          rw [hlookup, Option.some.injEq] at hlookup'
          subst hlookup'
          rw [mustChangePassword_eq_true.mpr ⟨session, hlookup, hle, hmust⟩] at hunlocked
          cases hunlocked
        refine h ⟨?_, ?_, ⟨session, hlookup, hmust⟩, hlive, hexpired⟩
        · rw [hresolve, hnot]
        · rw [hresolve]
          exact route_ne_none row hrow
    · intro file hserved hprivate
      exact (unexpired_of_served hserved).resolve_left hprivate

end Requests

/-! ### One step of a session -/

/-- Sessions are taken away, and those that stay are as they were. -/
def OnlyTakesAway (s s' : AuthService) : Prop :=
  ∀ id session, s'.sessions.lookup id = some session → s.sessions.lookup id = some session

/-- A session that is renewed had not expired. -/
def RenewalKept (s : AuthService) (id : Bytes) (now renewedAt : UInt64) : Prop :=
  (s.renewSession id now renewedAt).2 = true → Unexpired s id renewedAt

section SessionSteps

variable {s : AuthService} {id other : Bytes} {now renewedAt : UInt64} {session : Session}

lemma lookup_of_erase (h : (s.sessions.erase id).lookup other = some session) :
    s.sessions.lookup other = some session := by
  by_cases heq : other = id
  · subst heq
    rw [AList.lookup_erase] at h
    cases h
  · rwa [AList.lookup_erase_ne heq] at h

/-- A validation extends nothing. -/
lemma onlyTakesAway_validateSession : OnlyTakesAway s (s.validateSession id now).1 := by
  intro other session h
  rw [AuthService.validateSession] at h
  split at h
  · exact h
  · split at h
    · exact h
    · split at h
      · exact lookup_of_erase h
      · exact h

lemma renewSession_eq_true :
    (s.renewSession id now renewedAt).2 = true ↔ Unexpired s id now := by
  by_cases hlive : Unexpired s id now
  · rw [AuthService.renewSession, validateSession_of_unexpired hlive]
    exact ⟨fun _ => hlive, fun _ => rfl⟩
  · have hrefused := validateSession_of_not_unexpired hlive
    rw [AuthService.renewSession]
    simp [hrefused, hlive]

lemma renewalKept_iff : RenewalKept s id now renewedAt ↔ ¬ExpiresBetween s id now renewedAt := by
  rw [RenewalKept, renewSession_eq_true, ExpiresBetween, not_and, not_not]

/-- What a renewal leaves was there, or is the session it renews. -/
lemma lookup_renewSession
    (h : (s.renewSession id now renewedAt).1.sessions.lookup other = some session) :
    s.sessions.lookup other = some session ∨ other = id ∧ Unexpired s id now := by
  by_cases hlive : Unexpired s id now
  · rw [AuthService.renewSession, validateSession_of_unexpired hlive] at h
    change (s.sessions.insert id _).lookup other = some session at h
    by_cases heq : other = id
    · exact .inr ⟨heq, hlive⟩
    · rw [AList.lookup_insert_ne heq] at h
      exact .inl h
  · have hrefused := validateSession_of_not_unexpired hlive
    have hsame : (s.renewSession id now renewedAt).1 = (s.validateSession id now).1 := by
      rw [AuthService.renewSession]
      simp [hrefused]
    rw [hsame] at h
    exact .inl (onlyTakesAway_validateSession other session h)

lemma sessions_noteLoginFailure {username : String} {first : ℕ} :
    (s.noteLoginFailure username first now).sessions = s.sessions := by
  rw [AuthService.noteLoginFailure]
  dsimp only
  rw [apply_ite AuthService.sessions]
  exact ite_self _

/-- What a sign-in leaves was there, or is the session it hands out. -/
lemma lookup_login {D : Digests} {io : AuthService.LoginIO} {users : LocalUsers}
    {username password : String}
    (h : (s.login D io users username password).1.sessions.lookup other = some session) :
    s.sessions.lookup other = some session ∨
      ∃ result, (s.login D io users username password).2 = .ok result ∧ result.success = true ∧
        result.sessionId = other := by
  rw [AuthService.login] at h ⊢
  split
  · next hthrottled =>
      rw [if_pos hthrottled] at h
      exact .inl h
  · next hfree =>
      rw [if_neg hfree] at h
      dsimp only at h ⊢
      split
      · next hnone =>
          rw [if_pos hnone] at h
          exact .inl h
      · next hfound =>
          rw [if_neg hfound] at h
          split
          · next hwrong =>
              rw [if_pos hwrong, sessions_noteLoginFailure] at h
              exact .inl h
          · next hright =>
              rw [if_neg hright] at h
              split
              · next hid =>
                  rw [if_pos hid] at h
                  exact .inl h
              · next hid =>
                  rw [if_neg hid] at h
                  cases hrole : declaredRole io.declared
                      (readAccount io.answered users username).username with
                  | error e =>
                      rw [hrole] at h
                      exact .inl h
                  | ok role =>
                      rw [hrole] at h
                      by_cases heq : other = generateSessionId io.random
                      · exact .inr ⟨_, rfl, rfl, heq.symm⟩
                      · exact .inl ((AList.lookup_insert_ne heq).symm.trans h)

/-- What a sign-in by SAML leaves was there, or is the session it hands out. -/
lemma lookup_createSsoSession {s' : AuthService} {random : Option (Vector UInt8 32)}
    {declared : Json} {username : String}
    (hmade : s.createSsoSession random now declared username = .ok (s', id))
    (h : s'.sessions.lookup other = some session) :
    s.sessions.lookup other = some session ∨ other = id := by
  rw [AuthService.createSsoSession] at hmade
  obtain ⟨role, -, hmade⟩ := except_bind_eq_ok.mp hmade
  cases hmade
  by_cases heq : other = generateSessionId random
  · exact .inr heq
  · exact .inl ((AList.lookup_insert_ne heq).symm.trans h)

/-- A request at the gate takes away at most its own session. -/
lemma onlyTakesAway_route {io : GateIO} {cache : Option StaticFileCache} {req : HttpRequest} :
    OnlyTakesAway s (WebService.route io cache req s).1 := by
  have hvalidated : ∀ valid s', s.validateSession (sessionCookie req.cookie) io.validatedAt =
      (s', valid) → OnlyTakesAway s s' := by
    intro valid s' h
    have hfst : (s.validateSession (sessionCookie req.cookie) io.validatedAt).1 = s' := by rw [h]
    rw [← hfst]
    exact onlyTakesAway_validateSession
  have hsame : OnlyTakesAway s s := fun _ _ h => h
  rw [WebService.route]
  split
  · split
    · rw [WebService.staticFallback]
      split
      · exact hsame
      · split
        · next h => exact hvalidated _ _ h
        · next h => exact hvalidated _ _ h
    · exact hsame
  · split
    · split
      · next h => exact hvalidated _ _ h
      · next h => split <;> exact hvalidated _ _ h
    · exact hsame

end SessionSteps

/-! ### Runs -/

/-- The sessions, the latest reading of the clock, and the ids handed out. -/
structure Sessions where
  auth : AuthService := {}
  clock : UInt64 := 0
  issued : List Bytes := []

/-- A sign-in, another step of the sessions, or a request at the gate. -/
inductive GateStep where
  | login (io : AuthService.LoginIO) (users : LocalUsers) (username password : String)
  | other (step : AuthService.SessionStep)
  | request (io : GateIO) (cache : Option StaticFileCache) (req : HttpRequest)

/-- The readings of the clock a step takes. -/
def GateStep.readings : GateStep → List UInt64
  | .login io _ _ _ => [io.checkedAt, io.signedInAt]
  | .other (.sso _ now _ _) => [now]
  | .other (.validate _ now) => [now]
  | .other (.renew _ now renewedAt) => [now, renewedAt]
  | .other (.logout _) => []
  | .request io _ _ => [io.validatedAt, io.lockedAt]

/-- The latest of a clock and further readings. -/
def latest (clock : UInt64) : List UInt64 → UInt64
  | [] => clock
  | t :: ts => latest (if clock ≤ t then t else clock) ts

/-- The id a step hands out. -/
def GateStep.drawn (D : Digests) (s : AuthService) : GateStep → Option Bytes
  | .login io users username password =>
      match (s.login D io users username password).2 with
      | .ok result => if result.success then some result.sessionId else none
      | .error _ => none
  | .other (.sso random now declared username) =>
      match s.createSsoSession random now declared username with
      | .ok (_, id) => some id
      | .error _ => none
  | _ => none

/-- The sessions a step leaves. -/
def GateStep.next (D : Digests) (s : AuthService) : GateStep → AuthService
  | .login io users username password => (s.login D io users username password).1
  | .other step => s.sessionStep step
  | .request io cache req => (WebService.route io cache req s).1

/-- The sessions under steps. -/
def sessionGate (D : Digests) : Machine Sessions GateStep where
  init s := ∀ id ∈ s.auth.sessions, id ∈ s.issued
  next s l := some
    { auth := l.next D s.auth
      clock := latest s.clock l.readings
      issued := (l.drawn D s.auth).toList ++ s.issued }

/-- The clock is not set back, and an id that is handed out is new. -/
def Timely (D : Digests) (s : Sessions) (l : GateStep) : Prop :=
  (∀ t ∈ l.readings, s.clock ≤ t) ∧ ∀ id ∈ l.drawn D s.auth, id ≠ [] → id ∉ s.issued

instance (D : Digests) (s : Sessions) (l : GateStep) : Decidable (Timely D s l) :=
  have : Decidable (∀ t ∈ l.readings, s.clock ≤ t) := List.decidableBAll _ l.readings
  inferInstanceAs (Decidable (_ ∧ _))

section Runs

variable {D : Digests} {s s' : Sessions} {l : GateStep} {id : Bytes} {session : Session}

/-- What a step leaves was there, is handed out by it, or is renewed before it
expires. -/
lemma lookup_next (h : (l.next D s.auth).sessions.lookup id = some session) :
    s.auth.sessions.lookup id = some session ∨ id ∈ l.drawn D s.auth ∨
      ∃ now ∈ l.readings, Unexpired s.auth id now := by
  cases l with
  | login io users username password =>
      rcases lookup_login h with h | ⟨result, hresult, hsuccess, rfl⟩
      · exact .inl h
      · right; left
        simp [GateStep.drawn, hresult, hsuccess]
  | other step =>
      cases step with
      | sso random now declared username =>
          simp only [GateStep.next, AuthService.sessionStep] at h
          cases hmade : s.auth.createSsoSession random now declared username with
          | error e =>
              rw [hmade] at h
              exact .inl h
          | ok made =>
              rw [hmade] at h
              rcases lookup_createSsoSession hmade h with h | rfl
              · exact .inl h
              · right; left
                simp [GateStep.drawn, hmade]
      | validate id now => exact .inl (onlyTakesAway_validateSession _ _ h)
      | renew id now renewedAt =>
          rcases lookup_renewSession h with h | ⟨rfl, hlive⟩
          · exact .inl h
          · exact .inr (.inr ⟨now, List.mem_cons_self, hlive⟩)
      | logout id => exact .inl (lookup_of_erase h)
  | request io cache req => exact .inl (onlyTakesAway_route _ _ h)

lemma le_latest (clock : UInt64) (ts : List UInt64) : clock ≤ latest clock ts := by
  induction ts generalizing clock with
  | nil => exact UInt64.le_refl clock
  | cons t ts ih =>
      rw [latest]
      split
      · next hle => exact UInt64.le_trans hle (ih t)
      · exact ih clock

lemma Unexpired.mono {s : AuthService} {first second : UInt64} (h : Unexpired s id second)
    (hle : first ≤ second) : Unexpired s id first := by
  obtain ⟨hid, session, hlookup, hlive⟩ := h
  exact ⟨hid, session, hlookup, UInt64.le_trans hle hlive⟩

/-- An id that has been handed out and does not pass. -/
def Ended (id : Bytes) (s : Sessions) : Prop := id ∈ s.issued ∧ ¬Unexpired s.auth id s.clock

/-- An id that does not pass does not pass after a step. -/
lemma ended_next (hended : Ended id s) (hok : Timely D s l)
    (h : (sessionGate D).next s l = some s') : Ended id s' := by
  obtain rfl := Option.some.inj h
  obtain ⟨hissued, hdead⟩ := hended
  refine ⟨List.mem_append_right _ hissued, ?_⟩
  rintro ⟨hid, session, hlookup, hle⟩
  rcases lookup_next hlookup with hkept | hdrawn | ⟨now, hnow, hlive⟩
  · exact hdead ⟨hid, session, hkept, UInt64.le_trans (le_latest _ _) hle⟩
  · exact hok.2 id hdrawn hid hissued
  · exact hdead (hlive.mono (hok.1 now hnow))

/-- An id that does not pass does not pass at the end of a run. -/
lemma ended_run {tr : List (Sessions × GateStep)} (hended : Ended id s)
    (hrun : (sessionGate D).Run s tr s') (hok : ∀ p ∈ tr, Timely D p.1 p.2) : Ended id s' :=
  hrun.invariant_of_forall hended (fun _ _ _ hI hC h => ended_next hI hC h) hok

end Runs

/-- **The session gate.** A request reaches no more than its session may exactly
where its session does not expire between the two readings of a lock that should
stop it; a validation extends nothing; what is renewed had not expired exactly
where it does not expire between the two readings of the renewal; and where the
clock is not set back and ids are new, an id that does not pass never passes
again. -/
theorem sessions_gated (D : Digests) :
    (∀ io cache req s, GateKept io cache req s ↔ ¬LockMissed io req s) ∧
      (∀ s id now, OnlyTakesAway s (s.validateSession id now).1) ∧
      (∀ s id now renewedAt,
        RenewalKept s id now renewedAt ↔ ¬ExpiresBetween s id now renewedAt) ∧
      ∀ s tr s', (sessionGate D).Run s tr s' → (∀ p ∈ tr, Timely D p.1 p.2) →
        ∀ id ∈ s.issued, (s.auth.validateSession id s.clock).2 = false →
          ∀ now, s'.clock ≤ now → (s'.auth.validateSession id now).2 = false := by
  refine ⟨fun _ _ _ _ => gateKept_iff, fun _ _ _ => onlyTakesAway_validateSession,
    fun _ _ _ _ => renewalKept_iff, ?_⟩
  intro s tr s' hrun hok id hissued hrefused now hnow
  have hdead : ¬Unexpired s.auth id s.clock := by
    rw [← validateSession_eq_true, hrefused]
    exact Bool.false_ne_true
  have hended : Ended id s' := ended_run ⟨hissued, hdead⟩ hrun hok
  exact validateSession_of_not_unexpired fun hlive => hended.2 (hlive.mono hnow)

/-- A session of an account that must change its password. -/
def lockedSession : AuthService :=
  { sessions := AList.insert [97] { expiresAt := 100, username := "anna", mustChange := true } ∅ }

/-- A request for the settings with its id. -/
def settingsRequest : HttpRequest where
  method := textBytes "GET"
  target := textBytes "/api/settings"
  cookie := textBytes "theme=dark; session=a"

/-- **A lock that is missed**: the session is valid at the first reading and has
expired at the second. -/
theorem lock_missed :
    ¬∀ (io : GateIO) (cache : Option StaticFileCache) (req : HttpRequest) (s : AuthService),
      GateKept io cache req s := by
  intro hall
  have hkept := hall ⟨100, 101⟩ none settingsRequest lockedSession
  have hrow : (⟨"GET", "/api/settings", .Exact, .Settings, .Authenticated, false⟩ : Row) ∈
      kRoutes := by
    decide +kernel
  have hhandled : (WebService.route ⟨100, 101⟩ none settingsRequest lockedSession).2 =
      .handled .Settings := by
    decide +kernel
  have hexempt := hkept.exempt _ hrow rfl hhandled
    { expiresAt := 100, username := "anna", mustChange := true } (by decide +kernel) rfl
  cases hexempt

/-- The sessions after that one is signed out of. -/
def signedOut : Sessions := ⟨lockedSession.logout [97], 5, [[97]]⟩

/-- Digests that say nothing. -/
def noDigests : Digests := ⟨fun _ _ _ => Vector.replicate 32 0, fun _ => Vector.replicate 32 0⟩

/-- What is sent with its id afterwards. -/
def afterSignOut : List GateStep :=
  [.request ⟨10, 10⟩ none settingsRequest, .other (.renew [97] 11 12)]

/-- The law where a session was signed out of. -/
theorem sessions_gated_signedOut :
    ∃ s', (sessionGate noDigests).exec signedOut afterSignOut = some s' ∧
      ∀ now, s'.clock ≤ now → (s'.auth.validateSession [97] now).2 = false := by
  have hrun : ((sessionGate noDigests).exec signedOut afterSignOut).isSome = true := rfl
  obtain ⟨s', hexec⟩ := Option.isSome_iff_exists.mp hrun
  have hok : ((sessionGate noDigests).trace signedOut afterSignOut).all
      (fun p => decide (Timely noDigests p.1 p.2)) = true := by
    decide +kernel
  refine ⟨s', hexec, (sessions_gated noDigests).2.2.2 signedOut _ s' (Machine.exec_run hexec) ?_
    [97] (by decide +kernel) (by decide +kernel)⟩
  intro p hp
  exact of_decide_eq_true (List.all_eq_true.mp hok p hp)

end Pretzel.Mgmtd
