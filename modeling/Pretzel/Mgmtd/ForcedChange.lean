import Pretzel.Mgmtd.SessionGate

/-!
The must-change lock of a session over whole runs (`AuthController::changePassword`
under the gates of `WebService::route`).

* `SignedInLocked`, `PasswordChanged`: the sign-in that hands out a session of an
  account that must change its password, and the change that is answered with
  success on it.
* `AfterChange`, `Asks`: a step after both, and a request of the session to a row
  of the table within its lifetime.
* `Locked`, `locked_next`: the lock of an id, which every step keeps.
* `dispatched_iff_exempt`: a request after the change is dispatched exactly where
  the row is exempt from the lock.
* `refused_after_change`: a request for the settings after it.
-/

namespace Pretzel.Mgmtd

open Nlohmann Ipc Config Util Reactive Texts

/-! ### The steps -/

/-- The ids handed out are new. -/
def Fresh (D : Digests) (s : Sessions) (l : GateStep) : Prop :=
  ∀ id ∈ l.drawn D s.auth, id ≠ [] → id ∉ s.issued

/-- A sign-in to an account that must change its password, which hands out an id. -/
def SignedInLocked (D : Digests) (id : Bytes) (p : Sessions × GateStep) : Prop :=
  ∃ io users username password result, p.2 = .login io users username password ∧
    (p.1.auth.login D io users username password).2 = .ok result ∧ result.success = true ∧
      result.mustChange = true ∧ result.sessionId = id

/-- A change of the password on a session, answered with success. -/
def PasswordChanged (D : Digests) (id : Bytes) (p : Sessions × GateStep) : Prop :=
  ∃ io cache req cio users input, p.2 = .request io cache req ∧ sessionCookie req.cookie = id ∧
    (WebService.route io cache req p.1.auth).2 = .handled .ChangePassword ∧
      (AuthController.changePassword D cio users id input
        (WebService.route io cache req p.1.auth).1).response.status = 200

/-- A step after the change on a session, which comes after its sign-in. -/
def AfterChange (D : Digests) (id : Bytes) (tr : List (Sessions × GateStep))
    (p : Sessions × GateStep) : Prop :=
  ∃ before signIn between change after rest,
    tr = before ++ signIn :: (between ++ change :: (after ++ p :: rest)) ∧
      SignedInLocked D id signIn ∧ PasswordChanged D id change

/-- A request of a session to a row that needs one, within its lifetime. -/
structure Asks (id : Bytes) (row : Row) (io : GateIO) (cache : Option StaticFileCache)
    (req : HttpRequest) (p : Sessions × GateStep) : Prop where
  step : p.2 = .request io cache req
  cookie : sessionCookie req.cookie = id
  listed : row ∈ kRoutes
  access : row.access = .Authenticated
  resolved : resolve req.method req.target = ⟨row.route, row.access, row.mustChangeExempt⟩
  validated : Unexpired p.1.auth id io.validatedAt
  live : Unexpired p.1.auth id io.lockedAt

/-! ### The lock of an id -/

/-- An id that has been handed out, whose session must change its password. -/
structure Locked (id : Bytes) (s : Sessions) : Prop where
  nonempty : id ≠ []
  issued : id ∈ s.issued
  flagged : ∀ session, s.auth.sessions.lookup id = some session → session.mustChange = true

section Lock

variable {D : Digests} {s s' : Sessions} {l : GateStep} {id : Bytes} {session : Session}

/-- A renewal leaves the flag of every session. -/
lemma mustChange_renewSession {s : AuthService} {other : Bytes} {now renewedAt : UInt64}
    (h : (s.renewSession id now renewedAt).1.sessions.lookup other = some session) :
    ∃ held, s.sessions.lookup other = some held ∧ session.mustChange = held.mustChange := by
  by_cases hlive : Unexpired s id now
  · have hvalid := validateSession_of_unexpired hlive
    obtain ⟨-, held, hlookup, -⟩ := hlive
    rw [AuthService.renewSession, hvalid] at h
    change (s.sessions.insert id { (s.sessions.lookup id).getD {} with
      expiresAt := renewedAt + sessionTtlSec }).lookup other = some session at h
    by_cases heq : other = id
    · rw [heq, AList.lookup_insert, hlookup, Option.getD_some, Option.some.injEq] at h
      rw [heq, ← h]
      exact ⟨held, hlookup, rfl⟩
    · rw [AList.lookup_insert_ne heq] at h
      exact ⟨session, h, rfl⟩
  · have hrefused := validateSession_of_not_unexpired hlive
    have hsame : (s.renewSession id now renewedAt).1 = (s.validateSession id now).1 := by
      rw [AuthService.renewSession]
      simp [hrefused]
    rw [hsame] at h
    exact ⟨session, onlyTakesAway_validateSession other session h, rfl⟩

/-- What a step leaves has the flag it had, or is handed out by the step. -/
lemma mustChange_next (h : (l.next D s.auth).sessions.lookup id = some session) :
    (∃ held, s.auth.sessions.lookup id = some held ∧ session.mustChange = held.mustChange) ∨
      id ∈ l.drawn D s.auth := by
  cases l with
  | login io users username password =>
      rcases lookup_login h with h | ⟨result, hresult, hsuccess, rfl⟩
      · exact .inl ⟨session, h, rfl⟩
      · right
        simp [GateStep.drawn, hresult, hsuccess]
  | other step =>
      cases step with
      | sso random now declared username =>
          simp only [GateStep.next, AuthService.sessionStep] at h
          cases hmade : s.auth.createSsoSession random now declared username with
          | error e =>
              rw [hmade] at h
              exact .inl ⟨session, h, rfl⟩
          | ok made =>
              rw [hmade] at h
              rcases lookup_createSsoSession hmade h with h | rfl
              · exact .inl ⟨session, h, rfl⟩
              · right
                simp [GateStep.drawn, hmade]
      | validate id now => exact .inl ⟨session, onlyTakesAway_validateSession _ _ h, rfl⟩
      | renew id now renewedAt => exact .inl (mustChange_renewSession h)
      | logout id => exact .inl ⟨session, lookup_of_erase h, rfl⟩
  | request io cache req => exact .inl ⟨session, onlyTakesAway_route _ _ h, rfl⟩

/-- A step keeps the lock of an id: nothing clears the flag, and no session takes
the place of the id's. -/
lemma locked_next (hI : Locked id s) (hfresh : Fresh D s l)
    (h : (sessionGate D).next s l = some s') : Locked id s' := by
  obtain rfl := Option.some.inj h
  refine ⟨hI.nonempty, List.mem_append_right _ hI.issued, fun session hlookup => ?_⟩
  rcases mustChange_next hlookup with ⟨held, hheld, hflag⟩ | hdrawn
  · rw [hflag]
    exact hI.flagged held hheld
  · exact absurd hI.issued (hfresh id hdrawn hI.nonempty)

/-- What a sign-in that goes through leaves of the sessions. -/
lemma sessions_login {s : AuthService} {io : AuthService.LoginIO} {users : LocalUsers}
    {username password : String} {result : LoginResult}
    (h : (s.login D io users username password).2 = .ok result) (hsuccess : result.success = true) :
    result.sessionId ≠ [] ∧
      ∃ session, (s.login D io users username password).1.sessions.lookup result.sessionId =
        some session ∧ session.mustChange = result.mustChange := by
  rw [AuthService.login] at h ⊢
  dsimp only at h ⊢
  split at h
  · cases h
    cases hsuccess
  · next hfree =>
      rw [if_neg hfree]
      split at h
      · cases h
        cases hsuccess
      · next hfound =>
          rw [if_neg hfound]
          split at h
          · cases h
            cases hsuccess
          · next hright =>
              rw [if_neg hright]
              split at h
              · cases h
                cases hsuccess
              · next hid =>
                  rw [if_neg hid]
                  split at h
                  · cases h
                  · cases h
                    exact ⟨hid, _, AList.lookup_insert _, rfl⟩

/-- After the sign-in the id is locked. -/
lemma locked_of_signedIn {p : Sessions × GateStep} (hsignIn : SignedInLocked D id p)
    (h : (sessionGate D).next p.1 p.2 = some s') : Locked id s' := by
  obtain ⟨io, users, username, password, result, hlabel, hresult, hsuccess, hmust, rfl⟩ := hsignIn
  obtain ⟨hid, session, hlookup, hflag⟩ := sessions_login hresult hsuccess
  rw [hlabel] at h
  obtain rfl := Option.some.inj h
  refine ⟨hid, ?_, ?_⟩
  · simp [GateStep.drawn, hresult, hsuccess]
  · intro other hother
    have heq := hother.symm.trans hlookup
    rw [Option.some.inj heq, hflag]
    exact hmust

end Lock

/-- **A change of the password leaves the lock**: a request after it, within the
lifetime of the session, is dispatched exactly where its row is exempt. -/
theorem dispatched_iff_exempt {D : Digests} {s s' : Sessions} {tr : List (Sessions × GateStep)}
    {id : Bytes} {p : Sessions × GateStep} {io : GateIO} {cache : Option StaticFileCache}
    {req : HttpRequest} {row : Row} (hrun : (sessionGate D).Run s tr s')
    (hfresh : ∀ q ∈ tr, Fresh D q.1 q.2) (hafter : AfterChange D id tr p)
    (hasks : Asks id row io cache req p) :
    (WebService.route io cache req p.1.auth).2 = .handled row.route ↔
      row.mustChangeExempt = true := by
  obtain ⟨before, signIn, between, change, after, rest, rfl, hsignIn, -⟩ := hafter
  obtain ⟨t, -, hrun⟩ := hrun.of_append
  obtain ⟨-, u, hstep, hrun⟩ := hrun.of_cons
  have hsplit : between ++ change :: (after ++ p :: rest) =
      (between ++ change :: after) ++ p :: rest := by simp
  rw [hsplit] at hrun
  obtain ⟨v, hmiddle, hrun⟩ := hrun.of_append
  obtain ⟨rfl, -⟩ := hrun.of_cons
  -- the lock holds from the sign-in to the request, the change between them or not
  have hlocked : Locked id p.1 := by
    refine hmiddle.invariant_of_forall (C := fun s l => Fresh D s l)
      (locked_of_signedIn hsignIn hstep) (fun _ _ _ hI hC h => locked_next hI hC h) ?_
    intro q hq
    refine hfresh q ?_
    simp only [List.mem_append, List.mem_cons] at hq ⊢
    tauto
  obtain ⟨-, session, hlookup, hle⟩ := hasks.live
  have hmust : p.1.auth.mustChangePassword id io.lockedAt = true :=
    mustChangePassword_eq_true.mpr ⟨session, hlookup, hle, hlocked.flagged session hlookup⟩
  rw [handled_authenticated_iff hasks.listed hasks.access, hasks.cookie, hmust, hasks.resolved,
    hasks.access]
  simp [hasks.validated]

/-! ### One session -/

namespace FirstChange

/-- The account of the first sign-in. -/
def users : LocalUsers where
  rows := [⟨"admin", "1", hashPassword noDigests true "pretzel" "salt", "salt", true⟩]
  keys := List.nodup_singleton _
  attrs := by simp

/-- Its session id: the digit zero, 64 times. -/
def session : Bytes := List.replicate 64 48

/-- A request of the session at a second. -/
def ask (method target : String) (now : UInt64) : GateStep :=
  .request ⟨now, now⟩ none ⟨textBytes method, textBytes target, textBytes "session=" ++ session⟩

/-- The sign-in, the change of the password, and a request. -/
def steps (method target : String) : List GateStep :=
  [.login ⟨10, true, true, 10, 0, some (Vector.replicate 32 0), 10, .obj []⟩ users "admin"
      "pretzel",
    ask "POST" "/api/change-password" 20, ask method target 30]

/-- What the change posts. -/
def body : Json := .obj [("new_password", .str "brezel"), ("old_password", .str "pretzel")]

/-- The sessions after the sign-in and the change. -/
def changed : Sessions :=
  (((sessionGate noDigests).exec {} ((steps "" "").take 2)).getD {})

lemma trace_steps (method target : String) :
    (sessionGate noDigests).trace {} (steps method target) =
      (sessionGate noDigests).trace {} ((steps "" "").take 2) ++
        [(changed, ask method target 30)] := rfl

lemma fresh (method target : String) :
    ∀ q ∈ (sessionGate noDigests).trace {} (steps method target), Fresh noDigests q.1 q.2 := by
  have hfirst : ((sessionGate noDigests).trace {} ((steps "" "").take 2)).all (fun q =>
      ((q.2.drawn noDigests q.1.auth).all fun id => !q.1.issued.contains id)) = true := by
    decide
  intro q hq id hid _ hissued
  rw [trace_steps, List.mem_append, List.mem_singleton] at hq
  rcases hq with hq | rfl
  · have hnew := List.all_eq_true.mp hfirst q hq
    rw [hid, Option.all_some] at hnew
    simp [hissued] at hnew
  · cases hid

/-- The session has not expired at the request. -/
lemma live : Unexpired changed.auth session 30 :=
  validateSession_eq_true.mp (by decide)

lemma after (method target : String) :
    AfterChange noDigests session ((sessionGate noDigests).trace {} (steps method target))
      (changed, ask method target 30) := by
  have hlogin : (({} : AuthService).login noDigests
      ⟨10, true, true, 10, 0, some (Vector.replicate 32 0), 10, .obj []⟩ users "admin"
        "pretzel").2 =
      .ok { success := true, sessionId := session, mustChange := true } := by
    decide
  refine ⟨[], _, [], _, [], [], rfl, ⟨_, _, _, _, _, rfl, hlogin, rfl, rfl, rfl⟩,
    ⟨_, _, _, ⟨20, true, true, ⟨true, some (Vector.replicate 16 0)⟩⟩, users, some body, rfl, ?_⟩⟩
  decide

end FirstChange

open FirstChange in
/-- **A session that stays locked**: after its password is changed it is refused
the settings. -/
theorem refused_after_change :
    ¬∀ (D : Digests) (s s' : Sessions) (tr : List (Sessions × GateStep)) (id : Bytes)
      (p : Sessions × GateStep) (io : GateIO) (cache : Option StaticFileCache) (req : HttpRequest)
      (row : Row), (sessionGate D).init s → (sessionGate D).Run s tr s' →
      (∀ q ∈ tr, Fresh D q.1 q.2) → AfterChange D id tr p →
      Asks id row io cache req p →
        (WebService.route io cache req p.1.auth).2 = .handled row.route := by
  intro hall
  have hrun : ((sessionGate noDigests).exec {} (steps "GET" "/api/settings")).isSome = true := rfl
  obtain ⟨s', hexec⟩ := Option.isSome_iff_exists.mp hrun
  have hinit : (sessionGate noDigests).init {} := fun id hid => absurd hid (AList.notMem_empty id)
  have hasks : Asks session
      ⟨"GET", "/api/settings", .Exact, .Settings, .Authenticated, false⟩ ⟨30, 30⟩ none
      ⟨textBytes "GET", textBytes "/api/settings", textBytes "session=" ++ session⟩
      (changed, ask "GET" "/api/settings" 30) :=
    ⟨rfl, by decide +kernel, by decide +kernel, rfl, by decide +kernel, live, live⟩
  have hhandled := hall noDigests {} s' _ session _ ⟨30, 30⟩ none _ _ hinit (Machine.exec_run hexec)
    (fresh _ _) (after _ _) hasks
  revert hhandled
  decide +kernel

open FirstChange in
/-- The change of the password is still dispatched after it. -/
theorem dispatched_iff_exempt_again :
    (WebService.route ⟨30, 30⟩ none
      ⟨textBytes "POST", textBytes "/api/change-password", textBytes "session=" ++ session⟩
        changed.auth).2 = .handled .ChangePassword := by
  have hrun :
      ((sessionGate noDigests).exec {} (steps "POST" "/api/change-password")).isSome = true := rfl
  obtain ⟨s', hexec⟩ := Option.isSome_iff_exists.mp hrun
  have hasks : Asks session
      ⟨"POST", "/api/change-password", .Exact, .ChangePassword, .Authenticated, true⟩ ⟨30, 30⟩
      none ⟨textBytes "POST", textBytes "/api/change-password", textBytes "session=" ++ session⟩
      (changed, ask "POST" "/api/change-password" 30) :=
    ⟨rfl, by decide +kernel, by decide +kernel, rfl, by decide +kernel, live, live⟩
  exact (dispatched_iff_exempt (Machine.exec_run hexec) (fresh _ _) (after _ _) hasks).mpr rfl

end Pretzel.Mgmtd
