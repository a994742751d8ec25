import Pretzel.Mgmtd.AuthService
import Pretzel.Mgmtd.SettingsController

/-!
The handlers that write an account: `AuthController::login` and
`changePassword`, and `UserController::credentialStore`.

* `persistCredential`, `accountMessage`: the messages they send to engined.
* `AuthController.login`, `AuthController.changePassword`,
  `UserController.credentialStore`: the handlers. A JSON type error leaves the
  last, and is answered by the others.
* `ReStores`, `Changes`, `Removes`, `Sets`: when each sends what, and
  `sent_login_iff`, `sent_changePassword_iff`, `sent_credentialStore_iff`, that it
  is exactly then.
-/

namespace Pretzel.Mgmtd

open Nlohmann Ipc Config Util

/-- `IpcCmd::LocalUserUpdate`. -/
def LocalUserUpdate : IpcCmd := .raw 114

/-- What a handler leaves of a request: the response, its cookie, and the message
for the tx router. -/
structure Answer where
  response : HttpResponse
  setCookie : Option Bytes := none
  sent : Option (IpcMessage Payload) := none

/-- `fill`, of an error text. -/
def fillError (status : ℕ) (error : String) : Answer :=
  { response := ⟨status, .obj [("error", .str error)]⟩ }

/-! ### The messages -/

/-- The removal of an account. -/
def removalPayload (oid username : String) : Json :=
  .obj [("oid", .str oid), ("remove", .bool true), ("username", .str username)]

/-- A credential, with the oid where the sender names one. -/
def credentialPayload (oid : Option String) (username : String) (cred : Credential) : Json :=
  .obj ([("must_change", .bool false)] ++ oid.toList.map (fun o => ("oid", .str o)) ++
    [("password_hash", .str cred.passwordHash), ("salt", .str cred.salt),
      ("username", .str username)])

/-- The message about an account. -/
def accountMessage (payload : Json) : IpcMessage Payload :=
  { header := { src := .Mgmtd, dst := .Engined, cmd := LocalUserUpdate,
                flags := IpcFlag.Request.toFlag }
    payload := .json payload }

/-- `persistCredential`. -/
def persistCredential (username : String) (cred : Credential) : IpcMessage Payload :=
  accountMessage (credentialPayload none username cred)

/-! ### The handlers -/

/-- What one new credential meets: whether the digest is computed, and the random
bytes of its salt. -/
structure CredentialIO where
  kdf : Bool
  random : Option (Vector UInt8 16)

/-- Two texts of a body, by `at` and `get<std::string>`. -/
def bodyTexts (input : Option Json) (key key' : String) : Option (String × String) :=
  match input with
  | none => none
  | some body =>
      match body.find? key, body.find? key' with
      | some (.str text), some (.str text') => some (text, text')
      | _, _ => none

/-- `session=<id>; HttpOnly; Path=/; SameSite=Strict`. -/
def sessionSetCookie (sessionId : Bytes) : Bytes :=
  "session=".toUTF8.toList ++ sessionId ++ "; HttpOnly; Path=/; SameSite=Strict".toUTF8.toList

/-- `AuthController::login`. -/
def AuthController.login (D : Digests) (io : AuthService.LoginIO) (cio : CredentialIO)
    (users : LocalUsers) (input : Option Json) (s : AuthService) : AuthService × Answer :=
  match bodyTexts input "username" "password" with
  | none => (s, fillError 400 "bad request")
  | some (username, password) =>
      match s.login D io users username password with
      | (s, .error _) => (s, fillError 400 "bad request")
      | (s, .ok result) =>
          if result.throttled then (s, fillError 429 "too many failed attempts — try again shortly")
          else if !result.success then (s, fillError 401 "invalid credentials")
          else
            let cred := makeCredential D cio.kdf cio.random password
            let sent :=
              if result.rehashNeeded && cred.passwordHash ≠ "" then
                some (persistCredential username cred)
              else none
            (s, { response := ⟨200, .obj [("must_change", .bool result.mustChange),
                    ("status", .str "ok")]⟩
                  setCookie := some (sessionSetCookie result.sessionId)
                  sent })

/-- What a change of one's own password meets: the clock, the query and the
digest of the check, and the new credential. -/
structure ChangeIO where
  now : UInt64
  answered : Bool
  kdf : Bool
  made : CredentialIO

/-- `AuthController::changePassword`, by the id its cookie names. -/
def AuthController.changePassword (D : Digests) (io : ChangeIO) (users : LocalUsers)
    (session : Bytes) (input : Option Json) (s : AuthService) : Answer :=
  match bodyTexts input "old_password" "new_password" with
  | none => fillError 400 "bad request"
  | some (oldPass, newPass) =>
      if newPass = "" then fillError 400 "new password must not be empty"
      else
        let user := s.sessionUser session io.now
        if user = "" then fillError 401 "unauthorized"
        else if !AuthService.checkPassword D io.answered io.kdf users user oldPass then
          fillError 401 "current password is incorrect"
        else
          let cred := makeCredential D io.made.kdf io.made.random newPass
          if cred.passwordHash = "" then fillError 500 "could not generate the new credential"
          else
            { response := ⟨200, .obj [("status", .str "ok")]⟩
              sent := some (persistCredential user cred) }

/-- `kMinPasswordChars`. -/
def kMinPasswordChars : ℕ := 8

/-- What a request about an account meets: the clock where it is read, whether
the count answers, and the new credential. -/
structure AdminIO where
  adminAt : UInt64
  meAt : UInt64
  counted : Bool
  made : CredentialIO

/-- `SELECT count(*) FROM local_users`. -/
def countRows (counted : Bool) (users : LocalUsers) : List (List String) :=
  if counted then [[toString users.rows.length]] else []

/-- `UserController::credentialStore`, by the id its cookie names. -/
def UserController.credentialStore (D : Digests) (io : AdminIO) (users : LocalUsers)
    (session : Bytes) (input : Option Json) (s : AuthService) : Except JsonError Answer :=
  match input with
  | none => .ok (fillError 400 "invalid JSON body")
  | some input => do
      let oid ← input.valueString "oid" ""
      let username ← input.valueString "username" ""
      if oid = "" || username = "" then return fillError 400 "oid and username are required"
      else if !s.sessionIsAdmin session io.adminAt then
        return { response := ⟨403, .obj [("code", .str "FORBIDDEN"),
          ("error", .str "only an admin may change accounts")]⟩ }
      else
        let remove ← input.valueBool "remove" false
        let me := s.sessionUser session io.meAt
        if remove && username = me then
          return fillError 409 "you cannot remove the account you are signed in as"
        else
          let pending : HttpResponse := ⟨202, .obj [("oid", .str oid), ("status", .str "pending")]⟩
          if remove then
            if countRows io.counted users = [["1"]] then
              return fillError 409
                "this is the last local account — the appliance would have no way in"
            else
              return { response := pending, sent := some (accountMessage (removalPayload oid username)) }
          else
            let password ← input.valueString "password" ""
            if password.utf8ByteSize < kMinPasswordChars then
              return fillError 400 "the password must be at least 8 characters"
            else
              let cred := makeCredential D io.made.kdf io.made.random password
              return { response := pending
                       sent := some (accountMessage (credentialPayload (some oid) username cred)) }

/-! ### A new credential -/

variable {D : Digests}

/-- A credential can be made. -/
def CredentialIO.Ready (cio : CredentialIO) : Prop := cio.kdf = true ∧ cio.random.isSome = true

instance (cio : CredentialIO) : Decidable cio.Ready :=
  inferInstanceAs (Decidable (cio.kdf = true ∧ cio.random.isSome = true))

lemma makeCredential_some {buf : Vector UInt8 16} {password : String} :
    makeCredential D true (some buf) password =
      ⟨hashPassword D true password (toHex buf.toList), toHex buf.toList⟩ := by
  have hsalt : generateSalt (some buf) ≠ "" := toHex_vector_ne_empty (n := 15) buf
  rw [makeCredential, if_neg hsalt, if_neg hashPassword_true_ne_empty]
  rfl

lemma makeCredential_of_not_ready {cio : CredentialIO} {password : String} (h : ¬cio.Ready) :
    makeCredential D cio.kdf cio.random password = {} := by
  obtain ⟨kdf, random⟩ := cio
  cases random with
  | none => rfl
  | some buf =>
      cases kdf with
      | true => exact absurd ⟨rfl, rfl⟩ h
      | false =>
          have hsalt : generateSalt (some buf) ≠ "" := toHex_vector_ne_empty (n := 15) buf
          rw [makeCredential, if_neg hsalt, if_pos hashPassword_false]

lemma makeCredential_ne_empty_iff {cio : CredentialIO} {password : String} :
    (makeCredential D cio.kdf cio.random password).passwordHash ≠ "" ↔ cio.Ready := by
  constructor
  · intro h
    by_contra hready
    rw [makeCredential_of_not_ready hready] at h
    exact h rfl
  · rintro ⟨hkdf, hrandom⟩
    obtain ⟨buf, hbuf⟩ := Option.isSome_iff_exists.mp hrandom
    rw [hkdf, hbuf, makeCredential_some]
    exact hashPassword_true_ne_empty

/-! ### When a message is sent -/

/-- A password that the account's row verifies. -/
structure Verified (D : Digests) (answered kdf : Bool) (users : LocalUsers)
    (username password : String) (u : LocalUser) : Prop where
  answered : answered = true
  account : LocalUsers.account? users (cStr username) = some u
  stored : u.passwordHash ≠ ""
  verifies : verifyPassword D kdf password u.salt u.passwordHash = true

variable {users : LocalUsers} {s : AuthService} {username password : String}

/-- The account as it is read: none, or the row of the name. -/
lemma readAccount_cases (answered : Bool) (users : LocalUsers) (username : String) :
    (readAccount answered users username = {} ∧
      ∀ u, answered = true → LocalUsers.account? users (cStr username) ≠ some u) ∨
    ∃ u, answered = true ∧ LocalUsers.account? users (cStr username) = some u ∧
      readAccount answered users username =
        ⟨u.username, u.passwordHash, u.salt, u.mustChange, true⟩ := by
  cases answered with
  | false => exact .inl ⟨rfl, fun u h => by cases h⟩
  | true =>
      rw [readAccount, if_pos rfl]
      cases haccount : LocalUsers.account? users (cStr username) with
      | none => exact .inl ⟨rfl, fun u _ h => by cases h⟩
      | some u => exact .inr ⟨u, rfl, rfl, rfl⟩

lemma checkPassword_iff {answered kdf : Bool} :
    AuthService.checkPassword D answered kdf users username password = true ↔
      ∃ u, Verified D answered kdf users username password u := by
  rw [AuthService.checkPassword]
  rcases readAccount_cases answered users username with ⟨hread, hnone⟩ | ⟨u, hans, haccount, hread⟩
  · rw [hread]
    constructor
    · intro h
      cases h
    · rintro ⟨u, hu⟩
      exact absurd hu.account (hnone u hu.answered)
  · rw [hread]
    constructor
    · intro h
      dsimp only at h
      split at h
      · cases h
      · next hstored => exact ⟨u, hans, haccount, by simpa using hstored, h⟩
    · rintro ⟨v, hv⟩
      obtain rfl : u = v := Option.some.inj (haccount.symm.trans hv.account)
      have hstored : ¬((!true || decide (u.passwordHash = "")) = true) := by simp [hv.stored]
      dsimp only
      rw [if_neg hstored]
      exact hv.verifies

/-- A sign-in that goes through, with the account it is for. -/
structure SignsIn (D : Digests) (io : AuthService.LoginIO) (users : LocalUsers) (s : AuthService)
    (username password : String) (u : LocalUser) : Prop
    extends Verified D io.answered io.kdf users username password u where
  free : s.throttled username io.checkedAt = false
  random : io.random.isSome = true
  declared : ∃ role, declaredRole io.declared u.username = .ok role

lemma generateSessionId_eq_nil {random : Option (Vector UInt8 32)} :
    generateSessionId random = [] ↔ random.isSome = false := by
  cases random with
  | none => exact ⟨fun _ => rfl, fun _ => rfl⟩
  | some buf =>
      cases hbuf : buf.toList with
      | nil => simpa [hbuf] using buf.length_toList
      | cons b rest => simp [generateSessionId, hbuf]

/-- **A sign-in that goes through**, with what it answers. -/
lemma login_success_iff {io : AuthService.LoginIO} {result : LoginResult} :
    (s.login D io users username password).2 = .ok result ∧ result.success = true ↔
      ∃ u, SignsIn D io users s username password u ∧ result =
        { success := true, sessionId := generateSessionId io.random, mustChange := u.mustChange,
          rehashNeeded := needsRehash u.passwordHash } := by
  -- an answer that is not a success stands where nobody signs in
  have hrefused : ∀ answer : Except JsonError LoginResult,
      (∀ r, answer = .ok r → r.success = false) →
      (∀ u, ¬SignsIn D io users s username password u) →
      (answer = .ok result ∧ result.success = true ↔
        ∃ u, SignsIn D io users s username password u ∧ result =
          { success := true, sessionId := generateSessionId io.random, mustChange := u.mustChange,
            rehashNeeded := needsRehash u.passwordHash }) := by
    intro answer hfail hnobody
    constructor
    · rintro ⟨h, hsuccess⟩
      rw [hfail result h] at hsuccess
      cases hsuccess
    · rintro ⟨u, hu, -⟩
      exact absurd hu (hnobody u)
  have hplain : ∀ r, (Except.ok {} : Except JsonError LoginResult) = .ok r → r.success = false := by
    rintro r h
    cases h
    rfl
  rw [AuthService.login]
  cases hfree : s.throttled username io.checkedAt with
  | true =>
      refine hrefused _ (by rintro r h; cases h; rfl) fun u hu => ?_
      rw [hu.free] at hfree
      cases hfree
  | false =>
      rw [if_neg Bool.false_ne_true]
      rcases readAccount_cases io.answered users username with
        ⟨hread, hnone⟩ | ⟨u, hans, haccount, hread⟩
      · rw [hread]
        exact hrefused _ hplain fun u hu => hnone u hu.answered hu.account
      · rw [hread]
        have hsame : ∀ v, SignsIn D io users s username password v → v = u := fun v hv =>
          Option.some.inj (hv.account.symm.trans haccount)
        by_cases hstored : u.passwordHash = ""
        · rw [if_pos (by simp [hstored])]
          exact hrefused _ hplain fun v hv => hv.stored (hsame v hv ▸ hstored)
        · rw [if_neg (by simp [hstored])]
          by_cases hverify : verifyPassword D io.kdf password u.salt u.passwordHash = true
          · rw [if_neg (by simp [hverify])]
            by_cases hid : generateSessionId io.random = []
            · rw [if_pos hid]
              refine hrefused _ hplain fun v hv => ?_
              rw [generateSessionId_eq_nil, hv.random] at hid
              cases hid
            · rw [if_neg hid]
              have hrandom : io.random.isSome = true := by
                rw [← Bool.not_eq_false, ← generateSessionId_eq_nil]
                exact hid
              cases hrole : declaredRole io.declared u.username with
              | error e =>
                  refine hrefused _ (by rintro r h; cases h) fun v hv => ?_
                  obtain ⟨role, hdeclared⟩ := hv.declared
                  rw [hsame v hv, hrole] at hdeclared
                  cases hdeclared
              | ok role =>
                  constructor
                  · rintro ⟨h, -⟩
                    cases h
                    exact ⟨u, ⟨⟨hans, haccount, hstored, hverify⟩, hfree, hrandom, role, hrole⟩, rfl⟩
                  · rintro ⟨v, hv, rfl⟩
                    rw [hsame v hv]
                    exact ⟨rfl, rfl⟩
          · rw [if_pos (by simp [hverify])]
            exact hrefused _ hplain fun v hv => hverify (hsame v hv ▸ hv.verifies)

/-- A sign-in that stores the account's credential again. -/
structure ReStores (D : Digests) (io : AuthService.LoginIO) (cio : CredentialIO)
    (users : LocalUsers) (s : AuthService) (input : Option Json) (username password : String)
    (u : LocalUser) : Prop extends SignsIn D io users s username password u where
  posted : bodyTexts input "username" "password" = some (username, password)
  outdated : needsRehash u.passwordHash = true
  ready : cio.Ready

/-- **What a sign-in sends**: the credential, made again, where it is outdated. -/
theorem sent_login_iff {io : AuthService.LoginIO} {cio : CredentialIO} {input : Option Json}
    {msg : IpcMessage Payload} :
    (AuthController.login D io cio users input s).2.sent = some msg ↔
      ∃ username password u, ReStores D io cio users s input username password u ∧
        msg = persistCredential username (makeCredential D cio.kdf cio.random password) := by
  rw [AuthController.login]
  cases hinput : bodyTexts input "username" "password" with
  | none =>
      constructor
      · intro h
        cases h
      · rintro ⟨username, password, u, hu, -⟩
        rw [hu.posted] at hinput
        cases hinput
  | some texts =>
      obtain ⟨username, password⟩ := texts
      have hnames : ∀ n p u, ReStores D io cio users s input n p u → n = username ∧ p = password := by
        intro n p u hu
        rw [hu.posted, Option.some.injEq, Prod.mk.injEq] at hinput
        exact hinput
      have hsignedIn : ∀ u, ReStores D io cio users s input username password u →
          ∃ result, (s.login D io users username password).2 = .ok result ∧
            result.success = true := by
        intro u hu
        exact ⟨_, login_success_iff.mpr ⟨u, hu.toSignsIn, rfl⟩⟩
      dsimp only
      cases hlogin : s.login D io users username password with
      | mk s' answer =>
          rw [hlogin] at hsignedIn
          cases answer with
          | error e =>
              constructor
              · intro h
                cases h
              · rintro ⟨n, p, u, hu, -⟩
                obtain ⟨rfl, rfl⟩ := hnames n p u hu
                obtain ⟨result, h, -⟩ := hsignedIn u hu
                cases h
          | ok result =>
              cases hsuccess : result.success with
              | false =>
                  constructor
                  · intro h
                    dsimp only at h
                    split at h
                    · cases h
                    · rw [hsuccess] at h
                      cases h
                  · rintro ⟨n, p, u, hu, -⟩
                    obtain ⟨rfl, rfl⟩ := hnames n p u hu
                    obtain ⟨result', h, hsuccess'⟩ := hsignedIn u hu
                    cases h
                    rw [hsuccess] at hsuccess'
                    cases hsuccess'
              | true =>
                  obtain ⟨u, hu, rfl⟩ := login_success_iff.mp
                    ⟨congrArg Prod.snd hlogin, hsuccess⟩
                  have hready : (makeCredential D cio.kdf cio.random password).passwordHash ≠ "" ↔
                      cio.Ready := makeCredential_ne_empty_iff
                  dsimp only
                  rw [if_neg Bool.false_ne_true, Bool.not_true, if_neg Bool.false_ne_true]
                  constructor
                  · intro h
                    split at h
                    · next hsend =>
                        rw [Bool.and_eq_true, decide_eq_true_eq] at hsend
                        cases h
                        exact ⟨username, password, u, ⟨hu, hinput, hsend.1, hready.mp hsend.2⟩, rfl⟩
                    · cases h
                  · rintro ⟨n, p, v, hv, rfl⟩
                    obtain ⟨rfl, rfl⟩ := hnames n p v hv
                    obtain rfl : v = u := Option.some.inj (hv.account.symm.trans hu.account)
                    rw [if_pos]
                    rw [Bool.and_eq_true, decide_eq_true_eq]
                    exact ⟨hv.outdated, hready.mpr hv.ready⟩

/-- A change of one's own password that is taken. -/
structure Changes (D : Digests) (io : ChangeIO) (users : LocalUsers) (s : AuthService)
    (session : Bytes) (input : Option Json) (user oldPass newPass : String) : Prop where
  posted : bodyTexts input "old_password" "new_password" = some (oldPass, newPass)
  nonempty : newPass ≠ ""
  sessionUser : s.sessionUser session io.now = user
  signedIn : user ≠ ""
  checked : AuthService.checkPassword D io.answered io.kdf users user oldPass = true
  ready : io.made.Ready

/-- **What a change of one's own password sends.** -/
theorem sent_changePassword_iff {io : ChangeIO} {session : Bytes} {input : Option Json}
    {msg : IpcMessage Payload} :
    (AuthController.changePassword D io users session input s).sent = some msg ↔
      ∃ user oldPass newPass, Changes D io users s session input user oldPass newPass ∧
        msg = persistCredential user
          (makeCredential D io.made.kdf io.made.random newPass) := by
  rw [AuthController.changePassword]
  cases hinput : bodyTexts input "old_password" "new_password" with
  | none =>
      constructor
      · intro h
        cases h
      · rintro ⟨user, oldPass, newPass, hc, -⟩
        rw [hc.posted] at hinput
        cases hinput
  | some texts =>
      obtain ⟨oldPass, newPass⟩ := texts
      have hready : (makeCredential D io.made.kdf io.made.random newPass).passwordHash ≠ "" ↔
          io.made.Ready := makeCredential_ne_empty_iff
      constructor
      · intro h
        dsimp only at h
        split at h
        · cases h
        · next hnonempty =>
            split at h
            · cases h
            · next huser =>
                split at h
                · cases h
                · next hchecked =>
                    split at h
                    · cases h
                    · next hcred =>
                        cases h
                        exact ⟨_, oldPass, newPass, ⟨hinput, hnonempty, rfl, huser,
                          by simpa using hchecked, hready.mp hcred⟩, rfl⟩
      · rintro ⟨user, old, new, hc, rfl⟩
        rw [hc.posted, Option.some.injEq, Prod.mk.injEq] at hinput
        obtain ⟨rfl, rfl⟩ := hinput
        obtain rfl := hc.sessionUser
        dsimp only
        rw [if_neg hc.nonempty, if_neg hc.signedIn, hc.checked, Bool.not_true,
          if_neg Bool.false_ne_true, if_neg (hready.mpr hc.ready)]

/-- A request about an account that an admin makes. -/
structure AdminRequest (io : AdminIO) (s : AuthService) (session : Bytes) (input : Option Json)
    (oid username : String) (remove : Bool) (body : Json) : Prop where
  posted : input = some body
  readOid : body.valueString "oid" "" = .ok oid
  readUsername : body.valueString "username" "" = .ok username
  named : oid ≠ "" ∧ username ≠ ""
  admin : s.sessionIsAdmin session io.adminAt = true
  readRemove : body.valueBool "remove" false = .ok remove

/-- A removal that is taken: of another account, and not of the only one the
table has. -/
structure Removes (io : AdminIO) (users : LocalUsers) (s : AuthService) (session : Bytes)
    (input : Option Json) (oid username : String) (body : Json) : Prop
    extends AdminRequest io s session input oid username true body where
  other : username ≠ s.sessionUser session io.meAt
  notLast : countRows io.counted users ≠ [["1"]]

/-- A password that is taken. -/
structure Sets (io : AdminIO) (s : AuthService) (session : Bytes) (input : Option Json)
    (oid username password : String) (body : Json) : Prop
    extends AdminRequest io s session input oid username false body where
  readPassword : body.valueString "password" "" = .ok password
  long : kMinPasswordChars ≤ password.utf8ByteSize

/-- **What a request about an account sends**: a removal, or a credential. -/
theorem sent_credentialStore_iff {io : AdminIO} {session : Bytes} {input : Option Json}
    {msg : IpcMessage Payload} :
    (∃ out, UserController.credentialStore D io users session input s = .ok out ∧
        out.sent = some msg) ↔
      (∃ oid username body, Removes io users s session input oid username body ∧
        msg = accountMessage (removalPayload oid username)) ∨
      ∃ oid username password body, Sets io s session input oid username password body ∧
        msg = accountMessage (credentialPayload (some oid) username
          (makeCredential D io.made.kdf io.made.random password)) := by
  constructor
  · rintro ⟨out, h, hsent⟩
    cases input with
    | none =>
        cases h
        cases hsent
    | some body =>
        rw [UserController.credentialStore, except_bind_eq_ok] at h
        obtain ⟨oid, hoid, h⟩ := h
        rw [except_bind_eq_ok] at h
        obtain ⟨username, hname, h⟩ := h
        dsimp only at h
        split at h
        · cases h
          cases hsent
        · next hnamed =>
            split at h
            · cases h
              cases hsent
            · next hadmin =>
                rw [except_bind_eq_ok] at h
                obtain ⟨remove, hremove, h⟩ := h
                have hnamed' : oid ≠ "" ∧ username ≠ "" := by simpa using hnamed
                have hrequest : AdminRequest io s session (some body) oid username remove body :=
                  ⟨rfl, hoid, hname, hnamed', by simpa using hadmin, hremove⟩
                split at h
                · cases h
                  cases hsent
                · next hother =>
                    cases remove with
                    | true =>
                        rw [if_pos rfl] at h
                        split at h
                        · cases h
                          cases hsent
                        · next hlast =>
                            cases h
                            cases hsent
                            exact .inl ⟨oid, username, body, ⟨hrequest, by simpa using hother, hlast⟩,
                              rfl⟩
                    | false =>
                        rw [if_neg Bool.false_ne_true, except_bind_eq_ok] at h
                        obtain ⟨password, hpassword, h⟩ := h
                        split at h
                        · cases h
                          cases hsent
                        · next hlong =>
                            cases h
                            cases hsent
                            exact .inr ⟨oid, username, password, body,
                              ⟨hrequest, hpassword, not_lt.mp hlong⟩, rfl⟩
  · rintro (⟨oid, username, body, hr, rfl⟩ | ⟨oid, username, password, body, hr, rfl⟩)
    · refine ⟨{ response := ⟨202, .obj [("oid", .str oid), ("status", .str "pending")]⟩
                sent := some (accountMessage (removalPayload oid username)) }, ?_, rfl⟩
      rw [hr.posted]
      simp [UserController.credentialStore, bind, Except.bind, pure, Except.pure, hr.readOid,
        hr.readUsername, hr.readRemove, hr.named, hr.admin, hr.other, hr.notLast]
    · refine ⟨{ response := ⟨202, .obj [("oid", .str oid), ("status", .str "pending")]⟩
                sent := some (accountMessage (credentialPayload (some oid) username
                  (makeCredential D io.made.kdf io.made.random password))) }, ?_, rfl⟩
      rw [hr.posted]
      simp [UserController.credentialStore, bind, Except.bind, pure, Except.pure, hr.readOid,
        hr.readUsername, hr.readRemove, hr.named, hr.admin, hr.readPassword, hr.long]

end Pretzel.Mgmtd
