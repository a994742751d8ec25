import Pretzel.Engined.AdminService
import Pretzel.Library.Machine
import Pretzel.Mgmtd.AccountControllers

/-!
The accounts, between mgmtd, which reads the table and asks for it to be
written, and engined, which writes it.

* `Accounts`, `AccountStep`, `accounts`: the machine. A message travels with what
  made mgmtd send it, and the requests taken are kept beside.
* `Sends`, `step_of_next`: what a step of mgmtd sends, and all a step does.
* `Shaped`, `handleEvent_remove`, `handleEvent_store`: the messages on their way,
  and what engined makes of them.
* `LeavesOne`: a removal that leaves an account which no removal on its way is
  of. **`accounts_remain`**: where every removal does, the table is never empty.
* `emptied_of_not_leavesOne`: one that does not empties it.
-/

namespace Pretzel.Fleet

open Reactive Nlohmann Ipc Config Util Mgmtd

/-! ### The machine -/

/-- What made mgmtd send a message: a sign-in that stores the credential again, a
password set by its owner or by an admin, or a removal. -/
inductive Cause where
  | signIn (password : String)
  | set (password : String)
  | remove
deriving DecidableEq

/-- Whether a message is there because someone asked for it. -/
def Cause.asked : Cause → Bool
  | .signIn _ => false
  | .set _ | .remove => true

/-- A message on its way to engined. -/
structure AccountUpdate where
  username : String
  cause : Cause
  message : IpcMessage Payload

/-- The name as a statement takes it. -/
def AccountUpdate.name (u : AccountUpdate) : String := cStr u.username

/-- The table, mgmtd's sessions, the messages on their way in order, and, the last
one first, the requests taken. -/
structure Accounts where
  users : LocalUsers
  auth : AuthService := {}
  wire : List AccountUpdate := []
  accepted : List AccountUpdate := []

/-- A message that is sent. -/
def Accounts.send (s : Accounts) (u : AccountUpdate) : Accounts :=
  { s with
    wire := s.wire ++ [u]
    accepted := if u.cause.asked then u :: s.accepted else s.accepted }

/-- A request to mgmtd, something else that happens to its sessions, or engined
taking the next message. -/
inductive AccountStep where
  | login (io : AuthService.LoginIO) (made : CredentialIO) (input : Option Json)
  | changePassword (io : ChangeIO) (session : Bytes) (input : Option Json)
  | credentialStore (io : AdminIO) (session : Bytes) (input : Option Json)
  | session (step : AuthService.SessionStep)
  | apply (io : Engined.StoreIO)

/-- What a handler leaves, with the account and the cause of a message it sends. -/
def Accounts.answer (s : Accounts) (username : String) (cause : Cause) (out : Answer) : Accounts :=
  match out.sent with
  | none => s
  | some message => s.send { username, cause, message }

/-- What an admin asks for. -/
def adminCause (body : Json) : Cause :=
  if body.find? "remove" = some (.bool true) then .remove else .set (body.textOr "password" "")

/-- One step. A JSON error that leaves a handler ends the process. -/
def accountStep (D : Digests) (s : Accounts) : AccountStep → Option Accounts
  | .login io made input =>
      let (auth, out) := AuthController.login D io made s.users input s.auth
      let (username, password) := (bodyTexts input "username" "password").getD ("", "")
      some (({ s with auth }).answer username (.signIn password) out)
  | .changePassword io session input =>
      let out := AuthController.changePassword D io s.users session input s.auth
      let (_, newPass) := (bodyTexts input "old_password" "new_password").getD ("", "")
      some (s.answer (s.auth.sessionUser session io.now) (.set newPass) out)
  | .credentialStore io session input =>
      match UserController.credentialStore D io s.users session input s.auth with
      | .error _ => none
      | .ok out =>
          let body := input.getD .null
          some (s.answer (body.textOr "username" "") (adminCause body) out)
  | .session step => some { s with auth := s.auth.sessionStep step }
  | .apply io =>
      match s.wire with
      | [] => none
      | u :: rest =>
          match Engined.AdminService.handleEvent io u.message s.users with
          | .error _ => none
          | .ok users => some { s with users, wire := rest }

/-- The accounts, as a machine: at first nothing is on its way. -/
def accounts (D : Digests) : Machine Accounts AccountStep where
  init s := s.wire = [] ∧ s.accepted = []
  next := accountStep D

/-! ### What a step does -/

/-- What a request sends. -/
inductive Sends (D : Digests) (s : Accounts) : AccountStep → AccountUpdate → Prop
  | signIn {io made input username password u} :
      ReStores D io made s.users s.auth input username password u →
      Sends D s (.login io made input) ⟨username, .signIn password,
        persistCredential username (makeCredential D made.kdf made.random password)⟩
  | change {io session input user oldPass newPass} :
      Changes D io s.users s.auth session input user oldPass newPass →
      Sends D s (.changePassword io session input) ⟨user, .set newPass,
        persistCredential user (makeCredential D io.made.kdf io.made.random newPass)⟩
  | remove {io session input oid username body} :
      Removes io s.users s.auth session input oid username body →
      Sends D s (.credentialStore io session input) ⟨username, .remove,
        accountMessage (removalPayload oid username)⟩
  | set {io session input oid username password body} :
      Sets io s.auth session input oid username password body →
      Sends D s (.credentialStore io session input) ⟨username, .set password,
        accountMessage (credentialPayload (some oid) username
          (makeCredential D io.made.kdf io.made.random password))⟩

/-- All a step does to the table and to what is on its way. -/
inductive AccountEffect (D : Digests) (s : Accounts) (l : AccountStep) (s' : Accounts) : Prop
  | silent (hnone : ∀ u, ¬Sends D s l u) (husers : s'.users = s.users) (hwire : s'.wire = s.wire)
      (haccepted : s'.accepted = s.accepted)
  | sent (u : AccountUpdate) (hsends : Sends D s l u) (honly : ∀ v, Sends D s l v → v = u)
      (husers : s'.users = s.users) (hwire : s'.wire = s.wire ++ [u])
      (haccepted : s'.accepted = if u.cause.asked then u :: s.accepted else s.accepted)
  | applied (io : Engined.StoreIO) (u : AccountUpdate) (rest : List AccountUpdate)
      (users : LocalUsers) (hlabel : l = .apply io) (hwire : s.wire = u :: rest)
      (hhandled : Engined.AdminService.handleEvent io u.message s.users = .ok users)
      (hafter : s' = { s with users, wire := rest })

variable {D : Digests} {s s' : Accounts} {l : AccountStep}

/-- A handler's step, by what it sends. -/
lemma effect_answer {auth : AuthService} {username : String} {cause : Cause} {out : Answer}
    (hsends : ∀ u, Sends D s l u ↔
      ∃ message, out.sent = some message ∧ u = ⟨username, cause, message⟩) :
    AccountEffect D s l (({ s with auth }).answer username cause out) := by
  rw [Accounts.answer]
  cases hsent : out.sent with
  | none =>
      refine .silent ?_ rfl rfl rfl
      intro u hu
      obtain ⟨message, hmessage, -⟩ := (hsends u).mp hu
      rw [hsent] at hmessage
      cases hmessage
  | some message =>
      refine .sent ⟨username, cause, message⟩ ((hsends _).mpr ⟨message, hsent, rfl⟩) ?_ rfl rfl rfl
      intro v hv
      obtain ⟨message', hmessage, rfl⟩ := (hsends v).mp hv
      rw [hsent] at hmessage
      cases hmessage
      rfl

/-- What a request of an admin names. -/
lemma adminCause_of_request {io : AdminIO} {auth : AuthService} {session : Bytes}
    {input : Option Json} {oid username : String} {remove : Bool} {body : Json}
    (h : AdminRequest io auth session input oid username remove body) :
    (input.getD .null).textOr "username" "" = username ∧ adminCause (input.getD .null) =
      if remove then .remove else .set (body.textOr "password" "") := by
  rw [h.posted, Option.getD_some]
  refine ⟨Json.textOr_of_valueString h.readUsername, ?_⟩
  rw [adminCause]
  rcases Json.valueBool_eq_ok h.readRemove with hfind | ⟨hfind, rfl⟩
  · cases remove <;> simp [hfind]
  · simp [hfind]

/-- **All a step does.** -/
theorem effect_of_next (h : (accounts D).next s l = some s') : AccountEffect D s l s' := by
  cases l with
  | login io made input =>
      rw [accounts] at h
      dsimp only [accountStep] at h
      cases h
      refine effect_answer fun u => ?_
      constructor
      · rintro ⟨hr⟩
        next username password row =>
          refine ⟨_, sent_login_iff.mpr ⟨username, password, row, hr, rfl⟩, ?_⟩
          rw [hr.posted, Option.getD_some]
      · rintro ⟨message, hsent, rfl⟩
        obtain ⟨username, password, row, hr, rfl⟩ := sent_login_iff.mp hsent
        rw [hr.posted, Option.getD_some]
        exact .signIn hr
  | changePassword io session input =>
      dsimp only [accounts, accountStep] at h
      cases h
      refine effect_answer fun u => ?_
      constructor
      · intro hu
        cases hu with
        | @change _ _ _ user oldPass newPass hc =>
            refine ⟨_, sent_changePassword_iff.mpr ⟨user, oldPass, newPass, hc, rfl⟩, ?_⟩
            rw [hc.posted, Option.getD_some, hc.sessionUser]
      · rintro ⟨message, hsent, rfl⟩
        obtain ⟨user, oldPass, newPass, hc, rfl⟩ := sent_changePassword_iff.mp hsent
        rw [hc.posted, Option.getD_some, hc.sessionUser]
        exact .change hc
  | credentialStore io session input =>
      dsimp only [accounts, accountStep] at h
      cases hstore : UserController.credentialStore D io s.users session input s.auth with
      | error e =>
          rw [hstore] at h
          cases h
      | ok out =>
          rw [hstore] at h
          cases h
          have hiff := @sent_credentialStore_iff D s.users s.auth io session input
          refine effect_answer fun u => ?_
          constructor
          · intro hu
            cases hu with
            | @remove _ _ _ oid username body hr =>
                obtain ⟨out', hout', hsent⟩ := hiff.mpr (.inl ⟨oid, username, body, hr, rfl⟩)
                cases hstore.symm.trans hout'
                obtain ⟨hname, hcause⟩ := adminCause_of_request hr.toAdminRequest
                exact ⟨_, hsent, by rw [hname, hcause]; rfl⟩
            | @set _ _ _ oid username password body hr =>
                obtain ⟨out', hout', hsent⟩ :=
                  hiff.mpr (.inr ⟨oid, username, password, body, hr, rfl⟩)
                cases hstore.symm.trans hout'
                obtain ⟨hname, hcause⟩ := adminCause_of_request hr.toAdminRequest
                rw [Json.textOr_of_valueString hr.readPassword] at hcause
                exact ⟨_, hsent, by rw [hname, hcause]; rfl⟩
          · rintro ⟨message, hsent, rfl⟩
            rcases hiff.mp ⟨out, hstore, hsent⟩ with
              ⟨oid, username, body, hr, rfl⟩ | ⟨oid, username, password, body, hr, rfl⟩
            · obtain ⟨hname, hcause⟩ := adminCause_of_request hr.toAdminRequest
              rw [hname, hcause]
              exact .remove hr
            · obtain ⟨hname, hcause⟩ := adminCause_of_request hr.toAdminRequest
              rw [Json.textOr_of_valueString hr.readPassword] at hcause
              rw [hname, hcause]
              exact .set hr
  | session step =>
      cases h
      exact .silent (fun u hu => by cases hu) rfl rfl rfl
  | apply io =>
      dsimp only [accounts, accountStep] at h
      cases hwire : s.wire with
      | nil =>
          rw [hwire] at h
          cases h
      | cons u rest =>
          rw [hwire] at h
          dsimp only at h
          cases hhandled : Engined.AdminService.handleEvent io u.message s.users with
          | error e =>
              rw [hhandled] at h
              cases h
          | ok users =>
              rw [hhandled] at h
              cases h
              exact .applied io u rest users rfl hwire hhandled rfl

/-! ### The messages on their way -/

/-- A credential that verifies exactly the passwords of a digest: it was made from
one of them. -/
def MadeOf (D : Digests) (password : String) (cred : Credential) : Prop :=
  ∃ (buf : Vector UInt8 16) (q : String),
    cred = ⟨hashPassword D true q (toHex buf.toList), toHex buf.toList⟩ ∧
      D.pbkdf2 q cred.salt 210000 = D.pbkdf2 password cred.salt 210000

/-- A message that carries a credential, -/
def AccountUpdate.Carries (u : AccountUpdate) (cred : Credential) : Prop :=
  ∃ oid, u.message = accountMessage (credentialPayload oid u.username cred)

/-- and one that takes the account away. -/
def AccountUpdate.Takes (u : AccountUpdate) : Prop :=
  ∃ oid, u.message = accountMessage (removalPayload oid u.username)

/-- A message as mgmtd sends them. An admin's request is taken though no
credential could be made for it. -/
def Shaped (D : Digests) (u : AccountUpdate) : Prop :=
  match u.cause with
  | .signIn password => ∃ cred, u.Carries cred ∧ MadeOf D password cred
  | .set password => u.username ≠ "" ∧ ∃ cred, u.Carries cred ∧ (cred = {} ∨ MadeOf D password cred)
  | .remove => u.username ≠ "" ∧ u.Takes

lemma madeOf_makeCredential {made : CredentialIO} {password : String} (h : made.Ready) :
    MadeOf D password (makeCredential D made.kdf made.random password) := by
  obtain ⟨hkdf, hrandom⟩ := h
  obtain ⟨buf, hbuf⟩ := Option.isSome_iff_exists.mp hrandom
  rw [hkdf, hbuf, makeCredential_some]
  exact ⟨buf, password, rfl, rfl⟩

/-- **What mgmtd sends has the shape.** -/
lemma shaped_of_sends {u : AccountUpdate} (h : Sends D s l u) : Shaped D u := by
  cases h with
  | signIn hr => exact ⟨_, ⟨none, rfl⟩, madeOf_makeCredential hr.ready⟩
  | change hc => exact ⟨hc.signedIn, _, ⟨none, rfl⟩, .inr (madeOf_makeCredential hc.ready)⟩
  | remove hr => exact ⟨hr.named.2, _, rfl⟩
  | @set io _ _ oid _ password _ hr =>
      refine ⟨hr.named.2, _, ⟨some oid, rfl⟩, ?_⟩
      by_cases hready : io.made.Ready
      · exact .inr (madeOf_makeCredential hready)
      · exact .inl (makeCredential_of_not_ready hready)

/-! ### What engined makes of them -/

/-- A message engined does not drop. -/
def AccountUpdate.writes (u : AccountUpdate) : Bool :=
  match u.cause, u.message.payload with
  | .remove, _ => true
  | _, .json body => u.username ≠ "" && body.textOr "password_hash" "" ≠ ""
  | _, _ => false

/-- The oid a new account gets. -/
def AccountUpdate.newOid (u : AccountUpdate) (io : Engined.StoreIO) : String :=
  match u.message.payload with
  | .json body => if cStr (body.textOr "oid" "") = "" then io.minted else cStr (body.textOr "oid" "")
  | _ => io.minted

variable {io : Engined.StoreIO} {t t' : LocalUsers} {u : AccountUpdate} {cred : Credential}

lemma handleEvent_takes (h : u.Takes) (hname : u.username ≠ "") :
    Engined.AdminService.handleEvent io u.message t =
      .ok (if io.done then LocalUsers.remove t u.name else t) := by
  obtain ⟨oid, hmessage⟩ := h
  have hread : (removalPayload oid u.username).valueString "username" "" = .ok u.username := rfl
  have hremove : (removalPayload oid u.username).valueBool "remove" false = .ok true := rfl
  rw [hmessage]
  change Engined.updatePassword io (removalPayload oid u.username) t = _
  rw [Engined.updatePassword, hread, hremove]
  simp [bind, Except.bind, pure, Except.pure, hname, AccountUpdate.name]

/-- What a credential's payload says, member by member. -/
lemma credentialPayload_members (oid : Option String) (username : String) (cred : Credential) :
    (credentialPayload oid username cred).valueString "username" "" = .ok username ∧
    (credentialPayload oid username cred).valueBool "remove" false = .ok false ∧
    (credentialPayload oid username cred).valueString "password_hash" "" = .ok cred.passwordHash ∧
    (credentialPayload oid username cred).valueString "salt" "" = .ok cred.salt ∧
    (credentialPayload oid username cred).valueString "oid" "" = .ok (oid.getD "") ∧
    (credentialPayload oid username cred).valueBool "must_change" false = .ok false := by
  cases oid <;> exact ⟨rfl, rfl, rfl, rfl, rfl, rfl⟩

/-- A credential is stored unless the message is dropped or the statement is
refused. -/
lemma handleEvent_carries (h : u.Carries cred) :
    Engined.AdminService.handleEvent io u.message t = .ok
      (if u.username = "" ∨ cred.passwordHash = "" ∨ cred.salt = "" ∨ io.done = false then t
      else LocalUsers.store t u.name (cStr cred.passwordHash) (cStr cred.salt) false
        (u.newOid io)) := by
  obtain ⟨oid, hmessage⟩ := h
  obtain ⟨hname, hremove, hhash, hsalt, hoid, hflag⟩ :=
    credentialPayload_members oid u.username cred
  have hnew : u.newOid io =
      if cStr (oid.getD "") = "" then io.minted else cStr (oid.getD "") := by
    rw [AccountUpdate.newOid, hmessage, accountMessage]
    dsimp only
    rw [Json.textOr_of_valueString hoid]
  rw [hnew, hmessage]
  change Engined.updatePassword io (credentialPayload oid u.username cred) t = _
  rw [Engined.updatePassword, hname, hremove, hhash, hsalt, hoid, hflag]
  by_cases hu : u.username = ""
  · simp [bind, Except.bind, pure, Except.pure, hu]
  · by_cases hcred : cred.passwordHash = "" ∨ cred.salt = ""
    · simp [bind, Except.bind, pure, Except.pure, hu, hcred, ← or_assoc]
    · simp only [not_or] at hcred
      cases hdone : io.done <;>
        simp [bind, Except.bind, pure, Except.pure, hu, hcred, AccountUpdate.name]

lemma writes_of_remove (h : u.cause = .remove) : u.writes = true := by
  rw [AccountUpdate.writes, h]

lemma writes_carries (hcarries : u.Carries cred) (hcause : u.cause ≠ .remove) :
    u.writes = true ↔ u.username ≠ "" ∧ cred.passwordHash ≠ "" := by
  obtain ⟨oid, hmessage⟩ := hcarries
  have hhash := Json.textOr_of_valueString (credentialPayload_members oid u.username cred).2.2.1
  rw [AccountUpdate.writes, hmessage, accountMessage]
  cases hc : u.cause with
  | remove => exact absurd hc hcause
  | signIn password => simp [hhash]
  | set password => simp [hhash]

lemma MadeOf.passwordHash_ne_empty {password : String} (h : MadeOf D password cred) :
    cred.passwordHash ≠ "" := by
  obtain ⟨buf, q, rfl, -⟩ := h
  exact hashPassword_true_ne_empty

lemma Cause.ne_remove {c : Cause} {password : String}
    (h : c = .signIn password ∨ c = .set password) : c ≠ .remove := by
  rintro rfl
  rcases h with h | h <;> cases h

/-- All a message does to the table. -/
inductive Handled (D : Digests) (io : Engined.StoreIO) (u : AccountUpdate) (t t' : LocalUsers) :
    Prop
  | refused (hdone : io.done = false) (hsame : t' = t)
  | dropped (hwrites : u.writes = false) (hsame : t' = t)
  | removed (hdone : io.done = true) (hcause : u.cause = .remove)
      (hafter : t' = LocalUsers.remove t u.name)
  | stored (password : String) (cred : Credential) (hdone : io.done = true)
      (hcause : u.cause = .signIn password ∨ u.cause = .set password) (hwrites : u.writes = true)
      (hcarries : u.Carries cred) (hmade : MadeOf D password cred)
      (hafter : t' = LocalUsers.store t u.name cred.passwordHash cred.salt false (u.newOid io))

/-- A credential that was made is stored as it is. -/
lemma handled_of_made {password : String} (hcarries : u.Carries cred)
    (hmade : MadeOf D password cred) (hcause : u.cause = .signIn password ∨ u.cause = .set password)
    (h : Engined.AdminService.handleEvent io u.message t = .ok t') : Handled D io u t t' := by
  have hwrites : u.writes = true ↔ u.username ≠ "" ∧ cred.passwordHash ≠ "" :=
    writes_carries hcarries (Cause.ne_remove hcause)
  rw [handleEvent_carries hcarries] at h
  cases h
  cases hdone : io.done with
  | false => exact .refused hdone (by simp)
  | true =>
      by_cases hname : u.username = ""
      · exact .dropped (by simpa [hname] using hwrites) (by simp [hname])
      · refine .stored password cred hdone hcause (hwrites.mpr ⟨hname, ?_⟩) hcarries hmade ?_
        · exact hmade.passwordHash_ne_empty
        obtain ⟨buf, q, rfl, -⟩ := hmade
        have hsalt : toHex buf.toList ≠ "" := toHex_vector_ne_empty (n := 15) buf
        rw [cStr_eq_self nul_notMem_hashPassword, cStr_eq_self nul_notMem_toHex]
        simp [hname, hashPassword_true_ne_empty, hsalt]

/-- **All a message of mgmtd does to the table.** -/
theorem handled_of_shaped (hshaped : Shaped D u)
    (h : Engined.AdminService.handleEvent io u.message t = .ok t') : Handled D io u t t' := by
  rw [Shaped] at hshaped
  cases hcause : u.cause with
  | signIn password =>
      rw [hcause] at hshaped
      obtain ⟨cred, hcarries, hmade⟩ := hshaped
      exact handled_of_made hcarries hmade (.inl hcause) h
  | set password =>
      rw [hcause] at hshaped
      obtain ⟨-, cred, hcarries, rfl | hmade⟩ := hshaped
      · have hwrites := writes_carries hcarries (Cause.ne_remove (.inr hcause))
        refine .dropped (by simpa using hwrites) ?_
        rw [handleEvent_carries hcarries] at h
        cases h
        simp
      · exact handled_of_made hcarries hmade (.inr hcause) h
  | remove =>
      rw [hcause] at hshaped
      rw [handleEvent_takes hshaped.2 hshaped.1] at h
      cases h
      cases hdone : io.done with
      | false => exact .refused hdone (by simp)
      | true => exact .removed hdone hcause (by simp)

/-- Every message on its way has the shape mgmtd gives it. -/
def AllShaped (D : Digests) (s : Accounts) : Prop := ∀ u ∈ s.wire, Shaped D u

lemma allShaped_init (h : (accounts D).init s) : AllShaped D s := by
  intro u hu
  rw [h.1] at hu
  cases hu

lemma AllShaped.step (hs : AllShaped D s) (h : (accounts D).next s l = some s') :
    AllShaped D s' := by
  intro u hu
  cases effect_of_next h with
  | silent hnone husers hwire haccepted => exact hs u (hwire ▸ hu)
  | sent v hsends honly husers hwire haccepted =>
      rw [hwire, List.mem_append, List.mem_singleton] at hu
      rcases hu with hu | rfl
      · exact hs u hu
      · exact shaped_of_sends hsends
  | applied io v rest users hlabel hwire hhandled hafter =>
      rw [hafter] at hu
      exact hs u (hwire ▸ List.mem_cons_of_mem v hu)

/-! ### The table is never empty -/

/-- An account of the table that no removal on its way is of. -/
def Kept (s : Accounts) (name : String) : Prop :=
  (LocalUsers.account? s.users name).isSome = true ∧
    ∀ u ∈ s.wire, u.cause = .remove → u.name ≠ name

/-- A removal that is sent leaves an account which no removal on its way is of. -/
def LeavesOne (D : Digests) (s : Accounts) (l : AccountStep) : Prop :=
  ∀ u, Sends D s l u → u.cause = .remove → ∃ name, Kept s name ∧ name ≠ u.name

lemma exists_account? (h : t.rows ≠ []) : ∃ name, (LocalUsers.account? t name).isSome = true := by
  obtain ⟨u, hu⟩ := List.exists_mem_of_ne_nil _ h
  exact ⟨u.username, Option.isSome_iff_exists.mpr ⟨u, LocalUsers.account?_eq_some.mpr ⟨hu, rfl⟩⟩⟩

lemma ne_nil_of_account? {name : String} (h : (LocalUsers.account? t name).isSome = true) :
    t.rows ≠ [] := by
  obtain ⟨u, hu⟩ := Option.isSome_iff_exists.mp h
  exact List.ne_nil_of_mem (LocalUsers.account?_eq_some.mp hu).1

/-- Only its own removal takes an account away. -/
lemma isSome_handled {name : String} (h : Handled D io u t t')
    (hother : u.cause = .remove → u.name ≠ name)
    (hsome : (LocalUsers.account? t name).isSome = true) :
    (LocalUsers.account? t' name).isSome = true := by
  cases h with
  | refused hdone hsame => rwa [hsame]
  | dropped hwrites hsame => rwa [hsame]
  | removed hdone hcause hafter =>
      rwa [hafter, LocalUsers.account?_remove_of_ne (hother hcause).symm]
  | stored password cred hdone hcause hwrites hcarries hmade hafter =>
      by_cases hsame : name = u.name
      · obtain ⟨row, hrow⟩ := Option.isSome_iff_exists.mp hsome
        rw [hafter, hsame, LocalUsers.account?_store_of_some (hsame ▸ hrow)]
        rfl
      · rwa [hafter, LocalUsers.account?_store_of_ne hsame]

lemma kept_step (hs : AllShaped D s) (hkept : ∃ name, Kept s name) (hok : LeavesOne D s l)
    (h : (accounts D).next s l = some s') : ∃ name, Kept s' name := by
  cases effect_of_next h with
  | silent hnone husers hwire haccepted =>
      obtain ⟨name, hsome, hnot⟩ := hkept
      exact ⟨name, husers ▸ hsome, hwire ▸ hnot⟩
  | sent u hsends honly husers hwire haccepted =>
      have hadd : ∀ name, Kept s name → (u.cause = .remove → u.name ≠ name) → Kept s' name := by
        rintro name ⟨hsome, hnot⟩ hother
        refine ⟨husers ▸ hsome, ?_⟩
        rw [hwire]
        intro v hv hcause
        rw [List.mem_append, List.mem_singleton] at hv
        rcases hv with hv | rfl
        · exact hnot v hv hcause
        · exact hother hcause
      by_cases hcause : u.cause = .remove
      · obtain ⟨name, hname, hne⟩ := hok u hsends hcause
        exact ⟨name, hadd name hname fun _ => hne.symm⟩
      · obtain ⟨name, hname⟩ := hkept
        exact ⟨name, hadd name hname fun h => absurd h hcause⟩
  | applied io u rest users hlabel hwire hhandled hafter =>
      obtain ⟨name, hsome, hnot⟩ := hkept
      rw [hwire] at hnot
      have hmem : u ∈ s.wire := hwire ▸ List.mem_cons_self
      have hone := handled_of_shaped (hs u hmem) hhandled
      rw [hafter]
      exact ⟨name, isSome_handled hone (hnot u List.mem_cons_self) hsome,
        fun v hv => hnot v (List.mem_cons_of_mem u hv)⟩

/-- **The table is never empty** in a run whose removals each leave an account
that no removal on its way is of. -/
theorem accounts_remain {tr : List (Accounts × AccountStep)} (h0 : (accounts D).init s)
    (hsome : s.users.rows ≠ []) (hrun : (accounts D).Run s tr s')
    (hok : ∀ p ∈ tr, LeavesOne D p.1 p.2) : s'.users.rows ≠ [] := by
  have hstart : AllShaped D s ∧ ∃ name, Kept s name := by
    obtain ⟨name, hname⟩ := exists_account? hsome
    refine ⟨allShaped_init h0, name, hname, ?_⟩
    rw [h0.1]
    intro u hu
    cases hu
  have hstep : ∀ t l t', (AllShaped D t ∧ ∃ name, Kept t name) → LeavesOne D t l →
      (accounts D).next t l = some t' → AllShaped D t' ∧ ∃ name, Kept t' name :=
    fun t l t' ht hl h => ⟨ht.1.step h, kept_step ht.1 ht.2 hl h⟩
  obtain ⟨-, name, hname⟩ := hrun.invariant_of_forall
    (I := fun t => AllShaped D t ∧ ∃ name, Kept t name) hstart hstep hok
  exact ne_nil_of_account? hname.1

/-! ### A removal that leaves none -/

/-- The database carries the statement out. -/
def carriedOut : AccountStep := .apply ⟨true, ""⟩

/-- Removals that are carried out leave the accounts that none of them is of. -/
lemma exec_removals (hwire : ∀ u ∈ s.wire, u.cause = .remove) (hs : AllShaped D s) :
    ∃ s', (accounts D).exec s (List.replicate s.wire.length carriedOut) = some s' ∧
      ∀ row, row ∈ s'.users.rows ↔ row ∈ s.users.rows ∧ ∀ u ∈ s.wire, u.name ≠ row.username := by
  generalize hlist : s.wire = updates at hwire
  induction updates generalizing s with
  | nil => exact ⟨s, rfl, by simp⟩
  | cons u rest ih =>
      have hshaped : Shaped D u := hs u (hlist ▸ List.mem_cons_self)
      have hcause := hwire u List.mem_cons_self
      rw [Shaped, hcause] at hshaped
      have hnext : (accounts D).next s carriedOut =
          some { s with users := LocalUsers.remove s.users u.name, wire := rest } := by
        dsimp only [accounts, carriedOut, accountStep]
        rw [hlist]
        dsimp only
        rw [handleEvent_takes hshaped.2 hshaped.1]
        rfl
      let t : Accounts := { s with users := LocalUsers.remove s.users u.name, wire := rest }
      have ht : AllShaped D t := fun v hv => hs v (hlist ▸ List.mem_cons_of_mem u hv)
      have hrest : ∀ v ∈ rest, v.cause = .remove := fun v hv => hwire v (List.mem_cons_of_mem u hv)
      obtain ⟨s', hexec, hrows⟩ := ih (s := t) ht rfl hrest
      refine ⟨s', ?_, ?_⟩
      · rw [List.length_cons, List.replicate_succ, Machine.exec, hnext]
        exact hexec
      · intro row
        rw [hrows, LocalUsers.mem_remove, List.forall_mem_cons, and_assoc]
        exact and_congr_right fun _ => and_congr_left fun _ => ne_comm

/-- **A removal that leaves none empties the table**, where only removals are on
their way and the database carries them out. -/
theorem emptied_of_not_leavesOne (hwire : ∀ u ∈ s.wire, u.cause = .remove) (hs : AllShaped D s)
    (h : (accounts D).next s l = some s') (hnot : ¬LeavesOne D s l) :
    ∃ s'', (accounts D).exec s' (List.replicate s'.wire.length carriedOut) = some s'' ∧
      s''.users.rows = [] := by
  simp only [LeavesOne, not_forall, not_exists, not_and, not_not] at hnot
  obtain ⟨u, hsends, hcause, hall⟩ := hnot
  cases effect_of_next h with
  | silent hnone husers hwire' haccepted => exact absurd hsends (hnone u)
  | applied io v rest users hlabel hwire' hhandled hafter =>
      rw [hlabel] at hsends
      cases hsends
  | sent v hv honly husers hwire' haccepted =>
      obtain rfl := honly u hsends
      have hremovals : ∀ w ∈ s'.wire, w.cause = .remove := by
        rw [hwire']
        intro w hw
        rw [List.mem_append, List.mem_singleton] at hw
        rcases hw with hw | rfl
        · exact hwire w hw
        · exact hcause
      obtain ⟨s'', hexec, hrows⟩ := exec_removals hremovals (hs.step h)
      refine ⟨s'', hexec, List.eq_nil_iff_forall_not_mem.mpr fun row hrow => ?_⟩
      obtain ⟨hrow, hnone⟩ := (hrows row).mp hrow
      rw [hwire'] at hnone
      rw [husers] at hrow
      have hkept : Kept s row.username := by
        refine ⟨Option.isSome_iff_exists.mpr
          ⟨row, LocalUsers.account?_eq_some.mpr ⟨hrow, rfl⟩⟩, ?_⟩
        intro w hw _
        exact hnone w (List.mem_append_left _ hw)
      exact hnone u (by simp) (hall row.username hkept).symm

/-- A request to remove an account, or a statement that is carried out. -/
def AccountStep.Removing : AccountStep → Prop
  | .credentialStore _ _ (some body) => body.find? "remove" = some (.bool true)
  | .apply io => io.done = true
  | _ => False

namespace TwoAdmins

/-- Digests that tell nothing apart. -/
def digests : Digests := ⟨fun _ _ _ => Vector.replicate 32 0, fun _ => Vector.replicate 32 0⟩

/-- Two accounts. -/
def rows : List LocalUser :=
  [{ username := "anna", oid := "1", passwordHash := "x", salt := "s", mustChange := false },
    { username := "ben", oid := "2", passwordHash := "x", salt := "s", mustChange := false }]

lemma rows_keys : (rows.map LocalUser.username).Nodup := by decide

lemma rows_attrs : ∀ q ∈ rows, ∀ r ∈ rows, r.uniqueOid ≠ none → q.uniqueOid = r.uniqueOid →
    q = r := by decide

/-- Both are signed in, and are admins. -/
def start : Accounts where
  users := ⟨rows, rows_keys, rows_attrs⟩
  auth :=
    { sessions := AList.insert [97] { expiresAt := 100, username := "anna", role := "admin" }
        (AList.insert [98] { expiresAt := 100, username := "ben", role := "admin" } ∅) }

/-- A request to remove an account. -/
def removal (session : Bytes) (oid username : String) : AccountStep :=
  .credentialStore ⟨0, 0, true, ⟨true, none⟩⟩ session (some (removalPayload oid username))

end TwoAdmins

open TwoAdmins in
/-- **Two admins remove each other**, and nobody is left. -/
theorem locked_out : ¬ ∀ (s : Accounts) (tr : List (Accounts × AccountStep)) (s' : Accounts),
    (accounts digests).init s → s.users.rows ≠ [] → (accounts digests).Run s tr s' →
    (∀ p ∈ tr, p.2.Removing) → s'.users.rows ≠ [] := by
  intro hall
  have hexec : ((accounts digests).exec start [removal [97] "2" "ben", removal [98] "1" "anna",
      carriedOut, carriedOut]).map (fun s => s.users.rows) = some [] := by decide +kernel
  obtain ⟨s', hs', hrows⟩ := Option.map_eq_some_iff.mp hexec
  have hsome : start.users.rows ≠ [] := by decide
  refine hall start _ s' ⟨rfl, rfl⟩ hsome (Machine.exec_run hs') ?_ hrows
  intro p hp
  have hlabel := Machine.label_of_mem_trace hp
  simp only [List.mem_cons, List.not_mem_nil, or_false] at hlabel
  rcases hlabel with h | h | h | h <;> rw [h] <;> rfl

open TwoAdmins in
/-- Where only one of them does, the other is left. -/
theorem accounts_remain_one : ∃ s', (accounts digests).exec start
    [removal [97] "2" "ben", carriedOut] = some s' ∧ s'.users.rows ≠ [] := by
  have hexec : ((accounts digests).exec start [removal [97] "2" "ben", carriedOut]).isSome
      = true := by decide +kernel
  obtain ⟨s', hs'⟩ := Option.isSome_iff_exists.mp hexec
  refine ⟨s', hs', accounts_remain ⟨rfl, rfl⟩ (by decide) (Machine.exec_run hs') ?_⟩
  intro p hp u hsends hcause
  rw [Machine.trace] at hp
  split at hp
  · cases hp
  · rcases List.mem_cons.mp hp with rfl | hp
    · -- the request: anna's account is left
      refine ⟨"anna", ⟨by decide, fun v hv => by cases hv⟩, ?_⟩
      cases hsends with
      | remove hr =>
          obtain rfl := Option.some.inj hr.posted
          obtain rfl := Except.ok.inj hr.readUsername
          change "anna" ≠ cStr "ben"
          decide
      | set hr => cases hcause
    · have hlabel := List.mem_singleton.mp (Machine.label_of_mem_trace hp)
      rw [hlabel] at hsends
      cases hsends

end Pretzel.Fleet
