import Pretzel.Fleet.Accounts

/-!
The last request about an account, against the sign-ins around it.

* `InForce`: an account as the last request about it left it: the password set,
  or none. Where there was none, it is as it was, or its credential was made
  again from a password it verified.
* `Fits`: a credential that keeps the account so.
* `Ends`: what the messages on their way will make of an account.
* `InTurn`: a sign-in stores no credential behind a request of another password,
  a password that is taken is stored, and a new account has an oid of its own.
* **`last_request_in_force`**: in a run whose steps are in turn and whose
  statements are carried out, the last request taken about every account is in
  force when nothing is on its way.
-/

namespace Pretzel.Fleet

open Reactive Nlohmann Ipc Config Util Mgmtd

/-! ### What is in force -/

/-- The last request taken about an account. -/
def lastAccepted (s : Accounts) (name : String) : Option Cause :=
  (s.accepted.find? fun u => u.name = name).map AccountUpdate.cause

/-- The last request on its way about an account. -/
def lastOnWay (name : String) (wire : List AccountUpdate) : Option AccountUpdate :=
  wire.reverse.find? fun u => u.name = name && u.cause.asked

/-- A row that verifies exactly the passwords of a digest. -/
def VerifiesExactly (D : Digests) (password : String) (row : LocalUser) : Prop :=
  ∀ q, verifyPassword D true q row.salt row.passwordHash = true ↔
    D.pbkdf2 q row.salt 210000 = D.pbkdf2 password row.salt 210000

/-- A row whose credential was made from a password of the digest. -/
def RowMade (D : Digests) (password : String) (row : LocalUser) : Prop :=
  MadeOf D password ⟨row.passwordHash, row.salt⟩

/-- An account as the last request about it left it. `made` says that a row has
the password given, and `before` is the row at the start. -/
def InForce (D : Digests) (made : String → LocalUser → Prop) (before : Option LocalUser)
    (asked : Option Cause) (row : Option LocalUser) : Prop :=
  match asked, before with
  | some (.set password), _ => ∃ r, row = some r ∧ made password r
  | some .remove, _ => row = none
  | some (.signIn _), _ => False
  | none, none => row = none
  | none, some r₀ => ∃ r, row = some r ∧ (r = r₀ ∨
      ∃ password, verifyPassword D true password r₀.salt r₀.passwordHash = true ∧ made password r)

/-- A message whose credential verifies exactly the passwords of the digest. -/
def AccountUpdate.Proves (D : Digests) (u : AccountUpdate) (password : String) : Prop :=
  ∃ cred, u.Carries cred ∧ MadeOf D password cred

/-- A credential of a sign-in that keeps what is in force. -/
def Fits (D : Digests) (before : Option LocalUser) (asked : Option Cause) (u : AccountUpdate) :
    Prop :=
  match asked with
  | some (.set password) => u.Proves D password
  | some _ => False
  | none => ∃ r₀ password, before = some r₀ ∧
      verifyPassword D true password r₀.salt r₀.passwordHash = true ∧ u.Proves D password

/-! ### What the messages on their way will make of it -/

/-- What will be in force of an account when the messages are taken: what is now,
and what each of them keeps or brings. -/
def Ends (D : Digests) (before : Option LocalUser) (asked : Option Cause) (name : String) :
    List AccountUpdate → Prop → Prop
  | [], now => now
  | u :: wire, now =>
      Ends D before asked name wire
        (if u.name = name ∧ u.writes = true then
          if u.cause.asked then asked = some u.cause else now ∧ Fits D before asked u
        else now)

variable {D : Digests} {before : Option LocalUser} {asked : Option Cause} {name : String}
  {wire : List AccountUpdate} {P Q : Prop} {s s' : Accounts} {l : AccountStep}
  {u : AccountUpdate} {row : LocalUser} {password : String}

lemma Ends.mono (h : Ends D before asked name wire P) (hPQ : P → Q) :
    Ends D before asked name wire Q := by
  induction wire generalizing P Q with
  | nil => exact hPQ h
  | cons u wire ih =>
      rw [Ends] at h ⊢
      refine ih h ?_
      split
      · split
        · exact id
        · exact And.imp_left hPQ
      · exact hPQ

lemma ends_append : Ends D before asked name (wire ++ [u]) P ↔
    if u.name = name ∧ u.writes = true then
      if u.cause.asked then asked = some u.cause
      else Ends D before asked name wire P ∧ Fits D before asked u
    else Ends D before asked name wire P := by
  induction wire generalizing P with
  | nil => rfl
  | cons v wire ih =>
      rw [List.cons_append, Ends, ih]
      rfl

lemma lastOnWay_append : lastOnWay name (wire ++ [u]) =
    if u.name = name ∧ u.cause.asked = true then some u else lastOnWay name wire := by
  rw [lastOnWay, List.reverse_append, List.reverse_singleton, List.singleton_append]
  split
  · next h =>
      rw [List.find?_cons_of_pos]
      simpa using h
  · next h =>
      rw [List.find?_cons_of_neg]
      · rfl
      · simpa using h

/-- Where a request is on its way, what is in force now does not matter. -/
lemma Ends.of_asked (h : Ends D before asked name wire P)
    (hwire : ∃ v ∈ wire, v.name = name ∧ v.writes = true ∧ v.cause.asked = true) :
    Ends D before asked name wire Q := by
  induction wire generalizing P Q with
  | nil =>
      obtain ⟨v, hv, -⟩ := hwire
      cases hv
  | cons u wire ih =>
      rw [Ends] at h ⊢
      by_cases hu : (u.name = name ∧ u.writes = true) ∧ u.cause.asked = true
      · rw [if_pos hu.1, if_pos hu.2] at h ⊢
        exact h
      · obtain ⟨v, hv, hname, hwrites, hasked⟩ := hwire
        rcases List.mem_cons.mp hv with rfl | hv
        · exact absurd ⟨⟨hname, hwrites⟩, hasked⟩ hu
        · exact ih h ⟨v, hv, hname, hwrites, hasked⟩

/-- The last request on its way is the last one taken, -/
lemma Ends.asked_eq {v : AccountUpdate} (h : Ends D before asked name wire P)
    (hwrites : ∀ u ∈ wire, u.cause.asked = true → u.writes = true)
    (hv : lastOnWay name wire = some v) : asked = some v.cause := by
  induction wire using List.reverseRecOn with
  | nil => cases hv
  | append_singleton wire u ih =>
      rw [lastOnWay_append] at hv
      rw [ends_append] at h
      have hrest : ∀ u ∈ wire, u.cause.asked = true → u.writes = true :=
        fun w hw => hwrites w (List.mem_append_left _ hw)
      by_cases hlast : u.name = name ∧ u.cause.asked = true
      · rw [if_pos hlast] at hv
        cases hv
        rwa [if_pos ⟨hlast.1, hwrites v (by simp) hlast.2⟩, if_pos hlast.2] at h
      · rw [if_neg hlast] at hv
        split at h
        · next hu =>
            rw [if_neg fun hasked => hlast ⟨hu.1, hasked⟩] at h
            exact ih h.1 hrest hv
        · exact ih h hrest hv

/-- and where there is none, what is in force stays so. -/
lemma Ends.now (h : Ends D before asked name wire P) (hnone : lastOnWay name wire = none) : P := by
  induction wire using List.reverseRecOn with
  | nil => exact h
  | append_singleton wire u ih =>
      rw [lastOnWay_append] at hnone
      rw [ends_append] at h
      split at hnone
      · cases hnone
      · next hlast =>
          split at h
          · next hu =>
              rw [if_neg fun hasked => hlast ⟨hu.1, hasked⟩] at h
              exact ih h.1 hnone
          · exact ih h hnone

/-! ### Steps in turn -/

/-- A step in turn: a sign-in stores a credential again behind no request about the
account, or behind one that sets its very password; a request that is taken is
carried out; and the row of a new account is not refused over its oid, unless
another request about it follows. -/
structure InTurn (D : Digests) (s : Accounts) (l : AccountStep) : Prop where
  signIn : ∀ u password, Sends D s l u → u.cause = .signIn password → u.writes = true →
    ∀ v, lastOnWay u.name s.wire = some v → ∃ q, v.cause = .set q ∧ u.Proves D q
  taken : ∀ u, Sends D s l u → u.cause.asked = true → u.writes = true
  free : ∀ io u rest password, l = .apply io → s.wire = u :: rest → u.cause = .set password →
    lastOnWay u.name rest = none →
    (LocalUsers.account? s.users u.name).isSome = true ∨
      LocalUsers.OidFree s.users (u.newOid io)

/-- The database carries out the statement of the step. -/
def AccountStep.Done : AccountStep → Prop
  | .apply io => io.done = true
  | _ => True

/-- What is promised of every account. -/
structure Promised (D : Digests) (start : LocalUsers) (s : Accounts) : Prop where
  shaped : AllShaped D s
  writes : ∀ u ∈ s.wire, u.cause.asked = true → u.writes = true
  ends : ∀ name, Ends D (LocalUsers.account? start name) (lastAccepted s name) name s.wire
    (InForce D (RowMade D) (LocalUsers.account? start name) (lastAccepted s name)
      (LocalUsers.account? s.users name))

lemma RowMade.needsRehash (h : RowMade D password row) : needsRehash row.passwordHash = false := by
  obtain ⟨buf, q, hcred, -⟩ := h
  rw [(Credential.mk.inj hcred).1]
  exact needsRehash_hashPassword

lemma RowMade.verifiesExactly (h : RowMade D password row) : VerifiesExactly D password row := by
  obtain ⟨buf, q, hcred, hdigest⟩ := h
  obtain ⟨hhash, hsalt⟩ := Credential.mk.inj hcred
  intro attempt
  dsimp only at hdigest
  rw [hhash, hsalt, verifyPassword_hashPassword, ← hsalt, hdigest]

lemma InForce.imp {made made' : String → LocalUser → Prop} {current : Option LocalUser}
    (h : InForce D made before asked current) (himp : ∀ p r, made p r → made' p r) :
    InForce D made' before asked current := by
  cases asked with
  | some cause =>
      cases cause with
      | signIn password => exact h.elim
      | set password =>
          obtain ⟨r, hr, hmade⟩ := h
          exact ⟨r, hr, himp _ _ hmade⟩
      | remove => exact h
  | none =>
      cases before with
      | none => exact h
      | some r₀ =>
          obtain ⟨r, hr, hsame | ⟨password, hverify, hmade⟩⟩ := h
          · exact ⟨r, hr, .inl hsame⟩
          · exact ⟨r, hr, .inr ⟨password, hverify, himp _ _ hmade⟩⟩

lemma carries_unique {cred cred' : Credential} (h : u.Carries cred) (h' : u.Carries cred') :
    cred = cred' := by
  obtain ⟨oid, hmessage⟩ := h
  obtain ⟨oid', hmessage'⟩ := h'
  have hpayload : credentialPayload oid u.username cred = credentialPayload oid' u.username cred' :=
    Payload.json.inj (congrArg IpcMessage.payload (hmessage.symm.trans hmessage'))
  obtain ⟨-, -, hhash, hsalt, -⟩ := credentialPayload_members oid u.username cred
  obtain ⟨-, -, hhash', hsalt', -⟩ := credentialPayload_members oid' u.username cred'
  rw [hpayload] at hhash hsalt
  have hsame : cred.passwordHash = cred'.passwordHash := Except.ok.inj (hhash.symm.trans hhash')
  have hsame' : cred.salt = cred'.salt := Except.ok.inj (hsalt.symm.trans hsalt')
  obtain ⟨hash, salt⟩ := cred
  rw [Credential.mk.injEq]
  exact ⟨hsame, hsame'⟩

/-- A verification needs the digest. -/
lemma verifyPassword_kdf {kdf : Bool} {attempt salt stored : String}
    (h : verifyPassword D kdf attempt salt stored = true) :
    verifyPassword D true attempt salt stored = true := by
  cases kdf with
  | true => exact h
  | false =>
      rw [verifyPassword] at h
      split at h
      · cases h
      · split at h
        · next iterations expected hparse =>
            rw [pbkdf2Hex] at h
            split at h <;> simp at h
        · simp [legacySha256Hex] at h

/-- A password that an outdated row verifies fits what is in force. -/
lemma fits_of_outdated (hnow : InForce D (RowMade D) before asked (some row))
    (hold : needsRehash row.passwordHash = true)
    (hverify : verifyPassword D true password row.salt row.passwordHash = true)
    (hproves : u.Proves D password) : Fits D before asked u := by
  -- a row that was made here is not outdated
  have hmade : ∀ q, ¬RowMade D q row := by
    intro q hq
    rw [hq.needsRehash] at hold
    cases hold
  cases asked with
  | some cause =>
      cases cause with
      | signIn q => exact hnow
      | set q =>
          obtain ⟨r, hr, hq⟩ := hnow
          cases hr
          exact absurd hq (hmade q)
      | remove => cases hnow
  | none =>
      cases before with
      | none => cases hnow
      | some r₀ =>
          obtain ⟨r, hr, hsame | ⟨q, -, hq⟩⟩ := hnow
          · cases hr
            subst hsame
            exact ⟨row, password, rfl, hverify, hproves⟩
          · cases hr
            exact absurd hq (hmade q)

/-- **What a sign-in sends in turn keeps what is in force.** -/
lemma fits_of_signIn {start : LocalUsers} (hs : Promised D start s) (hturn : InTurn D s l)
    (hsends : Sends D s l u) (hcause : u.cause = .signIn password) (hwrites : u.writes = true) :
    Fits D (LocalUsers.account? start u.name) (lastAccepted s u.name) u := by
  cases hlast : lastOnWay u.name s.wire with
  | some v =>
      obtain ⟨q, hset, hproves⟩ := hturn.signIn u password hsends hcause hwrites v hlast
      rw [(hs.ends u.name).asked_eq hs.writes hlast, hset]
      exact hproves
  | none =>
      have hnow := (hs.ends u.name).now hlast
      cases hsends with
      | signIn hr =>
          rw [AccountUpdate.name, hr.account] at hnow
          exact fits_of_outdated hnow hr.outdated (verifyPassword_kdf hr.verifies)
            ⟨_, ⟨none, rfl⟩, madeOf_makeCredential hr.ready⟩
      | change hc => cases hcause
      | remove hr => cases hcause
      | set hr => cases hcause

/-- What is in force after a credential that fits is stored. -/
lemma inForce_store {t : LocalUsers} {cred : Credential} {oid : String}
    (hnow : InForce D (RowMade D) before asked (LocalUsers.account? t name))
    (hfits : Fits D before asked u) (hcarries : u.Carries cred) :
    InForce D (RowMade D) before asked (LocalUsers.account?
      (LocalUsers.store t name cred.passwordHash cred.salt false oid) name) := by
  have hproves : ∀ q, u.Proves D q → ∀ r : LocalUser, LocalUsers.account? t name = some r →
      ∃ r', LocalUsers.account? (LocalUsers.store t name cred.passwordHash cred.salt false oid) name
        = some r' ∧ RowMade D q r' := by
    rintro q ⟨cred', hcarries', hmade⟩ r hr
    obtain rfl := carries_unique hcarries hcarries'
    exact ⟨_, LocalUsers.account?_store_of_some hr, hmade⟩
  cases asked with
  | some cause =>
      cases cause with
      | signIn q => exact hfits
      | set q =>
          obtain ⟨r, hr, -⟩ := hnow
          exact hproves q hfits r hr
      | remove => exact hfits.elim
  | none =>
      obtain ⟨r₀, q, rfl, hverify, hq⟩ := hfits
      obtain ⟨r, hr, -⟩ := hnow
      obtain ⟨r', hr', hmade⟩ := hproves q hq r hr
      exact ⟨r', hr', .inr ⟨q, hverify, hmade⟩⟩

lemma lastAccepted_eq (haccepted : s'.accepted = if u.cause.asked then u :: s.accepted
    else s.accepted) : lastAccepted s' name =
      if u.name = name ∧ u.cause.asked = true then some u.cause else lastAccepted s name := by
  rw [lastAccepted, haccepted]
  by_cases hasked : u.cause.asked = true
  · rw [if_pos hasked]
    by_cases hname : u.name = name
    · rw [List.find?_cons_of_pos (by simpa using hname), if_pos ⟨hname, hasked⟩]
      rfl
    · rw [List.find?_cons_of_neg (by simpa using hname), if_neg fun h => hname h.1]
      rfl
  · rw [if_neg hasked, if_neg fun h => hasked h.2]
    rfl

/-- A message that is sent keeps the promises. -/
lemma Promised.sent {start : LocalUsers} (hs : Promised D start s) (hturn : InTurn D s l)
    (hnext : (accounts D).next s l = some s') (hsends : Sends D s l u)
    (husers : s'.users = s.users) (hwire : s'.wire = s.wire ++ [u])
    (haccepted : s'.accepted = if u.cause.asked then u :: s.accepted else s.accepted) :
    Promised D start s' := by
  refine ⟨hs.shaped.step hnext, ?_, ?_⟩
  · rw [hwire]
    intro v hv hasked
    rcases List.mem_append.mp hv with hv | hv
    · exact hs.writes v hv hasked
    · obtain rfl := List.mem_singleton.mp hv
      exact hturn.taken v hsends hasked
  · intro name
    have hlast : lastAccepted s' name = if u.name = name ∧ u.cause.asked = true then some u.cause
      else lastAccepted s name := lastAccepted_eq haccepted
    rw [hwire, husers, ends_append]
    by_cases hname : u.name = name
    · subst hname
      by_cases hasked : u.cause.asked = true
      · rw [if_pos ⟨rfl, hturn.taken u hsends hasked⟩, if_pos hasked, hlast, if_pos ⟨rfl, hasked⟩]
      · have hsame : lastAccepted s' u.name = lastAccepted s u.name :=
          hlast.trans (if_neg fun h => hasked h.2)
        rw [hsame]
        split
        · next hwrites =>
            cases hcause : u.cause with
            | signIn password =>
                exact ⟨hs.ends u.name, fits_of_signIn hs hturn hsends hcause hwrites.2⟩
            | set password => exact absurd (by rw [hcause]; rfl) hasked
            | remove => exact absurd (by rw [hcause]; rfl) hasked
        · exact hs.ends u.name
    · rw [if_neg fun h => hname h.1, hlast, if_neg fun h => hname h.1]
      exact hs.ends name

/-- A message that is taken keeps the promises. -/
lemma Promised.applied {start : LocalUsers} {io : Engined.StoreIO} {rest : List AccountUpdate}
    {users : LocalUsers} (hs : Promised D start s) (hturn : InTurn D s (.apply io))
    (hdone : io.done = true) (hwire : s.wire = u :: rest)
    (hhandled : Engined.AdminService.handleEvent io u.message s.users = .ok users) :
    Promised D start { s with users, wire := rest } := by
  have hshaped : ∀ v ∈ rest, Shaped D v := fun v hv =>
    hs.shaped v (hwire ▸ List.mem_cons_of_mem u hv)
  have hwrites : ∀ v ∈ rest, v.cause.asked = true → v.writes = true := fun v hv =>
    hs.writes v (hwire ▸ List.mem_cons_of_mem u hv)
  refine ⟨hshaped, hwrites, fun name => ?_⟩
  have hends := hs.ends name
  rw [hwire, Ends] at hends
  change Ends D _ (lastAccepted s name) name rest
    (InForce D (RowMade D) _ (lastAccepted s name) (LocalUsers.account? users name))
  -- a message about another account, or one that is dropped
  have hother : LocalUsers.account? users name = LocalUsers.account? s.users name →
      ¬(u.name = name ∧ u.writes = true) → Ends D (LocalUsers.account? start name)
        (lastAccepted s name) name rest (InForce D (RowMade D) (LocalUsers.account? start name)
          (lastAccepted s name) (LocalUsers.account? users name)) := by
    intro hsame hnot
    rw [if_neg hnot] at hends
    rw [hsame]
    exact hends
  cases handled_of_shaped (hs.shaped u (hwire ▸ List.mem_cons_self)) hhandled with
  | refused hrefused hsame =>
      rw [hdone] at hrefused
      cases hrefused
  | dropped hdropped hsame =>
      refine hother (by rw [hsame]) fun h => ?_
      rw [hdropped] at h
      cases h.2
  | removed _ hcause hremoved =>
      by_cases hname : u.name = name
      · subst hname
        rw [if_pos ⟨rfl, writes_of_remove hcause⟩, if_pos (by rw [hcause]; rfl), hcause] at hends
        refine hends.mono fun hasked => ?_
        rw [hasked, hremoved, LocalUsers.account?_remove_self]
        rfl
      · refine hother ?_ fun h => hname h.1
        rw [hremoved, LocalUsers.account?_remove_of_ne (Ne.symm hname)]
  | stored password cred _ hcause hwritten hcarries hmade hstored =>
      by_cases hname : u.name = name
      · subst hname
        rw [if_pos ⟨rfl, hwritten⟩] at hends
        rcases hcause with hcause | hcause
        · -- a sign-in: its credential fits what is in force
          rw [if_neg (by rw [hcause]; exact Bool.false_ne_true)] at hends
          refine hends.mono fun hnow => ?_
          rw [hstored]
          exact inForce_store hnow.1 hnow.2 hcarries
        · -- a password: it is in force unless a later request is on its way
          rw [if_pos (by rw [hcause]; rfl), hcause] at hends
          cases hlast : lastOnWay u.name rest with
          | some v =>
              have hmem := List.mem_of_find?_eq_some hlast
              have hv : v.name = u.name ∧ v.cause.asked = true := by
                simpa using List.find?_some hlast
              rw [List.mem_reverse] at hmem
              exact hends.of_asked ⟨v, hmem, hv.1, hwrites v hmem hv.2, hv.2⟩
          | none =>
              refine hends.mono fun hasked => ?_
              rw [hasked, hstored]
              rcases hturn.free io u rest password rfl hwire hcause hlast with hsome | hfree
              · obtain ⟨r, hr⟩ := Option.isSome_iff_exists.mp hsome
                exact ⟨_, LocalUsers.account?_store_of_some hr, hmade⟩
              · cases haccount : LocalUsers.account? s.users u.name with
                | some r => exact ⟨_, LocalUsers.account?_store_of_some haccount, hmade⟩
                | none => exact ⟨_, LocalUsers.account?_store_of_none haccount hfree, hmade⟩
      · refine hother ?_ fun h => hname h.1
        rw [hstored, LocalUsers.account?_store_of_ne (Ne.symm hname)]

lemma Promised.step {start : LocalUsers} (hs : Promised D start s) (hdone : l.Done)
    (hturn : InTurn D s l) (h : (accounts D).next s l = some s') : Promised D start s' := by
  cases effect_of_next h with
  | silent hnone husers hwire haccepted =>
      refine ⟨hs.shaped.step h, hwire ▸ hs.writes, fun name => ?_⟩
      rw [hwire, husers, lastAccepted, haccepted]
      exact hs.ends name
  | sent u hsends honly husers hwire haccepted =>
      exact hs.sent hturn h hsends husers hwire haccepted
  | applied io u rest users hlabel hwire hhandled hafter =>
      subst hlabel
      rw [hafter]
      exact hs.applied hturn hdone hwire hhandled

lemma promised_init (h : (accounts D).init s) : Promised D s.users s := by
  refine ⟨allShaped_init h, by simp [h.1], fun name => ?_⟩
  rw [h.1, Ends, lastAccepted, h.2]
  change InForce D (RowMade D) (LocalUsers.account? s.users name) none
    (LocalUsers.account? s.users name)
  cases LocalUsers.account? s.users name with
  | none => rfl
  | some r => exact ⟨r, rfl, .inl rfl⟩

/-- **The last request is in force**: in a run whose steps are in turn and whose
statements are carried out, once nothing is on its way every account has the
password of the last request taken about it, or is gone; and where there was
none, it is as it was, or verifies exactly a password that it verified before. -/
theorem last_request_in_force {tr : List (Accounts × AccountStep)} (h0 : (accounts D).init s)
    (hrun : (accounts D).Run s tr s') (hdone : ∀ p ∈ tr, p.2.Done)
    (hturn : ∀ p ∈ tr, InTurn D p.1 p.2) (hquiet : s'.wire = []) (name : String) :
    InForce D (VerifiesExactly D) (LocalUsers.account? s.users name) (lastAccepted s' name)
      (LocalUsers.account? s'.users name) := by
  have hstep : ∀ t l t', Promised D s.users t → (l.Done ∧ InTurn D t l) →
      (accounts D).next t l = some t' → Promised D s.users t' :=
    fun t l t' ht hl h => ht.step hl.1 hl.2 h
  have hend : Promised D s.users s' :=
    hrun.invariant_of_forall (promised_init h0) hstep fun p hp => ⟨hdone p hp, hturn p hp⟩
  have hnow := hend.ends name
  rw [hquiet] at hnow
  exact InForce.imp hnow fun p r hmade => hmade.verifiesExactly

namespace RemovedUser

/-- Digests that tell texts of different lengths apart. -/
def digests : Digests :=
  ⟨fun password _ _ => Vector.replicate 32 (UInt8.ofNat password.length),
    fun text => Vector.replicate 32 (UInt8.ofNat text.length)⟩

/-- An admin, and an account whose digest an earlier build stored. -/
def rows : List LocalUser :=
  [{ username := "anna", oid := "1", passwordHash := "x", salt := "s", mustChange := false },
    { username := "ben", oid := "2", passwordHash := legacySha256Hex digests true "old" "s",
      salt := "s", mustChange := false }]

lemma keys : (rows.map LocalUser.username).Nodup := by decide

lemma attrs : ∀ q ∈ rows, ∀ r ∈ rows, r.uniqueOid ≠ none → q.uniqueOid = r.uniqueOid → q = r := by
  decide

/-- The admin is signed in. -/
def start : Accounts where
  users := ⟨rows, keys, attrs⟩
  auth :=
    { sessions := AList.insert [97] { expiresAt := 100, username := "anna", role := "admin" } ∅ }

/-- A sign-in of the other. -/
def signIn : AccountStep :=
  .login ⟨0, true, true, 0, 0, some (Vector.replicate 32 9), 0, .obj []⟩
    ⟨true, some (Vector.replicate 16 7)⟩
    (some (.obj [("password", .str "old"), ("username", .str "ben")]))

end RemovedUser

open RemovedUser in
open TwoAdmins (removal) in
/-- **A removal is undone by a sign-in**: the account signs in before engined has
taken the removal, and its credential comes behind. -/
theorem removal_undone : ¬ ∀ (s : Accounts) (tr : List (Accounts × AccountStep)) (s' : Accounts),
    (accounts digests).init s → (accounts digests).Run s tr s' → (∀ p ∈ tr, p.2.Done) →
    s'.wire = [] → ∀ name, InForce digests (VerifiesExactly digests)
      (LocalUsers.account? s.users name) (lastAccepted s' name)
      (LocalUsers.account? s'.users name) := by
  intro hall
  have hexec : ((accounts digests).exec start
      [removal [97] "2" "ben", signIn, carriedOut, .apply ⟨true, "3"⟩]).map (fun t =>
        (t.wire.length, lastAccepted t "ben", (LocalUsers.account? t.users "ben").isSome)) =
      some (0, some .remove, true) := by decide +kernel
  obtain ⟨t, ht, hseen⟩ := Option.map_eq_some_iff.mp hexec
  simp only [Prod.mk.injEq] at hseen
  obtain ⟨hwire, hasked, hthere⟩ := hseen
  have hforce := hall start _ t ⟨rfl, rfl⟩ (Machine.exec_run ht) ?_
    (List.length_eq_zero_iff.mp hwire) "ben"
  · rw [hasked] at hforce
    change LocalUsers.account? t.users "ben" = none at hforce
    rw [hforce] at hthere
    cases hthere
  · intro p hp
    have hlabel := Machine.label_of_mem_trace hp
    simp only [List.mem_cons, List.not_mem_nil, or_false] at hlabel
    rcases hlabel with h | h | h | h <;> rw [h]
    · trivial
    · trivial
    · rfl
    · rfl

open RemovedUser in
/-- A sign-in with nothing on its way makes the credential again, of the same
password. -/
theorem last_request_in_force_signIn : ∃ t, (accounts digests).exec start
      [signIn, .apply ⟨true, "3"⟩] = some t ∧
    InForce digests (VerifiesExactly digests) (LocalUsers.account? start.users "ben")
      (lastAccepted t "ben") (LocalUsers.account? t.users "ben") ∧
    LocalUsers.account? t.users "ben" ≠ LocalUsers.account? start.users "ben" := by
  have hexec : ((accounts digests).exec start [signIn, .apply ⟨true, "3"⟩]).map (fun t =>
      (t.wire.length, (LocalUsers.account? t.users "ben").map LocalUser.passwordHash)) =
      some (0, some (hashPassword digests true "old" (toHex (List.replicate 16 7)))) := by
    decide +kernel
  obtain ⟨t, ht, hseen⟩ := Option.map_eq_some_iff.mp hexec
  simp only [Prod.mk.injEq] at hseen
  obtain ⟨hwire, hhash⟩ := hseen
  have hfirst : ((accounts digests).next start signIn).map (fun t =>
      t.wire.map AccountUpdate.cause) = some [.signIn "old"] := by decide +kernel
  refine ⟨t, ht, last_request_in_force ⟨rfl, rfl⟩ (Machine.exec_run ht) ?_ ?_
    (List.length_eq_zero_iff.mp hwire) "ben", ?_⟩
  · intro p hp
    have hlabel := Machine.label_of_mem_trace hp
    simp only [List.mem_cons, List.not_mem_nil, or_false] at hlabel
    rcases hlabel with h | h <;> rw [h]
    · trivial
    · rfl
  · intro p hp
    rw [Machine.trace] at hp
    split at hp
    · cases hp
    · next t₁ hnext =>
        rcases List.mem_cons.mp hp with rfl | hp
        · -- the sign-in: nothing is on its way
          refine ⟨fun u q _ _ _ v hv => ?_, fun u hsends hasked => ?_, fun io u rest q hlabel => ?_⟩
          · cases hv
          · cases hsends with
            | signIn hr => cases hasked
          · cases hlabel
        · -- what engined takes is the sign-in's
          rw [hnext, Option.map_some, Option.some.injEq] at hfirst
          rw [Machine.trace] at hp
          split at hp
          · cases hp
          · obtain rfl := List.mem_singleton.mp hp
            refine ⟨fun u q hsends => ?_, fun u hsends => ?_, fun io u rest q _ hhead hset => ?_⟩
            · cases hsends
            · cases hsends
            · rw [hhead, List.map_cons, hset] at hfirst
              cases hfirst
  · intro hsame
    rw [hsame] at hhash
    revert hhash
    decide +kernel

end Pretzel.Fleet
