import Pretzel.Fleet.Accounts

/-!
The flag of a forced change, which a new password clears.

* `firstFor`: the first message about an account that engined does not drop.
* `ClearedByChange`: the flag of an account goes only with its password.
  `ClearsRightly`: the first message about a flagged account is a removal, or a
  new password. **`flag_kept`**: where steps keep it so, that is all that clears
  the flag.
-/

namespace Pretzel.Fleet

open Reactive Nlohmann Ipc Config Util Mgmtd

/-! ### The first message about an account -/

/-- The first message about an account. -/
def firstFor (name : String) (wire : List AccountUpdate) : Option AccountUpdate :=
  wire.find? fun u => u.name = name && u.writes

variable {D : Digests} {s s' : Accounts} {l : AccountStep} {io : Engined.StoreIO}
  {t t' : LocalUsers} {u : AccountUpdate} {cred : Credential} {name : String}

lemma firstFor_append (wire : List AccountUpdate) (u : AccountUpdate) :
    firstFor name (wire ++ [u]) = (firstFor name wire).or (firstFor name [u]) := by
  rw [firstFor, List.find?_append]
  rfl

lemma firstFor_cons_of_writes {rest : List AccountUpdate} (hname : u.name = name)
    (hwrites : u.writes = true) : firstFor name (u :: rest) = some u := by
  rw [firstFor, List.find?_cons_of_pos]
  simp [hname, hwrites]

lemma firstFor_cons_of_not {rest : List AccountUpdate} (h : u.name = name → u.writes = false) :
    firstFor name (u :: rest) = firstFor name rest := by
  rw [firstFor, List.find?_cons_of_neg]
  · rfl
  · simpa using h

/-! ### The flag of a forced change -/

/-- A removal, or a password that the row does not verify. -/
def Replaces (D : Digests) (u : AccountUpdate) (row : LocalUser) : Prop :=
  u.cause = .remove ∨ ∃ password, u.cause = .set password ∧
    verifyPassword D true password row.salt row.passwordHash = false

/-- The first message about an account whose flag is set replaces its password. -/
def FlagsHeld (D : Digests) (s : Accounts) : Prop :=
  ∀ row ∈ s.users.rows, row.mustChange = true →
    ∀ u, firstFor row.username s.wire = some u → Replaces D u row

/-- A step that leaves it so: what is sent first about such an account, or comes
first after a statement that is refused, replaces its password. -/
structure ClearsRightly (D : Digests) (s : Accounts) (l : AccountStep) : Prop where
  sent : ∀ row ∈ s.users.rows, row.mustChange = true → firstFor row.username s.wire = none →
    ∀ u, Sends D s l u → u.writes = true → u.name = row.username → Replaces D u row
  refused : ∀ row ∈ s.users.rows, row.mustChange = true → ∀ io u rest, l = .apply io →
    io.done = false → s.wire = u :: rest → u.name = row.username → u.writes = true →
    ∀ v, firstFor row.username rest = some v → Replaces D v row

/-- The flag of an account goes only as a message sets a password that its row did
not verify, and does then. -/
def ClearedByChange (D : Digests) (s : Accounts) (l : AccountStep) (s' : Accounts) : Prop :=
  ∀ row ∈ s.users.rows, row.mustChange = true → ∀ row' ∈ s'.users.rows,
    row'.username = row.username → row'.mustChange = false →
    ∃ io u rest password, l = .apply io ∧ s.wire = u :: rest ∧ u.name = row.username ∧
      u.cause = .set password ∧
      verifyPassword D true password row.salt row.passwordHash = false ∧
      verifyPassword D true password row'.salt row'.passwordHash = true

/-- A credential verifies the password it is of. -/
lemma MadeOf.verifies {password : String} (h : MadeOf D password cred) :
    verifyPassword D true password cred.salt cred.passwordHash = true := by
  obtain ⟨buf, q, rfl, hdigest⟩ := h
  exact verifyPassword_hashPassword.mpr hdigest.symm

/-- The first message about an account, before and after the one in front is
taken, where that one is about another account or is dropped. -/
lemma firstFor_rest {rest : List AccountUpdate} (hwire : s.wire = u :: rest)
    (h : u.name = name → u.writes = false) : firstFor name s.wire = firstFor name rest := by
  rw [hwire, firstFor_cons_of_not h]

lemma FlagsHeld.step (hs : AllShaped D s) (hheld : FlagsHeld D s) (hok : ClearsRightly D s l)
    (h : (accounts D).next s l = some s') : FlagsHeld D s' := by
  intro row hrow hflag v hv
  cases effect_of_next h with
  | silent hnone husers hwire haccepted =>
      rw [husers] at hrow
      rw [hwire] at hv
      exact hheld row hrow hflag v hv
  | sent u hsends honly husers hwire haccepted =>
      rw [husers] at hrow
      rw [hwire, firstFor_append] at hv
      cases hfirst : firstFor row.username s.wire with
      | some w =>
          rw [hfirst, Option.some_or, Option.some.injEq] at hv
          exact hv ▸ hheld row hrow hflag w hfirst
      | none =>
          rw [hfirst, Option.none_or] at hv
          have hmem := List.mem_of_find?_eq_some hv
          rw [List.mem_singleton] at hmem
          subst hmem
          have hv' : v.name = row.username ∧ v.writes = true := by simpa using List.find?_some hv
          exact hok.sent row hrow hflag hfirst v hsends hv'.2 hv'.1
  | applied io u rest users hlabel hwire hhandled hafter =>
      have hone := handled_of_shaped (hs u (hwire ▸ List.mem_cons_self)) hhandled
      subst hafter
      -- a message about another account leaves the row, and what is first about it
      have hother : row ∈ s.users.rows → (u.name = row.username → u.writes = false) →
          Replaces D v row := fun hmem hnot =>
        hheld row hmem hflag v ((firstFor_rest hwire hnot).trans hv)
      cases hone with
      | refused hdone hsame =>
          rw [hsame] at hrow
          by_cases hfirst : u.name = row.username ∧ u.writes = true
          · exact hok.refused row hrow hflag io u rest hlabel hdone hwire hfirst.1 hfirst.2 v hv
          · exact hother hrow fun hname => by simpa [hname] using hfirst
      | dropped hwrites hsame =>
          rw [hsame] at hrow
          exact hother hrow fun _ => hwrites
      | removed hdone hcause hremoved =>
          rw [hremoved] at hrow
          obtain ⟨hrow, hne⟩ := LocalUsers.mem_remove.mp hrow
          exact hother hrow fun hname => absurd hname.symm hne
      | stored password cred hdone hcause hwrites hcarries hmade hstored =>
          rw [hstored] at hrow
          rcases LocalUsers.mem_store hrow with ⟨hrow, hne⟩ | ⟨-, -, -, hclear⟩
          · exact hother hrow fun hname => absurd hname.symm hne
          · rw [hflag] at hclear
            cases hclear

/-- Under the invariant, a step that clears a flag sets a new password. -/
lemma FlagsHeld.cleared (hs : AllShaped D s) (hheld : FlagsHeld D s)
    (h : (accounts D).next s l = some s') : ClearedByChange D s l s' := by
  intro row hrow hflag row' hrow' hname hclear
  -- a row that was there already has its flag
  have hstays : row' ∈ s.users.rows → ∃ io u rest password, l = .apply io ∧ s.wire = u :: rest ∧
      u.name = row.username ∧ u.cause = .set password ∧
      verifyPassword D true password row.salt row.passwordHash = false ∧
      verifyPassword D true password row'.salt row'.passwordHash = true := by
    intro hmem
    rw [List.inj_on_of_nodup_map s.users.keys hmem hrow hname, hflag] at hclear
    cases hclear
  cases effect_of_next h with
  | silent hnone husers hwire haccepted => exact hstays (husers ▸ hrow')
  | sent u hsends honly husers hwire haccepted => exact hstays (husers ▸ hrow')
  | applied io u rest users hlabel hwire hhandled hafter =>
      have hone := handled_of_shaped (hs u (hwire ▸ List.mem_cons_self)) hhandled
      subst hafter
      cases hone with
      | refused hdone hsame => exact hstays (hsame ▸ hrow')
      | dropped hwrites hsame => exact hstays (hsame ▸ hrow')
      | removed hdone hcause hremoved =>
          rw [hremoved] at hrow'
          exact hstays (LocalUsers.mem_remove.mp hrow').1
      | stored password cred hdone hcause hwrites hcarries hmade hstored =>
          rw [hstored] at hrow'
          rcases LocalUsers.mem_store hrow' with ⟨hmem, -⟩ | ⟨huser, hhash, hsalt, -⟩
          · exact hstays hmem
          · have hfirst : firstFor row.username s.wire = some u := by
              rw [hwire]
              exact firstFor_cons_of_writes (huser.symm.trans hname) hwrites
            rcases hheld row hrow hflag u hfirst with hremove | ⟨q, hset, hverify⟩
            · exact absurd hremove (Cause.ne_remove hcause)
            · rw [hset] at hcause
              rcases hcause with hcause | hcause
              · cases hcause
              · cases hcause
                refine ⟨io, u, rest, password, hlabel, hwire, huser.symm.trans hname, hset, hverify,
                  ?_⟩
                rw [hhash, hsalt]
                exact hmade.verifies

/-- **The flag of an account goes only with its password**, in a run that sends
nothing else first about an account whose flag is set. -/
theorem flag_kept {tr : List (Accounts × AccountStep)} (h0 : (accounts D).init s)
    (hrun : (accounts D).Run s tr s') (hok : ∀ p ∈ tr, ClearsRightly D p.1 p.2) :
    ∀ p ∈ tr, ∀ t, (accounts D).next p.1 p.2 = some t → ClearedByChange D p.1 p.2 t := by
  have hstart : AllShaped D s ∧ FlagsHeld D s := by
    refine ⟨allShaped_init h0, ?_⟩
    intro row _ _ u hu
    rw [h0.1] at hu
    cases hu
  have hstep : ∀ t l t', (AllShaped D t ∧ FlagsHeld D t) → ClearsRightly D t l →
      (accounts D).next t l = some t' → AllShaped D t' ∧ FlagsHeld D t' :=
    fun t l t' ht hl h => ⟨ht.1.step h, ht.2.step ht.1 hl h⟩
  intro p hp t ht
  obtain ⟨hshaped, hheld⟩ :=
    hrun.invariant_at (I := fun t => AllShaped D t ∧ FlagsHeld D t) hstart hstep hok p hp
  exact hheld.cleared hshaped ht

namespace FirstSignIn

/-- Digests that tell texts of different lengths apart. -/
def digests : Digests :=
  ⟨fun password _ _ => Vector.replicate 32 (UInt8.ofNat password.length),
    fun text => Vector.replicate 32 (UInt8.ofNat text.length)⟩

/-- An account with the flag set, whose digest an earlier build stored. -/
def admin : LocalUser :=
  { username := "admin", oid := "1", passwordHash := legacySha256Hex digests true "pretzel" "s",
    salt := "s", mustChange := true }

lemma keys : ([admin].map LocalUser.username).Nodup := by decide

lemma attrs : ∀ q ∈ [admin], ∀ r ∈ [admin], r.uniqueOid ≠ none → q.uniqueOid = r.uniqueOid →
    q = r := by
  intro q hq r hr _ _
  rw [List.mem_singleton.mp hq, List.mem_singleton.mp hr]

/-- It is signed in. -/
def start : Accounts where
  users := ⟨[admin], keys, attrs⟩
  auth :=
    { sessions := AList.insert [97]
        { expiresAt := 100, username := "admin", role := "admin", mustChange := true } ∅ }

/-- What a new credential meets. -/
def made : CredentialIO := ⟨true, some (Vector.replicate 16 7)⟩

/-- A sign-in. -/
def signIn (username password : String) : AccountStep :=
  .login ⟨0, true, true, 0, 0, some (Vector.replicate 32 9), 0, .obj []⟩ made
    (some (.obj [("password", .str password), ("username", .str username)]))

/-- A change of one's own password. -/
def change (oldPass newPass : String) : AccountStep :=
  .changePassword ⟨0, true, true, made⟩ [97]
    (some (.obj [("new_password", .str newPass), ("old_password", .str oldPass)]))

end FirstSignIn

open FirstSignIn in
/-- **A sign-in clears the flag**: it stores the credential again. -/
theorem flag_cleared_by_login : ¬ ∀ (s : Accounts) (tr : List (Accounts × AccountStep))
    (s' : Accounts), (accounts digests).init s → (accounts digests).Run s tr s' →
    ∀ p ∈ tr, ∀ t, (accounts digests).next p.1 p.2 = some t →
      ClearedByChange digests p.1 p.2 t := by
  intro hall
  have hsent : ((accounts digests).exec start [signIn "admin" "pretzel"]).map
      (fun t => (t.users.rows, t.wire.map AccountUpdate.cause,
        ((accounts digests).next t carriedOut).map fun t' =>
          t'.users.rows.map fun row => (row.username, row.mustChange))) =
      some ([admin], [.signIn "pretzel"], some [("admin", false)]) := by decide +kernel
  obtain ⟨t, hexec, hseen⟩ := Option.map_eq_some_iff.mp hsent
  simp only [Prod.mk.injEq] at hseen
  obtain ⟨hrows, hwire, hafter⟩ := hseen
  obtain ⟨t', hnext, hrows'⟩ := Option.map_eq_some_iff.mp hafter
  have hcleared := hall start _ t' ⟨rfl, rfl⟩ ((Machine.exec_run hexec).snoc hnext)
    (t, carriedOut) (by simp) t' hnext
  obtain ⟨row', hrow', hfields⟩ := List.exists_of_mem_map
    (hrows' ▸ List.mem_singleton_self _ : (("admin", false) : String × Bool) ∈ _)
  simp only [Prod.mk.injEq] at hfields
  obtain ⟨io, u, rest, password, -, hhead, -, hcause, -⟩ := hcleared admin (by rw [hrows]; simp) rfl
    row' hrow' hfields.1 hfields.2
  rw [hhead, List.map_cons, hcause] at hwire
  cases hwire

open FirstSignIn in
/-- Where the password is changed, the flag goes with it. -/
theorem flag_kept_change : ∃ t t', (accounts digests).exec start [change "pretzel" "a new one"] =
      some t ∧ (accounts digests).next t carriedOut = some t' ∧
    ClearedByChange digests t carriedOut t' ∧ ∃ row ∈ t'.users.rows, row.mustChange = false := by
  have hsent : ((accounts digests).exec start [change "pretzel" "a new one"]).map
      (fun t => ((accounts digests).next t carriedOut).map fun t' =>
        t'.users.rows.map LocalUser.mustChange) = some (some [false]) := by decide +kernel
  obtain ⟨t, hexec, hafter⟩ := Option.map_eq_some_iff.mp hsent
  obtain ⟨t', hnext, hflags⟩ := Option.map_eq_some_iff.mp hafter
  obtain ⟨row, hrow, hclear⟩ := List.exists_of_mem_map
    (hflags ▸ List.mem_singleton_self _ : false ∈ _)
  refine ⟨t, t', hexec, hnext, ?_, row, hrow, hclear⟩
  refine flag_kept ⟨rfl, rfl⟩ ((Machine.exec_run hexec).snoc hnext) ?_ (t, carriedOut) (by simp) t'
    hnext
  intro p hp
  rcases List.mem_append.mp hp with hp | hp
  · rw [Machine.trace] at hp
    split at hp
    · cases hp
    · obtain rfl := List.mem_singleton.mp hp
      refine ⟨?_, fun _ _ _ io u rest hlabel => by cases hlabel⟩
      intro row hrow _ _ u hsends _ _
      obtain rfl := List.mem_singleton.mp hrow
      cases hsends with
      | change hc =>
          obtain ⟨-, rfl⟩ := Prod.mk.inj (Option.some.inj hc.posted)
          exact .inr ⟨_, rfl, by decide +kernel⟩
  · obtain rfl := List.mem_singleton.mp hp
    refine ⟨fun _ _ _ _ u hsends => ?_, fun _ _ _ io u rest hlabel hdone => ?_⟩
    · cases hsends
    · cases hlabel
      cases hdone

end Pretzel.Fleet
