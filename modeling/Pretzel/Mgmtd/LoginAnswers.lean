import Pretzel.Mgmtd.Throttles

/-!
What the answers of the sign-in tell about a name (`AuthController::login` over
`AuthService::login`).

* `Guess`, `answers`: attempts on one name, and the answers they get one after the
  other.
* `refusal`: the two answers a wrong password gets.
* `answers_known`, `answers_unknown`: the answers of a name with a row, and of one
  without.
* `BlockedAlike`: at every attempt the one name is blocked where the other is.
* `answers_alike`: two names get the same answers exactly then.
* `guesses_tell`: seven guesses that tell a name with a row.
-/

namespace Pretzel.Mgmtd

open Nlohmann Config Util

/-- One attempt on a name that is not written yet. -/
structure Guess where
  io : AuthService.LoginIO
  cio : CredentialIO
  password : String

/-- The posted body of an attempt. -/
def loginBody (username password : String) : Json :=
  .obj [("password", .str password), ("username", .str username)]

/-- The answers to attempts on a name, one after the other. -/
def answers (D : Digests) (users : LocalUsers) (username : String) :
    AuthService → List Guess → List HttpResponse
  | _, [] => []
  | s, g :: rest =>
      let (s', answer) :=
        AuthController.login D g.io g.cio users (some (loginBody username g.password)) s
      answer.response :: answers D users username s' rest

/-- The answer to a wrong password, of a name that is blocked or not. -/
def refusal (blocked : Bool) : HttpResponse :=
  if blocked then (fillError 429 "too many failed attempts — try again shortly").response
  else (fillError 401 "invalid credentials").response

lemma refusal_injective : Function.Injective refusal := by
  intro a b h
  cases a <;> cases b <;> first | rfl | cases congrArg HttpResponse.status h

/-- The entry of a name, or one that has not begun. -/
def AuthService.entry (s : AuthService) (username : String) : Throttle :=
  (s.throttles.lookup username).getD {}

/-- A wrong password on an account that has one is counted, where the query
answers. -/
def Guess.counts (g : Guess) (row : LocalUser) : Bool :=
  g.io.answered && row.passwordHash ≠ ""

/-- An entry after an attempt with a wrong password. -/
def Guess.leaves (g : Guess) (row : LocalUser) (t : Throttle) : Throttle :=
  if g.io.checkedAt < t.nextAllowedAt then t
  else if g.counts row then t.failed g.io.failedAt
  else t

/-- At every attempt a name with a row, whose entry the wrong passwords move, is
blocked where a name without one is. -/
def BlockedAlike (row : LocalUser) (unknown : Throttle) : Throttle → List Guess → Prop
  | _, [] => True
  | t, g :: rest =>
      (g.io.checkedAt < t.nextAllowedAt ↔ g.io.checkedAt < unknown.nextAllowedAt) ∧
        BlockedAlike row unknown (g.leaves row t) rest

instance decidableBlockedAlike (row : LocalUser) (unknown : Throttle) :
    ∀ t gs, Decidable (BlockedAlike row unknown t gs)
  | _, [] => isTrue trivial
  | t, g :: rest =>
      have := decidableBlockedAlike row unknown (g.leaves row t) rest
      inferInstanceAs (Decidable (_ ∧ _))

section Answers

variable {D : Digests} {users : LocalUsers} {s : AuthService} {username password : String}
  {row : LocalUser} {g : Guess}

lemma throttled_eq_entry {now : UInt64} :
    s.throttled username now = decide (now < (s.entry username).nextAllowedAt) := by
  rw [AuthService.throttled, AuthService.entry]
  cases s.throttles.lookup username with
  | none =>
      symm
      rw [decide_eq_false_iff_not, UInt64.lt_iff_toNat_lt]
      exact Nat.not_lt_zero _
  | some t => rfl

lemma bodyTexts_loginBody :
    bodyTexts (some (loginBody username password)) "username" "password" =
      some (username, password) := by
  rfl

/-- The handler answers a sign-in that fails. -/
lemma login_response {io : AuthService.LoginIO} {cio : CredentialIO} {s' : AuthService} {b : Bool}
    (h : s.login D io users username password = (s', .ok { throttled := b })) :
    AuthController.login D io cio users (some (loginBody username password)) s =
      (s', { response := refusal b }) := by
  rw [AuthController.login, bodyTexts_loginBody]
  dsimp only
  rw [h]
  cases b <;> rfl

/-- A sign-in on a name without a row changes nothing. -/
lemma login_unknown (h : LocalUsers.account? users (cStr username) = none) :
    s.login D g.io users username g.password =
      (s, .ok { throttled := s.throttled username g.io.checkedAt }) := by
  cases hthrottled : s.throttled username g.io.checkedAt with
  | true => exact AuthService.login_of_throttled hthrottled
  | false =>
      refine AuthService.login_of_unstored hthrottled ?_
      rw [AuthService.storesHash, readAccount, h]
      cases g.io.answered <;> rfl

/-- A wrong password on a name with a row moves its entry. -/
lemma login_known (h : LocalUsers.account? users (cStr username) = some row)
    (hwrong : verifyPassword D g.io.kdf g.password row.salt row.passwordHash = false) :
    ∃ s', s.login D g.io users username g.password =
        (s', .ok { throttled := s.throttled username g.io.checkedAt }) ∧
      s'.entry username = g.leaves row (s.entry username) := by
  cases hthrottled : s.throttled username g.io.checkedAt with
  | true =>
      refine ⟨s, AuthService.login_of_throttled hthrottled, ?_⟩
      rw [throttled_eq_entry, decide_eq_true_eq] at hthrottled
      rw [Guess.leaves, if_pos hthrottled]
  | false =>
      have hstores : AuthService.storesHash g.io.answered users username = g.counts row := by
        rw [AuthService.storesHash, readAccount, h, Guess.counts]
        cases g.io.answered <;> rfl
      have hfree := hthrottled
      rw [throttled_eq_entry, decide_eq_false_iff_not] at hfree
      cases hcounts : g.counts row with
      | false =>
          refine ⟨s, AuthService.login_of_unstored hthrottled (hstores.trans hcounts), ?_⟩
          rw [Guess.leaves, if_neg hfree, hcounts, if_neg Bool.false_ne_true]
      | true =>
          have hcheck : AuthService.checkPassword D g.io.answered g.io.kdf users username
              g.password = false := by
            rw [← Bool.not_eq_true, checkPassword_iff]
            rintro ⟨u, hu⟩
            obtain rfl := Option.some.inj (hu.account.symm.trans h)
            rw [hu.verifies] at hwrong
            cases hwrong
          refine ⟨_, AuthService.login_of_wrong hthrottled (hstores.trans hcounts) hcheck, ?_⟩
          rw [Guess.leaves, if_neg hfree, hcounts, if_pos rfl, AuthService.entry,
            AuthService.lookup_noteLoginFailure_self]
          rfl

/-- The answers of a name without a row. -/
lemma answers_unknown (h : LocalUsers.account? users (cStr username) = none) (gs : List Guess) :
    answers D users username s gs =
      gs.map fun g => refusal (g.io.checkedAt < (s.entry username).nextAllowedAt) := by
  induction gs with
  | nil => rfl
  | cons g rest ih =>
      rw [answers, login_response (login_unknown h), List.map_cons, ← throttled_eq_entry, ← ih]

/-- The first answer of a name with a row, and the entry the others are given by. -/
lemma answers_known (h : LocalUsers.account? users (cStr username) = some row)
    (hwrong : verifyPassword D g.io.kdf g.password row.salt row.passwordHash = false)
    (rest : List Guess) :
    ∃ s', s'.entry username = g.leaves row (s.entry username) ∧
      answers D users username s (g :: rest) =
        refusal (g.io.checkedAt < (s.entry username).nextAllowedAt) ::
          answers D users username s' rest := by
  obtain ⟨s', hlogin, hentry⟩ := login_known h hwrong
  refine ⟨s', hentry, ?_⟩
  rw [answers, login_response hlogin, throttled_eq_entry]

end Answers

/-- **What the sign-in tells about a name.** Whatever went before, the same wrong
passwords on a name with a row and on one without get the same answers exactly
where at every attempt the one is blocked where the other is. -/
theorem answers_alike {D : Digests} {users : LocalUsers} {s : AuthService}
    {known unknown : String} {row : LocalUser} {gs : List Guess}
    (hknown : LocalUsers.account? users (cStr known) = some row)
    (hunknown : LocalUsers.account? users (cStr unknown) = none)
    (hwrong : ∀ g ∈ gs, verifyPassword D g.io.kdf g.password row.salt row.passwordHash = false) :
    answers D users known s gs = answers D users unknown s gs ↔
      BlockedAlike row (s.entry unknown) (s.entry known) gs := by
  rw [answers_unknown hunknown]
  -- the sign-in of the name with a row moves on, and the other's stays
  generalize s.entry unknown = other
  induction gs generalizing s with
  | nil => exact ⟨fun _ => trivial, fun _ => rfl⟩
  | cons g rest ih =>
      obtain ⟨s', hentry, hanswers⟩ :=
        answers_known (s := s) hknown (hwrong g List.mem_cons_self) rest
      have hrest := ih (s := s') fun g' hg' => hwrong g' (List.mem_cons_of_mem _ hg')
      rw [hanswers, List.map_cons, List.cons.injEq, refusal_injective.eq_iff, decide_eq_decide,
        hrest, hentry, BlockedAlike]

/-- A guess at the hundredth second. -/
def guessAt100 : Guess := ⟨(guess "anna").io, ⟨true, none⟩, "guess"⟩

/-- The answers of two names, one of whom has a row, to a number of guesses. -/
theorem answers_alike_guesses :
    answers noDigests (accountOf "anna") "anna" {} (List.replicate 6 guessAt100) =
      answers noDigests (accountOf "anna") "bert" {} (List.replicate 6 guessAt100) := by
  have hanna : LocalUsers.account? (accountOf "anna") (cStr "anna") =
      some ⟨"anna", "oid", "5e884898", "salt", false⟩ := rfl
  refine (answers_alike hanna rfl ?_).mpr ?_
  · intro g hg
    obtain rfl := List.eq_of_mem_replicate hg
    decide +kernel
  · decide +kernel

/-- **Seven guesses that tell a name**: the last of them on the name with a row is
refused as throttled. -/
theorem guesses_tell :
    ¬∀ (D : Digests) (users : LocalUsers) (s : AuthService) (known unknown : String)
      (row : LocalUser) (gs : List Guess),
      LocalUsers.account? users (cStr known) = some row →
      LocalUsers.account? users (cStr unknown) = none →
      (∀ g ∈ gs, verifyPassword D g.io.kdf g.password row.salt row.passwordHash = false) →
        answers D users known s gs = answers D users unknown s gs := by
  intro hall
  have hsame := hall noDigests (accountOf "anna") {} "anna" "bert"
    ⟨"anna", "oid", "5e884898", "salt", false⟩ (List.replicate 7 guessAt100) rfl rfl (by
      intro g hg
      obtain rfl := List.eq_of_mem_replicate hg
      decide +kernel)
  have hstatus := congrArg (List.map HttpResponse.status) hsame
  revert hstatus
  decide +kernel

end Pretzel.Mgmtd
