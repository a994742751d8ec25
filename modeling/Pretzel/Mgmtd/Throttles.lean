import Pretzel.Library.Machine
import Pretzel.Mgmtd.SessionGate

/-!
The throttles of the sign-in over whole runs of attempts (`AuthService::login`,
`throttled`, `noteLoginFailure`).

* `Throttle.failed`: an entry after one more wrong password; `displaced`: the
  name that makes room for a new one.
* `login_of_throttled`, `login_of_unstored`, `login_of_wrong`,
  `throttles_login_of_right`: what an attempt does, by what it meets.
* `Tally`, `backoff`: the count of wrong passwords and the time of the last, and
  how long that blocks.
* `signIns`: the machine of the attempts, with the tallies beside the map.
* `Accounted`: what is said of one attempt, and `GivesWay`: the entry the map
  begins with is not blocked for longer than any other.
* `attempts_accounted`: of an attempt in a run the one holds exactly where the
  other does.
* `blocked_displaced`: a run that loses the count of a blocked account.
-/

namespace Pretzel.Mgmtd

open Nlohmann Config Util Reactive

/-! ### One entry -/

/-- An entry after one more wrong password. -/
def Throttle.failed (t : Throttle) (now : UInt64) : Throttle :=
  let t := { t with failures := t.failures + 1 }
  if t.failures ≤ kFreeAttempts then t
  else
    let delay := min (AuthService.doubled (t.failures - (kFreeAttempts + 1)) 1) kMaxBackoffSec
    { t with nextAllowedAt := now + delay.toUInt64 }

namespace AuthService

/-- The name whose entry makes room for one of another name. -/
def displaced (s : AuthService) (username : String) (first : ℕ) : Option String :=
  if s.throttles.keys.length ≥ kMaxThrottled && username ∉ s.throttles then
    s.throttles.keys[first]?
  else none

/-- The table answers with a row that holds a hash. -/
def storesHash (answered : Bool) (users : LocalUsers) (username : String) : Bool :=
  (readAccount answered users username).found &&
    (readAccount answered users username).passwordHash ≠ ""

variable {s : AuthService} {username name password : String} {first : ℕ} {now : UInt64}

lemma throttles_noteLoginFailure :
    (s.noteLoginFailure username first now).throttles =
      (match s.displaced username first with
        | none => s.throttles
        | some oldest => s.throttles.erase oldest).insert username
          (((s.throttles.lookup username).getD {}).failed now) := by
  have hplain : ∀ throttles : AList fun _ : String => Throttle,
      throttles.lookup username = s.throttles.lookup username →
      (let t := (throttles.lookup username).getD {}
       let t := { t with failures := t.failures + 1 }
       if t.failures ≤ kFreeAttempts then { s with throttles := throttles.insert username t }
       else
         let delay := min (doubled (t.failures - (kFreeAttempts + 1)) 1) kMaxBackoffSec
         { s with throttles := throttles.insert username
                    { t with nextAllowedAt := now + delay.toUInt64 } }).throttles =
        throttles.insert username (((s.throttles.lookup username).getD {}).failed now) := by
    intro throttles hsame
    dsimp only
    rw [hsame, Throttle.failed]
    dsimp only
    split <;> rfl
  rw [noteLoginFailure, displaced]
  split
  · next hfull =>
      cases hfirst : s.throttles.keys[first]? with
      | none => exact hplain s.throttles rfl
      | some oldest =>
          -- a name without an entry is not the one that makes room
          have hne : username ≠ oldest := by
            rintro rfl
            rw [Bool.and_eq_true, decide_eq_true_eq, decide_eq_true_eq] at hfull
            exact hfull.2 (AList.mem_keys.mpr (List.mem_of_getElem? hfirst))
          exact hplain _ (AList.lookup_erase_ne hne)
  · exact hplain s.throttles rfl

lemma lookup_noteLoginFailure_self :
    (s.noteLoginFailure username first now).throttles.lookup username =
      some (((s.throttles.lookup username).getD {}).failed now) := by
  rw [throttles_noteLoginFailure, AList.lookup_insert]

/-- The entries of other names stay, except the one that makes room. -/
lemma lookup_noteLoginFailure_of_ne (h : name ≠ username) :
    (s.noteLoginFailure username first now).throttles.lookup name =
      if s.displaced username first = some name then none else s.throttles.lookup name := by
  rw [throttles_noteLoginFailure, AList.lookup_insert_ne h]
  cases hdisplaced : s.displaced username first with
  | none => rfl
  | some oldest =>
      by_cases heq : name = oldest
      · rw [if_pos (congrArg some heq.symm), heq, AList.lookup_erase]
      · rw [if_neg fun h' => heq (Option.some.inj h').symm, AList.lookup_erase_ne heq]

/-- What makes room has an entry, and is another name. -/
lemma displaced_eq_some {oldest : String} (h : s.displaced username first = some oldest) :
    s.throttles.keys.length ≥ kMaxThrottled ∧ username ∉ s.throttles ∧ oldest ∈ s.throttles := by
  rw [displaced] at h
  split at h
  · next hfull =>
      rw [Bool.and_eq_true, decide_eq_true_eq, decide_eq_true_eq] at hfull
      exact ⟨hfull.1, hfull.2, AList.mem_keys.mpr (List.mem_of_getElem? h)⟩
  · cases h

lemma displaced_ne_self : s.displaced username first ≠ some username := by
  intro h
  obtain ⟨-, hnew, hold⟩ := displaced_eq_some h
  exact hnew hold

/-- The map does not grow over its bound where the place it begins with is one of
its places. -/
lemma size_noteLoginFailure (hsize : s.throttles.keys.length ≤ kMaxThrottled)
    (hfirst : s.throttles.keys.length ≥ kMaxThrottled → first < s.throttles.keys.length) :
    (s.noteLoginFailure username first now).throttles.keys.length ≤ kMaxThrottled := by
  rw [throttles_noteLoginFailure]
  by_cases hmem : username ∈ s.throttles
  · have hnone : s.displaced username first = none := by
      rw [displaced, if_neg (by simp [hmem])]
    have hpos := List.length_pos_of_mem (AList.mem_keys.mp hmem)
    rw [hnone, AList.keys_insert, List.length_cons,
      List.length_erase_of_mem (AList.mem_keys.mp hmem)]
    omega
  · by_cases hfull : s.throttles.keys.length ≥ kMaxThrottled
    · have hplace := hfirst hfull
      have hsome : s.displaced username first = some s.throttles.keys[first] := by
        rw [displaced, if_pos (by simp [hmem, hfull]), List.getElem?_eq_getElem hplace]
      have hnot : username ∉ (s.throttles.erase s.throttles.keys[first]).keys := fun h =>
        hmem (AList.mem_erase.mp (AList.mem_keys.mpr h)).2
      rw [hsome]
      dsimp only
      rw [AList.keys_insert, List.erase_of_not_mem hnot, List.length_cons, AList.keys_erase,
        List.length_erase_of_mem (List.getElem_mem hplace)]
      omega
    · have hnone : s.displaced username first = none := by
        rw [displaced, if_neg (by simp [hfull])]
      rw [hnone, AList.keys_insert, List.erase_of_not_mem (fun h => hmem (AList.mem_keys.mpr h)),
        List.length_cons]
      omega

/-! ### One attempt -/

variable {D : Digests} {io : LoginIO} {users : LocalUsers}

lemma storesHash_of_checkPassword {answered kdf : Bool}
    (h : checkPassword D answered kdf users username password = true) :
    storesHash answered users username = true := by
  rw [checkPassword] at h
  rw [storesHash]
  split at h
  · cases h
  · next hstored => simpa using hstored

lemma login_of_throttled (h : s.throttled username io.checkedAt = true) :
    s.login D io users username password = (s, .ok { throttled := true }) := by
  rw [login, if_pos h]

lemma login_of_unstored (hfree : s.throttled username io.checkedAt = false)
    (h : storesHash io.answered users username = false) :
    s.login D io users username password = (s, .ok {}) := by
  have hmissing : (!(readAccount io.answered users username).found ||
      decide ((readAccount io.answered users username).passwordHash = "")) = true := by
    rw [storesHash] at h
    cases hfound : (readAccount io.answered users username).found <;> simp_all
  rw [login, hfree, if_neg Bool.false_ne_true]
  dsimp only
  rw [if_pos hmissing]

lemma not_missing (h : storesHash io.answered users username = true) :
    ¬(!(readAccount io.answered users username).found ||
      decide ((readAccount io.answered users username).passwordHash = "")) = true := by
  rw [storesHash, Bool.and_eq_true, decide_eq_true_eq] at h
  simp [h.1, h.2]

lemma login_of_wrong (hfree : s.throttled username io.checkedAt = false)
    (hstored : storesHash io.answered users username = true)
    (h : checkPassword D io.answered io.kdf users username password = false) :
    s.login D io users username password =
      (s.noteLoginFailure username io.first io.failedAt, .ok {}) := by
  have hwrong : (!verifyPassword D io.kdf password (readAccount io.answered users username).salt
      (readAccount io.answered users username).passwordHash) = true := by
    rw [checkPassword, if_neg (not_missing hstored)] at h
    rw [h]
    rfl
  rw [login, hfree, if_neg Bool.false_ne_true]
  dsimp only
  rw [if_neg (not_missing hstored), if_pos hwrong]

/-- A right password clears the entry of its name, whatever becomes of the
session. -/
lemma throttles_login_of_right (hfree : s.throttled username io.checkedAt = false)
    (h : checkPassword D io.answered io.kdf users username password = true) :
    (s.login D io users username password).1.throttles = s.throttles.erase username ∧
      (s.login D io users username password).2 ≠ .ok { throttled := true } := by
  have hstored := storesHash_of_checkPassword h
  have hright : ¬(!verifyPassword D io.kdf password (readAccount io.answered users username).salt
      (readAccount io.answered users username).passwordHash) = true := by
    rw [checkPassword, if_neg (not_missing hstored)] at h
    rw [h]
    exact Bool.false_ne_true
  rw [login, hfree, if_neg Bool.false_ne_true]
  dsimp only
  rw [if_neg (not_missing hstored), if_neg hright]
  split
  · exact ⟨rfl, by simp⟩
  · split
    · exact ⟨rfl, by simp⟩
    · exact ⟨rfl, by simp⟩

end AuthService

/-! ### How long a name is blocked -/

/-- The seconds a name is blocked for by its `n`th wrong password. -/
def backoff (n : ℕ) : ℕ := min (2 ^ (n - kFreeAttempts - 1)) kMaxBackoffSec

/-- The wrong passwords of a name since it last signed in or made room, and the
time of the last. -/
structure Tally where
  failures : ℕ := 0
  last : UInt64 := 0

/-- A name whose wrong passwords block it. -/
def Tally.Blocked (t : Tally) (now : UInt64) : Prop :=
  kFreeAttempts < t.failures ∧ now.toNat < t.last.toNat + backoff t.failures

instance (t : Tally) (now : UInt64) : Decidable (t.Blocked now) :=
  inferInstanceAs (Decidable (_ ∧ _))

/-- The largest reading of the clock: a count of nanoseconds, in seconds. -/
def clockMax : ℕ := (2 ^ 63 - 1) / 10 ^ 9

/-- The loop stops at the cap, which cuts what the doublings give. -/
lemma min_doubled (n : ℕ) {delay : ℕ} (h : 0 < delay) :
    min (AuthService.doubled n delay) kMaxBackoffSec = min (2 ^ n * delay) kMaxBackoffSec := by
  induction n generalizing delay with
  | zero => rw [AuthService.doubled, pow_zero, one_mul]
  | succ n ih =>
      rw [AuthService.doubled]
      split
      · rw [ih (by omega), pow_succ, mul_assoc, mul_comm 2 delay]
      · next hcap =>
          have hgrows : delay ≤ 2 ^ (n + 1) * delay := Nat.le_mul_of_pos_left _ (by positivity)
          omega

/-- An entry stands for a tally. -/
structure Counts (t : Throttle) (tally : Tally) : Prop where
  failures : t.failures = tally.failures
  free : tally.failures ≤ kFreeAttempts → t.nextAllowedAt = 0
  blocked : kFreeAttempts < tally.failures →
    t.nextAllowedAt.toNat = tally.last.toNat + backoff tally.failures

lemma counts_empty : Counts {} {} := ⟨rfl, fun _ => rfl, fun h => absurd h (by decide)⟩

section Entries

variable {t : Throttle} {tally : Tally} {now : UInt64}

lemma counts_failed (h : Counts t tally) (hnow : now.toNat ≤ clockMax) :
    Counts (t.failed now) ⟨tally.failures + 1, now⟩ := by
  rw [Throttle.failed]
  dsimp only
  split
  · next hfree =>
      refine ⟨congrArg (· + 1) h.failures, fun hle => ?_, fun hlt => ?_⟩
      · exact h.free (Nat.le_of_succ_le hle)
      · dsimp only at hlt
        rw [← h.failures] at hlt
        omega
  · next hover =>
      refine ⟨congrArg (· + 1) h.failures, fun hle => ?_, fun _ => ?_⟩
      · dsimp only at hle
        rw [← h.failures] at hle
        omega
      · have hdelay : min (AuthService.doubled (t.failures + 1 - (kFreeAttempts + 1)) 1)
            kMaxBackoffSec = backoff (tally.failures + 1) := by
          rw [min_doubled _ one_pos, mul_one, backoff, h.failures]
          rfl
        have hsmall : backoff (tally.failures + 1) ≤ 30 := min_le_right _ _
        have hclock : now.toNat ≤ 9223372036 := hnow
        dsimp only
        rw [hdelay, UInt64.toNat_add, Nat.toUInt64, UInt64.toNat_ofNat', Nat.mod_eq_of_lt (by omega),
          Nat.mod_eq_of_lt (by omega)]

lemma blocked_iff (h : Counts t tally) : tally.Blocked now ↔ now < t.nextAllowedAt := by
  rw [Tally.Blocked, UInt64.lt_iff_toNat_lt]
  by_cases hfree : tally.failures ≤ kFreeAttempts
  · rw [h.free hfree]
    exact ⟨fun hb => absurd hb.1 (not_lt.mpr hfree), fun hb => absurd hb (Nat.not_lt_zero _)⟩
  · rw [h.blocked (not_le.mp hfree)]
    exact and_iff_right (not_le.mp hfree)

end Entries

/-! ### Runs -/

/-- One attempt: what it meets, the table, and the posted texts. -/
structure Attempt where
  io : AuthService.LoginIO
  users : LocalUsers
  username : String
  password : String

/-- The sign-in, and the tallies of the names. -/
structure SignIns where
  auth : AuthService := {}
  tallies : String → Tally := fun _ => {}

section Runs

variable (D : Digests)

/-- The password is the account's. -/
def Attempt.right (a : Attempt) : Bool :=
  AuthService.checkPassword D a.io.answered a.io.kdf a.users a.username a.password

/-- The account has a password, and it is another. -/
def Attempt.wrong (a : Attempt) : Bool :=
  AuthService.storesHash a.io.answered a.users a.username && !a.right D

namespace SignIns

variable (s : SignIns) (a : Attempt)

/-- The tallies after an attempt: none counts while its name is blocked, a right
password starts again, and a wrong one counts and is the end of the tally that
makes room. -/
def tally : String → Tally :=
  if (s.tallies a.username).Blocked a.io.checkedAt then s.tallies
  else if a.right D then Function.update s.tallies a.username {}
  else if a.wrong D then fun name =>
    if name = a.username then ⟨(s.tallies name).failures + 1, a.io.failedAt⟩
    else if s.auth.displaced a.username a.io.first = some name then {}
    else s.tallies name
  else s.tallies

/-- The sign-in and the tallies after an attempt. -/
def after : SignIns where
  auth := (s.auth.login D a.io a.users a.username a.password).1
  tallies := s.tally D a

end SignIns

/-- The clock is read after its epoch, and the map begins with one of its
entries. -/
def Attempt.Real (s : SignIns) (a : Attempt) : Prop :=
  a.io.failedAt.toNat ≤ clockMax ∧
    (s.auth.throttles.keys.length ≥ kMaxThrottled → a.io.first < s.auth.throttles.keys.length)

instance (s : SignIns) (a : Attempt) : Decidable (a.Real s) :=
  inferInstanceAs (Decidable (_ ∧ _))

/-- The attempts, from no entry. -/
def signIns : Machine SignIns Attempt where
  init s := s.auth.throttles = ∅ ∧ ∀ name, s.tallies name = {}
  next s a := if a.Real s then some (s.after D a) else none

/-- The map is within its bound, and its entries are the tallies that have
begun. -/
structure Tallied (s : SignIns) : Prop where
  size : s.auth.throttles.keys.length ≤ kMaxThrottled
  counts : ∀ name, Counts ((s.auth.throttles.lookup name).getD {}) (s.tallies name)

variable {D} {s s' : SignIns} {a : Attempt}

lemma throttled_iff (h : Tallied s) :
    s.auth.throttled a.username a.io.checkedAt = true ↔
      (s.tallies a.username).Blocked a.io.checkedAt := by
  rw [blocked_iff (h.counts a.username), AuthService.throttled]
  cases hlookup : s.auth.throttles.lookup a.username with
  | none =>
      refine ⟨fun h => absurd h Bool.false_ne_true, fun h => ?_⟩
      exact absurd (UInt64.lt_iff_toNat_lt.mp h) (Nat.not_lt_zero _)
  | some t => exact decide_eq_true_iff

/-- What an attempt leaves of the throttles, by what it meets. -/
lemma after_cases (h : Tallied s) :
    ((s.tallies a.username).Blocked a.io.checkedAt ∧ (s.after D a).auth = s.auth ∧
        s.tally D a = s.tallies) ∨
      (¬(s.tallies a.username).Blocked a.io.checkedAt ∧ a.right D = true ∧
        (s.after D a).auth.throttles = s.auth.throttles.erase a.username ∧
        s.tally D a = Function.update s.tallies a.username {}) ∨
      (¬(s.tallies a.username).Blocked a.io.checkedAt ∧ a.wrong D = true ∧
        (s.after D a).auth = s.auth.noteLoginFailure a.username a.io.first a.io.failedAt ∧
        s.tally D a = fun name =>
          if name = a.username then ⟨(s.tallies name).failures + 1, a.io.failedAt⟩
          else if s.auth.displaced a.username a.io.first = some name then {}
          else s.tallies name) ∨
      (¬(s.tallies a.username).Blocked a.io.checkedAt ∧ a.right D = false ∧ a.wrong D = false ∧
        (s.after D a).auth = s.auth ∧ s.tally D a = s.tallies) := by
  by_cases hblocked : (s.tallies a.username).Blocked a.io.checkedAt
  · refine .inl ⟨hblocked, ?_, if_pos hblocked⟩
    rw [SignIns.after, AuthService.login_of_throttled ((throttled_iff h).mpr hblocked)]
  · have hfree : s.auth.throttled a.username a.io.checkedAt = false := by
      rw [← Bool.not_eq_true, throttled_iff h]
      exact hblocked
    cases hright : a.right D with
    | true =>
        refine .inr (.inl ⟨hblocked, rfl, (AuthService.throttles_login_of_right hfree hright).1, ?_⟩)
        rw [SignIns.tally, if_neg hblocked, if_pos hright]
    | false =>
        have hnot : ¬a.right D = true := by simp [hright]
        cases hstored : AuthService.storesHash a.io.answered a.users a.username with
        | true =>
            have hwrong : a.wrong D = true := by rw [Attempt.wrong, hstored, hright]; rfl
            refine .inr (.inr (.inl ⟨hblocked, hwrong, ?_, ?_⟩))
            · rw [SignIns.after, AuthService.login_of_wrong hfree hstored hright]
            · rw [SignIns.tally, if_neg hblocked, if_neg hnot, if_pos hwrong]
        | false =>
            have hwrong : a.wrong D = false := by rw [Attempt.wrong, hstored]; rfl
            refine .inr (.inr (.inr ⟨hblocked, rfl, hwrong, ?_, ?_⟩))
            · rw [SignIns.after, AuthService.login_of_unstored hfree hstored]
            · rw [SignIns.tally, if_neg hblocked, if_neg hnot, if_neg (by simp [hwrong])]

/-- An attempt keeps the tallies. -/
lemma tallied_after (h : Tallied s) (hreal : a.Real s) : Tallied (s.after D a) := by
  rcases after_cases (D := D) (a := a) h with
    ⟨-, hauth, htally⟩ | ⟨-, -, hthrottles, htally⟩ | ⟨-, -, hauth, htally⟩ |
      ⟨-, -, -, hauth, htally⟩
  · refine ⟨hauth ▸ h.size, fun name => ?_⟩
    change Counts _ (s.tally D a name)
    rw [hauth, htally]
    exact h.counts name
  · constructor
    · rw [hthrottles, AList.keys_erase]
      exact le_trans (List.length_erase_le) h.size
    · intro name
      change Counts _ (s.tally D a name)
      rw [hthrottles, htally]
      by_cases hname : name = a.username
      · rw [hname, AList.lookup_erase, Function.update_self]
        exact counts_empty
      · rw [AList.lookup_erase_ne hname, Function.update_of_ne hname]
        exact h.counts name
  · constructor
    · rw [hauth]
      exact AuthService.size_noteLoginFailure h.size hreal.2
    · intro name
      change Counts _ (s.tally D a name)
      rw [hauth, htally]
      dsimp only
      by_cases hname : name = a.username
      · rw [if_pos hname, hname, AuthService.lookup_noteLoginFailure_self]
        exact counts_failed (h.counts a.username) hreal.1
      · rw [if_neg hname, AuthService.lookup_noteLoginFailure_of_ne hname]
        split
        · exact counts_empty
        · exact h.counts name
  · refine ⟨hauth ▸ h.size, fun name => ?_⟩
    change Counts _ (s.tally D a name)
    rw [hauth, htally]
    exact h.counts name

lemma tallied_init (h : (signIns D).init s) : Tallied s := by
  obtain ⟨hempty, hnone⟩ := h
  constructor
  · rw [hempty]
    exact Nat.zero_le _
  · intro name
    rw [hempty, hnone]
    exact counts_empty

lemma tallied_next (h : Tallied s) (hnext : (signIns D).next s a = some s') : Tallied s' := by
  simp only [signIns] at hnext
  split at hnext
  · next hreal =>
      obtain rfl := Option.some.inj hnext
      exact tallied_after h hreal
  · cases hnext

/-! ### What is said of an attempt -/

/-- A wrong password that counts. -/
def SignIns.counted (D : Digests) (s : SignIns) (a : Attempt) : Prop :=
  ¬(s.tallies a.username).Blocked a.io.checkedAt ∧ a.wrong D = true

/-- The entry that is lost to an attempt on another name. -/
def Loses (D : Digests) (s : SignIns) (a : Attempt) (name : String) (t : Throttle) : Prop :=
  name ≠ a.username ∧ s.auth.throttles.lookup name = some t ∧
    (s.after D a).auth.throttles.lookup name = none

/-- An attempt is refused where its name is blocked, a right password takes away
its own entry and no other, and the map is within its bound. -/
structure Enforced (D : Digests) (s : SignIns) (a : Attempt) : Prop where
  refused : (s.auth.login D a.io a.users a.username a.password).2 = .ok { throttled := true } ↔
    (s.tallies a.username).Blocked a.io.checkedAt
  cleared : ¬(s.tallies a.username).Blocked a.io.checkedAt → a.right D = true →
    (s.after D a).auth.throttles.lookup a.username = none ∧
      ∀ name ≠ a.username,
        (s.after D a).auth.throttles.lookup name = s.auth.throttles.lookup name
  bounded : (s.after D a).auth.throttles.keys.length ≤ kMaxThrottled

/-- **The account of an attempt**: besides, what makes room is free first, and a
name that is still blocked keeps its entry where another is not. -/
structure Accounted (D : Digests) (s : SignIns) (a : Attempt) : Prop extends Enforced D s a where
  earliest : ∀ name t, Loses D s a name t → ∀ other t',
    s.auth.throttles.lookup other = some t' → t.nextAllowedAt ≤ t'.nextAllowedAt
  running : ∀ name t, s.auth.throttles.lookup name = some t → name ≠ a.username →
    a.io.failedAt < t.nextAllowedAt →
    (∃ other t', s.auth.throttles.lookup other = some t' ∧ t'.nextAllowedAt ≤ a.io.failedAt) →
      (s.after D a).auth.throttles.lookup name = some t

/-- The entry the map begins with is not blocked for longer than any other, where a
wrong password of a new name meets the full map. -/
def GivesWay (D : Digests) (s : SignIns) (a : Attempt) : Prop :=
  s.counted D a → kMaxThrottled ≤ s.auth.throttles.keys.length →
    a.username ∉ s.auth.throttles → ∀ name ∈ s.auth.throttles.keys[a.io.first]?,
      ∀ t ∈ s.auth.throttles.lookup name, ∀ other, ∀ t' ∈ s.auth.throttles.lookup other,
        t.nextAllowedAt ≤ t'.nextAllowedAt

/-- The entries that are lost: the one that makes room. -/
lemma loses_iff (h : Tallied s) {name : String} {t : Throttle} :
    Loses D s a name t ↔ s.counted D a ∧ s.auth.displaced a.username a.io.first = some name ∧
      s.auth.throttles.lookup name = some t := by
  constructor
  · rintro ⟨hname, hlookup, hlost⟩
    rcases after_cases (D := D) (a := a) h with
      ⟨-, hauth, -⟩ | ⟨-, -, hthrottles, -⟩ | ⟨hfree, hwrong, hauth, -⟩ | ⟨-, -, -, hauth, -⟩
    · rw [hauth, hlookup] at hlost
      cases hlost
    · rw [hthrottles, AList.lookup_erase_ne hname, hlookup] at hlost
      cases hlost
    · rw [hauth, AuthService.lookup_noteLoginFailure_of_ne hname] at hlost
      split at hlost
      · next hdisplaced => exact ⟨⟨hfree, hwrong⟩, hdisplaced, hlookup⟩
      · rw [hlookup] at hlost
        cases hlost
    · rw [hauth, hlookup] at hlost
      cases hlost
  · rintro ⟨⟨hfree, hwrong⟩, hdisplaced, hlookup⟩
    have hname : name ≠ a.username := by
      rintro rfl
      exact AuthService.displaced_ne_self hdisplaced
    refine ⟨hname, hlookup, ?_⟩
    rcases after_cases (D := D) (a := a) h with
      ⟨hblocked, -⟩ | ⟨-, hright, -⟩ | ⟨-, -, hauth, -⟩ | ⟨-, -, hnot, -⟩
    · exact absurd hblocked hfree
    · rw [Attempt.wrong, hright, Bool.not_true, Bool.and_false] at hwrong
      cases hwrong
    · rw [hauth, AuthService.lookup_noteLoginFailure_of_ne hname, if_pos hdisplaced]
    · rw [hnot] at hwrong
      cases hwrong

/-- The place the map begins with is looked at where a new name meets the full
map. -/
lemma givesWay_iff : GivesWay D s a ↔
    ∀ name t, s.counted D a → s.auth.displaced a.username a.io.first = some name →
      s.auth.throttles.lookup name = some t → ∀ other t',
        s.auth.throttles.lookup other = some t' → t.nextAllowedAt ≤ t'.nextAllowedAt := by
  constructor
  · intro h name t hcounted hdisplaced hlookup other t' hother
    obtain ⟨hfull, hnew, -⟩ := AuthService.displaced_eq_some hdisplaced
    rw [AuthService.displaced, if_pos (by simp [hnew, hfull])] at hdisplaced
    exact h hcounted hfull hnew name hdisplaced t hlookup other t' hother
  · intro h hcounted hfull hnew name hname t hlookup other t' hother
    refine h name t hcounted ?_ hlookup other t' hother
    rw [AuthService.displaced, if_pos (by simp [hnew, hfull])]
    exact hname

/-- A name that is not lost to an attempt on another keeps its entry. -/
lemma lookup_after_of_ne (h : Tallied s) {name : String} {t : Throttle}
    (hlookup : s.auth.throttles.lookup name = some t) (hname : name ≠ a.username)
    (hkept : ¬Loses D s a name t) : (s.after D a).auth.throttles.lookup name = some t := by
  rcases after_cases (D := D) (a := a) h with
    ⟨-, hauth, -⟩ | ⟨-, -, hthrottles, -⟩ | ⟨-, -, hauth, -⟩ | ⟨-, -, -, hauth, -⟩
  · rw [hauth]
    exact hlookup
  · rw [hthrottles, AList.lookup_erase_ne hname]
    exact hlookup
  · rw [hauth, AuthService.lookup_noteLoginFailure_of_ne hname]
    split
    · next hdisplaced =>
        refine absurd ⟨hname, hlookup, ?_⟩ hkept
        rw [hauth, AuthService.lookup_noteLoginFailure_of_ne hname, if_pos hdisplaced]
    · exact hlookup
  · rw [hauth]
    exact hlookup

lemma refused_iff (h : Tallied s) :
    (s.auth.login D a.io a.users a.username a.password).2 = .ok { throttled := true } ↔
      (s.tallies a.username).Blocked a.io.checkedAt := by
  rw [← throttled_iff h]
  constructor
  · intro hrefused
    by_contra hfree
    rw [Bool.not_eq_true] at hfree
    cases hright : a.right D with
    | true => exact (AuthService.throttles_login_of_right hfree hright).2 hrefused
    | false =>
        cases hstored : AuthService.storesHash a.io.answered a.users a.username with
        | true =>
            rw [AuthService.login_of_wrong hfree hstored hright] at hrefused
            cases hrefused
        | false =>
            rw [AuthService.login_of_unstored hfree hstored] at hrefused
            cases hrefused
  · intro hthrottled
    rw [AuthService.login_of_throttled hthrottled]

lemma enforced (h : Tallied s) (hreal : a.Real s) : Enforced D s a := by
  refine ⟨refused_iff h, fun hfree hright => ?_, (tallied_after h hreal).size⟩
  rcases after_cases (D := D) (a := a) h with
    ⟨hblocked, -⟩ | ⟨-, -, hthrottles, -⟩ | ⟨-, hwrong, -⟩ | ⟨-, hnot, -⟩
  · exact absurd hblocked hfree
  · rw [hthrottles]
    exact ⟨AList.lookup_erase _ _, fun name hname => AList.lookup_erase_ne hname⟩
  · rw [Attempt.wrong, hright, Bool.not_true, Bool.and_false] at hwrong
    cases hwrong
  · rw [hright] at hnot
    cases hnot

/-- An attempt is accounted for exactly where the entry the map begins with gives
way. -/
lemma accounted_iff (h : Tallied s) (hreal : a.Real s) : Accounted D s a ↔ GivesWay D s a := by
  rw [givesWay_iff]
  constructor
  · intro haccounted name t hcounted hdisplaced hlookup
    exact haccounted.earliest name t ((loses_iff h).mpr ⟨hcounted, hdisplaced, hlookup⟩)
  · intro hway
    have hearliest : ∀ name t, Loses D s a name t → ∀ other t',
        s.auth.throttles.lookup other = some t' → t.nextAllowedAt ≤ t'.nextAllowedAt := by
      intro name t hlost
      obtain ⟨hcounted, hdisplaced, hlookup⟩ := (loses_iff h).mp hlost
      exact hway name t hcounted hdisplaced hlookup
    refine ⟨enforced h hreal, hearliest, ?_⟩
    rintro name t hlookup hname hrunning ⟨other, t', hother, hpast⟩
    refine lookup_after_of_ne h hlookup hname fun hlost => ?_
    have hle := hearliest name t hlost other t' hother
    exact absurd (UInt64.lt_of_lt_of_le hrunning (UInt64.le_trans hle hpast)) (UInt64.lt_irrefl _)

end Runs

/-- **The throttles of the sign-in.** Every attempt of a run is refused exactly
where the wrong passwords of its name block it, a right password takes away its
own entry, and the map stays within its bound; and what makes room is free first
exactly where the entry the map begins with gives way. -/
theorem attempts_accounted {D : Digests} {s s' : SignIns} {tr : List (SignIns × Attempt)}
    (hinit : (signIns D).init s) (hrun : (signIns D).Run s tr s') :
    ∀ p ∈ tr, Enforced D p.1 p.2 ∧ (Accounted D p.1 p.2 ↔ GivesWay D p.1 p.2) := by
  intro p hp
  have htallied : Tallied p.1 :=
    hrun.invariant_at (C := fun _ _ => True) (tallied_init hinit)
      (fun _ _ _ hI _ hnext => tallied_next hI hnext) (fun _ _ => trivial) p hp
  obtain ⟨t, hnext⟩ := hrun.next_of_mem hp
  simp only [signIns] at hnext
  split at hnext
  · next hreal => exact ⟨enforced htallied hreal, accounted_iff htallied hreal⟩
  · cases hnext

/-- A table with one account, whose hash is of another password. -/
def accountOf (username : String) : LocalUsers where
  rows := [⟨username, "oid", "5e884898", "salt", false⟩]
  keys := List.nodup_singleton _
  attrs := by simp

/-- A wrong password at the hundredth second, where the map begins with its newest
entry. -/
def guess (username : String) : Attempt where
  io := { checkedAt := 100, answered := true, kdf := true, failedAt := 100, first := 0,
          random := none, signedInAt := 100, declared := .null }
  users := accountOf username
  username := username
  password := "guess"

/-- One wrong password of as many names as the map holds, and five more of the last,
which block it. -/
def guesses : List Attempt :=
  (List.range kMaxThrottled).map (fun n => guess (toString n)) ++ List.replicate 5 (guess "63")

/-- **A block that is lost**: another name fails, and the one that is blocked makes
room for it. -/
theorem blocked_displaced :
    ¬∀ (D : Digests) (s s' : SignIns) (tr : List (SignIns × Attempt)),
      (signIns D).init s → (signIns D).Run s tr s' → ∀ p ∈ tr, Accounted D p.1 p.2 := by
  intro hall
  have hrun : ((signIns noDigests).exec {} guesses).map (fun s =>
      (s.auth.throttles.lookup "63", s.auth.throttles.lookup "0",
        (s.after noDigests (guess "64")).auth.throttles.lookup "63",
        decide ((guess "64").Real s))) =
      some (some ⟨6, 101⟩, some ⟨1, 0⟩, none, true) := by
    decide +kernel
  obtain ⟨s, hexec, hstate⟩ := Option.map_eq_some_iff.mp hrun
  rw [Prod.mk.injEq, Prod.mk.injEq, Prod.mk.injEq] at hstate
  obtain ⟨hblocked, hfree, hlost, hreal⟩ := hstate
  have hnext : (signIns noDigests).next s (guess "64") = some (s.after noDigests (guess "64")) :=
    if_pos (of_decide_eq_true hreal)
  have haccounted := hall noDigests {} _ _ ⟨rfl, fun _ => rfl⟩
    ((Machine.exec_run hexec).snoc hnext) (s, guess "64") (by simp)
  have hle := haccounted.earliest "63" ⟨6, 101⟩ ⟨show "63" ≠ "64" by decide, hblocked, hlost⟩ "0"
    ⟨1, 0⟩ hfree
  exact absurd hle (by decide)

/-- The account of seven wrong passwords of one name, the last of which is
refused. -/
theorem attempts_accounted_guesses :
    ∃ s, (signIns noDigests).exec {} (List.replicate 7 (guess "anna")) = some s ∧
      ∀ p ∈ (signIns noDigests).trace {} (List.replicate 7 (guess "anna")),
        Enforced noDigests p.1 p.2 ∧ (Accounted noDigests p.1 p.2 ↔ GivesWay noDigests p.1 p.2) := by
  have hrun : ((signIns noDigests).exec {} (List.replicate 7 (guess "anna"))).isSome = true := by
    decide +kernel
  obtain ⟨s, hexec⟩ := Option.isSome_iff_exists.mp hrun
  exact ⟨s, hexec, attempts_accounted ⟨rfl, fun _ => rfl⟩ (Machine.exec_run hexec)⟩

end Pretzel.Mgmtd
