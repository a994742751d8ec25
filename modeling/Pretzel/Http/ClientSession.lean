import Pretzel.Collectord.ApiUtil
import Pretzel.Library.Machine

/-!
One outbound HTTPS exchange (`shared/http/HttpClientSession.cpp`).

* `sha256Fingerprint`, `sameFingerprint`: a fingerprint, and two of them compared.
* `ClientSession`: the session, with the operations under way, the calls of its
  handler and the peers its request was written to.
* `run`, `onResolve`, `onConnect`, `onHandshake`, `onWrite`, `onRead`: its phases.
* `clientSession`: the machine. Any operation under way may complete, well or not,
  and the timer may fire whenever it is armed.
* `Trusted`: a peer the request may be written to.
* `session_discipline`: **the handler is called once, when nothing is under way any
  more, and the request is written to trusted peers only.**
-/

namespace Pretzel.Http

open Texts Collectord Reactive

/-! ### Fingerprints -/

/-- A digit of `hex`. -/
def hexDigit (n : UInt8) : UInt8 := if n < 10 then 48 + n else 55 + n

/-- A byte in two digits. -/
def hexPair (b : UInt8) : Bytes := [hexDigit (b >>> 4), hexDigit (b &&& 15)]

/-- Bytes in pairs of digits, a colon between two. -/
def hexPairs : List UInt8 → Bytes
  | [] => []
  | [b] => hexPair b
  | b :: rest => hexPair b ++ 58 :: hexPairs rest

/-- `sha256Fingerprint`, of a certificate's digest: none without a certificate. -/
def sha256Fingerprint : Option (Vector UInt8 32) → Bytes
  | none => []
  | some md => hexPairs md.toList

/-- `isxdigit`. -/
def isxdigit (c : UInt8) : Bool :=
  (48 ≤ c && c ≤ 57) || (65 ≤ c && c ≤ 70) || (97 ≤ c && c ≤ 102)

/-- `toupper`. -/
def toupper (c : UInt8) : UInt8 := if 97 ≤ c && c ≤ 122 then c - 32 else c

/-- `canon`, of `sameFingerprint`. -/
def canon (s : Bytes) : Bytes := (s.filter isxdigit).map toupper

/-- `sameFingerprint`. -/
def sameFingerprint (a b : Bytes) : Bool := canon a ≠ [] && canon a = canon b

/-! ### The session -/

/-- The asynchronous operations. -/
inductive Op where
  | resolve
  | connect
  | handshake
  | write
  | read
deriving DecidableEq

/-- The peer of a handshake: whether its chain and host name were verified, and its
certificate. -/
structure Peer where
  verified : Bool
  digest : Option (Vector UInt8 32)
  subject : Bytes
deriving DecidableEq

/-- `ClientSession`. -/
structure ClientSession where
  req : ClientRequest
  out : ClientResponse := {}
  stage : String := "init"
  done : Bool := false
  /-- `verify_peer` is set. -/
  verifyPeer : Bool := false
  armed : Bool := false
  started : Bool := false
  underWay : List Op := []
  calls : List ClientResponse := []
  written : List Peer := []

namespace ClientSession

variable (s : ClientSession)

/-- `arm`. -/
def arm : ClientSession := { s with armed := true }

/-- `async_…`. -/
def initiate (op : Op) : ClientSession := { s with underWay := op :: s.underWay }

/-- `finish`. -/
def finish : ClientSession :=
  if s.done then s else { s with done := true, calls := s.calls ++ [s.out] }

/-- `fail`. -/
def fail (ec : Bytes) : ClientSession :=
  { s with out := { s.out with error := textBytes (s.stage ++ ": ") ++ ec } }.finish

/-- How the calls of `start` end: with a step of the chain under way, without the host
name set, after which the handler may throw, or with an exception. -/
inductive Setup where
  | ready
  | noSni (thrown : Option Bytes)
  | throws (what : Bytes)

/-- `start`, with the exception that leaves it. -/
def start : Setup → ClientSession × Option Bytes
  | .ready =>
      ((({ s with verifyPeer := s.req.verifyCa, stage := "resolve" } : ClientSession).arm).initiate
        .resolve, none)
  | .noSni thrown =>
      ({ s with out := { s.out with error := textBytes "failed to set TLS SNI hostname" } }.finish,
        thrown)
  | .throws what => (s, some what)

/-- `run`. -/
def run (setup : Setup) : ClientSession :=
  match s.start setup with
  | (s, none) => s
  | (s, some what) => { s with out := { s.out with error := what } }.finish

/-- `onResolve`. -/
def onResolve : Option Bytes → ClientSession
  | some ec => s.fail ec
  | none => (({ s with stage := "connect" } : ClientSession).arm).initiate .connect

/-- `onConnect`. -/
def onConnect : Option Bytes → ClientSession
  | some ec => s.fail ec
  | none => (({ s with stage := "handshake" } : ClientSession).arm).initiate .handshake

/-- The request, handed to the stream of a peer. -/
def writeRequest (peer : Peer) : ClientSession :=
  (({ s with stage := "write"
             out := { s.out with pinMatched := true, requestSent := true }
             written := s.written ++ [peer] } : ClientSession).arm).initiate .write

/-- `onHandshake`. -/
def onHandshake : Except Bytes Peer → ClientSession
  | .error ec => s.fail ec
  | .ok peer =>
      let fingerprint := sha256Fingerprint peer.digest
      let s := { s with out := { s.out with tlsOk := true, fingerprint, certSubject := peer.subject } }
      -- the pin gate
      if s.req.verifyCa then s.writeRequest peer
      else if s.req.expectedFingerprint = "" then s.finish
      else if sameFingerprint (textBytes s.req.expectedFingerprint) fingerprint then
        s.writeRequest peer
      else s.finish

/-- `onWrite`. -/
def onWrite : Option Bytes → ClientSession
  | some ec => s.fail ec
  | none => (({ s with stage := "read" } : ClientSession).arm).initiate .read

/-- `onRead`. -/
def onRead : Except Bytes (ℤ × Bytes) → ClientSession
  | .error ec => s.fail ec
  | .ok (status, body) => { s with out := { s.out with status, body } }.finish

end ClientSession

/-! ### The machine -/

/-- The steps: the session is run, the timer fires, and an operation completes. -/
inductive Label where
  | run (setup : ClientSession.Setup)
  | timer
  | resolved (ec : Option Bytes)
  | connected (ec : Option Bytes)
  | shaken (result : Except Bytes Peer)
  | wrote (ec : Option Bytes)
  | read (result : Except Bytes (ℤ × Bytes))

/-- The completion of an operation that is under way. -/
def complete (s : ClientSession) (op : Op) (handler : ClientSession → ClientSession) :
    Option ClientSession :=
  if op ∈ s.underWay then some (handler { s with underWay := s.underWay.erase op }) else none

/-- The session, over any completions. The timer closes the socket, which the
operation under way may still outrun. With `verify_peer` a handshake succeeds with a
verified peer only. -/
def clientSession : Machine ClientSession Label where
  init s := ∃ req, s = { req }
  next s
    | .run setup =>
        if s.started then none else some (({ s with started := true } : ClientSession).run setup)
    | .timer => if s.armed then some { s with armed := false } else none
    | .resolved ec => complete s .resolve fun s => s.onResolve ec
    | .connected ec => complete s .connect fun s => s.onConnect ec
    | .shaken (.error ec) => complete s .handshake fun s => s.onHandshake (.error ec)
    | .shaken (.ok peer) =>
        if s.verifyPeer && !peer.verified then none
        else complete s .handshake fun s => s.onHandshake (.ok peer)
    | .wrote ec => complete s .write fun s => s.onWrite ec
    | .read result => complete s .read fun s => s.onRead result

/-! ### Fingerprints compared -/

lemma canon_append (a b : Bytes) : canon (a ++ b) = canon a ++ canon b := by
  rw [canon, List.filter_append, List.map_append, canon, canon]

lemma canon_hexDigit {n : UInt8} (h : n.toNat < 16) :
    isxdigit (hexDigit n) = true ∧ toupper (hexDigit n) = hexDigit n := by
  have hall : ∀ i : Fin 16, isxdigit (hexDigit (UInt8.ofNat i)) = true ∧
      toupper (hexDigit (UInt8.ofNat i)) = hexDigit (UInt8.ofNat i) := by decide
  have hn := hall ⟨n.toNat, h⟩
  rwa [UInt8.ofNat_toNat] at hn

lemma canon_hexPair (b : UInt8) : canon (hexPair b) = hexPair b := by
  have hhigh : (b >>> 4).toNat < 16 := by
    have hb := b.toNat_lt
    rw [UInt8.toNat_shiftRight, Nat.shiftRight_eq_div_pow]
    show b.toNat / 2 ^ 4 < 16
    omega
  have hlow : (b &&& 15).toNat < 16 := by
    rw [UInt8.toNat_and]
    exact lt_of_le_of_lt Nat.and_le_right (by decide)
  obtain ⟨hhigh, hhigh'⟩ := canon_hexDigit hhigh
  obtain ⟨hlow, hlow'⟩ := canon_hexDigit hlow
  rw [canon, hexPair, List.filter_cons_of_pos hhigh, List.filter_cons_of_pos hlow, List.filter_nil,
    List.map_cons, List.map_cons, List.map_nil, hhigh', hlow']

/-- What is compared of a fingerprint: the digits of the digest. -/
lemma canon_hexPairs (md : List UInt8) : canon (hexPairs md) = md.flatMap hexPair := by
  induction md with
  | nil => rfl
  | cons b rest ih =>
      cases rest with
      | nil => rw [hexPairs, canon_hexPair, List.flatMap_cons, List.flatMap_nil, List.append_nil]
      | cons c rest =>
          have hcolon : canon (58 :: hexPairs (c :: rest)) = canon (hexPairs (c :: rest)) := by
            rw [canon, List.filter_cons_of_neg (by decide), canon]
          rw [hexPairs, canon_append, canon_hexPair, hcolon, ih]
          · rfl
          · exact fun h => by cases h

/-- A peer the request may be written to: verified against the CA, or with a certificate
whose digest is the configured pin. -/
def Trusted (req : ClientRequest) (p : Peer) : Prop :=
  (req.verifyCa = true ∧ p.verified = true) ∨
    (req.verifyCa = false ∧ req.expectedFingerprint ≠ "" ∧ ∃ md, p.digest = some md ∧
      canon (textBytes req.expectedFingerprint) = md.toList.flatMap hexPair)

/-- A pin that is matched is matched by a certificate. -/
lemma digest_of_sameFingerprint {pin : Bytes} {digest : Option (Vector UInt8 32)}
    (h : sameFingerprint pin (sha256Fingerprint digest) = true) :
    ∃ md, digest = some md ∧ canon pin = md.toList.flatMap hexPair := by
  simp only [sameFingerprint, Bool.and_eq_true, decide_eq_true_eq] at h
  obtain ⟨hne, heq⟩ := h
  cases digest with
  | none => exact absurd heq hne
  | some md => exact ⟨md, rfl, heq.trans (canon_hexPairs md.toList)⟩

/-! ### The invariant -/

/-- Where a session is: not run yet, with one operation under way, or settled. -/
inductive Phase (s : ClientSession) : Prop where
  | idle : s.started = false → s.underWay = [] → s.calls = [] → s.done = false → Phase s
  | busy (op : Op) : s.started = true → s.underWay = [op] → s.calls = [] → s.done = false → Phase s
  | settled : s.started = true → s.underWay = [] → s.calls.length = 1 → s.done = true → Phase s

/-- What holds between steps. -/
structure Orderly (req : ClientRequest) (s : ClientSession) : Prop where
  req_eq : s.req = req
  phase : Phase s
  mode : s.underWay ≠ [] → s.verifyPeer = req.verifyCa
  trusted : ∀ p ∈ s.written, Trusted req p

/-- What holds where a handler starts: its operation is no longer under way. -/
structure Entered (req : ClientRequest) (s : ClientSession) : Prop where
  req_eq : s.req = req
  started : s.started = true
  underWay : s.underWay = []
  calls : s.calls = []
  done : s.done = false
  trusted : ∀ p ∈ s.written, Trusted req p

section Invariant

variable {req : ClientRequest} {s s' : ClientSession}

lemma Phase.congr (h : Phase s) (hstarted : s'.started = s.started)
    (hunderWay : s'.underWay = s.underWay) (hcalls : s'.calls = s.calls)
    (hdone : s'.done = s.done) : Phase s' := by
  cases h with
  | idle h₁ h₂ h₃ h₄ =>
      exact .idle (hstarted.trans h₁) (hunderWay.trans h₂) (hcalls.trans h₃) (hdone.trans h₄)
  | busy op h₁ h₂ h₃ h₄ =>
      exact .busy op (hstarted.trans h₁) (hunderWay.trans h₂) (hcalls.trans h₃) (hdone.trans h₄)
  | settled h₁ h₂ h₃ h₄ =>
      refine .settled (hstarted.trans h₁) (hunderWay.trans h₂) ?_ (hdone.trans h₄)
      rw [hcalls]
      exact h₃

lemma Entered.withOut (h : Entered req s) (out : ClientResponse) : Entered req { s with out } :=
  ⟨h.req_eq, h.started, h.underWay, h.calls, h.done, h.trusted⟩

lemma orderly_finish (h : Entered req s) : Orderly req s.finish := by
  rw [ClientSession.finish, h.done]
  refine ⟨h.req_eq, .settled h.started h.underWay ?_ rfl, fun hne => absurd h.underWay hne, h.trusted⟩
  show (s.calls ++ [s.out]).length = 1
  rw [h.calls]
  rfl

lemma orderly_fail (h : Entered req s) (ec : Bytes) : Orderly req (s.fail ec) :=
  orderly_finish (h.withOut _)

/-- A settled session finishes once more without a call. -/
lemma finish_of_done (h : s.done = true) : s.finish = s := by
  rw [ClientSession.finish, h]
  rfl

lemma done_finish (s : ClientSession) : s.finish.done = true := by
  rw [ClientSession.finish]
  split
  · next hdone => exact hdone
  · rfl

lemma Orderly.withOut (h : Orderly req s) (out : ClientResponse) : Orderly req { s with out } :=
  ⟨h.req_eq, h.phase.congr rfl rfl rfl rfl, h.mode, h.trusted⟩

lemma orderly_finish_again (h : Orderly req s) (hdone : s.done = true) (out : ClientResponse) :
    Orderly req ({ s with out } : ClientSession).finish := by
  have hdone' : ({ s with out } : ClientSession).done = true := hdone
  rw [finish_of_done hdone']
  exact h.withOut out

lemma orderly_initiate (h : Entered req s) (hmode : s.verifyPeer = req.verifyCa) (stage : String)
    (op : Op) : Orderly req (({ s with stage } : ClientSession).arm.initiate op) := by
  refine ⟨h.req_eq, .busy op h.started ?_ h.calls h.done, fun _ => hmode, h.trusted⟩
  show op :: s.underWay = [op]
  rw [h.underWay]

lemma orderly_writeRequest (h : Entered req s) (hmode : s.verifyPeer = req.verifyCa) {peer : Peer}
    (hpeer : Trusted req peer) : Orderly req (s.writeRequest peer) := by
  refine ⟨h.req_eq, .busy .write h.started ?_ h.calls h.done, fun _ => hmode, fun p hp => ?_⟩
  · show Op.write :: s.underWay = [.write]
    rw [h.underWay]
  · rcases List.mem_append.mp hp with hp | hp
    · exact h.trusted p hp
    · obtain rfl := List.mem_singleton.mp hp
      exact hpeer

/-- **The start**, whatever of it fails. -/
lemma orderly_run (h : Entered req s) (setup : ClientSession.Setup) :
    Orderly req (s.run setup) := by
  cases setup with
  | ready =>
      have hset : Entered req { s with verifyPeer := s.req.verifyCa } :=
        ⟨h.req_eq, h.started, h.underWay, h.calls, h.done, h.trusted⟩
      exact orderly_initiate hset (congrArg ClientRequest.verifyCa h.req_eq) "resolve" .resolve
  | noSni thrown =>
      have hfinish := orderly_finish (h.withOut
        { s.out with error := textBytes "failed to set TLS SNI hostname" })
      cases thrown with
      | none => exact hfinish
      | some what =>
          -- the exception of the handler is caught, and the session is done
          exact orderly_finish_again hfinish (done_finish _) _
  | throws what => exact orderly_finish (h.withOut _)

/-- **The pin gate.** -/
lemma orderly_onHandshake (h : Entered req s) (hmode : s.verifyPeer = req.verifyCa)
    {result : Except Bytes Peer}
    (hverified : ∀ peer, result = .ok peer → s.verifyPeer = true → peer.verified = true) :
    Orderly req (s.onHandshake result) := by
  cases result with
  | error ec => exact orderly_fail h ec
  | ok peer =>
      rw [ClientSession.onHandshake]
      dsimp only
      generalize { s.out with
        tlsOk := true, fingerprint := sha256Fingerprint peer.digest, certSubject := peer.subject } = out
      have hout := h.withOut out
      have hreq : s.req = req := h.req_eq
      split
      · next hca =>
          rw [hreq] at hca
          exact orderly_writeRequest hout hmode
            (.inl ⟨hca, hverified peer rfl (hmode.trans hca)⟩)
      next hca =>
      split
      · exact orderly_finish hout
      next hpin =>
      split
      · next hsame =>
          rw [hreq] at hca hpin hsame
          exact orderly_writeRequest hout hmode
            (.inr ⟨Bool.eq_false_iff.mpr hca, hpin, digest_of_sameFingerprint hsame⟩)
      · exact orderly_finish hout

/-- An operation that completes was the only one under way. -/
lemma entered_of_complete {op : Op} {handler : ClientSession → ClientSession}
    (h : Orderly req s) (hs : complete s op handler = some s') :
    Entered req { s with underWay := [] } ∧ s.verifyPeer = req.verifyCa ∧ s.underWay = [op] ∧
      s' = handler { s with underWay := [] } := by
  simp only [complete, Option.ite_none_right_eq_some, Option.some.injEq] at hs
  obtain ⟨hmem, rfl⟩ := hs
  cases h.phase with
  | idle _ hnone => exact absurd hmem (by simp [hnone])
  | settled _ hnone => exact absurd hmem (by simp [hnone])
  | busy op' hstarted hone hcalls hdone =>
      rw [hone, List.mem_singleton] at hmem
      subst hmem
      refine ⟨⟨h.req_eq, hstarted, rfl, hcalls, hdone, h.trusted⟩, h.mode (by simp [hone]), hone, ?_⟩
      rw [hone, List.erase_cons_head]

/-- **Every step keeps the invariant.** -/
theorem orderly_next {l : Label} (h : Orderly req s) (hs : clientSession.next s l = some s') :
    Orderly req s' := by
  cases l with
  | run setup =>
      simp only [clientSession, Option.ite_none_left_eq_some, Option.some.injEq] at hs
      obtain ⟨hnot, rfl⟩ := hs
      refine orderly_run ?_ setup
      cases h.phase with
      | idle _ hnone hcalls hdone => exact ⟨h.req_eq, rfl, hnone, hcalls, hdone, h.trusted⟩
      | busy _ hstarted => exact absurd hstarted hnot
      | settled hstarted => exact absurd hstarted hnot
  | timer =>
      simp only [clientSession, Option.ite_none_right_eq_some, Option.some.injEq] at hs
      obtain ⟨-, rfl⟩ := hs
      exact ⟨h.req_eq, h.phase.congr rfl rfl rfl rfl, h.mode, h.trusted⟩
  | resolved ec =>
      simp only [clientSession] at hs
      obtain ⟨hentered, hmode, -, rfl⟩ := entered_of_complete h hs
      cases ec with
      | none => exact orderly_initiate hentered hmode "connect" .connect
      | some ec => exact orderly_fail hentered ec
  | connected ec =>
      simp only [clientSession] at hs
      obtain ⟨hentered, hmode, -, rfl⟩ := entered_of_complete h hs
      cases ec with
      | none => exact orderly_initiate hentered hmode "handshake" .handshake
      | some ec => exact orderly_fail hentered ec
  | shaken result =>
      cases result with
      | error ec =>
          simp only [clientSession] at hs
          obtain ⟨hentered, -, -, rfl⟩ := entered_of_complete h hs
          exact orderly_fail hentered ec
      | ok peer =>
          simp only [clientSession, Option.ite_none_left_eq_some] at hs
          obtain ⟨hverified, hs⟩ := hs
          obtain ⟨hentered, hmode, -, rfl⟩ := entered_of_complete h hs
          refine orderly_onHandshake hentered hmode fun peer' hpeer hverify => ?_
          cases hpeer
          have hverify' : s.verifyPeer = true := hverify
          simpa [hverify'] using hverified
  | wrote ec =>
      simp only [clientSession] at hs
      obtain ⟨hentered, hmode, -, rfl⟩ := entered_of_complete h hs
      cases ec with
      | none => exact orderly_initiate hentered hmode "read" .read
      | some ec => exact orderly_fail hentered ec
  | read result =>
      simp only [clientSession] at hs
      obtain ⟨hentered, -, -, rfl⟩ := entered_of_complete h hs
      cases result with
      | error ec => exact orderly_fail hentered ec
      | ok answer => exact orderly_finish (hentered.withOut _)

end Invariant

/-! ### The end of a run -/

/-- An operation completes. -/
def completes (p : ClientSession × Label) : Bool :=
  match p.2 with
  | .run _ | .timer => false
  | _ => true

/-- How many operations may still follow, with the one under way. -/
def Op.rank : Op → ℕ
  | .resolve => 5
  | .connect => 4
  | .handshake => 3
  | .write => 2
  | .read => 1

/-- How many operations may still complete. -/
def left (s : ClientSession) : ℕ :=
  (s.underWay.map Op.rank).sum + if s.started then 0 else 5

section Budget

variable (s : ClientSession)

lemma left_finish : left s.finish = left s := by
  rw [ClientSession.finish]
  split <;> rfl

lemma left_fail (ec : Bytes) : left (s.fail ec) = left s := left_finish _

lemma written_finish : s.finish.written = s.written := by
  rw [ClientSession.finish]
  split <;> rfl

lemma written_fail (ec : Bytes) : (s.fail ec).written = s.written := written_finish _

lemma left_initiate (op : Op) : left (s.initiate op) = left s + op.rank := by
  show op.rank + (s.underWay.map Op.rank).sum + (if s.started then 0 else 5) = left s + op.rank
  rw [left]
  omega

lemma left_onResolve (ec : Option Bytes) : left (s.onResolve ec) ≤ left s + 4 := by
  cases ec with
  | some ec => exact (left_fail s ec).le.trans (Nat.le_add_right _ _)
  | none => exact (left_initiate _ .connect).le

lemma left_onConnect (ec : Option Bytes) : left (s.onConnect ec) ≤ left s + 3 := by
  cases ec with
  | some ec => exact (left_fail s ec).le.trans (Nat.le_add_right _ _)
  | none => exact (left_initiate _ .handshake).le

/-- The handshake's handler writes to its peer or to nobody. -/
lemma onHandshake_cases (result : Except Bytes Peer) :
    left (s.onHandshake result) ≤ left s + 2 ∧
      ((s.onHandshake result).written = s.written ∨
        ∃ peer, result = .ok peer ∧ (s.onHandshake result).written = s.written ++ [peer]) := by
  cases result with
  | error ec => exact ⟨(left_fail s ec).le.trans (Nat.le_add_right _ _), .inl (written_fail s ec)⟩
  | ok peer =>
      rw [ClientSession.onHandshake]
      dsimp only
      generalize { s.out with
        tlsOk := true, fingerprint := sha256Fingerprint peer.digest, certSubject := peer.subject } = out
      split
      · exact ⟨(left_initiate _ .write).le, .inr ⟨peer, rfl, rfl⟩⟩
      split
      · exact ⟨(left_finish _).le.trans (Nat.le_add_right _ _), .inl (written_finish _)⟩
      split
      · exact ⟨(left_initiate _ .write).le, .inr ⟨peer, rfl, rfl⟩⟩
      · exact ⟨(left_finish _).le.trans (Nat.le_add_right _ _), .inl (written_finish _)⟩

lemma left_onWrite (ec : Option Bytes) : left (s.onWrite ec) ≤ left s + 1 := by
  cases ec with
  | some ec => exact (left_fail s ec).le.trans (Nat.le_add_right _ _)
  | none => exact (left_initiate _ .read).le

lemma left_onRead (result : Except Bytes (ℤ × Bytes)) : left (s.onRead result) ≤ left s + 0 := by
  cases result with
  | error ec => exact (left_fail s ec).le
  | ok answer => exact (left_finish _).le

variable {s} {s' : ClientSession}

/-- A completion takes one of those that may still be. -/
lemma left_complete {op : Op} {handler : ClientSession → ClientSession} {more : ℕ}
    (hs : complete s op handler = some s') (hhandler : ∀ u, left (handler u) ≤ left u + more)
    (hmore : more + 1 ≤ op.rank) : left s' + 1 ≤ left s := by
  simp only [complete, Option.ite_none_right_eq_some, Option.some.injEq] at hs
  obtain ⟨hmem, rfl⟩ := hs
  have hsum := List.sum_map_erase Op.rank hmem
  have hbound := hhandler { s with underWay := s.underWay.erase op }
  simp only [left] at hbound ⊢
  omega

lemma left_run (setup : ClientSession.Setup) :
    left (({ s with started := true } : ClientSession).run setup)
      ≤ left ({ s with started := true } : ClientSession) + 5 := by
  cases setup with
  | ready => exact (left_initiate _ .resolve).le
  | noSni thrown =>
      cases thrown with
      | none => exact (left_finish _).le.trans (Nat.le_add_right _ _)
      | some what =>
          refine le_trans (le_of_eq ?_) (Nat.le_add_right _ _)
          exact (left_finish _).trans (left_finish _)
  | throws what => exact (left_finish _).le.trans (Nat.le_add_right _ _)

/-- **The budget of a step.** -/
lemma left_next {l : Label} (hs : clientSession.next s l = some s') :
    left s' + (completes (s, l)).toNat ≤ left s + (false : Bool).toNat := by
  cases l with
  | run setup =>
      simp only [clientSession, Option.ite_none_left_eq_some, Option.some.injEq] at hs
      obtain ⟨hnot, rfl⟩ := hs
      have hrun := @left_run s setup
      have hfresh : left s = left ({ s with started := true } : ClientSession) + 5 := by
        simp [left, hnot]
      rw [hfresh]
      exact hrun
  | timer =>
      simp only [clientSession, Option.ite_none_right_eq_some, Option.some.injEq] at hs
      obtain ⟨-, rfl⟩ := hs
      exact le_refl _
  | resolved ec =>
      simp only [clientSession] at hs
      exact left_complete hs (fun u => left_onResolve u ec) (by decide)
  | connected ec =>
      simp only [clientSession] at hs
      exact left_complete hs (fun u => left_onConnect u ec) (by decide)
  | shaken result =>
      cases result with
      | error ec =>
          simp only [clientSession] at hs
          exact left_complete hs (fun u => (onHandshake_cases u _).1) (by decide)
      | ok peer =>
          simp only [clientSession, Option.ite_none_left_eq_some] at hs
          exact left_complete hs.2 (fun u => (onHandshake_cases u _).1) (by decide)
  | wrote ec =>
      simp only [clientSession] at hs
      exact left_complete hs (fun u => left_onWrite u ec) (by decide)
  | read result =>
      simp only [clientSession] at hs
      exact left_complete hs (fun u => left_onRead u result) (by decide)

lemma written_complete {op : Op} {handler : ClientSession → ClientSession}
    (hs : complete s op handler = some s') (hhandler : ∀ u, (handler u).written = u.written) :
    s'.written = s.written := by
  simp only [complete, Option.ite_none_right_eq_some, Option.some.injEq] at hs
  obtain ⟨-, rfl⟩ := hs
  exact hhandler _

/-- **The request is written to the peer of a handshake.** -/
lemma written_next {l : Label} (hs : clientSession.next s l = some s') :
    ∀ p ∈ s'.written, p ∈ s.written ∨ l = .shaken (.ok p) := by
  have hsame : s'.written = s.written → ∀ p ∈ s'.written, p ∈ s.written ∨ l = .shaken (.ok p) :=
    fun heq p hp => .inl (heq ▸ hp)
  cases l with
  | run setup =>
      simp only [clientSession, Option.ite_none_left_eq_some, Option.some.injEq] at hs
      obtain ⟨-, rfl⟩ := hs
      refine hsame ?_
      cases setup with
      | ready => rfl
      | noSni thrown =>
          cases thrown with
          | none => exact written_finish _
          | some what => exact (written_finish _).trans (written_finish _)
      | throws what => exact written_finish _
  | timer =>
      simp only [clientSession, Option.ite_none_right_eq_some, Option.some.injEq] at hs
      obtain ⟨-, rfl⟩ := hs
      exact hsame rfl
  | resolved ec =>
      simp only [clientSession] at hs
      refine hsame (written_complete hs fun u => ?_)
      cases ec with
      | none => rfl
      | some ec => exact written_fail u ec
  | connected ec =>
      simp only [clientSession] at hs
      refine hsame (written_complete hs fun u => ?_)
      cases ec with
      | none => rfl
      | some ec => exact written_fail u ec
  | shaken result =>
      cases result with
      | error ec =>
          simp only [clientSession] at hs
          exact hsame (written_complete hs fun u => written_fail u ec)
      | ok peer =>
          simp only [clientSession, complete, Option.ite_none_left_eq_some,
            Option.ite_none_right_eq_some, Option.some.injEq] at hs
          obtain ⟨-, -, rfl⟩ := hs
          intro p hp
          rcases (onHandshake_cases { s with underWay := s.underWay.erase .handshake } _).2 with
            heq | ⟨peer', hpeer, heq⟩
          · exact .inl (heq ▸ hp)
          · cases hpeer
            rw [heq, List.mem_append, List.mem_singleton] at hp
            rcases hp with hp | rfl
            · exact .inl hp
            · exact .inr rfl
  | wrote ec =>
      simp only [clientSession] at hs
      refine hsame (written_complete hs fun u => ?_)
      cases ec with
      | none => rfl
      | some ec => exact written_fail u ec
  | read result =>
      simp only [clientSession] at hs
      refine hsame (written_complete hs fun u => ?_)
      cases result with
      | error ec => exact written_fail u ec
      | ok answer => exact written_finish _

end Budget

/-! ### Whole runs -/

/-- The discipline of a session, at the end of a run. -/
structure Disciplined (s : ClientSession) (tr : List (ClientSession × Label)) (t : ClientSession) :
    Prop where
  once : t.calls.length = if t.started = true ∧ t.underWay = [] then 1 else 0
  ends : tr.countP completes ≤ 5
  written : ∀ p ∈ t.written, Trusted s.req p ∧ ∃ q ∈ tr, q.2 = .shaken (.ok p)

section Runs

variable {s t : ClientSession} {tr : List (ClientSession × Label)}

lemma orderly_init (h : clientSession.init s) : Orderly s.req s := by
  obtain ⟨req, rfl⟩ := h
  exact ⟨rfl, .idle rfl rfl rfl rfl, fun hne => absurd rfl hne,
    fun p hp => absurd hp List.not_mem_nil⟩

lemma shaken_of_written (h0 : clientSession.init s) (h : clientSession.Run s tr t) :
    ∀ p ∈ t.written, ∃ q ∈ tr, q.2 = .shaken (.ok p) := by
  induction h with
  | nil =>
      obtain ⟨req, rfl⟩ := h0
      exact fun p hp => absurd hp List.not_mem_nil
  | @snoc tr t t' l hrun hl ih =>
      intro p hp
      rcases written_next hl p hp with hp | rfl
      · obtain ⟨q, hq, hlabel⟩ := ih p hp
        exact ⟨q, List.mem_append_left _ hq, hlabel⟩
      · exact ⟨(t, .shaken (.ok p)), List.mem_append_right _ List.mem_cons_self, rfl⟩

/-- **The discipline of a session**: over every order of completions the handler is
called exactly once, as soon as nothing is under way any more, which is after five
completions at most, and the request is written only behind a handshake with a peer that
is trusted. -/
theorem session_discipline (h0 : clientSession.init s) (h : clientSession.Run s tr t) :
    Disciplined s tr t := by
  have horderly : Orderly s.req t :=
    h.invariant (orderly_init h0) fun u l u' hu hs => orderly_next hu hs
  refine ⟨?_, ?_, fun p hp => ⟨horderly.trusted p hp, shaken_of_written h0 h p hp⟩⟩
  · cases horderly.phase with
    | idle hstarted _ hcalls _ => simp [hstarted, hcalls]
    | busy op _ hone hcalls _ => simp [hone, hcalls]
    | settled hstarted hnone hcalls _ => simp [hstarted, hnone, hcalls]
  · have hbudget : left t + tr.countP completes ≤ left s + tr.countP fun _ => false :=
      h.budget fun u l u' hs => left_next hs
    have hnone : (tr.countP fun _ => false) = 0 := List.countP_eq_zero.mpr fun _ _ => nofun
    have hfresh : left s = 5 := by
      obtain ⟨req, rfl⟩ := h0
      rfl
    omega

end Runs

namespace Sample

/-- A certificate with a digest of 32 times `0xAB`. -/
def device : Peer where
  verified := false
  digest := some (.replicate 32 171)
  subject := []

/-- A session pinned to it, in small letters and without colons. -/
def pinned : ClientSession where
  req := { host := "fw", expectedFingerprint := String.join (List.replicate 32 "ab") }

/-- A whole exchange with it, the timer in between. -/
def exchange : List Label :=
  [.run .ready, .resolved none, .connected none, .shaken (.ok device), .timer, .wrote none,
    .read (.ok (200, []))]

lemma exec_exchange : (clientSession.exec pinned exchange).map
    (fun t => (t.written, t.calls.map (·.status))) = some ([device], [200]) := by
  decide

end Sample

/-- The discipline on an exchange with a pinned peer. -/
theorem session_discipline_pinned : ∃ t, clientSession.exec Sample.pinned Sample.exchange = some t ∧
    t.written = [Sample.device] ∧
    Disciplined Sample.pinned (clientSession.trace Sample.pinned Sample.exchange) t := by
  obtain ⟨t, hexec, hend⟩ := Option.map_eq_some_iff.mp Sample.exec_exchange
  exact ⟨t, hexec, congrArg Prod.fst hend,
    session_discipline ⟨_, rfl⟩ (Machine.exec_run hexec)⟩

end Pretzel.Http
