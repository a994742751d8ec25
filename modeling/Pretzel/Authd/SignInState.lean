import Pretzel.Authd.OktaClient
import Pretzel.Library.Machine

/-!
The states of the sign-ins, over every run of starts and exchanges.

* `okta`: the machine. The generator draws no state twice.
* `takes`: a step that takes a transaction up. `Issues`: a step that hands out a
  state with its nonce, up to a time.
* `state_used_once`: a state is taken up once at most, was handed out before,
  within its time, and the token it is taken up for carries its nonce.
-/

namespace Pretzel.Authd.OktaClient

open Nlohmann Texts Reactive

/-- The client, and the states that were drawn. -/
structure Okta where
  client : OktaClient
  drawn : List String := []
deriving DecidableEq

/-- What authd does with the client. -/
inductive Label where
  | configure (cfg : Config)
  | start (t : UInt64) (draws : Draws)
  | exchange (net : Net) (code state : String)

/-- The client of authd. An exception leaves what was done before it. -/
def okta (sha256Raw : List UInt8 → List UInt8) : Machine Okta Label where
  init s := ∃ cfg, s = { client := configure cfg }
  next s
    | .configure cfg => some { s with client := configure cfg }
    | .start t draws =>
        if draws.state.text ∈ s.drawn then none
        else some { client := (buildAuthorizeUrl sha256Raw t draws s.client).2
                    drawn := draws.state.text :: s.drawn }
    | .exchange net code state =>
        some { s with client := (exchangeAndVerify net code state s.client).2 }

/-- The step takes up the transaction of the state. -/
def takes (state : String) (p : Okta × Label) : Bool :=
  match p.2 with
  | .exchange net _ x => x = state && (takenUp net.now x p.1.client).isSome
  | _ => false

/-- The step draws the state. -/
def draws (state : String) (p : Okta × Label) : Bool :=
  match p.2 with
  | .start _ draws => draws.state.text = state
  | _ => false

/-- The step hands out the state with the nonce, up to the time. -/
def Issues (sha256Raw : List UInt8 → List UInt8) (state nonce : String) (deadline : ℕ)
    (q : Okta × Label) : Prop :=
  ∃ t draws r, q.2 = .start t draws ∧ (buildAuthorizeUrl sha256Raw t draws q.1.client).1 = .ok r ∧
    r.success = true ∧ r.state = state ∧ draws.nonce.text = nonce ∧
    deadline = t.toNat + q.1.client.cfg.txnTtlSec.toNat

/-- A transaction of the state is under way. -/
def underWay (state : String) (s : Okta) : ℕ := if state ∈ s.client.txns.map Prod.fst then 1 else 0

/-- The state can still be drawn. -/
def unused (state : String) (s : Okta) : ℕ := if state ∈ s.drawn then 0 else 1

section Runs

variable {sha256Raw : List UInt8 → List UInt8} {s s' : Okta} {l : Label}
  {tr : List (Okta × Label)}

lemma underWay_le_one (state : String) (s : Okta) : underWay state s ≤ 1 := by
  rw [underWay]
  split <;> omega

lemma underWay_eq_zero {state : String} :
    underWay state s = 0 ↔ ∀ p ∈ s.client.txns, p.1 ≠ state := by
  simp only [underWay, List.mem_map, ite_eq_right_iff, one_ne_zero, imp_false, not_exists, not_and]

/-- Where every transaction was there before, none of the state is new. -/
lemma underWay_mono {state : String} (h : ∀ p ∈ s'.client.txns, p.1 = state → p ∈ s.client.txns) :
    underWay state s' ≤ underWay state s := by
  by_cases hnone : underWay state s = 0
  · rw [underWay_eq_zero] at hnone
    have hnone' : underWay state s' = 0 := by
      rw [underWay_eq_zero]
      exact fun p hp heq => hnone p (h p hp heq) heq
    omega
  · have hle := underWay_le_one state s'
    omega

/-- A transaction is taken up from those under way, and put there by a draw. -/
lemma underWay_step (state : String) (h : (okta sha256Raw).next s l = some s') :
    underWay state s' + (takes state (s, l)).toNat ≤ underWay state s + (draws state (s, l)).toNat := by
  cases l with
  | configure cfg =>
      cases h
      have hnone : underWay state { s with client := configure cfg } = 0 := by
        rw [underWay_eq_zero]
        rintro p ⟨⟩
      simp only [takes, Bool.toNat_false]
      omega
  | start t d =>
      simp only [okta, Option.ite_none_left_eq_some, Option.some.injEq] at h
      obtain ⟨-, rfl⟩ := h
      simp only [takes, draws, Bool.toNat_false, Nat.add_zero]
      by_cases hdrawn : d.state.text = state
      · rw [decide_eq_true hdrawn, Bool.toNat_true]
        exact le_trans (underWay_le_one _ _) (Nat.le_add_left 1 _)
      · refine le_trans (underWay_mono fun p hp heq => ?_) (Nat.le_add_right _ _)
        rcases start_cases sha256Raw t d s.client with hsame | ⟨-, hnew⟩
        · rwa [hsame] at hp
        · rcases hnew p hp with hp | rfl
          · exact hp
          · exact absurd heq hdrawn
  | exchange net code x =>
      cases h
      simp only [draws, Bool.toNat_false, Nat.add_zero]
      rcases exchange_cases net code x s.client with ⟨hnone, hkept, -⟩ | ⟨txn, htaken, hmem, -, -, hleft⟩
      · simp only [takes, hnone, Option.isSome_none, Bool.and_false, Bool.toNat_false, Nat.add_zero]
        exact underWay_mono fun p hp _ => hkept p hp
      · simp only [takes, htaken, Option.isSome_some, Bool.and_true]
        by_cases hx : x = state
        · subst hx
          have hgone : underWay x { s with client := (exchangeAndVerify net code x s.client).2 } = 0 := by
            rw [underWay_eq_zero]
            exact fun p hp => (hleft p hp).2
          have hthere : underWay x s ≠ 0 := by
            rw [Ne, underWay_eq_zero]
            exact fun hnone => hnone _ hmem rfl
          rw [decide_eq_true rfl, Bool.toNat_true]
          omega
        · rw [decide_eq_false hx, Bool.toNat_false, Nat.add_zero]
          exact underWay_mono fun p hp _ => (hleft p hp).1

/-- No state is drawn twice. -/
lemma unused_step (state : String) (h : (okta sha256Raw).next s l = some s') :
    unused state s' + (draws state (s, l)).toNat ≤ unused state s + (false : Bool).toNat := by
  cases l with
  | configure cfg =>
      cases h
      exact le_refl _
  | start t d =>
      simp only [okta, Option.ite_none_left_eq_some, Option.some.injEq] at h
      obtain ⟨hfresh, rfl⟩ := h
      simp only [unused, draws, List.mem_cons, Bool.toNat_false, Nat.add_zero]
      by_cases hdrawn : d.state.text = state
      · subst hdrawn
        simp [hfresh]
      · simp [hdrawn, Ne.symm hdrawn]
  | exchange net code x =>
      cases h
      exact le_refl _

/-- Where the transactions under way come from. -/
lemma issued_of_run (hinit : (okta sha256Raw).init s) (hrun : (okta sha256Raw).Run s tr s') :
    ∀ p ∈ s'.client.txns, ∃ q ∈ tr, ∃ deadline, Issues sha256Raw p.1 p.2.nonce deadline q ∧
      p.2.expiresAt.toNat ≤ deadline ∧ p.2.nonce ≠ "" := by
  induction hrun with
  | nil =>
      obtain ⟨cfg, rfl⟩ := hinit
      rintro p ⟨⟩
  | @snoc tr t t' l _ hnext ih =>
      have hold : ∀ p ∈ t.client.txns, ∃ q ∈ tr ++ [(t, l)], ∃ deadline,
          Issues sha256Raw p.1 p.2.nonce deadline q ∧ p.2.expiresAt.toNat ≤ deadline ∧
            p.2.nonce ≠ "" := by
        intro p hp
        obtain ⟨q, hq, hissues⟩ := ih p hp
        exact ⟨q, List.mem_append_left _ hq, hissues⟩
      cases l with
      | configure cfg =>
          cases hnext
          rintro p ⟨⟩
      | start at' d =>
          simp only [okta, Option.ite_none_left_eq_some, Option.some.injEq] at hnext
          obtain ⟨-, rfl⟩ := hnext
          intro p hp
          rcases start_cases sha256Raw at' d t.client with hsame | ⟨⟨r, hr, hsuccess, hstate⟩, hnew⟩
          · rw [hsame] at hp
            exact hold p hp
          · rcases hnew p hp with hp | rfl
            · exact hold p hp
            · refine ⟨(t, .start at' d), by simp, _, ⟨at', d, r, rfl, hr, hsuccess, hstate, rfl, rfl⟩,
                ?_, ?_⟩
              · rw [UInt64.toNat_add]
                exact Nat.mod_le _ _
              · intro hempty
                have hempty : d.nonce.text = "" := hempty
                have hlength := d.nonce.length
                rw [hempty] at hlength
                cases hlength
      | exchange net code x =>
          cases hnext
          intro p hp
          rcases exchange_cases net code x t.client with ⟨-, hkept, -⟩ | ⟨txn, -, -, -, -, hleft⟩
          · exact hold p (hkept p hp)
          · exact hold p (hleft p hp).1

/-- **A state is used once**, was handed out before, is taken up within its time, and
the token it is taken up for carries the nonce it was handed out with; an exchange
with any other state fails. -/
theorem state_used_once (hinit : (okta sha256Raw).init s) (hrun : (okta sha256Raw).Run s tr s') :
    (∀ state, tr.countP (takes state) ≤ 1) ∧
      ∀ before p after net code state, tr = before ++ p :: after → p.2 = .exchange net code state →
        (takenUp net.now state p.1.client = none ∧
          ∀ r, (exchangeAndVerify net code state p.1.client).1 = .ok r → r.success = false) ∨
        ∃ txn, takenUp net.now state p.1.client = some txn ∧
          (∃ q ∈ before, ∃ deadline, Issues sha256Raw state txn.nonce deadline q ∧
            net.now.toNat ≤ deadline) ∧
          ∀ r, (exchangeAndVerify net code state p.1.client).1 = .ok r → r.success = true →
            AnswersNonce p.1.client.cfg net code txn := by
  refine ⟨fun state => ?_, ?_⟩
  · have htaken := hrun.budget fun t l t' h => underWay_step state h
    have hdrawn : unused state s' + tr.countP (draws state) ≤
        unused state s + tr.countP (fun _ => false) :=
      hrun.budget fun t l t' h => unused_step state h
    have hnever : tr.countP (fun _ => false) = 0 := by simp
    have hstart : underWay state s = 0 := by
      obtain ⟨cfg, rfl⟩ := hinit
      rw [underWay_eq_zero]
      rintro p ⟨⟩
    have hunused : unused state s ≤ 1 := by
      rw [unused]
      split <;> omega
    omega
  · rintro before ⟨t, l⟩ after net code state rfl rfl
    obtain ⟨u, hbefore, hrest⟩ := hrun.of_append
    obtain ⟨rfl, -⟩ := hrest.of_cons
    have hissued := issued_of_run hinit hbefore
    rcases exchange_cases net code state t.client with
      ⟨hnone, -, error, herror⟩ | ⟨txn, htaken, hmem, hlive, hfinish, -⟩
    · refine .inl ⟨hnone, fun r hr => ?_⟩
      rw [herror] at hr
      cases hr
      rfl
    · obtain ⟨q, hq, deadline, hissues, hle, hne⟩ := hissued _ hmem
      refine .inr ⟨txn, htaken, ⟨q, hq, deadline, hissues, ?_⟩, fun r hr hsuccess => ?_⟩
      · exact le_trans (UInt64.le_iff_toNat_le.mp hlive) hle
      · rw [hfinish] at hr
        exact nonce_of_success hne hr hsuccess

end Runs

namespace Sample

/-- A configuration, and what one start draws. -/
def cfg : Config := { enabled := true, issuer := "https://idp", clientId := "app" }

def drawn : Draws :=
  { nonce := ⟨"00112233445566778899aabbccddeeff", by decide⟩
    codeVerifier := ⟨"00112233445566778899aabbccddeeff00112233445566778899aabbccddeeff", by decide⟩
    state := ⟨"ffeeddccbbaa99887766554433221100", by decide⟩ }

/-- A provider that answers with the token `aa.bb.cc`, whose parts say what they
should. -/
def net : Net where
  now := 20
  claimsNow := 21
  send _ := { ok := true, status := 200 }
  parse bytes :=
    if bytes = [] then .ok (.obj [("id_token", .str "aa.bb.cc")])
    else if bytes = [105] then .ok (.obj [("alg", .str "RS256"), ("kid", .str "k")])
    else .ok (.obj [("iss", .str "https://idp"), ("aud", .str "app"), ("exp", .int 100),
      ("nonce", .str drawn.nonce.text), ("email", .str "a@b")])
  what _ := ""
  verifySignatureRs256 _ _ _ := .ok ()

def sha256Raw : List UInt8 → List UInt8 := fun _ => []

/-- A sign-in, and its answer played again. -/
def signIn : List Label :=
  [.start 10 drawn, .exchange net "code" drawn.state.text, .exchange net "code" drawn.state.text]

end Sample

/-- A state that signs in, and does not do so again. -/
theorem state_used_once_by_signIn : ∃ tr s', (okta Sample.sha256Raw).Run
      { client := configure Sample.cfg } tr s' ∧
    tr.map (fun p => takes Sample.drawn.state.text p) = [false, true, false] ∧
    tr.countP (takes Sample.drawn.state.text) ≤ 1 := by
  have hexec : ((okta Sample.sha256Raw).exec { client := configure Sample.cfg } Sample.signIn).isSome
      = true := by decide +kernel
  obtain ⟨s', hs'⟩ := Option.isSome_iff_exists.mp hexec
  have hrun := Machine.exec_run hs'
  refine ⟨_, s', hrun, ?_, ?_⟩
  · decide +kernel
  · have hinit : (okta Sample.sha256Raw).init { client := configure Sample.cfg } := ⟨_, rfl⟩
    exact (state_used_once hinit hrun).1 _

end Pretzel.Authd.OktaClient
