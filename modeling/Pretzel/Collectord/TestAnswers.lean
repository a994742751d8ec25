import Pretzel.Collectord.StatusController

/-!
Every connector test is answered once: which of collectord's handlers answer a
request, and which of them an exception leaves.

* `isAnswer`, `carries`: a response under a sequence number, and a callback that
  is to give one.
* `owes_route`, `owes_resume`: a handler that is done has answered once, and one
  that is not has not answered. `owes_handled`: so has a request.
-/

namespace Pretzel.Collectord

open Nlohmann Texts Util Staged

/-! ### At most one answer -/

/-- A response under the sequence number. -/
def isAnswer (seqNo : UInt32) : Out → Bool
  | .testResponse s _ => s = seqNo
  | .request _ | .credentialState _ | .saseApiKey _ | .rememberIssuedKey _ _
  | .rememberCredential _ _ _ => false

/-- A callback under the sequence number. -/
def carries (seqNo : UInt32) : Wait → Prop
  | .keygen ctx | .saseToken ctx | .tlsProbe ctx | .keygenForEndpoint ctx | .endpoint ctx
  | .tokenForEndpoint ctx | .saseEndpoint ctx => ctx.seqNo = seqNo
  | .saseTest s _ _ _ _ => s = seqNo

/-- The stage answers once where it is done. -/
abbrev Owes (seqNo : UInt32) (s : Step) : Prop := Stage.Owes (isAnswer seqNo) (carries seqNo) s

section Owes

variable {H : Host} {m : Moment} {cache : KeyCache} {seqNo : UInt32} {ctx : ConnectorTest}
  {res : ClientResponse} {out : Draft} {input : Json}

lemma owes_sendTestResponse (h : seqNo ≠ 0) : Owes seqNo (sendTestResponse seqNo out) := by
  rw [sendTestResponse, if_neg h]
  split
  · exact Stage.owes_throws
  · exact Stage.owes_answer (decide_eq_true rfl)

lemma owes_rejectTest (h : seqNo ≠ 0) (message : String) :
    Owes seqNo (rejectTest seqNo message) :=
  owes_sendTestResponse h

lemma owes_ofRead {α : Type} {x : Except JsonError α} {f : α → Step}
    (h : ∀ a, x = .ok a → Owes seqNo (f a)) : Owes seqNo (ofRead x f) := by
  cases x with
  | error e => exact Stage.owes_throws
  | ok a => exact h a rfl

lemma owes_requestAsync {r : ClientRequest} {k : Wait} (h : carries seqNo k) :
    Owes seqNo (requestAsync r k) :=
  Stage.owes_emit rfl (Stage.owes_waits h)

/-- A start that answers where it fails. -/
lemma owes_guarded (h : seqNo ≠ 0) {what : String} {s : Step} (hs : Owes seqNo s) :
    Owes seqNo (Stage.guard (startFailed H seqNo what) s) :=
  Stage.owes_guard hs fun _ => owes_sendTestResponse h

lemma owes_finishKeygen (ctx : ConnectorTest) (key : Bytes) (h : seqNo ≠ 0)
    (hseq : ctx.seqNo = seqNo) : Owes seqNo (finishKeygen H m ctx key) := by
  rw [finishKeygen, hseq]
  split
  · exact owes_sendTestResponse h
  · rw [sendApiCredentialState]
    split
    · exact Stage.owes_throws
    · refine Stage.owes_emit rfl ?_
      split
      · exact owes_sendTestResponse h
      · exact Stage.owes_emit rfl (owes_sendTestResponse h)

lemma owes_onSaseResponse (h : seqNo ≠ 0) (hseq : ctx.seqNo = seqNo) :
    Owes seqNo (onSaseResponse H m ctx res) := by
  rw [onSaseResponse]
  dsimp only
  have hfinish (expiresAt : String) (out : Draft) (key : Bytes) :
      Owes seqNo (finishKeygen H m { ctx with out, expiresAt } key) :=
    owes_finishKeygen { ctx with out, expiresAt } key h hseq
  split
  · exact hfinish _ _ _
  · split
    · exact owes_ofRead fun detail _ => hfinish _ _ _
    · refine owes_ofRead fun token _ => ?_
      split
      · exact hfinish _ _ _
      · exact owes_ofRead fun seconds _ => hfinish _ _ _

/-- What a keygen test goes on with is under its own sequence number. -/
lemma keygenPlan_seqNo {plan : KeygenPlan} (h : keygenPlan cache seqNo input = .ok plan) :
    match plan with
    | .reject _ => True
    | .token ctx | .stored ctx _ | .keygen ctx => ctx.seqNo = seqNo := by
  rw [keygenPlan] at h
  obtain ⟨keyOid, -, h⟩ := except_bind_eq_ok.mp h
  obtain ⟨target, -, h⟩ := except_bind_eq_ok.mp h
  dsimp only at h
  split at h
  · cases h
    trivial
  · split at h
    · split at h <;> cases h <;> trivial
    · split at h
      · split at h <;> cases h <;> trivial
      · cases h
        rfl

lemma owes_runKeygenTest (h : seqNo ≠ 0) : Owes seqNo (runKeygenTest H m cache seqNo input) := by
  refine owes_guarded h (owes_ofRead fun plan hplan => ?_)
  have hseq := keygenPlan_seqNo hplan
  cases plan with
  | reject message => exact owes_rejectTest h message
  | token ctx => exact owes_requestAsync hseq
  | stored ctx key => exact owes_finishKeygen ctx key h hseq
  | keygen ctx => exact owes_requestAsync hseq

lemma owes_storeCredential (h : seqNo ≠ 0) : Owes seqNo (storeCredential H m seqNo input) := by
  rw [storeCredential]
  split
  · exact owes_sendTestResponse h
  · split
    · exact owes_sendTestResponse h
    · split
      · exact owes_sendTestResponse h
      · split
        · exact owes_sendTestResponse h
        · exact Stage.owes_emit rfl (Stage.owes_emit rfl (owes_sendTestResponse h))

lemma owes_runTlsProbe (h : seqNo ≠ 0) : Owes seqNo (runTlsProbe H seqNo input) := by
  refine owes_guarded h (owes_ofRead fun target _ => ?_)
  rw [probeStart]
  split
  · exact owes_sendTestResponse h
  · exact owes_requestAsync rfl

/-! ### Endpoint tests -/

namespace NgfwController

lemma owes_callEndpoint (ctx : ConnectorTest) (key : Bytes) (hseq : ctx.seqNo = seqNo) :
    Owes seqNo (callEndpoint ctx key) :=
  owes_ofRead fun _ _ => owes_requestAsync hseq

lemma owes_onKeygenForEndpoint (h : seqNo ≠ 0) (hseq : ctx.seqNo = seqNo) :
    Owes seqNo (onKeygenForEndpoint ctx res) := by
  have hcall (out : Draft) (key : Bytes) : Owes seqNo (callEndpoint { ctx with out } key) :=
    owes_callEndpoint { ctx with out } key hseq
  rw [onKeygenForEndpoint]
  dsimp only
  split
  · rw [hseq]
    exact owes_sendTestResponse h
  · exact hcall _ _

lemma owes_onEndpointResponse (h : seqNo ≠ 0) (hseq : ctx.seqNo = seqNo) :
    Owes seqNo (onEndpointResponse ctx res) := by
  refine owes_ofRead fun apiType _ => ?_
  rw [hseq]
  split
  · exact owes_sendTestResponse h
  · exact owes_sendTestResponse h

lemma plan_seqNo {p : Plan} (h : plan cache seqNo input = .ok p) :
    match p with
    | .reject _ => True
    | .stored ctx _ | .keygen ctx => ctx.seqNo = seqNo := by
  rw [plan] at h
  obtain ⟨target, -, h⟩ := except_bind_eq_ok.mp h
  dsimp only at h
  split at h
  · cases h
    trivial
  · obtain ⟨endpoint, -, h⟩ := except_bind_eq_ok.mp h
    obtain ⟨apiType, -, h⟩ := except_bind_eq_ok.mp h
    split at h
    · cases h
      trivial
    · split at h
      · cases h
        trivial
      · obtain ⟨params, -, h⟩ := except_bind_eq_ok.mp h
        split at h
        · cases h
          trivial
        · split at h
          · split at h <;> cases h <;> trivial
          · cases h
            rfl

lemma owes_runEndpointTest (h : seqNo ≠ 0) : Owes seqNo (runEndpointTest H cache seqNo input) := by
  refine owes_guarded h (owes_ofRead fun p hp => ?_)
  have hseq := plan_seqNo hp
  cases p with
  | reject message => exact owes_rejectTest h message
  | stored ctx key => exact owes_callEndpoint ctx key hseq
  | keygen ctx => exact owes_requestAsync hseq

end NgfwController

namespace SaseController

lemma owes_callSaseEndpoint (ctx : ConnectorTest) (token : Bytes) (hseq : ctx.seqNo = seqNo) :
    Owes seqNo (callSaseEndpoint ctx token) :=
  owes_ofRead fun _ _ => owes_requestAsync hseq

lemma owes_onTokenForEndpoint (h : seqNo ≠ 0) (hseq : ctx.seqNo = seqNo) :
    Owes seqNo (onTokenForEndpoint H ctx res) := by
  have hcall (out : Draft) (token : Bytes) : Owes seqNo (callSaseEndpoint { ctx with out } token) :=
    owes_callSaseEndpoint { ctx with out } token hseq
  rw [onTokenForEndpoint]
  dsimp only
  split
  · rw [hseq]
    exact owes_sendTestResponse h
  · split
    · rw [hseq]
      exact owes_sendTestResponse h
    · split
      · rw [hseq]
        exact owes_sendTestResponse h
      · exact hcall _ _

lemma owes_onSaseEndpointResponse (h : seqNo ≠ 0) (hseq : ctx.seqNo = seqNo) :
    Owes seqNo (onSaseEndpointResponse ctx res) := by
  rw [onSaseEndpointResponse, hseq]
  dsimp only
  split
  · exact owes_sendTestResponse h
  · exact owes_sendTestResponse h

lemma plan_seqNo {p : Plan} (h : plan cache seqNo input = .ok p) :
    match p with
    | .reject _ => True
    | .stored ctx _ | .token ctx => ctx.seqNo = seqNo := by
  rw [plan] at h
  obtain ⟨target, -, h⟩ := except_bind_eq_ok.mp h
  obtain ⟨host, -, h⟩ := except_bind_eq_ok.mp h
  obtain ⟨endpoint, -, h⟩ := except_bind_eq_ok.mp h
  split at h
  · cases h
    trivial
  · split at h
    · cases h
      trivial
    · split at h
      · cases h
        trivial
      · obtain ⟨params, -, h⟩ := except_bind_eq_ok.mp h
        split at h
        · cases h
          trivial
        · obtain ⟨headers, -, h⟩ := except_bind_eq_ok.mp h
          split at h
          · cases h
            trivial
          · dsimp only at h
            split at h
            · split at h <;> cases h <;> trivial
            · cases h
              rfl

lemma owes_runEndpointTest (h : seqNo ≠ 0) : Owes seqNo (runEndpointTest H cache seqNo input) := by
  refine owes_guarded h (owes_ofRead fun p hp => ?_)
  have hseq := plan_seqNo hp
  cases p with
  | reject message => exact owes_rejectTest h message
  | stored ctx token => exact owes_callSaseEndpoint ctx token hseq
  | token ctx => exact owes_requestAsync hseq

end SaseController

/-! ### The health of a device -/

lemma owes_runSaseTest (h : seqNo ≠ 0) : Owes seqNo (runSaseTest H cache seqNo input) := by
  refine owes_guarded h (owes_ofRead fun t _ => ?_)
  rw [SaseTest.start]
  split
  · exact owes_sendTestResponse h
  · exact owes_requestAsync rfl

lemma owes_onSaseTest (h : seqNo ≠ 0) {oid : String} {apiKey : Bytes} {keyFromOperator : Bool} :
    Owes seqNo (onSaseTest H m seqNo out oid apiKey keyFromOperator res) := by
  refine owes_ofRead fun ok _ => ?_
  dsimp only
  split
  · split
    · exact owes_sendTestResponse h
    · exact Stage.owes_emit rfl (owes_sendTestResponse h)
  · exact owes_sendTestResponse h

lemma owes_storeApiKey (h : seqNo ≠ 0) : Owes seqNo (storeApiKey H m seqNo input) := by
  rw [storeApiKey]
  split
  · exact owes_sendTestResponse h
  · split
    · exact owes_sendTestResponse h
    · split
      · exact owes_sendTestResponse h
      · exact Stage.owes_emit rfl (owes_sendTestResponse h)

/-! ### A request -/

/-- A callback that has its answer. -/
lemma owes_resume (h : seqNo ≠ 0) (k : Wait) (arrival : Arrival) (hk : carries seqNo k) :
    Owes seqNo (resume H k arrival) := by
  cases k with
  | keygen ctx => exact owes_finishKeygen _ _ h hk
  | saseToken ctx => exact owes_onSaseResponse h hk
  | tlsProbe ctx =>
      have hseq : ctx.seqNo = seqNo := hk
      simp only [resume, onTlsProbe, hseq]
      exact owes_sendTestResponse h
  | keygenForEndpoint ctx => exact NgfwController.owes_onKeygenForEndpoint h hk
  | endpoint ctx => exact NgfwController.owes_onEndpointResponse h hk
  | tokenForEndpoint ctx => exact SaseController.owes_onTokenForEndpoint h hk
  | saseEndpoint ctx => exact SaseController.owes_onSaseEndpointResponse h hk
  | saseTest s out oid apiKey keyFromOperator =>
      have hseq : s = seqNo := hk
      subst hseq
      exact owes_onSaseTest h

/-- A request that is decoded. -/
lemma owes_route (h : seqNo ≠ 0) {request : TestRequest} {payload : Bytes}
    (hinput : decodeTest H payload = some input) :
    Owes seqNo (route H m cache request seqNo payload) := by
  rw [route, hinput]
  cases request with
  | RunKeygenTest => exact owes_runKeygenTest h
  | RunEndpointTest =>
      refine owes_ofRead fun deviceType _ => ?_
      split
      · exact SaseController.owes_runEndpointTest h
      · exact NgfwController.owes_runEndpointTest h
  | RunSaseTest => exact owes_runSaseTest h
  | RunTlsProbe => exact owes_runTlsProbe h
  | StoreSaseKey => exact owes_storeApiKey h
  | StoreCredential => exact owes_storeCredential h

/-- **A request that is decoded is answered once if it is done, and not at all if
an exception ends it.** -/
theorem owes_handled (h : seqNo ≠ 0) {request : TestRequest} {payload : Bytes}
    {arrivals : List Arrival} (hinput : decodeTest H payload = some input) :
    Owes seqNo (handled H m cache request seqNo payload arrivals) :=
  Stage.owes_run (owes_route h hinput) (fun k r hk => owes_resume h k r hk) arrivals

end Owes

end Pretzel.Collectord
