import Pretzel.Collectord.StoredSecrets
import Pretzel.Fleet.KeygenTest

/-!
The updates of what is stored, and the notes beside them.

* `Gives`: the update of a report, of a key of a device and of an account, and its note. The
  report of a keygen notes its key and not the account it brings; a key of a device is not
  noted.
* `gives_route`, `gives_refresh`, `gives_resume`: **a handler that no exception leaves sends
  and notes that**, and nothing else.
-/

namespace Pretzel.Fleet

open Nlohmann Texts Util Staged Collectord

/-- **The update of what is stored, and its note.** -/
def Gives (H : Host) : Option Stored → List Out → Prop
  | none, outs => outs = []
  | some (.report m ctx key), outs =>
      if ctx.keyOid = "" then outs = []
      else ∃ out expiresAt state, updateOf H m { ctx with out, expiresAt } key = some state ∧
        outs = .credentialState state :: if key = [] then [] else [.rememberIssuedKey ctx.keyOid key]
  | some (.apiKey m oid key), outs =>
      outs = match encrypt H.key (m.nonces 0) key with
        | none => []
        | some sealed => [.saseApiKey (saseState oid sealed)]
  | some (.account m oid username password), outs => oid ≠ "" ∧ password ≠ "" ∧
      outs = match (credentialStore H m oid (textBytes username) (textBytes password)).bind
          Draft.dump with
        | none => []
        | some state => [.credentialState state,
            .rememberCredential oid (textBytes username) (textBytes password)]

/-- An exception leaves the stage. -/
def Threw (s : Step) : Prop := ∃ e, s.ending = .threw e

section Gives

variable {H : Host} {m : Moment} {cache : KeyCache} {seqNo : UInt32} {ctx : ConnectorTest}
  {res : ClientResponse} {input : Json}

/-! ### Reports -/

/-- A report that is sent. -/
lemma kept_finishKeygen {key : Bytes} {state : Json} (hstate : updateOf H m ctx key = some state) :
    kept (finishKeygen H m ctx key) = .credentialState state ::
      if key = [] then [] else [.rememberIssuedKey ctx.keyOid key] := by
  rw [updateOf] at hstate
  split at hstate
  · cases hstate
  · next hoid =>
      rw [finishKeygen, if_neg hoid, sendApiCredentialState, textAt_keygenReport, hstate]
      dsimp only
      rw [kept_emit_kept rfl]
      split
      · rw [quiet_sendTestResponse]
      · rw [kept_emit_kept rfl, quiet_sendTestResponse]

/-- One that is not is left by an exception. -/
lemma exists_updateOf {key : Bytes} (h : ¬ Threw (finishKeygen H m ctx key))
    (hoid : ctx.keyOid ≠ "") : ∃ state, updateOf H m ctx key = some state := by
  rw [finishKeygen, if_neg hoid, sendApiCredentialState, textAt_keygenReport] at h
  rw [updateOf, if_neg hoid]
  split at h
  · exact absurd ⟨_, rfl⟩ h
  · next state hdump => exact ⟨state, hdump⟩

/-- **The report of a keygen**, with whatever the test has found out. -/
lemma gives_report {key : Bytes} (out : Draft) (expiresAt : String)
    (h : ¬ Threw (finishKeygen H m { ctx with out, expiresAt } key)) :
    Gives H (some (.report m ctx key))
      (kept (finishKeygen H m { ctx with out, expiresAt } key)) := by
  rw [Gives]
  split
  · next hoid =>
      rw [finishKeygen]
      dsimp only
      rw [if_pos hoid]
      exact quiet_sendTestResponse _ _
  · next hoid =>
      obtain ⟨state, hstate⟩ := exists_updateOf h hoid
      exact ⟨out, expiresAt, state, hstate, kept_finishKeygen hstate⟩

lemma gives_onKeygen (h : ¬ Threw (onKeygen H m ctx res)) :
    Gives H (some (.report m ctx ((deviceKey res).getD []))) (kept (onKeygen H m ctx res)) := by
  obtain ⟨hkey, -⟩ := @readKeygenKey_spec res (ctx.target.fingerprint ≠ "") ctx.out
  rw [onKeygen_eq, hkey] at h
  rw [onKeygen_eq, hkey]
  exact gives_report _ ctx.expiresAt h

/-- **The report of a token.** -/
lemma gives_onSaseResponse (h : ¬ Threw (onSaseResponse H m ctx res)) :
    Gives H (some (.report m ctx ((serverToken H res).getD [])))
      (kept (onSaseResponse H m ctx res)) := by
  rw [onSaseResponse] at h ⊢
  rw [serverToken]
  dsimp only at h ⊢
  cases htls : res.tlsOk with
  | false =>
      rw [htls] at h
      exact gives_report _ _ h
  | true =>
      rw [htls] at h
      by_cases hstatus : res.status = 200
      · simp only [hstatus, ne_eq, not_true_eq_false, if_false, Bool.not_true, Bool.false_eq_true,
          decide_true, Bool.and_true, if_true] at h ⊢
        cases htoken : accessToken H res with
        | error e =>
            rw [htoken] at h
            exact absurd ⟨_, rfl⟩ h
        | ok token =>
            rw [htoken, ofRead_ok] at h
            rw [ofRead_ok]
            dsimp only
            by_cases hnone : token = ""
            · rw [if_pos hnone] at h ⊢
              rw [if_pos hnone]
              exact gives_report _ _ h
            · rw [if_neg hnone] at h ⊢
              rw [if_neg hnone]
              cases hseconds : expiresIn H res with
              | error e =>
                  rw [hseconds] at h
                  exact absurd ⟨_, rfl⟩ h
              | ok seconds =>
                  rw [hseconds, ofRead_ok] at h
                  exact gives_report _ _ h
      · simp only [hstatus, ne_eq, not_false_eq_true, if_true, Bool.not_true, Bool.false_eq_true,
          if_false, decide_false, Bool.and_false] at h ⊢
        cases hrefusal : saseRefusal H res with
        | error e =>
            rw [hrefusal] at h
            exact absurd ⟨_, rfl⟩ h
        | ok detail =>
            rw [hrefusal, ofRead_ok] at h
            exact gives_report _ _ h

/-- A key already issued is reported and noted, whatever becomes of the answer. -/
lemma gives_stored {key : Bytes} (hkey : key ≠ []) :
    Gives H (some (.report m ctx key)) (kept (finishKeygen H m ctx key)) := by
  rw [Gives]
  split
  · next hoid =>
      rw [finishKeygen, if_pos hoid]
      exact quiet_sendTestResponse _ _
  · next hoid =>
      have hdump : (updateOf H m ctx key).isSome = true := by
        rw [updateOf, if_neg hoid, Draft.dump_isSome, isText_credentialState, noteOf, if_neg hkey]
        exact isUtf8_textBytes _
      obtain ⟨state, hstate⟩ := Option.isSome_iff_exists.mp hdump
      refine ⟨ctx.out, ctx.expiresAt, state, hstate, ?_⟩
      rw [kept_finishKeygen hstate, if_neg hkey]

/-- **A keygen test.** -/
lemma gives_runKeygenTest :
    Gives H (keygenStores m cache seqNo input) (kept (runKeygenTest H m cache seqNo input)) := by
  rw [runKeygenTest, kept_guard, keygenStores]
  cases hplan : keygenPlan cache seqNo input with
  | error e => rfl
  | ok plan =>
      rw [ofRead_ok]
      cases plan with
      | reject message => exact quiet_sendTestResponse _ _
      | token ctx => rfl
      | keygen ctx => rfl
      | stored ctx key =>
          obtain ⟨-, -, hstored⟩ := keygenPlan_spec hplan
          exact gives_stored (hstored ctx key rfl).2

/-! ### Keys of devices, and accounts -/

lemma gives_onSaseTest {out : Draft} {oid : String} {apiKey : Bytes} {keyFromOperator : Bool}
    (h : ¬ Threw (onSaseTest H m seqNo out oid apiKey keyFromOperator res)) :
    Gives H (resumeStores H (.saseTest seqNo out oid apiKey keyFromOperator) (res, m))
      (kept (onSaseTest H m seqNo out oid apiKey keyFromOperator res)) := by
  rw [onSaseTest] at h ⊢
  rw [resumeStores]
  dsimp only
  cases hok : saseSucceeded H res with
  | error e =>
      rw [hok] at h
      exact absurd ⟨_, rfl⟩ h
  | ok ok =>
      rw [ofRead_ok]
      cases ok with
      | false => exact quiet_sendTestResponse _ _
      | true =>
          cases keyFromOperator with
          | false => exact quiet_sendTestResponse _ _
          | true =>
              rw [Bool.and_self, if_pos rfl, if_pos rfl, Gives]
              cases encrypt H.key (m.nonces 0) apiKey with
              | none => exact quiet_sendTestResponse _ _
              | some sealed =>
                  dsimp only
                  rw [kept_emit_kept rfl, quiet_sendTestResponse]

lemma gives_storeApiKey {payload : Bytes} (hinput : decodeTest H payload = some input) :
    Gives H (routeStores H m cache .StoreSaseKey seqNo payload)
      (kept (storeApiKey H m seqNo input)) := by
  rw [routeStores, hinput, storeApiKey]
  dsimp only
  cases readApiKey input with
  | error e => exact quiet_sendTestResponse _ _
  | ok read =>
      obtain ⟨oid, apiKey⟩ := read
      dsimp only
      split
      · exact quiet_sendTestResponse _ _
      · rw [Gives]
        cases encrypt H.key (m.nonces 0) (textBytes apiKey) with
        | none => exact quiet_sendTestResponse _ _
        | some sealed =>
            dsimp only
            rw [kept_emit_kept rfl, quiet_sendTestResponse]

lemma gives_storeCredential {payload : Bytes} (hinput : decodeTest H payload = some input) :
    Gives H (routeStores H m cache .StoreCredential seqNo payload)
      (kept (storeCredential H m seqNo input)) := by
  rw [routeStores, hinput, storeCredential]
  dsimp only
  cases readCredential input with
  | error e => exact quiet_sendTestResponse _ _
  | ok read =>
      obtain ⟨oid, username, password⟩ := read
      dsimp only
      split
      · exact quiet_sendTestResponse _ _
      · next hread =>
          obtain ⟨hoid, hpassword⟩ := not_or.mp hread
          refine ⟨hoid, hpassword, ?_⟩
          cases credentialStore H m oid (textBytes username) (textBytes password) with
          | none => exact quiet_sendTestResponse _ _
          | some state =>
              rw [Option.bind_some]
              dsimp only
              cases state.dump with
              | none => exact quiet_sendTestResponse _ _
              | some payload =>
                  dsimp only
                  rw [kept_emit_kept rfl, kept_emit_kept rfl, quiet_sendTestResponse]

/-! ### The handlers -/

/-- **A request.** -/
theorem gives_route (request : TestRequest) (payload : Bytes) :
    Gives H (routeStores H m cache request seqNo payload)
      (kept (route H m cache request seqNo payload)) := by
  cases hinput : decodeTest H payload with
  | none =>
      rw [routeStores, route, hinput]
      rfl
  | some input =>
      cases request with
      | RunKeygenTest =>
          rw [routeStores, route, hinput]
          exact gives_runKeygenTest
      | RunEndpointTest =>
          rw [routeStores, route, hinput]
          refine quiet_ofRead fun deviceType => ?_
          split
          · exact SaseController.quiet_runEndpointTest
          · exact NgfwController.quiet_runEndpointTest
      | RunSaseTest =>
          rw [routeStores, route, hinput]
          exact quiet_runSaseTest
      | RunTlsProbe =>
          rw [routeStores, route, hinput]
          exact quiet_runTlsProbe
      | StoreSaseKey =>
          rw [route, hinput]
          exact gives_storeApiKey hinput
      | StoreCredential =>
          rw [route, hinput]
          exact gives_storeCredential hinput

/-- **A re-issue.** -/
theorem gives_refresh (p : AuthProfile) (d : RefreshDevice) :
    Gives H (refreshStores m cache p d) (kept (refresh H m cache p d)) := by
  rw [refreshStores, refresh]
  split
  · exact gives_runKeygenTest
  · rfl

/-- **A callback** that no exception leaves. -/
theorem gives_resume (k : Wait) (h : ¬ Threw (resume H k (res, m))) :
    Gives H (resumeStores H k (res, m)) (kept (resume H k (res, m))) := by
  cases k with
  | keygen ctx => exact gives_onKeygen h
  | saseToken ctx => exact gives_onSaseResponse h
  | tlsProbe ctx => exact quiet_onTlsProbe
  | keygenForEndpoint ctx => exact NgfwController.quiet_onKeygenForEndpoint
  | endpoint ctx => exact NgfwController.quiet_onEndpointResponse
  | tokenForEndpoint ctx => exact SaseController.quiet_onTokenForEndpoint
  | saseEndpoint ctx => exact SaseController.quiet_onSaseEndpointResponse
  | saseTest seqNo out oid apiKey keyFromOperator => exact gives_onSaseTest h

end Gives

end Pretzel.Fleet
