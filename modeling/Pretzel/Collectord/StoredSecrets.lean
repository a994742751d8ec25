import Pretzel.Collectord.KeyState
import Pretzel.Collectord.StatusController

/-!
What the handlers store: which of them send engined an update, or note something in the key
cache.

* `kept`: the updates and the notes among what a stage sends. `quiet_runTlsProbe`, …: the
  handlers that have none.
* `Stored`: what is stored, by the handler that does: the report of a keygen, a key of a
  device, an account. `routeStores`, `refreshStores`, `resumeStores`: whether one is.
-/

namespace Pretzel.Collectord

open Nlohmann Texts Util Staged

/-! ### Updates and notes -/

/-- What changes the key cache, or what engined holds. -/
def Out.isKept : Out → Bool
  | .request _ | .testResponse _ _ => false
  | .credentialState _ | .saseApiKey _ | .rememberIssuedKey _ _ | .rememberCredential _ _ _ => true

/-- The updates and the notes of a stage. -/
def kept (s : Step) : List Out := s.out.filter Out.isKept

/-- A stage has none. -/
abbrev Quiet (s : Step) : Prop := kept s = []

section Quiet

variable {H : Host} {m : Moment} {cache : KeyCache} {seqNo : UInt32} {ctx : ConnectorTest}
  {res : ClientResponse} {out : Draft} {input : Json}

lemma kept_emit_kept {w : Out} (h : w.isKept = true) (s : Step) :
    kept (Stage.emit w s) = w :: kept s := List.filter_cons_of_pos h

lemma quiet_sendTestResponse (seqNo : UInt32) (out : Draft) : Quiet (sendTestResponse seqNo out) := by
  rw [Quiet, sendTestResponse]
  split
  · rfl
  · split <;> rfl

lemma quiet_ofRead {α : Type} {x : Except JsonError α} {f : α → Step} (h : ∀ a, Quiet (f a)) :
    Quiet (ofRead x f) := by
  cases x with
  | error e => rfl
  | ok a => exact h a

/-- A start that answers where it fails has the updates it had. -/
lemma kept_guard {what : String} (s : Step) :
    kept (Stage.guard (startFailed H seqNo what) s) = kept s := by
  rw [Stage.guard]
  split
  · next e _ =>
      have hanswer : Quiet (startFailed H seqNo what e) := quiet_sendTestResponse _ _
      rw [kept, List.filter_append, ← kept, ← kept, hanswer, List.append_nil]
  · rfl
  · rfl

lemma quiet_onTlsProbe : Quiet (onTlsProbe ctx res) := quiet_sendTestResponse _ _

lemma quiet_runTlsProbe : Quiet (runTlsProbe H seqNo input) := by
  rw [Quiet, runTlsProbe, kept_guard]
  refine quiet_ofRead fun target => ?_
  rw [probeStart]
  split
  · exact quiet_sendTestResponse _ _
  · rfl

lemma quiet_runSaseTest : Quiet (runSaseTest H cache seqNo input) := by
  rw [Quiet, runSaseTest, kept_guard]
  refine quiet_ofRead fun t => ?_
  rw [SaseTest.start]
  split
  · exact quiet_sendTestResponse _ _
  · rfl

namespace NgfwController

lemma quiet_callEndpoint (ctx : ConnectorTest) (key : Bytes) : Quiet (callEndpoint ctx key) :=
  quiet_ofRead fun _ => rfl

lemma quiet_onEndpointResponse : Quiet (onEndpointResponse ctx res) := by
  refine quiet_ofRead fun apiType => ?_
  dsimp only
  split
  · exact quiet_sendTestResponse _ _
  · exact quiet_sendTestResponse _ _

lemma quiet_onKeygenForEndpoint : Quiet (onKeygenForEndpoint ctx res) := by
  rw [Quiet, onKeygenForEndpoint]
  dsimp only
  split
  · exact quiet_sendTestResponse _ _
  · exact quiet_callEndpoint _ _

lemma quiet_runEndpointTest : Quiet (runEndpointTest H cache seqNo input) := by
  rw [Quiet, runEndpointTest, kept_guard]
  refine quiet_ofRead fun p => ?_
  cases p with
  | reject message => exact quiet_sendTestResponse _ _
  | stored ctx key => exact quiet_callEndpoint ctx key
  | keygen ctx => rfl

end NgfwController

namespace SaseController

lemma quiet_callSaseEndpoint (ctx : ConnectorTest) (token : Bytes) :
    Quiet (callSaseEndpoint ctx token) :=
  quiet_ofRead fun _ => rfl

lemma quiet_onSaseEndpointResponse : Quiet (onSaseEndpointResponse ctx res) := by
  rw [Quiet, onSaseEndpointResponse]
  split
  · exact quiet_sendTestResponse _ _
  · exact quiet_sendTestResponse _ _

lemma quiet_onTokenForEndpoint : Quiet (onTokenForEndpoint H ctx res) := by
  rw [Quiet, onTokenForEndpoint]
  dsimp only
  split
  · exact quiet_sendTestResponse _ _
  split
  · exact quiet_sendTestResponse _ _
  split
  · exact quiet_sendTestResponse _ _
  · exact quiet_callSaseEndpoint _ _

lemma quiet_runEndpointTest : Quiet (runEndpointTest H cache seqNo input) := by
  rw [Quiet, runEndpointTest, kept_guard]
  refine quiet_ofRead fun p => ?_
  cases p with
  | reject message => exact quiet_sendTestResponse _ _
  | stored ctx token => exact quiet_callSaseEndpoint ctx token
  | token ctx => rfl

end SaseController

end Quiet

/-! ### What is stored -/

/-- What a handler stores: the report of a keygen, a key of a device, or an account. -/
inductive Stored where
  | report (m : Moment) (ctx : ConnectorTest) (key : Bytes)
  | apiKey (m : Moment) (oid : String) (key : Bytes)
  | account (m : Moment) (oid username password : String)

/-- A keygen test that takes a key already issued reports at once. -/
def keygenStores (m : Moment) (cache : KeyCache) (seqNo : UInt32) (input : Json) : Option Stored :=
  match keygenPlan cache seqNo input with
  | .ok (.stored ctx key) => some (.report m ctx key)
  | _ => none

/-- What a request stores. -/
def routeStores (H : Host) (m : Moment) (cache : KeyCache) (request : TestRequest)
    (seqNo : UInt32) (payload : Bytes) : Option Stored :=
  match decodeTest H payload with
  | none => none
  | some input =>
      match request with
      | .RunKeygenTest => keygenStores m cache seqNo input
      | .StoreSaseKey =>
          match readApiKey input with
          | .error _ => none
          | .ok (oid, apiKey) =>
              if oid = "" ∨ apiKey = "" then none else some (.apiKey m oid (textBytes apiKey))
      | .StoreCredential =>
          match readCredential input with
          | .error _ => none
          | .ok (oid, username, password) =>
              if oid = "" ∨ password = "" then none else some (.account m oid username password)
      | .RunEndpointTest | .RunSaseTest | .RunTlsProbe => none

/-- What a turn of `autoRefreshTick` stores. -/
def refreshStores (m : Moment) (cache : KeyCache) (p : AuthProfile) (d : RefreshDevice) :
    Option Stored :=
  if refreshes cache p d then keygenStores m cache 0 (refreshInput p d) else none

/-- What a callback stores. -/
def resumeStores (H : Host) (k : Wait) (arrival : Arrival) : Option Stored :=
  let (res, m) := arrival
  match k with
  | .keygen ctx => some (.report m ctx ((deviceKey res).getD []))
  | .saseToken ctx => some (.report m ctx ((serverToken H res).getD []))
  | .saseTest _ _ oid apiKey keyFromOperator =>
      match saseSucceeded H res with
      | .ok true => if keyFromOperator then some (.apiKey m oid apiKey) else none
      | _ => none
  | .tlsProbe _ | .keygenForEndpoint _ | .endpoint _ | .tokenForEndpoint _ | .saseEndpoint _ => none

end Pretzel.Collectord
