import Pretzel.Collectord.TestAnswers

/-!
The connector tests that are answered, exactly.

mgmtd holds a browser on the number of a test. A start answers where it throws; the
callbacks of its exchange do not, and the dump of a report throws on a text that is
not UTF-8.

* `told`: what a callback hears can be told. `ending_onKeygen`, …,
  `ending_onSaseTest`: then, and only then, the callback is done.
* `begun`: the exchange a request begins.
* `AnsweredOnce`: one response under the number, and no exception.
* `Answerable`: the payload is a document that names the kind of its device, and what
  its exchange hears can be told. **`answeredOnce_iff`**: the two are the same.
* `binary_body_unanswered`: a body that leaves a test without an answer.
-/

namespace Pretzel.Collectord

open Nlohmann Texts Util Staged

/-! ### What can be told -/

/-- The certificate of a device, or why it was not seen. -/
def certificateTold (res : ClientResponse) : Bool :=
  isUtf8 res.fingerprint && isUtf8 res.certSubject && (res.tlsOk || isUtf8 res.error)

/-- What a device answers to a key request, up to the key. -/
def deviceTold (res : ClientResponse) : Bool :=
  certificateTold res &&
    (!(res.tlsOk && res.pinMatched) || (deviceKey res).isSome || isUtf8 (xmlErrorMessage res.body))

/-- What the auth server answers to a keygen test. -/
def serverTold (H : Host) (res : ClientResponse) : Bool :=
  if !res.tlsOk then isUtf8 res.error
  else if res.status ≠ 200 then (saseRefusal H res).isOk
  else (accessToken H res).isOk && ((serverToken H res).isNone || (expiresIn H res).isOk)

/-- What an endpoint answers: the first of its body, and the reason of a refusal. -/
def endpointTold (limit : ℕ) (reason : Bytes) (res : ClientResponse) : Bool :=
  if !res.tlsOk || !res.requestSent then isUtf8 res.error
  else isUtf8 (res.body.take limit) && (res.status = 200 || isUtf8 reason)

/-- What an endpoint of a device answers. -/
def NgfwController.told (input : Json) (res : ClientResponse) : Bool :=
  match readApiType input with
  | .error _ => false
  | .ok apiType => endpointTold kMaxSampleBody
      (if apiType = "xml" then xmlErrorMessage res.body else res.body.take 160) res

/-- What an endpoint of the cloud answers. -/
def SaseController.told (res : ClientResponse) : Bool :=
  endpointTold kMaxBody
    (if res.status = 424 ∨ res.status = 401 ∨ res.status = 403 then [] else res.body.take 160) res

/-- What the auth server answers to an endpoint test issues a token. -/
def SaseController.tokenIssued (H : Host) (res : ClientResponse) : Bool :=
  res.tlsOk && res.requestSent && res.status = 200 && tokenOf H res ≠ ""

/-- What the health API answers. -/
def saseTold (H : Host) (res : ClientResponse) : Bool :=
  (saseSucceeded H res).isOk && (res.status ≠ 0 || isUtf8 res.error) &&
    ((H.parse res.body).isSome || isUtf8 res.body)

/-- **What can be told**: of the first answer and, where it leads to a second call,
of the second. -/
def told (H : Host) (k : Wait) (first second : ClientResponse) : Bool :=
  match k with
  | .keygen _ => deviceTold first && (deviceKey first).all isUtf8
  | .saseToken _ => serverTold H first
  | .tlsProbe _ => certificateTold first
  | .keygenForEndpoint ctx => deviceTold first && ((deviceKey first).isNone ||
      ((NgfwController.readPath ctx.input).isOk && NgfwController.told ctx.input second))
  | .endpoint ctx => NgfwController.told ctx.input first
  | .tokenForEndpoint ctx => ((first.tlsOk && first.requestSent) || isUtf8 first.error) &&
      (!SaseController.tokenIssued H first ||
        ((SaseController.readPath ctx.input).isOk && SaseController.told second))
  | .saseEndpoint _ => SaseController.told first
  | .saseTest _ _ _ _ _ => saseTold H first

/-! ### The callbacks that are the end of a test -/

lemma settled_onKeygen (H : Host) (m : Moment) (ctx : ConnectorTest) (res : ClientResponse) :
    (onKeygen H m ctx res).Settled := settled_finishKeygen _ _ _ _

lemma settled_onTlsProbe (ctx : ConnectorTest) (res : ClientResponse) :
    (onTlsProbe ctx res).Settled := settled_sendTestResponse _ _

lemma settled_onSaseTest {H : Host} {m : Moment} {seqNo : UInt32} {out : Draft} {oid : String}
    {apiKey : Bytes} {keyFromOperator : Bool} (res : ClientResponse) :
    (onSaseTest H m seqNo out oid apiKey keyFromOperator res).Settled := by
  refine settled_ofRead fun ok => ?_
  dsimp only
  split
  · split
    · exact settled_sendTestResponse _ _
    · exact Stage.settled_emit (settled_sendTestResponse _ _)
  · exact settled_sendTestResponse _ _

lemma settled_onEndpointResponse (ctx : ConnectorTest) (res : ClientResponse) :
    (NgfwController.onEndpointResponse ctx res).Settled := by
  refine settled_ofRead fun apiType => ?_
  split
  · exact settled_sendTestResponse _ _
  · exact settled_sendTestResponse _ _

lemma settled_onSaseEndpointResponse (ctx : ConnectorTest) (res : ClientResponse) :
    (SaseController.onSaseEndpointResponse ctx res).Settled := by
  rw [SaseController.onSaseEndpointResponse]
  split
  · exact settled_sendTestResponse _ _
  · exact settled_sendTestResponse _ _

/-! ### The ends of the callbacks -/

section Ends

variable {H : Host} {m : Moment} {seqNo : UInt32} {ctx : ConnectorTest} {res : ClientResponse}

/-- The report of a test as it starts. -/
def startOut : Draft := .object [("steps", .object [])]

@[simp]
lemma textsOutside_startOut (keys : List String) : startOut.textsOutside keys = true := by
  simp [startOut, Draft.textsOutside, Draft.members, Draft.isText, Draft.areTexts]

@[simp]
lemma find?_startOut (key : String) :
    startOut.find? key = if key = "steps" then some (.object []) else none := by
  by_cases h : key = "steps"
  · subst h
    rfl
  · simp [startOut, Draft.find?, Draft.members, h, Ne.symm h]

@[simp]
lemma isText_stepJson (ok : Bool) (detail : Bytes) :
    (stepJson ok detail).isText = isUtf8 detail := by
  simp [stepJson, Draft.isText, Draft.areTexts]

lemma ending_sendTestResponse (h : seqNo ≠ 0) (out : Draft) :
    (sendTestResponse seqNo out).ending = .done ↔ out.isText = true := by
  rw [sendTestResponse, if_neg h, ← Draft.dump_isSome]
  cases out.dump with
  | none => exact iff_of_false (by rintro ⟨⟩) Bool.false_ne_true
  | some j => exact iff_of_true rfl rfl

lemma ending_ofRead {α : Type} {x : Except JsonError α} {f : α → Step} :
    (ofRead x f).ending = .done ↔ ∃ a, x = .ok a ∧ (f a).ending = .done := by
  cases x with
  | error e => exact iff_of_false (by rintro ⟨⟩) (by rintro ⟨a, ⟨⟩, -⟩)
  | ok a => simp

/-- A read that may throw, in front of what does not. -/
lemma ending_ofRead_of_done {α : Type} {x : Except JsonError α} {f : α → Step}
    (h : ∀ a, x = .ok a → (f a).ending = .done) :
    (ofRead x f).ending = .done ↔ x.isOk = true := by
  cases x with
  | error e => exact iff_of_false (by rintro ⟨⟩) Bool.false_ne_true
  | ok a => exact iff_of_true (h a rfl) rfl

/-- A report is sent where its texts are. -/
lemma ending_finishKeygen (ctx : ConnectorTest) (key : Bytes) (h : ctx.seqNo ≠ 0) :
    (finishKeygen H m ctx key).ending = .done ↔
      ((keygenReport ctx key).put "stored" (.bool (available H.key))).isText = true := by
  have hanswer := ending_sendTestResponse h
    ((keygenReport ctx key).put "stored" (.bool (available H.key)))
  rw [finishKeygen]
  split
  · exact hanswer
  · rw [sendApiCredentialState]
    split
    · next hdump =>
        refine iff_of_false (by rintro ⟨⟩) fun htext => ?_
        have hnote := Draft.isUtf8_textAt htext "message"
        rw [Draft.textAt_put, if_neg (by decide)] at hnote
        have hsome : (credentialState H m ctx.keyOid ctx.target.username ctx.target.password key
            ctx.expiresAt (key ≠ []) ((keygenReport ctx key).textAt "message")).dump.isSome = true := by
          rw [Draft.dump_isSome, isText_credentialState, hnote]
        rw [hdump] at hsome
        exact absurd hsome Bool.false_ne_true
    · split
      · exact hanswer
      · exact hanswer

/-- The report of a keygen test that a device has answered. -/
lemma ending_onKeygen (h : ctx.seqNo ≠ 0) (hout : ctx.out = startOut) :
    (onKeygen H m ctx res).ending = .done ↔
      (deviceTold res && (deviceKey res).all isUtf8) = true := by
  rw [onKeygen, hout]
  dsimp only
  refine Iff.trans (ending_finishKeygen _ _ ?_) ?_
  · exact h
  rw [deviceTold, certificateTold, deviceKey, keygenReport, readKeygenKey, recordTlsStep]
  cases htls : res.tlsOk with
  | false =>
      simp [putStep, Draft.putAt]
      tauto
  | true =>
      cases hpin : res.pinMatched with
      | false =>
          simp [putStep, Draft.putAt]
          tauto
      | true =>
          by_cases hstatus : res.status = 200
          · cases hkey : extractXmlTag res.body "key" with
            | nil =>
                simp [putStep, Draft.putAt, hstatus]
                tauto
            | cons c cs =>
                by_cases he : ctx.expiresAt = ""
                · simp [putStep, Draft.putAt, hstatus, he]
                  tauto
                · simp [putStep, Draft.putAt, hstatus, he]
                  tauto
          · simp [putStep, Draft.putAt, hstatus]
            tauto

/-- The report of a keygen test that the auth server has answered. -/
lemma ending_onSaseResponse (h : ctx.seqNo ≠ 0) (hout : ctx.out = startOut) :
    (onSaseResponse H m ctx res).ending = .done ↔ serverTold H res = true := by
  have hfinish : ∀ (out : Draft) (expiresAt : String) (key : Bytes),
      (finishKeygen H m { ctx with out, expiresAt } key).ending = .done ↔
        ((keygenReport { ctx with out, expiresAt } key).put "stored"
          (.bool (available H.key))).isText = true := fun out expiresAt key =>
    ending_finishKeygen { ctx with out, expiresAt } key h
  rw [onSaseResponse, serverTold, hout]
  dsimp only
  split
  · next htls =>
      rw [hfinish]
      simp [keygenReport, putStep, Draft.putAt]
  · next htls =>
      split
      · next hstatus =>
          refine ending_ofRead_of_done fun detail _ => (hfinish _ _ _).mpr ?_
          simp [keygenReport, putStep, Draft.putAt]
      · next hstatus =>
          rw [ending_ofRead, serverToken]
          cases htoken : accessToken H res with
          | error e =>
              refine iff_of_false ?_ (by simp [Except.isOk, Except.toBool])
              rintro ⟨token, ⟨⟩, -⟩
          | ok token =>
              have hseen : (res.tlsOk && decide (res.status = 200)) = true := by simpa using
                ⟨by simpa using htls, by simpa using hstatus⟩
              rw [if_pos hseen]
              simp only [Except.ok.injEq, exists_eq_left']
              split
              · next hempty =>
                  refine iff_of_true ((hfinish _ _ _).mpr ?_) ?_
                  · simp [keygenReport, putStep, Draft.putAt]
                  · simp [Except.isOk, Except.toBool]
              · next hsome =>
                  refine (ending_ofRead_of_done fun seconds _ => (hfinish _ _ _).mpr ?_).trans ?_
                  · have htext : textBytes token ≠ [] := by
                      rwa [ne_eq, textBytes_eq_nil]
                    by_cases hexpires : (if 0 < seconds then m.expiry seconds else ctx.expiresAt) = ""
                    · simp [keygenReport, putStep, Draft.putAt, htext, hexpires]
                    · simp [keygenReport, putStep, Draft.putAt, htext, hexpires]
                  · rfl

/-- The report of a look at a certificate. -/
lemma ending_onTlsProbe (h : ctx.seqNo ≠ 0) (hout : ctx.out = startOut) :
    (onTlsProbe ctx res).ending = .done ↔ certificateTold res = true := by
  rw [onTlsProbe, hout]
  dsimp only
  rw [ending_sendTestResponse h, certificateTold, recordTlsStep]
  cases htls : res.tlsOk with
  | false =>
      simp only [putStep, Draft.putAt]
      by_cases hfirst : res.fingerprint ≠ [] ∧ ctx.target.fingerprint = ""
      · simp [hfirst, Draft.asText]
        tauto
      · simp [hfirst, Draft.asText]
        tauto
  | true =>
      cases hpin : res.pinMatched with
      | false =>
          simp only [putStep, Draft.putAt]
          by_cases hfirst : res.fingerprint ≠ [] ∧ ctx.target.fingerprint = ""
          · simp [hfirst, Draft.asText]
            tauto
          · simp [hfirst, Draft.asText]
            tauto
      | true =>
          simp [putStep, Draft.putAt]
          tauto

/-! ### The ends of endpoint tests -/

/-- A step of a report that is all texts. -/
lemma isText_putStep {out : Draft} (hout : out.isText = true) {name : String} {ok : Bool}
    {detail : Bytes} : (putStep name ok detail out).isText = isUtf8 detail := by
  have hinner : ((out.find? "steps").getD (.object [])).textsOutside [name] = true := by
    cases hfind : out.find? "steps" with
    | none => rfl
    | some steps => exact Draft.textsOutside_of_isText (Draft.isText_of_find? hout hfind) _
  rw [putStep, Draft.putAt, Draft.isText_put_eq, Draft.isText_put_eq, isText_stepJson, hinner,
    Draft.textsOutside_of_isText hout, Bool.and_true, Bool.and_true]

/-- A call that could not be sent is reported where its error is a text. -/
lemma isText_notSent {out : Draft} (hout : out.isText = true) :
    (notSent out res).isText = isUtf8 res.error := by
  rw [notSent, Draft.isText_put_eq, Draft.textsOutside_put, putStep, Draft.textsOutside_putAt hout]
  simp

namespace NgfwController

/-- The report of an endpoint of a device. -/
lemma ending_onEndpointResponse (h : ctx.seqNo ≠ 0) (hout : ctx.out.isText = true) :
    (onEndpointResponse ctx res).ending = .done ↔ told ctx.input res = true := by
  rw [onEndpointResponse, told]
  cases hread : readApiType ctx.input with
  | error e => exact iff_of_false (by rintro ⟨⟩) Bool.false_ne_true
  | ok apiType =>
      rw [ofRead_ok]
      unfold endpointTold
      split
      · rw [ending_sendTestResponse h, isText_notSent hout]
      · dsimp only
        rw [ending_sendTestResponse h, Draft.isText_put_eq, Draft.textsOutside_put,
          Draft.textsOutside_put, putStep, Draft.textsOutside_putAt hout]
        by_cases hstatus : res.status = 200
        · simp [hstatus, shownBody, Draft.isText, Draft.areTexts]
        · simp [hstatus, shownBody, Draft.isText, Draft.areTexts]

/-- It is sent with the texts of what is there already. -/
lemma isUtf8_of_onEndpointResponse (h : ctx.seqNo ≠ 0)
    (hdone : (onEndpointResponse ctx res).ending = .done) {key : String}
    (hkey : key ∉ ["steps", "ok", "response", "message"]) :
    isUtf8 (ctx.out.textAt key) = true := by
  simp only [List.mem_cons, List.not_mem_nil, or_false, not_or] at hkey
  obtain ⟨hsteps, hok, hresponse, hmessage⟩ := hkey
  rw [onEndpointResponse] at hdone
  cases hread : readApiType ctx.input with
  | error e =>
      rw [hread] at hdone
      cases hdone
  | ok apiType =>
      rw [hread, ofRead_ok] at hdone
      split at hdone
      · rw [ending_sendTestResponse h] at hdone
        have htext := Draft.isUtf8_textAt hdone key
        simpa [notSent, putStep, Draft.putAt, hsteps, hok, hmessage] using htext
      · dsimp only at hdone
        rw [ending_sendTestResponse h] at hdone
        have htext := Draft.isUtf8_textAt hdone key
        simpa [putStep, Draft.putAt, hsteps, hok, hresponse, hmessage] using htext

/-- What a device has said to a key request, as far as it is a text. -/
lemma isText_readKeygenKey (hadPin : Bool) :
    (readKeygenKey res hadPin startOut).1 = (deviceKey res).getD [] ∧
      (readKeygenKey res hadPin startOut).2.find? "ok" = none ∧
      (readKeygenKey res hadPin startOut).2.isObject = true ∧
      (readKeygenKey res hadPin startOut).2.isText = deviceTold res := by
  rw [deviceTold, certificateTold, deviceKey, readKeygenKey, recordTlsStep]
  cases htls : res.tlsOk with
  | false => simp [putStep, Draft.putAt, Bool.and_comm]
  | true =>
      cases hpin : res.pinMatched with
      | false => simp [putStep, Draft.putAt, Bool.and_comm]
      | true =>
          by_cases hstatus : res.status = 200
          · cases hkey : extractXmlTag res.body "key" with
            | nil => simp [putStep, Draft.putAt, hstatus, Bool.and_comm, Bool.and_left_comm]
            | cons c cs => simp [putStep, Draft.putAt, hstatus, Bool.and_comm]
          · simp [putStep, Draft.putAt, hstatus, Bool.and_comm, Bool.and_left_comm]

/-- The certificate of a device is in the report of the key it issued. -/
lemma textAt_readKeygenKey (hadPin : Bool) :
    (readKeygenKey res hadPin startOut).2.textAt "fingerprint" = res.fingerprint ∧
      (readKeygenKey res hadPin startOut).2.textAt "cert_subject" = res.certSubject := by
  rw [readKeygenKey, recordTlsStep]
  cases htls : res.tlsOk with
  | false => simp [putStep, Draft.putAt, Draft.asText]
  | true =>
      cases hpin : res.pinMatched with
      | false => simp [putStep, Draft.putAt, Draft.asText]
      | true =>
          by_cases hstatus : res.status = 200
          · cases hkey : extractXmlTag res.body "key" <;>
              simp [putStep, Draft.putAt, hstatus, Draft.asText]
          · simp [putStep, Draft.putAt, hstatus, Draft.asText]

/-- A call, and the report of what it meets. -/
lemma ending_callEndpoint (h : ctx.seqNo ≠ 0) (hout : ctx.out.isText = true) (key : Bytes)
    (arrival : Arrival) (rest : List Arrival) :
    (Stage.run (resume H) (callEndpoint ctx key) (arrival :: rest)).ending = .done ↔
      ((readPath ctx.input).isOk && told ctx.input arrival.1) = true := by
  rw [callEndpoint]
  cases hread : readPath ctx.input with
  | error e => exact iff_of_false (by rintro ⟨⟩) Bool.false_ne_true
  | ok path =>
      obtain ⟨apiType, path⟩ := path
      have hshown : (ctx.showing (endpointCall ctx key apiType path).2).out.isText = true := by
        rw [ConnectorTest.showing, Draft.isText_put_eq, Draft.isText_value,
          Draft.textsOutside_of_isText hout]
        rfl
      have hseq : (ctx.showing (endpointCall ctx key apiType path).2).seqNo ≠ 0 := h
      have hsettled := settled_onEndpointResponse (ctx.showing (endpointCall ctx key apiType path).2)
        arrival.1
      have hend := @ending_onEndpointResponse _ arrival.1 hseq hshown
      rw [← @Stage.run_of_settled _ _ _ _ _ (resume H) hsettled rest] at hend
      exact hend

/-- It too is sent with the texts of what is there already. -/
lemma isUtf8_of_callEndpoint (h : ctx.seqNo ≠ 0) {key : Bytes} {second : Arrival}
    (hdone : (Stage.run (resume H) (callEndpoint ctx key) [second]).ending = .done) {name : String}
    (hname : name ∉ ["steps", "ok", "response", "message"]) (hrequest : name ≠ "request") :
    isUtf8 (ctx.out.textAt name) = true := by
  rw [callEndpoint] at hdone
  cases hread : readPath ctx.input with
  | error e =>
      rw [hread] at hdone
      cases hdone
  | ok path =>
      obtain ⟨apiType, path⟩ := path
      rw [hread] at hdone
      have hseq : (ctx.showing (endpointCall ctx key apiType path).2).seqNo ≠ 0 := h
      have hshown := isUtf8_of_onEndpointResponse hseq hdone hname
      rwa [ConnectorTest.showing, Draft.textAt_put, if_neg hrequest] at hshown

/-- The report of an endpoint test that asks a device for a key first. -/
lemma ending_onKeygenForEndpoint (h : ctx.seqNo ≠ 0) (hout : ctx.out = startOut)
    (second : Arrival) :
    (Stage.run (resume H) (onKeygenForEndpoint ctx res) [second]).ending = .done ↔
      (deviceTold res && ((deviceKey res).isNone ||
        ((readPath ctx.input).isOk && told ctx.input second.1))) = true := by
  obtain ⟨hkey, hok, hobj, htext⟩ :=
    @isText_readKeygenKey res (decide (ctx.target.fingerprint ≠ ""))
  obtain ⟨hfingerprint, hsubject⟩ := @textAt_readKeygenKey res (decide (ctx.target.fingerprint ≠ ""))
  rw [onKeygenForEndpoint, hout]
  dsimp only
  rw [hkey]
  generalize (readKeygenKey res (decide (ctx.target.fingerprint ≠ "")) startOut).2 = out at *
  cases hissued : deviceKey res with
  | none =>
      rw [Option.getD_none, if_pos rfl, Stage.run_of_settled (settled_sendTestResponse _ _),
        ending_sendTestResponse h, Draft.isText_put hobj hok, htext]
      simp
  | some key =>
      have hseq : ({ ctx with out } : ConnectorTest).seqNo ≠ 0 := h
      rw [Option.getD_some, if_neg (deviceKey_ne_nil hissued)]
      by_cases htold : deviceTold res = true
      · rw [ending_callEndpoint hseq (htext.trans htold), htold]
        rfl
      · -- the certificate is in the report, and the device said nothing else
        refine iff_of_false (fun hdone => htold ?_) (by simp [htold])
        have hprint := isUtf8_of_callEndpoint hseq hdone (by decide) (by decide : "fingerprint" ≠ _)
        have hcert := isUtf8_of_callEndpoint hseq hdone (by decide) (by decide : "cert_subject" ≠ _)
        rw [hfingerprint] at hprint
        rw [hsubject] at hcert
        have htls : res.tlsOk = true := by
          rw [deviceKey] at hissued
          split at hissued
          · next hseen =>
              rw [Bool.and_eq_true, Bool.and_eq_true] at hseen
              exact hseen.1.1
          · cases hissued
        simp [deviceTold, certificateTold, hprint, hcert, htls, hissued]

end NgfwController

/-! ### The ends of the tests of the cloud -/

namespace SaseController

/-- The report of an endpoint of the cloud. -/
lemma ending_onSaseEndpointResponse (h : ctx.seqNo ≠ 0) (hout : ctx.out.isText = true) :
    (onSaseEndpointResponse ctx res).ending = .done ↔ told res = true := by
  rw [onSaseEndpointResponse, told, endpointTold]
  split
  · rw [ending_sendTestResponse h, isText_notSent hout]
  · dsimp only
    rw [ending_sendTestResponse h, Draft.isText_put_eq, Draft.textsOutside_put,
      Draft.textsOutside_put, putStep, Draft.textsOutside_putAt hout]
    by_cases hstatus : res.status = 200
    · simp [hstatus, shownBody, Draft.isText, Draft.areTexts]
    · by_cases hregion : res.status = 424
      · simp [hregion, shownBody, Draft.isText, Draft.areTexts]
      · by_cases hrejected : res.status = 401 ∨ res.status = 403
        · simp [hstatus, hregion, hrejected, shownBody, Draft.isText, Draft.areTexts]
        · simp [hstatus, hregion, hrejected, shownBody, Draft.isText, Draft.areTexts]

/-- A call, and the report of what it meets. -/
lemma ending_callSaseEndpoint (h : ctx.seqNo ≠ 0) (hout : ctx.out.isText = true) (token : Bytes)
    (arrival : Arrival) (rest : List Arrival) :
    (Stage.run (resume H) (callSaseEndpoint ctx token) (arrival :: rest)).ending = .done ↔
      ((readPath ctx.input).isOk && told arrival.1) = true := by
  rw [callSaseEndpoint]
  cases hread : readPath ctx.input with
  | error e => exact iff_of_false (by rintro ⟨⟩) Bool.false_ne_true
  | ok path =>
      obtain ⟨host, path, headers⟩ := path
      have hshown : (ctx.showing (endpointCall token host path headers).2).out.isText = true := by
        rw [ConnectorTest.showing, Draft.isText_put_eq, Draft.isText_value,
          Draft.textsOutside_of_isText hout]
        rfl
      have hseq : (ctx.showing (endpointCall token host path headers).2).seqNo ≠ 0 := h
      have hsettled := settled_onSaseEndpointResponse
        (ctx.showing (endpointCall token host path headers).2) arrival.1
      have hend := @ending_onSaseEndpointResponse _ arrival.1 hseq hshown
      rw [← @Stage.run_of_settled _ _ _ _ _ (resume H) hsettled rest] at hend
      exact hend

/-- A refusal of the auth server, reported. -/
lemma ending_refusal (h : ctx.seqNo ≠ 0) (hout : ctx.out.isText = true) (detail : Bytes)
    (second : Arrival) :
    (Stage.run (resume H) (sendTestResponse ctx.seqNo
      ((putStep "auth" false detail ctx.out).put "ok" (.bool false))) [second]).ending = .done ↔
      isUtf8 detail = true := by
  rw [Stage.run_of_settled (settled_sendTestResponse _ _), ending_sendTestResponse h,
    Draft.isText_put_eq, putStep, Draft.textsOutside_putAt hout]
  simp

/-- The report of an endpoint test that asks the auth server for a token first. -/
lemma ending_onTokenForEndpoint (h : ctx.seqNo ≠ 0) (hout : ctx.out.isText = true)
    (second : Arrival) :
    (Stage.run (resume H) (onTokenForEndpoint H ctx res) [second]).ending = .done ↔
      (((res.tlsOk && res.requestSent) || isUtf8 res.error) &&
        (!tokenIssued H res || ((readPath ctx.input).isOk && told second.1))) = true := by
  rw [onTokenForEndpoint, tokenIssued]
  dsimp only
  split
  · next hunsent =>
      rw [ending_refusal h hout, isUtf8_orElse]
      have hsent : (res.tlsOk && res.requestSent) = false := by
        rw [← Bool.not_eq_true', Bool.not_and]
        exact hunsent
      simp [hsent]
  · next hsent =>
      have hsent : (res.tlsOk && res.requestSent) = true := by
        rwa [← Bool.not_eq_false', Bool.not_and, ← Bool.not_eq_true]
      split
      · next hstatus =>
          rw [ending_refusal h hout]
          simp [hsent, hstatus]
      · next hstatus =>
          split
          · next hempty =>
              rw [ending_refusal h hout]
              simp [hsent, hempty]
          · next htoken =>
              have hseq : ({ ctx with
                  out := putStep "auth" true (textBytes "token issued for this test") ctx.out } :
                  ConnectorTest).seqNo ≠ 0 := h
              rw [ending_callSaseEndpoint hseq]
              · rw [not_not] at hstatus
                simp [hsent, hstatus, htoken]
              · exact (isText_putStep hout).trans (isUtf8_textBytes _)

end SaseController

/-- An API that succeeded answered 200. -/
lemma status_of_saseSucceeded (h : saseSucceeded H res = .ok true) : res.status = 200 := by
  rw [saseSucceeded] at h
  split at h
  · assumption
  · cases h

/-- The report of the health of a device, as far as it is a text. -/
lemma isText_saseReport {ok : Bool} (h : saseSucceeded H res = .ok ok) :
    (saseReport H startOut res ok).isText = ((res.status ≠ 0 || isUtf8 res.error) &&
      ((H.parse res.body).isSome || isUtf8 res.body)) := by
  have hmessage : (if ok then Draft.str "SASE health check passed — api-key saved"
      else .text (saseNote res)).isText = (res.status ≠ 0 || isUtf8 res.error) := by
    cases ok with
    | true => simp [status_of_saseSucceeded h]
    | false =>
        rw [if_neg Bool.false_ne_true, Draft.isText_text, saseNote]
        by_cases hstatus : res.status = 200
        · simp [hstatus]
        · by_cases hrejected : res.status = 401 ∨ res.status = 403
          · rcases hrejected with hrejected | hrejected <;> simp [hrejected]
          · by_cases hnone : res.status = 0
            · simp [hnone]
            · simp [hstatus, hrejected, hnone]
  rw [saseReport]
  cases hparse : H.parse res.body with
  | some parsed => simp [hmessage]
  | none =>
      by_cases hbody : res.body = []
      · simp [hbody, hmessage]
      · simp [hbody, hmessage, Bool.and_comm]

/-- The report of the health of a device. -/
lemma ending_onSaseTest (h : seqNo ≠ 0) {oid : String} {apiKey : Bytes} {keyFromOperator : Bool} :
    (onSaseTest H m seqNo startOut oid apiKey keyFromOperator res).ending = .done ↔
      saseTold H res = true := by
  rw [onSaseTest, saseTold]
  cases hok : saseSucceeded H res with
  | error e => exact iff_of_false (by rintro ⟨⟩) (by simp [Except.isOk, Except.toBool])
  | ok ok =>
      have htext := isText_saseReport hok
      have hanswer := ending_sendTestResponse h (saseReport H startOut res ok)
      rw [htext] at hanswer
      rw [ofRead_ok]
      dsimp only
      split
      · next hsave =>
          split
          · -- the key could not be sealed: another message, in place of one that is a text
            obtain ⟨rfl, -⟩ := Bool.and_eq_true_iff.mp hsave
            have hstatus := status_of_saseSucceeded hok
            rw [ending_sendTestResponse h, saseReport]
            cases hparse : H.parse res.body with
            | some parsed => simp [hstatus, Except.isOk, Except.toBool]
            | none =>
                by_cases hbody : res.body = []
                · simp [hbody, hstatus, Except.isOk, Except.toBool]
                · simp [hbody, hstatus, Except.isOk, Except.toBool]
          · exact hanswer
      · exact hanswer

end Ends

/-! ### The exchanges a request begins -/

/-- The exchange a request begins, if it is not refused at its start. -/
def begun (cache : KeyCache) (seqNo : UInt32) (input : Json) : TestRequest → Option Wait
  | .RunKeygenTest =>
      match keygenPlan cache seqNo input with
      | .ok (.token ctx) => some (.saseToken ctx)
      | .ok (.keygen ctx) => some (.keygen ctx)
      | _ => none
  | .RunEndpointTest =>
      if input.textOr "device_type" "ngfw" = "sase" then
        match SaseController.plan cache seqNo input with
        | .ok (.stored ctx _) =>
            if (SaseController.readPath ctx.input).isOk then some (.saseEndpoint ctx) else none
        | .ok (.token ctx) => some (.tokenForEndpoint ctx)
        | _ => none
      else
        match NgfwController.plan cache seqNo input with
        | .ok (.stored ctx _) =>
            if (NgfwController.readPath ctx.input).isOk then some (.endpoint ctx) else none
        | .ok (.keygen ctx) => some (.keygenForEndpoint ctx)
        | _ => none
  | .RunSaseTest =>
      match readSaseTest cache input with
      | .ok t => if t.refusal.isNone then some (t.wait seqNo) else none
      | .error _ => none
  | .RunTlsProbe =>
      match parseTestTarget input with
      | .ok target => if target.host = "" then none else some (.tlsProbe (newTest seqNo input target))
      | .error _ => none
  | .StoreSaseKey | .StoreCredential => none

section Begun

variable {H : Host} {m : Moment} {cache : KeyCache} {seqNo : UInt32} {input : Json}
  {first second : Arrival}

/-- A start that answers where it fails: what is left is the exchange it begins. -/
lemma ending_guarded (h : seqNo ≠ 0) (what : String) (s : Step) (arrivals : List Arrival) :
    (Stage.run (resume H) (Stage.guard (startFailed H seqNo what) s) arrivals).ending = .done ↔
      ∀ k, s.ending = .waits k → (Stage.run (resume H) s arrivals).ending = .done := by
  rw [Stage.guard]
  split
  · next e hend =>
      refine iff_of_true ?_ fun k hk => by rw [hend] at hk; cases hk
      have hanswer : (startFailed H seqNo what e).ending = .done := by
        rw [startFailed, ending_sendTestResponse h]
        simp [failure, Draft.isText, Draft.areTexts]
      rw [Stage.run_of_settled fun k hk => by rw [hanswer] at hk; cases hk]
      exact hanswer
  · next hend =>
      refine iff_of_true ?_ fun k hk => by rw [hend] at hk; cases hk
      rw [Stage.run_of_settled fun k hk => by rw [hend] at hk; cases hk]
      exact hend
  · next k hend => exact ⟨fun hdone _ _ => hdone, fun hdone => hdone k hend⟩

/-- A start that waits, and the exchange it begins. -/
lemma ending_waiting {r : ClientRequest} {w w' : Wait}
    (h : (Stage.run (resume H) (resume H w first) [second]).ending = .done ↔
      told H w' first.1 second.1 = true) :
    (∀ k, (requestAsync r w).ending = .waits k →
      (Stage.run (resume H) (requestAsync r w) [first, second]).ending = .done) ↔
      ∀ k, some w' = some k → told H k first.1 second.1 = true := by
  simp only [Option.some.injEq, forall_eq', ← h]
  exact ⟨fun hdone => hdone w rfl, fun hdone _ _ => hdone⟩

/-- The start of a keygen test that goes on. -/
lemma keygenPlan_out {plan : KeygenPlan} (h : keygenPlan cache seqNo input = .ok plan) :
    match plan with
    | .reject _ | .stored _ _ => True
    | .token ctx | .keygen ctx => ctx.out = startOut := by
  rw [keygenPlan] at h
  obtain ⟨keyOid, -, h⟩ := except_bind_eq_ok.mp h
  obtain ⟨target, -, h⟩ := except_bind_eq_ok.mp h
  dsimp only at h
  split at h
  · cases h
    trivial
  · split at h
    · split at h <;> cases h <;> trivial
    · split at h
      · split at h <;> cases h <;> trivial
      · cases h
        trivial

lemma ending_runKeygenTest (h : seqNo ≠ 0) :
    (Stage.run (resume H) (runKeygenTest H m cache seqNo input) [first, second]).ending = .done ↔
      ∀ k, begun cache seqNo input .RunKeygenTest = some k →
        told H k first.1 second.1 = true := by
  rw [runKeygenTest, ending_guarded h, begun]
  cases hplan : keygenPlan cache seqNo input with
  | error e => exact iff_of_true (by rintro k ⟨⟩) (by simp)
  | ok plan =>
      have hseq := keygenPlan_seqNo hplan
      have hout := keygenPlan_out hplan
      rw [ofRead_ok]
      cases plan with
      | reject message =>
          exact iff_of_true (fun k hk => absurd hk (settled_sendTestResponse _ _ k)) (by simp)
      | stored ctx key =>
          exact iff_of_true (fun k hk => absurd hk (settled_finishKeygen _ _ _ _ k)) (by simp)
      | token ctx =>
          refine ending_waiting ?_
          rw [resume, Stage.run_of_settled (settled_onSaseResponse _ _ _ _)]
          exact ending_onSaseResponse (hseq.trans_ne h) hout
      | keygen ctx =>
          refine ending_waiting ?_
          rw [resume, Stage.run_of_settled (settled_onKeygen _ _ _ _)]
          exact ending_onKeygen (hseq.trans_ne h) hout

lemma ending_runTlsProbe (h : seqNo ≠ 0) :
    (Stage.run (resume H) (runTlsProbe H seqNo input) [first, second]).ending = .done ↔
      ∀ k, begun cache seqNo input .RunTlsProbe = some k → told H k first.1 second.1 = true := by
  rw [runTlsProbe, ending_guarded h, begun]
  cases htarget : parseTestTarget input with
  | error e => exact iff_of_true (by rintro k ⟨⟩) (by simp)
  | ok target =>
      rw [ofRead_ok, probeStart]
      dsimp only
      split
      · exact iff_of_true (fun k hk => absurd hk (settled_sendTestResponse _ _ k)) (by simp)
      · refine ending_waiting ?_
        rw [resume, Stage.run_of_settled (settled_onTlsProbe _ _)]
        exact ending_onTlsProbe h rfl

lemma ending_runSaseTest (h : seqNo ≠ 0) :
    (Stage.run (resume H) (runSaseTest H cache seqNo input) [first, second]).ending = .done ↔
      ∀ k, begun cache seqNo input .RunSaseTest = some k → told H k first.1 second.1 = true := by
  rw [runSaseTest, ending_guarded h, begun]
  cases htest : readSaseTest cache input with
  | error e => exact iff_of_true (by rintro k ⟨⟩) (by simp)
  | ok t =>
      rw [ofRead_ok, SaseTest.start]
      dsimp only
      cases hrefusal : t.refusal with
      | some message =>
          exact iff_of_true (fun k hk => absurd hk (settled_sendTestResponse _ _ k)) (by simp)
      | none =>
          refine ending_waiting ?_
          rw [SaseTest.wait, resume, Stage.run_of_settled (settled_onSaseTest _)]
          exact ending_onSaseTest h

/-- A report without a step or a text of its own is sent. -/
lemma ending_failure (h : seqNo ≠ 0) (message : String) :
    (sendTestResponse seqNo (failure message)).ending = .done := by
  rw [ending_sendTestResponse h]
  simp [failure, Draft.isText, Draft.areTexts]

lemma ending_success (h : seqNo ≠ 0) (message : String) :
    (sendTestResponse seqNo (success message)).ending = .done := by
  rw [ending_sendTestResponse h]
  simp [success, Draft.isText, Draft.areTexts]

lemma ending_storeApiKey (h : seqNo ≠ 0) : (storeApiKey H m seqNo input).ending = .done := by
  rw [storeApiKey]
  split
  · exact ending_failure h _
  · split
    · exact ending_failure h _
    · split
      · exact ending_failure h _
      · exact ending_success h _

lemma ending_storeCredential (h : seqNo ≠ 0) :
    (storeCredential H m seqNo input).ending = .done := by
  rw [storeCredential]
  split
  · exact ending_failure h _
  · split
    · exact ending_failure h _
    · split
      · exact ending_failure h _
      · split
        · exact ending_failure h _
        · exact ending_success h _

/-- A report that a stored key is used. -/
lemma isText_usingStored {out : Draft} (hout : out.isText = true) {detail : String} :
    (usingStored detail out).isText = true := by
  have hstep := (@isText_putStep out hout "auth" true (textBytes detail)).trans
    (isUtf8_textBytes detail)
  rw [usingStored, Draft.isText_put_eq, Draft.textsOutside_of_isText hstep]
  rfl

/-- The start of an endpoint test of a device that goes on. -/
lemma NgfwController.plan_out {p : Plan} (h : plan cache seqNo input = .ok p) :
    match p with
    | .reject _ => True
    | .stored ctx _ => ctx.out.isText = true
    | .keygen ctx => ctx.out = startOut := by
  rw [plan] at h
  obtain ⟨target, -, h⟩ := except_bind_eq_ok.mp h
  dsimp only at h
  split at h
  · cases h
    trivial
  · obtain ⟨endpoint, -, h⟩ := except_bind_eq_ok.mp h
    obtain ⟨apiType, -, h⟩ := except_bind_eq_ok.mp h
    split at h
    · cases h
      trivial
    · split at h
      · cases h
        trivial
      · obtain ⟨params, -, h⟩ := except_bind_eq_ok.mp h
        split at h
        · cases h
          trivial
        · split at h
          · split at h <;> cases h <;> trivial
          · cases h
            exact isText_usingStored rfl

/-- The start of an endpoint test of the cloud that goes on. -/
lemma SaseController.plan_out {p : Plan} (h : plan cache seqNo input = .ok p) :
    match p with
    | .reject _ => True
    | .stored ctx _ | .token ctx => ctx.out.isText = true := by
  have hstart : (putStep "tls" true (textBytes "verified against the public CA chain")
      (.object [])).isText = true := (isText_putStep rfl).trans (isUtf8_textBytes _)
  rw [plan] at h
  obtain ⟨target, -, h⟩ := except_bind_eq_ok.mp h
  obtain ⟨host, -, h⟩ := except_bind_eq_ok.mp h
  obtain ⟨endpoint, -, h⟩ := except_bind_eq_ok.mp h
  split at h
  · cases h
    trivial
  · split at h
    · cases h
      trivial
    · split at h
      · cases h
        trivial
      · obtain ⟨params, -, h⟩ := except_bind_eq_ok.mp h
        split at h
        · cases h
          trivial
        · obtain ⟨headers, -, h⟩ := except_bind_eq_ok.mp h
          split at h
          · cases h
            trivial
          · dsimp only at h
            split at h
            · split at h
              · cases h
                trivial
              · cases h
                exact hstart
            · cases h
              exact isText_usingStored hstart

/-- A start that calls with what is stored, unless the path cannot be read. -/
lemma ending_calling {s : Step} {w : Wait} {readable : Bool}
    (hwaits : readable = true ↔ ∃ k, s.ending = .waits k)
    (h : (Stage.run (resume H) s [first, second]).ending = .done ↔
      (readable && told H w first.1 second.1) = true) :
    (∀ k, s.ending = .waits k → (Stage.run (resume H) s [first, second]).ending = .done) ↔
      ∀ k, (if readable = true then some w else none) = some k →
        told H k first.1 second.1 = true := by
  rw [h]
  cases readable with
  | true =>
      obtain ⟨k, hk⟩ := hwaits.mp rfl
      simp only [Bool.true_and, if_true, Option.some.injEq, forall_eq']
      exact ⟨fun hdone => hdone k hk, fun hdone _ _ => hdone⟩
  | false =>
      refine iff_of_true (fun k hk => ?_) (by simp)
      exact absurd (hwaits.mpr ⟨k, hk⟩) Bool.false_ne_true

/-- A read in front of a call. -/
lemma waits_ofRead {α : Type} {x : Except JsonError α} {r : α → ClientRequest} {w : α → Wait} :
    x.isOk = true ↔ ∃ k, (ofRead x fun a => requestAsync (r a) (w a)).ending = .waits k := by
  cases x with
  | error e => exact iff_of_false Bool.false_ne_true (by rintro ⟨k, ⟨⟩⟩)
  | ok a => exact iff_of_true rfl ⟨w a, rfl⟩

lemma ending_runNgfwTest (h : seqNo ≠ 0) (hdevice : input.textOr "device_type" "ngfw" ≠ "sase") :
    (Stage.run (resume H) (NgfwController.runEndpointTest H cache seqNo input)
      [first, second]).ending = .done ↔
      ∀ k, begun cache seqNo input .RunEndpointTest = some k →
        told H k first.1 second.1 = true := by
  rw [NgfwController.runEndpointTest, ending_guarded h, begun, if_neg hdevice]
  cases hplan : NgfwController.plan cache seqNo input with
  | error e => exact iff_of_true (by rintro k ⟨⟩) (by simp)
  | ok p =>
      have hseq := NgfwController.plan_seqNo hplan
      have hout := NgfwController.plan_out hplan
      rw [ofRead_ok]
      cases p with
      | reject message =>
          exact iff_of_true (fun k hk => absurd hk (settled_sendTestResponse _ _ k)) (by simp)
      | stored ctx key =>
          exact ending_calling waits_ofRead
            (NgfwController.ending_callEndpoint (hseq.trans_ne h) hout key first [second])
      | keygen ctx =>
          refine ending_waiting ?_
          exact NgfwController.ending_onKeygenForEndpoint (hseq.trans_ne h) hout second

lemma ending_runCloudTest (h : seqNo ≠ 0) (hdevice : input.textOr "device_type" "ngfw" = "sase") :
    (Stage.run (resume H) (SaseController.runEndpointTest H cache seqNo input)
      [first, second]).ending = .done ↔
      ∀ k, begun cache seqNo input .RunEndpointTest = some k →
        told H k first.1 second.1 = true := by
  rw [SaseController.runEndpointTest, ending_guarded h, begun, if_pos hdevice]
  cases hplan : SaseController.plan cache seqNo input with
  | error e => exact iff_of_true (by rintro k ⟨⟩) (by simp)
  | ok p =>
      have hseq := SaseController.plan_seqNo hplan
      have hout := SaseController.plan_out hplan
      rw [ofRead_ok]
      cases p with
      | reject message =>
          exact iff_of_true (fun k hk => absurd hk (settled_sendTestResponse _ _ k)) (by simp)
      | stored ctx token =>
          exact ending_calling waits_ofRead
            (SaseController.ending_callSaseEndpoint (hseq.trans_ne h) hout token first [second])
      | token ctx =>
          refine ending_waiting ?_
          exact SaseController.ending_onTokenForEndpoint (hseq.trans_ne h) hout second

/-! ### The requests that are answered -/

/-- The request is answered, once, and no exception leaves a handler. -/
def AnsweredOnce (H : Host) (m : Moment) (cache : KeyCache) (request : TestRequest)
    (seqNo : UInt32) (payload : Bytes) (first second : Arrival) : Prop :=
  (handled H m cache request seqNo payload [first, second]).ending = .done ∧
    (handled H m cache request seqNo payload [first, second]).out.countP (isAnswer seqNo) = 1

/-- The payload is a document that names the kind of its device where it is read, and
what the exchange it begins hears can be told. -/
def Answerable (H : Host) (cache : KeyCache) (request : TestRequest) (seqNo : UInt32)
    (payload : Bytes) (first second : ClientResponse) : Prop :=
  ∃ input, decodeTest H payload = some input ∧
    (request = .RunEndpointTest →
      input.isObject = true ∧ input.stringOrAbsent "device_type" = true) ∧
    ∀ k, begun cache seqNo input request = some k → told H k first second = true

/-- A request that is decoded, route by route. -/
lemma ending_route (h : seqNo ≠ 0) {request : TestRequest} {payload : Bytes}
    (hinput : decodeTest H payload = some input) :
    (handled H m cache request seqNo payload [first, second]).ending = .done ↔
      (request = .RunEndpointTest →
        input.isObject = true ∧ input.stringOrAbsent "device_type" = true) ∧
      ∀ k, begun cache seqNo input request = some k → told H k first.1 second.1 = true := by
  rw [handled, route, hinput]
  cases request with
  | RunKeygenTest => simpa using ending_runKeygenTest h
  | RunSaseTest => simpa using ending_runSaseTest h
  | RunTlsProbe => simpa using ending_runTlsProbe h
  | StoreSaseKey =>
      have hdone := @ending_storeApiKey H m seqNo input h
      rw [Stage.run_of_settled fun k hk => by rw [hdone] at hk; cases hk]
      simp [hdone, begun]
  | StoreCredential =>
      have hdone := @ending_storeCredential H m seqNo input h
      rw [Stage.run_of_settled fun k hk => by rw [hdone] at hk; cases hk]
      simp [hdone, begun]
  | RunEndpointTest =>
      simp only [true_imp_iff]
      cases hdevice : input.valueString "device_type" "ngfw" with
      | error e =>
          refine iff_of_false (by rintro ⟨⟩) ?_
          rintro ⟨⟨hobj, hstring⟩, -⟩
          cases hdevice.symm.trans ((Json.valueString_eq_ok_iff hobj).mpr ⟨hstring, rfl⟩)
      | ok deviceType =>
          have hobj : input.isObject = true := by
            cases input with
            | obj ms => rfl
            | _ => cases hdevice
          obtain ⟨hstring, rfl⟩ := (Json.valueString_eq_ok_iff hobj).mp hdevice
          rw [ofRead_ok]
          simp only [hobj, hstring, true_and]
          split
          · next hsase => exact ending_runCloudTest h hsase
          · next hngfw => exact ending_runNgfwTest h hngfw

/-- **A connector test is answered once** exactly where its payload is a document that
names the kind of its device and what is heard of it can be told. -/
theorem answeredOnce_iff (h : seqNo ≠ 0) (request : TestRequest) (payload : Bytes) :
    AnsweredOnce H m cache request seqNo payload first second ↔
      Answerable H cache request seqNo payload first.1 second.1 := by
  cases hinput : decodeTest H payload with
  | none =>
      refine iff_of_false ?_ ?_
      · rintro ⟨-, hcount⟩
        rw [handled, route, hinput, Stage.run_of_settled Stage.settled_done] at hcount
        cases hcount
      · rintro ⟨input, hsome, -⟩
        cases hinput.symm.trans hsome
  | some input =>
      have hanswers := (@owes_handled H m cache seqNo input h request payload [first, second]
        hinput).answers
      rw [AnsweredOnce, Answerable, hinput, hanswers]
      simp only [Option.some.injEq, exists_eq_left']
      rw [← ending_route h hinput]
      constructor
      · exact And.left
      · intro hdone
        exact ⟨hdone, by rw [hdone, Stage.due]⟩

end Begun

namespace EndpointTest

/-- A test of an endpoint with a key already issued. -/
def input : Json := .obj
  [("api_key_oid", .str "k"), ("endpoint", .str "/"), ("target", .str "fw")]

/-- Its text. -/
def payload : Bytes :=
  textBytes "\x7b\"api_key_oid\":\"k\",\"endpoint\":\"/\",\"target\":\"fw\"\x7d"

/-- A daemon that was sent it. -/
def host : Host :=
  { key := none, parse := fun bytes => if bytes = payload then some input else none
    what := fun _ => "" }

/-- The key. -/
def cache : KeyCache := ({} : KeyCache).rememberIssuedKey "k" [107]

/-- A moment that has no nonce to draw. -/
def moment : Moment := ⟨fun _ => none, fun _ => ""⟩

/-- A device that answers with a body. -/
def answers (body : Bytes) : ClientResponse :=
  { tlsOk := true, pinMatched := true, requestSent := true, status := 200, body }

lemma decoded : decodeTest host payload = some input := by
  have hne : payload ≠ [] := by
    rw [payload, ne_eq, textBytes_eq_nil]
    decide
  rw [decodeTest, if_neg hne, host]
  simp

lemma begins : ∃ ctx, begun cache 1 input .RunEndpointTest = some (.endpoint ctx) ∧
    ctx.input = input := ⟨_, rfl, rfl⟩

end EndpointTest

open EndpointTest in
/-- A body that is not UTF-8, to an endpoint test: its report cannot be dumped. -/
theorem binary_body_unanswered : ¬∀ (H : Host) (m : Moment) (cache : KeyCache)
    (request : TestRequest) (seqNo : UInt32) (payload : Bytes) (first second : Arrival),
    seqNo ≠ 0 → AnsweredOnce H m cache request seqNo payload first second := by
  intro h
  have hdone := (h host moment cache .RunEndpointTest 1 payload (answers [255], moment)
    (answers [], moment) (by decide)).1
  obtain ⟨ctx, hbegun, hinput⟩ := begins
  have htold := ((ending_route (by decide) decoded).mp hdone).2 _ hbegun
  rw [told, hinput] at htold
  have hnot : NgfwController.told input (answers [255]) = false := by decide +kernel
  exact Bool.false_ne_true (hnot.symm.trans htold)

open EndpointTest in
/-- The same test, answered with an empty object. -/
theorem answeredOnce_iff_object :
    AnsweredOnce host moment cache .RunEndpointTest 1 payload (answers [123, 125], moment)
      (answers [], moment) := by
  refine (answeredOnce_iff (by decide) .RunEndpointTest payload).mpr ?_
  refine ⟨input, decoded, fun _ => ⟨rfl, rfl⟩, fun k hk => ?_⟩
  obtain ⟨ctx, hbegun, hinput⟩ := begins
  cases hbegun.symm.trans hk
  have htold : NgfwController.told input (answers [123, 125]) = true := by decide +kernel
  rwa [told, hinput]

end Pretzel.Collectord
