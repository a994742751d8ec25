import Pretzel.Collectord.ApiService
import Pretzel.Collectord.EndpointControllers
import Pretzel.Engined.CollectionService
import Pretzel.Library.Machine

/-!
The collection of a connector's items
(`collectord/service/api/controller/ConnectorController.cpp`).

* `buildCollectionSample`: the document of one call.
* `resolveDevice`, `collectOnce`, `collectSaseOnce`: the request of one poll.
* `CollectorJob`, `JobState`, `collector`: the schedule of an item, as a machine.
* `SampleIsText`: the texts a sample takes from a response are UTF-8.
* `kept_iff`: **then, and only then, the sample of a call is sent and the next run
  of the item scheduled.**
* `scheduled_of_text`, `unscheduled_forever`: over a whole run.
* `sampleReads_of_dump`: engined reads every sample that is sent.
-/

namespace Pretzel.Collectord

open Nlohmann Texts Util Reactive

/-! ### A sample -/

/-- What is said of a call that is not a usable 200. -/
def sampleError (res : ClientResponse) : Bytes :=
  if !res.tlsOk then orElse res.error "TLS handshake failed"
  else if !res.requestSent then orElse res.error "certificate not trusted — pin the device first"
  else textBytes ("HTTP " ++ toString res.status)

/-- The body of a sample: the first bytes of the response's. -/
def sampleBody (maxBody : ℕ) (res : ClientResponse) : Bytes :=
  if maxBody < res.body.length then res.body.take maxBody else res.body

/-- A usable 200. -/
def ClientResponse.usable (res : ClientResponse) : Bool :=
  res.tlsOk && res.requestSent && res.status = 200

/-- `buildCollectionSample`. -/
def buildCollectionSample (connectorOid endpointOid : String) (res : ClientResponse)
    (latencyMs : ℤ) (maxBody : ℕ) : Draft :=
  let sample := (((((Draft.object []).put "connector_oid" (.str connectorOid)).put
    "endpoint_oid" (.str endpointOid)).put "ok" (.bool res.usable)).put
    "latency_ms" (.int latencyMs)).put "bytes" (.int res.body.length)
  let sample := if res.requestSent then sample.put "http_status" (.int res.status) else sample
  let sample := (sample.put "truncated" (.bool (maxBody < res.body.length))).put
    "body" (.text (sampleBody maxBody res))
  if res.usable then sample else sample.put "error" (.text (sampleError res))

/-! ### A poll -/

/-- `CollectorJob`. -/
structure CollectorJob where
  connectorOid : String
  endpointOid : String
  authProfileOid : String
  objectOid : String
  interval : ℤ := 60
deriving DecidableEq

/-- What `resolveDevice` finds. -/
structure Device where
  host : String
  port : ℕ
  fingerprint : String
deriving DecidableEq

/-- The loop of `resolveDevice`. -/
def findDevice (objectOid : String) : List Json → Except JsonError (Option Device)
  | [] => .ok none
  | d :: devices =>
      if d.isObject = false then findDevice objectOid devices
      else do
        let oid ← d.valueString "oid" ""
        if oid ≠ objectOid then findDevice objectOid devices
        else
          let target ← d.valueString "target" ""
          if target = "" then return none
          else
            let (host, port) := hostAndPort target
            let fingerprint ← d.valueString "fingerprint" ""
            return some { host, port, fingerprint }

/-- `resolveDevice`. -/
def resolveDevice (site : Json) (objectOid : String) : Except JsonError (Option Device) := do
  let ngfw ← site.valueJson "ngfw_devices" (.arr [])
  let sase ← site.valueJson "sase_devices" (.arr [])
  findDevice objectOid (ngfw.elements ++ sase.elements)

/-- The path of an endpoint, with its parameters. -/
def ApiEndpoint.call (ep : ApiEndpoint) : String :=
  (ep.params.filter fun p => p.name ≠ "").foldl
    (fun path p => path ++ separator path ++ urlEncode (textBytes p.name) ++ "=" ++
      urlEncode (textBytes p.value)) ep.path

/-- The request of `collectSaseOnce`. -/
def collectSaseOnce (ep : ApiEndpoint) (token : Bytes) : ClientRequest :=
  { host := ep.host, verifyCa := true, target := ep.call, timeout := 30
    headers := ("Authorization", textBytes "Bearer " ++ token) ::
      (ep.headers.filter fun h => !(h.name = "" || SaseController.sameCase h.name "authorization")).map
        fun h => (h.name, textBytes h.value) }

/-- The request of `collectOnce`, to a device. -/
def deviceRequest (ep : ApiEndpoint) (key : Bytes) (d : Device) : ClientRequest :=
  let base : ClientRequest :=
    { host := d.host, port := d.port, expectedFingerprint := d.fingerprint, timeout := 10 }
  if ep.subtype = .Xml then
    { base with target := ep.call ++ separator ep.call ++ "key=" ++ urlEncode key }
  else { base with target := ep.call, headers := [("X-PAN-KEY", key)] }

/-- `ApiService::findEndpoint`. -/
def ApiService.findEndpoint (api : ApiService) (oid : String) : Option ApiEndpoint :=
  api.endpoints.find? fun e => e.oid = oid

/-- `collectOnce`: the request that goes out, none where the poll waits for the next
interval. -/
def collectOnce (api : ApiService) (site : Json) (cache : KeyCache) (job : CollectorJob) :
    Except JsonError (Option ClientRequest) :=
  match api.findEndpoint job.endpointOid with
  | none => .ok none
  | some ep =>
      match cache.issuedKey job.authProfileOid with
      | [] => .ok none
      | key =>
          if ep.vendor = .Sase then .ok (some (collectSaseOnce ep key))
          else do return (← resolveDevice site job.objectOid).map (deviceRequest ep key)

/-! ### The schedule of an item -/

/-- Where a job stands: its timer is armed, a call is under way, or nothing refers to
it any more. -/
inductive Phase where
  | armed (delay : ℤ)
  | calling (startedAt : ℤ)
  | dropped
deriving DecidableEq

/-- A job, and the samples sent of it. -/
structure JobState where
  phase : Phase
  sent : List Json := []

/-- `onResponse`: `sendSample` dumps the document, and what it throws leaves the handler
before the job is armed. -/
def JobState.onResponse (s : JobState) (job : CollectorJob) (startedAt now : ℤ)
    (res : ClientResponse) : JobState :=
  match (buildCollectionSample job.connectorOid job.endpointOid res (now - startedAt)
      kMaxSampleBody).dump with
  | none => { s with phase := .dropped }
  | some payload => { phase := .armed job.interval, sent := s.sent ++ [payload] }

/-- What a job meets: its timer fires, with the keys issued by then, or its call settles. -/
inductive JobEvent where
  | expired (now : ℤ) (cache : KeyCache)
  | settled (now : ℤ) (res : ClientResponse)

/-- One event of a job. -/
def JobState.next (api : ApiService) (site : Json) (job : CollectorJob) (s : JobState) :
    JobEvent → Option JobState
  | .expired now cache =>
      match s.phase with
      | .armed _ =>
          match collectOnce api site cache job with
          | .error _ => some { s with phase := .dropped }
          | .ok none => some { s with phase := .armed job.interval }
          | .ok (some _) => some { s with phase := .calling now }
      | _ => none
  | .settled now res =>
      match s.phase with
      | .calling startedAt => some (s.onResponse job startedAt now res)
      | _ => none

/-- `kInitialDelay`. -/
def kInitialDelay : ℤ := 3

/-- The machine of a job. -/
def collector (api : ApiService) (site : Json) (job : CollectorJob) : Machine JobState JobEvent where
  init s := s = { phase := .armed (min kInitialDelay job.interval) }
  next := JobState.next api site job

/-- The job of an item. -/
def jobOf (conn : ApiConnector) (item : ApiCollectionItem) : CollectorJob :=
  { connectorOid := conn.oid, endpointOid := item.endpointOid
    authProfileOid := conn.authProfileOid, objectOid := conn.objectOid
    interval := if item.pollIntervalSec < 1 then 60 else item.pollIntervalSec }

/-- `ConnectorController::start`: the jobs it arms. -/
def ConnectorController.start (api : ApiService) : List CollectorJob :=
  api.connectors.flatMap fun conn => (conn.items.filter fun item => item.enabled).map (jobOf conn)

/-! ### The sample of a call -/

/-- **The texts a sample takes from a response are UTF-8**: the bytes of the body up to
the limit, and the error of the exchange where it is what is said of the call. -/
def SampleIsText (res : ClientResponse) : Prop :=
  isUtf8 (sampleBody kMaxSampleBody res) = true ∧
    (res.tlsOk = false ∨ res.requestSent = false → isUtf8 res.error = true)

instance (res : ClientResponse) : Decidable (SampleIsText res) :=
  inferInstanceAs (Decidable (_ ∧ (_ → _)))

variable {job : CollectorJob} {s : JobState} {res : ClientResponse}

lemma isUtf8_sampleError : isUtf8 (sampleError res) = true ↔
    (res.tlsOk = false ∨ res.requestSent = false → isUtf8 res.error = true) := by
  rw [sampleError]
  cases res.tlsOk <;> cases res.requestSent <;> simp

/-- **A sample is dumped** exactly where its texts are UTF-8. -/
lemma dump_buildCollectionSample (job : CollectorJob) (latencyMs : ℤ) :
    (buildCollectionSample job.connectorOid job.endpointOid res latencyMs kMaxSampleBody).dump.isSome
      = true ↔ SampleIsText res := by
  have herror : res.usable = true →
      (res.tlsOk = false ∨ res.requestSent = false → isUtf8 res.error = true) := by
    intro h
    rw [ClientResponse.usable, Bool.and_eq_true, Bool.and_eq_true] at h
    simp [h.1.1, h.1.2]
  rw [Draft.dump_isSome, buildCollectionSample, SampleIsText, ← isUtf8_sampleError]
  rw [← isUtf8_sampleError] at herror
  cases husable : res.usable with
  | true => cases res.requestSent <;> simp [herror husable]
  | false => cases res.requestSent <;> simp [and_comm]

/-- What is promised of a call that settles: its document is dumped, it is sent once, and
the job is armed for its interval; and a text is still one when it is cut. -/
structure Kept (job : CollectorJob) (s : JobState) (startedAt now : ℤ) (res : ClientResponse) :
    Prop where
  sent : ∃ payload, (buildCollectionSample job.connectorOid job.endpointOid res (now - startedAt)
      kMaxSampleBody).dump = some payload ∧
    s.onResponse job startedAt now res =
      { phase := .armed job.interval, sent := s.sent ++ [payload] }
  cut : isUtf8 res.body = true → isUtf8 (sampleBody kMaxSampleBody res) = true

/-- A call whose sample is dumped. -/
lemma onResponse_of_text (h : SampleIsText res) (job : CollectorJob) (s : JobState)
    (startedAt now : ℤ) : ∃ payload, (buildCollectionSample job.connectorOid job.endpointOid res
        (now - startedAt) kMaxSampleBody).dump = some payload ∧
      s.onResponse job startedAt now res =
        { phase := .armed job.interval, sent := s.sent ++ [payload] } := by
  obtain ⟨payload, hpayload⟩ :=
    Option.isSome_iff_exists.mp ((dump_buildCollectionSample job (now - startedAt)).mpr h)
  refine ⟨payload, hpayload, ?_⟩
  rw [JobState.onResponse, hpayload]

/-- A call whose sample is not: nothing is sent and nothing armed. -/
lemma onResponse_of_not_text (h : ¬SampleIsText res) (job : CollectorJob) (s : JobState)
    (startedAt now : ℤ) : s.onResponse job startedAt now res = { s with phase := .dropped } := by
  have hdump := mt (dump_buildCollectionSample job (now - startedAt)).mp h
  rw [Bool.not_eq_true, Option.isSome_eq_false_iff, Option.isNone_iff_eq_none] at hdump
  rw [JobState.onResponse, hdump]

lemma text_of_kept {startedAt now : ℤ} (h : Kept job s startedAt now res) : SampleIsText res := by
  obtain ⟨⟨payload, hpayload, -⟩, -⟩ := h
  rw [← dump_buildCollectionSample job (now - startedAt), hpayload]
  rfl

/-- **Every call is sent and its item scheduled again**, exactly where the texts of its
sample are UTF-8. -/
theorem kept_iff (job : CollectorJob) (s : JobState) (startedAt now : ℤ) (res : ClientResponse) :
    Kept job s startedAt now res ↔ SampleIsText res :=
  ⟨text_of_kept, fun h => ⟨onResponse_of_text h job s startedAt now, fun _ => h.1⟩⟩

namespace CutCharacter

/-- A letter in front of bytes. -/
lemma isUtf8_replicate_append (n : ℕ) (bytes : Bytes) :
    isUtf8 (List.replicate n 120 ++ bytes) = isUtf8 bytes := by
  have hletter : textBytes "x" = [120] := by decide
  induction n with
  | zero => rfl
  | succ n ih =>
      rw [List.replicate_succ, List.cons_append, ← List.singleton_append, ← hletter, isUtf8_append,
        ih]

/-- A text whose last character, of two bytes, lies across the limit. -/
def body : Bytes := List.replicate (kMaxSampleBody - 1) 120 ++ [0xC3, 0xA9]

/-- A usable 200. -/
def answer (body : Bytes) : ClientResponse :=
  { tlsOk := true, pinMatched := true, requestSent := true, status := 200, body }

/-- An item of a connector. -/
def polled : CollectorJob :=
  { connectorOid := "conn-1", endpointOid := "ep-1", authProfileOid := "cred-1"
    objectOid := "fw-1" }

lemma sampleBody_body : sampleBody kMaxSampleBody (answer body) =
    List.replicate (kMaxSampleBody - 1) 120 ++ [0xC3] := by
  have hlength : body.length = kMaxSampleBody + 1 := by
    rw [body, List.length_append, List.length_replicate, kMaxSampleBody]
    rfl
  rw [sampleBody, answer, if_pos (by rw [hlength]; exact Nat.lt_succ_self _)]
  rw [body, List.take_append, List.length_replicate, List.take_of_length_le]
  · rfl
  · rw [List.length_replicate]
    exact Nat.sub_le _ _

/-- **One answer drops an item**: a text that is cut inside a character, or a byte that
is none. -/
theorem answers_drop : isUtf8 (answer body).body = true ∧
    ¬Kept polled { phase := .calling 0 } 0 42 (answer body) ∧
    ¬Kept polled { phase := .calling 0 } 0 42 (answer [0xFF]) := by
  refine ⟨?_, fun h => ?_, fun h => ?_⟩
  · rw [answer, body, isUtf8_replicate_append]
    decide
  · have htext := (text_of_kept h).1
    rw [sampleBody_body, isUtf8_replicate_append] at htext
    revert htext
    decide
  · have htext := (text_of_kept h).1
    revert htext
    decide

end CutCharacter

/-! ### Over a run -/

variable {api : ApiService} {site : Json} {tr : List (JobState × JobEvent)} {s₀ : JobState}

/-- An event after which the job goes on: a poll whose device can be read, a call whose
sample is a text. -/
def Continues (api : ApiService) (site : Json) (job : CollectorJob) : JobEvent → Prop
  | .expired _ cache => Returns (collectOnce api site cache job)
  | .settled _ res => SampleIsText res

/-- The event settles a call. -/
def JobEvent.isSettled : JobEvent → Bool
  | .expired _ _ => false
  | .settled _ _ => true

/-- One event of a job that goes on. -/
lemma next_of_continues {l : JobEvent} {s' : JobState} (h : Continues api site job l)
    (hnext : s.next api site job l = some s') : s'.phase ≠ .dropped ∧
      s'.sent.length = s.sent.length + if l.isSettled = true then 1 else 0 := by
  cases l with
  | expired now cache =>
      obtain ⟨r, hr⟩ := h
      rw [JobState.next] at hnext
      split at hnext
      · rw [hr] at hnext
        cases r with
        | none =>
            cases hnext
            exact ⟨Phase.noConfusion, rfl⟩
        | some request =>
            cases hnext
            exact ⟨Phase.noConfusion, rfl⟩
      · cases hnext
  | settled now res =>
      rw [JobState.next] at hnext
      split at hnext
      · next startedAt _ =>
          obtain ⟨payload, -, hresponse⟩ := onResponse_of_text h job s startedAt now
          rw [hresponse] at hnext
          cases hnext
          exact ⟨Phase.noConfusion, List.length_append⟩
      · cases hnext

/-- **A run whose events all go on** leaves the job scheduled, with one sample sent for
every call that settled. -/
theorem scheduled_of_text (h₀ : (collector api site job).init s₀)
    (hrun : (collector api site job).Run s₀ tr s) (h : ∀ p ∈ tr, Continues api site job p.2) :
    s.phase ≠ .dropped ∧ s.sent.length = tr.countP fun p => p.2.isSettled := by
  induction hrun with
  | nil =>
      rw [show s₀ = _ from h₀]
      exact ⟨Phase.noConfusion, rfl⟩
  | @snoc tr t t' l hrun hl ih =>
      obtain ⟨-, hsent⟩ := ih fun p hp => h p (List.mem_append_left _ hp)
      obtain ⟨hphase, hlast⟩ := next_of_continues (h (t, l) (by simp)) hl
      refine ⟨hphase, ?_⟩
      rw [List.countP_append, hlast, hsent, List.countP_singleton]

/-- **A job that was dropped is not polled again**: nothing happens to it. -/
lemma unscheduled_forever (h : s.phase = .dropped) (l : JobEvent) :
    (collector api site job).next s l = none := by
  cases l with
  | expired now cache => simp only [collector, JobState.next, h]
  | settled now res => simp only [collector, JobState.next, h]

/-- **engined reads every sample that is sent.** -/
lemma sampleReads_of_dump {connectorOid endpointOid : String} {latencyMs : ℤ} {maxBody : ℕ}
    {payload : Json} (h : (buildCollectionSample connectorOid endpointOid res latencyMs
      maxBody).dump = some payload) : Engined.SampleReads payload := by
  have hobj : (buildCollectionSample connectorOid endpointOid res latencyMs maxBody).isObject =
      true := by
    rw [buildCollectionSample]
    split <;> rfl
  have hread := Draft.find?_dump hobj h
  have htext : ∀ (key : String) (bytes : Option Bytes), (buildCollectionSample connectorOid
      endpointOid res latencyMs maxBody).find? key = bytes.map .text →
      payload.stringOrAbsent key = true := by
    intro key bytes hfind
    rw [Json.stringOrAbsent, hread, hfind]
    cases bytes with
    | none => rfl
    | some bytes => cases hutf8 : utf8Text bytes <;> simp [Draft.dump, hutf8, Json.isString]
  have hbody : (buildCollectionSample connectorOid endpointOid res latencyMs maxBody).find?
      "body" = some (.text (sampleBody maxBody res)) := by
    rw [buildCollectionSample]
    split <;> simp
  have herror : (buildCollectionSample connectorOid endpointOid res latencyMs maxBody).find?
      "error" = (if res.usable then none else some (sampleError res)).map .text := by
    rw [buildCollectionSample]
    cases res.usable <;> cases res.requestSent <;> simp <;> rfl
  refine ⟨Draft.isObject_dump hobj h, ?_, ?_, fun _ _ => ⟨?_, ?_, htext _ (some _) hbody,
    htext _ _ herror⟩⟩
  all_goals
    simp only [Json.stringOrAbsent, Json.boolOrAbsent, hread, buildCollectionSample]
    cases res.usable <;> cases res.requestSent <;>
      simp [Draft.str, Draft.bool, Draft.dump, Json.isString, Json.isBoolean]

end Pretzel.Collectord
