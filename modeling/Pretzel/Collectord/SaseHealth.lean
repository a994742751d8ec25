import Pretzel.Collectord.StatusController
import Pretzel.Library.Machine

/-!
The periodic health probe of the SASE devices
(`collectord/service/api/controller/StatusController.cpp`).

* `parseUrl`: the probe URL of a device.
* `StatusController`: the maps by target; `aliveTargets`, `downTargets`, `report`.
* `readProbe`, `turn`, `probeAll`, `tick`: a round of probes. `complete`: the answer to
  one.
* `healthProbe`: the machine; ticks and answers come in any order, and an exception
  that leaves a handler ends it.
* `Sound`: a mark stands for an exchange under way, a result for the last record of a
  target. `sound_next`: every event keeps it.
* `dump_report`: a report is serialised. `marked_complete`, `complete_of_readable`: an
  answer. `asked_tick`: a round asks every device whose target is free.
-/

namespace Pretzel.Collectord

open Nlohmann Texts Util Reactive

/-! ### The controller -/

/-- `kInterval`, in nanoseconds. -/
def kInterval : ℤ := 60 * 10 ^ 9

/-- `parseUrl`, none where the URL is not `ok`. -/
def parseUrl (url : String) : Option HostPath :=
  if "https://".toList.isPrefixOf url.toList then
    let rest := url.toList.drop 8
    let hostport := rest.takeWhile (· ≠ '/')
    let path := match rest.dropWhile (· ≠ '/') with
      | [] => "/"
      | path => String.ofList path
    let found :=
      if ':' ∈ hostport then
        (portOf (hostport.dropWhile (· ≠ ':')).tail).map fun port =>
          (hostport.takeWhile (· ≠ ':'), port)
      else some (hostport, 443)
    found.bind fun (host, port) =>
      if host = [] then none else some { host := String.ofList host, port, path }
  else none

/-- `StatusController`: `m_lastRun`, and the maps by target. -/
structure StatusController where
  lastRun : ℤ := 0
  inFlight : AList fun _ : String => Bool := ∅
  result : AList fun _ : String => Bool := ∅
  egress : AList fun _ : String => Json := ∅

namespace StatusController

variable (c : StatusController)

/-- `m_inFlight[target]`. -/
def marked (target : String) : Bool := (c.inFlight.lookup target).getD false

/-- The targets of one outcome. -/
def targetsOf (ok : Bool) : List String := (c.result.entries.filter fun e => e.2 = ok).map Sigma.fst

/-- `aliveTargets`. -/
def aliveTargets : List String := c.targetsOf true

/-- `downTargets`. -/
def downTargets : List String := c.targetsOf false

/-- The payload of `SaseHealthResult`. -/
def report : Draft :=
  .object [("sase_alive", .value (.arr (c.aliveTargets.map .str))),
    ("sase_down", .value (.arr (c.downTargets.map .str))),
    ("sase_egress", .object (c.egress.entries.map fun e => (e.1, .value e.2)))]

/-- A round is due. -/
def due (now : ℤ) : Prop := ¬(c.lastRun ≠ 0 ∧ now - c.lastRun < kInterval)

instance (now : ℤ) : Decidable (c.due now) := inferInstanceAs (Decidable (¬_))

end StatusController

/-- What a round reads of a device that is configured for health. -/
structure Probe where
  target : String
  url : String
  apiKey : Bytes
  body : String
deriving DecidableEq

/-- The reads of one turn of the loop over the devices, none where it goes on to the
next. -/
def readProbe (dump : Json → String) (cache : KeyCache) (d : Json) :
    Except JsonError (Option Probe) :=
  if d.isObject = false then .ok none
  else do
    let oid ← d.valueString "oid" ""
    let target ← d.valueString "target" ""
    if oid = "" ∨ target = "" then return none
    else
      let health ← d.valueJson "health" (.obj [])
      let url ← health.valueString "url" ""
      let apiKey := cache.issuedKey oid
      if url = "" ∨ apiKey = [] then return none
      else
        let body := match health.find? "body" with
          | none => "\x7b\x7d"
          | some (.str text) => text
          | some body => dump body
        return some { target, url, apiKey, body }

/-- The request of a probe. -/
def Probe.request (p : Probe) (u : HostPath) : ClientRequest :=
  { host := u.host, port := u.port, method := "POST", target := u.path, body := p.body
    verifyCa := true, timeout := 25
    headers := [("header-api-key", p.apiKey), ("Content-Type", textBytes "application/json")] }

/-! ### A round, and an answer -/

/-- The lines the controller logs: a probe URL that is refused, a probe's result. -/
inductive Record where
  | refused (target : String)
  | result (target : String) (status : ℤ) (ok : Bool)
deriving DecidableEq

/-- The target of a line. -/
def Record.target : Record → String
  | .refused target => target
  | .result target _ _ => target

/-- The outcome a line stands for. -/
def Record.ok : Record → Bool
  | .refused _ => false
  | .result _ _ ok => ok

/-- The controller among what it does: the exchanges under way, by their targets, the
requests made, the reports sent and the lines logged, the last in front, and the
exception that left a handler. -/
structure Health where
  ctl : StatusController := {}
  probes : List String := []
  asked : List (String × ClientRequest) := []
  reports : List Json := []
  log : List Record := []
  fault : Option Fault := none

namespace Health

variable (H : Host) (s : Health)

/-- The callback of a probe. -/
def complete (target : String) (res : ClientResponse) : Health :=
  let ctl := { s.ctl with inFlight := s.ctl.inFlight.insert target false }
  match saseSucceeded H res with
  | .error e => { s with ctl, fault := some (.read e) }
  | .ok ok =>
      let egress := match H.parse res.body with
        | some parsed => if ok then ctl.egress.insert target parsed else ctl.egress
        | none => ctl.egress
      { s with
        ctl := { ctl with egress, result := ctl.result.insert target ok }
        log := .result target res.status ok :: s.log }

/-- One turn of the loop, of a device that is configured. `unbegun` is the text of the
exception where the exchange cannot be begun: the callback then runs at once. -/
def turn (p : Probe) (unbegun : Option Bytes) : Health :=
  if s.ctl.marked p.target then s
  else
    match parseUrl p.url with
    | none =>
        { s with
          ctl := { s.ctl with result := s.ctl.result.insert p.target false }
          log := .refused p.target :: s.log }
    | some u =>
        let s := { s with
          ctl := { s.ctl with inFlight := s.ctl.inFlight.insert p.target true }
          asked := s.asked ++ [(p.target, p.request u)] }
        match unbegun with
        | none => { s with probes := p.target :: s.probes }
        | some what => s.complete H p.target { error := what }

variable (dump : Json → String) (cache : KeyCache)

/-- The loop over the devices. -/
def probeAll (s : Health) : List Json → List (Option Bytes) → Health
  | [], _ => s
  | d :: devices, unbegun =>
      match readProbe dump cache d with
      | .error e => { s with fault := some (.read e) }
      | .ok none => probeAll s devices unbegun.tail
      | .ok (some p) => probeAll (s.turn H p unbegun.head?.join) devices unbegun.tail

/-- `tick`. -/
def tick (site : Json) (now : ℤ) (unbegun : List (Option Bytes)) : Health :=
  if s.ctl.due now then
    let sent := { s with ctl := { s.ctl with lastRun := now } }
    match s.ctl.report.dump with
    | none => { sent with fault := some .notUtf8 }
    | some payload =>
        let sent := { sent with reports := s.reports ++ [payload] }
        match site.valueJson "sase_devices" (.arr []) with
        | .error e => { sent with fault := some (.read e) }
        | .ok devices => probeAll H dump cache sent devices.elements unbegun
  else s

end Health

/-- What happens: the loop of the daemon comes to `tick`, with the keys issued by then,
or an exchange settles. -/
inductive HealthEvent where
  | ticked (now : ℤ) (cache : KeyCache) (unbegun : List (Option Bytes))
  | settled (target : String) (res : ClientResponse)

/-- One event. -/
def Health.next (H : Host) (dump : Json → String) (site : Json) (s : Health) :
    HealthEvent → Option Health
  | .ticked now cache unbegun =>
      if s.fault = none then some (s.tick H dump cache site now unbegun) else none
  | .settled target res =>
      if s.fault = none ∧ target ∈ s.probes then
        some (Health.complete H { s with probes := s.probes.erase target } target res)
      else none

/-- The machine of the probes. -/
def healthProbe (H : Host) (dump : Json → String) (site : Json) : Machine Health HealthEvent where
  init s := s = {}
  next := Health.next H dump site

/-! ### What is recorded -/

/-- The status of an answer can be read: of a 200 whose body is an object, it is a string
or absent. -/
def StatusReadable (H : Host) (res : ClientResponse) : Prop :=
  res.status = 200 → ∀ body, bodyObject H res = some body → body.stringOrAbsent "status" = true

/-- The status is 200, and the body an object whose status member is the string
success. -/
def saysSuccess (H : Host) (res : ClientResponse) : Bool :=
  res.status = 200 && (bodyObject H res).any fun body => body.textOr "status" "" = "success"

/-- **A mark stands for an exchange under way**, and a result for the last line logged of
its target. -/
structure Sound (s : Health) : Prop where
  marks : ∀ t, s.ctl.marked t = true ↔ t ∈ s.probes
  nodup : s.probes.Nodup
  results : ∀ t, s.ctl.result.lookup t = (s.log.find? fun r => r.target = t).map Record.ok

variable {H : Host} {dump : Json → String} {site : Json} {s : Health} {target : String}
  {res : ClientResponse}

lemma isObject_of_bodyObject {body : Json} (h : bodyObject H res = some body) :
    body.isObject = true := (Option.filter_eq_some_iff.mp h).2

/-- **Whether a probe succeeded can be told** where the status can be read. -/
lemma saseSucceeded_of_readable (h : StatusReadable H res) :
    saseSucceeded H res = .ok (saysSuccess H res) := by
  rw [saseSucceeded, saysSuccess]
  by_cases hstatus : res.status = 200
  · rw [if_pos hstatus, decide_eq_true hstatus, Bool.true_and]
    cases hbody : bodyObject H res with
    | none => rfl
    | some body =>
        have hread : body.valueString "status" "" = .ok (body.textOr "status" "") :=
          (Json.valueString_eq_ok_iff (isObject_of_bodyObject hbody)).mpr
            ⟨h hstatus body hbody, rfl⟩
        simp only [hread, Option.any_some]
        rfl
  · rw [if_neg hstatus, decide_eq_false hstatus, Bool.false_and]

/-- An exchange that settles without a status. -/
lemma readable_of_error (H : Host) (what : Bytes) : StatusReadable H { error := what } :=
  fun h => absurd h (show (0 : ℤ) ≠ 200 by decide)

lemma marked_insert (c : StatusController) (target : String) (b : Bool) (t : String) :
    { c with inFlight := c.inFlight.insert target b }.marked t =
      if t = target then b else c.marked t := by
  rw [StatusController.marked, StatusController.marked]
  split
  · next h => rw [h, AList.lookup_insert, Option.getD_some]
  · next h => rw [AList.lookup_insert_ne h]

lemma mem_targetsOf {c : StatusController} {ok : Bool} {t : String} :
    t ∈ c.targetsOf ok ↔ c.result.lookup t = some ok := by
  rw [StatusController.targetsOf, List.mem_map]
  constructor
  · rintro ⟨⟨t, b⟩, he, rfl⟩
    obtain ⟨hmem, hb⟩ := List.mem_filter.mp he
    rw [← of_decide_eq_true hb]
    exact AList.mem_lookup_iff.mpr hmem
  · intro h
    exact ⟨⟨t, ok⟩, List.mem_filter.mpr ⟨AList.mem_lookup_iff.mp h, decide_eq_true rfl⟩, rfl⟩

/-! ### An answer -/

/-- The mark of its target is cleared, whatever it is. -/
lemma marked_complete (H : Host) (s : Health) (target : String) (res : ClientResponse) (t : String) :
    (s.complete H target res).ctl.marked t = if t = target then false else s.ctl.marked t := by
  rw [← marked_insert, Health.complete]
  split <;> rfl

lemma probes_complete : (s.complete H target res).probes = s.probes := by
  rw [Health.complete]
  split <;> rfl

lemma asked_complete : (s.complete H target res).asked = s.asked := by
  rw [Health.complete]
  split <;> rfl

lemma reports_complete : (s.complete H target res).reports = s.reports := by
  rw [Health.complete]
  split <;> rfl

/-- **An answer that can be read** leaves no exception, and is recorded. -/
lemma complete_of_readable (s : Health) (target : String) (h : StatusReadable H res) :
    (s.complete H target res).fault = s.fault ∧
      (s.complete H target res).ctl.result = s.ctl.result.insert target (saysSuccess H res) ∧
      (s.complete H target res).log = .result target res.status (saysSuccess H res) :: s.log := by
  rw [Health.complete, saseSucceeded_of_readable h]
  exact ⟨rfl, rfl, rfl⟩

/-- The line logged last decides. -/
lemma lookup_insert_ok {results : AList fun _ : String => Bool} {log : List Record}
    (h : ∀ t, results.lookup t = (log.find? fun r => r.target = t).map Record.ok) (r : Record)
    (t : String) : (results.insert r.target r.ok).lookup t =
      ((r :: log).find? fun r => r.target = t).map Record.ok := by
  rw [List.find?_cons]
  by_cases ht : t = r.target
  · rw [ht, AList.lookup_insert, decide_eq_true rfl]
    rfl
  · rw [AList.lookup_insert_ne ht, decide_eq_false (Ne.symm ht), h]

/-- An answer, whose exchange is not under way any more. -/
lemma sound_complete (hmarks : ∀ t, t ≠ target → (s.ctl.marked t = true ↔ t ∈ s.probes))
    (hgone : target ∉ s.probes) (hnodup : s.probes.Nodup)
    (hresults : ∀ t, s.ctl.result.lookup t = (s.log.find? fun r => r.target = t).map Record.ok) :
    Sound (s.complete H target res) where
  marks t := by
    rw [marked_complete, probes_complete]
    by_cases ht : t = target
    · rw [if_pos ht, ht]
      exact iff_of_false Bool.false_ne_true hgone
    · rw [if_neg ht]
      exact hmarks t ht
  nodup := by rwa [probes_complete]
  results t := by
    rw [Health.complete]
    split
    · exact hresults t
    · next ok _ => exact lookup_insert_ok hresults (.result target res.status ok) t

/-! ### A round -/

variable {p : Probe} {unbegun : Option Bytes} {cache : KeyCache} {d : Json}

/-- A device that is asked, as its exchange begins. -/
def Health.asking (s : Health) (p : Probe) (u : HostPath) : Health :=
  { s with
    ctl := { s.ctl with inFlight := s.ctl.inFlight.insert p.target true }
    asked := s.asked ++ [(p.target, p.request u)] }

/-- **What a turn comes to**: the target is in flight, its URL is refused, or it is
asked. -/
lemma turn_cases (H : Host) (s : Health) (p : Probe) (unbegun : Option Bytes) :
    (s.ctl.marked p.target = true ∧ s.turn H p unbegun = s) ∨
    (s.ctl.marked p.target = false ∧ parseUrl p.url = none ∧ s.turn H p unbegun =
      { s with
        ctl := { s.ctl with result := s.ctl.result.insert p.target false }
        log := .refused p.target :: s.log }) ∨
    (s.ctl.marked p.target = false ∧ ∃ u, parseUrl p.url = some u ∧ s.turn H p unbegun =
      match unbegun with
      | none => { s.asking p u with probes := p.target :: s.probes }
      | some what => (s.asking p u).complete H p.target { error := what }) := by
  cases hmark : s.ctl.marked p.target with
  | true => exact .inl ⟨rfl, by rw [Health.turn, if_pos hmark]⟩
  | false =>
      refine .inr ?_
      cases hurl : parseUrl p.url with
      | none => exact .inl ⟨rfl, rfl, by rw [Health.turn, hmark, if_neg Bool.false_ne_true, hurl]⟩
      | some u =>
          refine .inr ⟨rfl, u, rfl, ?_⟩
          rw [Health.turn, hmark, if_neg Bool.false_ne_true, hurl]
          rfl

/-- One turn. -/
lemma sound_turn (h : Sound s) (p : Probe) (unbegun : Option Bytes) :
    Sound (s.turn H p unbegun) := by
  obtain ⟨-, heq⟩ | ⟨-, -, heq⟩ | ⟨hmark, u, -, heq⟩ := turn_cases H s p unbegun
  · rwa [heq]
  · rw [heq]
    exact ⟨h.marks, h.nodup, lookup_insert_ok h.results (.refused p.target)⟩
  · have hfree : p.target ∉ s.probes := by
      rw [← h.marks, hmark]
      exact Bool.false_ne_true
    have hmarks : ∀ t, t ≠ p.target → ((s.asking p u).ctl.marked t = true ↔ t ∈ s.probes) := by
      intro t ht
      rw [Health.asking, marked_insert, if_neg ht]
      exact h.marks t
    rw [heq]
    cases unbegun with
    | none =>
        refine ⟨fun t => ?_, List.nodup_cons.mpr ⟨hfree, h.nodup⟩, h.results⟩
        rw [List.mem_cons]
        by_cases ht : t = p.target
        · refine iff_of_true ?_ (Or.inl ht)
          exact (marked_insert s.ctl p.target true t).trans (if_pos ht)
        · exact (hmarks t ht).trans ⟨Or.inr, fun hmem => hmem.resolve_left ht⟩
    | some what => exact sound_complete hmarks hfree h.nodup h.results

/-- A turn throws nothing, and reports nothing. -/
lemma frame_turn (H : Host) (s : Health) (p : Probe) (unbegun : Option Bytes) :
    (s.turn H p unbegun).fault = s.fault ∧ (s.turn H p unbegun).reports = s.reports := by
  obtain ⟨-, heq⟩ | ⟨-, -, heq⟩ | ⟨-, u, -, heq⟩ := turn_cases H s p unbegun
  · exact ⟨by rw [heq], by rw [heq]⟩
  · exact ⟨by rw [heq], by rw [heq]⟩
  · rw [heq]
    cases unbegun with
    | none => exact ⟨rfl, rfl⟩
    | some what => exact ⟨(complete_of_readable _ _ (readable_of_error H what)).1, reports_complete⟩

/-- The requests of a turn: every mark it sets, and its own target if that was free. -/
lemma asked_turn (H : Host) (s : Health) (p : Probe) (unbegun : Option Bytes) :
    ∃ new, (s.turn H p unbegun).asked = s.asked ++ new ∧
      (∀ t, (s.turn H p unbegun).ctl.marked t = true →
        s.ctl.marked t = true ∨ t ∈ new.map Prod.fst) ∧
      (s.ctl.marked p.target = false → parseUrl p.url ≠ none → p.target ∈ new.map Prod.fst) := by
  obtain ⟨hmark, heq⟩ | ⟨-, hurl, heq⟩ | ⟨-, u, -, heq⟩ := turn_cases H s p unbegun
  · refine ⟨[], by rw [heq, List.append_nil], fun t ht => .inl (by rwa [heq] at ht), fun hfree => ?_⟩
    rw [hmark] at hfree
    cases hfree
  · exact ⟨[], by rw [heq, List.append_nil], fun t ht => .inl (by rwa [heq] at ht),
      fun _ hvalid => absurd hurl hvalid⟩
  · have hself : p.target ∈ [(p.target, p.request u)].map Prod.fst := List.mem_singleton_self _
    refine ⟨[(p.target, p.request u)], ?_, fun t ht => ?_, fun _ _ => hself⟩
    · rw [heq]
      cases unbegun with
      | none => rfl
      | some what => exact asked_complete
    · by_cases htarget : t = p.target
      · exact .inr (htarget ▸ hself)
      · have hother : (s.asking p u).ctl.marked t = s.ctl.marked t :=
          (marked_insert s.ctl p.target true t).trans (if_neg htarget)
        rw [← hother]
        rw [heq] at ht
        cases unbegun with
        | none => exact .inl ht
        | some what =>
            rw [marked_complete, if_neg htarget] at ht
            exact .inl ht

/-- What a round over some devices leaves: what every turn keeps. -/
lemma probeAll_induction {P : Health → Prop} (hturn : ∀ s p u, P s → P (s.turn H p u))
    (hfault : ∀ (s : Health) e, P s → P { s with fault := some (.read e) }) {s : Health} (h : P s)
    (devices : List Json) (unbegun : List (Option Bytes)) :
    P (s.probeAll H dump cache devices unbegun) := by
  induction devices generalizing s unbegun with
  | nil => exact h
  | cons d devices ih =>
      rw [Health.probeAll]
      split
      · next e _ => exact hfault s e h
      · exact ih h _
      · exact ih (hturn _ _ _ h) _

/-- **A round asks every device whose target is free**, unless it throws. -/
lemma asked_probeAll {devices : List Json} {unbegun : List (Option Bytes)}
    (h : (s.probeAll H dump cache devices unbegun).fault = none) :
    ∃ new, (s.probeAll H dump cache devices unbegun).asked = s.asked ++ new ∧
      ∀ d ∈ devices, ∀ p, readProbe dump cache d = .ok (some p) → parseUrl p.url ≠ none →
        s.ctl.marked p.target = false → p.target ∈ new.map Prod.fst := by
  induction devices generalizing s unbegun with
  | nil => exact ⟨[], (List.append_nil _).symm, fun d hd => absurd hd List.not_mem_nil⟩
  | cons d devices ih =>
      rw [Health.probeAll] at h ⊢
      cases hread : readProbe dump cache d with
      | error e =>
          rw [hread] at h
          cases h
      | ok probe =>
          cases probe with
          | none =>
              simp only [hread] at h ⊢
              obtain ⟨new, hnew, hasked⟩ := ih h
              refine ⟨new, hnew, fun d' hd' p hp => ?_⟩
              rcases List.mem_cons.mp hd' with rfl | hd'
              · rw [hread] at hp
                cases hp
              · exact hasked d' hd' p hp
          | some q =>
              simp only [hread] at h ⊢
              obtain ⟨new₀, hnew₀, hmarks, hself⟩ := asked_turn H s q unbegun.head?.join
              obtain ⟨new, hnew, hasked⟩ := ih h
              refine ⟨new₀ ++ new, by rw [hnew, hnew₀, List.append_assoc], ?_⟩
              intro d' hd' p hp hurl hfree
              rw [List.map_append, List.mem_append]
              rcases List.mem_cons.mp hd' with rfl | hd'
              · rw [hread] at hp
                cases hp
                exact .inl (hself hfree hurl)
              · cases hmark : (s.turn H q unbegun.head?.join).ctl.marked p.target with
                | true =>
                    rcases hmarks _ hmark with hold | hnew
                    · rw [hfree] at hold
                      cases hold
                    · exact .inl hnew
                | false => exact .inr (hasked d' hd' p hp hurl hmark)

/-! ### A tick -/

/-- **A report is serialised.** -/
lemma dump_report (c : StatusController) : ∃ payload, c.report.dump = some payload := by
  rw [← Option.isSome_iff_exists, Draft.dump_isSome, StatusController.report]
  simp [Draft.isText, Draft.areTexts_eq_all]

variable {now : ℤ} {unbegun : List (Option Bytes)}

/-- **What a tick comes to**, where a round is due: the report is sent, and the devices
of the configuration are gone through if they can be read. -/
lemma tick_of_due (hdue : s.ctl.due now) {payload : Json} (hpayload : s.ctl.report.dump = some payload) :
    s.tick H dump cache site now unbegun =
      match site.valueJson "sase_devices" (.arr []) with
      | .error e =>
          { s with
            ctl := { s.ctl with lastRun := now }, reports := s.reports ++ [payload]
            fault := some (.read e) }
      | .ok devices =>
          Health.probeAll H dump cache
            { s with ctl := { s.ctl with lastRun := now }, reports := s.reports ++ [payload] }
            devices.elements unbegun := by
  rw [Health.tick, if_pos hdue, hpayload]

lemma tick_of_not_due (h : ¬s.ctl.due now) : s.tick H dump cache site now unbegun = s := by
  rw [Health.tick, if_neg h]

/-- A tick sends one report, where a round is due. -/
lemma reports_tick (hdue : s.ctl.due now) {payload : Json}
    (hpayload : s.ctl.report.dump = some payload) :
    (s.tick H dump cache site now unbegun).reports = s.reports ++ [payload] := by
  rw [tick_of_due hdue hpayload]
  split
  · rfl
  · exact probeAll_induction (P := fun s' => s'.reports = s.reports ++ [payload])
      (fun t p u ht => (frame_turn H t p u).2.trans ht) (fun _ _ ht => ht) rfl _ _

/-- A tick that throws nothing asks every device whose target is free. -/
lemma asked_tick (hdue : s.ctl.due now)
    (h : (s.tick H dump cache site now unbegun).fault = none) :
    ∃ devices new, site.valueJson "sase_devices" (.arr []) = .ok devices ∧
      (s.tick H dump cache site now unbegun).asked = s.asked ++ new ∧
      ∀ d ∈ devices.elements, ∀ p, readProbe dump cache d = .ok (some p) →
        parseUrl p.url ≠ none → s.ctl.marked p.target = false → p.target ∈ new.map Prod.fst := by
  obtain ⟨payload, hpayload⟩ := dump_report s.ctl
  rw [tick_of_due hdue hpayload] at h
  rw [tick_of_due hdue hpayload]
  cases hdevices : site.valueJson "sase_devices" (.arr []) with
  | error e =>
      rw [hdevices] at h
      cases h
  | ok devices =>
      simp only [hdevices] at h ⊢
      obtain ⟨new, hnew, hasked⟩ := asked_probeAll h
      exact ⟨devices, new, rfl, hnew, hasked⟩

/-- A tick. -/
lemma sound_tick (h : Sound s) : Sound (s.tick H dump cache site now unbegun) := by
  by_cases hdue : s.ctl.due now
  · obtain ⟨payload, hpayload⟩ := dump_report s.ctl
    have hsent : Sound { s with
        ctl := { s.ctl with lastRun := now }, reports := s.reports ++ [payload] } :=
      ⟨h.marks, h.nodup, h.results⟩
    rw [tick_of_due hdue hpayload]
    split
    · exact ⟨h.marks, h.nodup, h.results⟩
    · exact probeAll_induction (P := Sound) (fun _ p u ht => sound_turn ht p u)
        (fun _ _ ht => ⟨ht.marks, ht.nodup, ht.results⟩) hsent _ _
  · rwa [tick_of_not_due hdue]

/-! ### Every event -/

variable {s' : Health} {l : HealthEvent}

/-- **Every event keeps the marks and the results.** -/
theorem sound_next (h : Sound s) (hnext : s.next H dump site l = some s') : Sound s' := by
  cases l with
  | ticked now cache unbegun =>
      rw [Health.next] at hnext
      split at hnext
      · cases hnext
        exact sound_tick h
      · cases hnext
  | settled target res =>
      rw [Health.next] at hnext
      split at hnext
      · cases hnext
        refine sound_complete (fun t ht => ?_) h.nodup.not_mem_erase (h.nodup.erase _) h.results
        exact (h.marks t).trans (List.mem_erase_of_ne ht).symm
      · cases hnext

lemma sound_of_reachable (h : (healthProbe H dump site).Reachable s) : Sound s := by
  refine h.invariant (I := Sound) (fun s hs => ?_) fun t l t' ht hnext => sound_next ht hnext
  rw [show s = {} from hs]
  exact ⟨fun t => iff_of_false Bool.false_ne_true List.not_mem_nil, List.nodup_nil, fun t => rfl⟩

end Pretzel.Collectord
