import Pretzel.Collectord.SaseHealth
import Pretzel.Engined.ProbeService

/-!
The health of the SASE devices, from the probe to the inventory.

* `lastRecord`: the outcome last logged of a target, of a probe or of a probe URL that was
  refused. `lastProbe`: that of its last completed probe alone.
* `readSaseHealthResult_report`: engined reads out of a report the lists that went in.
* `probes_survive`: **whatever a probe is answered with, its mark is cleared; an answer
  that can be read is recorded; a report names a target as it was last recorded; and a
  round asks every device whose target is free.**
* `status_of_report`: the status of a tenant once its report is there.
* `RefusedBeside`: two devices of one target, one of them with a URL that is refused; and
  an answer whose status is a number.
-/

namespace Pretzel.Fleet

open Nlohmann Texts Reactive Collectord Engined

/-- The outcome last logged of a target. -/
def lastRecord (s : Health) (t : String) : Option Bool :=
  (s.log.find? fun r => r.target = t).map Record.ok

/-- A line logs a probe that was completed. -/
def isProbe : Record → Bool
  | .refused _ => false
  | .result _ _ _ => true

/-- The outcome of the last completed probe of a target. -/
def lastProbe (s : Health) (t : String) : Option Bool :=
  (s.log.find? fun r => isProbe r && r.target = t).map Record.ok

/-- What is promised of an answer. -/
structure Answered (H : Host) (s' : Health) (target : String) (res : ClientResponse) : Prop where
  cleared : s'.ctl.marked target = false
  recorded : StatusReadable H res →
    s'.fault = none ∧ s'.ctl.result.lookup target = some (saysSuccess H res)

/-- What is promised of a report. -/
def Reported (s s' : Health) : Prop :=
  ∃ payload result, s.ctl.report.dump = some payload ∧ s'.reports = s.reports ++ [payload] ∧
    readSaseHealthResult payload = .ok result ∧
    (∀ t, t ∈ result.saseAlive ↔ lastRecord s t = some true) ∧
    (∀ t, t ∈ result.saseDown ↔ lastRecord s t = some false)

/-- What is promised of a round: a request for every device that is configured and whose
target is free. -/
def AsksFree (dump : Json → String) (site : Json) (cache : KeyCache) (s s' : Health) : Prop :=
  ∃ devices new, site.valueJson "sase_devices" (.arr []) = .ok devices ∧
    s'.asked = s.asked ++ new ∧
    ∀ d ∈ devices.elements, ∀ p, readProbe dump cache d = .ok (some p) →
      parseUrl p.url ≠ none → p.target ∉ s.probes → p.target ∈ new.map Prod.fst

/-- What is promised of an event. -/
structure Survives (H : Host) (dump : Json → String) (site : Json) (s : Health) (l : HealthEvent)
    (s' : Health) : Prop where
  marks : ∀ t, s'.ctl.marked t = true ↔ t ∈ s'.probes
  answer : ∀ target res, l = .settled target res → Answered H s' target res
  round : ∀ now cache unbegun, l = .ticked now cache unbegun → s.ctl.due now →
    Reported s s' ∧ (s'.fault = none → AsksFree dump site cache s s')

variable {H : Host} {dump : Json → String} {site : Json} {s s' : Health} {l : HealthEvent}

/-! ### A report -/

/-- **engined reads the lists that went into a report.** -/
lemma readSaseHealthResult_report {c : StatusController} {payload : Json}
    (h : c.report.dump = some payload) : ∃ result, readSaseHealthResult payload = .ok result ∧
      result.saseAlive = c.aliveTargets ∧ result.saseDown = c.downTargets := by
  have hread := Draft.find?_dump (d := c.report) rfl h
  have hobj : payload.isObject = true := Draft.isObject_dump (d := c.report) rfl h
  have hfind : ∀ key texts, payload.find? key = some (.arr texts) →
      payload.valueJson key (.arr []) = .ok (.arr texts) := by
    intro key texts hfind
    rw [Json.valueJson_of_isObject hobj, hfind]
    rfl
  rw [readSaseHealthResult, hfind "sase_alive" _ (hread _), hfind "sase_down" _ (hread _)]
  have halive := mapM_getString c.aliveTargets
  have hdown := mapM_getString c.downTargets
  simp only [Json.elements, bind, Except.bind, halive, hdown]
  exact ⟨_, rfl, rfl, rfl⟩

/-- A report names a target as it was last recorded. -/
lemma reported (h : Collectord.Sound s) {cache : KeyCache} {now : ℤ} {unbegun : List (Option Bytes)}
    (hdue : s.ctl.due now) : Reported s (s.tick H dump cache site now unbegun) := by
  obtain ⟨payload, hpayload⟩ := dump_report s.ctl
  obtain ⟨result, hresult, halive, hdown⟩ := readSaseHealthResult_report hpayload
  refine ⟨payload, result, hpayload, reports_tick hdue hpayload, hresult, fun t => ?_, fun t => ?_⟩
  · rw [halive, StatusController.aliveTargets, mem_targetsOf, h.results, lastRecord]
  · rw [hdown, StatusController.downTargets, mem_targetsOf, h.results, lastRecord]

/-- **Probing survives every answer.** -/
theorem probes_survive (hs : (healthProbe H dump site).Reachable s)
    (h : (healthProbe H dump site).next s l = some s') : Survives H dump site s l s' := by
  have hsound := sound_of_reachable hs
  refine ⟨(sound_next hsound h).marks, ?_, ?_⟩
  · rintro target res rfl
    obtain ⟨⟨hfault, -⟩, h⟩ := Option.ite_none_right_eq_some.mp h
    cases h
    refine ⟨by rw [marked_complete, if_pos rfl], fun hread => ?_⟩
    obtain ⟨hkept, hresult, -⟩ := complete_of_readable
      { s with probes := s.probes.erase target } target hread
    refine ⟨hkept.trans hfault, ?_⟩
    rw [hresult, AList.lookup_insert]
  · rintro now cache unbegun rfl hdue
    obtain ⟨-, h⟩ := Option.ite_none_right_eq_some.mp h
    cases h
    refine ⟨reported hsound hdue, fun hfault => ?_⟩
    obtain ⟨devices, new, hdevices, hnew, hasked⟩ := asked_tick hdue hfault
    refine ⟨devices, new, hdevices, hnew, fun d hd p hp hurl hfree => hasked d hd p hp hurl ?_⟩
    rw [← Bool.not_eq_true, hsound.marks]
    exact hfree

/-- **The status of a tenant once a report is there**: what was last recorded of its
target, and what it was where nothing is recorded. -/
theorem status_of_report (hs : (healthProbe H dump site).Reachable s) {payload : Json}
    (hpayload : s.ctl.report.dump = some payload) {devices : SaseDevices} {row : DeviceRow}
    (hrow : row ∈ devices.table.rows) :
    (onSaseHealthResult devices (.json payload)).status row.oid =
      match lastRecord s row.target with
      | none => devices.status row.oid
      | some ok => if ok then .active else .down := by
  obtain ⟨result, hresult, halive, hdown⟩ := readSaseHealthResult_report hpayload
  rw [onSaseHealthResult]
  simp only [hresult]
  rw [status_record hrow, halive, hdown, StatusController.aliveTargets,
    StatusController.downTargets]
  simp only [mem_targetsOf, (sound_of_reachable hs).results]
  rw [← lastRecord]
  cases lastRecord s row.target with
  | none => rfl
  | some ok => cases ok <;> rfl

/-! ### Two devices of one target -/

namespace RefusedBeside

/-- A device of the target. -/
def device (oid url : String) : Json :=
  .obj [("health", .obj [("url", .str url)]), ("oid", .str oid), ("target", .str "t")]

/-- The one device's probe URL is refused, the other's is not. -/
def tenants : Json :=
  .obj [("sase_devices", .arr [device "a" "http://h/", device "b" "https://h/"])]

/-- The keys of both. -/
def cache : KeyCache := { issuedKeys := AList.insert "a" [107] (AList.insert "b" [107] ∅) }

/-- `{"status":"success"}`. -/
def success : Bytes := textBytes "\x7b\"status\":\"success\"\x7d"

/-- `{"status":1}`. -/
def number : Bytes := textBytes "\x7b\"status\":1\x7d"

/-- What parses the two bodies, and no other. -/
def host : Host where
  key := none
  parse := fun bytes =>
    if bytes = success then some (.obj [("status", .str "success")])
    else if bytes = number then some (.obj [("status", .int 1)]) else none
  what := fun _ => ""

/-- A 200. -/
def answer (body : Bytes) : ClientResponse :=
  { tlsOk := true, pinMatched := true, requestSent := true, status := 200, body }

/-- A round. -/
def round (n : ℤ) : HealthEvent := .ticked (1 + n * kInterval) cache []

/-- The machine of the two devices. -/
abbrev machine : Machine Health HealthEvent := healthProbe host (fun _ => "") tenants

/-- A state, by what happens up to it. -/
lemma reachable_of_exec {ls : List HealthEvent} {s : Health} (h : machine.exec {} ls = some s) :
    machine.Reachable s := Machine.exec_reachable rfl h

end RefusedBeside

open RefusedBeside in
/-- A target is reported down though its last completed probe succeeded, the refused URL
beside it being the last record; and a status that is a number leaves an exception. -/
theorem probing_fails :
    (∃ s, machine.Reachable s ∧ s.ctl.due (1 + 2 * kInterval) ∧ lastProbe s "t" = some true ∧
      "t" ∈ s.ctl.downTargets) ∧
    ∃ s s', machine.Reachable s ∧ machine.next s (.settled "t" (answer number)) = some s' ∧
      s'.fault ≠ none := by
  constructor
  · have hexec : (machine.exec {} [round 0, .settled "t" (answer success), round 1]).map
        (fun s => (decide (s.ctl.due (1 + 2 * kInterval)), lastProbe s "t", s.ctl.downTargets)) =
          some (true, some true, ["t"]) := by decide +kernel
    obtain ⟨s, hs, hvalues⟩ := Option.map_eq_some_iff.mp hexec
    simp only [Prod.mk.injEq, decide_eq_true_eq] at hvalues
    obtain ⟨hdue, hprobe, hdown⟩ := hvalues
    exact ⟨s, reachable_of_exec hs, hdue, hprobe, by rw [hdown]; exact List.mem_singleton_self _⟩
  · have hexec : (machine.exec {} [round 0]).bind (fun s =>
        (machine.next s (.settled "t" (answer number))).map fun s' => s'.fault.isSome) =
          some true := by decide +kernel
    obtain ⟨s, hs, hnext⟩ := Option.bind_eq_some_iff.mp hexec
    obtain ⟨s', hs', hfault⟩ := Option.map_eq_some_iff.mp hnext
    refine ⟨s, s', reachable_of_exec hs, hs', fun hnone => ?_⟩
    rw [hnone] at hfault
    cases hfault

open RefusedBeside in
/-- A probe that succeeds. -/
theorem probes_survive_success : ∃ s s', StatusReadable host (answer success) ∧
    s'.ctl.aliveTargets = ["t"] ∧
    Survives host (fun _ => "") tenants s (.settled "t" (answer success)) s' := by
  have hexec : (machine.exec {} [round 0]).bind (fun s =>
      (machine.next s (.settled "t" (answer success))).map fun s' => s'.ctl.aliveTargets) =
        some ["t"] := by decide +kernel
  obtain ⟨s, hs, hnext⟩ := Option.bind_eq_some_iff.mp hexec
  obtain ⟨s', hs', halive⟩ := Option.map_eq_some_iff.mp hnext
  refine ⟨s, s', ?_, halive, probes_survive (reachable_of_exec hs) hs'⟩
  intro _ body hbody
  have hparsed : bodyObject host (answer success) = some (.obj [("status", .str "success")]) := by
    decide +kernel
  rw [hparsed] at hbody
  cases hbody
  decide

end Pretzel.Fleet
