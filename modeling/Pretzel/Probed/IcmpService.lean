import Pretzel.Library.Ipv4
import Pretzel.Library.Json

/-!
`probed/service/status/icmp/IcmpService.cpp`: the probe of the firewalls.

* `probeExplicitTargets`: the targets of the firewalls in the site section.
  `probeExplicitTargets_of_targets`: every one that has a target, in order.
* `probeBatchSize` and its siblings: the settings, which throw where they are of
  another type.
* `IcmpService`, `schedule`, `beginProbeSession`, `sendProbeBatch`, `onEchoReply`,
  `completeProbeSession`, `sendProbeResult`: the service.
* `probedTargets`: the targets of a session by the replies it had.
  `targets_onEchoReply`: one more reply.
-/

namespace Pretzel.Probed

open Nlohmann

/-- One turn of the loop of `probeExplicitTargets`. -/
def readTarget (t : Json) : Except JsonError (Option String) :=
  if t.isObject then do
    let target ← t.valueString "target" ""
    return if target = "" then none else some target
  else .ok none

/-- `probeExplicitTargets`. -/
def probeExplicitTargets (cfg : Json) : Except JsonError (List String) := do
  let devices ← cfg.valueJson "ngfw_devices" (.arr [])
  Json.readEach readTarget devices.elements

lemma readTarget_of_find? {t : Json} {target : String} (hne : target ≠ "")
    (h : t.find? "target" = some (.str target)) : readTarget t = .ok (some target) := by
  rw [readTarget, if_pos (Json.isObject_of_find? h), Json.valueString_of_find? h]
  change Except.ok (if target = "" then none else some target) = _
  rw [if_neg hne]

/-- **The targets of firewalls that have one**, in their order. -/
lemma probeExplicitTargets_of_targets {cfg : Json} (h : cfg.isObject = true)
    (hall : ∀ t ∈ cfg.elementsAt "ngfw_devices", ∃ target ≠ "",
      t.find? "target" = some (.str target)) :
    ∃ targets, probeExplicitTargets cfg = .ok targets ∧
      List.Forall₂ (fun t target => t.find? "target" = some (.str target))
        (cfg.elementsAt "ngfw_devices") targets := by
  rw [probeExplicitTargets, Json.valueJson_of_isObject h]
  change ∃ targets, Json.readEach readTarget _ = .ok targets ∧ _
  obtain ⟨targets, hread⟩ := Json.readEach_isOk.mpr fun t ht => by
    obtain ⟨target, hne, htarget⟩ := hall t ht
    exact ⟨_, readTarget_of_find? hne htarget⟩
  refine ⟨targets, hread, Json.forall₂_readEach hread fun t ht r hr => ?_⟩
  obtain ⟨target, hne, htarget⟩ := hall t ht
  rw [readTarget_of_find? hne htarget] at hr
  cases hr
  exact ⟨target, rfl, htarget⟩

/-! ### Settings -/

/-- `probeBatchSize`: the `int` as a `std::size_t`. -/
def probeBatchSize (probe : Json) : Except JsonError ℕ :=
  (probe.valueInt32 "batch_size" 32).map fun n => (n % 2 ^ 64).toNat

/-- `probeBatchInterval`, in nanoseconds. -/
def probeBatchInterval (probe : Json) : Except JsonError ℤ :=
  (probe.valueInt32 "batch_interval_ms" 20).map (· * 1000000)

/-- `replyIdleTimeout`, in milliseconds. -/
def replyIdleTimeout (probe : Json) : Except JsonError ℤ :=
  (probe.valueInt32 "reply_idle_timeout_sec" 5).map (· * 1000)

/-- `replyMaxWaitTimeout`, in milliseconds. -/
def replyMaxWaitTimeout (probe : Json) : Except JsonError ℤ :=
  (probe.valueInt32 "reply_max_wait_timeout_sec" 15).map (· * 1000)

/-- A token without the blanks around it. -/
def trimToken (token : List Char) : List Char :=
  let blank c := c = ' ' || c = '\t'
  ((token.dropWhile blank).reverse.dropWhile blank).reverse

/-- `probeExcludedIps`. -/
def probeExcludedIps (probe : Json) : Except JsonError (List String) :=
  (probe.valueString "excluded_ips" "").map fun raw =>
    (((raw.toList.splitOn ',').map trimToken).filter (· ≠ [])).map String.ofList

/-! ### The service -/

/-- `IcmpService::State`. -/
inductive ProbeState
  | Init
  | Idle
  | Sending
  | WaitingReplies
deriving DecidableEq, Repr

/-- `IcmpService::ProbeTarget`. -/
structure ProbeTarget where
  ip : String
  sequence : ℕ
  alive : Bool
deriving DecidableEq, Repr

/-- An echo reply: where it comes from, and the two numbers of its header. -/
structure EchoReply where
  src : Ipv4
  identifier : ℕ
  sequence : ℕ
deriving DecidableEq, Repr

/-- The payload of a `ProbeResult`. -/
structure ProbeResult where
  alive : ℕ
  ips : List String
deriving DecidableEq, Repr

/-- The events of the service. -/
inductive IcmpEvent
  | StartProbe
  | SendProbeBatch
  | EchoReply (reply : EchoReply)
  | ProbeCompleted
deriving DecidableEq, Repr

/-- The sections the service reads, and the id of the process. -/
structure ProbeConfig where
  probe : Json
  site : Json
  pid : ℕ

/-- `m_identifier` of every session. -/
def ProbeConfig.identifier (cfg : ProbeConfig) : ℕ := cfg.pid % 2 ^ 16

/-- The members of the service; the clock counts nanoseconds. -/
structure IcmpService where
  state : ProbeState := .Init
  targets : List ProbeTarget := []
  targetIndexByIp : List (String × ℕ) := []
  localIps : List String := []
  nextSendIndex : ℕ := 0
  lastBatchSentAt : ℤ := 0
  waitingStartedAt : ℤ := 0
  lastReplyAt : ℤ := 0
  identifier : ℕ := 0
  lastAliveCount : ℕ := 0
deriving DecidableEq, Repr

/-- The targets that are not excluded, each at its first place. -/
def sessionTargets (localIps : List String) (explicitIps : List String) : List String :=
  explicitIps.foldl (fun seen ip => if ip ∈ localIps || ip ∈ seen then seen else seen ++ [ip]) []

namespace IcmpService

variable (svc : IcmpService)

/-- `IcmpService::start`. -/
def start (cfg : ProbeConfig) : Except JsonError IcmpService :=
  (probeExcludedIps cfg.probe).map fun ips => { svc with state := .Idle, localIps := ips }

/-- `IcmpService::allProbeSent`. -/
def allProbeSent : Bool := svc.targets.length ≤ svc.nextSendIndex

/-- `IcmpService::canAcceptReply`. -/
def canAcceptReply : Bool := svc.state = .Sending || svc.state = .WaitingReplies

/-- `IcmpService::replyWaitExpired`. -/
def replyWaitExpired (cfg : ProbeConfig) (now : ℤ) : Except JsonError Bool := do
  let idle ← replyIdleTimeout cfg.probe
  let maxWait ← replyMaxWaitTimeout cfg.probe
  return (idle ≤ (now - svc.lastReplyAt).tdiv 1000000) ||
    (maxWait ≤ (now - svc.waitingStartedAt).tdiv 1000000)

/-- `IcmpService::schedule`. The settings are read for the log too. -/
def schedule (cfg : ProbeConfig) (now : ℤ) : Except JsonError (IcmpService × Option IcmpEvent) :=
  match svc.state with
  | .Init | .Idle => .ok (svc, none)
  | .Sending =>
      if svc.allProbeSent then do
        let _ ← replyIdleTimeout cfg.probe
        let _ ← replyMaxWaitTimeout cfg.probe
        return ({ svc with waitingStartedAt := now, lastReplyAt := now, state := .WaitingReplies },
          none)
      else do
        let interval ← probeBatchInterval cfg.probe
        return (svc, if interval ≤ now - svc.lastBatchSentAt then some .SendProbeBatch else none)
  | .WaitingReplies => do
      let expired ← svc.replyWaitExpired cfg now
      return (svc, if expired then some .ProbeCompleted else none)

/-- `IcmpService::beginProbeSession`. -/
def beginProbeSession (cfg : ProbeConfig) (now : ℤ) : Except JsonError IcmpService := do
  let explicitIps ← probeExplicitTargets cfg.site
  let svc := { svc with
    identifier := cfg.identifier, targets := [], targetIndexByIp := [], nextSendIndex := 0 }
  if explicitIps = [] then return { svc with lastAliveCount := 0, state := .Idle }
  else
    let ips := sessionTargets svc.localIps explicitIps
    let interval ← probeBatchInterval cfg.probe
    return { svc with
      targets := ips.zipIdx.map fun p => ⟨p.1, (p.2 + 1) % 2 ^ 16, false⟩
      targetIndexByIp := ips.zipIdx
      lastBatchSentAt := now - interval
      waitingStartedAt := 0
      lastReplyAt := 0
      state := .Sending }

/-- `IcmpService::sendProbeBatch`: the service, and the echo requests by their
destination and their sequence number. -/
def sendProbeBatch (cfg : ProbeConfig) (now : ℤ) :
    Except JsonError (IcmpService × List (String × ℕ)) :=
  if svc.allProbeSent then .ok ({ svc with lastBatchSentAt := now }, [])
  else do
    let size ← probeBatchSize cfg.probe
    let batch := (svc.targets.drop svc.nextSendIndex).take size
    return ({ svc with nextSendIndex := svc.nextSendIndex + batch.length, lastBatchSentAt := now },
      batch.map fun t => (t.ip, t.sequence))

/-- The index of an address among the targets. -/
def indexOf (srcIp : String) : Option ℕ :=
  (svc.targetIndexByIp.find? fun p => p.1 = srcIp).map Prod.snd

/-- `IcmpService::onEchoReply`. -/
def onEchoReply (now : ℤ) (reply : EchoReply) : IcmpService :=
  match svc.indexOf reply.src.ntop with
  | none => svc
  | some i =>
      if !svc.canAcceptReply then svc
      else
        match svc.targets[i]? with
        | none => svc
        | some target =>
            if reply.identifier ≠ svc.identifier then svc
            else if reply.sequence ≠ target.sequence then svc
            else if target.alive then { svc with lastReplyAt := now }
            else
              { svc with
                lastReplyAt := now
                targets := svc.targets.modify i fun t => { t with alive := true } }

/-- The addresses that answered. -/
def aliveIps : List String := (svc.targets.filter (·.alive)).map ProbeTarget.ip

/-- `IcmpService::completeProbeSession`, none where sorting the addresses throws. -/
def completeProbeSession : Option IcmpService :=
  if svc.state ≠ .WaitingReplies then some svc
  else if 2 ≤ svc.aliveIps.length && svc.aliveIps.any fun ip => (Ipv4.pton ip).isNone then none
  else some { svc with lastAliveCount := svc.aliveIps.length, state := .Idle }

/-- `IcmpService::sendProbeResult`. -/
def sendProbeResult : ProbeResult := ⟨svc.lastAliveCount, svc.aliveIps⟩

end IcmpService

/-! ### The targets of a session -/

lemma sessionTargets_concat (localIps ips : List String) (ip : String) :
    sessionTargets localIps (ips ++ [ip]) =
      if ip ∈ localIps || ip ∈ sessionTargets localIps ips then sessionTargets localIps ips
      else sessionTargets localIps ips ++ [ip] := by
  rw [sessionTargets, List.foldl_append]
  rfl

lemma nodup_sessionTargets (localIps ips : List String) : (sessionTargets localIps ips).Nodup := by
  induction ips using List.reverseRecOn with
  | nil => exact List.nodup_nil
  | append_singleton ips ip ih =>
      rw [sessionTargets_concat]
      split
      · exact ih
      · next hnew =>
          rw [Bool.or_eq_true, not_or, decide_eq_true_eq, decide_eq_true_eq] at hnew
          exact List.nodup_append.mpr ⟨ih, List.nodup_singleton ip,
            fun a ha b hb => by
              rw [List.mem_singleton.mp hb]
              rintro rfl
              exact hnew.2 ha⟩

lemma mem_sessionTargets {localIps ips : List String} {ip : String} :
    ip ∈ sessionTargets localIps ips ↔ ip ∈ ips ∧ ip ∉ localIps := by
  induction ips using List.reverseRecOn with
  | nil => simp [sessionTargets]
  | append_singleton ips ip' ih =>
      rw [sessionTargets_concat]
      split
      · next hseen =>
          rw [Bool.or_eq_true, decide_eq_true_eq, decide_eq_true_eq] at hseen
          rw [ih, List.mem_append, List.mem_singleton]
          constructor
          · exact fun h => ⟨.inl h.1, h.2⟩
          · rintro ⟨h | rfl, hnot⟩
            · exact ⟨h, hnot⟩
            · rcases hseen with h | h
              · exact absurd h hnot
              · exact ih.mp h
      · next hnew =>
          rw [Bool.or_eq_true, not_or, decide_eq_true_eq, decide_eq_true_eq] at hnew
          rw [List.mem_append, List.mem_append, List.mem_singleton, ih]
          constructor
          · rintro (h | rfl)
            · exact ⟨.inl h.1, h.2⟩
            · exact ⟨.inr rfl, hnew.1⟩
          · rintro ⟨h | rfl, hnot⟩
            · exact .inl ⟨h, hnot⟩
            · exact .inr rfl

/-- A reply that answers the request to the target at a place. -/
def answers (identifier : ℕ) (replies : List EchoReply) (p : String × ℕ) : Bool :=
  replies.any fun r =>
    r.src.ntop = p.1 && r.identifier = identifier && r.sequence = (p.2 + 1) % 2 ^ 16

/-- The targets of a session, by the replies it had. -/
def probedTargets (identifier : ℕ) (ips : List String) (replies : List EchoReply) :
    List ProbeTarget :=
  ips.zipIdx.map fun p => ⟨p.1, (p.2 + 1) % 2 ^ 16, answers identifier replies p⟩

lemma answers_append {identifier : ℕ} {replies : List EchoReply} {r : EchoReply}
    {p : String × ℕ} : answers identifier (replies ++ [r]) p = (answers identifier replies p ||
      (r.src.ntop = p.1 && r.identifier = identifier && r.sequence = (p.2 + 1) % 2 ^ 16)) := by
  simp [answers]

section Replies

variable {identifier : ℕ} {ips : List String} {replies : List EchoReply} {r : EchoReply}

lemma getElem?_probedTargets (j : ℕ) : (probedTargets identifier ips replies)[j]? =
    ips[j]?.map fun ip => ⟨ip, (j + 1) % 2 ^ 16, answers identifier replies (ip, j)⟩ := by
  rw [probedTargets, List.getElem?_map, List.getElem?_zipIdx, Option.map_map, Nat.zero_add]
  rfl

/-- A reply that answers no request changes nothing. -/
lemma probedTargets_append_of_not (h : ∀ p ∈ ips.zipIdx, answers identifier [r] p = false) :
    probedTargets identifier ips (replies ++ [r]) = probedTargets identifier ips replies := by
  rw [probedTargets, probedTargets]
  refine List.map_congr_left fun p hp => ?_
  have hone := h p hp
  rw [answers, List.any_cons, List.any_nil, Bool.or_false] at hone
  rw [answers_append, hone, Bool.or_false]

/-- One that answers the request to a target makes it alive, and no other. -/
lemma probedTargets_append_of_answers {i : ℕ} (hnodup : ips.Nodup) (hi : ips[i]? = some r.src.ntop)
    (h : answers identifier [r] (r.src.ntop, i) = true) :
    probedTargets identifier ips (replies ++ [r]) =
      (probedTargets identifier ips replies).modify i fun t => { t with alive := true } := by
  have hmatch : r.identifier = identifier ∧ r.sequence = (i + 1) % 2 ^ 16 := by
    simpa [answers] using h
  refine List.ext_getElem? fun j => ?_
  rw [List.getElem?_modify, getElem?_probedTargets, getElem?_probedTargets]
  cases hj : ips[j]? with
  | none => rfl
  | some ip =>
      by_cases hij : i = j
      · subst hij
        obtain rfl : ip = r.src.ntop := Option.some.inj (hj.symm.trans hi)
        simp [answers_append, hmatch.1, hmatch.2]
      · have hne : r.src.ntop ≠ ip := by
          rintro rfl
          exact hij ((List.getElem?_inj (List.getElem?_eq_some_iff.mp hi).1 hnodup).mp
            (hi.trans hj.symm))
        simp [hij, hne, answers_append]

/-- A reply that does not answer the target at its address answers none. -/
lemma answers_eq_false_of_nodup {i : ℕ} (hnodup : ips.Nodup) (hi : ips[i]? = some r.src.ntop)
    (h : answers identifier [r] (r.src.ntop, i) = false) :
    ∀ p ∈ ips.zipIdx, answers identifier [r] p = false := by
  rintro ⟨ip, j⟩ hp
  have hj : ips[j]? = some ip := List.mem_zipIdx_iff_getElem?.mp hp
  by_cases hip : r.src.ntop = ip
  · subst hip
    obtain rfl : i = j := (List.getElem?_inj (List.getElem?_eq_some_iff.mp hi).1 hnodup).mp
      (hi.trans hj.symm)
    exact h
  · simp [answers, hip]

/-- **One more reply**: the target it answers, and no other, is alive with it. -/
lemma targets_onEchoReply {svc : IcmpService} {now : ℤ} (hnodup : ips.Nodup)
    (htargets : svc.targets = probedTargets svc.identifier ips replies)
    (hindex : svc.targetIndexByIp = ips.zipIdx) (hopen : svc.canAcceptReply = true) :
    (svc.onEchoReply now r).targets = probedTargets svc.identifier ips (replies ++ [r]) := by
  rw [IcmpService.onEchoReply, IcmpService.indexOf, hindex]
  cases hfind : ips.zipIdx.find? fun p => p.1 = r.src.ntop with
  | none =>
      have hnone : ∀ p ∈ ips.zipIdx, answers svc.identifier [r] p = false := by
        intro p hp
        have hne : ¬p.1 = r.src.ntop := by simpa using List.find?_eq_none.mp hfind p hp
        simp [answers, Ne.symm hne]
      rw [probedTargets_append_of_not hnone]
      exact htargets
  | some p =>
      obtain ⟨ip, i⟩ := p
      obtain rfl : ip = r.src.ntop := by simpa using List.find?_some hfind
      have hi : ips[i]? = some r.src.ntop :=
        List.mem_zipIdx_iff_getElem?.mp (List.mem_of_find?_eq_some hfind)
      have hat : svc.targets[i]? = some ⟨r.src.ntop, (i + 1) % 2 ^ 16,
          answers svc.identifier replies (r.src.ntop, i)⟩ := by
        rw [htargets, getElem?_probedTargets, hi]
        rfl
      cases hone : answers svc.identifier [r] (r.src.ntop, i) with
      | true =>
          have hmatch : r.identifier = svc.identifier ∧ r.sequence = (i + 1) % 2 ^ 16 := by
            simpa [answers] using hone
          rw [probedTargets_append_of_answers hnodup hi hone]
          simp only [Option.map_some, hopen, hat, hmatch.1, hmatch.2, Bool.not_true,
            Bool.false_eq_true, if_false, ne_eq, not_true_eq_false]
          split
          · next halive =>
              refine List.ext_getElem? fun j => ?_
              rw [List.getElem?_modify, ← htargets]
              by_cases hij : i = j
              · subst hij
                rw [hat, halive]
                simp
              · simp [hij]
          · rw [htargets]
      | false =>
          have hmiss : ¬(r.identifier = svc.identifier ∧ r.sequence = (i + 1) % 2 ^ 16) := by
            simpa [answers] using hone
          rw [probedTargets_append_of_not (answers_eq_false_of_nodup hnodup hi hone)]
          simp only [Option.map_some, hopen, hat, Bool.not_true, Bool.false_eq_true, if_false]
          split
          · exact htargets
          · next hid =>
              rw [if_pos fun hseq => hmiss ⟨not_not.mp hid, hseq⟩]
              exact htargets

end Replies

end Pretzel.Probed
