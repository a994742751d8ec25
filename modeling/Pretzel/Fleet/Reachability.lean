import Pretzel.Engined.ProbeService
import Pretzel.Fleet.Consumers
import Pretzel.Library.Texts
import Pretzel.Probed.ProbeSessions

/-!
From an echo reply to the status of a firewall: the collector's reading of a
target, probed's session and engined's inventory.

* `resolveTarget`, `targetAddress`: the host and the port of a target, as the
  collector reads them, and the address the host is.
* `Reached`: a reply came from the address of a firewall, to the request sent to
  its target.
* `Reflected`: after the result every firewall is active or down by that, and two
  at one address alike.
* **`reachability_reflected`**: so it is where the rows fit the inventory, and each
  target is the bare address or nothing at its address was reached.
* `port_not_probed`: a target with a port is down, whatever answers.
-/

namespace Pretzel.Fleet

open Nlohmann Ipc Mgmtd Engined Probed Reactive Texts

/-! ### Targets -/

/-- The host and the port of a target, as `resolveDevice` reads them. -/
def resolveTarget (target : String) : String × ℕ :=
  if target.toList.head? = some '[' then (target, 443)
  else
    match splitLast ':' target.toList with
    | none => (target, 443)
    | some (host, text) =>
        if host.elem ':' then (target, 443)
        else
          match portOf text with
          | none => (target, 443)
          | some port => (String.ofList host, port)

/-- The address a target names, if its host is a literal. -/
def targetAddress (target : String) : Option Ipv4 := Ipv4.pton (resolveTarget target).1

/-- The target of a device. -/
def deviceTarget (d : Json) : String := d.textOr "target" ""

/-- A reply came from the address of the device, with the identifier of the session
and the sequence number of the target. -/
def Reached (cfg : ProbeConfig) (c : Session) (d : Json) : Bool :=
  c.targets.zipIdx.any fun p => p.1 = deviceTarget d && c.replies.any fun r =>
    some r.src = targetAddress p.1 && r.identifier = cfg.identifier &&
      r.sequence = (p.2 + 1) % 2 ^ 16

/-- The firewalls of the configuration. -/
def firewalls (cfg : ProbeConfig) : List Json := cfg.site.elementsAt "ngfw_devices"

/-- Every firewall has a row, whose status is whether it was reached; and two at
one address have the same. -/
structure Reflected (cfg : ProbeConfig) (c : Session) (inv : DeviceInventory) : Prop where
  verdict : ∀ d ∈ firewalls cfg, ngfwRow d ∈ inv.ngfw.rows ∧
    inv.status (deviceOid d) = if Reached cfg c d then .active else .down
  same : ∀ d ∈ firewalls cfg, ∀ d' ∈ firewalls cfg,
    targetAddress (deviceTarget d) = targetAddress (deviceTarget d') →
      inv.status (deviceOid d) = inv.status (deviceOid d')

/-- The payload of a result. -/
def resultPayload (result : ProbeResult) : Payload :=
  .json (.obj [("alive", .int result.alive), ("ips", .arr (result.ips.map .str))])

/-- The members engined reads have the types it asks for, and the devices fit the
tables. -/
structure Projectable (dump : Json → String) (cfg : ProbeConfig) (inv : DeviceInventory) : Prop where
  firewalls : ∀ d ∈ firewalls cfg, NgfwReads d
  tenants : ∀ d ∈ cfg.site.elementsAt "sase_devices", SaseReads d
  firewallsFit : inv.ngfw.Fits ((Fleet.firewalls cfg).map ngfwRow)
  tenantsFit : inv.sase.Fits ((cfg.site.elementsAt "sase_devices").map (saseRow dump))

/-- The target is the text of its address; or no device at the address was
reached. -/
def Bare (cfg : ProbeConfig) (c : Session) : Prop :=
  ∀ d ∈ firewalls cfg, (targetAddress (deviceTarget d)).map Ipv4.ntop = some (deviceTarget d) ∨
    ∀ d' ∈ firewalls cfg, targetAddress (deviceTarget d') = targetAddress (deviceTarget d) →
      Reached cfg c d' = false

/-! ### The verdict of a session -/

variable {cfg : ProbeConfig} {c : Session} {d : Json} {dump : Json → String}

/-- A payload says the addresses that were put into it. -/
lemma readProbeResult_payload (n : ℕ) (ips : List String) :
    readProbeResult (.obj [("alive", .int n), ("ips", .arr (ips.map .str))]) = .ok ips := by
  rw [readProbeResult]
  exact mapM_getString ips

/-- A bare target is among the addresses exactly when the device was reached. -/
lemma mem_verdict_iff (h : (targetAddress (deviceTarget d)).map Ipv4.ntop = some (deviceTarget d)) :
    deviceTarget d ∈ (c.verdict cfg.identifier).ips ↔ Reached cfg c d = true := by
  obtain ⟨a, ha, hntop⟩ := Option.map_eq_some_iff.mp h
  have hsrc : ∀ r : EchoReply, r.src.ntop = deviceTarget d ↔
      some r.src = targetAddress (deviceTarget d) := by
    intro r
    rw [ha, ← hntop, Option.some.injEq]
    exact Ipv4.ntop_injective.eq_iff
  rw [Session.verdict, List.mem_map, Reached, List.any_eq_true]
  constructor
  · rintro ⟨p, hp, htarget⟩
    obtain ⟨hmem, hanswers⟩ := List.mem_filter.mp hp
    refine ⟨p, hmem, ?_⟩
    rw [answers] at hanswers
    simp only [htarget, hsrc] at hanswers
    simpa [htarget] using hanswers
  · rintro ⟨p, hmem, hreached⟩
    rw [Bool.and_eq_true, decide_eq_true_eq] at hreached
    obtain ⟨htarget, hreplies⟩ := hreached
    refine ⟨p, List.mem_filter.mpr ⟨hmem, ?_⟩, htarget⟩
    rw [answers]
    simp only [htarget, hsrc]
    simpa [htarget] using hreplies

/-- One that is not the text of an address never is. -/
lemma notMem_verdict (h : (targetAddress (deviceTarget d)).map Ipv4.ntop ≠ some (deviceTarget d))
    (ha : ∀ a : Ipv4, targetAddress a.ntop = some a) :
    deviceTarget d ∉ (c.verdict cfg.identifier).ips := by
  rw [Session.verdict, List.mem_map]
  rintro ⟨p, hp, htarget⟩
  obtain ⟨r, -, hr⟩ := List.any_eq_true.mp (List.mem_filter.mp hp).2
  simp only [Bool.and_eq_true, decide_eq_true_eq] at hr
  rw [← htarget, ← hr.1.1, ha] at h
  exact h rfl

/-- The collector reads the text of an address as that address. -/
lemma targetAddress_ntop (a : Ipv4) : targetAddress a.ntop = some a := by
  have hcolon : a.ntop.toList.elem ':' = false := by
    rw [← Bool.not_eq_true, List.elem_iff]
    intro h
    rcases Ipv4.mem_ntop h with h | h <;> cases h
  have hbracket : a.ntop.toList.head? ≠ some '[' := by
    intro h
    rcases Ipv4.mem_ntop (List.mem_of_head? h) with h | h <;> cases h
  rw [targetAddress, resolveTarget, if_neg hbracket, splitLast, hcolon]
  exact Ipv4.pton_ntop

/-! ### The inventory -/

/-- What the commit endpoint accepts of the site section. -/
structure AcceptedSite (cfg : ProbeConfig) : Prop where
  object : cfg.site.isObject = true
  firewalls : EntriesValid validDevice cfg.site "ngfw_devices"
  tenants : EntriesValid validDevice cfg.site "sase_devices"

/-- Whether a bare or an unreached target is among the addresses. -/
lemma mem_verdict_of_bare (hbare : Bare cfg c) (hd : d ∈ firewalls cfg) :
    deviceTarget d ∈ (c.verdict cfg.identifier).ips ↔ Reached cfg c d = true := by
  by_cases htext : (targetAddress (deviceTarget d)).map Ipv4.ntop = some (deviceTarget d)
  · exact mem_verdict_iff htext
  · have hnot : Reached cfg c d = false := ((hbare d hd).resolve_left htext) d hd rfl
    rw [hnot]
    exact iff_of_false (notMem_verdict htext targetAddress_ntop) Bool.false_ne_true

/-- At one address the bare targets are one, and an unreached one has company. -/
lemma reached_eq_of_address (hbare : Bare cfg c) {d' : Json} (hd : d ∈ firewalls cfg)
    (hd' : d' ∈ firewalls cfg)
    (h : targetAddress (deviceTarget d) = targetAddress (deviceTarget d')) :
    Reached cfg c d = Reached cfg c d' := by
  rcases hbare d hd with htext | hnone
  · rcases hbare d' hd' with htext' | hnone
    · have htarget : deviceTarget d = deviceTarget d' := by
        rw [h] at htext
        exact Option.some.inj (htext.symm.trans htext')
      rw [Reached, Reached, htarget]
    · rw [hnone d hd h, hnone d' hd' rfl]
  · rw [hnone d hd rfl, hnone d' hd' h.symm]

/-- **The verdict of a session in the inventory**, where the rows fit and the
targets are bare. -/
lemma reflected_onProbeResult (haccepted : AcceptedSite cfg) {inv : DeviceInventory}
    (hfits : Projectable dump cfg inv) (hbare : Bare cfg c) :
    ∃ inv', onProbeResult dump cfg.site inv (resultPayload (c.verdict cfg.identifier)) = .ok inv' ∧
      Reflected cfg c inv' := by
  obtain ⟨ngfw, hngfw, hrows⟩ := (projectDevices_iff haccepted.object haccepted.firewalls
    (fun d hobj hoid r => readNgfw_eq_ok_iff hobj hoid) inv.ngfw).mpr
      ⟨hfits.firewalls, hfits.firewallsFit⟩
  obtain ⟨sase, hsase, -⟩ := (projectDevices_iff haccepted.object haccepted.tenants
    (fun d hobj hoid r => readSase_eq_ok_iff hobj hoid) inv.sase).mpr
      ⟨hfits.tenants, hfits.tenantsFit⟩
  have hproject : projectInventory dump cfg.site inv.ngfw inv.sase = .ok (ngfw, sase) := by
    rw [projectInventory, hngfw]
    change (do let sase ← projectDevices _ _ _ _; _) = _
    rw [hsase]
    rfl
  rw [resultPayload, onProbeResult, readProbeResult_payload]
  dsimp only
  rw [hproject]
  have hstatus : ∀ d ∈ firewalls cfg, ngfwRow d ∈ ngfw.rows ∧
      (reflect (c.verdict cfg.identifier).ips { inv with ngfw := ngfw, sase := sase }).status
        (deviceOid d) = if Reached cfg c d then .active else .down := by
    intro d hd
    let tables : DeviceInventory := { inv with ngfw := ngfw, sase := sase }
    have hrow : ngfwRow d ∈ tables.ngfw.rows := hrows.2 _ (List.mem_map_of_mem hd)
    refine ⟨hrow, (status_reflect hrow).trans ?_⟩
    change (if deviceTarget d ∈ _ then DeviceStatus.active else DeviceStatus.down) = _
    simp only [mem_verdict_of_bare hbare hd]
  refine ⟨_, rfl, hstatus, fun d hd d' hd' haddress => ?_⟩
  have hsame := reached_eq_of_address hbare hd hd' haddress
  exact ((hstatus d hd).2.trans (by rw [hsame])).trans (hstatus d' hd').2.symm

/-- **Reachability reaches the inventory**: in a run of probed that keeps to its
conditions, engined's handling of a result makes every firewall active or down by
whether a reply came from its address in the session of that result. -/
theorem reachability_reflected {s s' : Probing} {tr : List (Probing × ProbeStep)}
    (hu : Usable cfg) (hinit : (probing cfg).init s) (hrun : (probing cfg).Run s tr s')
    (hkept : ∀ p ∈ tr, Kept cfg p.1 p.2 = true) {k : ℕ} {result : ProbeResult}
    (hsent : s'.sent[k]? = some result) (hsession : (recordOf cfg tr).completed[k]? = some c)
    (haccepted : AcceptedSite cfg) {inv : DeviceInventory} (hfits : Projectable dump cfg inv)
    (hbare : Bare cfg c) :
    ∃ inv', onProbeResult dump cfg.site inv (resultPayload result) = .ok inv' ∧
      Reflected cfg c inv' := by
  have hresult : result = c.verdict cfg.identifier := by
    obtain ⟨rest, hrest⟩ := (inStep_run hu hinit hrun hkept).sound.results
    have hat : (s'.sent ++ rest)[k]? = some result := by
      rw [List.getElem?_append_left (List.getElem?_eq_some_iff.mp hsent).1]
      exact hsent
    rw [hrest, List.getElem?_map, hsession] at hat
    exact (Option.some.inj hat).symm
  rw [hresult]
  exact reflected_onProbeResult haccepted hfits hbare

/-! ### One firewall, and two at one address -/

namespace TwoPorts

/-- No row yet. -/
def inventory : DeviceInventory := ⟨OneFirewall.noRows, OneFirewall.noRows, fun _ => .unknown, []⟩

/-- A firewall behind a target. -/
def device (oid target : String) : Json := .obj [("oid", .str oid), ("target", .str target)]

/-- Two firewalls at one address, the second with a port. -/
def config : ProbeConfig where
  probe := .obj []
  site := .obj [("ngfw_devices", .arr [device "f1" "10.0.0.1", device "f2" "10.0.0.1:8443"])]
  pid := 7

lemma usable : Usable config :=
  ⟨⟨32, rfl, by decide⟩, ⟨_, rfl⟩, ⟨_, rfl⟩, ⟨_, rfl⟩,
    ⟨["10.0.0.1", "10.0.0.1:8443"], by decide⟩⟩

lemma started_init : (probing config).init Probed.OneFirewall.started :=
  ⟨_, by decide, rfl⟩

lemma firewalls_config :
    firewalls config = [device "f1" "10.0.0.1", device "f2" "10.0.0.1:8443"] := rfl

lemma accepted : AcceptedSite config := by
  refine ⟨rfl, fun v hv => ?_, fun v hv => ?_⟩
  · cases hv
    exact ⟨_, rfl, by decide⟩
  · cases hv

lemma projectable : Projectable (fun _ => "") config inventory := by
  have htenants : config.site.elementsAt "sase_devices" = [] := rfl
  constructor
  · rw [firewalls_config, List.forall_mem_cons, List.forall_mem_singleton]
    change (∀ key ∈ _, _) ∧ ∀ key ∈ _, _
    decide
  · rw [htenants]
    simp
  · rw [firewalls_config]
    refine ⟨by decide, by decide, fun done r rest _ q hq => ?_⟩
    cases hq
  · rw [htenants]
    refine ⟨by simp, by simp, fun done r rest _ q hq => ?_⟩
    cases hq

end TwoPorts

open TwoPorts in
/-- The law on one firewall that answers. -/
theorem reachability_reflected_answered :
    ∃ inv', onProbeResult (fun _ => "") Probed.OneFirewall.config.site inventory
        (resultPayload ⟨1, ["10.0.0.1"]⟩) = .ok inv' ∧
      Reflected Probed.OneFirewall.config ⟨["10.0.0.1"], [⟨⟨10, 0, 0, 1⟩, 7, 1⟩]⟩ inv' := by
  have hexec : ((probing Probed.OneFirewall.config).exec Probed.OneFirewall.started
      Probed.OneFirewall.expired).map (fun s => s.sent) = some [⟨1, ["10.0.0.1"]⟩] := by
    decide +kernel
  obtain ⟨s', hs', hsent⟩ := Option.map_eq_some_iff.mp hexec
  have hkept : ((probing Probed.OneFirewall.config).trace Probed.OneFirewall.started
      Probed.OneFirewall.expired).all (fun p => Kept Probed.OneFirewall.config p.1 p.2) = true := by
    decide +kernel
  have hsession : (recordOf Probed.OneFirewall.config ((probing Probed.OneFirewall.config).trace
      Probed.OneFirewall.started Probed.OneFirewall.expired)).completed[0]? =
        some ⟨["10.0.0.1"], [⟨⟨10, 0, 0, 1⟩, 7, 1⟩]⟩ := by
    decide +kernel
  have hfirewalls : firewalls Probed.OneFirewall.config = [device "f1" "10.0.0.1"] := rfl
  have htenants : Probed.OneFirewall.config.site.elementsAt "sase_devices" = [] := rfl
  refine reachability_reflected Probed.OneFirewall.usable Probed.OneFirewall.started_init
    (Machine.exec_run hs') (List.all_eq_true.mp hkept) (k := 0) (by rw [hsent]; rfl) hsession
    ⟨rfl, ?_, ?_⟩ ⟨?_, ?_, ?_, ?_⟩ ?_
  · intro v hv
    cases hv
    refine ⟨_, rfl, ?_⟩
    decide +kernel
  · intro v hv
    cases hv
  · rw [hfirewalls, List.forall_mem_singleton]
    change ∀ key ∈ _, _
    decide
  · rw [htenants]
    simp
  · rw [hfirewalls]
    refine ⟨by simp, by simp, fun done r rest _ q hq => ?_⟩
    cases hq
  · rw [htenants]
    refine ⟨by simp, by simp, fun done r rest _ q hq => ?_⟩
    cases hq
  · rw [Bare, hfirewalls, List.forall_mem_singleton]
    exact .inl (by decide +kernel)

open TwoPorts in
/-- **A target with a port is down**: of two firewalls at one address that answers,
the one whose target names a port too is told down. -/
theorem port_not_probed :
    ¬∀ (cfg : ProbeConfig) (s s' : Probing) (tr : List (Probing × ProbeStep)), Usable cfg →
      (probing cfg).init s → (probing cfg).Run s tr s' → (∀ p ∈ tr, Kept cfg p.1 p.2 = true) →
      ∀ (k : ℕ) (result : ProbeResult) (c : Session), s'.sent[k]? = some result →
      (recordOf cfg tr).completed[k]? = some c → AcceptedSite cfg →
      ∀ (dump : Json → String) (inv : DeviceInventory), Projectable dump cfg inv →
      (∀ d ∈ firewalls cfg, (targetAddress (deviceTarget d)).isSome = true ∧
        deviceTarget d ∈ c.targets) →
      ∃ inv', onProbeResult dump cfg.site inv (resultPayload result) = .ok inv' ∧
        Reflected cfg c inv' := by
  intro hall
  have hexec : ((probing config).exec Probed.OneFirewall.started
      Probed.OneFirewall.expired).map (fun s => s.sent) = some [⟨1, ["10.0.0.1"]⟩] := by
    decide +kernel
  obtain ⟨s', hs', hsent⟩ := Option.map_eq_some_iff.mp hexec
  have hkept : ((probing config).trace Probed.OneFirewall.started
      Probed.OneFirewall.expired).all (fun p => Kept config p.1 p.2) = true := by
    decide +kernel
  have hsession : (recordOf config ((probing config).trace Probed.OneFirewall.started
      Probed.OneFirewall.expired)).completed[0]? =
        some ⟨["10.0.0.1", "10.0.0.1:8443"], [⟨⟨10, 0, 0, 1⟩, 7, 1⟩]⟩ := by
    decide +kernel
  obtain ⟨inv, hinv, -, hsame⟩ := hall config _ s' _ usable started_init (Machine.exec_run hs')
    (List.all_eq_true.mp hkept) 0 ⟨1, ["10.0.0.1"]⟩ _ (by rw [hsent]; rfl) hsession accepted
    (fun _ => "") inventory projectable (by
      rw [firewalls_config, List.forall_mem_cons, List.forall_mem_singleton]
      decide +kernel)
  have hstatus : (onProbeResult (fun _ => "") config.site inventory
      (resultPayload ⟨1, ["10.0.0.1"]⟩)).map (fun inv => (inv.status "f1", inv.status "f2")) =
        .ok (.active, .down) := by
    decide +kernel
  rw [hinv] at hstatus
  have hpair : inv.status "f1" = .active ∧ inv.status "f2" = .down :=
    Prod.mk.injEq .. ▸ Except.ok.inj hstatus
  have heq := hsame (device "f1" "10.0.0.1") (by simp [firewalls_config]) (device "f2" "10.0.0.1:8443")
    (by simp [firewalls_config]) (by decide +kernel)
  have hoids : deviceOid (device "f1" "10.0.0.1") = "f1" ∧
      deviceOid (device "f2" "10.0.0.1:8443") = "f2" := by
    decide +kernel
  rw [hoids.1, hoids.2, hpair.1, hpair.2] at heq
  cases heq

end Pretzel.Fleet
