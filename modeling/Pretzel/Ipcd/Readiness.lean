import Mathlib.Tactic
import Pretzel.Ipcd.Routes

/-!
Readiness in ipcd: whose it is, over runs with daemons that come and go.

* `Alive`: every live route has its connection.
* `Since`: what a step does to a route: it is the one from before, or a new one,
  under a higher generation and with nothing reported.
* `Backed`: what is said of a daemon's readiness was reported over the connection
  that holds its route.
* `Orderly`: a step in which no report is handled for a route bound since, and no
  daemon has used up its generations.
* `readiness_of_connection`: the law, over runs of such steps.
* `stale_report`: a report that outlives its connection.
-/

namespace Pretzel.Ipcd

open Pretzel.Ipc Nlohmann Reactive

namespace Broker

variable {parse : Bytes → Option Json} {dump : Json → Bytes}

/-! ### The law -/

/-- Every live route has its connection. -/
def Alive (s : IpcServer) : Prop :=
  ∀ d state, s.runtimeTable.lookup d = some state → 0 ≤ state.fd → state.fd ∈ s.connections

/-- A route from before is the same still. -/
def Kept (t : IpcServer) (d : IpcDaemon) (state : RuntimeState) : Prop :=
  ∃ before, t.runtimeTable.lookup d = some before ∧ before.fd = state.fd ∧
    before.generation = state.generation

/-- A route from before is no more: there was none, or its connection is gone. -/
def Freed (t s : IpcServer) (d : IpcDaemon) : Prop :=
  ∀ before, t.runtimeTable.lookup d = some before → before.fd < 0 ∨ before.fd ∉ s.connections

/-- A route bound since, to a higher generation and with nothing reported. -/
def Rebound (t s : IpcServer) (d : IpcDaemon) (state : RuntimeState) : Prop :=
  Freed t s d ∧ (∀ before, t.runtimeTable.lookup d = some before →
    before.generation < state.generation) ∧ state.ready = false ∧ state.appliedVersion = 0

/-- **What becomes of a route**: it is the one from before or a new one. -/
def Since (t s : IpcServer) : Prop :=
  ∀ d state, s.runtimeTable.lookup d = some state → 0 ≤ state.fd →
    Kept t d state ∨ Rebound t s d state

/-- **What is said of a daemon was reported over its connection**, under the
generation the route has. -/
def Backed (reports : List Report) (d : IpcDaemon) (state : RuntimeState) : Prop :=
  (state.ready = true → ∃ r, reports.find? (fun r => r.daemon = d) = some r ∧
    r.fd = state.fd ∧ r.generation = state.generation) ∧
  (state.appliedVersion ≠ 0 → ∃ r,
    reports.find? (fun r => r.daemon = d && 0 < r.appliedVersion) = some r ∧
    r.fd = state.fd ∧ r.generation = state.generation ∧ r.appliedVersion = state.appliedVersion)

/-- The generation after which there is none. -/
def lastGeneration : UInt32 := 4294967295

/-- A daemon that has used up its generations keeps the route it has. -/
def Unexhausted (refused : List ℤ) (s : IpcServer) : Prop :=
  ∀ d state, s.runtimeTable.lookup d = some state → state.generation = lastGeneration →
    0 ≤ state.fd ∧ state.fd ∉ refused

/-- **A step in order**: epoll does not refuse the connection that is read, no
daemon without a connection has used up its generations, and a report that is
handled is that of the route there is. -/
def Orderly (b : Broker) : Label → Prop
  | .event ev refused => ev.fd ∉ refused ∧ Unexhausted refused b.server
  | .schedule => True
  | .execute _ => ∀ event eventQueue, b.eventQueue = event :: eventQueue →
      event.message.header.cmd = .RuntimeReady → ∀ state,
        b.server.runtimeTable.lookup event.message.header.src = some state → 0 ≤ state.fd →
          state.fd = event.fd ∧ state.generation = event.generation

/-! ### One event -/

/-- What holds of a server while the frames of one connection are drained: `t` is
the server before. -/
structure Draining (refused : List ℤ) (reports : List Report) (t s : IpcServer) : Prop where
  alive : Alive s
  nonneg : ∀ fd ∈ s.connections, 0 ≤ fd
  since : Since t s
  freed : ∀ d state, s.runtimeTable.lookup d = some state → state.fd < 0 →
    Freed t s d ∧ ∀ before, t.runtimeTable.lookup d = some before →
      before.generation ≤ state.generation
  absent : ∀ d, s.runtimeTable.lookup d = none → t.runtimeTable.lookup d = none
  unexhausted : Unexhausted refused s
  backed : ∀ d state, s.runtimeTable.lookup d = some state → 0 ≤ state.fd →
    Backed reports d state

/-- What holds of it after the event. -/
structure Settled (reports : List Report) (t s : IpcServer) : Prop where
  alive : Alive s
  nonneg : ∀ fd ∈ s.connections, 0 ≤ fd
  since : Since t s
  backed : ∀ d state, s.runtimeTable.lookup d = some state → 0 ≤ state.fd →
    Backed reports d state

/-- A state in which nothing is reported is backed. -/
lemma backed_of_reset (reports : List Report) (d : IpcDaemon) {state : RuntimeState}
    (hready : state.ready = false) (hversion : state.appliedVersion = 0) :
    Backed reports d state := by
  refine ⟨fun h => ?_, fun h => absurd hversion h⟩
  rw [hready] at h
  cases h

/-- A generation that is not the last is lower than the next. -/
lemma lt_next_generation {g : UInt32} (h : g ≠ lastGeneration) : g < g + 1 := by
  have hg : g.toNat ≠ 4294967295 := fun heq => h (UInt32.toNat_inj.mp heq)
  have hlt := g.toNat_lt
  rw [UInt32.lt_iff_toNat_lt, UInt32.toNat_add]
  change g.toNat < (g.toNat + 1) % 2 ^ 32
  omega

/-- A route there is not, after a binding, was not there before. -/
lemma lookup_insert_cases {table : RuntimeTable} {d d' : IpcDaemon} {state state' : RuntimeState}
    (h : (table.insert d state).lookup d' = some state') :
    d' = d ∧ state' = state ∨ d' ≠ d ∧ table.lookup d' = some state' := by
  by_cases hd : d' = d
  · subst hd
    rw [AList.lookup_insert, Option.some.injEq] at h
    exact .inl ⟨rfl, h.symm⟩
  · rw [AList.lookup_insert_ne hd] at h
    exact .inr ⟨hd, h⟩

/-- A frame that binds the route of its sender. -/
lemma Draining.bind {refused : List ℤ} {reports : List Report} {t s : IpcServer} {fd : ℤ}
    (h : Draining refused reports t s) (hrefused : fd ∉ refused) (hmem : fd ∈ s.connections)
    {msg : IpcMessage Bytes} {table : RuntimeTable}
    (hbind : s.runtimeTable.bindRoute msg.header.src fd = some table) :
    Draining refused reports t
      { s with runtimeTable := table, received := s.received ++ [(fd, msg)] } := by
  rcases RuntimeTable.bindRoute_cases hbind with rfl | ⟨generation, rfl, hbefore⟩
  · exact ⟨h.alive, h.nonneg, h.since, h.freed, h.absent, h.unexhausted, h.backed⟩
  have hlive : 0 ≤ fd := h.nonneg fd hmem
  have hfreed : Rebound t s msg.header.src
      { fd, ready := false, appliedVersion := 0, generation } := by
    cases hlookup : s.runtimeTable.lookup msg.header.src with
    | none =>
        have hnone := h.absent _ hlookup
        refine ⟨fun before hb => ?_, fun before hb => ?_, rfl, rfl⟩
        all_goals
          rw [hnone] at hb
          cases hb
    | some state =>
        obtain ⟨hdead, rfl⟩ := hbefore state hlookup
        obtain ⟨hfreed, hle⟩ := h.freed _ state hlookup hdead
        refine ⟨hfreed, fun before hb => ?_, rfl, rfl⟩
        have hnotLast : state.generation ≠ lastGeneration := fun heq =>
          absurd (h.unexhausted _ state hlookup heq).1 (not_le.mpr hdead)
        exact UInt32.lt_of_le_of_lt (hle before hb) (lt_next_generation hnotLast)
  constructor
  · intro d state hstate hpos
    rcases lookup_insert_cases hstate with ⟨rfl, rfl⟩ | ⟨-, hold⟩
    · exact hmem
    · exact h.alive d state hold hpos
  · exact h.nonneg
  · intro d state hstate hpos
    rcases lookup_insert_cases hstate with ⟨rfl, rfl⟩ | ⟨-, hold⟩
    · exact .inr hfreed
    · exact h.since d state hold hpos
  · intro d state hstate hneg
    rcases lookup_insert_cases hstate with ⟨rfl, rfl⟩ | ⟨-, hold⟩
    · exact absurd hlive (not_le.mpr hneg)
    · exact h.freed d state hold hneg
  · intro d hnone
    by_cases hd : d = msg.header.src
    · subst hd
      rw [AList.lookup_insert] at hnone
      cases hnone
    · rw [AList.lookup_insert_ne hd] at hnone
      exact h.absent d hnone
  · intro d state hstate hlast
    rcases lookup_insert_cases hstate with ⟨rfl, rfl⟩ | ⟨-, hold⟩
    · exact ⟨hlive, hrefused⟩
    · exact h.unexhausted d state hold hlast
  · intro d state hstate hpos
    rcases lookup_insert_cases hstate with ⟨rfl, rfl⟩ | ⟨-, hold⟩
    · exact backed_of_reset reports _ rfl rfl
    · exact h.backed d state hold hpos

/-- A connection that is written back frees no route and takes none. -/
lemma freed_write {t s : IpcServer} {d : IpcDaemon} {fd : ℤ} {conn conn' : IpcConnection}
    (hconn : s.connections.lookup fd = some conn) :
    Freed t { s with connections := s.connections.insert fd conn' } d ↔ Freed t s d := by
  refine forall_congr' fun before => imp_congr_right fun _ => or_congr_right (not_congr ?_)
  exact mem_insert_iff hconn

/-- What is freed stays so while connections are closed. -/
lemma Freed.close {t s : IpcServer} {d : IpcDaemon} (h : Freed t s d) (fd : ℤ) :
    Freed t (s.closeConnection fd) d := by
  intro before hbefore
  rcases h before hbefore with hdead | hgone
  · exact .inl hdead
  · exact .inr fun hmem => hgone (AList.mem_erase.mp hmem).2

/-- What a route that is there after a connection is closed was before. -/
lemma lookup_removeRoute_cases {table : RuntimeTable} {fd : ℤ} {d : IpcDaemon}
    {state : RuntimeState} (h : (table.removeRoute fd).lookup d = some state) :
    table.lookup d = some state ∨ state.fd < 0 ∧ ∃ before, table.lookup d = some before ∧
      before.fd = fd ∧ before.generation = state.generation := by
  rw [RuntimeTable.lookup_removeRoute, Option.map_eq_some_iff] at h
  obtain ⟨before, hbefore, rfl⟩ := h
  rw [RuntimeState.unbind]
  split
  · exact .inl hbefore
  · next heq => exact .inr ⟨by change (-1 : ℤ) < 0; omega, before, hbefore, not_not.mp heq, rfl⟩

/-- A connection that is written back changes nothing there is to say. -/
lemma Draining.write {refused : List ℤ} {reports : List Report} {t s : IpcServer} {fd : ℤ}
    {conn conn' : IpcConnection} (h : Draining refused reports t s)
    (hconn : s.connections.lookup fd = some conn) :
    Draining refused reports t { s with connections := s.connections.insert fd conn' } where
  alive d state hstate hpos := (mem_insert_iff hconn).mpr (h.alive d state hstate hpos)
  nonneg g hg := h.nonneg g ((mem_insert_iff hconn).mp hg)
  since d state hstate hpos := (h.since d state hstate hpos).imp_right fun hnew =>
    ⟨(freed_write hconn).mpr hnew.1, hnew.2⟩
  freed d state hstate hneg :=
    ⟨(freed_write hconn).mpr (h.freed d state hstate hneg).1, (h.freed d state hstate hneg).2⟩
  absent := h.absent
  unexhausted := h.unexhausted
  backed := h.backed

/-- A connection that epoll refuses, closed while another is drained. -/
lemma Draining.close {refused : List ℤ} {reports : List Report} {t s : IpcServer} {fd : ℤ}
    (h : Draining refused reports t s) (hrefused : fd ∈ refused) :
    Draining refused reports t (s.closeConnection fd) := by
  constructor
  · intro d state hstate hpos
    obtain ⟨hold, hne⟩ := lookup_removeRoute_live hstate hpos
    exact AList.mem_erase.mpr ⟨hne, h.alive d state hold hpos⟩
  · exact fun g hg => h.nonneg g (AList.mem_erase.mp hg).2
  · intro d state hstate hpos
    obtain ⟨hold, -⟩ := lookup_removeRoute_live hstate hpos
    exact (h.since d state hold hpos).imp_right fun hnew => ⟨hnew.1.close fd, hnew.2⟩
  · intro d state hstate hneg
    rcases lookup_removeRoute_cases hstate with hold | ⟨-, before, hbefore, hfd, hgen⟩
    · obtain ⟨hfreed, hle⟩ := h.freed d state hold hneg
      exact ⟨hfreed.close fd, hle⟩
    · rw [← hgen]
      by_cases hdead : before.fd < 0
      · obtain ⟨hfreed, hle⟩ := h.freed d before hbefore hdead
        exact ⟨hfreed.close fd, hle⟩
      · rcases h.since d before hbefore (not_lt.mp hdead) with ⟨b₀, hb₀, hfd₀, hgen₀⟩ | hnew
        · refine ⟨fun b hb => .inr fun hmem => (AList.mem_erase.mp hmem).1 ?_, fun b hb => ?_⟩
          all_goals obtain rfl : b₀ = b := Option.some.inj (hb₀.symm.trans hb)
          · rw [hfd₀, hfd]
          · rw [hgen₀]
            exact UInt32.le_refl _
        · exact ⟨hnew.1.close fd, fun b hb => UInt32.le_of_lt (hnew.2.1 b hb)⟩
  · intro d hnone
    rw [IpcServer.closeConnection, RuntimeTable.lookup_removeRoute, Option.map_eq_none_iff]
      at hnone
    exact h.absent d hnone
  · intro d state hstate hlast
    rcases lookup_removeRoute_cases hstate with hold | ⟨-, before, hbefore, hfd, hgen⟩
    · exact h.unexhausted d state hold hlast
    · exact absurd (hfd ▸ hrefused) (h.unexhausted d before hbefore (hgen.trans hlast)).2
  · intro d state hstate hpos
    exact h.backed d state (lookup_removeRoute_live hstate hpos).1 hpos

lemma Settled.write {reports : List Report} {t s : IpcServer} {fd : ℤ}
    {conn conn' : IpcConnection} (h : Settled reports t s)
    (hconn : s.connections.lookup fd = some conn) :
    Settled reports t { s with connections := s.connections.insert fd conn' } where
  alive d state hstate hpos := (mem_insert_iff hconn).mpr (h.alive d state hstate hpos)
  nonneg g hg := h.nonneg g ((mem_insert_iff hconn).mp hg)
  since d state hstate hpos := (h.since d state hstate hpos).imp_right fun hnew =>
    ⟨(freed_write hconn).mpr hnew.1, hnew.2⟩
  backed := h.backed

lemma Settled.close {reports : List Report} {t s : IpcServer} (h : Settled reports t s) (fd : ℤ) :
    Settled reports t (s.closeConnection fd) := by
  have hlive : ∀ d state, (s.closeConnection fd).runtimeTable.lookup d = some state →
      0 ≤ state.fd → s.runtimeTable.lookup d = some state ∧ state.fd ≠ fd :=
    fun d state hstate hpos => lookup_removeRoute_live hstate hpos
  constructor
  · intro d state hstate hpos
    obtain ⟨hold, hne⟩ := hlive d state hstate hpos
    exact AList.mem_erase.mpr ⟨hne, h.alive d state hold hpos⟩
  · exact fun g hg => h.nonneg g (AList.mem_erase.mp hg).2
  · intro d state hstate hpos
    exact (h.since d state (hlive d state hstate hpos).1 hpos).imp_right fun hnew =>
      ⟨hnew.1.close fd, hnew.2⟩
  · intro d state hstate hpos
    exact h.backed d state (hlive d state hstate hpos).1 hpos

/-- **An event of a connection that epoll does not refuse.** -/
lemma preserves_settled {refused : List ℤ} {fd : ℤ} (hrefused : fd ∉ refused)
    (reports : List Report) (t : IpcServer) :
    Preserves refused fd (Draining refused reports t) (Settled reports t) where
  bind h hmem hbind := h.bind hrefused (hmem hrefused) hbind
  write h hconn := h.write hconn
  close h hclosed := h.close hclosed
  after h := ⟨h.alive, h.nonneg, h.since, h.backed⟩
  writeAfter h hconn := h.write hconn
  closeAfter g h := h.close g

/-! ### The runs -/

/-- What holds between two steps. -/
structure Steady (b : Broker) : Prop where
  alive : Alive b.server
  nonneg : ∀ fd ∈ b.server.connections, 0 ≤ fd
  backed : ∀ d state, b.server.runtimeTable.lookup d = some state → 0 ≤ state.fd →
    Backed b.reports d state

/-- Nothing has happened yet. -/
lemma Steady.settled {b : Broker} (h : Steady b) : Settled b.reports b.server b.server where
  alive := h.alive
  nonneg := h.nonneg
  since _ state hstate _ := .inl ⟨state, hstate, rfl, rfl⟩
  backed := h.backed

/-- A drain begins. -/
lemma Steady.draining {b : Broker} (h : Steady b) {refused : List ℤ}
    (hunexhausted : Unexhausted refused b.server) :
    Draining refused b.reports b.server b.server where
  alive := h.alive
  nonneg := h.nonneg
  since := h.settled.since
  freed d state hstate hneg := by
    refine ⟨fun before hbefore => ?_, fun before hbefore => ?_⟩
    all_goals obtain rfl : state = before := Option.some.inj (hstate.symm.trans hbefore)
    · exact .inl hneg
    · exact UInt32.le_refl _
  absent _ hnone := hnone
  unexhausted := hunexhausted
  backed := h.backed

/-- The connections there are after `handleAccept` were there or were accepted,
and the routes are what they were. -/
lemma handleAccept_connections (accepts : List (ℤ × Bool)) (s : IpcServer) :
    (s.handleAccept accepts).runtimeTable = s.runtimeTable ∧
      (∀ g ∈ s.connections, g ∈ (s.handleAccept accepts).connections) ∧
      ∀ g ∈ (s.handleAccept accepts).connections, g ∈ s.connections ∨ ∃ a ∈ accepts, a.1 = g := by
  induction accepts generalizing s with
  | nil => exact ⟨rfl, fun _ hg => hg, fun _ hg => .inl hg⟩
  | cons a accepts ih =>
      have hskip : (s.handleAccept accepts).runtimeTable = s.runtimeTable ∧
          (∀ g ∈ s.connections, g ∈ (s.handleAccept accepts).connections) ∧
          ∀ g ∈ (s.handleAccept accepts).connections,
            g ∈ s.connections ∨ ∃ b ∈ a :: accepts, b.1 = g := by
        obtain ⟨htable, hkept, hnew⟩ := ih s
        refine ⟨htable, hkept, fun g hg => (hnew g hg).imp_right ?_⟩
        rintro ⟨b, hb, hfd⟩
        exact ⟨b, List.mem_cons_of_mem _ hb, hfd⟩
      rw [IpcServer.handleAccept]
      split
      · exact hskip
      split
      · exact hskip
      split
      · exact hskip
      · obtain ⟨htable, hkept, hnew⟩ := ih { s with
          connections := s.connections.insert a.1
            (IpcConnection.new a.1 s.rxBufferSize s.txBufferSize) }
        refine ⟨htable, fun g hg => hkept g ((AList.mem_insert _).mpr (.inr hg)), fun g hg => ?_⟩
        rcases hnew g hg with hmem | ⟨b, hb, hfd⟩
        · rcases (AList.mem_insert _).mp hmem with rfl | hmem
          · exact .inr ⟨a, List.mem_cons_self, rfl⟩
          · exact .inl hmem
        · exact .inr ⟨b, List.mem_cons_of_mem _ hb, hfd⟩

/-- The kernel hands out no negative descriptor. -/
lemma nonneg_of_fresh {accepts : List (ℤ × Bool)} {s : IpcServer} {held : Finset ℤ}
    (h : fresh s held accepts = true) : ∀ a ∈ accepts, 0 ≤ a.1 := by
  induction accepts generalizing s held with
  | nil => exact fun _ ha => absurd ha List.not_mem_nil
  | cons a accepts ih =>
      obtain ⟨g, addOk⟩ := a
      rw [fresh, Bool.and_eq_true, Bool.and_eq_true, decide_eq_true_eq, decide_eq_true_eq] at h
      obtain ⟨⟨-, hpos⟩, hrest⟩ := h
      have htail : ∀ a ∈ accepts, 0 ≤ a.1 := by
        split at hrest
        · exact ih hrest
        split at hrest
        · exact ih hrest
        · exact ih hrest
      intro a ha
      rcases List.mem_cons.mp ha with rfl | hmem
      · exact hpos
      · exact htail a hmem

/-- A listener that accepts. -/
lemma Steady.settled_handleAccept {b : Broker} (h : Steady b) {accepts : List (ℤ × Bool)}
    (hfresh : fresh b.server b.held accepts = true) :
    Settled b.reports b.server (b.server.handleAccept accepts) := by
  obtain ⟨htable, hkept, hnew⟩ := handleAccept_connections accepts b.server
  constructor
  · intro d state hstate hpos
    rw [htable] at hstate
    exact hkept _ (h.alive d state hstate hpos)
  · intro g hg
    rcases hnew g hg with hmem | ⟨a, ha, rfl⟩
    · exact h.nonneg g hmem
    · exact nonneg_of_fresh hfresh a ha
  · intro d state hstate hpos
    rw [htable] at hstate
    exact .inl ⟨state, hstate, rfl, rfl⟩
  · intro d state hstate hpos
    rw [htable] at hstate
    exact h.backed d state hstate hpos

/-- A report is backed by itself where the route is the one it came over, and it
leaves what is said of other daemons. -/
lemma backed_markRuntimeReady {table : RuntimeTable} {reports : List Report} {r : Report}
    (h : ∀ d state, table.lookup d = some state → 0 ≤ state.fd → Backed reports d state)
    (hroute : ∀ state, table.lookup r.daemon = some state → 0 ≤ state.fd →
      state.fd = r.fd ∧ state.generation = r.generation) :
    ∀ d state, (table.markRuntimeReady r.daemon true r.appliedVersion).lookup d = some state →
      0 ≤ state.fd → Backed (r :: reports) d state := by
  intro d state hstate hpos
  by_cases hd : r.daemon = d
  · subst hd
    rw [RuntimeTable.markRuntimeReady] at hstate
    cases hlookup : table.lookup r.daemon with
    | none =>
        rw [hlookup] at hstate
        rw [hlookup] at hstate
        cases hstate
    | some before =>
        rw [hlookup] at hstate
        dsimp only at hstate
        rw [AList.lookup_insert, Option.some.injEq] at hstate
        subst hstate
        obtain ⟨hfd, hgen⟩ := hroute before hlookup hpos
        obtain ⟨-, hversion⟩ := h _ before hlookup hpos
        refine ⟨fun _ => ⟨r, by simp, hfd.symm, hgen.symm⟩, fun hne => ?_⟩
        by_cases hreported : 0 < r.appliedVersion
        · refine ⟨r, by simp [hreported], hfd.symm, hgen.symm, ?_⟩
          change r.appliedVersion = if r.appliedVersion > 0 then _ else _
          rw [if_pos hreported]
        · have hsame : (if r.appliedVersion > 0 then r.appliedVersion else before.appliedVersion)
              = before.appliedVersion := if_neg hreported
          rw [hsame] at hne ⊢
          obtain ⟨r', hr', hbacked⟩ := hversion hne
          refine ⟨r', ?_, hbacked⟩
          rw [List.find?_cons_of_neg (by simp [hreported]), hr']
  · have hold : table.lookup d = some state := by
      rw [RuntimeTable.markRuntimeReady] at hstate
      split at hstate
      · exact hstate
      · rwa [AList.lookup_insert_ne (Ne.symm hd)] at hstate
    obtain ⟨hready, hversion⟩ := h d state hold hpos
    refine ⟨fun htrue => ?_, fun hne => ?_⟩
    · obtain ⟨r', hr', hbacked⟩ := hready htrue
      exact ⟨r', by rw [List.find?_cons_of_neg (by simp [hd]), hr'], hbacked⟩
    · obtain ⟨r', hr', hbacked⟩ := hversion hne
      exact ⟨r', by rw [List.find?_cons_of_neg (by simp [hd]), hr'], hbacked⟩

/-- **One step in order.** -/
lemma steady_next {b b' : Broker} {l : Label} (h : Steady b) (hok : Orderly b l)
    (hstep : next parse dump b l = some b') : Steady b' ∧ Since b.server b'.server := by
  rcases next_cases hstep with ⟨ev, refused, rfl, rfl, hfresh⟩ | ⟨executing, rfl⟩ |
    ⟨refused, event, eventQueue, rfl, hqueue, hhandled⟩ | ⟨refused, actionQueue, msg, rfl, -, rfl⟩
  · obtain ⟨hrefused, hunexhausted⟩ := hok
    have hsettled := (preserves_settled hrefused b.reports b.server).handleEvent
      (h.draining hunexhausted) fun hlistener => h.settled_handleAccept (hfresh hlistener)
    refine ⟨⟨hsettled.alive, hsettled.nonneg, ?_⟩, hsettled.since⟩
    rw [reports_handleEvent]
    exact hsettled.backed
  · exact ⟨⟨h.alive, h.nonneg, h.backed⟩, h.settled.since⟩
  · rcases handleBootstrapEvent_cases hhandled with ⟨actions, rfl⟩ | ⟨hcmd, version, rfl⟩
    · exact ⟨⟨h.alive, h.nonneg, h.backed⟩, h.settled.since⟩
    · refine ⟨⟨fun d state hstate hpos => ?_, h.nonneg, ?_⟩, fun d state hstate _ => ?_⟩
      · obtain ⟨before, hbefore, hfd, -⟩ := lookup_markRuntimeReady hstate
        rw [← hfd] at hpos ⊢
        exact h.alive d before hbefore hpos
      · exact backed_markRuntimeReady (r := ⟨event.message.header.src, version, event.fd,
          event.generation⟩) h.backed fun state hstate hpos =>
            hok event eventQueue hqueue hcmd state hstate hpos
      · obtain ⟨before, hbefore, hfd, hgen⟩ := lookup_markRuntimeReady hstate
        exact .inl ⟨before, hbefore, hfd, hgen⟩
  · have hsettled := @IpcServer.egress_induct refused (Settled b.reports b.server)
      (fun hs hconn => hs.write hconn) (fun hs _ => hs.close _) b.server h.settled msg
    exact ⟨⟨hsettled.alive, hsettled.nonneg, hsettled.backed⟩, hsettled.since⟩

lemma steady_initial {b : Broker} (h : Initial b) : Steady b := by
  have hnone : ∀ d, b.server.runtimeTable.lookup d = none := by
    intro d
    rw [h.runtimeTable]
    rfl
  refine ⟨fun d state hstate _ => ?_, fun fd hfd => ?_, fun d state hstate _ => ?_⟩
  · rw [hnone] at hstate
    cases hstate
  · rw [h.connections] at hfd
    exact absurd hfd (by simp)
  · rw [hnone] at hstate
    cases hstate

/-- What a `SyncResponse` speaks of are live routes. -/
lemma lookup_of_mem_reported {table : RuntimeTable} {e : IpcDaemon × RuntimeState}
    (h : e ∈ reported table) : table.lookup e.1 = some e.2 ∧ 0 ≤ e.2.fd := by
  obtain ⟨hmem, hkept⟩ := List.mem_filter.mp h
  obtain ⟨entry, hentry, rfl⟩ := List.mem_map.mp hmem
  simp only [Bool.and_eq_true, decide_eq_true_eq] at hkept
  exact ⟨AList.mem_lookup_iff.mpr hentry, hkept.2⟩

/-- **Readiness belongs to the connection that reported it**, in every run whose
steps are in order: every live route has its connection, a route is re-pointed
only once its connection is gone, under a higher generation and with nothing
reported, and what a `SyncResponse` would say of a daemon was reported over the
connection that holds its route. -/
theorem readiness_of_connection {b₀ b : Broker} {tr : List (Broker × Label)}
    (h₀ : (machine parse dump).init b₀) (hrun : (machine parse dump).Run b₀ tr b)
    (hok : ∀ p ∈ tr, Orderly p.1 p.2) :
    Alive b.server ∧
    (∀ p ∈ tr, ∀ t, (machine parse dump).next p.1 p.2 = some t → Since p.1.server t.server) ∧
    ∀ e ∈ reported b.server.runtimeTable, Backed b.reports e.1 e.2 := by
  have hsteps : Steady b ∧ ∀ p ∈ tr, Steady p.1 := by
    induction hrun with
    | nil => exact ⟨steady_initial h₀, fun _ hp => absurd hp List.not_mem_nil⟩
    | @snoc tr t t' l _ hstep ih =>
        obtain ⟨ht, hbefore⟩ := ih fun p hp => hok p (List.mem_append_left _ hp)
        have horder := hok (t, l) (List.mem_append_right _ (List.mem_singleton_self _))
        refine ⟨(steady_next ht horder hstep).1, fun p hp => ?_⟩
        rcases List.mem_append.mp hp with hp | hp
        · exact hbefore p hp
        · rw [List.mem_singleton.mp hp]
          exact ht
  refine ⟨hsteps.1.alive, fun p hp t hstep => ?_, fun e he => ?_⟩
  · exact (steady_next (hsteps.2 p hp) (hok p hp) hstep).2
  · obtain ⟨hlookup, hpos⟩ := lookup_of_mem_reported he
    exact hsteps.1.backed e.1 e.2 hlookup hpos

/-! ### A daemon that restarts -/

namespace Restart

/-- A report of a version, as it is sent. -/
def report : Bytes := "\x7b\"applied_version\":7\x7d".toUTF8.data.toList

/-- What the one text says. -/
def parseReport (payload : Bytes) : Option Json :=
  if payload = report then some (.obj [("applied_version", .int 7)]) else none

abbrev reporting : Machine Broker Label := machine parseReport fun _ => []

/-- ipcd, with room for some connections. -/
abbrev ipcd : Broker := start 3 4 8 0 0

/-- Readable bytes of a connection. -/
def reads (fd : ℤ) (frame : Bytes) : EpollEvent :=
  { fd, isRecv := true, inbound := { segments := [frame], ending := .again } }

/-- A daemon that reports itself ready. -/
def readyFrame (src : IpcDaemon) : Bytes :=
  IpcCodec.encode ⟨.build src .Ipcd .RuntimeReady 2 IpcFlag.Request.toFlag, report⟩

/-- Three clients connect, and the first says hello. -/
def connected : List Label :=
  [.event { fd := 4, isRecv := true, accepts := [(7, true), (8, true), (9, true)] } [],
    .schedule, .execute [], .event (reads 7 (plainFrame .Probed .ClientHello)) [],
    .schedule, .execute [], .execute [], .execute []]

/-- It reports itself ready, and engined asks. -/
def oneReport : List Label := connected ++
  [.event (reads 7 (readyFrame .Probed)) [], .event (reads 9 (plainFrame .Engined .SyncRequest)) [],
    .schedule, .execute [], .execute []]

/-- It reports itself ready and dies before the answer to its hello is sent, and
in the same poll its successor says hello and engined asks. -/
def restarted : List Label := connected ++
  [.event { reads 7 (readyFrame .Probed) with
      isSend := true, outbound := { answers := [.failed], modOk := true } } [],
    .event (reads 8 (plainFrame .Probed .ClientHello)) [],
    .event (reads 9 (plainFrame .Engined .SyncRequest)) [],
    .schedule, .execute [], .execute [], .execute [], .execute []]

/-- Whether a step is in order, where epoll refuses nothing. -/
def orderly (p : Broker × Label) : Bool :=
  match p.2 with
  | .event _ refused => refused = [] &&
      p.1.server.runtimeTable.entries.all fun e => e.2.generation ≠ lastGeneration
  | .schedule => true
  | .execute _ =>
      match p.1.eventQueue with
      | [] => true
      | event :: _ =>
          match p.1.server.runtimeTable.lookup event.message.header.src with
          | none => true
          | some state => state.fd = event.fd && state.generation = event.generation

lemma orderly_spec {p : Broker × Label} (h : orderly p = true) : Orderly p.1 p.2 := by
  obtain ⟨b, l⟩ := p
  cases l with
  | event ev refused =>
      rw [orderly, Bool.and_eq_true, decide_eq_true_eq, List.all_eq_true] at h
      obtain ⟨rfl, hall⟩ := h
      refine ⟨List.not_mem_nil, fun d state hstate hlast => ?_⟩
      have hne := hall ⟨d, state⟩ (AList.mem_lookup_iff.mp hstate)
      exact absurd hlast (of_decide_eq_true hne)
  | schedule => trivial
  | execute refused =>
      intro event eventQueue hqueue _ state hstate _
      rw [orderly] at h
      dsimp only at h
      rw [hqueue] at h
      dsimp only at h
      rw [hstate] at h
      simpa using h

end Restart

open Restart in
theorem readiness_of_connection_reported : ∃ b, reporting.exec ipcd oneReport = some b ∧
    reported b.server.runtimeTable = [(.Probed, ⟨7, true, 1, 7⟩)] ∧
    b.reports = [⟨.Probed, 7, 7, 1⟩] ∧ Alive b.server ∧
    (∀ p ∈ reporting.trace ipcd oneReport, ∀ t, reporting.next p.1 p.2 = some t →
      Since p.1.server t.server) ∧
    ∀ e ∈ reported b.server.runtimeTable, Backed b.reports e.1 e.2 := by
  have hend : (reporting.exec ipcd oneReport).map
      (fun b => (reported b.server.runtimeTable, b.reports))
        = some ([(.Probed, ⟨7, true, 1, 7⟩)], [⟨.Probed, 7, 7, 1⟩]) := by decide +kernel
  have horder : (reporting.trace ipcd oneReport).all orderly = true := by decide +kernel
  obtain ⟨b, hexec, hb⟩ := Option.map_eq_some_iff.mp hend
  obtain ⟨hreported, hreports⟩ := Prod.mk.inj hb
  exact ⟨b, hexec, hreported, hreports, readiness_of_connection (initial_start 3 4 8 0 0)
    (Machine.exec_run hexec) fun p hp => orderly_spec (List.all_eq_true.mp horder p hp)⟩

open Restart in
/-- **A report that outlives its connection**: the daemon is said to be ready under
the generation of its new connection, over which nothing was reported. -/
theorem stale_report : ∃ b request, reporting.Reachable b ∧
    b.eventQueue = [] ∧ b.actionQueue = [.SendSyncResponse request] ∧
    reported b.server.runtimeTable = [(.Probed, ⟨8, true, 2, 7⟩)] ∧
    b.reports = [⟨.Probed, 7, 7, 1⟩] := by
  have hqueues : (reporting.exec ipcd restarted).map (fun b => (b.eventQueue, b.actionQueue))
      = some ([], [.SendSyncResponse
          ⟨.build .Engined .Ipcd .SyncRequest 1 IpcFlag.Request.toFlag, []⟩]) := by decide +kernel
  have hsaid : (reporting.exec ipcd restarted).map
      (fun b => (reported b.server.runtimeTable, b.reports))
        = some ([(.Probed, ⟨8, true, 2, 7⟩)], [⟨.Probed, 7, 7, 1⟩]) := by decide +kernel
  obtain ⟨b, hexec, hb⟩ := Option.map_eq_some_iff.mp hqueues
  rw [hexec] at hsaid
  obtain ⟨hevents, hactions⟩ := Prod.mk.inj hb
  obtain ⟨hreported, hreports⟩ := Prod.mk.inj (Option.some.inj hsaid)
  exact ⟨b, _, Machine.exec_reachable (initial_start 3 4 8 0 0) hexec, hevents, hactions,
    hreported, hreports⟩

end Broker

end Pretzel.Ipcd
