import Mathlib.Tactic
import Pretzel.Ipcd.Broker

/-!
The route table of ipcd over its runs: who may speak for a daemon.

* `SpokenFor`: every live route was bound by a message over its connection.
* `OneSource`: no connection has named two daemons.
* `routes_injective`: while no connection names two daemons, no descriptor is the
  route of two.
* `two_routes`: a connection that names two daemons is the route of both.
-/

namespace Pretzel.Ipcd

open Pretzel.Ipc Nlohmann Reactive

namespace Broker

variable {parse : Bytes → Option Json} {dump : Json → Bytes}

/-- Every live route was bound by a message received over its connection. -/
def SpokenFor (s : IpcServer) : Prop :=
  ∀ d state, s.runtimeTable.lookup d = some state → 0 ≤ state.fd →
    ∃ msg, (state.fd, msg) ∈ s.received ∧ msg.header.src = d

/-- Each connection has named one daemon in all it sent. -/
def OneSource (s : IpcServer) : Prop :=
  ∀ m ∈ s.received, ∀ m' ∈ s.received, m.1 = m'.1 → m.2.header.src = m'.2.header.src

/-- A daemon that a binding does not name keeps its route, and the one it names
has it over the connection. -/
lemma spokenFor_bind {s : IpcServer} (h : SpokenFor s) {fd : ℤ} {msg : IpcMessage Bytes}
    {table : RuntimeTable} (hbind : s.runtimeTable.bindRoute msg.header.src fd = some table) :
    SpokenFor { s with runtimeTable := table, received := s.received ++ [(fd, msg)] } := by
  obtain ⟨⟨bound, hbound, hfd⟩, hothers⟩ := RuntimeTable.lookup_bindRoute hbind
  intro d state hstate hlive
  by_cases hd : d = msg.header.src
  · subst hd
    obtain rfl : bound = state := Option.some.inj (hbound.symm.trans hstate)
    exact ⟨msg, by rw [hfd]; exact List.mem_append_right _ (List.mem_singleton_self _), rfl⟩
  · rw [hothers d hd] at hstate
    obtain ⟨msg', hmem, hsrc⟩ := h d state hstate hlive
    exact ⟨msg', List.mem_append_left _ hmem, hsrc⟩

/-- A live route that is there after a connection is closed was there before. -/
lemma lookup_removeRoute_live {table : RuntimeTable} {fd : ℤ} {d : IpcDaemon}
    {state : RuntimeState} (h : (table.removeRoute fd).lookup d = some state)
    (hlive : 0 ≤ state.fd) : table.lookup d = some state ∧ state.fd ≠ fd := by
  rw [RuntimeTable.lookup_removeRoute, Option.map_eq_some_iff] at h
  obtain ⟨before, hbefore, rfl⟩ := h
  rw [RuntimeState.unbind] at hlive ⊢
  split
  · next hne => exact ⟨hbefore, hne⟩
  · next heq =>
      rw [if_neg heq] at hlive
      exact absurd hlive (by change ¬ (0 : ℤ) ≤ -1; omega)

lemma spokenFor_close {s : IpcServer} (h : SpokenFor s) (fd : ℤ) :
    SpokenFor (s.closeConnection fd) := fun d state hstate hlive =>
  h d state (lookup_removeRoute_live hstate hlive).1 hlive

/-- A report of readiness leaves every route where it is. -/
lemma lookup_markRuntimeReady {table : RuntimeTable} {src d : IpcDaemon} {ready : Bool}
    {appliedVersion : UInt64} {state : RuntimeState}
    (h : (table.markRuntimeReady src ready appliedVersion).lookup d = some state) :
    ∃ before, table.lookup d = some before ∧ before.fd = state.fd ∧
      before.generation = state.generation := by
  rw [RuntimeTable.markRuntimeReady] at h
  split at h
  · exact ⟨state, h, rfl, rfl⟩
  next marked hmarked =>
  by_cases hd : d = src
  · subst hd
    rw [AList.lookup_insert, Option.some.injEq] at h
    subst h
    exact ⟨marked, hmarked, rfl, rfl⟩
  · rw [AList.lookup_insert_ne hd] at h
    exact ⟨state, h, rfl, rfl⟩

lemma preserves_spokenFor (refused : List ℤ) (fd : ℤ) :
    Preserves refused fd SpokenFor SpokenFor where
  bind h _ hbind := spokenFor_bind h hbind
  write h _ := h
  close h _ := spokenFor_close h _
  after h := h
  writeAfter h _ := h
  closeAfter fd h := spokenFor_close h fd

lemma spokenFor_next {b b' : Broker} {l : Label} (h : SpokenFor b.server)
    (hstep : next parse dump b l = some b') : SpokenFor b'.server := by
  rcases next_cases hstep with ⟨ev, refused, -, rfl, -⟩ | ⟨executing, rfl⟩ |
    ⟨refused, event, eventQueue, -, -, hhandled⟩ | ⟨refused, actionQueue, msg, -, -, rfl⟩
  · exact (preserves_spokenFor refused ev.fd).handleEvent h fun _ =>
      handleAccept_induct (fun hs _ => hs) ev.accepts h
  · exact h
  · rcases handleBootstrapEvent_cases hhandled with ⟨actions, rfl⟩ | ⟨-, version, rfl⟩
    · exact h
    · intro d state hstate hlive
      obtain ⟨before, hbefore, hfd, -⟩ := lookup_markRuntimeReady hstate
      rw [← hfd] at hlive ⊢
      exact h d before hbefore hlive
  · exact @IpcServer.egress_induct refused SpokenFor (fun hs _ => hs)
      (fun hs _ => spokenFor_close hs _) b.server h msg

/-- **While no connection names two daemons, no descriptor is the route of
two.** -/
theorem routes_injective {b : Broker} (h : (machine parse dump).Reachable b)
    (hone : OneSource b.server) : ∀ d d' state state',
      b.server.runtimeTable.lookup d = some state →
      b.server.runtimeTable.lookup d' = some state' →
      0 ≤ state.fd → state.fd = state'.fd → d = d' := by
  have hspoken : SpokenFor b.server :=
    h.invariant (I := fun b => SpokenFor b.server)
      (fun b₀ h₀ d state hstate _ => by rw [h₀.runtimeTable] at hstate; cases hstate)
      fun _ _ _ hs hstep => spokenFor_next hs hstep
  intro d d' state state' hstate hstate' hlive hsame
  obtain ⟨msg, hmem, hsrc⟩ := hspoken d state hstate hlive
  obtain ⟨msg', hmem', hsrc'⟩ := hspoken d' state' hstate' (hsame ▸ hlive)
  rw [← hsrc, ← hsrc']
  exact hone _ hmem _ hmem' hsame

/-! ### One client, two names -/

/-- The bytes of a message to ipcd with no payload. -/
def plainFrame (src : IpcDaemon) (cmd : IpcCmd) : Bytes :=
  IpcCodec.encode ⟨.build src .Ipcd cmd 1 IpcFlag.Request.toFlag, []⟩

namespace Routes

/-- A client connects and says hello as one daemon after the other. -/
def helloAs (daemons : List IpcDaemon) : List Label :=
  [.event { fd := 4, isRecv := true, accepts := [(7, true)] } [], .schedule, .execute [],
    .event { fd := 7, isRecv := true, inbound :=
      { segments := daemons.map fun d => plainFrame d .ClientHello, ending := .again } } []]

/-- ipcd with room to spare, over no text at all. -/
abbrev ipcd : Broker := start 3 4 8 0 0

abbrev bare : Machine Broker Label := machine (fun _ => none) fun _ => []

/-- The routes there are. -/
def routes (b : Broker) : List (IpcDaemon × ℤ) :=
  b.server.runtimeTable.entries.map fun e => (e.1, e.2.fd)

end Routes

open Routes in
theorem routes_injective_hello : ∃ b, bare.exec ipcd (helloAs [.Probed, .Probed]) = some b ∧
    routes b = [(.Probed, 7)] ∧ ∀ d d' state state',
      b.server.runtimeTable.lookup d = some state →
      b.server.runtimeTable.lookup d' = some state' →
      0 ≤ state.fd → state.fd = state'.fd → d = d' := by
  have hend : (bare.exec ipcd (helloAs [.Probed, .Probed])).map
      (fun b => (routes b, b.server.received.map fun m => (m.1, m.2.header.src)))
        = some ([(.Probed, 7)], [(7, .Probed), (7, .Probed)]) := by decide +kernel
  obtain ⟨b, hexec, hb⟩ := Option.map_eq_some_iff.mp hend
  obtain ⟨hroutes, hreceived⟩ := Prod.mk.inj hb
  refine ⟨b, hexec, hroutes, routes_injective
    (Machine.exec_reachable (initial_start 3 4 8 0 0) hexec) fun m hm m' hm' _ => ?_⟩
  have hsrc : ∀ m ∈ b.server.received, m.2.header.src = .Probed := by
    intro m hm
    have hmem := List.mem_map_of_mem (f := fun m => (m.1, m.2.header.src)) hm
    rw [hreceived] at hmem
    simp only [List.mem_cons, List.not_mem_nil, or_false, or_self, Prod.mk.injEq] at hmem
    exact hmem.2
  rw [hsrc m hm, hsrc m' hm']

open Routes in
/-- **Two daemons behind one descriptor**: nothing keeps a connection that speaks
for one daemon from naming another that has no route yet. -/
theorem two_routes : ∃ b, bare.Reachable b ∧
    routes b = [(.Collectord, 7), (.Probed, 7)] := by
  have hend : (bare.exec ipcd (helloAs [.Probed, .Collectord])).map routes
      = some [(.Collectord, 7), (.Probed, 7)] := by decide +kernel
  obtain ⟨b, hexec, hroutes⟩ := Option.map_eq_some_iff.mp hend
  exact ⟨b, Machine.exec_reachable (initial_start 3 4 8 0 0) hexec, hroutes⟩

end Broker

end Pretzel.Ipcd
