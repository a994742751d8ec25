import Mathlib.Tactic
import Mathlib.Data.List.AList
import Pretzel.Ipc.Protocol

/-!
The runtime table of `ipcd/ipc/IpcServerHandler`: which connection speaks for
which daemon.

* `RuntimeState`, `RuntimeTable`: a route and what is known of the daemon behind
  it; a daemon has at most one.
* `bindRoute`, `findRoute`, `removeRoute`, `markRuntimeReady`: the operations.
* `isSome_bindRoute_iff`: a binding is refused exactly when another connection
  holds the route.
-/

namespace Pretzel.Ipcd

open Pretzel.Ipc

/-- `RuntimeState`. -/
structure RuntimeState where
  fd : ℤ := -1
  ready : Bool := false
  generation : UInt32 := 0
  appliedVersion : UInt64 := 0
deriving DecidableEq, Repr

/-- What `removeRoute` does to one entry. -/
def RuntimeState.unbind (fd : ℤ) (state : RuntimeState) : RuntimeState :=
  if state.fd ≠ fd then state else { state with fd := -1, ready := false, appliedVersion := 0 }

/-- `m_runtimeTable`. -/
abbrev RuntimeTable := AList fun _ : IpcDaemon => RuntimeState

namespace RuntimeTable

variable (table : RuntimeTable)

/-- `IpcServerHandler::bindRoute`, `none` where it returns false. -/
def bindRoute (daemon : IpcDaemon) (fd : ℤ) : Option RuntimeTable :=
  match table.lookup daemon with
  | none => some (table.insert daemon { fd, ready := false, generation := 1 })
  | some state =>
      if state.fd = fd then some table
      else if state.fd ≥ 0 ∧ state.fd ≠ fd then none
      else
        some (table.insert daemon
          { fd, ready := false, appliedVersion := 0, generation := state.generation + 1 })

/-- `IpcServerHandler::findRoute`. -/
def findRoute (daemon : IpcDaemon) : ℤ :=
  match table.lookup daemon with
  | none => -1
  | some state => if state.fd < 0 then -1 else state.fd

/-- `IpcServerHandler::removeRoute`. -/
def removeRoute (fd : ℤ) : RuntimeTable where
  entries := table.entries.map fun e => ⟨e.1, RuntimeState.unbind fd e.2⟩
  nodupKeys := table.nodupKeys.map₂ fun _ => RuntimeState.unbind fd

/-- `IpcServerHandler::markRuntimeReady`. -/
def markRuntimeReady (daemon : IpcDaemon) (ready : Bool) (appliedVersion : UInt64) : RuntimeTable :=
  match table.lookup daemon with
  | none => table
  | some state =>
      table.insert daemon { state with
        ready
        appliedVersion := if appliedVersion > 0 then appliedVersion else state.appliedVersion }

variable {table}

lemma lookup_removeRoute (daemon : IpcDaemon) (fd : ℤ) :
    (table.removeRoute fd).lookup daemon
      = (table.lookup daemon).map (RuntimeState.unbind fd) :=
  List.dlookup_map₂ (f := fun _ => RuntimeState.unbind fd) daemon

/-- **A binding is refused exactly when another connection holds the route.** -/
theorem isSome_bindRoute_iff {daemon : IpcDaemon} {fd : ℤ} :
    (table.bindRoute daemon fd).isSome ↔
      ∀ state, table.lookup daemon = some state → state.fd < 0 ∨ state.fd = fd := by
  rw [bindRoute]
  cases hlookup : table.lookup daemon with
  | none => simp
  | some state =>
      dsimp only
      split
      · next heq => simp [heq]
      · next hne =>
          split
          · next hheld =>
              simp only [Option.isSome_none, Bool.false_eq_true, Option.some.injEq, forall_eq',
                false_iff]
              omega
          · next hfree =>
              simp only [Option.isSome_some, Option.some.injEq, forall_eq', true_iff]
              omega

/-- What a binding leaves: the route of the daemon, and the others as they
were. -/
lemma lookup_bindRoute {table' : RuntimeTable} {daemon : IpcDaemon} {fd : ℤ}
    (h : table.bindRoute daemon fd = some table') :
    (∃ state, table'.lookup daemon = some state ∧ state.fd = fd) ∧
      ∀ d, d ≠ daemon → table'.lookup d = table.lookup d := by
  rw [bindRoute] at h
  cases hlookup : table.lookup daemon with
  | none =>
      rw [hlookup] at h
      cases h
      exact ⟨⟨_, AList.lookup_insert _, rfl⟩, fun d hd => AList.lookup_insert_ne hd⟩
  | some state =>
      rw [hlookup] at h
      dsimp only at h
      split at h
      · next heq =>
          cases h
          exact ⟨⟨state, hlookup, heq⟩, fun _ _ => rfl⟩
      · split at h
        · cases h
        · cases h
          exact ⟨⟨_, AList.lookup_insert _, rfl⟩, fun d hd => AList.lookup_insert_ne hd⟩

/-- **What a binding is**: the route the connection has already, or a new one for
a daemon that had none or had lost it. -/
theorem bindRoute_cases {table' : RuntimeTable} {daemon : IpcDaemon} {fd : ℤ}
    (h : table.bindRoute daemon fd = some table') :
    table' = table ∨ ∃ generation, table' = table.insert daemon
        { fd, ready := false, appliedVersion := 0, generation } ∧
      ∀ state, table.lookup daemon = some state →
        state.fd < 0 ∧ generation = state.generation + 1 := by
  rw [bindRoute] at h
  cases hlookup : table.lookup daemon with
  | none =>
      rw [hlookup] at h
      cases h
      exact .inr ⟨1, rfl, fun _ hnone => by cases hnone⟩
  | some state =>
      rw [hlookup] at h
      dsimp only at h
      split at h
      · cases h
        exact .inl rfl
      next hne =>
      split at h
      · cases h
      next hfree =>
      cases h
      refine .inr ⟨state.generation + 1, rfl, fun state' hstate' => ?_⟩
      cases hstate'
      exact ⟨by omega, rfl⟩

/-- A connection that has bound one route may bind the others it could before. -/
lemma isSome_bindRoute_bindRoute {table' : RuntimeTable} {daemon : IpcDaemon} {fd : ℤ}
    (h : table.bindRoute daemon fd = some table') (d : IpcDaemon) :
    (table'.bindRoute d fd).isSome = (table.bindRoute d fd).isSome := by
  obtain ⟨⟨state, hstate, hfd⟩, hothers⟩ := lookup_bindRoute h
  rw [Bool.eq_iff_iff, isSome_bindRoute_iff, isSome_bindRoute_iff]
  by_cases hd : d = daemon
  · subst hd
    have hadmitted : (table.bindRoute d fd).isSome := by rw [h]; rfl
    rw [isSome_bindRoute_iff] at hadmitted
    exact ⟨fun _ => hadmitted, fun _ st hst => .inr (by
      rw [hstate, Option.some.injEq] at hst
      rw [← hst, hfd])⟩
  · rw [hothers d hd]

end RuntimeTable

end Pretzel.Ipcd
