import Mathlib.Tactic
import Pretzel.Ipcd.Broker

/-!
The descriptors of ipcd: which of those `accept` has returned are still open.

* `Conserved`: the open ones are those the connections are kept under.
* `Undisturbed`: a step that closes no connection.
* `descriptors_conserved`: while no connection is closed, the descriptors are
  conserved.
* `descriptor_leaked`: `closeConnection` takes a connection out of the table and
  leaves its descriptor open.
-/

namespace Pretzel.Ipcd

open Pretzel.Ipc Nlohmann Reactive

namespace Broker

variable {parse : Bytes → Option Json} {dump : Json → Bytes}

/-- **Descriptor conservation**: what was accepted and not closed since is what
there is a connection for. -/
def Conserved (b : Broker) : Prop := ∀ fd, fd ∈ b.held ↔ fd ∈ b.server.connections

/-- A step that closes no connection: epoll takes every change of interest, and
the event of a connection is no hang-up, its read part ends with every frame taken
in and its write part with the socket willing. -/
def Undisturbed (b : Broker) : Label → Prop
  | .event ev refused =>
      refused = [] ∧ ∀ conn, b.server.connections.lookup ev.fd = some conn →
        ev.fd ≠ b.server.eventFd → ev.fd ≠ b.server.listenerFd →
        ev.isClose = false ∧
        (ev.isRecv = true →
          (IpcHandler.handleRecv (ingress refused ev.fd) b conn ev.inbound).2.2 = true) ∧
        (ev.isSend = true → ∀ conn',
          (if ev.isRecv then b.handleRecv refused ev.fd ev.inbound
            else b).server.connections.lookup ev.fd = some conn' →
          (IpcHandler.handleSend conn' ev.outbound).2 = true)
  | .schedule => True
  | .execute refused => refused = []

/-- What is sent while epoll takes every change leaves the connections there. -/
lemma mem_egress (s : IpcServer) (msg : IpcMessage Bytes) (g : ℤ) :
    g ∈ (s.egress [] msg).connections ↔ g ∈ s.connections := by
  refine IpcServer.egress_induct (P := fun s' => g ∈ s'.connections ↔ g ∈ s.connections) ?_ ?_
    Iff.rfl msg
  · intro s' fd conn conn' h hconn
    exact (mem_insert_iff hconn).trans h
  · intro s' fd _ hrefused
    cases hrefused

/-- `handleAccept` keeps a connection for each descriptor it does not close. -/
lemma conserved_handleAccept {s : IpcServer} {held : Finset ℤ}
    (h : ∀ fd, fd ∈ held ↔ fd ∈ s.connections) {accepts : List (ℤ × Bool)}
    (hfresh : fresh s held accepts = true) (fd : ℤ) :
    fd ∈ accepted s held accepts ↔ fd ∈ (s.handleAccept accepts).connections := by
  induction accepts generalizing s held with
  | nil => exact h fd
  | cons a accepts ih =>
      obtain ⟨g, addOk⟩ := a
      rw [fresh, Bool.and_eq_true, Bool.and_eq_true, decide_eq_true_eq] at hfresh
      obtain ⟨⟨hnew, -⟩, hrest⟩ := hfresh
      have hnone : g ∉ s.connections := fun hmem => hnew ((h g).mpr hmem)
      rw [IpcServer.handleAccept, accepted]
      split at hrest
      · next hmax =>
          rw [if_pos hmax, if_pos hmax]
          exact ih h hrest
      next hmax =>
      rw [if_neg hmax, if_neg hmax]
      split at hrest
      · next hadd =>
          rw [if_pos hadd, if_pos hadd]
          exact ih h hrest
      next hadd =>
      have hone : s.handleAccept [(g, addOk)] = { s with
          connections := s.connections.insert g
            (IpcConnection.new g s.rxBufferSize s.txBufferSize) } := by
        rw [IpcServer.handleAccept, if_neg hmax, if_neg hadd, if_neg hnone]
        rfl
      rw [hone] at hrest
      rw [if_neg hadd, if_neg hadd, if_neg hnone, hone]
      refine ih (fun x => ?_) hrest
      rw [Finset.mem_insert, AList.mem_insert, h x]

/-- A read event that ends with the connection kept leaves every one there. -/
lemma conserved_handleRecv {b : Broker} (h : Conserved b) {fd : ℤ} {conn : IpcConnection}
    (hconn : b.server.connections.lookup fd = some conn) {inbound : Inbound}
    (hread : (IpcHandler.handleRecv (ingress [] fd) b conn inbound).2.2 = true) :
    Conserved (b.handleRecv [] fd inbound) := by
  obtain ⟨b', hkeys, hheld, -, hresult⟩ := @handleRecv_induct []
    (fun s => ∀ g, g ∈ s.connections ↔ g ∈ b.server.connections) fd
    (fun hs _ => hs)
    (fun hs hconn g => (mem_insert_iff hconn).trans (hs g))
    (fun _ hrefused => by cases hrefused) b (fun _ => Iff.rfl) inbound
  rcases hresult with hkept | ⟨-, hclosed⟩
  · intro g
    rw [hkept, hheld, h g, hkeys g]
  · rw [hclosed conn hconn] at hread
    cases hread

/-- A write event that ends with the connection kept leaves every one there. -/
lemma conserved_handleSend {b : Broker} (h : Conserved b) {fd : ℤ}
    {outbound : IpcHandler.Outbound}
    (hwrite : ∀ conn, b.server.connections.lookup fd = some conn →
      (IpcHandler.handleSend conn outbound).2 = true) : Conserved (b.handleSend fd outbound) := by
  intro g
  rw [handleSend]
  rcases handleSend_cases b.server fd outbound with ⟨-, hsame⟩ | ⟨conn, hconn, hkept | ⟨hfail, -⟩⟩
  · rw [hsame]
    exact h g
  · rw [hkept]
    exact (h g).trans (mem_insert_iff hconn).symm
  · rw [hwrite conn hconn] at hfail
    cases hfail

/-- One event. -/
lemma conserved_handleEvent {b : Broker} (h : Conserved b) {ev : EpollEvent} {refused : List ℤ}
    (hfresh : ev.fd = b.server.listenerFd → fresh b.server b.held ev.accepts = true)
    (hok : Undisturbed b (.event ev refused)) : Conserved (b.handleEvent refused ev) := by
  obtain ⟨rfl, hquiet⟩ := hok
  rw [handleEvent]
  split
  · exact h
  next hevent =>
  split
  · next hlistener =>
      split
      · exact h
      split
      · exact fun fd => conserved_handleAccept h (hfresh hlistener) fd
      · exact h
  next hlistener =>
  split
  · exact h
  next conn hconn =>
  obtain ⟨hclose, hrecv, hsend⟩ := hquiet conn hconn hevent hlistener
  rw [hclose, if_neg Bool.false_ne_true]
  have hread : Conserved (if ev.isRecv then b.handleRecv [] ev.fd ev.inbound else b) := by
    split
    · next hisRecv => exact conserved_handleRecv h hconn (hrecv hisRecv)
    · exact h
  dsimp only
  split
  · next hisSend => exact conserved_handleSend hread (hsend hisSend)
  · exact hread

/-- **While no connection is closed, the descriptors are conserved.** -/
theorem descriptors_conserved {b₀ b : Broker} {tr : List (Broker × Label)}
    (h₀ : (machine parse dump).init b₀) (hrun : (machine parse dump).Run b₀ tr b)
    (hok : ∀ p ∈ tr, Undisturbed p.1 p.2) : ∀ fd, fd ∈ b.held ↔ fd ∈ b.server.connections := by
  have hinit : Conserved b₀ := by
    intro fd
    rw [h₀.held, h₀.connections]
    simp
  refine hrun.invariant_of_forall (I := Conserved) hinit ?_ hok
  intro t l t' h hquiet hstep
  rcases next_cases hstep with ⟨ev, refused, rfl, rfl, hfresh⟩ | ⟨executing, rfl⟩ |
    ⟨refused, event, eventQueue, rfl, -, hhandled⟩ | ⟨refused, actionQueue, msg, rfl, -, rfl⟩
  · exact conserved_handleEvent h hfresh hquiet
  · exact h
  · rcases handleBootstrapEvent_cases hhandled with ⟨actions, rfl⟩ | ⟨-, version, rfl⟩
    · exact h
    · exact h
  · obtain rfl : refused = [] := hquiet
    exact fun fd => (h fd).trans (mem_egress _ msg fd).symm

/-! ### Two clients -/

namespace Descriptors

/-- Two clients connect, one of them where no room is left. -/
def full : List Label :=
  [.event { fd := 4, isRecv := true, accepts := [(7, true), (8, true)] } [],
    .schedule, .execute []]

/-- A client connects and hangs up. -/
def hangUp : List Label :=
  [.event { fd := 4, isRecv := true, accepts := [(7, true)] } [],
    .schedule, .execute [],
    .event { fd := 7, isClose := true } []]

/-- ipcd, with room for one connection. -/
abbrev ipcd : Broker := start 3 4 1 0 0

/-- No text at all. -/
abbrev bare : Machine Broker Label := machine (fun _ => none) fun _ => []

end Descriptors

/-- A step that only accepts, or that nothing is sent in. -/
def Descriptors.quiet (p : Broker × Label) : Bool :=
  match p.2 with
  | .event ev refused => refused = [] && ev.fd = p.1.server.listenerFd
  | .schedule => true
  | .execute refused => refused = []

lemma Descriptors.undisturbed_of_quiet {p : Broker × Label} (h : Descriptors.quiet p = true) :
    Undisturbed p.1 p.2 := by
  obtain ⟨b, l⟩ := p
  cases l with
  | event ev refused =>
      rw [quiet, Bool.and_eq_true, decide_eq_true_eq, decide_eq_true_eq] at h
      exact ⟨h.1, fun _ _ _ hlistener => absurd h.2 hlistener⟩
  | schedule => trivial
  | execute refused =>
      rw [quiet, decide_eq_true_eq] at h
      exact h

open Descriptors in
theorem descriptors_conserved_full : ∃ b, bare.exec ipcd full = some b ∧ b.held = {7} ∧
    ∀ fd, fd ∈ b.held ↔ fd ∈ b.server.connections := by
  have hend : (bare.exec ipcd full).map Broker.held = some {7} := by decide +kernel
  have hquiet : (bare.trace ipcd full).all quiet = true := by decide +kernel
  obtain ⟨b, hexec, hheld⟩ := Option.map_eq_some_iff.mp hend
  exact ⟨b, hexec, hheld, descriptors_conserved (initial_start 3 4 1 0 0) (Machine.exec_run hexec)
    fun p hp => undisturbed_of_quiet (List.all_eq_true.mp hquiet p hp)⟩

open Descriptors in
/-- **A descriptor that leaks**: the client has hung up, its connection is gone,
and nothing has closed the descriptor. -/
theorem descriptor_leaked : ∃ b, bare.Reachable b ∧ 7 ∈ b.held ∧ 7 ∉ b.server.connections := by
  have hend : (bare.exec ipcd hangUp).map
      (fun b => decide (7 ∈ b.held ∧ 7 ∉ b.server.connections)) = some true := by decide +kernel
  obtain ⟨b, hexec, hleft⟩ := Option.map_eq_some_iff.mp hend
  exact ⟨b, Machine.exec_reachable (initial_start 3 4 1 0 0) hexec, of_decide_eq_true hleft⟩

end Broker

end Pretzel.Ipcd
