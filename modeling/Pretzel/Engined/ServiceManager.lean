import Pretzel.Library.Machine
import Pretzel.Engined.ApplyCommit
import Pretzel.Engined.BootstrapService

/-!
`EnginedServiceManager`, `EnginedProcess::tick` and the main loop, as a machine.

A tick polls the IPC client, which posts an event for each frame received; runs
the timers; and then drains the queues, an action only when no event waits. A
handler that throws ends the process, and with it the run.

* `Label`: a frame received, a retried preflight, the timers, one dispatch, the
  end of the drain, and a read of the configuration by any other code, which
  fills the cache when it is empty.
* `engined`: the machine, for a given startup file; `step_of_next` lists its
  steps.
-/

namespace Pretzel.Engined

open Nlohmann Ipc Config Reactive

/-- `EnginedEventFactory::create` of a message, at the domains modelled. -/
def createEvent (msg : IpcMessage Payload) : Option Event :=
  match msg.header.cmd with
  | .ServerHello => some (.bootstrap .ReceiveServerHello)
  | .SyncResponse => some (.bootstrap (.ReceiveSyncResponse msg.payload))
  | .RuntimeStart => some (.bootstrap .ReceiveRuntimeStart)
  | .SettingsCommitRequest => some (.commit (.ReceiveSettingsCommit msg.payload))
  | _ => none

/-- `EnginedRxRouter::handleIpcMessage`. -/
def receive (msg : IpcMessage Payload) (s : EnginedState) : EnginedState :=
  match createEvent msg with
  | some e => s.postEvent e
  | none => s

/-- `EnginedEvent::dispatch`. -/
def dispatchEvent (io : DispatchIO) (s : EnginedState) : Event → EnginedState
  | .bootstrap e => handleBootstrapEvent io.now s e
  | .commit e => handleCommitEvent s e

/-- `EnginedAction::dispatch`. -/
def dispatchAction (file : Option Json) (io : DispatchIO) (s : EnginedState) :
    Action → Except JsonError EnginedState
  | .bootstrap a => .ok (handleBootstrapAction s a)
  | .ApplyCommit => applyCommit file io s

/-- One turn of `EnginedServiceManager::execute`, or the end of its loop. -/
def execute (file : Option Json) (io : DispatchIO) (s : EnginedState) : Option EnginedState :=
  match s.eventQueue, s.actionQueue with
  | e :: rest, _ => some (dispatchEvent io { s with eventQueue := rest } e)
  | [], a :: rest => (dispatchAction file io { s with actionQueue := rest } a).toOption
  | [], [] => some { s with phase := .polling }

/-- `EnginedCore::ensureStorePreflighted`. -/
def ensureStorePreflighted (file : Option Json) (io : SeedIO) (s : EnginedState) : EnginedState :=
  match preflight file s.table io s.config with
  | (table, config, true) =>
      { s with table, config := invalidateConfigCache config, preflighted := true }
  | (table, config, false) => { s with table, config }

/-- The steps of engined. -/
inductive Label where
  | start (io : LoadIO)
  | receive (msg : IpcMessage Payload)
  | readConfig (io : LoadIO)
  | preflight (io : SeedIO)
  | schedule (io : ScheduleIO)
  | execute (io : DispatchIO)

/-- A process that has not started its services: the preflight before the start
made it the seeding process, connected or not. -/
def Fresh (s : EnginedState) : Prop :=
  ∃ tbl dbReady preflighted,
    s = { table := tbl, preflighted, config := { dbReady, seederProcess := true } }

/-- engined, over the given startup file. -/
def engined (file : Option Json) : Machine EnginedState Label where
  init := Fresh
  next s
    | .start io =>
        if s.phase = .starting then some { startBootstrap file io s with phase := .polling }
        else none
    | .receive msg => if s.phase = .polling then some (receive msg s) else none
    | .readConfig io =>
        some { s with config := cachedRunningConfig file s.table io s.config }
    | .preflight io =>
        if s.phase = .polling ∧ s.eventQueue = [] ∧ s.preflighted = false then
          some (ensureStorePreflighted file io s)
        else none
    | .schedule io =>
        if s.phase = .polling then some { schedule io s with phase := .executing } else none
    | .execute io => if s.phase = .executing then execute file io s else none

/-- Everything a step can be, with what it leaves. -/
inductive Step (file : Option Json) (s : EnginedState) : Label → EnginedState → Prop
  | start (io : LoadIO) (hphase : s.phase = .starting) :
      Step file s (.start io) { startBootstrap file io s with phase := .polling }
  | receive (msg : IpcMessage Payload) (e : Event) (hphase : s.phase = .polling)
      (hmsg : createEvent msg = some e) : Step file s (.receive msg) (s.postEvent e)
  | ignore (msg : IpcMessage Payload) (hphase : s.phase = .polling)
      (hmsg : createEvent msg = none) : Step file s (.receive msg) s
  | readConfig (io : LoadIO) :
      Step file s (.readConfig io)
        { s with config := cachedRunningConfig file s.table io s.config }
  | preflight (io : SeedIO) (hphase : s.phase = .polling) (hevents : s.eventQueue = []) :
      Step file s (.preflight io) (ensureStorePreflighted file io s)
  | schedule (io : ScheduleIO) (hphase : s.phase = .polling) :
      Step file s (.schedule io) { Engined.schedule io s with phase := .executing }
  | bootstrapEvent (io : DispatchIO) (e : BootstrapEvent) (rest : List Event)
      (hphase : s.phase = .executing) (hevents : s.eventQueue = .bootstrap e :: rest) :
      Step file s (.execute io) (handleBootstrapEvent io.now { s with eventQueue := rest } e)
  | commitEvent (io : DispatchIO) (e : CommitEvent) (rest : List Event)
      (hphase : s.phase = .executing) (hevents : s.eventQueue = .commit e :: rest) :
      Step file s (.execute io) (handleCommitEvent { s with eventQueue := rest } e)
  | bootstrapAction (io : DispatchIO) (a : BootstrapAction) (rest : List Action)
      (hphase : s.phase = .executing) (hevents : s.eventQueue = [])
      (hactions : s.actionQueue = .bootstrap a :: rest) :
      Step file s (.execute io) (handleBootstrapAction { s with actionQueue := rest } a)
  | applyCommit (io : DispatchIO) (rest : List Action) (s' : EnginedState)
      (hphase : s.phase = .executing) (hevents : s.eventQueue = [])
      (hactions : s.actionQueue = .ApplyCommit :: rest)
      (hok : Engined.applyCommit file io { s with actionQueue := rest } = .ok s') :
      Step file s (.execute io) s'
  | drained (io : DispatchIO) (hphase : s.phase = .executing) (hevents : s.eventQueue = [])
      (hactions : s.actionQueue = []) : Step file s (.execute io) { s with phase := .polling }

/-- **The steps of engined**, one case each. -/
theorem step_of_next {file : Option Json} {s s' : EnginedState} {l : Label}
    (h : (engined file).next s l = some s') : Step file s l s' := by
  cases l with
  | readConfig io =>
      cases h
      exact .readConfig io
  | execute io =>
      simp only [engined, Option.ite_none_right_eq_some] at h
      obtain ⟨hphase, h⟩ := h
      cases he : s.eventQueue with
      | cons e rest =>
          rw [execute, he] at h
          cases h
          cases e with
          | bootstrap e => exact .bootstrapEvent io e rest hphase he
          | commit e => exact .commitEvent io e rest hphase he
      | nil =>
          cases ha : s.actionQueue with
          | nil =>
              simp only [execute, he, ha, Option.some.injEq] at h
              rw [← h, ← he, ← ha]
              exact .drained io hphase he ha
          | cons a rest =>
              simp only [execute, he, ha] at h
              rw [← he] at h
              cases a with
              | bootstrap a =>
                  cases h
                  exact .bootstrapAction io a rest hphase he ha
              | ApplyCommit =>
                  rw [dispatchAction] at h
                  cases hok : Engined.applyCommit file io { s with actionQueue := rest } with
                  | error e => rw [hok] at h; cases h
                  | ok t =>
                      rw [hok] at h
                      cases h
                      exact .applyCommit io rest _ hphase he ha hok
  | receive msg =>
      simp only [engined, Option.ite_none_right_eq_some, Option.some.injEq] at h
      obtain ⟨hphase, rfl⟩ := h
      rw [Engined.receive]
      cases hmsg : createEvent msg with
      | none => exact .ignore msg hphase hmsg
      | some e => exact .receive msg e hphase hmsg
  | start io =>
      simp only [engined, Option.ite_none_right_eq_some, Option.some.injEq] at h
      obtain ⟨hphase, rfl⟩ := h
      exact .start io hphase
  | preflight io =>
      simp only [engined, Option.ite_none_right_eq_some, Option.some.injEq] at h
      obtain ⟨⟨hphase, hevents, -⟩, rfl⟩ := h
      exact .preflight io hphase hevents
  | schedule io =>
      simp only [engined, Option.ite_none_right_eq_some, Option.some.injEq] at h
      obtain ⟨hphase, rfl⟩ := h
      exact .schedule io hphase

lemma phase_applyCommit {file : Option Json} {io : DispatchIO} {s s' : EnginedState}
    (h : applyCommit file io s = .ok s') : s'.phase = s.phase := by
  rcases applyCommit_cases h with ⟨-, rfl⟩ | ⟨_, -, -, config, rfl, -⟩ | ⟨_, changes, -, -, -, rfl⟩
  · rfl
  · exact (queueOnly_failTask _).phase
  · rfl

/-- Before its start engined only reads its configuration. -/
lemma readConfig_of_starting {file : Option Json} {s s' : EnginedState} {l : Label}
    (h : Step file s l s') (hphase : s'.phase = .starting) :
    ∃ io, s' = { s with config := cachedRunningConfig file s.table io s.config } := by
  cases h with
  | readConfig io => exact ⟨io, rfl⟩
  | start io _ => cases hphase
  | receive msg e h _ =>
      have : s.phase = .starting := hphase
      rw [h] at this
      cases this
  | ignore msg h _ => rw [h] at hphase; cases hphase
  | preflight io h _ =>
      have : (ensureStorePreflighted file io s).phase = s.phase := by
        rw [ensureStorePreflighted]
        split <;> rfl
      rw [this, h] at hphase
      cases hphase
  | schedule io _ => cases hphase
  | bootstrapEvent io e rest h _ =>
      rw [(bootstrapOnly_handleBootstrapEvent _ _ e).1.phase] at hphase
      exact absurd (h.symm.trans hphase) (by simp)
  | commitEvent io e rest h _ =>
      rw [(queueOnly_handleCommitEvent _ e).phase] at hphase
      exact absurd (h.symm.trans hphase) (by simp)
  | bootstrapAction io a rest h _ _ =>
      rw [(bootstrapOnly_handleBootstrapAction _ a).1.phase] at hphase
      exact absurd (h.symm.trans hphase) (by simp)
  | applyCommit io rest _ h _ _ hok =>
      rw [phase_applyCommit hok] at hphase
      exact absurd (h.symm.trans hphase) (by simp)
  | drained io _ _ _ => cases hphase

/-! ### A store, and frames to run on -/

namespace Sample

/-- A process about to start, over a store without rows. -/
def boot : EnginedState := { config := { dbReady := true, seederProcess := true } }

lemma fresh_boot : Fresh boot := ⟨[], true, false, rfl⟩

/-- A database that answers. -/
def up : LoadIO := ⟨true, fun _ => true⟩

/-- A dispatch at the given time over a database that answers and commits. -/
def dispatch (now : ℕ) : DispatchIO := ⟨now, up, ⟨true, true, true, true, true⟩, up⟩

/-- The timers at the given time. -/
def tick (now : ℕ) : ScheduleIO := ⟨now, 1000, 1000, 60000⟩

/-- A frame from ipcd. -/
def fromIpcd (cmd : IpcCmd) (payload : Payload) : IpcMessage Payload :=
  { header := IpcHeader.build .Ipcd .Engined cmd 0 IpcFlag.Response.toFlag, payload }

/-- A change an operator publishes. -/
def change (domain : String) (values : List (String × Json)) : Json :=
  .obj [("domain", .str domain), ("scope", .str "pretzel"), ("values", .obj values)]

/-- A commit as mgmtd sends it. -/
def commitRequest (changes : List Json) : IpcMessage Payload :=
  { header := { src := .Mgmtd, dst := .Engined, cmd := .SettingsCommitRequest,
                flags := IpcFlag.Request.toFlag }
    payload := .json (.arr changes) }

end Sample

end Pretzel.Engined
