import Mathlib.Tactic
import Pretzel.Ipc.Client
import Pretzel.Ipcd.Server

/-!
The links of the fabric: what a daemon and the broker hear over a connection.

* `FrameStream`: frames that decode, one behind the other, and the part of one
  behind them.
* `client_received_iff`, `server_received_iff`, `received_iff`: every message of
  a stream is heard exactly when every frame of it arrives in time.
* `last_frame_lost`: a frame that comes with the end of the stream does not.
-/

namespace Pretzel.Fleet

open Pretzel.Ipc Pretzel.Ipcd

/-- A stream of frames that decode, and the part of one behind them. -/
structure FrameStream where
  frames : List Bytes
  rest : Bytes
  valid : ∀ f ∈ frames, IpcCodec.Valid f
  cut : ∃ f q, IpcCodec.Valid f ∧ rest ++ q = f ∧ q ≠ []

namespace FrameStream

/-- The bytes of a stream. -/
def bytes (stream : FrameStream) : Bytes := stream.frames.flatten ++ stream.rest

/-- The messages of its frames. -/
def messages (stream : FrameStream) : List (IpcMessage Bytes) :=
  stream.frames.filterMap IpcCodec.message

lemma isFrame (stream : FrameStream) : ∀ f ∈ stream.frames,
    IpcCodec.framing.IsFrame f ∧ (IpcCodec.message f).isSome := fun f hf =>
  ⟨IpcCodec.isFrame_of_decode (stream.valid f hf),
    IpcCodec.isSome_message_iff.mpr (stream.valid f hf)⟩

/-- What is behind the frames never becomes a whole one. -/
lemma incomplete (stream : FrameStream) :
    ∀ p q, p ++ q = stream.rest → IpcCodec.framing.Incomplete p := by
  intro p q hpq
  obtain ⟨f, r, hvalid, hf, hne⟩ := stream.cut
  have hbehind : p ++ (q ++ r) = f := by rw [← List.append_assoc, hpq, hf]
  exact (IpcCodec.isFrame_of_decode hvalid).incomplete hbehind (by simp [hne])

lemma length_rest_lt (stream : FrameStream) : stream.rest.length < IPC_MAX_FRAME_SIZE := by
  obtain ⟨f, r, hvalid, hf, hne⟩ := stream.cut
  have hle := (IpcCodec.length_le_of_decode hvalid).2
  have hpos := List.length_pos_iff.mpr hne
  rw [← hf, List.length_append] at hle
  omega

end FrameStream

/-- The client's loop over a descriptor, with the ring a configuration gives. -/
abbrev clientLink (fd : ℤ) (rxBuf : ℕ) := IpcClient.endpoint fd (max rxBuf IPC_MAX_FRAME_SIZE)

/-- The server's loop, as the connection over a descriptor sees it. -/
abbrev serverLink (fd : ℤ) (rxBuf : ℕ) := IpcServer.endpoint fd (max rxBuf IPC_MAX_FRAME_SIZE)

/-- **What a daemon hears.** -/
theorem client_received_iff (stream : FrameStream) {eventFd fd : ℤ} (hfd : fd ≠ eventFd)
    (rxBuf txBuf : ℕ) {events : List EpollEvent} (hcalm : ∀ ev ∈ events, ev.Calm fd)
    (hbytes : (clientLink fd rxBuf).bytes events = stream.bytes) :
    ((clientLink fd rxBuf).run (.connected eventFd fd rxBuf txBuf) events).received
        = stream.messages ↔
      (clientLink fd rxBuf).InTime (.connected eventFd fd rxBuf txBuf) stream.frames 0 events :=
  (clientLink fd rxBuf).heard_run_iff (le_max_right _ _) stream.incomplete stream.length_rest_lt
    hcalm stream.isFrame (IpcClient.open_connected hfd rxBuf txBuf) hbytes

/-- **What the broker hears** over a connection it has just accepted, whatever
goes on over the others. -/
theorem server_received_iff (stream : FrameStream) {s : IpcServer} {fd : ℤ} (hevent : fd ≠ s.eventFd)
    (hlistener : fd ≠ s.listenerFd) {rxBuf txBuf : ℕ}
    (hconn : s.connections.lookup fd = some (.new fd rxBuf txBuf)) (hheard : s.heard fd = [])
    {events : List EpollEvent} (hcalm : ∀ ev ∈ events, ev.Calm fd)
    (hbytes : (serverLink fd rxBuf).bytes events = stream.bytes) :
    ((serverLink fd rxBuf).run s events).heard fd = stream.messages ↔
      (serverLink fd rxBuf).InTime s stream.frames 0 events := by
  have hopen : (serverLink fd rxBuf).Open s [] := ⟨hevent, hlistener, _, hconn, rfl, rfl⟩
  have hrun := (serverLink fd rxBuf).heard_run_iff (le_max_right _ _) stream.incomplete
    stream.length_rest_lt hcalm stream.isFrame hopen hbytes
  change _ = s.heard fd ++ _ ↔ _ at hrun
  rw [hheard, List.nil_append] at hrun
  exact hrun

/-- **The messages of a stream are heard, all and in order, exactly when every
frame of it arrives in time**: in an event that leaves the ring room for more
than it brings, before the end of the stream, and, at the broker, while no other
connection holds the route it names. -/
theorem received_iff (stream : FrameStream) (rxBuf txBuf : ℕ) {fd : ℤ} {events : List EpollEvent}
    (hcalm : ∀ ev ∈ events, ev.Calm fd)
    (hbytes : (clientLink fd rxBuf).bytes events = stream.bytes) :
    (∀ eventFd, fd ≠ eventFd →
      (((clientLink fd rxBuf).run (.connected eventFd fd rxBuf txBuf) events).received
          = stream.messages ↔
        (clientLink fd rxBuf).InTime (.connected eventFd fd rxBuf txBuf) stream.frames 0
          events)) ∧
    (∀ s : IpcServer, fd ≠ s.eventFd → fd ≠ s.listenerFd →
      s.connections.lookup fd = some (.new fd rxBuf txBuf) → s.heard fd = [] →
      (((serverLink fd rxBuf).run s events).heard fd = stream.messages ↔
        (serverLink fd rxBuf).InTime s stream.frames 0 events)) :=
  ⟨fun _ hfd => client_received_iff stream hfd rxBuf txBuf hcalm hbytes,
    fun _ hevent hlistener hconn hheard =>
      server_received_iff stream hevent hlistener hconn hheard hcalm hbytes⟩

/-! ### One frame -/

/-- The first message of a daemon. -/
def hello : IpcMessage Bytes :=
  { header := IpcHeader.build .Probed .Ipcd .ClientHello 1 0, payload := [] }

/-- A stream of that one message. -/
def helloStream : FrameStream where
  frames := [IpcCodec.encode hello]
  rest := []
  valid := by
    intro f hf
    rw [List.mem_singleton.mp hf]
    exact ⟨hello, by decide⟩
  cut := ⟨IpcCodec.encode hello, IpcCodec.encode hello, ⟨hello, by decide⟩, rfl,
    by decide⟩

/-- A broker that has just accepted the connection. -/
def acceptedServer : IpcServer where
  eventFd := 3
  listenerFd := 4
  maxConnections := 16
  rxBufferSize := 1048576
  txBufferSize := 1048576
  connections := AList.insert 7 (.new 7 1048576 1048576) ∅
  runtimeTable := ∅
  received := []

/-- The frame read in two parts, and then the end of the stream. -/
def inTimeEvents : List EpollEvent :=
  [{ fd := 7, isRecv := true
     inbound := { segments := [(IpcCodec.encode hello).take 5], ending := .again } },
   { fd := 7, isRecv := true
     inbound := { segments := [(IpcCodec.encode hello).drop 5], ending := .again } },
   { fd := 7, isClose := true, isRecv := true }]

/-- The frame read with the end of the stream behind it. -/
def endedEvents : List EpollEvent :=
  [{ fd := 7, isRecv := true
     inbound := { segments := [IpcCodec.encode hello], ending := .closed } }]

theorem received_iff_hello :
    ((clientLink 7 1048576).run (.connected 3 7 1048576 1048576) inTimeEvents).received
        = [hello] ∧
      ((serverLink 7 1048576).run acceptedServer inTimeEvents).heard 7 = [hello] := by
  have hcalm : ∀ ev ∈ inTimeEvents, ev.Calm 7 := by
    intro ev hev
    simp only [inTimeEvents, List.mem_cons, List.not_mem_nil, or_false] at hev
    rcases hev with rfl | rfl | rfl <;> exact ⟨by simp, rfl, by simp⟩
  have hbytes : (clientLink 7 1048576).bytes inTimeEvents = helloStream.bytes := by
    decide +kernel
  have hmessages : helloStream.messages = [hello] := by decide +kernel
  obtain ⟨hclient, hserver⟩ := received_iff helloStream 1048576 1048576 hcalm hbytes
  rw [hmessages] at hclient hserver
  exact ⟨(hclient 3 (by decide)).mpr (by decide +kernel),
    (hserver acceptedServer (by decide) (by decide) (AList.lookup_insert _) rfl).mpr
      (by decide +kernel)⟩

/-- **A frame that comes with the end of the stream is not heard**: the client
gives the connection up over the end before it looks at what it has read. -/
theorem last_frame_lost :
    (∀ ev ∈ endedEvents, ev.Calm 7) ∧
    (clientLink 7 1048576).bytes endedEvents = helloStream.bytes ∧
    helloStream.messages = [hello] ∧
    ((clientLink 7 1048576).run (.connected 3 7 1048576 1048576) endedEvents).received = [] := by
  refine ⟨?_, by decide +kernel, by decide +kernel, by decide +kernel⟩
  intro ev hev
  rw [List.mem_singleton.mp hev]
  exact ⟨by simp, rfl, by simp⟩

end Pretzel.Fleet
