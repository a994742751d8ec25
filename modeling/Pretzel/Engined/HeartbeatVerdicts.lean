import Pretzel.Engined.HeartbeatRounds

/-!
Whom the result of a round states alive.

* `HeardIn`: a step that hears a daemon in a round. The response may answer the
  request of that round or of an earlier one: nothing in it tells.
* `Verdicts`: who is alive was heard. `verdict_of_round`: in the result of a round
  it was heard in that round; `late_answer_counts`: to an earlier request.
-/

namespace Pretzel.Engined.HeartbeatService

open Nlohmann Ipc Reactive RollCall

/-- The step handles a response of a daemon that still waits, in the given round. -/
structure HeardIn (d : IpcDaemon) (r : ℕ) (request : Option ℕ) (p : State × Label) : Prop where
  handles : ∃ now nowMs rest, p.2 = .execute now nowMs ∧ p.1.executing = true ∧
    p.1.eventQueue = .ReceiveHeartbeatResponse d request :: rest
  waits : ∃ e, entryOf d p.1.service.daemonMap = some e ∧ e.pending = true
  round : p.1.round = r
  active : p.1.service.roundActive = true
  known : ∀ q, request = some q → q ≤ r

/-- The daemon was heard in the round. -/
def Heeded (tr : List (State × Label)) (d : IpcDaemon) (r : ℕ) : Prop :=
  ∃ p ∈ tr, ∃ request, HeardIn d r request p

/-- The daemon answered the request that was sent in the round. -/
def Answered (tr : List (State × Label)) (d : IpcDaemon) (r : ℕ) : Prop :=
  ∃ p ∈ tr, p.2 = .receive d (some r)

/-- What a run has behind its verdicts. -/
structure Verdicts (tr : List (State × Label)) (s : State) : Prop where
  alive : ∀ p ∈ s.service.daemonMap, p.2.alive = true → Heeded tr p.1 s.round
  posted : ∀ doc, Action.SendHeartbeatResult doc ∈ s.actionQueue → ∀ d ∈ targets,
    aliveIn doc d = true → Heeded tr d s.round
  sent : ∀ r doc, (r, doc) ∈ s.results → ∀ d ∈ targets, aliveIn doc d = true → Heeded tr d r
  requests : ∀ r d, (r, d) ∈ s.requests → r ≤ s.round
  queued : ∀ d r, Event.ReceiveHeartbeatResponse d (some r) ∈ s.eventQueue →
    r ≤ s.round ∧ Answered tr d r

section Steps

variable {tr : List (State × Label)} {s s' : State} {l : Label} {d : IpcDaemon} {r : ℕ}

lemma Heeded.snoc (h : Heeded tr d r) : Heeded (tr ++ [(s, l)]) d r := by
  obtain ⟨p, hp, request, hheard⟩ := h
  exact ⟨p, List.mem_append_left _ hp, request, hheard⟩

lemma Answered.snoc (h : Answered tr d r) : Answered (tr ++ [(s, l)]) d r := by
  obtain ⟨p, hp, hreceive⟩ := h
  exact ⟨p, List.mem_append_left _ hp, hreceive⟩

/-- A step that changes neither the entries nor what is on its way. -/
lemma Verdicts.of_same (h : Verdicts tr s)
    (hmap : ∀ p ∈ s'.service.daemonMap, p.2.alive = true →
      ∃ e, (p.1, e) ∈ s.service.daemonMap ∧ e.alive = true)
    (hactions : ∀ doc, Action.SendHeartbeatResult doc ∈ s'.actionQueue →
      Action.SendHeartbeatResult doc ∈ s.actionQueue)
    (hevents : ∀ d r, Event.ReceiveHeartbeatResponse d (some r) ∈ s'.eventQueue →
      Event.ReceiveHeartbeatResponse d (some r) ∈ s.eventQueue)
    (hresults : s'.results = s.results)
    (hrequests : ∀ r d, (r, d) ∈ s'.requests → r ≤ s.round) (hround : s'.round = s.round) :
    Verdicts (tr ++ [(s, l)]) s' := by
  refine ⟨?_, ?_, ?_, ?_, ?_⟩
  · intro p hp halive
    obtain ⟨e, he, halive⟩ := hmap p hp halive
    rw [hround]
    exact (h.alive (p.1, e) he halive).snoc
  · intro doc hdoc d hd halive
    rw [hround]
    exact (h.posted doc (hactions doc hdoc) d hd halive).snoc
  · intro r doc hdoc d hd halive
    rw [hresults] at hdoc
    exact (h.sent r doc hdoc d hd halive).snoc
  · intro r d hsent
    rw [hround]
    exact hrequests r d hsent
  · intro d r hqueued
    obtain ⟨hle, hanswered⟩ := h.queued d r (hevents d r hqueued)
    rw [hround]
    exact ⟨hle, hanswered.snoc⟩

/-- The history alone is longer. -/
lemma Verdicts.snoc (h : Verdicts tr s) : Verdicts (tr ++ [(s, l)]) s :=
  h.of_same (fun p hp hlives => ⟨p.2, hp, hlives⟩) (fun _ => id) (fun _ _ => id) rfl h.requests rfl

/-- A response handled. -/
lemma verdicts_heard {now : ℤ} (nowMs : ℤ) {src : IpcDaemon} {request : Option ℕ} {rest : List Event}
    {x : HeartbeatService × Posts} (hc : Counted s) (h : Verdicts tr s)
    (hphase : s.executing = true)
    (hevents : s.eventQueue = .ReceiveHeartbeatResponse src request :: rest)
    (hx : Heard now src s.service x) :
    Verdicts (tr ++ [(s, .execute now nowMs)])
      { s with service := x.1, eventQueue := rest ++ x.2.1,
               actionQueue := s.actionQueue ++ x.2.2 } := by
  have hqueue : ∀ e, e ∈ rest → e ∈ s.eventQueue := by
    intro e he
    rw [hevents]
    exact List.mem_cons_of_mem _ he
  have hlonger : Verdicts (tr ++ [(s, .execute now nowMs)]) s := h.snoc
  -- one that answers is heard in this step
  have hheeded : ∀ e, entryOf src s.service.daemonMap = some e → e.pending = true →
      Heeded (tr ++ [(s, .execute now nowMs)]) src s.round := by
    intro e he hpending
    have hwaits : 0 < stillPending s.service := waiting_pos he hpending
    have hactive : s.service.roundActive = true := by
      by_contra hidle
      have hnone := hc.idle (Bool.not_eq_true _ ▸ hidle)
      omega
    refine ⟨(s, .execute now nowMs), by simp, request, ?_⟩
    refine ⟨⟨now, nowMs, rest, rfl, hphase, hevents⟩, ⟨e, he, hpending⟩, rfl, hactive, ?_⟩
    rintro q rfl
    exact (h.queued src q (by simp [hevents])).1
  have halive : ∀ e, entryOf src s.service.daemonMap = some e → e.pending = true →
      ∀ p ∈ update src (answered now) s.service.daemonMap, p.2.alive = true →
        Heeded (tr ++ [(s, .execute now nowMs)]) p.1 s.round := by
    intro e he hpending p hp hlives
    rcases mem_update hp with ⟨-, hp⟩ | ⟨hkey, -⟩
    · exact hlonger.alive p hp hlives
    · rw [hkey]
      exact hheeded e he hpending
  cases hx with
  | ignored _ =>
      refine h.of_same (fun p hp hlives => ⟨p.2, hp, hlives⟩) (fun doc hdoc => by simpa using hdoc)
        (fun d r hr => hqueue _ (by simpa using hr)) rfl h.requests rfl
  | answer e he hpending hcount =>
      refine ⟨halive e he hpending, ?_, hlonger.sent, h.requests, ?_⟩
      · intro doc hdoc
        exact hlonger.posted doc (by simpa using hdoc)
      · intro d r hqueued
        exact hlonger.queued d r (hqueue _ (by simpa using hqueued))
  | last e he hpending hcount =>
      refine ⟨halive e he hpending, ?_, hlonger.sent, h.requests, ?_⟩
      · intro doc hdoc
        exact hlonger.posted doc (by simpa using hdoc)
      · intro d r hqueued
        exact hlonger.queued d r (hqueue _ (by simpa using hqueued))

/-- Who is stated alive in the result of the round was heard in it. -/
lemma heeded_of_aliveIn {nowMs : ℤ} (h : Verdicts tr s) (hd : d ∈ targets)
    (halive : aliveIn (s.service.buildResultJson nowMs) d = true) : Heeded tr d s.round := by
  obtain ⟨e, he, hlives⟩ := (aliveIn_buildResultJson hd).mp halive
  exact h.alive (d, e) (mem_of_entryOf he) hlives

/-- Every step has what is behind its verdicts. -/
lemma verdicts_step (hc : Counted s) (h : Verdicts tr s) (hstep : Step s l s') :
    Verdicts (tr ++ [(s, l)]) s' := by
  have hlonger : Verdicts (tr ++ [(s, l)]) s := h.snoc
  cases hstep with
  | receive src request hphase hsent =>
      refine ⟨hlonger.alive, hlonger.posted, hlonger.sent, h.requests, ?_⟩
      intro d r hqueued
      rcases List.mem_append.mp hqueued with hqueued | hnew
      · exact hlonger.queued d r hqueued
      · rw [List.mem_singleton, Event.ReceiveHeartbeatResponse.injEq] at hnew
        obtain ⟨rfl, rfl⟩ := hnew
        refine ⟨h.requests r d (hsent r rfl), ?_⟩
        exact ⟨(s, .receive d (some r)), by simp, rfl⟩
  | notReady now hb hphase =>
      exact h.of_same (fun p hp hlives => ⟨p.2, hp, hlives⟩) (fun _ => id) (fun _ _ => id) rfl
        h.requests rfl
  | schedule now hb service e hphase hs =>
      refine h.of_same ?_ (fun _ => id) ?_ rfl h.requests rfl
      · intro p hp hlives
        cases hs with
        | timeout t hactive ht hover =>
            obtain ⟨q, hq, rfl⟩ := List.mem_map.mp hp
            split at hlives
            · cases hlives
            · next hpending =>
                rw [if_neg hpending]
                exact ⟨q.2, hq, hlives⟩
        | waits t hactive ht hover => exact ⟨p.2, hp, hlives⟩
        | poll hactive => exact ⟨p.2, hp, hlives⟩
        | idle hactive => exact ⟨p.2, hp, hlives⟩
      · intro d r hqueued
        rcases List.mem_append.mp hqueued with hqueued | hnew
        · exact hqueued
        · cases hs <;> simp at hnew
  | event now nowMs e rest hphase hevents =>
      have hqueue : ∀ e, e ∈ rest → e ∈ s.eventQueue := by
        intro e he
        rw [hevents]
        exact List.mem_cons_of_mem _ he
      cases e with
      | SendHeartbeatRequests =>
          -- nothing is owed when a round begins, so no result of the last one is on its way
          have hone := hc.one
          have hstarts : starts .SendHeartbeatRequests = true := rfl
          rw [due, hevents, List.countP_cons, if_pos hstarts] at hone
          have hnone : s.actionQueue.countP yields = 0 := by omega
          refine ⟨?_, ?_, hlonger.sent, ?_, ?_⟩
          · intro p hp hlives
            obtain ⟨q, -, rfl⟩ := List.mem_map.mp hp
            cases hlives
          · intro doc hdoc d hd hlives
            rcases List.mem_append.mp hdoc with hdoc | hdoc
            · exact absurd rfl (List.countP_eq_zero.mp hnone _ hdoc)
            · obtain ⟨q, -, hq⟩ := List.mem_map.mp hdoc
              cases hq
          · intro r d hsent
            exact Nat.le_succ_of_le (h.requests r d hsent)
          · intro d r hqueued
            obtain ⟨hle, hanswered⟩ := hlonger.queued d r (hqueue _
              (by simpa [dispatch, handleEvent, beginRound] using hqueued))
            exact ⟨Nat.le_succ_of_le hle, hanswered⟩
      | ReceiveHeartbeatResponse src request =>
          have hheard := heard_onHeartbeatResponse now src s.service
          have hkept := verdicts_heard nowMs hc h hphase hevents hheard
          exact hkept
      | SendHeartbeatResult =>
          refine ⟨hlonger.alive, ?_, hlonger.sent, h.requests, ?_⟩
          · intro doc hdoc d hd hlives
            rcases List.mem_append.mp hdoc with hdoc | hdoc
            · exact hlonger.posted doc hdoc d hd hlives
            · rw [List.mem_singleton, Action.SendHeartbeatResult.injEq] at hdoc
              rw [hdoc] at hlives
              exact (heeded_of_aliveIn h hd hlives).snoc
          · intro d r hqueued
            exact hlonger.queued d r (hqueue _ (by simpa [dispatch, handleEvent] using hqueued))
  | action now nowMs a rest hphase hevents hactions =>
      have hqueue : ∀ a, a ∈ rest → a ∈ s.actionQueue := by
        intro a ha
        rw [hactions]
        exact List.mem_cons_of_mem _ ha
      cases a with
      | SendHeartbeatRequest dst =>
          refine h.of_same (fun p hp hlives => ⟨p.2, hp, hlives⟩) (fun doc => hqueue _)
            (fun _ _ => id) rfl ?_ rfl
          intro r d hsent
          rcases List.mem_append.mp hsent with hsent | hnew
          · exact h.requests r d hsent
          · rw [List.mem_singleton, Prod.mk.injEq] at hnew
            exact hnew.1.le
      | SendHeartbeatResult doc =>
          have hposted := h.posted doc (by simp [hactions])
          refine ⟨hlonger.alive, ?_, ?_, h.requests, hlonger.queued⟩
          · intro doc' hdoc
            exact hlonger.posted doc' (hqueue _ hdoc)
          · intro r doc' hdoc d hd hlives
            rcases List.mem_append.mp hdoc with hdoc | hdoc
            · exact hlonger.sent r doc' hdoc d hd hlives
            · rw [List.mem_singleton, Prod.mk.injEq] at hdoc
              obtain ⟨rfl, rfl⟩ := hdoc
              exact (hposted d hd hlives).snoc
  | drained now nowMs hphase hevents hactions =>
      exact h.of_same (fun p hp hlives => ⟨p.2, hp, hlives⟩) (fun _ => id) (fun _ _ => id) rfl
        h.requests rfl

end Steps

lemma run_verdicts {tr : List (State × Label)} {s s' : State} (hinit : heartbeat.init s)
    (hrun : heartbeat.Run s tr s') : Counted s' ∧ Verdicts tr s' := by
  induction hrun with
  | nil =>
      refine ⟨counted_init hinit, ?_⟩
      obtain ⟨order, -, rfl⟩ := hinit
      refine ⟨?_, by rintro doc ⟨⟩, by rintro r doc ⟨⟩, by rintro r d ⟨⟩, by rintro d r ⟨⟩⟩
      intro p hp hlives
      obtain ⟨d, -, rfl⟩ := List.mem_map.mp hp
      cases hlives
  | snoc _ hnext ih =>
      have hstep := step_of_next hnext
      exact ⟨counted_step ih.1 hstep, verdicts_step ih.1 ih.2 hstep⟩

/-- A response handled was received. -/
lemma answered_of_heardIn {tr : List (State × Label)} {s s' : State} (hinit : heartbeat.init s)
    (hrun : heartbeat.Run s tr s') {p : State × Label} (hp : p ∈ tr) {d : IpcDaemon} {r q : ℕ}
    (hheard : HeardIn d r (some q) p) : Answered tr d q := by
  obtain ⟨before, after, rfl⟩ := List.append_of_mem hp
  obtain ⟨t, hbefore, hafter⟩ := hrun.of_append
  obtain ⟨rfl, -⟩ := hafter.of_cons
  obtain ⟨now, nowMs, rest, -, -, hevents⟩ := hheard.handles
  obtain ⟨-, p', hp', hreceive⟩ := (run_verdicts hinit hbefore).2.queued d q (by simp [hevents])
  exact ⟨p', List.mem_append_left _ hp', hreceive⟩

/-- **The verdict of a round**: a daemon that is polled is stated alive in the result
of a round only where it was heard in that round, still waiting, by a response to
the request of this round, of an earlier one, or of none. A response outside a round
changes nothing; and where what is heard in a round answers its own request, a daemon
is stated alive only where it answered the request of the round. -/
theorem verdict_of_round {tr : List (State × Label)} {s s' : State} (hinit : heartbeat.init s)
    (hrun : heartbeat.Run s tr s') :
    (∀ r doc, (r, doc) ∈ s'.results → ∀ d ∈ targets, aliveIn doc d = true → Heeded tr d r) ∧
      (s'.service.roundActive = false →
        ∀ now src, s'.service.onHeartbeatResponse now src = (s'.service, [], [])) ∧
      ((∀ p ∈ tr, ∀ d r request, HeardIn d r request p → request = some r) →
        ∀ r doc, (r, doc) ∈ s'.results → ∀ d ∈ targets, aliveIn doc d = true → Answered tr d r) := by
  obtain ⟨hcounted, hverdicts⟩ := run_verdicts hinit hrun
  refine ⟨hverdicts.sent, fun hidle now src => ?_, fun hown r doc hdoc d hd hlives => ?_⟩
  · have hnone := hcounted.idle hidle
    have hheard := heard_onHeartbeatResponse now src s'.service
    generalize s'.service.onHeartbeatResponse now src = x at hheard
    cases hheard with
    | ignored _ => rfl
    | answer e he hpending hcount =>
        have hwaits : 0 < stillPending s'.service := waiting_pos he hpending
        omega
    | last e he hpending hcount =>
        have hwaits : 0 < stillPending s'.service := waiting_pos he hpending
        omega
  · obtain ⟨p, hp, request, hheard⟩ := hverdicts.sent r doc hdoc d hd hlives
    obtain rfl := hown p hp d r request hheard
    exact answered_of_heardIn hinit hrun hp hheard

namespace Sample

/-- A round that nobody answers, and one in which authd answers the request of the
first. -/
def lateAnswer : List Label :=
  firstRound ++ timeout ++ .schedule true (7 * second) (.obj []) :: drain (7 * second) 8
    ++ .receive .Authd (some 1) :: .schedule true (8 * second) (.obj []) :: drain (8 * second) 2
    ++ .schedule true (10 * second) (.obj []) :: drain (10 * second) 3

lemma exists_lateAnswer : ∃ s doc, heartbeat.exec started lateAnswer = some s ∧
    (2, doc) ∈ s.results ∧ aliveIn doc .Authd = true := by
  have hexec : (heartbeat.exec started lateAnswer).map (fun s =>
      s.results.map fun p => (p.1, aliveIn p.2 .Authd)) = some [(1, false), (2, true)] := by
    decide
  obtain ⟨s, hs, hresults⟩ := Option.map_eq_some_iff.mp hexec
  have hlast : (2, true) ∈ s.results.map fun p => (p.1, aliveIn p.2 .Authd) := by
    rw [hresults]
    decide
  obtain ⟨⟨r, doc⟩, hmem, hp⟩ := List.mem_map.mp hlast
  obtain ⟨rfl, halive⟩ := Prod.mk.inj hp
  exact ⟨s, doc, hs, hmem, halive⟩

end Sample

/-- The daemon that answered late was heard, in the round it is stated alive in. -/
theorem heeded_of_late_answer :
    Heeded (heartbeat.trace Sample.started Sample.lateAnswer) .Authd 2 := by
  obtain ⟨s, doc, hs, hmem, halive⟩ := Sample.exists_lateAnswer
  have hverdict := verdict_of_round Sample.init_started (Machine.exec_run hs)
  exact hverdict.1 2 doc hmem .Authd (by decide) halive

/-- **A late answer counts for the next round**: authd is stated alive in the result of
a round whose request it did not answer. -/
theorem late_answer_counts : ∃ s tr s', heartbeat.init s ∧ heartbeat.Run s tr s' ∧
    ∃ r doc, (r, doc) ∈ s'.results ∧ IpcDaemon.Authd ∈ targets ∧ aliveIn doc .Authd = true ∧
      ¬Answered tr .Authd r := by
  obtain ⟨s, doc, hs, hmem, halive⟩ := Sample.exists_lateAnswer
  refine ⟨Sample.started, _, s, Sample.init_started, Machine.exec_run hs, 2, doc, hmem,
    by decide, halive, ?_⟩
  rintro ⟨p, hp, hreceive⟩
  have hlabel : Label.receive .Authd (some 2) ∈ Sample.lateAnswer := by
    rw [← hreceive]
    exact Machine.label_of_mem_trace hp
  simp [Sample.lateAnswer, Sample.firstRound, Sample.timeout, Sample.drain] at hlabel

end Pretzel.Engined.HeartbeatService
