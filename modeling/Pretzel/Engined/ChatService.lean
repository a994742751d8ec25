import Pretzel.Config.LocalUsers
import Pretzel.Ipc.Protocol
import Pretzel.Library.Machine

/-!
engined's store of the assistant's conversations
(`engined/service/chat/ChatService.cpp`).

* `ChatSession`, `ChatMessage`, `ChatStore`: the rows, and the two tables with the
  accounts they belong to.
* `storeTurn`, `removeSession`, `patchSession`, `pruneIfDue`, `handleEvent`: the
  handler. A JSON type error leaves it, and what was written before stays.
* `TurnInto`, `Swept`: the two ways a message reaches a conversation of somebody
  else. **`others_left_alone`**: there is no third.
* `left_alone_run`: a conversation over a whole run of other people's messages.
-/

namespace Pretzel.Engined

open Nlohmann Ipc Config Reactive

/-! ### The tables -/

/-- A row of `chat_session`. -/
structure ChatSession where
  oid : String
  owner : String
  service : String
  title : String
  model : String
  draft : String
  updatedAt : ℤ
deriving DecidableEq

/-- A row of `chat_message`: behind its place, its columns as they are bound. -/
structure ChatMessage where
  oid : String
  session : String
  seq : ℤ
  columns : List String
deriving DecidableEq

/-- The place in the conversation, which is unique. -/
def ChatMessage.place (m : ChatMessage) : Option (String × ℤ) := some (m.session, m.seq)

/-- `chat_session` has no second unique column. -/
def ChatSession.unique (_ : ChatSession) : Option Unit := none

/-- The two tables, the oids of `local_users` they refer to, and the time of the
last sweep. -/
structure ChatStore where
  accounts : List String
  sessions : KeyedTable.Table ChatSession.oid ChatSession.unique
  messages : KeyedTable.Table ChatMessage.oid ChatMessage.place
  lastPrune : ℤ := 0

/-- What one message meets: whether the database carries out the statement about
the session, the one about the `i`-th message, and the sweep; its clock, and the
steady clock. -/
structure ChatIO where
  session : Bool
  message : ℕ → Bool
  pruned : Bool
  now : ℤ
  steady : ℤ

/-- `kRetentionDays`, in seconds. -/
def retention : ℤ := 30 * 24 * 3600

/-- `kPruneInterval`, in seconds. -/
def kPruneInterval : ℤ := 6 * 3600

namespace ChatStore

variable (s : ChatStore)

/-- `DELETE FROM chat_session`, with the messages that go with it. -/
def deleteSessions (gone : ChatSession → Bool) : ChatStore :=
  { s with
    sessions := s.sessions.retain fun r => !gone r
    messages := s.messages.retain fun m =>
      !s.sessions.rows.any fun r => r.oid = m.session && gone r }

/-- The upsert of `storeTurn`, unless the owner of a new row is no account. -/
def upsertSession (row : ChatSession) : Option ChatStore :=
  match s.sessions.rows.find? fun r => r.oid = row.oid with
  | some r =>
      some { s with
        sessions := s.sessions.upsert
          { r with title := row.title, model := row.model, draft := row.draft,
                   updatedAt := row.updatedAt } }
  | none =>
      if row.owner ∈ s.accounts then some { s with sessions := s.sessions.upsert row } else none

/-! ### The handler -/

/-- The columns of a message, as they are bound. -/
def messageColumns (dump : Json → String) (m : Json) : List String :=
  let ok := match m.find? "ok" with
    | some (.bool b) => toString b
    | _ => ""
  let latency := match m.find? "latency_ms" with
    | some v => if v.isNumber then (v.getInt32.toOption.map toString).getD "" else ""
    | none => ""
  let scan := match m.find? "scan" with
    | none | some .null => ""
    | some v => dump v
  [m.textOr "role" "", m.textOr "content" "", m.textOr "model" "", ok, m.textOr "code" "", latency,
    scan].map cStr

/-- The loop over the messages of a turn, from the `i`-th on. -/
def storeMessages (dump : Json → String) (io : ChatIO) (session : String) :
    ℕ → List Json → ChatStore → ChatStore × Except JsonError Unit
  | _, [], s => (s, .ok ())
  | i, m :: rest, s =>
      if !m.isObject || m.textOr "oid" "" = "" then storeMessages dump io session (i + 1) rest s
      else
        match m.valueInt32 "seq" 0 with
        | .error e => (s, .error e)
        | .ok seq =>
            let row : ChatMessage :=
              { oid := cStr (m.textOr "oid" ""), session := cStr session, seq,
                columns := messageColumns dump m }
            storeMessages dump io session (i + 1) rest
              (if io.message i then { s with messages := s.messages.insertNew row } else s)

/-- `ChatService::storeTurn`. -/
def storeTurn (dump : Json → String) (io : ChatIO) (root : Json) : ChatStore × Except JsonError Unit :=
  let session := root.textOr "session" ""
  let owner := root.textOr "owner" ""
  if session = "" || owner = "" then (s, .ok ())
  else
    let row : ChatSession :=
      { oid := cStr session, owner := cStr owner, service := cStr (root.textOr "service" ""),
        title := cStr (root.textOr "title" ""), model := cStr (root.textOr "model" ""),
        draft := cStr (root.textOr "draft" ""), updatedAt := io.now }
    match if io.session then s.upsertSession row else none with
    | none => (s, .ok ())
    | some s =>
        match root.valueJson "messages" (.arr []) with
        | .error e => (s, .error e)
        | .ok messages => storeMessages dump io session 0 messages.elements s

/-- `ChatService::removeSession`. -/
def removeSession (io : ChatIO) (root : Json) : ChatStore :=
  let session := root.textOr "session" ""
  let owner := root.textOr "owner" ""
  if session = "" || owner = "" then s
  else if io.session then s.deleteSessions fun r => r.oid = cStr session && r.owner = cStr owner
  else s

/-- `ChatService::patchSession`. -/
def patchSession (io : ChatIO) (root : Json) : ChatStore :=
  let session := root.textOr "session" ""
  let owner := root.textOr "owner" ""
  if session = "" || owner = "" then s
  else if io.session then
    match s.sessions.rows.find? fun r => r.oid = cStr session && r.owner = cStr owner with
    | none => s
    | some r =>
        { s with
          sessions := s.sessions.upsert
            { r with title := cStr (root.textOr "title" ""), draft := cStr (root.textOr "draft" "") } }
  else s

/-- Whether the sweep is due. -/
def pruneDue (io : ChatIO) : Bool := s.lastPrune = 0 || kPruneInterval ≤ io.steady - s.lastPrune

/-- A conversation past the window. -/
def expired (io : ChatIO) (r : ChatSession) : Bool := r.updatedAt < io.now - retention

/-- `ChatService::pruneIfDue`. -/
def pruneIfDue (io : ChatIO) : ChatStore :=
  if s.pruneDue io then
    let s := { s with lastPrune := io.steady }
    if io.pruned then s.deleteSessions (expired io) else s
  else s

/-- `ChatService::handleEvent`, of a `ChatTurnStore`. -/
def handleEvent (dump : Json → String) (io : ChatIO) (payload : Payload) :
    ChatStore × Except JsonError Unit :=
  match payload with
  | .empty | .malformed => (s, .ok ())
  | .json root =>
      match root.valueBool "delete" false with
      | .error e => (s, .error e)
      | .ok true => ((s.removeSession io root).pruneIfDue io, .ok ())
      | .ok false =>
          match root.valueBool "patch" false with
          | .error e => (s, .error e)
          | .ok true => ((s.patchSession io root).pruneIfDue io, .ok ())
          | .ok false =>
              match s.storeTurn dump io root with
              | (s, .error e) => (s, .error e)
              | (s, .ok ()) => (s.pruneIfDue io, .ok ())

/-! ### What is left alone -/

/-- The conversation is as it was, and so are its messages. -/
structure LeftAlone (s s' : ChatStore) (row : ChatSession) : Prop where
  session : row ∈ s'.sessions.rows
  messages : ∀ m : ChatMessage, m.session = row.oid →
    (m ∈ s'.messages.rows ↔ m ∈ s.messages.rows)

variable {s} {s' s'' : ChatStore} {row : ChatSession} {io : ChatIO} {dump : Json → String}

lemma LeftAlone.refl (h : row ∈ s.sessions.rows) : LeftAlone s s row := ⟨h, fun _ _ => Iff.rfl⟩

lemma LeftAlone.trans (h : LeftAlone s s' row) (h' : LeftAlone s' s'' row) :
    LeftAlone s s'' row := by
  refine ⟨h'.session, fun m hm => ?_⟩
  rw [h'.messages m hm, h.messages m hm]

/-- A conversation is known by its oid. -/
lemma eq_of_oid {r : ChatSession} (hr : r ∈ s.sessions.rows) (hrow : row ∈ s.sessions.rows)
    (h : r.oid = row.oid) : r = row := List.inj_on_of_nodup_map s.sessions.keys hr hrow h

lemma leftAlone_deleteSessions {gone : ChatSession → Bool} (hrow : row ∈ s.sessions.rows)
    (hgone : gone row = false) : LeftAlone s (s.deleteSessions gone) row := by
  constructor
  · simp [deleteSessions, KeyedTable.Table.retain, hrow, hgone]
  · intro m hm
    have hkept : (s.sessions.rows.any fun r => r.oid = m.session && gone r) = false := by
      rw [List.any_eq_false]
      intro r hr
      rw [Bool.and_eq_true, decide_eq_true_eq, not_and]
      intro hoid
      rw [eq_of_oid hr hrow (hoid.trans hm), hgone]
      exact Bool.false_ne_true
    simp [deleteSessions, KeyedTable.Table.retain, hkept]

lemma leftAlone_upsert {r : ChatSession} (hrow : row ∈ s.sessions.rows) (hne : row.oid ≠ r.oid) :
    LeftAlone s { s with sessions := s.sessions.upsert r } row :=
  ⟨(KeyedTable.Table.mem_upsert_of_ne hne).mpr hrow, fun _ _ => Iff.rfl⟩

lemma leftAlone_upsertSession {r : ChatSession} (hrow : row ∈ s.sessions.rows)
    (hne : row.oid ≠ r.oid) (h : s.upsertSession r = some s') : LeftAlone s s' row := by
  rw [upsertSession] at h
  split at h
  · next q hq =>
      cases h
      have hoid : q.oid = r.oid := by simpa using List.find?_some hq
      exact leftAlone_upsert hrow (hoid ▸ hne)
  · split at h
    · cases h
      exact leftAlone_upsert hrow hne
    · cases h

lemma leftAlone_storeMessages {session : String} (hne : row.oid ≠ cStr session) :
    ∀ (i : ℕ) (ms : List Json) (s : ChatStore), row ∈ s.sessions.rows →
      LeftAlone s (storeMessages dump io session i ms s).1 row
  | _, [], s, hrow => LeftAlone.refl hrow
  | i, m :: rest, s, hrow => by
      rw [storeMessages]
      split
      · exact leftAlone_storeMessages hne (i + 1) rest s hrow
      · split
        · exact LeftAlone.refl hrow
        · next seq _ =>
            refine LeftAlone.trans ?_ (leftAlone_storeMessages hne (i + 1) rest _ ?_)
            · split
              · refine ⟨hrow, fun z hz => ?_⟩
                constructor
                · intro hmem
                  rcases KeyedTable.Table.mem_insertNew hmem with rfl | hmem
                  · exact absurd hz.symm hne
                  · exact hmem
                · exact KeyedTable.Table.mem_insertNew_of_mem
              · exact LeftAlone.refl hrow
            · split <;> exact hrow

lemma leftAlone_storeTurn {root : Json} (hrow : row ∈ s.sessions.rows)
    (hne : row.oid ≠ cStr (root.textOr "session" "")) :
    LeftAlone s (s.storeTurn dump io root).1 row := by
  rw [storeTurn]
  dsimp only
  split
  · exact LeftAlone.refl hrow
  · split
    · exact LeftAlone.refl hrow
    · next s' hstored =>
        have hsession : LeftAlone s s' row := by
          split at hstored
          · exact leftAlone_upsertSession hrow hne hstored
          · cases hstored
        split
        · exact hsession
        · exact hsession.trans (leftAlone_storeMessages hne 0 _ s' hsession.session)

lemma leftAlone_removeSession {root : Json} (hrow : row ∈ s.sessions.rows)
    (hother : row.owner ≠ cStr (root.textOr "owner" "")) :
    LeftAlone s (s.removeSession io root) row := by
  rw [removeSession]
  split
  · exact LeftAlone.refl hrow
  · split
    · exact leftAlone_deleteSessions hrow (by simp [hother])
    · exact LeftAlone.refl hrow

lemma leftAlone_patchSession {root : Json} (hrow : row ∈ s.sessions.rows)
    (hother : row.owner ≠ cStr (root.textOr "owner" "")) :
    LeftAlone s (s.patchSession io root) row := by
  rw [patchSession]
  split
  · exact LeftAlone.refl hrow
  · split
    · split
      · exact LeftAlone.refl hrow
      · next r hr =>
          have hmatch : r.oid = cStr (root.textOr "session" "") ∧
              r.owner = cStr (root.textOr "owner" "") := by simpa using List.find?_some hr
          refine leftAlone_upsert hrow fun hoid => hother ?_
          rw [eq_of_oid hrow (List.mem_of_find?_eq_some hr) hoid]
          exact hmatch.2
    · exact LeftAlone.refl hrow

/-! ### The two ways to a conversation of somebody else -/

/-- Whose message it is. -/
def payloadOwner : Payload → String
  | .empty | .malformed => ""
  | .json root => cStr (root.textOr "owner" "")

/-- The message is a turn in the conversation. -/
def TurnInto (payload : Payload) (row : ChatSession) : Prop :=
  ∃ root, payload = .json root ∧ root.valueBool "delete" false = .ok false ∧
    root.valueBool "patch" false = .ok false ∧ row.oid = cStr (root.textOr "session" "")

/-- The sweep is due, and the conversation is past the window. -/
def Swept (s : ChatStore) (io : ChatIO) (row : ChatSession) : Prop :=
  s.pruneDue io = true ∧ io.pruned = true ∧ expired io row = true

/-- The sweep takes what is past the window, and adds nothing. -/
lemma pruneIfDue_of_leftAlone (hdue : s'.lastPrune = s.lastPrune) (h : LeftAlone s s' row) :
    (¬Swept s io row → LeftAlone s (s'.pruneIfDue io) row) ∧
      ∀ m ∈ (s'.pruneIfDue io).messages.rows, m.session = row.oid → m ∈ s.messages.rows := by
  have hsame : s'.pruneDue io = s.pruneDue io := by rw [pruneDue, pruneDue, hdue]
  rw [pruneIfDue, hsame]
  split
  · next hprune =>
      dsimp only
      split
      · next hdone =>
          constructor
          · intro hnot
            have hlive : expired io row = false := by
              rw [← Bool.not_eq_true]
              exact fun hexpired => hnot ⟨hprune, hdone, hexpired⟩
            have hkept := leftAlone_deleteSessions (s := { s' with lastPrune := io.steady })
              h.session hlive
            exact ⟨hkept.session, fun m hm => (hkept.messages m hm).trans (h.messages m hm)⟩
          · intro m hm hsession
            exact (h.messages m hsession).mp (List.mem_of_mem_filter hm)
      · exact ⟨fun _ => ⟨h.session, h.messages⟩, fun m hm hsession => (h.messages m hsession).mp hm⟩
  · exact ⟨fun _ => h, fun m hm hsession => (h.messages m hsession).mp hm⟩

lemma lastPrune_storeMessages (session : String) : ∀ (i : ℕ) (ms : List Json) (s : ChatStore),
    (storeMessages dump io session i ms s).1.lastPrune = s.lastPrune
  | _, [], s => rfl
  | i, m :: rest, s => by
      rw [storeMessages]
      split
      · exact lastPrune_storeMessages session (i + 1) rest s
      · split
        · rfl
        · rw [lastPrune_storeMessages session (i + 1) rest]
          split <;> rfl

lemma lastPrune_storeTurn {root : Json} : (s.storeTurn dump io root).1.lastPrune = s.lastPrune := by
  rw [storeTurn]
  dsimp only
  split
  · rfl
  · split
    · rfl
    · next s' hstored =>
        have hsame : s'.lastPrune = s.lastPrune := by
          rw [upsertSession] at hstored
          split at hstored
          · split at hstored
            · cases hstored
              rfl
            · split at hstored
              · cases hstored
                rfl
              · cases hstored
          · cases hstored
        split
        · exact hsame
        · rw [lastPrune_storeMessages, hsame]

lemma lastPrune_removeSession {root : Json} :
    (s.removeSession io root).lastPrune = s.lastPrune := by
  rw [removeSession]
  split
  · rfl
  · split <;> rfl

lemma lastPrune_patchSession {root : Json} :
    (s.patchSession io root).lastPrune = s.lastPrune := by
  rw [patchSession]
  split
  · rfl
  · split
    · split <;> rfl
    · rfl

/-- Up to the sweep a message leaves the conversation alone. -/
lemma leftAlone_handleEvent {payload : Payload} (hrow : row ∈ s.sessions.rows)
    (hother : row.owner ≠ payloadOwner payload) (hturn : ¬TurnInto payload row) :
    ∃ s', LeftAlone s s' row ∧ s'.lastPrune = s.lastPrune ∧
      ((s.handleEvent dump io payload).1 = s' ∨
        (s.handleEvent dump io payload).1 = s'.pruneIfDue io) := by
  cases payload with
  | empty => exact ⟨s, LeftAlone.refl hrow, rfl, .inl rfl⟩
  | malformed => exact ⟨s, LeftAlone.refl hrow, rfl, .inl rfl⟩
  | json root =>
      rw [handleEvent]
      split
      · exact ⟨s, LeftAlone.refl hrow, rfl, .inl rfl⟩
      · exact ⟨_, leftAlone_removeSession hrow hother, lastPrune_removeSession, .inr rfl⟩
      · next hdelete =>
          split
          · exact ⟨s, LeftAlone.refl hrow, rfl, .inl rfl⟩
          · exact ⟨_, leftAlone_patchSession hrow hother, lastPrune_patchSession, .inr rfl⟩
          · next hpatch =>
              have hne : row.oid ≠ cStr (root.textOr "session" "") :=
                fun hoid => hturn ⟨root, rfl, hdelete, hpatch, hoid⟩
              have hstored : LeftAlone s (s.storeTurn dump io root).1 row :=
                leftAlone_storeTurn hrow hne
              have hdue : (s.storeTurn dump io root).1.lastPrune = s.lastPrune :=
                lastPrune_storeTurn
              split
              · next s' e hresult =>
                  rw [hresult] at hstored hdue
                  exact ⟨s', hstored, hdue, .inl rfl⟩
              · next s' hresult =>
                  rw [hresult] at hstored hdue
                  exact ⟨s', hstored, hdue, .inr rfl⟩

/-- **What a message leaves alone**: a conversation of somebody else stays as it
is, with its messages, unless the sweep takes it, and no message is added to it.
Of a turn that names it nothing is said. -/
theorem others_left_alone {payload : Payload} (hrow : row ∈ s.sessions.rows)
    (hother : row.owner ≠ payloadOwner payload) (hturn : ¬TurnInto payload row) :
    (¬Swept s io row → LeftAlone s (s.handleEvent dump io payload).1 row) ∧
      ∀ m ∈ (s.handleEvent dump io payload).1.messages.rows, m.session = row.oid →
        m ∈ s.messages.rows := by
  obtain ⟨s', hleft, hdue, heq | heq⟩ :=
    @leftAlone_handleEvent s row io dump _ hrow hother hturn
  · rw [heq]
    exact ⟨fun _ => hleft, fun m hm hsession => (hleft.messages m hsession).mp hm⟩
  · rw [heq]
    exact pruneIfDue_of_leftAlone hdue hleft

end ChatStore

open ChatStore

namespace TwoOwners

/-- A conversation of one account. -/
def session : ChatSession :=
  { oid := "s1", owner := "a", service := "chat", title := "plans", model := "", draft := "",
    updatedAt := 0 }

lemma keys : ([session].map ChatSession.oid).Nodup := by decide

lemma attrs : ∀ q ∈ [session], ∀ r ∈ [session], r.unique ≠ none → q.unique = r.unique → q = r := by
  intro q hq r hr _ _
  rw [List.mem_singleton.mp hq, List.mem_singleton.mp hr]

lemma noKeys : (([] : List ChatMessage).map ChatMessage.oid).Nodup := by decide

lemma noAttrs : ∀ q ∈ ([] : List ChatMessage), ∀ r ∈ ([] : List ChatMessage), r.place ≠ none →
    q.place = r.place → q = r := by decide

/-- It is all there is. -/
def store : ChatStore where
  accounts := ["a", "b"]
  sessions := ⟨[session], keys, attrs⟩
  messages := ⟨[], noKeys, noAttrs⟩

/-- A database that answers, at a time. -/
def answers (now : ℤ) : ChatIO := ⟨true, fun _ => true, true, now, 1⟩

/-- A turn of the other account, in the conversation. -/
def turn : Payload := .json (.obj
  [("messages", .arr [.obj [("content", .str "hi"), ("oid", .str "m1"), ("role", .str "user")]]),
    ("owner", .str "b"), ("session", .str "s1"), ("title", .str "mine")])

/-- A name of its own conversation. -/
def patch : Payload := .json (.obj
  [("owner", .str "b"), ("patch", .bool true), ("session", .str "s2"), ("title", .str "mine")])

end TwoOwners

open TwoOwners in
/-- **Both ways are taken**: handling a message of another account, the sweep
removes a conversation; and a turn that names it changes it, and adds a message. -/
theorem conversation_reached :
    (∃ (s : ChatStore) (io : ChatIO) (payload : Payload) (row : ChatSession),
      row ∈ s.sessions.rows ∧ row.owner ≠ payloadOwner payload ∧ ¬TurnInto payload row ∧
        row ∉ (s.handleEvent (fun _ => "") io payload).1.sessions.rows) ∧
    ∃ (s : ChatStore) (io : ChatIO) (payload : Payload) (row : ChatSession),
      row ∈ s.sessions.rows ∧ row.owner ≠ payloadOwner payload ∧ ¬Swept s io row ∧
        row ∉ (s.handleEvent (fun _ => "") io payload).1.sessions.rows ∧
        ∃ m ∈ (s.handleEvent (fun _ => "") io payload).1.messages.rows,
          m.session = row.oid ∧ m ∉ s.messages.rows := by
  constructor
  · refine ⟨store, answers (40 * 24 * 3600), patch, session, by decide, by decide, ?_,
      by decide +kernel⟩
    rintro ⟨root, hroot, -, hpatch, -⟩
    cases hroot
    cases hpatch
  · refine ⟨store, answers 0, turn, session, by decide, by decide, ?_, by decide +kernel,
      ⟨"m1", "s1", 0, ["user", "hi", "", "", "", "", ""]⟩, by decide +kernel, rfl, by decide⟩
    rintro ⟨-, -, hexpired⟩
    revert hexpired
    decide

open TwoOwners in
/-- The law where the other account names a conversation of its own. -/
theorem others_left_alone_patch :
    LeftAlone store (store.handleEvent (fun _ => "") (answers 0) patch).1 session := by
  refine (others_left_alone (by decide) (by decide) ?_).1 ?_
  · rintro ⟨root, hroot, -, hpatch, -⟩
    cases hroot
    cases hpatch
  · rintro ⟨-, -, hexpired⟩
    revert hexpired
    decide

/-! ### Runs -/

/-- The store under messages, as a machine. -/
def chat (dump : Json → String) : Machine ChatStore ( ChatIO × Payload) where
  init _ := True
  next s l :=
    match s.handleEvent dump l.1 l.2 with
    | (s', .ok ()) => some s'
    | (_, .error _) => none

/-- **A conversation over a run** of other people's messages, none of them a turn
in it, that ends before it is past the window. -/
theorem left_alone_run {dump : Json → String} {s s' : ChatStore} {row : ChatSession}
    {tr : List (ChatStore × ChatIO × Payload)} (hrow : row ∈ s.sessions.rows)
    (hrun : (chat dump).Run s tr s')
    (hok : ∀ p ∈ tr, row.owner ≠ payloadOwner p.2.2 ∧ ¬TurnInto p.2.2 row ∧
      expired p.2.1 row = false) : LeftAlone s s' row := by
  refine hrun.invariant_of_forall (I := fun t => LeftAlone s t row)
    (C := fun _ l => row.owner ≠ payloadOwner l.2 ∧ ¬TurnInto l.2 row ∧ expired l.1 row = false)
    (LeftAlone.refl hrow) ?_ hok
  rintro t ⟨io, payload⟩ t' ht ⟨hother, hturn, hlive⟩ hnext
  have hnot : ¬Swept t io row := by
    rintro ⟨-, -, hexpired⟩
    rw [hlive] at hexpired
    cases hexpired
  have hhandled : (t.handleEvent dump io payload).1 = t' := by
    dsimp only [chat] at hnext
    split at hnext
    · next heq =>
        rw [heq]
        exact Option.some.inj hnext
    · cases hnext
  obtain ⟨t₁, hleft, hdue, heq | heq⟩ := leftAlone_handleEvent ht.session hother hturn
  · rw [← hhandled, heq]
    exact ht.trans hleft
  · rw [← hhandled, heq]
    exact ht.trans ((pruneIfDue_of_leftAlone hdue hleft).1 hnot)

end Pretzel.Engined
