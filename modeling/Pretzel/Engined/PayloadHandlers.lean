import Pretzel.Engined.AdminService
import Pretzel.Engined.AiCredential
import Pretzel.Engined.ChatTurn
import Pretzel.Engined.CollectionService
import Pretzel.Engined.MergedSection

/-!
The payloads engined stores, and the handlers that return on them.

The payload is parsed under a `catch`, its members are read behind it, and the
dispatch loop catches nothing.

* `Stores`, `handlePayload`: the state of the five services, and the handler of a
  command.
* `StateReads`, `KeyReads`, `AccountReads`, `TurnReads`, `EntryReads`: the members a
  handler reads, each with the handler it is about.
* `ScopeOpen`: a scope of the running configuration that values can be merged into.
  `returns_stageChanges`: the change loop returns where every change that is merged
  meets one in the document it starts from.
* **`handlers_return_iff`**: the payloads on which nothing throws.
* `number_stored`: one on which the handler throws.
-/

namespace Pretzel.Engined

open Nlohmann Ipc Config

/-! ### The commit -/

/-- The scope holds an object, or nothing yet. -/
def ScopeOpen (root : Json) (scopeName : String) : Prop :=
  (root.memberOrNull scopeName).isObject = true ∨ root.memberOrNull scopeName = .null

/-- The members of a change: it is an object, its scope and its domain are texts or
not there, and if it is merged its scope takes members. -/
def EntryReads (root c : Json) : Prop :=
  c.isObject = true ∧ c.stringOrAbsent "scope" = true ∧ c.stringOrAbsent "domain" = true ∧
    (isWellFormed c = true → ScopeOpen root (c.textOr "scope" ""))

lemma returns_set {j v : Json} {key : String} :
    Returns (j.set key v) ↔ j.isObject = true ∨ j = .null := by
  cases j <;> simp [Json.set, Json.isObject]

/-- A text that is read as something is there. -/
lemma find?_of_textOr {j : Json} {key : String} (h : j.textOr key "" ≠ "") :
    j.find? key = some (.str (j.textOr key "")) := by
  rw [Json.textOr] at h ⊢
  split at h
  · next s hs => exact hs
  · exact absurd rfl h

/-- A change that is not merged, of which the scope and the domain can be read. -/
lemma stageChange_skipped {root c : Json} (hobj : c.isObject = true)
    (hs : c.stringOrAbsent "scope" = true) (hd : c.stringOrAbsent "domain" = true)
    (hw : ¬isWellFormed c = true) : stageChange root c = .ok (root, false) := by
  rw [stageChange, (Json.valueString_eq_ok_iff hobj).mpr ⟨hs, rfl⟩,
    (Json.valueString_eq_ok_iff hobj).mpr ⟨hd, rfl⟩, except_bind_eq_ok]
  refine ⟨_, rfl, ?_⟩
  rw [except_bind_eq_ok]
  refine ⟨_, rfl, ?_⟩
  cases hv : c.find? "values" with
  | none => rfl
  | some v =>
      dsimp only
      rw [if_pos]
      · rfl
      · by_contra hbad
        rw [not_or, not_or, Bool.not_eq_false, Json.isObject_iff] at hbad
        obtain ⟨hs0, hd0, ms, rfl⟩ := hbad
        exact hw (isWellFormed_iff.mpr
          ⟨_, _, ms, find?_of_textOr hs0, find?_of_textOr hd0, hv, hs0, hd0⟩)

/-- A change that is merged: its scope takes its domain, and the document its scope. -/
lemma stageChange_merged {root c : Json} (hw : isWellFormed c = true) :
    stageChange root c = do
      let scope := root.memberOrNull (c.textOr "scope" "")
      let domain := c.textOr "domain" ""
      let scope ← scope.set domain
        ((scope.memberOrNull domain).mergePatch (c.memberOrNull "values"))
      let root ← root.set (c.textOr "scope" "") scope
      return (root, true) := by
  obtain ⟨scopeName, domain, ms, hs, hd, hv, hs0, hd0⟩ := isWellFormed_iff.mp hw
  have hvalues : c.memberOrNull "values" = .obj ms := by
    rw [Json.memberOrNull, hv]
    rfl
  rw [stageChange, Json.valueString_of_find? hs, Json.valueString_of_find? hd, hv, hvalues,
    Json.textOr_of_find? hs, Json.textOr_of_find? hd]
  simp [bind, Except.bind, hs0, hd0, Json.isObject]

/-- **One turn of the change loop** returns exactly on a change whose members can be
read and merged. -/
lemma returns_stageChange {root : Json} (hroot : root.isObject = true) (c : Json) :
    Returns (stageChange root c) ↔ EntryReads root c := by
  rw [EntryReads]
  constructor
  · intro h
    have hreads := h
    rw [stageChange, Json.returns_string, Json.returns_string] at hreads
    refine ⟨hreads.1, hreads.2.1, hreads.2.2.2.1, fun hw => ?_⟩
    rw [stageChange_merged hw] at h
    exact returns_set.mp (returns_bind.mp h).1
  · rintro ⟨hobj, hs, hd, hopen⟩
    by_cases hw : isWellFormed c = true
    · rw [stageChange_merged hw]
      refine returns_bind.mpr ⟨returns_set.mpr (hopen hw), fun scope _ => ?_⟩
      exact returns_bind.mpr ⟨returns_set.mpr (.inl hroot), fun _ _ => returns_pure _⟩
    · rw [stageChange_skipped hobj hs hd hw]
      exact returns_ok _

/-- What a turn merges leaves every other scope, and its own is open before and
after. -/
lemma scopeOpen_stageChange {root root' c : Json} {staged : Bool}
    (h : stageChange root c = .ok (root', staged)) (hroot : root.isObject = true) :
    root'.isObject = true ∧ ∀ name, ScopeOpen root' name ↔ ScopeOpen root name := by
  obtain ⟨hobj, hs, hd, hopen⟩ := (returns_stageChange hroot c).mp ⟨_, h⟩
  by_cases hw : isWellFormed c = true
  · have hscope := hopen hw
    rw [stageChange_merged hw, except_bind_eq_ok] at h
    obtain ⟨scope, hset, h⟩ := h
    rw [except_bind_eq_ok] at h
    obtain ⟨root'', hset', h⟩ := h
    cases h
    refine ⟨Json.isObject_set hset', fun name => ?_⟩
    have hfind := Json.find?_set hset' name
    by_cases hname : name = c.textOr "scope" ""
    · rw [if_pos hname] at hfind
      rw [hname] at hfind ⊢
      refine iff_of_true (.inl ?_) hscope
      rw [Json.memberOrNull, hfind]
      exact Json.isObject_set hset
    · rw [if_neg hname] at hfind
      rw [ScopeOpen, ScopeOpen, Json.memberOrNull, Json.memberOrNull, hfind]
  · rw [stageChange_skipped hobj hs hd hw] at h
    cases h
    exact ⟨hroot, fun _ => Iff.rfl⟩

/-- **The change loop** returns exactly where every change returns on the document it
starts from. -/
lemma returns_stageChanges {root : Json} (hroot : root.isObject = true) (changes : List Json) :
    Returns (stageChanges root changes) ↔ ∀ c ∈ changes, EntryReads root c := by
  induction changes generalizing root with
  | nil => simp [stageChanges]
  | cons c rest ih =>
      rw [stageChanges, List.forall_mem_cons, returns_bind_iff, returns_stageChange hroot]
      rintro ⟨root', staged⟩ h
      obtain ⟨hroot', hopen⟩ := scopeOpen_stageChange h hroot
      have hsame : ∀ c, EntryReads root' c ↔ EntryReads root c := by
        intro c
        rw [EntryReads, EntryReads, hopen]
      rw [returns_bind_iff fun _ _ => iff_of_true (returns_pure _) trivial, ih hroot', and_true]
      exact forall₂_congr fun c _ => hsame c

/-- The document a commit is merged into. -/
def committedInto (file : Option Json) (io : DispatchIO) (s : EnginedState) : Json :=
  (cachedRunningConfig file s.table io.load s.config).runningConfigCache

/-- **`ApplyCommit`** returns exactly where the change loop of its payload does. -/
lemma returns_applyCommit {file : Option Json} {io : DispatchIO} {s : EnginedState} {t : Task}
    (ht : runningTask s.commitService.queue = some t)
    (hroot : (committedInto file io s).isObject = true) :
    Returns (applyCommit file io s) ↔ ∀ changes, t.payload = .json (.arr changes) →
      ∀ c ∈ changes, EntryReads (committedInto file io s) c := by
  rw [applyCommit, ht]
  dsimp only
  split
  · next changes hpayload =>
      rw [returns_bind_iff, and_true]
      · rw [hpayload]
        simp only [Payload.json.injEq, Json.arr.injEq, forall_eq']
        exact returns_stageChanges hroot changes
      · rintro ⟨root, applied, failed⟩ _
        refine iff_of_true ?_ trivial
        dsimp only
        split
        · exact returns_pure _
        · split
          · exact returns_pure _
          · exact returns_pure _
  · next hother =>
      exact iff_of_true (returns_ok _) fun changes hpayload => absurd hpayload (hother changes)

/-! ### The sealed keys -/

/-- The members of an update of a credential: its oid, and behind it the rest. -/
def StateReads (root : Json) : Prop :=
  root.isObject = true ∧ root.stringOrAbsent "oid" = true ∧
    (root.textOr "oid" "" ≠ "" →
      root.stringOrAbsent "id_enc" = true ∧ root.stringOrAbsent "pw_enc" = true ∧
        root.stringOrAbsent "key_enc" = true ∧ root.stringOrAbsent "expires_at" = true ∧
        root.boolOrAbsent "ok" = true ∧ root.stringOrAbsent "note" = true)

lemma returns_readState (root : Json) : Returns (readState root) ↔ StateReads root := by
  rw [readState, StateReads, Json.returns_string]
  refine and_congr_right fun hobj => and_congr_right fun _ => ?_
  split
  · next hempty => simp [hempty]
  · next hoid =>
      rw [Json.returns_text hobj, Json.returns_text hobj, Json.returns_text hobj,
        Json.returns_text hobj, Json.returns_bool, Json.returns_text hobj]
      simp [hobj, hoid]

lemma returns_storeState (sql : SqlTime) (now : ℤ) (wrote : Bool) (payload : Payload)
    (t : CredentialTable) : Returns (storeState sql now wrote payload t) ↔
      ∀ root, payload = .json root → StateReads root := by
  cases payload with
  | json root =>
      rw [storeState, returns_bind_iff, returns_readState, and_true]
      · simp
      · rintro (_ | u) _
        · exact iff_of_true (returns_pure _) trivial
        · exact iff_of_true (returns_pure _) trivial
  | empty => simp [storeState]
  | malformed => simp [storeState]

/-- The members of an update of a tenant's key. -/
def KeyReads (root : Json) : Prop :=
  root.isObject = true ∧ root.stringOrAbsent "oid" = true ∧ root.stringOrAbsent "api_key_enc" = true

lemma returns_storeSaseApiKey (wrote : Bool) (payload : Payload) (t : SaseTable) :
    Returns (storeSaseApiKey wrote payload t) ↔ ∀ root, payload = .json root → KeyReads root := by
  have hupdate : Returns (saseKeyUpdate payload) ↔ ∀ root, payload = .json root → KeyReads root := by
    cases payload with
    | json root =>
        simp only [Payload.json.injEq, forall_eq']
        rw [saseKeyUpdate, KeyReads, Json.returns_string]
        refine and_congr_right fun hobj => and_congr_right fun _ => ?_
        rw [Json.returns_text hobj]
        refine and_iff_left ?_
        split
        · exact returns_pure _
        · exact returns_pure _
    | empty => simp [saseKeyUpdate]
    | malformed => simp [saseKeyUpdate]
  rw [storeSaseApiKey, returns_bind_iff, hupdate, and_true]
  rintro (_ | ⟨oid, keyEnc⟩) _
  · exact iff_of_true (returns_pure _) trivial
  · exact iff_of_true (returns_pure _) trivial

/-! ### The accounts -/

/-- The members of an update of an account, up to where it is dropped or removes. -/
def AccountReads (root : Json) : Prop :=
  root.isObject = true ∧ root.stringOrAbsent "username" = true ∧
    (root.textOr "username" "" ≠ "" → root.boolOrAbsent "remove" = true ∧
      (root.boolOr "remove" false = false →
        root.stringOrAbsent "password_hash" = true ∧ root.stringOrAbsent "salt" = true ∧
        (root.textOr "password_hash" "" ≠ "" → root.textOr "salt" "" ≠ "" →
          root.stringOrAbsent "oid" = true ∧ root.boolOrAbsent "must_change" = true)))

lemma returns_updatePassword (io : StoreIO) (root : Json) (t : LocalUsers) :
    Returns (updatePassword io root t) ↔ AccountReads root := by
  rw [updatePassword, AccountReads, Json.returns_string]
  refine and_congr_right fun hobj => and_congr_right fun _ => ?_
  split
  · next hempty => simp [hempty]
  · next hnamed =>
      rw [Json.returns_bool]
      simp only [ne_eq, hnamed, not_false_eq_true, true_imp_iff, hobj, true_and]
      refine and_congr_right fun _ => ?_
      cases root.boolOr "remove" false with
      | true => simp
      | false =>
          simp only [Bool.false_eq_true, if_false, true_imp_iff]
          rw [Json.returns_text hobj, Json.returns_text hobj]
          refine and_congr_right fun _ => and_congr_right fun _ => ?_
          split
          · next hempty =>
              rw [Bool.or_eq_true, decide_eq_true_eq, decide_eq_true_eq] at hempty
              refine iff_of_true (returns_pure _) fun hhash hsalt => ?_
              exact absurd hempty (not_or.mpr ⟨hhash, hsalt⟩)
          · next hcredential =>
              rw [Bool.or_eq_true, decide_eq_true_eq, decide_eq_true_eq, not_or] at hcredential
              rw [Json.returns_text hobj, Json.returns_bool]
              simp [hobj, hcredential.1, hcredential.2]

/-! ### The conversations -/

/-- The members of a turn: which of the three it is, and the number of each message
that is named, where the statement about its conversation is carried out. -/
def TurnReads (s : ChatStore) (io : ChatIO) (root : Json) : Prop :=
  root.isObject = true ∧ root.boolOrAbsent "delete" = true ∧
    (root.boolOr "delete" false = false → root.boolOrAbsent "patch" = true ∧
      (root.boolOr "patch" false = false →
        root.textOr "session" "" ≠ "" → root.textOr "owner" "" ≠ "" → s.SessionWritten io root →
          ∀ m ∈ root.elementsAt "messages", m.isObject = true → m.textOr "oid" "" ≠ "" →
            m.numericOrAbsent "seq" = true))

section Chat

variable {dump : Json → String} {io : ChatIO}

lemma returns_storeMessages (session : String) : ∀ (i : ℕ) (ms : List Json) (s : ChatStore),
    Returns (ChatStore.storeMessages dump io session i ms s).2 ↔
      ∀ m ∈ ms, m.isObject = true → m.textOr "oid" "" ≠ "" → m.numericOrAbsent "seq" = true
  | _, [], s => by simp [ChatStore.storeMessages]
  | i, m :: rest, s => by
      rw [List.forall_mem_cons]
      by_cases hnamed : m.isObject = true ∧ m.textOr "oid" "" ≠ ""
      · obtain ⟨hobj, hoid⟩ := hnamed
        rw [ChatStore.storeMessages_cons hoid]
        split
        · next hnumeric =>
            rw [returns_storeMessages session (i + 1) rest]
            simp [hnumeric]
        · next hnumeric =>
            refine iff_of_false ?_ fun h => hnumeric (h.1 hobj hoid)
            rintro ⟨u, hu⟩
            cases hseq : m.valueInt32 "seq" 0 with
            | error e =>
                rw [hseq] at hu
                cases hu
            | ok seq => exact hnumeric ((Json.valueInt32_eq_ok_iff hobj).mp hseq).1
      · have hskip : (!m.isObject || decide (m.textOr "oid" "" = "")) = true := by
          rw [not_and_or, not_not] at hnamed
          simpa using hnamed
        rw [ChatStore.storeMessages, if_pos hskip, returns_storeMessages session (i + 1) rest]
        refine (and_iff_right ?_).symm
        intro hobj hoid
        exact absurd ⟨hobj, hoid⟩ hnamed

lemma returns_storeTurn {s : ChatStore} {root : Json} (hobj : root.isObject = true) :
    Returns (s.storeTurn dump io root).2 ↔
      (root.textOr "session" "" ≠ "" → root.textOr "owner" "" ≠ "" → s.SessionWritten io root →
        ∀ m ∈ root.elementsAt "messages", m.isObject = true → m.textOr "oid" "" ≠ "" →
          m.numericOrAbsent "seq" = true) := by
  rw [ChatStore.storeTurn]
  dsimp only
  split
  · next hdropped =>
      rw [Bool.or_eq_true, decide_eq_true_eq, decide_eq_true_eq] at hdropped
      refine iff_of_true (returns_ok _) fun hsession howner => ?_
      exact absurd hdropped (not_or.mpr ⟨hsession, howner⟩)
  · next hnamed =>
      rw [Bool.or_eq_true, decide_eq_true_eq, decide_eq_true_eq, not_or] at hnamed
      simp only [ne_eq, hnamed.1, hnamed.2, not_false_eq_true, true_imp_iff]
      by_cases hwritten : s.SessionWritten io root
      · simp only [hwritten, true_imp_iff]
        obtain ⟨s', hs', -, -⟩ := ChatStore.upsertSession_written hwritten
          { oid := cStr (root.textOr "session" ""), owner := cStr (root.textOr "owner" ""),
            service := cStr (root.textOr "service" ""), title := cStr (root.textOr "title" ""),
            model := cStr (root.textOr "model" ""), draft := cStr (root.textOr "draft" ""),
            updatedAt := io.now } rfl rfl
        rw [hs', Json.valueJson_of_isObject hobj]
        exact returns_storeMessages _ 0 _ s'
      · rw [ChatStore.upsertSession_unwritten hwritten _ rfl rfl]
        simp [hwritten]

lemma returns_handleEvent {s : ChatStore} {payload : Payload} :
    Returns (s.handleEvent dump io payload).2 ↔
      ∀ root, payload = .json root → TurnReads s io root := by
  cases payload with
  | empty => simp [ChatStore.handleEvent]
  | malformed => simp [ChatStore.handleEvent]
  | json root =>
      simp only [Payload.json.injEq, forall_eq']
      rw [ChatStore.handleEvent, TurnReads]
      cases hdelete : root.valueBool "delete" false with
      | error e =>
          refine iff_of_false (not_returns_error e) ?_
          rintro ⟨hobj, hbool, -⟩
          cases hdelete.symm.trans (Json.valueBool_eq_ok_iff.mpr ⟨hobj, hbool, rfl⟩)
      | ok delete =>
          obtain ⟨hobj, hbool, rfl⟩ := Json.valueBool_eq_ok_iff.mp hdelete
          simp only [hobj, hbool, true_and]
          cases root.boolOr "delete" false with
          | true => simp
          | false =>
              simp only [true_imp_iff]
              cases hpatch : root.valueBool "patch" false with
              | error e =>
                  refine iff_of_false (not_returns_error e) ?_
                  rintro ⟨hbool, -⟩
                  cases hpatch.symm.trans (Json.valueBool_eq_ok_iff.mpr ⟨hobj, hbool, rfl⟩)
              | ok patch =>
                  obtain ⟨-, hbool, rfl⟩ := Json.valueBool_eq_ok_iff.mp hpatch
                  simp only [hbool, true_and]
                  cases root.boolOr "patch" false with
                  | true => simp
                  | false =>
                      simp only [true_imp_iff]
                      rw [← returns_storeTurn hobj]
                      rcases s.storeTurn dump io root with ⟨s', e | u⟩
                      · exact iff_of_false (not_returns_error e) (not_returns_error e)
                      · exact iff_of_true (returns_ok _) (returns_ok _)

end Chat

/-! ### The five services -/

/-- The commands whose payloads the five services take. -/
inductive PayloadCmd where
  | SettingsCommitRequest
  | ApiCredentialStateRequest
  | ApiCredentialStateUpdate
  | SaseApiKeyUpdate
  | AiCredentialStateUpdate
  | LocalUserUpdate
  | ApiCollectionSample
  | ChatTurnStore
deriving DecidableEq

/-- What the five services keep: engined's queue with what it is applied to, the
tables, and the documents `sendState` has sent. -/
structure Stores where
  engined : EnginedState
  credentials : CredentialTable
  devices : SaseTable
  assistant : AiStores
  users : LocalUsers
  samples : CollectionStore
  chat : ChatStore
  answers : List Json

/-- What one message meets: the database, its clock, and its texts. -/
structure StoresIO where
  sql : SqlTime
  dump : Json → String
  now : ℤ
  wrote : Bool
  queried : Bool × Bool
  admin : StoreIO
  collection : CollectionIO
  chat : ChatIO

/-- The handlers, each of its commands. -/
def handlePayload (io : StoresIO) (cmd : PayloadCmd) (msg : IpcMessage Payload) (s : Stores) :
    Except JsonError Stores :=
  match cmd with
  | .SettingsCommitRequest =>
      .ok { s with engined := handleCommitEvent s.engined (.ReceiveSettingsCommit msg.payload) }
  | .ApiCredentialStateRequest =>
      .ok { s with
        answers := s.answers ++ [keysDocument io.sql io.queried s.credentials s.devices] }
  | .ApiCredentialStateUpdate => do
      let credentials ← storeState io.sql io.now io.wrote msg.payload s.credentials
      return { s with credentials }
  | .SaseApiKeyUpdate => do
      let devices ← storeSaseApiKey io.wrote msg.payload s.devices
      return { s with devices }
  | .AiCredentialStateUpdate => do
      let assistant ← storeAiCredential io.now io.wrote msg.payload s.assistant
      return { s with assistant }
  | .LocalUserUpdate => do
      let users ← AdminService.handleEvent io.admin msg s.users
      return { s with users }
  | .ApiCollectionSample => do
      let samples ← CollectionService.handleEvent io.collection msg.payload s.samples
      return { s with samples }
  | .ChatTurnStore => do
      let (chat, result) := s.chat.handleEvent io.dump io.chat msg.payload
      let _ ← result
      return { s with chat }

/-- The members of a document that the handler of a command reads. -/
def PayloadReads (io : StoresIO) (s : Stores) (root : Json) : PayloadCmd → Prop
  | .SettingsCommitRequest => True
  | .ApiCredentialStateRequest => True
  | .ApiCredentialStateUpdate => StateReads root
  | .SaseApiKeyUpdate => KeyReads root
  | .AiCredentialStateUpdate => AiReads root
  | .LocalUserUpdate => AccountReads root
  | .ApiCollectionSample => SampleReads root
  | .ChatTurnStore => TurnReads s.chat io.chat root

/-- A handler that ends by putting back what it computed. -/
lemma returns_stored {α : Type} {x : Except JsonError α} {put : α → Stores} :
    Returns (x >>= fun a => pure (put a) : Except JsonError Stores) ↔ Returns x := by
  rw [returns_bind_iff fun _ _ => iff_of_true (returns_pure _) trivial, and_true]

/-- **A message returns exactly where its members are of the types they are read
as.** -/
lemma returns_handlePayload (io : StoresIO) (cmd : PayloadCmd) (msg : IpcMessage Payload)
    (s : Stores) : Returns (handlePayload io cmd msg s) ↔
      ∀ root, msg.payload = .json root → PayloadReads io s root cmd := by
  cases cmd with
  | SettingsCommitRequest => simp [handlePayload, PayloadReads]
  | ApiCredentialStateRequest => simp [handlePayload, PayloadReads]
  | ApiCredentialStateUpdate => exact returns_stored.trans (returns_storeState _ _ _ _ _)
  | SaseApiKeyUpdate => exact returns_stored.trans (returns_storeSaseApiKey _ _ _)
  | AiCredentialStateUpdate => exact returns_stored.trans (returns_storeAiCredential _ _ _ _)
  | LocalUserUpdate =>
      refine returns_stored.trans ?_
      rw [AdminService.handleEvent]
      cases msg.payload with
      | json root => simp [returns_updatePassword, PayloadReads]
      | empty => simp
      | malformed => simp
  | ApiCollectionSample =>
      refine returns_stored.trans ?_
      cases msg.payload with
      | json root => simp [CollectionService.handleEvent, returns_storeSample, PayloadReads]
      | empty => simp [CollectionService.handleEvent]
      | malformed => simp [CollectionService.handleEvent]
  | ChatTurnStore => exact returns_stored.trans returns_handleEvent

/-- **The handlers that return**: each of the payload commands, and the `ApplyCommit`
of a payload on a configuration that is an object, exactly where what they read is of
the types it is read as. -/
theorem handlers_return_iff (io : StoresIO) (file : Option Json) (dispatch : DispatchIO)
    (cmd : PayloadCmd) (msg : IpcMessage Payload) (s : Stores) :
    (Returns (handlePayload io cmd msg s) ↔
      ∀ root, msg.payload = .json root → PayloadReads io s root cmd) ∧
    ∀ t, runningTask s.engined.commitService.queue = some t →
      (committedInto file dispatch s.engined).isObject = true →
      (Returns (applyCommit file dispatch s.engined) ↔
        ∀ changes, t.payload = .json (.arr changes) →
          ∀ c ∈ changes, EntryReads (committedInto file dispatch s.engined) c) :=
  ⟨returns_handlePayload io cmd msg s, fun _ ht hroot => returns_applyCommit ht hroot⟩

namespace NumberStored

lemma noRows {ρ : Type} (key : ρ → String) : (([] : List ρ).map key).Nodup := List.nodup_nil

/-- Nothing stored yet, and a commit that names a scope with a number in it. -/
def stores : Stores where
  engined :=
    { config := { runningConfigLoaded := true, runningConfigCache := .obj [("pretzel", .int 5)] }
      commitService :=
        { queue := [⟨1, .json (.arr [.obj [("domain", .str "site"), ("scope", .str "pretzel"),
            ("values", .obj [])]]), .Running⟩], nextId := 2 } }
  credentials := ∅
  devices := ⟨[], noRows _, by simp⟩
  assistant := {}
  users := ⟨[], noRows _, by simp⟩
  samples := ⟨[], 0⟩
  chat := TwoOwners.store
  answers := []

/-- A database that carries everything out. -/
def answers : StoresIO where
  sql := ⟨fun _ => none, fun _ => ""⟩
  dump := fun _ => ""
  now := 0
  wrote := true
  queried := (true, true)
  admin := ⟨true, "u1"⟩
  collection := ⟨true, true, true, 0, 0⟩
  chat := TwoOwners.answers 0

end NumberStored

open NumberStored in
/-- A document that is a number: the read of its first member throws. -/
theorem number_stored : ¬∀ (io : StoresIO) (cmd : PayloadCmd) (msg : IpcMessage Payload)
    (s : Stores), Returns (handlePayload io cmd msg s) := by
  intro h
  obtain ⟨s', hs'⟩ := h answers .LocalUserUpdate ⟨{}, .json (.int 5)⟩ stores
  cases hs'

open NumberStored in
/-- The commit that names the scope: neither is it staged. -/
theorem scalar_scope_thrown : ∃ (file : Option Json) (dispatch : DispatchIO),
    (committedInto file dispatch stores.engined).isObject = true ∧
      ¬Returns (applyCommit file dispatch stores.engined) := by
  let dispatch : DispatchIO := ⟨0, ⟨true, fun _ => true⟩, ⟨true, true, true, true, true⟩,
    ⟨true, fun _ => true⟩⟩
  refine ⟨none, dispatch, rfl, fun hreturns => ?_⟩
  have hreads := ((handlers_return_iff answers none dispatch .SettingsCommitRequest
    ⟨{}, .empty⟩ stores).2 _ rfl rfl).mp hreturns _ rfl _ List.mem_cons_self
  rcases hreads.2.2.2 rfl with hobj | hnull
  · cases hobj
  · cases hnull

end Pretzel.Engined
