import Pretzel.Fleet.HeldSecrets
import Pretzel.Fleet.KeyUpdates
import Pretzel.Library.LateFill
import Pretzel.Library.Machine

/-!
collectord's key cache beside engined's tables, over every interleaving of the key request,
its answer, the handlers that store something and the updates on their way.

* `KeyFleet`: the cache and the exchanges under way, the messages between the two, and the
  tables. `keyMirror`: the machine.
* `StoreMatched`: the condition on a step that stores something. What it does not note in the
  cache does not change what is held; what it notes is what will be held; and while the
  answer is awaited nothing held is changed.
* `CacheCurrent`: the cache has what the tables hold.
* `Mirrors`: the cache shows what the tables will hold, and so does the answer.
  `mirrors_send`: **an update keeps it so** that the cache follows.
-/

namespace Pretzel.Fleet

open Nlohmann Texts Util Config Staged Collectord Engined Reactive

/-! ### The system -/

/-- collectord and engined. -/
structure KeyFleet where
  cache : KeyCache := {}
  /-- The exchanges under way. -/
  waits : List Wait := []
  /-- `m_setupDone`. -/
  asked : Bool := false
  /-- An answer has been taken in. -/
  filled : Bool := false
  /-- The messages to engined. -/
  wire : List ToEngined := []
  /-- The answers to collectord. -/
  answers : List Json := []
  credentials : CredentialTable := ∅
  devices : SaseTable

/-- The steps. -/
inductive KeyStep where
  | setup
  | test (request : TestRequest) (seqNo : UInt32) (payload : Bytes) (m : Moment)
  | refresh (p : AuthProfile) (d : RefreshDevice) (m : Moment)
  | settle (i : ℕ) (res : ClientResponse) (m : Moment)
  | arrive (now : ℤ)
  | fill

namespace KeyFleet

variable (s : KeyFleet)

/-- What a handler sends or notes. -/
def emit : Out → KeyFleet
  | .request _ | .testResponse _ _ => s
  | .credentialState state => { s with wire := s.wire ++ [.credentialState state] }
  | .saseApiKey state => { s with wire := s.wire ++ [.saseApiKey state] }
  | .rememberIssuedKey oid key => { s with cache := s.cache.rememberIssuedKey oid key }
  | .rememberCredential oid id pw => { s with cache := s.cache.rememberCredential oid id pw }

/-- A stage is carried out, unless an exception leaves it. -/
def carry (stage : Step) : Option KeyFleet :=
  let t := stage.out.foldl emit s
  match stage.ending with
  | .done => some t
  | .threw _ => none
  | .waits k => some { t with waits := t.waits ++ [k] }

/-- The columns once the messages on their way have arrived. -/
def willHold : String → Held :=
  LateFill.settled ToEngined.act (held s.credentials s.devices) s.wire

end KeyFleet

/-- The machine. -/
def keyMirror (H : Host) (sql : SqlTime) : Machine KeyFleet KeyStep where
  init s := s.cache = {} ∧ s.waits = [] ∧ s.asked = false ∧ s.filled = false ∧ s.wire = [] ∧
    s.answers = []
  next s
    | .setup =>
        if s.asked then none else some { s with asked := true, wire := s.wire ++ [.request] }
    | .test request seqNo payload m => s.carry (route H m s.cache request seqNo payload)
    | .refresh p d m => s.carry (Collectord.refresh H m s.cache p d)
    | .settle i res m =>
        match s.waits[i]? with
        | none => none
        | some k => ({ s with waits := s.waits.eraseIdx i } : KeyFleet).carry (resume H k (res, m))
    | .arrive now =>
        match s.wire with
        | [] => none
        | .request :: wire =>
            some { s with wire, answers := s.answers ++
              [keysDocument sql (true, true) s.credentials s.devices] }
        | .credentialState state :: wire =>
            (storeState sql now true (.json state) s.credentials).toOption.map
              fun credentials => { s with wire, credentials }
        | .saseApiKey state :: wire =>
            (storeSaseApiKey true (.json state) s.devices).toOption.map
              fun devices => { s with wire, devices }
    | .fill =>
        match s.answers with
        | [] => none
        | doc :: answers =>
            some { s with answers, cache := handleKeyState H (.json doc) s.cache, filled := true }

/-! ### The condition -/

section Condition

variable (H : Host) (sql : SqlTime) (s : KeyFleet)

/-- What arrives of an account leaves the one that is held. -/
def AccountKept (m : Moment) (id pw : Bytes) (h : Held) : Prop :=
  (h.store (sealed H (m.nonces 0) id) (sealed H (m.nonces 1) pw) none).account H = h.account H

/-- A report: the account that was tried leaves the one that is held. Its key, if it has one,
is sealed or held already, under an oid that arrives whole; while the cache is not filled, it
is held already or not sealed. -/
def ReportMatched (m : Moment) (ctx : ConnectorTest) (key : Bytes) : Prop :=
  let oid := cStr ctx.keyOid
  let h := s.willHold oid
  (oid ≠ "" → AccountKept H m ctx.target.username ctx.target.password h) ∧
    if s.filled then key ≠ [] → oid = ctx.keyOid ∧
      ((sealed H (m.nonces 2) key).isSome = true ∨ h.key H = some key)
    else oid ≠ "" → sealed H (m.nonces 2) key = none ∨ h.key H = some key

/-- A key of a device: it cannot be sealed, a key that was issued stands before it, or it is
held already. -/
def ApiKeyMatched (m : Moment) (oid : String) (key : Bytes) : Prop :=
  let h := s.willHold (cStr oid)
  encrypt H.key (m.nonces 0) key = none ∨ (h.keyEnc.bind (decrypt H.key)).isSome = true ∨
    h.apiKeyEnc.bind (decrypt H.key) = some key

/-- An account: it cannot be sealed; or it has a user name, or the one held is empty, under an
oid that arrives whole; while the cache is not filled, it leaves the one that is held. -/
def AccountMatched (m : Moment) (oid username password : String) : Prop :=
  let h := s.willHold (cStr oid)
  credentialStore H m oid (textBytes username) (textBytes password) = none ∨
    if s.filled then
      cStr oid = oid ∧ (username ≠ "" ∨ h.idEnc.bind (decrypt H.key) = some [])
    else cStr oid ≠ "" → AccountKept H m (textBytes username) (textBytes password) h

/-- **The condition** on what is stored, from the key request on. -/
def StoreMatched : Option Stored → Prop
  | none => True
  | some (.report m ctx key) => s.asked = true → ctx.keyOid ≠ "" → ReportMatched H s m ctx key
  | some (.apiKey m oid key) => s.asked = true → cStr oid ≠ "" → ApiKeyMatched H s m oid key
  | some (.account m oid username password) =>
      s.asked = true → AccountMatched H s m oid username password

/-- What a step stores. -/
def stores : KeyStep → Option Stored
  | .test request seqNo payload m => routeStores H m s.cache request seqNo payload
  | .refresh p d m => refreshStores m s.cache p d
  | .settle i res m => s.waits[i]?.bind fun k => resumeStores H k (res, m)
  | .setup | .arrive _ | .fill => none

/-- The statement of an update does not fail: its expiry is a time. -/
def CallSucceeds : KeyStep → Prop
  | .arrive now => ∀ state wire u, s.wire = .credentialState state :: wire →
      readState state = .ok (some u) → (u.excluded sql now).isSome = true
  | _ => True

end Condition

section Decidable

variable {H : Host} {s : KeyFleet} {m : Moment}

instance {id pw : Bytes} {h : Held} : Decidable (AccountKept H m id pw h) :=
  inferInstanceAs (Decidable (_ = _))

instance {ctx : ConnectorTest} {key : Bytes} : Decidable (ReportMatched H s m ctx key) :=
  by dsimp only [ReportMatched]; infer_instance

instance {oid : String} {key : Bytes} : Decidable (ApiKeyMatched H s m oid key) :=
  inferInstanceAs (Decidable (_ ∨ _ ∨ _))

instance {oid username password : String} :
    Decidable (AccountMatched H s m oid username password) :=
  by dsimp only [AccountMatched]; infer_instance

instance : (st : Option Stored) → Decidable (StoreMatched H s st)
  | none => .isTrue trivial
  | some (.report m ctx key) =>
      inferInstanceAs (Decidable (s.asked = true → ctx.keyOid ≠ "" → ReportMatched H s m ctx key))
  | some (.apiKey m oid key) =>
      inferInstanceAs (Decidable (s.asked = true → cStr oid ≠ "" → ApiKeyMatched H s m oid key))
  | some (.account m oid username password) =>
      inferInstanceAs (Decidable (s.asked = true → AccountMatched H s m oid username password))

end Decidable

/-- The cache is current: it has each key and each account that is held. -/
def CacheCurrent (H : Host) (s : KeyFleet) : Prop :=
  ∀ oid, oid ≠ "" →
    s.cache.issuedKey oid = ((held s.credentials s.devices oid).key H).getD [] ∧
      s.cache.credentialFor oid = (held s.credentials s.devices oid).account H

/-! ### The invariant -/

/-- What the cache shows once it has taken an answer in. -/
def answerShows (H : Host) (doc : Json) : Shown := shown (handleKeyState H (.json doc) {})

/-- What holds between steps: the cache is filled once at most, and it, or the answer awaited,
shows what the tables will hold. -/
structure Mirrors (H : Host) (sql : SqlTime) (s : KeyFleet) : Prop where
  tracks : LateFill.Tracks ToEngined.act ToEngined.asks (shows H) (held s.credentials s.devices)
    s.wire (s.answers.map (answerShows H)) s.filled (shown s.cache)
  answers : ∀ doc ∈ s.answers, ∃ credentials devices,
    doc = keysDocument sql (true, true) credentials devices
  once : s.wire.countP ToEngined.asks + s.answers.length + s.filled.toNat = s.asked.toNat

section Mirrors

variable {H : Host} {sql : SqlTime} {s s' : KeyFleet}

/-- An answer of engined, taken in. -/
lemma shown_handleKeyState (credentials : CredentialTable) (devices : SaseTable) (c : KeyCache) :
    shown (handleKeyState H (.json (keysDocument sql (true, true) credentials devices)) c)
      = shows H (held credentials devices) := by
  obtain ⟨c', hread, hshown⟩ := shown_keysDocument (H := H) sql credentials devices c
  rw [handleKeyState, hread]
  exact hshown

/-- The answers not taken in yet, where the cache is filled or was not asked for. -/
lemma Mirrors.pending_eq_nil (h : Mirrors H sql s) (hnone : s.filled = true ∨ s.asked = false) :
    s.answers.map (answerShows H) ++ LateFill.toCome ToEngined.act ToEngined.asks (shows H)
      (held s.credentials s.devices) s.wire = [] := by
  have honce := h.once
  have hcount : s.wire.countP ToEngined.asks = 0 ∧ s.answers.length = 0 := by
    rcases hnone with hfilled | hasked
    · have hle := Bool.toNat_le s.asked
      rw [hfilled, Bool.toNat_true] at honce
      omega
    · rw [hasked, Bool.toNat_false] at honce
      omega
  have hwire : ∀ m ∈ s.wire, m.asks = false := fun m hm =>
    Bool.eq_false_iff.mpr (List.countP_eq_zero.mp hcount.1 m hm)
  rw [List.length_eq_zero_iff.mp hcount.2, LateFill.toCome_eq_nil hwire]
  rfl

/-- **An update is sent**, and noted. -/
lemma mirrors_send {m : ToEngined} {cache : KeyCache} (h : Mirrors H sql s)
    (hm : m.asks = false)
    (hfilled : s.filled = true → shown cache = shows H (ToEngined.act s.willHold m))
    (hawaited : s.asked = true → s.filled = false →
      shows H (ToEngined.act s.willHold m) = shows H s.willHold) :
    Mirrors H sql { s with cache, wire := s.wire ++ [m] } := by
  refine ⟨?_, h.answers, ?_⟩
  · refine h.tracks.send hfilled (fun hasks => ?_) fun hpending => ?_
    · rw [hm] at hasks
      cases hasks
    · refine hawaited ?_ ?_
      · exact Bool.not_eq_false _ ▸ fun hasked => hpending (h.pending_eq_nil (.inr hasked))
      · exact Bool.not_eq_true _ ▸ fun hfull => hpending (h.pending_eq_nil (.inl hfull))
  · have honce := h.once
    show (s.wire ++ [m]).countP ToEngined.asks + s.answers.length + s.filled.toNat = s.asked.toNat
    rw [List.countP_append, List.countP_singleton, hm, if_neg Bool.false_ne_true]
    omega

/-- The cache shows what will be held. -/
lemma Mirrors.shown_eq (h : Mirrors H sql s) (hfilled : s.filled = true) :
    shown s.cache = shows H s.willHold :=
  h.tracks.mirror_eq hfilled

end Mirrors

end Pretzel.Fleet
