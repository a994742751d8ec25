import Pretzel.Collectord.StatusController
import Pretzel.Engined.ApiCredentialService

/-!
What a keygen test leaves of the stored secrets: collectord's test, and engined's
application of the update that comes of it.

* `KeygenTest`: a test, with all it meets. `applyAll`: the table after the updates
  among what it sent.
* `issued`: the key the exchange gave for the account that was tried.
* `SecretsKept`: a test that was given no key changes no stored secret, and one
  that was given a key leaves the account that was tried and that key.
* `Spared`: the tests that do. `secretsKept_iff`.
-/

namespace Pretzel.Fleet

open Nlohmann Texts Util Config Staged Collectord Engined

/-! ### A test -/

/-- A keygen test, and what it meets: the master key and the cache, the request,
the moment it starts, and the answers with theirs. -/
structure KeygenTest where
  host : Host
  cache : KeyCache
  seqNo : UInt32
  input : Json
  moment : Moment
  arrivals : List Arrival

/-- The updates of `api_credential_state` among what was sent. -/
def updates (out : List Out) : List Json :=
  out.filterMap fun
    | .credentialState state => some state
    | _ => none

/-- `api_credential_state` once engined has applied the updates among what was
sent. -/
def applyAll (sql : SqlTime) (now : ℤ) (out : List Out) (t : CredentialTable) : CredentialTable :=
  (updates out).foldl
    (fun t state => ((storeState sql now true (.json state) t).toOption).getD t) t

/-- The secrets of a row. -/
def secrets (r : CredentialRow) :
    Option String × Option String × Option String × Option ℤ × Option ℤ :=
  (r.idEnc, r.pwEnc, r.keyEnc, r.issuedAt, r.expiresAt)

/-- The row of the API key under test. -/
def names (ctx : ConnectorTest) (oid : String) : Bool := ctx.keyOid ≠ "" && oid = cStr ctx.keyOid

/-- The row says the account and the key. -/
def holds (H : Host) (r : CredentialRow) (id pw key : Bytes) : Prop :=
  r.idEnc.bind (decrypt H.key) = some id ∧ r.pwEnc.bind (decrypt H.key) = some pw ∧
    r.keyEnc.bind (decrypt H.key) = some key

namespace KeygenTest

variable (k : KeygenTest)

/-- The test, run. -/
def run : Step :=
  .run (resume k.host) (runKeygenTest k.host k.moment k.cache k.seqNo k.input) k.arrivals

/-- The account that is tried, where an exchange is begun with it, and the key that
came of it. -/
def exchanged : Option (ConnectorTest × Option Bytes) :=
  match keygenPlan k.cache k.seqNo k.input, k.arrivals with
  | .ok (.keygen ctx), (res, _) :: _ => some (ctx, deviceKey res)
  | .ok (.token ctx), (res, _) :: _ => some (ctx, serverToken k.host res)
  | _, _ => none

/-- The test was given a key for the account that it tried. -/
def issued : Option (ConnectorTest × Bytes) :=
  k.exchanged.bind fun x => x.2.map fun key => (x.1, key)

/-- **A failed test changes no working secret**: without a key every stored row
has the secrets it had, and with one the row of the API key has the account that
was tried, and the key. -/
def SecretsKept (sql : SqlTime) (now : ℤ) (t : CredentialTable) : Prop :=
  ∀ oid row, t.lookup oid = some row → ∃ row', (applyAll sql now k.run.out t).lookup oid = some row' ∧
    match k.issued with
    | none => secrets row' = secrets row
    | some (ctx, key) =>
        if names ctx oid then holds k.host row' ctx.target.username ctx.target.password key
        else secrets row' = secrets row

end KeygenTest

/-! ### The tests that keep to it -/

/-- What engined is given of a plaintext leaves the column as it is. -/
def Leaves (H : Host) (nonce : Option (Vector UInt8 12)) (plain : Bytes)
    (stored : Option String) : Prop :=
  ∀ s, sealed H nonce plain = some s → stored = some s

/-- The account and the key of a report leave the row as it is. -/
def Untouched (H : Host) (m : Moment) (now : ℤ) (t : TestTarget) (key : Bytes)
    (r : CredentialRow) : Prop :=
  Leaves H (m.nonces 0) t.username r.idEnc ∧ Leaves H (m.nonces 1) t.password r.pwEnc ∧
    ∀ s, sealed H (m.nonces 2) key = some s → r.keyEnc = some s ∧ r.issuedAt = some now

/-- The column comes to open to the plaintext, if the report arrives. -/
def Reaches (H : Host) (arrives : Prop) (nonce : Option (Vector UInt8 12)) (plain : Bytes)
    (stored : Option String) : Prop :=
  (arrives ∧ (sealed H nonce plain).isSome = true) ∨ stored.bind (decrypt H.key) = some plain

/-- The account and the key of a report come to be those of the row. -/
def Arrived (H : Host) (arrives : Prop) (m : Moment) (t : TestTarget) (key : Bytes)
    (r : CredentialRow) : Prop :=
  Reaches H arrives (m.nonces 0) t.username r.idEnc ∧
    Reaches H arrives (m.nonces 1) t.password r.pwEnc ∧
    Reaches H arrives (m.nonces 2) key r.keyEnc

/-- The text a device's refusal is reported with, where it is the device's. -/
def deviceNote (res : ClientResponse) : Bytes :=
  if !res.tlsOk then res.error else if !res.pinMatched then [] else xmlErrorMessage res.body

/-- The refusal of the auth server is reported: its text is one, and the members
that are read of its answer are. -/
def serverReports (H : Host) (res : ClientResponse) : Bool :=
  if !res.tlsOk then isUtf8 res.error
  else if res.status ≠ 200 then (saseRefusal H res).isOk
  else (accessToken H res).isOk

/-- The life of a token is read, and its end is a time. -/
def tokenArrives (H : Host) (sql : SqlTime) (m : Moment) (res : ClientResponse) : Prop :=
  match expiresIn H res with
  | .error _ => False
  | .ok seconds => (sql.timeOf (if 0 < seconds then m.expiry seconds else "")).isSome = true

namespace KeygenTest

variable (k : KeygenTest)

/-- **The tests that keep to it.** Where no key is issued, none is reported of the
row, or nothing of the account and of the key already issued can be sealed; where
one is, all three are sealed and arrive. -/
def Spared (sql : SqlTime) (now : ℤ) (t : CredentialTable) : Prop :=
  match keygenPlan k.cache k.seqNo k.input, k.arrivals with
  | .ok (.stored ctx key), _ => ∀ oid row, names ctx oid = true → t.lookup oid = some row →
      Untouched k.host k.moment now ctx.target key row
  | .ok (.keygen ctx), (res, m) :: _ => ∀ oid row, names ctx oid = true → t.lookup oid = some row →
      match deviceKey res with
      | none => isUtf8 (deviceNote res) = true → Untouched k.host m now ctx.target [] row
      | some key => Arrived k.host True m ctx.target key row
  | .ok (.token ctx), (res, m) :: _ => ∀ oid row, names ctx oid = true → t.lookup oid = some row →
      match serverToken k.host res with
      | none => serverReports k.host res = true → Untouched k.host m now ctx.target [] row
      | some token => Arrived k.host (tokenArrives k.host sql m res) m ctx.target token row
  | _, _ => True

end KeygenTest

/-! ### The update of a test -/

/-- The note of a report. -/
def noteOf (ctx : ConnectorTest) (key : Bytes) : Bytes :=
  if key = [] then ctx.out.textAt "message" else textBytes "API key generated"

/-- The update `finishKeygen` sends, if it sends one. -/
def updateOf (H : Host) (m : Moment) (ctx : ConnectorTest) (key : Bytes) : Option Json :=
  if ctx.keyOid = "" then none
  else (credentialState H m ctx.keyOid ctx.target.username ctx.target.password key ctx.expiresAt
    (key ≠ []) (noteOf ctx key)).dump

lemma updates_append (out out' : List Out) :
    updates (out ++ out') = updates out ++ updates out' :=
  List.filterMap_append

/-- An answer is no update. -/
lemma updates_sendTestResponse (seqNo : UInt32) (out : Draft) :
    updates (sendTestResponse seqNo out).out = [] := by
  rw [sendTestResponse]
  split
  · rfl
  · split <;> rfl

lemma textAt_keygenReport (ctx : ConnectorTest) (key : Bytes) :
    (keygenReport ctx key).textAt "message" = noteOf ctx key := by
  rw [keygenReport, noteOf]
  dsimp only
  by_cases hkey : key = []
  · rw [if_pos hkey, if_pos hkey, Draft.textAt_put, if_neg (by decide)]
  · rw [if_neg hkey, if_neg hkey]
    split <;> simp [Draft.asText, Draft.str]

/-- The report of a test that ends, up to its last member. -/
lemma updates_finishKeygen (H : Host) (m : Moment) (ctx : ConnectorTest) (key : Bytes) :
    updates (finishKeygen H m ctx key).out = (updateOf H m ctx key).toList := by
  have hsent : ∀ (note : Bytes) (next : Step), updates next.out = [] →
      updates (sendApiCredentialState H m ctx.keyOid ctx.target.username ctx.target.password key
        ctx.expiresAt (key ≠ []) note next).out =
      ((credentialState H m ctx.keyOid ctx.target.username ctx.target.password key ctx.expiresAt
        (key ≠ []) note).dump).toList := by
    intro note next hnext
    rw [sendApiCredentialState]
    split
    · next hdump =>
        rw [hdump]
        rfl
    · next state hdump =>
        rw [hdump]
        exact congrArg (state :: ·) hnext
  have hnoted : ∀ out, updates (Stage.emit (.rememberIssuedKey ctx.keyOid key)
      (sendTestResponse ctx.seqNo out)).out = [] :=
    fun out => updates_sendTestResponse ctx.seqNo out
  rw [finishKeygen, updateOf]
  rw [textAt_keygenReport]
  split
  · exact updates_sendTestResponse _ _
  · split
    · exact hsent _ _ (updates_sendTestResponse _ _)
    · exact hsent _ _ (hnoted _)

section Update

variable {H : Host} {m : Moment} {sql : SqlTime} {now : ℤ} {ctx : ConnectorTest} {key : Bytes}

/-- A sealed text is a parameter that is neither empty nor cut. -/
lemma nullIf_sealed {nonce : Option (Vector UInt8 12)} {plain : Bytes} :
    nullIf ((sealed H nonce plain).getD "") = sealed H nonce plain := by
  cases hsealed : sealed H nonce plain with
  | none => rfl
  | some text =>
      rw [sealed] at hsealed
      split at hsealed
      · cases hsealed
      · have hcut : cStr text = text := cStr_eq_self (encrypt_no_nul hsealed)
        rw [Option.getD_some, nullIf, hcut, if_neg (encrypt_ne_empty hsealed)]

/-- The update of a report, as engined reads it. -/
def reportUpdate (H : Host) (m : Moment) (ctx : ConnectorTest) (key : Bytes) (note : String) :
    StateUpdate :=
  { oid := ctx.keyOid
    idEnc := (sealed H (m.nonces 0) ctx.target.username).getD ""
    pwEnc := (sealed H (m.nonces 1) ctx.target.password).getD ""
    secretEnc := (sealed H (m.nonces 2) key).getD ""
    expiresAt := ctx.expiresAt, hasTest := true, ok := key ≠ [], note }

/-- The row the update of a report would insert. -/
def reportRow (H : Host) (m : Moment) (now : ℤ) (t : TestTarget) (key : Bytes)
    (expiresAt : Option ℤ) (note : String) : CredentialRow :=
  { idEnc := sealed H (m.nonces 0) t.username
    pwEnc := sealed H (m.nonces 1) t.password
    keyEnc := sealed H (m.nonces 2) key
    issuedAt := (sealed H (m.nonces 2) key).map fun _ => now
    expiresAt, lastTestAt := some now, lastTestOk := some (key ≠ [])
    lastTestNote := some (cStr note) }

lemma excluded_reportUpdate {expires : Option ℤ} {note : String}
    (h : sql.timeOf ctx.expiresAt = some expires) :
    (reportUpdate H m ctx key note).excluded sql now =
      some (reportRow H m now ctx.target key expires note) := by
  rw [StateUpdate.excluded, reportUpdate, h]
  simp only [nullIf_sealed]
  rfl

/-- What engined reads of an update. -/
lemma readState_updateOf {j : Json} (h : updateOf H m ctx key = some j) :
    ∃ note, readState j = .ok (some (reportUpdate H m ctx key note)) := by
  rw [updateOf] at h
  split at h
  · cases h
  · next hoid =>
      have hread (k : String) (o : Option String) (hfind : ((credentialState H m ctx.keyOid
          ctx.target.username ctx.target.password key ctx.expiresAt (key ≠ [])
          (noteOf ctx key)).find? k).bind Draft.dump = o.map .str) :
          j.valueString k "" = .ok (o.getD "") :=
        Draft.valueString_dump isObject_credentialState h hfind ""
      have hsealed (o : Option String) : (o.map Draft.str).bind Draft.dump = o.map .str := by
        cases o <;> rfl
      have hoidRead := hread "oid" (some ctx.keyOid) (by
        simp [find?_credentialState, find?_plainState, Draft.str, Draft.dump])
      have hid := hread "id_enc" (sealed H (m.nonces 0) ctx.target.username) (by
        simp only [find?_credentialState]
        exact hsealed _)
      have hpw := hread "pw_enc" (sealed H (m.nonces 1) ctx.target.password) (by
        simp only [find?_credentialState]
        exact hsealed _)
      have hkey := hread "key_enc" (sealed H (m.nonces 2) key) (by
        simp only [find?_credentialState]
        exact hsealed _)
      have hexpires := hread "expires_at" (if ctx.expiresAt = "" then none else some ctx.expiresAt)
        (by
          simp only [find?_credentialState, find?_plainState]
          by_cases hnone : ctx.expiresAt = ""
          · simp [hnone]
          · simp [hnone, Draft.str, Draft.dump])
      have hnote := hread "note" (utf8Text (noteOf ctx key)) (by
        simp [find?_credentialState, find?_plainState, Draft.dump])
      have hok : j.find? "ok" = some (.bool (key ≠ [])) := by
        rw [Draft.find?_dump isObject_credentialState h]
        simp [find?_credentialState, find?_plainState, Draft.bool, Draft.dump]
      have htest : j.contains "ok" = true := by
        rw [Json.contains, hok]
        rfl
      have hoks : j.valueBool "ok" false = .ok (key ≠ []) := Json.valueBool_of_find? hok
      have hexpiresAt : (if ctx.expiresAt = "" then none else some ctx.expiresAt).getD "" =
          ctx.expiresAt := by
        split
        · next hnone => exact hnone.symm
        · rfl
      rw [hexpiresAt] at hexpires
      refine ⟨(utf8Text (noteOf ctx key)).getD "", ?_⟩
      rw [readState, hoidRead]
      change (if ctx.keyOid = "" then _ else _) = _
      rw [if_neg hoid, hid, hpw, hkey, hexpires, htest, hoks, hnote]
      rfl

/-- What was sent writes the row of the API key, if it arrives, and no other. -/
def Writes (H : Host) (m : Moment) (sql : SqlTime) (now : ℤ) (ctx : ConnectorTest) (key : Bytes)
    (expires : Option ℤ) (arrives : Prop) (out : List Out) : Prop :=
  ∃ note,
    (arrives → ∀ t oid, (applyAll sql now out t).lookup oid = if names ctx oid
      then some ((reportRow H m now ctx.target key expires note).coalesce ((t.lookup oid).getD {}))
      else t.lookup oid) ∧
    (¬ arrives → ∀ t, applyAll sql now out t = t)

/-- **What a report comes to.** -/
lemma writes_of_updates {out : List Out} (h : updates out = (updateOf H m ctx key).toList) :
    Writes H m sql now ctx key ((sql.timeOf ctx.expiresAt).getD none)
      (isUtf8 (noteOf ctx key) = true ∧ (sql.timeOf ctx.expiresAt).isSome = true) out := by
  by_cases hoid : ctx.keyOid = ""
  · rw [updateOf, if_pos hoid] at h
    have hnames (oid : String) : names ctx oid = false := by simp [names, hoid]
    refine ⟨"", fun _ t oid => ?_, fun _ t => ?_⟩
    · rw [applyAll, h, hnames]
      rfl
    · rw [applyAll, h]
      rfl
  have hdump : (updateOf H m ctx key).isSome = isUtf8 (noteOf ctx key) := by
    rw [updateOf, if_neg hoid, Draft.dump_isSome, isText_credentialState]
  cases hj : updateOf H m ctx key with
  | none =>
      rw [hj] at h hdump
      refine ⟨"", fun harrives => ?_, fun _ t => ?_⟩
      · rw [← hdump] at harrives
        exact absurd harrives.1 Bool.false_ne_true
      · rw [applyAll, h]
        rfl
  | some j =>
      rw [hj] at h hdump
      obtain ⟨note, hread⟩ := readState_updateOf hj
      have hstored (t : CredentialTable) :
          applyAll sql now out t = (reportUpdate H m ctx key note).apply sql now true t := by
        rw [applyAll, h]
        change (storeState sql now true (.json j) t).toOption.getD t = _
        rw [storeState, hread]
        rfl
      cases htime : sql.timeOf ctx.expiresAt with
      | none =>
          refine ⟨note, fun harrives => ?_, fun _ t => ?_⟩
          · exact absurd harrives.2 Bool.false_ne_true
          · rw [hstored]
            exact apply_of_timeOf htime
      | some expires =>
          refine ⟨note, fun _ t oid => ?_, fun harrives => ?_⟩
          · rw [hstored, lookup_apply (excluded_reportUpdate htime)]
            refine if_congr ?_ rfl rfl
            rw [names, Bool.and_eq_true, decide_eq_true_iff, decide_eq_true_iff]
            exact (and_iff_right hoid).symm
          · exact absurd ⟨hdump ▸ rfl, rfl⟩ harrives

lemma Writes.congr {expires : Option ℤ} {arrives arrives' : Prop} {out : List Out}
    (h : Writes H m sql now ctx key expires arrives out) (hiff : arrives' ↔ arrives) :
    Writes H m sql now ctx key expires arrives' out := by
  rwa [propext hiff]

/-- A column that a `COALESCE` leaves as it is. -/
lemma or_eq_right_iff {α : Type} {a b : Option α} :
    a.or b = b ↔ ∀ s, a = some s → b = some s := by
  cases a with
  | none => simp
  | some s => simp [eq_comm]

/-- **A report leaves the secrets of a row as they were exactly where it leaves
each column of its own as it was.** -/
lemma secrets_coalesce_iff {note : String} {row : CredentialRow} :
    secrets ((reportRow H m now ctx.target key none note).coalesce row) = secrets row ↔
      Untouched H m now ctx.target key row := by
  simp only [secrets, CredentialRow.coalesce, reportRow, Prod.mk.injEq, Untouched, Leaves]
  rw [or_eq_right_iff, or_eq_right_iff, or_eq_right_iff, or_eq_right_iff]
  have hissued : (∀ s, (sealed H (m.nonces 2) key).map (fun _ => now) = some s →
      row.issuedAt = some s) ↔ ∀ s, sealed H (m.nonces 2) key = some s → row.issuedAt = some now := by
    cases sealed H (m.nonces 2) key with
    | none => simp
    | some s => simp
  rw [hissued]
  simp only [Option.none_or, and_true]
  constructor
  · rintro ⟨hid, hpw, hkey, hat⟩
    exact ⟨hid, hpw, fun s hs => ⟨hkey s hs, hat s hs⟩⟩
  · rintro ⟨hid, hpw, hkey⟩
    exact ⟨hid, hpw, fun s hs => (hkey s hs).1, fun s hs => (hkey s hs).2⟩

/-- The rows after a report, for a property of each row before and after. -/
lemma rows_iff {expires : Option ℤ} {arrives : Prop} {out : List Out} {t : CredentialTable}
    (h : Writes H m sql now ctx key expires arrives out)
    {P : String → CredentialRow → CredentialRow → Prop} :
    ∃ note, (∀ oid row, t.lookup oid = some row →
        ∃ row', (applyAll sql now out t).lookup oid = some row' ∧ P oid row row') ↔
      ∀ oid row, t.lookup oid = some row →
        (arrives ∧ names ctx oid = true →
          P oid row ((reportRow H m now ctx.target key expires note).coalesce row)) ∧
        (¬ (arrives ∧ names ctx oid = true) → P oid row row) := by
  obtain ⟨note, hwrites, hkeeps⟩ := h
  refine ⟨note, forall_congr' fun oid => forall_congr' fun row => imp_congr_right fun hrow => ?_⟩
  have hafter : (applyAll sql now out t).lookup oid = some row ∧ ¬ (arrives ∧ names ctx oid = true) ∨
      (applyAll sql now out t).lookup oid =
        some ((reportRow H m now ctx.target key expires note).coalesce row) ∧
      (arrives ∧ names ctx oid = true) := by
    by_cases harrives : arrives
    · rw [hwrites harrives t oid, hrow]
      cases hnames : names ctx oid with
      | false => exact .inl ⟨rfl, by simp⟩
      | true => exact .inr ⟨rfl, harrives, rfl⟩
    · rw [hkeeps harrives t]
      exact .inl ⟨hrow, fun h => harrives h.1⟩
  rcases hafter with ⟨hlookup, hnot⟩ | ⟨hlookup, hyes⟩
  · rw [hlookup]
    simp [hnot]
  · rw [hlookup]
    simp [hyes]

/-- Without a key: every row keeps its secrets. -/
lemma untouched_iff {arrives : Prop} {out : List Out} {t : CredentialTable}
    (h : Writes H m sql now ctx key none arrives out) :
    (∀ oid row, t.lookup oid = some row → ∃ row',
      (applyAll sql now out t).lookup oid = some row' ∧ secrets row' = secrets row) ↔
    (arrives → ∀ oid row, names ctx oid = true → t.lookup oid = some row →
      Untouched H m now ctx.target key row) := by
  obtain ⟨note, hrows⟩ := @rows_iff H m sql now ctx key none arrives out t h
    fun _ row row' => secrets row' = secrets row
  rw [hrows]
  constructor
  · intro hall harrives oid row hnames hrow
    exact secrets_coalesce_iff.mp ((hall oid row hrow).1 ⟨harrives, hnames⟩)
  · intro hall oid row hrow
    exact ⟨fun hboth => secrets_coalesce_iff.mpr (hall hboth.1 oid row hboth.2 hrow),
      fun _ => rfl⟩

/-- A column after a `COALESCE` opens to the plaintext that was to be sealed. -/
lemma reaches_iff {nonce : Option (Vector UInt8 12)} {plain : Bytes} {stored : Option String} :
    ((sealed H nonce plain).or stored).bind (decrypt H.key) = some plain ↔
      Reaches H True nonce plain stored := by
  rw [Reaches, true_and]
  cases hsealed : sealed H nonce plain with
  | none => simp
  | some s =>
      rw [sealed] at hsealed
      split at hsealed
      · cases hsealed
      · simp [decrypt_encrypt hsealed]

/-- With a key: its row comes to hold it and the account. -/
lemma arrived_iff {expires : Option ℤ} {arrives : Prop} {out : List Out} {t : CredentialTable}
    (h : Writes H m sql now ctx key expires arrives out) :
    (∀ oid row, t.lookup oid = some row → ∃ row',
      (applyAll sql now out t).lookup oid = some row' ∧
        if names ctx oid then holds H row' ctx.target.username ctx.target.password key
        else secrets row' = secrets row) ↔
    (∀ oid row, names ctx oid = true → t.lookup oid = some row →
      Arrived H arrives m ctx.target key row) := by
  obtain ⟨note, hrows⟩ := @rows_iff H m sql now ctx key expires arrives out t h fun oid row row' =>
    if names ctx oid then holds H row' ctx.target.username ctx.target.password key
    else secrets row' = secrets row
  have hnew (row : CredentialRow) :
      holds H ((reportRow H m now ctx.target key expires note).coalesce row) ctx.target.username
        ctx.target.password key ↔ Arrived H True m ctx.target key row :=
    and_congr reaches_iff (and_congr reaches_iff reaches_iff)
  have hold (row : CredentialRow) : holds H row ctx.target.username ctx.target.password key ↔
      Arrived H False m ctx.target key row := by
    simp [holds, Arrived, Reaches]
  rw [hrows]
  refine forall_congr' fun oid => forall_congr' fun row => ?_
  cases hnames : names ctx oid with
  | false => simp
  | true =>
      by_cases harrives : arrives
      · simp [harrives, hnew]
      · simp [harrives, hold]

end Update

/-! ### The callbacks -/

section Callbacks

variable {H : Host} {m : Moment} {sql : SqlTime} {now : ℤ} {ctx : ConnectorTest} {res : ClientResponse}

/-- What is read of a device's answer: its key, and else the text of its refusal. -/
lemma readKeygenKey_spec (hadPin : Bool) (out : Draft) :
    (readKeygenKey res hadPin out).1 = (deviceKey res).getD [] ∧
      (deviceKey res = none → isUtf8 ((readKeygenKey res hadPin out).2.textAt "message") =
        isUtf8 (deviceNote res)) := by
  rw [readKeygenKey, recordTlsStep, deviceKey, deviceNote]
  cases htls : res.tlsOk with
  | false => simp [Draft.asText]
  | true =>
      cases hpin : res.pinMatched with
      | false =>
          simp [Draft.asText, Draft.str]
      | true =>
          by_cases hstatus : res.status = 200
          · cases hkey : extractXmlTag res.body "key" <;> simp [hstatus, Draft.asText]
          · simp [hstatus, Draft.asText]

/-- A report, with whatever else the test has found out. -/
lemma writes_finishKeygen (ctx : ConnectorTest) (out : Draft) (expiresAt : String) (key : Bytes) :
    Writes H m sql now ctx key ((sql.timeOf expiresAt).getD none)
      (isUtf8 (noteOf { ctx with out } key) = true ∧
        (sql.timeOf expiresAt).isSome = true)
      (finishKeygen H m { ctx with out, expiresAt } key).out :=
  writes_of_updates (updates_finishKeygen H m { ctx with out, expiresAt } key)

/-- A report of a failure. -/
lemma writes_refused (ctx : ConnectorTest) (out : Draft) :
    Writes H m sql now ctx [] none (isUtf8 (out.textAt "message") = true)
      (finishKeygen H m { ctx with out, expiresAt := "" } []).out :=
  (writes_finishKeygen ctx out "" []).congr (and_iff_left rfl).symm

/-- A report of a key. -/
lemma writes_issued (ctx : ConnectorTest) (out : Draft) (expiresAt : String) {key : Bytes}
    (hkey : key ≠ []) :
    Writes H m sql now ctx key ((sql.timeOf expiresAt).getD none)
      ((sql.timeOf expiresAt).isSome = true)
      (finishKeygen H m { ctx with out, expiresAt } key).out := by
  refine (writes_finishKeygen ctx out expiresAt key).congr (and_iff_right ?_).symm
  rw [noteOf, if_neg hkey]
  exact isUtf8_textBytes _

lemma onKeygen_eq : onKeygen H m ctx res =
    finishKeygen H m
      { ctx with out := (readKeygenKey res (ctx.target.fingerprint ≠ "") ctx.out).2 }
      (readKeygenKey res (ctx.target.fingerprint ≠ "") ctx.out).1 := rfl

/-- A device without a key: the account is reported, if the refusal is text. -/
lemma writes_onKeygen_refused (hexpires : ctx.expiresAt = "") (h : deviceKey res = none) :
    Writes H m sql now ctx [] none (isUtf8 (deviceNote res) = true)
      (onKeygen H m ctx res).out := by
  obtain ⟨hkey, hnote⟩ := @readKeygenKey_spec res (ctx.target.fingerprint ≠ "") ctx.out
  rw [h, Option.getD_none] at hkey
  rw [← hnote h, onKeygen_eq, hkey, hexpires]
  exact writes_refused ctx _

/-- A device with a key: the account and the key are reported. -/
lemma writes_onKeygen_issued (hexpires : ctx.expiresAt = "") {key : Bytes}
    (h : deviceKey res = some key) :
    Writes H m sql now ctx key none True (onKeygen H m ctx res).out := by
  obtain ⟨hkey, -⟩ := @readKeygenKey_spec res (ctx.target.fingerprint ≠ "") ctx.out
  rw [h, Option.getD_some] at hkey
  rw [onKeygen_eq, hkey, hexpires]
  exact (writes_issued ctx _ "" (deviceKey_ne_nil h)).congr (iff_of_true trivial rfl)

/-- A report of a key already issued. -/
lemma writes_stored (hexpires : ctx.expiresAt = "") {key : Bytes} (hkey : key ≠ []) :
    Writes H m sql now ctx key none True (finishKeygen H m ctx key).out := by
  have hctx : { ctx with expiresAt := "" } = ctx := by rw [← hexpires]
  have hwrites := @writes_issued H m sql now ctx ctx.out "" key hkey
  rw [hctx] at hwrites
  exact hwrites.congr (iff_of_true trivial rfl)

/-- A stage that throws writes nothing. -/
lemma writes_throws {key : Bytes} {expires : Option ℤ} {arrives : Prop} {e : Fault}
    (h : ¬ arrives) : Writes H m sql now ctx key expires arrives (Stage.throws e : Step).out :=
  ⟨"", fun harrives => absurd harrives h, fun _ _ => rfl⟩

/-- The auth server without a token: the account is reported, if its refusal is. -/
lemma writes_onSaseResponse_refused (hexpires : ctx.expiresAt = "") (h : serverToken H res = none) :
    Writes H m sql now ctx [] none (serverReports H res = true) (onSaseResponse H m ctx res).out := by
  rw [onSaseResponse, serverReports, hexpires]
  dsimp only
  rw [serverToken] at h
  cases htls : res.tlsOk with
  | false =>
      refine (writes_refused ctx _).congr ?_
      rw [Draft.textAt_put, if_pos rfl, Draft.asText, isUtf8_orElse]
      rfl
  | true =>
      rw [htls] at h
      by_cases hstatus : res.status = 200
      · simp only [hstatus, ne_eq, not_true_eq_false, if_false, Bool.not_true, Bool.false_eq_true,
          decide_true, Bool.and_true, if_true] at h ⊢
        cases htoken : accessToken H res with
        | error e => exact writes_throws Bool.false_ne_true
        | ok token =>
            rw [htoken] at h
            dsimp only at h
            split at h
            · next hnone =>
                subst hnone
                refine (writes_refused ctx _).congr ?_
                simp [Draft.asText, Draft.str, Except.isOk, Except.toBool]
            · cases h
      · simp only [hstatus, ne_eq, not_false_eq_true, if_true, Bool.not_true, Bool.false_eq_true,
          if_false]
        cases hrefusal : saseRefusal H res with
        | error e => exact writes_throws Bool.false_ne_true
        | ok detail =>
            refine (writes_refused ctx _).congr ?_
            simp [Draft.asText, Draft.str, Except.isOk, Except.toBool]

/-- The auth server with a token: the account and the token are reported, if the
life of the token is read and its end is a time. -/
lemma writes_onSaseResponse_issued (hexpires : ctx.expiresAt = "") {token : Bytes}
    (h : serverToken H res = some token) : ∃ expires,
    Writes H m sql now ctx token expires (tokenArrives H sql m res)
      (onSaseResponse H m ctx res).out := by
  rw [serverToken] at h
  split at h
  · next hanswered =>
      obtain ⟨htls, hstatus⟩ := Bool.and_eq_true_iff.mp hanswered
      rw [decide_eq_true_iff] at hstatus
      cases htoken : accessToken H res with
      | error e =>
          rw [htoken] at h
          cases h
      | ok text =>
          rw [htoken] at h
          dsimp only at h
          split at h
          · cases h
          · next hne =>
              cases h
              have hbytes : textBytes text ≠ [] := fun hnil => hne (textBytes_eq_nil.mp hnil)
              simp only [onSaseResponse, tokenArrives, hexpires, htls, hstatus, htoken, ne_eq,
                not_true_eq_false, if_false, Bool.not_true, Bool.false_eq_true, ofRead_ok, hne]
              cases hseconds : expiresIn H res with
              | error e => exact ⟨none, writes_throws id⟩
              | ok seconds => exact ⟨_, writes_issued ctx _ _ hbytes⟩
  · cases h

end Callbacks

/-! ### The run of a test -/

/-- A test under way has no expiry yet, and a key already issued is one. -/
lemma keygenPlan_spec {cache : KeyCache} {seqNo : UInt32} {input : Json} {plan : KeygenPlan}
    (h : keygenPlan cache seqNo input = .ok plan) :
    (∀ ctx, plan = .keygen ctx → ctx.expiresAt = "") ∧
      (∀ ctx, plan = .token ctx → ctx.expiresAt = "") ∧
      ∀ ctx key, plan = .stored ctx key → ctx.expiresAt = "" ∧ key ≠ [] := by
  rw [keygenPlan] at h
  obtain ⟨keyOid, -, h⟩ := except_bind_eq_ok.mp h
  obtain ⟨target, -, h⟩ := except_bind_eq_ok.mp h
  dsimp only at h
  split at h
  · cases h
    simp
  · split at h
    · split at h <;> cases h <;> simp
    · split at h
      · split at h <;> cases h <;> simp
      · next hne =>
          cases h
          simp only [reduceCtorEq, false_implies, implies_true, true_and, KeygenPlan.stored.injEq]
          rintro ctx key ⟨rfl, rfl⟩
          exact ⟨rfl, hne⟩

/-- What is answered where a start fails is no update. -/
lemma updates_guard {H : Host} {seqNo : UInt32} {what : String} (s : Step) :
    updates (Stage.guard (startFailed H seqNo what) s).out = updates s.out := by
  rw [Stage.guard]
  split
  · rw [updates_append, startFailed, updates_sendTestResponse, List.append_nil]
  · rfl
  · rfl

namespace KeygenTest

variable {k : KeygenTest}

/-- The updates of a test that waits for nothing. -/
lemma updates_run_settled {s : Step} (h : s.Settled)
    (hstart : ofRead (keygenPlan k.cache k.seqNo k.input) (keygenStart k.host k.moment k.seqNo) = s) :
    updates k.run.out = updates s.out := by
  have hsettled : (Stage.guard (startFailed k.host k.seqNo "test could not be started: ") s).Settled :=
    Stage.settled_guard h fun e => settled_sendTestResponse _ _
  rw [run, runKeygenTest, hstart, Stage.run_of_settled hsettled, updates_guard]

/-- The updates of a test that waits. -/
lemma updates_run_waits {r : ClientRequest} {w : Wait}
    (hstart : ofRead (keygenPlan k.cache k.seqNo k.input) (keygenStart k.host k.moment k.seqNo) =
      requestAsync r w) {arrival : Arrival} {rest : List Arrival}
    (harrivals : k.arrivals = arrival :: rest) (hsettled : (resume k.host w arrival).Settled) :
    updates k.run.out = updates (resume k.host w arrival).out := by
  rw [run, runKeygenTest, hstart, harrivals]
  change updates (Stage.run _ (requestAsync r w) _).out = _
  rw [Stage.run_of_waits rfl, updates_append, Stage.run_of_settled hsettled]
  rfl

/-- Without an answer there are none. -/
lemma updates_run_waiting {r : ClientRequest} {w : Wait}
    (hstart : ofRead (keygenPlan k.cache k.seqNo k.input) (keygenStart k.host k.moment k.seqNo) =
      requestAsync r w) (harrivals : k.arrivals = []) : updates k.run.out = [] := by
  rw [run, runKeygenTest, hstart, harrivals]
  rfl

/-- A test that sends no update. -/
lemma secretsKept_of_quiet {sql : SqlTime} {now : ℤ} {t : CredentialTable} (h : updates k.run.out = [])
    (hissued : k.issued = none) : k.SecretsKept sql now t := by
  intro oid row hrow
  refine ⟨row, ?_, ?_⟩
  · rw [applyAll, h]
    exact hrow
  · rw [hissued]

/-- A report that is all a test sends, without a key. -/
lemma secretsKept_iff_of_refused {sql : SqlTime} {now : ℤ} {t : CredentialTable} {m : Moment}
    {ctx : ConnectorTest} {key : Bytes} {arrives : Prop} {out : List Out}
    (hout : updates k.run.out = updates out) (hissued : k.issued = none)
    (h : Writes k.host m sql now ctx key none arrives out) :
    k.SecretsKept sql now t ↔ (arrives → ∀ oid row, names ctx oid = true →
      t.lookup oid = some row → Untouched k.host m now ctx.target key row) := by
  rw [← untouched_iff h, SecretsKept, hissued, applyAll, applyAll, hout]

/-- A report that is all a test sends, with a key. -/
lemma secretsKept_iff_of_issued {sql : SqlTime} {now : ℤ} {t : CredentialTable} {m : Moment}
    {ctx : ConnectorTest} {key : Bytes} {expires : Option ℤ} {arrives : Prop} {out : List Out}
    (hout : updates k.run.out = updates out) (hissued : k.issued = some (ctx, key))
    (h : Writes k.host m sql now ctx key expires arrives out) :
    k.SecretsKept sql now t ↔ (∀ oid row, names ctx oid = true →
      t.lookup oid = some row → Arrived k.host arrives m ctx.target key row) := by
  rw [← arrived_iff h, SecretsKept, hissued, applyAll, applyAll, hout]

/-- **A test that asks first** is judged by the answer, if one arrives. -/
lemma secretsKept_iff_of_asked {sql : SqlTime} {now : ℤ} {t : CredentialTable} {r : ClientRequest}
    {w : Wait} {ctx : ConnectorTest} {key : ClientResponse → Option Bytes}
    {reports : ClientResponse → Bool} {arrives : ClientResponse → Moment → Prop}
    (hstart : ofRead (keygenPlan k.cache k.seqNo k.input) (keygenStart k.host k.moment k.seqNo) =
      requestAsync r w)
    (hsettled : ∀ arrival, (resume k.host w arrival).Settled)
    (hexchanged : k.exchanged = k.arrivals.head?.map fun arrival => (ctx, key arrival.1))
    (hrefused : ∀ res m, key res = none →
      Writes k.host m sql now ctx [] none (reports res = true) (resume k.host w (res, m)).out)
    (hissued : ∀ res m given, key res = some given → ∃ expires,
      Writes k.host m sql now ctx given expires (arrives res m) (resume k.host w (res, m)).out) :
    k.SecretsKept sql now t ↔ ∀ arrival, k.arrivals.head? = some arrival → ∀ oid row,
      names ctx oid = true → t.lookup oid = some row →
        match key arrival.1 with
        | none => reports arrival.1 = true → Untouched k.host arrival.2 now ctx.target [] row
        | some given =>
            Arrived k.host (arrives arrival.1 arrival.2) arrival.2 ctx.target given row := by
  cases harrivals : k.arrivals with
  | nil =>
      have hquiet : k.issued = none := by
        rw [issued, hexchanged, harrivals]
        rfl
      refine iff_of_true (secretsKept_of_quiet (updates_run_waiting hstart harrivals) hquiet) ?_
      intro arrival hnone
      cases hnone
  | cons arrival rest =>
      obtain ⟨res, m⟩ := arrival
      have hout := updates_run_waits hstart harrivals (hsettled (res, m))
      have hgiven : k.issued = (key res).map fun given => (ctx, given) := by
        rw [issued, hexchanged, harrivals]
        rfl
      simp only [List.head?_cons, Option.some.injEq, forall_eq']
      cases hkey : key res with
      | none =>
          rw [hkey] at hgiven
          rw [secretsKept_iff_of_refused hout hgiven (hrefused res m hkey)]
          exact ⟨fun h oid row hn hrow hu => h hu oid row hn hrow,
            fun h hu oid row hn hrow => h oid row hn hrow hu⟩
      | some given =>
          rw [hkey] at hgiven
          obtain ⟨expires, hwrites⟩ := hissued res m given hkey
          exact secretsKept_iff_of_issued hout hgiven hwrites

/-- **A keygen test changes no working secret exactly where it is spared.** -/
theorem secretsKept_iff (k : KeygenTest) (sql : SqlTime) (now : ℤ) (t : CredentialTable) :
    k.SecretsKept sql now t ↔ k.Spared sql now t := by
  rw [Spared]
  cases hplan : keygenPlan k.cache k.seqNo k.input with
  | error e =>
      have hquiet : k.issued = none := by
        rw [issued, exchanged, hplan]
        rfl
      refine iff_of_true (secretsKept_of_quiet ?_ hquiet) trivial
      rw [updates_run_settled Stage.settled_throws (by rw [hplan]; rfl)]
      rfl
  | ok plan =>
      obtain ⟨hkeygen, htoken, hstored⟩ := keygenPlan_spec hplan
      cases plan with
      | reject message =>
          have hquiet : k.issued = none := by
            rw [issued, exchanged, hplan]
            rfl
          refine iff_of_true (secretsKept_of_quiet ?_ hquiet) trivial
          rw [updates_run_settled (settled_sendTestResponse k.seqNo (failure message))
            (by rw [hplan]; rfl)]
          exact updates_sendTestResponse _ _
      | stored ctx key =>
          have hquiet : k.issued = none := by
            rw [issued, exchanged, hplan]
            rfl
          obtain ⟨hexpires, hne⟩ := hstored ctx key rfl
          have hout := updates_run_settled (settled_finishKeygen k.host k.moment ctx key)
            (by rw [hplan]; rfl)
          rw [secretsKept_iff_of_refused hout hquiet (writes_stored hexpires hne)]
          exact true_imp_iff
      | keygen ctx =>
          have hexpires := hkeygen ctx rfl
          have hstart : ofRead (.ok (.keygen ctx)) (keygenStart k.host k.moment k.seqNo) =
              requestAsync (buildKeygenRequest ctx.target) (.keygen ctx) := rfl
          have hexchanged : k.exchanged =
              k.arrivals.head?.map fun arrival => (ctx, deviceKey arrival.1) := by
            rw [exchanged, hplan]
            cases k.arrivals <;> rfl
          rw [← hplan] at hstart
          refine (secretsKept_iff_of_asked hstart
            (fun arrival => settled_finishKeygen k.host arrival.2 _ _) hexchanged
            (fun res m hnone => writes_onKeygen_refused hexpires hnone)
            (fun res m key hkey => ⟨none, writes_onKeygen_issued hexpires hkey⟩)).trans ?_
          cases k.arrivals with
          | nil => simp
          | cons arrival rest => simp only [List.head?_cons, Option.some.injEq, forall_eq']
      | token ctx =>
          have hexpires := htoken ctx rfl
          have hstart : ofRead (.ok (.token ctx)) (keygenStart k.host k.moment k.seqNo) =
              requestAsync (saseTokenRequest ctx.target) (.saseToken ctx) := rfl
          have hexchanged : k.exchanged =
              k.arrivals.head?.map fun arrival => (ctx, serverToken k.host arrival.1) := by
            rw [exchanged, hplan]
            cases k.arrivals <;> rfl
          rw [← hplan] at hstart
          refine (secretsKept_iff_of_asked hstart
            (fun arrival => settled_onSaseResponse k.host arrival.2 _ _) hexchanged
            (fun res m hnone => writes_onSaseResponse_refused hexpires hnone)
            (fun res m token htoken => writes_onSaseResponse_issued hexpires htoken)).trans ?_
          cases k.arrivals with
          | nil => simp
          | cons arrival rest => simp only [List.head?_cons, Option.some.injEq, forall_eq']

end KeygenTest

/-! ### A password mistyped -/

/-- A nonce by its last byte. -/
def lastByte (b : UInt8) : Vector UInt8 12 := #v[0, 0, 0, 0, 0, 0, 0, 0, 0, 0, 0, b]

/-- AES-256-GCM under the key of the bytes 0 to 31, at the two nonces of the test. -/
def gcm : Gcm := .ofStream
  (fun nonce => if nonce = lastByte 0 then [14, 188, 181, 222, 181] else [21, 214, 191, 252])
  fun nonce _ =>
    if nonce = lastByte 0 then
      #v[159, 224, 130, 125, 254, 157, 208, 83, 197, 92, 74, 130, 227, 27, 175, 71]
    else #v[54, 119, 90, 33, 139, 77, 184, 118, 60, 101, 162, 92, 125, 82, 5, 226]

/-- The row of an API key that works, as it was sealed under that key. -/
def workingRow : CredentialRow :=
  { idEnc := some "AAAAAAAAAAAAAAADNp2n33Hq5wBeFnb1mbjoemxAY9o4"
    pwEnc := some "AAAAAAAAAAAAAAAEnaLHENtIKPf1ecFHtyJEO2khqmn9"
    keyEnc := some "AAAAAAAAAAAAAAAFMbS7uSa0opW9WC+PoMJlh9T0hDCT6qRw"
    issuedAt := some 10, lastTestAt := some 10, lastTestOk := some true
    lastTestNote := some "API key generated" }

/-- The device refuses the password. -/
def refusal : ClientResponse :=
  { tlsOk := true, pinMatched := true, requestSent := true, status := 403
    fingerprint := textBytes "AA:BB"
    body := textBytes ("<response status = 'error' code = '403'><result><msg>Invalid Credential" ++
      "</msg></result></response>") }

/-- A keygen test in which the operator has mistyped the password. -/
def mistyped : KeygenTest :=
  { host := { key := some gcm, parse := fun _ => none, what := fun _ => "" }
    cache := {}
    seqNo := 7
    input := .obj [("device_type", .str "ngfw"), ("endpoint", .str ""), ("fingerprint", .str "AA:BB"),
      ("oid", .str "k1"), ("secrets", .obj [("password", .str "typo"), ("username", .str "admin")]),
      ("stored_credential", .bool true), ("target", .str "10.0.0.1")]
    moment := { nonces := fun _ => none, expiry := fun _ => "" }
    arrivals := [(refusal,
      { nonces := fun i => some (lastByte (UInt8.ofNat i)), expiry := fun _ => "" })] }

/-- The password a test has failed with takes the place of the one that worked. -/
theorem password_lost_on_failed_test :
    ¬ mistyped.SecretsKept ⟨fun _ => none, fun _ => ""⟩ 20 (AList.insert "k1" workingRow ∅) := by
  have hlost : mistyped.issued.isNone = true ∧
      ((applyAll ⟨fun _ => none, fun _ => ""⟩ 20 mistyped.run.out
        (AList.insert "k1" workingRow ∅)).lookup "k1").map CredentialRow.pwEnc =
        some (some "AAAAAAAAAAAAAAABNndaIYtNuHY8ZaJcfVIF4mGvz5M=") := by decide +kernel
  intro hkept
  obtain ⟨hissued, hlost⟩ := hlost
  obtain ⟨row', hrow, hsame⟩ := hkept "k1" workingRow (AList.lookup_insert _)
  rw [Option.isNone_iff_eq_none.mp hissued] at hsame
  rw [hrow] at hlost
  have hpw : row'.pwEnc = workingRow.pwEnc := congrArg (fun x => x.2.1) hsame
  rw [Option.map_some, hpw] at hlost
  exact absurd hlost (by decide)

end Pretzel.Fleet
