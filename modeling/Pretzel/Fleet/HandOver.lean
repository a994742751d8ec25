import Mathlib.Tactic
import Pretzel.Ipc.Client
import Pretzel.Mgmtd.SettingsController

/-!
A commit on its way out of mgmtd: the handler, the tx router and the client of
the fabric behind it.

* `JsonText`: `json::parse` and `json::dump`, which read back what they write of
  a document that was read.
* `MgmtdNode`, `MgmtdNode.commit`: mgmtd with its client, and the handler of a
  posted body.
* `Publishable`, `Deliverable`: a batch the handler accepts, and a payload the
  client takes.
* `delivered_of_deliverable`, `deliverable_of_delivered`: what is deliverable
  reaches the transmit ring, and nothing else does.
* `handed_over_iff`: the answer tells the truth exactly when every batch that is
  accepted is deliverable.
-/

namespace Pretzel.Fleet

open Nlohmann Ipc Mgmtd IpcWireHeader

/-- `json::parse` and `json::dump`. A member of a document that was read is
written so that it reads back. -/
structure JsonText where
  parse : Bytes → Option Json
  dump : Json → Bytes
  parse_dump : ∀ {body j key v}, parse body = some j → j.find? key = some v →
    parse (dump v) = some v

/-- The bytes of a payload. -/
def JsonText.payloadBytes (text : JsonText) : Payload → Bytes
  | .empty | .malformed => []
  | .json doc => text.dump doc

/-- mgmtd, with its client of the fabric. -/
structure MgmtdNode where
  state : MgmtdState
  client : IpcClient

/-- The handler of a posted body, with what the tx router does with the message
it hands over. `modOk` is whether the change of the epoll interest is taken. -/
def MgmtdNode.commit (text : JsonText) (io : ConfigSource) (isAdmin : Bool) (body : Bytes)
    (modOk : Bool) (m : MgmtdNode) : Except JsonError (MgmtdNode × HttpResponse) := do
  let out ← Mgmtd.commit io isAdmin (text.parse body) m.state
  let client := match out.sent with
    | none => m.client
    | some msg =>
        m.client.egress { header := msg.header, payload := text.payloadBytes msg.payload } modOk
  return (⟨out.state, client⟩, out.response)

/-! ### The conditions -/

/-- A batch the handler accepts: it is not refused over accounts, and every
change passes the schema and the reference pass. -/
structure Publishable (io : ConfigSource) (isAdmin : Bool) (input : Option Json) (s : MgmtdState)
    (changes : List Json) : Prop where
  posted : ∃ j, input = some j ∧ j.find? "changes" = some (.arr changes)
  nonempty : changes ≠ []
  accounts : accountsRefused isAdmin changes = .ok false
  checks : ∃ results merged results' config,
    checkChanges changes = .ok (changes, results) ∧ failedCount results = 0 ∧
      mergedByDomain [] changes = .ok merged ∧
      referencePass io merged results s.config = .ok (results', config) ∧
      failedCount results' = 0

/-- A payload the client takes: it is connected, the frame is within the limit
and fits the transmit ring, and the epoll interest can be changed. -/
structure Deliverable (c : IpcClient) (payload : Bytes) (modOk : Bool) : Prop where
  state : c.state = .Connected
  socket : c.socket.isSome
  ring : ∃ conn, c.conn = some conn ∧ headerLen + payload.length ≤ conn.tx.writable
  limit : payload.length ≤ IPC_MAX_FRAME_SIZE - headerLen
  modOk : modOk = true

/-- A frame that decodes to the message has gone to the back of the transmit
ring. -/
def Delivered (c c' : IpcClient) (msg : IpcMessage Bytes) : Prop :=
  ∃ conn conn' frame, c.conn = some conn ∧ c'.conn = some conn' ∧
    conn'.tx.contents = conn.tx.contents ++ frame ∧ IpcCodec.decode frame = .Ok msg

/-- Nothing decodes to a message, where nothing was written. -/
lemma not_delivered_self (c : IpcClient) (msg : IpcMessage Bytes) : ¬ Delivered c c msg := by
  rintro ⟨conn, conn', frame, hconn, hconn', hcontents, hdecode⟩
  cases hconn.symm.trans hconn'
  have hnil : frame = [] := by simpa using hcontents
  rw [hnil, IpcCodec.decode, if_pos (by decide)] at hdecode
  cases hdecode

/-- Nothing but what is deliverable reaches the transmit ring. -/
lemma deliverable_of_delivered {c : IpcClient} {msg msg' : IpcMessage Bytes} {modOk : Bool}
    (h : Delivered c (c.egress msg modOk) msg') : Deliverable c msg.payload modOk := by
  have hgo : c.egress msg modOk ≠ c := by
    intro heq
    rw [heq] at h
    exact not_delivered_self c msg' h
  have hencode : IpcCodec.encode msg ≠ [] := by
    intro hnil
    rw [IpcClient.egress] at hgo
    exact hgo (if_pos hnil)
  have hlimit := IpcCodec.encode_ne_nil_iff.mp hencode
  have hlength : (IpcCodec.encode msg).length = headerLen + msg.payload.length := by
    rw [IpcCodec.encode_eq hlimit, List.length_append, length_hostToNet]
  have hegress : c.egress msg modOk = (c.enqueueFrame (IpcCodec.encode msg) modOk).1 := by
    rw [IpcClient.egress]
    exact if_neg hencode
  rw [hegress] at h hgo
  obtain ⟨conn, conn', frame, hconn, hconn', hcontents, hdecode⟩ := h
  rw [IpcClient.enqueueFrame] at hconn' hgo
  split at hgo
  · next conn₁ fd hc hsocket hstate =>
      cases hconn.symm.trans hc
      rw [hc, hsocket, hstate] at hconn'
      dsimp only at hconn'
      rw [if_neg hencode] at hconn' hgo
      split at hgo
      · exact absurd rfl hgo
      · next conn₂ hwrite =>
          have hfits := (conn.write_eq hencode).1.mp (by rw [hwrite])
          rw [hlength] at hfits
          rw [hwrite] at hconn'
          dsimp only at hconn'
          refine ⟨hstate, by rw [hsocket]; rfl, ⟨conn, hc, hfits⟩, hlimit, ?_⟩
          by_contra hmod
          rw [if_neg hmod] at hconn'
          cases hconn'
  · exact absurd rfl hgo

/-- **What is deliverable reaches the transmit ring**, as a frame that decodes
to the message. -/
theorem delivered_of_deliverable {c : IpcClient} {msg : IpcMessage Bytes} {modOk : Bool}
    (hheader : IpcCodec.Canonical msg.header) (h : Deliverable c msg.payload modOk) :
    Delivered c (c.egress msg modOk) msg := by
  obtain ⟨conn, hconn, hfits⟩ := h.ring
  obtain ⟨fd, hsocket⟩ := Option.isSome_iff_exists.mp h.socket
  have hencode := IpcCodec.encode_ne_nil_iff.mpr h.limit
  have hlength : (IpcCodec.encode msg).length = headerLen + msg.payload.length := by
    rw [IpcCodec.encode_eq h.limit, List.length_append, length_hostToNet]
  obtain ⟨hiff, hcontents⟩ := conn.write_eq hencode
  have hok := hiff.mpr (by rw [hlength]; exact hfits)
  have hwrite : conn.write (IpcCodec.encode msg)
      = ((conn.write (IpcCodec.encode msg)).1, true) := Prod.ext rfl hok
  have hegress : c.egress msg modOk
      = { c with conn := some (conn.write (IpcCodec.encode msg)).1 } := by
    rw [IpcClient.egress, if_neg hencode, IpcClient.enqueueFrame, hconn, hsocket, h.state]
    dsimp only
    rw [if_neg hencode, hwrite]
    dsimp only
    rw [if_pos h.modOk]
  rw [hegress]
  exact ⟨conn, _, IpcCodec.encode msg, hconn, rfl, hcontents hok,
    IpcCodec.decode_encode hheader h.limit⟩

/-! ### The answer -/

/-- The answer of an accepted commit. -/
def answersAccepted (resp : HttpResponse) : Prop :=
  resp.status = 200 ∧ resp.body.find? "reloading" = some (.bool true)

/-- **The answer tells the truth.** Where it says that the batch was accepted, a
`SettingsCommitRequest` with exactly the posted changes is in the transmit ring;
otherwise it is not a success, and the reload status was not set to
`Reloading`. -/
structure Truthful (text : JsonText) (body : Bytes) (m m' : MgmtdNode) (resp : HttpResponse) :
    Prop where
  accepted : answersAccepted resp → ∃ j changes msg, text.parse body = some j ∧
    j.find? "changes" = some (.arr changes) ∧ Delivered m.client m'.client msg ∧
    msg.header.cmd = .SettingsCommitRequest ∧ text.parse msg.payload = some (.arr changes)
  refused : ¬ answersAccepted resp → ¬ (200 ≤ resp.status ∧ resp.status < 300) ∧
    (m'.state.reloadStatus = .Reloading → m.state.reloadStatus = .Reloading)

/-- What the handler does with a batch: it accepts what is publishable, hands it
over and says so, and turns the rest away. -/
lemma commit_cases {io : ConfigSource} {isAdmin : Bool} {input : Option Json} {s : MgmtdState}
    {out : CommitOutcome} (h : Mgmtd.commit io isAdmin input s = .ok out) :
    (∃ changes, Publishable io isAdmin input s changes ∧
      out.sent = some (buildSettingsCommitRequest changes) ∧ answersAccepted out.response) ∨
    ((∀ changes, ¬ Publishable io isAdmin input s changes) ∧ out.sent = none ∧
      ¬ answersAccepted out.response ∧ ¬ (200 ≤ out.response.status ∧ out.response.status < 300) ∧
      out.state.reloadStatus = s.reloadStatus) := by
  cases input with
  | none =>
      cases h
      refine .inr ⟨?_, rfl, ?_, by simp [turnAway], rfl⟩
      · rintro changes ⟨⟨j, hj, -⟩, -⟩
        cases hj
      · rintro ⟨hstatus, -⟩
        cases hstatus
  | some input =>
      dsimp only [Mgmtd.commit] at h
      split at h
      · next changes hchanges =>
          have hposted : ∀ {changes'}, Publishable io isAdmin (some input) s changes' →
              changes' = changes := by
            rintro changes' ⟨⟨j, hj, hfind⟩, -⟩
            cases hj
            rw [hchanges] at hfind
            cases hfind
            rfl
          rw [except_bind_eq_ok] at h
          obtain ⟨forbidden, haccounts, h⟩ := h
          cases forbidden with
          | true =>
              cases h
              refine .inr ⟨?_, rfl, ?_, by simp [turnAway], rfl⟩
              · intro changes' hpub
                obtain rfl := hposted hpub
                cases haccounts.symm.trans hpub.accounts
              · rintro ⟨hstatus, -⟩
                cases hstatus
          | false =>
              change commitChanges io changes s = .ok out at h
              rw [commitChanges, except_bind_eq_ok] at h
              obtain ⟨⟨validChanges, results⟩, hcheck, h⟩ := h
              dsimp only at h
              split at h
              · next hzero =>
                  obtain rfl := (checkChanges_eq_ok hcheck).2 hzero
                  rw [except_bind_eq_ok] at h
                  obtain ⟨merged, hmerged, h⟩ := h
                  rw [except_bind_eq_ok] at h
                  obtain ⟨⟨results', config⟩, hpass, h⟩ := h
                  cases h
                  rw [answerBatch]
                  dsimp only
                  split
                  · next haccepted =>
                      refine .inl ⟨validChanges, ⟨⟨input, rfl, hchanges⟩,
                        List.ne_nil_of_length_pos haccepted.2, haccounts, results, merged,
                        results', config, hcheck, hzero, hmerged, hpass, haccepted.1⟩, rfl, rfl,
                        rfl⟩
                  · next hrejected =>
                      refine .inr ⟨?_, rfl, ?_, by simp, rfl⟩
                      · intro changes' hpub
                        obtain rfl := hposted hpub
                        obtain ⟨results₁, merged₁, results₂, config₁, hcheck₁, -, hmerged₁, hpass₁,
                          hzero₁⟩ := hpub.checks
                        cases hcheck.symm.trans hcheck₁
                        cases hmerged.symm.trans hmerged₁
                        cases hpass.symm.trans hpass₁
                        exact hrejected ⟨hzero₁, List.length_pos_iff.mpr hpub.nonempty⟩
                      · rintro ⟨hstatus, -⟩
                        cases hstatus
              · next hfailed =>
                  cases h
                  rw [answerBatch, if_neg fun hc => hfailed hc.1]
                  refine .inr ⟨?_, rfl, ?_, by simp, rfl⟩
                  · intro changes' hpub
                    obtain rfl := hposted hpub
                    obtain ⟨results₁, -, -, -, hcheck₁, hzero₁, -⟩ := hpub.checks
                    cases hcheck.symm.trans hcheck₁
                    exact hfailed hzero₁
                  · rintro ⟨hstatus, -⟩
                    cases hstatus
      · next hchanges =>
          cases h
          refine .inr ⟨?_, rfl, ?_, by simp [turnAway], rfl⟩
          · rintro changes ⟨⟨j, hj, hfind⟩, -⟩
            cases hj
            exact hchanges changes hfind
          · rintro ⟨hstatus, -⟩
            cases hstatus

/-- **The answer tells the truth exactly when an accepted batch is
deliverable.** -/
theorem handed_over_iff {text : JsonText} {io : ConfigSource} {isAdmin : Bool} {body : Bytes}
    {modOk : Bool} {m m' : MgmtdNode} {resp : HttpResponse}
    (h : m.commit text io isAdmin body modOk = .ok (m', resp)) :
    Truthful text body m m' resp ↔
      ∀ changes, Publishable io isAdmin (text.parse body) m.state changes →
        Deliverable m.client (text.dump (.arr changes)) modOk := by
  rw [MgmtdNode.commit, except_bind_eq_ok] at h
  obtain ⟨out, hout, h⟩ := h
  cases h
  rcases commit_cases hout with ⟨changes, hpub, hsent, hanswer⟩ |
    ⟨hnone, hsent, hanswer, hstatus, hreload⟩
  · obtain ⟨j, hj, hfind⟩ := hpub.posted
    have hpayload := text.parse_dump hj hfind
    have huniq : ∀ {changes'}, Publishable io isAdmin (text.parse body) m.state changes' →
        changes' = changes := by
      rintro changes' ⟨⟨j', hj', hfind'⟩, -⟩
      cases hj.symm.trans hj'
      cases hfind.symm.trans hfind'
      rfl
    rw [hsent]
    constructor
    · rintro ⟨haccepted, -⟩ changes' hpub'
      obtain rfl := huniq hpub'
      obtain ⟨-, -, msg, -, -, hdelivered, -⟩ := haccepted hanswer
      exact deliverable_of_delivered hdelivered
    · intro hdeliverable
      have hheader : IpcCodec.Canonical (buildSettingsCommitRequest changes).header :=
        ⟨rfl, rfl, rfl, rfl⟩
      exact ⟨fun _ => ⟨j, changes, ⟨_, text.dump (.arr changes)⟩, hj, hfind,
        delivered_of_deliverable hheader (hdeliverable changes hpub), rfl, hpayload⟩,
        fun hnot => absurd hanswer hnot⟩
  · rw [hsent]
    refine ⟨fun _ changes hpub => absurd hpub (hnone changes), fun _ => ⟨fun ha => ?_, fun _ => ?_⟩⟩
    · exact absurd ha hanswer
    · exact ⟨hstatus, fun hr => by rwa [← hreload]⟩

/-! ### One posted change -/

namespace Posted

/-- A change of a domain without a schema. -/
def change : Json :=
  .obj [("domain", .str "probe"), ("scope", .str "pretzel"), ("values", .obj [])]

/-- The characters of a text in ASCII. -/
def ascii (text : String) : Bytes := text.toList.map fun c => UInt8.ofNat c.toNat

/-- The array of that change, as it is written. -/
def written : Bytes :=
  ascii "[\x7b\"domain\":\"probe\",\"scope\":\"pretzel\",\"values\":\x7b\x7d\x7d]"

/-- The body that posts it. -/
def body : Bytes := ascii "\x7b\"changes\":" ++ written ++ ascii "\x7d"

/-- The reading and writing of these two texts. -/
def text : JsonText where
  parse := fun b =>
    if b = body then some (.obj [("changes", .arr [change])])
    else if b = written then some (.arr [change])
    else none
  dump := fun v => if v = .arr [change] then written else []
  parse_dump := by
    intro b j key v hj hv
    have hmember : v = .arr [change] := by
      split at hj
      · cases hj
        by_cases hkey : key = "changes"
        · subst hkey
          exact (Option.some.inj hv).symm
        · simp [Json.find?, Json.lookup, Ne.symm hkey] at hv
      · split at hj
        · cases hj
          cases hv
        · cases hj
    rw [hmember, if_pos rfl, if_neg (by decide), if_pos rfl]

/-- A configuration that cannot be read. -/
def source : ConfigSource := ⟨none, [], ⟨false, fun _ => false⟩⟩

/-- mgmtd with a client. -/
def node (client : IpcClient) : MgmtdNode := ⟨{}, client⟩

/-- A client that has lost its connection. -/
def disconnected : IpcClient := (IpcClient.connected 3 7 1048576 1048576).closeConnection

/-- The commit of that body. -/
lemma commit_body (client : IpcClient) : ∃ m' resp,
    (node client).commit text source true body true = .ok (m', resp) ∧ answersAccepted resp ∧
      m'.state.reloadStatus = .Reloading :=
  ⟨_, _, rfl, ⟨rfl, rfl⟩, rfl⟩

end Posted

open Posted in
theorem handed_over_iff_connected : ∃ m' resp,
    (node (.connected 3 7 1048576 1048576)).commit text source true body true = .ok (m', resp) ∧
      answersAccepted resp ∧
      Truthful text body (node (.connected 3 7 1048576 1048576)) m' resp := by
  obtain ⟨m', resp, hcommit, hanswer, -⟩ := commit_body (.connected 3 7 1048576 1048576)
  refine ⟨m', resp, hcommit, hanswer, (handed_over_iff hcommit).mpr ?_⟩
  intro changes hpub
  obtain ⟨j, hj, hfind⟩ := hpub.posted
  cases hj
  cases hfind
  exact ⟨rfl, rfl, ⟨_, rfl, by decide⟩, by decide, rfl⟩

open Posted in
/-- **A commit is answered as accepted that engined never sees**: the client has
no connection. -/
theorem accepted_but_dropped : ∃ m' resp,
    (node disconnected).commit text source true body true = .ok (m', resp) ∧
      answersAccepted resp ∧ m'.state.reloadStatus = .Reloading ∧
      ¬ Truthful text body (node disconnected) m' resp := by
  obtain ⟨m', resp, hcommit, hanswer, hreload⟩ := commit_body disconnected
  refine ⟨m', resp, hcommit, hanswer, hreload, fun htruthful => ?_⟩
  obtain ⟨-, -, -, -, -, ⟨conn, -, -, hconn, -⟩, -⟩ := htruthful.accepted hanswer
  cases hconn

end Pretzel.Fleet
