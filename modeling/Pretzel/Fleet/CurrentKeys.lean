import Pretzel.Fleet.KeyMirror

/-!
What the key cache of collectord shows of engined's tables, in a run.

* `act_report`, `act_account`, `act_apiKey`: what an update does to the columns.
  `mirrors_report`, …: **the cache, or the answer awaited, follows it** under the condition.
* `mirrors_next`: so does a step of the machine.
* `cache_current`: in a run of such steps the cache shows what is held, once it is filled and
  every update has arrived. `cache_stale`: a key of a device that is stored after that.
-/

namespace Pretzel.Fleet

open Nlohmann Texts Util Config Staged Collectord Engined Reactive

/-! ### What an update does -/

section Reads

variable {H : Host} {m : Moment} {ctx : ConnectorTest} {key : Bytes} {oid : String}
  {h : String → Held} {state : Json}

/-- What was sealed opens. -/
lemma decrypt_sealed {nonce : Option (Vector UInt8 12)} {plain : Bytes} {text : String}
    (hsealed : sealed H nonce plain = some text) : decrypt H.key text = some plain := by
  rw [sealed] at hsealed
  split at hsealed
  · cases hsealed
  · exact decrypt_encrypt hsealed

/-- The update of a report. -/
lemma act_report (hstate : updateOf H m ctx key = some state) :
    ToEngined.act h (.credentialState state) = Function.update h (cStr ctx.keyOid)
      ((h (cStr ctx.keyOid)).store (sealed H (m.nonces 0) ctx.target.username)
        (sealed H (m.nonces 1) ctx.target.password) (sealed H (m.nonces 2) key)) := by
  obtain ⟨note, hread⟩ := readState_updateOf hstate
  rw [ToEngined.act, hread]
  simp only [reportUpdate, nullIf_sealed]

/-- What engined reads of a store of an account. -/
lemma readState_credentialStore {id pw : Bytes} {d : Draft} (hoid : oid ≠ "")
    (hstore : credentialStore H m oid id pw = some d) (hdump : d.dump = some state) :
    readState state = .ok (some
      { oid, idEnc := (sealed H (m.nonces 0) id).getD "", pwEnc := (sealed H (m.nonces 1) pw).getD ""
        secretEnc := "", expiresAt := "", hasTest := false, ok := false, note := "" }) := by
  have hobj : d.isObject = true := by
    obtain ⟨rfl, -⟩ := credentialStore_eq_some hstore
    exact isObject_sealField (isObject_sealField rfl)
  have hread (k : String) (o : Option String) (hfind : d.find? k = o.map .str) :
      state.valueString k "" = .ok (o.getD "") := by
    refine Draft.valueString_dump hobj hdump ?_ ""
    rw [hfind]
    cases o <;> rfl
  have hfind := find?_credentialStore hstore
  have habsent : state.find? "ok" = none := by
    rw [Draft.find?_dump hobj hdump, hfind]
    rfl
  have hok : state.valueBool "ok" false = .ok false := by
    obtain ⟨ms, rfl⟩ := Json.isObject_iff.mp (Draft.isObject_dump hobj hdump)
    rw [Json.valueBool, Json.valueWith_obj, habsent]
    rfl
  rw [readState, hread "oid" (some oid) (hfind "oid")]
  change (if oid = "" then _ else _) = _
  rw [if_neg hoid, hread "id_enc" (sealed H (m.nonces 0) id) (hfind "id_enc"),
    hread "pw_enc" (sealed H (m.nonces 1) pw) (hfind "pw_enc"),
    hread "key_enc" none (hfind "key_enc"), hread "expires_at" none (hfind "expires_at"),
    hread "note" none (hfind "note"), Json.contains, habsent,
    hok]
  rfl

/-- The update of an account. -/
lemma act_account {id pw : Bytes} {d : Draft} (hoid : oid ≠ "")
    (hstore : credentialStore H m oid id pw = some d) (hdump : d.dump = some state) :
    ToEngined.act h (.credentialState state) = Function.update h (cStr oid)
      ((h (cStr oid)).store (sealed H (m.nonces 0) id) (sealed H (m.nonces 1) pw) none) := by
  rw [ToEngined.act, readState_credentialStore hoid hstore hdump]
  simp only [nullIf_sealed]
  rfl

/-- The update of the key of a device. -/
lemma act_apiKey {nonce : Option (Vector UInt8 12)} {text : String}
    (htext : encrypt H.key nonce key = some text) :
    ToEngined.act h (.saseApiKey (saseState oid text)) =
      if oid = "" then h else Function.update h (cStr oid) ((h (cStr oid)).storeApiKey text) := by
  have hread : saseKeyUpdate (.json (saseState oid text)) =
      .ok (if oid = "" then none else some (cStr oid, text)) := by
    have hcut : cStr text = text := cStr_eq_self (encrypt_no_nul htext)
    have hwhole : text ≠ "" := encrypt_ne_empty htext
    change (if (decide (oid = "") || decide (text = "")) = true then Except.ok none
      else .ok (some (cStr oid, cStr text))) = _
    rw [hcut, decide_eq_false hwhole, Bool.or_false]
    by_cases hnone : oid = ""
    · rw [if_pos hnone, if_pos (decide_eq_true hnone)]
    · rw [if_neg hnone, if_neg (by simpa using hnone)]
  rw [ToEngined.act, hread]
  by_cases hnone : oid = ""
  · rw [if_pos hnone, if_pos hnone]
  · rw [if_neg hnone, if_neg hnone]

end Reads

/-! ### What is held of them -/

section Held

variable {H : Host} {m : Moment} {h : Held} {id pw key : Option String} {plain : Bytes}
  {nonce : Option (Vector UInt8 12)}

/-- A key that is sealed and stored is the one that is held. -/
lemma key_store_sealed : (h.store id pw (sealed H nonce plain)).key H =
    if (sealed H nonce plain).isSome then some plain else h.key H := by
  rw [Held.key, Held.store]
  cases hsealed : sealed H nonce plain with
  | none => rfl
  | some text =>
      dsimp only
      rw [Option.some_or, Option.bind_some, decrypt_sealed hsealed]
      rfl

/-- A key of a device stands behind one that was issued. -/
lemma key_storeApiKey {text : String} (htext : encrypt H.key nonce plain = some text) :
    (h.storeApiKey text).key H = (h.keyEnc.bind (decrypt H.key)).or (some plain) := by
  rw [Held.key, Held.storeApiKey, Option.bind_some, decrypt_encrypt htext]

/-- An account that is stored with its user name, or under the empty one. -/
lemma account_store_sealed {id pw : Bytes} {ids pws : Option (Vector UInt8 12)}
    (hid : id ≠ [] → (sealed H ids id).isSome = true) (hpw : (sealed H pws pw).isSome = true)
    (hname : id ≠ [] ∨ h.idEnc.bind (decrypt H.key) = some []) :
    (h.store (sealed H ids id) (sealed H pws pw) key).account H = some ⟨id, pw⟩ := by
  obtain ⟨pwText, hpwText⟩ := Option.isSome_iff_exists.mp hpw
  have hidHeld : ((sealed H ids id).or h.idEnc).bind (decrypt H.key) = some id := by
    by_cases hempty : id = []
    · subst hempty
      rw [sealed, if_pos rfl, Option.none_or]
      exact hname.resolve_left fun hne => hne rfl
    · obtain ⟨idText, hidText⟩ := Option.isSome_iff_exists.mp (hid hempty)
      rw [hidText, Option.some_or, Option.bind_some, decrypt_sealed hidText]
  rw [Held.account, Held.store]
  dsimp only
  rw [hidHeld, hpwText, Option.some_or, Option.bind_some, decrypt_sealed hpwText]
  rfl

/-- Columns that show what those there have shown. -/
lemma shows_update_self {held : String → Held} {oid : String} {c : Held}
    (h : oid ≠ "" → c.key H = (held oid).key H ∧ c.account H = (held oid).account H) :
    shows H (Function.update held oid c) = shows H held := by
  rw [shows_update, Function.update_eq_self_iff, shows]
  split
  · rfl
  · next hoid => rw [(h hoid).1, (h hoid).2]

lemma shown_rememberIssuedKey (c : KeyCache) (oid : String) (key : Bytes) :
    shown (c.rememberIssuedKey oid key) =
      Function.update (shown c) oid (key, (shown c oid).2) := by
  funext other
  by_cases hoid : other = oid
  · subst hoid
    rw [Function.update_self, shown, KeyCache.issuedKey, KeyCache.rememberIssuedKey,
      AList.lookup_insert]
    rfl
  · rw [Function.update_of_ne hoid, shown, KeyCache.issuedKey, KeyCache.rememberIssuedKey,
      AList.lookup_insert_ne hoid]
    rfl

lemma shown_rememberCredential (c : KeyCache) (oid : String) (id pw : Bytes) :
    shown (c.rememberCredential oid id pw) =
      Function.update (shown c) oid ((shown c oid).1, some ⟨id, pw⟩) := by
  funext other
  by_cases hoid : other = oid
  · subst hoid
    rw [Function.update_self, shown, KeyCache.credentialFor, KeyCache.rememberCredential,
      AList.lookup_insert]
    rfl
  · rw [Function.update_of_ne hoid, shown, KeyCache.credentialFor, KeyCache.rememberCredential,
      AList.lookup_insert_ne hoid]
    rfl

end Held

/-! ### What is sent -/

section Sent

variable {H : Host} {sql : SqlTime} {s s' : KeyFleet} {m : Moment}

/-- A cache that is filled was asked for. -/
lemma Mirrors.asked_of_filled (h : Mirrors H sql s) (hfilled : s.filled = true) :
    s.asked = true := by
  have honce := h.once
  rw [hfilled, Bool.toNat_true] at honce
  cases hasked : s.asked with
  | true => rfl
  | false =>
      rw [hasked, Bool.toNat_false] at honce
      omega

/-- **A report.** -/
lemma mirrors_report (ctx : ConnectorTest) {key : Bytes} {state : Json} (h : Mirrors H sql s)
    (hmatched : s.asked = true → ReportMatched H s m ctx key) (hoid : ctx.keyOid ≠ "")
    (hstate : updateOf H m ctx key = some state) :
    Mirrors H sql { s with
      cache := if key = [] then s.cache else s.cache.rememberIssuedKey ctx.keyOid key
      wire := s.wire ++ [.credentialState state] } := by
  refine mirrors_send h rfl (fun hfilled => ?_) fun hasked hawaited => ?_
  · obtain ⟨haccount, hkey⟩ := hmatched (h.asked_of_filled hfilled)
    rw [if_pos hfilled] at hkey
    rw [act_report hstate]
    by_cases hnone : key = []
    · have hsealed : sealed H (m.nonces 2) key = none := by rw [sealed, if_pos hnone]
      rw [if_pos hnone, h.shown_eq hfilled, hsealed]
      refine (shows_update_self ?_).symm
      exact fun harrives => ⟨rfl, haccount harrives⟩
    · obtain ⟨hwhole, hkey⟩ := hkey hnone
      rw [hwhole] at haccount hkey ⊢
      rw [if_neg hnone, shown_rememberIssuedKey, h.shown_eq hfilled, shows_update, shows]
      have hheld : ((s.willHold ctx.keyOid).store (sealed H (m.nonces 0) ctx.target.username)
          (sealed H (m.nonces 1) ctx.target.password) (sealed H (m.nonces 2) key)).key H
            = some key := by
        rw [key_store_sealed]
        rcases hkey with hsealed | hkey
        · rw [if_pos hsealed]
        · rw [hkey, ite_self]
      rw [if_neg hoid, if_neg hoid, hheld]
      exact congrArg (fun a => Function.update (shows H s.willHold) ctx.keyOid (key, a))
        (haccount hoid).symm
  · obtain ⟨haccount, hkey⟩ := hmatched hasked
    rw [hawaited, if_neg Bool.false_ne_true] at hkey
    rw [act_report hstate]
    refine shows_update_self fun harrives => ⟨?_, haccount harrives⟩
    rw [key_store_sealed]
    rcases hkey harrives with hsealed | hkey
    · rw [hsealed]
      rfl
    · rw [hkey, ite_self]

/-- **A key of a device.** -/
lemma mirrors_apiKey {oid text : String} {key : Bytes} (h : Mirrors H sql s)
    (hmatched : s.asked = true → cStr oid ≠ "" → ApiKeyMatched H s m oid key)
    (htext : encrypt H.key (m.nonces 0) key = some text) :
    Mirrors H sql { s with wire := s.wire ++ [.saseApiKey (saseState oid text)] } := by
  have hkept : s.asked = true →
      shows H (ToEngined.act s.willHold (.saseApiKey (saseState oid text))) =
        shows H s.willHold := by
    intro hasked
    rw [act_apiKey htext]
    split
    · rfl
    · refine shows_update_self fun harrives => ⟨?_, rfl⟩
      rw [key_storeApiKey htext, Held.key]
      rcases hmatched hasked harrives with hnone | hissued | hheld
      · cases htext.symm.trans hnone
      · obtain ⟨issued, hissued⟩ := Option.isSome_iff_exists.mp hissued
        rw [hissued]
        rfl
      · rw [hheld]
  refine mirrors_send h rfl (fun hfilled => ?_) fun hasked _ => hkept hasked
  rw [hkept (h.asked_of_filled hfilled)]
  exact h.shown_eq hfilled

/-- **An account.** -/
lemma mirrors_account {oid username password : String} {d : Draft} {state : Json}
    (h : Mirrors H sql s) (hoid : oid ≠ "") (hpassword : password ≠ "")
    (hmatched : s.asked = true → AccountMatched H s m oid username password)
    (hstore : credentialStore H m oid (textBytes username) (textBytes password) = some d)
    (hdump : d.dump = some state) :
    Mirrors H sql { s with
      cache := s.cache.rememberCredential oid (textBytes username) (textBytes password)
      wire := s.wire ++ [.credentialState state] } := by
  have hmatched : s.asked = true → _ := fun hasked =>
    (hmatched hasked).resolve_left (by rw [hstore]; exact Option.some_ne_none d)
  obtain ⟨-, hid, hpw⟩ := credentialStore_eq_some hstore
  refine mirrors_send h rfl (fun hfilled => ?_) fun hasked hawaited => ?_
  · have hstored := hmatched (h.asked_of_filled hfilled)
    rw [if_pos hfilled] at hstored
    obtain ⟨hwhole, hname⟩ := hstored
    rw [hwhole] at hname
    rw [act_account hoid hstore hdump, hwhole, shown_rememberCredential, h.shown_eq hfilled,
      shows_update, shows, if_neg hoid, if_neg hoid]
    rw [account_store_sealed hid (hpw (mt textBytes_eq_nil.mp hpassword))
      (hname.imp_left (mt textBytes_eq_nil.mp))]
    rfl
  · have hkept := hmatched hasked
    rw [hawaited, if_neg Bool.false_ne_true] at hkept
    rw [act_account hoid hstore hdump]
    exact shows_update_self fun harrives => ⟨rfl, hkept harrives⟩

/-- What a stage sends beside updates and notes leaves the system. -/
lemma foldl_emit_kept (stage : Step) (s : KeyFleet) :
    stage.out.foldl KeyFleet.emit s = (kept stage).foldl KeyFleet.emit s := by
  rw [kept, List.foldl_filter]
  congr 1
  funext s o
  cases o <;> rfl

/-- **What is stored** is sent and noted. -/
lemma mirrors_gives {st : Option Stored} {outs : List Out} (h : Mirrors H sql s)
    (hmatched : StoreMatched H s st) (houts : Gives H st outs) :
    Mirrors H sql (outs.foldl KeyFleet.emit s) := by
  match st with
  | none =>
      obtain rfl := houts
      exact h
  | some (.report m ctx key) =>
      rw [Gives] at houts
      split at houts
      · subst houts
        exact h
      · next hoid =>
          obtain ⟨out, expiresAt, state, hstate, rfl⟩ := houts
          have hsent := mirrors_report { ctx with out, expiresAt } h
            (fun hasked => hmatched hasked hoid) hoid hstate
          split
          · next hnone => rwa [if_pos hnone] at hsent
          · next hsome => rwa [if_neg hsome] at hsent
  | some (.apiKey m oid key) =>
      obtain rfl := houts
      split
      · exact h
      · next text htext => exact mirrors_apiKey h hmatched htext
  | some (.account m oid username password) =>
      obtain ⟨hoid, hpassword, rfl⟩ := houts
      split
      · exact h
      · next state hstate =>
          obtain ⟨d, hstore, hdump⟩ := Option.bind_eq_some_iff.mp hstate
          exact mirrors_account h hoid hpassword hmatched hstore hdump

end Sent

/-! ### The steps -/

section Steps

variable {H : Host} {sql : SqlTime} {s s' : KeyFleet} {m : Moment}

/-- The condition says nothing of the exchanges under way. -/
lemma storeMatched_waits {waits : List Wait} {st : Option Stored} (h : StoreMatched H s st) :
    StoreMatched H { s with waits } st := by
  match st, h with
  | none, h => exact h
  | some (.report _ _ _), h => exact h
  | some (.apiKey _ _ _), h => exact h
  | some (.account _ _ _ _), h => exact h

/-- A stage that is carried out. -/
lemma mirrors_carry {stage : Step} {st : Option Stored} (h : Mirrors H sql s)
    (hmatched : StoreMatched H s st) (hgives : ¬ Threw stage → Gives H st (kept stage))
    (hcarry : s.carry stage = some s') : Mirrors H sql s' := by
  rw [KeyFleet.carry, foldl_emit_kept] at hcarry
  split at hcarry
  · next hdone =>
      cases hcarry
      refine mirrors_gives h hmatched (hgives ?_)
      rintro ⟨e, hthrew⟩
      cases hdone.symm.trans hthrew
  · cases hcarry
  · next k hwaits =>
      cases hcarry
      have hsent := mirrors_gives h hmatched (hgives fun ⟨e, hthrew⟩ => by
        cases hwaits.symm.trans hthrew)
      exact ⟨hsent.tracks, hsent.answers, hsent.once⟩

/-- **The key request is sent.** -/
lemma mirrors_setup (h : Mirrors H sql s) (hasked : s.asked = false) :
    Mirrors H sql { s with asked := true, wire := s.wire ++ [.request] } := by
  refine ⟨?_, h.answers, ?_⟩
  · exact h.tracks.send (fun hfilled => h.tracks.mirror_eq hfilled) (fun _ => rfl) fun _ => rfl
  · have honce := h.once
    show (s.wire ++ [ToEngined.request]).countP ToEngined.asks + s.answers.length
      + s.filled.toNat = 1
    rw [hasked, Bool.toNat_false] at honce
    rw [List.countP_append, List.countP_singleton, ToEngined.asks, if_pos rfl]
    omega

lemma eq_ok_of_toOption {ε α : Type} {x : Except ε α} {a : α} (h : x.toOption = some a) :
    x = .ok a := by
  cases x with
  | error e => cases h
  | ok b => rw [Option.some.inj h]

/-- **engined hears a message.** -/
lemma mirrors_arrive {now : ℤ} (h : Mirrors H sql s) (hcall : CallSucceeds sql s (.arrive now))
    (hstep : (keyMirror H sql).next s (.arrive now) = some s') : Mirrors H sql s' := by
  obtain ⟨htracks, hanswers, honce⟩ := h
  rw [keyMirror] at hstep
  dsimp only at hstep
  split at hstep
  · cases hstep
  · next wire hwire =>
      cases hstep
      rw [hwire] at htracks honce
      refine ⟨?_, ?_, ?_⟩
      · have harrived := htracks.arrive
        rw [LateFill.answer_of_asks rfl] at harrived
        rw [List.map_append, List.map_singleton, answerShows, shown_handleKeyState]
        exact harrived
      · intro doc hdoc
        rcases List.mem_append.mp hdoc with hdoc | hdoc
        · exact hanswers doc hdoc
        · exact ⟨s.credentials, s.devices, List.mem_singleton.mp hdoc⟩
      · rw [List.countP_cons_of_pos rfl] at honce
        dsimp only
        rw [List.length_append, List.length_singleton]
        omega
  · next state wire hwire =>
      obtain ⟨credentials, hstored, hs'⟩ := Option.map_eq_some_iff.mp hstep
      cases hs'
      rw [hwire] at htracks honce
      have hheld := held_storeState s.devices (eq_ok_of_toOption hstored) fun u hread =>
        hcall state wire u hwire hread
      refine ⟨?_, hanswers, ?_⟩
      · have harrived := htracks.arrive
        rw [LateFill.answer_of_not_asks rfl, List.append_nil] at harrived
        rw [hheld]
        exact harrived
      · rwa [List.countP_cons_of_neg Bool.false_ne_true] at honce
  · next state wire hwire =>
      obtain ⟨devices, hstored, hs'⟩ := Option.map_eq_some_iff.mp hstep
      cases hs'
      rw [hwire] at htracks honce
      have hheld := held_storeSaseApiKey s.credentials (eq_ok_of_toOption hstored)
      refine ⟨?_, hanswers, ?_⟩
      · have harrived := htracks.arrive
        rw [LateFill.answer_of_not_asks rfl, List.append_nil] at harrived
        rw [hheld]
        exact harrived
      · rwa [List.countP_cons_of_neg Bool.false_ne_true] at honce

/-- **The cache is filled.** -/
lemma mirrors_fill {doc : Json} {answers : List Json} (h : Mirrors H sql s)
    (hdoc : s.answers = doc :: answers) :
    Mirrors H sql { s with
      answers, cache := handleKeyState H (.json doc) s.cache, filled := true } := by
  obtain ⟨htracks, hanswers, honce⟩ := h
  rw [hdoc] at htracks hanswers honce
  obtain ⟨hhead, htail⟩ := List.forall_mem_cons.mp hanswers
  obtain ⟨credentials, devices, rfl⟩ := hhead
  refine ⟨?_, htail, ?_⟩
  · have hfilled := htracks.fill
    rw [answerShows, shown_handleKeyState] at hfilled
    rw [shown_handleKeyState]
    exact hfilled
  · have hle := Bool.toNat_le s.asked
    rw [List.length_cons] at honce
    dsimp only
    rw [Bool.toNat_true]
    omega

/-- **A step that meets the condition.** -/
theorem mirrors_next {l : KeyStep} (h : Mirrors H sql s) (hcall : CallSucceeds sql s l)
    (hmatched : StoreMatched H s (stores H s l)) (hstep : (keyMirror H sql).next s l = some s') :
    Mirrors H sql s' := by
  cases l with
  | setup =>
      rw [keyMirror] at hstep
      dsimp only at hstep
      split at hstep
      · cases hstep
      · next hasked =>
          cases hstep
          exact mirrors_setup h (Bool.eq_false_iff.mpr hasked)
  | test request seqNo payload m => exact mirrors_carry h hmatched (fun _ => gives_route _ _) hstep
  | refresh p d m => exact mirrors_carry h hmatched (fun _ => gives_refresh p d) hstep
  | settle i res m =>
      rw [stores] at hmatched
      rw [keyMirror] at hstep
      dsimp only at hstep
      split at hstep
      · cases hstep
      · next k hwaits =>
          rw [hwaits] at hmatched
          have hfree : Mirrors H sql { s with waits := s.waits.eraseIdx i } :=
            ⟨h.tracks, h.answers, h.once⟩
          exact mirrors_carry hfree (storeMatched_waits hmatched) (gives_resume k) hstep
  | arrive now => exact mirrors_arrive h hcall hstep
  | fill =>
      rw [keyMirror] at hstep
      dsimp only at hstep
      split at hstep
      · cases hstep
      · next doc answers hanswers =>
          cases hstep
          exact mirrors_fill h hanswers

/-- At the start the cache is not filled, and nothing is on its way. -/
lemma mirrors_init (h : (keyMirror H sql).init s) : Mirrors H sql s := by
  obtain ⟨-, -, hasked, hfilled, hwire, hanswers⟩ := h
  refine ⟨⟨fun hyes => ?_, fun v hv => ?_⟩, fun doc hdoc => ?_, ?_⟩
  · rw [hfilled] at hyes
    cases hyes
  · rw [hwire, hanswers] at hv
    cases hv
  · rw [hanswers] at hdoc
    cases hdoc
  · rw [hwire, hanswers, hfilled, hasked]
    rfl

end Steps

/-! ### Runs -/

/-- **The cache is current**, in a run whose steps meet the condition: it has what the tables
hold, once an answer has been taken in and every update has arrived. -/
theorem cache_current {H : Host} {sql : SqlTime} {s t : KeyFleet} {tr : List (KeyFleet × KeyStep)}
    (hinit : (keyMirror H sql).init s) (hrun : (keyMirror H sql).Run s tr t)
    (hcalls : ∀ p ∈ tr, CallSucceeds sql p.1 p.2)
    (hmatched : ∀ p ∈ tr, StoreMatched H p.1 (stores H p.1 p.2)) (hfilled : t.filled = true)
    (harrived : ∀ msg ∈ t.wire, msg = .request) : CacheCurrent H t := by
  have hok : ∀ p ∈ tr, CallSucceeds sql p.1 p.2 ∧ StoreMatched H p.1 (stores H p.1 p.2) :=
    fun p hp => ⟨hcalls p hp, hmatched p hp⟩
  have hmirrors : Mirrors H sql t := by
    refine hrun.invariant_of_forall (C := fun u l => CallSucceeds sql u l ∧
      StoreMatched H u (stores H u l)) (mirrors_init hinit) ?_ hok
    exact fun u l u' hu hl hstep => mirrors_next hu hl.1 hl.2 hstep
  have htracks := hmirrors.tracks
  rw [hfilled] at htracks
  have hshown : shown t.cache = shows H (held t.credentials t.devices) := by
    refine htracks.current fun msg hmsg h => ?_
    rw [harrived msg hmsg]
    rfl
  intro oid hoid
  have heq := congrFun hshown oid
  rw [shows, if_neg hoid] at heq
  exact ⟨congrArg Prod.fst heq, congrArg Prod.snd heq⟩

namespace StoredKey

/-- A key of a device, as it is stored. -/
def apiKey : Json := .obj [("api_key", .str "k"), ("oid", .str "d")]

/-- Its text. -/
def apiKeyPayload : Bytes := textBytes "\x7b\"api_key\":\"k\",\"oid\":\"d\"\x7d"

/-- An account, as it is stored. -/
def account : Json :=
  .obj [("oid", .str "a"), ("secrets", .obj [("password", .str "p"), ("username", .str "u")])]

/-- Its text. -/
def accountPayload : Bytes :=
  textBytes "\x7b\"oid\":\"a\",\"secrets\":\x7b\"password\":\"p\",\"username\":\"u\"\x7d\x7d"

/-- A daemon with a master key that is sent one of them. -/
def host : Host :=
  { key := some (.ofStream (fun _ => []) fun _ _ => .replicate 16 0)
    parse := fun bytes => if bytes = apiKeyPayload then some apiKey
      else if bytes = accountPayload then some account else none
    what := fun _ => "" }

/-- A moment. -/
def moment : Moment := ⟨fun i => some (.replicate 12 (.ofNat i)), fun _ => ""⟩

/-- A clock that takes every text. -/
def sql : SqlTime := ⟨fun _ => some 0, fun _ => ""⟩

lemma no_rows : ∀ q ∈ ([] : List SaseRow), ∀ r ∈ ([] : List SaseRow), r.uniqueTarget ≠ none →
    q.uniqueTarget = r.uniqueTarget → q = r := by
  simp

/-- Nothing is stored yet. -/
def fresh : KeyFleet := { devices := ⟨[], List.nodup_nil, no_rows⟩ }

/-- A store after the cache is filled, and its update. -/
def run (request : TestRequest) (payload : Bytes) : List KeyStep :=
  [.setup, .arrive 0, .fill, .test request 1 payload moment, .arrive 0]

end StoredKey

open StoredKey in
/-- No call fails where every text is a time. -/
lemma callSucceeds (s : KeyFleet) (l : KeyStep) : CallSucceeds sql s l := by
  cases l with
  | arrive now =>
      intro state wire u _ _
      rw [StateUpdate.excluded, SqlTime.timeOf]
      cases nullIf u.expiresAt with
      | none => rfl
      | some text => rfl
  | setup | test | refresh | settle | fill => trivial

open StoredKey in
/-- A key of a device that is stored once the cache is filled: the cache never has it. -/
theorem cache_stale : ¬ ∀ (H : Host) (sql : SqlTime) (s t : KeyFleet) (tr : List (KeyFleet × KeyStep)),
    H.key.isSome = true → (keyMirror H sql).init s → (keyMirror H sql).Run s tr t →
    (∀ p ∈ tr, CallSucceeds sql p.1 p.2) → t.filled = true → (∀ msg ∈ t.wire, msg = .request) →
    CacheCurrent H t := by
  intro h
  have hexec : ((keyMirror host sql).exec fresh (run .StoreSaseKey apiKeyPayload)).map
      (fun t => (t.filled, t.wire, t.cache.issuedKey "d",
        (held t.credentials t.devices "d").key host)) = some (true, [], [], some [107]) := by
    decide +kernel
  obtain ⟨t, ht, hvalues⟩ := Option.map_eq_some_iff.mp hexec
  obtain ⟨hfilled, hwire, hcached, hheld⟩ : t.filled = true ∧ t.wire = [] ∧
      t.cache.issuedKey "d" = [] ∧ (held t.credentials t.devices "d").key host = some [107] := by
    simpa only [Prod.mk.injEq] using hvalues
  have hcurrent := h host sql fresh t _ rfl ⟨rfl, rfl, rfl, rfl, rfl, rfl⟩ (Machine.exec_run ht)
    (fun p _ => callSucceeds p.1 p.2) hfilled (by rw [hwire]; simp)
  have heq := (hcurrent "d" (by decide)).1
  rw [hcached, hheld] at heq
  cases heq

open StoredKey in
/-- An account that is stored once the cache is filled. -/
theorem cache_current_account : ∃ t, (keyMirror host sql).exec fresh
    (run .StoreCredential accountPayload) = some t ∧ CacheCurrent host t := by
  have hexec : ((keyMirror host sql).exec fresh (run .StoreCredential accountPayload)).map
      (fun t => (t.filled, t.wire)) = some (true, []) := by decide +kernel
  obtain ⟨t, ht, hvalues⟩ := Option.map_eq_some_iff.mp hexec
  obtain ⟨hfilled, hwire⟩ : t.filled = true ∧ t.wire = [] := by
    simpa only [Prod.mk.injEq] using hvalues
  refine ⟨t, ht, cache_current ⟨rfl, rfl, rfl, rfl, rfl, rfl⟩ (Machine.exec_run ht)
    (fun p _ => callSucceeds p.1 p.2) ?_ hfilled (by rw [hwire]; simp)⟩
  decide +kernel
end Pretzel.Fleet
