import Pretzel.Config.Backfill
import Pretzel.Fleet.AcceptedBatch
import Pretzel.Fleet.CommitPath
import Pretzel.Mgmtd.AcceptedLists

/-!
The accounts of the running configuration, over any commits.

* `SoundList`, `UserListSound`: what the list has to be: not empty, with an
  admin, its oids and usernames unique.
* `soundList_of_validateUsers`: a list that passes the schema is.
* `domain?_mergePatch`, `domain?_mergeChanges`: what a batch leaves of a domain
  that none of its changes is aimed at.
* `userListSound_mergeChanges`: what it leaves of the list where it passed.
* `accounts_kept`: in a run whose cache fills all find the active row every active
  document has a sound list, and only a batch an admin posted changes the domain.
* `accounts_lost`: one SELECT that fails, and a session that is no admin's loses
  every account.
-/

namespace Pretzel.Fleet

open Nlohmann Ipc Config Mgmtd Engined Reactive

/-! ### The list -/

/-- A list with an admin, and no oid and no username twice. -/
structure SoundList (list : List Json) : Prop where
  nonempty : list ≠ []
  admin : ∃ u ∈ list, u.textOr "role" "" = "admin"
  oids : (list.map fun u => u.textOr "oid" "").Nodup
  names : (list.map fun u => (u.textOr "username" "").toLower).Nodup

/-- `pretzel.user.list` of a document. -/
def userList (doc : Json) : Option Json := (domain? doc "pretzel" "user").bind (·.find? "list")

/-- The list of accounts of a document is sound. -/
def UserListSound (doc : Json) : Prop := ∃ list, userList doc = some (.arr list) ∧ SoundList list

lemma anyAdmin_eq_true {list : List Json} (h : anyAdmin list = .ok true) :
    ∃ u ∈ list, u.textOr "role" "" = "admin" := by
  induction list with
  | nil => cases h
  | cons u rest ih =>
      have hlater : anyAdmin rest = .ok true → ∃ u' ∈ u :: rest, u'.textOr "role" "" = "admin" := by
        intro hrest
        obtain ⟨u', hu', hadmin⟩ := ih hrest
        exact ⟨u', List.mem_cons_of_mem _ hu', hadmin⟩
      rw [anyAdmin] at h
      split at h
      · rw [except_bind_eq_ok] at h
        obtain ⟨role, hrole, h⟩ := h
        dsimp only at h
        split at h
        · next hadmin =>
            exact ⟨u, List.mem_cons_self, by rw [Json.textOr_of_valueString hrole, hadmin]⟩
        · exact hlater h
      · exact hlater h

/-- The accounts of a list that passes have no oid and no username twice, nor one
that was seen before. -/
lemma nodup_of_validateAccounts {idx : ℕ} {oids names : List String} {list : List Json}
    (h : validateAccounts idx oids names list = .ok none) :
    ((list.map fun u => u.textOr "oid" "").Nodup ∧
      ∀ u ∈ list, u.textOr "oid" "" ∉ oids) ∧
    ((list.map fun u => (u.textOr "username" "").toLower).Nodup ∧
      ∀ u ∈ list, (u.textOr "username" "").toLower ∉ names) := by
  induction list generalizing idx oids names with
  | nil => simp
  | cons u rest ih =>
      rw [validateAccounts, except_bind_eq_ok] at h
      obtain ⟨error, -, h⟩ := h
      cases error with
      | some error => cases h
      | none =>
          rw [except_bind_eq_ok] at h
          obtain ⟨oid, hoid, h⟩ := h
          split at h
          · cases h
          next hnew =>
          rw [except_bind_eq_ok] at h
          obtain ⟨name, hname, h⟩ := h
          split at h
          · cases h
          next hnewName =>
          obtain ⟨hoids, hnames⟩ := ih h
          have hlower : (u.textOr "username" "").toLower = name.toLower := by
            rw [Json.textOr_of_valueString hname]
          exact ⟨nodup_unseen_cons _ (Json.textOr_of_valueString hoid) hnew hoids,
            nodup_unseen_cons _ hlower hnewName hnames⟩

/-- **A list that passes the schema is sound**, and under the key there is a list. -/
lemma soundList_of_validateUsers {values v : Json} (h : validateUsers values = .ok none)
    (hv : values.find? "list" = some v) : ∃ list, v = .arr list ∧ SoundList list := by
  rw [validateUsers, validateList] at h
  split at h
  · cases h
  rw [hv] at h
  cases v with
  | arr list =>
      dsimp only at h
      split at h
      · cases h
      next hne =>
      rw [except_bind_eq_ok] at h
      obtain ⟨admin, hadmin, h⟩ := h
      cases admin with
      | false => cases h
      | true =>
          obtain ⟨⟨hoids, -⟩, hnames, -⟩ := nodup_of_validateAccounts h
          exact ⟨list, rfl, hne, anyAdmin_eq_true hadmin, hoids, hnames⟩
  | _ => cases h

/-! ### What a batch leaves of a domain -/

lemma find?_memberOrNull (j : Json) (s d : String) :
    (j.memberOrNull s).find? d = domain? j s d := by
  rw [Json.memberOrNull, domain?]
  cases j.find? s <;> rfl

/-- **A change merged into a document**, domain by domain. -/
lemma domain?_mergePatch {c : Json} {scopeName domain : String} {values : List (String × Json)}
    (hs : c.find? "scope" = some (.str scopeName)) (hd : c.find? "domain" = some (.str domain))
    (hv : c.find? "values" = some (.obj values)) (doc : Json) (s d : String) :
    domain? (doc.mergePatch (changePatch c)) s d =
      if s = scopeName ∧ d = domain then
        some (((domain? doc s d).getD .null).mergePatch (.obj values))
      else domain? doc s d := by
  rw [changePatch, hs, hd, hv, domain?, Json.find?_mergePatch_singleton]
  by_cases hscope : s = scopeName
  · subst hscope
    rw [if_pos rfl, Option.bind_some, Json.find?_mergePatch_singleton, find?_memberOrNull]
    by_cases hdomain : d = domain
    · subst hdomain
      rw [if_pos rfl, if_pos ⟨rfl, rfl⟩, Json.memberOrNull, find?_memberOrNull]
    · rw [if_neg hdomain, if_neg fun h => hdomain h.2]
  · rw [if_neg hscope, if_neg fun h => hscope h.1, domain?]

/-- A batch merged into a document leaves the domains that no change is aimed at. -/
lemma domain?_mergeChanges {changes : List Json} {s d : String}
    (h : ∀ c ∈ changes, ¬ AimsAt c s d) (doc : Json) :
    domain? (mergeChanges doc changes) s d = domain? doc s d := by
  induction changes generalizing doc with
  | nil => rfl
  | cons c rest ih =>
      have hrest : ∀ c ∈ rest, ¬ AimsAt c s d := fun c hc => h c (List.mem_cons_of_mem _ hc)
      rw [mergeChanges_cons, ih hrest]
      cases hw : isWellFormed c with
      | true =>
          obtain ⟨scopeName, domain, values, hs, hd, hv, -, -⟩ := Engined.isWellFormed_iff.mp hw
          have hne : ¬ (s = scopeName ∧ d = domain) := by
            rintro ⟨rfl, rfl⟩
            exact h c List.mem_cons_self ⟨hs, hd⟩
          rw [if_pos rfl, domain?_mergePatch hs hd hv, if_neg hne]
      | false => rfl

/-- Redaction leaves the accounts alone. -/
lemma domain?_user_redact (doc : Json) :
    domain? (redactSecretsForPersist doc) "pretzel" "user" = domain? doc "pretzel" "user" := by
  rw [domain?, domain?, redactSecretsForPersist, Json.find?_modify, if_pos rfl]
  cases doc.find? "pretzel" with
  | none => rfl
  | some v =>
      rw [Option.map_some, Option.bind_some, Option.bind_some, Json.find?_modify,
        if_neg (by decide), Json.find?_modify, if_neg (by decide)]

/-- A list under its key is replaced by the list a patch has, if it has one. -/
lemma find?_mergePatch_list {old : Json} {ms : List (String × Json)} {list : List Json}
    (hsorted : (Json.obj ms).isSorted = true) (hold : old.find? "list" = some (.arr list))
    (harray : ∀ v, (Json.obj ms).find? "list" = some v → v.isArray = true) :
    (old.mergePatch (.obj ms)).find? "list"
      = some (((Json.obj ms).find? "list").getD (.arr list)) := by
  have hnodup : (ms.map Prod.fst).Nodup := (Json.sortedKeys_of_isSorted hsorted).nodup
  rw [Json.mergePatch, Json.find?_obj, Json.lookup_mergeMembers _ _ hnodup, Json.find?_obj]
  cases hfind : Json.lookup "list" ms with
  | none => exact hold
  | some v =>
      obtain ⟨es, rfl⟩ := Json.isArray_iff.mp (harray v hfind)
      simp [Json.mergePatch]

/-- **One change that passed keeps the list sound.** -/
lemma userListSound_mergePatch {c : Json} {scopeName domain : String}
    {values : List (String × Json)} (hc : PassedChange c scopeName domain values) {doc : Json}
    (h : UserListSound doc) : UserListSound (doc.mergePatch (changePatch c)) := by
  obtain ⟨list, hlist, hsound⟩ := h
  rw [UserListSound, userList, domain?_mergePatch hc.scope hc.domain hc.values]
  split
  · next haimed =>
      obtain ⟨rfl, rfl⟩ := haimed
      obtain ⟨old, hold, hlist⟩ := Option.bind_eq_some_iff.mp hlist
      have hshape : validateUsers (.obj values) = .ok none := hc.shape
      have harray : ∀ v, (Json.obj values).find? "list" = some v → v.isArray = true := by
        intro v hv
        obtain ⟨es, rfl, -⟩ := soundList_of_validateUsers hshape hv
        rfl
      rw [hold, Option.getD_some, Option.bind_some, find?_mergePatch_list hc.sorted hlist harray]
      cases hv : (Json.obj values).find? "list" with
      | none => exact ⟨list, rfl, hsound⟩
      | some v =>
          obtain ⟨list', rfl, hsound'⟩ := soundList_of_validateUsers hshape hv
          exact ⟨list', rfl, hsound'⟩
  · exact ⟨list, hlist, hsound⟩

/-- **A batch that passed keeps the list sound**, redaction included. -/
theorem userListSound_mergeChanges {changes : List Json}
    (hpassed : ∀ c ∈ changes, ∃ scopeName domain values, PassedChange c scopeName domain values)
    {doc : Json} (h : UserListSound doc) :
    UserListSound (redactSecretsForPersist (mergeChanges doc changes)) := by
  rw [UserListSound, userList, domain?_user_redact, mergeChanges]
  have hstaged : ∀ c ∈ changes.filter fun c => isWellFormed c,
      ∃ scopeName domain values, PassedChange c scopeName domain values :=
    fun c hc => hpassed c (List.mem_of_mem_filter hc)
  generalize changes.filter (fun c => isWellFormed c) = staged at hstaged
  induction staged generalizing doc with
  | nil => exact h
  | cons c rest ih =>
      obtain ⟨scopeName, domain, values, hc⟩ := hstaged c List.mem_cons_self
      exact ih (userListSound_mergePatch hc h) fun c hc => hstaged c (List.mem_cons_of_mem _ hc)

/-! ### The path -/

/-- The document a commit ought to start from. -/
def activeDoc (file : Option Json) (s : CommitPath) : Json := baseDoc file s.engined.table

/-- A step that posts a batch, which mgmtd accepts. -/
def AcceptedFrom (file : Option Json) (isAdmin : Bool) (changes : List Json)
    (p : CommitPath × Label) : Prop :=
  ∃ body load, p.2 = .post (some body) isAdmin load ∧
    Accepts (configSource file p.1 load) isAdmin body p.1.mgmtd changes

/-- A step of engined all of whose fills of the cache find the active row. -/
def FillsRow (s : CommitPath) : Label → Prop
  | .engined l => FillsFind s.engined l
  | _ => True

/-- A preflighted store with a sound list, and engined not started. -/
def Managed (s : CommitPath) : Prop :=
  s.wire = [] ∧ Fresh s.engined ∧ s.engined.preflighted = true ∧
    ∃ r, activeRow s.engined.table = some r ∧ UserListSound r.config

/-- The accounts change with a batch that an admin posted, and with no batch of a
session that is no admin's. -/
def ChangedByAdmin (file : Option Json) (tr : List (CommitPath × Label)) (s s' : CommitPath) :
    Prop :=
  domain? (activeDoc file s') "pretzel" "user" = domain? (activeDoc file s) "pretzel" "user" ∨
    ∃ changes, activeDoc file s' = redactSecretsForPersist (mergeChanges (activeDoc file s) changes) ∧
      (∃ p ∈ tr, AcceptedFrom file true changes p) ∧ ∀ p ∈ tr, ¬ AcceptedFrom file false changes p

/-- What holds between steps: the list is sound, and each batch outstanding was
accepted in the run. -/
structure AccountsTracked (file : Option Json) (tr : List (CommitPath × Label)) (s : CommitPath) :
    Prop where
  tracked : Tracked s.engined
  coherent : Coherent file s.engined
  preflighted : s.engined.preflighted = true
  sound : UserListSound (activeDoc file s)
  batches : ∀ b ∈ outstanding s, ∃ changes isAdmin, b = .json (.arr changes) ∧
    ∃ p ∈ tr, AcceptedFrom file isAdmin changes p

lemma aimedAtAccounts_of_aimsAt {c : Json} (h : AimsAt c "pretzel" "user") : AimedAtAccounts c :=
  ⟨Json.isObject_of_find? h.1, Json.textOr_of_find? h.1, Json.textOr_of_find? h.2⟩

section Steps

variable {file : Option Json} {tr tr' : List (CommitPath × Label)} {s s' : CommitPath}

lemma accountsTracked_init (h : Managed s) : AccountsTracked file [] s := by
  obtain ⟨hwire, hfresh, hpre, r, hr, hsound⟩ := h
  have hempty : outstanding s = [] := by
    obtain ⟨tbl, dbReady, preflighted, heq⟩ := hfresh
    rw [outstanding, hwire, heq]
    rfl
  refine ⟨tracked_fresh hfresh, coherent_fresh hfresh, hpre, ?_, ?_⟩
  · rw [activeDoc, baseDoc, hr]
    exact hsound
  · rw [hempty]
    exact fun b hb => absurd hb List.not_mem_nil

/-- A batch accepted in a run has passed. -/
lemma passed_of_acceptedFrom {isAdmin : Bool} {changes : List Json} {p : CommitPath × Label}
    (h : AcceptedFrom file isAdmin changes p) :
    ∀ c ∈ changes, ∃ scopeName domain values, PassedChange c scopeName domain values := by
  obtain ⟨body, load, -, haccepts⟩ := h
  exact fun c hc => passed_of_accepts haccepts hc

/-- **The merge of an accepted batch** changes the accounts only where it is an
admin's. -/
lemma changedByAdmin_of_merge {changes : List Json} {isAdmin : Bool}
    (hmerge : activeDoc file s' = redactSecretsForPersist (mergeChanges (activeDoc file s) changes))
    (haccepted : ∃ p ∈ tr, AcceptedFrom file isAdmin changes p) : ChangedByAdmin file tr s s' := by
  by_cases haimed : ∃ c ∈ changes, AimsAt c "pretzel" "user"
  · obtain ⟨c, hc, haims⟩ := haimed
    have hnot : ∀ p, ¬ AcceptedFrom file false changes p := by
      rintro p ⟨body, load, -, haccepts⟩
      exact unaimed_of_accepts haccepts hc (aimedAtAccounts_of_aimsAt haims)
    cases isAdmin with
    | true => exact .inr ⟨changes, hmerge, haccepted, fun p _ => hnot p⟩
    | false =>
        obtain ⟨p, -, hp⟩ := haccepted
        exact absurd hp (hnot p)
  · refine .inl ?_
    rw [hmerge, domain?_user_redact]
    exact domain?_mergeChanges (fun c hc haims => haimed ⟨c, hc, haims⟩) (activeDoc file s)

/-- **A step of engined**, with the batch it receives taken off the wire. -/
lemma accounts_engined {l : Engined.Label} {e : EnginedState} {wire : List (IpcMessage Payload)}
    (h : AccountsTracked file tr s) (hfills : FillsFind s.engined l)
    (hs : (engined file).next s.engined l = some e)
    (hwire : arrivals l ++ wire.filterMap carriedBatch = s.wire.filterMap carriedBatch) :
    AccountsTracked file tr { s with wire, engined := e } ∧
      ChangedByAdmin file tr s { s with wire, engined := e } := by
  obtain ⟨⟨htracked, hcoherent, hpre⟩, ⟨htable, hless⟩ | ⟨changes, hmerges⟩⟩ :=
    engined_cases h.tracked h.coherent h.preflighted hfills hs hwire
  · have hdoc : activeDoc file { s with wire, engined := e } = activeDoc file s := by
      rw [activeDoc, activeDoc, htable]
    exact ⟨⟨htracked, hcoherent, hpre, hdoc ▸ h.sound, fun b hb => h.batches b (hless.subset hb)⟩,
      .inl (by rw [hdoc])⟩
  · have hmerge : activeDoc file { s with wire, engined := e }
        = redactSecretsForPersist (mergeChanges (activeDoc file s) changes) := hmerges.doc
    obtain ⟨changes', isAdmin, heq, haccepted⟩ := h.batches _ hmerges.mem
    rw [Payload.json.injEq, Json.arr.injEq] at heq
    subst heq
    refine ⟨⟨htracked, hcoherent, hpre, ?_, fun b hb => h.batches b (hmerges.sublist.subset hb)⟩,
      changedByAdmin_of_merge hmerge haccepted⟩
    obtain ⟨p, -, hp⟩ := haccepted
    rw [hmerge]
    exact userListSound_mergeChanges (passed_of_acceptedFrom hp) h.sound

lemma AccountsTracked.mono (h : AccountsTracked file tr s) (htr : ∀ p ∈ tr, p ∈ tr') :
    AccountsTracked file tr' s := by
  refine ⟨h.tracked, h.coherent, h.preflighted, h.sound, fun b hb => ?_⟩
  obtain ⟨changes, isAdmin, heq, p, hp, haccepted⟩ := h.batches b hb
  exact ⟨changes, isAdmin, heq, p, htr p hp, haccepted⟩

/-- **A post.** -/
lemma accounts_post {body : Option Json.Document} {isAdmin : Bool} {load : LoadIO}
    {out : CommitOutcome} (h : AccountsTracked file tr s)
    (hcommit : commit (configSource file s load) isAdmin (body.map Subtype.val) s.mgmtd = .ok out) :
    AccountsTracked file (tr ++ [(s, .post body isAdmin load)])
      { s with mgmtd := out.state, wire := s.wire ++ out.sent.toList } := by
  have hmono : AccountsTracked file (tr ++ [(s, .post body isAdmin load)]) s :=
    h.mono fun p hp => List.mem_append_left _ hp
  refine ⟨h.tracked, h.coherent, h.preflighted, h.sound, fun b hb => ?_⟩
  have hnew : outstanding { s with mgmtd := out.state, wire := s.wire ++ out.sent.toList }
      = outstanding s ++ out.sent.toList.filterMap carriedBatch := by
    rw [outstanding, List.filterMap_append, ← List.append_assoc]
    rfl
  rw [hnew] at hb
  rcases List.mem_append.mp hb with hb | hb
  · exact hmono.batches b hb
  · obtain ⟨msg, hmsg, hcarried⟩ := List.mem_filterMap.mp hb
    have hsent : out.sent = some msg := Option.mem_toList.mp hmsg
    have hsorted : ∀ j, body.map Subtype.val = some j → j.isSorted = true := by
      intro j hj
      obtain ⟨doc, -, rfl⟩ := Option.map_eq_some_iff.mp hj
      exact doc.property
    obtain ⟨j, changes, hj, -, rfl, -⟩ := commit_sent hcommit hsorted hsent
    obtain ⟨doc, rfl, rfl⟩ := Option.map_eq_some_iff.mp hj
    cases hcarried
    exact ⟨changes, isAdmin, rfl, (s, .post (some doc) isAdmin load),
      List.mem_append_right _ List.mem_cons_self, doc, load, rfl, out, hcommit, hsent⟩

/-- **Every step keeps the list sound**, and what it changes of the accounts an
admin posted. -/
theorem accounts_next {l : Label} (h : AccountsTracked file tr s) (hfills : FillsRow s l)
    (hs : (commitPath file).next s l = some s') :
    AccountsTracked file (tr ++ [(s, l)]) s' ∧ ChangedByAdmin file tr s s' := by
  have hmono : ∀ {u : CommitPath}, AccountsTracked file tr u →
      AccountsTracked file (tr ++ [(s, l)]) u :=
    fun hu => hu.mono fun p hp => List.mem_append_left _ hp
  cases l with
  | post body isAdmin load =>
      simp only [commitPath] at hs
      split at hs
      · next out hcommit =>
          cases hs
          exact ⟨accounts_post h hcommit, .inl rfl⟩
      · cases hs
  | readConfig load =>
      cases hs
      exact ⟨hmono ⟨h.tracked, h.coherent, h.preflighted, h.sound, h.batches⟩, .inl rfl⟩
  | answer msg =>
      simp only [commitPath, Option.ite_none_right_eq_some, Option.some.injEq] at hs
      obtain ⟨-, rfl⟩ := hs
      exact ⟨hmono ⟨h.tracked, h.coherent, h.preflighted, h.sound, h.batches⟩, .inl rfl⟩
  | deliver =>
      simp only [commitPath] at hs
      split at hs
      · cases hs
      · next msg wire hwire =>
          obtain ⟨e, hnext, rfl⟩ := Option.map_eq_some_iff.mp hs
          have hreceived : FillsFind s.engined (.receive msg) := trivial
          obtain ⟨htracked, hchanged⟩ := accounts_engined h hreceived hnext (arrivals_deliver hwire)
          exact ⟨hmono htracked, hchanged⟩
  | engined l =>
      simp only [commitPath, Option.ite_none_right_eq_some, Option.map_eq_some_iff] at hs
      obtain ⟨hforeign, e, hs, rfl⟩ := hs
      have hcarried : arrivals l ++ s.wire.filterMap carriedBatch
          = s.wire.filterMap carriedBatch := by
        rw [arrivals_of_isForeign hforeign, List.nil_append]
      obtain ⟨htracked, hchanged⟩ := accounts_engined h hfills hs hcarried
      exact ⟨hmono htracked, hchanged⟩

end Steps

/-! ### Whole runs -/

section Runs

variable {file : Option Json} {s t : CommitPath} {tr : List (CommitPath × Label)}

lemma accountsTracked_of_run (h0 : Managed s) (h : (commitPath file).Run s tr t)
    (htr : ∀ p ∈ tr, FillsRow p.1 p.2) : AccountsTracked file tr t := by
  induction h with
  | nil => exact accountsTracked_init h0
  | @snoc tr t t' l hrun hl ih =>
      have hpre : ∀ p ∈ tr, FillsRow p.1 p.2 := fun p hp => htr p (List.mem_append_left _ hp)
      exact (accounts_next (ih hpre) (htr (t, l) (by simp)) hl).1

/-- **Accounts stay manageable, and only admins change them**: in a run whose cache
fills find the active row the list stays sound, and a step changes the domain only
with a batch that was accepted from an admin and from nobody else. -/
theorem accounts_kept (h0 : Managed s) (h : (commitPath file).Run s tr t)
    (htr : ∀ p ∈ tr, FillsRow p.1 p.2) :
    UserListSound (activeDoc file t) ∧ ∀ l t', FillsRow t l →
      (commitPath file).next t l = some t' → ChangedByAdmin file tr t t' := by
  have htracked := accountsTracked_of_run h0 h htr
  exact ⟨htracked.sound, fun l t' hfills hs => (accounts_next htracked hfills hs).2⟩

/-- An account. -/
def Sample.account (oid role username : String) : Json :=
  .obj [("oid", .str oid), ("role", .str role), ("username", .str username)]

/-- A store whose active document has one account. -/
def Sample.managed : CommitPath where
  engined :=
    { Engined.Sample.boot with
      preflighted := true
      table := [⟨7, .obj [("pretzel", .obj [("user", .obj
        [("list", .arr [Sample.account "1" "admin" "anna"])])])], .active⟩] }

lemma Sample.managed_managed : Managed Sample.managed := by
  refine ⟨rfl, ⟨_, true, true, rfl⟩, rfl, _, rfl, _, rfl, ?_⟩
  exact ⟨List.cons_ne_nil _ _, ⟨_, List.mem_singleton_self _, rfl⟩, List.nodup_singleton _,
    List.nodup_singleton _⟩

/-- A batch of another domain. -/
def Sample.otherDomain : Json.Document :=
  ⟨.obj [("changes", .arr [Engined.Sample.change "site" [("sites", .arr [])]])], by decide⟩

/-- A batch that adds an account. -/
def Sample.addsAccount : Json.Document :=
  ⟨.obj [("changes", .arr [Engined.Sample.change "user" [("list", .arr
    [Sample.account "1" "admin" "anna", Sample.account "2" "user" "ben"])]])], by decide⟩

/-- One batch posted and merged, behind a given start. -/
def Sample.posted (body : Json.Document) (isAdmin : Bool) (start : LoadIO) : List Label :=
  List.flatten [[.post (some body) isAdmin Engined.Sample.up, .engined (.start start), .deliver,
    .engined (.schedule (Engined.Sample.tick 0))], Sample.dispatches 3 0]

lemma Sample.exec_lost : ((commitPath none).exec Sample.managed
    (Sample.posted Sample.otherDomain false ⟨true, fun _ => false⟩)).map
      (fun t => userList (activeDoc none t)) = some none := by
  decide

/-- One failed SELECT at the start, and the batch of a session that is no admin's
leaves no account. -/
theorem accounts_lost : ¬ ∀ s tr t, Managed s → (commitPath none).Run s tr t →
    UserListSound (activeDoc none t) := by
  intro hall
  obtain ⟨t, hexec, hlost⟩ := Option.map_eq_some_iff.mp Sample.exec_lost
  obtain ⟨list, hlist, -⟩ := hall _ _ _ Sample.managed_managed (Machine.exec_run hexec)
  cases hlost.symm.trans hlist

lemma Sample.exec_addsAccount : ((commitPath none).exec Sample.managed
      (Sample.posted Sample.addsAccount true Engined.Sample.up)).map
        (fun t => userList (activeDoc none t))
      = some (some (.arr [Sample.account "1" "admin" "anna", Sample.account "2" "user" "ben"])) ∧
    ((commitPath none).trace Sample.managed
      (Sample.posted Sample.addsAccount true Engined.Sample.up)).all Sample.inTurn = true := by
  decide +kernel

lemma fillsRow_of_postedInTurn {l : Label} (h : PostedInTurn file s l) : FillsRow s l := by
  cases l with
  | engined l => exact h
  | _ => trivial

/-- The law on an admin's batch. -/
theorem accounts_kept_addsAccount : ∃ t, (commitPath none).exec Sample.managed
      (Sample.posted Sample.addsAccount true Engined.Sample.up) = some t ∧
    userList (activeDoc none t)
      = some (.arr [Sample.account "1" "admin" "anna", Sample.account "2" "user" "ben"]) ∧
    UserListSound (activeDoc none t) := by
  obtain ⟨hend, hturns⟩ := Sample.exec_addsAccount
  obtain ⟨t, hexec, hlist⟩ := Option.map_eq_some_iff.mp hend
  exact ⟨t, hexec, hlist, (accounts_kept Sample.managed_managed (Machine.exec_run hexec)
    fun p hp => fillsRow_of_postedInTurn
      (Sample.postedInTurn_of_inTurn (List.all_eq_true.mp hturns p hp))).1⟩

end Runs

end Pretzel.Fleet
