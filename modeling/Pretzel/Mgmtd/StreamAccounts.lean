import Pretzel.Mgmtd.CollectionController

/-!
What the overview of the collection says of every stream.

* `repeats`: how many elements of a list have a key that was seen, or that of an earlier
  one. `card_images`: the others are as many as the keys that are new.
* `sampledStreams`: the streams that have samples.
* `DeclaredAt`: a stream of a connector whose device is at a site.
* `Accounts`: one row for each of these, and as orphans those declared nowhere.
* `strayed`: streams with samples that are declared at another site.
* **`overview_accounts_iff`**: the overview accounts for every stream where it can be read,
  no stream of the scope is declared twice, and none has strayed.
* `strayed_counted`: a stream of another site is counted as an orphan.
-/

namespace Pretzel.Mgmtd

open Nlohmann Ipc Texts Engined

namespace CollectionController

/-! ### Keys -/

section Keys

variable {α β : Type} [DecidableEq β]

/-- How many elements have a key that was seen, or that of an earlier one. -/
def repeats (key : α → β) (seen : List β) : List α → ℕ
  | [] => 0
  | a :: rest =>
      if key a ∈ seen then repeats key seen rest + 1 else repeats key (key a :: seen) rest

/-- **The keys that are new**, and the elements without one. -/
lemma card_images (key : α → β) (seen : List β) (l : List α) :
    ((l.map key).toFinset \ seen.toFinset).card + repeats key seen l = l.length := by
  induction l generalizing seen with
  | nil => simp [repeats]
  | cons a l ih =>
      rw [repeats, List.map_cons, List.toFinset_cons, List.length_cons]
      split
      · next hseen =>
          rw [Finset.insert_sdiff_of_mem _ (List.mem_toFinset.mpr hseen), ← ih seen]
          omega
      · next hseen =>
          have hnew : key a ∉ seen.toFinset := fun h => hseen (List.mem_toFinset.mp h)
          have hrest := ih (key a :: seen)
          rw [List.toFinset_cons, Finset.sdiff_insert] at hrest
          have hfirst : ∀ s : Finset β, insert (key a) s = insert (key a) (s.erase (key a)) := by
            intro s
            ext b
            simp only [Finset.mem_insert, Finset.mem_erase]
            tauto
          rw [Finset.insert_sdiff_of_notMem _ hnew, hfirst,
            Finset.card_insert_of_notMem (Finset.notMem_erase _ _), ← hrest]
          omega

/-- Where every key is of one element, no key is repeated. -/
lemma repeats_eq_zero {key : α → β} {seen : List β} {l : List α} (h : (l.map key).Nodup)
    (hseen : ∀ a ∈ l, key a ∉ seen) : repeats key seen l = 0 := by
  induction l generalizing seen with
  | nil => rfl
  | cons a l ih =>
      rw [List.map_cons, List.nodup_cons] at h
      rw [List.forall_mem_cons] at hseen
      rw [repeats, if_neg hseen.1]
      refine ih h.2 fun b hb => ?_
      rw [List.mem_cons, not_or]
      exact ⟨fun heq => h.1 (List.mem_map.mpr ⟨b, hb, heq⟩), hseen.2 b hb⟩

end Keys

/-! ### The streams with samples -/

variable {site api : Json} {rows : List CollectionRow} {siteOid : Bytes} {o : Overview}

/-- The streams that have samples. -/
def sampledStreams (rows : List CollectionRow) : List (String × String) :=
  (rows.map rowPair).dedup

/-- Of some rows one is the newest. -/
lemma exists_newest {rows : List CollectionRow} (h : rows ≠ []) :
    ∃ r ∈ rows, newest rows = some r := by
  induction rows with
  | nil => exact absurd rfl h
  | cons r rest ih =>
      rw [newest]
      by_cases hrest : rest = []
      · rw [hrest]
        exact ⟨r, List.mem_cons_self, rfl⟩
      · obtain ⟨q, hq, hnewest⟩ := ih hrest
        rw [hnewest]
        dsimp only
        split
        · exact ⟨r, List.mem_cons_self, rfl⟩
        · exact ⟨q, List.mem_cons_of_mem r hq, rfl⟩

/-- The newest rows are one of each stream. -/
lemma map_latestRows (rows : List CollectionRow) :
    (latestRows rows).map rowPair = sampledStreams rows := by
  have hone : ∀ p ∈ (rows.map rowPair).dedup,
      (newest (rows.filter fun r => rowPair r = p)).map rowPair = some p := by
    intro p hp
    obtain ⟨r, hr, hpair⟩ := List.mem_map.mp (List.mem_dedup.mp hp)
    have hne : (rows.filter fun r => rowPair r = p) ≠ [] :=
      List.ne_nil_of_mem (List.mem_filter.mpr ⟨hr, by simp [hpair]⟩)
    obtain ⟨q, hq, hnewest⟩ := exists_newest hne
    rw [hnewest, Option.map_some]
    simpa using (List.mem_filter.mp hq).2
  rw [latestRows, List.map_filterMap, sampledStreams]
  calc ((rows.map rowPair).dedup.filterMap fun p =>
        (newest (rows.filter fun r => rowPair r = p)).map rowPair)
      = (rows.map rowPair).dedup.filterMap some := List.filterMap_congr hone
    _ = (rows.map rowPair).dedup := List.filterMap_some

/-- The key of a stream. -/
def pairKey (p : String × String) : String := streamKey p.1 p.2

/-- The keys of the last samples. -/
lemma mem_keys_lastOf {key : String} :
    key ∈ (lastOf rows).keys ↔ ∃ p ∈ sampledStreams rows, pairKey p = key := by
  have hfold : ∀ (l : List CollectionRow) (m : AList fun _ : String => CollectionRow),
      key ∈ (l.foldl (fun m r => m.insert (streamKey r.2.connectorOid r.2.endpointOid) r) m).keys ↔
        (∃ p ∈ l.map rowPair, pairKey p = key) ∨ key ∈ m.keys := by
    intro l
    induction l with
    | nil => simp
    | cons r l ih =>
        intro m
        rw [List.foldl_cons, ih, ← AList.mem_keys, AList.mem_insert, AList.mem_keys, List.map_cons]
        simp only [List.mem_cons, exists_eq_or_imp]
        constructor
        · rintro (h | rfl | h)
          · exact .inl (.inr h)
          · exact .inl (.inl rfl)
          · exact .inr h
        · rintro ((rfl | h) | h)
          · exact .inr (.inl rfl)
          · exact .inl h
          · exact .inr (.inr h)
  rw [lastOf, hfold, map_latestRows]
  simp

/-- A connector whose oid has no separator is known by the key. -/
lemma pairKey_inj {p q : String × String} (hp : '\x1f' ∉ p.1.toList) (hq : '\x1f' ∉ q.1.toList)
    (h : pairKey p = pairKey q) : p = q := by
  have hlist : p.1.toList ++ '\x1f' :: p.2.toList = q.1.toList ++ '\x1f' :: q.2.toList := by
    have htexts := congrArg String.toList h
    simpa [pairKey, streamKey] using htexts
  have hfirst := (takeWhile_split hp p.2.toList).1
  have hsecond := (takeWhile_split hp p.2.toList).2
  rw [hlist, (takeWhile_split hq q.2.toList).1] at hfirst
  rw [hlist, (takeWhile_split hq q.2.toList).2] at hsecond
  exact Prod.ext (String.toList_injective hfirst.symm)
    (String.toList_injective (List.cons.inj hsecond).2.symm)

/-! ### What the overview accounts for -/

/-- The stream is declared by a connector whose device is at the site that was chosen. -/
def DeclaredAt (site api : Json) (siteOid : Bytes) (p : String × String) : Prop :=
  siteOid ≠ [] ∧ ∃ c ∈ api.elementsAt "connectors", p ∈ declaredBy c ∧
    ∃ dev, entryOf (deviceEntries site) (c.textOr "object" "") = some dev ∧
      textBytes dev.site = siteOid

/-- **The overview accounts for every stream**: a row for each that is declared at the site,
one only, and as orphans those with samples that no connector declares. -/
structure Accounts (site api : Json) (rows : List CollectionRow) (siteOid : Bytes)
    (o : Overview) : Prop where
  once : (o.streams.map fun s => (s.connectorOid, s.endpointOid)).Nodup
  listed : ∀ p, p ∈ o.streams.map (fun s => (s.connectorOid, s.endpointOid)) ↔
    DeclaredAt site api siteOid p
  orphans : o.orphanStreams =
    ((sampledStreams rows).filter fun p => p ∉ declaredStreams api).length

/-- The streams with samples that are declared, at another site than the one chosen or at
none. -/
def strayed (site api : Json) (rows : List CollectionRow) (siteOid : Bytes) :
    List (String × String) :=
  (sampledStreams rows).filter fun p =>
    p ∈ declaredStreams api ∧ p ∉ scopedStreams site api siteOid

/-- How many streams with samples share their key with another one. -/
def sharedKeys (site api : Json) (rows : List CollectionRow) (siteOid : Bytes) : ℕ :=
  repeats pairKey ((scopedStreams site api siteOid).map pairKey)
    ((sampledStreams rows).filter fun p => p ∉ scopedStreams site api siteOid)

/-- The overview can account for every stream: it can be read, no stream is declared twice
in the scope, and none with samples is declared out of it, unless as many share a key. -/
structure Accountable (site api : Json) (rows : List CollectionRow) (siteOid : Bytes) : Prop where
  text : isUtf8 siteOid = true
  readable : Readable site api siteOid
  once : (scopedStreams site api siteOid).Nodup
  settled : (strayed site api rows siteOid).length = sharedKeys site api rows siteOid

lemma mem_scopedStreams {p : String × String} :
    p ∈ scopedStreams site api siteOid ↔ DeclaredAt site api siteOid p := by
  rw [scopedStreams, DeclaredAt]
  split
  · next hnone => simp [hnone]
  · next hchosen =>
      rw [List.mem_flatMap]
      constructor
      · rintro ⟨c, hc, hp⟩
        split at hp
        · next hscope =>
            exact ⟨hchosen, c, hc, hp, hscope.resolve_left hchosen⟩
        · cases hp
      · rintro ⟨-, c, hc, hp, hdevice⟩
        refine ⟨c, hc, ?_⟩
        rw [if_pos (.inr hdevice)]
        exact hp

/-- What is declared at a site is declared. -/
lemma mem_declaredStreams {p : String × String} (h : p ∈ scopedStreams site api siteOid) :
    p ∈ declaredStreams api := by
  obtain ⟨-, c, hc, hp, -⟩ := mem_scopedStreams.mp h
  exact List.mem_flatMap.mpr ⟨c, hc, hp⟩

/-- The rows of the overview. -/
lemma Composed.pairs (h : Composed site api rows siteOid o) :
    o.streams.map (fun s => (s.connectorOid, s.endpointOid)) = scopedStreams site api siteOid := by
  have hsecond := congrArg (List.map Prod.snd) h.streams
  rw [List.map_map, List.map_map] at hsecond
  have hid : (Prod.snd ∘ keyedPair : String × String → String × String) = id := rfl
  rw [hid, List.map_id] at hsecond
  exact hsecond

/-- **The orphans the overview counts**: the keys of the streams with samples that are not
declared in the scope. -/
lemma Composed.orphans_add (h : Composed site api rows siteOid o) :
    o.orphanStreams + sharedKeys site api rows siteOid =
      ((sampledStreams rows).filter fun p => p ∉ scopedStreams site api siteOid).length := by
  have hcount : o.orphanStreams =
      ((((sampledStreams rows).filter fun p => p ∉ scopedStreams site api siteOid).map
        pairKey).toFinset \ ((scopedStreams site api siteOid).map pairKey).toFinset).card := by
    have hnodup : ((lastOf rows).keys.filter fun key =>
        key ∉ (scopedStreams site api siteOid).map pairKey).Nodup :=
      (lastOf rows).keys_nodup.filter _
    rw [h.orphans]
    change ((lastOf rows).keys.filter fun key =>
      key ∉ (scopedStreams site api siteOid).map pairKey).length = _
    rw [← List.toFinset_card_of_nodup hnodup]
    congr 1
    ext key
    simp only [List.mem_toFinset, List.mem_filter, Finset.mem_sdiff, decide_eq_true_eq,
      mem_keys_lastOf]
    refine and_congr_left fun hnew => ?_
    rw [List.mem_map]
    constructor
    · rintro ⟨p, hp, hkey⟩
      refine ⟨p, List.mem_filter.mpr ⟨hp, ?_⟩, hkey⟩
      rw [decide_eq_true_eq]
      exact fun hscope => hnew (List.mem_map.mpr ⟨p, hscope, hkey⟩)
    · rintro ⟨p, hp, hkey⟩
      exact ⟨p, (List.mem_filter.mp hp).1, hkey⟩
  rw [hcount, sharedKeys]
  exact card_images pairKey _ _

/-- Out of the scope a stream is declared nowhere, or has strayed. -/
lemma length_outOfScope (site api : Json) (rows : List CollectionRow) (siteOid : Bytes) :
    ((sampledStreams rows).filter fun p => p ∉ scopedStreams site api siteOid).length =
      ((sampledStreams rows).filter fun p => p ∉ declaredStreams api).length +
        (strayed site api rows siteOid).length := by
  rw [strayed, ← List.countP_eq_length_filter, ← List.countP_eq_length_filter,
    ← List.countP_eq_length_filter]
  induction sampledStreams rows with
  | nil => rfl
  | cons p ps ih =>
      simp only [List.countP_cons, decide_eq_true_eq, ih]
      by_cases hdeclared : p ∈ declaredStreams api
      · by_cases hscope : p ∈ scopedStreams site api siteOid
        · simp [hdeclared, hscope]
        · simp only [hdeclared, hscope, not_true_eq_false, not_false_eq_true, and_self, if_true,
            if_false]
          omega
      · have hscope : p ∉ scopedStreams site api siteOid := by
          intro h
          exact hdeclared (mem_declaredStreams h)
        simp only [hdeclared, hscope, not_false_eq_true, false_and, if_true, if_false]
        omega

/-- **Without a separator in the oids no key is shared**, and the overview is settled where
no stream has strayed. -/
lemma settled_iff (hsampled : ∀ p ∈ sampledStreams rows, '\x1f' ∉ p.1.toList)
    (hscoped : ∀ p ∈ scopedStreams site api siteOid, '\x1f' ∉ p.1.toList) :
    (strayed site api rows siteOid).length = sharedKeys site api rows siteOid ↔
      strayed site api rows siteOid = [] := by
  have hmem : ∀ p ∈ (sampledStreams rows).filter fun p => p ∉ scopedStreams site api siteOid,
      p ∈ sampledStreams rows ∧ p ∉ scopedStreams site api siteOid := by
    intro p hp
    obtain ⟨hsample, hout⟩ := List.mem_filter.mp hp
    exact ⟨hsample, of_decide_eq_true hout⟩
  have hnone : sharedKeys site api rows siteOid = 0 := by
    refine repeats_eq_zero ?_ fun p hp hkey => ?_
    · refine List.Nodup.map_on (fun p hp q hq heq => ?_) ((List.nodup_dedup _).filter _)
      exact pairKey_inj (hsampled p (hmem p hp).1) (hsampled q (hmem q hq).1) heq
    · obtain ⟨q, hq, heq⟩ := List.mem_map.mp hkey
      have hsame := pairKey_inj (hscoped q hq) (hsampled p (hmem p hp).1) heq
      exact (hmem p hp).2 (hsame ▸ hq)
  rw [hnone, List.length_eq_zero_iff]

/-- **The overview accounts for every stream** exactly where it can be read, no stream of
the scope is declared twice, and none with samples is declared at another site. -/
theorem overview_accounts_iff (site api : Json) (rows : List CollectionRow) (now : ℤ)
    (target : Bytes) :
    (∃ o, overview site api rows now target = .shown o ∧
        Accounts site api rows (queryParam target "site") o) ↔
      Accountable site api rows (queryParam target "site") := by
  constructor
  · rintro ⟨o, hshown, haccounts⟩
    rw [overview] at hshown
    split at hshown
    · cases hshown
    · next out hcompose =>
        split at hshown
        · next htext =>
            cases hshown
            obtain ⟨hreadable, hcomposed⟩ := composed_of_ok hcompose
            refine ⟨hcomposed.asked ▸ htext, hreadable, hcomposed.pairs ▸ haccounts.once, ?_⟩
            have hsum := hcomposed.orphans_add
            rw [length_outOfScope, haccounts.orphans] at hsum
            omega
        · cases hshown
  · intro h
    obtain ⟨o, hcompose⟩ := returns_composeOverview rows now h.readable
    obtain ⟨-, hcomposed⟩ := composed_of_ok hcompose
    refine ⟨o, ?_, ?_, fun p => ?_, ?_⟩
    · rw [overview, hcompose]
      dsimp only
      rw [hcomposed.asked, if_pos h.text]
    · rw [hcomposed.pairs]
      exact h.once
    · rw [hcomposed.pairs]
      exact mem_scopedStreams
    · have hsum := hcomposed.orphans_add
      rw [length_outOfScope, ← h.settled] at hsum
      omega

/-! ### A stream of another site -/

namespace OtherSite

/-- Two sites, and a device at the first. -/
def twoSites : Json :=
  .obj [("ngfw_devices", .arr [.obj [("oid", .str "d"), ("site", .str "s1")]]),
    ("sites", .arr [.obj [("oid", .str "s1")], .obj [("oid", .str "s2")]])]

/-- One connector with one item. -/
def oneConnector : Json :=
  .obj [("connectors", .arr [.obj [("items", .arr [.obj [("endpoint", .str "e")]]),
    ("object", .str "d"), ("oid", .str "c")]])]

/-- One sample of it. -/
def oneSample : List CollectionRow :=
  [(1, { connectorOid := "c", endpointOid := "e", collectedAt := 0, ok := true
         httpStatus := some 200, latencyMs := some 5, bytes := some 2, truncated := false
         body := none, error := none })]

end OtherSite

/-- The overview of the second site counts the stream of the first as an orphan. -/
theorem strayed_counted :
    ¬∀ site api rows now target o, overview site api rows now target = .shown o →
      Accounts site api rows (queryParam target "site") o := by
  intro h
  have hcount : (match overview OtherSite.twoSites OtherSite.oneConnector OtherSite.oneSample 0
      (textBytes "/api/collection?site=s2") with
      | .shown o => some o.orphanStreams
      | _ => none) = some 1 := by
    decide +kernel
  have hnone : ((sampledStreams OtherSite.oneSample).filter fun p =>
      p ∉ declaredStreams OtherSite.oneConnector).length = 0 := by
    decide +kernel
  cases hshown : overview OtherSite.twoSites OtherSite.oneConnector OtherSite.oneSample 0
      (textBytes "/api/collection?site=s2") with
  | shown o =>
      rw [hshown] at hcount
      have horphans := (h _ _ _ _ _ o hshown).orphans
      rw [hnone, Option.some.inj hcount] at horphans
      cases horphans
  | unavailable => rw [hshown] at hcount; cases hcount
  | threw => rw [hshown] at hcount; cases hcount

end CollectionController

end Pretzel.Mgmtd
