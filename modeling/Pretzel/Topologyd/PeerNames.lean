import Mathlib.Data.List.TakeWhile
import Mathlib.Data.String.Basic
import Pretzel.Topologyd.NgfwModel

/-!
Which host names `classifyPeer` takes for an endpoint of Prisma Access.

* `PrismaName`: a name of that form, by its labels. `ClassifiedRight`: an address is
  classified by whether its host has one.
* `classifyLabels_of_marker`, `classifyLabels_of_none`: what the loop over the labels
  finds. The first marker decides, wherever it stands.
* `classifiedRight_iff`: **an address is classified right exactly when the first marker
  of a name with the domain in it stands where the form has it.**
-/

namespace Pretzel.Topologyd

open Texts

/-! ### Names -/

/-- The host of an address: without prefix length or port, in lower case. -/
def hostOf (addr : List Char) : List Char := lower (bareHost addr)

/-- A label that marks what a name stands for. -/
def IsMarker (l : List Char) : Prop := l = "sc".toList ∨ l = "rn".toList

instance : DecidablePred IsMarker := fun l =>
  inferInstanceAs (Decidable (l = "sc".toList ∨ l = "rn".toList))

/-- The name `before.marker.tenant.gpcloudservice.com`, no label of it empty. -/
structure PrismaName (h marker tenant : List Char) (before : List (List Char)) : Prop where
  labels : h.splitOn '.' =
    before ++ [marker, tenant, "gpcloudservice".toList, "com".toList]
  tenant_ne : tenant ≠ []
  before_ne : ∀ l ∈ before, l ≠ []

/-- The address is classified by the name of its host. -/
structure ClassifiedRight (addr : List Char) : Prop where
  service : ∀ tenant, ((classifyPeer addr).kind = .ServiceConnection ∧
      (classifyPeer addr).tenant = tenant) ↔
    ∃ before, PrismaName (hostOf addr) "sc".toList tenant before
  remote : ∀ tenant, ((classifyPeer addr).kind = .RemoteNetwork ∧
      (classifyPeer addr).tenant = tenant) ↔
    ∃ before, PrismaName (hostOf addr) "rn".toList tenant before
  place : ∀ marker tenant before, IsMarker marker → PrismaName (hostOf addr) marker tenant before →
    (2 ≤ before.length → (classifyPeer addr).region = before.getLastD [] ∧
      (classifyPeer addr).label = ['.'].intercalate before.dropLast) ∧
    (before.length = 1 → (classifyPeer addr).label = before.headD []) ∧
    (before = [] → (classifyPeer addr).label = hostOf addr)
  other : (∀ marker tenant before, IsMarker marker →
      ¬PrismaName (hostOf addr) marker tenant before) → (classifyPeer addr).kind = .External

/-- The first marker of the name, the last label apart, stands fourth from the end, before
a tenant and the domain, and no label before it is empty. -/
def MarkedRight (h : List Char) : Prop :=
  ∀ before marker next rest, h.splitOn '.' = before ++ marker :: next :: rest →
    IsMarker marker → (∀ l ∈ before, ¬IsMarker l) →
      rest = ["gpcloudservice".toList, "com".toList] ∧ next ≠ [] ∧ ∀ l ∈ before, l ≠ []

/-! ### Labels -/

/-- A name by its labels. -/
lemma eq_of_intercalate_eq {ls ls' : List (List Char)} (hls : ls ≠ []) (hls' : ls' ≠ [])
    (hdot : ∀ l ∈ ls, '.' ∉ l) (hdot' : ∀ l ∈ ls', '.' ∉ l)
    (h : ['.'].intercalate ls = ['.'].intercalate ls') : ls = ls' := by
  rw [← List.splitOn_intercalate '.' hdot hls, h, List.splitOn_intercalate '.' hdot' hls']

/-- Labels that are not empty are joined with a dot between each two. -/
lemma joinLabels_eq {ls : List (List Char)} (h : ∀ l ∈ ls, l ≠ []) :
    joinLabels ls = ['.'].intercalate ls := by
  have hfold : ∀ ls : List (List Char), ∀ label ≠ [], ls.foldl
      (fun label l => label ++ (if label = [] then [] else ['.']) ++ l) label =
        ['.'].intercalate (label :: ls) := by
    intro ls
    induction ls with
    | nil =>
        intro label _
        rw [List.intercalate_singleton]
        rfl
    | cons l ls ih =>
        intro label hlabel
        rw [List.foldl_cons, if_neg hlabel, ih _ (by simp), List.intercalate_cons_cons]
        cases ls with
        | nil => rw [List.intercalate_singleton, List.intercalate_singleton]
        | cons l' ls => simp [List.intercalate_cons_cons]
  cases ls with
  | nil => rfl
  | cons l ls =>
      rw [joinLabels, List.foldl_cons, if_pos rfl]
      exact hfold ls _ (h l List.mem_cons_self)

lemma PrismaName.unique {h marker tenant marker' tenant' : List Char}
    {before before' : List (List Char)} (hname : PrismaName h marker tenant before)
    (hname' : PrismaName h marker' tenant' before') :
    before = before' ∧ marker = marker' ∧ tenant = tenant' := by
  have hlabels := hname.labels.symm.trans hname'.labels
  obtain ⟨hbefore, htail⟩ := List.append_inj' hlabels rfl
  simp only [List.cons.injEq, and_true] at htail
  exact ⟨hbefore, htail.1, htail.2⟩

/-! ### What the loop finds -/

section Loop

variable {p : Peer} {host : List Char} {labels before pre rest : List (List Char)}
  {marker next : List Char}

lemma classifyLabels_of_marker (hmarker : IsMarker marker) (hpre : ∀ l ∈ pre, ¬IsMarker l) :
    classifyLabels p host before (pre ++ marker :: next :: rest) =
      some (markedPeer p host (before ++ pre) marker next) := by
  induction pre generalizing before with
  | nil =>
      rw [List.nil_append, classifyLabels, List.append_nil]
      exact if_pos hmarker
  | cons l pre ih =>
      have hl : ¬IsMarker l := hpre l List.mem_cons_self
      have hcons : ∃ n tail, pre ++ marker :: next :: rest = n :: tail := by
        cases pre with
        | nil => exact ⟨_, _, rfl⟩
        | cons n pre => exact ⟨_, _, rfl⟩
      obtain ⟨n, tail, htail⟩ := hcons
      rw [List.cons_append, htail, classifyLabels]
      refine (if_neg hl).trans ?_
      rw [← htail, ih fun l' hl' => hpre l' (List.mem_cons_of_mem _ hl'), List.append_assoc]
      rfl

/-- The first marker, or none. -/
lemma exists_first_marker (labels : List (List Char)) :
    (∃ pre marker next rest, labels = pre ++ marker :: next :: rest ∧ IsMarker marker ∧
      ∀ l ∈ pre, ¬IsMarker l) ∨
    ((∀ p host before, classifyLabels p host before labels = none) ∧
      ∀ pre marker next rest, labels = pre ++ marker :: next :: rest → ¬IsMarker marker) := by
  induction labels with
  | nil =>
      refine .inr ⟨fun p host before => rfl, fun pre marker next rest h => ?_⟩
      simp at h
  | cons l labels ih =>
      cases labels with
      | nil =>
          refine .inr ⟨fun p host before => rfl, fun pre marker next rest h => ?_⟩
          cases pre <;> simp at h
      | cons n labels =>
          by_cases hl : IsMarker l
          · exact .inl ⟨[], l, n, labels, rfl, hl, by simp⟩
          · rcases ih with ⟨pre, marker, next, rest, heq, hmarker, hpre⟩ | ⟨hnone, hno⟩
            · refine .inl ⟨l :: pre, marker, next, rest, by rw [heq]; rfl, hmarker, ?_⟩
              exact List.forall_mem_cons.mpr ⟨hl, hpre⟩
            · refine .inr ⟨fun p host before => ?_, fun pre marker next rest heq => ?_⟩
              · rw [classifyLabels]
                exact (if_neg hl).trans (hnone p host _)
              · cases pre with
                | nil =>
                    cases heq
                    exact hl
                | cons l' pre =>
                    rw [List.cons_append, List.cons.injEq] at heq
                    exact hno pre marker next rest heq.2

end Loop

/-! ### The host of an address -/

/-- A character before the letters is the lower case of itself alone. -/
lemma toLower_eq_iff {c d : Char} (hd : d.val.toNat < 65) : c.toLower = d ↔ c = d := by
  unfold Char.toLower
  split
  · next h =>
      have hlow : 65 ≤ c.val.toNat := UInt32.le_iff_toNat_le.mp h.1
      have hhigh : c.val.toNat ≤ 90 := UInt32.le_iff_toNat_le.mp h.2
      refine iff_of_false ?_ ?_
      · rintro rfl
        have hsum : (c.val + ('a'.val - 'A'.val)).toNat = c.val.toNat + 32 := by
          have hgap : ('a'.val - 'A'.val).toNat = 32 := rfl
          rw [UInt32.toNat_add, hgap]
          exact Nat.mod_eq_of_lt (by omega)
        rw [hsum] at hd
        omega
      · rintro rfl
        omega
  · rfl

lemma mem_lower_iff {d : Char} (hd : d.val.toNat < 65) {s : List Char} : d ∈ lower s ↔ d ∈ s := by
  simp [lower, toLower_eq_iff hd]

lemma count_lower {d : Char} (hd : d.val.toNat < 65) (s : List Char) :
    (lower s).count d = s.count d := by
  induction s with
  | nil => rfl
  | cons c s ih =>
      rw [lower, List.map_cons, List.count_cons, List.count_cons]
      rw [lower] at ih
      simp [ih, toLower_eq_iff hd]

/-- A text without prefix length, and without port. -/
lemma bareHost_of_bare {s : List Char} (hslash : '/' ∉ s)
    (hport : ¬(s.count ':' = 1 ∧ '.' ∈ s)) : bareHost s = s := by
  rw [bareHost, takeWhile_ne_eq_self_iff.mpr hslash]
  exact if_neg hport

/-- The host is what is left of itself. -/
lemma bareHost_hostOf (addr : List Char) : bareHost (hostOf addr) = hostOf addr := by
  have hslash : '/' ∉ addr.takeWhile (· ≠ '/') := by
    intro h
    simpa using List.mem_takeWhile_imp h
  rw [hostOf]
  refine bareHost_of_bare ?_ ?_
  · rw [mem_lower_iff (by decide), bareHost]
    split
    · exact fun h => hslash (List.takeWhile_subset _ h)
    · exact hslash
  · rw [count_lower (by decide), mem_lower_iff (by decide), bareHost]
    split
    · rintro ⟨hcount, -⟩
      have hmem : ':' ∈ (addr.takeWhile (· ≠ '/')).takeWhile (· ≠ ':') :=
        List.count_pos_iff.mp (by omega)
      simpa using List.mem_takeWhile_imp hmem
    · assumption

/-- An address in numbers has numbers for its labels. -/
lemma isSome_octet_of_parseV4 {addr : List Char} (h : (parseV4 (hostOf addr)).isSome = true) :
    ∀ l ∈ (hostOf addr).splitOn '.', (octet l).isSome = true := by
  rw [parseV4, bareHost_hostOf] at h
  split at h
  · next a b c d hmap =>
      intro l hl
      have hmem := List.mem_map_of_mem (f := octet) hl
      rw [hmap] at hmem
      simp only [List.mem_cons, List.not_mem_nil, or_false] at hmem
      rcases hmem with hmem | hmem | hmem | hmem <;> rw [hmem] <;> rfl
  · cases h

lemma not_isMarker_of_octet {l : List Char} (h : (octet l).isSome = true) : ¬IsMarker l := by
  rintro (rfl | rfl)
  · exact absurd h (by decide)
  · exact absurd h (by decide)

/-- A name of that form has the domain in it. -/
lemma PrismaName.infix {h marker tenant : List Char} {before : List (List Char)}
    (hname : PrismaName h marker tenant before) : "gpcloudservice.com".toList <:+: h := by
  have hjoin : ['.'].intercalate (h.splitOn '.') = h := List.intercalate_splitOn '.'
  rw [hname.labels] at hjoin
  have hsuffix : ∀ ls : List (List Char), "gpcloudservice.com".toList <:+
      ['.'].intercalate (ls ++ [marker, tenant, "gpcloudservice".toList, "com".toList]) := by
    intro ls
    induction ls with
    | nil =>
        refine ⟨marker ++ '.' :: (tenant ++ ['.']), ?_⟩
        simp [List.intercalate_cons_cons]
    | cons l ls ih =>
        rw [List.cons_append, List.intercalate_cons_of_ne_nil (by simp)]
        exact ih.trans (List.suffix_append _ _)
  rw [← hjoin]
  exact (hsuffix before).isInfix

/-! ### What a marker gives -/

section Marked

variable {p : Peer} {h marker next : List Char} {before : List (List Char)}

lemma kind_markedPeer : (markedPeer p h before marker next).kind =
    if marker = "sc".toList then .ServiceConnection else .RemoteNetwork := by
  rw [markedPeer]
  dsimp only
  split_ifs <;> rfl

lemma tenant_markedPeer : (markedPeer p h before marker next).tenant = next := by
  rw [markedPeer]
  dsimp only
  split_ifs <;> rfl

/-- Behind two labels or more the last is the region. -/
lemma region_markedPeer (hlen : 2 ≤ before.length) :
    (markedPeer p h before marker next).region = before.getLastD [] := by
  rw [markedPeer]
  dsimp only
  rw [if_pos hlen]
  split_ifs <;> rfl

/-- Behind fewer there is none. -/
lemma region_markedPeer_of_lt (hlen : ¬2 ≤ before.length) :
    (markedPeer p h before marker next).region = p.region := by
  rw [markedPeer]
  dsimp only
  rw [if_neg hlen]
  split_ifs <;> rfl

/-- The label of labels that are not empty. -/
lemma label_markedPeer (hlen : 2 ≤ before.length) (hne : ∀ l ∈ before, l ≠ []) :
    (markedPeer p h before marker next).label = ['.'].intercalate before.dropLast := by
  have hlabel : ['.'].intercalate before.dropLast ≠ [] := by
    match before, hlen with
    | l :: n :: rest, _ =>
        intro hempty
        have hl : l ≠ [] := hne l List.mem_cons_self
        rw [List.dropLast_cons_of_ne_nil (List.cons_ne_nil n rest)] at hempty
        cases hrest : (n :: rest).dropLast with
        | nil =>
            rw [hrest, List.intercalate_singleton] at hempty
            exact hl hempty
        | cons m ms =>
            rw [hrest, List.intercalate_cons_cons] at hempty
            simp at hempty
  have hjoin : joinLabels before.dropLast = ['.'].intercalate before.dropLast :=
    joinLabels_eq fun l hl => hne l (List.mem_of_mem_dropLast hl)
  rw [markedPeer]
  dsimp only
  rw [if_pos hlen, if_neg]
  · exact hjoin
  · dsimp only
    rw [hjoin]
    exact hlabel

lemma label_markedPeer_one (hlen : before.length = 1) (hne : ∀ l ∈ before, l ≠ []) :
    (markedPeer p h before marker next).label = before.headD [] := by
  obtain ⟨l, rfl⟩ := List.length_eq_one_iff.mp hlen
  simp [markedPeer, hne l List.mem_cons_self]

lemma label_markedPeer_nil (hp : p.label = []) :
    (markedPeer p h [] marker next).label = h := by
  simp [markedPeer, hp]

end Marked

/-! ### Classified right -/

section Classify

variable {addr : List Char}

/-- A kind that is not that of a marker, where there is no name of the form. -/
lemma classifiedRight_of_external (hkind : (classifyPeer addr).kind = .External)
    (hno : ∀ marker tenant before, IsMarker marker →
      ¬PrismaName (hostOf addr) marker tenant before) : ClassifiedRight addr where
  service tenant := by
    rw [hkind]
    refine iff_of_false (by simp) ?_
    rintro ⟨before, hname⟩
    exact hno _ _ _ (.inl rfl) hname
  remote tenant := by
    rw [hkind]
    refine iff_of_false (by simp) ?_
    rintro ⟨before, hname⟩
    exact hno _ _ _ (.inr rfl) hname
  place marker tenant before hmarker hname := absurd hname (hno _ _ _ hmarker)
  other _ := hkind

/-- An address in numbers, or without the domain, is external, and not of the form. -/
lemma classifyPeer_of_plain (hne : addr ≠ []) (h : (parseV4 (hostOf addr)).isSome = true ∨
    ¬"gpcloudservice.com".toList <:+: hostOf addr) : ClassifiedRight addr := by
  refine classifiedRight_of_external ?_ ?_
  · rw [classifyPeer]
    dsimp only
    rw [if_neg hne]
    rw [hostOf] at h
    split
    · rfl
    · next hv4 => rw [if_pos (afterFirst_eq_none_iff.mpr (h.resolve_left hv4))]
  · intro marker tenant before hmarker hname
    rcases h with hv4 | hdomain
    · have hmem : marker ∈ (hostOf addr).splitOn '.' := by simp [hname.labels]
      exact not_isMarker_of_octet (isSome_octet_of_parseV4 hv4 marker hmem) hmarker
    · exact hdomain hname.infix

/-- Another name with the domain in it is classified by its labels. -/
lemma classifyPeer_of_domain (hne : addr ≠ []) (hv4 : (parseV4 (hostOf addr)).isSome = false)
    (hdomain : "gpcloudservice.com".toList <:+: hostOf addr) :
    classifyPeer addr =
      (classifyLabels { addr := addr } (hostOf addr) [] ((hostOf addr).splitOn '.')).getD
        { addr := addr, kind := .External, label := hostOf addr } := by
  rw [classifyPeer]
  dsimp only
  rw [if_neg hne]
  rw [hostOf] at hv4 hdomain ⊢
  rw [if_neg (by simp [hv4]), if_neg fun h => afterFirst_eq_none_iff.mp h hdomain]

/-- The first marker decides: with it in its place the address is classified right. -/
lemma classifiedRight_of_marked {marker next : List Char} {pre : List (List Char)}
    (hpeer : classifyPeer addr = markedPeer { addr := addr } (hostOf addr) pre marker next)
    (hmarker : IsMarker marker) (hname : PrismaName (hostOf addr) marker next pre) :
    ClassifiedRight addr := by
  have hkind : (classifyPeer addr).kind =
      if marker = "sc".toList then .ServiceConnection else .RemoteNetwork := by
    rw [hpeer]
    exact kind_markedPeer
  have htenant : (classifyPeer addr).tenant = next := hpeer ▸ tenant_markedPeer
  have hrn : "rn".toList ≠ "sc".toList := by decide
  refine ⟨fun tenant => ?_, fun tenant => ?_, ?_, ?_⟩
  · rw [hkind, htenant]
    constructor
    · rintro ⟨hsc, rfl⟩
      refine ⟨pre, ?_⟩
      by_cases heq : marker = "sc".toList
      · rwa [← heq]
      · rw [if_neg heq] at hsc
        cases hsc
    · rintro ⟨before, hname'⟩
      obtain ⟨-, heq, htenant⟩ := hname.unique hname'
      exact ⟨if_pos heq, htenant⟩
  · rw [hkind, htenant]
    constructor
    · rintro ⟨hkind, rfl⟩
      refine ⟨pre, ?_⟩
      rcases hmarker with rfl | rfl
      · cases hkind
      · exact hname
    · rintro ⟨before, hname'⟩
      obtain ⟨-, heq, htenant⟩ := hname.unique hname'
      exact ⟨if_neg (heq ▸ hrn), htenant⟩
  · intro marker' tenant before _ hname'
    obtain ⟨rfl, -, -⟩ := hname.unique hname'
    rw [hpeer]
    refine ⟨fun hlen => ⟨region_markedPeer hlen, label_markedPeer hlen hname.before_ne⟩,
      fun hlen => label_markedPeer_one hlen hname.before_ne, ?_⟩
    rintro rfl
    exact label_markedPeer_nil rfl
  · intro hno
    exact absurd hname (hno _ _ _ hmarker)

/-- Classified right, an address with a marker has a name of the form. -/
lemma exists_prismaName_of_marked {marker next : List Char} {pre : List (List Char)}
    (hright : ClassifiedRight addr)
    (hpeer : classifyPeer addr = markedPeer { addr := addr } (hostOf addr) pre marker next) :
    ∃ marker' tenant before, IsMarker marker' ∧
      PrismaName (hostOf addr) marker' tenant before := by
  by_contra hno
  have hexternal := hright.other fun marker' tenant before hmarker' hname =>
    hno ⟨marker', tenant, before, hmarker', hname⟩
  rw [hpeer, kind_markedPeer] at hexternal
  split at hexternal <;> cases hexternal

/-- A marker before its place is not classified right. -/
lemma not_classifiedRight_of_early {marker next marker' tenant : List Char}
    {pre before rest : List (List Char)}
    (hpeer : classifyPeer addr = markedPeer { addr := addr } (hostOf addr) pre marker next)
    (hlabels : (hostOf addr).splitOn '.' = pre ++ marker :: next :: rest)
    (hmarker' : IsMarker marker') (hname : PrismaName (hostOf addr) marker' tenant before)
    (hlt : pre.length < before.length) : ¬ClassifiedRight addr := by
  intro hright
  obtain ⟨htwo, hone, -⟩ := hright.place _ _ _ hmarker' hname
  have hpre : pre <+: before := by
    have hboth := hlabels.symm.trans hname.labels
    exact List.prefix_of_prefix_length_le (hboth ▸ List.prefix_append pre _)
      (List.prefix_append before _) hlt.le
  have hprene : ∀ l ∈ pre, l ≠ [] := fun l hl => hname.before_ne l (hpre.subset hl)
  have hdot : ∀ l ∈ before, '.' ∉ l := fun l hl =>
    not_mem_of_mem_splitOn (hname.labels ▸ List.mem_append_left _ hl)
  by_cases hlen : 2 ≤ before.length
  · obtain ⟨hregion, hlabel⟩ := htwo hlen
    rw [hpeer] at hregion hlabel
    by_cases hprelen : 2 ≤ pre.length
    · -- The labels before the first marker are fewer than those of the name.
      rw [label_markedPeer hprelen hprene] at hlabel
      have hdrop : ∀ ls : List (List Char), 2 ≤ ls.length → ls.dropLast ≠ [] := by
        intro ls hls hnil
        have := congrArg List.length hnil
        rw [List.length_dropLast, List.length_nil] at this
        omega
      have heq := eq_of_intercalate_eq (hdrop pre hprelen) (hdrop before hlen)
        (fun l hl => hdot l (hpre.subset (List.mem_of_mem_dropLast hl)))
        (fun l hl => hdot l (List.mem_of_mem_dropLast hl)) hlabel
      have hlength := congrArg List.length heq
      rw [List.length_dropLast, List.length_dropLast] at hlength
      omega
    · rw [region_markedPeer_of_lt hprelen] at hregion
      have hbefore : before ≠ [] := List.ne_nil_of_length_pos (by omega)
      rw [List.getLastD_eq_getLast?, List.getLast?_eq_some_getLast hbefore,
        Option.getD_some] at hregion
      exact hname.before_ne _ (List.getLast_mem hbefore) hregion.symm
  · have hpre0 : pre = [] := List.eq_nil_of_length_eq_zero (by omega)
    obtain ⟨l, rfl⟩ := List.length_eq_one_iff.mp (show before.length = 1 by omega)
    have hlabel := hone rfl
    rw [hpeer, hpre0, label_markedPeer_nil rfl] at hlabel
    have hsplit := hname.labels
    rw [hlabel, List.headD_cons, List.splitOn_eq_singleton (hdot l List.mem_cons_self)] at hsplit
    cases hsplit

/-- Classified right, the first marker stands where the form has it. -/
lemma markedRight_of_classifiedRight {marker next : List Char} {pre rest : List (List Char)}
    (hright : ClassifiedRight addr)
    (hpeer : classifyPeer addr = markedPeer { addr := addr } (hostOf addr) pre marker next)
    (hlabels : (hostOf addr).splitOn '.' = pre ++ marker :: next :: rest)
    (hpre : ∀ l ∈ pre, ¬IsMarker l) :
    rest = ["gpcloudservice".toList, "com".toList] ∧ next ≠ [] ∧ ∀ l ∈ pre, l ≠ [] := by
  obtain ⟨marker', tenant, before, hmarker', hname⟩ := exists_prismaName_of_marked hright hpeer
  have hboth := hlabels.symm.trans hname.labels
  rcases lt_trichotomy pre.length before.length with hlt | heq | hgt
  · exact absurd hright (not_classifiedRight_of_early hpeer hlabels hmarker' hname hlt)
  · obtain ⟨rfl, htail⟩ := List.append_inj hboth heq
    simp only [List.cons.injEq] at htail
    obtain ⟨-, rfl, rfl⟩ := htail
    exact ⟨rfl, hname.tenant_ne, hname.before_ne⟩
  · -- The marker of the name stands among labels that are none.
    have hfront : before ++ [marker'] <+: pre := by
      have hlong : before ++ [marker'] <+: pre ++ marker :: next :: rest := by
        rw [hboth]
        exact ⟨[tenant, "gpcloudservice".toList, "com".toList], by simp⟩
      exact List.prefix_of_prefix_length_le hlong (List.prefix_append _ _) (by simpa using hgt)
    have hmem : marker' ∈ pre := hfront.subset (by simp)
    exact absurd hmarker' (hpre marker' hmem)

/-- **An address is classified right exactly when the first marker of a name with the
domain in it stands where the form has it.** -/
theorem classifiedRight_iff (hne : addr ≠ []) : ClassifiedRight addr ↔
    ("gpcloudservice.com".toList <:+: hostOf addr → MarkedRight (hostOf addr)) := by
  by_cases hplain : (parseV4 (hostOf addr)).isSome = true ∨
      ¬"gpcloudservice.com".toList <:+: hostOf addr
  · refine iff_of_true (classifyPeer_of_plain hne hplain) fun hdomain => ?_
    have hv4 := hplain.resolve_right (not_not_intro hdomain)
    intro before marker next rest hlabels hmarker
    have hmem : marker ∈ (hostOf addr).splitOn '.' := by simp [hlabels]
    exact absurd hmarker (not_isMarker_of_octet (isSome_octet_of_parseV4 hv4 marker hmem))
  · rw [not_or, not_not, Bool.not_eq_true] at hplain
    obtain ⟨hv4, hdomain⟩ := hplain
    have hclassify := classifyPeer_of_domain hne hv4 hdomain
    rw [forall_prop_of_true hdomain]
    have hpeer : ∀ pre marker next rest,
        (hostOf addr).splitOn '.' = pre ++ marker :: next :: rest → IsMarker marker →
          (∀ l ∈ pre, ¬IsMarker l) →
            classifyPeer addr = markedPeer { addr := addr } (hostOf addr) pre marker next := by
      intro pre marker next rest hlabels hmarker hpre
      rw [hclassify, hlabels, classifyLabels_of_marker hmarker hpre]
      rfl
    rcases exists_first_marker ((hostOf addr).splitOn '.') with
      ⟨pre, marker, next, rest, hlabels, hmarker, hpre⟩ | ⟨hnone, hno⟩
    · constructor
      · intro hright pre marker next rest hlabels hmarker hpre
        exact markedRight_of_classifiedRight hright (hpeer pre marker next rest hlabels hmarker hpre)
          hlabels hpre
      · intro hmarked
        obtain ⟨rfl, hnext, hprene⟩ := hmarked _ _ _ _ hlabels hmarker hpre
        exact classifiedRight_of_marked (hpeer _ _ _ _ hlabels hmarker hpre) hmarker
          ⟨hlabels, hnext, hprene⟩
    · refine iff_of_true (classifiedRight_of_external ?_ ?_) ?_
      · rw [hclassify, hnone]
        rfl
      · intro marker tenant before hmarker hname
        exact hno _ _ _ _ hname.labels hmarker
      · intro before marker next rest hlabels hmarker
        exact absurd hmarker (hno _ _ _ _ hlabels)

end Classify

theorem classifiedRight_iff_of_location :
    "a.kr.sc.t1.gpcloudservice.com".toList ≠ [] ∧
    (ClassifiedRight "a.kr.sc.t1.gpcloudservice.com".toList ↔
      ("gpcloudservice.com".toList <:+: hostOf "a.kr.sc.t1.gpcloudservice.com".toList →
        MarkedRight (hostOf "a.kr.sc.t1.gpcloudservice.com".toList))) :=
  ⟨by decide, classifiedRight_iff (by decide)⟩

/-- **A location that is called as a marker is taken for it**: the label behind it is
the tenant. -/
theorem location_taken_for_marker :
    (classifyPeer "sc.kr.sc.t1.gpcloudservice.com".toList).tenant = "kr".toList ∧
    ¬ClassifiedRight "sc.kr.sc.t1.gpcloudservice.com".toList := by
  have htenant : (classifyPeer "sc.kr.sc.t1.gpcloudservice.com".toList).tenant = "kr".toList := by
    decide
  refine ⟨htenant, fun hright => ?_⟩
  have hname : PrismaName (hostOf "sc.kr.sc.t1.gpcloudservice.com".toList) "sc".toList "t1".toList
      ["sc".toList, "kr".toList] := ⟨by decide, by decide, by decide⟩
  obtain ⟨-, htrue⟩ := (hright.service "t1".toList).mpr ⟨_, hname⟩
  rw [htenant] at htrue
  exact absurd htrue (by decide)

end Pretzel.Topologyd
