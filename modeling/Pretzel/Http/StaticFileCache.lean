import Pretzel.Library.FileTree

/-!
The files mgmtd serves (`shared/http/StaticFileCache.cpp`), over a tree that stands
still.

* `Entry`, `contentType`, `makeEtag`: what is served.
* `safeTarget`, `normalize`: whether a target is answered, and the key of one.
* `preload`: the files read once, by their keys. The order of the walk is the tree's:
  no key is there twice.
* `StaticFileCache.make`, `StaticFileCache.get`: the cache, in its two modes.
* `answer_preload_eq_some_iff`, `answer_reload_eq_some_iff`: what each of them answers.
* `NamesPlainFile`: whatever can be read under a target is a regular file, by a path
  of names.
* **`modes_agree_iff`**: the modes agree on just these targets, and neither leaves the
  base directory.
-/

namespace Pretzel.Http

open Texts FileTree

/-- `StaticFileCache::Entry`. -/
structure Entry where
  contentType : String
  body : List UInt8
  etag : String
deriving DecidableEq, Repr

/-- `endsWith`. -/
def endsWith (s suffix : List UInt8) : Bool := suffix.isSuffixOf s

/-- `contentType`. -/
def contentType (target : List UInt8) : String :=
  if endsWith target (textBytes ".html") then "text/html; charset=utf-8"
  else if endsWith target (textBytes ".js") then "application/javascript; charset=utf-8"
  else if endsWith target (textBytes ".css") then "text/css; charset=utf-8"
  else if endsWith target (textBytes ".json") then "application/json; charset=utf-8"
  else if endsWith target (textBytes ".svg") then "image/svg+xml"
  else if endsWith target (textBytes ".png") then "image/png"
  else if endsWith target (textBytes ".ico") then "image/x-icon"
  else "text/plain; charset=utf-8"

/-- `%016llx`. -/
def hex16 (h : UInt64) : List Char := (Nat.toDigits 16 h.toNat).leftpad 16 '0'

/-- `makeEtag`. -/
def makeEtag (body : List UInt8) : String :=
  let h : UInt64 :=
    body.foldl (fun h c => (h ^^^ c.toUInt64) * 1099511628211) 1469598103934665603
  let h := h ^^^ UInt64.ofNat body.length
  String.ofList ('"' :: hex16 h ++ ['"'])

/-- The entry of a body under a key. -/
def entryOf (key body : List UInt8) : Entry := ⟨contentType key, body, makeEtag body⟩

/-- `safeTarget`. -/
def safeTarget (target : List UInt8) : Bool :=
  target ≠ [] && target.head? = some 47 && !decide ([46, 46] <:+: target)

/-- `normalize`. -/
def normalize (target : List UInt8) : List UInt8 :=
  if target = [47] then textBytes "/index.html"
  else
    let seg :=
      match splitLast 47 target with
      | none => target
      | some (_, seg) => seg
    if 46 ∉ seg then target ++ textBytes ".html" else target

/-- `loadFile`: none where it throws. -/
def loadFile (d : Disk) (path : Path) : Option (List UInt8) := (d.resolve path).bind d.read

/-- One turn of the loop of `preload`: the file of an entry, by its names from the base
directory. -/
def preloadFile (d : Disk) (baseDir : Path) (names : List Name) (node : Node) :
    Option (List UInt8 × Entry) :=
  if node.kind ≠ .regular then none
  else
    let rel := [47].intercalate names
    if rel = [] then none
    else
      let key := 47 :: rel
      (loadFile d (names.foldl joinPath baseDir)).map fun body => (key, entryOf key body)

/-- `preload`. -/
def preload (d : Disk) (baseDir : Path) : List (List UInt8 × Entry) :=
  match d.resolve baseDir with
  | none => []
  | some base => (d.below base).filterMap fun entry => preloadFile d baseDir entry.1 entry.2

structure StaticFileCache where
  baseDir : Path
  reload : Bool
  files : List (List UInt8 × Entry)

/-- The constructor. -/
def StaticFileCache.make (d : Disk) (baseDir : Path) (reload : Bool) : StaticFileCache :=
  { baseDir, reload, files := if reload then [] else preload d baseDir }

/-- `get`. -/
def StaticFileCache.get (d : Disk) (cache : StaticFileCache) (target : List UInt8) :
    Option Entry :=
  if !safeTarget target then none
  else
    let key := normalize target
    if cache.reload then (loadFile d (cache.baseDir ++ key)).map (entryOf key)
    else cache.files.lookup key

/-! ### Keys -/

section Keys

variable {d : Disk} {baseDir : Path} {target rest : List UInt8}

/-- A text behind another, with no pair of dots where they meet. -/
lemma no_parent_append {s t : List UInt8} (hs : ¬[46, 46] <:+: s) (ht : ¬[46, 46] <:+: t)
    (hlast : s.getLast? ≠ some 46) : ¬[46, 46] <:+: s ++ t := by
  induction s with
  | nil => rwa [List.nil_append]
  | cons c s ih =>
      rw [List.infix_cons_iff, not_or] at hs
      rw [List.cons_append, List.infix_cons_iff, not_or]
      cases s with
      | nil =>
          refine ⟨fun hfront => hlast ?_, ht⟩
          obtain ⟨rfl, -⟩ := List.cons_prefix_cons.mp hfront
          rfl
      | cons e s =>
          refine ⟨fun hfront => hs.1 ?_, ih hs.2 (by simpa using hlast)⟩
          simpa [List.cons_prefix_cons] using hfront

/-- A text ends as its last segment does, and in no dot where that has none. -/
lemma getLast?_of_segment {before seg : List UInt8} (h : 46 ∉ seg) :
    (before ++ 47 :: seg).getLast? ≠ some 46 := by
  rw [List.getLast?_append, List.getLast?_cons, Option.some_or, ne_eq, Option.some_inj]
  intro hlast
  cases hseg : seg.getLast? with
  | none => simp [hseg] at hlast
  | some c =>
      rw [hseg, Option.getD_some] at hlast
      exact h (hlast ▸ List.mem_of_getLast? hseg)

/-- The key of a safe target hangs off the base directory, without a step to the parent. -/
lemma normalize_safe (h : safeTarget target) :
    ∃ rest, normalize target = 47 :: rest ∧ ¬[46, 46] <:+: rest := by
  rw [safeTarget, Bool.and_eq_true, Bool.and_eq_true, Bool.not_eq_true', decide_eq_false_iff_not,
    decide_eq_true_iff, decide_eq_true_iff] at h
  obtain ⟨⟨hne, hhead⟩, hparent⟩ := h
  obtain ⟨rest, rfl⟩ := List.head?_eq_some_iff.mp hhead
  have hrest : ¬[46, 46] <:+: rest := fun h => hparent (h.trans (List.suffix_cons 47 rest).isInfix)
  rw [normalize]
  split
  · exact ⟨textBytes "index.html", by decide, by decide⟩
  · cases hseg : splitLast 47 (47 :: rest) with
    | none => exact absurd List.mem_cons_self (splitLast_eq_none_iff.mp hseg)
    | some sides =>
        obtain ⟨before, seg⟩ := sides
        dsimp only
        split
        · next hdot =>
            refine ⟨rest ++ textBytes ".html", rfl, no_parent_append hrest (by decide) ?_⟩
            intro hlast
            have hne : (before ++ 47 :: seg).getLast? ≠ some 46 := getLast?_of_segment hdot
            rw [← (splitLast_eq_some_iff.mp hseg).1, List.getLast?_cons, hlast] at hne
            exact hne rfl
        · exact ⟨rest, rfl, hrest⟩

end Keys

/-! ### The two modes -/

/-- A base directory: the share directory of the environment, with `/mgmtd/www` behind
it. -/
abbrev BaseDir := { path : Path // IsText path }

section Modes

variable {d : Disk} {baseDir : BaseDir} {target rest : List UInt8} {e : Entry}

/-- A regular file stands there. -/
def IsRegular (d : Disk) (loc : Location) : Prop := ∃ content, d.at? loc = some ⟨.regular, content⟩

lemma loadFile_eq_some_iff {path : Path} {body : List UInt8} :
    loadFile d path = some body ↔ ∃ loc, d.resolve path = some loc ∧ d.read loc = some body := by
  rw [loadFile, Option.bind_eq_some_iff]

/-- A visited file is kept where it can be read. -/
lemma preloadFile_eq_some_iff {base : Location} {names : List Name} {node : Node}
    {key : List UInt8} (hbase : d.resolve baseDir = some base) (hne : names ≠ [])
    (hat : d.at? (base ++ names) = some node) :
    preloadFile d baseDir names node = some (key, e) ↔ node.kind = .regular ∧
      key = 47 :: [47].intercalate names ∧
      ∃ body, node.content = some body ∧ e = entryOf key body := by
  have hsome : (d.at? (base ++ names)).isSome := by rw [hat]; rfl
  have hrel : [47].intercalate names ≠ [] := by
    intro hempty
    have hplain := isPlain_names hne (isName_of_at? hsome)
    rw [hempty] at hplain
    exact (hplain [] (by simp)).1 rfl
  have hload : loadFile d (names.foldl joinPath baseDir) = node.content := by
    rw [loadFile, resolve_entry baseDir.2 hbase hsome, Option.bind_some, Disk.read, hat,
      Option.bind_some]
  rw [preloadFile, hload]
  dsimp only
  rw [if_neg hrel]
  split_ifs with hkind
  · simp [hkind]
  · rw [not_not] at hkind
    rw [Option.map_eq_some_iff]
    constructor
    · rintro ⟨body, hbody, heq⟩
      cases heq
      exact ⟨hkind, rfl, body, hbody, rfl⟩
    · rintro ⟨-, rfl, body, hbody, rfl⟩
      exact ⟨body, hbody, rfl⟩

/-- What is kept: the regular files that can be read, by plain paths. -/
lemma mem_preload_iff :
    (47 :: rest, e) ∈ preload d baseDir ↔ IsPlain rest ∧
      ∃ loc body, d.resolve (baseDir ++ 47 :: rest) = some loc ∧ IsRegular d loc ∧
        d.read loc = some body ∧ e = entryOf (47 :: rest) body := by
  rw [preload]
  cases hbase : d.resolve baseDir with
  | none =>
      rw [resolve_append_slash baseDir.2, hbase]
      simp
  | some base =>
      dsimp only
      rw [List.mem_filterMap]
      constructor
      · rintro ⟨⟨names, node⟩, hmem, hfile⟩
        obtain ⟨hne, hat⟩ := mem_below.mp hmem
        have hsome : (d.at? (base ++ names)).isSome := by rw [hat]; rfl
        obtain ⟨hkind, hkey, body, hbody, rfl⟩ :=
          (preloadFile_eq_some_iff hbase hne hat).mp hfile
        obtain rfl := List.tail_eq_of_cons_eq hkey
        refine ⟨isPlain_names hne (isName_of_at? hsome), base ++ names, body,
          resolve_names baseDir.2 hbase hne hsome, ⟨node.content, ?_⟩, ?_, rfl⟩
        · rw [hat, ← hkind]
        · rw [Disk.read, hat, Option.bind_some, hbody]
      · rintro ⟨hplain, loc, body, hres, ⟨content, hat⟩, hread, rfl⟩
        obtain ⟨base', hbase', rfl⟩ := eq_of_resolve_plain baseDir.2 hplain hres
        obtain rfl : base = base' := Option.some.inj (hbase.symm.trans hbase')
        have hne := List.splitOn_ne_nil (47 : UInt8) rest
        refine ⟨(rest.splitOn 47, ⟨.regular, content⟩), mem_below.mpr ⟨hne, hat⟩,
          (preloadFile_eq_some_iff hbase hne hat).mpr ⟨rfl, ?_, body, ?_, rfl⟩⟩
        · rw [List.intercalate_splitOn]
        · rwa [Disk.read, hat, Option.bind_some] at hread

/-- The files read once answer where a plain path leads to a regular file. -/
lemma lookup_preload_eq_some_iff :
    (preload d baseDir).lookup (47 :: rest) = some e ↔ IsPlain rest ∧
      ∃ loc body, d.resolve (baseDir ++ 47 :: rest) = some loc ∧ IsRegular d loc ∧
        d.read loc = some body ∧ e = entryOf (47 :: rest) body := by
  rw [lookup_eq_some_iff_mem, mem_preload_iff]
  intro e' he' he
  obtain ⟨-, loc', body', hres', -, hread', rfl⟩ := mem_preload_iff.mp he'
  obtain ⟨-, loc, body, hres, -, hread, rfl⟩ := mem_preload_iff.mp he
  obtain rfl : loc' = loc := Option.some.inj (hres'.symm.trans hres)
  obtain rfl : body' = body := Option.some.inj (hread'.symm.trans hread)
  rfl

/-- What the cache answers, and how it reads. -/
def answer (d : Disk) (baseDir : BaseDir) (reload : Bool) (target : List UInt8) : Option Entry :=
  (StaticFileCache.make d baseDir reload).get d target

lemma safeTarget_of_answer {reload : Bool} (h : answer d baseDir reload target = some e) :
    safeTarget target := by
  by_contra hunsafe
  simp [answer, StaticFileCache.get, hunsafe] at h

lemma answer_reload (h : safeTarget target) : answer d baseDir true target =
    (loadFile d (baseDir ++ normalize target)).map (entryOf (normalize target)) := by
  simp [answer, StaticFileCache.get, StaticFileCache.make, h]

lemma answer_preload (h : safeTarget target) :
    answer d baseDir false target = (preload d baseDir).lookup (normalize target) := by
  simp [answer, StaticFileCache.get, StaticFileCache.make, h]

/-- Read from the disk: whatever can be read at the place the path names. -/
lemma answer_reload_eq_some_iff (h : safeTarget target) :
    answer d baseDir true target = some e ↔
      ∃ loc body, d.resolve (baseDir ++ normalize target) = some loc ∧
        d.read loc = some body ∧ e = entryOf (normalize target) body := by
  rw [answer_reload h, Option.map_eq_some_iff]
  constructor
  · rintro ⟨body, hload, rfl⟩
    obtain ⟨loc, hres, hread⟩ := loadFile_eq_some_iff.mp hload
    exact ⟨loc, body, hres, hread, rfl⟩
  · rintro ⟨loc, body, hres, hread, rfl⟩
    exact ⟨body, loadFile_eq_some_iff.mpr ⟨loc, hres, hread⟩, rfl⟩

/-- Read once: the same, where the path is plain and leads to a regular file. -/
lemma answer_preload_eq_some_iff (h : safeTarget target) :
    answer d baseDir false target = some e ↔ IsPlain (normalize target).tail ∧
      ∃ loc body, d.resolve (baseDir ++ normalize target) = some loc ∧ IsRegular d loc ∧
        d.read loc = some body ∧ e = entryOf (normalize target) body := by
  obtain ⟨rest, hkey, -⟩ := normalize_safe h
  rw [answer_preload h, hkey, List.tail_cons]
  exact lookup_preload_eq_some_iff

/-- The files read once are among those the disk has. -/
lemma answer_reload_of_preload (h : answer d baseDir false target = some e) :
    answer d baseDir true target = some e := by
  have hsafe := safeTarget_of_answer h
  obtain ⟨-, loc, body, hres, -, hread, he⟩ := (answer_preload_eq_some_iff hsafe).mp h
  exact (answer_reload_eq_some_iff hsafe).mpr ⟨loc, body, hres, hread, he⟩

/-- Both modes find the same, with the same bytes and content type. -/
def ModesAgree (d : Disk) (baseDir : BaseDir) (target : List UInt8) : Prop :=
  (answer d baseDir false target).map (fun e => (e.contentType, e.body)) =
    (answer d baseDir true target).map fun e => (e.contentType, e.body)

/-- What is served is what is read at the place the path names, and that place is the
base directory or below. -/
def StaysInside (d : Disk) (baseDir : BaseDir) (target : List UInt8) : Prop :=
  ∀ reload e, answer d baseDir reload target = some e → ∃ base loc,
    d.resolve baseDir = some base ∧ base <+: loc ∧
      d.resolve (baseDir ++ normalize target) = some loc ∧ d.read loc = some e.body

/-- If something can be read by the path of a target, the path is plain and leads to a
regular file. -/
def NamesPlainFile (d : Disk) (baseDir : BaseDir) (target : List UInt8) : Prop :=
  ∀ loc body, d.resolve (baseDir ++ normalize target) = some loc → d.read loc = some body →
    IsPlain (normalize target).tail ∧ IsRegular d loc

/-- The same is served, then, the tag included. -/
lemma answer_eq_of_namesPlainFile (h : safeTarget target → NamesPlainFile d baseDir target) :
    answer d baseDir false target = answer d baseDir true target := by
  refine Option.ext fun e => ⟨answer_reload_of_preload, fun he => ?_⟩
  have hsafe := safeTarget_of_answer he
  obtain ⟨loc, body, hres, hread, he⟩ := (answer_reload_eq_some_iff hsafe).mp he
  obtain ⟨hplain, hregular⟩ := h hsafe loc body hres hread
  exact (answer_preload_eq_some_iff hsafe).mpr ⟨hplain, loc, body, hres, hregular, hread, he⟩

/-- **Neither mode leaves the base directory.** -/
theorem staysInside (d : Disk) (baseDir : BaseDir) (target : List UInt8) :
    StaysInside d baseDir target := by
  intro reload e he
  have hsafe := safeTarget_of_answer he
  have hreload : answer d baseDir true target = some e := by
    cases reload with
    | true => exact he
    | false => exact answer_reload_of_preload he
  obtain ⟨loc, body, hres, hread, rfl⟩ := (answer_reload_eq_some_iff hsafe).mp hreload
  obtain ⟨rest, hkey, hparent⟩ := normalize_safe hsafe
  obtain ⟨base, hbase, hprefix⟩ := prefix_of_resolve baseDir.2 hparent (hkey ▸ hres)
  exact ⟨base, loc, hbase, hprefix, hres, hread⟩

/-- **The modes agree, within the base directory, on just the targets whose path leads
to nothing that can be read, or is plain and leads to a regular file.** -/
theorem modes_agree_iff (d : Disk) (baseDir : BaseDir) (target : List UInt8) :
    ModesAgree d baseDir target ∧ StaysInside d baseDir target ↔
      (safeTarget target → NamesPlainFile d baseDir target) := by
  constructor
  · rintro ⟨hagree, -⟩ hsafe loc body hres hread
    have hreload : answer d baseDir true target = some (entryOf (normalize target) body) :=
      (answer_reload_eq_some_iff hsafe).mpr ⟨loc, body, hres, hread, rfl⟩
    rw [ModesAgree, hreload, Option.map_some, Option.map_eq_some_iff] at hagree
    obtain ⟨e, hpreload, -⟩ := hagree
    obtain ⟨hplain, loc', -, hres', hregular, -⟩ :=
      (answer_preload_eq_some_iff hsafe).mp hpreload
    obtain rfl : loc' = loc := Option.some.inj (hres'.symm.trans hres)
    exact ⟨hplain, hregular⟩
  · intro h
    refine ⟨?_, staysInside d baseDir target⟩
    rw [ModesAgree, answer_eq_of_namesPlainFile h]

end Modes

/-! ### Two separators -/

/-- A tree with one page. -/
def onePage : Disk where
  nodes := [([], ⟨.directory, some []⟩), ([textBytes "www"], ⟨.directory, some []⟩),
    ([textBytes "www", textBytes "index.html"], ⟨.regular, some (textBytes "<html>")⟩)]
  cwd := []
  nodup := by decide
  root_dir := by decide
  cwd_dir := by decide
  parent_dir := by decide

/-- The base directory of the page. -/
def www : BaseDir := ⟨textBytes "/www", by decide, by decide⟩

/-- A second separator costs the preloaded cache the page. -/
theorem doubled_slash_differs :
    answer onePage www false (textBytes "//index.html") = none ∧
      (answer onePage www true (textBytes "//index.html")).map (·.body) =
        some (textBytes "<html>") ∧
      ¬ModesAgree onePage www (textBytes "//index.html") := by
  have hpreload : answer onePage www false (textBytes "//index.html") = none := by decide +kernel
  have hreload : (answer onePage www true (textBytes "//index.html")).map (·.body) =
      some (textBytes "<html>") := by decide +kernel
  refine ⟨hpreload, hreload, fun hagree => ?_⟩
  rw [ModesAgree, hpreload, Option.map_none] at hagree
  have hnone : answer onePage www true (textBytes "//index.html") = none :=
    Option.map_eq_none_iff.mp hagree.symm
  rw [hnone] at hreload
  cases hreload

end Pretzel.Http
