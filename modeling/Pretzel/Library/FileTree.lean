import Pretzel.Library.Texts

/-!
A tree of files without symbolic links, and how a path given to the system is
resolved in it. The tree stands still, and every directory of it may be searched
and listed.

* `Disk`: what stands at each list of names from the root down. Whatever has a
  parent has a directory for one.
* `Disk.resolve`: the place a path names. `Disk.read`: what a stream on it reads.
* `Disk.below`: what a recursive walk of a directory visits. `joinPath`: the path it
  gives an entry, from its parent's.
* `walk_names`, `eq_of_walk_names`: names are descended one by one.
* `prefix_of_walk`: **without a step to the parent, no walk leaves the directory it
  starts from.**
* `resolve_append_slash`: what follows a path is walked from the place it names.
* `resolve_entry`: **the path of a visited entry names that entry.**
-/

namespace FileTree

open Texts

/-- The name of an entry of a directory, byte by byte. -/
abbrev Name := List UInt8

/-- A path, as a program hands it to the system. -/
abbrev Path := List UInt8

/-- The names from the root down. -/
abbrev Location := List Name

/-- What may name an entry. -/
def IsName (name : Name) : Prop :=
  name ≠ [] ∧ name ≠ [46] ∧ name ≠ [46, 46] ∧ 47 ∉ name ∧ 0 ∉ name

instance : DecidablePred IsName := fun name => by
  unfold IsName
  infer_instance

inductive Kind where
  | regular
  | directory
  | other
deriving DecidableEq

/-- A file of any kind, with what a stream on it reads: none if it does not open. -/
structure Node where
  kind : Kind
  content : Option (List UInt8)
deriving DecidableEq

/-- A directory stands there. -/
def dirIn (nodes : List (Location × Node)) (loc : Location) : Bool :=
  (nodes.lookup loc).any (·.kind = .directory)

/-- The files of a system, with the directory the program runs in. -/
structure Disk where
  nodes : List (Location × Node)
  cwd : Location
  nodup : (nodes.map Prod.fst).Nodup
  root_dir : dirIn nodes []
  cwd_dir : dirIn nodes cwd
  parent_dir : ∀ entry ∈ nodes, ∀ name ∈ entry.1.getLast?,
    IsName name ∧ dirIn nodes entry.1.dropLast

namespace Disk

variable (d : Disk)

/-- What stands at a place. -/
def at? (loc : Location) : Option Node := d.nodes.lookup loc

def isDir (loc : Location) : Bool := dirIn d.nodes loc

/-- What a stream on a place reads. -/
def read (loc : Location) : Option (List UInt8) := (d.at? loc).bind (·.content)

/-- One component of a path. -/
def step (loc : Location) (component : Name) : Option Location :=
  if !d.isDir loc then none
  else if component = [] ∨ component = [46] then some loc
  else if component = [46, 46] then some loc.dropLast
  else if (d.at? (loc ++ [component])).isSome then some (loc ++ [component])
  else none

/-- Components, one after the other. -/
def walk (loc : Location) (components : List Name) : Option Location :=
  components.foldlM d.step loc

/-- Where the components of a path start from. -/
def start (path : Path) : Location := if path.head? = some 47 then [] else d.cwd

/-- The place a path names. The system reads the path up to its first NUL. -/
def resolve (path : Path) : Option Location :=
  let path := path.takeWhile (· ≠ 0)
  if path = [] then none else d.walk (d.start path) (path.splitOn 47)

/-- What a recursive walk of a directory visits, by the names from there. -/
def below (base : Location) : List (List Name × Node) :=
  (d.nodes.filter fun entry => base.isPrefixOf entry.1 && entry.1 ≠ base).map fun entry =>
    (entry.1.drop base.length, entry.2)

end Disk

/-- A path a program can hand over whole. -/
def IsText (path : Path) : Prop := path ≠ [] ∧ 0 ∉ path

/-- A path of names, one after the other. -/
def IsPlain (path : Path) : Prop := ∀ name ∈ path.splitOn 47, IsName name

/-- A name behind a path. -/
def joinPath (path : Path) (name : Name) : Path :=
  if path.getLast? = some 47 then path ++ name else path ++ 47 :: name

/-! ### What stands where -/

section At

variable {d : Disk} {loc base : Location} {names : List Name} {name : Name} {node : Node}

/-- A key with one value is found with it. -/
lemma lookup_eq_some_iff_mem {α β : Type} [BEq α] [LawfulBEq α] {pairs : List (α × β)} {a : α}
    {b : β} (h : ∀ b', (a, b') ∈ pairs → (a, b) ∈ pairs → b' = b) :
    pairs.lookup a = some b ↔ (a, b) ∈ pairs := by
  have hmem : ∀ b', pairs.lookup a = some b' → (a, b') ∈ pairs := by
    intro b' hb
    obtain ⟨front, back, rfl, -⟩ := List.lookup_eq_some_iff.mp hb
    simp
  refine ⟨hmem b, fun hb => ?_⟩
  obtain ⟨b', hb'⟩ : ∃ b', pairs.lookup a = some b' := by
    rw [← Option.isSome_iff_exists, List.lookup_isSome_iff]
    exact ⟨(a, b), hb, beq_self_eq_true a⟩
  rw [hb', h b' (hmem b' hb') hb]

lemma at?_eq_some_iff : d.at? loc = some node ↔ (loc, node) ∈ d.nodes := by
  refine lookup_eq_some_iff_mem fun node' h' h => ?_
  exact congrArg Prod.snd (List.inj_on_of_nodup_map d.nodup h' h rfl)

lemma isDir_iff : d.isDir loc ↔ ∃ node, d.at? loc = some node ∧ node.kind = .directory := by
  simp [Disk.isDir, dirIn, Disk.at?, Option.any_eq_true]

lemma isDir_root : d.isDir [] := d.root_dir

/-- Whatever has a parent has a directory for one, and a name in it. -/
lemma parent_of_at? (h : (d.at? (loc ++ [name])).isSome) : IsName name ∧ d.isDir loc := by
  obtain ⟨node, hnode⟩ := Option.isSome_iff_exists.mp h
  have hparent := d.parent_dir _ (at?_eq_some_iff.mp hnode) name (by simp)
  rwa [List.dropLast_concat] at hparent

/-- So has every place on the way. -/
lemma at?_isSome_of_append (h : (d.at? (loc ++ names)).isSome) : (d.at? loc).isSome := by
  induction names using List.reverseRecOn with
  | nil => simpa using h
  | append_singleton names name ih =>
      rw [← List.append_assoc] at h
      obtain ⟨node, hnode, -⟩ := isDir_iff.mp (parent_of_at? h).2
      exact ih (by rw [hnode]; rfl)

lemma isName_of_at? (h : (d.at? (loc ++ names)).isSome) : ∀ name ∈ names, IsName name := by
  induction names using List.reverseRecOn with
  | nil => simp
  | append_singleton names name ih =>
      rw [← List.append_assoc] at h
      rw [List.forall_mem_append, List.forall_mem_singleton]
      exact ⟨ih (at?_isSome_of_append h), (parent_of_at? h).1⟩

lemma mem_below : (names, node) ∈ d.below base ↔ names ≠ [] ∧ d.at? (base ++ names) = some node := by
  rw [Disk.below, List.mem_map, at?_eq_some_iff]
  constructor
  · rintro ⟨⟨loc, node'⟩, hmem, heq⟩
    rw [List.mem_filter, Bool.and_eq_true, List.isPrefixOf_iff_prefix, decide_eq_true_iff] at hmem
    obtain ⟨hmem, ⟨rest, rfl⟩, hne⟩ := hmem
    obtain ⟨rfl, rfl⟩ := Prod.mk.inj heq
    rw [List.drop_left]
    refine ⟨?_, hmem⟩
    rintro rfl
    exact hne (List.append_nil base)
  · rintro ⟨hne, hmem⟩
    refine ⟨(base ++ names, node), ?_, by simp⟩
    simp [hmem, hne]

end At

/-! ### Walks -/

section Walk

variable {d : Disk} {loc base : Location} {name : Name} {names components : List Name}

lemma step_name (h : IsName name) (hdir : d.isDir loc) :
    d.step loc name = if (d.at? (loc ++ [name])).isSome then some (loc ++ [name]) else none := by
  obtain ⟨hempty, hdot, hdots, -⟩ := h
  simp [Disk.step, hdir, hempty, hdot, hdots]

lemma step_empty (hdir : d.isDir loc) : d.step loc [] = some loc := by simp [Disk.step, hdir]

lemma isDir_of_step (h : (d.step loc name).isSome) : d.isDir loc := by
  by_contra hdir
  rw [Disk.step, Bool.not_eq_true] at *
  simp [hdir] at h

@[simp]
lemma walk_nil : d.walk loc [] = some loc := rfl

@[simp]
lemma walk_singleton : d.walk loc [name] = d.step loc name := by
  simp [Disk.walk]

lemma walk_cons : d.walk loc (name :: names) = (d.step loc name).bind (d.walk · names) := rfl

lemma walk_append : d.walk loc (names ++ components) =
    (d.walk loc names).bind (d.walk · components) := by
  rw [Disk.walk, List.foldlM_append]
  rfl

/-- A place is reached by its names. -/
lemma walk_names (h : (d.at? (loc ++ names)).isSome) : d.walk loc names = some (loc ++ names) := by
  induction names using List.reverseRecOn with
  | nil => rw [walk_nil, List.append_nil]
  | append_singleton names name ih =>
      rw [← List.append_assoc] at h ⊢
      obtain ⟨hname, hdir⟩ := parent_of_at? h
      rw [walk_append, ih (at?_isSome_of_append h), Option.bind_some, walk_singleton,
        step_name hname hdir, if_pos h]

/-- And names lead nowhere else. -/
lemma eq_of_walk_names (hnames : ∀ name ∈ names, IsName name)
    (h : d.walk base names = some loc) : loc = base ++ names := by
  induction names generalizing base with
  | nil =>
      rw [List.append_nil]
      exact (Option.some.inj h).symm
  | cons name names ih =>
      rw [walk_cons, Option.bind_eq_some_iff] at h
      obtain ⟨next, hstep, hrest⟩ := h
      obtain ⟨hname, hnames⟩ := List.forall_mem_cons.mp hnames
      rw [step_name hname (isDir_of_step (by rw [hstep]; rfl)),
        Option.ite_none_right_eq_some, Option.some_inj] at hstep
      obtain ⟨-, rfl⟩ := hstep
      rw [ih hnames hrest, List.append_assoc, List.singleton_append]

/-- A step that is not to the parent stays below. -/
lemma prefix_of_step (hname : name ≠ [46, 46]) (h : d.step base name = some loc) :
    base <+: loc := by
  rw [Disk.step] at h
  split_ifs at h
  all_goals cases h
  · exact List.prefix_refl loc
  · exact List.prefix_append base [name]

/-- **Without a step to the parent, a walk stays below.** -/
theorem prefix_of_walk (hparent : [46, 46] ∉ components)
    (h : d.walk base components = some loc) : base <+: loc := by
  induction components generalizing base with
  | nil =>
      cases h
      exact List.prefix_refl loc
  | cons name components ih =>
      rw [walk_cons, Option.bind_eq_some_iff] at h
      obtain ⟨next, hstep, hrest⟩ := h
      rw [List.mem_cons, not_or] at hparent
      exact (prefix_of_step (Ne.symm hparent.1) hstep).trans (ih hparent.2 hrest)

end Walk

/-! ### Paths -/

section Resolve

variable {d : Disk} {path rest : Path} {loc base : Location} {name : Name} {names : List Name}

lemma start_append (hne : path ≠ []) (rest : Path) : d.start (path ++ rest) = d.start path := by
  rw [Disk.start, List.head?_append_of_ne_nil _ hne, Disk.start]

lemma resolve_eq (h : IsText path) : d.resolve path = d.walk (d.start path) (path.splitOn 47) := by
  rw [Disk.resolve, takeWhile_ne_eq_self_iff.mpr h.2, if_neg h.1]

/-- **What follows a path is walked from the place it names.** -/
theorem resolve_append_slash (h : IsText path) (rest : Path) :
    d.resolve (path ++ 47 :: rest) = (d.resolve path).bind fun base =>
      d.walk base ((rest.takeWhile (· ≠ 0)).splitOn 47) := by
  obtain ⟨hne, hnul⟩ := h
  have hcut : (path ++ 47 :: rest).takeWhile (· ≠ 0) = path ++ 47 :: rest.takeWhile (· ≠ 0) := by
    rw [List.takeWhile_append_of_pos (decide_ne_of_not_mem hnul),
      List.takeWhile_cons_of_pos (by decide)]
  rw [Disk.resolve, hcut, if_neg (by simp), start_append hne, List.splitOn_append_cons_self, walk_append,
    resolve_eq ⟨hne, hnul⟩]

/-- Without a step to the parent, what follows a path names a place below. -/
lemma prefix_of_resolve (h : IsText path) (hparent : ¬[46, 46] <:+: rest)
    (hres : d.resolve (path ++ 47 :: rest) = some loc) :
    ∃ base, d.resolve path = some base ∧ base <+: loc := by
  rw [resolve_append_slash h, Option.bind_eq_some_iff] at hres
  obtain ⟨base, hbase, hwalk⟩ := hres
  refine ⟨base, hbase, prefix_of_walk (fun hmem => hparent ?_) hwalk⟩
  exact (infix_of_mem_splitOn hmem).trans (List.takeWhile_prefix _).isInfix

lemma IsPlain.nul_not_mem (h : IsPlain rest) : 0 ∉ rest := by
  intro hnul
  rcases mem_of_splitOn 47 hnul with hslash | ⟨name, hname, hmem⟩
  · exact absurd hslash (by decide)
  · exact (h name hname).2.2.2.2 hmem

/-- Names behind a path name the place of these names, and no other. -/
lemma eq_of_resolve_plain (h : IsText path) (hplain : IsPlain rest)
    (hres : d.resolve (path ++ 47 :: rest) = some loc) :
    ∃ base, d.resolve path = some base ∧ loc = base ++ rest.splitOn 47 := by
  rw [resolve_append_slash h, takeWhile_ne_eq_self_iff.mpr hplain.nul_not_mem,
    Option.bind_eq_some_iff] at hres
  obtain ⟨base, hbase, hwalk⟩ := hres
  exact ⟨base, hbase, eq_of_walk_names hplain hwalk⟩

/-- Names written one after the other are read back. -/
lemma splitOn_names (hne : names ≠ []) (hnames : ∀ name ∈ names, IsName name) :
    ([47].intercalate names).splitOn 47 = names :=
  List.splitOn_intercalate 47 (fun name hname => (hnames name hname).2.2.2.1) hne

lemma isPlain_names (hne : names ≠ []) (hnames : ∀ name ∈ names, IsName name) :
    IsPlain ([47].intercalate names) := by
  rwa [IsPlain, splitOn_names hne hnames]

lemma resolve_names (h : IsText path) (hres : d.resolve path = some base) (hne : names ≠ [])
    (hat : (d.at? (base ++ names)).isSome) :
    d.resolve (path ++ 47 :: [47].intercalate names) = some (base ++ names) := by
  have hnames := isName_of_at? hat
  rw [resolve_append_slash h,
    takeWhile_ne_eq_self_iff.mpr (isPlain_names hne hnames).nul_not_mem, hres, Option.bind_some,
    splitOn_names hne hnames, walk_names hat]

lemma splitOn_name (h : IsName name) : name.splitOn 47 = [name] :=
  List.splitOn_eq_singleton h.2.2.2.1

lemma isText_joinPath (h : IsText path) (hname : IsName name) : IsText (joinPath path name) := by
  obtain ⟨hne, hnul⟩ := h
  obtain ⟨-, -, -, -, hname⟩ := hname
  rw [joinPath]
  split <;> simp [IsText, hne, hnul, hname]

/-- A name behind a path is looked for in the place the path names. -/
lemma resolve_joinPath (h : IsText path) (hres : d.resolve path = some loc)
    (hat : (d.at? (loc ++ [name])).isSome) :
    d.resolve (joinPath path name) = some (loc ++ [name]) := by
  obtain ⟨hname, hdir⟩ := parent_of_at? hat
  have hwalk : d.walk loc [name] = some (loc ++ [name]) := walk_names hat
  have htext := isText_joinPath h hname
  rw [joinPath] at htext ⊢
  split_ifs at htext ⊢ with hlast
  · -- the path ends in a separator, so its last component is empty
    obtain ⟨front, rfl⟩ := List.getLast?_eq_some_iff.mp hlast
    rw [resolve_eq h, List.splitOn_append_cons_self, List.splitOn_nil, walk_append,
      Option.bind_eq_some_iff] at hres
    obtain ⟨base, hfront, hempty⟩ := hres
    rw [walk_singleton] at hempty
    obtain rfl : base = loc := by
      rw [step_empty (isDir_of_step (by rw [hempty]; rfl))] at hempty
      exact Option.some.inj hempty
    rw [resolve_eq htext, start_append h.1, List.append_assoc, List.singleton_append,
      List.splitOn_append_cons_self, walk_append, hfront, Option.bind_some, splitOn_name hname, hwalk]
  · rw [resolve_append_slash h, hres, Option.bind_some,
      takeWhile_ne_eq_self_iff.mpr hname.2.2.2.2, splitOn_name hname, hwalk]

/-- **The path of a visited entry names that entry.** -/
theorem resolve_entry (h : IsText path) (hres : d.resolve path = some base)
    (hat : (d.at? (base ++ names)).isSome) :
    d.resolve (names.foldl joinPath path) = some (base ++ names) := by
  suffices IsText (names.foldl joinPath path) ∧
      d.resolve (names.foldl joinPath path) = some (base ++ names) from this.2
  induction names using List.reverseRecOn with
  | nil => exact ⟨h, by rwa [List.append_nil]⟩
  | append_singleton names name ih =>
      rw [← List.append_assoc] at hat ⊢
      obtain ⟨htext, hnames⟩ := ih (at?_isSome_of_append hat)
      rw [List.foldl_append, List.foldl_cons, List.foldl_nil]
      exact ⟨isText_joinPath htext (parent_of_at? hat).1, resolve_joinPath htext hnames hat⟩

end Resolve

end FileTree
