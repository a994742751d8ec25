import Mathlib.Data.List.AList
import Pretzel.Ipc.Codec
import Pretzel.Library.Machine
import Pretzel.Library.Texts
import Pretzel.Mgmtd.SettingsController

/-!
The saved configurations of `SettingsController`: plain files in one directory.

* `savedConfigFile`: the file of an operator's name, or nothing.
* `saveConfig`, `savedConfigs`, `savedConfigContent`: the handlers.
* `splitExtension`: `stem()` and `extension()` of a file name.
* `saving`: the machine of the requests that save.
* `NamesReach`: a name that is listed leads to its own file and to the bytes last saved
  there. `Inside`: a path of the directory.
* **`savedConfigs_reach_iff`**: so it is after a run exactly where no name was saved
  that ends in `.json` still; and no name leads outside.
* `doubleExtension_not_reachable`: a name with two extensions.
-/

namespace Pretzel.Mgmtd

open Nlohmann Ipc Texts Reactive

/-! ### Names and paths -/

/-- `".json"`. -/
def kJsonExt : Bytes := textBytes ".json"

/-- `savedConfigDir`, by the value of `PRETZEL_CONFIG_DIR`, empty where it is not set. -/
def savedConfigDir (env : Bytes) : Bytes :=
  (if env = [] then textBytes "/etc/pretzel" else env) ++ textBytes "/saved-configs"

/-- The characters of a name: `isalnum`, a dot, an underscore and a dash. -/
def nameByte (c : UInt8) : Bool :=
  (48 ≤ c && c ≤ 57) || (65 ≤ c && c ≤ 90) || (97 ≤ c && c ≤ 122) || c = 46 || c = 95 || c = 45

/-- A name without the extension an operator may have entered. -/
def strippedName (name : Bytes) : Bytes :=
  if kJsonExt.isSuffixOf name then name.take (name.length - kJsonExt.length) else name

/-- The file under a name. -/
def filePath (env name : Bytes) : Bytes := savedConfigDir env ++ 47 :: (name ++ kJsonExt)

/-- `savedConfigFile`. -/
def savedConfigFile (env name : Bytes) : Bytes :=
  let name := strippedName name
  if name = [] || 100 < name.length || name.head? = some 46 then []
  else if name.all nameByte then filePath env name else []

/-- `stem()` and `extension()` of a file name: apart at the last dot, unless that opens the
name. -/
def splitExtension (leaf : Bytes) : Bytes × Bytes :=
  if leaf = [46, 46] then (leaf, [])
  else
    match splitLast 46 leaf with
    | none => (leaf, [])
    | some (stem, extension) => if stem = [] then (leaf, []) else (stem, 46 :: extension)

/-! ### The handlers -/

/-- A file: its bytes, and when it was written. -/
structure SavedFile where
  content : Bytes
  mtime : ℕ
deriving DecidableEq

/-- The files, by their paths. -/
abbrev Disk := AList fun _ : Bytes => SavedFile

/-- What the system calls of one save meet. -/
structure WriteIO where
  opened : Bool
  written : Bool
  renamed : Bool
  now : ℕ
deriving DecidableEq

/-- A request to save: its body, the active running configuration as the database has it,
and what the write meets. -/
structure SaveRequest where
  body : Bytes
  running : Bytes
  io : WriteIO
deriving DecidableEq

/-- An answer with an error. -/
def saveError (status : ℕ) (error : String) : HttpResponse := ⟨status, .obj [("error", .str error)]⟩

section Handlers

variable (parse : Bytes → Option Json) (env : Bytes)

/-- The checks of `saveConfig`: the path and the bytes to write there, or an answer. -/
def saveTarget (req : SaveRequest) : Except JsonError (HttpResponse ⊕ Bytes × Bytes) :=
  match parse req.body with
  | none => .ok (.inl (saveError 400 "invalid JSON body"))
  | some input => do
      let path := savedConfigFile env (textBytes (← input.valueString "name" ""))
      if path = [] then
        return .inl (saveError 400 "invalid name — use letters, digits, dot, dash or underscore")
      else if input.contains "content" then
        let cfg := textBytes (← input.valueString "content" "")
        if (parse cfg).isNone then
          return .inl (saveError 400 "uploaded content is not valid JSON")
        else return .inr (path, cfg)
      else if req.running = [] then
        return .inl (saveError 404 "no active running-config to save")
      else return .inr (path, req.running)

/-- The temporary file beside a path. -/
def tmpPath (path : Bytes) : Bytes := path ++ textBytes ".tmp"

/-- The write of `saveConfig`: a temporary file, which takes the place of the other or is
removed. -/
def writeConfig (disk : Disk) (path cfg : Bytes) (io : WriteIO) : Disk × HttpResponse :=
  if !io.opened then (disk, saveError 500 "could not open file for writing")
  else if !io.written then (disk.erase (tmpPath path), saveError 500 "write failed")
  else if !io.renamed then (disk.erase (tmpPath path), saveError 500 "rename failed")
  else ((disk.erase (tmpPath path)).insert path ⟨cfg, io.now⟩, ⟨200, .obj [("ok", .bool true)]⟩)

/-- `SettingsController::saveConfig`. -/
def saveConfig (disk : Disk) (req : SaveRequest) : Except JsonError (Disk × HttpResponse) := do
  match ← saveTarget parse env req with
  | .inl resp => return (disk, resp)
  | .inr (path, cfg) => return writeConfig disk path cfg req.io

/-- One row of the list. -/
structure SavedConfig where
  name : Bytes
  savedAt : ℕ
  bytes : ℕ
deriving DecidableEq

/-- The row of one entry of the directory, for a file with the extension. -/
def savedRow (path : Bytes) (file : SavedFile) : Option SavedConfig :=
  match splitLast 47 path with
  | none => none
  | some (dir, leaf) =>
      if dir = savedConfigDir env && (splitExtension leaf).2 = kJsonExt then
        some ⟨(splitExtension leaf).1, file.mtime, file.content.length⟩
      else none

/-- `SettingsController::savedConfigs`: the newest first. -/
def savedConfigs (disk : Disk) : List SavedConfig :=
  (disk.entries.filterMap fun e => savedRow env e.1 e.2).mergeSort fun a b => b.savedAt ≤ a.savedAt

/-- The name in a target, as it stands there. -/
def targetName (target : Bytes) : Bytes :=
  match afterFirst (textBytes "name=") target with
  | none => []
  | some rest => rest.takeWhile (· ≠ 38)

/-- `SettingsController::savedConfigContent`: an error, or the bytes of the file. -/
def savedConfigContent (disk : Disk) (target : Bytes) : HttpResponse ⊕ Bytes :=
  let path := savedConfigFile env (targetName target)
  if path = [] then .inl (saveError 400 "invalid name")
  else
    match disk.lookup path with
    | none => .inl (saveError 404 "not found")
    | some file => .inr file.content

/-- The paths of the files that `saveConfig` opens, renames or removes. -/
def saveFiles (req : SaveRequest) : List Bytes :=
  match saveTarget parse env req with
  | .ok (.inr (path, _)) => [tmpPath path, path]
  | _ => []

/-- The paths of the files that `savedConfigContent` opens. -/
def contentFiles (target : Bytes) : List Bytes :=
  if savedConfigFile env (targetName target) = [] then []
  else [savedConfigFile env (targetName target)]

/-! ### Runs of saves -/

/-- The path and the bytes a request has saved. -/
def savedBy (req : SaveRequest) : Option (Bytes × Bytes) :=
  match saveTarget parse env req with
  | .ok (.inr saved) =>
      if req.io.opened && req.io.written && req.io.renamed then some saved else none
  | _ => none

/-- The directory and the requests that save, from a directory without saved
configurations. An exception leaves the files as they are. -/
def saving : Machine Disk SaveRequest where
  init disk := savedConfigs env disk = []
  next disk req :=
    match saveConfig parse env disk req with
    | .ok (disk, _) => some disk
    | .error _ => some disk

/-- The bytes last saved to a file. -/
def lastSaved (tr : List (Disk × SaveRequest)) (path : Bytes) : Option Bytes :=
  tr.foldl (fun last p =>
    match savedBy parse env p.2 with
    | some (path', cfg) => if path' = path then some cfg else last
    | none => last) none

/-- The target of a request for the content under a name. -/
def contentTarget (name : Bytes) : Bytes :=
  textBytes "/api/settings/saved-config-content?name=" ++ name

/-- A path of the directory of the saved configurations. -/
def Inside (path : Bytes) : Prop :=
  ∃ leaf, path = savedConfigDir env ++ 47 :: leaf ∧ 47 ∉ leaf ∧ leaf ≠ [46] ∧ leaf ≠ [46, 46]

/-- **The saved configurations are reachable under their names**: a name that is listed
leads to the bytes last saved to its file, and to the file of no other. -/
structure NamesReach (tr : List (Disk × SaveRequest)) (disk : Disk) : Prop where
  content : ∀ row ∈ savedConfigs env disk, ∃ cfg,
    lastSaved parse env tr (filePath env row.name) = some cfg ∧
      savedConfigContent env disk (contentTarget row.name) = .inr cfg
  apart : ∀ row ∈ savedConfigs env disk, ∀ row' ∈ savedConfigs env disk, row.name ≠ row'.name →
    contentFiles env (contentTarget row.name) ≠ [filePath env row'.name]

/-- What the request saves has a name that does not end in the extension still. -/
def PlainlyNamed (req : SaveRequest) : Prop :=
  ∀ name cfg, savedBy parse env req = some (filePath env name, cfg) → ¬kJsonExt <:+ name

end Handlers

/-! ### Names -/

variable {parse : Bytes → Option Json} {env name name' path cfg : Bytes} {disk disk' : Disk}
  {req : SaveRequest} {tr : List (Disk × SaveRequest)}

/-- A name that is taken. -/
structure FileName (name : Bytes) : Prop where
  nonempty : name ≠ []
  short : name.length ≤ 100
  shown : name.head? ≠ some 46
  plain : name.all nameByte = true

lemma FileName.not_mem {c : UInt8} (h : FileName name) (hc : nameByte c = false) : c ∉ name := by
  intro hmem
  rw [List.all_eq_true.mp h.plain c hmem] at hc
  cases hc

lemma kJsonExt_eq : kJsonExt = 46 :: [106, 115, 111, 110] := by decide

/-- **A name is taken or is not**: its file is that of the stripped name. -/
lemma savedConfigFile_cases (env name : Bytes) :
    (¬FileName (strippedName name) ∧ savedConfigFile env name = []) ∨
      FileName (strippedName name) ∧
        savedConfigFile env name = filePath env (strippedName name) := by
  rw [savedConfigFile]
  split
  · next hbad =>
      refine .inl ⟨fun h => ?_, rfl⟩
      have hlong : ¬100 < (strippedName name).length := Nat.not_lt.mpr h.short
      simp [h.nonempty, h.shown, hlong] at hbad
  · next hgood =>
      simp only [Bool.or_eq_true, decide_eq_true_eq, not_or, Nat.not_lt] at hgood
      split
      · next hplain => exact .inr ⟨⟨hgood.1.1, hgood.1.2, hgood.2, hplain⟩, rfl⟩
      · next hplain => exact .inl ⟨fun h => hplain h.plain, rfl⟩

/-- The extension is stripped once. -/
lemma strippedName_append (name : Bytes) : strippedName (name ++ kJsonExt) = name := by
  rw [strippedName, if_pos (List.isSuffixOf_iff_suffix.mpr (List.suffix_append _ _)),
    List.length_append, Nat.add_sub_cancel, List.take_left]

lemma strippedName_of_plain (h : ¬kJsonExt <:+ name) : strippedName name = name := by
  rw [strippedName, if_neg fun hext => h (List.isSuffixOf_iff_suffix.mp hext)]

lemma filePath_inj : filePath env name = filePath env name' ↔ name = name' := by
  simp [filePath]

/-- No temporary file is that of a name. -/
lemma filePath_ne_tmp (env name path : Bytes) : filePath env name ≠ tmpPath path := by
  intro h
  have htmp : textBytes ".tmp" = [46, 116, 109] ++ [112] := by decide
  have hext : kJsonExt = [46, 106, 115, 111] ++ [110] := kJsonExt_eq
  have hlast : (filePath env name).getLast? = some 110 := by
    rw [filePath, hext, ← List.append_assoc, ← List.cons_append, ← List.append_assoc,
      List.getLast?_concat]
  rw [h, tmpPath, htmp, ← List.append_assoc, List.getLast?_concat] at hlast
  cases hlast

/-! ### The list -/

/-- The extension of a file with one is taken off its name. -/
lemma splitExtension_append (h : name ≠ []) :
    splitExtension (name ++ kJsonExt) = (name, kJsonExt) := by
  have hlong : name ++ kJsonExt ≠ [46, 46] := by
    intro heq
    have hlength := congrArg List.length heq
    rw [List.length_append, kJsonExt_eq] at hlength
    simp at hlength
  rw [splitExtension, if_neg hlong, kJsonExt_eq, splitLast_of_mem (by decide)]
  exact if_neg h

lemma eq_of_splitExtension {leaf stem : Bytes} (h : splitExtension leaf = (stem, kJsonExt)) :
    leaf = stem ++ kJsonExt ∧ stem ≠ [] := by
  have hext : kJsonExt ≠ [] := by simp [kJsonExt_eq]
  rw [splitExtension] at h
  split at h
  · exact absurd (Prod.ext_iff.mp h).2.symm hext
  · split at h
    · exact absurd (Prod.ext_iff.mp h).2.symm hext
    · next front extension hsplit =>
        split at h
        · exact absurd (Prod.ext_iff.mp h).2.symm hext
        · next hfront =>
            rw [Prod.mk.injEq] at h
            rw [← h.1, ← h.2]
            exact ⟨(splitLast_eq_some_iff.mp hsplit).1, hfront⟩

/-- A name stands for a file of the directory. -/
structure Listed (env : Bytes) (disk : Disk) (name : Bytes) : Prop where
  nonempty : name ≠ []
  leaf : 47 ∉ name
  exists_file : ∃ file, disk.lookup (filePath env name) = some file

/-- The row of a file that has one. -/
lemma savedRow_eq_some_iff {file : SavedFile} {row : SavedConfig} :
    savedRow env path file = some row ↔
      (row.name ≠ [] ∧ 47 ∉ row.name) ∧ path = filePath env row.name ∧
        row = ⟨row.name, file.mtime, file.content.length⟩ := by
  have hslash : (47 : UInt8) ∉ kJsonExt := by
    rw [kJsonExt_eq]
    decide
  rw [savedRow]
  constructor
  · intro h
    split at h
    · cases h
    · next dir leaf hsplit =>
        obtain ⟨hpath, hleaf⟩ := splitLast_eq_some_iff.mp hsplit
        split at h
        · next hdir =>
            rw [Bool.and_eq_true, decide_eq_true_eq, decide_eq_true_eq] at hdir
            obtain ⟨hname, hne⟩ := eq_of_splitExtension (Prod.ext rfl hdir.2)
            cases h
            refine ⟨⟨hne, fun hmem => hleaf ?_⟩, ?_, rfl⟩
            · rw [hname]
              exact List.mem_append_left _ hmem
            · rw [filePath, ← hname, ← hdir.1]
              exact hpath
        · cases h
  · rintro ⟨⟨hne, hleaf⟩, hpath, hrow⟩
    have hnot : 47 ∉ row.name ++ kJsonExt := by
      rw [List.mem_append, not_or]
      exact ⟨hleaf, hslash⟩
    rw [hpath, filePath, splitLast_of_mem hnot]
    dsimp only
    rw [splitExtension_append hne, if_pos (by simp), ← hrow]

/-- **The names of the list.** -/
lemma exists_row_iff :
    (∃ row ∈ savedConfigs env disk, row.name = name) ↔ Listed env disk name := by
  have hmem : ∀ row, row ∈ savedConfigs env disk ↔
      ∃ e ∈ disk.entries, savedRow env e.1 e.2 = some row := by
    intro row
    rw [savedConfigs, List.mem_mergeSort, List.mem_filterMap]
  constructor
  · rintro ⟨row, hrow, rfl⟩
    obtain ⟨⟨path, file⟩, hentry, hrow⟩ := (hmem row).mp hrow
    obtain ⟨⟨hne, hleaf⟩, hpath, -⟩ := savedRow_eq_some_iff.mp hrow
    refine ⟨hne, hleaf, file, ?_⟩
    rw [← hpath]
    exact AList.mem_lookup_iff.mpr hentry
  · rintro ⟨hne, hleaf, file, hfile⟩
    exact ⟨⟨name, file.mtime, file.content.length⟩, (hmem _).mpr ⟨_, AList.mem_lookup_iff.mp hfile,
      savedRow_eq_some_iff.mpr ⟨⟨hne, hleaf⟩, rfl, rfl⟩⟩, rfl⟩

/-! ### One request -/

/-- What passes the checks is written to the file of a name. -/
lemma path_of_saveTarget (h : saveTarget parse env req = .ok (.inr (path, cfg))) :
    ∃ name, FileName name ∧ path = filePath env name := by
  rw [saveTarget] at h
  split at h
  · cases h
  · next input hinput =>
      obtain ⟨entered, -, h⟩ := except_bind_eq_ok.mp h
      rcases savedConfigFile_cases env (textBytes entered) with ⟨-, hnone⟩ | ⟨hname, hfile⟩
      · rw [hnone] at h
        cases h
      · refine ⟨_, hname, ?_⟩
        rw [← hfile]
        dsimp only at h
        split at h
        · cases h
        · split at h
          · obtain ⟨content, -, h⟩ := except_bind_eq_ok.mp h
            split at h
            · cases h
            · cases h
              rfl
          · split at h
            · cases h
            · cases h
              rfl

lemma savedBy_eq_some_iff : savedBy parse env req = some (path, cfg) ↔
    saveTarget parse env req = .ok (.inr (path, cfg)) ∧
      req.io.opened = true ∧ req.io.written = true ∧ req.io.renamed = true := by
  rw [savedBy]
  split
  · next saved htarget =>
      rw [htarget]
      simp only [Except.ok.injEq, Sum.inr.injEq]
      split
      · next hio =>
          simp only [Bool.and_eq_true] at hio
          simp [hio]
      · next hio =>
          simp only [Bool.and_eq_true] at hio
          simp only [reduceCtorEq, false_iff]
          rintro ⟨-, h⟩
          exact hio ⟨⟨h.1, h.2.1⟩, h.2.2⟩
  · next hnone =>
      refine iff_of_false (fun h => nomatch h) fun h => hnone _ h.1

/-- **What a request does to the files of the names**: what it has saved stands in its
file, and every other file is as it was. -/
lemma lookup_saving (h : (saving parse env).next disk req = some disk') (name : Bytes) :
    (disk'.lookup (filePath env name)).map SavedFile.content =
      match savedBy parse env req with
      | some (path, cfg) =>
          if path = filePath env name then some cfg
          else (disk.lookup (filePath env name)).map SavedFile.content
      | none => (disk.lookup (filePath env name)).map SavedFile.content := by
  have herase : ∀ path, (disk.erase (tmpPath path)).lookup (filePath env name) =
      disk.lookup (filePath env name) := by
    intro path
    exact AList.lookup_erase_ne (filePath_ne_tmp env name path)
  rw [saving] at h
  dsimp only at h
  rw [saveConfig] at h
  cases htarget : saveTarget parse env req with
  | error e =>
      rw [htarget] at h
      cases h
      rw [savedBy, htarget]
  | ok target =>
      rw [htarget] at h
      cases target with
      | inl resp =>
          cases h
          rw [savedBy, htarget]
      | inr saved =>
          obtain ⟨path, cfg⟩ := saved
          have hdisk : disk' = (writeConfig disk path cfg req.io).1 := (Option.some.inj h).symm
          rw [hdisk, writeConfig, savedBy, htarget]
          cases hopened : req.io.opened with
          | false => rfl
          | true =>
              cases hwritten : req.io.written with
              | false => simp [herase]
              | true =>
                  cases hrenamed : req.io.renamed with
                  | false => simp [herase]
                  | true =>
                      simp only [Bool.not_true, Bool.false_eq_true, if_false, Bool.and_self,
                        if_true]
                      split
                      · next hsame => rw [hsame, AList.lookup_insert, Option.map_some]
                      · next hother => rw [AList.lookup_insert_ne (Ne.symm hother), herase]

/-- What a request has saved has a name that is taken. -/
lemma fileName_of_savedBy (h : savedBy parse env req = some (filePath env name, cfg)) :
    FileName name := by
  obtain ⟨name', hname', hpath⟩ := path_of_saveTarget (savedBy_eq_some_iff.mp h).1
  rw [filePath_inj.mp hpath]
  exact hname'

/-! ### Runs -/

lemma lastSaved_snoc (tr : List (Disk × SaveRequest)) (p : Disk × SaveRequest) (path : Bytes) :
    lastSaved parse env (tr ++ [p]) path =
      match savedBy parse env p.2 with
      | some (path', cfg) => if path' = path then some cfg else lastSaved parse env tr path
      | none => lastSaved parse env tr path := by
  rw [lastSaved, List.foldl_append]
  rfl

/-- **The files of the names hold what was last saved there.** -/
lemma lookup_run {disk₀ : Disk} (hinit : (saving parse env).init disk₀)
    (hrun : (saving parse env).Run disk₀ tr disk) (hne : name ≠ []) (hleaf : 47 ∉ name) :
    (disk.lookup (filePath env name)).map SavedFile.content =
      lastSaved parse env tr (filePath env name) := by
  induction hrun with
  | nil =>
      have hnone : ¬Listed env disk₀ name := by
        rw [← exists_row_iff, hinit]
        simp
      rw [Option.map_eq_none_iff.mpr]
      · rfl
      · by_contra hsome
        exact hnone ⟨hne, hleaf, Option.ne_none_iff_exists'.mp hsome⟩
  | snoc hrun hstep ih => rw [lookup_saving hstep, lastSaved_snoc, ih]

/-- What was saved last was saved by a request of the run. -/
lemma exists_of_lastSaved (h : lastSaved parse env tr path = some cfg) :
    ∃ p ∈ tr, savedBy parse env p.2 = some (path, cfg) := by
  induction tr using List.reverseRecOn with
  | nil => cases h
  | append_singleton tr p ih =>
      have hearlier : lastSaved parse env tr path = some cfg →
          ∃ p' ∈ tr ++ [p], savedBy parse env p'.2 = some (path, cfg) := by
        intro hbefore
        obtain ⟨p', hp', hsaved⟩ := ih hbefore
        exact ⟨p', List.mem_append_left _ hp', hsaved⟩
      rw [lastSaved_snoc] at h
      split at h
      · next path' cfg' hsaved =>
          split at h
          · next hsame =>
              cases h
              rw [hsame] at hsaved
              exact ⟨p, List.mem_append_right _ (List.mem_singleton_self p), hsaved⟩
          · exact hearlier h
      · exact hearlier h

/-- And a file that was saved to has something saved last. -/
lemma lastSaved_isSome {p : Disk × SaveRequest} (hp : p ∈ tr)
    (h : savedBy parse env p.2 = some (path, cfg)) :
    ∃ cfg', lastSaved parse env tr path = some cfg' := by
  induction tr using List.reverseRecOn with
  | nil => cases hp
  | append_singleton tr q ih =>
      rw [lastSaved_snoc]
      rcases List.mem_append.mp hp with hp | hp
      · obtain ⟨cfg', hlast⟩ := ih hp
        split
        · split
          · exact ⟨_, rfl⟩
          · exact ⟨cfg', hlast⟩
        · exact ⟨cfg', hlast⟩
      · rw [← List.mem_singleton.mp hp, h]
        dsimp only
        rw [if_pos rfl]
        exact ⟨cfg, rfl⟩

/-- The names of the list are names that were saved under. -/
lemma listed_iff_saved {disk₀ : Disk} (hinit : (saving parse env).init disk₀)
    (hrun : (saving parse env).Run disk₀ tr disk) :
    Listed env disk name ↔
      ∃ p ∈ tr, ∃ cfg, savedBy parse env p.2 = some (filePath env name, cfg) := by
  constructor
  · rintro ⟨hne, hleaf, file, hfile⟩
    have hlast := lookup_run hinit hrun hne hleaf
    rw [hfile, Option.map_some] at hlast
    obtain ⟨p, hp, hsaved⟩ := exists_of_lastSaved hlast.symm
    exact ⟨p, hp, _, hsaved⟩
  · rintro ⟨p, hp, cfg, hsaved⟩
    have hname := fileName_of_savedBy hsaved
    have hleaf : 47 ∉ name := hname.not_mem (by decide)
    obtain ⟨cfg', hlast⟩ := lastSaved_isSome hp hsaved
    rw [← lookup_run hinit hrun hname.nonempty hleaf] at hlast
    obtain ⟨file, hfile, -⟩ := Option.map_eq_some_iff.mp hlast
    exact ⟨hname.nonempty, hleaf, file, hfile⟩

/-! ### The names of the list -/

/-- The name in a target is the one that was put there. -/
lemma targetName_contentTarget (h : FileName name) : targetName (contentTarget name) = name := by
  have hfront : textBytes "/api/settings/saved-config-content?name=" =
      [47, 97, 112, 105, 47, 115, 101, 116, 116, 105, 110, 103, 115, 47, 115, 97, 118, 101, 100, 45,
        99, 111, 110, 102, 105, 103, 45, 99, 111, 110, 116, 101, 110, 116, 63, 110, 97, 109, 101,
        61] := by
    decide
  have hmarker : textBytes "name=" = [110, 97, 109, 101, 61] := by decide
  have hfound : afterFirst (textBytes "name=") (contentTarget name) = some name := by
    rw [contentTarget, hfront, hmarker]
    simp [afterFirst]
  rw [targetName, hfound]
  exact takeWhile_ne_eq_self_iff.mpr (h.not_mem (by decide))

lemma filePath_ne_nil (env name : Bytes) : filePath env name ≠ [] := by simp [filePath]

/-- A plain name leads to its own file. -/
lemma savedConfigFile_of_plain (h : FileName name) (hplain : ¬kJsonExt <:+ name) :
    savedConfigFile env name = filePath env name := by
  have hstripped := strippedName_of_plain hplain
  rcases savedConfigFile_cases env name with ⟨hbad, -⟩ | ⟨-, hfile⟩
  · rw [hstripped] at hbad
    exact absurd h hbad
  · rw [hfile, hstripped]

/-- A name with the extension leads to the file of another. -/
lemma savedConfigFile_of_ext (env : Bytes) (h : FileName (name ++ kJsonExt)) :
    FileName name ∧ savedConfigFile env (name ++ kJsonExt) = filePath env name := by
  have hname : FileName name := by
    have hne : name ≠ [] := by
      rintro rfl
      exact h.shown (by rw [kJsonExt_eq]; rfl)
    have hshort := h.short
    have hplain := h.plain
    rw [List.length_append] at hshort
    rw [List.all_append, Bool.and_eq_true] at hplain
    refine ⟨hne, Nat.le_of_add_right_le hshort, fun hhead => h.shown ?_, hplain.1⟩
    rw [List.head?_append_of_ne_nil name hne]
    exact hhead
  refine ⟨hname, ?_⟩
  rcases savedConfigFile_cases env (name ++ kJsonExt) with ⟨hbad, -⟩ | ⟨-, hfile⟩
  · rw [strippedName_append] at hbad
    exact absurd hname hbad
  · rw [hfile, strippedName_append]

/-- The files of the names are in the directory. -/
lemma inside_of_fileName (h : FileName name) :
    Inside env (filePath env name) ∧ Inside env (tmpPath (filePath env name)) := by
  have hslash : (47 : UInt8) ∉ kJsonExt := by
    rw [kJsonExt_eq]
    decide
  have htmp : (47 : UInt8) ∉ textBytes ".tmp" := by decide
  have hname : 47 ∉ name := h.not_mem (by decide)
  have hlength : 5 = kJsonExt.length := by rw [kJsonExt_eq]; rfl
  constructor
  · refine ⟨name ++ kJsonExt, rfl, ?_, fun heq => ?_, fun heq => ?_⟩
    · rw [List.mem_append, not_or]
      exact ⟨hname, hslash⟩
    all_goals
      have hlen := congrArg List.length heq
      rw [List.length_append, ← hlength] at hlen
      simp at hlen
  · refine ⟨name ++ kJsonExt ++ textBytes ".tmp", ?_, ?_, fun heq => ?_, fun heq => ?_⟩
    · rw [tmpPath, filePath, List.append_assoc, List.cons_append]
    · simp only [List.mem_append, not_or]
      exact ⟨⟨hname, hslash⟩, htmp⟩
    all_goals
      have hlen := congrArg List.length heq
      rw [List.length_append, List.length_append, ← hlength] at hlen
      simp at hlen
      omega

/-- **A name that still ends in the extension is not reachable**: it leads to the file of
another, which is listed too or is not there. -/
lemma not_namesReach {disk₀ : Disk} (hinit : (saving parse env).init disk₀)
    (hrun : (saving parse env).Run disk₀ tr disk) (hlisted : Listed env disk (name ++ kJsonExt)) :
    ¬NamesReach parse env tr disk := by
  intro h
  obtain ⟨p, -, cfg, hsaved⟩ := (listed_iff_saved hinit hrun).mp hlisted
  have hfull := fileName_of_savedBy hsaved
  obtain ⟨hname, hfile⟩ := savedConfigFile_of_ext env hfull
  obtain ⟨row, hrow, hrowname⟩ := exists_row_iff.mpr hlisted
  have htarget := targetName_contentTarget hfull
  cases hlookup : disk.lookup (filePath env name) with
  | none =>
      obtain ⟨cfg', -, hcontent⟩ := h.content row hrow
      rw [hrowname, savedConfigContent, htarget, hfile, if_neg (filePath_ne_nil env name),
        hlookup] at hcontent
      cases hcontent
  | some file =>
      obtain ⟨row', hrow', hrowname'⟩ := exists_row_iff.mpr
        (⟨hname.nonempty, hname.not_mem (by decide), file, hlookup⟩ : Listed env disk name)
      refine h.apart row hrow row' hrow' ?_ ?_
      · rw [hrowname, hrowname', kJsonExt_eq]
        simp
      · rw [hrowname, hrowname', contentFiles, htarget, hfile, if_neg (filePath_ne_nil env name)]

/-- Where every name saved is plain, the names of the list lead to their files. -/
lemma namesReach_of_plainlyNamed {disk₀ : Disk} (hinit : (saving parse env).init disk₀)
    (hrun : (saving parse env).Run disk₀ tr disk) (h : ∀ p ∈ tr, PlainlyNamed parse env p.2) :
    NamesReach parse env tr disk := by
  have hrow : ∀ row ∈ savedConfigs env disk, Listed env disk row.name := fun row hrow =>
    exists_row_iff.mp ⟨row, hrow, rfl⟩
  have hplain : ∀ row ∈ savedConfigs env disk, FileName row.name ∧
      savedConfigFile env (targetName (contentTarget row.name)) = filePath env row.name := by
    intro row hmem
    obtain ⟨p, hp, cfg, hsaved⟩ := (listed_iff_saved hinit hrun).mp (hrow row hmem)
    have hname := fileName_of_savedBy hsaved
    rw [targetName_contentTarget hname]
    exact ⟨hname, savedConfigFile_of_plain hname (h p hp row.name cfg hsaved)⟩
  constructor
  · intro row hmem
    obtain ⟨hname, hfile⟩ := hplain row hmem
    obtain ⟨hne, hleaf, file, hlookup⟩ := hrow row hmem
    have hlast := lookup_run hinit hrun hne hleaf
    rw [hlookup, Option.map_some] at hlast
    refine ⟨file.content, hlast.symm, ?_⟩
    rw [savedConfigContent, hfile, if_neg (filePath_ne_nil env row.name), hlookup]
  · intro row hmem row' hmem' hne hsame
    rw [contentFiles, (hplain row hmem).2, if_neg (filePath_ne_nil env row.name),
      List.singleton_inj, filePath_inj] at hsame
    exact hne hsame

/-- A save stays in the directory. -/
lemma inside_of_mem_saveFiles {req : SaveRequest} {path : Bytes}
    (h : path ∈ saveFiles parse env req) : Inside env path := by
  rw [saveFiles] at h
  split at h
  · next path' cfg htarget =>
      obtain ⟨name, hname, rfl⟩ := path_of_saveTarget htarget
      rcases List.mem_pair.mp h with rfl | rfl
      · exact (inside_of_fileName hname).2
      · exact (inside_of_fileName hname).1
  · cases h

/-- So does a read. -/
lemma inside_of_mem_contentFiles {target path : Bytes} (h : path ∈ contentFiles env target) :
    Inside env path := by
  rw [contentFiles] at h
  rcases savedConfigFile_cases env (targetName target) with ⟨-, hnone⟩ | ⟨hname, hfile⟩
  · rw [if_pos hnone] at h
    cases h
  · rw [hfile, if_neg (filePath_ne_nil env _)] at h
    rw [List.mem_singleton.mp h]
    exact (inside_of_fileName hname).1

/-- **Saved configurations are reachable** under the names of the list exactly where no
request of the run has saved under a name that, its extension stripped, has it still. No
name leads outside of the directory. -/
theorem savedConfigs_reach_iff {disk₀ : Disk} (hinit : (saving parse env).init disk₀)
    (hrun : (saving parse env).Run disk₀ tr disk) :
    (NamesReach parse env tr disk ↔ ∀ p ∈ tr, PlainlyNamed parse env p.2) ∧
      (∀ req, ∀ path ∈ saveFiles parse env req, Inside env path) ∧
      ∀ target, ∀ path ∈ contentFiles env target, Inside env path := by
  refine ⟨⟨fun h p hp name cfg hsaved hext => ?_, namesReach_of_plainlyNamed hinit hrun⟩,
    fun _ _ => inside_of_mem_saveFiles, fun _ _ => inside_of_mem_contentFiles⟩
  obtain ⟨front, rfl⟩ := hext
  exact not_namesReach hinit hrun ((listed_iff_saved hinit hrun).mpr ⟨p, hp, cfg, hsaved⟩) h

/-! ### A name with two extensions -/

namespace TwoExtensions

/-- A request to save the running configuration under a name. -/
def request (name : String) : SaveRequest :=
  ⟨textBytes name, textBytes "\x7b\x7d", ⟨true, true, true, 0⟩⟩

/-- A body that is a name stands for the document with it. -/
def readName (body : Bytes) : Option Json :=
  (utf8Text body).map fun name => .obj [("name", .str name)]

lemma init_empty : (saving readName []).init ∅ := by
  change List.mergeSort _ _ = []
  rw [← List.length_eq_zero_iff, List.length_mergeSort]
  rfl

/-- Where the running configuration goes under a name. -/
lemma savedBy_request {name : String} {path : Bytes}
    (h : savedBy readName [] (request name) = some (filePath [] path, textBytes "\x7b\x7d"))
    (hplain : ¬kJsonExt <:+ path) : PlainlyNamed readName [] (request name) := by
  intro name' cfg hsaved
  rw [h] at hsaved
  have hsame : filePath [] path = filePath [] name' := (Prod.ext_iff.mp (Option.some.inj hsaved)).1
  rw [← filePath_inj.mp hsame]
  exact hplain

end TwoExtensions

open TwoExtensions in
/-- The law on a name that is saved twice, with the extension and without. -/
theorem savedConfigs_reach_iff_backup : ∃ disk tr,
    (saving readName []).Run ∅ tr disk ∧ tr.map Prod.snd = ["backup", "backup.json"].map request ∧
      Listed [] disk (textBytes "backup") ∧ NamesReach readName [] tr disk := by
  have hfirst : savedBy readName [] (request "backup") =
      some (filePath [] (textBytes "backup"), textBytes "\x7b\x7d") := by
    decide +kernel
  have hsecond : savedBy readName [] (request "backup.json") =
      some (filePath [] (textBytes "backup"), textBytes "\x7b\x7d") := by
    decide +kernel
  have hplain : ¬kJsonExt <:+ textBytes "backup" := by decide +kernel
  obtain ⟨disk, hstep⟩ := Option.isSome_iff_exists.mp
    (by decide +kernel : ((saving readName []).next ∅ (request "backup")).isSome = true)
  have hnext : ∃ disk', (saving readName []).next disk (request "backup.json") = some disk' := by
    rw [saving]
    dsimp only
    cases saveConfig readName [] disk (request "backup.json") with
    | error e => exact ⟨disk, rfl⟩
    | ok r => exact ⟨r.1, rfl⟩
  obtain ⟨disk', hstep'⟩ := hnext
  have hrun : (saving readName []).Run ∅
      ([] ++ [(∅, request "backup")] ++ [(disk, request "backup.json")]) disk' :=
    .snoc (.snoc .nil hstep) hstep'
  refine ⟨disk', _, hrun, rfl, (listed_iff_saved init_empty hrun).mpr ⟨_, List.mem_append_right _
    (List.mem_singleton_self _), _, hsecond⟩, (savedConfigs_reach_iff init_empty hrun).1.mpr ?_⟩
  intro p hp
  rw [List.nil_append, List.singleton_append] at hp
  rcases List.mem_pair.mp hp with rfl | rfl
  · exact savedBy_request hfirst hplain
  · exact savedBy_request hsecond hplain

open TwoExtensions in
/-- `a.json.json` is listed as `a.json`, which leads to the file of `a`. -/
theorem doubleExtension_not_reachable :
    ¬∀ (parse : Bytes → Option Json) (env : Bytes) (disk₀ disk : Disk)
      (tr : List (Disk × SaveRequest)), (saving parse env).init disk₀ →
      (saving parse env).Run disk₀ tr disk → NamesReach parse env tr disk := by
  intro h
  have hsaved : savedBy readName [] (request "a.json.json") =
      some (filePath [] (textBytes "a" ++ kJsonExt), textBytes "\x7b\x7d") := by
    decide +kernel
  obtain ⟨disk, hstep⟩ := Option.isSome_iff_exists.mp
    (by decide +kernel : ((saving readName []).next ∅ (request "a.json.json")).isSome = true)
  have hrun : (saving readName []).Run ∅ ([] ++ [(∅, request "a.json.json")]) disk :=
    .snoc .nil hstep
  have hlisted := (listed_iff_saved init_empty hrun).mpr
    ⟨_, List.mem_append_right _ (List.mem_singleton_self _), _, hsaved⟩
  exact not_namesReach init_empty hrun hlisted (h readName [] ∅ disk _ init_empty hrun)

end Pretzel.Mgmtd
