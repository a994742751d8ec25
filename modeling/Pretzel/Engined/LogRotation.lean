import Pretzel.Engined.LogIngest

/-!
The passes over a file that is rotated away.

* `written`: the entries of a text that are written completely.
* `machine`: the file grows, passes run over it, and a new file takes its place.
  `former` holds the rows of the entries of each file that was rotated away.
* `Lossless`: the rows are those of the former files, each once and in order, and
  of closed entries of the file at the path.
* `LeavesNothing`: the condition on a step. A rotation leaves no complete entry
  unread, nor takes the inode of the checkpoint; and no pass meets the new file
  empty, with the offset of the old one stored.
* `keeps_entries`: in a run whose steps meet the condition no entry is lost.
-/

namespace Pretzel.Engined.LogRotation

open Tailing Sql Reactive LogTailService LogIngest

/-! ### Complete entries -/

/-- What follows the last newline. -/
def unfinished (text : Bytes) : Bytes := text.drop (logFormat.total (splitLines text))

/-- The entries that are written completely: all but the one an unfinished line
belongs to. -/
def written (text : Bytes) : List Entry :=
  if unfinished text = [] then logFormat.entries (splitLines text)
  else logFormat.closed (splitLines text ++ [unfinished text])

variable {file : LogFile} {start i : ℕ} {earlier : List Row} {x : Store}

/-- The complete entries of both sides of a reader. -/
lemma written_drop
    (h : logFormat.Reached kMaxReadBytes (linesFrom file start) i) :
    written (file.content.drop start) = logFormat.entries ((linesFrom file start).take i) ++
      written (file.content.drop (start + logFormat.total ((linesFrom file start).take i))) := by
  have hlines : splitLines (file.content.drop start) = linesFrom file start := rfl
  have hdrop : splitLines (file.content.drop
      (start + logFormat.total ((linesFrom file start).take i))) = (linesFrom file start).drop i := by
    rw [← List.drop_drop, linesFrom, splitLines_drop]
  have hrest : unfinished (file.content.drop
      (start + logFormat.total ((linesFrom file start).take i)))
        = unfinished (file.content.drop start) := by
    rw [unfinished, unfinished, hdrop, hlines, List.drop_drop, List.drop_drop, Nat.add_assoc,
      ← LineFormat.total_append, List.take_append_drop]
  rw [written, written, hrest, hdrop, hlines]
  by_cases hnil : unfinished (file.content.drop start) = []
  · rw [if_pos hnil, if_pos hnil]
    exact h.entries
  · rw [if_neg hnil, if_neg hnil, (h.append _).closed, List.take_append_of_le_length h.le,
      List.drop_append_of_le_length h.le]

/-! ### Runs -/

/-- A file at the path, and its tables. Of the run behind it, `start` is where the
reading of the file began, and `former` holds the rows of the complete entries of
each file that was rotated away since. -/
structure Path where
  file : LogFile
  db : Session Store := ⟨{}, .idle⟩
  start : Option ℕ := none
  former : List (List Row) := []
deriving DecidableEq

/-- Something is written to the file, a pass runs over it, or a new file with
another inode takes its place. -/
inductive Move where
  | append (more : Bytes)
  | pass (io : PassIO)
  | rotate (inode : ℕ)

/-- The rows of the complete entries of the file, from where its reading began. -/
def Path.due (s : Path) : List (List Row) :=
  (s.start.map fun start => (written (s.file.content.drop start)).map Entry.bind).toList

def machine : Machine Path Move where
  init s := s.db = ⟨{}, .idle⟩ ∧ s.start = none ∧ s.former = []
  next s
    | .append more => some { s with file := s.file.grow more }
    | .pass io =>
        let db := tailDaemon io s.file s.db
        some { s with db, start := s.start.or (db.stored.checkpoint.map Checkpoint.offset) }
    | .rotate inode =>
        if inode = s.file.inode then none
        else some { s with
          file := ⟨inode, []⟩
          start := s.start.map fun _ => 0
          former := s.former ++ s.due }

/-- No call of the database fails in the step. -/
def Move.Served : Move → Prop
  | .pass io => io.Served
  | _ => True

/-- Some tables hold the rows of the former files, each once and in order, and of
closed entries of the file at the path. -/
def Lossless (s : Path) (x : Store) : Prop :=
  ∃ entries, entries <+: logFormat.closed (linesFrom s.file (s.start.getD 0)) ∧
    x.rows = s.former.flatten ++ entries.map Entry.bind

/-- The condition on a step. -/
def LeavesNothing (s : Path) : Move → Prop
  | .append _ => True
  | .pass _ => ∀ ck, s.db.stored.checkpoint = some ck → ck.inode ≠ s.file.inode →
      s.file.content = [] → ck.offset = 0
  | .rotate inode => ∀ ck, s.db.stored.checkpoint = some ck →
      ck.inode ≠ inode ∧ written (s.file.content.drop (startOffset s.file ck)) = []

/-! ### Readers of a new file -/

/-- The checkpoint names another file, and nothing of this one has been read. -/
structure Fresh (file : LogFile) (earlier : List Row) (x : Store) : Prop where
  checkpoint : ∃ ck, x.checkpoint = some ck ∧ ck.inode ≠ file.inode
  rows : x.rows = earlier

/-- A new file is read as if the checkpoint stood at its head. -/
lemma plan_fresh {ck : Checkpoint} (hck : ck.inode ≠ file.inode) (hne : file.content ≠ [])
    (opens : Bool) :
    plan opens file (some ck) = plan opens file (some ⟨file.inode, 0⟩) := by
  have hlen : ¬ file.content.length ≤ 0 := by
    rw [Nat.le_zero, List.length_eq_zero_iff]
    exact hne
  rw [plan, plan]
  dsimp only
  have hzero : startOffset file ck = 0 := by
    rw [startOffset, if_pos (.inl (Ne.symm hck))]
  have hzero' : startOffset file ⟨file.inode, 0⟩ = 0 := by
    rw [startOffset]
    exact ite_self 0
  rw [hzero, hzero', if_neg hlen, if_neg hlen]

/-- **A pass over a new file** leaves it as it is, or begins to read it. -/
lemma Fresh.pass (h : Fresh file earlier x) (opens : Bool)
    (hempty : ∀ ck, x.checkpoint = some ck → file.content = [] → ck.offset = 0) :
    Fresh file earlier ((plan opens file x.checkpoint).apply x) ∨
      ∃ i, Standing file 0 earlier i ((plan opens file x.checkpoint).apply x) := by
  obtain ⟨ck, hck, hne⟩ := h.checkpoint
  by_cases hnil : file.content = []
  · -- the inode is moved on, and the offset stays
    right
    have hzero := hempty ck hck hnil
    have hplan : plan opens file (some ck) = .moveInode file.inode := by
      rw [plan]
      dsimp only
      rw [if_pos (by rw [hnil]; exact Nat.zero_le _), if_pos (Ne.symm hne)]
    rw [hck, hplan]
    refine ⟨0, Nat.zero_le _, LineFormat.reached_zero _ _, ?_, ?_⟩
    · show x.checkpoint.map _ = _
      rw [hck, Option.map_some, hzero, List.take_zero]
      rfl
    · rw [List.take_zero]
      exact h.rows.trans (List.append_nil _).symm
  · have hhead : Standing file 0 earlier 0 { x with checkpoint := some ⟨file.inode, 0⟩ } := by
      refine ⟨Nat.zero_le _, LineFormat.reached_zero _ _, ?_, ?_⟩
      · rw [List.take_zero]
        rfl
      · rw [List.take_zero]
        exact h.rows.trans (List.append_nil _).symm
    rw [hck, plan_fresh hne hnil]
    cases opens with
    | false =>
        have hstop := hhead.plan_shut
        dsimp only at hstop
        rw [hstop]
        exact .inl h
    | true =>
        have hpass := hhead.pass
        have hplan := plan_eq (i := 0) (rfl : linesFrom file 0 = _) (Nat.zero_le _)
        rw [List.take_zero] at hplan
        change plan true file (some ⟨file.inode, 0⟩) = _ at hplan
        dsimp only at hpass
        rw [hplan] at hpass ⊢
        split at hpass
        · next hstop =>
            rw [if_pos hstop]
            exact .inl h
        · next hgo =>
            rw [if_neg hgo]
            exact .inr ⟨_, hpass⟩

/-! ### No entry is lost -/

/-- What a run keeps: the reading has not begun, or a reader stands on the file with
the rows of the former files, or the file is new to it. -/
def Whole (s : Path) : Prop :=
  s.db.tx = .idle ∧
    match s.start with
    | none => s.db.stored = {} ∧ s.former = []
    | some start => (∃ i, Standing s.file start s.former.flatten i s.db.stored) ∨
        (start = 0 ∧ Fresh s.file s.former.flatten s.db.stored)

variable {s s' : Path}

lemma Whole.append (h : Whole s) (more : Bytes) : Whole { s with file := s.file.grow more } := by
  obtain ⟨hidle, h⟩ := h
  refine ⟨hidle, ?_⟩
  dsimp only
  cases hstart : s.start with
  | none =>
      rw [hstart] at h
      exact h
  | some start =>
      rw [hstart] at h
      rcases h with ⟨i, hstand⟩ | ⟨hzero, hfresh⟩
      · exact .inl ⟨i, hstand.grow more⟩
      · exact .inr ⟨hzero, hfresh.checkpoint, hfresh.rows⟩

lemma Whole.pass (h : Whole s) {io : PassIO} (hio : io.Served)
    (hok : LeavesNothing s (.pass io)) (hstep : machine.next s (.pass io) = some s') :
    Whole s' := by
  obtain ⟨⟨file, ⟨x, tx⟩, first, former⟩, rfl⟩ : ∃ t, s = t := ⟨s, rfl⟩
  obtain ⟨hidle, h⟩ := h
  cases hidle
  cases hstep
  dsimp only [LeavesNothing] at h hok ⊢
  rw [tailDaemon_served hio]
  refine ⟨rfl, ?_⟩
  dsimp only
  cases first with
  | none =>
      obtain ⟨rfl, rfl⟩ := h
      exact .inl ⟨0, standing_first file {}⟩
  | some start =>
      rw [Option.some_or]
      rcases h with ⟨i, hstand⟩ | ⟨rfl, hfresh⟩
      · cases io.opens with
        | true => exact .inl ⟨_, hstand.pass⟩
        | false =>
            rw [hstand.plan_shut]
            exact .inl ⟨i, hstand⟩
      · obtain ⟨ck, hck, hne⟩ := hfresh.checkpoint
        have hempty : ∀ ck', x.checkpoint = some ck' → file.content = [] → ck'.offset = 0 := by
          intro ck' hck'
          rw [hck, Option.some.injEq] at hck'
          exact hok ck' (hck.trans (congrArg some hck')) (hck' ▸ hne)
        rcases hfresh.pass io.opens hempty with hfresh' | hstand
        · exact .inr ⟨rfl, hfresh'⟩
        · exact .inl hstand

lemma Whole.rotate (h : Whole s) {inode : ℕ} (hok : LeavesNothing s (.rotate inode))
    (hstep : machine.next s (.rotate inode) = some s') : Whole s' := by
  obtain ⟨hidle, h⟩ := h
  simp only [machine] at hstep
  split at hstep
  · cases hstep
  · next hne =>
      cases hstep
      refine ⟨hidle, ?_⟩
      dsimp only [LeavesNothing] at hok ⊢
      cases hstart : s.start with
      | none =>
          rw [hstart] at h
          rw [Path.due, hstart]
          exact ⟨h.1, by rw [h.2]; rfl⟩
      | some start =>
          rw [hstart] at h
          rw [Path.due, hstart]
          refine .inr ⟨rfl, ?_⟩
          dsimp only [Option.map_some, Option.toList_some]
          rw [List.flatten_append, List.flatten_singleton]
          rcases h with ⟨i, hstand⟩ | ⟨rfl, hfresh⟩
          · obtain ⟨-, hnothing⟩ := hok _ hstand.checkpoint
            rw [hstand.startOffset_eq] at hnothing
            refine ⟨⟨_, hstand.checkpoint, Ne.symm hne⟩, ?_⟩
            rw [written_drop hstand.reached, hnothing, List.append_nil, hstand.rows]
          · obtain ⟨ck, hck, hother⟩ := hfresh.checkpoint
            obtain ⟨hinode, hnothing⟩ := hok ck hck
            rw [startOffset, if_pos (.inl (Ne.symm hother))] at hnothing
            refine ⟨⟨ck, hck, hinode⟩, ?_⟩
            rw [hnothing, hfresh.rows]
            exact (List.append_nil _).symm

/-- **The run lemma.** -/
theorem whole_of_run {s₀ : Path} {tr : List (Path × Move)} (hinit : machine.init s₀)
    (h : machine.Run s₀ tr s) (hok : ∀ p ∈ tr, p.2.Served ∧ LeavesNothing p.1 p.2) : Whole s := by
  refine h.invariant_of_forall (C := fun t l => l.Served ∧ LeavesNothing t l) ?_ ?_ hok
  · obtain ⟨hdb, hstart, hformer⟩ := hinit
    refine ⟨by rw [hdb], ?_⟩
    rw [hstart, hdb]
    exact ⟨rfl, hformer⟩
  · intro t l t' hwhole hl hstep
    cases l with
    | append more =>
        cases hstep
        exact hwhole.append more
    | pass io => exact hwhole.pass hl.1 hl.2 hstep
    | rotate inode => exact hwhole.rotate hl.2 hstep

/-- **No entry of a file rotated away is lost**, where no rotation leaves one
unread: each is in the rows once, in order. -/
theorem keeps_entries {s₀ : Path} {tr : List (Path × Move)} (hinit : machine.init s₀)
    (h : machine.Run s₀ tr s) (hserved : ∀ p ∈ tr, p.2.Served)
    (hok : ∀ p ∈ tr, LeavesNothing p.1 p.2) : Lossless s s.db.stored := by
  obtain ⟨-, hwhole⟩ := whole_of_run hinit h fun p hp => ⟨hserved p hp, hok p hp⟩
  rw [Lossless]
  cases hstart : s.start with
  | none =>
      rw [hstart] at hwhole
      refine ⟨[], List.nil_prefix, ?_⟩
      rw [hwhole.1, hwhole.2]
      rfl
  | some start =>
      rw [hstart] at hwhole
      rw [Option.getD_some]
      rcases hwhole with ⟨i, hstand⟩ | ⟨-, hfresh⟩
      · exact ⟨_, hstand.prefix_closed, hstand.rows⟩
      · exact ⟨[], List.nil_prefix, hfresh.rows.trans (List.append_nil _).symm⟩

/-! ### Where an entry is lost -/

/-- A file that is empty. -/
def sampleStart : Path := { file := ⟨1, []⟩ }

/-- A rotation in the middle of an entry. -/
def sampleKept : List Move :=
  [.pass {}, .append (joinLines [sampleHeader, sampleHeader] ++ [120]), .pass {}, .rotate 2]

/-- A rotation behind an entry. -/
def sampleHeld : List Move :=
  [.pass {}, .append (joinLines [sampleHeader, sampleHeader]), .pass {}, .rotate 2]

/-- A pass that meets the new file empty, between two rotations that leave nothing. -/
def sampleSkipped : List Move :=
  [.pass {}, .append (joinLines [letters 5]), .pass {}, .rotate 2, .pass {},
    .append (joinLines [sampleHeader, sampleHeader] ++ [120]), .pass {}, .rotate 3]

lemma rotate_leaves {s : Path} {c : Checkpoint} (hc : s.db.stored.checkpoint = some c)
    {inode : ℕ} (hinode : c.inode ≠ inode)
    (hnothing : written (s.file.content.drop (startOffset s.file c)) = []) :
    LeavesNothing s (.rotate inode) := by
  intro ck hck
  rw [hc, Option.some.injEq] at hck
  rw [← hck]
  exact ⟨hinode, hnothing⟩

/-- The entry in front of an unfinished one is kept. -/
theorem keeps_entries_cut : ∃ s, machine.exec sampleStart sampleKept = some s ∧
    s.former.flatten.length = 1 ∧ Lossless s s.db.stored := by
  have hrun := Machine.exec_run (M := machine) (s := sampleStart)
    (rfl : machine.exec sampleStart sampleKept = some _)
  refine ⟨_, rfl, by decide +kernel, keeps_entries ⟨rfl, rfl, rfl⟩ hrun ?_ ?_⟩
  · intro p hp
    have hmem := Machine.label_of_mem_trace hp
    simp only [sampleKept, List.mem_cons, List.not_mem_nil, or_false] at hmem
    rcases hmem with h | h | h | h <;> rw [h]
    · exact served_default
    · trivial
    · exact served_default
    · trivial
  · intro p hp
    have htrace : machine.trace sampleStart sampleKept = [_, _, _, _] := rfl
    rw [htrace] at hp
    simp only [List.mem_cons, List.not_mem_nil, or_false] at hp
    rcases hp with rfl | rfl | rfl | rfl
    · intro ck hck
      cases hck
    · trivial
    · intro ck _ _ hnil
      exact absurd hnil (by decide +kernel)
    · exact rotate_leaves (c := ⟨1, 43⟩) (by decide +kernel) (by decide) (by decide +kernel)

/-- Passes over an empty file leave the rows. -/
lemma rows_passes_empty (inode n : ℕ) (x : Store) : (passes n ⟨inode, []⟩ x).rows = x.rows := by
  have hone : ∀ x : Store, (tailDaemon {} ⟨inode, []⟩ ⟨x, .idle⟩).stored.rows = x.rows := by
    intro x
    rw [tailDaemon_served served_default]
    cases x.checkpoint with
    | none => rfl
    | some ck =>
        have hnil : ([] : Bytes).length ≤ startOffset ⟨inode, []⟩ ck := Nat.zero_le _
        rw [plan]
        dsimp only
        rw [if_pos hnil]
        split
        · rfl
        · rfl
  rw [passes]
  induction n with
  | zero => rfl
  | succ n ih => rw [Function.iterate_succ_apply', hone, ih]

/-- With fewer rows than entries, an entry is lost for good. -/
lemma not_lossless {s : Path} {inode : ℕ} (hfile : s.file = ⟨inode, []⟩)
    (hlt : s.db.stored.rows.length < s.former.flatten.length) (n : ℕ) :
    ¬ Lossless s (passes n s.file s.db.stored) := by
  rintro ⟨entries, -, hrows⟩
  rw [hfile, rows_passes_empty] at hrows
  rw [hrows, List.length_append] at hlt
  omega

/-- **Where a rotation loses an entry**: the last entry of the old file, which no
header closed; and, where every rotation leaves nothing unread, the head of a new
file that a pass has met empty. -/
theorem rotation_loses :
    (∃ tr s, machine.Run sampleStart tr s ∧ (∀ p ∈ tr, p.2.Served) ∧
      ∀ n, ¬ Lossless s (passes n s.file s.db.stored)) ∧
    (∃ tr s, machine.Run sampleStart tr s ∧ (∀ p ∈ tr, p.2.Served) ∧
      (∀ p ∈ tr, ∀ inode, p.2 = .rotate inode → LeavesNothing p.1 p.2) ∧
      ∀ n, ¬ Lossless s (passes n s.file s.db.stored)) := by
  constructor
  · have hrun := Machine.exec_run (M := machine) (s := sampleStart)
      (rfl : machine.exec sampleStart sampleHeld = some _)
    refine ⟨_, _, hrun, ?_, not_lossless rfl (by decide +kernel)⟩
    intro p hp
    have hmem := Machine.label_of_mem_trace hp
    simp only [sampleHeld, List.mem_cons, List.not_mem_nil, or_false] at hmem
    rcases hmem with h | h | h | h <;> rw [h]
    · exact served_default
    · trivial
    · exact served_default
    · trivial
  · have hrun := Machine.exec_run (M := machine) (s := sampleStart)
      (rfl : machine.exec sampleStart sampleSkipped = some _)
    refine ⟨_, _, hrun, ?_, ?_, not_lossless rfl (by decide +kernel)⟩
    · intro p hp
      have hmem := Machine.label_of_mem_trace hp
      simp only [sampleSkipped, List.mem_cons, List.not_mem_nil, or_false] at hmem
      rcases hmem with h | h | h | h | h | h | h | h <;> rw [h]
      all_goals first | exact served_default | trivial
    · intro p hp inode hrotate
      have htrace : machine.trace sampleStart sampleSkipped = [_, _, _, _, _, _, _, _] := rfl
      rw [htrace] at hp
      simp only [List.mem_cons, List.not_mem_nil, or_false] at hp
      rcases hp with rfl | rfl | rfl | rfl | rfl | rfl | rfl | rfl
      · cases hrotate
      · cases hrotate
      · cases hrotate
      · exact rotate_leaves (c := ⟨1, 6⟩) (by decide +kernel) (by decide) (by decide +kernel)
      · cases hrotate
      · cases hrotate
      · cases hrotate
      · exact rotate_leaves (c := ⟨2, 43⟩) (by decide +kernel) (by decide) (by decide +kernel)

end Pretzel.Engined.LogRotation
