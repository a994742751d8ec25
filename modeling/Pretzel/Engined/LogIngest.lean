import Mathlib.Data.List.TakeWhile
import Pretzel.Library.Machine
import Pretzel.Library.Texts
import Pretzel.Engined.LogTailService

/-!
What the passes over one growing file insert.

* `Standing`: the tables of a reader that stands before a line of the file.
  `Standing.append` and `Standing.pass` keep it.
* `machine`: the file grows, passes run over it. `start` is where the reading
  began, `readTo` how far the file has been read.
* `Kept`: in a run no call of which fails, the rows are the closed entries of
  what has been read.
* `ingests_iff`: the rows are those of the closed entries, and come to be those
  of the whole file, exactly when the file fits the window and no closed entry
  holds a NUL.
-/

namespace Pretzel.Engined.LogIngest

open Tailing Sql Reactive LogTailService

/-! ### Rows -/

/-- The row an entry stands for. -/
def fullRow (e : Entry) : Row := ⟨e.ts, e.level, nullIfEmpty e.loc, e.message⟩

/-- No NUL in what a line says of its entry. -/
def NulFree (e : Entry) : Prop := (0 : UInt8) ∉ e.loc ∧ (0 : UInt8) ∉ e.message

lemma cString_eq_self_iff {text : Bytes} : cString text = text ↔ (0 : UInt8) ∉ text := by
  rw [cString]
  exact Texts.takeWhile_ne_eq_self_iff

lemma nullIfEmpty_cString {text : Bytes} :
    nullIfEmpty (cString text) = nullIfEmpty text ↔ (0 : UInt8) ∉ text := by
  rw [← cString_eq_self_iff]
  constructor
  · intro h
    by_cases htext : text = []
    · rw [htext]
      rfl
    · rw [nullIfEmpty, nullIfEmpty, if_neg htext] at h
      split at h
      · cases h
      · exact Option.some.inj h
  · intro h
    rw [h]

/-- A row holds the whole entry where there is no NUL to end it. -/
lemma bind_eq_fullRow_iff {e : Entry} (hts : (0 : UInt8) ∉ e.ts) :
    e.bind = fullRow e ↔ NulFree e := by
  rw [Entry.bind, fullRow, Row.mk.injEq, cString_eq_self_iff, cString_eq_self_iff,
    nullIfEmpty_cString, NulFree]
  exact ⟨fun h => ⟨h.2.2.1, h.2.2.2⟩, fun h => ⟨hts, rfl, h.1, h.2⟩⟩

lemma mem_matchAll {tests : List (UInt8 → Bool)} {line : Bytes} {r : Bytes × Bytes}
    (h : matchAll tests line = some r) : ∀ b ∈ r.1, ∃ test ∈ tests, test b = true := by
  induction tests generalizing line r with
  | nil =>
      rw [matchAll] at h
      cases h
      simp
  | cons test tests ih =>
      cases line with
      | nil => cases h
      | cons c line =>
          rw [matchAll] at h
          split at h
          · next hc =>
              obtain ⟨r', hr', rfl⟩ := Option.map_eq_some_iff.mp h
              intro b hb
              rcases List.mem_cons.mp hb with rfl | hb
              · exact ⟨test, List.mem_cons_self, hc⟩
              · obtain ⟨test', hmem, htest⟩ := ih hr' b hb
                exact ⟨test', List.mem_cons_of_mem _ hmem, htest⟩
          · cases h

/-- The time of a header holds no NUL. -/
lemma ts_headerRe {line : Bytes} {m : Bytes × Bytes × Bytes × Bytes} (h : headerRe line = some m) :
    (0 : UInt8) ∉ m.1 := by
  simp only [headerRe, Option.bind_eq_bind, Option.bind_eq_some_iff, Option.pure_def,
    Option.some.injEq] at h
  obtain ⟨l₁, -, ⟨stamp, l₂⟩, hstamp, -, -, l₃, -, -, -, l₄, -, l₅, -, -, -, rfl⟩ := h
  have hliteral : ∀ c ∈ ascii "dddd-dd-dd dd:dd:dd.", c ≠ 0 := by decide +kernel
  have htests : ∀ test ∈ stampTests, test 0 = false := by
    intro test htest
    obtain ⟨c, hc, rfl⟩ := List.mem_map.mp htest
    split
    · rfl
    · simpa using (hliteral c hc).symm
  dsimp only
  rw [List.mem_append, not_or]
  constructor
  · intro hmem
    obtain ⟨test, htest, hzero⟩ := mem_matchAll hstamp 0 hmem
    rw [htests test htest] at hzero
    cases hzero
  · intro hmem
    exact absurd (List.mem_takeWhile_imp hmem) (by decide)

lemma ts_attachLines (e : Entry) (lines : List Bytes) :
    (lines.foldl attachLine e).ts = e.ts := by
  induction lines generalizing e with
  | nil => rfl
  | cons line lines ih => exact (ih _).trans rfl

lemma ts_entries {lines : List Bytes} : ∀ e ∈ logFormat.entries lines, (0 : UInt8) ∉ e.ts := by
  induction lines with
  | nil => simp [LineFormat.entries]
  | cons raw rest ih =>
      cases hopen : openEntry raw with
      | none =>
          have hheader : logFormat.isHeader raw = false := by
            rw [LineFormat.isHeader]
            show (openEntry raw).isSome = false
            rw [hopen]
            rfl
          rw [LineFormat.entries_cons_of_not_header hheader]
          exact ih
      | some e =>
          have hheader : logFormat.header raw = some e := hopen
          rw [LineFormat.entries_cons_of_header hheader]
          intro x hx
          rcases List.mem_cons.mp hx with rfl | hx
          · rw [openEntry] at hopen
            obtain ⟨m, hm, rfl⟩ := Option.map_eq_some_iff.mp hopen
            show (0 : UInt8) ∉ (List.foldl attachLine _ _).ts
            rw [ts_attachLines]
            exact ts_headerRe hm
          · exact ih x hx

/-! ### Where a reader of the file stands -/

/-- The whole lines of the file from a place on. -/
def linesFrom (file : LogFile) (start : ℕ) : List Bytes := splitLines (file.content.drop start)

/-- The tables of a reader that began at `start`, with some rows there, and
stands before line `i` from there on. -/
structure Standing (file : LogFile) (start : ℕ) (earlier : List Row) (i : ℕ) (x : Store) :
    Prop where
  le : start ≤ file.content.length
  reached : logFormat.Reached kMaxReadBytes (linesFrom file start) i
  checkpoint : x.checkpoint
    = some ⟨file.inode, start + logFormat.total ((linesFrom file start).take i)⟩
  rows : x.rows = earlier ++ (logFormat.entries ((linesFrom file start).take i)).map Entry.bind

variable {file : LogFile} {start i : ℕ} {earlier : List Row} {x : Store}

/-- The reading begins at the end of the file. -/
lemma standing_first (file : LogFile) (x : Store) : Standing file file.content.length x.rows 0
    (setCheckpoint ⟨file.inode, file.content.length⟩ x) := by
  refine ⟨le_rfl, LineFormat.reached_zero _ _, ?_, ?_⟩
  · rw [List.take_zero]
    rfl
  · rw [List.take_zero]
    exact (List.append_nil _).symm

lemma linesFrom_grow (h : start ≤ file.content.length) (more : Bytes) :
    ∃ lines, linesFrom (file.grow more) start = linesFrom file start ++ lines := by
  rw [linesFrom, LogFile.grow, List.drop_append_of_le_length h]
  exact splitLines_append _ _

/-- **The file may grow.** -/
lemma Standing.grow (h : Standing file start earlier i x) (more : Bytes) :
    Standing (file.grow more) start earlier i x := by
  obtain ⟨lines, hlines⟩ := linesFrom_grow h.le more
  have htake : (linesFrom (file.grow more) start).take i = (linesFrom file start).take i := by
    rw [hlines, List.take_append_of_le_length h.reached.le]
  refine ⟨?_, ?_, ?_, ?_⟩
  · refine h.le.trans ?_
    rw [LogFile.grow, List.length_append]
    exact Nat.le_add_right _ _
  · rw [hlines]
    exact h.reached.append lines
  · rw [htake]
    exact h.checkpoint
  · rw [htake]
    exact h.rows

lemma Standing.offset_le (h : Standing file start earlier i x) :
    start + logFormat.total ((linesFrom file start).take i) ≤ file.content.length := by
  have hle := total_splitLines_le (file.content.drop start)
  rw [← linesFrom, ← List.take_append_drop i (linesFrom file start), LineFormat.total_append,
    List.length_drop] at hle
  have := h.le
  omega

/-- The next pass reads from where the reader stands. -/
lemma Standing.startOffset_eq (h : Standing file start earlier i x) : startOffset file
    ⟨file.inode, start + logFormat.total ((linesFrom file start).take i)⟩
      = start + logFormat.total ((linesFrom file start).take i) := by
  have hle := h.offset_le
  rw [startOffset, if_neg]
  rw [not_or]
  exact ⟨fun hne => hne rfl, by dsimp only; omega⟩

/-- **A pass moves the reader on.** -/
theorem Standing.pass (h : Standing file start earlier i x) :
    Standing file start earlier (logFormat.step kMaxReadBytes (linesFrom file start) i)
      ((plan true file x.checkpoint).apply x) := by
  have hplan := plan_eq (i := i) (rfl : linesFrom file start = _) h.le
  rw [h.checkpoint, hplan]
  by_cases hstop : logFormat.advance
      (logFormat.window kMaxReadBytes ((linesFrom file start).drop i)) = 0
  · have hstep : logFormat.step kMaxReadBytes (linesFrom file start) i = i := by
      rw [LineFormat.step, hstop, Nat.add_zero]
    rw [if_pos hstop, hstep]
    exact h
  · rw [if_neg hstop]
    refine ⟨h.le, h.reached.step, rfl, ?_⟩
    show x.rows ++ _ = _
    rw [h.rows, h.reached.entries_take_step, List.map_append, List.append_assoc]

/-- A pass that cannot open the file does nothing. -/
lemma Standing.plan_shut (h : Standing file start earlier i x) :
    plan false file x.checkpoint = .stop := by
  rw [h.checkpoint, plan]
  dsimp only
  split
  · rw [if_neg (fun hne => hne rfl)]
  · rw [if_pos rfl]

/-- Passes over a file at rest, no call of which fails. -/
def passes (n : ℕ) (file : LogFile) (x : Store) : Store :=
  (fun y => (tailDaemon {} file ⟨y, .idle⟩).stored)^[n] x

lemma Standing.passes (h : Standing file start earlier i x) (n : ℕ) :
    Standing file start earlier ((logFormat.step kMaxReadBytes (linesFrom file start))^[n] i)
      (passes n file x) := by
  rw [LogIngest.passes]
  induction n generalizing i x with
  | zero => exact h
  | succ n ih =>
      rw [Function.iterate_succ_apply, Function.iterate_succ_apply]
      refine ih ?_
      rw [tailDaemon_served served_default]
      exact h.pass

/-- What lies behind the reader is among the closed entries. -/
lemma Standing.prefix_closed (h : Standing file start earlier i x) :
    logFormat.entries ((linesFrom file start).take i) <+: logFormat.closed (linesFrom file start) := by
  rw [h.reached.closed]
  exact List.prefix_append _ _

/-- **The rows come to be those of the closed entries** exactly when the file fits
the window, and no NUL cuts a row short. -/
theorem Standing.catchesUp_iff (h : Standing file start [] i x) :
    (∃ N, ∀ n ≥ N, (LogIngest.passes n file x).rows
        = (logFormat.closed (linesFrom file start)).map fullRow) ↔
      logFormat.Fits kMaxReadBytes (linesFrom file start) ∧
        ∀ e ∈ logFormat.closed (linesFrom file start), NulFree e := by
  have hts : ∀ e ∈ logFormat.closed (linesFrom file start), (0 : UInt8) ∉ e.ts :=
    fun e he => ts_entries e (List.dropLast_subset _ he)
  rw [← h.reached.catchesUp_iff]
  constructor
  · rintro ⟨N, hN⟩
    have hsame : ∀ n ≥ N, logFormat.entries ((linesFrom file start).take
        ((logFormat.step kMaxReadBytes (linesFrom file start))^[n] i))
          = logFormat.closed (linesFrom file start) := by
      intro n hn
      have hrows := (h.passes n).rows
      rw [hN n hn, List.nil_append] at hrows
      have hlen := congrArg List.length hrows
      rw [List.length_map, List.length_map] at hlen
      exact (h.passes n).prefix_closed.eq_of_length hlen.symm
    refine ⟨⟨N, hsame⟩, ?_⟩
    have hrows := (h.passes N).rows
    rw [hN N le_rfl, List.nil_append, hsame N le_rfl] at hrows
    intro e he
    exact (bind_eq_fullRow_iff (hts e he)).mp (List.map_inj_left.mp hrows e he).symm
  · rintro ⟨⟨N, hN⟩, hnul⟩
    refine ⟨N, fun n hn => ?_⟩
    rw [(h.passes n).rows, hN n hn, List.nil_append]
    exact List.map_inj_left.mpr fun e he => (bind_eq_fullRow_iff (hts e he)).mpr (hnul e he)

/-! ### Runs -/

/-- A file and its tables. Of the run behind it, `start` is the place the first
checkpoint named, and `readTo` how far the passes have read. -/
structure Tail where
  file : LogFile
  db : Session Store := ⟨{}, .idle⟩
  start : Option ℕ := none
  readTo : ℕ := 0
deriving DecidableEq

/-- Something is written to the file, or a pass runs over it. -/
inductive Event where
  | append (more : Bytes)
  | pass (io : PassIO)

/-- Where the read of a pass ends. -/
def readEnd (opens : Bool) (file : LogFile) : Option Checkpoint → ℕ
  | none => 0
  | some ck =>
      if opens then
        startOffset file ck + min (file.content.length - startOffset file ck) kMaxReadBytes
      else 0

/-- A file that grows, with passes over it. -/
def machine : Machine Tail Event where
  init s := s.db = ⟨{}, .idle⟩ ∧ s.start = none ∧ s.readTo = 0
  next s
    | .append more => some { s with file := s.file.grow more }
    | .pass io =>
        let db := tailDaemon io s.file s.db
        some { s with
          db
          start := s.start.or (db.stored.checkpoint.map Checkpoint.offset)
          readTo := max s.readTo (readEnd io.opens s.file s.db.stored.checkpoint) }

/-- No call of the database fails in the step. -/
def Event.Served : Event → Prop
  | .append _ => True
  | .pass io => io.Served

/-- The place the reading began at; before the first pass that is the end. -/
def Tail.origin (s : Tail) : ℕ := s.start.getD s.file.content.length

/-- The whole lines the passes have read. -/
def Tail.readLines (s : Tail) : List Bytes :=
  splitLines ((s.file.content.drop s.origin).take (s.readTo - s.origin))

/-- The rows are the closed entries of what has been read. -/
def Ingested (s : Tail) : Prop :=
  s.db.stored.rows = (logFormat.closed s.readLines).map fullRow

/-- Once the file is at rest the rows come to be the closed entries of all of it. -/
def CaughtUp (s : Tail) : Prop :=
  ∃ N, ∀ n ≥ N, (passes n s.file s.db.stored).rows
    = (logFormat.closed (linesFrom s.file s.origin)).map fullRow

/-- What a run no call of which fails keeps: there is nothing yet, or a reader
stands behind the closed entries of what has been read. -/
def Kept (s : Tail) : Prop :=
  s.db.tx = .idle ∧
    match s.start with
    | none => s.db.stored = {} ∧ s.readTo = 0
    | some start => ∃ i, Standing s.file start [] i s.db.stored ∧
        s.readTo ≤ s.file.content.length ∧
        s.readTo ≤ start + logFormat.total ((linesFrom s.file start).take i) + kMaxReadBytes ∧
        logFormat.entries ((linesFrom s.file start).take i)
          = logFormat.closed (splitLines ((s.file.content.drop start).take (s.readTo - start)))

variable {s s' : Tail}

lemma Kept.append (h : Kept s) (more : Bytes) :
    Kept { s with file := s.file.grow more } := by
  obtain ⟨hidle, h⟩ := h
  refine ⟨hidle, ?_⟩
  dsimp only
  cases hstart : s.start with
  | none =>
      rw [hstart] at h
      exact h
  | some start =>
      rw [hstart] at h
      obtain ⟨i, hstand, hread, hwindow, hclosed⟩ := h
      obtain ⟨lines, hlines⟩ := linesFrom_grow hstand.le more
      have htake : (linesFrom (s.file.grow more) start).take i
          = (linesFrom s.file start).take i := by
        rw [hlines, List.take_append_of_le_length hstand.reached.le]
      have hlen : (s.file.grow more).content.length = s.file.content.length + more.length := by
        rw [LogFile.grow, List.length_append]
      refine ⟨i, hstand.grow more, by omega, ?_, ?_⟩
      · rw [htake]
        exact hwindow
      · rw [htake, hclosed, LogFile.grow, List.drop_append_of_le_length hstand.le,
          List.take_append_of_le_length]
        rw [List.length_drop]
        omega

/-- What a pass has read after it, in lines. -/
lemma splitLines_read (hle : start + logFormat.total ((linesFrom file start).take i)
    ≤ file.content.length) :
    splitLines ((file.content.drop start).take (min file.content.length
        (start + logFormat.total ((linesFrom file start).take i) + kMaxReadBytes) - start))
      = (linesFrom file start).take
          (logFormat.readTo kMaxReadBytes (linesFrom file start) i) := by
  have htake : (file.content.drop start).take (min file.content.length
        (start + logFormat.total ((linesFrom file start).take i) + kMaxReadBytes) - start)
      = (file.content.drop start).take
          (logFormat.total ((linesFrom file start).take i) + kMaxReadBytes) := by
    rw [List.take_eq_take_iff, List.length_drop]
    omega
  rw [htake, splitLines_take, LineFormat.take_readTo]
  exact LineFormat.window_add _ _ _

lemma Kept.pass (h : Kept s) {io : PassIO} (hio : io.Served)
    (hstep : machine.next s (.pass io) = some s') : Kept s' := by
  obtain ⟨⟨file, ⟨x, tx⟩, first, readTo⟩, rfl⟩ : ∃ t, s = t := ⟨s, rfl⟩
  obtain ⟨hidle, h⟩ := h
  cases hidle
  cases hstep
  dsimp only at h ⊢
  rw [tailDaemon_served hio]
  refine ⟨rfl, ?_⟩
  dsimp only
  cases first with
  | none =>
      obtain ⟨rfl, rfl⟩ := h
      have hplan : (plan io.opens file none).apply {}
          = setCheckpoint ⟨file.inode, file.content.length⟩ {} := rfl
      refine ⟨0, hplan ▸ standing_first file {}, Nat.zero_le _, Nat.zero_le _, ?_⟩
      show _ = logFormat.closed (splitLines (List.take (0 - _) _))
      rw [Nat.zero_sub, List.take_zero, List.take_zero]
      rfl
  | some start =>
      obtain ⟨i, hstand, hread, hwindow, hclosed⟩ := h
      rw [Option.some_or]
      cases hopens : io.opens with
      | false =>
          have hnone : readEnd false file x.checkpoint = 0 := by
            rw [hstand.checkpoint]
            rfl
          rw [hstand.plan_shut, hnone, Nat.max_zero]
          exact ⟨i, hstand, hread, hwindow, hclosed⟩
      | true =>
          have htotal := hstand.offset_le
          have hend : max readTo (readEnd true file x.checkpoint) = min file.content.length
              (start + logFormat.total ((linesFrom file start).take i) + kMaxReadBytes) := by
            rw [hstand.checkpoint, readEnd, if_pos rfl, hstand.startOffset_eq]
            omega
          rw [hend]
          refine ⟨logFormat.step kMaxReadBytes (linesFrom file start) i, hstand.pass,
            Nat.min_le_left _ _, ?_, ?_⟩
          · refine (Nat.min_le_right _ _).trans ?_
            have hmono : logFormat.total ((linesFrom file start).take i) ≤ logFormat.total
                ((linesFrom file start).take
                  (logFormat.step kMaxReadBytes (linesFrom file start) i)) := by
              rw [LineFormat.take_step, LineFormat.total_append]
              exact Nat.le_add_right _ _
            omega
          · rw [splitLines_read htotal]
            exact hstand.reached.entries_take_step_eq

/-- **The run lemma.** -/
theorem kept_of_run {s₀ : Tail} {tr : List (Tail × Event)} (hinit : machine.init s₀)
    (h : machine.Run s₀ tr s) (hserved : ∀ p ∈ tr, p.2.Served) : Kept s := by
  refine h.invariant_of_forall (C := fun _ l => l.Served) ?_ ?_ hserved
  · obtain ⟨hdb, hstart, hread⟩ := hinit
    refine ⟨by rw [hdb], ?_⟩
    rw [hstart, hdb]
    exact ⟨rfl, hread⟩
  · intro t l t' hkept hl hstep
    cases l with
    | append more =>
        cases hstep
        exact hkept.append more
    | pass io => exact hkept.pass hl hstep

/-- What has been read so far is in the rows as far as no NUL cuts it short. -/
lemma Kept.ingested (h : Kept s)
    (hnul : ∀ e ∈ logFormat.closed (linesFrom s.file s.origin), NulFree e) : Ingested s := by
  obtain ⟨-, h⟩ := h
  rw [Ingested, Tail.readLines]
  rw [Tail.origin] at hnul ⊢
  cases hstart : s.start with
  | none =>
      rw [hstart] at h
      rw [h.1, h.2, Nat.zero_sub, List.take_zero]
      rfl
  | some start =>
      rw [hstart] at h hnul
      rw [Option.getD_some] at hnul ⊢
      obtain ⟨i, hstand, -, -, hclosed⟩ := h
      rw [hstand.rows, List.nil_append, ← hclosed]
      refine List.map_inj_left.mpr fun e he => ?_
      have hmem := hstand.prefix_closed.subset he
      exact (bind_eq_fullRow_iff (ts_entries e (List.dropLast_subset _ hmem))).mpr (hnul e hmem)

/-- Passes come to insert the whole file exactly when it fits, and no NUL cuts a
row short. -/
lemma Kept.caughtUp_iff (h : Kept s) : CaughtUp s ↔
    logFormat.Fits kMaxReadBytes (linesFrom s.file s.origin) ∧
      ∀ e ∈ logFormat.closed (linesFrom s.file s.origin), NulFree e := by
  obtain ⟨⟨file, ⟨x, tx⟩, first, readTo⟩, rfl⟩ : ∃ t, s = t := ⟨s, rfl⟩
  obtain ⟨-, h⟩ := h
  rw [CaughtUp, Tail.origin]
  cases first with
  | some start =>
      obtain ⟨i, hstand, -⟩ := h
      exact hstand.catchesUp_iff
  | none =>
      -- the first pass begins at the end of the file
      obtain ⟨hx, -⟩ := h
      dsimp only at hx
      have hfirst := (standing_first file {}).catchesUp_iff
      dsimp only at hfirst ⊢
      rw [Option.getD_none, ← hfirst, hx]
      have hpass : ∀ n, passes (n + 1) file {}
          = passes n file (setCheckpoint ⟨file.inode, file.content.length⟩ {}) := fun n => rfl
      constructor
      · rintro ⟨N, hN⟩
        exact ⟨N, fun n hn => by rw [← hpass]; exact hN (n + 1) (by omega)⟩
      · rintro ⟨N, hN⟩
        refine ⟨N + 1, fun n hn => ?_⟩
        obtain ⟨m, rfl⟩ : ∃ m, n = m + 1 := ⟨n - 1, by omega⟩
        rw [hpass]
        exact hN m (by omega)

/-- Each entry of the lines takes less than `k` bytes. -/
def EntriesShort (k : ℕ) (lines : List Bytes) : Prop :=
  ∀ a l b, lines = a ++ l :: b → logFormat.isHeader l = true →
    logFormat.total (l :: logFormat.body b) < k

lemma entriesShort_of_total_lt {k : ℕ} {lines : List Bytes} (h : logFormat.total lines < k) :
    EntriesShort k lines := by
  rintro a l b rfl -
  obtain ⟨rest, hrest⟩ := List.takeWhile_prefix (l := b) fun x => !logFormat.isHeader x
  rw [LineFormat.body, LineFormat.total_cons]
  rw [LineFormat.total_append, LineFormat.total_cons, ← hrest, LineFormat.total_append] at h
  omega

/-- A header line. -/
def sampleHeader : Bytes := ascii "[2026-01-01 00:00:00.000][INFO][a.cpp:1] a"

/-- A file that is empty. -/
def sampleStart : Tail := { file := ⟨1, []⟩ }

/-- What is written to it in between two passes. -/
def sampleEvents (more : Bytes) : List Event := [.pass {}, .append more, .pass {}]

lemma sample_served (more : Bytes) :
    ∀ p ∈ machine.trace sampleStart (sampleEvents more), p.2.Served := by
  intro p hp
  have hmem := Machine.label_of_mem_trace hp
  simp only [sampleEvents, List.mem_cons, List.not_mem_nil, or_false] at hmem
  rcases hmem with h | h | h <;> rw [h]
  · exact served_default
  · trivial
  · exact served_default

/-- A line of some letters. -/
def letters (n : ℕ) : Bytes := List.replicate n 120

lemma openEntry_letters (n : ℕ) : openEntry (letters n) = none := by
  have hstrip : ∀ n, stripAnsi (letters n) = letters n := by
    intro n
    induction n with
    | zero => rfl
    | succ n ih => exact congrArg (120 :: ·) ih
  have htext : lineText (letters n) = letters n := by
    rw [lineText, if_neg, hstrip]
    cases n with
    | zero => simp [letters]
    | succ n => simp [letters, List.getLast?_replicate]
  rw [openEntry, htext]
  cases n <;> rfl

/-- An entry of `n + 44` bytes, and the header behind it. -/
def stallLines (n : ℕ) : List Bytes := [sampleHeader, letters n, sampleHeader]

lemma isHeader_sample : logFormat.isHeader sampleHeader = true := by decide

lemma isHeader_letters (n : ℕ) : logFormat.isHeader (letters n) = false := by
  show (openEntry (letters n)).isSome = false
  rw [openEntry_letters]
  rfl

lemma size_sample : logFormat.size sampleHeader = 43 := by decide

lemma size_letters (n : ℕ) : logFormat.size (letters n) = n + 1 := by
  show (letters n).length + 1 = n + 1
  rw [letters, List.length_replicate]

lemma total_nil : logFormat.total [] = 0 := rfl

lemma stall_short (n : ℕ) : EntriesShort (n + 45) (stallLines n) := by
  have hbody : logFormat.body [letters n, sampleHeader] = [letters n] := by
    rw [LineFormat.body, List.takeWhile_cons_of_pos (by rw [isHeader_letters]; rfl),
      List.takeWhile_cons_of_neg (by rw [isHeader_sample]; simp)]
  rintro a l b heq hl
  rcases a with _ | ⟨x, _ | ⟨y, _ | ⟨z, a⟩⟩⟩
  · obtain ⟨rfl, rfl⟩ := List.cons.inj heq
    rw [hbody, LineFormat.total_cons, LineFormat.total_cons, size_sample, size_letters, total_nil]
    omega
  · obtain ⟨-, hrest⟩ := List.cons.inj heq
    obtain ⟨rfl, -⟩ := List.cons.inj hrest
    rw [isHeader_letters] at hl
    cases hl
  · obtain ⟨-, hrest⟩ := List.cons.inj heq
    obtain ⟨-, hrest⟩ := List.cons.inj hrest
    obtain ⟨rfl, rfl⟩ := List.cons.inj hrest
    have hnil : logFormat.body [] = [] := rfl
    rw [hnil, LineFormat.total_cons, size_sample, total_nil]
    omega
  · have hlen := congrArg List.length heq
    simp [stallLines] at hlen

/-- The header that closes the entry does not fit. -/
lemma stall_not_fits (n : ℕ) : ¬ logFormat.Fits (n + 45) (stallLines n) := by
  intro hfits
  have htwo : 2 ≤ logFormat.headers (stallLines n) := by
    rw [LineFormat.headers, stallLines, List.countP_cons_of_pos isHeader_sample,
      List.countP_cons_of_neg (by rw [isHeader_letters]; simp),
      List.countP_cons_of_pos isHeader_sample]
    omega
  have hpass := hfits [] sampleHeader _ rfl htwo
  rw [LineFormat.Passable, if_pos isHeader_sample] at hpass
  obtain ⟨c, hc, ⟨x, hx, hheader⟩, htotal⟩ := hpass
  rw [LineFormat.total_cons, size_sample] at htotal
  cases c with
  | nil => cases hx
  | cons y c =>
      obtain ⟨rfl, hrest⟩ := List.cons_prefix_cons.mp hc
      rw [LineFormat.total_cons, size_letters] at htotal
      cases c with
      | nil =>
          rw [List.mem_singleton.mp hx, isHeader_letters] at hheader
          cases hheader
      | cons z c =>
          obtain ⟨rfl, -⟩ := List.cons_prefix_cons.mp hrest
          rw [LineFormat.total_cons, size_sample] at htotal
          omega

lemma splitLines_stall (n : ℕ) : splitLines (joinLines (stallLines n)) = stallLines n := by
  have hfree : ∀ line ∈ stallLines n, (10 : UInt8) ∉ line := by
    intro line hline
    simp only [stallLines, List.mem_cons, List.not_mem_nil, or_false] at hline
    rcases hline with rfl | rfl | rfl
    · decide
    · intro hmem
      exact absurd (List.eq_of_mem_replicate hmem) (by decide)
    · decide
  have hsplit := splitLines_joinLines hfree []
  rw [List.append_nil, splitLines, List.append_nil] at hsplit
  exact hsplit

/-- Two entries, the first with a NUL in its message. -/
def nulText : Bytes := sampleHeader ++ [0, 98, 10] ++ sampleHeader ++ [10]

end Pretzel.Engined.LogIngest
