import Pretzel.Library.EntryLog
import Pretzel.Library.Transaction

/-!
`LogTailService`: engined copies the log file of a daemon into `system_log`, one
pass at a time.

* `stripAnsi`, `headerRe`, `levelFromText`: what a line of the file says.
* `logFormat`: the lines of the file as a log of entries.
* `foldLines`: the loop that folds the lines of the buffer into entries.
* `plan`, `tailDaemon`, `flushBatch`: a pass over the file of one daemon, with
  what its database calls meet. `Store` is the daemon's part of the two tables.
* `plan_eq`: a pass is a step of a reader of the log, with a window of
  `kMaxReadBytes`.
* `tailDaemon_served`, `tailDaemon_cases`: a pass no call of which fails carries
  out its plan; any other does so as well or changes nothing, unless it takes the
  file for one it has not seen.
-/

namespace Pretzel.Engined.LogTailService

open Tailing Sql

/-! ### A line -/

abbrev Bytes := List UInt8

/-- The bytes of a text in ASCII. -/
def ascii (text : String) : Bytes := text.toList.map fun c => UInt8.ofNat c.toNat

/-- Where `stripAnsi` stands: in the text, behind an escape, or in a sequence. -/
inductive AnsiState where
  | text
  | escape
  | sequence

/-- `stripAnsi`, from a given place on. -/
def stripFrom : AnsiState → Bytes → Bytes
  | _, [] => []
  | .text, b :: rest => if b = 27 then stripFrom .escape rest else b :: stripFrom .text rest
  | .escape, b :: rest => if b = 91 then stripFrom .sequence rest else stripFrom .text rest
  | .sequence, b :: rest =>
      if 64 ≤ b ∧ b ≤ 126 then stripFrom .text rest else stripFrom .sequence rest

/-- `stripAnsi`. -/
def stripAnsi (line : Bytes) : Bytes := stripFrom .text line

def isDigit (b : UInt8) : Bool := 48 ≤ b && b ≤ 57

def isAlpha (b : UInt8) : Bool := (65 ≤ b && b ≤ 90) || (97 ≤ b && b ≤ 122)

/-- `\s` of the regular expression. -/
def isSpace (b : UInt8) : Bool := b = 32 || (9 ≤ b && b ≤ 13)

/-- Bytes that satisfy the given tests in order, and the rest. -/
def matchAll : List (UInt8 → Bool) → Bytes → Option (Bytes × Bytes)
  | [], line => some ([], line)
  | _ :: _, [] => none
  | test :: tests, b :: line =>
      if test b then (matchAll tests line).map fun r => (b :: r.1, r.2) else none

/-- The date and the time of a header, up to the fraction of the second. -/
def stampTests : List (UInt8 → Bool) :=
  (ascii "dddd-dd-dd dd:dd:dd.").map fun c => if c = 100 then isDigit else fun b => b = c

/-- A literal text. -/
def literal (text : String) (line : Bytes) : Option Bytes :=
  (matchAll ((ascii text).map fun c => fun b => b = c) line).map Prod.snd

/-- `headerRe`, with its four groups. A `.` takes no end of a line, and the
optional space in front of the message is taken where it is there. -/
def headerRe (line : Bytes) : Option (Bytes × Bytes × Bytes × Bytes) := do
  let line ← literal "[" line
  let (stamp, line) ← matchAll stampTests line
  let fraction := line.takeWhile isDigit
  guard (1 ≤ fraction.length ∧ fraction.length ≤ 6)
  let line ← literal "][" (line.dropWhile isDigit)
  let level := line.takeWhile isAlpha
  guard (level ≠ [])
  let line ← literal "][" (line.dropWhile isAlpha)
  let loc := line.takeWhile fun b => b ≠ 93
  let line ← literal "]" (line.dropWhile fun b => b ≠ 93)
  let message := if line.head?.any isSpace then line.tail else line
  guard (message.all fun b => b ≠ 10 && b ≠ 13)
  return (stamp ++ fraction, level, loc, message)

/-- `levelFromText`. -/
def levelFromText (level : Bytes) : ℕ :=
  if level = ascii "TRACE" then 0
  else if level = ascii "DEBUG" then 1
  else if level = ascii "INFO" then 2
  else if level = ascii "WARN" then 3
  else if level = ascii "ERROR" then 4
  else if level = ascii "CRITICAL" then 5
  else 2

/-- `LogTailService::Entry`. -/
structure Entry where
  ts : Bytes
  level : ℕ
  loc : Bytes
  message : Bytes
deriving DecidableEq

/-- A line as it is read: without its carriage return and its colours. -/
def lineText (raw : Bytes) : Bytes :=
  stripAnsi (if raw.getLast? = some 13 then raw.dropLast else raw)

/-- The entry a line opens. -/
def openEntry (raw : Bytes) : Option Entry :=
  (headerRe (lineText raw)).map fun m => ⟨m.1, levelFromText m.2.1, m.2.2.1, m.2.2.2⟩

/-- A line attached to the entry before it. -/
def attachLine (e : Entry) (raw : Bytes) : Entry :=
  { e with message := e.message ++ 10 :: lineText raw }

/-- The file as a log of entries: a line takes its bytes and its newline. -/
def logFormat : LineFormat Bytes Entry := ⟨fun raw => raw.length + 1, openEntry, attachLine⟩

/-! ### The buffer -/

/-- `kMaxReadBytes`. -/
def kMaxReadBytes : ℕ := 4 * 1024 * 1024

/-- The lines that end in a newline, without it. -/
def splitLines : Bytes → List Bytes
  | [] => []
  | b :: rest =>
      if b = 10 then [] :: splitLines rest
      else
        match splitLines rest with
        | [] => []
        | line :: lines => (b :: line) :: lines

/-- `buf.find_last_of('\n')`. -/
def lastNewline : Bytes → Option ℕ
  | [] => none
  | b :: rest =>
      match lastNewline rest with
      | some i => some (i + 1)
      | none => if b = 10 then some 0 else none

/-- `Pending`: an entry with its place in the buffer. -/
structure Pending where
  pos : ℕ
  entry : Entry
deriving DecidableEq

/-- A continuation line goes to the last entry, if there is one. -/
def attachLast (raw : Bytes) : List Pending → List Pending
  | [] => []
  | [p] => [{ p with entry := attachLine p.entry raw }]
  | p :: q :: rest => p :: attachLast raw (q :: rest)

/-- The loop over the lines of the buffer, from the place `start` on. -/
def foldLines (start : ℕ) (pending : List Pending) : List Bytes → List Pending
  | [] => pending
  | raw :: rest =>
      foldLines (start + raw.length + 1)
        (match openEntry raw with
          | some entry => pending ++ [⟨start, entry⟩]
          | none => attachLast raw pending) rest

/-! ### A pass -/

/-- A row of `system_log`, of one daemon. -/
structure Row where
  ts : Bytes
  level : ℕ
  loc : Option Bytes
  message : Bytes
deriving DecidableEq

/-- A row of `system_log_offset`. -/
structure Checkpoint where
  inode : ℕ
  offset : ℕ
deriving DecidableEq

/-- One daemon's part of the two tables. -/
structure Store where
  rows : List Row := []
  checkpoint : Option Checkpoint := none
deriving DecidableEq

/-- The file at the path. -/
structure LogFile where
  inode : ℕ
  content : Bytes
deriving DecidableEq

/-- The file with more written behind. -/
def LogFile.grow (file : LogFile) (more : Bytes) : LogFile :=
  { file with content := file.content ++ more }

/-- What the calls of a pass meet: the file opens or not, and each call of the
database is carried out or not. -/
structure PassIO where
  opens : Bool := true
  select : Outcome := .done
  statement : Outcome := .done
  begins : Outcome := .done
  insert : ℕ → Outcome := fun _ => .done
  checkpoint : Outcome := .done
  commit : Outcome := .done
  rollback : Outcome := .done

/-- A parameter of a statement, which ends at its first NUL. -/
def cString (text : Bytes) : Bytes := text.takeWhile fun b => b ≠ 0

/-- `NULLIF(text, '')`. -/
def nullIfEmpty (text : Bytes) : Option Bytes := if text = [] then none else some text

/-- The row an `INSERT` makes of an entry. -/
def Entry.bind (e : Entry) : Row :=
  ⟨cString e.ts, e.level, nullIfEmpty (cString e.loc), cString e.message⟩

/-- `kInsertBatch`. -/
def kInsertBatch : ℕ := 200

/-- The batches of the loop over the entries. -/
def batches (entries : List Entry) : List (List Entry) :=
  (List.range ((entries.length + (kInsertBatch - 1)) / kInsertBatch)).map fun n =>
    (entries.drop (n * kInsertBatch)).take kInsertBatch

/-- The `INSERT` of a batch. -/
def insertBatch (batch : List Entry) (x : Store) : Store :=
  { x with rows := x.rows ++ batch.map Entry.bind }

/-- The upsert of the checkpoint. -/
def setCheckpoint (c : Checkpoint) (x : Store) : Store := { x with checkpoint := some c }

/-- The statements of `flushBatch` between its `BEGIN` and its `COMMIT`. -/
def flushStmts (io : PassIO) (entries : List Entry) (c : Checkpoint) :
    List (Outcome × (Store → Store)) :=
  (batches entries).zipIdx.map (fun p => (io.insert p.2, insertBatch p.1)) ++
    [(io.checkpoint, setCheckpoint c)]

/-- `flushBatch`. -/
def flushBatch (io : PassIO) (entries : List Entry) (c : Checkpoint) (db : Session Store) :
    Session Store × Bool :=
  db.transaction io.begins io.commit io.rollback (flushStmts io entries c)

/-- What a pass comes to do. -/
inductive Plan where
  | stop
  | firstSight (c : Checkpoint)
  | moveInode (inode : ℕ)
  | flush (entries : List Entry) (c : Checkpoint)
deriving DecidableEq

/-- The end of `tailDaemon`, from the entries of the buffer on. -/
def closePending (inode offset size : ℕ) (pending : List Pending) : Plan :=
  match pending.getLast? with
  | none => .flush [] ⟨inode, offset + size⟩
  | some last =>
      if 2 ≤ pending.length then
        .flush (pending.dropLast.map Pending.entry) ⟨inode, offset + last.pos⟩
      else if offset + last.pos = offset then .stop
      else .flush [] ⟨inode, offset + last.pos⟩

/-- The whole lines of the buffer read at an offset. -/
def readBuffer (content : Bytes) (offset : ℕ) : Bytes :=
  let want := min (content.length - offset) kMaxReadBytes
  let buf := (content.drop offset).take want
  match lastNewline buf with
  | none => []
  | some lastNl => buf.take (lastNl + 1)

/-- Where a pass reads from: a fresh inode, or a file that has shrunk, is read from
its head. -/
def startOffset (file : LogFile) (ck : Checkpoint) : ℕ :=
  if file.inode ≠ ck.inode ∨ file.content.length < ck.offset then 0 else ck.offset

/-- `tailDaemon` between its query and its statements. -/
def plan (opens : Bool) (file : LogFile) : Option Checkpoint → Plan
  | none => .firstSight ⟨file.inode, file.content.length⟩
  | some ck =>
      let offset := startOffset file ck
      if file.content.length ≤ offset then
        if file.inode ≠ ck.inode then .moveInode file.inode else .stop
      else if opens = false then .stop
      else
        let buf := readBuffer file.content offset
        if buf = [] then .stop
        else closePending file.inode offset buf.length (foldLines 0 [] (splitLines buf))

/-- The update of the inode alone. -/
def setInode (inode : ℕ) (x : Store) : Store :=
  { x with checkpoint := x.checkpoint.map fun c => { c with inode } }

/-- `tailDaemon`. -/
def tailDaemon (io : PassIO) (file : LogFile) (db : Session Store) : Session Store :=
  let (db, seen) := db.query io.select
  match plan io.opens file (seen.bind Store.checkpoint) with
  | .stop => db
  | .firstSight c => (db.exec io.statement (setCheckpoint c)).1
  | .moveInode inode => (db.exec io.statement (setInode inode)).1
  | .flush entries c => (flushBatch io entries c db).1

/-! ### The lines of a text -/

/-- The bytes of some lines. -/
def joinLines (lines : List Bytes) : Bytes := lines.flatMap fun line => line ++ [10]

lemma length_joinLines (lines : List Bytes) :
    (joinLines lines).length = logFormat.total lines := by
  induction lines with
  | nil => rfl
  | cons line lines ih =>
      rw [joinLines, List.flatMap_cons, List.length_append, List.length_append,
        LineFormat.total_cons, ← ih]
      rfl

/-- A text is its whole lines and what follows the last newline. -/
lemma exists_eq_joinLines (text : Bytes) : (∀ line ∈ splitLines text, (10 : UInt8) ∉ line) ∧
    ∃ rest, text = joinLines (splitLines text) ++ rest ∧ (10 : UInt8) ∉ rest := by
  induction text with
  | nil => exact ⟨by simp [splitLines], [], rfl, by simp⟩
  | cons b text ih =>
      obtain ⟨hlines, rest, heq, hrest⟩ := ih
      rw [splitLines]
      by_cases hb : b = 10
      · rw [if_pos hb]
        refine ⟨?_, rest, ?_, hrest⟩
        · intro line hline
          rcases List.mem_cons.mp hline with rfl | hline
          · simp
          · exact hlines line hline
        · rw [joinLines, List.flatMap_cons, hb]
          exact congrArg (10 :: ·) heq
      · rw [if_neg hb]
        cases hsplit : splitLines text with
        | nil =>
            rw [hsplit] at heq
            refine ⟨by simp, b :: text, rfl, ?_⟩
            have htext : text = rest := heq
            rw [htext, List.mem_cons, not_or]
            exact ⟨Ne.symm hb, hrest⟩
        | cons line lines =>
            rw [hsplit] at heq hlines
            refine ⟨?_, rest, congrArg (b :: ·) heq, hrest⟩
            intro x hx
            rcases List.mem_cons.mp hx with rfl | hx
            · rw [List.mem_cons, not_or]
              exact ⟨Ne.symm hb, hlines line List.mem_cons_self⟩
            · exact hlines x (List.mem_cons_of_mem _ hx)

lemma splitLines_of_not_mem {text : Bytes} (h : (10 : UInt8) ∉ text) : splitLines text = [] := by
  induction text with
  | nil => rfl
  | cons b text ih =>
      rw [List.mem_cons, not_or] at h
      rw [splitLines, if_neg (Ne.symm h.1), ih h.2]

/-- The lines of a text are read back. -/
lemma splitLines_joinLines {lines : List Bytes} (h : ∀ line ∈ lines, (10 : UInt8) ∉ line)
    (text : Bytes) : splitLines (joinLines lines ++ text) = lines ++ splitLines text := by
  induction lines with
  | nil => rfl
  | cons line lines ih =>
      have hrest := ih fun x hx => h x (List.mem_cons_of_mem _ hx)
      have hline := h line List.mem_cons_self
      rw [joinLines, List.flatMap_cons, List.append_assoc, List.append_assoc, List.singleton_append]
      change splitLines (line ++ 10 :: (joinLines lines ++ text)) = _
      clear h ih
      induction line with
      | nil =>
          rw [List.nil_append, splitLines, if_pos rfl, hrest]
          rfl
      | cons b line ihb =>
          rw [List.mem_cons, not_or] at hline
          rw [List.cons_append, splitLines, if_neg (Ne.symm hline.1), ihb hline.2]
          rfl

/-- **A text cut off** has the lines that fit. -/
lemma splitLines_take (text : Bytes) (k : ℕ) :
    splitLines (text.take k) = logFormat.window k (splitLines text) := by
  induction text generalizing k with
  | nil =>
      rw [List.take_nil]
      rfl
  | cons b text ih =>
      cases k with
      | zero =>
          rw [List.take_zero]
          cases splitLines (b :: text) <;> rfl
      | succ k =>
          rw [List.take_succ_cons, splitLines, splitLines, ih]
          by_cases hb : b = 10
          · rw [if_pos hb, if_pos hb, LineFormat.window, if_pos (by show 0 + 1 ≤ k + 1; omega)]
            rfl
          · rw [if_neg hb, if_neg hb]
            cases splitLines text with
            | nil => rfl
            | cons line lines =>
                have hsize : logFormat.size (b :: line) = logFormat.size line + 1 := rfl
                dsimp only
                rw [LineFormat.window, LineFormat.window, hsize]
                by_cases hle : logFormat.size line ≤ k
                · rw [if_pos hle, if_pos (by omega), Nat.add_sub_add_right]
                · rw [if_neg hle, if_neg (by omega)]

/-- A text from one of its lines on has the lines from there on. -/
lemma splitLines_drop (text : Bytes) (i : ℕ) :
    splitLines (text.drop (logFormat.total ((splitLines text).take i))) = (splitLines text).drop i := by
  obtain ⟨hlines, rest, heq, hrest⟩ := exists_eq_joinLines text
  generalize splitLines text = lines at hlines heq
  rw [heq, ← List.take_append_drop i lines, joinLines, List.flatMap_append, List.append_assoc,
    List.take_append_drop, ← length_joinLines]
  change splitLines (List.drop _ (joinLines (lines.take i) ++ (joinLines (lines.drop i) ++ rest))) = _
  rw [List.drop_left, splitLines_joinLines fun x hx => hlines x (List.mem_of_mem_drop hx),
    splitLines_of_not_mem hrest, List.append_nil]

/-- What is written behind a text leaves its whole lines. -/
lemma splitLines_append (text more : Bytes) :
    ∃ lines, splitLines (text ++ more) = splitLines text ++ lines := by
  obtain ⟨hlines, rest, heq, -⟩ := exists_eq_joinLines text
  refine ⟨splitLines (rest ++ more), ?_⟩
  conv_lhs => rw [heq, List.append_assoc]
  exact splitLines_joinLines hlines _

lemma total_splitLines_le (text : Bytes) : logFormat.total (splitLines text) ≤ text.length := by
  obtain ⟨-, rest, heq, -⟩ := exists_eq_joinLines text
  conv_rhs => rw [heq, List.length_append, length_joinLines]
  exact Nat.le_add_right _ _

/-- The buffer up to its last newline. -/
lemma take_lastNewline (buf : Bytes) : (match lastNewline buf with
    | none => []
    | some lastNl => buf.take (lastNl + 1)) = joinLines (splitLines buf) := by
  induction buf with
  | nil => rfl
  | cons b buf ih =>
      rw [lastNewline, splitLines]
      cases hlast : lastNewline buf with
      | some i =>
          rw [hlast] at ih
          dsimp only at ih ⊢
          rw [List.take_succ_cons, ih]
          by_cases hb : b = 10
          · rw [if_pos hb, hb]
            rfl
          · rw [if_neg hb]
            cases hsplit : splitLines buf with
            | cons line lines => rfl
            | nil =>
                rw [hsplit] at ih
                cases buf with
                | nil => cases hlast
                | cons c buf =>
                    rw [List.take_succ_cons] at ih
                    cases ih
      | none =>
          rw [hlast] at ih
          have hnil : splitLines buf = [] := by
            cases hsplit : splitLines buf with
            | nil => rfl
            | cons line lines =>
                rw [hsplit, joinLines, List.flatMap_cons] at ih
                have hlen := congrArg List.length ih
                simp at hlen
          by_cases hb : b = 10
          · rw [if_pos hb, if_pos hb, hnil, hb]
            rfl
          · rw [if_neg hb, if_neg hb, hnil]
            rfl

/-- **The buffer holds the whole lines of its window.** -/
lemma readBuffer_eq (content : Bytes) (offset : ℕ) : readBuffer content offset
    = joinLines (logFormat.window kMaxReadBytes (splitLines (content.drop offset))) := by
  have htake : (content.drop offset).take (min (content.length - offset) kMaxReadBytes)
      = (content.drop offset).take kMaxReadBytes := by
    rw [← List.length_drop, List.take_eq_take_iff]
    omega
  rw [readBuffer, take_lastNewline, htake, splitLines_take]

/-! ### The entries of the buffer -/

lemma map_attachLast (raw : Bytes) (pending : List Pending) :
    (attachLast raw pending).map Pending.entry
      = match pending.getLast? with
        | none => []
        | some last => pending.dropLast.map Pending.entry ++ [attachLine last.entry raw] := by
  induction pending with
  | nil => rfl
  | cons p rest ih =>
      cases rest with
      | nil => rfl
      | cons q rest =>
          rw [attachLast, List.map_cons, ih, List.getLast?_cons_cons, List.dropLast_cons_cons]
          cases hlast : (q :: rest).getLast? with
          | none => simp at hlast
          | some last => rfl

lemma pos_attachLast (raw : Bytes) (pending : List Pending) :
    (attachLast raw pending).getLast?.map Pending.pos = pending.getLast?.map Pending.pos := by
  induction pending with
  | nil => rfl
  | cons p rest ih =>
      cases rest with
      | nil => rfl
      | cons q rest =>
          rw [attachLast, List.getLast?_cons_cons]
          cases hrest : attachLast raw (q :: rest) with
          | nil => cases rest <;> cases hrest
          | cons q' rest' => rw [List.getLast?_cons_cons, ← hrest, ih]

/-- Entries with some lines attached to the last. -/
def attachBody (entries : List Entry) (lines : List Bytes) : List Entry :=
  match entries.getLast? with
  | none => []
  | some last => entries.dropLast ++ [lines.foldl attachLine last]

lemma attachBody_concat (entries : List Entry) (e : Entry) (lines : List Bytes) :
    attachBody (entries ++ [e]) lines = entries ++ [lines.foldl attachLine e] := by
  rw [attachBody, List.getLast?_concat, List.dropLast_concat]

/-- **The loop finds the entries of the lines**; the lines in front of the first
header go to the entry that is open. -/
lemma map_foldLines (start : ℕ) (pending : List Pending) (lines : List Bytes) :
    (foldLines start pending lines).map Pending.entry
      = attachBody (pending.map Pending.entry) (logFormat.body lines) ++ logFormat.entries lines := by
  induction lines generalizing start pending with
  | nil =>
      rw [foldLines, LineFormat.entries, List.append_nil, attachBody, List.getLast?_map]
      cases hlast : pending.getLast? with
      | none => rw [List.getLast?_eq_none_iff.mp hlast]; rfl
      | some last =>
          obtain ⟨init, rfl⟩ := List.getLast?_eq_some_iff.mp hlast
          simp [LineFormat.body]
  | cons raw rest ih =>
      rw [foldLines, ih]
      cases hopen : openEntry raw with
      | some e =>
          have hheader : logFormat.header raw = some e := hopen
          have hbody : logFormat.body (raw :: rest) = [] := by
            rw [LineFormat.body, List.takeWhile_cons_of_neg]
            rw [LineFormat.isHeader, hheader]
            simp
          rw [LineFormat.entries_cons_of_header hheader, hbody, List.map_append, List.map_singleton,
            attachBody_concat, List.append_assoc, List.singleton_append]
          congr 1
          rw [attachBody]
          cases hlast : (pending.map Pending.entry).getLast? with
          | none => exact List.getLast?_eq_none_iff.mp hlast
          | some last =>
              obtain ⟨init, hinit⟩ := List.getLast?_eq_some_iff.mp hlast
              rw [hinit, List.dropLast_concat]
              rfl
      | none =>
          have hheader : logFormat.isHeader raw = false := by
            rw [LineFormat.isHeader]
            show (openEntry raw).isSome = false
            rw [hopen]
            rfl
          have hbody : logFormat.body (raw :: rest) = raw :: logFormat.body rest := by
            rw [LineFormat.body, List.takeWhile_cons_of_pos (by rw [hheader]; rfl)]
            rfl
          rw [LineFormat.entries_cons_of_not_header hheader, hbody]
          congr 1
          dsimp only
          rw [map_attachLast, attachBody, attachBody, List.getLast?_map]
          cases hlast : pending.getLast? with
          | none => rfl
          | some last =>
              obtain ⟨init, rfl⟩ := List.getLast?_eq_some_iff.mp hlast
              simp

/-- The place of the last entry is that of the last header. -/
lemma pos_foldLines (start : ℕ) (pending : List Pending) (lines : List Bytes) :
    (foldLines start pending lines).getLast?.map Pending.pos
      = match logFormat.lastHeader lines with
        | none => pending.getLast?.map Pending.pos
        | some i => some (start + logFormat.total (lines.take i)) := by
  induction lines generalizing start pending with
  | nil => rfl
  | cons raw rest ih =>
      rw [foldLines, ih, LineFormat.lastHeader]
      cases hlast : logFormat.lastHeader rest with
      | some i =>
          dsimp only
          rw [List.take_succ_cons, LineFormat.total_cons, ← Nat.add_assoc]
          rfl
      | none =>
          have hiff : logFormat.isHeader raw = (openEntry raw).isSome := rfl
          dsimp only
          rw [hiff]
          cases hopen : openEntry raw with
          | some e => simp [LineFormat.total]
          | none => exact pos_attachLast raw pending

/-! ### A pass as a step of a reader -/

lemma total_eq_zero {lines : List Bytes} (h : logFormat.total lines = 0) : lines = [] := by
  cases lines with
  | nil => rfl
  | cons line lines =>
      have hsize : logFormat.size line = line.length + 1 := rfl
      rw [LineFormat.total_cons, hsize] at h
      omega

/-- What a pass does with the lines `w` of its buffer. -/
lemma closePending_eq {inode offset size : ℕ} {w : List Bytes} (hsize : size = logFormat.total w)
    (hne : w ≠ []) : closePending inode offset size (foldLines 0 [] w)
      = if logFormat.advance w = 0 then .stop
        else .flush (logFormat.closed w)
          ⟨inode, offset + logFormat.total (w.take (logFormat.advance w))⟩ := by
  have hentries : (foldLines 0 [] w).map Pending.entry = logFormat.entries w :=
    map_foldLines 0 [] w
  have hpos := pos_foldLines 0 [] w
  have hlength : (foldLines 0 [] w).length = (logFormat.entries w).length := by
    rw [← hentries, List.length_map]
  rw [closePending]
  rcases LineFormat.advance_cases (F := logFormat) w with
    ⟨a, l, b, hw, hadv, hheader, hb⟩ | ⟨hadv, hnone⟩
  · have hlast : logFormat.lastHeader w = some a.length := by
      rw [LineFormat.advance] at hadv
      cases hlast : logFormat.lastHeader w with
      | some i =>
          rw [hlast] at hadv
          exact congrArg some hadv
      | none =>
          have hl := LineFormat.lastHeader_eq_none hlast l (by rw [hw]; simp)
          rw [hl] at hheader
          cases hheader
    have htake : w.take a.length = a := by rw [hw, List.take_left']; rfl
    rw [hlast] at hpos
    dsimp only at hpos
    obtain ⟨last, hgetLast, hlastPos⟩ := Option.map_eq_some_iff.mp hpos
    rw [Nat.zero_add, htake] at hlastPos
    have hheaders : (logFormat.entries w).length = logFormat.headers a + 1 := by
      rw [LineFormat.length_entries, hw, LineFormat.headers_append, LineFormat.headers,
        LineFormat.headers, List.countP_cons_of_pos hheader]
      congr 1
      exact congrArg (· + 1) (LineFormat.headers_eq_zero_iff.mpr hb)
    rw [hgetLast, hadv, htake, hlength, hheaders]
    dsimp only
    rw [hlastPos, List.map_dropLast, hentries]
    by_cases hmany : 2 ≤ logFormat.headers a + 1
    · have ha : a.length ≠ 0 := by
        intro hnil
        rw [List.length_eq_zero_iff.mp hnil] at hmany
        exact absurd hmany (by decide)
      rw [if_pos hmany, if_neg ha]
      rfl
    · rw [if_neg hmany]
      have hclosed : logFormat.closed w = [] := by
        rw [← List.length_eq_zero_iff, LineFormat.closed, List.length_dropLast, hheaders]
        omega
      rw [hclosed]
      by_cases ha : a = []
      · rw [if_pos (by rw [ha]; rfl), if_pos (by rw [ha]; rfl)]
      · have htotal : logFormat.total a ≠ 0 := fun h => ha (total_eq_zero h)
        rw [if_neg (by omega), if_neg (fun h => ha (List.length_eq_zero_iff.mp h))]
  · have hnil := LineFormat.entries_eq_nil hnone
    rw [hnil, List.map_eq_nil_iff] at hentries
    rw [hentries, hadv, LineFormat.closed, hnil, List.take_length, hsize,
      if_neg fun h => hne (List.length_eq_zero_iff.mp h)]
    rfl

/-- **A pass is a step of a reader**: at line `i` of the log from `start` on, it
writes the closed entries of its window and moves to the last header of it, and
stops where it cannot move. -/
theorem plan_eq {file : LogFile} {start i : ℕ} {lines : List Bytes}
    (hlines : lines = splitLines (file.content.drop start)) (hstart : start ≤ file.content.length) :
    plan true file (some ⟨file.inode, start + logFormat.total (lines.take i)⟩)
      = if logFormat.advance (logFormat.window kMaxReadBytes (lines.drop i)) = 0 then .stop
        else .flush (logFormat.closed (logFormat.window kMaxReadBytes (lines.drop i)))
          ⟨file.inode, start + logFormat.total (lines.take (logFormat.step kMaxReadBytes lines i))⟩ := by
  have htotal : start + logFormat.total (lines.take i) ≤ file.content.length := by
    have hle := total_splitLines_le (file.content.drop start)
    rw [← hlines, ← List.take_append_drop i lines, LineFormat.total_append, List.length_drop] at hle
    omega
  have hdrop : splitLines (file.content.drop (start + logFormat.total (lines.take i)))
      = lines.drop i := by
    rw [← List.drop_drop, hlines, splitLines_drop]
  have hstep : logFormat.total (lines.take (logFormat.step kMaxReadBytes lines i))
      = logFormat.total (lines.take i) + logFormat.total ((logFormat.window kMaxReadBytes
          (lines.drop i)).take (logFormat.advance (logFormat.window kMaxReadBytes (lines.drop i)))) := by
    rw [LineFormat.take_step, LineFormat.total_append]
  have hbuf := readBuffer_eq file.content (start + logFormat.total (lines.take i))
  rw [hdrop] at hbuf
  rw [hstep, ← Nat.add_assoc]
  generalize start + logFormat.total (lines.take i) = offset at htotal hdrop hbuf ⊢
  have hsplit : splitLines (readBuffer file.content offset)
      = logFormat.window kMaxReadBytes (lines.drop i) := by
    have hfree : ∀ line ∈ logFormat.window kMaxReadBytes (lines.drop i), (10 : UInt8) ∉ line := by
      intro line hline
      refine (exists_eq_joinLines (file.content.drop offset)).1 line ?_
      rw [hdrop]
      exact (LineFormat.window_isPrefix _ _).subset hline
    have hjoin := splitLines_joinLines hfree []
    rw [List.append_nil, splitLines, List.append_nil] at hjoin
    rw [hbuf, hjoin]
  have hlen := length_joinLines (logFormat.window kMaxReadBytes (lines.drop i))
  rw [← hbuf] at hlen
  have hempty : readBuffer file.content offset = []
      ↔ logFormat.window kMaxReadBytes (lines.drop i) = [] := by
    constructor
    · intro hnil
      rw [← hsplit, hnil]
      rfl
    · intro hnil
      rw [hbuf, hnil]
      rfl
  have hkeep : ¬(file.inode ≠ file.inode ∨ file.content.length < offset) := by
    rw [not_or]
    exact ⟨fun h => h rfl, by omega⟩
  rw [plan]
  dsimp only
  rw [startOffset, if_neg hkeep]
  by_cases hend : file.content.length ≤ offset
  · have hnil : lines.drop i = [] := by rw [← hdrop, List.drop_of_length_le hend]; rfl
    rw [if_pos hend, if_neg (fun h => h rfl), hnil]
    rfl
  · rw [if_neg hend, if_neg (by simp)]
    by_cases hw : logFormat.window kMaxReadBytes (lines.drop i) = []
    · rw [if_pos (hempty.mpr hw), hw]
      rfl
    · rw [if_neg (fun h => hw (hempty.mp h)), hsplit]
      exact closePending_eq hlen hw

/-! ### A pass as a whole -/

/-- What a plan does to the tables when it is carried out. -/
def Plan.apply : Plan → Store → Store
  | .stop, x => x
  | .firstSight c, x => setCheckpoint c x
  | .moveInode inode, x => setInode inode x
  | .flush entries c, x => ⟨x.rows ++ entries.map Entry.bind, some c⟩

/-- No call of the database fails. -/
structure PassIO.Served (io : PassIO) : Prop where
  select : io.select = .done
  statement : io.statement = .done
  begins : io.begins = .done
  insert : ∀ n, io.insert n = .done
  checkpoint : io.checkpoint = .done
  commit : io.commit = .done

lemma served_default : PassIO.Served {} := ⟨rfl, rfl, rfl, fun _ => rfl, rfl, rfl⟩

lemma flatten_pieces (k : ℕ) (es : List Entry) (m : ℕ) :
    ((List.range m).map fun n => (es.drop (n * k)).take k).flatten = es.take (m * k) := by
  induction m with
  | zero => rw [Nat.zero_mul, List.take_zero]; rfl
  | succ m ih =>
      rw [List.range_succ, List.map_append, List.flatten_append, ih, List.map_singleton,
        List.flatten_singleton, Nat.succ_mul, List.take_add]

/-- The batches are the entries. -/
lemma flatten_batches (es : List Entry) : (batches es).flatten = es := by
  rw [batches, flatten_pieces]
  refine List.take_of_length_le ?_
  show es.length ≤ (es.length + (200 - 1)) / 200 * 200
  omega

/-- **What the statements of a flush do together.** -/
lemma effectOf_flush (io : PassIO) (es : List Entry) (c : Checkpoint) (x : Store) :
    Session.effectOf (flushStmts io es c) x = (Plan.flush es c).apply x := by
  have hinsert : ∀ (bs : List (List Entry)) (n : ℕ) (x : Store),
      Session.effectOf ((bs.zipIdx n).map fun p => (io.insert p.2, insertBatch p.1)) x
        = { x with rows := x.rows ++ bs.flatten.map Entry.bind } := by
    intro bs
    induction bs with
    | nil =>
        intro n x
        rw [List.flatten_nil, List.map_nil, List.append_nil]
        rfl
    | cons b bs ih =>
        intro n x
        rw [List.zipIdx_cons, List.map_cons, Session.effectOf, List.foldl_cons]
        refine (ih (n + 1) _).trans ?_
        change (⟨x.rows ++ b.map Entry.bind ++ bs.flatten.map Entry.bind, x.checkpoint⟩ : Store) = _
        rw [List.flatten_cons, List.map_append, List.append_assoc]
  rw [Session.effectOf, flushStmts, List.foldl_append]
  have hall := hinsert (batches es) 0 x
  rw [Session.effectOf] at hall
  rw [hall, flatten_batches]
  rfl

/-- **A pass no call of which fails** carries out its plan. -/
theorem tailDaemon_served {io : PassIO} (h : io.Served) (file : LogFile) (x : Store) :
    tailDaemon io file ⟨x, .idle⟩ = ⟨(plan io.opens file x.checkpoint).apply x, .idle⟩ := by
  rw [tailDaemon, h.select]
  change (match plan io.opens file x.checkpoint with
    | .stop => (⟨x, .idle⟩ : Session Store)
    | .firstSight c => _
    | .moveInode inode => _
    | .flush entries c => _) = _
  cases plan io.opens file x.checkpoint with
  | stop => rfl
  | firstSight c =>
      dsimp only
      rw [h.statement]
      rfl
  | moveInode inode =>
      dsimp only
      rw [h.statement]
      rfl
  | flush entries c =>
      dsimp only
      rw [flushBatch, h.begins, h.commit, Session.transaction_done, effectOf_flush]
      intro p hp
      rcases List.mem_append.mp hp with hp | hp
      · obtain ⟨q, -, rfl⟩ := List.mem_map.mp hp
        exact h.insert q.2
      · rw [List.mem_singleton.mp hp]
        exact h.checkpoint

/-- A pass in which the query for the checkpoint yields nothing, and the next
statement is carried out. -/
def Misread (io : PassIO) (db : Session Store) : Prop :=
  (db.query io.select).2 = none ∧ ((db.query io.select).1.exec io.statement id).2 = true

lemma exec_snd (o : Outcome) (f g : Store → Store) (db : Session Store) :
    (db.exec o f).2 = (db.exec o g).2 := by
  obtain ⟨stored, tx⟩ := db
  cases o <;> cases tx <;> rfl

/-- **A pass whichever of its calls fail**: it does nothing, or carries out its
plan, or takes the file for one it has not seen. -/
theorem tailDaemon_cases {db : Session Store} (hq : db.Quiet) (io : PassIO) (file : LogFile) :
    (tailDaemon io file db).Quiet ∧
      ((tailDaemon io file db).stored = db.stored ∨
        (tailDaemon io file db).stored
          = (plan io.opens file db.stored.checkpoint).apply db.stored ∨
        (Misread io db ∧ (tailDaemon io file db).stored
          = setCheckpoint ⟨file.inode, file.content.length⟩ db.stored)) := by
  have hexec : ∀ {db' : Session Store} (f : Store → Store), db'.Quiet →
      ((db'.exec io.statement f).2 = true ∧ (db'.exec io.statement f).1.Quiet ∧
          (db'.exec io.statement f).1.stored = f db'.stored) ∨
        ((db'.exec io.statement f).1.Quiet ∧ (db'.exec io.statement f).1.stored = db'.stored) := by
    intro db' f hq'
    rcases Session.exec_cases hq' io.statement f with ⟨htrue, hidle, heq⟩ | ⟨-, heq⟩
    · rw [heq]
      exact .inl ⟨htrue, .inl hidle, rfl⟩
    · rw [heq]
      exact .inr ⟨Session.quiet_fail _ _, Session.stored_fail _ _⟩
  rcases Session.query_cases hq io.select with ⟨hidle, hquery⟩ | hquery
  · rw [tailDaemon, hquery]
    dsimp only [Option.bind_some]
    cases plan io.opens file db.stored.checkpoint with
    | stop => exact ⟨hq, .inl rfl⟩
    | firstSight c =>
        rcases hexec (setCheckpoint c) hq with ⟨-, hq', heq⟩ | ⟨hq', heq⟩
        · exact ⟨hq', .inr (.inl heq)⟩
        · exact ⟨hq', .inl heq⟩
    | moveInode inode =>
        rcases hexec (setInode inode) hq with ⟨-, hq', heq⟩ | ⟨hq', heq⟩
        · exact ⟨hq', .inr (.inl heq)⟩
        · exact ⟨hq', .inl heq⟩
    | flush entries c =>
        have hcases := Session.transaction_cases hq io.begins io.commit io.rollback
          (flushStmts io entries c)
        rw [effectOf_flush] at hcases
        dsimp only
        rw [flushBatch]
        rcases hcases with hall | ⟨-, hsame, hq'⟩
        · rw [hall]
          exact ⟨.inl rfl, .inr (.inl rfl)⟩
        · exact ⟨hq', .inl hsame⟩
  · have hq' : (db.fail io.select).Quiet := Session.quiet_fail _ _
    have hstored : (db.fail io.select).stored = db.stored := Session.stored_fail _ _
    rw [tailDaemon, hquery]
    change ((db.fail io.select).exec io.statement _).1.Quiet ∧ _
    rcases hexec (setCheckpoint ⟨file.inode, file.content.length⟩) hq' with
      ⟨htrue, hq'', heq⟩ | ⟨hq'', heq⟩
    · refine ⟨hq'', .inr (.inr ⟨⟨by rw [hquery], ?_⟩, ?_⟩)⟩
      · rw [hquery, exec_snd _ _ (setCheckpoint ⟨file.inode, file.content.length⟩)]
        exact htrue
      · rw [← hstored]
        exact heq
    · exact ⟨hq'', .inl (heq.trans hstored)⟩

end Pretzel.Engined.LogTailService
