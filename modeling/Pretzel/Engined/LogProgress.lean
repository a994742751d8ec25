import Pretzel.Engined.LogTailService
import Pretzel.Library.Texts

/-!
Whether the passes over a file at rest come to its end.

* `servedBut`, `pass`: a pass that is served, but for the rows the database refuses.
* `pass_plan`: it carries out its plan, or changes nothing where that has a refused row.
* `Stands`, `Stands.pass`: the place of the passes, which is that of a reader whose
  entries may be refused.
* `Progresses`: the passes come past the first header that has another behind it, and
  past every such header there is.
* `progresses_iff`: **they do exactly where no line or entry on the way is too long for
  the window, and no closed entry is refused.**
* `Stuck`: a line, an entry and a byte that no pass gets past.
-/

namespace Pretzel.Engined.LogProgress

open Tailing Sql Texts LogTailService

/-! ### A pass over a database that refuses rows -/

/-- What a pass meets: every call is carried out, but for an `INSERT` with a row that is
not accepted. -/
def servedBut (accepts : Row → Bool) : Plan → PassIO
  | .flush entries _ =>
      { insert := fun n =>
          if ((batches entries).getD n []).all fun e => accepts e.bind then .done else .fails }
  | _ => {}

/-- A pass of `tailDaemon`. -/
def pass (accepts : Row → Bool) (file : LogFile) (db : Session Store) : Session Store :=
  tailDaemon (servedBut accepts (plan true file db.stored.checkpoint)) file db

/-- Every row of a plan is accepted. -/
def planAccepted (accepts : Row → Bool) : Plan → Bool
  | .flush entries _ => entries.all fun e => accepts e.bind
  | _ => true

variable {accepts : Row → Bool} {file : LogFile} {x : Store}

lemma all_batches (es : List Entry) :
    (∀ b ∈ batches es, (b.all fun e => accepts e.bind) = true) ↔
      (es.all fun e => accepts e.bind) = true := by
  conv_rhs => rw [← flatten_batches es]
  simp only [List.all_eq_true, List.mem_flatten]
  exact ⟨fun h e ⟨b, hb, he⟩ => h b hb e he, fun h b hb e he => h e ⟨b, hb, he⟩⟩

lemma served_of_accepted {p : Plan} (h : planAccepted accepts p = true) :
    (servedBut accepts p).Served := by
  cases p with
  | flush es c =>
      refine ⟨rfl, rfl, rfl, fun n => if_pos ?_, rfl, rfl⟩
      rw [List.getD_eq_getElem?_getD]
      cases hn : (batches es)[n]? with
      | none => rfl
      | some b => exact (all_batches es).mpr h b (List.mem_of_getElem? hn)
  | _ => exact served_default

/-- **A pass carries out its plan**, or changes nothing where a row is refused. -/
lemma pass_plan (accepts : Row → Bool) (file : LogFile) (x : Store) :
    pass accepts file ⟨x, .idle⟩ =
      if planAccepted accepts (plan true file x.checkpoint) then
        ⟨(plan true file x.checkpoint).apply x, .idle⟩
      else ⟨x, .idle⟩ := by
  have hopens : (servedBut accepts (plan true file x.checkpoint)).opens = true := by
    rw [servedBut.eq_def]
    split <;> rfl
  split
  · next h =>
      rw [pass, tailDaemon_served (served_of_accepted h), hopens]
  · next h =>
      cases hplan : plan true file x.checkpoint with
      | flush es c =>
          rw [hplan] at h
          have hrefused : ¬∀ b ∈ batches es, (b.all fun e => accepts e.bind) = true :=
            mt (all_batches es).mp h
          push Not at hrefused
          obtain ⟨b, hb, hno⟩ := hrefused
          obtain ⟨n, hn⟩ := List.getElem?_of_mem hb
          have hstmt : ∃ p ∈ flushStmts (servedBut accepts (.flush es c)) es c, p.1 ≠ .done := by
            refine ⟨((servedBut accepts (.flush es c)).insert n, insertBatch b),
              List.mem_append_left _ (List.mem_map.mpr ⟨(b, n), ?_, rfl⟩), ?_⟩
            · exact List.mem_zipIdx_iff_getElem?.mpr hn
            · simpa [servedBut, List.getD_eq_getElem?_getD, hn] using hno
          have hquery : Session.query (servedBut accepts (.flush es c)).select ⟨x, .idle⟩ =
              (⟨x, .idle⟩, some x) := rfl
          have hopen : (servedBut accepts (.flush es c)).opens = true := rfl
          rw [pass, hplan, tailDaemon, hquery]
          dsimp only
          rw [hopen, Option.bind_some, hplan]
          exact congrArg Prod.fst (Session.transaction_refused hstmt)
      | _ =>
          rw [hplan] at h
          exact absurd rfl h

/-! ### The place of the passes -/

/-- The passes of a file that was read from `start` on stand before its line `i`; as long
as they have not moved, the checkpoint may be another that is taken for the same place. -/
structure Stands (file : LogFile) (start i : ℕ) (db : Session Store) : Prop where
  idle : db.tx = .idle
  place : db.stored.checkpoint = some ⟨file.inode,
      start + logFormat.total ((splitLines (file.content.drop start)).take i)⟩ ∨
    i = 0 ∧ ∃ c, db.stored.checkpoint = some c ∧ startOffset file c = start

variable {start i : ℕ} {lines : List Bytes} {db : Session Store}

/-- What a pass takes a checkpoint for. -/
lemma startOffset_self {offset : ℕ} (h : offset ≤ file.content.length) :
    startOffset file ⟨file.inode, offset⟩ = offset := by
  rw [startOffset, if_neg]
  rw [not_or]
  exact ⟨fun hne => hne rfl, Nat.not_lt.mpr h⟩

/-- A checkpoint is as good as the place it is taken for. -/
lemma plan_startOffset {c : Checkpoint} (h : startOffset file c < file.content.length) :
    plan true file (some c) = plan true file (some ⟨file.inode, startOffset file c⟩) := by
  rw [plan, plan]
  dsimp only
  rw [startOffset_self h.le, if_neg (Nat.not_le.mpr h), if_neg (Nat.not_le.mpr h)]

/-- Where the next pass reads from. -/
lemma Stands.startOffset (h : Stands file start i db) (hstart : start ≤ file.content.length) :
    ∃ c, db.stored.checkpoint = some c ∧ startOffset file c =
      start + logFormat.total ((splitLines (file.content.drop start)).take i) := by
  have htotal : logFormat.total ((splitLines (file.content.drop start)).take i) ≤
      file.content.length - start := by
    have hle := total_splitLines_le (file.content.drop start)
    rw [← List.take_append_drop i (splitLines (file.content.drop start)),
      LineFormat.total_append, List.length_drop] at hle
    omega
  rcases h.place with hplace | ⟨rfl, c, hplace, hc⟩
  · exact ⟨_, hplace, startOffset_self (by omega)⟩
  · exact ⟨c, hplace, hc⟩

/-- What is read there are the lines from there on. -/
lemma drop_total (content : Bytes) (start i : ℕ) :
    splitLines (content.drop (start + logFormat.total ((splitLines (content.drop start)).take i))) =
      (splitLines (content.drop start)).drop i := by
  rw [← List.drop_drop, splitLines_drop]

/-- The plan of a pass that stands before a line. -/
lemma Stands.plan (h : Stands file start i db) (hstart : start < file.content.length)
    (hlines : lines = splitLines (file.content.drop start)) :
    plan true file db.stored.checkpoint =
      if logFormat.advance (logFormat.window kMaxReadBytes (lines.drop i)) = 0 then .stop
      else .flush (logFormat.closed (logFormat.window kMaxReadBytes (lines.drop i)))
        ⟨file.inode, start + logFormat.total (lines.take (logFormat.step kMaxReadBytes lines i))⟩ := by
  rw [← plan_eq hlines hstart.le]
  rcases h.place with hplace | ⟨rfl, c, hplace, hc⟩
  · rw [hplace, hlines]
  · rw [hplace, plan_startOffset (by rw [hc]; exact hstart), hc, List.take_zero]
    rfl

/-- **A pass moves as a reader whose entries may be refused.** -/
lemma Stands.pass (h : Stands file start i db) (hstart : start < file.content.length)
    (hlines : lines = splitLines (file.content.drop start)) :
    Stands file start (logFormat.tryStep (fun e => accepts e.bind) kMaxReadBytes lines i)
      (pass accepts file db) := by
  have hplan := h.plan hstart hlines
  obtain ⟨x, tx⟩ := db
  obtain rfl : tx = .idle := h.idle
  rw [pass_plan]
  dsimp only at hplan
  rw [hplan]
  by_cases hadvance : logFormat.advance (logFormat.window kMaxReadBytes (lines.drop i)) = 0
  · have hstep : logFormat.step kMaxReadBytes lines i = i := by
      rw [LineFormat.step, hadvance]
      rfl
    have hstay : logFormat.tryStep (fun e => accepts e.bind) kMaxReadBytes lines i = i := by
      rw [LineFormat.tryStep, hstep, ite_self]
    rw [if_pos hadvance, hstay]
    exact h
  · rw [if_neg hadvance, LineFormat.tryStep, planAccepted]
    split
    · exact ⟨rfl, .inl (by rw [hlines]; rfl)⟩
    · exact h

lemma Stands.iterate (h : Stands file start i db) (hstart : start < file.content.length)
    (hlines : lines = splitLines (file.content.drop start)) (n : ℕ) :
    Stands file start ((logFormat.tryStep (fun e => accepts e.bind) kMaxReadBytes lines)^[n] i)
      ((LogProgress.pass accepts file)^[n] db) := by
  induction n with
  | zero => exact h
  | succ n ih =>
      rw [Function.iterate_succ_apply', Function.iterate_succ_apply']
      exact ih.pass hstart hlines

/-! ### Progress -/

/-- What lies beyond the place the next pass reads from. -/
def unread (file : LogFile) (c : Checkpoint) : List Bytes :=
  splitLines (file.content.drop (startOffset file c))

/-- **The passes make progress**: they come past the first header of what is unread, and
in the end no header that has another behind it is unread. -/
structure Progresses (accepts : Row → Bool) (file : LogFile) (rows : List Row) (ck : Checkpoint) :
    Prop where
  first : ∀ a l b, unread file ck = a ++ l :: b → (∀ y ∈ a, logFormat.isHeader y = false) →
    logFormat.isHeader l = true → (∃ y ∈ b, logFormat.isHeader y = true) →
    ∃ N, ∀ n ≥ N, ∃ c,
      ((pass accepts file)^[n] ⟨⟨rows, some ck⟩, .idle⟩).stored.checkpoint = some c ∧
        startOffset file ck + logFormat.total a < startOffset file c
  all : ∃ N, ∀ n ≥ N, ∃ c,
    ((pass accepts file)^[n] ⟨⟨rows, some ck⟩, .idle⟩).stored.checkpoint = some c ∧
      logFormat.headers (unread file c) ≤ 1

/-- Nothing on the way is too long, and nothing is refused: from every line that has two
headers from it on, the line, or the entry it opens with the header line that closes it,
fits the window; and the database accepts every closed entry. -/
def Ingestible (accepts : Row → Bool) (lines : List Bytes) : Prop :=
  logFormat.Fits kMaxReadBytes lines ∧ ∀ e ∈ logFormat.closed lines, accepts e.bind = true

variable {ck : Checkpoint}

/-- The passes, as a reader. -/
lemma stands_iterate (accepts : Row → Bool) (rows : List Row)
    (htwo : 2 ≤ logFormat.headers (unread file ck)) (n : ℕ) : ∃ c,
    ((pass accepts file)^[n] ⟨⟨rows, some ck⟩, .idle⟩).stored.checkpoint = some c ∧
      startOffset file c = startOffset file ck + logFormat.total ((unread file ck).take
        ((logFormat.tryStep (fun e => accepts e.bind) kMaxReadBytes (unread file ck))^[n] 0)) := by
  have hstart : startOffset file ck < file.content.length := by
    by_contra hend
    rw [unread, List.drop_of_length_le (Nat.le_of_not_lt hend)] at htwo
    exact absurd htwo (by decide)
  have hbegin : Stands file (startOffset file ck) 0 ⟨⟨rows, some ck⟩, .idle⟩ :=
    ⟨rfl, .inr ⟨rfl, ck, rfl, rfl⟩⟩
  exact (hbegin.iterate hstart rfl n).startOffset hstart.le

lemma unread_eq {c : Checkpoint} {i : ℕ} (h : startOffset file c =
    startOffset file ck + logFormat.total ((unread file ck).take i)) :
    unread file c = (unread file ck).drop i := by
  rw [unread, h, unread, drop_total]

/-- **No header is left unread but the last**, exactly where nothing is too long or
refused. -/
lemma all_iff (accepts : Row → Bool) (rows : List Row)
    (htwo : 2 ≤ logFormat.headers (unread file ck)) : (∃ N, ∀ n ≥ N, ∃ c,
    ((pass accepts file)^[n] ⟨⟨rows, some ck⟩, .idle⟩).stored.checkpoint = some c ∧
      logFormat.headers (unread file c) ≤ 1) ↔ Ingestible accepts (unread file ck) := by
  have hnone : ∀ e ∈ logFormat.entries ((unread file ck).take 0), accepts e.bind = true := by
    intro e he
    cases he
  rw [Ingestible, ← (LineFormat.reached_zero kMaxReadBytes (unread file ck)).getsThrough_iff hnone]
  refine exists_congr fun N => forall₂_congr fun n _ => ?_
  obtain ⟨c, hc, hplace⟩ := stands_iterate accepts rows htwo n
  rw [hc, ← unread_eq hplace]
  constructor
  · rintro ⟨_, heq, hfew⟩
    cases heq
    exact hfew
  · exact fun hfew => ⟨c, rfl, hfew⟩

/-- A header that has another behind it lies behind a place with one header ahead. -/
lemma length_lt_of_few {a b : List Bytes} {l : Bytes} {j : ℕ} (hlines : lines = a ++ l :: b)
    (hl : logFormat.isHeader l = true) (hb : ∃ y ∈ b, logFormat.isHeader y = true)
    (hfew : logFormat.headers (lines.drop j) ≤ 1) : a.length < j := by
  by_contra hle
  have hmore := LineFormat.headers_drop_le logFormat lines (Nat.le_of_not_lt hle)
  have hdrop : lines.drop a.length = l :: b := by rw [hlines, List.drop_left]
  have hsplit : logFormat.headers (l :: b) = logFormat.headers b + 1 := List.countP_cons_of_pos hl
  have hpos : 0 < logFormat.headers b := List.countP_pos_iff.mpr hb
  rw [hdrop, hsplit] at hmore
  omega

/-- A row the database has to take: its texts are UTF-8, its time is an instant. A
parameter holds no NUL, at which it ends. -/
def storable (isInstant : Bytes → Bool) (row : Row) : Bool :=
  isUtf8 row.ts && isInstant row.ts && row.loc.all isUtf8 && isUtf8 row.message

/-- A file that fits the window, of entries a database has to take. -/
lemma ingestible_of_storable {isInstant : Bytes → Bool}
    (hdb : ∀ row, storable isInstant row = true → accepts row = true)
    (hfits : logFormat.Fits kMaxReadBytes lines)
    (h : ∀ e ∈ logFormat.closed lines, storable isInstant e.bind = true) :
    Ingestible accepts lines := ⟨hfits, fun e he => hdb _ (h e he)⟩

namespace Stuck

/-- Two digits. -/
def twoDigits : Bytes → ℕ
  | a :: b :: _ => 10 * (a.toNat - 48) + (b.toNat - 48)
  | _ => 0

/-- The month and the day of a time are of the calendar, as far as is needed here. -/
def isInstant (ts : Bytes) : Bool :=
  let month := twoDigits (ts.drop 5)
  let day := twoDigits (ts.drop 8)
  1 ≤ month && month ≤ 12 && 1 ≤ day && day ≤ 28

/-- A database that takes no other row than it has to. -/
def database : Row → Bool := storable isInstant

/-- A header line. -/
def header : Bytes := ascii "[2026-07-22 13:46:19.996][INFO][a.cpp:1] x"

/-- A header line with a byte behind it that is no text. -/
def noText : Bytes := header ++ [0xFF]

/-- A header line of a thirteenth month. -/
def noInstant : Bytes := ascii "[2026-13-22 13:46:19.996][INFO][a.cpp:1] x"

/-- A line as long as the window. -/
@[irreducible]
def long : Bytes := List.replicate kMaxReadBytes 120

/-- A file of some lines. -/
def fileOf (lines : List Bytes) : LogFile := ⟨1, joinLines lines⟩

lemma unread_fileOf {lines : List Bytes} (h : ∀ line ∈ lines, (10 : UInt8) ∉ line) :
    unread (fileOf lines) ⟨1, 0⟩ = lines := by
  have hjoin := splitLines_joinLines h []
  rw [List.append_nil, splitLines, List.append_nil] at hjoin
  rw [unread, fileOf, startOffset, if_neg (by simp)]
  exact hjoin

/-- A file with two headers that is not ingested as a whole. -/
lemma not_progresses {lines : List Bytes} (hlines : ∀ line ∈ lines, (10 : UInt8) ∉ line)
    (htwo : 2 ≤ logFormat.headers lines) (h : ¬Ingestible database lines) :
    ¬Progresses database (fileOf lines) [] ⟨1, 0⟩ := by
  intro hprogress
  have hunread := unread_fileOf hlines
  have hall := (all_iff database [] (by rwa [hunread])).mp hprogress.all
  rw [hunread] at hall
  exact h hall

lemma size_eq (line : Bytes) : logFormat.size line = line.length + 1 := rfl

lemma size_long : kMaxReadBytes < logFormat.size long := by
  rw [size_eq, long, List.length_replicate]
  exact Nat.lt_succ_self _

lemma isHeader_header : logFormat.isHeader header = true := by decide

/-- A line that is too long, in front of the first header or in its entry. -/
lemma not_ingestible_long {line : Bytes} (hlong : kMaxReadBytes < logFormat.size line) :
    ¬Ingestible database [line, header, header] ∧ ¬Ingestible database [header, line, header] := by
  constructor
  · rintro ⟨hfits, -⟩
    have hpass := hfits [] line [header, header] rfl
      (by simp [LineFormat.headers, List.countP_cons, isHeader_header])
    rw [LineFormat.Passable] at hpass
    split at hpass
    · obtain ⟨c, -, -, htotal⟩ := hpass
      rw [LineFormat.total_cons] at htotal
      omega
    · omega
  · rintro ⟨hfits, -⟩
    have hpass := hfits [] header [line, header] rfl
      (by simp [LineFormat.headers, List.countP_cons, isHeader_header])
    rw [LineFormat.Passable, if_pos isHeader_header] at hpass
    obtain ⟨c, hc, ⟨y, hy, -⟩, htotal⟩ := hpass
    cases c with
    | nil => cases hy
    | cons z c =>
        obtain rfl := (List.cons_prefix_cons.mp hc).1
        rw [LineFormat.total_cons, LineFormat.total_cons] at htotal
        omega

lemma not_mem_header : (10 : UInt8) ∉ header := by decide

/-- So no pass gets past it. -/
lemma never_past_long {line : Bytes} (hfree : (10 : UInt8) ∉ line)
    (hlong : kMaxReadBytes < logFormat.size line) :
    ¬Progresses database (fileOf [line, header, header]) [] ⟨1, 0⟩ ∧
      ¬Progresses database (fileOf [header, line, header]) [] ⟨1, 0⟩ := by
  obtain ⟨hfront, hinside⟩ := not_ingestible_long hlong
  refine ⟨not_progresses (by simp [hfree, not_mem_header]) ?_ hfront,
    not_progresses (by simp [hfree, not_mem_header]) ?_ hinside⟩
  · simp [LineFormat.headers, List.countP_cons, isHeader_header]
  · simp [LineFormat.headers, List.countP_cons, isHeader_header]

/-- A closed entry that is refused. -/
lemma never_past_refused : ∀ line ∈ [noText, noInstant],
    ¬Progresses database (fileOf [line, header]) [] ⟨1, 0⟩ := by
  have hrefused : ∀ line ∈ [noText, noInstant], (10 : UInt8) ∉ line ∧
      2 ≤ logFormat.headers [line, header] ∧
      ((logFormat.closed [line, header]).all fun e => database e.bind) = false := by
    decide
  intro line hline
  obtain ⟨hfree, htwo, hno⟩ := hrefused line hline
  refine not_progresses (by simp [hfree, not_mem_header]) htwo fun h => ?_
  rw [List.all_eq_true.mpr h.2] at hno
  cases hno

end Stuck

end Pretzel.Engined.LogProgress
