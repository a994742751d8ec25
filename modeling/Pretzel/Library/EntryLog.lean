import Mathlib.Tactic

/-!
Logs of entries, read through a window.

A log is a list of lines. A header line opens an entry, every other line is
attached to the entry before it, and the lines before the first header belong
to none. An entry is closed when a later header follows.

* `LineFormat.entries`, `LineFormat.closed`: the entries of some lines, and the
  closed ones among them.
* `LineFormat.window`: the lines from the first on that fit a number of bytes.
* `LineFormat.step`: a reader that stands before a line, takes a window, and
  moves to the last header of it, or behind it where it has none.
* `LineFormat.Reached`: what holds where such a reader stands, on a log that
  only grows.
* `LineFormat.entries_take_step`: what lies behind a reader after a step are the
  closed entries of what it has read.
* `LineFormat.catchesUp_iff`: on a log at rest the reader comes to leave all the
  closed entries behind exactly when the log fits the window.
* `LineFormat.confluent`: two readers of one log come to stand at one place.
* `LineFormat.tryStep`: a reader whose entries may be refused, which then stays.
* `LineFormat.getsThrough_iff`: it comes before the last header exactly when the log
  fits the window and no closed entry is refused.
-/

namespace Tailing

variable {α ε : Type*}

/-- What a line is to a log: its size, the entry it opens if it is a header, and
an entry with it attached. -/
structure LineFormat (α ε : Type*) where
  size : α → ℕ
  header : α → Option ε
  attach : ε → α → ε

namespace LineFormat

variable (F : LineFormat α ε)

/-! ### Entries -/

/-- Whether a line opens an entry. -/
def isHeader (l : α) : Bool := (F.header l).isSome

/-- The lines up to the first header. -/
def body (ls : List α) : List α := ls.takeWhile fun l => !F.isHeader l

/-- The entries of some lines. -/
def entries : List α → List ε
  | [] => []
  | l :: ls =>
      match F.header l with
      | some e => (F.body ls).foldl F.attach e :: entries ls
      | none => entries ls

/-- The entries a later header closes. -/
def closed (ls : List α) : List ε := (F.entries ls).dropLast

/-- The number of headers. -/
def headers (ls : List α) : ℕ := ls.countP fun l => F.isHeader l

/-- The size of some lines. -/
def total (ls : List α) : ℕ := (ls.map F.size).sum

variable {F}

lemma header_eq_none {l : α} (h : F.isHeader l = false) : F.header l = none :=
  Option.isSome_eq_false_iff.mp h |> Option.isNone_iff_eq_none.mp

lemma header_eq_some {l : α} (h : F.isHeader l = true) : ∃ e, F.header l = some e :=
  Option.isSome_iff_exists.mp h

lemma entries_cons_of_header {l : α} {e : ε} (h : F.header l = some e) (ls : List α) :
    F.entries (l :: ls) = (F.body ls).foldl F.attach e :: F.entries ls := by
  rw [entries, h]

lemma entries_cons_of_not_header {l : α} (h : F.isHeader l = false) (ls : List α) :
    F.entries (l :: ls) = F.entries ls := by
  rw [entries, header_eq_none h]

lemma length_entries (ls : List α) : (F.entries ls).length = F.headers ls := by
  induction ls with
  | nil => rfl
  | cons l ls ih =>
      rw [headers, List.countP_cons]
      cases hl : F.isHeader l with
      | false =>
          rw [entries_cons_of_not_header hl, ih]
          rfl
      | true =>
          obtain ⟨e, he⟩ := header_eq_some hl
          rw [entries_cons_of_header he, List.length_cons, ih]
          rfl

lemma headers_eq_zero_iff {ls : List α} :
    F.headers ls = 0 ↔ ∀ l ∈ ls, F.isHeader l = false := by
  rw [headers, List.countP_eq_zero]
  exact forall₂_congr fun l _ => Bool.not_eq_true _ |> Iff.of_eq

lemma entries_eq_nil {ls : List α} (h : ∀ l ∈ ls, F.isHeader l = false) : F.entries ls = [] := by
  rw [← List.length_eq_zero_iff, length_entries, headers_eq_zero_iff]
  exact h

lemma headers_append (a b : List α) : F.headers (a ++ b) = F.headers a + F.headers b :=
  List.countP_append

/-- Lines without a header add nothing in front. -/
lemma entries_append_of_noise {a : List α} (h : ∀ l ∈ a, F.isHeader l = false) (b : List α) :
    F.entries (a ++ b) = F.entries b := by
  induction a with
  | nil => rfl
  | cons l a ih =>
      rw [List.cons_append, entries_cons_of_not_header (h l List.mem_cons_self)]
      exact ih fun x hx => h x (List.mem_cons_of_mem _ hx)

/-- The lines begin with a header, or there are none. -/
def StartsEntry (F : LineFormat α ε) (b : List α) : Prop := ∀ l ∈ b.head?, F.isHeader l = true

lemma body_append {b : List α} (hb : F.StartsEntry b) (a : List α) :
    F.body (a ++ b) = F.body a := by
  induction a with
  | nil =>
      cases b with
      | nil => rfl
      | cons l b =>
          rw [body, List.nil_append, List.takeWhile_cons_of_neg]
          · rfl
          · rw [hb l rfl]
            simp
  | cons l a ih =>
      rw [body, body, List.cons_append, List.takeWhile_cons, List.takeWhile_cons]
      split
      · exact congrArg _ ih
      · rfl

/-- **A log cut before a header** has the entries of both parts. -/
lemma entries_append {b : List α} (hb : F.StartsEntry b) (a : List α) :
    F.entries (a ++ b) = F.entries a ++ F.entries b := by
  induction a with
  | nil => rfl
  | cons l a ih =>
      cases hl : F.isHeader l with
      | false =>
          rw [List.cons_append, entries_cons_of_not_header hl, ih, entries_cons_of_not_header hl]
      | true =>
          obtain ⟨e, he⟩ := header_eq_some hl
          rw [List.cons_append, entries_cons_of_header he, body_append hb, ih,
            entries_cons_of_header he, List.cons_append]

/-! ### The last header -/

/-- The place of the last header. -/
def lastHeader (F : LineFormat α ε) : List α → Option ℕ
  | [] => none
  | l :: ls =>
      match lastHeader F ls with
      | some i => some (i + 1)
      | none => if F.isHeader l then some 0 else none

/-- How far a reader moves on a window: to its last header, or behind it. -/
def advance (F : LineFormat α ε) (w : List α) : ℕ := (F.lastHeader w).getD w.length

lemma lastHeader_eq_none {ls : List α} (h : F.lastHeader ls = none) :
    ∀ l ∈ ls, F.isHeader l = false := by
  induction ls with
  | nil => simp
  | cons l ls ih =>
      rw [lastHeader] at h
      cases hls : F.lastHeader ls with
      | some i => rw [hls] at h; cases h
      | none =>
          rw [hls] at h
          have hl : F.isHeader l = false := by simpa using h
          intro x hx
          rcases List.mem_cons.mp hx with rfl | hx
          · exact hl
          · exact ih hls x hx

lemma lastHeader_eq_some {ls : List α} {i : ℕ} (h : F.lastHeader ls = some i) :
    ∃ a l b, ls = a ++ l :: b ∧ a.length = i ∧ F.isHeader l = true ∧
      ∀ x ∈ b, F.isHeader x = false := by
  induction ls generalizing i with
  | nil => cases h
  | cons l ls ih =>
      rw [lastHeader] at h
      cases hls : F.lastHeader ls with
      | some k =>
          rw [hls] at h
          obtain ⟨a, l', b, rfl, hlen, hl', hb⟩ := ih hls
          refine ⟨l :: a, l', b, rfl, ?_, hl', hb⟩
          rw [List.length_cons, hlen]
          exact Option.some.inj h
      | none =>
          rw [hls] at h
          dsimp only at h
          split at h
          · next hl =>
              cases h
              exact ⟨[], l, ls, rfl, rfl, hl, lastHeader_eq_none hls⟩
          · cases h

/-- **The two ways a reader moves**: to the last header of the window, or behind
a window without headers. -/
lemma advance_cases (w : List α) :
    (∃ a l b, w = a ++ l :: b ∧ F.advance w = a.length ∧ F.isHeader l = true ∧
      ∀ x ∈ b, F.isHeader x = false) ∨
    (F.advance w = w.length ∧ ∀ l ∈ w, F.isHeader l = false) := by
  cases h : F.lastHeader w with
  | none => exact .inr ⟨by rw [advance, h]; rfl, lastHeader_eq_none h⟩
  | some i =>
      obtain ⟨a, l, b, hw, hlen, hl, hb⟩ := lastHeader_eq_some h
      exact .inl ⟨a, l, b, hw, by rw [advance, h, hlen]; rfl, hl, hb⟩

lemma advance_le (w : List α) : F.advance w ≤ w.length := by
  rcases advance_cases (F := F) w with ⟨a, l, b, hw, hadv, -, -⟩ | ⟨hadv, -⟩
  · rw [hadv, hw, List.length_append]
    omega
  · exact hadv.le

/-- **What the reader moves past are the closed entries.** -/
lemma entries_take_advance (w : List α) : F.entries (w.take (F.advance w)) = F.closed w := by
  rcases advance_cases (F := F) w with ⟨a, l, b, hw, hadv, hl, hb⟩ | ⟨hadv, hnone⟩
  · have hstart : F.StartsEntry (l :: b) := by
      intro x hx
      cases hx
      exact hl
    obtain ⟨e, he⟩ := header_eq_some hl
    have hlast : F.entries (l :: b) = [(F.body b).foldl F.attach e] := by
      rw [entries_cons_of_header he, entries_eq_nil hb]
    rw [closed, hadv, hw, List.take_left', entries_append hstart, hlast, List.dropLast_concat]
    rfl
  · rw [closed, hadv, List.take_length, entries_eq_nil hnone]
    rfl

/-! ### The window -/

/-- The lines from the first on that take at most `k` bytes. -/
def window (F : LineFormat α ε) : ℕ → List α → List α
  | _, [] => []
  | k, l :: ls => if F.size l ≤ k then l :: window F (k - F.size l) ls else []

lemma total_cons (l : α) (ls : List α) : F.total (l :: ls) = F.size l + F.total ls := by
  rw [total, List.map_cons, List.sum_cons, total]

lemma total_append (a b : List α) : F.total (a ++ b) = F.total a + F.total b := by
  rw [total, List.map_append, List.sum_append, total, total]

lemma window_isPrefix (k : ℕ) (ls : List α) : F.window k ls <+: ls := by
  induction ls generalizing k with
  | nil => exact List.prefix_rfl
  | cons l ls ih =>
      rw [window]
      split
      · exact List.prefix_cons_inj l |>.mpr (ih _)
      · exact List.nil_prefix

lemma total_window_le (k : ℕ) (ls : List α) : F.total (F.window k ls) ≤ k := by
  induction ls generalizing k with
  | nil => exact Nat.zero_le k
  | cons l ls ih =>
      rw [window]
      split
      · next hle =>
          rw [total_cons]
          have := ih (k - F.size l)
          omega
      · exact Nat.zero_le k

/-- The window is the longest prefix that fits. -/
lemma prefix_window {k : ℕ} {a ls : List α} (ha : a <+: ls) (hk : F.total a ≤ k) :
    a <+: F.window k ls := by
  induction ls generalizing k a with
  | nil =>
      rw [List.prefix_nil.mp ha]
      exact List.nil_prefix
  | cons l ls ih =>
      cases a with
      | nil => exact List.nil_prefix
      | cons x a =>
          obtain ⟨rfl, hrest⟩ := List.cons_prefix_cons.mp ha
          rw [total_cons] at hk
          rw [window, if_pos (by omega)]
          exact List.cons_prefix_cons.mpr ⟨rfl, ih hrest (by omega)⟩

/-- A window with room for some lines, and what follows them. -/
lemma window_add (k : ℕ) (ls : List α) (i : ℕ) :
    F.window (F.total (ls.take i) + k) ls = ls.take i ++ F.window k (ls.drop i) := by
  induction ls generalizing i with
  | nil => cases i <;> rfl
  | cons l ls ih =>
      cases i with
      | zero =>
          rw [List.take_zero, List.drop_zero, List.nil_append]
          congr 1
          exact Nat.zero_add k
      | succ i =>
          have hrest : F.size l + F.total (ls.take i) + k - F.size l
              = F.total (ls.take i) + k := by omega
          rw [List.take_succ_cons, List.drop_succ_cons, total_cons, window, if_pos (by omega), hrest,
            ih, List.cons_append]

/-- The reader at line `i` takes its window and moves. -/
def step (F : LineFormat α ε) (k : ℕ) (ls : List α) (i : ℕ) : ℕ :=
  i + F.advance (F.window k (ls.drop i))

/-- Where the window of the reader at line `i` ends. -/
def readTo (F : LineFormat α ε) (k : ℕ) (ls : List α) (i : ℕ) : ℕ :=
  i + (F.window k (ls.drop i)).length

lemma le_step (k : ℕ) (ls : List α) (i : ℕ) : i ≤ F.step k ls i := Nat.le_add_right _ _

lemma step_le_readTo (k : ℕ) (ls : List α) (i : ℕ) : F.step k ls i ≤ F.readTo k ls i :=
  Nat.add_le_add_left (advance_le _) i

lemma readTo_le {k : ℕ} {ls : List α} {i : ℕ} (h : i ≤ ls.length) : F.readTo k ls i ≤ ls.length := by
  have := (window_isPrefix (F := F) k (ls.drop i)).length_le
  rw [List.length_drop] at this
  rw [readTo]
  omega

lemma take_readTo (k : ℕ) (ls : List α) (i : ℕ) :
    ls.take (F.readTo k ls i) = ls.take i ++ F.window k (ls.drop i) := by
  rw [readTo, List.take_add, ← List.prefix_iff_eq_take.mp (window_isPrefix k (ls.drop i))]

lemma take_step (k : ℕ) (ls : List α) (i : ℕ) : ls.take (F.step k ls i)
    = ls.take i ++ (F.window k (ls.drop i)).take (F.advance (F.window k (ls.drop i))) := by
  obtain ⟨rest, hrest⟩ := window_isPrefix (F := F) k (ls.drop i)
  have hle := advance_le (F := F) (F.window k (ls.drop i))
  rw [step, List.take_add]
  generalize F.window k (ls.drop i) = w at hrest hle ⊢
  rw [← hrest, List.take_append_of_le_length hle]

/-! ### Where a reader stands -/

/-- A window that begins at a line passes it: it has a header behind the line if
the line is one, and has room for the line if it is none. -/
def Passable (F : LineFormat α ε) (k : ℕ) (l : α) (b : List α) : Prop :=
  if F.isHeader l then ∃ c, c <+: b ∧ (∃ h ∈ c, F.isHeader h = true) ∧ F.total (l :: c) ≤ k
  else F.size l ≤ k

/-- Where a reader stands: no header is behind it, or it is before one that fits
the window; and the lines behind it could be passed. -/
structure Reached (F : LineFormat α ε) (k : ℕ) (ls : List α) (i : ℕ) : Prop where
  le : i ≤ ls.length
  boundary : (∀ l ∈ ls.take i, F.isHeader l = false) ∨
    ∃ l b, ls.drop i = l :: b ∧ F.isHeader l = true ∧ F.size l ≤ k
  passed : ∀ a l b, ls = a ++ l :: b → a.length < i → F.Passable k l b

section Reader

variable {k i j : ℕ} {ls : List α}

lemma reached_zero (k : ℕ) (ls : List α) : F.Reached k ls 0 :=
  ⟨Nat.zero_le _, .inl (by simp), fun _ _ _ _ h => absurd h (Nat.not_lt_zero _)⟩

lemma Passable.append {l : α} {b : List α} (h : F.Passable k l b) (m : List α) :
    F.Passable k l (b ++ m) := by
  rw [Passable] at h ⊢
  split at h
  · next hl =>
      obtain ⟨c, hc, hheader, htotal⟩ := h
      rw [if_pos hl]
      exact ⟨c, hc.trans (List.prefix_append b m), hheader, htotal⟩
  · next hl =>
      rw [if_neg hl]
      exact h

/-- The log may grow. -/
lemma Reached.append (h : F.Reached k ls i) (m : List α) : F.Reached k (ls ++ m) i := by
  have htake : (ls ++ m).take i = ls.take i := List.take_append_of_le_length h.le
  have hdrop : (ls ++ m).drop i = ls.drop i ++ m := List.drop_append_of_le_length h.le
  refine ⟨?_, ?_, ?_⟩
  · rw [List.length_append]
    exact h.le.trans (Nat.le_add_right _ _)
  · rw [htake]
    refine h.boundary.imp_right ?_
    rintro ⟨l, b, hl, hheader, hsize⟩
    exact ⟨l, b ++ m, by rw [hdrop, hl]; rfl, hheader, hsize⟩
  · intro a l b heq hlt
    -- the line is one of the old ones
    have hle := h.le
    rcases List.append_eq_append_iff.mp heq with ⟨c, rfl, -⟩ | ⟨c, rfl, hc⟩
    · rw [List.length_append] at hlt
      omega
    · cases c with
      | nil =>
          rw [List.append_nil] at hle
          omega
      | cons x c =>
          obtain ⟨rfl, rfl⟩ := List.cons.inj hc
          exact (h.passed a l c rfl hlt).append m

/-- **The entries of both sides of a reader.** -/
lemma Reached.entries (h : F.Reached k ls i) :
    F.entries ls = F.entries (ls.take i) ++ F.entries (ls.drop i) := by
  conv_lhs => rw [← List.take_append_drop i ls]
  rcases h.boundary with hnone | ⟨l, b, hl, hheader, -⟩
  · rw [entries_append_of_noise hnone, entries_eq_nil hnone]
    rfl
  · refine entries_append ?_ _
    intro x hx
    rw [hl] at hx
    cases hx
    exact hheader

/-- The same, of the lines up to some line ahead. -/
lemma Reached.entries_window (h : F.Reached k ls i) :
    F.entries (ls.take i ++ F.window k (ls.drop i))
      = F.entries (ls.take i) ++ F.entries (F.window k (ls.drop i)) := by
  rcases h.boundary with hnone | ⟨l, b, hl, hheader, -⟩
  · rw [entries_append_of_noise hnone, entries_eq_nil hnone]
    rfl
  · refine entries_append ?_ _
    intro x hx
    rw [hl, window] at hx
    split at hx
    · cases hx
      exact hheader
    · cases hx

/-- **The closed entries of both sides of a reader.** -/
lemma Reached.closed (h : F.Reached k ls i) :
    F.closed ls = F.entries (ls.take i) ++ F.closed (ls.drop i) := by
  rw [LineFormat.closed, h.entries, LineFormat.closed]
  cases hahead : F.entries (ls.drop i) with
  | cons e es => rw [List.dropLast_append_of_ne_nil (List.cons_ne_nil e es)]
  | nil =>
      rcases h.boundary with hnone | ⟨l, b, hl, hheader, -⟩
      · rw [entries_eq_nil hnone]
        rfl
      · -- there is a header ahead
        obtain ⟨e, he⟩ := header_eq_some hheader
        rw [hl, entries_cons_of_header he] at hahead
        cases hahead

/-- **What a step leaves behind the reader**: what was behind it, and the closed
entries of the window. -/
theorem Reached.entries_take_step (h : F.Reached k ls i) :
    F.entries (ls.take (F.step k ls i))
      = F.entries (ls.take i) ++ F.closed (F.window k (ls.drop i)) := by
  have hsplit : F.entries (ls.take i ++ (F.window k (ls.drop i)).take
      (F.advance (F.window k (ls.drop i)))) = F.entries (ls.take i) ++
        F.entries ((F.window k (ls.drop i)).take (F.advance (F.window k (ls.drop i)))) := by
    rcases h.boundary with hnone | ⟨l, b, hl, hheader, -⟩
    · rw [entries_append_of_noise hnone, entries_eq_nil hnone]
      rfl
    · refine entries_append ?_ _
      intro x hx
      rw [hl, window] at hx
      split at hx
      · rw [List.head?_take] at hx
        split at hx
        · cases hx
        · cases hx
          exact hheader
      · rw [List.take_nil] at hx
        cases hx
  rw [take_step, hsplit, entries_take_advance]

/-- **What lies behind a reader after a step** are the closed entries of all it
has read. -/
theorem Reached.entries_take_step_eq (h : F.Reached k ls i) :
    F.entries (ls.take (F.step k ls i)) = F.closed (ls.take (F.readTo k ls i)) := by
  rw [h.entries_take_step, take_readTo, LineFormat.closed, LineFormat.closed, h.entries_window]
  cases hw : F.entries (F.window k (ls.drop i)) with
  | cons e es => rw [List.dropLast_append_of_ne_nil (List.cons_ne_nil e es)]
  | nil =>
      rcases h.boundary with hnone | ⟨l, b, hl, hheader, hsize⟩
      · rw [entries_eq_nil hnone]
        rfl
      · -- the window begins with a header
        obtain ⟨e, he⟩ := header_eq_some hheader
        rw [hl, window, if_pos hsize, entries_cons_of_header he] at hw
        cases hw

/-! ### One step -/

/-- A line that could be passed is passed. -/
lemma advance_pos {l : α} {b : List α} (hl : ls.drop i = l :: b) (h : F.Passable k l b) :
    i < F.step k ls i := by
  rw [step, hl]
  rw [Passable] at h
  split at h
  · next hheader =>
      obtain ⟨c, hc, ⟨x, hx, hxheader⟩, htotal⟩ := h
      have hwindow : l :: c <+: F.window k (l :: b) :=
        prefix_window (List.cons_prefix_cons.mpr ⟨rfl, hc⟩) htotal
      obtain ⟨d, hd⟩ := hwindow
      rcases advance_cases (F := F) (F.window k (l :: b)) with ⟨a, y, e, hw, hadv, -, he⟩ | ⟨-, hnone⟩
      · cases a with
        | cons z a =>
            rw [hadv, List.length_cons]
            omega
        | nil =>
            rw [← hd, List.cons_append, List.nil_append] at hw
            obtain ⟨-, rfl⟩ := List.cons.inj hw
            rw [he x (List.mem_append_left _ hx)] at hxheader
            cases hxheader
      · have hmem : l ∈ F.window k (l :: b) := by
          rw [← hd]
          exact List.mem_cons_self
        rw [hnone l hmem] at hheader
        cases hheader
  · next hheader =>
      have hwindow : F.window k (l :: b) = l :: F.window (k - F.size l) b := by
        rw [window, if_pos h]
      rcases advance_cases (F := F) (F.window k (l :: b)) with ⟨a, y, e, hw, hadv, hy, -⟩ | ⟨hadv, -⟩
      · cases a with
        | cons z a =>
            rw [hadv, List.length_cons]
            omega
        | nil =>
            rw [hwindow, List.nil_append] at hw
            obtain ⟨rfl, -⟩ := List.cons.inj hw
            exact absurd hy hheader
      · rw [hadv, hwindow, List.length_cons]
        omega

/-- **A reader that moves stands where a reader can.** -/
theorem Reached.step (h : F.Reached k ls i) : F.Reached k ls (F.step k ls i) := by
  obtain ⟨rest, hrest⟩ := window_isPrefix (F := F) k (ls.drop i)
  have htotal := total_window_le (F := F) k (ls.drop i)
  have hsize : ∀ {p l c}, F.window k (ls.drop i) = p ++ l :: c → F.size l + F.total c ≤ k := by
    intro p l c hw
    rw [hw, total_append, total_cons] at htotal
    omega
  refine ⟨(step_le_readTo k ls i).trans (readTo_le h.le), ?_, ?_⟩
  · rcases advance_cases (F := F) (F.window k (ls.drop i)) with
      ⟨a, l, b, hw, hadv, hheader, -⟩ | ⟨hadv, hnone⟩
    · refine .inr ⟨l, b ++ rest, ?_, hheader, (Nat.le_add_right _ _).trans (hsize hw)⟩
      rw [LineFormat.step, hadv, ← List.drop_drop, ← hrest, hw, List.append_assoc, List.drop_left,
        List.cons_append]
    · rcases h.boundary with hbehind | ⟨l, b, hl, hheader, hle⟩
      · left
        intro x hx
        rw [take_step, hadv, List.take_length] at hx
        rcases List.mem_append.mp hx with hx | hx
        · exact hbehind x hx
        · exact hnone x hx
      · have hmem : l ∈ F.window k (ls.drop i) := by
          rw [hl, window, if_pos hle]
          exact List.mem_cons_self
        rw [hnone l hmem] at hheader
        cases hheader
  · intro a l b heq hlt
    rcases Nat.lt_or_ge a.length i with hold | hnew
    · exact h.passed a l b heq hold
    · -- the line is one of the window, in front of the place moved to
      have hdrop : F.window k (ls.drop i) ++ rest = a.drop i ++ l :: b := by
        rw [hrest, heq, List.drop_append_of_le_length hnew]
      have hlen : (a.drop i).length < F.advance (F.window k (ls.drop i)) := by
        rw [List.length_drop]
        rw [LineFormat.step] at hlt
        omega
      have hadv := advance_le (F := F) (F.window k (ls.drop i))
      obtain ⟨c, hw, hc⟩ : ∃ c, F.window k (ls.drop i) = a.drop i ++ l :: c ∧ c <+: b := by
        rcases List.append_eq_append_iff.mp hdrop with ⟨d, hd, -⟩ | ⟨d, hd, hb⟩
        · rw [hd, List.length_append] at hlen
          omega
        · cases d with
          | nil =>
              rw [hd, List.append_nil] at hlen hadv
              omega
          | cons x d =>
              obtain ⟨rfl, rfl⟩ := List.cons.inj hb
              exact ⟨d, hd, List.prefix_append d rest⟩
      rw [Passable]
      split
      · next hheader =>
          refine ⟨c, hc, ?_, by rw [total_cons]; exact hsize hw⟩
          rcases advance_cases (F := F) (F.window k (ls.drop i)) with
            ⟨p, x, q, hw', hadv', hx, -⟩ | ⟨-, hnone⟩
          · rw [hw] at hw'
            rcases List.append_eq_append_iff.mp hw' with ⟨d, rfl, hd⟩ | ⟨d, hd, -⟩
            · cases d with
              | nil =>
                  rw [List.append_nil] at hadv'
                  omega
              | cons y d =>
                  obtain ⟨-, rfl⟩ := List.cons.inj hd
                  exact ⟨x, List.mem_append_right _ List.mem_cons_self, hx⟩
            · rw [hd, List.length_append] at hlen
              omega
          · have hmem : l ∈ F.window k (ls.drop i) := by
              rw [hw]
              exact List.mem_append_right _ List.mem_cons_self
            rw [hnone l hmem] at hheader
            cases hheader
      · exact (Nat.le_add_right _ _).trans (hsize hw)

/-! ### A log at rest -/

lemma Reached.iterate (h : F.Reached k ls i) (n : ℕ) : F.Reached k ls ((F.step k ls)^[n] i) := by
  induction n with
  | zero => exact h
  | succ n ih =>
      rw [Function.iterate_succ_apply']
      exact ih.step

/-- With one header ahead at most, all the closed entries are behind. -/
lemma Reached.closed_of_few (h : F.Reached k ls i) (hfew : F.headers (ls.drop i) ≤ 1) :
    F.entries (ls.take i) = F.closed ls := by
  have hnil : F.closed (ls.drop i) = [] := by
    rw [← List.length_eq_zero_iff, LineFormat.closed, List.length_dropLast, length_entries]
    omega
  rw [h.closed, hnil, List.append_nil]

/-- And only then. -/
lemma Reached.few_of_closed (h : F.Reached k ls i) (hclosed : F.entries (ls.take i) = F.closed ls) :
    F.headers (ls.drop i) ≤ 1 := by
  have hlength := congrArg List.length hclosed
  rw [LineFormat.closed, h.entries, List.length_dropLast, List.length_append,
    length_entries (ls.drop i)] at hlength
  omega

lemma headers_drop_le (F : LineFormat α ε) (ls : List α) (hij : i ≤ j) :
    F.headers (ls.drop j) ≤ F.headers (ls.drop i) :=
  (List.drop_sublist_drop_left ls hij).countP_le

lemma le_iterate (k : ℕ) (ls : List α) (i : ℕ) {n m : ℕ} (h : n ≤ m) :
    (F.step k ls)^[n] i ≤ (F.step k ls)^[m] i := by
  induction h with
  | refl => exact le_rfl
  | step _ ih =>
      rw [Function.iterate_succ_apply']
      exact ih.trans (le_step k ls _)

/-- The log fits the window: every line that has two headers from it on could be
passed. -/
def Fits (F : LineFormat α ε) (k : ℕ) (ls : List α) : Prop :=
  ∀ a l b, ls = a ++ l :: b → 2 ≤ F.headers (l :: b) → F.Passable k l b

/-- A log no longer than the window fits it. -/
lemma fits_of_total_le (h : F.total ls ≤ k) : F.Fits k ls := by
  rintro a l b rfl htwo
  rw [total_append, total_cons] at h
  rw [Passable]
  split
  · next hl =>
      refine ⟨b, List.prefix_rfl, ?_, by rw [total_cons]; omega⟩
      by_contra hnone
      push Not at hnone
      have hzero : F.headers b = 0 :=
        headers_eq_zero_iff.mpr fun x hx => Bool.eq_false_iff.mpr (hnone x hx)
      have hsplit : F.headers (l :: b) = F.headers b + 1 := List.countP_cons_of_pos hl
      omega
  · omega

/-- A reader of a log that fits comes before its last header. -/
lemma Reached.exists_few (h : F.Reached k ls i) (hfits : F.Fits k ls) :
    ∃ n, F.headers (ls.drop ((F.step k ls)^[n] i)) ≤ 1 := by
  induction hn : ls.length - i using Nat.strong_induction_on generalizing i with
  | _ d ih =>
      by_cases hfew : F.headers (ls.drop i) ≤ 1
      · exact ⟨0, hfew⟩
      · cases hl : ls.drop i with
        | nil =>
            rw [hl] at hfew
            exact absurd (Nat.zero_le 1) hfew
        | cons l b =>
            rw [hl] at hfew
            have hls : ls = ls.take i ++ l :: b := by rw [← hl, List.take_append_drop]
            have hpass := hfits (ls.take i) l b hls (by omega)
            have hlt := advance_pos hl hpass
            have hle := h.step.le
            obtain ⟨n, hn'⟩ := ih (ls.length - F.step k ls i) (by omega) h.step rfl
            exact ⟨n + 1, hn'⟩

/-- A log whose last header is reached fits the window. -/
lemma Reached.fits_of_few (h : F.Reached k ls i) (hfew : F.headers (ls.drop i) ≤ 1) :
    F.Fits k ls := by
  intro a l b heq htwo
  refine h.passed a l b heq ?_
  by_contra hle
  have hmore := headers_drop_le F ls (Nat.le_of_not_lt hle)
  have hdrop : ls.drop a.length = l :: b := by rw [heq, List.drop_left]
  rw [hdrop] at hmore
  omega

/-- **A log at rest is caught up with** exactly when it fits the window. -/
theorem Reached.catchesUp_iff (h : F.Reached k ls i) :
    (∃ N, ∀ n ≥ N, F.entries (ls.take ((F.step k ls)^[n] i)) = F.closed ls) ↔ F.Fits k ls := by
  constructor
  · rintro ⟨N, hN⟩
    exact (h.iterate N).fits_of_few ((h.iterate N).few_of_closed (hN N le_rfl))
  · intro hfits
    obtain ⟨N, hN⟩ := h.exists_few hfits
    refine ⟨N, fun n hn => (h.iterate n).closed_of_few ?_⟩
    exact (headers_drop_le F ls (le_iterate k ls i hn)).trans hN

/-! ### Two readers of one log -/

/-- A header of the window is not passed. -/
lemma length_le_advance {w a b : List α} {l : α} (hw : w = a ++ l :: b) (hl : F.isHeader l = true) :
    a.length ≤ F.advance w := by
  rcases advance_cases (F := F) w with ⟨p, x, q, hw', hadv, -, hq⟩ | ⟨hadv, -⟩
  · rw [hadv]
    by_contra hlt
    rw [hw] at hw'
    rcases List.append_eq_append_iff.mp hw' with ⟨d, rfl, -⟩ | ⟨d, rfl, hd⟩
    · rw [List.length_append] at hlt
      omega
    · cases d with
      | nil =>
          rw [List.append_nil] at hlt
          omega
      | cons y d =>
          obtain ⟨-, rfl⟩ := List.cons.inj hd
          rw [hq l (List.mem_append_right _ List.mem_cons_self)] at hl
          cases hl
  · rw [hadv, hw, List.length_append]
    omega

/-- The window of the reader ahead ends no earlier. -/
lemma readTo_mono (k : ℕ) (ls : List α) (hij : i ≤ j) : F.readTo k ls i ≤ F.readTo k ls j := by
  rcases Nat.lt_or_ge j (F.readTo k ls i) with hlt | hge
  · obtain ⟨rest, hrest⟩ := window_isPrefix (F := F) k (ls.drop i)
    have htotal := total_window_le (F := F) k (ls.drop i)
    rw [readTo] at hlt
    have hle : j - i ≤ (F.window k (ls.drop i)).length := by omega
    have hpre : (F.window k (ls.drop i)).drop (j - i) <+: ls.drop j := by
      refine ⟨rest, ?_⟩
      rw [← List.drop_append_of_le_length hle, hrest, List.drop_drop]
      congr 1
      omega
    have hfits : F.total ((F.window k (ls.drop i)).drop (j - i)) ≤ k := by
      rw [← List.take_append_drop (j - i) (F.window k (ls.drop i)), total_append] at htotal
      omega
    have hlen := (prefix_window hpre hfits).length_le
    rw [List.length_drop] at hlen
    rw [readTo, readTo]
    omega
  · exact hge.trans (Nat.le_add_right _ _)

/-- **The reader ahead stays ahead.** -/
lemma step_mono (k : ℕ) (ls : List α) : Monotone (F.step k ls) := by
  intro i j hij
  rcases Nat.lt_or_ge j (F.step k ls i) with hlt | hge
  · have hread := readTo_mono (F := F) k ls hij
    obtain ⟨rest, hrest⟩ := window_isPrefix (F := F) k (ls.drop i)
    obtain ⟨rest', hrest'⟩ := window_isPrefix (F := F) k (ls.drop j)
    rcases advance_cases (F := F) (F.window k (ls.drop i)) with
      ⟨a, l, b, hw, hadv, hheader, -⟩ | ⟨hadv, hnone⟩
    · -- the header moved to lies in the window of the reader ahead
      rw [step, hadv] at hlt ⊢
      rw [readTo, readTo, hw, List.length_append, List.length_cons] at hread
      have hdrop : ls.drop j = a.drop (j - i) ++ l :: (b ++ rest) := by
        have hj : j = i + (j - i) := by omega
        rw [hj, ← List.drop_drop, ← hrest, hw, List.append_assoc, List.cons_append,
          List.drop_append_of_le_length (by omega), Nat.add_sub_cancel_left]
      have hlen : (a.drop (j - i)).length < (F.window k (ls.drop j)).length := by
        rw [List.length_drop]
        omega
      obtain ⟨c, hc⟩ : ∃ c, F.window k (ls.drop j) = a.drop (j - i) ++ l :: c := by
        have heq : F.window k (ls.drop j) ++ rest' = a.drop (j - i) ++ l :: (b ++ rest) := by
          rw [hrest', hdrop]
        rcases List.append_eq_append_iff.mp heq with ⟨d, hd, -⟩ | ⟨d, hd, hb⟩
        · rw [hd, List.length_append] at hlen
          omega
        · cases d with
          | nil =>
              rw [hd, List.append_nil] at hlen
              omega
          | cons x d =>
              obtain ⟨rfl, -⟩ := List.cons.inj hb
              exact ⟨d, hd⟩
      have hle := length_le_advance hc hheader
      rw [List.length_drop] at hle
      rw [step]
      omega
    · -- no header up to the end of the window: the reader ahead stops behind it
      rcases advance_cases (F := F) (F.window k (ls.drop j)) with
        ⟨a, l, b, hw, hadv', hheader, -⟩ | ⟨hadv', -⟩
      · rw [step, hadv]
        by_contra hbehind
        rw [step, hadv'] at hbehind
        have hget : (ls.drop j)[a.length]? = some l := by
          rw [← hrest', hw, List.append_assoc, List.getElem?_append_right le_rfl, Nat.sub_self]
          rfl
        have hmem : l ∈ F.window k (ls.drop i) := by
          have hget' : (F.window k (ls.drop i) ++ rest)[j - i + a.length]? = some l := by
            rw [hrest, ← hget, List.getElem?_drop, List.getElem?_drop]
            congr 1
            omega
          rw [List.getElem?_append_left (by omega)] at hget'
          exact List.mem_of_getElem? hget'
        rw [hnone l hmem] at hheader
        cases hheader
      · rw [step, step, hadv, hadv']
        exact hread
  · exact hge.trans (le_step k ls j)

/-- A reader reaches every place another stands at. -/
lemma Reached.exists_le (hj : F.Reached k ls j) (i : ℕ) : ∃ n, j ≤ (F.step k ls)^[n] i := by
  induction hn : j - i using Nat.strong_induction_on generalizing i with
  | _ d ih =>
      rcases Nat.lt_or_ge i j with hlt | hge
      · cases hl : ls.drop i with
        | nil =>
            have hlen := List.drop_eq_nil_iff.mp hl
            have hle := hj.le
            omega
        | cons l b =>
            have hle := hj.le
            have hls : ls = ls.take i ++ l :: b := by rw [← hl, List.take_append_drop]
            have hlen : (ls.take i).length < j := by
              rw [List.length_take]
              omega
            have hpos := advance_pos hl (hj.passed (ls.take i) l b hls hlen)
            obtain ⟨n, hn'⟩ := ih (j - F.step k ls i) (by omega) _ rfl
            exact ⟨n + 1, hn'⟩
      · exact ⟨0, hge⟩

/-- A reader comes to rest. -/
lemma Reached.exists_rest (h : F.Reached k ls i) :
    ∃ N, ∀ n ≥ N, (F.step k ls)^[n] i = (F.step k ls)^[N] i := by
  by_contra hnone
  push Not at hnone
  have hgrows : ∀ n, ∃ m, n ≤ (F.step k ls)^[m] i := by
    intro n
    induction n with
    | zero => exact ⟨0, Nat.zero_le _⟩
    | succ n ih =>
        obtain ⟨m, hm⟩ := ih
        obtain ⟨m', hge, hne⟩ := hnone m
        have hle := le_iterate (F := F) k ls i hge
        exact ⟨m', by omega⟩
  obtain ⟨m, hm⟩ := hgrows (ls.length + 1)
  have hle := (h.iterate m).le
  omega

/-- **Two readers of one log come to stand at one place.** -/
theorem Reached.confluent (hi : F.Reached k ls i) (hj : F.Reached k ls j) :
    ∃ N, ∀ n ≥ N, (F.step k ls)^[n] i = (F.step k ls)^[n] j := by
  -- the reader behind comes to the place of the other, and stays behind it
  have hordered : ∀ {i j : ℕ}, F.Reached k ls i → F.Reached k ls j → i ≤ j →
      ∃ N, ∀ n ≥ N, (F.step k ls)^[n] i = (F.step k ls)^[n] j := by
    intro i j hi hj hij
    obtain ⟨N, hN⟩ := hi.exists_rest
    obtain ⟨m, hm⟩ := hj.exists_le i
    refine ⟨N, fun n hn => le_antisymm ((step_mono k ls).iterate n hij) ?_⟩
    calc (F.step k ls)^[n] j ≤ (F.step k ls)^[n] ((F.step k ls)^[m] i) :=
          (step_mono k ls).iterate n hm
      _ = (F.step k ls)^[n + m] i := (Function.iterate_add_apply _ n m i).symm
      _ = (F.step k ls)^[n] i := by rw [hN (n + m) (by omega), hN n hn]
  rcases Nat.le_total i j with hij | hji
  · exact hordered hi hj hij
  · obtain ⟨N, hN⟩ := hordered hj hi hji
    exact ⟨N, fun n hn => (hN n hn).symm⟩

/-! ### Entries that may be refused -/

/-- One step of a reader whose entries may be refused: where one of those it would
leave behind is, it stays. -/
def tryStep (F : LineFormat α ε) (ok : ε → Bool) (k : ℕ) (ls : List α) (i : ℕ) : ℕ :=
  if (F.closed (F.window k (ls.drop i))).all ok then F.step k ls i else i

variable {ok : ε → Bool}

lemma Reached.tryStep (h : F.Reached k ls i) : F.Reached k ls (F.tryStep ok k ls i) := by
  rw [LineFormat.tryStep]
  split
  · exact h.step
  · exact h

/-- Nothing that is refused is left behind. -/
lemma Reached.ok_take_tryStep (h : F.Reached k ls i) (hok : ∀ e ∈ F.entries (ls.take i), ok e = true) :
    ∀ e ∈ F.entries (ls.take (F.tryStep ok k ls i)), ok e = true := by
  rw [LineFormat.tryStep]
  split
  · next hall =>
      rw [h.entries_take_step]
      intro e he
      rcases List.mem_append.mp he with he | he
      · exact hok e he
      · exact List.all_eq_true.mp hall e he
  · exact hok

/-- What a step leaves behind are closed entries of the log. -/
lemma Reached.mem_closed_of_window (h : F.Reached k ls i) {e : ε}
    (he : e ∈ F.closed (F.window k (ls.drop i))) : e ∈ F.closed ls := by
  rw [h.step.closed, h.entries_take_step]
  exact List.mem_append_left _ (List.mem_append_right _ he)

/-- **A reader whose entries may be refused gets through a log at rest** exactly when the
log fits the window and none of its closed entries is refused. -/
theorem Reached.getsThrough_iff (h : F.Reached k ls i)
    (hok : ∀ e ∈ F.entries (ls.take i), ok e = true) :
    (∃ N, ∀ n ≥ N, F.headers (ls.drop ((F.tryStep ok k ls)^[n] i)) ≤ 1) ↔
      F.Fits k ls ∧ ∀ e ∈ F.closed ls, ok e = true := by
  have hreached : ∀ n, F.Reached k ls ((F.tryStep ok k ls)^[n] i) ∧
      ∀ e ∈ F.entries (ls.take ((F.tryStep ok k ls)^[n] i)), ok e = true := by
    intro n
    induction n with
    | zero => exact ⟨h, hok⟩
    | succ n ih =>
        rw [Function.iterate_succ_apply']
        exact ⟨ih.1.tryStep, ih.1.ok_take_tryStep ih.2⟩
  constructor
  · rintro ⟨N, hN⟩
    obtain ⟨hat, hbehind⟩ := hreached N
    have hfew := hN N le_rfl
    refine ⟨hat.fits_of_few hfew, ?_⟩
    rw [← hat.closed_of_few hfew]
    exact hbehind
  · rintro ⟨hfits, hall⟩
    have hstep : ∀ n, (F.tryStep ok k ls)^[n] i = (F.step k ls)^[n] i := by
      intro n
      induction n with
      | zero => rfl
      | succ n ih =>
          rw [Function.iterate_succ_apply', Function.iterate_succ_apply', ih, LineFormat.tryStep,
            if_pos]
          exact List.all_eq_true.mpr fun e he => hall e ((h.iterate n).mem_closed_of_window he)
    obtain ⟨N, hN⟩ := h.exists_few hfits
    refine ⟨N, fun n hn => ?_⟩
    rw [hstep]
    exact (headers_drop_le F ls (le_iterate k ls i hn)).trans hN

end Reader

end LineFormat

end Tailing
