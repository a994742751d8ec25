import Pretzel.Library.CommonSubsequence

/-!
`mgmtd/www/js/commit.js`: the diff an operator approves a publish by.

* `table`, `cell`: the table of lengths, filled from its last row and column on.
* `flush`, `walk`, `splitDiff`: the two queues, the walk through the table and the
  rows of the diff.
* `cell_table`: **a cell is the length of a longest common subsequence**.
* `splitDiff_shows`: **the rows are the two texts, aligned**.
-/

namespace Pretzel.Mgmtd

open List

/-- A string of JavaScript, by its code units. -/
abbrev JsString := List UInt16

/-- A row of the diff: the line before and the line after, none for `null`, and whether
it is marked as changed. -/
structure DiffRow (α : Type) where
  l : Option α
  r : Option α
  ch : Bool
deriving DecidableEq

namespace ReviewDiff

variable {α : Type}

/-! ### The table -/

section Table

variable [DecidableEq α]

/-- The inner loop: the cells of a row from the last column on, by the line of the row
and the row below. -/
def fillRow (line : α) : List α → List ℕ → List ℕ
  | [], _ => [0]
  | other :: b, below =>
      let right := fillRow line b below.tail
      (if line = other then below.tail.headD 0 + 1 else max (below.headD 0) (right.headD 0)) :: right

/-- The outer loop: the rows from the last one on. -/
def table : List α → List α → List (List ℕ)
  | [], b => [List.replicate (b.length + 1) 0]
  | line :: a, b => fillRow line b ((table a b).headD []) :: table a b

end Table

/-- `dp[i][j]`. -/
def cell (dp : List (List ℕ)) (i j : ℕ) : ℕ := (dp.getD i []).getD j 0

/-! ### The walk -/

/-- `flush`: the rows of the two queues, in pairs. -/
def flush (remq addq : List α) : List (DiffRow α) :=
  (List.range (max remq.length addq.length)).map fun k => ⟨remq[k]?, addq[k]?, true⟩

/-- The loops of the walk, from the places they have come to. -/
def walk [DecidableEq α] (a b : List α) (dp : List (List ℕ)) (i j : ℕ) (remq addq : List α)
    (rows : List (DiffRow α)) : List (DiffRow α) :=
  if h : i < a.length ∧ j < b.length then
    if a[i] = b[j] then
      walk a b dp (i + 1) (j + 1) [] []
        (rows ++ flush remq addq ++ [⟨some a[i], some b[j], false⟩])
    else if cell dp (i + 1) j ≥ cell dp i (j + 1) then
      walk a b dp (i + 1) j (remq ++ [a[i]]) addq rows
    else walk a b dp i (j + 1) remq (addq ++ [b[j]]) rows
  else rows ++ flush (remq ++ a.drop i) (addq ++ b.drop j)
termination_by (a.length - i) + (b.length - j)

/-- The lines of a text: `split('\n')`. -/
def lines (text : JsString) : List JsString := text.splitOn 10

/-- `splitDiff`. -/
def splitDiff (beforeStr afterStr : JsString) : List (DiffRow JsString) :=
  let a := lines beforeStr
  let b := lines afterStr
  walk a b (table a b) 0 0 [] [] []

/-! ### The cells -/

section Cells

variable [DecidableEq α]

/-- A row over a row of lengths is one of lengths. -/
lemma fillRow_spec {line : α} {a b : List α} {below : List ℕ}
    (h : ∀ j ≤ b.length, LcsLength a (b.drop j) (below.getD j 0)) :
    ∀ j ≤ b.length, LcsLength (line :: a) (b.drop j) ((fillRow line b below).getD j 0) := by
  induction b generalizing below with
  | nil =>
      intro j hj
      obtain rfl := Nat.le_zero.mp hj
      exact .nil_right _
  | cons other b ih =>
      have htail : ∀ j, below.tail.getD j 0 = below.getD (j + 1) 0 := by
        intro j
        cases below <;> rfl
      have hbelow : ∀ j ≤ b.length, LcsLength a (b.drop j) (below.tail.getD j 0) := by
        intro j hj
        rw [htail]
        exact h (j + 1) (Nat.succ_le_succ hj)
      have hright := ih hbelow
      intro j hj
      cases j with
      | succ j => exact hright j (Nat.le_of_succ_le_succ hj)
      | zero =>
          have hdown : LcsLength a (other :: b) (below.headD 0) := by
            have hcell := h 0 (Nat.zero_le _)
            cases below <;> exact hcell
          have hdiagonal : LcsLength a b (below.tail.headD 0) := by
            have hcell := h 1 (Nat.succ_le_succ (Nat.zero_le _))
            rw [← htail 0] at hcell
            cases hbelow : below.tail <;> rw [hbelow] at hcell <;> exact hcell
          have hnext : LcsLength (line :: a) b ((fillRow line b below.tail).headD 0) := by
            have hcell := hright 0 (Nat.zero_le _)
            cases hrow : fillRow line b below.tail <;> rw [hrow] at hcell <;> exact hcell
          rw [fillRow]
          by_cases heq : line = other
          · rw [if_pos heq, heq]
            exact hdiagonal.cons_same
          · rw [if_neg heq]
            exact .cons_ne heq hdown hnext

lemma head_table_spec (a b : List α) :
    ∀ j ≤ b.length, LcsLength a (b.drop j) (((table a b).headD []).getD j 0) := by
  induction a with
  | nil =>
      intro j hj
      have hzero : (List.replicate (b.length + 1) 0).getD j 0 = 0 := by
        rw [List.getD_eq_getElem?_getD, List.getElem?_replicate]
        split <;> rfl
      rw [table, List.headD_cons, hzero]
      exact .nil_left _
  | cons line a ih => exact fillRow_spec ih

lemma getD_table (a b : List α) {i : ℕ} (hi : i ≤ a.length) :
    (table a b).getD i [] = (table (a.drop i) b).headD [] := by
  induction a generalizing i with
  | nil =>
      obtain rfl := Nat.le_zero.mp hi
      rfl
  | cons line a ih =>
      cases i with
      | zero => rfl
      | succ i => exact ih (Nat.le_of_succ_le_succ hi)

/-- **A cell is the length of a longest common subsequence** of the lines that are
left. -/
lemma cell_table (a b : List α) {i j : ℕ} (hi : i ≤ a.length) (hj : j ≤ b.length) :
    LcsLength (a.drop i) (b.drop j) (cell (table a b) i j) := by
  rw [cell, getD_table a b hi]
  exact head_table_spec _ _ j hj

/-- No cell is more than the number of lines, so that an `Int32Array` holds it. -/
lemma cell_le (a b : List α) {i j : ℕ} (hi : i ≤ a.length) (hj : j ≤ b.length) :
    cell (table a b) i j ≤ a.length :=
  (cell_table a b hi hj).le_length.trans (List.drop_sublist i a).length_le

/-- The cell of two lines that are the same. -/
lemma cell_same {a b : List α} {i j : ℕ} (hi : i < a.length) (hj : j < b.length)
    (heq : a[i] = b[j]) : cell (table a b) i j = cell (table a b) (i + 1) (j + 1) + 1 := by
  have hcell := cell_table a b hi.le hj.le
  have hnext := cell_table a b hi hj
  rw [List.drop_eq_getElem_cons hi, List.drop_eq_getElem_cons hj, heq] at hcell
  exact hcell.unique hnext.cons_same

/-- The cell of two lines that are not. -/
lemma cell_ne {a b : List α} {i j : ℕ} (hi : i < a.length) (hj : j < b.length)
    (hne : a[i] ≠ b[j]) : cell (table a b) i j =
      max (cell (table a b) (i + 1) j) (cell (table a b) i (j + 1)) := by
  have hcell := cell_table a b hi.le hj.le
  have hdown := cell_table a b (i := i + 1) hi hj.le
  have hright := cell_table a b hi.le (j := j + 1) hj
  rw [List.drop_eq_getElem_cons hi, List.drop_eq_getElem_cons hj] at hcell
  rw [List.drop_eq_getElem_cons hj] at hdown
  rw [List.drop_eq_getElem_cons hi] at hright
  exact hcell.unique (.cons_ne hne hdown hright)

end Cells

/-! ### The rows -/

/-- A row that shows a line, and shows one line where it is not marked. -/
structure Shows (row : DiffRow α) : Prop where
  unmarked : row.ch = false → row.l = row.r
  some : row.l ≠ none ∨ row.r ≠ none

/-- A row without a mark. -/
def unmarked (row : DiffRow α) : Bool := !row.ch

lemma filterMap_range_getElem? (queue : List α) (n : ℕ) :
    (List.range n).filterMap (fun k => queue[k]?) = queue.take n := by
  induction n with
  | zero => rfl
  | succ n ih =>
      rw [List.range_succ, List.filterMap_append, ih, List.take_add_one, List.filterMap_cons,
        List.filterMap_nil]
      cases queue[n]? <;> rfl

section Flush

variable (remq addq : List α)

/-- What is flushed is the lines taken out, and those put in. -/
lemma columns_flush : (flush remq addq).filterMap DiffRow.l = remq ∧
    (flush remq addq).filterMap DiffRow.r = addq := by
  constructor
  · rw [flush, List.filterMap_map]
    exact (filterMap_range_getElem? remq _).trans (List.take_of_length_le (le_max_left _ _))
  · rw [flush, List.filterMap_map]
    exact (filterMap_range_getElem? addq _).trans (List.take_of_length_le (le_max_right _ _))

lemma shows_flush : ∀ row ∈ flush remq addq, Shows row := by
  intro row hrow
  obtain ⟨k, hk, rfl⟩ := List.mem_map.mp hrow
  rw [List.mem_range, lt_max_iff] at hk
  refine ⟨fun hmark => Bool.noConfusion hmark, ?_⟩
  rcases hk with hk | hk
  · exact .inl (by rw [List.getElem?_eq_getElem hk]; exact Option.some_ne_none _)
  · exact .inr (by rw [List.getElem?_eq_getElem hk]; exact Option.some_ne_none _)

lemma countP_flush : (flush remq addq).countP unmarked = 0 := by
  rw [List.countP_eq_zero]
  intro row hrow
  obtain ⟨k, -, rfl⟩ := List.mem_map.mp hrow
  exact Bool.false_ne_true

end Flush

/-- **The walk**: the rows it adds show the lines left on both sides, and as many of them
are without a mark as the cell says. -/
lemma walk_spec [DecidableEq α] {a b : List α} {i j : ℕ} (hi : i ≤ a.length) (hj : j ≤ b.length)
    (remq addq : List α) (rows : List (DiffRow α)) :
    (walk a b (table a b) i j remq addq rows).filterMap DiffRow.l =
        rows.filterMap DiffRow.l ++ remq ++ a.drop i ∧
      (walk a b (table a b) i j remq addq rows).filterMap DiffRow.r =
        rows.filterMap DiffRow.r ++ addq ++ b.drop j ∧
      ((∀ row ∈ rows, Shows row) → ∀ row ∈ walk a b (table a b) i j remq addq rows, Shows row) ∧
      (walk a b (table a b) i j remq addq rows).countP unmarked =
        rows.countP unmarked + cell (table a b) i j := by
  fun_induction walk a b (table a b) i j remq addq rows with
  | case1 i j remq addq rows h heq ih =>
      obtain ⟨hleft, hright, hshows, hcount⟩ := ih h.1 h.2
      obtain ⟨hremq, haddq⟩ := columns_flush remq addq
      refine ⟨?_, ?_, fun hall => hshows fun row hrow => ?_, ?_⟩
      · rw [hleft, List.drop_eq_getElem_cons h.1]
        simp [hremq]
      · rw [hright, List.drop_eq_getElem_cons h.2]
        simp [haddq]
      · rw [List.mem_append, List.mem_append, List.mem_singleton] at hrow
        rcases hrow with (hrow | hrow) | rfl
        · exact hall row hrow
        · exact shows_flush remq addq row hrow
        · exact ⟨fun _ => congrArg Option.some heq, .inl (Option.some_ne_none _)⟩
      · rw [hcount, cell_same h.1 h.2 heq, List.countP_append, List.countP_append, countP_flush,
          List.countP_singleton, if_pos (show unmarked ⟨_, _, false⟩ = true from rfl)]
        omega
  | case2 i j remq addq rows h hne hge ih =>
      obtain ⟨hleft, hright, hshows, hcount⟩ := ih h.1 hj
      refine ⟨?_, hright, hshows, ?_⟩
      · rw [hleft, List.drop_eq_getElem_cons h.1]
        simp
      · rw [hcount, cell_ne h.1 h.2 hne, Nat.max_eq_left hge]
  | case3 i j remq addq rows h hne hlt ih =>
      obtain ⟨hleft, hright, hshows, hcount⟩ := ih hi h.2
      refine ⟨hleft, ?_, hshows, ?_⟩
      · rw [hright, List.drop_eq_getElem_cons h.2]
        simp
      · rw [hcount, cell_ne h.1 h.2 hne, Nat.max_eq_right (Nat.le_of_not_le hlt)]
  | case4 i j remq addq rows h =>
      obtain ⟨hremq, haddq⟩ := columns_flush (remq ++ a.drop i) (addq ++ b.drop j)
      refine ⟨?_, ?_, fun hall row hrow => ?_, ?_⟩
      · rw [List.filterMap_append, hremq, List.append_assoc]
      · rw [List.filterMap_append, haddq, List.append_assoc]
      · rcases List.mem_append.mp hrow with hrow | hrow
        · exact hall row hrow
        · exact shows_flush _ _ row hrow
      · -- One of the sides has come to its end.
        have hcell := cell_table a b hi hj
        have hend : cell (table a b) i j = 0 := by
          rcases not_and_or.mp h with hdone | hdone
          · have hnil : a.drop i = [] := List.drop_eq_nil_of_le (Nat.le_of_not_lt hdone)
            rw [hnil] at hcell
            exact hcell.unique (.nil_left _)
          · have hnil : b.drop j = [] := List.drop_eq_nil_of_le (Nat.le_of_not_lt hdone)
            rw [hnil] at hcell
            exact hcell.unique (.nil_right _)
        rw [List.countP_append, countP_flush, hend]

/-- **The review diff shows exactly the change.** Down the left column stand the lines
before, down the right one the lines after; a row without a mark has one line on both
sides, and no row is empty; and as many rows are without a mark as a longest common
subsequence of the lines is long. -/
theorem splitDiff_shows (beforeStr afterStr : JsString) :
    (splitDiff beforeStr afterStr).filterMap DiffRow.l = lines beforeStr ∧
      (splitDiff beforeStr afterStr).filterMap DiffRow.r = lines afterStr ∧
      (∀ row ∈ splitDiff beforeStr afterStr,
        (row.ch = false → row.l = row.r) ∧ (row.l ≠ none ∨ row.r ≠ none)) ∧
      LcsLength (lines beforeStr) (lines afterStr)
        ((splitDiff beforeStr afterStr).countP fun row => !row.ch) := by
  obtain ⟨hleft, hright, hshows, hcount⟩ := walk_spec (a := lines beforeStr) (b := lines afterStr)
    (Nat.zero_le _) (Nat.zero_le _) [] [] []
  refine ⟨hleft, hright, fun row hrow => ?_, ?_⟩
  · have hrow := hshows (fun _ hnil => nomatch hnil) row hrow
    exact ⟨hrow.unmarked, hrow.some⟩
  · have hcell := cell_table (lines beforeStr) (lines afterStr) (Nat.zero_le _) (Nat.zero_le _)
    rw [List.countP_nil, Nat.zero_add] at hcount
    rw [← hcount] at hcell
    exact hcell

end ReviewDiff

end Pretzel.Mgmtd
