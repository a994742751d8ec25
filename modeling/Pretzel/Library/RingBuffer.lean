import Mathlib.Tactic

/-!
A circular buffer of fixed capacity.

* `RingBuffer`: the cells, the two cursors and the number of elements held, with
  what keeps them consistent.
* `writeLen`, `readLen`: the regions that do not wrap, at which a caller may
  write (`produce`) and read (`view`) in place.
* `write`, `peek`, `consume`: the operations across the wrap.
* `contents`: the queue the buffer stands for; `contents_produce`,
  `contents_write`, `contents_consume`, `peek_eq_take`, `view_eq_take`: the
  operations, on the queue.
-/

/-- A circular buffer. The cells are given by their index; the ones from the
capacity on are never looked at. -/
structure RingBuffer (α : Type*) where
  buffer : ℕ → α
  capacity : ℕ
  head : ℕ
  tail : ℕ
  size : ℕ
  capacity_pos : 0 < capacity
  head_lt : head < capacity
  size_le : size ≤ capacity
  tail_eq : tail = (head + size) % capacity

namespace RingBuffer

variable {α : Type*}

/-- A buffer that holds nothing. -/
def empty (capacity : ℕ) (h : 0 < capacity) (a : α) : RingBuffer α where
  buffer := fun _ => a
  capacity
  head := 0
  tail := 0
  size := 0
  capacity_pos := h
  head_lt := h
  size_le := Nat.zero_le _
  tail_eq := (Nat.zero_mod _).symm

/-- An index below twice the capacity, wrapped once. -/
lemma mod_capacity {i c : ℕ} (h : i < 2 * c) : i % c = if i < c then i else i - c := by
  split
  · next hlt => exact Nat.mod_eq_of_lt hlt
  · next hge =>
      rw [Nat.mod_eq_sub_mod (by omega)]
      exact Nat.mod_eq_of_lt (by omega)

variable (r : RingBuffer α)

/-! ### The regions -/

/-- The number of elements held. -/
def readable : ℕ := r.size

/-- The number of elements there is room for. -/
def writable : ℕ := r.capacity - r.size

/-- The free cells from the tail on that do not wrap. -/
def writeLen : ℕ := if r.writable = 0 then 0 else min (r.capacity - r.tail) r.writable

/-- The elements from the head on that do not wrap. -/
def readLen : ℕ := if r.readable = 0 then 0 else min (r.capacity - r.head) r.readable

/-- The queue the buffer stands for. -/
def contents : List α := (List.range r.size).map fun i => r.buffer ((r.head + i) % r.capacity)

@[simp] lemma length_contents : r.contents.length = r.size := by
  simp [contents]

lemma getElem?_contents (i : ℕ) : r.contents[i]? =
    if i < r.size then some (r.buffer ((r.head + i) % r.capacity)) else none := by
  by_cases h : i < r.size <;> simp [contents, h]

@[simp] lemma contents_empty (capacity : ℕ) (h : 0 < capacity) (a : α) :
    (empty capacity h a).contents = [] := rfl

lemma tail_lt : r.tail < r.capacity := by
  rw [r.tail_eq]
  exact Nat.mod_lt _ r.capacity_pos

/-- Where the tail stands. -/
lemma tail_cases : r.tail = if r.head + r.size < r.capacity then r.head + r.size
    else r.head + r.size - r.capacity := by
  have := r.head_lt
  have := r.size_le
  rw [r.tail_eq, mod_capacity (by omega)]

lemma writeLen_le_writable : r.writeLen ≤ r.writable := by
  rw [writeLen]
  split <;> omega

lemma writeLen_le_toEnd : r.writeLen ≤ r.capacity - r.tail := by
  rw [writeLen]
  split <;> omega

lemma writeLen_pos (h : 0 < r.writable) : 0 < r.writeLen := by
  have := r.tail_lt
  rw [writeLen, if_neg (by omega)]
  omega

lemma writeLen_eq_zero_iff : r.writeLen = 0 ↔ r.writable = 0 := by
  have hle := r.writeLen_le_writable
  constructor
  · intro h
    by_contra hne
    have := r.writeLen_pos (Nat.pos_of_ne_zero hne)
    omega
  · intro h
    omega

lemma readLen_le_readable : r.readLen ≤ r.readable := by
  rw [readLen]
  split <;> omega

lemma readLen_le_toEnd : r.readLen ≤ r.capacity - r.head := by
  rw [readLen]
  split <;> omega

/-! ### Writing -/

/-- Data copied over the cells from an index on. -/
def copyTo (buffer : ℕ → α) (pos : ℕ) (data : List α) : ℕ → α :=
  fun i => if pos ≤ i then (data[i - pos]?).getD (buffer i) else buffer i

/-- Data put at the tail, in the region that does not wrap. -/
def produce (data : List α) (h : data.length ≤ r.writeLen) : RingBuffer α where
  buffer := copyTo r.buffer r.tail data
  capacity := r.capacity
  head := r.head
  tail := (r.tail + data.length) % r.capacity
  size := r.size + data.length
  capacity_pos := r.capacity_pos
  head_lt := r.head_lt
  size_le := by
    have := r.size_le
    have := r.writeLen_le_writable
    simp only [writable] at this
    omega
  tail_eq := by rw [r.tail_eq, Nat.mod_add_mod, Nat.add_assoc]

@[simp] lemma capacity_produce {data : List α} (h : data.length ≤ r.writeLen) :
    (r.produce data h).capacity = r.capacity := rfl

@[simp] lemma size_produce {data : List α} (h : data.length ≤ r.writeLen) :
    (r.produce data h).size = r.size + data.length := rfl

/-- **What is put at the tail is put at the back of the queue.** -/
theorem contents_produce {data : List α} (h : data.length ≤ r.writeLen) :
    (r.produce data h).contents = r.contents ++ data := by
  have hhead := r.head_lt
  have hsize := r.size_le
  have htail := r.tail_cases
  have htoEnd : data.length ≤ r.capacity - r.tail := h.trans r.writeLen_le_toEnd
  have hroom : data.length ≤ r.capacity - r.size := h.trans r.writeLen_le_writable
  refine List.ext_getElem? fun i => ?_
  rw [getElem?_contents, size_produce, List.getElem?_append, length_contents, getElem?_contents]
  by_cases hold : i < r.size
  · -- an element held already stands outside the cells written
    rw [if_pos (by omega), if_pos hold, if_pos hold]
    have hcell : copyTo r.buffer r.tail data ((r.head + i) % r.capacity)
        = r.buffer ((r.head + i) % r.capacity) := by
      have hindex : (r.head + i) % r.capacity = if r.head + i < r.capacity then r.head + i
          else r.head + i - r.capacity := mod_capacity (by omega)
      generalize (r.head + i) % r.capacity = j at hindex
      rw [copyTo]
      split
      · next hpos =>
          have hnone : data.length ≤ j - r.tail := by
            split at htail <;> split at hindex <;> omega
          rw [List.getElem?_eq_none hnone]
          rfl
      · rfl
    exact congrArg some hcell
  · rw [if_neg hold]
    by_cases hnew : i < r.size + data.length
    · rw [if_pos hnew]
      have hindex : (r.head + i) % r.capacity = r.tail + (i - r.size) := by
        rw [mod_capacity (by omega)]
        split at htail <;> split <;> omega
      have hcell : copyTo r.buffer r.tail data ((r.head + i) % r.capacity)
          = (data[i - r.size]?).getD (r.buffer ((r.head + i) % r.capacity)) := by
        rw [hindex, copyTo, if_pos (by omega), Nat.add_sub_cancel_left]
      have hget : i - r.size < data.length := by omega
      rw [List.getElem?_eq_getElem hget] at hcell ⊢
      exact congrArg some hcell
    · rw [if_neg hnew, List.getElem?_eq_none (by omega)]

/-- The loop of `write`: the buffer, and the number of elements written. -/
def writeLoop : ℕ → RingBuffer α → List α → RingBuffer α × ℕ
  | 0, r, _ => (r, 0)
  | fuel + 1, r, data =>
      if data.length = 0 ∨ r.writable = 0 then (r, 0)
      else
        let n := min r.writeLen data.length
        let rest := writeLoop fuel
          (r.produce (data.take n) ((List.length_take_le _ _).trans (Nat.min_le_left _ _)))
          (data.drop n)
        (rest.1, n + rest.2)

/-- Data written at the back, as far as there is room. Each turn writes at least
one element. -/
def write (data : List α) : RingBuffer α × ℕ := writeLoop data.length r data

lemma writeLoop_spec (fuel : ℕ) (r : RingBuffer α) (data : List α) (hfuel : data.length ≤ fuel) :
    (writeLoop fuel r data).1.contents = r.contents ++ data.take r.writable ∧
      (writeLoop fuel r data).1.capacity = r.capacity ∧
      (writeLoop fuel r data).2 = min data.length r.writable := by
  induction fuel generalizing r data with
  | zero =>
      have hnil : data = [] := List.length_eq_zero_iff.mp (by omega)
      simp [writeLoop, hnil]
  | succ fuel ih =>
      rw [writeLoop]
      split
      · next hstop =>
          rcases hstop with hnil | hfull
          · rw [List.length_eq_zero_iff.mp hnil]
            simp
          · simp [hfull]
      · next hgo =>
          rw [not_or] at hgo
          obtain ⟨hne, hroom⟩ := hgo
          have hpos := r.writeLen_pos (Nat.pos_of_ne_zero hroom)
          have hle := r.writeLen_le_writable
          have hlen : (data.take (min r.writeLen data.length)).length
              = min r.writeLen data.length := by
            rw [List.length_take]
            omega
          obtain ⟨hcontents, hcap, hcount⟩ := ih (r.produce (data.take (min r.writeLen data.length))
            ((List.length_take_le _ _).trans (Nat.min_le_left _ _)))
            (data.drop (min r.writeLen data.length)) (by rw [List.length_drop]; omega)
          have hwritable : (r.produce (data.take (min r.writeLen data.length))
              ((List.length_take_le _ _).trans (Nat.min_le_left _ _))).writable
                = r.writable - min r.writeLen data.length := by
            simp only [writable, capacity_produce, size_produce, hlen]
            omega
          rw [hwritable] at hcontents hcount
          have hn : min r.writeLen data.length ≤ r.writable := by omega
          have hsplit : data.take r.writable = data.take (min r.writeLen data.length) ++
              (data.drop (min r.writeLen data.length)).take
                (r.writable - min r.writeLen data.length) := by
            rw [← List.take_add, Nat.add_sub_of_le hn]
          refine ⟨?_, hcap, ?_⟩
          · rw [hsplit, ← List.append_assoc, ← contents_produce]
            exact hcontents
          · rw [List.length_drop] at hcount
            dsimp only
            rw [hcount]
            omega

/-- **Data that fits is written whole**, at the back of the queue. -/
theorem contents_write {data : List α} (h : data.length ≤ r.writable) :
    (r.write data).1.contents = r.contents ++ data ∧ (r.write data).1.capacity = r.capacity := by
  obtain ⟨hcontents, hcap, -⟩ := writeLoop_spec data.length r data le_rfl
  rw [List.take_of_length_le h] at hcontents
  exact ⟨hcontents, hcap⟩

/-! ### Reading -/

/-- The elements at the head, in the region that does not wrap. -/
def view (n : ℕ) : List α := (List.range n).map fun i => r.buffer (r.head + i)

/-- **What stands at the head is the front of the queue.** -/
theorem view_eq_take {n : ℕ} (h : n ≤ r.readLen) : r.view n = r.contents.take n := by
  have htoEnd : n ≤ r.capacity - r.head := h.trans r.readLen_le_toEnd
  have hsize : n ≤ r.size := h.trans r.readLen_le_readable
  refine List.ext_getElem? fun i => ?_
  rw [List.getElem?_take, getElem?_contents]
  by_cases hi : i < n
  · rw [if_pos hi, if_pos (by omega), Nat.mod_eq_of_lt (by omega)]
    simp [view, hi]
  · rw [if_neg hi, List.getElem?_eq_none (by simp [view]; omega)]

/-- A copy of the elements at the front, across the wrap. -/
def peek (len : ℕ) : List α :=
  let toRead := min len r.size
  let first := min toRead (r.capacity - r.head)
  r.view first ++ (List.range (toRead - first)).map r.buffer

/-- **A peek gives the front of the queue.** -/
theorem peek_eq_take (len : ℕ) : r.peek len = r.contents.take len := by
  have hhead := r.head_lt
  have hsize := r.size_le
  refine List.ext_getElem? fun i => ?_
  rw [peek, List.getElem?_append, List.getElem?_take, getElem?_contents]
  have hview : (r.view (min (min len r.size) (r.capacity - r.head))).length
      = min (min len r.size) (r.capacity - r.head) := by
    simp [view]
  rw [hview]
  by_cases hfirst : i < min (min len r.size) (r.capacity - r.head)
  · rw [if_pos hfirst, if_pos (by omega), if_pos (by omega), Nat.mod_eq_of_lt (by omega)]
    simp only [view, List.getElem?_map, List.getElem?_range hfirst, Option.map_some]
  · rw [if_neg hfirst]
    by_cases hi : i < min len r.size
    · rw [if_pos (by omega), if_pos (by omega), mod_capacity (by omega), if_neg (by omega)]
      have hrange : i - min (min len r.size) (r.capacity - r.head)
          < min len r.size - min (min len r.size) (r.capacity - r.head) := by omega
      simp only [List.getElem?_map, List.getElem?_range hrange, Option.map_some]
      congr 2
      omega
    · rw [List.getElem?_eq_none (by simp; omega)]
      split
      · rw [if_neg (by omega)]
      · rfl

/-- Elements taken off the front. -/
def consume (n : ℕ) (h : n ≤ r.size) : RingBuffer α where
  buffer := r.buffer
  capacity := r.capacity
  head := (r.head + n) % r.capacity
  tail := r.tail
  size := r.size - n
  capacity_pos := r.capacity_pos
  head_lt := Nat.mod_lt _ r.capacity_pos
  size_le := (Nat.sub_le _ _).trans r.size_le
  tail_eq := by
    rw [r.tail_eq, Nat.mod_add_mod]
    congr 1
    omega

@[simp] lemma capacity_consume {n : ℕ} (h : n ≤ r.size) :
    (r.consume n h).capacity = r.capacity := rfl

@[simp] lemma size_consume {n : ℕ} (h : n ≤ r.size) : (r.consume n h).size = r.size - n := rfl

/-- **What is consumed leaves the front of the queue.** -/
theorem contents_consume {n : ℕ} (h : n ≤ r.size) : (r.consume n h).contents = r.contents.drop n := by
  refine List.ext_getElem? fun i => ?_
  rw [List.getElem?_drop, getElem?_contents, getElem?_contents, size_consume]
  by_cases hi : i < r.size - n
  · rw [if_pos hi, if_pos (by omega)]
    have hindex : ((r.head + n) % r.capacity + i) % r.capacity
        = (r.head + (n + i)) % r.capacity := by
      rw [Nat.mod_add_mod, Nat.add_assoc]
    exact congrArg (fun j => some (r.buffer j)) hindex
  · rw [if_neg hi, if_neg (by omega)]

end RingBuffer
