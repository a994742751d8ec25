import Pretzel.Library.Machine
import Pretzel.Library.RingBuffer

/-!
`shared/algorithm/ByteRingBuffer.cpp`: a vector, two cursors and a count, which
nothing but the operations keeps together.

* `load`, `store`: `memcpy` from and to a vector, none where it leaves it.
* `ByteRingBuffer`: the buffer, with its operations as they are written; the loops
  of `write` and `read` answer none where they would not end.
* `WellFormed`, `ring`: what the operations keep, and the circular buffer of the
  library that it is.
* `Call`, `Guarded`, `rings`: calls, the guards of the callers, and runs of calls.
* `Call.fifo`: **a call of a first-in first-out queue**.
* `calls_refine_queue`: **a run of guarded calls is one of the queue**.
-/

namespace Pretzel.Algorithm

open Reactive

/-! ### Memory -/

/-- `memcpy` out of a vector. -/
def load (cells : List UInt8) (pos n : ℕ) : Option (List UInt8) :=
  if pos + n ≤ cells.length then some ((cells.drop pos).take n) else none

/-- `memcpy` into a vector. -/
def store (cells : List UInt8) (pos : ℕ) (data : List UInt8) : Option (List UInt8) :=
  if pos + data.length ≤ cells.length then
    some (cells.take pos ++ data ++ cells.drop (pos + data.length))
  else none

/-! ### The buffer -/

/-- `ByteRingBuffer`. -/
structure ByteRingBuffer where
  buffer : List UInt8
  head : ℕ
  tail : ℕ
  size : ℕ
deriving DecidableEq

namespace ByteRingBuffer

/-- The constructor. -/
def new (capacity : ℕ) : ByteRingBuffer := ⟨List.replicate capacity 0, 0, 0, 0⟩

variable (r : ByteRingBuffer)

/-- `capacity`. -/
def capacity : ℕ := r.buffer.length

/-- `readable`. -/
def readable : ℕ := r.size

/-- `writable`. -/
def writable : ℕ := r.capacity - r.size

/-- `writePtr`, by its offset; none is `nullptr`. -/
def writePtr : Option ℕ := if r.writable = 0 then none else some r.tail

/-- `writeLen`. -/
def writeLen : ℕ := if r.writable = 0 then 0 else min (r.buffer.length - r.tail) r.writable

/-- `produce`. -/
def produce (n : ℕ) : ByteRingBuffer :=
  { r with tail := (r.tail + n) % r.buffer.length, size := r.size + n }

/-- Data copied to `writePtr`, and produced. -/
def place (data : List UInt8) : Option ByteRingBuffer :=
  if data = [] then some (r.produce 0)
  else do
    let pos ← r.writePtr
    let buffer ← store r.buffer pos data
    return { r with buffer }.produce data.length

/-- The loop of `write`, over the data that is left: the buffer, and how much was
written. -/
def writeLoop : ℕ → ByteRingBuffer → List UInt8 → Option (ByteRingBuffer × ℕ)
  | 0, _, _ => none
  | fuel + 1, r, data =>
      if data = [] ∨ r.writable = 0 then some (r, 0)
      else do
        let n := min r.writeLen data.length
        let s ← r.place (data.take n)
        let (t, written) ← writeLoop fuel s (data.drop n)
        return (t, n + written)

/-- `write`. -/
def write (data : List UInt8) : Option (ByteRingBuffer × ℕ) := writeLoop (data.length + 1) r data

/-- `readPtr`, by its offset; none is `nullptr`. -/
def readPtr : Option ℕ := if r.readable = 0 then none else some r.head

/-- `readLen`. -/
def readLen : ℕ := if r.readable = 0 then 0 else min (r.buffer.length - r.head) r.readable

/-- `consume`. -/
def consume (n : ℕ) : ByteRingBuffer :=
  { r with head := (r.head + n) % r.buffer.length, size := r.size - n }

/-- The loop of `read`, for the length that is left: the buffer, and what was read. -/
def readLoop : ℕ → ByteRingBuffer → ℕ → Option (ByteRingBuffer × List UInt8)
  | 0, _, _ => none
  | fuel + 1, r, len =>
      if len = 0 ∨ r.readable = 0 then some (r, [])
      else do
        let n := min r.readLen len
        let pos ← r.readPtr
        let chunk ← load r.buffer pos n
        let (t, out) ← readLoop fuel (r.consume n) (len - n)
        return (t, chunk ++ out)

/-- `read`. -/
def read (len : ℕ) : Option (ByteRingBuffer × List UInt8) := readLoop (len + 1) r len

/-- `peek`. -/
def peek (len : ℕ) : Option (List UInt8) := do
  let toRead := min len r.size
  let first := min toRead (r.buffer.length - r.head)
  let front ← load r.buffer r.head first
  if first < toRead then
    let back ← load r.buffer 0 (toRead - first)
    return front ++ back
  else return front

/-- `clear`. -/
def clear : ByteRingBuffer := { r with head := 0, tail := 0, size := 0 }

/-- The queue the buffer stands for: the bytes held, from the head on. -/
def contents : List UInt8 :=
  (List.range r.size).map fun i => r.buffer.getD ((r.head + i) % r.buffer.length) 0

@[simp] lemma length_contents : r.contents.length = r.readable := by
  simp [contents, readable]

end ByteRingBuffer

/-! ### Calls -/

/-- A call of the buffer. The bytes of `produce` are those the caller put at
`writePtr` before. -/
inductive Call where
  | write (data : List UInt8)
  | produce (data : List UInt8)
  | peek (len : ℕ)
  | read (len : ℕ)
  | consume (n : ℕ)
  | clear
deriving DecidableEq

/-- What a call gives its caller. -/
inductive Reply where
  | done
  | count (n : ℕ)
  | bytes (data : List UInt8)
deriving DecidableEq

namespace ByteRingBuffer

/-- A call carried out, where it ends and stays in the vector. -/
def call (r : ByteRingBuffer) : Call → Option (ByteRingBuffer × Reply)
  | .write data => (r.write data).map fun x => (x.1, .count x.2)
  | .produce data => (r.place data).map fun s => (s, .done)
  | .peek len => (r.peek len).map fun out => (r, .bytes out)
  | .read len => (r.read len).map fun x => (x.1, .bytes x.2)
  | .consume n => some (r.consume n, .done)
  | .clear => some (r.clear, .done)

/-- **The guards of the callers.** -/
def Guarded (r : ByteRingBuffer) : Call → Prop
  | .write data => data.length ≤ r.writable
  | .produce data => data.length ≤ r.writeLen
  | .consume n => n ≤ r.readable
  | .peek _ | .read _ | .clear => True

instance (r : ByteRingBuffer) : (c : Call) → Decidable (r.Guarded c)
  | .write _ | .produce _ | .consume _ => inferInstanceAs (Decidable (_ ≤ _))
  | .peek _ | .read _ | .clear => inferInstanceAs (Decidable True)

end ByteRingBuffer

/-- **A call of a queue**: what goes in goes to the back, what goes out comes from
the front. -/
def Call.fifo (queue : List UInt8) : Call → List UInt8 × Reply
  | .write data => (queue ++ data, .count data.length)
  | .produce data => (queue ++ data, .done)
  | .peek len => (queue, .bytes (queue.take len))
  | .read len => (queue.drop len, .bytes (queue.take len))
  | .consume n => (queue.drop n, .done)
  | .clear => ([], .done)

/-- A queue after some calls. -/
def fifoRun (calls : List Call) : List UInt8 :=
  calls.foldl (fun queue call => (call.fifo queue).1) []

/-- A buffer of some capacity, and its calls. -/
def rings (capacity : ℕ) : Machine ByteRingBuffer Call where
  init r := r = .new capacity
  next r c := (r.call c).map Prod.fst

/-! ### What the operations keep -/

lemma load_eq {cells : List UInt8} {pos n : ℕ} (h : pos + n ≤ cells.length) :
    load cells pos n = some ((List.range n).map fun i => cells.getD (pos + i) 0) := by
  rw [load, if_pos h, Option.some.injEq]
  refine List.ext_getElem? fun i => ?_
  rw [List.getElem?_take, List.getElem?_drop, List.getElem?_map]
  by_cases hi : i < n
  · rw [if_pos hi, List.getElem?_range hi, Option.map_some,
      List.getD_eq_getElem?_getD, List.getElem?_eq_getElem (by omega), Option.getD_some]
  · rw [if_neg hi, List.getElem?_eq_none (by simpa using hi), Option.map_none]

/-- What is stored is stored where the library copies it. -/
lemma getD_store {cells cells' data : List UInt8} {pos : ℕ} (h : store cells pos data = some cells')
    (i : ℕ) : cells'.getD i 0 = RingBuffer.copyTo (fun i => cells.getD i 0) pos data i := by
  rw [store] at h
  split at h
  · next hroom =>
      cases h
      have hpos : (cells.take pos).length = pos := by
        rw [List.length_take]
        omega
      have hfront : (cells.take pos ++ data).length = pos + data.length := by
        rw [List.length_append, hpos]
      rw [RingBuffer.copyTo, List.getD_eq_getElem?_getD, List.getD_eq_getElem?_getD]
      by_cases hbefore : i < pos
      · rw [if_neg (by omega), List.append_assoc, List.getElem?_append_left (by omega),
          List.getElem?_take_of_lt hbefore]
      · rw [if_pos (by omega)]
        by_cases hin : i < pos + data.length
        · rw [List.getElem?_append_left (by omega), List.getElem?_append_right (by omega), hpos,
            List.getElem?_eq_getElem (by omega)]
          rfl
        · rw [List.getElem?_append_right (by omega), hfront, List.getElem?_drop,
            List.getElem?_eq_none (show data.length ≤ i - pos by omega), Option.getD_none]
          congr 2
          omega
  · cases h

lemma length_store {cells cells' data : List UInt8} {pos : ℕ}
    (h : store cells pos data = some cells') : cells'.length = cells.length := by
  rw [store] at h
  split at h
  · next hroom =>
      cases h
      rw [List.length_append, List.length_append, List.length_take, List.length_drop]
      omega
  · cases h

namespace ByteRingBuffer

/-- The cursors stand in the vector, and the count between them. -/
structure WellFormed (r : ByteRingBuffer) : Prop where
  head_lt : r.head < r.capacity
  size_le : r.size ≤ r.capacity
  tail_eq : r.tail = (r.head + r.size) % r.capacity

variable {r : ByteRingBuffer} {data : List UInt8} {n len : ℕ}

/-- The circular buffer it is. -/
def ring (h : WellFormed r) : RingBuffer UInt8 where
  buffer := fun i => r.buffer.getD i 0
  capacity := r.capacity
  head := r.head
  tail := r.tail
  size := r.size
  capacity_pos := Nat.zero_lt_of_lt h.head_lt
  head_lt := h.head_lt
  size_le := h.size_le
  tail_eq := h.tail_eq

lemma wellFormed_new {capacity : ℕ} (h : 0 < capacity) : WellFormed (new capacity) := by
  have hlength : (new capacity).capacity = capacity := List.length_replicate
  refine ⟨?_, Nat.zero_le _, ?_⟩
  · rw [hlength]
    exact h
  · exact (Nat.zero_mod _).symm

lemma tail_lt (h : WellFormed r) : r.tail < r.capacity := by
  rw [h.tail_eq]
  exact Nat.mod_lt _ (Nat.zero_lt_of_lt h.head_lt)

/-- Nothing produced changes nothing. -/
lemma produce_zero (h : WellFormed r) : r.produce 0 = r := by
  have htail : (r.tail + 0) % r.buffer.length = r.tail := Nat.mod_eq_of_lt (tail_lt h)
  rw [produce, htail]
  rfl

/-- **What is placed at the tail** is put at the back. -/
lemma place_spec (h : WellFormed r) (hroom : data.length ≤ r.writeLen) :
    ∃ s, r.place data = some s ∧ WellFormed s ∧ s.capacity = r.capacity ∧
      s.contents = r.contents ++ data := by
  by_cases hnil : data = []
  · rw [place, if_pos hnil, produce_zero h, hnil, List.append_nil]
    exact ⟨r, rfl, h, rfl, rfl⟩
  · have hpos : 0 < data.length := List.length_pos_iff.mpr hnil
    have hsome : r.writable ≠ 0 := by
      intro hfull
      rw [writeLen, if_pos hfull] at hroom
      omega
    have htoEnd : data.length ≤ r.buffer.length - r.tail := by
      rw [writeLen, if_neg hsome] at hroom
      omega
    have htail := tail_lt h
    have hfits : r.tail + data.length ≤ r.buffer.length := by
      rw [capacity] at htail
      omega
    obtain ⟨cells, hcells⟩ : ∃ cells, store r.buffer r.tail data = some cells := by
      rw [store, if_pos hfits]
      exact ⟨_, rfl⟩
    have hlength := length_store hcells
    have hroom' : data.length ≤ (ring h).writeLen := hroom
    refine ⟨{ r with buffer := cells }.produce data.length, ?_, ?_, ?_, ?_⟩
    · rw [place, if_neg hnil, writePtr, if_neg hsome]
      change (store r.buffer r.tail data).bind _ = _
      rw [hcells]
      rfl
    · refine ⟨?_, ?_, ?_⟩
      · rw [capacity, produce, hlength]
        exact h.head_lt
      · rw [capacity, produce, hlength]
        exact ((ring h).produce data hroom').size_le
      · rw [capacity, produce, hlength]
        exact ((ring h).produce data hroom').tail_eq
    · exact hlength
    · rw [← (show (ring h).contents = r.contents from rfl), ← RingBuffer.contents_produce _ hroom',
        contents, produce, hlength, RingBuffer.contents]
      exact List.map_congr_left fun i _ => getD_store hcells _

lemma writeLen_le (r : ByteRingBuffer) : r.writeLen ≤ r.writable := by
  rw [writeLen]
  split
  · exact Nat.zero_le _
  · exact Nat.min_le_right _ _

/-- **A write that fits** is carried out whole. By induction on the turns: each writes
a byte at least. -/
lemma writeLoop_spec (fuel : ℕ) (h : WellFormed r) (hfuel : data.length < fuel)
    (hroom : data.length ≤ r.writable) :
    ∃ s, writeLoop fuel r data = some (s, data.length) ∧ WellFormed s ∧
      s.capacity = r.capacity ∧ s.contents = r.contents ++ data := by
  induction fuel generalizing r data with
  | zero => exact absurd hfuel (Nat.not_lt_zero _)
  | succ fuel ih =>
      rw [writeLoop]
      by_cases hnil : data = []
      · rw [if_pos (.inl hnil), hnil, List.append_nil]
        exact ⟨r, rfl, h, rfl, rfl⟩
      · have hpos : 0 < data.length := List.length_pos_iff.mpr hnil
        have hwrites : 0 < r.writeLen := (ring h).writeLen_pos (Nat.lt_of_lt_of_le hpos hroom)
        have hlen : (data.take (min r.writeLen data.length)).length = min r.writeLen data.length := by
          rw [List.length_take]
          omega
        obtain ⟨s, hs, hkeeps, hcap, hcontents⟩ := @place_spec r
          (data.take (min r.writeLen data.length)) h (by rw [hlen]; exact Nat.min_le_left _ _)
        have hsize : s.readable = r.readable + min r.writeLen data.length := by
          rw [← length_contents, hcontents, List.length_append, length_contents, hlen]
        have hleft : (data.drop (min r.writeLen data.length)).length ≤ s.writable := by
          rw [readable, readable] at hsize
          rw [writable, hcap, hsize, List.length_drop]
          rw [writable] at hroom
          omega
        obtain ⟨t, ht, hkeeps', hcap', hcontents'⟩ :=
          ih hkeeps (by rw [List.length_drop]; omega) hleft
        refine ⟨t, ?_, hkeeps', hcap'.trans hcap, ?_⟩
        · have hgo : ¬(data = [] ∨ r.writable = 0) := by
            rw [not_or]
            exact ⟨hnil, by omega⟩
          rw [if_neg hgo]
          change (r.place _).bind _ = _
          rw [hs, Option.bind_some]
          change (writeLoop fuel s _).bind _ = _
          rw [ht, Option.bind_some, List.length_drop]
          change some (t, _) = _
          rw [Nat.add_sub_of_le (Nat.min_le_right _ _)]
        · rw [hcontents', hcontents, List.append_assoc, List.take_append_drop]

/-- What is consumed leaves the front. -/
lemma consume_spec (h : WellFormed r) (hn : n ≤ r.readable) :
    WellFormed (r.consume n) ∧ (r.consume n).contents = r.contents.drop n := by
  have hn' : n ≤ (ring h).size := hn
  refine ⟨⟨((ring h).consume n hn').head_lt, ((ring h).consume n hn').size_le,
    ((ring h).consume n hn').tail_eq⟩, (ring h).contents_consume hn'⟩

/-- The bytes from the head on, in the region that does not wrap. -/
lemma load_head (h : WellFormed r) (hn : n ≤ r.readLen) :
    load r.buffer r.head n = some (r.contents.take n) := by
  have hhead := h.head_lt
  have hle : n ≤ r.buffer.length - r.head := by
    have htoEnd : n ≤ (ring h).capacity - (ring h).head := hn.trans (ring h).readLen_le_toEnd
    exact htoEnd
  rw [capacity] at hhead
  rw [load_eq (by omega)]
  exact congrArg some ((ring h).view_eq_take hn)

/-- **A read** takes the front. By induction on the turns. -/
lemma readLoop_spec (fuel : ℕ) (h : WellFormed r) (hfuel : len < fuel) :
    ∃ s, readLoop fuel r len = some (s, r.contents.take len) ∧ WellFormed s ∧
      s.capacity = r.capacity ∧ s.contents = r.contents.drop len := by
  induction fuel generalizing r len with
  | zero => exact absurd hfuel (Nat.not_lt_zero _)
  | succ fuel ih =>
      rw [readLoop]
      by_cases hstop : len = 0 ∨ r.readable = 0
      · rw [if_pos hstop]
        rcases hstop with rfl | hempty
        · exact ⟨r, by rw [List.take_zero], h, rfl, by rw [List.drop_zero]⟩
        · have hnil : r.contents = [] := by
            rw [← List.length_eq_zero_iff, length_contents]
            exact hempty
          rw [hnil, List.take_nil, List.drop_nil]
          exact ⟨r, rfl, h, rfl, hnil⟩
      · rw [if_neg hstop]
        rw [not_or] at hstop
        obtain ⟨hlen, hsome⟩ := hstop
        have hhead := h.head_lt
        have hreads : 0 < r.readLen := by
          rw [capacity] at hhead
          rw [readLen, if_neg hsome]
          omega
        have hle : r.readLen ≤ r.readable := (ring h).readLen_le_readable
        obtain ⟨hkeeps, hcontents⟩ := @consume_spec r (min r.readLen len) h (by omega)
        obtain ⟨t, ht, hkeeps', hcap, hcontents'⟩ := @ih _ (len - min r.readLen len) hkeeps (by omega)
        have hsum : min r.readLen len + (len - min r.readLen len) = len :=
          Nat.add_sub_of_le (Nat.min_le_right _ _)
        refine ⟨t, ?_, hkeeps', hcap, ?_⟩
        · rw [readPtr, if_neg hsome]
          change (load r.buffer r.head _).bind _ = _
          rw [load_head h (Nat.min_le_left _ _), Option.bind_some]
          change (readLoop fuel _ _).bind _ = _
          rw [ht, Option.bind_some, hcontents]
          change some (t, _) = _
          rw [← List.take_add, hsum]
        · rw [hcontents', hcontents, List.drop_drop, hsum]

/-- **A peek** gives the front. -/
lemma peek_eq (h : WellFormed r) (len : ℕ) : r.peek len = some (r.contents.take len) := by
  have hhead := h.head_lt
  have hsize := h.size_le
  rw [capacity] at hhead hsize
  have hpeek := (ring h).peek_eq_take len
  rw [← (show (ring h).contents = r.contents from rfl), ← hpeek, peek, RingBuffer.peek]
  rw [load_eq (by omega)]
  change (if _ then _ else _) = _
  split
  · rw [load_eq (by omega)]
    simp only [Nat.zero_add]
    rfl
  · next hwhole =>
      have hnone : min len r.size - min (min len r.size) (r.buffer.length - r.head) = 0 := by omega
      have hnone' : min len (ring h).size - min (min len (ring h).size)
          ((ring h).capacity - (ring h).head) = 0 := hnone
      rw [hnone', List.range_zero, List.map_nil, List.append_nil]
      rfl

lemma clear_spec (h : WellFormed r) : WellFormed r.clear ∧ r.clear.contents = [] :=
  ⟨⟨Nat.zero_lt_of_lt h.head_lt, Nat.zero_le _, (Nat.zero_mod _).symm⟩, rfl⟩

/-- **A guarded call is the call of the queue.** -/
lemma call_spec (h : WellFormed r) {c : Call} (hguard : Guarded r c) :
    ∃ s, r.call c = some (s, (c.fifo r.contents).2) ∧ WellFormed s ∧ s.capacity = r.capacity ∧
      s.contents = (c.fifo r.contents).1 := by
  cases c with
  | write data =>
      obtain ⟨s, hs, hkept⟩ := writeLoop_spec _ h (Nat.lt_succ_self _) hguard
      exact ⟨s, by rw [call, write, hs]; rfl, hkept⟩
  | produce data =>
      obtain ⟨s, hs, hkept⟩ := place_spec h hguard
      exact ⟨s, by rw [call, hs]; rfl, hkept⟩
  | peek len => exact ⟨r, by rw [call, peek_eq h]; rfl, h, rfl, rfl⟩
  | read len =>
      obtain ⟨s, hs, hkept⟩ := readLoop_spec _ h (Nat.lt_succ_self len)
      exact ⟨s, by rw [call, read, hs]; rfl, hkept⟩
  | consume n =>
      obtain ⟨hkeeps, hcontents⟩ := consume_spec h hguard
      exact ⟨r.consume n, rfl, hkeeps, rfl, hcontents⟩
  | clear =>
      obtain ⟨hkeeps, hcontents⟩ := clear_spec h
      exact ⟨r.clear, rfl, hkeeps, rfl, hcontents⟩

/-! ### The regions, and runs -/

/-- **The regions a caller is given**: they do not wrap, the one to read holds the front
of the queue and is empty only where the queue is, and the one to write is empty only
where the queue is full. -/
structure Regions (r : ByteRingBuffer) : Prop where
  readLen_zero : r.readLen = 0 ↔ r.readable = 0
  readPtr_none : r.readPtr = none ↔ r.readable = 0
  read : ∀ pos, r.readPtr = some pos → pos + r.readLen ≤ r.capacity ∧
    load r.buffer pos r.readLen = some (r.contents.take r.readLen)
  writeLen_zero : r.writeLen = 0 ↔ r.writable = 0
  writePtr_none : r.writePtr = none ↔ r.writable = 0
  write : ∀ pos, r.writePtr = some pos → pos + r.writeLen ≤ r.capacity ∧ r.writeLen ≤ r.writable

lemma regions (h : WellFormed r) : Regions r where
  readLen_zero := by
    have hhead := h.head_lt
    rw [capacity] at hhead
    rw [readLen]
    split
    · next hempty => exact iff_of_true rfl hempty
    · next hsome => exact iff_of_false (by omega) hsome
  readPtr_none := by
    rw [readPtr]
    split
    · next hempty => exact iff_of_true rfl hempty
    · next hsome => exact iff_of_false (Option.some_ne_none _) hsome
  read pos hpos := by
    rw [readPtr] at hpos
    split at hpos
    · cases hpos
    · cases hpos
      have hhead := h.head_lt
      have hle : r.readLen ≤ r.capacity - r.head := (ring h).readLen_le_toEnd
      exact ⟨by omega, load_head h le_rfl⟩
  writeLen_zero := (ring h).writeLen_eq_zero_iff
  writePtr_none := by
    rw [writePtr]
    split
    · next hfull => exact iff_of_true rfl hfull
    · next hroom => exact iff_of_false (Option.some_ne_none _) hroom
  write pos hpos := by
    rw [writePtr] at hpos
    split at hpos
    · cases hpos
    · cases hpos
      have htail := tail_lt h
      have hle : r.writeLen ≤ r.capacity - r.tail := (ring h).writeLen_le_toEnd
      exact ⟨by omega, r.writeLen_le⟩

end ByteRingBuffer

open ByteRingBuffer

/-- What a run of guarded calls keeps. -/
lemma run_spec {capacity : ℕ} (hpos : 0 < capacity) {tr : List (ByteRingBuffer × Call)}
    {s : ByteRingBuffer} (hrun : (rings capacity).Run (.new capacity) tr s)
    (hguard : ∀ p ∈ tr, p.1.Guarded p.2) :
    WellFormed s ∧ s.capacity = capacity ∧ s.contents = fifoRun (tr.map Prod.snd) := by
  induction hrun with
  | nil => exact ⟨wellFormed_new hpos, List.length_replicate, rfl⟩
  | @snoc tr t t' c _ hnext ih =>
      obtain ⟨hkeeps, hcap, hcontents⟩ := ih fun p hp => hguard p (List.mem_append_left _ hp)
      have hlast : t.Guarded c := hguard (t, c) (by simp)
      obtain ⟨s, hcall, hkeeps', hcap', hcontents'⟩ := call_spec hkeeps hlast
      have hsame : s = t' := by
        change (t.call c).map Prod.fst = some t' at hnext
        rw [hcall] at hnext
        exact Option.some.inj hnext
      rw [← hsame]
      refine ⟨hkeeps', hcap'.trans hcap, ?_⟩
      rw [hcontents', hcontents, List.map_append, fifoRun, fifoRun, List.foldl_append]
      rfl

/-- **The buffer refines a bounded queue.** After any run of guarded calls on a buffer
of some capacity its bytes are those of the queue the same calls made; what is readable
and what is writable is the capacity; the regions are as a caller takes them to be; a
peek gives the front; and every guarded call ends, stays in the vector, and gives what
the call of the queue gives. -/
theorem calls_refine_queue {capacity : ℕ} (hpos : 0 < capacity)
    {tr : List (ByteRingBuffer × Call)} {s : ByteRingBuffer}
    (hrun : (rings capacity).Run (.new capacity) tr s) (hguard : ∀ p ∈ tr, p.1.Guarded p.2) :
    s.contents = fifoRun (tr.map Prod.snd) ∧ s.contents.length = s.readable ∧
      s.readable + s.writable = capacity ∧ Regions s ∧
      (∀ n, ∃ out, s.peek n = some out ∧ out = (fifoRun (tr.map Prod.snd)).take n ∧
        out.length = min n s.readable) ∧
      ∀ c, s.Guarded c → ∃ t, s.call c = some (t, (c.fifo s.contents).2) ∧
        t.contents = (c.fifo s.contents).1 := by
  obtain ⟨hkeeps, hcap, hcontents⟩ := run_spec hpos hrun hguard
  refine ⟨hcontents, length_contents s, ?_, regions hkeeps, fun n => ?_, fun c hc => ?_⟩
  · rw [← hcap]
    exact Nat.add_sub_of_le hkeeps.size_le
  · refine ⟨_, peek_eq hkeeps n, by rw [hcontents], ?_⟩
    rw [List.length_take, length_contents]
  · obtain ⟨t, hcall, -, -, hcontents'⟩ := call_spec hkeeps hc
    exact ⟨t, hcall, hcontents'⟩

/-- Bytes that go round the end of a buffer of three. -/
def roundTheEnd : List Call := [.write [1, 2], .consume 1, .write [3, 4]]

/-- The law on a buffer that wraps. -/
theorem calls_refine_queue_roundTheEnd : ∃ tr s, (rings 3).Run (.new 3) tr s ∧
    tr.map Prod.snd = roundTheEnd ∧ s = ⟨[4, 2, 3], 1, 1, 3⟩ ∧ s.contents = [2, 3, 4] := by
  have hexec : (rings 3).exec (.new 3) roundTheEnd = some ⟨[4, 2, 3], 1, 1, 3⟩ := by decide
  have hrun := Machine.exec_run hexec
  have hlaw := calls_refine_queue (by decide) hrun (by decide)
  exact ⟨_, _, hrun, by decide, rfl, hlaw.1⟩

end Pretzel.Algorithm
