import Mathlib.Tactic

/-!
Frames in a stream.

A framing reads, from the front of a stream, how long the first frame is, once
enough of it is there to tell.

* `Framing`, `IsFrame`, `Incomplete`: the framing, a frame, and a front of the
  stream that holds no whole frame yet.
* `drain`: the frames of a front taken off one by one and handed to a consumer,
  which may refuse one.
* `completed`, `leftover`: how many frames of a list end within a number of
  elements, and how many elements that leaves over.
* `drain_eq`: a front of a stream of frames is drained of the frames that end
  within it, in order, and the rest of it is kept.
* `Stops`: a front that no whole frame begins, be it incomplete or invalid.
  `drain_frames`: frames with one behind them are all taken off.
* `remains`: what the frames that end within a front leave over of it.
-/

/-- What the front of a stream says of its first frame. -/
inductive FrameHead where
  | needMore
  | invalid
  | size (n : ℕ)
deriving DecidableEq, Repr

/-- A framing: what it has read does not change with what follows, and a frame
is not empty. -/
structure Framing (α : Type*) where
  peek : List α → FrameHead
  peek_append : ∀ {xs : List α}, peek xs ≠ .needMore → ∀ ys, peek (xs ++ ys) = peek xs
  size_pos : ∀ {xs : List α} {n : ℕ}, peek xs = .size n → 0 < n

namespace Framing

variable {α σ : Type*} (F : Framing α)

/-- A whole frame, and nothing else. -/
def IsFrame (f : List α) : Prop := F.peek f = .size f.length

/-- A front that holds no whole frame, and may become one. -/
def Incomplete (xs : List α) : Prop :=
  F.peek xs = .needMore ∨ ∃ n, F.peek xs = .size n ∧ xs.length < n

variable {F}

lemma IsFrame.length_pos {f : List α} (h : F.IsFrame f) : 0 < f.length := F.size_pos h

lemma IsFrame.peek_append {f : List α} (h : F.IsFrame f) (ys : List α) :
    F.peek (f ++ ys) = .size f.length := by
  have hne : F.peek f ≠ .needMore := by
    rw [h]
    simp
  rw [F.peek_append hne, h]

/-- A part of a frame is incomplete. -/
lemma IsFrame.incomplete {f xs ys : List α} (h : F.IsFrame f) (hxs : xs ++ ys = f)
    (hys : ys ≠ []) : F.Incomplete xs := by
  by_cases hmore : F.peek xs = .needMore
  · exact .inl hmore
  · have hpeek := F.peek_append hmore ys
    rw [hxs, h] at hpeek
    refine .inr ⟨f.length, hpeek.symm, ?_⟩
    have := List.length_pos_of_ne_nil hys
    rw [← hxs, List.length_append]
    omega

/-! ### Draining a front -/

/-- The frames handed over, up to the first the consumer refuses. -/
def acceptAll (accept : σ → List α → Option σ) : σ → List (List α) → σ × Bool
  | s, [] => (s, true)
  | s, f :: fs =>
      match accept s f with
      | none => (s, false)
      | some s' => acceptAll accept s' fs

variable (F)

/-- The frames at the front handed over one by one: the consumer, what is left
of the front, and whether nothing was refused or invalid. -/
def drain (accept : σ → List α → Option σ) : ℕ → σ → List α → σ × List α × Bool
  | 0, s, xs => (s, xs, true)
  | fuel + 1, s, xs =>
      match F.peek xs with
      | .needMore => (s, xs, true)
      | .invalid => (s, xs, false)
      | .size n =>
          if xs.length < n then (s, xs, true)
          else
            match accept s (xs.take n) with
            | none => (s, xs, false)
            | some s' => drain accept fuel s' (xs.drop n)

/-- How many of the frames end within the given number of elements. -/
def completed : List (List α) → ℕ → ℕ
  | [], _ => 0
  | f :: fs, n => if f.length ≤ n then completed fs (n - f.length) + 1 else 0

/-- How many elements those frames leave over. -/
def leftover : List (List α) → ℕ → ℕ
  | [], n => n
  | f :: fs, n => if f.length ≤ n then leftover fs (n - f.length) else n

variable {F}

lemma completed_leftover (fs : List (List α)) (n : ℕ) :
    completed (fs.drop (completed fs n)) (leftover fs n) = 0 := by
  induction fs generalizing n with
  | nil => rfl
  | cons f fs ih =>
      rw [completed, leftover]
      split
      · next hle => exact ih (n - f.length)
      · next hlt => rw [List.drop_zero, completed, if_neg hlt]

lemma length_flatten_take_completed (fs : List (List α)) (n : ℕ) :
    (fs.take (completed fs n)).flatten.length + leftover fs n = n := by
  induction fs generalizing n with
  | nil => simp [completed, leftover]
  | cons f fs ih =>
      rw [completed, leftover]
      split
      · next hle =>
          rw [List.take_succ_cons, List.flatten_cons, List.length_append]
          have := ih (n - f.length)
          omega
      · simp

lemma completed_le_length (fs : List (List α)) (n : ℕ) : completed fs n ≤ fs.length := by
  induction fs generalizing n with
  | nil => exact Nat.zero_le _
  | cons f fs ih =>
      rw [completed]
      split
      · exact Nat.succ_le_succ (ih _)
      · exact Nat.zero_le _

/-- What more elements complete, they complete on top of what is left over. -/
lemma completed_add (fs : List (List α)) (m n : ℕ) :
    completed fs (m + n)
      = completed fs m + completed (fs.drop (completed fs m)) (leftover fs m + n) := by
  induction fs generalizing m with
  | nil => rfl
  | cons f fs ih =>
      by_cases hle : f.length ≤ m
      · have hsub : m + n - f.length = m - f.length + n := by omega
        have hfirst : completed (f :: fs) (m + n) = completed fs (m - f.length + n) + 1 := by
          rw [completed, if_pos (by omega), hsub]
        have hm : completed (f :: fs) m = completed fs (m - f.length) + 1 := by
          rw [completed, if_pos hle]
        have hleft : leftover (f :: fs) m = leftover fs (m - f.length) := by
          rw [leftover, if_pos hle]
        rw [hfirst, hm, hleft, ih, List.drop_succ_cons]
        omega
      · have hm : completed (f :: fs) m = 0 := by rw [completed, if_neg hle]
        have hleft : leftover (f :: fs) m = m := by rw [leftover, if_neg hle]
        rw [hm, hleft, List.drop_zero, Nat.zero_add]

/-- A stream of frames, cut behind the frames that end within its front. -/
lemma drop_append_eq {fs : List (List α)} {xs ys rest : List α}
    (h : xs ++ ys = fs.flatten ++ rest) :
    xs.drop (xs.length - leftover fs xs.length) ++ ys
      = (fs.drop (completed fs xs.length)).flatten ++ rest := by
  have hlen := length_flatten_take_completed fs xs.length
  have hcut : xs.length - leftover fs xs.length
      = (fs.take (completed fs xs.length)).flatten.length := by omega
  have hsplit : fs.flatten = (fs.take (completed fs xs.length)).flatten ++
      (fs.drop (completed fs xs.length)).flatten := by
    rw [← List.flatten_append, List.take_append_drop]
  calc xs.drop (xs.length - leftover fs xs.length) ++ ys
      = (xs ++ ys).drop (xs.length - leftover fs xs.length) :=
        (List.drop_append_of_le_length (Nat.sub_le _ _)).symm
    _ = ((fs.take (completed fs xs.length)).flatten ++
          ((fs.drop (completed fs xs.length)).flatten ++ rest)).drop
            (fs.take (completed fs xs.length)).flatten.length := by
        rw [h, hcut, ← List.append_assoc, ← hsplit]
    _ = (fs.drop (completed fs xs.length)).flatten ++ rest := List.drop_left

/-- **A front of a stream of frames is drained of the frames that end within
it**, and keeps the rest. -/
theorem drain_eq {accept : σ → List α → Option σ} {fs : List (List α)} {rest : List α}
    (hfs : ∀ f ∈ fs, F.IsFrame f) (hrest : ∀ p q, p ++ q = rest → F.Incomplete p) {fuel : ℕ}
    (s : σ) {xs ys : List α} (h : xs ++ ys = fs.flatten ++ rest) (hfuel : xs.length < fuel) :
    (F.drain accept fuel s xs).1 = (acceptAll accept s (fs.take (completed fs xs.length))).1 ∧
    (F.drain accept fuel s xs).2.2 = (acceptAll accept s (fs.take (completed fs xs.length))).2 ∧
    ((acceptAll accept s (fs.take (completed fs xs.length))).2 = true →
      (F.drain accept fuel s xs).2.1 = xs.drop (xs.length - leftover fs xs.length)) := by
  induction fs generalizing fuel s xs with
  | nil =>
      have hinc : F.Incomplete xs := hrest xs ys h
      have hstay : F.drain accept fuel s xs = (s, xs, true) := by
        cases fuel with
        | zero => omega
        | succ fuel =>
            rw [drain]
            rcases hinc with hmore | ⟨n, hsize, hlt⟩
            · rw [hmore]
            · rw [hsize]
              exact if_pos hlt
      rw [hstay]
      simp [completed, leftover, acceptAll]
  | cons f fs ih =>
      have hf := hfs f List.mem_cons_self
      rw [List.flatten_cons, List.append_assoc] at h
      rw [completed, leftover]
      by_cases hle : f.length ≤ xs.length
      · obtain ⟨xs', rfl⟩ : ∃ xs', xs = f ++ xs' := by
          have hprefix : f <+: xs := List.prefix_of_prefix_length_le ⟨_, h.symm⟩ ⟨ys, rfl⟩ hle
          obtain ⟨xs', hxs'⟩ := hprefix
          exact ⟨xs', hxs'.symm⟩
        have htail : xs' ++ ys = fs.flatten ++ rest := by
          rw [List.append_assoc] at h
          exact List.append_cancel_left h
        have hpos := hf.length_pos
        have hsub : (f ++ xs').length - f.length = xs'.length := by simp
        have hdrop : (f ++ xs').drop ((f ++ xs').length - leftover fs xs'.length)
            = xs'.drop (xs'.length - leftover fs xs'.length) := by
          have hlen := length_flatten_take_completed fs xs'.length
          rw [List.length_append, Nat.add_sub_assoc (by omega)]
          exact List.drop_length_add_append _
        rw [if_pos hle, if_pos hle, List.take_succ_cons, acceptAll, hsub, hdrop]
        cases fuel with
        | zero => omega
        | succ fuel =>
            have hnot : ¬ (f ++ xs').length < f.length := by simp
            rw [drain, hf.peek_append]
            dsimp only
            rw [if_neg hnot, List.take_left, List.drop_left]
            cases accept s f with
            | none => simp
            | some s' =>
                refine ih (fun g hg => hfs g (List.mem_cons_of_mem _ hg)) s' htail ?_
                rw [List.length_append] at hfuel
                omega
      · -- the front ends within the first frame
        obtain ⟨zs, hzs⟩ : xs <+: f :=
          List.prefix_of_prefix_length_le ⟨ys, rfl⟩ ⟨_, h.symm⟩ (by omega)
        have hzs' : zs ≠ [] := by
          rintro rfl
          rw [List.append_nil] at hzs
          rw [hzs] at hle
          exact hle le_rfl
        have hstay : F.drain accept fuel s xs = (s, xs, true) := by
          cases fuel with
          | zero => omega
          | succ fuel =>
              rw [drain]
              rcases hf.incomplete hzs hzs' with hmore | ⟨n, hsize, hlt⟩
              · rw [hmore]
              · rw [hsize]
                exact if_pos hlt
        rw [if_neg hle, if_neg hle, hstay]
        simp [acceptAll]

/-! ### Fronts that no frame begins -/

variable (F) in
/-- A front that no whole frame begins. -/
def Stops (xs : List α) : Prop := ∀ n, F.peek xs = .size n → xs.length < n

/-- A front of such a front is one too. -/
lemma Stops.of_append {xs ys : List α} (h : F.Stops (xs ++ ys)) : F.Stops xs := by
  intro n hsize
  have hne : F.peek xs ≠ .needMore := by
    rw [hsize]
    simp
  have hlt := h n ((F.peek_append hne ys).trans hsize)
  rw [List.length_append] at hlt
  omega

/-- **Frames with such a front behind them are all handed over**, and the front is kept. -/
theorem drain_frames {next : σ → List α → σ} {fs : List (List α)} {left : List α}
    (hfs : ∀ f ∈ fs, F.IsFrame f) (hleft : F.Stops left) {fuel : ℕ}
    (hfuel : (fs.flatten ++ left).length < fuel) (s : σ) :
    F.drain (fun s f => some (next s f)) fuel s (fs.flatten ++ left) =
      (fs.foldl next s, left, decide (F.peek left ≠ .invalid)) := by
  obtain ⟨fuel, rfl⟩ : ∃ m, fuel = m + 1 := ⟨fuel - 1, by omega⟩
  induction fs generalizing fuel s with
  | nil =>
      rw [List.flatten_nil, List.nil_append, drain]
      cases hpeek : F.peek left with
      | needMore => rfl
      | invalid => rfl
      | size n => exact if_pos (hleft n hpeek)
  | cons f fs ih =>
      obtain ⟨hf, hfs⟩ := List.forall_mem_cons.mp hfs
      have hpos := hf.length_pos
      rw [List.flatten_cons, List.append_assoc, List.length_append] at hfuel
      obtain ⟨fuel, rfl⟩ : ∃ m, fuel = m + 1 := ⟨fuel - 1, by omega⟩
      have hnot : ¬(f ++ (fs.flatten ++ left)).length < f.length := by simp
      rw [List.flatten_cons, List.append_assoc, drain, hf.peek_append]
      dsimp only
      rw [if_neg hnot, List.take_left, List.drop_left]
      exact ih hfs (next s f) fuel (by omega)

/-- What the frames that end within a front leave over of it. -/
def remains (fs : List (List α)) (xs : List α) : List α :=
  xs.drop (xs.length - leftover fs xs.length)

/-- A front of a stream is the frames that end within it, and what they leave over; no whole
frame begins that. -/
lemma take_completed_append_remains {fs : List (List α)} {xs ys rest : List α}
    (hfs : ∀ f ∈ fs, F.IsFrame f) (hrest : F.Stops rest) (h : xs ++ ys = fs.flatten ++ rest) :
    (fs.take (completed fs xs.length)).flatten ++ remains fs xs = xs ∧ F.Stops (remains fs xs) := by
  rw [remains]
  have hlen := length_flatten_take_completed fs xs.length
  have hbehind := drop_append_eq h
  constructor
  · have hcut : xs.length - leftover fs xs.length
        = (fs.take (completed fs xs.length)).flatten.length := by omega
    have hfront : xs.take (fs.take (completed fs xs.length)).flatten.length
        = (fs.take (completed fs xs.length)).flatten := by
      calc xs.take (fs.take (completed fs xs.length)).flatten.length
          = (xs ++ ys).take (fs.take (completed fs xs.length)).flatten.length :=
            (List.take_append_of_le_length (by omega)).symm
        _ = ((fs.take (completed fs xs.length)).flatten ++
              ((fs.drop (completed fs xs.length)).flatten ++ rest)).take
                (fs.take (completed fs xs.length)).flatten.length := by
            rw [h, ← List.append_assoc, ← List.flatten_append, List.take_append_drop]
        _ = (fs.take (completed fs xs.length)).flatten := List.take_left
    rw [hcut]
    nth_rewrite 1 [← hfront]
    exact List.take_append_drop _ xs
  · have hnone := completed_leftover fs xs.length
    cases hdrop : fs.drop (completed fs xs.length) with
    | nil =>
        rw [hdrop, List.flatten_nil, List.nil_append] at hbehind
        rw [← hbehind] at hrest
        exact hrest.of_append
    | cons f gs =>
        have hf : F.IsFrame f := by
          refine hfs f (List.mem_of_mem_drop (i := completed fs xs.length) ?_)
          rw [hdrop]
          exact List.mem_cons_self
        rw [hdrop, completed] at hnone
        have hshort : leftover fs xs.length < f.length := by
          by_contra hle
          rw [if_pos (by omega)] at hnone
          omega
        have hleft : (xs.drop (xs.length - leftover fs xs.length)).length
            = leftover fs xs.length := by
          rw [List.length_drop]
          omega
        rw [hdrop, List.flatten_cons, List.append_assoc] at hbehind
        obtain ⟨zs, hzs⟩ : xs.drop (xs.length - leftover fs xs.length) <+: f :=
          List.prefix_of_prefix_length_le ⟨ys, rfl⟩ ⟨_, hbehind.symm⟩ (by omega)
        intro n hsize
        have hne : F.peek (xs.drop (xs.length - leftover fs xs.length)) ≠ .needMore := by
          rw [hsize]
          simp
        have hpeek := F.peek_append hne zs
        rw [hzs, hf, hsize] at hpeek
        cases hpeek
        omega

/-- **What more elements do to it**: the frames they complete leave it. -/
lemma remains_append {fs : List (List α)} {xs zs ys rest : List α} (hfs : ∀ f ∈ fs, F.IsFrame f)
    (hrest : F.Stops rest) (h : xs ++ zs ++ ys = fs.flatten ++ rest) :
    ∃ new : List (List α), (∀ f ∈ new, F.IsFrame f) ∧
      fs.take (completed fs (xs ++ zs).length) = fs.take (completed fs xs.length) ++ new ∧
      remains fs xs ++ zs = new.flatten ++ remains fs (xs ++ zs) := by
  obtain ⟨hall, -⟩ := take_completed_append_remains hfs hrest h
  rw [List.append_assoc] at h
  obtain ⟨hfront, -⟩ := take_completed_append_remains hfs hrest h
  have hcount := completed_add fs xs.length zs.length
  rw [← List.length_append] at hcount
  refine ⟨(fs.drop (completed fs xs.length)).take
    (completed (fs.drop (completed fs xs.length)) (leftover fs xs.length + zs.length)), ?_, ?_, ?_⟩
  · exact fun f hf => hfs f (List.mem_of_mem_drop (List.mem_of_mem_take hf))
  · rw [hcount, List.take_add]
  · rw [hcount, List.take_add, List.flatten_append, List.append_assoc] at hall
    refine List.append_cancel_left (Eq.trans ?_ hall.symm)
    rw [← List.append_assoc, hfront]

end Framing
