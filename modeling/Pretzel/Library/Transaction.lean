import Mathlib.Tactic

/-!
A session with a database whose calls fail one by one.

A statement changes what is stored, or a working copy while a transaction is
open. A call that fails changes nothing stored, and aborts the transaction it
was made in; in an aborted transaction every statement fails. A call that loses
the connection ends the transaction, and the next call is made on a new one.

* `Session.exec`, `Session.query`, `Session.begin`, `Session.commit`,
  `Session.rollback`: the calls.
* `Session.transaction`: statements between a begin and a commit, rolled back at
  the first that fails.
* `Session.transaction_cases`: the statements take effect all together or not at
  all, whichever calls fail.
-/

namespace Sql

variable {σ : Type*}

/-- What becomes of a call: it is carried out, it fails, or the connection is
lost with it. -/
inductive Outcome where
  | done
  | fails
  | lost
deriving DecidableEq, Repr

/-- The transaction of a session. -/
inductive Tx (σ : Type*) where
  | idle
  | opened (work : σ)
  | aborted
deriving DecidableEq

/-- A session: what is stored, and its transaction. -/
structure Session (σ : Type*) where
  stored : σ
  tx : Tx σ := .idle
deriving DecidableEq

namespace Session

/-- A call that is not carried out. -/
def fail (o : Outcome) (s : Session σ) : Session σ :=
  match o, s.tx with
  | .lost, _ => { s with tx := .idle }
  | _, .opened _ => { s with tx := .aborted }
  | _, _ => s

/-- A statement. -/
def exec (o : Outcome) (f : σ → σ) (s : Session σ) : Session σ × Bool :=
  match o, s.tx with
  | .done, .idle => ({ s with stored := f s.stored }, true)
  | .done, .opened work => ({ s with tx := .opened (f work) }, true)
  | o, _ => (s.fail o, false)

/-- A query, and what it sees. -/
def query (o : Outcome) (s : Session σ) : Session σ × Option σ :=
  match o, s.tx with
  | .done, .idle => (s, some s.stored)
  | .done, .opened work => (s, some work)
  | o, _ => (s.fail o, none)

/-- `BEGIN`; inside a transaction it only warns. -/
def begin (o : Outcome) (s : Session σ) : Session σ × Bool :=
  match o, s.tx with
  | .done, .idle => ({ s with tx := .opened s.stored }, true)
  | .done, .opened _ => (s, true)
  | o, _ => (s.fail o, false)

/-- `COMMIT`; a transaction whose commit fails is rolled back. -/
def commit (o : Outcome) (s : Session σ) : Session σ × Bool :=
  match o, s.tx with
  | .done, .opened work => (⟨work, .idle⟩, true)
  | .done, _ => ({ s with tx := .idle }, true)
  | _, _ => ({ s with tx := .idle }, false)

/-- `ROLLBACK`. -/
def rollback (o : Outcome) (s : Session σ) : Session σ :=
  match o with
  | .fails => s
  | _ => { s with tx := .idle }

/-- Statements in order, up to the first that fails. -/
def execAll : List (Outcome × (σ → σ)) → Session σ → Session σ × Bool
  | [], s => (s, true)
  | (o, f) :: rest, s =>
      match s.exec o f with
      | (s, true) => execAll rest s
      | (s, false) => (s, false)

/-- A transaction: on any failure behind the begin it is rolled back. -/
def transaction (begins commits rolls : Outcome) (stmts : List (Outcome × (σ → σ)))
    (s : Session σ) : Session σ × Bool :=
  match s.begin begins with
  | (s, false) => (s, false)
  | (s, true) =>
      match execAll stmts s with
      | (s, false) => (s.rollback rolls, false)
      | (s, true) =>
          match s.commit commits with
          | (s, true) => (s, true)
          | (s, false) => (s.rollback rolls, false)

/-- What the statements do together. -/
def effectOf (stmts : List (Outcome × (σ → σ))) (x : σ) : σ := stmts.foldl (fun x p => p.2 x) x

/-- No work is pending. -/
def Quiet (s : Session σ) : Prop := s.tx = .idle ∨ s.tx = .aborted

/-! ### One call -/

variable {s : Session σ}

lemma stored_fail (o : Outcome) (s : Session σ) : (s.fail o).stored = s.stored := by
  obtain ⟨stored, tx⟩ := s
  cases o <;> cases tx <;> rfl

lemma begin_done (x : σ) : begin .done (⟨x, .idle⟩ : Session σ) = (⟨x, .opened x⟩, true) := rfl

lemma quiet_fail (o : Outcome) (s : Session σ) : Quiet (s.fail o) := by
  obtain ⟨stored, tx⟩ := s
  cases o <;> cases tx <;> first | exact .inl rfl | exact .inr rfl

/-- A statement outside a transaction is carried out or is not. -/
lemma exec_cases (h : Quiet s) (o : Outcome) (f : σ → σ) :
    ((s.exec o f).2 = true ∧ s.tx = .idle ∧ (s.exec o f).1 = { s with stored := f s.stored }) ∨
      ((s.exec o f).2 = false ∧ (s.exec o f).1 = s.fail o) := by
  obtain ⟨stored, tx⟩ := s
  rcases h with h | h <;> cases h
  · cases o
    · exact .inl ⟨rfl, rfl, rfl⟩
    · exact .inr ⟨rfl, rfl⟩
    · exact .inr ⟨rfl, rfl⟩
  · cases o <;> exact .inr ⟨rfl, rfl⟩

/-- A statement of a transaction that is open. -/
lemma exec_opened (x work : σ) (o : Outcome) (f : σ → σ) :
    (o = .done ∧ exec o f ⟨x, .opened work⟩ = (⟨x, .opened (f work)⟩, true)) ∨
      (o ≠ .done ∧ exec o f ⟨x, .opened work⟩ = (fail o ⟨x, .opened work⟩, false)) := by
  cases o
  · exact .inl ⟨rfl, rfl⟩
  · exact .inr ⟨by simp, rfl⟩
  · exact .inr ⟨by simp, rfl⟩

/-- A query outside a transaction sees what is stored, or nothing. -/
lemma query_cases (h : Quiet s) (o : Outcome) :
    (s.tx = .idle ∧ s.query o = (s, some s.stored)) ∨ s.query o = (s.fail o, none) := by
  obtain ⟨stored, tx⟩ := s
  rcases h with h | h <;> cases h
  · cases o
    · exact .inl ⟨rfl, rfl⟩
    · exact .inr rfl
    · exact .inr rfl
  · cases o <;> exact .inr rfl

/-! ### A transaction -/

/-- The statements of an open transaction: all in its working copy, or the
transaction is over. -/
lemma execAll_opened (x work : σ) (stmts : List (Outcome × (σ → σ))) :
    ((∀ p ∈ stmts, p.1 = .done) ∧
        execAll stmts ⟨x, .opened work⟩ = (⟨x, .opened (effectOf stmts work)⟩, true)) ∨
      ((execAll stmts ⟨x, .opened work⟩).2 = false ∧
        (execAll stmts ⟨x, .opened work⟩).1.stored = x ∧
        Quiet (execAll stmts ⟨x, .opened work⟩).1) := by
  induction stmts generalizing work with
  | nil => exact .inl ⟨by simp, rfl⟩
  | cons p rest ih =>
      obtain ⟨o, f⟩ := p
      rw [execAll]
      rcases exec_opened x work o f with ⟨ho, hexec⟩ | ⟨-, hexec⟩
      · rw [hexec]
        refine (ih (f work)).imp_left ?_
        rintro ⟨hall, heq⟩
        exact ⟨List.forall_mem_cons.mpr ⟨ho, hall⟩, heq⟩
      · rw [hexec]
        exact .inr ⟨rfl, stored_fail o _, quiet_fail o _⟩

lemma rollback_quiet (h : Quiet s) (o : Outcome) :
    Quiet (s.rollback o) ∧ (s.rollback o).stored = s.stored := by
  cases o
  · exact ⟨.inl rfl, rfl⟩
  · exact ⟨h, rfl⟩
  · exact ⟨.inl rfl, rfl⟩

/-- **A transaction takes effect as a whole or not at all**, whichever of its
calls fail, and leaves no work pending. -/
theorem transaction_cases (h : Quiet s) (begins commits rolls : Outcome)
    (stmts : List (Outcome × (σ → σ))) :
    s.transaction begins commits rolls stmts = (⟨effectOf stmts s.stored, .idle⟩, true) ∨
      ((s.transaction begins commits rolls stmts).2 = false ∧
        (s.transaction begins commits rolls stmts).1.stored = s.stored ∧
        Quiet (s.transaction begins commits rolls stmts).1) := by
  obtain ⟨stored, tx⟩ := s
  have hfail : ∀ o, Quiet (fail o ⟨stored, tx⟩) ∧ (fail o ⟨stored, tx⟩).stored = stored :=
    fun o => ⟨quiet_fail o _, stored_fail o _⟩
  rcases h with h | h <;> cases h
  · cases begins with
    | done =>
        rw [transaction, begin_done]
        dsimp only
        rcases execAll_opened stored stored stmts with ⟨-, hall⟩ | ⟨hfalse, hsame, hq⟩
        · rw [hall]
          dsimp only
          cases commits
          · exact .inl rfl
          · exact .inr ⟨rfl, (rollback_quiet (.inl rfl) rolls).2, (rollback_quiet (.inl rfl) rolls).1⟩
          · exact .inr ⟨rfl, (rollback_quiet (.inl rfl) rolls).2, (rollback_quiet (.inl rfl) rolls).1⟩
        · generalize execAll stmts (⟨stored, .opened stored⟩ : Session σ) = r at hfalse hsame hq
          obtain ⟨u, b⟩ := r
          cases hfalse
          exact .inr ⟨rfl, (rollback_quiet hq rolls).2.trans hsame, (rollback_quiet hq rolls).1⟩
    | fails => exact .inr ⟨rfl, (hfail .fails).2, (hfail .fails).1⟩
    | lost => exact .inr ⟨rfl, (hfail .lost).2, (hfail .lost).1⟩
  · cases begins with
    | done => exact .inr ⟨rfl, (hfail .done).2, (hfail .done).1⟩
    | fails => exact .inr ⟨rfl, (hfail .fails).2, (hfail .fails).1⟩
    | lost => exact .inr ⟨rfl, (hfail .lost).2, (hfail .lost).1⟩

/-- A transaction whose calls are all carried out. -/
lemma transaction_done {x : σ} {rolls : Outcome} {stmts : List (Outcome × (σ → σ))}
    (h : ∀ p ∈ stmts, p.1 = .done) :
    transaction .done .done rolls stmts ⟨x, .idle⟩ = (⟨effectOf stmts x, .idle⟩, true) := by
  have hall : ∀ {work : σ} {stmts : List (Outcome × (σ → σ))}, (∀ p ∈ stmts, p.1 = .done) →
      execAll stmts ⟨x, .opened work⟩ = (⟨x, .opened (effectOf stmts work)⟩, true) := by
    intro work stmts h
    induction stmts generalizing work with
    | nil => rfl
    | cons p rest ih =>
        obtain ⟨o, f⟩ := p
        obtain rfl : o = .done := h _ List.mem_cons_self
        exact ih fun q hq => h q (List.mem_cons_of_mem _ hq)
  rw [transaction, begin_done]
  dsimp only
  rw [hall h]
  rfl

/-- A transaction a statement of which is refused, and that is rolled back. -/
lemma transaction_refused {x : σ} {commits : Outcome} {stmts : List (Outcome × (σ → σ))}
    (h : ∃ p ∈ stmts, p.1 ≠ .done) :
    transaction .done commits .done stmts ⟨x, .idle⟩ = (⟨x, .idle⟩, false) := by
  obtain ⟨p, hp, hne⟩ := h
  rw [transaction, begin_done]
  rcases execAll_opened x x stmts with ⟨hall, -⟩ | ⟨hfalse, hsame, -⟩
  · exact absurd (hall p hp) hne
  · dsimp only
    generalize execAll stmts (⟨x, .opened x⟩ : Session σ) = r at hfalse hsame
    obtain ⟨u, b⟩ := r
    cases hfalse
    rw [← hsame]
    rfl

end Session

end Sql
