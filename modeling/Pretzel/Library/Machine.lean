import Mathlib.Tactic

/-!
Labelled machines and their runs.

A machine is a set of initial states and a partial step function; everything a
step may choose (an input, a schedule, the outcome of an outside call) is
carried by its label. A run records its trace, the list of steps it took, each
with the state it was taken in, so that a condition on steps is a condition on
the trace.

* `Machine.Run`, `Machine.Reachable`: runs from a state, and the states some
  run reaches from an initial one.
* `Run.invariant`: a predicate of the start that every step keeps holds at the
  end of every run; `Run.invariant_of_forall` asks it only of the steps that
  meet a condition, for the runs all of whose steps do, and `Run.invariant_at`
  is about the states on the way.
* `Run.iff_forall`: a property that a step keeps exactly when it meets a
  condition holds at the end of a run exactly when all its steps met it;
  `Run.always_iff_forall` is about every state on the way.
* `Run.map`: simulation, step by step.
* `Run.of_append`, `Run.of_cons`: a run taken apart.
* `Run.balance`, `Run.alternate`: what steps of one kind put up and steps of
  another take down again; between two of the first there is one of the second.
* `Run.budget`: no more is taken than was put up.
* `Machine.exec`, `Machine.trace`: a list of labels carried out in order;
  `exec_run` is the run it stands for.
-/

namespace Reactive

/-- A labelled machine: initial states and a partial step function. -/
structure Machine (σ ℓ : Type*) where
  init : σ → Prop
  next : σ → ℓ → Option σ

namespace Machine

variable {σ ℓ : Type*} (M : Machine σ ℓ)

/-- A run from `s`, with its trace: each step as the state it was taken in and
its label. -/
inductive Run (s : σ) : List (σ × ℓ) → σ → Prop
  | nil : Run s [] s
  | snoc {tr : List (σ × ℓ)} {t t' : σ} {l : ℓ} :
      Run s tr t → M.next t l = some t' → Run s (tr ++ [(t, l)]) t'

/-- A state some run reaches from an initial state. -/
def Reachable (s' : σ) : Prop := ∃ s tr, M.init s ∧ M.Run s tr s'

/-- The labels of the list carried out in order. -/
def exec (s : σ) : List ℓ → Option σ
  | [] => some s
  | l :: ls =>
      match M.next s l with
      | none => none
      | some t => exec t ls

/-- The trace of the labels carried out in order. -/
def trace (s : σ) : List ℓ → List (σ × ℓ)
  | [] => []
  | l :: ls =>
      match M.next s l with
      | none => []
      | some t => (s, l) :: trace t ls

variable {M}

namespace Run

variable {s t s' : σ} {tr tr₁ tr₂ : List (σ × ℓ)} {I P : σ → Prop} {C : σ → ℓ → Prop}

lemma append (h₁ : M.Run s tr₁ t) (h₂ : M.Run t tr₂ s') : M.Run s (tr₁ ++ tr₂) s' := by
  induction h₂ with
  | nil => rwa [List.append_nil]
  | snoc _ hstep ih =>
      rw [← List.append_assoc]
      exact .snoc ih hstep

/-- A step put in front of a run. -/
lemma cons {l : ℓ} (h : M.next s l = some t) (hrun : M.Run t tr s') :
    M.Run s ((s, l) :: tr) s' := by
  have hfirst : M.Run s [(s, l)] t := .snoc .nil h
  exact hfirst.append hrun

/-- **The invariant rule, under a condition on steps**: the invariant need only
be kept by the steps that meet the condition. -/
theorem invariant_of_forall (h0 : I s)
    (hstep : ∀ t l t', I t → C t l → M.next t l = some t' → I t')
    (h : M.Run s tr s') (hok : ∀ p ∈ tr, C p.1 p.2) : I s' := by
  induction h with
  | nil => exact h0
  | @snoc tr t t' l _ hl ih =>
      have hpre : ∀ p ∈ tr, C p.1 p.2 := fun p hp => hok p (by simp [hp])
      exact hstep t l t' (ih hpre) (hok (t, l) (by simp)) hl

/-- The invariant rule, in the state each step is taken in. -/
lemma invariant_at (h0 : I s) (hstep : ∀ t l t', I t → C t l → M.next t l = some t' → I t')
    (h : M.Run s tr s') (hok : ∀ p ∈ tr, C p.1 p.2) : ∀ p ∈ tr, I p.1 := by
  induction h with
  | nil => simp
  | @snoc tr t t' l hrun hl ih =>
      have hpre : ∀ p ∈ tr, C p.1 p.2 := fun p hp => hok p (by simp [hp])
      intro p hp
      rcases List.mem_append.mp hp with hp | hp
      · exact ih hpre p hp
      · obtain rfl := List.mem_singleton.mp hp
        exact hrun.invariant_of_forall h0 hstep hpre

/-- **The invariant rule.** -/
theorem invariant (h0 : I s) (hstep : ∀ t l t', I t → M.next t l = some t' → I t')
    (h : M.Run s tr s') : I s' := by
  have hstep' : ∀ t l t', I t → True → M.next t l = some t' → I t' :=
    fun t l t' hI _ => hstep t l t' hI
  exact h.invariant_of_forall h0 hstep' fun _ _ => trivial

/-- **The exact rule**: if, under an invariant, a step keeps the property
exactly when it meets the condition, then the property holds at the end of a
run exactly when every step of it met the condition. -/
theorem iff_forall (h0 : I s) (hP : P s)
    (hI : ∀ t l t', I t → M.next t l = some t' → I t')
    (hstep : ∀ t l t', I t → M.next t l = some t' → (P t' ↔ P t ∧ C t l))
    (h : M.Run s tr s') : P s' ↔ ∀ p ∈ tr, C p.1 p.2 := by
  induction h with
  | nil => simpa using hP
  | @snoc tr t t' l hrun hl ih =>
      have hIt : I t := hrun.invariant h0 hI
      rw [hstep t l t' hIt hl, ih]
      simp only [List.mem_append, List.mem_singleton]
      constructor
      · rintro ⟨hall, hlast⟩ p (hp | rfl)
        · exact hall p hp
        · exact hlast
      · intro hall
        exact ⟨fun p hp => hall p (Or.inl hp), hall (t, l) (Or.inr rfl)⟩

/-- **The exact rule, for every state**: if a step from a state with the property
keeps it exactly when it meets the condition, then every state of a run has the
property exactly when every step of it met the condition. -/
theorem always_iff_forall (h0 : I s) (hP : P s)
    (hI : ∀ t l t', I t → M.next t l = some t' → I t')
    (hstep : ∀ t l t', I t → P t → M.next t l = some t' → (P t' ↔ C t l))
    (h : M.Run s tr s') : ((∀ p ∈ tr, P p.1) ∧ P s') ↔ ∀ p ∈ tr, C p.1 p.2 := by
  induction h with
  | nil => simpa using hP
  | @snoc tr t t' l hrun hl ih =>
      have hIt : I t := hrun.invariant h0 hI
      simp only [List.forall_mem_append, List.forall_mem_singleton]
      constructor
      · rintro ⟨⟨hall, hPt⟩, hPt'⟩
        exact ⟨ih.mp ⟨hall, hPt⟩, (hstep t l t' hIt hPt hl).mp hPt'⟩
      · rintro ⟨hall, hlast⟩
        obtain ⟨hbefore, hPt⟩ := ih.mpr hall
        exact ⟨⟨hbefore, hPt⟩, (hstep t l t' hIt hPt hl).mpr hlast⟩

/-- The steps of a run are steps. -/
lemma next_of_mem {p : σ × ℓ} (h : M.Run s tr s') (hp : p ∈ tr) :
    ∃ t, M.next p.1 p.2 = some t := by
  induction h with
  | nil => cases hp
  | @snoc tr t t' l _ hl ih =>
      rcases List.mem_append.mp hp with hp | hp
      · exact ih hp
      · obtain rfl := List.mem_singleton.mp hp
        exact ⟨t', hl⟩

/-- **Simulation**: a map of states and labels that takes every step to a step
takes every run to a run. -/
theorem map {τ m : Type*} {N : Machine τ m} (f : σ → τ) (g : σ → ℓ → m) (h0 : I s)
    (hI : ∀ t l t', I t → M.next t l = some t' → I t')
    (hsim : ∀ t l t', I t → M.next t l = some t' → N.next (f t) (g t l) = some (f t'))
    (h : M.Run s tr s') : N.Run (f s) (tr.map fun p => (f p.1, g p.1 p.2)) (f s') := by
  induction h with
  | nil => exact .nil
  | @snoc tr t t' l hrun hl ih =>
      have hIt : I t := hrun.invariant h0 hI
      rw [List.map_append]
      exact .snoc ih (hsim t l t' hIt hl)

/-- A run taken apart where its trace is. -/
lemma of_append (h : M.Run s (tr₁ ++ tr₂) s') : ∃ t, M.Run s tr₁ t ∧ M.Run t tr₂ s' := by
  induction tr₂ using List.reverseRecOn generalizing s' with
  | nil =>
      rw [List.append_nil] at h
      exact ⟨s', h, .nil⟩
  | append_singleton tr₂ p ih =>
      rw [← List.append_assoc] at h
      generalize hwhole : tr₁ ++ tr₂ ++ [p] = whole at h
      cases h with
      | nil => simp at hwhole
      | @snoc tr u _ l hrun hstep =>
          obtain ⟨htr, hp⟩ := List.append_inj' hwhole rfl
          obtain ⟨t, hfirst, hrest⟩ := ih (htr ▸ hrun)
          rw [hp]
          exact ⟨t, hfirst, .snoc hrest hstep⟩

/-- The first step of a run, and what comes after it. -/
lemma of_cons {p : σ × ℓ} (h : M.Run s (p :: tr) s') :
    p.1 = s ∧ ∃ t, M.next p.1 p.2 = some t ∧ M.Run t tr s' := by
  rw [← List.singleton_append] at h
  obtain ⟨t, hfirst, hrest⟩ := of_append h
  generalize hone : [p] = one at hfirst
  cases hfirst with
  | nil => cases hone
  | @snoc tr' u _ l hrun hstep =>
      rw [← List.nil_append [p]] at hone
      obtain ⟨htr', hp⟩ := List.append_inj' hone rfl
      generalize hnil : tr' = rest at hrun
      cases hrun with
      | nil =>
          cases hp
          exact ⟨rfl, t, hstep, hrest⟩
      | snoc hrun' hstep' =>
          rw [← htr'] at hnil
          simp at hnil

/-- **The balance of a run**, under a condition on steps: what the steps that put up
put up, less what the steps that take down take down. -/
theorem balance_of_forall {due : σ → ℕ} {up down : σ × ℓ → Bool} (h0 : I s)
    (hI : ∀ t l t', I t → C t l → M.next t l = some t' → I t')
    (hstep : ∀ t l t', I t → C t l → M.next t l = some t' →
      due t' + (down (t, l)).toNat = due t + (up (t, l)).toNat)
    (h : M.Run s tr s') (hok : ∀ p ∈ tr, C p.1 p.2) :
    due s' + tr.countP down = due s + tr.countP up := by
  induction h with
  | nil => rfl
  | @snoc tr t t' l hrun hl ih =>
      have hpre : ∀ p ∈ tr, C p.1 p.2 := fun p hp => hok p (by simp [hp])
      have hbefore := ih hpre
      have hone := hstep t l t' (hrun.invariant_of_forall h0 hI hpre) (hok (t, l) (by simp)) hl
      have hcount : ∀ f : σ × ℓ → Bool, [(t, l)].countP f = (f (t, l)).toNat := by
        intro f
        cases hf : f (t, l) <;> simp [hf]
      rw [List.countP_append, List.countP_append, hcount, hcount]
      omega

/-- **The balance of a run.** -/
theorem balance {due : σ → ℕ} {up down : σ × ℓ → Bool} (h0 : I s)
    (hI : ∀ t l t', I t → M.next t l = some t' → I t')
    (hstep : ∀ t l t', I t → M.next t l = some t' →
      due t' + (down (t, l)).toNat = due t + (up (t, l)).toNat)
    (h : M.Run s tr s') : due s' + tr.countP down = due s + tr.countP up := by
  have hI' : ∀ t l t', I t → True → M.next t l = some t' → I t' :=
    fun t l t' ht _ => hI t l t' ht
  exact h.balance_of_forall h0 hI' (fun t l t' ht _ => hstep t l t' ht) fun _ _ => trivial

/-- **The budget of a run**: where a step that takes has it from what was put up, no
more is taken than was there and was put up. -/
theorem budget {left : σ → ℕ} {up down : σ × ℓ → Bool}
    (hstep : ∀ t l t', M.next t l = some t' →
      left t' + (down (t, l)).toNat ≤ left t + (up (t, l)).toNat)
    (h : M.Run s tr s') : left s' + tr.countP down ≤ left s + tr.countP up := by
  induction h with
  | nil => exact le_refl _
  | @snoc tr t t' l hrun hl ih =>
      have hone := hstep t l t' hl
      have hcount : ∀ f : σ × ℓ → Bool, [(t, l)].countP f = (f (t, l)).toNat := by
        intro f
        cases hf : f (t, l) <;> simp [hf]
      rw [List.countP_append, List.countP_append, hcount, hcount]
      omega

/-- **The alternation rule**: where nothing is due when a step puts up, exactly one
step takes down between two that put up. -/
theorem alternate {due : σ → ℕ} {up down : σ × ℓ → Bool} (h0 : I s)
    (hI : ∀ t l t', I t → M.next t l = some t' → I t')
    (hstep : ∀ t l t', I t → M.next t l = some t' →
      due t' + (down (t, l)).toNat = due t + (up (t, l)).toNat)
    (hdue : ∀ t l t', I t → M.next t l = some t' → up (t, l) = true →
      due t = 0 ∧ down (t, l) = false)
    {before between after : List (σ × ℓ)} {p q : σ × ℓ}
    (h : M.Run s (before ++ p :: (between ++ q :: after)) s')
    (hp : up p = true) (hq : up q = true) (hnone : ∀ r ∈ between, up r = false) :
    between.countP down = 1 := by
  obtain ⟨t, hbefore, hrest⟩ := h.of_append
  obtain ⟨rfl, u, hup, hrest⟩ := hrest.of_cons
  obtain ⟨v, hbetween, hrest⟩ := hrest.of_append
  obtain ⟨rfl, w, hup', -⟩ := hrest.of_cons
  have hIp : I p.1 := hbefore.invariant h0 hI
  have hIu : I u := hI _ _ _ hIp hup
  have hIq : I q.1 := hbetween.invariant hIu hI
  obtain ⟨hfirst, hdown⟩ := hdue _ _ _ hIp hup hp
  obtain ⟨hlast, -⟩ := hdue _ _ _ hIq hup' hq
  have hput := hstep _ _ _ hIp hup
  have htaken := hbetween.balance hIu hI hstep
  have hno : between.countP up = 0 := by
    rw [List.countP_eq_zero]
    intro r hr
    rw [hnone r hr]
    exact Bool.false_ne_true
  rw [Prod.mk.eta, hdown, hp] at hput
  simp only [Bool.toNat_false, Bool.toNat_true] at hput
  omega

end Run

namespace Reachable

variable {s s' : σ} {I : σ → Prop}

/-- What holds initially and is kept by every step holds of every reachable
state. -/
theorem invariant (h0 : ∀ s, M.init s → I s)
    (hstep : ∀ t l t', I t → M.next t l = some t' → I t') (h : M.Reachable s') : I s' := by
  obtain ⟨s, tr, hs, hrun⟩ := h
  exact hrun.invariant (h0 s hs) hstep

lemma step {l : ℓ} (h : M.Reachable s) (hl : M.next s l = some s') : M.Reachable s' := by
  obtain ⟨s₀, tr, hs, hrun⟩ := h
  exact ⟨s₀, tr ++ [(s, l)], hs, hrun.snoc hl⟩

end Reachable

lemma exec_run {s s' : σ} {ls : List ℓ} (h : M.exec s ls = some s') :
    M.Run s (M.trace s ls) s' := by
  induction ls generalizing s with
  | nil =>
      rw [exec, Option.some.injEq] at h
      subst h
      exact .nil
  | cons l ls ih =>
      rw [exec] at h
      rw [trace]
      cases hl : M.next s l with
      | none => rw [hl] at h; cases h
      | some t =>
          rw [hl] at h
          exact (ih h).cons hl

/-- The steps of a list of labels carry its labels. -/
lemma label_of_mem_trace {s : σ} {ls : List ℓ} {p : σ × ℓ} (h : p ∈ M.trace s ls) : p.2 ∈ ls := by
  induction ls generalizing s with
  | nil => cases h
  | cons l ls ih =>
      rw [trace] at h
      cases hl : M.next s l with
      | none => rw [hl] at h; cases h
      | some t =>
          rw [hl] at h
          rcases List.mem_cons.mp h with rfl | h
          · exact List.mem_cons_self
          · exact List.mem_cons_of_mem _ (ih h)

lemma exec_reachable {s s' : σ} {ls : List ℓ} (hs : M.init s) (h : M.exec s ls = some s') :
    M.Reachable s' := by
  exact ⟨s, M.trace s ls, hs, exec_run h⟩

end Machine

end Reactive
