import Pretzel.Mgmtd.WebService

/-!
The route table of mgmtd: which row a request comes to, by the path of its target and by
whether a query follows.

* `pathOf`: the target up to its query. `Row.claims`: what a row asks of path and query;
  `hit_eq_claims`: that is what it asks of the target.
* `Finds`: the request comes to the row of its path, or to none.
* `finds_iff`: **it does but for two rows**, whose paths a row of a shorter one covers once a
  query follows. `cancel_starts`: a cancel that comes to a start.
-/

namespace Pretzel.Mgmtd

open Ipc Texts

/-- The target up to its query. -/
def pathOf (target : Bytes) : Bytes := target.takeWhile (· ≠ 63)

/-- What a row asks of the path, and of whether a query follows. -/
def Row.claims (r : Row) (method path : Bytes) (query : Bool) : Bool :=
  method = textBytes r.method &&
    match r.matching with
    | .Exact => path = textBytes r.path && !query
    | .Prefix => (textBytes r.path).isPrefixOf path

/-- The row of a request that is resolved. -/
def Row.resolved (r : Row) : Resolved := ⟨r.route, r.access, r.mustChangeExempt⟩

/-- A request with the path of a row comes to that row, or to none where the row is exact and
a query follows. -/
def Finds (r : Row) (method target : Bytes) : Prop :=
  resolve method target = r.resolved ∨
    (r.matching = .Exact ∧ 63 ∈ target ∧ resolve method target = {})

/-! ### Targets with a query -/

section Targets

variable {target p : Bytes}

/-- A path without a query mark begins a target where it begins its path. -/
lemma isPrefixOf_pathOf (hp : 63 ∉ p) : p.isPrefixOf target = p.isPrefixOf (pathOf target) := by
  induction p generalizing target with
  | nil => simp
  | cons c p ih =>
      rw [List.mem_cons, not_or] at hp
      obtain ⟨hc, hp⟩ := hp
      cases target with
      | nil => rfl
      | cons d target =>
          rw [pathOf, List.takeWhile_cons]
          by_cases hd : d = 63
          · subst hd
            simp [List.isPrefixOf, Ne.symm hc]
          · rw [if_pos (by simpa using hd), List.isPrefixOf, List.isPrefixOf, ih hp]
            rfl

/-- It is the target where it is its path, and no query follows. -/
lemma eq_iff_pathOf (hp : 63 ∉ p) : target = p ↔ pathOf target = p ∧ 63 ∉ target := by
  constructor
  · rintro rfl
    exact ⟨takeWhile_ne_eq_self_iff.mpr hp, hp⟩
  · rintro ⟨rfl, htarget⟩
    exact (takeWhile_ne_eq_self_iff.mpr htarget).symm

/-- **A row looks at the path, and at whether a query follows.** -/
lemma hit_eq_claims {r : Row} (hr : 63 ∉ textBytes r.path) (method : Bytes) :
    r.hit method target = r.claims method (pathOf target) (decide (63 ∈ target)) := by
  rw [Row.hit, Row.claims]
  congr 1
  cases r.matching with
  | Exact =>
      dsimp only
      rw [Bool.eq_iff_iff]
      simpa using eq_iff_pathOf hr
  | Prefix => exact isPrefixOf_pathOf hr

end Targets

/-! ### The rows -/

/-- What a request with the path of a row comes to. -/
def Row.found (r : Row) (query : Bool) : Resolved :=
  match kRoutes.find? fun q => q.claims (textBytes r.method) (textBytes r.path) query with
  | none => {}
  | some q => q.resolved

lemma path_of_mem {r : Row} (hr : r ∈ kRoutes) : 63 ∉ textBytes r.path := by
  have hall : ∀ q ∈ kRoutes, 63 ∉ textBytes q.path := by decide
  exact hall r hr

lemma resolve_eq_found {r : Row} {target : Bytes} (hpath : pathOf target = textBytes r.path) :
    resolve (textBytes r.method) target = r.found (decide (63 ∈ target)) := by
  have hrows : kRoutes.find? (fun q => q.hit (textBytes r.method) target) =
      kRoutes.find? fun q => q.claims (textBytes r.method) (textBytes r.path)
        (decide (63 ∈ target)) := by
    refine List.find?_congr fun q hq => ?_
    rw [hit_eq_claims (path_of_mem hq), hpath]
  rw [resolve, hrows, Row.found]
  rfl

/-- Without a query every row is found. -/
lemma found_false : ∀ r ∈ kRoutes, r.found false = r.resolved := by decide

/-- With one, a row that is exact is not, and nor is any other in its place, but for the two
that a row of a shorter path covers. -/
lemma found_true : ∀ r ∈ kRoutes,
    (r.found true = r.resolved ∨ (r.matching = .Exact ∧ r.found true = {})) ↔
      ¬(r.route = .BenchtestRunProgress ∨ r.route = .BenchtestRunCancel) := by
  decide

/-- **A request finds the row of its path**, exactly unless it asks for the progress of a run,
or cancels one, with a query. -/
theorem finds_iff {r : Row} (hr : r ∈ kRoutes) {target : Bytes}
    (hpath : pathOf target = textBytes r.path) :
    Finds r (textBytes r.method) target ↔
      ¬(63 ∈ target ∧ (r.route = .BenchtestRunProgress ∨ r.route = .BenchtestRunCancel)) := by
  rw [Finds, resolve_eq_found hpath]
  by_cases hquery : 63 ∈ target
  · rw [decide_eq_true hquery]
    simp only [hquery, true_and]
    exact found_true r hr
  · rw [decide_eq_false hquery]
    exact iff_of_true (.inl (found_false r hr)) fun h => hquery h.1

/-- A run is cancelled by a target with a query: it is started. -/
theorem cancel_starts : ¬∀ r ∈ kRoutes, ∀ target : Bytes, pathOf target = textBytes r.path →
    Finds r (textBytes r.method) target := by
  intro h
  have hfinds := h ⟨"POST", "/api/benchtest/run/cancel", .Exact, .BenchtestRunCancel,
    .Authenticated, false⟩ (by decide) (textBytes "/api/benchtest/run/cancel?run=1")
    (by decide +kernel)
  have hstarts : (resolve (textBytes "POST") (textBytes "/api/benchtest/run/cancel?run=1")).route
      = .BenchtestRunStart := by decide +kernel
  rcases hfinds with hrow | ⟨-, -, hnone⟩
  · rw [hrow] at hstarts
    cases hstarts
  · rw [hnone] at hstarts
    cases hstarts

/-- A conversation, by the query that names it. -/
theorem finds_iff_session : Finds ⟨"GET", "/api/chat/session", .Prefix, .ChatSession,
    .Authenticated, false⟩ (textBytes "GET") (textBytes "/api/chat/session?oid=1") := by
  refine (finds_iff (by decide) (by decide +kernel)).mpr ?_
  decide

end Pretzel.Mgmtd
