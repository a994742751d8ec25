import Pretzel.Library.Json

/-!
Reading a constant JSON document by `operator[]`, which throws on a value that is no
object and must not be asked for a member that is not there.

* `AccessError`: the two ways in which it fails. `Json.index`: `operator[]`.
* `index_of_find?`: behind a check it is the member. `readMember`: a read behind one.
* `result`: what is returned where something is.
* `collect`, `returns_collect`, `map_collect`: a loop that reads something of each element.
-/

namespace Nlohmann

/-- How `operator[]` of a constant value fails: with a type_error 305, or by reading a
member that is absent, which is undefined. -/
inductive AccessError where
  | typeError
  | absentMember
deriving DecidableEq, Repr

namespace Json

/-- `operator[](key)` of a constant value. -/
def index (j : Json) (key : String) : Except AccessError Json :=
  match j with
  | .obj ms =>
      match lookup key ms with
      | some v => .ok v
      | none => .error .absentMember
  | _ => .error .typeError

/-- What is read of a member, where it is there:
`contains(key) ? read(operator[](key)) : absent`. -/
def readMember {α : Type} (j : Json) (key : String) (absent : α)
    (read : Json → Except AccessError α) : Except AccessError α :=
  if j.contains key then j.index key >>= read else .ok absent

/-- **A member that is there is read.** -/
lemma index_of_find? {j v : Json} {key : String} (h : j.find? key = some v) :
    j.index key = .ok v := by
  cases j with
  | obj ms =>
      rw [find?, members] at h
      rw [index, h]
  | _ => cases h

/-- A member that is absent must not be read. -/
lemma not_returns_index {j : Json} {key : String} (h : j.find? key = none) :
    ¬Returns (j.index key) := by
  cases j with
  | obj ms =>
      rw [find?, members] at h
      rw [index, h]
      exact not_returns_error _
  | _ => exact not_returns_error _

lemma contains_of_find? {j v : Json} {key : String} (h : j.find? key = some v) :
    j.contains key = true := by
  rw [contains, h]
  rfl

lemma contains_of_find?_eq_none {j : Json} {key : String} (h : j.find? key = none) :
    j.contains key = false := by
  rw [contains, h]
  rfl

lemma find?_of_not_isObject {j : Json} (h : j.isObject = false) (key : String) :
    j.find? key = none := by
  cases j with
  | obj ms => cases h
  | _ => rfl

section ReadMember

variable {α : Type} {j : Json} {key : String} {absent : α} {read : Json → Except AccessError α}

lemma readMember_of_find? {v : Json} (h : j.find? key = some v) :
    j.readMember key absent read = read v := by
  rw [readMember, if_pos (contains_of_find? h), index_of_find? h]
  rfl

lemma readMember_of_find?_eq_none (h : j.find? key = none) :
    j.readMember key absent read = .ok absent := by
  rw [readMember, if_neg (by rw [contains_of_find?_eq_none h]; exact Bool.false_ne_true)]

/-- What was read, by whether the member is there. -/
lemma readMember_eq_ok {a : α} (h : j.readMember key absent read = .ok a) :
    (j.find? key = none ∧ a = absent) ∨ ∃ v, j.find? key = some v ∧ read v = .ok a := by
  cases hfind : j.find? key with
  | none =>
      rw [readMember_of_find?_eq_none hfind] at h
      cases h
      exact .inl ⟨rfl, rfl⟩
  | some v =>
      rw [readMember_of_find? hfind] at h
      exact .inr ⟨v, rfl, h⟩

/-- **A read behind a check fails in its own steps only.** -/
lemma returns_readMember : Returns (j.readMember key absent read) ↔
    ∀ v, j.find? key = some v → Returns (read v) := by
  cases h : j.find? key with
  | none =>
      rw [readMember_of_find?_eq_none h]
      simp
  | some v =>
      rw [readMember_of_find? h]
      simp

lemma returns_readMember_of (h : ∀ v, Returns (read v)) :
    Returns (j.readMember key absent read) := returns_readMember.mpr fun v _ => h v

end ReadMember

end Json

/-! ### Results -/

section Result

variable {ε α β : Type} [Inhabited α]

/-- What a computation returns, where it does. -/
def result : Except ε α → α
  | .ok a => a
  | .error _ => default

lemma eq_ok_result {x : Except ε α} (h : Returns x) : x = .ok (result x) := by
  obtain ⟨a, rfl⟩ := h
  rfl

end Result

section Returns

variable {ε α β : Type} {x : Except ε α} {f : α → Except ε β}

/-- A step that returns, and a rest that does whatever it returns. -/
lemma returns_bind_of (hx : Returns x) (hf : ∀ a, Returns (f a)) : Returns (x >>= f) :=
  returns_bind.mpr ⟨hx, fun a _ => hf a⟩

/-- A read that is made behind its check. -/
lemma returns_ite {c : Bool} {y : Except ε α} (hx : c = true → Returns x)
    (hy : c = false → Returns y) : Returns (if c = true then x else y) := by
  cases c with
  | true => exact hx rfl
  | false => exact hy rfl

end Returns

/-! ### Loops -/

section Collect

variable {ε α β : Type}

/-- What is read of each element, in order. -/
def collect (read : α → Except ε (List β)) : List α → Except ε (List β)
  | [] => .ok []
  | a :: as => do
      let bs ← read a
      let rest ← collect read as
      return bs ++ rest

variable {read : α → Except ε (List β)}

/-- **The loop ends when each read does.** -/
lemma returns_collect {l : List α} : Returns (collect read l) ↔ ∀ a ∈ l, Returns (read a) := by
  induction l with
  | nil => simp [collect]
  | cons a as ih =>
      rw [collect, List.forall_mem_cons, ← ih]
      refine returns_bind_iff fun bs _ => ?_
      rw [returns_bind]
      exact and_iff_left fun rest _ => returns_pure _

/-- What a loop gathers was read of an element. -/
lemma mem_of_collect {l : List α} {bs : List β} (h : collect read l = .ok bs) {b : β}
    (hb : b ∈ bs) : ∃ a ∈ l, ∃ cs, read a = .ok cs ∧ b ∈ cs := by
  induction l generalizing bs with
  | nil =>
      cases h
      cases hb
  | cons a as ih =>
      rw [collect, except_bind_eq_ok] at h
      obtain ⟨cs, hread, h⟩ := h
      obtain ⟨rest, hrest, h⟩ := except_bind_eq_ok.mp h
      cases h
      rcases List.mem_append.mp hb with hb | hb
      · exact ⟨a, List.mem_cons_self, cs, hread, hb⟩
      · obtain ⟨a', ha', hmem⟩ := ih hrest hb
        exact ⟨a', List.mem_cons_of_mem _ ha', hmem⟩

/-- What a loop gathers, by what each read gives. -/
lemma map_collect {γ : Type} {f : α → List γ} {g : β → γ}
    (h : ∀ a bs, read a = .ok bs → bs.map g = f a) {l : List α} {bs : List β}
    (hread : collect read l = .ok bs) : bs.map g = l.flatMap f := by
  induction l generalizing bs with
  | nil =>
      cases hread
      rfl
  | cons a as ih =>
      obtain ⟨cs, hfirst, hread⟩ := except_bind_eq_ok.mp hread
      obtain ⟨rest, hrest, hread⟩ := except_bind_eq_ok.mp hread
      cases hread
      rw [List.map_append, ih hrest, List.flatMap_cons, h a cs hfirst]

end Collect

end Nlohmann
