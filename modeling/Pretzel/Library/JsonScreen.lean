import Pretzel.Library.Json

/-!
Names of members that are looked for in a JSON value, and where.

* `Json.Within`, `Json.FreeOf`: a value inside another, at any depth; a value with
  no object inside that has a member of one of the names.
* `Screen`: the places of a value where a check looks for names, and the names it
  looks for in each.
* `Screen.Clear`: what a check that follows the screen accepts.
* `Screen.FreeElsewhere`: the value is free of the names where the screen does not
  look.
* `freeOf_iff`: **what is clear is free of the names exactly when it is free of
  them elsewhere.**
-/

namespace Nlohmann

namespace Json

/-- A value inside another, itself included. -/
inductive Within (o : Json) : Json → Prop
  | refl : Within o o
  | element {es : List Json} {e : Json} : e ∈ es → Within o e → Within o (.arr es)
  | member {j v : Json} {key : String} : j.find? key = some v → Within o v → Within o j

/-- No object inside the value has a member of one of the names. -/
def FreeOf (names : List String) (j : Json) : Prop :=
  ∀ o, Within o j → ∀ name ∈ names, o.contains name = false

variable {names : List String}

lemma freeOf_obj {ms : List (String × Json)} : FreeOf names (.obj ms) ↔
    (∀ name ∈ names, (Json.obj ms).contains name = false) ∧
      ∀ key v, (Json.obj ms).find? key = some v → FreeOf names v := by
  constructor
  · intro h
    exact ⟨h _ .refl, fun key v hv o ho => h o (.member hv ho)⟩
  · rintro ⟨hown, hmembers⟩ o ho
    cases ho with
    | refl => exact hown
    | member hv ho => exact hmembers _ _ hv o ho

lemma freeOf_arr {es : List Json} : FreeOf names (.arr es) ↔ ∀ e ∈ es, FreeOf names e := by
  constructor
  · intro h e he o ho
    exact h o (.element he ho)
  · intro h o ho
    cases ho with
    | refl => exact fun name _ => rfl
    | element he ho => exact h _ he o ho
    | member hv ho => cases hv

/-- A value that is neither an object nor an array. -/
lemma freeOf_scalar {j : Json} (hobj : j.isObject = false) (harr : j.isArray = false) :
    FreeOf names j := by
  intro o ho name _
  cases ho with
  | refl =>
      rw [contains, Option.isSome_eq_false_iff, Option.isNone_iff_eq_none]
      exact Option.eq_none_iff_forall_not_mem.mpr fun v hv =>
        Bool.false_ne_true (hobj.symm.trans (isObject_of_find? hv))
  | element he ho => cases harr
  | member hv ho => exact absurd (hobj.symm.trans (isObject_of_find? hv)) Bool.false_ne_true

end Json

/-! ### Screens -/

/-- Where a check looks for names: nowhere in a value, among the members of an
object and further inside each, or in every element of an array. -/
inductive Screen where
  | unseen
  | object (looked : List String) (inside : String → Screen)
  | array (entry : Json → Screen)

namespace Screen

/-- The check finds none of the names it looks for. -/
def Clear : Screen → Json → Prop
  | .unseen, _ => True
  | .object looked inside, j => j.isObject = true ∧ (∀ name ∈ looked, j.contains name = false) ∧
      ∀ key v, j.find? key = some v → (inside key).Clear v
  | .array entry, j => j.isArray = true ∧ ∀ e ∈ j.elements, (entry e).Clear e

/-- The value is free of the names where the check does not look for them. -/
def FreeElsewhere (names : List String) : Screen → Json → Prop
  | .unseen, j => j.FreeOf names
  | .object looked inside, j => (∀ name ∈ names, name ∉ looked → j.contains name = false) ∧
      ∀ key v, j.find? key = some v → (inside key).FreeElsewhere names v
  | .array entry, j => ∀ e ∈ j.elements, (entry e).FreeElsewhere names e

/-- **What is clear is free of the names exactly when it is free of them
elsewhere.** -/
theorem freeOf_iff {names : List String} {s : Screen} {j : Json} (h : s.Clear j) :
    j.FreeOf names ↔ s.FreeElsewhere names j := by
  induction s generalizing j with
  | unseen => exact Iff.rfl
  | object looked inside ih =>
      obtain ⟨hobj, hlooked, hinside⟩ := h
      obtain ⟨ms, rfl⟩ := Json.isObject_iff.mp hobj
      rw [Json.freeOf_obj, FreeElsewhere]
      refine and_congr ?_ (forall_congr' fun key => forall_congr' fun v => ?_)
      · constructor
        · exact fun hown name hname _ => hown name hname
        · intro hown name hname
          by_cases hlook : name ∈ looked
          · exact hlooked name hlook
          · exact hown name hname hlook
      · exact forall_congr' fun hv => ih key (hinside key v hv)
  | array entry ih =>
      obtain ⟨harr, hentries⟩ := h
      obtain ⟨es, rfl⟩ := Json.isArray_iff.mp harr
      rw [Json.freeOf_arr, FreeElsewhere]
      exact forall_congr' fun e => forall_congr' fun he => ih e (hentries e he)

end Screen

end Nlohmann
