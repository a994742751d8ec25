import Mathlib.Tactic

/-!
JSON documents with the semantics of the nlohmann library.

* `Json`: null, booleans, integers, finite doubles (`m·2^e`), strings, arrays
  and objects; an object lists its members in key order, as the `std::map`
  behind it iterates.
* Reading: `find?`, `contains`, `elements` (a range-based `for`), and the typed
  reads `valueString`, `valueJson`, `valueUnsigned`, which throw where the
  library throws: on a receiver that is no object (`JsonError.notObject`,
  type_error 306) and on a member of another type (`JsonError.wrongType`,
  type_error 302).
* Writing: `set` (assignment through `operator[]`), `erase`, and `mergePatch`
  (RFC 7386).
* `find?_set`, `find?_overlay`, `lookup_mergeMembers`: what a
  write leaves of each member.
* `readEach`: a loop of typed reads over the elements of an array.
* `Document`: a value as the parser gives it, no key of an object twice.
-/

namespace Nlohmann

/-- A JSON value. -/
inductive Json where
  | null
  | bool (b : Bool)
  | int (i : ℤ)
  | float (m e : ℤ)
  | str (s : String)
  | arr (elems : List Json)
  | obj (members : List (String × Json))
deriving Repr

/-- The exceptions the library raises on a typed access. -/
inductive JsonError where
  | wrongType
  | notObject
  | badIndex
deriving DecidableEq, Repr

/-- A computation that succeeds, peeled apart. -/
lemma except_bind_eq_ok {ε α β : Type} {x : Except ε α} {f : α → Except ε β} {b : β} :
    (x >>= f) = .ok b ↔ ∃ a, x = .ok a ∧ f a = .ok b := by
  cases x with
  | error e => simp [bind, Except.bind]
  | ok a => simp [bind, Except.bind]

/-- No exception leaves the computation. -/
def Returns {ε α : Type} (x : Except ε α) : Prop := ∃ a, x = .ok a

section Returns

variable {ε α β : Type} {x : Except ε α} {f : α → Except ε β}

@[simp]
lemma returns_ok (a : α) : Returns (.ok a : Except ε α) := ⟨a, rfl⟩

@[simp]
lemma returns_pure (a : α) : Returns (pure a : Except ε α) := ⟨a, rfl⟩

@[simp]
lemma not_returns_error (e : ε) : ¬Returns (.error e : Except ε α) := by
  rintro ⟨a, h⟩
  cases h

/-- A computation in steps returns when the first does, and the rest does on its
result. -/
lemma returns_bind : Returns (x >>= f) ↔ Returns x ∧ ∀ a, x = .ok a → Returns (f a) := by
  cases x with
  | error e => simp [bind, Except.bind]
  | ok a => simp [bind, Except.bind]

/-- Behind a check that stops at a no. -/
lemma returns_bind_bool {x : Except ε Bool} {y : Except ε α} {b : α} :
    Returns (x >>= fun found => if found = true then y else pure b) ↔
      Returns x ∧ (x = .ok true → Returns y) := by
  rw [returns_bind]
  refine and_congr_right fun _ => ⟨fun h hx => by simpa using h true hx, fun h found hx => ?_⟩
  cases found with
  | true => simpa using h hx
  | false => simp

/-- Behind a check that stops at an error. -/
lemma returns_bind_option {γ : Type} {x : Except ε (Option γ)} {f : Option γ → Except ε α}
    (hsome : ∀ e, Returns (f (some e))) :
    Returns (x >>= f) ↔ Returns x ∧ (x = .ok none → Returns (f none)) := by
  rw [returns_bind]
  refine and_congr_right fun _ => ⟨fun h => h none, fun h error hx => ?_⟩
  cases error with
  | none => exact h hx
  | some e => exact hsome e

/-- Where the rest returns in the same case for every result. -/
lemma returns_bind_iff {p : Prop} (h : ∀ a, x = .ok a → (Returns (f a) ↔ p)) :
    Returns (x >>= f) ↔ Returns x ∧ p := by
  rw [returns_bind]
  refine and_congr_right ?_
  rintro ⟨a, ha⟩
  exact ⟨fun hf => (h a ha).mp (hf a ha), fun hp b hb => (h b hb).mpr hp⟩

end Returns

namespace Json

/-! ### Decidable equality -/

mutual

/-- Equality of values, decided along the constructors. -/
def decEq : (a b : Json) → Decidable (a = b)
  | .null, .null => isTrue rfl
  | .bool a, .bool b => decidable_of_iff (a = b) (by simp)
  | .int a, .int b => decidable_of_iff (a = b) (by simp)
  | .float m e, .float n f => decidable_of_iff (m = n ∧ e = f) (by simp)
  | .str a, .str b => decidable_of_iff (a = b) (by simp)
  | .arr a, .arr b => @decidable_of_iff _ (a = b) (by simp) (decEqList a b)
  | .obj a, .obj b => @decidable_of_iff _ (a = b) (by simp) (decEqMembers a b)
  | .null, .bool _ | .null, .int _ | .null, .float _ _ | .null, .str _ | .null, .arr _
  | .null, .obj _ | .bool _, .null | .bool _, .int _ | .bool _, .float _ _ | .bool _, .str _
  | .bool _, .arr _ | .bool _, .obj _ | .int _, .null | .int _, .bool _ | .int _, .float _ _
  | .int _, .str _ | .int _, .arr _ | .int _, .obj _ | .float _ _, .null | .float _ _, .bool _
  | .float _ _, .int _ | .float _ _, .str _ | .float _ _, .arr _ | .float _ _, .obj _
  | .str _, .null | .str _, .bool _ | .str _, .int _ | .str _, .float _ _ | .str _, .arr _
  | .str _, .obj _ | .arr _, .null | .arr _, .bool _ | .arr _, .int _ | .arr _, .float _ _
  | .arr _, .str _ | .arr _, .obj _ | .obj _, .null | .obj _, .bool _ | .obj _, .int _
  | .obj _, .float _ _ | .obj _, .str _ | .obj _, .arr _ => isFalse (by simp)

/-- Equality of arrays. -/
def decEqList : (a b : List Json) → Decidable (a = b)
  | [], [] => isTrue rfl
  | [], _ :: _ => isFalse (by simp)
  | _ :: _, [] => isFalse (by simp)
  | a :: as, b :: bs =>
      @decidable_of_iff _ (a = b ∧ as = bs) (by simp)
        (@instDecidableAnd _ _ (decEq a b) (decEqList as bs))

/-- Equality of member lists. -/
def decEqMembers : (a b : List (String × Json)) → Decidable (a = b)
  | [], [] => isTrue rfl
  | [], _ :: _ => isFalse (by simp)
  | _ :: _, [] => isFalse (by simp)
  | (k, a) :: as, (l, b) :: bs =>
      @decidable_of_iff _ (k = l ∧ a = b ∧ as = bs) (by simp [and_assoc])
        (@instDecidableAnd _ _ _ (@instDecidableAnd _ _ (decEq a b) (decEqMembers as bs)))

end

instance : DecidableEq Json := decEq

/-! ### Members -/

/-- The members of an object; a value of another kind has none. -/
def members : Json → List (String × Json)
  | .obj ms => ms
  | _ => []

/-- The first member of the given key. -/
def lookup (key : String) : List (String × Json) → Option Json
  | [] => none
  | (k, v) :: ms => if k = key then some v else lookup key ms

/-- A member inserted at its place in key order, or replaced where it stands. -/
def insertMember (key : String) (v : Json) : List (String × Json) → List (String × Json)
  | [] => [(key, v)]
  | (k, w) :: ms =>
      if key = k then (key, v) :: ms
      else if key < k then (key, v) :: (k, w) :: ms
      else (k, w) :: insertMember key v ms

/-- The member of the given key removed. -/
def eraseMember (key : String) : List (String × Json) → List (String × Json)
  | [] => []
  | (k, w) :: ms => if k = key then eraseMember key ms else (k, w) :: eraseMember key ms

lemma lookup_insertMember (key k : String) (v : Json) (ms : List (String × Json)) :
    lookup k (insertMember key v ms) = if k = key then some v else lookup k ms := by
  induction ms with
  | nil => simp [insertMember, lookup, eq_comm]
  | cons m ms ih =>
      obtain ⟨k', w⟩ := m
      rw [insertMember]
      split
      · next h => subst h; simp only [lookup]; grind
      · split
        · simp only [lookup]; grind
        · simp only [lookup, ih]; grind

lemma lookup_eraseMember (key k : String) (ms : List (String × Json)) :
    lookup k (eraseMember key ms) = if k = key then none else lookup k ms := by
  induction ms with
  | nil => simp [eraseMember, lookup]
  | cons m ms ih =>
      obtain ⟨k', w⟩ := m
      rw [eraseMember]
      split
      · next h => rw [ih]; simp only [lookup]; grind
      · simp only [lookup, ih]; grind

/-! ### Reading -/

/-- `is_object()`. -/
def isObject : Json → Bool
  | .obj _ => true
  | _ => false

/-- `is_array()`. -/
def isArray : Json → Bool
  | .arr _ => true
  | _ => false

/-- `is_string()`. -/
def isString : Json → Bool
  | .str _ => true
  | _ => false

/-- `is_boolean()`. -/
def isBoolean : Json → Bool
  | .bool _ => true
  | _ => false

/-- `is_number()`. -/
def isNumber : Json → Bool
  | .int _ | .float _ _ => true
  | _ => false

/-- `is_number_integer()`, signed or unsigned. -/
def isNumberInteger : Json → Bool
  | .int _ => true
  | _ => false

/-- `find(key)`: the member of an object, if it has one. -/
def find? (j : Json) (key : String) : Option Json := lookup key j.members

/-- `contains(key)`, false on a value that is no object. -/
def contains (j : Json) (key : String) : Bool := (j.find? key).isSome

/-- What a range-based `for` visits: the elements of an array, the values of an
object, nothing of null, and any other value itself. -/
def elements : Json → List Json
  | .arr es => es
  | .obj ms => ms.map Prod.snd
  | .null => []
  | j => [j]

/-- The elements under a key, none where there is no member: what a loop over
`value(key, json::array())` visits. -/
def elementsAt (j : Json) (key : String) : List Json := ((j.find? key).getD (.arr [])).elements

/-- `empty()`. -/
def isEmpty : Json → Bool
  | .null => true
  | .arr es => es.isEmpty
  | .obj ms => ms.isEmpty
  | _ => false

/-- `get<std::string>()`. -/
def getString : Json → Except JsonError String
  | .str s => .ok s
  | _ => .error .wrongType

/-- The integer a finite double truncates to. -/
def truncFloat (m e : ℤ) : ℤ :=
  if 0 ≤ e then m * 2 ^ e.toNat else m.tdiv (2 ^ (-e).toNat)

/-- `get` at an unsigned integer type of `w` bits: a number is converted, a
boolean too. -/
def getUnsigned (w : ℕ) : Json → Except JsonError ℕ
  | .int i => .ok (i % 2 ^ w).toNat
  | .float m e => .ok (truncFloat m e % 2 ^ w).toNat
  | .bool b => .ok b.toNat
  | _ => .error .wrongType

/-- `get<std::int64_t>()`: a number is converted, nothing else. -/
def getInt64 : Json → Except JsonError ℤ
  | .int i => .ok (Int.bmod i (2 ^ 64))
  | .float m e => .ok (Int.bmod (truncFloat m e) (2 ^ 64))
  | _ => .error .wrongType

/-- `get<int>()`: a number is converted, a boolean too. -/
def getInt32 : Json → Except JsonError ℤ
  | .int i => .ok (Int.bmod i (2 ^ 32))
  | .float m e => .ok (Int.bmod (truncFloat m e) (2 ^ 32))
  | .bool b => .ok b.toNat
  | _ => .error .wrongType

/-- `get<bool>()`. -/
def getBool : Json → Except JsonError Bool
  | .bool b => .ok b
  | _ => .error .wrongType

/-- `value(key, fallback)` at the type `get` reads. -/
def valueWith {α : Type} (get : Json → Except JsonError α) (j : Json) (key : String)
    (fallback : α) : Except JsonError α :=
  match j with
  | .obj ms =>
      match lookup key ms with
      | some v => get v
      | none => .ok fallback
  | _ => .error .notObject

/-- `value(key, std::string(fallback))`. -/
def valueString (j : Json) (key fallback : String) : Except JsonError String :=
  j.valueWith getString key fallback

/-- `value(key, fallback)` at `json` itself, which converts every member. -/
def valueJson (j : Json) (key : String) (fallback : Json) : Except JsonError Json :=
  j.valueWith .ok key fallback

/-- `value(key, fallback)` at an unsigned integer type of `w` bits. -/
def valueUnsigned (w : ℕ) (j : Json) (key : String) (fallback : ℕ) : Except JsonError ℕ :=
  j.valueWith (getUnsigned w) key fallback

/-- `value(key, fallback)` at `int`. -/
def valueInt32 (j : Json) (key : String) (fallback : ℤ) : Except JsonError ℤ :=
  j.valueWith getInt32 key fallback

/-- `value(key, std::int64_t{fallback})`. -/
def valueInt64 (j : Json) (key : String) (fallback : ℤ) : Except JsonError ℤ :=
  j.valueWith getInt64 key fallback

/-- `value(key, fallback)` at `bool`. -/
def valueBool (j : Json) (key : String) (fallback : Bool) : Except JsonError Bool :=
  j.valueWith getBool key fallback

lemma valueWith_obj {α : Type} (get : Json → Except JsonError α) (ms : List (String × Json))
    (key : String) (fallback : α) :
    (Json.obj ms).valueWith get key fallback
      = ((Json.obj ms).find? key).elim (.ok fallback) get := by
  rw [valueWith, find?, members]
  cases lookup key ms <;> rfl

lemma isObject_iff {j : Json} : j.isObject = true ↔ ∃ ms, j = .obj ms := by
  constructor
  · intro h
    cases j with
    | obj ms => exact ⟨ms, rfl⟩
    | _ => exact absurd h Bool.false_ne_true
  · rintro ⟨ms, rfl⟩
    rfl

lemma isArray_iff {j : Json} : j.isArray = true ↔ ∃ es, j = .arr es := by
  constructor
  · intro h
    cases j with
    | arr es => exact ⟨es, rfl⟩
    | _ => exact absurd h Bool.false_ne_true
  · rintro ⟨es, rfl⟩
    rfl

lemma isObject_of_contains {j : Json} {key : String} (h : j.contains key = true) :
    j.isObject = true := by
  cases j with
  | obj ms => rfl
  | _ => simp [contains, find?, members, lookup] at h

lemma contains_iff {j : Json} {key : String} :
    j.contains key = true ↔ ∃ v, j.find? key = some v := by
  rw [contains, Option.isSome_iff_exists]

lemma isObject_of_find? {j v : Json} {key : String} (h : j.find? key = some v) :
    j.isObject = true := by
  have hcontains : j.contains key = true := by
    rw [contains, h]
    rfl
  exact isObject_of_contains hcontains

/-- A member read as a string is that string. -/
lemma valueString_of_find? {j : Json} {key s fallback : String} (h : j.find? key = some (.str s)) :
    j.valueString key fallback = .ok s := by
  obtain ⟨ms, rfl⟩ := isObject_iff.mp (isObject_of_find? h)
  rw [valueString, valueWith_obj, h]
  rfl

/-- A string read with an empty default: the member, or no member at all. -/
lemma valueString_eq_ok {j : Json} {key s : String} (h : j.valueString key "" = .ok s) :
    j.find? key = some (.str s) ∨ (j.find? key = none ∧ s = "") := by
  cases j with
  | obj ms =>
      rw [valueString, valueWith_obj] at h
      cases hv : (Json.obj ms).find? key with
      | none =>
          rw [hv] at h
          cases h
          exact .inr ⟨rfl, rfl⟩
      | some v =>
          rw [hv] at h
          cases v with
          | str s' =>
              cases h
              exact .inl rfl
          | _ => cases h
  | _ => cases h

/-- What is read has an object to be read of. -/
lemma isObject_of_valueJson {j v : Json} {key : String} (h : j.valueJson key (.arr []) = .ok v) :
    j.isObject = true := by
  cases j with
  | obj ms => rfl
  | _ => cases h

/-- A member that is read whatever its type. -/
lemma valueJson_of_isObject {j : Json} (h : j.isObject = true) (key : String) (fallback : Json) :
    j.valueJson key fallback = .ok ((j.find? key).getD fallback) := by
  obtain ⟨ms, rfl⟩ := isObject_iff.mp h
  rw [valueJson, valueWith_obj]
  cases (Json.obj ms).find? key <;> rfl

/-- The member is a string, or is not there. -/
def stringOrAbsent (j : Json) (key : String) : Bool := ((j.find? key).map isString).getD true

/-- The string under the key, or the fallback. -/
def textOr (j : Json) (key fallback : String) : String :=
  match j.find? key with
  | some (.str s) => s
  | _ => fallback

lemma stringOrAbsent_of_find? {j : Json} {key s : String} (h : j.find? key = some (.str s)) :
    j.stringOrAbsent key = true := by
  rw [stringOrAbsent, h]
  rfl

lemma find?_of_stringOrAbsent {j : Json} {key : String} (h : j.stringOrAbsent key = true) :
    j.find? key = none ∨ ∃ s, j.find? key = some (.str s) := by
  rw [stringOrAbsent] at h
  cases hfind : j.find? key with
  | none => exact .inl rfl
  | some v =>
      rw [hfind] at h
      cases v with
      | str s => exact .inr ⟨s, rfl⟩
      | _ => cases h

lemma textOr_of_find? {j : Json} {key s fallback : String} (h : j.find? key = some (.str s)) :
    j.textOr key fallback = s := by
  rw [textOr, h]

/-- A string that was read is the text under the key. -/
lemma textOr_of_valueString {j : Json} {key s : String} (h : j.valueString key "" = .ok s) :
    j.textOr key "" = s := by
  rcases valueString_eq_ok h with hfind | ⟨hfind, rfl⟩
  · exact textOr_of_find? hfind
  · rw [textOr, hfind]

/-- A member read as a boolean is that boolean. -/
lemma valueBool_of_find? {j : Json} {key : String} {b fallback : Bool}
    (h : j.find? key = some (.bool b)) : j.valueBool key fallback = .ok b := by
  obtain ⟨ms, rfl⟩ := isObject_iff.mp (isObject_of_find? h)
  rw [valueBool, valueWith_obj, h]
  rfl

/-- A boolean that was read: the member, or no member at all. -/
lemma valueBool_eq_ok {j : Json} {key : String} {fallback b : Bool}
    (h : j.valueBool key fallback = .ok b) :
    j.find? key = some (.bool b) ∨ (j.find? key = none ∧ b = fallback) := by
  cases j with
  | obj ms =>
      rw [valueBool, valueWith_obj] at h
      cases hv : (Json.obj ms).find? key with
      | none =>
          rw [hv] at h
          cases h
          exact .inr ⟨rfl, rfl⟩
      | some v =>
          rw [hv] at h
          cases v with
          | bool b' =>
              cases h
              exact .inl rfl
          | _ => cases h
  | _ => cases h

/-- A string read from an object, by what the object has there. -/
lemma valueString_eq_ok_iff {j : Json} (h : j.isObject = true) {key fallback s : String} :
    j.valueString key fallback = .ok s ↔
      j.stringOrAbsent key = true ∧ s = j.textOr key fallback := by
  obtain ⟨ms, rfl⟩ := isObject_iff.mp h
  rw [valueString, valueWith_obj, stringOrAbsent, textOr]
  cases (Json.obj ms).find? key with
  | none => simp [eq_comm]
  | some v => cases v <;> simp [getString, isString, eq_comm]

/-- A string read from an object, and what is made of it. -/
lemma bind_text_eq_ok_iff {β : Type} {j : Json} (h : j.isObject = true) {key fallback : String}
    {f : String → Except JsonError β} {b : β} : (j.valueString key fallback >>= f) = .ok b ↔
      j.stringOrAbsent key = true ∧ f (j.textOr key fallback) = .ok b := by
  rw [except_bind_eq_ok]
  constructor
  · rintro ⟨s, hs, hf⟩
    obtain ⟨hstring, rfl⟩ := (valueString_eq_ok_iff h).mp hs
    exact ⟨hstring, hf⟩
  · rintro ⟨hstring, hf⟩
    exact ⟨_, (valueString_eq_ok_iff h).mpr ⟨hstring, rfl⟩, hf⟩

/-- What is read of an object, and of nothing else. -/
lemma returns_ofObject {α : Type} {j : Json} {a : α} {x : Except JsonError α} {p : Prop}
    (h : j.isObject = true → (Returns x ↔ p)) :
    Returns (if j.isObject = false then .ok a else x) ↔ (j.isObject = true → p) := by
  split
  · next hno => simp [hno]
  · next hyes =>
      rw [Bool.not_eq_false] at hyes
      rw [imp_iff_right hyes]
      exact h hyes

/-- A string that is read at the end. -/
lemma returns_valueString {j : Json} (h : j.isObject = true) {key fallback : String} :
    Returns (j.valueString key fallback) ↔ j.stringOrAbsent key = true := by
  constructor
  · rintro ⟨s, hs⟩
    exact ((valueString_eq_ok_iff h).mp hs).1
  · intro hstring
    exact ⟨_, (valueString_eq_ok_iff h).mpr ⟨hstring, rfl⟩⟩

/-- A string read from an object, and what comes behind it. -/
lemma returns_text {α : Type} {j : Json} (h : j.isObject = true) {key fallback : String}
    {f : String → Except JsonError α} : Returns (j.valueString key fallback >>= f) ↔
      j.stringOrAbsent key = true ∧ Returns (f (j.textOr key fallback)) := by
  have hread := fun s => @valueString_eq_ok_iff j h key fallback s
  rw [returns_bind, Returns]
  constructor
  · rintro ⟨⟨s, hs⟩, hrest⟩
    obtain ⟨hstring, rfl⟩ := (hread s).mp hs
    exact ⟨hstring, hrest _ hs⟩
  · rintro ⟨hstring, hrest⟩
    refine ⟨⟨_, (hread _).mpr ⟨hstring, rfl⟩⟩, fun s hs => ?_⟩
    rw [((hread s).mp hs).2]
    exact hrest

/-- The member converts to an integer, or is not there. -/
def numericOrAbsent (j : Json) (key : String) : Bool :=
  ((j.find? key).map fun v => v.isNumber || v.isBoolean).getD true

/-- The integer under the key, or the fallback. -/
def int32Or (j : Json) (key : String) (fallback : ℤ) : ℤ :=
  match j.find? key with
  | some v => (getInt32 v).toOption.getD fallback
  | none => fallback

/-- An integer read from an object, by what the object has there. -/
lemma valueInt32_eq_ok_iff {j : Json} (h : j.isObject = true) {key : String} {fallback n : ℤ} :
    j.valueInt32 key fallback = .ok n ↔
      j.numericOrAbsent key = true ∧ n = j.int32Or key fallback := by
  obtain ⟨ms, rfl⟩ := isObject_iff.mp h
  rw [valueInt32, valueWith_obj, numericOrAbsent, int32Or]
  cases (Json.obj ms).find? key with
  | none => simp [eq_comm]
  | some v =>
      cases v <;> simp [getInt32, isNumber, isBoolean, eq_comm, Except.toOption]

/-- An integer read from an object, and what comes behind it. -/
lemma returns_int32 {α : Type} {j : Json} (h : j.isObject = true) {key : String} {fallback : ℤ}
    {f : ℤ → Except JsonError α} : Returns (j.valueInt32 key fallback >>= f) ↔
      j.numericOrAbsent key = true ∧ Returns (f (j.int32Or key fallback)) := by
  have hread := fun n => @valueInt32_eq_ok_iff j h key fallback n
  rw [returns_bind, Returns]
  constructor
  · rintro ⟨⟨n, hn⟩, hrest⟩
    obtain ⟨hnumeric, rfl⟩ := (hread n).mp hn
    exact ⟨hnumeric, hrest _ hn⟩
  · rintro ⟨hnumeric, hrest⟩
    refine ⟨⟨_, (hread _).mpr ⟨hnumeric, rfl⟩⟩, fun n hn => ?_⟩
    rw [((hread n).mp hn).2]
    exact hrest

/-- The boolean is there, or nothing is. -/
def boolOrAbsent (j : Json) (key : String) : Bool := ((j.find? key).map isBoolean).getD true

/-- The boolean under the key, or the fallback. -/
def boolOr (j : Json) (key : String) (fallback : Bool) : Bool :=
  match j.find? key with
  | some (.bool b) => b
  | _ => fallback

/-- A boolean that was read, by what is there. -/
lemma valueBool_eq_ok_iff {j : Json} {key : String} {fallback b : Bool} :
    j.valueBool key fallback = .ok b ↔
      j.isObject = true ∧ j.boolOrAbsent key = true ∧ b = j.boolOr key fallback := by
  cases j with
  | obj ms =>
      rw [valueBool, valueWith_obj, boolOrAbsent, boolOr]
      cases (Json.obj ms).find? key with
      | none => simp [isObject, eq_comm]
      | some v => cases v <;> simp [getBool, isBoolean, isObject, eq_comm]
  | _ => simp [valueBool, valueWith, isObject]

/-- A boolean read, and what comes behind it. -/
lemma returns_bool {α : Type} {j : Json} {key : String} {fallback : Bool}
    {f : Bool → Except JsonError α} : Returns (j.valueBool key fallback >>= f) ↔
      j.isObject = true ∧ j.boolOrAbsent key = true ∧ Returns (f (j.boolOr key fallback)) := by
  rw [returns_bind, Returns]
  constructor
  · rintro ⟨⟨b, hb⟩, hrest⟩
    obtain ⟨hobj, hbool, rfl⟩ := valueBool_eq_ok_iff.mp hb
    exact ⟨hobj, hbool, hrest _ hb⟩
  · rintro ⟨hobj, hbool, hrest⟩
    refine ⟨⟨_, valueBool_eq_ok_iff.mpr ⟨hobj, hbool, rfl⟩⟩, fun b hb => ?_⟩
    rw [(valueBool_eq_ok_iff.mp hb).2.2]
    exact hrest

/-- A string read from a value that may be no object, and what comes behind it. -/
lemma returns_string {α : Type} {j : Json} {key fallback : String}
    {f : String → Except JsonError α} : Returns (j.valueString key fallback >>= f) ↔
      j.isObject = true ∧ j.stringOrAbsent key = true ∧ Returns (f (j.textOr key fallback)) := by
  cases hobj : j.isObject with
  | true => simp [returns_text hobj]
  | false =>
      have hthrows : j.valueString key fallback = .error .notObject := by
        cases j with
        | obj ms => cases hobj
        | _ => rfl
      rw [hthrows]
      exact iff_of_false (not_returns_error _) fun h => Bool.false_ne_true h.1

/-! ### Reading each of a list -/

/-- The elements read in order, those that are passed over left out. -/
def readEach {α : Type} (read : Json → Except JsonError (Option α)) :
    List Json → Except JsonError (List α)
  | [] => .ok []
  | e :: es => do
      let r ← read e
      let rs ← readEach read es
      return r.toList ++ rs

section ReadEach

variable {α : Type} {read : Json → Except JsonError (Option α)} {es : List Json}

/-- The loop runs to its end when every element can be read. -/
lemma readEach_isOk : (∃ rs, readEach read es = .ok rs) ↔ ∀ e ∈ es, ∃ r, read e = .ok r := by
  induction es with
  | nil => simp [readEach]
  | cons e es ih =>
      rw [List.forall_mem_cons, ← ih]
      constructor
      · rintro ⟨rs, h⟩
        rw [readEach, except_bind_eq_ok] at h
        obtain ⟨r, hr, h⟩ := h
        rw [except_bind_eq_ok] at h
        obtain ⟨rs', hrs, -⟩ := h
        exact ⟨⟨r, hr⟩, rs', hrs⟩
      · rintro ⟨⟨r, hr⟩, rs, hrs⟩
        refine ⟨r.toList ++ rs, ?_⟩
        rw [readEach, hr]
        change (do let rs ← readEach read es; _) = _
        rw [hrs]
        rfl

/-- **A loop whose reads are known**, each by what it needs and what it gives. -/
lemma readEach_eq_ok_iff {f : Json → Option α} {ok : Json → Prop}
    (hread : ∀ e r, read e = .ok r ↔ ok e ∧ r = f e) {rs : List α} :
    readEach read es = .ok rs ↔ (∀ e ∈ es, ok e) ∧ rs = es.filterMap f := by
  induction es generalizing rs with
  | nil => simp [readEach, eq_comm]
  | cons e es ih =>
      rw [readEach, except_bind_eq_ok, List.forall_mem_cons]
      constructor
      · rintro ⟨r, hr, h⟩
        obtain ⟨rs', hrs, h⟩ := except_bind_eq_ok.mp h
        cases h
        obtain ⟨he, rfl⟩ := (hread e r).mp hr
        obtain ⟨hes, rfl⟩ := ih.mp hrs
        refine ⟨⟨he, hes⟩, ?_⟩
        rw [List.filterMap_cons]
        cases f e <;> rfl
      · rintro ⟨⟨he, hes⟩, rfl⟩
        refine ⟨f e, (hread e _).mpr ⟨he, rfl⟩, ?_⟩
        refine except_bind_eq_ok.mpr ⟨_, ih.mpr ⟨hes, rfl⟩, ?_⟩
        rw [List.filterMap_cons]
        cases f e <;> rfl

/-- What a loop gives, one element after the other, under a projection. -/
lemma map_readEach {β : Type} {read : Json → Except JsonError (Option α)} {f : Json → Option β}
    {g : α → β} (h : ∀ e r, read e = .ok r → r.map g = f e) {rs : List α}
    (hread : readEach read es = .ok rs) : rs.map g = es.filterMap f := by
  induction es generalizing rs with
  | nil =>
      cases hread
      rfl
  | cons e es ih =>
      obtain ⟨r, hr, hread⟩ := except_bind_eq_ok.mp hread
      obtain ⟨rs', hrs, hread⟩ := except_bind_eq_ok.mp hread
      cases hread
      rw [List.map_append, ih hrs, List.filterMap_cons, ← h e r hr]
      cases r <;> rfl

/-- Where no element is passed over, the results answer the elements one by
one. -/
lemma forall₂_readEach {R : Json → α → Prop} {rs : List α} (h : readEach read es = .ok rs)
    (hread : ∀ e ∈ es, ∀ r, read e = .ok r → ∃ a, r = some a ∧ R e a) : List.Forall₂ R es rs := by
  induction es generalizing rs with
  | nil =>
      cases h
      exact .nil
  | cons e es ih =>
      rw [readEach, except_bind_eq_ok] at h
      obtain ⟨r, hr, h⟩ := h
      rw [except_bind_eq_ok] at h
      obtain ⟨rs', hrs, h⟩ := h
      cases h
      obtain ⟨a, rfl, ha⟩ := hread e List.mem_cons_self r hr
      exact .cons ha (ih hrs fun e' he' => hread e' (List.mem_cons_of_mem _ he'))

end ReadEach

/-! ### Writing -/

/-- Assignment through `operator[](key)`, which turns null into an object and
throws on a value of any other kind. -/
def set (j : Json) (key : String) (v : Json) : Except JsonError Json :=
  match j with
  | .obj ms => .ok (.obj (insertMember key v ms))
  | .null => .ok (.obj [(key, v)])
  | _ => .error .badIndex

/-- The member `operator[](key)` of a mutable value refers to: null where there
is none yet. -/
def memberOrNull (j : Json) (key : String) : Json := (j.find? key).getD .null

/-- `erase(key)` on an object. -/
def erase (j : Json) (key : String) : Json :=
  match j with
  | .obj ms => .obj (eraseMember key ms)
  | j => j

/-- The member of the given key passed through `f` where it stands. -/
def modifyMembers (key : String) (f : Json → Json) :
    List (String × Json) → List (String × Json)
  | [] => []
  | (k, w) :: ms => if k = key then (k, f w) :: ms else (k, w) :: modifyMembers key f ms

/-- A member changed in place, through the iterator `find` gives; nothing is
changed when there is none. -/
def modify (j : Json) (key : String) (f : Json → Json) : Json :=
  match j with
  | .obj ms => .obj (modifyMembers key f ms)
  | j => j

mutual

/-- `merge_patch`: an object patch is merged member by member, any other patch
replaces the target. -/
def mergePatch (target : Json) : Json → Json
  | .obj patch => .obj (mergeMembers target.members patch)
  | patch => patch

/-- The members of a patch merged in order: null erases, anything else is
merged into what the key holds. -/
def mergeMembers (target : List (String × Json)) :
    List (String × Json) → List (String × Json)
  | [] => target
  | (k, .null) :: rest => mergeMembers (eraseMember k target) rest
  | (k, v) :: rest =>
      mergeMembers (insertMember k (mergePatch ((lookup k target).getD .null) v) target) rest

end

@[simp] lemma members_obj (ms : List (String × Json)) : (Json.obj ms).members = ms := rfl

lemma find?_obj (ms : List (String × Json)) (key : String) :
    (Json.obj ms).find? key = lookup key ms := rfl

lemma find?_set {j j' : Json} {key : String} {v : Json} (h : j.set key v = .ok j') (k : String) :
    j'.find? k = if k = key then some v else j.find? k := by
  cases j with
  | obj ms =>
      cases h
      simp only [find?_obj, lookup_insertMember]
  | null =>
      cases h
      simp only [find?, members, lookup]
      grind
  | _ => cases h

lemma isObject_set {j j' : Json} {key : String} {v : Json} (h : j.set key v = .ok j') :
    j'.isObject = true := by
  cases j with
  | obj ms => cases h; rfl
  | null => cases h; rfl
  | _ => cases h

lemma lookup_modifyMembers (key k : String) (f : Json → Json) (ms : List (String × Json)) :
    lookup k (modifyMembers key f ms)
      = if k = key then (lookup k ms).map f else lookup k ms := by
  induction ms with
  | nil => simp [modifyMembers, lookup]
  | cons m ms ih =>
      obtain ⟨k', w⟩ := m
      rw [modifyMembers]
      split
      · next h => simp only [lookup]; grind
      · simp only [lookup, ih]; grind

lemma find?_modify (j : Json) (key k : String) (f : Json → Json) :
    (j.modify key f).find? k = if k = key then (j.find? k).map f else j.find? k := by
  cases j with
  | obj ms => simp only [modify, find?_obj, lookup_modifyMembers]
  | _ => simp [modify, find?, members, lookup]

lemma isObject_modify (j : Json) (key : String) (f : Json → Json) :
    (j.modify key f).isObject = j.isObject := by
  cases j <;> rfl

/-- A member the patch does not name is what it was. -/
lemma lookup_mergeMembers_of_none {key : String} :
    ∀ (patch target : List (String × Json)), lookup key patch = none →
      lookup key (mergeMembers target patch) = lookup key target
  | [], target, _ => by rw [mergeMembers]
  | (k, v) :: rest, target, h => by
      have hk : k ≠ key := by
        intro hk
        simp [lookup, hk] at h
      have hrest : lookup key rest = none := by simpa [lookup, hk] using h
      cases v with
      | null =>
          rw [mergeMembers, lookup_mergeMembers_of_none rest _ hrest, lookup_eraseMember,
            if_neg (Ne.symm hk)]
      | _ =>
          rw [mergeMembers, lookup_mergeMembers_of_none rest _ hrest, lookup_insertMember,
            if_neg (Ne.symm hk)]
          simp

/-! ### Members assigned one by one -/

/-- Members assigned in order, each through `operator[]`. -/
def setMembers (target values : List (String × Json)) : List (String × Json) :=
  values.foldl (fun ms m => insertMember m.1 m.2 ms) target

/-- An object with the given members assigned over its own. -/
def overlay (j : Json) (values : List (String × Json)) : Json := .obj (setMembers j.members values)

lemma lookup_eq_none_of_notMem {key : String} {ms : List (String × Json)}
    (h : key ∉ ms.map Prod.fst) : lookup key ms = none := by
  induction ms with
  | nil => rfl
  | cons m ms ih =>
      obtain ⟨k, v⟩ := m
      rw [List.map_cons, List.mem_cons, not_or] at h
      rw [lookup, if_neg (Ne.symm h.1)]
      exact ih h.2

/-- The members stand in key order, no key twice. -/
def SortedKeys (ms : List (String × Json)) : Prop := (ms.map Prod.fst).Pairwise (· < ·)

lemma SortedKeys.nodup {ms : List (String × Json)} (h : SortedKeys ms) :
    (ms.map Prod.fst).Nodup := by
  refine h.imp ?_
  rintro a b hab rfl
  exact absurd hab (String.lt_irrefl a)

lemma mem_keys_insertMember {key k : String} {v : Json} {ms : List (String × Json)}
    (h : k ∈ (insertMember key v ms).map Prod.fst) : k = key ∨ k ∈ ms.map Prod.fst := by
  induction ms with
  | nil => simpa [insertMember] using h
  | cons m ms ih =>
      obtain ⟨k', w⟩ := m
      rw [insertMember] at h
      split at h
      · next heq => simpa [heq] using h
      · split at h
        · simpa using h
        · rw [List.map_cons, List.mem_cons] at h ⊢
          rcases h with rfl | h
          · exact .inr (.inl rfl)
          · rcases ih h with h | h
            · exact .inl h
            · exact .inr (.inr h)

/-- An insertion keeps the order. -/
lemma SortedKeys.insertMember {ms : List (String × Json)} (h : SortedKeys ms) (key : String)
    (v : Json) : SortedKeys (insertMember key v ms) := by
  induction ms with
  | nil => simp [SortedKeys, Json.insertMember]
  | cons m ms ih =>
      obtain ⟨k, w⟩ := m
      rw [SortedKeys, List.map_cons, List.pairwise_cons] at h
      obtain ⟨hfirst, hrest⟩ := h
      rw [Json.insertMember]
      split
      · next heq =>
          rw [SortedKeys, List.map_cons, List.pairwise_cons, heq]
          exact ⟨hfirst, hrest⟩
      · next hne =>
          split
          · next hlt =>
              rw [SortedKeys, List.map_cons, List.pairwise_cons]
              refine ⟨?_, List.pairwise_cons.mpr ⟨hfirst, hrest⟩⟩
              intro k' hk'
              rcases List.mem_cons.mp hk' with rfl | hk'
              · exact hlt
              · exact String.lt_trans hlt (hfirst k' hk')
          · next hge =>
              rw [SortedKeys, List.map_cons, List.pairwise_cons]
              refine ⟨?_, ih hrest⟩
              intro k' hk'
              rcases mem_keys_insertMember hk' with rfl | hk'
              · exact Std.lt_of_le_of_ne (String.not_lt.mp hge) (Ne.symm hne)
              · exact hfirst k' hk'

lemma SortedKeys.setMembers {target : List (String × Json)} (h : SortedKeys target)
    (values : List (String × Json)) : SortedKeys (setMembers target values) := by
  induction values generalizing target with
  | nil => exact h
  | cons m ms ih => exact ih (h.insertMember m.1 m.2)

/-- What is assigned is read back; any other member is what it was. -/
lemma lookup_setMembers {key : String} {values : List (String × Json)}
    (h : (values.map Prod.fst).Nodup) (target : List (String × Json)) :
    lookup key (setMembers target values) = (lookup key values).or (lookup key target) := by
  induction values generalizing target with
  | nil => rfl
  | cons m ms ih =>
      obtain ⟨k, v⟩ := m
      rw [List.map_cons, List.nodup_cons] at h
      have hstep : setMembers target ((k, v) :: ms) = setMembers (insertMember k v target) ms := rfl
      rw [hstep, ih h.2, lookup_insertMember, lookup]
      by_cases hk : key = k
      · subst hk
        rw [lookup_eq_none_of_notMem h.1]
        simp
      · rw [if_neg hk, if_neg (Ne.symm hk)]

lemma find?_overlay {key : String} {values : List (String × Json)}
    (h : (values.map Prod.fst).Nodup) (j : Json) :
    (j.overlay values).find? key = (lookup key values).or (j.find? key) :=
  lookup_setMembers h j.members

/-- What a patch with no key twice leaves of a member. -/
lemma lookup_mergeMembers {key : String} : ∀ (patch target : List (String × Json)),
    (patch.map Prod.fst).Nodup → lookup key (mergeMembers target patch) =
      match lookup key patch with
      | none => lookup key target
      | some .null => none
      | some v => some (mergePatch ((lookup key target).getD .null) v)
  | [], target, _ => by rw [mergeMembers]; rfl
  | (k, v) :: rest, target, h => by
      rw [List.map_cons, List.nodup_cons] at h
      by_cases hk : k = key
      · subst hk
        have hrest := lookup_eq_none_of_notMem h.1
        cases v with
        | null =>
            rw [mergeMembers, lookup_mergeMembers_of_none rest _ hrest, lookup_eraseMember]
            simp [lookup]
        | _ =>
            rw [mergeMembers, lookup_mergeMembers_of_none rest _ hrest, lookup_insertMember]
            · simp [lookup]
            · simp
      · have hlookup : lookup key ((k, v) :: rest) = lookup key rest := by
          rw [lookup, if_neg hk]
        rw [hlookup]
        cases v with
        | null =>
            rw [mergeMembers, lookup_mergeMembers rest _ h.2, lookup_eraseMember,
              if_neg (Ne.symm hk)]
        | _ =>
            rw [mergeMembers, lookup_mergeMembers rest _ h.2, lookup_insertMember,
              if_neg (Ne.symm hk)]
            simp

/-- A patch of one member, itself a patch. -/
lemma find?_mergePatch_singleton (j : Json) (key k : String) (patch : List (String × Json)) :
    (j.mergePatch (.obj [(key, .obj patch)])).find? k =
      if k = key then some ((j.memberOrNull key).mergePatch (.obj patch)) else j.find? k := by
  simp only [mergePatch, mergeMembers, find?_obj, lookup_insertMember]
  rfl

/-! ### Documents -/

mutual

/-- The members of every object in a value stand in key order, no key twice. -/
def isSorted : Json → Bool
  | .arr es => isSortedList es
  | .obj ms => decide ((ms.map Prod.fst).Pairwise (· < ·)) && isSortedMembers ms
  | _ => true

/-- `isSorted` of every element. -/
def isSortedList : List Json → Bool
  | [] => true
  | e :: es => isSorted e && isSortedList es

/-- `isSorted` of every member. -/
def isSortedMembers : List (String × Json) → Bool
  | [] => true
  | (_, v) :: ms => isSorted v && isSortedMembers ms

end

lemma isSorted_of_mem {es : List Json} (h : (Json.arr es).isSorted = true) {e : Json}
    (he : e ∈ es) : e.isSorted = true := by
  rw [isSorted] at h
  induction es with
  | nil => cases he
  | cons e' es ih =>
      rw [isSortedList, Bool.and_eq_true] at h
      rcases List.mem_cons.mp he with rfl | he
      · exact h.1
      · exact ih h.2 he

lemma isSorted_of_find? {j v : Json} (h : j.isSorted = true) {key : String}
    (hv : j.find? key = some v) : v.isSorted = true := by
  obtain ⟨ms, rfl⟩ := isObject_iff.mp (isObject_of_find? hv)
  rw [isSorted, Bool.and_eq_true] at h
  have hms := h.2
  rw [find?_obj] at hv
  clear h
  induction ms with
  | nil => cases hv
  | cons m ms ih =>
      obtain ⟨k, w⟩ := m
      rw [isSortedMembers, Bool.and_eq_true] at hms
      rw [lookup] at hv
      split at hv
      · cases hv
        exact hms.1
      · exact ih hv hms.2

/-- The members of an object stand in key order. -/
lemma sortedKeys_of_isSorted {j : Json} (h : j.isSorted = true) : SortedKeys j.members := by
  cases j with
  | obj ms =>
      rw [isSorted, Bool.and_eq_true, decide_eq_true_eq] at h
      exact h.1
  | _ => exact List.Pairwise.nil

/-- A document as `json::parse` gives it. -/
abbrev Document := { j : Json // j.isSorted = true }

end Json

end Nlohmann
