import Pretzel.Library.Json
import Pretzel.Library.Texts

/-!
JSON documents while they are written: a text in one is bytes, which the library
looks at when it dumps the document.

* `Draft`: a document whose texts may be any bytes.
* `put`, `putAt`: assignment through `operator[]`, of a member and of a member of
  a member.
* `dump`: the document, none where a text is not UTF-8 (type_error 316).
* `isText`: every text is UTF-8. `dump_isSome`: then, and only then, it is dumped.
* `find?_put`, `find?_dump`: a member after an assignment, and in the dump.
-/

namespace Nlohmann

open Texts

/-- A document being written. -/
inductive Draft where
  | value (j : Json)
  | text (bytes : List UInt8)
  | object (members : List (String × Draft))

namespace Draft

/-- A boolean. -/
def bool (b : Bool) : Draft := .value (.bool b)

/-- An integer. -/
def int (i : ℤ) : Draft := .value (.int i)

/-- A text. -/
def str (s : String) : Draft := .value (.str s)

/-- The members of an object. -/
def members : Draft → List (String × Draft)
  | .object ms => ms
  | .value _ | .text _ => []

/-- `is_object()`. -/
def isObject : Draft → Bool
  | .object _ => true
  | .value _ | .text _ => false

/-- `operator[](key)` of an object, assigned. -/
def put (d : Draft) (key : String) (v : Draft) : Draft :=
  .object ((key, v) :: d.members.filter fun m => m.1 ≠ key)

/-- The member of the given key. -/
def find? (d : Draft) (key : String) : Option Draft :=
  (d.members.find? fun m => m.1 = key).map Prod.snd

/-- `[outer][key]`, assigned. -/
def putAt (d : Draft) (outer key : String) (v : Draft) : Draft :=
  d.put outer (((d.find? outer).getD (.object [])).put key v)

/-- The bytes of a text. -/
def asText : Draft → List UInt8
  | .text bytes => bytes
  | .value (.str s) => textBytes s
  | .value _ | .object _ => []

/-- `value(key, std::string())`, of a member that is a text. -/
def textAt (d : Draft) (key : String) : List UInt8 := ((d.find? key).map asText).getD []

mutual

/-- `dump()`, and what parses back of it. -/
def dump : Draft → Option Json
  | .value j => some j
  | .text bytes => (utf8Text bytes).map .str
  | .object ms => (dumpMembers ms).map .obj

/-- The members of an object, in key order. -/
def dumpMembers : List (String × Draft) → Option (List (String × Json))
  | [] => some []
  | (k, d) :: ms => do return Json.insertMember k (← d.dump) (← dumpMembers ms)

end

mutual

/-- Every text is UTF-8. -/
def isText : Draft → Bool
  | .value _ => true
  | .text bytes => isUtf8 bytes
  | .object ms => areTexts ms

/-- Every text of the members is UTF-8. -/
def areTexts : List (String × Draft) → Bool
  | [] => true
  | (_, d) :: ms => d.isText && areTexts ms

end

mutual

/-- **A document is dumped exactly where its texts are UTF-8.** -/
theorem dump_isSome : (d : Draft) → d.dump.isSome = d.isText
  | .value _ => rfl
  | .text bytes => by rw [dump, isText, Option.isSome_map, isUtf8]
  | .object ms => by rw [dump, isText, Option.isSome_map, dumpMembers_isSome ms]

theorem dumpMembers_isSome : (ms : List (String × Draft)) → (dumpMembers ms).isSome = areTexts ms
  | [] => rfl
  | (_, d) :: ms => by
      rw [dumpMembers, areTexts, ← dump_isSome d, ← dumpMembers_isSome ms]
      cases d.dump <;> cases dumpMembers ms <;> rfl

end

/-! ### What is written, read back -/

lemma isObject_iff {d : Draft} : d.isObject = true ↔ ∃ ms, d = .object ms := by
  cases d <;> simp [isObject]

@[simp]
lemma isObject_put (d : Draft) (key : String) (v : Draft) : (d.put key v).isObject = true := rfl

@[simp]
lemma find?_put (d : Draft) (key : String) (v : Draft) (k : String) :
    (d.put key v).find? k = if k = key then some v else d.find? k := by
  have hrest : ∀ hne : k ≠ key, ((d.members.filter fun m => m.1 ≠ key).find? fun m => m.1 = k) =
      d.members.find? fun m => m.1 = k := by
    intro hne
    rw [List.find?_filter]
    refine congrArg₂ _ (funext fun m => ?_) rfl
    by_cases hm : m.1 = k
    · subst hm
      simp [hne]
    · simp [hm]
  rw [find?, put, members, List.find?_cons]
  by_cases hk : key = k
  · subst hk
    rw [if_pos rfl, decide_eq_true rfl]
    rfl
  · rw [if_neg (Ne.symm hk), decide_eq_false hk, hrest (Ne.symm hk)]
    rfl

@[simp]
lemma textAt_put (d : Draft) (key : String) (v : Draft) (k : String) :
    (d.put key v).textAt k = if k = key then v.asText else d.textAt k := by
  rw [textAt, find?_put]
  split
  · rfl
  · rfl

/-- The members of a dump are the dumps of the members. -/
lemma lookup_dumpMembers {ms : List (String × Draft)} {js : List (String × Json)}
    (h : dumpMembers ms = some js) (k : String) :
    Json.lookup k js = ((ms.find? fun m => m.1 = k).map Prod.snd).bind dump := by
  induction ms generalizing js with
  | nil =>
      cases h
      rfl
  | cons m ms ih =>
      obtain ⟨key, d⟩ := m
      rw [dumpMembers] at h
      obtain ⟨j, hj, h⟩ := Option.bind_eq_some_iff.mp h
      obtain ⟨js', hjs, h⟩ := Option.bind_eq_some_iff.mp h
      cases h
      rw [Json.lookup_insertMember, List.find?_cons, ih hjs]
      by_cases hk : key = k
      · subst hk
        rw [if_pos rfl, decide_eq_true rfl]
        exact hj.symm
      · rw [if_neg (Ne.symm hk), decide_eq_false hk]

/-- **A member of what is dumped.** -/
theorem find?_dump {d : Draft} {j : Json} (hobj : d.isObject = true) (h : d.dump = some j)
    (k : String) : j.find? k = (d.find? k).bind dump := by
  obtain ⟨ms, rfl⟩ := isObject_iff.mp hobj
  rw [dump] at h
  obtain ⟨js, hjs, rfl⟩ := Option.map_eq_some_iff.mp h
  exact lookup_dumpMembers hjs k

lemma isObject_dump {d : Draft} {j : Json} (hobj : d.isObject = true) (h : d.dump = some j) :
    j.isObject = true := by
  obtain ⟨ms, rfl⟩ := isObject_iff.mp hobj
  rw [dump] at h
  obtain ⟨js, -, rfl⟩ := Option.map_eq_some_iff.mp h
  rfl

/-- A text that was written, or none, as it is read. -/
lemma valueString_dump {d : Draft} {j : Json} (hobj : d.isObject = true) (h : d.dump = some j)
    {k : String} {o : Option String} (hfind : (d.find? k).bind dump = o.map .str)
    (fallback : String) : j.valueString k fallback = .ok (o.getD fallback) := by
  have hread := find?_dump hobj h k
  rw [hfind] at hread
  rw [Json.valueString_eq_ok_iff (isObject_dump hobj h), Json.stringOrAbsent, Json.textOr, hread]
  cases o with
  | none => exact ⟨rfl, rfl⟩
  | some s => exact ⟨rfl, rfl⟩

/-- What is assigned where nothing stood adds its own texts. -/
lemma isText_put {d : Draft} {key : String} {v : Draft} (hobj : d.isObject = true)
    (h : d.find? key = none) : (d.put key v).isText = (v.isText && d.isText) := by
  obtain ⟨ms, rfl⟩ := isObject_iff.mp hobj
  rw [find?, Option.map_eq_none_iff, List.find?_eq_none] at h
  have hall : ms.filter (fun m => m.1 ≠ key) = ms :=
    List.filter_eq_self.mpr fun m hm => by simpa using h m hm
  rw [put, members, hall]
  rfl

/-! ### The texts of what is written -/

/-- Every text is UTF-8, but for those of the members of some keys. -/
def textsOutside (keys : List String) (d : Draft) : Bool :=
  d.members.all fun m => m.1 ∈ keys || m.2.isText

lemma areTexts_eq_all (ms : List (String × Draft)) : areTexts ms = ms.all fun m => m.2.isText := by
  induction ms with
  | nil => rfl
  | cons m ms ih => rw [areTexts, List.all_cons, ih]

@[simp]
lemma isText_value (j : Json) : (value j).isText = true := rfl

@[simp]
lemma isText_bool (b : Bool) : (bool b).isText = true := rfl

@[simp]
lemma isText_int (i : ℤ) : (int i).isText = true := rfl

@[simp]
lemma isText_str (s : String) : (str s).isText = true := rfl

@[simp]
lemma isText_text (bytes : List UInt8) : (text bytes).isText = isUtf8 bytes := rfl

/-- Every text of an assignment is one of what is assigned, or of the rest. -/
@[simp]
lemma isText_put_eq (d : Draft) (key : String) (v : Draft) :
    (d.put key v).isText = (v.isText && d.textsOutside [key]) := by
  rw [put, isText, areTexts, areTexts_eq_all, List.all_filter, textsOutside]
  refine congrArg _ (congrArg _ (funext fun m => ?_))
  by_cases hm : m.1 = key <;> simp [hm]

@[simp]
lemma textsOutside_nil (keys : List String) : (object []).textsOutside keys = true := rfl

@[simp]
lemma textsOutside_put (d : Draft) (key : String) (v : Draft) (keys : List String) :
    (d.put key v).textsOutside keys = ((key ∈ keys || v.isText) && d.textsOutside (key :: keys)) := by
  rw [put, textsOutside, members, List.all_cons, List.all_filter, textsOutside]
  refine congrArg _ (congrArg _ (funext fun m => ?_))
  by_cases hm : m.1 = key <;> simp [hm]

/-- The rest of a document that is all texts. -/
lemma textsOutside_of_isText {d : Draft} (h : d.isText = true) (keys : List String) :
    d.textsOutside keys = true := by
  cases d with
  | object ms =>
      rw [isText, areTexts_eq_all, List.all_eq_true] at h
      rw [textsOutside, List.all_eq_true]
      intro m hm
      rw [h m hm, Bool.or_true]
  | _ => rfl

/-- A member of a document that is all texts. -/
lemma isText_of_find? {d v : Draft} {key : String} (h : d.isText = true)
    (hfind : d.find? key = some v) : v.isText = true := by
  rw [find?] at hfind
  obtain ⟨m, hm, rfl⟩ := Option.map_eq_some_iff.mp hfind
  have hmem := List.mem_of_find?_eq_some hm
  cases d with
  | object ms =>
      rw [isText, areTexts_eq_all, List.all_eq_true] at h
      exact h m hmem
  | _ => cases hmem

/-- What is assigned inside a document that is all texts. -/
lemma textsOutside_putAt {d : Draft} (h : d.isText = true) (outer key : String) (v : Draft)
    (keys : List String) :
    (d.putAt outer key v).textsOutside keys = (outer ∈ keys || v.isText) := by
  have hinner : ((d.find? outer).getD (.object [])).textsOutside [key] = true := by
    cases hfind : d.find? outer with
    | none => rfl
    | some w => exact textsOutside_of_isText (isText_of_find? h hfind) _
  rw [putAt, textsOutside_put, isText_put_eq, hinner, textsOutside_of_isText h, Bool.and_true,
    Bool.and_true]

/-- A text of a document that is all texts. -/
lemma isUtf8_textAt {d : Draft} (h : d.isText = true) (key : String) :
    isUtf8 (d.textAt key) = true := by
  rw [textAt]
  cases hfind : d.find? key with
  | none => exact isUtf8_nil
  | some v =>
      rw [find?] at hfind
      obtain ⟨m, hm, rfl⟩ := Option.map_eq_some_iff.mp hfind
      have hmem := List.mem_of_find?_eq_some hm
      cases d with
      | value j => cases hmem
      | text bytes => cases hmem
      | object ms =>
          rw [isText, areTexts_eq_all, List.all_eq_true] at h
          have hv := h m hmem
          cases hv' : m.2 with
          | text bytes =>
              rw [hv'] at hv
              exact hv
          | object ms => exact isUtf8_nil
          | value j =>
              cases j with
              | str s =>
                  exact isUtf8_textBytes s
              | _ => exact isUtf8_nil

end Draft

end Nlohmann
