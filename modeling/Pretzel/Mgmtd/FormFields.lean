import Pretzel.Http.ClientSession
import Pretzel.Library.FormPairs
import Pretzel.Mgmtd.ChatController
import Pretzel.Util.SealedText

/-!
Form and query encoding: `http/UrlEncode.cpp` against the readers of
`web/WebUtil.h` and of `controller/SsoController.cpp`.

* `Http.urlEncode`: the encoder, byte for byte.
* `WebUtil.urlDecode`, `WebUtil.queryParam`: a query's values.
* `ssoFormFieldOf`: `ssoFormField`, of a key that may be any bytes.
* `webDecode_eq`: the two decoders agree on every text.
* `Form`: distinct keys of unreserved characters, each with any value.
* **`form_read`**: what is encoded is read back.
-/

namespace Pretzel.Http

open Texts Collectord Util

/-! ### The encoder -/

/-- A byte of `urlEncode`. -/
def encodeByte (c : UInt8) : Bytes := if unreserved c then [c] else 37 :: hexPair c

/-- `urlEncode`. -/
def urlEncode (raw : Bytes) : Bytes := raw.flatMap encodeByte

/-- The halves of a byte, as numbers. -/
lemma halves_eq (c : UInt8) :
    c >>> 4 = UInt8.ofNat (c.toNat / 16) ∧ c &&& 15 = UInt8.ofNat (c.toNat % 16) := by
  have hc := c.toNat_lt
  have hhigh : c.toNat / 16 < UInt8.size := by
    rw [UInt8.size]
    omega
  have hlow : c.toNat % 16 < UInt8.size := by
    rw [UInt8.size]
    omega
  constructor
  · rw [← UInt8.toNat_inj, UInt8.toNat_shiftRight, UInt8.toNat_ofNat_of_lt' hhigh]
    exact Nat.shiftRight_eq_div_pow _ _
  · rw [← UInt8.toNat_inj, UInt8.toNat_and, UInt8.toNat_ofNat_of_lt' hlow]
    exact Nat.and_two_pow_sub_one_eq_mod _ 4

/-- Two halves, put together. -/
lemma halves_put {a b : ℕ} (ha : a < 16) (hb : b < 16) :
    UInt8.ofNat a <<< 4 ||| UInt8.ofNat b = UInt8.ofNat (16 * a + b) := by
  have hhigh : a < UInt8.size := by
    rw [UInt8.size]
    omega
  have hlow : b < UInt8.size := by
    rw [UInt8.size]
    omega
  have hsum : 16 * a + b < UInt8.size := by
    rw [UInt8.size]
    omega
  have hshift : a <<< 4 % 2 ^ 8 = a <<< 4 := by
    rw [Nat.shiftLeft_eq]
    omega
  rw [← UInt8.toNat_inj, UInt8.toNat_or, UInt8.toNat_shiftLeft, UInt8.toNat_ofNat_of_lt' hhigh,
    UInt8.toNat_ofNat_of_lt' hlow, UInt8.toNat_ofNat_of_lt' hsum]
  change a <<< 4 % 2 ^ 8 ||| b = _
  rw [hshift, ← Nat.shiftLeft_add_eq_or_of_lt hb, Nat.shiftLeft_eq]
  omega

/-- What holds of sixteen values holds of the halves of a byte. -/
lemma forall_halves {p : ℕ → UInt8 → Prop} (h : ∀ n < 16, p n (UInt8.ofNat n)) (c : UInt8) :
    p (c.toNat / 16) (c >>> 4) ∧ p (c.toNat % 16) (c &&& 15) := by
  have hc := c.toNat_lt
  rw [(halves_eq c).1, (halves_eq c).2]
  exact ⟨h _ (by omega), h _ (by omega)⟩

lemma utf8_of_unreserved {c : UInt8} (h : unreserved c = true) :
    String.utf8EncodeChar (Char.ofNat c.toNat) = [c] := by
  have hlt : c.toNat < 128 := by
    simp only [unreserved, Bool.or_eq_true, Bool.and_eq_true, decide_eq_true_eq, beq_iff_eq,
      UInt8.le_iff_toNat_le, ← UInt8.toNat_inj] at h
    simp at h
    omega
  have hchar : (Char.ofNat c.toNat).toNat = c.toNat := toNat_ofNat_of_lt hlt
  rw [utf8EncodeChar_of_lt (by rwa [hchar]), hchar, UInt8.ofNat_toNat]

/-- The text collectord puts in a target is these bytes. -/
lemma textBytes_urlEncode (raw : Bytes) : textBytes (Collectord.urlEncode raw) = urlEncode raw := by
  rw [textBytes_eq_flatMap, Collectord.urlEncode, urlEncode, String.toList_ofList,
    List.flatMap_assoc]
  refine List.flatMap_congr fun c _ => ?_
  have hdigit : ∀ n < 16, String.utf8EncodeChar
      (if n < 10 then Char.ofNat (48 + n) else Char.ofNat (55 + n)) = [hexDigit (UInt8.ofNat n)] := by
    decide
  obtain ⟨hhigh, hlow⟩ := forall_halves (p := fun n b => String.utf8EncodeChar
    (if n < 10 then Char.ofNat (48 + n) else Char.ofNat (55 + n)) = [hexDigit b]) hdigit c
  rw [encodeByte]
  split
  · next hplain =>
      rw [List.flatMap_cons, List.flatMap_nil, List.append_nil, utf8_of_unreserved hplain]
  · rw [List.flatMap_cons, List.flatMap_cons, List.flatMap_cons, List.flatMap_nil, hhigh, hlow]
    rfl

/-- The bytes an encoded text is made of. -/
def escaped (c : UInt8) : Bool := unreserved c || c == 37

lemma unreserved_hexPair (c : UInt8) : ∀ b ∈ hexPair c, unreserved b = true := by
  have hdigit : ∀ n < 16, unreserved (hexDigit (UInt8.ofNat n)) = true := by decide
  obtain ⟨hhigh, hlow⟩ := forall_halves (p := fun _ b => unreserved (hexDigit b) = true) hdigit c
  rw [hexPair, List.forall_mem_cons, List.forall_mem_singleton]
  exact ⟨hhigh, hlow⟩

lemma escaped_of_mem {raw : Bytes} {b : UInt8} (h : b ∈ urlEncode raw) : escaped b = true := by
  obtain ⟨c, -, hb⟩ := List.mem_flatMap.mp h
  rw [encodeByte] at hb
  rw [escaped, Bool.or_eq_true]
  split at hb
  · next hplain =>
      rw [List.mem_singleton.mp hb]
      exact .inl hplain
  · rcases List.mem_cons.mp hb with rfl | hb
    · exact .inr rfl
    · exact .inl (unreserved_hexPair c b hb)

end Pretzel.Http

namespace Pretzel.Mgmtd

open Texts Http

open Collectord (Bytes unreserved)

/-! ### The readers -/

/-- The value of a digit, as `strtol` counts them. -/
def digitValue (c : UInt8) : ℕ :=
  if c ≤ 57 then c.toNat - 48 else if c ≤ 70 then c.toNat - 55 else c.toNat - 87

/-- `std::stoi(text, nullptr, 16)` of a text of digits. -/
def stoiHex (digits : Bytes) : ℕ := digits.foldl (fun n c => 16 * n + digitValue c) 0

namespace WebUtil

/-- `urlDecode`. -/
def urlDecode : Bytes → Bytes
  | [] => []
  | [c] => [if c = 43 then 32 else c]
  | [c, d] => [if c = 43 then 32 else c, if d = 43 then 32 else d]
  | c :: h :: l :: rest =>
      if c = 43 then 32 :: urlDecode (h :: l :: rest)
      else if c = 37 ∧ isxdigit h ∧ isxdigit l then
        UInt8.ofNat (stoiHex [h, l]) :: urlDecode rest
      else c :: urlDecode (h :: l :: rest)

/-- `queryParam`. -/
def queryParam (target key : Bytes) : Bytes :=
  match target.dropWhile (· ≠ 63) with
  | [] => []
  | _ :: query =>
      match (pieces 38 [] query).find? fun token =>
          token.elem 61 && token.takeWhile (· ≠ 61) = key with
      | none => []
      | some token => urlDecode (token.dropWhile (· ≠ 61)).tail

end WebUtil

/-- `ssoFormField`, of any key. -/
def ssoFormFieldOf (body key : Bytes) : Bytes :=
  match (pieces 38 [] body).find? (key ++ [61]).isPrefixOf with
  | none => []
  | some pair => ssoUrlDecode (pair.drop (key ++ [61]).length)

/-- The field of a key that is a text. -/
lemma ssoFormField_text (body : Bytes) (key : String) :
    ssoFormField body key = ssoFormFieldOf body (textBytes key) := by
  have hmark : textBytes "=" = [61] := by decide
  rw [ssoFormField, toList_toUTF8, textBytes_append, hmark, ← find?_pieces (by simp)]
  rfl

/-! ### The decoders agree -/

lemma isxdigit_iff (c : UInt8) : isxdigit c = true ↔
    (48 ≤ c.toNat ∧ c.toNat ≤ 57) ∨ (65 ≤ c.toNat ∧ c.toNat ≤ 70) ∨
      (97 ≤ c.toNat ∧ c.toNat ≤ 102) := by
  simp [isxdigit, UInt8.le_iff_toNat_le, or_assoc]

lemma digitValue_eq (c : UInt8) : digitValue c =
    if c.toNat ≤ 57 then c.toNat - 48 else if c.toNat ≤ 70 then c.toNat - 55 else c.toNat - 87 := by
  simp [digitValue, UInt8.le_iff_toNat_le]

lemma hexv_eq (c : UInt8) :
    hexv c = if isxdigit c then some (UInt8.ofNat (digitValue c)) else none := by
  rw [digitValue_eq]
  simp only [hexv, isxdigit_iff, Bool.and_eq_true, decide_eq_true_eq, UInt8.le_iff_toNat_le,
    UInt8.reduceToNat]
  split_ifs
  all_goals try omega
  · simp only [Option.some_inj, ← UInt8.toNat_inj, UInt8.toNat_sub, UInt8.toNat_ofNat',
      UInt8.reduceToNat]
    omega
  · simp only [Option.some_inj, ← UInt8.toNat_inj, UInt8.toNat_add, UInt8.toNat_sub,
      UInt8.toNat_ofNat', UInt8.reduceToNat]
    omega
  · simp only [Option.some_inj, ← UInt8.toNat_inj, UInt8.toNat_add, UInt8.toNat_sub,
      UInt8.toNat_ofNat', UInt8.reduceToNat]
    omega
  · rfl

lemma digitValue_lt {c : UInt8} (h : isxdigit c = true) : digitValue c < 16 := by
  rw [isxdigit_iff] at h
  rw [digitValue_eq]
  split_ifs <;> omega

/-- Two digits put together by shifts are the number `stoi` reads. -/
lemma stoiHex_pair {h l : UInt8} (hh : isxdigit h = true) (hl : isxdigit l = true) :
    UInt8.ofNat (stoiHex [h, l]) =
      UInt8.ofNat (digitValue h) <<< 4 ||| UInt8.ofNat (digitValue l) := by
  rw [halves_put (digitValue_lt hh) (digitValue_lt hl)]
  simp [stoiHex]

/-- **The two decoders agree**, on escapes that are cut off or no digits too. -/
theorem webDecode_eq (text : Bytes) : WebUtil.urlDecode text = ssoUrlDecode text := by
  induction text using WebUtil.urlDecode.induct with
  | case1 => rfl
  | case2 c => rfl
  | case3 c d => rfl
  | case4 h l rest ih =>
      rw [WebUtil.urlDecode, if_pos rfl, ih, ssoUrlDecode, if_neg (by decide)]
      rfl
  | case5 c h l rest hplus hescape ih =>
      obtain ⟨rfl, hh, hl⟩ := hescape
      rw [WebUtil.urlDecode, if_neg hplus, if_pos ⟨rfl, hh, hl⟩, ih, ssoUrlDecode, if_pos rfl,
        hexv_eq, hexv_eq, if_pos hh, if_pos hl, stoiHex_pair hh hl]
  | case6 c h l rest hplus hescape ih =>
      rw [WebUtil.urlDecode, if_neg hplus, if_neg hescape, ih]
      have hplain : ssoPlain c = c := if_neg hplus
      rw [ssoUrlDecode, hplain]
      split
      · next hpercent =>
          have hpair : isxdigit h = false ∨ isxdigit l = false := by
            by_contra hboth
            rw [not_or, Bool.not_eq_false, Bool.not_eq_false] at hboth
            exact hescape ⟨hpercent, hboth⟩
          rw [hexv_eq, hexv_eq]
          rcases hpair with hno | hno
          · simp [hno]
          · cases isxdigit h <;> simp [hno]
      · rfl

/-- The parameter of a key that is a text. -/
lemma queryParam_eq (target : Bytes) (key : String) :
    queryParam target key = WebUtil.queryParam target (textBytes key) := by
  rw [queryParam, WebUtil.queryParam]
  cases target.dropWhile (· ≠ 63) with
  | nil => rfl
  | cons c query =>
      dsimp only
      rw [find?_pieces (by simp)]
      cases (query.splitOn 38).find? fun token =>
          token.elem 61 && token.takeWhile (· ≠ 61) = textBytes key with
      | none => rfl
      | some token => exact (webDecode_eq _).symm

/-! ### What is encoded is decoded -/

/-- A byte that starts no escape. -/
lemma ssoUrlDecode_cons {c : UInt8} (h : c ≠ 37) (rest : Bytes) :
    ssoUrlDecode (c :: rest) = ssoPlain c :: ssoUrlDecode rest := by
  cases rest with
  | nil => rfl
  | cons d rest =>
      cases rest with
      | nil => rfl
      | cons e rest => rw [ssoUrlDecode, if_neg h]

lemma ssoUrlDecode_hexPair (c : UInt8) (rest : Bytes) :
    ssoUrlDecode (37 :: hexPair c ++ rest) = c :: ssoUrlDecode rest := by
  have hdigit : ∀ n < 16, hexv (hexDigit (UInt8.ofNat n)) = some (UInt8.ofNat n) := by
    decide
  obtain ⟨hhigh, hlow⟩ := forall_halves (p := fun _ b => hexv (hexDigit b) = some b) hdigit c
  have hsum : (c >>> 4) <<< 4 ||| c &&& 15 = c := by
    have hc := c.toNat_lt
    rw [(halves_eq c).1, (halves_eq c).2, halves_put (by omega) (by omega), Nat.div_add_mod,
      UInt8.ofNat_toNat]
  rw [hexPair, List.cons_append, List.cons_append, List.cons_append, List.nil_append, ssoUrlDecode,
    if_pos rfl, hhigh, hlow]
  exact congrArg (· :: ssoUrlDecode rest) hsum

lemma ssoUrlDecode_encodeByte (c : UInt8) (rest : Bytes) :
    ssoUrlDecode (encodeByte c ++ rest) = c :: ssoUrlDecode rest := by
  rw [encodeByte]
  split
  · next h =>
      have hne : c ≠ 37 := by
        rintro rfl
        cases h
      have hplain : ssoPlain c = c := by
        refine if_neg ?_
        rintro rfl
        cases h
      rw [List.singleton_append, ssoUrlDecode_cons hne, hplain]
  · exact ssoUrlDecode_hexPair c rest

/-- **An encoded text is decoded to what it was.** -/
theorem ssoUrlDecode_urlEncode (raw : Bytes) : ssoUrlDecode (urlEncode raw) = raw := by
  induction raw with
  | nil => rfl
  | cons c raw ih =>
      have hcons : urlEncode (c :: raw) = encodeByte c ++ urlEncode raw := List.flatMap_cons
      rw [hcons, ssoUrlDecode_encodeByte, ih]

/-! ### Forms -/

/-- A form: distinct keys of unreserved characters, each with its value. -/
structure Form where
  fields : List (Bytes × Bytes)
  nodup : (fields.map Prod.fst).Nodup
  nonempty : ∀ field ∈ fields, field.1 ≠ []
  plain : ∀ field ∈ fields, ∀ c ∈ field.1, unreserved c = true

namespace Form

/-- The pairs as they are sent: the values encoded. -/
def sent (form : Form) : List (Bytes × Bytes) :=
  form.fields.map fun field => (field.1, urlEncode field.2)

/-- `k1=v1&k2=v2&...`. -/
def text (form : Form) : Bytes := formText 38 61 form.sent

variable (form : Form)

lemma keys_sent : form.sent.map Prod.fst = form.fields.map Prod.fst := by
  rw [sent, List.map_map]
  rfl

/-- A mark that is neither unreserved nor a percent sign is in no key and in no value. -/
lemma not_mem_sent {mark : UInt8} (hmark : escaped mark = false) {field : Bytes × Bytes}
    (h : field ∈ form.sent) : mark ∉ field.1 ∧ mark ∉ field.2 := by
  obtain ⟨field, hfield, rfl⟩ := List.mem_map.mp h
  constructor
  · intro hmem
    rw [escaped, form.plain field hfield mark hmem] at hmark
    cases hmark
  · intro hmem
    rw [escaped_of_mem hmem] at hmark
    cases hmark

/-- No pair has the separator in it. -/
lemma sep_not_mem {field : Bytes × Bytes} (h : field ∈ form.sent) : 38 ∉ pairText 61 field := by
  obtain ⟨hkey, hvalue⟩ := form.not_mem_sent (by decide : escaped 38 = false) h
  simp [pairText, hkey, hvalue]

/-- A test of the pairs that asks for a key finds the pair of that key. -/
lemma find?_text {p : Bytes → Bool} (hp : p [] = false) (key : Bytes)
    (hkey : ∀ field ∈ form.sent, p (pairText 61 field) = decide (field.1 = key)) :
    (pieces 38 [] form.text).find? p =
      (form.sent.find? fun field => field.1 = key).map (pairText 61) := by
  rw [find?_pieces hp, text, find?_formText hp fun field hfield => form.sep_not_mem hfield]
  congr 1
  exact List.find?_congr hkey

/-- The pair of a key of the form, as it is sent. -/
lemma find?_sent_of_mem {field : Bytes × Bytes} (h : field ∈ form.fields) :
    (form.sent.find? fun other => other.1 = field.1) = some (field.1, urlEncode field.2) :=
  find?_key_of_mem (form.keys_sent ▸ form.nodup) (List.mem_map_of_mem h)

lemma find?_sent_eq_none {key : Bytes} (h : key ∉ form.fields.map Prod.fst) :
    (form.sent.find? fun other => other.1 = key) = none :=
  find?_key_eq_none (form.keys_sent ▸ h)

end Form

/-! ### Reading a form -/

section Read

variable (form : Form)

/-- The prefix test of `ssoFormField` asks for the key. -/
lemma ssoFormFieldOf_formText (key : Bytes) : ssoFormFieldOf form.text key =
    ((form.sent.find? fun field => field.1 = key).map fun field =>
      ssoUrlDecode field.2).getD [] := by
  have htest : ∀ field ∈ form.sent,
      (key ++ [61]).isPrefixOf (pairText 61 field) = decide (field.1 = key) := by
    intro field hfield
    obtain ⟨hkey, hvalue⟩ := form.not_mem_sent (by decide : escaped 61 = false) hfield
    rw [Bool.eq_iff_iff, List.isPrefixOf_iff_prefix, isPrefix_pairText_iff hkey hvalue,
      decide_eq_true_eq]
  rw [ssoFormFieldOf, form.find?_text (by simp) key htest]
  cases hsent : form.sent.find? fun field => field.1 = key with
  | none => rfl
  | some field =>
      have hkey : field.1 = key := by simpa using List.find?_some hsent
      change ssoUrlDecode ((pairText 61 field).drop (key ++ [61]).length) = ssoUrlDecode field.2
      have hsplit : pairText 61 field = (field.1 ++ [61]) ++ field.2 := by simp [pairText]
      rw [← hkey, hsplit, List.drop_left]

/-- The test of `queryParam` asks for the key. -/
lemma queryParam_text {path : Bytes} (hpath : 63 ∉ path) (key : Bytes) :
    WebUtil.queryParam (path ++ 63 :: form.text) key =
      ((form.sent.find? fun field => field.1 = key).map fun field =>
        ssoUrlDecode field.2).getD [] := by
  have htest : ∀ field ∈ form.sent,
      ((pairText 61 field).elem 61 && decide ((pairText 61 field).takeWhile (· ≠ 61) = key)) =
        decide (field.1 = key) := by
    intro field hfield
    obtain ⟨hkey, -⟩ := form.not_mem_sent (by decide : escaped 61 = false) hfield
    rw [takeWhile_pairText hkey]
    simp [pairText]
  rw [WebUtil.queryParam, (takeWhile_split hpath form.text).2]
  dsimp only
  rw [form.find?_text (by simp) key htest]
  cases hsent : form.sent.find? fun field => field.1 = key with
  | none => rfl
  | some field =>
      obtain ⟨hkey, -⟩ := form.not_mem_sent (by decide : escaped 61 = false)
        (List.mem_of_find?_eq_some hsent)
      change WebUtil.urlDecode ((pairText 61 field).dropWhile (· ≠ 61)).tail = ssoUrlDecode field.2
      rw [webDecode_eq, dropWhile_pairText hkey, List.tail_cons]

end Read

/-- **What is encoded is read back**: by both decoders, which agree on every text,
and by key, from a query and from a form. -/
theorem form_read (raw text : Bytes) (form : Form) (path : { path : Bytes // 63 ∉ path }) :
    WebUtil.urlDecode (urlEncode raw) = raw ∧ ssoUrlDecode (urlEncode raw) = raw ∧
      WebUtil.urlDecode text = ssoUrlDecode text ∧
      (∀ field ∈ form.fields,
        WebUtil.queryParam (path.1 ++ 63 :: form.text) field.1 = field.2 ∧
          ssoFormFieldOf form.text field.1 = field.2) ∧
      ∀ key, key ∉ form.fields.map Prod.fst →
        WebUtil.queryParam (path.1 ++ 63 :: form.text) key = [] ∧
          ssoFormFieldOf form.text key = [] := by
  refine ⟨?_, ssoUrlDecode_urlEncode raw, webDecode_eq text, fun field hfield => ?_,
    fun key hkey => ?_⟩
  · rw [webDecode_eq, ssoUrlDecode_urlEncode]
  · rw [queryParam_text form path.2, ssoFormFieldOf_formText, form.find?_sent_of_mem hfield]
    exact ⟨ssoUrlDecode_urlEncode field.2, ssoUrlDecode_urlEncode field.2⟩
  · rw [queryParam_text form path.2, ssoFormFieldOf_formText, form.find?_sent_eq_none hkey]
    exact ⟨rfl, rfl⟩

end Pretzel.Mgmtd
