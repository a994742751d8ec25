import Mathlib.Tactic
import Pretzel.Library.Xml

/-!
`authd/service/auth/SamlClient`: the check of a SAML response.

* `base64Encode`, `base64Decode`, `childByLocal`, `nodeText`, `attr`, `registerIds`,
  `findSignedAssertion`: the helpers, over nodes that know their place.
* `XmlSec`: what libxml2, xmlsec and the C library answer.
* `verifySignature`, `verifyResponse`: the check, and what it reads of the
  assertion.
* `base64Decode_base64Encode`: what is encoded is decoded.
* `lookup_registerIds`: what an identifier names once the document is
  registered.
-/

namespace Pretzel.Authd

open Xml

/-! ### The helpers -/

/-- A digit of `base64Encode`. -/
def base64Char (v : UInt32) : UInt8 :=
  if v < 26 then v.toUInt8 + 65
  else if v < 52 then v.toUInt8 - 26 + 97
  else if v < 62 then v.toUInt8 - 52 + 48
  else if v = 62 then 43
  else 47

/-- `base64Encode`. -/
def base64Encode : List UInt8 → List UInt8
  | [] => []
  | [x] =>
      let n := x.toUInt32 <<< 16
      [base64Char (n >>> 18 &&& 63), base64Char (n >>> 12 &&& 63), 61, 61]
  | [x, y] =>
      let n := x.toUInt32 <<< 16 ||| y.toUInt32 <<< 8
      [base64Char (n >>> 18 &&& 63), base64Char (n >>> 12 &&& 63), base64Char (n >>> 6 &&& 63), 61]
  | x :: y :: z :: rest =>
      let n := x.toUInt32 <<< 16 ||| y.toUInt32 <<< 8 ||| z.toUInt32
      base64Char (n >>> 18 &&& 63) :: base64Char (n >>> 12 &&& 63) ::
        base64Char (n >>> 6 &&& 63) :: base64Char (n &&& 63) :: base64Encode rest

/-- A digit of `base64Decode`. -/
def base64Val (c : UInt8) : Option UInt32 :=
  if 65 ≤ c ∧ c ≤ 90 then some (c.toUInt32 - 65)
  else if 97 ≤ c ∧ c ≤ 122 then some (c.toUInt32 - 97 + 26)
  else if 48 ≤ c ∧ c ≤ 57 then some (c.toUInt32 - 48 + 52)
  else if c = 43 then some 62
  else if c = 47 then some 63
  else none

/-- The loop of `base64Decode`: the bytes pushed from here on. -/
def base64Loop : List UInt8 → UInt32 → UInt32 → Option (List UInt8)
  | [], _, _ => some []
  | c :: rest, buf, bits =>
      if c = 61 then some []
      else if c = 10 ∨ c = 13 ∨ c = 32 ∨ c = 9 then base64Loop rest buf bits
      else
        match base64Val c with
        | none => none
        | some v =>
            let buf := buf <<< 6 ||| v
            let bits := bits + 6
            if bits ≥ 8 then
              let bits := bits - 8
              (base64Loop rest buf bits).map ((buf >>> bits).toUInt8 :: ·)
            else base64Loop rest buf bits

/-- `base64Decode`, `none` where it returns false. -/
def base64Decode (input : List UInt8) : Option (List UInt8) := base64Loop input 0 0

/-- `childByLocal`. -/
def childByLocal (parent : Element) (name : String) : Option Element :=
  parent.elements.find? fun c => c.name = name

/-- The blanks that `nodeText` trims. -/
def isBlank (c : Char) : Bool := c = ' ' || c = '\t' || c = '\r' || c = '\n'

/-- `nodeText`. -/
def nodeText (n : Option Element) : String :=
  match n with
  | none => ""
  | some n =>
      String.ofList (((content n.children).toList.dropWhile isBlank).reverse.dropWhile isBlank).reverse

/-- `attr`. -/
def attr (n : Option Element) (name : String) : String :=
  match n with
  | none => ""
  | some n => (n.attr? name).getD ""

/-- `registerIds`, of the nodes from a child on. -/
def registerIds (path : Path) : ℕ → Nodes → IdTable → IdTable
  | _, .nil, ids => ids
  | i, .element _ attrs children next, ids =>
      let ids := match attrs.lookup "ID" with
        | some id => ids.add id (path ++ [i])
        | none => ids
      registerIds path (i + 1) next (registerIds (path ++ [i]) 0 children ids)
  | i, .text _ next, ids => registerIds path (i + 1) next ids
  | i, .other next, ids => registerIds path (i + 1) next ids

/-- `xmlDocGetRootElement`. -/
def rootElement (doc : Document) : Option Element := (siblings [] 0 doc.nodes).head?

/-- `findSignedAssertion`: the assertion and its signature. -/
def findSignedAssertion (root : Element) : Option (Element × Element) :=
  root.elements.findSome? fun c =>
    if c.name = "Assertion" then (childByLocal c "Signature").map fun sig => (c, sig) else none

/-! ### The check -/

/-- `SamlClient::Config`, as far as a response is checked against it. -/
structure Config where
  enabled : Bool := false
  idpEntityId : String := ""
  idpCertPem : String := ""
  spEntityId : String := ""
  adminGroup : String := ""
  groupsAttr : String := "groups"
  emailAttr : String := "email"
  clockSkewSec : UInt64 := 120
deriving DecidableEq, Repr

/-- `SamlClient::Result`. -/
structure Result where
  success : Bool := false
  username : String := ""
  groups : List String := []
  error : String := ""
deriving DecidableEq, Repr

/-- What the libraries answer: whether xmlsec comes up, its key store is made
and filled and its context is made, the document of a text, the verification of
a signature (`none` is an error, and `some` whether it succeeded), what a URI
that is neither empty nor a bare name resolves to, the time a text says
(`strptime` and `timegm`), and the clock. -/
structure XmlSec where
  init : Bool
  readMemory : List UInt8 → Option Document
  keysMngr : Bool
  certLoad : String → Bool
  dsigCtx : Bool
  verify : Document → IdTable → Element → Option Bool
  xpointer : Document → IdTable → String → Option Path
  strptime : String → Option ℤ
  now : UInt64

/-- `parseIso8601`, cast to an unsigned number. -/
def parseIso8601 (sec : XmlSec) (s : String) : UInt64 :=
  UInt64.ofInt ((sec.strptime s).getD 0)

/-- The identifiers of a document when its signature is checked. -/
def registered (doc : Document) : IdTable := registerIds [] 0 doc.nodes doc.ids

/-- `SamlClient::verifySignature`: the assertion it hands on with its signature,
or the error. -/
def verifySignature (cfg : Config) (sec : XmlSec) (doc : Document) :
    Except String (Element × Element) :=
  match rootElement doc with
  | none => .error "no root"
  | some root =>
      match findSignedAssertion root with
      | none => .error "no signed assertion"
      | some (assertion, sig) =>
          if !sec.keysMngr then .error "keys mngr init failed"
          else if !sec.certLoad cfg.idpCertPem then .error "load idp cert failed"
          else if !sec.dsigCtx then .error "dsig ctx create failed"
          else
            match sec.verify doc (registered doc) sig with
            | none => .error "signature verify error"
            | some false => .error "signature invalid"
            | some true => .ok (assertion, sig)

/-- The check of `Conditions`: the error, if there is one. -/
def conditionsError (cfg : Config) (sec : XmlSec) (assertion : Element) : Option String :=
  match childByLocal assertion "Conditions" with
  | none => none
  | some cond =>
      let nb := attr (some cond) "NotBefore"
      let na := attr (some cond) "NotOnOrAfter"
      if nb ≠ "" ∧ parseIso8601 sec nb > sec.now + cfg.clockSkewSec then
        some "assertion not yet valid"
      else if na ≠ "" ∧ sec.now > parseIso8601 sec na + cfg.clockSkewSec then
        some "assertion expired"
      else
        let audiences := match childByLocal cond "AudienceRestriction" with
          | none => []
          | some ar => ar.elements
        let audOk := cfg.spEntityId = "" ∨
          audiences.any fun a => a.name = "Audience" && nodeText (some a) = cfg.spEntityId
        if audOk then none else some "audience mismatch"

/-- One attribute of the statement: the mail address and the groups so far. -/
def readAttribute (cfg : Config) (read : String × List String) (at' : Element) :
    String × List String :=
  if at'.name ≠ "Attribute" then read
  else
    let name := attr (some at') "Name"
    if cfg.emailAttr ≠ "" ∧ name = cfg.emailAttr then
      match childByLocal at' "AttributeValue" with
      | some v => (nodeText (some v), read.2)
      | none => read
    else if name = cfg.groupsAttr then
      (read.1, read.2 ++ ((at'.elements.filter fun v => v.name = "AttributeValue").map
        fun v => nodeText (some v)).filter fun g => g ≠ "")
    else read

/-- What is read of an assertion: the name, the mail address and the groups. -/
def readAssertion (cfg : Config) (assertion : Element) : String × String × List String :=
  let nameId := match childByLocal assertion "Subject" with
    | some subj => nodeText (childByLocal subj "NameID")
    | none => ""
  let (email, groups) := match childByLocal assertion "AttributeStatement" with
    | some statement => statement.elements.foldl (readAttribute cfg) ("", [])
    | none => ("", [])
  (nameId, email, groups)

/-- `kStatusOk`. -/
def kStatusOk : String := "urn:oasis:names:tc:SAML:2.0:status:Success"

/-- The part of `verifyResponse` behind the signature. -/
def checkAssertion (cfg : Config) (sec : XmlSec) (doc : Document) (assertion : Element) :
    Result :=
  let statusOk := match (rootElement doc).bind fun root => childByLocal root "Status" with
    | some status => attr (childByLocal status "StatusCode") "Value" = kStatusOk
    | none => true
  if !statusOk then { error := "status not success" }
  else if nodeText (childByLocal assertion "Issuer") ≠ cfg.idpEntityId then
    { error := "issuer mismatch" }
  else
    match conditionsError cfg sec assertion with
    | some error => { error }
    | none =>
        let (nameId, email, groups) := readAssertion cfg assertion
        if cfg.adminGroup ≠ "" ∧ cfg.adminGroup ∉ groups then
          { groups, error := "not in admin group" }
        else
          let username := if email ≠ "" then email else nameId
          if username = "" then { groups, error := "no email/NameID" }
          else { success := true, username, groups }

/-- `SamlClient::verifyResponse`. -/
def verifyResponse (cfg : Config) (sec : XmlSec) (base64SamlResponse : List UInt8) : Result :=
  if !cfg.enabled then { error := "saml disabled" }
  else if !sec.init then { error := "xmlsec unavailable" }
  else
    match base64Decode base64SamlResponse with
    | none => { error := "bad base64 SAMLResponse" }
    | some [] => { error := "bad base64 SAMLResponse" }
    | some xml =>
        match sec.readMemory xml with
        | none => { error := "xml parse failed" }
        | some doc =>
            match verifySignature cfg sec doc with
            | .error err => { error := err }
            | .ok (assertion, _) => checkAssertion cfg sec doc assertion

/-! ### Base 64 -/

/-- A digit is read as the value it was written for, and is neither padding nor
blank. -/
lemma base64Val_base64Char {v : UInt32} (h : v < 64) :
    base64Val (base64Char v) = some v ∧ base64Char v ≠ 61 ∧ base64Char v ≠ 10 ∧
      base64Char v ≠ 13 ∧ base64Char v ≠ 32 ∧ base64Char v ≠ 9 := by
  have hall : ∀ n < 64, base64Val (base64Char (UInt32.ofNat n)) = some (UInt32.ofNat n) ∧
      base64Char (UInt32.ofNat n) ≠ 61 ∧ base64Char (UInt32.ofNat n) ≠ 10 ∧
      base64Char (UInt32.ofNat n) ≠ 13 ∧ base64Char (UInt32.ofNat n) ≠ 32 ∧
      base64Char (UInt32.ofNat n) ≠ 9 := by decide
  have hv := hall v.toNat (UInt32.lt_iff_toNat_lt.mp h)
  rwa [UInt32.ofNat_toNat] at hv

/-- One digit of the loop. -/
lemma base64Loop_digit {v : UInt32} (h : v < 64) (rest : List UInt8) (buf bits : UInt32) :
    base64Loop (base64Char v :: rest) buf bits =
      if bits + 6 ≥ 8 then
        (base64Loop rest (buf <<< 6 ||| v) (bits + 6 - 8)).map
          (((buf <<< 6 ||| v) >>> (bits + 6 - 8)).toUInt8 :: ·)
      else base64Loop rest (buf <<< 6 ||| v) (bits + 6) := by
  obtain ⟨hval, hpad, h10, h13, h32, h9⟩ := base64Val_base64Char h
  rw [base64Loop, if_neg hpad, if_neg (by simp [h10, h13, h32, h9]), hval]

/-- The buffer with a digit, as a number. -/
lemma toNat_push {v : UInt32} (h : v < 64) (buf : UInt32) :
    (buf <<< 6 ||| v).toNat = buf.toNat * 64 % 2 ^ 32 + v.toNat := by
  have hv : v.toNat < 2 ^ 6 := UInt32.lt_iff_toNat_lt.mp h
  have hmod : buf.toNat <<< 6 % 2 ^ 32 = (buf.toNat % 2 ^ 26) <<< 6 := by
    rw [Nat.shiftLeft_eq, Nat.shiftLeft_eq]
    omega
  rw [UInt32.toNat_or, UInt32.toNat_shiftLeft]
  change buf.toNat <<< 6 % 2 ^ 32 ||| v.toNat = _
  rw [hmod, ← Nat.shiftLeft_add_eq_or_of_lt hv, Nat.shiftLeft_eq]
  omega

/-- What the encoder makes of three bytes, as a number. -/
lemma toNat_triple (x y z : UInt8) : (x.toUInt32 <<< 16 ||| y.toUInt32 <<< 8 ||| z.toUInt32).toNat
    = x.toNat * 65536 + y.toNat * 256 + z.toNat := by
  have hx := x.toNat_lt
  have hy := y.toNat_lt
  have hz : z.toNat < 2 ^ 8 := z.toNat_lt
  have hx' : (x.toUInt32 <<< 16).toNat = x.toNat <<< 16 := by
    rw [UInt32.toNat_shiftLeft, UInt8.toNat_toUInt32]
    change x.toNat <<< 16 % 2 ^ 32 = _
    rw [Nat.shiftLeft_eq]
    omega
  have hy' : (y.toUInt32 <<< 8).toNat = y.toNat <<< 8 := by
    rw [UInt32.toNat_shiftLeft, UInt8.toNat_toUInt32]
    change y.toNat <<< 8 % 2 ^ 32 = _
    rw [Nat.shiftLeft_eq]
    omega
  have hylt : y.toNat <<< 8 < 2 ^ 16 := by rw [Nat.shiftLeft_eq]; omega
  have hxy : x.toNat <<< 16 + y.toNat <<< 8 = (x.toNat <<< 8 + y.toNat) <<< 8 := by
    simp only [Nat.shiftLeft_eq]
    omega
  rw [UInt32.toNat_or, UInt32.toNat_or, hx', hy', UInt8.toNat_toUInt32,
    ← Nat.shiftLeft_add_eq_or_of_lt hylt, hxy, ← Nat.shiftLeft_add_eq_or_of_lt hz]
  simp only [Nat.shiftLeft_eq]
  omega

/-- A digit of the encoder, as a number. -/
lemma toNat_digit (n k : UInt32) (hk : k < 32) :
    (n >>> k &&& 63).toNat = n.toNat / 2 ^ k.toNat % 64 := by
  have hk' : k.toNat < 32 := UInt32.lt_iff_toNat_lt.mp hk
  rw [UInt32.toNat_and, UInt32.toNat_shiftRight, Nat.mod_eq_of_lt hk']
  change n.toNat >>> k.toNat &&& 2 ^ 6 - 1 = _
  rw [Nat.and_two_pow_sub_one_eq_mod, Nat.shiftRight_eq_div_pow]

/-- A byte of the decoder, as a number. -/
lemma toNat_pulled (buf k : UInt32) (hk : k < 32) :
    (buf >>> k).toUInt8.toNat = buf.toNat / 2 ^ k.toNat % 256 := by
  have hk' : k.toNat < 32 := UInt32.lt_iff_toNat_lt.mp hk
  rw [UInt32.toNat_toUInt8, UInt32.toNat_shiftRight, Nat.mod_eq_of_lt hk',
    Nat.shiftRight_eq_div_pow]

/-- A digit of the encoder is a digit. -/
lemma digit_lt (n : UInt32) : n &&& 63 < 64 := by
  rw [UInt32.lt_iff_toNat_lt, UInt32.toNat_and]
  exact Nat.lt_succ_of_le Nat.and_le_right

/-- Two digits from the start push one byte. -/
lemma base64Loop_two {a b : UInt32} (ha : a < 64) (hb : b < 64) (rest : List UInt8) (buf : UInt32) :
    base64Loop (base64Char a :: base64Char b :: rest) buf 0 =
      (base64Loop rest ((buf <<< 6 ||| a) <<< 6 ||| b) 4).map
        ((((buf <<< 6 ||| a) <<< 6 ||| b) >>> 4).toUInt8 :: ·) := by
  rw [base64Loop_digit ha, if_neg (by decide), base64Loop_digit hb, if_pos (by decide)]
  rfl

/-- The third digit pushes the second byte. -/
lemma base64Loop_third {c : UInt32} (hc : c < 64) (rest : List UInt8) (buf : UInt32) :
    base64Loop (base64Char c :: rest) buf 4 =
      (base64Loop rest (buf <<< 6 ||| c) 2).map (((buf <<< 6 ||| c) >>> 2).toUInt8 :: ·) := by
  rw [base64Loop_digit hc, if_pos (by decide)]
  rfl

/-- The fourth digit pushes the third byte, and the loop is where it was. -/
lemma base64Loop_fourth {d : UInt32} (hd : d < 64) (rest : List UInt8) (buf : UInt32) :
    base64Loop (base64Char d :: rest) buf 2 =
      (base64Loop rest (buf <<< 6 ||| d) 0).map (((buf <<< 6 ||| d) >>> 0).toUInt8 :: ·) := by
  rw [base64Loop_digit hd, if_pos (by decide)]
  rfl

/-- The byte pushed with two digits in hand is the top of what they hold. -/
lemma toNat_pulled_two {a b : UInt32} (ha : a < 64) (hb : b < 64) (buf k : UInt32) (hk : k ≤ 4) :
    (((buf <<< 6 ||| a) <<< 6 ||| b) >>> k).toUInt8.toNat =
      (a.toNat * 64 + b.toNat) / 2 ^ k.toNat % 256 := by
  have hk' : k.toNat ≤ 4 := UInt32.le_iff_toNat_le.mp hk
  have ha' : a.toNat < 64 := UInt32.lt_iff_toNat_lt.mp ha
  have hb' : b.toNat < 64 := UInt32.lt_iff_toNat_lt.mp hb
  have hlt : k < 32 := UInt32.lt_iff_toNat_lt.mpr (lt_of_le_of_lt hk' (by decide))
  rw [toNat_pulled _ _ hlt, toNat_push hb, toNat_push ha]
  interval_cases k.toNat <;> omega

/-- The loop reads back what the encoder has written, whatever its buffer held. -/
lemma base64Loop_base64Encode (xs : List UInt8) (buf : UInt32) :
    base64Loop (base64Encode xs) buf 0 = some xs := by
  induction xs using base64Encode.induct generalizing buf with
  | case1 => rfl
  | case2 x =>
      have hx := x.toNat_lt
      have hn : (x.toUInt32 <<< 16).toNat = x.toNat * 65536 := by simpa using toNat_triple x 0 0
      rw [base64Encode, base64Loop_two (digit_lt _) (digit_lt _), base64Loop, if_pos rfl]
      refine congrArg some (List.cons_eq_cons.mpr ⟨UInt8.toNat_inj.mp ?_, rfl⟩)
      rw [toNat_pulled_two (digit_lt _) (digit_lt _) _ _ (by decide),
        toNat_digit _ _ (by decide), toNat_digit _ _ (by decide), hn]
      change (_ / 2 ^ 18 % 64 * 64 + _ / 2 ^ 12 % 64) / 2 ^ 4 % 256 = _
      omega
  | case3 x y =>
      have hx := x.toNat_lt
      have hy := y.toNat_lt
      have hn : (x.toUInt32 <<< 16 ||| y.toUInt32 <<< 8).toNat = x.toNat * 65536 + y.toNat * 256 := by
        simpa using toNat_triple x y 0
      rw [base64Encode, base64Loop_two (digit_lt _) (digit_lt _), base64Loop_third (digit_lt _),
        base64Loop, if_pos rfl]
      refine congrArg some (List.cons_eq_cons.mpr ⟨UInt8.toNat_inj.mp ?_,
        List.cons_eq_cons.mpr ⟨UInt8.toNat_inj.mp ?_, rfl⟩⟩)
      all_goals
        rw [toNat_pulled_two (digit_lt _) (digit_lt _) _ _ (by decide),
          toNat_digit _ _ (by decide), toNat_digit _ _ (by decide), hn]
      · change (_ / 2 ^ 18 % 64 * 64 + _ / 2 ^ 12 % 64) / 2 ^ 4 % 256 = _
        omega
      · change (_ / 2 ^ 12 % 64 * 64 + _ / 2 ^ 6 % 64) / 2 ^ 2 % 256 = _
        omega
  | case4 x y z rest ih =>
      have hx := x.toNat_lt
      have hy := y.toNat_lt
      have hz := z.toNat_lt
      have hlast (n : UInt32) : (n &&& 63).toNat = n.toNat / 2 ^ 0 % 64 := toNat_digit n 0 (by decide)
      rw [base64Encode, base64Loop_two (digit_lt _) (digit_lt _), base64Loop_third (digit_lt _),
        base64Loop_fourth (digit_lt _), ih]
      refine congrArg some (List.cons_eq_cons.mpr ⟨UInt8.toNat_inj.mp ?_,
        List.cons_eq_cons.mpr ⟨UInt8.toNat_inj.mp ?_,
          List.cons_eq_cons.mpr ⟨UInt8.toNat_inj.mp ?_, rfl⟩⟩⟩)
      all_goals rw [toNat_pulled_two (digit_lt _) (digit_lt _) _ _ (by decide)]
      · rw [toNat_digit _ _ (by decide), toNat_digit _ _ (by decide), toNat_triple]
        change (_ / 2 ^ 18 % 64 * 64 + _ / 2 ^ 12 % 64) / 2 ^ 4 % 256 = _
        omega
      · rw [toNat_digit _ _ (by decide), toNat_digit _ _ (by decide), toNat_triple]
        change (_ / 2 ^ 12 % 64 * 64 + _ / 2 ^ 6 % 64) / 2 ^ 2 % 256 = _
        omega
      · rw [toNat_digit _ _ (by decide), hlast, toNat_triple]
        change (_ / 2 ^ 6 % 64 * 64 + _ / 2 ^ 0 % 64) / 2 ^ 0 % 256 = _
        omega

/-- **What is encoded is decoded.** -/
theorem base64Decode_base64Encode (xs : List UInt8) : base64Decode (base64Encode xs) = some xs :=
  base64Loop_base64Encode xs 0

/-! ### What an identifier names -/

/-- **An identifier names the element the parser has registered for it**, and
else the first element in document order that carries it. -/
theorem lookup_registerIds (path : Path) (i : ℕ) (nodes : Nodes) (ids : IdTable) {x : String}
    (hx : x ≠ "") : (registerIds path i nodes ids).lookup x = (ids.lookup x).or
      (((preorder path i nodes).find? fun e => e.attr? "ID" = some x).map Element.path) := by
  induction nodes generalizing path i ids with
  | nil => simp [registerIds, preorder]
  | text _ next ih => exact ih path (i + 1) ids
  | other next ih => exact ih path (i + 1) ids
  | element name attrs children next ihc ihn =>
      rw [registerIds, ihn, ihc, preorder, List.find?_cons, List.find?_append]
      have hself : (match attrs.lookup "ID" with
          | some id => ids.add id (path ++ [i])
          | none => ids).lookup x = (ids.lookup x).or
            (if attrs.lookup "ID" = some x then some (path ++ [i]) else none) := by
        cases hid : attrs.lookup "ID" with
        | none => simp
        | some id =>
            dsimp only
            rw [IdTable.lookup_add]
            simp [hx]
      rw [hself]
      by_cases hcarries : attrs.lookup "ID" = some x
      · have hattr : decide ((⟨path ++ [i], name, attrs, children⟩ : Element).attr? "ID" = some x)
            = true := decide_eq_true hcarries
        rw [if_pos hcarries, hattr]
        cases ids.lookup x <;> rfl
      · have hattr : decide ((⟨path ++ [i], name, attrs, children⟩ : Element).attr? "ID" = some x)
            = false := decide_eq_false hcarries
        rw [if_neg hcarries, hattr, Option.or_none, Option.or_assoc]
        exact congrArg _ Option.map_or.symm

/-- What an identifier of a document names when its signature is checked. -/
lemma lookup_registered (doc : Document) {x : String} (hx : x ≠ "") :
    (registered doc).lookup x = (doc.ids.lookup x).or
      ((doc.elements.find? fun e => e.attr? "ID" = some x).map Element.path) :=
  lookup_registerIds [] 0 doc.nodes doc.ids hx

end Pretzel.Authd
