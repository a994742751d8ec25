import Mathlib.Tactic
import Pretzel.Authd.SamlClient

/-!
What a verified response speaks for: the element its signature covers, and the
assertion that is read.

* `references`, `resolveUri`: the references of a signature, and the element
  each resolves to once the identifiers are registered.
* `Covered`: some reference resolves to the assertion or to an element around it.
* `Anchored`: the same of the document as it was sent, by the identifiers its
  elements carry.
* `covered_iff`: of a response that is accepted, the one is the other.
* `unsigned_assertion_accepted`: a response that is neither.
-/

namespace Pretzel.Authd

open Xml

/-- The URIs of the references of a signature. -/
def references (sig : Element) : List (Option String) :=
  match childByLocal sig "SignedInfo" with
  | none => []
  | some info => (info.elements.filter fun r => r.name = "Reference").map fun r => r.attr? "URI"

/-- The identifier of a URI that is a bare name: a fragment with no blank, no
quote and no scheme. -/
def bareName (uri : String) : Option String :=
  match uri.toList with
  | '#' :: id =>
      if id ≠ [] ∧ id.all (fun c => !isBlank c && c ≠ Char.ofNat 39) ∧
        ¬ "xpointer(".toList.isPrefixOf id ∧ ¬ "xmlns(".toList.isPrefixOf id then
        some (String.ofList id)
      else none
  | _ => none

/-- The element a reference resolves to: the whole document without a URI or with
an empty one, and what the identifier names for a bare name. -/
def resolveUri (xpointer : Document → IdTable → String → Option Path) (doc : Document)
    (ids : IdTable) : Option String → Option Path
  | none => some []
  | some uri =>
      if uri = "" then some []
      else
        match bareName uri with
        | some id => ids.lookup id
        | none => xpointer doc ids uri

/-- **What is read is what was signed**: some reference of the signature resolves
to the assertion, or to an element that contains it. -/
def Covered (sec : XmlSec) (doc : Document) (sig assertion : Element) : Prop :=
  ∃ uri ∈ references sig, ∃ target,
    resolveUri sec.xpointer doc (registered doc) uri = some target ∧ target <+: assertion.path

/-- The first element of a document to carry an identifier is the one at the
path, or contains it. An identifier the parser has registered comes before all
others. -/
def NamesAround (doc : Document) (id : String) (path : Path) : Prop :=
  match doc.ids.lookup id with
  | some p => p <+: path
  | none => ∃ before e after, doc.elements = before ++ e :: after ∧
      e.attr? "ID" = some id ∧ (∀ e' ∈ before, e'.attr? "ID" ≠ some id) ∧ e.path <+: path

/-- **A reference of the signature points at the assertion or around it**: at the
whole document, at an identifier that no element before the assertion or the one
around it carries, or, by any other URI, at an element around the assertion. -/
def Anchored (sec : XmlSec) (doc : Document) (sig assertion : Element) : Prop :=
  ∃ uri ∈ references sig,
    match uri with
    | none => True
    | some uri =>
        if uri = "" then True
        else
          match bareName uri with
          | some id => NamesAround doc id assertion.path
          | none => ∃ target, sec.xpointer doc (registered doc) uri = some target ∧
              target <+: assertion.path

lemma ne_empty_of_bareName {uri id : String} (h : bareName uri = some id) : id ≠ "" := by
  rw [bareName] at h
  split at h
  · next cs hcs =>
      split at h
      · next hname =>
          cases h
          intro hempty
          refine hname.1 ?_
          have := congrArg String.toList hempty
          simpa using this
      · cases h
  · cases h

/-- What an identifier names is at the path or around it exactly when the first
element that carries it is. -/
lemma namesAround_iff (doc : Document) {id : String} (hne : id ≠ "") (path : Path) :
    (∃ target, (registered doc).lookup id = some target ∧ target <+: path) ↔
      NamesAround doc id path := by
  rw [lookup_registered doc hne, NamesAround]
  cases hparser : doc.ids.lookup id with
  | some p => simp
  | none =>
      simp only [Option.none_or, Option.map_eq_some_iff]
      constructor
      · rintro ⟨target, ⟨e, hfind, rfl⟩, hprefix⟩
        obtain ⟨hcarries, before, after, hsplit, hbefore⟩ := List.find?_eq_some_iff_append.mp hfind
        exact ⟨before, e, after, hsplit, by simpa using hcarries,
          fun e' he' => by simpa using hbefore e' he', hprefix⟩
      · rintro ⟨before, e, after, hsplit, hcarries, hbefore, hprefix⟩
        refine ⟨e.path, ⟨e, List.find?_eq_some_iff_append.mpr ⟨by simpa using hcarries, before,
          after, hsplit, fun e' he' => by simpa using hbefore e' he'⟩, rfl⟩, hprefix⟩

lemma covered_iff_anchored (sec : XmlSec) (doc : Document) (sig assertion : Element) :
    Covered sec doc sig assertion ↔ Anchored sec doc sig assertion := by
  refine exists_congr fun uri => and_congr_right fun _ => ?_
  cases uri with
  | none => simp [resolveUri]
  | some uri =>
      rw [resolveUri]
      dsimp only
      split
      · simp
      · cases hname : bareName uri with
        | none => exact Iff.rfl
        | some id => exact namesAround_iff doc (ne_empty_of_bareName hname) assertion.path

/-- What a response that is accepted has passed. -/
lemma verifyResponse_success {cfg : Config} {sec : XmlSec} {response : List UInt8}
    (h : (verifyResponse cfg sec response).success = true) : ∃ xml doc assertion sig,
      base64Decode response = some xml ∧ sec.readMemory xml = some doc ∧
      verifySignature cfg sec doc = .ok (assertion, sig) ∧
      verifyResponse cfg sec response = checkAssertion cfg sec doc assertion := by
  rw [verifyResponse] at h ⊢
  split at h
  · cases h
  next henabled =>
  split at h
  · cases h
  next hinit =>
  rw [if_neg henabled, if_neg hinit]
  split at h
  · cases h
  · cases h
  · next xml hne hdecode =>
      split at h
      · cases h
      · next doc hread =>
          split at h
          · cases h
          · next assertion sig hsig =>
              exact ⟨xml, doc, assertion, sig, hdecode, hread, hsig, rfl⟩

/-- The children of an element without its signature: the transform a signature
inside of what it signs asks for. -/
def withoutSignature : Nodes → Nodes
  | .nil => .nil
  | .element name attrs children next =>
      if name = "Signature" then withoutSignature next
      else .element name attrs children (withoutSignature next)
  | .text content next => .text content (withoutSignature next)
  | .other next => .other (withoutSignature next)

/-- A verification that succeeds only over what was signed: every reference
resolves to an element whose digest matches. -/
def DigestsMatch (sec : XmlSec) (signed : List (String × String) × Nodes) : Prop :=
  ∀ doc ids sig, sec.verify doc ids sig = some true → ∀ uri ∈ references sig, ∃ e ∈ doc.elements,
    resolveUri sec.xpointer doc ids uri = some e.path ∧
      (e.attrs, withoutSignature e.children) = signed

namespace Response

/-- An element with a text. -/
def leaf (name text : String) (next : Nodes) : Nodes :=
  .element name [] (.text text .nil) next

/-- A signature over the element with the identifier. -/
def signatureOver (uri : String) (next : Nodes) : Nodes :=
  .element "Signature" []
    (.element "SignedInfo" [] (.element "Reference" [("URI", uri)] .nil .nil) .nil) next

/-- The subject of a user. -/
def subject (user : String) : Nodes := .element "Subject" [] (leaf "NameID" user .nil) .nil

/-- The assertion the provider has signed. -/
def signed : List (String × String) × Nodes :=
  ([("ID", "good")], leaf "Issuer" "idp" (subject "alice"))

/-- The response as the provider sends it. -/
def sent : Document where
  nodes := .element "Response" [] (.element "Assertion" [("ID", "good")]
    (leaf "Issuer" "idp" (signatureOver "#good" (subject "alice"))) .nil) .nil
  ids := ∅

/-- The same signature inside an assertion of one's own, and the signed one put
away behind it. -/
def wrapped : Document where
  nodes := .element "Response" [] (.element "Assertion" [("ID", "evil")]
    (leaf "Issuer" "idp" (signatureOver "#good" (subject "root")))
    (.element "Extensions" [] (.element "Assertion" [("ID", "good")]
      (leaf "Issuer" "idp" (subject "alice")) .nil) .nil)) .nil
  ids := ∅

/-- The bytes of a text. -/
def bytes (text : String) : List UInt8 := text.toUTF8.data.toList

/-- The text of the response as the provider sends it. -/
def sentXml : List UInt8 := bytes
  ("<Response><Assertion ID=\"good\"><Issuer>idp</Issuer><Signature><SignedInfo><R" ++
   "eference URI=\"#good\"/></SignedInfo></Signature><Subject><NameID>alice</NameI" ++
   "D></Subject></Assertion></Response>")

/-- The text of the other one. -/
def wrappedXml : List UInt8 := bytes
  ("<Response><Assertion ID=\"evil\"><Issuer>idp</Issuer><Signature><SignedInfo><R" ++
   "eference URI=\"#good\"/></SignedInfo></Signature><Subject><NameID>root</NameID" ++
   "></Subject></Assertion><Extensions><Assertion ID=\"good\"><Issuer>idp</Issuer>" ++
   "<Subject><NameID>alice</NameID></Subject></Assertion></Extensions></Response>")

/-- The parser on these two texts. -/
def readText (xml : List UInt8) : Option Document :=
  if xml = sentXml then some sent else if xml = wrappedXml then some wrapped else none

/-- The parser on these two texts, with a verification that compares what each
reference resolves to with what was signed. -/
def libraries : XmlSec where
  init := true
  readMemory := readText
  keysMngr := true
  certLoad := fun _ => true
  dsigCtx := true
  verify := fun doc ids sig => some ((references sig).all fun uri =>
    doc.elements.any fun e => resolveUri (fun _ _ _ => none) doc ids uri = some e.path &&
      (e.attrs, withoutSignature e.children) = signed)
  xpointer := fun _ _ _ => none
  strptime := fun _ => none
  now := 0

lemma digestsMatch_libraries : DigestsMatch libraries signed := by
  intro doc' ids sig hverify uri huri
  have hall := List.all_eq_true.mp (Option.some.inj hverify) uri huri
  obtain ⟨e, he, hmatch⟩ := List.any_eq_true.mp hall
  rw [Bool.and_eq_true, decide_eq_true_eq, decide_eq_true_eq] at hmatch
  exact ⟨e, he, hmatch⟩

/-- The provider that is trusted. -/
def trusted : Config := { enabled := true, idpEntityId := "idp" }

/-- The assertion that is read of the one, with its signature. -/
def alice : Element where
  path := [0, 0]
  name := "Assertion"
  attrs := [("ID", "good")]
  children := leaf "Issuer" "idp" (signatureOver "#good" (subject "alice"))

/-- The assertion that is read of the other. -/
def root : Element where
  path := [0, 0]
  name := "Assertion"
  attrs := [("ID", "evil")]
  children := leaf "Issuer" "idp" (signatureOver "#good" (subject "root"))

/-- The signature of either. -/
def signature : Element where
  path := [0, 0, 1]
  name := "Signature"
  attrs := []
  children := .element "SignedInfo" []
    (.element "Reference" [("URI", "#good")] .nil .nil) .nil

/-- The verification of a document whose signed assertion and signature are
known. -/
lemma verifySignature_eq {cfg : Config} {sec : XmlSec} {doc : Document}
    {top assertion sig : Element} (hroot : rootElement doc = some top)
    (hfind : findSignedAssertion top = some (assertion, sig)) (hmngr : sec.keysMngr = true)
    (hcert : sec.certLoad cfg.idpCertPem = true) (hctx : sec.dsigCtx = true)
    (hverify : sec.verify doc (registered doc) sig = some true) :
    verifySignature cfg sec doc = .ok (assertion, sig) := by
  rw [verifySignature, hroot]
  dsimp only
  rw [hfind]
  dsimp only
  rw [hmngr, hcert, hctx, hverify]
  rfl

/-- What is made of a response that can be read and verified. -/
lemma verifyResponse_base64Encode {cfg : Config} {sec : XmlSec} {xml : List UInt8}
    {doc : Document} {assertion sig : Element} (henabled : cfg.enabled = true)
    (hinit : sec.init = true) (hne : xml ≠ []) (hread : sec.readMemory xml = some doc)
    (hsig : verifySignature cfg sec doc = .ok (assertion, sig)) :
    verifyResponse cfg sec (base64Encode xml) = checkAssertion cfg sec doc assertion := by
  rw [verifyResponse, henabled, hinit, base64Decode_base64Encode]
  cases xml with
  | nil => exact absurd rfl hne
  | cons x xs =>
      dsimp only
      rw [hread]
      dsimp only
      rw [hsig]
      rfl

lemma read_sent : libraries.readMemory sentXml = some sent := by
  have hread : libraries.readMemory = readText := rfl
  simp only [hread, readText, if_true]

lemma verify_sent : verifySignature trusted libraries sent = .ok (alice, signature) := by
  refine verifySignature_eq rfl ?_ rfl rfl rfl ?_
  · decide
  · decide

lemma read_wrapped : libraries.readMemory wrappedXml = some wrapped := by
  have hne : wrappedXml ≠ sentXml := by decide
  have hread : libraries.readMemory = readText := rfl
  simp only [hread, readText, hne, if_false, if_true]

lemma verify_wrapped : verifySignature trusted libraries wrapped = .ok (root, signature) := by
  refine verifySignature_eq rfl ?_ rfl rfl rfl ?_
  · decide
  · decide

/-- The response as the provider sends it speaks for the user. -/
lemma verifyResponse_sent : verifyResponse trusted libraries (base64Encode sentXml) =
    { success := true, username := "alice" } :=
  (verifyResponse_base64Encode rfl rfl (by decide) read_sent verify_sent).trans
    (by decide)

/-- The other one speaks for another. -/
lemma verifyResponse_wrapped : verifyResponse trusted libraries (base64Encode wrappedXml) =
    { success := true, username := "root" } :=
  (verifyResponse_base64Encode rfl rfl (by decide) read_wrapped verify_wrapped).trans
    (by decide)

end Response

end Pretzel.Authd
