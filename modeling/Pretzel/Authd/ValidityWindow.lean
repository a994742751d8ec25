import Pretzel.Authd.Wrapping

/-!
What the conditions of an accepted response say.

* `StatesWindow`: the assertion names the service provider as an audience and
  states a window around the clock.
* `ConditionsMet`: what the check leaves of it: each part is checked where it is
  stated. `conditionsMet_of_success`.
* `window_not_required`: responses that are accepted without stating a window.
-/

namespace Pretzel.Authd

open Xml

/-- The conditions restrict the audience to the service provider, among others. -/
def namesAudience (cfg : Config) (cond : Element) : Bool :=
  match childByLocal cond "AudienceRestriction" with
  | none => false
  | some ar => ar.elements.any fun a => a.name = "Audience" && nodeText (some a) = cfg.spEntityId

/-- The assertion states the audience, and a window that the clock is in. -/
def statesWindow (cfg : Config) (sec : XmlSec) (assertion : Element) : Bool :=
  match childByLocal assertion "Conditions" with
  | none => false
  | some cond =>
      namesAudience cfg cond &&
        match sec.strptime (attr (some cond) "NotBefore"),
          sec.strptime (attr (some cond) "NotOnOrAfter") with
        | some nb, some na =>
            nb - cfg.clockSkewSec.toNat ≤ sec.now.toNat && sec.now.toNat ≤ na + cfg.clockSkewSec.toNat
        | _, _ => false

/-- What the check asks of conditions that are there: the audience, where the
service provider has an identifier, and each end of the window that is stated. A
time is one that `time_t` has. -/
structure ConditionsMet (cfg : Config) (sec : XmlSec) (cond : Element) : Prop where
  audience : cfg.spEntityId ≠ "" → namesAudience cfg cond = true
  notBefore : ∀ t < 2 ^ 63, attr (some cond) "NotBefore" ≠ "" →
    sec.strptime (attr (some cond) "NotBefore") = some t →
    t - cfg.clockSkewSec.toNat ≤ sec.now.toNat
  notOnOrAfter : ∀ t, 0 ≤ t → attr (some cond) "NotOnOrAfter" ≠ "" →
    sec.strptime (attr (some cond) "NotOnOrAfter") = some t →
    sec.now.toNat ≤ t + cfg.clockSkewSec.toNat
  malformedEnd : attr (some cond) "NotOnOrAfter" ≠ "" →
    sec.strptime (attr (some cond) "NotOnOrAfter") = none → sec.now ≤ cfg.clockSkewSec

/-- The sum of two words is their sum at most. -/
lemma toNat_add_le (a b : UInt64) : (a + b).toNat ≤ a.toNat + b.toNat := by
  rw [UInt64.toNat_add]
  exact Nat.mod_le _ _

/-- A time as a word. -/
lemma toNat_ofInt (t : ℤ) : ((UInt64.ofInt t).toNat : ℤ) = t % 2 ^ 64 := by
  simp [UInt64.ofInt]
  omega

/-- **What is stated is checked**: each part of the conditions, where it is there. -/
lemma conditionsMet_of_conditionsError {cfg : Config} {sec : XmlSec} {assertion cond : Element}
    (hcond : childByLocal assertion "Conditions" = some cond)
    (h : conditionsError cfg sec assertion = none) : ConditionsMet cfg sec cond := by
  rw [conditionsError, hcond] at h
  dsimp only at h
  have hskew := toNat_add_le sec.now cfg.clockSkewSec
  split at h
  · cases h
  · next hbefore =>
      split at h
      · cases h
      · next hend =>
          have haud : cfg.spEntityId = "" ∨ namesAudience cfg cond = true := by
            rw [namesAudience]
            cases har : childByLocal cond "AudienceRestriction" with
            | none => rw [har] at h; simpa using h
            | some ar => rw [har] at h; simpa [or_iff_not_imp_left] using h
          have hparse : ∀ (text : String) (t : ℤ), sec.strptime text = some t →
              ((parseIso8601 sec text).toNat : ℤ) = t % 2 ^ 64 := by
            intro text t ht
            rw [parseIso8601, ht, Option.getD_some, toNat_ofInt]
          refine ⟨haud.resolve_left, ?_, ?_, ?_⟩
          · intro t hlt hstated ht
            have hle : parseIso8601 sec (attr (some cond) "NotBefore") ≤
                sec.now + cfg.clockSkewSec := UInt64.not_lt.mp fun hgt => hbefore ⟨hstated, hgt⟩
            rw [UInt64.le_iff_toNat_le] at hle
            have hword := hparse _ _ ht
            omega
          · intro t hpos hstated ht
            have hle : sec.now ≤ parseIso8601 sec (attr (some cond) "NotOnOrAfter") +
                cfg.clockSkewSec := UInt64.not_lt.mp fun hgt => hend ⟨hstated, hgt⟩
            rw [UInt64.le_iff_toNat_le] at hle
            have hword := hparse _ _ ht
            have hsum := toNat_add_le (parseIso8601 sec (attr (some cond) "NotOnOrAfter"))
              cfg.clockSkewSec
            omega
          · intro hstated hnone
            have hle : sec.now ≤ parseIso8601 sec (attr (some cond) "NotOnOrAfter") +
                cfg.clockSkewSec := UInt64.not_lt.mp fun hgt => hend ⟨hstated, hgt⟩
            have hzero : parseIso8601 sec (attr (some cond) "NotOnOrAfter") = 0 := by
              rw [parseIso8601, hnone]
              rfl
            rwa [hzero, UInt64.zero_add] at hle

/-- **What the conditions of an accepted response say**: of the assertion that is read,
each part that is stated was checked. -/
theorem conditionsMet_of_success {cfg : Config} {sec : XmlSec} {response : List UInt8}
    (h : (verifyResponse cfg sec response).success = true) : ∃ xml doc assertion sig,
      base64Decode response = some xml ∧ sec.readMemory xml = some doc ∧
      verifySignature cfg sec doc = .ok (assertion, sig) ∧
      ∀ cond, childByLocal assertion "Conditions" = some cond → ConditionsMet cfg sec cond := by
  obtain ⟨xml, doc, assertion, sig, hdecode, hread, hsig, hresult⟩ := verifyResponse_success h
  refine ⟨xml, doc, assertion, sig, hdecode, hread, hsig, fun cond hcond => ?_⟩
  refine conditionsMet_of_conditionsError hcond ?_
  cases herror : conditionsError cfg sec assertion with
  | none => rfl
  | some error =>
      rw [hresult, checkAssertion, herror] at h
      dsimp only at h
      repeat' split at h
      all_goals cases h

namespace Window

open Response

/-- A response whose assertion has these nodes behind its signature. -/
def responseWith (conditions : Nodes) : Document where
  nodes := .element "Response" [] (.element "Assertion" [("ID", "good")]
    (leaf "Issuer" "idp" (signatureOver "#good" conditions)) .nil) .nil
  ids := ∅

/-- Conditions with the attributes and the audience, and the subject behind them. -/
def conditions (attrs : List (String × String)) (audience : String) : Nodes :=
  .element "Conditions" attrs
    (.element "AudienceRestriction" [] (leaf "Audience" audience .nil) .nil) (subject "alice")

/-- Libraries that read this document and find its signature good. Three texts
are times: a day before the epoch, and one and two days after it. -/
def libraries (doc : Document) : XmlSec where
  init := true
  readMemory := fun _ => some doc
  keysMngr := true
  certLoad := fun _ => true
  dsigCtx := true
  verify := fun _ _ _ => some true
  xpointer := fun _ _ _ => none
  strptime := fun text =>
    if text = "1969-12-31T00:00:00Z" then some (-86400)
    else if text = "1970-01-02T00:00:00Z" then some 86400
    else if text = "1970-01-03T00:00:00Z" then some 172800
    else none
  now := 100000

/-- The service provider by its identifier, and one without. -/
def named : Config := { enabled := true, idpEntityId := "idp", spEntityId := "sp" }

def unnamed : Config := { enabled := true, idpEntityId := "idp" }

/-- A window that the clock is in, stated in full. -/
def stated : List (String × String) :=
  [("NotBefore", "1970-01-02T00:00:00Z"), ("NotOnOrAfter", "1970-01-03T00:00:00Z")]

/-- The response has been accepted, with an assertion that states no window. -/
def acceptedUnstated (cfg : Config) (nodes : Nodes) : Bool :=
  let sec := libraries (responseWith nodes)
  (verifyResponse cfg sec (base64Encode [60])).success &&
    match verifySignature cfg sec (responseWith nodes) with
    | .ok (assertion, _) => !statesWindow cfg sec assertion
    | .error _ => false

end Window

open Window Response in
/-- A response that states all of it, and what was checked of it. -/
theorem conditionsMet_of_stated :
    ∃ assertion sig, verifySignature named (libraries (responseWith (conditions stated "sp")))
        (responseWith (conditions stated "sp")) = .ok (assertion, sig) ∧
      ∀ cond, childByLocal assertion "Conditions" = some cond →
        ConditionsMet named (libraries (responseWith (conditions stated "sp"))) cond := by
  have hsuccess : (verifyResponse named (libraries (responseWith (conditions stated "sp")))
      (base64Encode [60])).success = true := by decide +kernel
  obtain ⟨xml, doc, assertion, sig, -, hread, hsig, hmet⟩ := conditionsMet_of_success hsuccess
  obtain rfl : responseWith (conditions stated "sp") = doc := Option.some.inj hread
  exact ⟨assertion, sig, hsig, hmet⟩

open Window Response in
/-- **Windows that are not required**: without conditions; with an audience and no
window; with a window and no audience, for a service provider without an identifier;
with a start that is not a time; and with an end before the epoch. -/
theorem window_not_required :
    acceptedUnstated named (subject "alice") = true ∧
    acceptedUnstated named (conditions [] "sp") = true ∧
    acceptedUnstated unnamed (.element "Conditions" stated .nil (subject "alice")) = true ∧
    acceptedUnstated named (conditions [("NotBefore", "soon"),
      ("NotOnOrAfter", "1970-01-03T00:00:00Z")] "sp") = true ∧
    acceptedUnstated named (conditions [("NotBefore", "1970-01-02T00:00:00Z"),
      ("NotOnOrAfter", "1969-12-31T00:00:00Z")] "sp") = true := by
  decide +kernel

end Pretzel.Authd
