import Pretzel.Authd.OktaClient
import Pretzel.Collectord.ConnectorController
import Pretzel.Collectord.SaseHealth
import Pretzel.Library.HostPort

/-!
The hosts and the ports of the targets, as the collector and authd read them.

* `hostportOf`, `httpsHostport`: the part of a target that names a host and a port.
* `SplitRight`, `UrlRight`, `IssuerRight`: `splitHostPath`, `parseUrl` and `parseIssuer`
  take a port off that part only where digits alone stand behind a colon, and their value
  is a port; or keep its text, or refuse it.
* `Exact`: a text that `std::stoi` refuses, or that is a port and nothing else.
* **`targets_separated_iff`**: the texts each parser reads rightly.
* `ports_misread`: a port beyond 65535, an IPv6 address, and what follows a number.
-/

namespace Pretzel.Fleet

open Nlohmann Texts Collectord Authd Authd.OktaClient

/-! ### Targets -/

/-- The host and the port of a target that may have a scheme and a path. -/
def hostportOf (urlish : String) : List Char :=
  ((afterFirst "://".toList urlish.toList).getD urlish.toList).takeWhile (· ≠ '/')

/-- The host and the port of an `https` URL. -/
def httpsHostport (url : String) : List Char := (url.toList.drop 8).takeWhile (· ≠ '/')

/-- `splitHostPath` reads a target rightly, whatever the default host is, which stands for
an empty one. -/
def SplitRight (urlish : String) : Prop :=
  ∀ defaultHost defaultPath, ∃ host,
    Separated 443 (hostportOf urlish) host (splitHostPath urlish defaultHost defaultPath).port ∧
    (splitHostPath urlish defaultHost defaultPath).host =
      if host = [] then defaultHost else String.ofList host

/-- `parseUrl` reads a URL rightly, or refuses it. -/
def UrlRight (url : String) : Prop :=
  ∀ u, parseUrl url = some u → Separated 443 (httpsHostport url) u.host.toList u.port

/-- `parseIssuer` reads an issuer rightly, or refuses it; no exception leaves it. -/
def IssuerRight (issuer : String) : Prop :=
  match parseIssuer issuer with
  | .error _ => False
  | .ok none => True
  | .ok (some ep) => Separated 443 (httpsHostport issuer) ep.host.toList ep.port

/-! ### The texts that are read rightly -/

/-- `std::stoi` refuses the text, or it is a port and nothing else. -/
def Exact (rest : List Char) : Prop := stoi rest = none ∨ IsPort rest

instance (rest : List Char) : Decidable (Exact rest) := inferInstanceAs (Decidable (_ ∨ _))

/-- What stands behind the last colon is exact, and no IPv6 address ends in a port. -/
def LastColonExact (text : List Char) : Prop :=
  ∀ host rest, text = host ++ ':' :: rest → ':' ∉ rest →
    stoi rest = none ∨ IsPort rest ∧ isIpv6 text = false

/-- What stands behind the only colon is exact, unless a bracket opens the text. -/
def OnlyColonExact (text : List Char) : Prop :=
  text.head? ≠ some '[' → ∀ host rest, text = host ++ ':' :: rest → ':' ∉ host → ':' ∉ rest →
    Exact rest

/-- What stands behind the first colon of an `https` URL is exact, or no host stands
before it. -/
def UrlExact (url : String) : Prop :=
  "https://".toList <+: url.toList → ∀ host rest, httpsHostport url = host ++ ':' :: rest →
    ':' ∉ host → Exact rest ∨ host = []

/-- What stands behind the first colon of an `https` issuer is a port, or a number without
a host before it. -/
def IssuerExact (issuer : String) : Prop :=
  "https://".toList <+: issuer.toList → ∀ host rest, httpsHostport issuer = host ++ ':' :: rest →
    ':' ∉ host → IsPort rest ∨ host = [] ∧ stoi rest ≠ none

/-! ### One colon -/

variable {text host rest : List Char} {port : ℕ}

/-- **A number taken for a port** is one rightly where it is a port. -/
lemma separated_taken_iff (hport : portOf rest = some port) :
    Separated 443 (host ++ ':' :: rest) host port ↔
      IsPort rest ∧ isIpv6 (host ++ ':' :: rest) = false := by
  rw [separated_iff]
  refine and_congr_left fun _ => ⟨And.left, fun h => ⟨h, ?_⟩⟩
  rw [portOf_digits h] at hport
  exact Option.some.inj hport

/-- With one colon the text is no address. -/
lemma isIpv6_of_one_colon (hhost : ':' ∉ host) (hrest : ':' ∉ rest) :
    isIpv6 (host ++ ':' :: rest) = false := by
  rw [← Bool.not_eq_true]
  intro haddress
  have htwo := two_le_count_of_isIpv6 haddress
  rw [List.count_append, List.count_cons_self, List.count_eq_zero_of_not_mem hhost,
    List.count_eq_zero_of_not_mem hrest] at htwo
  omega

/-- **Behind the first colon**: no port has a colon. -/
lemma separated_first_iff (hhost : ':' ∉ host) (hport : portOf rest = some port) :
    Separated 443 (host ++ ':' :: rest) host port ↔ IsPort rest := by
  rw [separated_taken_iff hport]
  exact and_iff_left_of_imp fun h => isIpv6_of_one_colon hhost (h.not_mem rfl)

/-! ### `splitHostPath` -/

/-- What `splitHostPath` makes of the part that names a host and a port. -/
def lastColon (hostport : List Char) : List Char × ℕ :=
  match splitLast ':' hostport with
  | none => (hostport, 443)
  | some (host, text) =>
      match portOf text with
      | none => (hostport, 443)
      | some port => (host, port)

lemma splitHostPath_eq (urlish defaultHost defaultPath : String) :
    (splitHostPath urlish defaultHost defaultPath).port = (lastColon (hostportOf urlish)).2 ∧
      (splitHostPath urlish defaultHost defaultPath).host =
        if (lastColon (hostportOf urlish)).1 = [] then defaultHost
        else String.ofList (lastColon (hostportOf urlish)).1 := by
  rw [splitHostPath]
  split
  · next hempty =>
      rw [hempty]
      exact ⟨rfl, rfl⟩
  · exact ⟨rfl, rfl⟩

/-- **What stands behind the last colon.** -/
lemma separated_lastColon_iff :
    Separated 443 text (lastColon text).1 (lastColon text).2 ↔ LastColonExact text := by
  rw [lastColon]
  cases hsplit : splitLast ':' text with
  | none =>
      refine iff_of_true Separated.whole fun host rest htext _ => ?_
      exact absurd (by rw [htext]; simp) (splitLast_eq_none_iff.mp hsplit)
  | some p =>
      obtain ⟨host, rest⟩ := p
      obtain ⟨htext, hrest⟩ := splitLast_eq_some_iff.mp hsplit
      have hexact : LastColonExact text ↔ stoi rest = none ∨ IsPort rest ∧ isIpv6 text = false := by
        rw [LastColonExact, htext]
        exact forall_last_iff hrest
      rw [hexact, ← portOf_eq_none_iff]
      dsimp only
      cases hport : portOf rest with
      | none => exact iff_of_true Separated.whole (.inl rfl)
      | some port =>
          have hnone : ¬(some port = none) := Option.some_ne_none port
          rw [or_iff_right hnone, htext]
          exact separated_taken_iff hport

lemma splitRight_iff (urlish : String) :
    SplitRight urlish ↔ LastColonExact (hostportOf urlish) := by
  rw [← separated_lastColon_iff]
  constructor
  · intro h
    -- An empty default host leaves the host as it was read.
    obtain ⟨host, hseparated, hhost⟩ := h "" "/"
    have hplain : ∀ l : List Char, (if l = [] then "" else String.ofList l) = String.ofList l := by
      intro l
      split
      · next hnil => rw [hnil]
      · rfl
    obtain ⟨hport, hread⟩ := splitHostPath_eq urlish "" "/"
    rw [hread, hplain, hplain] at hhost
    rw [hport] at hseparated
    rw [String.ofList_injective hhost]
    exact hseparated
  · intro h defaultHost defaultPath
    obtain ⟨hport, hread⟩ := splitHostPath_eq urlish defaultHost defaultPath
    rw [hport, hread]
    exact ⟨_, h, rfl⟩

/-! ### `parseTestTarget` and `resolveDevice` -/

/-- **What stands behind the only colon.** -/
lemma separated_hostAndPort_iff (target : String) :
    Separated 443 target.toList (hostAndPort target).1.toList (hostAndPort target).2 ↔
      OnlyColonExact target.toList := by
  rw [hostAndPort]
  cases hsplit : splitLast ':' target.toList with
  | none =>
      refine iff_of_true Separated.whole fun _ host rest htext _ _ => ?_
      exact absurd (by rw [htext]; simp) (splitLast_eq_none_iff.mp hsplit)
  | some p =>
      obtain ⟨host, rest⟩ := p
      obtain ⟨htext, hrest⟩ := splitLast_eq_some_iff.mp hsplit
      dsimp only
      split
      · next hkept =>
          refine iff_of_true Separated.whole fun hbracket host' rest' htext' hhost' hrest' => ?_
          have hplace := (splitLast_eq_some_iff.mpr ⟨htext', hrest'⟩).symm.trans hsplit
          cases hplace
          simp [hbracket, hhost'] at hkept
      · next hopen =>
          have hbracket : target.toList.head? ≠ some '[' := by
            intro h
            simp [h] at hopen
          have hhost : ':' ∉ host := by
            intro h
            simp [h] at hopen
          have hexact : OnlyColonExact target.toList ↔ Exact rest := by
            rw [OnlyColonExact, imp_iff_right hbracket, htext]
            exact (forall_first_iff hhost).trans (imp_iff_right hrest)
          rw [hexact, Exact, ← portOf_eq_none_iff]
          cases hport : portOf rest with
          | none => exact iff_of_true Separated.whole (.inl rfl)
          | some port =>
              rw [or_iff_right (Option.some_ne_none port), String.toList_ofList, htext]
              exact separated_first_iff hhost hport

/-- The target of a test is read by `hostAndPort`. -/
lemma target_parseTestTarget {body : Json} {t : TestTarget} (h : parseTestTarget body = .ok t) :
    (t.host, t.port) = hostAndPort (body.textOr "target" "") := by
  obtain ⟨target, htarget, h⟩ := except_bind_eq_ok.mp h
  obtain ⟨fingerprint, -, h⟩ := except_bind_eq_ok.mp h
  obtain ⟨secrets, -, h⟩ := except_bind_eq_ok.mp h
  obtain ⟨username, -, h⟩ := except_bind_eq_ok.mp h
  rw [Json.textOr_of_valueString htarget]
  by_cases hobject : secrets.isObject = true
  · rw [if_pos hobject] at h
    repeat obtain ⟨_, -, h⟩ := except_bind_eq_ok.mp h
    cases h
    rfl
  · rw [if_neg hobject] at h
    repeat obtain ⟨_, -, h⟩ := except_bind_eq_ok.mp h
    cases h
    rfl

/-- An entry of the inventory is the device of an object. -/
def deviceNamed (objectOid : String) (d : Json) : Bool :=
  d.isObject && d.textOr "oid" "" = objectOid

/-- The device that is found is the first of its object, and its target is read by
`hostAndPort`. -/
lemma target_findDevice {objectOid : String} {devices : List Json} {device : Device}
    (h : findDevice objectOid devices = .ok (some device)) :
    ∃ d, devices.find? (deviceNamed objectOid) = some d ∧
      (device.host, device.port) = hostAndPort (d.textOr "target" "") := by
  induction devices with
  | nil => cases h
  | cons d devices ih =>
      rw [findDevice] at h
      split at h
      · next hobject =>
          obtain ⟨found, hfound, htarget⟩ := ih h
          refine ⟨found, ?_, htarget⟩
          rw [List.find?_cons_of_neg (by simp [deviceNamed, hobject]), hfound]
      · next hobject =>
          obtain ⟨oid, hoid, h⟩ := except_bind_eq_ok.mp h
          have hname := Json.textOr_of_valueString hoid
          split at h
          · next hother =>
              obtain ⟨found, hfound, htarget⟩ := ih h
              refine ⟨found, ?_, htarget⟩
              rw [List.find?_cons_of_neg (by simp [deviceNamed, hname, hother]), hfound]
          · next hsame =>
              obtain ⟨target, htarget, h⟩ := except_bind_eq_ok.mp h
              refine ⟨d, ?_, ?_⟩
              · rw [List.find?_cons_of_pos]
                rw [not_not] at hsame
                simpa [deviceNamed, hname, hsame] using hobject
              · rw [Json.textOr_of_valueString htarget]
                split at h
                · cases h
                · obtain ⟨fingerprint, -, h⟩ := except_bind_eq_ok.mp h
                  cases h
                  rfl

/-- The devices of a site, of both kinds. -/
def devicesOf (site : Json) : List Json :=
  site.elementsAt "ngfw_devices" ++ site.elementsAt "sase_devices"

lemma target_resolveDevice {site : Json} {objectOid : String} {device : Device}
    (h : resolveDevice site objectOid = .ok (some device)) :
    ∃ d, (devicesOf site).find? (deviceNamed objectOid) = some d ∧
      (device.host, device.port) = hostAndPort (d.textOr "target" "") := by
  obtain ⟨ngfw, hngfw, h⟩ := except_bind_eq_ok.mp h
  obtain ⟨sase, hsase, h⟩ := except_bind_eq_ok.mp h
  have helements : ∀ key v, site.valueJson key (.arr []) = .ok v →
      v.elements = site.elementsAt key := by
    intro key v hv
    have hobject : site.isObject = true := by
      cases site with
      | obj ms => rfl
      | _ => cases hv
    rw [Json.valueJson_of_isObject hobject] at hv
    cases hv
    rfl
  rw [devicesOf, ← helements _ _ hngfw, ← helements _ _ hsase]
  exact target_findDevice h

/-! ### `parseUrl` and `parseIssuer` -/

/-- A text has no colon, or stands around its first one. -/
lemma first_colon (text : List Char) :
    ':' ∉ text ∨ ∃ host rest, text = host ++ ':' :: rest ∧ ':' ∉ host := by
  by_cases h : ':' ∈ text
  · exact .inr (List.eq_append_cons_of_mem h)
  · exact .inl h

/-- An issuer without a port. -/
lemma parseIssuer_of_no_colon {issuer : String} (hscheme : "https://".toList <+: issuer.toList)
    (h : ':' ∉ httpsHostport issuer) :
    parseIssuer issuer = .ok none ∨ ∃ basePath, parseIssuer issuer =
      .ok (some { host := String.ofList (httpsHostport issuer), basePath }) := by
  have htake := takeWhile_ne_eq_self_iff.mpr h
  have hdrop := List.dropWhile_eq_nil_iff.mpr (decide_ne_of_not_mem h)
  rw [httpsHostport] at htake hdrop
  rw [parseIssuer, List.isPrefixOf_iff_prefix.mpr hscheme]
  simp only [Bool.not_true, Bool.false_eq_true, if_false, htake, hdrop]
  split
  · exact .inl rfl
  · exact .inr ⟨_, rfl⟩

/-- An issuer with a colon. -/
lemma parseIssuer_of_colon {issuer : String} (hscheme : "https://".toList <+: issuer.toList)
    (htext : httpsHostport issuer = host ++ ':' :: rest) (hhost : ':' ∉ host) :
    (portOf rest = none ∧ parseIssuer issuer = .error .stoi) ∨
      ∃ port, portOf rest = some port ∧ (host = [] ∧ parseIssuer issuer = .ok none ∨
        host ≠ [] ∧ ∃ basePath,
          parseIssuer issuer = .ok (some { host := String.ofList host, port, basePath })) := by
  obtain ⟨htake, hdrop⟩ := takeWhile_split hhost rest
  rw [httpsHostport] at htext
  rw [parseIssuer, List.isPrefixOf_iff_prefix.mpr hscheme]
  simp only [Bool.not_true, Bool.false_eq_true, if_false, htext, htake, hdrop]
  cases portOf rest with
  | none => exact .inl ⟨rfl, rfl⟩
  | some port =>
      refine .inr ⟨port, rfl, ?_⟩
      dsimp only [Option.elim_some]
      split
      · next hempty => exact .inl ⟨hempty, rfl⟩
      · next hempty => exact .inr ⟨hempty, _, rfl⟩

lemma issuerRight_iff (issuer : String) : IssuerRight issuer ↔ IssuerExact issuer := by
  by_cases hscheme : "https://".toList <+: issuer.toList
  · rcases first_colon (httpsHostport issuer) with hnone | ⟨host, rest, htext, hhost⟩
    · refine iff_of_true ?_ fun _ host rest htext _ => absurd (by rw [htext]; simp) hnone
      rw [IssuerRight]
      rcases parseIssuer_of_no_colon hscheme hnone with h | ⟨basePath, h⟩ <;> rw [h]
      · trivial
      · dsimp only
        rw [String.toList_ofList]
        exact Separated.whole
    · have hexact : IssuerExact issuer ↔ IsPort rest ∨ host = [] ∧ stoi rest ≠ none := by
        rw [IssuerExact, imp_iff_right hscheme, htext]
        exact forall_first_iff hhost
      rw [hexact, ← portOf_eq_none_iff.ne, IssuerRight]
      rcases parseIssuer_of_colon hscheme htext hhost with
        ⟨hport, h⟩ | ⟨port, hport, ⟨hempty, h⟩ | ⟨hempty, basePath, h⟩⟩ <;> rw [h]
      · refine iff_of_false not_false ?_
        rintro (hdigits | ⟨-, hsome⟩)
        · rw [portOf_digits hdigits] at hport
          cases hport
        · exact hsome hport
      · refine iff_of_true trivial (.inr ⟨hempty, ?_⟩)
        rw [hport]
        exact Option.some_ne_none port
      · dsimp only
        rw [String.toList_ofList, htext, separated_first_iff hhost hport]
        exact (or_iff_left fun h => hempty h.1).symm
  · refine iff_of_true ?_ fun h => absurd h hscheme
    have hfront : "https://".toList.isPrefixOf issuer.toList = false := by
      rw [← Bool.not_eq_true, List.isPrefixOf_iff_prefix]
      exact hscheme
    rw [IssuerRight, parseIssuer, hfront]
    trivial

/-- A URL with a colon. -/
lemma parseUrl_of_colon {url : String} (hscheme : "https://".toList <+: url.toList)
    (htext : httpsHostport url = host ++ ':' :: rest) (hhost : ':' ∉ host) :
    (parseUrl url = none ∧ (portOf rest = none ∨ host = [])) ∨
      ∃ port path, portOf rest = some port ∧ host ≠ [] ∧
        parseUrl url = some { host := String.ofList host, port, path } := by
  obtain ⟨htake, hdrop⟩ := takeWhile_split hhost rest
  have hcolon : ':' ∈ host ++ ':' :: rest := by simp
  rw [httpsHostport] at htext
  rw [parseUrl, List.isPrefixOf_iff_prefix.mpr hscheme]
  simp only [if_true, htext, htake, hdrop, if_pos hcolon, List.tail_cons]
  cases portOf rest with
  | none => exact .inl ⟨rfl, .inl rfl⟩
  | some port =>
      simp only [Option.map_some, Option.bind_some]
      split
      · next hempty => exact .inl ⟨rfl, .inr hempty⟩
      · next hempty => exact .inr ⟨port, _, rfl, hempty, rfl⟩

lemma urlRight_iff (url : String) : UrlRight url ↔ UrlExact url := by
  by_cases hscheme : "https://".toList <+: url.toList
  · rcases first_colon (httpsHostport url) with hnone | ⟨host, rest, htext, hhost⟩
    · refine iff_of_true (fun u hu => ?_) fun _ host rest htext _ =>
        absurd (by rw [htext]; simp) hnone
      have hcolon := hnone
      rw [httpsHostport] at hcolon
      rw [parseUrl, List.isPrefixOf_iff_prefix.mpr hscheme] at hu
      simp only [if_true, if_neg hcolon, Option.bind_some] at hu
      split at hu
      · cases hu
      · cases hu
        rw [String.toList_ofList]
        exact Separated.whole
    · have hexact : UrlExact url ↔ Exact rest ∨ host = [] := by
        rw [UrlExact, imp_iff_right hscheme, htext]
        exact forall_first_iff hhost
      rw [hexact, Exact, ← portOf_eq_none_iff, UrlRight]
      rcases parseUrl_of_colon hscheme htext hhost with
        ⟨h, hrefused⟩ | ⟨port, path, hport, hhost', h⟩
      · refine iff_of_true (fun u hu => ?_) (hrefused.imp_left .inl)
        rw [h] at hu
        cases hu
      · rw [h, hport, or_iff_right (Option.some_ne_none port), or_iff_left hhost',
          ← separated_first_iff hhost hport, htext]
        constructor
        · intro hall
          have hright := hall _ rfl
          rw [String.toList_ofList] at hright
          exact hright
        · rintro hright u ⟨⟩
          rw [String.toList_ofList]
          exact hright
  · refine iff_of_true (fun u hu => ?_) fun h => absurd h hscheme
    have hfront : "https://".toList.isPrefixOf url.toList = false := by
      rw [← Bool.not_eq_true, List.isPrefixOf_iff_prefix]
      exact hscheme
    rw [parseUrl, hfront] at hu
    cases hu

/-! ### Every parser -/

/-- **The texts that are read rightly.** `splitHostPath` goes by the last colon,
`parseTestTarget` and `resolveDevice` by the only one, `parseUrl` and `parseIssuer` by the
first; whatever a number stands in front of is taken for a port, and cut to 16 bits. -/
theorem targets_separated_iff (text : String) :
    (SplitRight text ↔ LastColonExact (hostportOf text)) ∧
    (∀ body t, body.textOr "target" "" = text → parseTestTarget body = .ok t →
      (Separated 443 text.toList t.host.toList t.port ↔ OnlyColonExact text.toList)) ∧
    (∀ site objectOid device, resolveDevice site objectOid = .ok (some device) →
      ∃ d, (devicesOf site).find? (deviceNamed objectOid) = some d ∧
        (d.textOr "target" "" = text →
          (Separated 443 text.toList device.host.toList device.port ↔
            OnlyColonExact text.toList))) ∧
    (UrlRight text ↔ UrlExact text) ∧ (IssuerRight text ↔ IssuerExact text) := by
  refine ⟨splitRight_iff text, fun body t htext h => ?_, fun site objectOid device h => ?_,
    urlRight_iff text, issuerRight_iff text⟩
  · obtain ⟨hhost, hport⟩ := Prod.ext_iff.mp (target_parseTestTarget h)
    dsimp only at hhost hport
    rw [hhost, hport, htext]
    exact separated_hostAndPort_iff text
  · obtain ⟨d, hfound, htarget⟩ := target_resolveDevice h
    obtain ⟨hhost, hport⟩ := Prod.ext_iff.mp htarget
    dsimp only at hhost hport
    refine ⟨d, hfound, fun htext => ?_⟩
    rw [hhost, hport, htext]
    exact separated_hostAndPort_iff text

/-- The only colon of `10.0.0.1:8443` has a port behind it. -/
lemma onlyColonExact_port : OnlyColonExact "10.0.0.1:8443".toList := by
  have hsplit : "10.0.0.1:8443".toList = "10.0.0.1".toList ++ ':' :: "8443".toList := by
    decide
  intro _
  rw [hsplit]
  refine (forall_first_iff (by decide)).mpr fun _ => ?_
  exact .inr (by decide)

/-- The law on a test and on a poll of a device at `10.0.0.1:8443`. -/
theorem targets_separated_iff_port :
    Separated 443 "10.0.0.1:8443".toList "10.0.0.1".toList 8443 ∧
      ∃ device, resolveDevice (.obj [("ngfw_devices", .arr [.obj [("oid", .str "d"),
          ("target", .str "10.0.0.1:8443")]])]) "d" = .ok (some device) ∧
        Separated 443 "10.0.0.1:8443".toList device.host.toList device.port := by
  have htest : parseTestTarget (.obj [("target", .str "10.0.0.1:8443")]) =
      .ok ⟨"10.0.0.1", 8443, "", [], [], "", "", "ngfw"⟩ := by
    decide +kernel
  have hdevice : resolveDevice (.obj [("ngfw_devices", .arr [.obj [("oid", .str "d"),
      ("target", .str "10.0.0.1:8443")]])]) "d" = .ok (some ⟨"10.0.0.1", 8443, ""⟩) := by
    decide +kernel
  refine ⟨?_, _, hdevice, ?_⟩
  · exact ((targets_separated_iff "10.0.0.1:8443").2.1 _ _ rfl htest).mpr onlyColonExact_port
  · obtain ⟨d, hfound, hiff⟩ := (targets_separated_iff "10.0.0.1:8443").2.2.1 _ _ _ hdevice
    cases hfound
    exact (hiff rfl).mpr onlyColonExact_port

/-- A test at `10.0.0.1:65979` goes to port 443, the address `2001:db8::1` loses its last
group to the port, and what follows the digits of an issuer's port is let go. -/
theorem ports_misread :
    ¬(∀ body t, parseTestTarget body = .ok t →
      Separated 443 (body.textOr "target" "").toList t.host.toList t.port) ∧
    ¬(∀ urlish, SplitRight urlish) ∧ ¬(∀ issuer, IssuerRight issuer) := by
  refine ⟨fun h => ?_, fun h => ?_, fun h => ?_⟩
  · have hright := h (.obj [("target", .str "10.0.0.1:65979")]) _ rfl
    have hexact := (separated_hostAndPort_iff "10.0.0.1:65979").mp hright
    exact absurd (hexact (by decide +kernel) "10.0.0.1".toList "65979".toList (by decide +kernel)
      (by decide +kernel) (by decide +kernel)) (by decide +kernel)
  · have hexact := (splitRight_iff "https://2001:db8::1/token").mp (h _)
    exact absurd (hexact "2001:db8:".toList "1".toList (by decide +kernel) (by decide +kernel))
      (by decide +kernel)
  · have hexact := (issuerRight_iff "https://okta:8443x").mp (h _)
    exact absurd (hexact (by decide +kernel) "okta".toList "8443x".toList (by decide +kernel)
      (by decide +kernel)) (by decide +kernel)

end Pretzel.Fleet
