import Pretzel.Library.Ipv4
import Pretzel.Topologyd.InterfaceRows
import Pretzel.Topologyd.PeerNames

/-!
Which interfaces of a firewall are marked as its internet edge.

* `validV4`: a text that is an IPv4 address, with or without a prefix length.
  `PublicV4`: one outside the ranges that are not routed.
* `isPrivateV4_of_valid`: a valid address is private as its range is.
* `wanPublic_iff`: **an interface is marked `wan` only for a public address exactly when
  none has, beside private addresses, only texts that are no valid address**: such a
  text is taken for a public address.
-/

namespace Pretzel.Topologyd

open Nlohmann Texts

/-! ### Addresses -/

/-- A prefix length: a number up to 32. -/
def validPrefix (len : List Char) : Bool :=
  len ≠ [] && len.all Char.isDigit && len.foldl (fun n c => 10 * n + (c.toNat - 48)) 0 ≤ 32

/-- The address a text is, with or without a prefix length. -/
def validV4 (a : List Char) : Option Ipv4 :=
  match a.splitOn '/' with
  | [ip] => Ipv4.pton (String.ofList ip)
  | [ip, len] => if validPrefix len then Ipv4.pton (String.ofList ip) else none
  | _ => none

/-- The ranges that are not routed. -/
def privateRange (ip : Ipv4) : Bool :=
  ip.a.val = 10 || (ip.a.val = 172 && 16 ≤ ip.b.val && ip.b.val ≤ 31) ||
    (ip.a.val = 192 && ip.b.val = 168) || (ip.a.val = 100 && 64 ≤ ip.b.val && ip.b.val ≤ 127) ||
    (ip.a.val = 169 && ip.b.val = 254) || ip.a.val = 127

/-- The text is an address outside them. -/
def PublicV4 (a : List Char) : Prop := ∃ ip, validV4 a = some ip ∧ privateRange ip = false

/-- A number is not less than its first digit with zeros behind it. -/
lemma le_foldl_digits (l : List Char) (n : ℕ) :
    n * 10 ^ l.length ≤ l.foldl (fun n c => 10 * n + (c.toNat - 48)) n := by
  induction l generalizing n with
  | nil => simp
  | cons c l ih =>
      calc n * 10 ^ (c :: l).length = 10 * n * 10 ^ l.length := by
            rw [List.length_cons, pow_succ]
            ring
        _ ≤ (10 * n + (c.toNat - 48)) * 10 ^ l.length :=
            Nat.mul_le_mul_right _ (Nat.le_add_right _ _)
        _ ≤ (c :: l).foldl (fun n c => 10 * n + (c.toNat - 48)) n := ih _

/-- A digit that is not zero counts. -/
lemma one_le_of_isDigit {c : Char} (h : c.isDigit = true) (hzero : c ≠ '0') : 1 ≤ c.toNat - 48 := by
  have hval : c.val.toNat = c.toNat := rfl
  rw [Char.isDigit, Bool.and_eq_true, decide_eq_true_eq, decide_eq_true_eq] at h
  have hlow : 48 ≤ c.val.toNat := UInt32.le_iff_toNat_le.mp h.1
  have hne : c.val.toNat ≠ 48 := fun heq => hzero (Char.ext (UInt32.toNat_inj.mp heq))
  omega

/-- A number below 256 without a leading zero has three digits at most. -/
lemma length_le_three {text : List Char} (hall : text.all Char.isDigit = true)
    (hlead : text.head? = some '0' → text = ['0'])
    (hlt : text.foldl (fun n c => 10 * n + (c.toNat - 48)) 0 < 256) : text.length ≤ 3 := by
  cases text with
  | nil => simp
  | cons c rest =>
      by_contra hlong
      have hzero : c ≠ '0' := by
        rintro rfl
        have hone := congrArg List.length (hlead rfl)
        rw [List.length_singleton] at hone
        omega
      have hdigit : 1 ≤ c.toNat - 48 :=
        one_le_of_isDigit (List.all_eq_true.mp hall c List.mem_cons_self) hzero
      have hpow : 10 ^ 3 ≤ 10 ^ rest.length := by
        rw [List.length_cons] at hlong
        exact Nat.pow_le_pow_right (by norm_num) (by omega)
      have hvalue := le_foldl_digits rest (10 * 0 + (c.toNat - 48))
      rw [List.foldl_cons] at hlt
      nlinarith

lemma octet_of_octet {text : List Char} {n : Fin 256} (h : Ipv4.octet text = some n) :
    octet text = some n.val := by
  rw [Ipv4.octet] at h
  split at h
  · cases h
  · next hdigits =>
      dsimp only at h
      split at h
      · next hlt =>
          obtain rfl := Option.some.inj h
          obtain ⟨⟨hne, hdigit⟩, hlead⟩ : (text ≠ [] ∧ ∀ c ∈ text, c.isDigit = true) ∧
              (text.head? = some '0' → text = ['0']) := by simpa using hdigits
          have hall : text.all Char.isDigit = true := List.all_eq_true.mpr hdigit
          have hshort := length_le_three hall hlead hlt
          rw [octet, if_neg (by simp [hne, hall]; omega)]
          dsimp only
          rw [if_neg (by omega)]
      · cases h

lemma isDigit_of_octet {text : List Char} {n : Fin 256} (h : Ipv4.octet text = some n) :
    ∀ c ∈ text, c.isDigit = true := by
  rw [Ipv4.octet] at h
  split at h
  · cases h
  · next hdigits =>
      have hplain : (text ≠ [] ∧ ∀ c ∈ text, c.isDigit = true) ∧
          (text.head? = some '0' → text = ['0']) := by simpa using hdigits
      exact hplain.1.2

/-- The octets of an address are read as they are, and no port is looked for in it. -/
lemma octets_of_pton {s : List Char} {ip : Ipv4} (h : Ipv4.pton (String.ofList s) = some ip) :
    (s.splitOn '.').map octet = [some ip.a.val, some ip.b.val, some ip.c.val, some ip.d.val] ∧
      ':' ∉ s := by
  rw [Ipv4.pton, String.toList_ofList] at h
  split at h
  · next a b c d hmap =>
      cases h
      obtain ⟨t, r, hsplit, ht, hmap⟩ := List.map_eq_cons_iff.mp hmap
      obtain ⟨u, r, rfl, hu, hmap⟩ := List.map_eq_cons_iff.mp hmap
      obtain ⟨v, r, rfl, hv, hmap⟩ := List.map_eq_cons_iff.mp hmap
      obtain ⟨w, r, rfl, hw, hmap⟩ := List.map_eq_cons_iff.mp hmap
      obtain rfl := List.map_eq_nil_iff.mp hmap
      refine ⟨by simp [hsplit, octet_of_octet ht, octet_of_octet hu, octet_of_octet hv,
        octet_of_octet hw], fun hcolon => ?_⟩
      rcases mem_of_splitOn '.' hcolon with hdot | ⟨l, hl, hmem⟩
      · exact absurd hdot (by decide)
      · have hdigit : ∀ n, Ipv4.octet l = some n → False := fun n hn =>
          absurd (isDigit_of_octet hn ':' hmem) (by decide)
        rw [hsplit] at hl
        simp only [List.mem_cons, List.not_mem_nil, or_false] at hl
        rcases hl with rfl | rfl | rfl | rfl
        · exact hdigit _ ht
        · exact hdigit _ hu
        · exact hdigit _ hv
        · exact hdigit _ hw
  · cases h

/-- What stands before a prefix length is read. -/
lemma isPrivateV4_of_pton {a s : List Char} {ip : Ipv4} (htake : a.takeWhile (· ≠ '/') = s)
    (h : Ipv4.pton (String.ofList s) = some ip) : isPrivateV4 a = privateRange ip := by
  obtain ⟨hoctets, hcolon⟩ := octets_of_pton h
  have hbare : bareHost a = s := by
    rw [bareHost, htake]
    exact if_neg fun hport => by simp [List.count_eq_zero.mpr hcolon] at hport
  rw [isPrivateV4, parseV4, hbare, hoctets]
  rfl

/-- **A valid address is private as its range is.** -/
theorem isPrivateV4_of_valid {a : List Char} {ip : Ipv4} (h : validV4 a = some ip) :
    isPrivateV4 a = privateRange ip := by
  have hjoin : ['/'].intercalate (a.splitOn '/') = a := List.intercalate_splitOn '/'
  have hne : ∀ l ∈ a.splitOn '/', '/' ∉ l := fun l hl => not_mem_of_mem_splitOn hl
  rw [validV4] at h
  split at h
  · next s hsplit =>
      rw [hsplit, List.intercalate_singleton] at hjoin
      refine isPrivateV4_of_pton ?_ h
      rw [← hjoin]
      exact takeWhile_ne_eq_self_iff.mpr (hne s (by simp [hsplit]))
  · next s len hsplit =>
      split at h
      · rw [hsplit, List.intercalate_cons_cons, List.intercalate_singleton] at hjoin
        refine isPrivateV4_of_pton ?_ h
        rw [← hjoin, List.append_assoc]
        exact (takeWhile_split (hne s (by simp [hsplit])) len).1
      · cases h
  · cases h

/-! ### Roles -/

section Roles

variable {dump : Json → String} {fw : Device} {docs : Docs} {m : Ngfw}

/-- An interface that is named as a port is, with an address that is no private one. -/
def UnnamedPublic (dump : Json → String) (e : Json) : Prop :=
  ¬"loopback".toList <+: (result (str dump e "@name")).toList ∧
    ¬"tunnel".toList <+: (result (str dump e "@name")).toList ∧
    ∃ a ∈ result (interfaceAddresses dump e), isPrivateV4 a.toList = false

/-- Each row that is marked `wan` has a public address. -/
def WanPublic (acc : Interfaces) : Prop :=
  ∀ row ∈ acc.list, row.role = "wan" → ∃ a ∈ row.addresses, PublicV4 a.toList

lemma interfaceRole_eq_wan_iff {name : String} {addrs : List String} {terminates : Bool} :
    ifRoleName (interfaceRole name addrs terminates) = "wan" ↔
      ¬"loopback".toList <+: name.toList ∧ ¬"tunnel".toList <+: name.toList ∧
        ∃ a ∈ addrs, isPrivateV4 a.toList = false := by
  rw [interfaceRole]
  split_ifs with hloop htunnel haddrs hpublic hterm hterm <;> simp_all [ifRoleName]

/-- **An interface is marked `wan` only for a public address exactly when each that has an
address that is no private one has a public one.** -/
theorem wanPublic_iff (h : compose dump fw docs = .ok m) :
    WanPublic m.interfaces ↔ ∀ e ∈ entries docs.ifDoc, e.isObject = true →
      UnnamedPublic dump e → ∃ a ∈ result (interfaceAddresses dump e), PublicV4 a.toList := by
  obtain ⟨vpnOn, gpOn, hinterfaces⟩ := interfaces_of_compose h
  have hlist : m.interfaces.list = (objects docs.ifDoc).map (interfaceRow dump vpnOn gpOn) ++
      (objects docs.tunIfDoc).map (tunnelInterfaceRow dump) := by
    rw [hinterfaces, appendTunnels_eq, list_countedInterfaces]
  have hwan : ∀ e, (interfaceRow dump vpnOn gpOn e).role = "wan" ↔ UnnamedPublic dump e :=
    fun e => interfaceRole_eq_wan_iff
  rw [WanPublic, hlist]
  constructor
  · intro hrows e he hobj hpublic
    have hmem : e ∈ objects docs.ifDoc := List.mem_filter.mpr ⟨he, hobj⟩
    exact hrows _ (List.mem_append_left _ (List.mem_map_of_mem hmem)) ((hwan e).mpr hpublic)
  · intro hentries row hrow hrole
    rcases List.mem_append.mp hrow with hrow | hrow
    · obtain ⟨e, he, rfl⟩ := List.mem_map.mp hrow
      obtain ⟨he, hobj⟩ := List.mem_filter.mp he
      exact hentries e he hobj ((hwan e).mp hrole)
    · obtain ⟨e, -, rfl⟩ := List.mem_map.mp hrow
      have htunnel : (tunnelInterfaceRow dump e).role = "tunnel" := by rw [tunnelInterfaceRow_eq]
      rw [htunnel] at hrole
      exact absurd hrole (by decide)

end Roles

/-- A port with the name of an address object. -/
def namedPort : Docs where
  ifDoc := .obj [("entry", .obj [("@name", .str "ethernet1/1"),
    ("layer3", .obj [("ip", .obj [("entry", .obj [("@name", .str "lan-gateway")])])])])]

/-- A port with a public address. -/
def publicPort : Docs where
  ifDoc := .obj [("entry", .obj [("@name", .str "ethernet1/1"),
    ("layer3", .obj [("ip", .obj [("entry", .obj [("@name", .str "1.214.192.59/28")])])])])]

theorem wanPublic_iff_of_publicPort :
    (∃ m, compose (fun _ => "") ⟨"fw", "fw", ""⟩ publicPort = .ok m) ∧
    ∀ m, compose (fun _ => "") ⟨"fw", "fw", ""⟩ publicPort = .ok m →
      (WanPublic m.interfaces ↔ ∀ e ∈ entries publicPort.ifDoc, e.isObject = true →
        UnnamedPublic (fun _ => "") e →
          ∃ a ∈ result (interfaceAddresses (fun _ => "") e), PublicV4 a.toList) :=
  ⟨⟨_, rfl⟩, fun _ h => wanPublic_iff h⟩

/-- **The name of an address object makes an interface the internet edge.** -/
theorem namedPort_wan :
    ∃ m, compose (fun _ => "") ⟨"fw", "fw", ""⟩ namedPort = .ok m ∧ ¬WanPublic m.interfaces := by
  refine ⟨_, rfl, fun hpublic => ?_⟩
  obtain ⟨a, ha, ip, hvalid, -⟩ := hpublic _ List.mem_cons_self (by decide)
  have hname : a = "lan-gateway" := List.mem_singleton.mp ha
  have hnone : validV4 "lan-gateway".toList = none := by decide
  rw [hname, hnone] at hvalid
  cases hvalid

end Pretzel.Topologyd
