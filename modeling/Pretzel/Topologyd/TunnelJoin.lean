import Pretzel.Topologyd.TopologyService

/-!
The tunnels of a composed firewall, joined to the gateways they name.

* `lookup_foldl`: a map that is filled in a loop holds the last of each key.
* `JoinComplete`: a gateway whose peer is known is linked by a tunnel that names it, and a
  tunnel that names one has the peer of one it names.
* `Joined`: what that takes: a tunnel is found by its gateways' names joined to one text.
* `joinComplete_iff`: **the join is complete exactly when the joined texts lead to it.**
  `joined_of_single`: they do where no tunnel names two gateways.
-/

namespace Pretzel.Topologyd

open Nlohmann

/-! ### Maps -/

/-- A map that is filled in a loop holds the last of each key. -/
lemma lookup_foldl {α β : Type} (key : α → String) (val : α → β) (p : α → Bool) (l : List α)
    (m : List (String × β)) (k : String) :
    (l.foldl (fun m a => if p a then (key a, val a) :: m else m) m).lookup k =
      ((l.filter fun a => p a && key a = k).getLast?.map val).or (m.lookup k) := by
  induction l generalizing m with
  | nil => rfl
  | cons a l ih =>
      rw [List.foldl_cons, ih, List.filter_cons]
      by_cases hp : p a = true
      · by_cases hkey : key a = k
        · have hlookup : List.lookup k ((key a, val a) :: m) = some (val a) := by
            rw [hkey, List.lookup_cons_self]
          rw [if_pos hp, if_pos (by simp [hp, hkey]), hlookup, List.getLast?_cons]
          cases (l.filter fun a => p a && key a = k).getLast? <;> simp
        · have hne : (k == key a) = false := beq_eq_false_iff_ne.mpr (Ne.symm hkey)
          rw [if_pos hp, if_neg (by simp [hkey]), List.lookup_cons, hne]
      · rw [if_neg hp, if_neg (by simp [hp])]

/-- The last gateway of a name. -/
def lastNamed (gws : List IkeGateway) (name : String) : Option IkeGateway :=
  (gws.filter fun g => g.name = name).getLast?

/-- The last tunnel whose gateways are joined to a text that is not empty. -/
def lastJoined (ts : List TunnelEntry) (text : String) : Option TunnelEntry :=
  (ts.filter fun t => joinTexts t.gateways ≠ "" && joinTexts t.gateways = text).getLast?

lemma lookup_byName (gws : List IkeGateway) (name : String) :
    (byName gws).lookup name = lastNamed gws name := by
  have h := lookup_foldl (fun g : IkeGateway => g.name) id (fun _ => true) gws [] name
  simpa [byName, lastNamed] using h

/-! ### What is composed -/

/-- The row of a tunnel. -/
def tunnelRow (gws : List IkeGateway) (t : TunnelEntry) : TunnelRow where
  name := t.name
  interfaceName := t.interfaceName
  gateway := joinTexts t.gateways
  crypto := t.crypto
  monitor := t.monitor
  peer := (lastNamed gws (joinTexts t.gateways)).map (·.peer)
  enabled := !t.disabled

lemma list_foldl_addTunnel (gws : List IkeGateway) (ts : List TunnelEntry) (acc : Tunnels) :
    (ts.foldl (addTunnel gws) acc).list = acc.list ++ ts.map (tunnelRow gws) := by
  induction ts generalizing acc with
  | nil => simp
  | cons t ts ih =>
      rw [List.foldl_cons, ih, addTunnel, List.map_cons, tunnelRow, lookup_byName]
      simp

lemma tunnelOfGateway_foldl_addTunnel (gws : List IkeGateway) (ts : List TunnelEntry)
    (name : String) : ((ts.foldl (addTunnel gws) {}).tunnelOfGateway).lookup name =
      (lastJoined ts name).map (·.name) := by
  have hmap : ∀ acc : Tunnels, (ts.foldl (addTunnel gws) acc).tunnelOfGateway =
      ts.foldl (fun m t => if joinTexts t.gateways ≠ "" then
        (joinTexts t.gateways, t.name) :: m else m) acc.tunnelOfGateway := by
    induction ts with
    | nil => exact fun acc => rfl
    | cons t ts ih =>
        intro acc
        rw [List.foldl_cons, ih, List.foldl_cons, addTunnel]
        congr 1
        dsimp only
        split_ifs <;> simp_all
  have h := lookup_foldl (fun t : TunnelEntry => joinTexts t.gateways) (fun t => t.name)
    (fun t => joinTexts t.gateways ≠ "") ts [] name
  rw [hmap]
  simpa [lastJoined] using h

section Compose

variable {dump : Json → String} {fw : Device} {docs : Docs} {m : Ngfw}

lemma returns_readTunnels (doc : Json) : Returns (readTunnels dump doc) := by
  refine returns_forEntries.mpr fun e _ => returns_ite (fun _ => returns_ok _) fun _ => ?_
  refine returns_bind_of (Json.returns_readMember_of fun ak => ?_) fun autoKey => ?_
  · refine returns_ite (fun _ => returns_ok _) fun _ => ?_
    refine returns_bind_of (returns_str dump _ _) fun crypto => ?_
    refine returns_bind_of (Json.returns_readMember_of fun gs => ?_) fun _ => returns_pure _
    exact returns_bind_of ⟨_, entriesOf_eq gs⟩ fun es => returns_entryNames dump es
  · refine returns_bind_of (returns_str dump _ _) fun dis => ?_
    refine returns_bind_of (Json.returns_readMember_of fun _ => returns_str dump _ _) fun _ => ?_
    refine returns_bind_of (returns_str dump _ _) fun name => ?_
    exact returns_bind_of (returns_str dump _ _) fun interfaceName => returns_pure _

/-- The tunnels that are read of the documents. -/
def tunnelsOf (dump : Json → String) (docs : Docs) : List TunnelEntry :=
  result (readTunnels dump docs.tunDoc)

/-- **The tunnels and the links of a firewall**, by its gateways and the tunnels read. -/
lemma tunnels_of_compose (h : compose dump fw docs = .ok m) :
    m.tunnels.list = (tunnelsOf dump docs).map (tunnelRow m.ike) ∧
    m.links = m.ike.filterMap (linkOf fw
      ((tunnelsOf dump docs).foldl (addTunnel m.ike) {}).tunnelOfGateway) := by
  rw [compose, except_bind_eq_ok] at h
  obtain ⟨ikeGws, -, h⟩ := h
  obtain ⟨portals, -, h⟩ := except_bind_eq_ok.mp h
  obtain ⟨gateways, -, h⟩ := except_bind_eq_ok.mp h
  obtain ⟨interfaces, -, h⟩ := except_bind_eq_ok.mp h
  obtain ⟨ts, hts, h⟩ := except_bind_eq_ok.mp h
  have hread : ts = tunnelsOf dump docs := by rw [tunnelsOf, hts, result]
  cases h
  rw [← hread]
  exact ⟨list_foldl_addTunnel _ _ _, rfl⟩

/-! ### The join -/

/-- The gateways are linked by tunnels that name them, and the tunnels have peers of
gateways they name. -/
structure JoinComplete (gws : List IkeGateway) (ts : List TunnelEntry) (m : Ngfw) : Prop where
  linked : ∀ g ∈ gws, g.known = true → (∃ t ∈ ts, g.name ∈ t.gateways) →
    ∃ link ∈ m.links, link.gateway = g.name ∧ link.peer = g.peer ∧
      ∃ t ∈ ts, t.name = link.tunnel ∧ g.name ∈ t.gateways
  peered : List.Forall₂ (fun t row => (∃ g ∈ gws, g.known = true ∧ g.name ∈ t.gateways) →
    ∃ g ∈ gws, g.name ∈ t.gateways ∧ row.peer = some g.peer) ts m.tunnels.list

/-- What the join takes. The last tunnel whose gateways are joined to a gateway's name is
called as one that names it, or an unnamed one names it where there is none; and a
tunnel's gateways are joined to the name of a gateway, the last of which has the peer of
one of them. -/
structure Joined (gws : List IkeGateway) (ts : List TunnelEntry) : Prop where
  gateways : ∀ g ∈ gws, g.known = true → (∃ t ∈ ts, g.name ∈ t.gateways) →
    ∃ t ∈ ts, t.name = ((lastJoined ts g.name).map (·.name)).getD "" ∧ g.name ∈ t.gateways
  tunnels : ∀ t ∈ ts, (∃ g ∈ gws, g.known = true ∧ g.name ∈ t.gateways) →
    ∃ last, lastNamed gws (joinTexts t.gateways) = some last ∧
      ∃ g ∈ gws, g.name ∈ t.gateways ∧ g.peer = last.peer

/-- A link has the tunnel that its gateway's name leads to. -/
lemma mem_links_iff (h : compose dump fw docs = .ok m) {link : Link} : link ∈ m.links ↔
    ∃ g ∈ m.ike, g.known = true ∧ link = {
      device := fw.oid
      deviceName := fw.name
      site := fw.site
      interfaceName := g.interfaceName
      localIp := g.localIp
      gateway := g.name
      tunnel := ((lastJoined (tunnelsOf dump docs) g.name).map (·.name)).getD ""
      peer := g.peer } := by
  rw [(tunnels_of_compose h).2, List.mem_filterMap]
  refine exists_congr fun g => and_congr_right fun _ => ?_
  rw [linkOf, tunnelOfGateway_foldl_addTunnel]
  cases g.known <;> simp [eq_comm]

/-- **The join is complete exactly when the joined texts lead to it.** -/
theorem joinComplete_iff (h : compose dump fw docs = .ok m) :
    JoinComplete m.ike (tunnelsOf dump docs) m ↔ Joined m.ike (tunnelsOf dump docs) := by
  have hpeered : List.Forall₂ (fun t row =>
      (∃ g ∈ m.ike, g.known = true ∧ g.name ∈ t.gateways) →
        ∃ g ∈ m.ike, g.name ∈ t.gateways ∧ row.peer = some g.peer)
      (tunnelsOf dump docs) m.tunnels.list ↔
      ∀ t ∈ tunnelsOf dump docs, (∃ g ∈ m.ike, g.known = true ∧ g.name ∈ t.gateways) →
        ∃ last, lastNamed m.ike (joinTexts t.gateways) = some last ∧
          ∃ g ∈ m.ike, g.name ∈ t.gateways ∧ g.peer = last.peer := by
    rw [(tunnels_of_compose h).1, List.forall₂_map_right_iff, List.forall₂_same]
    refine forall₂_congr fun t _ => imp_congr_right fun _ => ?_
    rw [tunnelRow]
    cases lastNamed m.ike (joinTexts t.gateways) with
    | none => simp
    | some last => simp [eq_comm]
  constructor
  · intro hjoin
    refine ⟨fun g hg hknown href => ?_, hpeered.mp hjoin.peered⟩
    obtain ⟨link, hlink, hgateway, -, t, ht, hname, hrefers⟩ := hjoin.linked g hg hknown href
    obtain ⟨g', -, -, rfl⟩ := (mem_links_iff h).mp hlink
    dsimp only at hgateway hname
    rw [hgateway] at hname
    exact ⟨t, ht, hname, hrefers⟩
  · intro hjoined
    refine ⟨fun g hg hknown href => ?_, hpeered.mpr hjoined.tunnels⟩
    obtain ⟨t, ht, hname, hrefers⟩ := hjoined.gateways g hg hknown href
    exact ⟨_, (mem_links_iff h).mpr ⟨g, hg, hknown, rfl⟩, rfl, rfl, t, ht, hname, hrefers⟩

end Compose

/-! ### One gateway each -/

section Single

variable {dump : Json → String}

/-- The names that are read of some entries are not empty. -/
lemma ne_of_entryNames {es : List Json} {names : List String}
    (h : entryNames dump es = .ok names) : ∀ n ∈ names, n ≠ "" := by
  intro n hn
  obtain ⟨a, -, cs, hread, hmem⟩ := mem_of_collect h hn
  obtain ⟨name, -, hread⟩ := except_bind_eq_ok.mp hread
  cases hread
  split at hmem
  · cases hmem
  · next hne =>
      rw [List.mem_singleton] at hmem
      rwa [hmem]

lemma ne_of_readAutoKey {e : Json} {crypto : String} {gateways : List String}
    (h : readAutoKey dump e = .ok (crypto, gateways)) : ∀ n ∈ gateways, n ≠ "" := by
  rcases Json.readMember_eq_ok h with ⟨-, h⟩ | ⟨ak, -, h⟩
  · cases h
    simp
  · split at h
    · cases h
      simp
    · obtain ⟨profile, -, h⟩ := except_bind_eq_ok.mp h
      obtain ⟨names, hnames, h⟩ := except_bind_eq_ok.mp h
      cases h
      rcases Json.readMember_eq_ok hnames with ⟨-, rfl⟩ | ⟨gs, -, hnames⟩
      · simp
      · rw [entriesOf_eq] at hnames
        exact ne_of_entryNames hnames

/-- A tunnel names no gateway by the empty text. -/
lemma ne_of_tunnelsOf {docs : Docs} {t : TunnelEntry} (ht : t ∈ tunnelsOf dump docs) :
    ∀ n ∈ t.gateways, n ≠ "" := by
  have hread : readTunnels dump docs.tunDoc = .ok (tunnelsOf dump docs) :=
    eq_ok_result (returns_readTunnels docs.tunDoc)
  rw [readTunnels, entriesOf_eq] at hread
  obtain ⟨e, -, cs, hentry, hmem⟩ := mem_of_collect hread ht
  rw [readTunnel] at hentry
  split at hentry
  · cases hentry
    cases hmem
  · obtain ⟨⟨crypto, gateways⟩, hautoKey, hentry⟩ := except_bind_eq_ok.mp hentry
    obtain ⟨dis, -, hentry⟩ := except_bind_eq_ok.mp hentry
    obtain ⟨monitor, -, hentry⟩ := except_bind_eq_ok.mp hentry
    obtain ⟨name, -, hentry⟩ := except_bind_eq_ok.mp hentry
    obtain ⟨interfaceName, -, hentry⟩ := except_bind_eq_ok.mp hentry
    cases hentry
    rw [List.mem_singleton] at hmem
    rw [hmem]
    exact ne_of_readAutoKey hautoKey

/-- **Where no tunnel names two gateways the joined texts lead to the join.** -/
theorem joined_of_single {docs : Docs} (gws : List IkeGateway)
    (hsingle : ∀ t ∈ tunnelsOf dump docs, t.gateways.length ≤ 1) :
    Joined gws (tunnelsOf dump docs) := by
  have hlast : ∀ {α : Type} {l : List α} {a : α}, a ∈ l → ∃ b, l.getLast? = some b ∧ b ∈ l := by
    intro α l a ha
    have hl : l ≠ [] := List.ne_nil_of_mem ha
    exact ⟨_, List.getLast?_eq_some_getLast hl, List.getLast_mem hl⟩
  have hjoin : ∀ t ∈ tunnelsOf dump docs, ∀ n ∈ t.gateways, joinTexts t.gateways = n := by
    intro t ht n hn
    obtain ⟨n', hgateways⟩ := List.length_eq_one_iff.mp
      (le_antisymm (hsingle t ht) (List.length_pos_of_mem hn))
    rw [hgateways] at hn ⊢
    rw [List.mem_singleton.mp hn]
    simp [joinTexts]
  constructor
  · rintro g - - ⟨t, ht, hrefers⟩
    have hmem : t ∈ (tunnelsOf dump docs).filter fun t =>
        joinTexts t.gateways ≠ "" && joinTexts t.gateways = g.name :=
      List.mem_filter.mpr ⟨ht, by simp [hjoin t ht _ hrefers, ne_of_tunnelsOf ht _ hrefers]⟩
    obtain ⟨last, hlookup, hlastMem⟩ := hlast hmem
    obtain ⟨hlastTs, hlastJoin⟩ := List.mem_filter.mp hlastMem
    simp only [Bool.and_eq_true, decide_eq_true_eq] at hlastJoin
    refine ⟨last, hlastTs, by rw [lastJoined, hlookup]; rfl, ?_⟩
    cases hgateways : last.gateways with
    | nil =>
        rw [hgateways] at hlastJoin
        exact absurd rfl hlastJoin.1
    | cons n rest =>
        have hn := hjoin last hlastTs n (by rw [hgateways]; exact List.mem_cons_self)
        rw [← hlastJoin.2, hn]
        exact List.mem_cons_self
  · rintro t ht ⟨g, hg, -, hrefers⟩
    have hmem : g ∈ gws.filter fun g' => g'.name = joinTexts t.gateways :=
      List.mem_filter.mpr ⟨hg, by simp [hjoin t ht _ hrefers]⟩
    obtain ⟨last, hlookup, hlastMem⟩ := hlast hmem
    obtain ⟨hlastGws, hname⟩ := List.mem_filter.mp hlastMem
    refine ⟨last, hlookup, last, hlastGws, ?_, rfl⟩
    rw [of_decide_eq_true hname, hjoin t ht _ hrefers]
    exact hrefers

end Single

/-- Two gateways, the peer of the first known, and a tunnel that names both. -/
def twoGateways : Docs where
  ikeDoc := .obj [("entry", .arr [
    .obj [("@name", .str "a"), ("peer-address", .obj [("ip", .str "1.2.3.4")])],
    .obj [("@name", .str "b")]])]
  tunDoc := .obj [("entry", .obj [("@name", .str "t"), ("auto-key", .obj [("ike-gateway",
    .obj [("entry", .arr [.obj [("@name", .str "a")], .obj [("@name", .str "b")]])])])])]

/-- The first of them, and a tunnel that names it. -/
def oneGateway : Docs where
  ikeDoc := .obj [("entry",
    .obj [("@name", .str "a"), ("peer-address", .obj [("ip", .str "1.2.3.4")])])]
  tunDoc := .obj [("entry", .obj [("@name", .str "t"), ("auto-key", .obj [("ike-gateway",
    .obj [("entry", .obj [("@name", .str "a")])])])])]

theorem joinComplete_iff_of_oneGateway :
    (∃ m, compose (fun _ => "") ⟨"fw", "fw", ""⟩ oneGateway = .ok m) ∧
    ∀ m, compose (fun _ => "") ⟨"fw", "fw", ""⟩ oneGateway = .ok m →
      (JoinComplete m.ike (tunnelsOf (fun _ => "") oneGateway) m ↔
        Joined m.ike (tunnelsOf (fun _ => "") oneGateway)) :=
  ⟨⟨_, rfl⟩, fun _ h => joinComplete_iff h⟩

/-- **A tunnel that names two gateways loses its peer, and its gateway the tunnel.** -/
theorem twoGateways_not_joined :
    ∃ m, compose (fun _ => "") ⟨"fw", "fw", ""⟩ twoGateways = .ok m ∧
      m.tunnels.list.map (·.peer) = [none] ∧ m.links.map (·.tunnel) = [""] ∧
      ¬JoinComplete m.ike (tunnelsOf (fun _ => "") twoGateways) m := by
  refine ⟨_, rfl, by decide, by decide, ?_⟩
  rintro ⟨-, hpeered⟩
  have hrow := (List.forall₂_iff_get.mp hpeered).2 0 (by decide) (by decide)
  obtain ⟨g, -, -, hpeer⟩ := hrow ⟨_, List.mem_cons_self, by decide, by decide⟩
  cases hpeer

end Pretzel.Topologyd
