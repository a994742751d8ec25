import Pretzel.Topologyd.TopologyService

/-!
The interfaces of a composed firewall, and the counts beside them.

* `interfaceRow`, `tunnelInterfaceRow`: the row of an entry. `list_of_composeInterfaces`:
  the rows are those of the two documents.
* `CountsMatch`: the counts are those of the rows.
* `countsMatch_iff`: **they are exactly when there is no tunnel interface**: its row is
  appended, and only the total takes note of it.
-/

namespace Pretzel.Topologyd

open Nlohmann

/-! ### What each entry gives -/

/-- The entries of a document that are read. -/
def objects (doc : Json) : List Json := (entries doc).filter (·.isObject)

section Rows

variable (dump : Json → String) (vpnOn gpOn : List String)

lemma returns_readTunnelInterface (e : Json) : Returns (readTunnelInterface dump e) := by
  refine returns_bind_of (returns_interfaceAddresses dump e) fun addrs => ?_
  refine returns_bind_of (returns_str dump _ _) fun name => ?_
  refine returns_bind_of (returns_str dump _ _) fun comment => ?_
  exact returns_bind_of (returns_adminState dump e) fun state => returns_pure _

/-- The role of an interface, by its entry. -/
def entryRole (e : Json) : IfRole :=
  interfaceRole (result (str dump e "@name")) (result (interfaceAddresses dump e))
    (result (str dump e "@name") ∈ vpnOn || result (str dump e "@name") ∈ gpOn)

/-- The row of an interface, by its entry. -/
def interfaceRow (e : Json) : InterfaceRow where
  name := result (str dump e "@name")
  ip := joinTexts (result (interfaceAddresses dump e))
  addresses := result (interfaceAddresses dump e)
  mode := interfaceMode e
  comment := result (str dump e "comment")
  role := ifRoleName (entryRole dump vpnOn gpOn e)
  vpnCount := vpnOn.count (result (str dump e "@name"))
  gpCount := gpOn.count (result (str dump e "@name"))
  adminState := result (adminState dump e)

lemma readInterface_eq (e : Json) : readInterface dump vpnOn gpOn e =
    .ok (interfaceRow dump vpnOn gpOn e, entryRole dump vpnOn gpOn e) := by
  rw [readInterface, eq_ok_result (returns_str dump e "@name"),
    eq_ok_result (returns_interfaceAddresses dump e), eq_ok_result (returns_adminState dump e),
    eq_ok_result (returns_str dump e "comment")]
  rfl

/-- The state of an interface is one of two. -/
lemma adminState_eq (e : Json) :
    result (adminState dump e) = "down" ∨ result (adminState dump e) = "up" := by
  rw [adminState, eq_ok_result (returns_str dump e "link-state"),
    eq_ok_result (returns_str dump e "disabled")]
  simp only [bind, Except.bind]
  split_ifs <;> simp [result, pure, Except.pure]

lemma addInterface_eq (acc : Interfaces) (e : Json) : addInterface dump vpnOn gpOn acc e =
    .ok (if e.isObject then acc.add (interfaceRow dump vpnOn gpOn e)
      (entryRole dump vpnOn gpOn e) else acc) := by
  rw [addInterface]
  cases e.isObject with
  | false => rfl
  | true =>
      rw [if_neg (by simp), readInterface_eq]
      rfl

/-- The row of a tunnel interface, by its entry. -/
def tunnelInterfaceRow (e : Json) : InterfaceRow := result (readTunnelInterface dump e)

lemma addTunnelInterface_eq (acc : Interfaces) (e : Json) : addTunnelInterface dump acc e =
    .ok (if e.isObject then acc.append (tunnelInterfaceRow dump e) else acc) := by
  rw [addTunnelInterface]
  cases e.isObject with
  | false => rfl
  | true =>
      rw [if_neg (by simp), eq_ok_result (returns_readTunnelInterface dump e)]
      rfl

/-- The interfaces of the first document, each counted. -/
def countedInterfaces (ifDoc : Json) : Interfaces :=
  (objects ifDoc).foldl (fun acc e =>
    Interfaces.add acc (interfaceRow dump vpnOn gpOn e) (entryRole dump vpnOn gpOn e)) {}

/-- The interfaces of the second, appended. -/
def appendTunnels (acc : Interfaces) (tunIfDoc : Json) : Interfaces :=
  (objects tunIfDoc).foldl (fun acc e => Interfaces.append acc (tunnelInterfaceRow dump e))
    { acc with total := acc.list.length }

/-- A loop whose steps are known. -/
lemma foldlM_of_ok {ε α β : Type} {f : β → α → Except ε β} {g : β → α → β} {p : α → Bool}
    (h : ∀ b a, f b a = .ok (if p a then g b a else b)) (l : List α) (b : β) :
    l.foldlM f b = .ok ((l.filter p).foldl g b) := by
  induction l generalizing b with
  | nil => rfl
  | cons a l ih =>
      rw [List.foldlM_cons, h, List.filter_cons]
      cases p a with
      | true => exact ih (g b a)
      | false => exact ih b

/-- **The interfaces are composed, whatever the documents.** -/
theorem composeInterfaces_eq (ifDoc tunIfDoc : Json) :
    composeInterfaces dump vpnOn gpOn ifDoc tunIfDoc =
      .ok (appendTunnels dump (countedInterfaces dump vpnOn gpOn ifDoc) tunIfDoc) := by
  have hfirst := foldlM_of_ok (addInterface_eq dump vpnOn gpOn) (entries ifDoc) {}
  have hsecond := foldlM_of_ok (addTunnelInterface_eq dump) (entries tunIfDoc)
  rw [composeInterfaces, entriesOf_eq, entriesOf_eq]
  change (do
    let acc ← (entries ifDoc).foldlM (addInterface dump vpnOn gpOn) {}
    (entries tunIfDoc).foldlM (addTunnelInterface dump)
      { acc with total := acc.list.length }) = _
  rw [hfirst]
  exact hsecond _

end Rows

/-! ### Counts -/

/-- The counts are those of some rows, by what each has. -/
structure Counted (acc : Interfaces) (rows : List InterfaceRow) : Prop where
  up : acc.up = rows.countP fun row => row.adminState = "up"
  down : acc.down = rows.countP fun row => row.adminState = "down"
  withIp : acc.withIp = rows.countP fun row => row.addresses ≠ []
  wan : acc.wan = rows.countP fun row => row.role = "wan"
  edge : acc.edge = rows.countP fun row => row.role = "edge"
  lan : acc.lan = rows.countP fun row => row.role = "lan"

/-- The total and the counts are those of the rows that are emitted. -/
def CountsMatch (acc : Interfaces) : Prop :=
  acc.total = acc.list.length ∧ Counted acc acc.list

/-- **A row that is counted keeps the counts.** -/
lemma Counted.add {acc : Interfaces} {row : InterfaceRow} {role : IfRole}
    (h : Counted acc acc.list) (hrole : row.role = ifRoleName role)
    (hstate : row.adminState = "down" ∨ row.adminState = "up") :
    Counted (acc.add row role) (acc.add row role).list := by
  have hcount : ∀ p : InterfaceRow → Bool, (acc.list ++ [row]).countP p =
      acc.list.countP p + if p row then 1 else 0 := by
    intro p
    rw [List.countP_append, List.countP_singleton]
  obtain ⟨hup, hdown, hwithIp, hwan, hedge, hlan⟩ := h
  constructor <;> rw [Interfaces.add] <;> dsimp only <;> rw [hcount]
  · rcases hstate with hdown | hup' <;> simp [*]
  · rcases hstate with hdown' | hup' <;> simp [*]
  · split_ifs <;> simp_all
  · cases role <;> simp [hrole, ifRoleName, hwan]
  · cases role <;> simp [hrole, ifRoleName, hedge]
  · cases role <;> simp [hrole, ifRoleName, hlan]

section Composed

variable (dump : Json → String) (vpnOn gpOn : List String)

/-- **The interfaces of the first document are counted as they are emitted.** -/
lemma counted_countedInterfaces (ifDoc : Json) :
    Counted (countedInterfaces dump vpnOn gpOn ifDoc)
      (countedInterfaces dump vpnOn gpOn ifDoc).list := by
  have hfold : ∀ es : List Json, ∀ acc : Interfaces, Counted acc acc.list →
      let acc' := es.foldl (fun acc e => Interfaces.add acc (interfaceRow dump vpnOn gpOn e)
        (entryRole dump vpnOn gpOn e)) acc
      Counted acc' acc'.list := by
    intro es
    induction es with
    | nil => exact fun acc h => h
    | cons e es ih =>
        intro acc h
        exact ih _ (h.add rfl (adminState_eq dump e))
  exact hfold (objects ifDoc) {} ⟨rfl, rfl, rfl, rfl, rfl, rfl⟩

lemma list_countedInterfaces (ifDoc : Json) : (countedInterfaces dump vpnOn gpOn ifDoc).list =
    (objects ifDoc).map (interfaceRow dump vpnOn gpOn) := by
  have hfold : ∀ es : List Json, ∀ acc : Interfaces,
      (es.foldl (fun acc e => Interfaces.add acc (interfaceRow dump vpnOn gpOn e)
        (entryRole dump vpnOn gpOn e)) acc).list =
        acc.list ++ es.map (interfaceRow dump vpnOn gpOn) := by
    intro es
    induction es with
    | nil => simp
    | cons e es ih =>
        intro acc
        rw [List.foldl_cons, ih, Interfaces.add, List.map_cons]
        simp
  exact hfold (objects ifDoc) {}

/-- Rows that are appended leave the counts as they are. -/
lemma appendTunnels_eq (acc : Interfaces) (tunIfDoc : Json) :
    appendTunnels dump acc tunIfDoc = { acc with
      list := acc.list ++ (objects tunIfDoc).map (tunnelInterfaceRow dump)
      total := (acc.list ++ (objects tunIfDoc).map (tunnelInterfaceRow dump)).length } := by
  have hfold : ∀ es : List Json, ∀ acc : Interfaces, acc.total = acc.list.length →
      es.foldl (fun acc e => Interfaces.append acc (tunnelInterfaceRow dump e)) acc = { acc with
        list := acc.list ++ es.map (tunnelInterfaceRow dump)
        total := (acc.list ++ es.map (tunnelInterfaceRow dump)).length } := by
    intro es
    induction es with
    | nil =>
        intro acc h
        simp [← h]
    | cons e es ih =>
        intro acc h
        rw [List.foldl_cons, ih _ rfl, Interfaces.append, List.map_cons]
        simp
  exact hfold _ _ rfl

lemma tunnelInterfaceRow_eq (e : Json) : tunnelInterfaceRow dump e = {
    name := result (str dump e "@name")
    ip := joinTexts (result (interfaceAddresses dump e))
    addresses := result (interfaceAddresses dump e)
    mode := "tunnel"
    comment := result (str dump e "comment")
    role := "tunnel"
    vpnCount := 0
    gpCount := 0
    adminState := result (adminState dump e) } := by
  rw [tunnelInterfaceRow, readTunnelInterface, eq_ok_result (returns_interfaceAddresses dump e),
    eq_ok_result (returns_str dump e "@name"), eq_ok_result (returns_str dump e "comment"),
    eq_ok_result (returns_adminState dump e)]
  rfl

variable {dump vpnOn gpOn} {fw : Device} {docs : Docs} {m : Ngfw}

/-- **The interfaces of a firewall**: those of the first document, counted, and those of
the second behind them. -/
lemma interfaces_of_compose (h : compose dump fw docs = .ok m) : ∃ vpnOn gpOn,
    m.interfaces = appendTunnels dump (countedInterfaces dump vpnOn gpOn docs.ifDoc)
      docs.tunIfDoc := by
  rw [compose, except_bind_eq_ok] at h
  obtain ⟨ikeGws, -, h⟩ := h
  obtain ⟨portals, -, h⟩ := except_bind_eq_ok.mp h
  obtain ⟨gateways, -, h⟩ := except_bind_eq_ok.mp h
  obtain ⟨interfaces, hinterfaces, h⟩ := except_bind_eq_ok.mp h
  obtain ⟨tunnels, -, h⟩ := except_bind_eq_ok.mp h
  cases h
  rw [composeInterfaces_eq] at hinterfaces
  exact ⟨_, _, (Except.ok.inj hinterfaces).symm⟩

/-- A row of a tunnel interface is up or down, and not counted as either. -/
lemma not_countsMatch_of_tunnel {acc : Interfaces} {tunIfDoc e : Json}
    (hacc : Counted acc acc.list) (he : e ∈ objects tunIfDoc) :
    ¬CountsMatch (appendTunnels dump acc tunIfDoc) := by
  rintro ⟨-, hcounted⟩
  have hrow : tunnelInterfaceRow dump e ∈ (objects tunIfDoc).map (tunnelInterfaceRow dump) :=
    List.mem_map_of_mem he
  have hup := hcounted.up
  have hdown := hcounted.down
  rw [appendTunnels_eq] at hup hdown
  dsimp only at hup hdown
  rw [List.countP_append, ← hacc.up] at hup
  rw [List.countP_append, ← hacc.down] at hdown
  have hnotUp := List.countP_eq_zero.mp (Nat.left_eq_add.mp hup) _ hrow
  have hnotDown := List.countP_eq_zero.mp (Nat.left_eq_add.mp hdown) _ hrow
  rw [tunnelInterfaceRow_eq] at hnotUp hnotDown
  rcases adminState_eq dump e with hstate | hstate
  · exact hnotDown (by simp [hstate])
  · exact hnotUp (by simp [hstate])

/-- **The counts are those of the rows exactly when there is no tunnel interface.** -/
theorem countsMatch_iff (h : compose dump fw docs = .ok m) :
    CountsMatch m.interfaces ↔ ∀ e ∈ entries docs.tunIfDoc, e.isObject = false := by
  obtain ⟨vpnOn, gpOn, hinterfaces⟩ := interfaces_of_compose h
  have hcounted := counted_countedInterfaces dump vpnOn gpOn docs.ifDoc
  rw [hinterfaces]
  constructor
  · intro hmatch e he
    cases hobj : e.isObject with
    | false => rfl
    | true =>
        have hmem : e ∈ objects docs.tunIfDoc := List.mem_filter.mpr ⟨he, hobj⟩
        exact absurd hmatch (not_countsMatch_of_tunnel hcounted hmem)
  · intro hnone
    have hobjects : objects docs.tunIfDoc = [] :=
      List.filter_eq_nil_iff.mpr fun e he => by simp [hnone e he]
    rw [appendTunnels_eq, hobjects, List.map_nil, List.append_nil]
    exact ⟨rfl, ⟨hcounted.up, hcounted.down, hcounted.withIp, hcounted.wan, hcounted.edge,
      hcounted.lan⟩⟩

end Composed

/-- A port, and a tunnel interface. -/
def portAndTunnel : Docs where
  ifDoc := .obj [("entry", .obj [("@name", .str "ethernet1/1")])]
  tunIfDoc := .obj [("entry", .obj [("@name", .str "tunnel.1")])]

/-- A port alone. -/
def portAlone : Docs where
  ifDoc := .obj [("entry", .obj [("@name", .str "ethernet1/1")])]

theorem countsMatch_iff_of_portAlone :
    (∃ m, compose (fun _ => "") ⟨"fw", "fw", ""⟩ portAlone = .ok m) ∧
    ∀ m, compose (fun _ => "") ⟨"fw", "fw", ""⟩ portAlone = .ok m →
      (CountsMatch m.interfaces ↔ ∀ e ∈ entries portAlone.tunIfDoc, e.isObject = false) :=
  ⟨⟨_, rfl⟩, fun _ h => countsMatch_iff h⟩

/-- **A tunnel interface is not counted**: two interfaces are emitted, and one is up. -/
theorem tunnelInterface_not_counted :
    ∃ m, compose (fun _ => "") ⟨"fw", "fw", ""⟩ portAndTunnel = .ok m ∧
      m.interfaces.total = 2 ∧ ¬CountsMatch m.interfaces := by
  refine ⟨_, rfl, by decide, ?_⟩
  rintro ⟨-, hcounted⟩
  exact absurd hcounted.up (by decide)

end Pretzel.Topologyd
