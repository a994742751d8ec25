import Pretzel.Topologyd.NgfwModel

/-!
That the readers of a configuration document return: each member is asked for behind
a check that it is there, in one place on behalf of another member.

* `entries`: the entries of a document. `entriesOf_eq`.
* `returns_str`, `returns_ipOf`, `returns_interfaceAddresses`, `returns_adminState`,
  `returns_readIkeGateways`, `returns_readGpGateways`: **a reader returns, whatever the
  document.**
* `returns_readGpPortals`, `readers_return_iff`: **the portals are read exactly when no
  portal's configuration lacks its address.**
-/

namespace Pretzel.Topologyd

open Nlohmann

/-! ### Entries -/

/-- The object that holds the entries of a document. -/
def nodeOf (doc : Json) : Json :=
  match doc.find? "result" with
  | some (.obj ms) => .obj ms
  | _ => doc

/-- The entries of a document. -/
def entries (doc : Json) : List Json :=
  match (nodeOf doc).find? "entry" with
  | some (.arr es) => es
  | some (.obj ms) => [.obj ms]
  | _ => []

lemma entryNode_eq (doc : Json) : entryNode doc = .ok (nodeOf doc) := by
  rw [entryNode, nodeOf]
  cases hfind : doc.find? "result" with
  | none => exact Json.readMember_of_find?_eq_none hfind
  | some r =>
      rw [Json.readMember_of_find? hfind]
      cases r <;> rfl

lemma nodeEntries_eq (doc : Json) : nodeEntries (nodeOf doc) = .ok (entries doc) := by
  rw [nodeEntries, entries]
  cases hfind : (nodeOf doc).find? "entry" with
  | none => exact Json.readMember_of_find?_eq_none hfind
  | some e =>
      rw [Json.readMember_of_find? hfind]
      cases e <;> rfl

/-- **The entries are read, whatever the document.** -/
theorem entriesOf_eq (doc : Json) : entriesOf doc = .ok (entries doc) := by
  rw [entriesOf]
  cases hobj : doc.isObject with
  | true =>
      rw [if_neg (by simp), entryNode_eq]
      exact nodeEntries_eq doc
  | false =>
      have hnone : entries doc = [] := by
        rw [entries, nodeOf, Json.find?_of_not_isObject hobj, Json.find?_of_not_isObject hobj]
      rw [if_pos (by rfl), hnone]

/-- A loop over the entries of a document. -/
lemma returns_forEntries {α : Type} {read : Json → Except AccessError (List α)} {doc : Json} :
    Returns (do collect read (← entriesOf doc)) ↔ ∀ e ∈ entries doc, Returns (read e) := by
  rw [entriesOf_eq]
  exact returns_collect

section Readers

variable (dump : Json → String)

/-! ### Texts -/

lemma returns_str (o : Json) (key : String) : Returns (str dump o key) := by
  refine returns_ite (fun _ => returns_ok _) fun _ => Json.returns_readMember_of fun v => ?_
  cases v <;> exact returns_ok _

mutual

/-- The address is read, however deep it stands. -/
lemma returns_ipOf : ∀ node : Json, Returns (ipOf dump node)
  | .obj ms => by
      rw [ipOf]
      split
      · exact returns_str dump _ _
      · split
        · next h => exact returns_ipOfMember ms h
        · exact returns_ok _
  | .str s => by
      rw [ipOf]
      exact returns_ok _
  | .null => by rw [ipOf] <;> simp
  | .bool b => by rw [ipOf] <;> simp
  | .int i => by rw [ipOf] <;> simp
  | .float m e => by rw [ipOf] <;> simp
  | .arr es => by rw [ipOf] <;> simp

lemma returns_ipOfMember : ∀ ms : List (String × Json),
    (Json.obj ms).contains "ip" = true → Returns (ipOfMember dump ms)
  | [], h => by cases h
  | (key, v) :: ms, h => by
      rw [ipOfMember]
      split
      · exact returns_ipOf v
      · next hkey =>
          refine returns_ipOfMember ms ?_
          rw [Json.contains, Json.find?, Json.members, Json.lookup, if_neg hkey] at h
          exact h

end

lemma returns_firstText {a b : Except AccessError String} (ha : Returns a) (hb : Returns b) :
    Returns (firstText a b) := by
  refine returns_bind_of ha fun text => ?_
  split
  · exact hb
  · exact returns_pure _

lemma returns_readLocalAddress (node : Json) : Returns (readLocalAddress dump node) := by
  refine returns_ite (fun _ => returns_ok _) fun _ => ?_
  refine returns_bind_of (returns_str dump _ _) fun iface => ?_
  refine returns_bind_of (Json.returns_readMember_of (returns_ipOf dump)) fun ip => ?_
  exact returns_pure _

lemma returns_readLocal (e : Json) : Returns (readLocal dump e) :=
  Json.returns_readMember_of (returns_readLocalAddress dump)

/-! ### Interfaces -/

lemma returns_entryNames (es : List Json) : Returns (entryNames dump es) :=
  returns_collect.mpr fun _ _ => returns_bind_of (returns_str dump _ _) fun _ => returns_pure _

lemma returns_modeAddresses (m : Json) : Returns (modeAddresses dump m) := by
  refine returns_ite (fun _ => returns_ok _) fun _ => Json.returns_readMember_of fun ip => ?_
  refine returns_bind_of ⟨_, entriesOf_eq m⟩ fun es => ?_
  refine returns_bind_of (returns_entryNames dump es) fun out => ?_
  split
  · exact returns_pure _
  · split
    · exact returns_bind_of ⟨_, entriesOf_eq ip⟩ fun es => returns_entryNames dump es
    · exact returns_pure _

/-- **The addresses of an interface are read, whatever its entry.** -/
theorem returns_interfaceAddresses (entry : Json) : Returns (interfaceAddresses dump entry) := by
  rw [interfaceAddresses]
  induction ["layer3", "layer2", "tap", "ha", "virtual-wire"] with
  | nil => exact returns_ok _
  | cons mode rest ih =>
      refine returns_bind_of (Json.returns_readMember_of (returns_modeAddresses dump)) fun out => ?_
      split
      · exact returns_pure _
      · exact ih

/-- **The state of an interface is read, whatever its entry.** -/
theorem returns_adminState (entry : Json) : Returns (adminState dump entry) := by
  refine returns_bind_of (returns_str dump _ _) fun ls => ?_
  dsimp only
  split
  · exact returns_pure _
  · split
    · exact returns_pure _
    · exact returns_bind_of (returns_str dump _ _) fun disabled => returns_pure _

/-! ### Gateways -/

lemma returns_readPeer (e : Json) : Returns (readPeer dump e) := by
  refine Json.returns_readMember_of fun pa => returns_ite (fun _ => returns_ok _) fun _ => ?_
  refine returns_bind_of (returns_firstText (returns_firstText ?_ ?_) ?_) fun _ => returns_pure _
  · exact returns_str dump _ _
  · exact returns_str dump _ _
  · exact returns_ipOf dump _

/-- **The gateways of the tunnels are read, whatever the document.** -/
theorem returns_readIkeGateways (doc : Json) : Returns (readIkeGateways dump doc) := by
  refine returns_forEntries.mpr fun e _ => returns_ite (fun _ => returns_ok _) fun _ => ?_
  refine returns_bind_of (returns_str dump _ _) fun name => ?_
  refine returns_bind_of (returns_readLocal dump _) fun place => ?_
  refine returns_bind_of (returns_readPeer dump _) fun peer => ?_
  refine returns_bind_of (Json.returns_readMember_of fun _ => returns_str dump _ _) fun version => ?_
  exact returns_pure _

lemma returns_configPools (c : Json) : Returns (configPools c) := by
  refine returns_ite (fun _ => returns_ok _) fun _ => Json.returns_readMember_of fun pool => ?_
  refine returns_ite (fun _ => returns_ok _) fun _ => Json.returns_readMember_of fun m => ?_
  cases m <;> exact returns_ok _

/-- **The gateways of the users are read, whatever the document.** -/
theorem returns_readGpGateways (doc : Json) : Returns (readGpGateways dump doc) := by
  refine returns_forEntries.mpr fun e _ => returns_ite (fun _ => returns_ok _) fun _ => ?_
  refine returns_bind_of (returns_str dump _ _) fun name => ?_
  refine returns_bind_of (returns_readLocal dump _) fun place => ?_
  refine returns_bind_of (returns_str dump _ _) fun tm => ?_
  refine returns_bind_of (Json.returns_readMember_of fun configs => ?_) fun pools => returns_pure _
  exact returns_forEntries.mpr fun c _ => returns_configPools c

/-! ### Portals -/

lemma returns_gatewayLabel (g : Json) : Returns (gatewayLabel dump g) := by
  refine returns_ite (fun _ => returns_ok _) fun _ => ?_
  refine returns_bind_of (returns_str dump _ _) fun name => ?_
  refine returns_bind_of (returns_firstText ?_ (returns_str dump _ _)) fun addr => returns_pure _
  exact Json.returns_readMember_of (returns_ipOf dump)

lemma returns_kindLabels (gws : Json) (kind : String) : Returns (kindLabels dump gws kind) := by
  refine Json.returns_readMember_of fun node => returns_ite (fun _ => returns_ok _) fun _ => ?_
  refine Json.returns_readMember_of fun list => ?_
  exact returns_forEntries.mpr fun g _ => returns_gatewayLabel dump g

lemma returns_configLabels (cfg : Json) : Returns (configLabels dump cfg) := by
  refine returns_ite (fun _ => returns_ok _) fun _ => Json.returns_readMember_of fun gws => ?_
  exact returns_collect.mpr fun kind _ => returns_kindLabels dump gws kind

lemma returns_portalGateways (e : Json) : Returns (portalGateways dump e) := by
  refine Json.returns_readMember_of fun client => returns_ite (fun _ => returns_ok _) fun _ => ?_
  refine Json.returns_readMember_of fun configs => ?_
  refine returns_bind_of ⟨_, entriesOf_eq configs⟩ fun es => ?_
  refine returns_bind_of (returns_collect.mpr fun cfg _ => returns_configLabels dump cfg) ?_
  exact fun labels => returns_pure _

/-- The configuration of a portal, where it is an object, has an address. -/
def PortalAddressed (e : Json) : Prop :=
  ∀ config, e.find? "portal-config" = some config → config.isObject = true →
    config.contains "local-address" = true

lemma returns_portalLocal {e : Json} : Returns (portalLocal dump e) ↔ PortalAddressed e := by
  rw [portalLocal, Json.returns_readMember, PortalAddressed]
  refine forall₂_congr fun config _ => ?_
  cases hobj : config.isObject with
  | false => simp
  | true =>
      rw [if_neg (by simp)]
      cases hfind : config.find? "local-address" with
      | none =>
          rw [Json.contains_of_find?_eq_none hfind, returns_bind]
          simp [Json.not_returns_index hfind]
      | some node =>
          rw [Json.contains_of_find? hfind, Json.index_of_find? hfind]
          exact iff_of_true (returns_readLocalAddress dump node) fun _ => rfl

/-- **The portals are read exactly when no configuration of theirs lacks its address.** -/
theorem returns_readGpPortals (doc : Json) :
    Returns (readGpPortals dump doc) ↔ ∀ e ∈ entries doc, PortalAddressed e := by
  rw [readGpPortals, returns_forEntries]
  refine forall₂_congr fun e _ => ?_
  rw [readGpPortal]
  cases hobj : e.isObject with
  | false =>
      rw [if_pos (by rfl)]
      refine iff_of_true (returns_ok _) fun config hfind => ?_
      rw [Json.find?_of_not_isObject hobj] at hfind
      cases hfind
  | true =>
      rw [if_neg (by simp)]
      refine (returns_bind_iff fun name _ => ?_).trans (and_iff_right (returns_str dump e "@name"))
      rw [← returns_portalLocal dump]
      refine returns_bind.trans (and_iff_left fun place _ => ?_)
      exact returns_bind_of (returns_portalGateways dump e) fun gateways => returns_pure _

/-- **Each reader returns exactly when no portal's configuration lacks its address.** -/
theorem readers_return_iff (doc : Json) :
    (Returns (entriesOf doc) ∧ (∀ key, Returns (str dump doc key)) ∧
      Returns (interfaceAddresses dump doc) ∧ Returns (adminState dump doc) ∧
      Returns (readIkeGateways dump doc) ∧ Returns (readGpGateways dump doc) ∧
      Returns (readGpPortals dump doc)) ↔
    ∀ e ∈ entries doc, PortalAddressed e := by
  rw [returns_readGpPortals]
  constructor
  · rintro ⟨-, -, -, -, -, -, h⟩
    exact h
  · intro h
    exact ⟨⟨_, entriesOf_eq doc⟩, returns_str dump doc, returns_interfaceAddresses dump doc,
      returns_adminState dump doc, returns_readIkeGateways dump doc,
      returns_readGpGateways dump doc, h⟩

end Readers

/-- A portal that stands alone, with a configuration that is empty. -/
def unaddressedPortal : Json := .obj [("entry", .obj [("portal-config", .obj [])])]

/-- **The address of a portal is read where there is none.** -/
theorem unaddressedPortal_not_returns :
    readGpPortals (fun _ => "") unaddressedPortal = .error .absentMember ∧
    ¬(Returns (entriesOf unaddressedPortal) ∧
      (∀ key, Returns (str (fun _ => "") unaddressedPortal key)) ∧
      Returns (interfaceAddresses (fun _ => "") unaddressedPortal) ∧
      Returns (adminState (fun _ => "") unaddressedPortal) ∧
      Returns (readIkeGateways (fun _ => "") unaddressedPortal) ∧
      Returns (readGpGateways (fun _ => "") unaddressedPortal) ∧
      Returns (readGpPortals (fun _ => "") unaddressedPortal)) := by
  have hfails : readGpPortals (fun _ => "") unaddressedPortal = .error .absentMember := rfl
  refine ⟨hfails, ?_⟩
  rintro ⟨-, -, -, -, -, -, hportals⟩
  rw [hfails] at hportals
  exact not_returns_error _ hportals

end Pretzel.Topologyd
