import Pretzel.Topologyd.Readings

/-!
The firewall of a topology (`TopologyService::composeNgfw`), composed of the documents
that were collected of it.

* `InterfaceRow`, `TunnelRow`, `Link`, `Ngfw`: what is composed.
* `interfaceRole`: what an interface is for. `readInterface`, `addInterface`,
  `addTunnelInterface`: the interfaces, and the counts beside them.
* `readTunnel`, `addTunnel`: the tunnels, joined to their gateways. `linkOf`: the links.
* `compose`: a firewall, of its documents.
-/

namespace Pretzel.Topologyd

open Nlohmann

/-- The texts joined by commas, as they are appended one by one. -/
def joinTexts (texts : List String) : String :=
  texts.foldl (fun joined a => joined ++ (if joined = "" then "" else ", ") ++ a) ""

/-! ### Interfaces -/

/-- A row of the interfaces. -/
structure InterfaceRow where
  name : String
  ip : String
  addresses : List String
  mode : String
  comment : String
  role : String
  vpnCount : ℕ
  gpCount : ℕ
  adminState : String
deriving DecidableEq, Repr, Inhabited

/-- The interfaces, and the counts of them. -/
structure Interfaces where
  list : List InterfaceRow := []
  total : ℕ := 0
  up : ℕ := 0
  down : ℕ := 0
  withIp : ℕ := 0
  wan : ℕ := 0
  edge : ℕ := 0
  lan : ℕ := 0
deriving DecidableEq, Repr

/-- The role of an interface, by its name, its addresses and whether something
terminates on it. -/
def interfaceRole (name : String) (addrs : List String) (terminates : Bool) : IfRole :=
  if "loopback".toList <+: name.toList then .Loopback
  else if "tunnel".toList <+: name.toList then .Tunnel
  else if addrs ≠ [] then
    if addrs.any fun a => !isPrivateV4 a.toList then .Wan
    else if terminates then .Edge
    else .Lan
  else if terminates then .Edge
  else .Unknown

section Compose

variable (dump : Json → String)

/-- What is read of an interface, with its role; `vpnOn` and `gpOn` name an interface once
for each gateway or portal on it. -/
def readInterface (vpnOn gpOn : List String) (e : Json) :
    Except AccessError (InterfaceRow × IfRole) := do
  let name ← str dump e "@name"
  let addrs ← interfaceAddresses dump e
  let state ← adminState dump e
  let role := interfaceRole name addrs (name ∈ vpnOn || name ∈ gpOn)
  let comment ← str dump e "comment"
  return ({
    name
    ip := joinTexts addrs
    addresses := addrs
    mode := interfaceMode e
    comment
    role := ifRoleName role
    vpnCount := vpnOn.count name
    gpCount := gpOn.count name
    adminState := state }, role)

/-- A row appended, and counted. -/
def Interfaces.add (acc : Interfaces) (row : InterfaceRow) (role : IfRole) : Interfaces :=
  { acc with
    list := acc.list ++ [row]
    up := if row.adminState = "down" then acc.up else acc.up + 1
    down := if row.adminState = "down" then acc.down + 1 else acc.down
    withIp := if row.addresses = [] then acc.withIp else acc.withIp + 1
    wan := if role = .Wan then acc.wan + 1 else acc.wan
    edge := if role = .Edge then acc.edge + 1 else acc.edge
    lan := if role = .Lan then acc.lan + 1 else acc.lan }

/-- One entry of the interfaces. -/
def addInterface (vpnOn gpOn : List String) (acc : Interfaces) (e : Json) :
    Except AccessError Interfaces :=
  if !e.isObject then .ok acc
  else do
    let (row, role) ← readInterface dump vpnOn gpOn e
    return acc.add row role

/-- What is read of a tunnel interface. -/
def readTunnelInterface (e : Json) : Except AccessError InterfaceRow := do
  let addrs ← interfaceAddresses dump e
  let name ← str dump e "@name"
  let comment ← str dump e "comment"
  let state ← adminState dump e
  return {
    name
    ip := joinTexts addrs
    addresses := addrs
    mode := "tunnel"
    comment
    role := "tunnel"
    vpnCount := 0
    gpCount := 0
    adminState := state }

/-- A row appended, of which the total alone takes note. -/
def Interfaces.append (acc : Interfaces) (row : InterfaceRow) : Interfaces :=
  { acc with
    list := acc.list ++ [row]
    total := (acc.list ++ [row]).length }

/-- One entry of the tunnel interfaces. -/
def addTunnelInterface (acc : Interfaces) (e : Json) : Except AccessError Interfaces :=
  if !e.isObject then .ok acc
  else do return acc.append (← readTunnelInterface dump e)

/-- The interfaces of the two documents. -/
def composeInterfaces (vpnOn gpOn : List String) (ifDoc tunIfDoc : Json) :
    Except AccessError Interfaces := do
  let acc ← (← entriesOf ifDoc).foldlM (addInterface dump vpnOn gpOn) {}
  let acc := { acc with total := acc.list.length }
  (← entriesOf tunIfDoc).foldlM (addTunnelInterface dump) acc

/-! ### Tunnels -/

/-- What is read of a tunnel. -/
structure TunnelEntry where
  name : String
  interfaceName : String
  gateways : List String
  crypto : String
  monitor : String
  disabled : Bool
deriving DecidableEq, Repr

/-- The profile of a tunnel and the gateways it names. -/
def readAutoKey (e : Json) : Except AccessError (String × List String) :=
  e.readMember "auto-key" ("", []) fun ak =>
    if !ak.isObject then .ok ("", [])
    else do
      let crypto ← str dump ak "ipsec-crypto-profile"
      let gateways ← ak.readMember "ike-gateway" [] fun gs => do
        entryNames dump (← entriesOf gs)
      return (crypto, gateways)

/-- The reads of one entry of the tunnels. -/
def readTunnel (e : Json) : Except AccessError (List TunnelEntry) :=
  if !e.isObject then .ok []
  else do
    let (crypto, gateways) ← readAutoKey dump e
    let dis ← str dump e "disabled"
    let monitor ← e.readMember "tunnel-monitor" "" fun m => str dump m "enable"
    let name ← str dump e "@name"
    let interfaceName ← str dump e "tunnel-interface"
    let disabled := dis = "yes" || dis = "true"
    return [{ name, interfaceName, gateways, crypto, monitor, disabled }]

/-- The tunnels of a document. -/
def readTunnels (doc : Json) : Except AccessError (List TunnelEntry) := do
  collect (readTunnel dump) (← entriesOf doc)

end Compose

/-- A row of the tunnels. -/
structure TunnelRow where
  name : String
  interfaceName : String
  gateway : String
  crypto : String
  monitor : String
  peer : Option Peer
  enabled : Bool
deriving DecidableEq, Repr

/-- The tunnels, the counts of them, and which of them rides which gateway. -/
structure Tunnels where
  list : List TunnelRow := []
  total : ℕ := 0
  enabled : ℕ := 0
  disabled : ℕ := 0
  tunnelOfGateway : List (String × String) := []
deriving DecidableEq, Repr

/-- `byName`, a map in which the last of a name stands. -/
def byName (ikeGws : List IkeGateway) : List (String × IkeGateway) :=
  ikeGws.foldl (fun m g => (g.name, g) :: m) []

/-- One tunnel, joined to the gateway that is named as its gateways are, joined. -/
def addTunnel (ikeGws : List IkeGateway) (acc : Tunnels) (t : TunnelEntry) : Tunnels :=
  let gateway := joinTexts t.gateways
  { acc with
    list := acc.list ++ [{
      name := t.name
      interfaceName := t.interfaceName
      gateway
      crypto := t.crypto
      monitor := t.monitor
      peer := ((byName ikeGws).lookup gateway).map (·.peer)
      enabled := !t.disabled }]
    enabled := if t.disabled then acc.enabled else acc.enabled + 1
    disabled := if t.disabled then acc.disabled + 1 else acc.disabled
    tunnelOfGateway :=
      if gateway = "" then acc.tunnelOfGateway else (gateway, t.name) :: acc.tunnelOfGateway }

/-- A link to a peer. -/
structure Link where
  device : String
  deviceName : String
  site : String
  interfaceName : String
  localIp : String
  gateway : String
  tunnel : String
  peer : Peer
deriving DecidableEq, Repr

/-- A firewall of the configuration. -/
structure Device where
  oid : String
  name : String
  site : String
deriving DecidableEq, Repr

/-- A gateway has a peer that is known. -/
def IkeGateway.known (g : IkeGateway) : Bool := g.peer.kind ≠ .Unknown && g.peer.addr ≠ []

/-- The link a gateway implies, where its peer is known. -/
def linkOf (fw : Device) (tunnelOfGateway : List (String × String)) (g : IkeGateway) :
    Option Link :=
  if g.known then
    some {
      device := fw.oid
      deviceName := fw.name
      site := fw.site
      interfaceName := g.interfaceName
      localIp := g.localIp
      gateway := g.name
      tunnel := (tunnelOfGateway.lookup g.name).getD ""
      peer := g.peer }
  else none

/-! ### A firewall -/

/-- The documents collected of a firewall, null where there is none. -/
structure Docs where
  ifDoc : Json := .null
  tunDoc : Json := .null
  ikeDoc : Json := .null
  tunIfDoc : Json := .null
  portalDoc : Json := .null
  gwDoc : Json := .null

/-- What is composed of them. -/
structure Ngfw where
  interfaces : Interfaces
  tunnels : Tunnels
  ike : List IkeGateway
  ikeTotal : ℕ
  portals : List GpPortal
  gateways : List GpGateway
  links : List Link
deriving DecidableEq, Repr

/-- The interfaces that something terminates on, each once for each such thing. -/
def terminating (interfaceNames : List String) : List String := interfaceNames.filter (· ≠ "")

/-- The part of `composeNgfw` that composes a firewall of its documents. -/
def compose (dump : Json → String) (fw : Device) (docs : Docs) : Except AccessError Ngfw := do
  let ikeGws ← readIkeGateways dump docs.ikeDoc
  let portals ← readGpPortals dump docs.portalDoc
  let gateways ← readGpGateways dump docs.gwDoc
  let vpnOn := terminating (ikeGws.map (·.interfaceName))
  let gpOn := terminating (portals.map (·.interfaceName) ++ gateways.map (·.interfaceName))
  let interfaces ← composeInterfaces dump vpnOn gpOn docs.ifDoc docs.tunIfDoc
  let entries ← readTunnels dump docs.tunDoc
  let tunnels := entries.foldl (addTunnel ikeGws) {}
  return {
    interfaces
    tunnels := { tunnels with total := tunnels.list.length }
    ike := ikeGws
    ikeTotal := ikeGws.length
    portals
    gateways
    links := ikeGws.filterMap (linkOf fw tunnels.tunnelOfGateway) }

end Pretzel.Topologyd
