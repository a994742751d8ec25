import Pretzel.Library.JsonAccess
import Pretzel.Library.Texts

/-!
What a PAN-OS configuration document says a thing is (`NgfwModel.cpp`).

* `bareHost`, `parseV4`, `isPrivateV4`: addresses. `classifyPeer`: what is at the
  other end of a tunnel.
* `entriesOf`, `str`, `interfaceAddresses`, `interfaceMode`, `adminState`: the
  readers of one entry, which throw where a typed access does.
* `readIkeGateways`, `readGpPortals`, `readGpGateways`: the readers of a document.
-/

namespace Pretzel.Topologyd

open Nlohmann Texts

/-! ### Hosts -/

/-- `lower`, in the C locale. -/
def lower (s : List Char) : List Char := s.map Char.toLower

/-- `bareHost`: a prefix length goes, and a port behind a dotted name. -/
def bareHost (s : List Char) : List Char :=
  let out := s.takeWhile (· ≠ '/')
  if out.count ':' = 1 ∧ '.' ∈ out then out.takeWhile (· ≠ ':') else out

/-- One number of `parseV4`. -/
def octet (part : List Char) : Option ℕ :=
  if part = [] ∨ part.length > 3 ∨ !part.all Char.isDigit then none
  else
    let v := part.foldl (fun n c => 10 * n + (c.toNat - 48)) 0
    if v > 255 then none else some v

/-- `parseV4`. -/
def parseV4 (s : List Char) : Option (ℕ × ℕ × ℕ × ℕ) :=
  match ((bareHost s).splitOn '.').map octet with
  | [some a, some b, some c, some d] => some (a, b, c, d)
  | _ => none

/-- `IfRole`. -/
inductive IfRole where
  | Wan
  | Edge
  | Lan
  | Loopback
  | Tunnel
  | Unknown
deriving DecidableEq, Repr

/-- `ifRoleName`. -/
def ifRoleName : IfRole → String
  | .Wan => "wan"
  | .Edge => "edge"
  | .Lan => "lan"
  | .Loopback => "loopback"
  | .Tunnel => "tunnel"
  | .Unknown => "unknown"

/-- `PeerKind`. -/
inductive PeerKind where
  | ServiceConnection
  | RemoteNetwork
  | External
  | Unknown
deriving DecidableEq, Repr

/-- `isPrivateV4`. -/
def isPrivateV4 (cidrOrIp : List Char) : Bool :=
  match parseV4 cidrOrIp with
  | none => false
  | some (a, b, _, _) =>
      a = 10 || (a = 172 && 16 ≤ b && b ≤ 31) || (a = 192 && b = 168) ||
        (a = 100 && 64 ≤ b && b ≤ 127) || (a = 169 && b = 254) || a = 127

/-- `Peer`. -/
structure Peer where
  kind : PeerKind := .Unknown
  addr : List Char := []
  label : List Char := []
  region : List Char := []
  tenant : List Char := []
deriving DecidableEq, Repr

/-- The labels joined by dots, an empty front dropped as it is joined. -/
def joinLabels (labels : List (List Char)) : List Char :=
  labels.foldl (fun label l => label ++ (if label = [] then [] else ['.']) ++ l) []

/-- The peer a marker stands for, with the labels before it and the one behind. -/
def markedPeer (p : Peer) (host : List Char) (before : List (List Char))
    (marker next : List Char) : Peer :=
  let kind := if marker = "sc".toList then PeerKind.ServiceConnection else .RemoteNetwork
  let p := { p with kind := kind, tenant := next }
  let p :=
    if 2 ≤ before.length then
      { p with region := before.getLastD [], label := joinLabels before.dropLast }
    else if before.length = 1 then { p with label := before.headD [] }
    else p
  if p.label = [] then { p with label := host } else p

/-- The loop of `classifyPeer` over the labels, the last apart, behind those that were
passed. -/
def classifyLabels (p : Peer) (host : List Char) :
    List (List Char) → List (List Char) → Option Peer
  | before, l :: next :: rest =>
      if l = "sc".toList ∨ l = "rn".toList then some (markedPeer p host before l next)
      else classifyLabels p host (before ++ [l]) (next :: rest)
  | _, _ => none

/-- `classifyPeer`. -/
def classifyPeer (addr : List Char) : Peer :=
  let p : Peer := { addr := addr }
  if addr = [] then p
  else
    let host := lower (bareHost addr)
    if (parseV4 host).isSome then { p with kind := .External, label := bareHost addr }
    else if afterFirst "gpcloudservice.com".toList host = none then
      { p with kind := .External, label := host }
    else
      (classifyLabels p host [] (host.splitOn '.')).getD
        { p with kind := .External, label := host }

/-! ### Entries -/

/-- The object the entries of a document are looked for in. -/
def entryNode (doc : Json) : Except AccessError Json :=
  doc.readMember "result" doc fun result => .ok (if result.isObject then result else doc)

/-- The entries of such an object: a list of them, or one that stands alone. -/
def nodeEntries (node : Json) : Except AccessError (List Json) :=
  node.readMember "entry" [] fun e =>
    match e with
    | .arr es => .ok es
    | .obj ms => .ok [.obj ms]
    | _ => .ok []

/-- `entriesOf`, as the list of its elements. -/
def entriesOf (doc : Json) : Except AccessError (List Json) :=
  if !doc.isObject then .ok []
  else do nodeEntries (← entryNode doc)

section Readers

variable (dump : Json → String)

/-- `str`. -/
def str (o : Json) (key : String) : Except AccessError String :=
  if !o.isObject then .ok ""
  else
    o.readMember key "" fun v =>
      match v with
      | .null => .ok ""
      | .str s => .ok s
      | v => .ok (dump v)

mutual

/-- `ipOf`. -/
def ipOf : Json → Except AccessError String
  | .obj ms =>
      if (Json.obj ms).contains "ipv4" then str dump (.obj ms) "ipv4"
      else if (Json.obj ms).contains "ip" then ipOfMember ms
      else .ok ""
  | .str s => .ok s
  | _ => .ok ""

/-- `ipOf(node["ip"])`, by the members of the node. -/
def ipOfMember : List (String × Json) → Except AccessError String
  | [] => .error .absentMember
  | (key, v) :: ms => if key = "ip" then ipOf v else ipOfMember ms

end

/-- `readLocalAddress`: the interface and the address. -/
def readLocalAddress (node : Json) : Except AccessError (String × String) :=
  if !node.isObject then .ok ("", "")
  else do
    let iface ← str dump node "interface"
    let ip ← node.readMember "ip" "" (ipOf dump)
    return (iface, ip)

/-- The names of some entries that are not empty. -/
def entryNames : List Json → Except AccessError (List String) :=
  collect fun a => do
    let name ← str dump a "@name"
    return if name = "" then [] else [name]

/-- The addresses of one mode of an interface. -/
def modeAddresses (m : Json) : Except AccessError (List String) :=
  if !m.isObject then .ok []
  else
    m.readMember "ip" [] fun ip => do
      let out ← entryNames dump (← entriesOf m)
      if out ≠ [] then return out
      else if ip.isObject then entryNames dump (← entriesOf ip)
      else return []

/-- The loop of `interfaceAddresses`: the first mode that has some. -/
def addressesFrom (entry : Json) : List String → Except AccessError (List String)
  | [] => .ok []
  | mode :: rest => do
      let out ← entry.readMember mode [] (modeAddresses dump)
      if out ≠ [] then return out else addressesFrom entry rest

/-- `interfaceAddresses`. -/
def interfaceAddresses (entry : Json) : Except AccessError (List String) :=
  addressesFrom dump entry ["layer3", "layer2", "tap", "ha", "virtual-wire"]

/-- `interfaceMode`. -/
def interfaceMode (entry : Json) : String :=
  (["layer3", "layer2", "tap", "ha", "virtual-wire", "aggregate-group"].find?
    entry.contains).getD ""

/-- `adminState`. -/
def adminState (entry : Json) : Except AccessError String := do
  let ls := lower (← str dump entry "link-state").toList
  if (afterFirst "down".toList ls).isSome then return "down"
  else if (afterFirst "up".toList ls).isSome then return "up"
  else
    let disabled ← str dump entry "disabled"
    return if disabled = "yes" ∨ disabled = "true" then "down" else "up"

/-! ### Documents -/

/-- `IkeGateway`. -/
structure IkeGateway where
  name : String
  interfaceName : String
  localIp : String
  peer : Peer
  version : String
deriving DecidableEq, Repr

/-- The first text that is not empty. -/
def firstText (a : Except AccessError String) (b : Except AccessError String) :
    Except AccessError String := do
  let text ← a
  if text = "" then b else return text

/-- The peer of a gateway's entry. -/
def readPeer (e : Json) : Except AccessError Peer :=
  e.readMember "peer-address" {} fun pa =>
    if !pa.isObject then .ok {}
    else do
      let addr ← firstText (firstText (str dump pa "ip") (str dump pa "fqdn")) (ipOf dump pa)
      return classifyPeer addr.toList

/-- The interface and the address of an entry. -/
def readLocal (e : Json) : Except AccessError (String × String) :=
  e.readMember "local-address" ("", "") (readLocalAddress dump)

/-- One gateway of `readIkeGateways`. -/
def readIkeGateway (e : Json) : Except AccessError (List IkeGateway) :=
  if !e.isObject then .ok []
  else do
    let name ← str dump e "@name"
    let (interfaceName, localIp) ← readLocal dump e
    let peer ← readPeer dump e
    let version ← e.readMember "protocol" "" fun protocol => str dump protocol "version"
    return [{ name, interfaceName, localIp, peer, version }]

/-- `readIkeGateways`. -/
def readIkeGateways (doc : Json) : Except AccessError (List IkeGateway) := do
  collect (readIkeGateway dump) (← entriesOf doc)

/-- `GpPortal`. -/
structure GpPortal where
  name : String
  interfaceName : String
  localIp : String
  gateways : List String
deriving DecidableEq, Repr

/-- The label of a gateway of a portal's list, none for one that is passed over. -/
def gatewayLabel (g : Json) : Except AccessError (List String) :=
  if !g.isObject then .ok []
  else do
    let name ← str dump g "@name"
    let addr ← firstText (g.readMember "ip" "" (ipOf dump)) (str dump g "fqdn")
    let label := if addr = "" then name else name ++ (" @ " ++ addr)
    return if label = "" then [] else [label]

/-- The labels under one kind of a configuration's gateways. -/
def kindLabels (gws : Json) (kind : String) : Except AccessError (List String) :=
  gws.readMember kind [] fun node =>
    if !node.isObject then .ok []
    else
      node.readMember "list" [] fun list => do collect (gatewayLabel dump) (← entriesOf list)

/-- The labels of one client configuration. -/
def configLabels (cfg : Json) : Except AccessError (List String) :=
  if !cfg.isObject then .ok []
  else
    cfg.readMember "gateways" [] fun gws => collect (kindLabels dump gws) ["external", "internal"]

/-- The labels of a portal, each once. -/
def portalGateways (e : Json) : Except AccessError (List String) :=
  e.readMember "client-config" [] fun client =>
    if !client.isObject then .ok []
    else
      client.readMember "configs" [] fun configs => do
        let labels ← collect (configLabels dump) (← entriesOf configs)
        return labels.foldl (fun out label => if label ∈ out then out else out ++ [label]) []

/-- The interface and the address of a portal: of `e["portal-config"]["local-address"]`, and
only the first of the two members is looked for before it is read. -/
def portalLocal (e : Json) : Except AccessError (String × String) :=
  e.readMember "portal-config" ("", "") fun config =>
    if !config.isObject then .ok ("", "")
    else do readLocalAddress dump (← config.index "local-address")

/-- One portal of `readGpPortals`. -/
def readGpPortal (e : Json) : Except AccessError (List GpPortal) :=
  if !e.isObject then .ok []
  else do
    let name ← str dump e "@name"
    let (interfaceName, localIp) ← portalLocal dump e
    let gateways ← portalGateways dump e
    return [{ name, interfaceName, localIp, gateways }]

/-- `readGpPortals`. -/
def readGpPortals (doc : Json) : Except AccessError (List GpPortal) := do
  collect (readGpPortal dump) (← entriesOf doc)

/-- `GpGateway`. -/
structure GpGateway where
  name : String
  interfaceName : String
  localIp : String
  tunnelMode : Bool
  pools : List String
deriving DecidableEq, Repr

/-- The pools of one tunnel configuration. -/
def configPools (c : Json) : Except AccessError (List String) :=
  if !c.isObject then .ok []
  else
    c.readMember "ip-pool" [] fun pool =>
      if !pool.isObject then .ok []
      else
        pool.readMember "member" [] fun m =>
          match m with
          | .arr vs => .ok (vs.filterMap fun v => v.getString.toOption)
          | .str s => .ok [s]
          | _ => .ok []

/-- One gateway of `readGpGateways`. -/
def readGpGateway (e : Json) : Except AccessError (List GpGateway) :=
  if !e.isObject then .ok []
  else do
    let name ← str dump e "@name"
    let (interfaceName, localIp) ← readLocal dump e
    let tm ← str dump e "tunnel-mode"
    let tunnelMode := tm = "yes" || tm = "true"
    let pools ← e.readMember "remote-user-tunnel-configs" [] fun configs => do
      collect configPools (← entriesOf configs)
    return [{ name, interfaceName, localIp, tunnelMode, pools }]

/-- `readGpGateways`. -/
def readGpGateways (doc : Json) : Except AccessError (List GpGateway) := do
  collect (readGpGateway dump) (← entriesOf doc)

end Readers

end Pretzel.Topologyd
