/-
  Managed networks (`validate_network` and `network_value` of `src/config_v3.cpp`).
-/
import Mathlib.Data.List.Sort
import GraphX.Config.Address

namespace GraphX.Config

/-! ## Validation -/

/-- `config_value_json(member(a, "vlan"), false)` -/
def vlanText (vlan : Option Vlan) : String :=
  let tag := (vlan.bind (·.accessTag)).toList.map fun tag => "\"access_tag\":" ++ toString tag.val
  let trunks := (vlan.bind (·.trunks)).toList.map fun tags =>
    "\"trunks\":[" ++ ",".intercalate (tags.map fun tag => toString tag.val) ++ "]"
  "\x7b" ++ ",".intercalate (tag ++ trunks) ++ "\x7d"

def inSubnet (address : UInt32) (subnet : Cidr) : Bool := address &&& subnet.mask = subnet.address

def validateSubnet (id : Ident) (text : String) : Except Failure Cidr := do
  let parsed ← cidr text ("network.networks." ++ id.text)
  require (parsed.address &&& parsed.mask = parsed.address) "E_ADDRESS"
    ("network.networks." ++ id.text) "subnet must use its network address"
  .ok parsed

def validateNetworkEntry (subnets : List (Ident × List Cidr)) (n : NetworkEntry) :
    Except Failure (List (Ident × List Cidr)) := do
  require (!subnets.any (·.1 = n.id)) "E_NAME_CONFLICT" "network.networks" "duplicate network ID"
  let parsed ← n.subnets.mapM (validateSubnet n.id)
  require (!parsed.isEmpty) "E_ADDRESS" ("network.networks." ++ n.id.text)
    "at least one subnet is required"
  match n.gateway with
  | none => .ok (subnets ++ [(n.id, parsed)])
  | some gateway =>
    let address ← ip gateway ("network.networks." ++ n.id.text ++ ".gateway")
    require (parsed.any (inSubnet address)) "E_ADDRESS" ("network.networks." ++ n.id.text)
      "gateway is outside subnet"
    .ok (subnets ++ [(n.id, parsed)])

def freshIdent (seen : List Ident) (id : Ident) (path message : String) : Except Failure (List Ident) :=
  Check.fresh seen id (.reject "E_NAME_CONFLICT" path message)

def validateSwitch (switches : List Ident) (sw : Switch) : Except Failure (List Ident) := do
  let switches ← freshIdent switches sw.id "network.switches" "duplicate switch ID"
  let ports ← sw.ports.foldlM (fun ports p =>
    freshIdent ports p.id "network.switches" "duplicate switch port") []
  require (sw.mirror.all fun mirror => mirror.outputPort ∈ ports) "E_REFERENCE" "network.switches"
    "mirror output port is unknown"
  .ok switches

/-- The graph around a network: what its names may refer to. -/
structure Surroundings where
  nodes : Table Ident Node
  connections : Table Ident Connection

def isRecorder (node : Node) : Bool :=
  node.type = "vita.recorder" && node.execution.kind = .container

def validateMirror (graph : Surroundings) (attachments : List Attachment) (a : Attachment)
    (path : String) : Except Failure Unit := do
  require (a.networkSwitch.isSome && a.port.isSome) "E_REFERENCE" path "mirror requires switch and port"
  require (!(a.address.isSome || a.routes.isSome || a.aliases.isSome)) "E_NETWORK" path
    "mirror must be unaddressed"
  if a.delivery.getD .host = .container then
    require ((graph.nodes.get? a.owner).any isRecorder) "E_NETWORK" path
      "container mirror requires a container vita.recorder owner"
    require (attachments.all fun other => !(other.owner = a.owner && other.id ≠ a.id)) "E_NETWORK" path
      "recorder may only own its passive attachment"

def validateRoute (path : String) (route : Route) : Except Failure Unit := do
  let _ ← cidr route.destination (path ++ ".routes")
  match route.via with
  | none => .ok ()
  | some via =>
    let _ ← ip via (path ++ ".routes.via")
    .ok ()

/-- The key under which the address of an attachment is unique. -/
def addressKey (network : Ident) (vlan : Option Vlan) (address : String) : String :=
  network.text ++ ":" ++ vlanText vlan ++ ":" ++ address

def validateAddress (subnets : List (Ident × List Cidr)) (keys : List String) (a : Attachment)
    (path : String) : Except Failure (List String) := do
  match a.network.bind fun network => subnets.find? (·.1 = network) with
  | none => .error (.reject "E_REFERENCE" (path ++ ".network") "unknown network")
  | some (network, prefixes) =>
    match a.address with
    | none => .error (.reject "E_ADDRESS" (path ++ ".address") "attachment address is required")
    | some text =>
      let address ← cidr text (path ++ ".address")
      require (prefixes.any fun s => inSubnet address.address s && address.mask = s.mask) "E_ADDRESS"
        (path ++ ".address") "attachment prefix does not match network"
      let keys ← Check.fresh keys (addressKey network a.vlan (String.ofList (hostPart text)))
        (.reject "E_ADDRESS_CONFLICT" (path ++ ".address") "duplicate address in segment and VLAN")
      (a.routes.getD []).forM (validateRoute path)
      .ok keys

/-- The attachments seen, and the keys of their addresses. -/
structure AttachmentScan where
  ids : List String := []
  addressKeys : List String := []

def validateAttachment (graph : Surroundings) (net : Network) (subnets : List (Ident × List Cidr))
    (switches : List Ident) (scan : AttachmentScan) (indexed : Attachment × ℕ) :
    Except Failure AttachmentScan := do
  let a := indexed.1
  let path := "network.attachments[" ++ toString indexed.2 ++ "]"
  let ids ← Check.fresh scan.ids a.id (.reject "E_NAME_CONFLICT" path "duplicate attachment ID")
  require (a.networkSwitch.all (· ∈ switches)) "E_REFERENCE" (path ++ ".switch") "unknown switch"
  require (!(a.delivery.isSome && a.kind ≠ .mirror)) "E_NETWORK" path
    "delivery is only valid for mirrors"
  if a.kind = .mirror then
    validateMirror graph net.attachments a path
    .ok { scan with ids := ids }
  else
    let keys ← validateAddress subnets scan.addressKeys a path
    .ok { ids := ids, addressKeys := keys }

/-- The mirrors again, now that all attachments are known. -/
def validateMirrorPort (net : Network) (a : Attachment) : Except Failure Unit :=
  if a.kind ≠ .mirror then .ok () else do
    let sw := net.switches.find? fun s => some s.id = a.networkSwitch
    require ((sw.bind (·.mirror)).any fun mirror =>
        some mirror.outputPort = a.port && mirror.selectAll) "E_NETWORK" "network.attachments"
      "mirror must use the dedicated select-all output port"
    require (net.attachments.all fun other => !(other.id ≠ a.id && other.networkSwitch.isSome &&
        other.networkSwitch = a.networkSwitch &&
        (other.kind = .mirror || (other.port.isSome && other.port = a.port)))) "E_NETWORK"
      "network.attachments" "mirror output must be exclusive and unique per bridge"
    let mtu := (a.mtu.map (·.val)).getD 1500
    require (net.attachments.all fun other => !(other.networkSwitch.isSome &&
        other.networkSwitch = a.networkSwitch && mtu < (other.mtu.map (·.val)).getD 1500)) "E_MTU"
      "network.attachments" "mirror MTU is below selected bridge path"
    require (net.captures.all fun capture =>
        !(capture.attachment.text = a.id && capture.snaplen.val < mtu + 22)) "E_MTU"
      "network.captures" "capture snaplen cannot retain complete Ethernet/VLAN frames"

def validateInterface (path : String) (networks switches interfaces : List Ident)
    (interface : RouterInterface) : Except Failure (List Ident) := do
  let interfaces ← freshIdent interfaces interface.id (path ++ ".interfaces") "duplicate router interface"
  require (interface.network ∈ networks && interface.networkSwitch ∈ switches) "E_REFERENCE"
    (path ++ ".interfaces") "unknown interface network or switch"
  let _ ← cidr interface.address (path ++ ".interfaces.address")
  .ok interfaces

def validatePolicy (path : String) (policies : List Ident) (policy : Policy) :
    Except Failure (List Ident) := do
  let policies ← freshIdent policies policy.id (path ++ ".policies") "duplicate policy ID"
  let _ ← cidr policy.source (path ++ ".policies.source")
  let _ ← cidr policy.destination (path ++ ".policies.destination")
  .ok policies

def validateRouterRoute (path : String) (interfaces : List Ident) (routes : List String)
    (route : Route) : Except Failure (List String) := do
  let _ ← cidr route.destination (path ++ ".routes.destination")
  let routes ← Check.fresh routes route.destination
    (.reject "E_NAME_CONFLICT" (path ++ ".routes") "duplicate route destination")
  match route.via with
  | none => pure ()
  | some via =>
    let _ ← ip via (path ++ ".routes.via")
  require (route.interface.any (· ∈ interfaces)) "E_REFERENCE" (path ++ ".routes.interface")
    "route requires known interface"
  .ok routes

def validateRouter (networks switches routers : List Ident) (router : Router) :
    Except Failure (List Ident) := do
  let path := "network.routers." ++ router.id.text
  let routers ← freshIdent routers router.id path "duplicate router ID"
  let interfaces ← router.interfaces.foldlM (validateInterface path networks switches) []
  let _ ← router.policies.foldlM (validatePolicy path) []
  let _ ← router.routes.foldlM (validateRouterRoute path interfaces) []
  .ok routers

/-- The switch ports in use, and the keys of the addresses. -/
structure OwnerScan where
  portsUsed : List String := []
  addressKeys : List String

/-- An alias is unique in its network, whatever the VLAN. -/
def aliasKey (network : Ident) (address : UInt32) : String :=
  network.text ++ ":alias:" ++ toString address.toNat

def validateAlias (a : Attachment) (keys : List String) (text : String) :
    Except Failure (List String) := do
  let path := "network.attachments." ++ a.id
  let address ← cidr text (path ++ ".aliases")
  let network ← at? a.network
  Check.fresh keys (aliasKey network address.address)
    (.reject "E_ADDRESS_CONFLICT" (path ++ ".aliases") "duplicate alias address")

/-- The port that an attachment takes of its switch. -/
def validatePortUse (portsUsed : List String) (a : Attachment) (path : String) :
    Except Failure (List String) :=
  match a.port, a.networkSwitch with
  | none, _ => .ok portsUsed
  | some _, none => .error (.reject "E_REFERENCE" (path ++ ".switch") "port requires a switch")
  | some port, some sw =>
    Check.fresh portsUsed (sw.text ++ "." ++ port.text)
      (.reject "E_NAME_CONFLICT" (path ++ ".port") "switch port already has an attachment")

def validateOwner (graph : Surroundings) (switches routers : List Ident) (scan : OwnerScan)
    (a : Attachment) : Except Failure OwnerScan := do
  let path := "network.attachments." ++ a.id
  require (graph.nodes.contains a.owner || a.owner ∈ routers || a.owner ∈ switches) "E_REFERENCE"
    (path ++ ".owner") "unknown attachment owner"
  let portsUsed ← validatePortUse scan.portsUsed a path
  let keys ← (a.aliases.getD []).foldlM (validateAlias a) scan.addressKeys
  .ok { portsUsed := portsUsed, addressKeys := keys }

def validateCapture (ids : List String) (captures : List Ident) (capture : Capture) :
    Except Failure (List Ident) := do
  let captures ← freshIdent captures capture.id "network.captures" "duplicate capture ID"
  require (capture.attachment.text ∈ ids) "E_REFERENCE" "network.captures" "unknown capture attachment"
  .ok captures

def validateEdgePath (graph : Surroundings) (networks switches routers : List Ident)
    (ids : List String) (path : Ident × List Ident) : Except Failure Unit := do
  require (graph.connections.contains path.1) "E_REFERENCE" ("network.edge_paths." ++ path.1.text)
    "unknown connection"
  path.2.forM fun hop =>
    require (graph.nodes.contains hop || hop ∈ networks || hop ∈ switches || hop ∈ routers ||
      hop.text ∈ ids) "E_REFERENCE" ("network.edge_paths." ++ path.1.text) "unknown path hop"

def validateNetwork (graph : Surroundings) (net : Network) : Except Failure Unit := do
  let subnets ← net.networks.foldlM validateNetworkEntry []
  let networks := subnets.map (·.1)
  let switches ← net.switches.foldlM validateSwitch []
  let scan ← net.attachments.zipIdx.foldlM (validateAttachment graph net subnets switches) {}
  net.attachments.forM (validateMirrorPort net)
  let routers ← net.routers.foldlM (validateRouter networks switches) []
  let _ ← net.attachments.foldlM (validateOwner graph switches routers)
    { addressKeys := scan.addressKeys }
  let _ ← net.captures.foldlM (validateCapture scan.ids) []
  net.edgePaths.entries.forM (validateEdgePath graph networks switches routers scan.ids)

/-! ## Expansion -/

/-- What the loader takes from outside. -/
structure Environment where
  sha256 : String → String

def kindLetter (kind : String) : String :=
  if kind = "bridge" then "b" else if kind = "interface" then "i" else if kind = "peer" then "p"
  else if kind = "namespace" then "n" else "t"

def resourceName (env : Environment) (graph kind id : String) : String :=
  "gx" ++ kindLetter kind ++
    String.ofList ((env.sha256 (graph ++ "\x00" ++ kind ++ "\x00" ++ id)).toList.take 12)

structure ResolvedAttachment extends Attachment where
  interface : Option String := none
  peer : Option String := none
  namespaceName : Option String := none
  deriving DecidableEq

structure ResolvedPort extends SwitchPort where
  interface : String
  peer : Option String
  deriving DecidableEq

structure ResolvedSwitch where
  id : Ident
  name : String
  ports : List ResolvedPort
  mirror : Option Mirror
  deriving DecidableEq

structure ResolvedInterface extends RouterInterface where
  device : String
  peer : String
  deriving DecidableEq

structure ResolvedRoute extends Route where
  device : String
  deriving DecidableEq

structure ResolvedRouter where
  id : Ident
  forwarding : Bool
  interfaces : List ResolvedInterface
  policies : List Policy
  routes : List ResolvedRoute
  namespaceName : String
  deriving DecidableEq

structure ResolvedCapture extends Capture where
  directory : String
  deriving DecidableEq

structure ResolvedNetwork where
  networks : List NetworkEntry
  switches : List ResolvedSwitch
  routers : List ResolvedRouter
  attachments : List ResolvedAttachment
  captures : List ResolvedCapture
  edgePaths : Table Ident (List Ident)
  deriving DecidableEq

/-- The members that the checks of a network read. -/
def ResolvedNetwork.toNetwork (net : ResolvedNetwork) : Network where
  networks := net.networks
  switches := net.switches.map fun sw =>
    { id := sw.id, ports := sw.ports.map (·.toSwitchPort), mirror := sw.mirror }
  routers := net.routers.map fun router =>
    { id := router.id, forwarding := router.forwarding
      interfaces := router.interfaces.map (·.toRouterInterface), policies := router.policies
      routes := router.routes.map (·.toRoute) }
  attachments := net.attachments.map (·.toAttachment)
  captures := net.captures.map (·.toCapture)
  edgePaths := net.edgePaths

section expansion
variable (env : Environment) (graphId : Ident)

def resolveSwitch (sw : Switch) : ResolvedSwitch where
  id := sw.id
  name := resourceName env graphId.text "bridge" sw.id.text
  ports := sw.ports.map fun port =>
    let logical := sw.id.text ++ "." ++ port.id.text
    { toSwitchPort := port, interface := resourceName env graphId.text "interface" logical
      peer := some (resourceName env graphId.text "peer" logical) }
  mirror := sw.mirror

def resolveInterface (router : Router) (interface : RouterInterface) : ResolvedInterface :=
  let logical := router.id.text ++ "." ++ interface.id.text
  { toRouterInterface := interface, device := resourceName env graphId.text "interface" logical
    peer := resourceName env graphId.text "peer" logical }

def isIpvlan : Profile → Bool
  | .ipvlanL2 | .ipvlanL3 => true
  | .ethernet | .macvlan => false

/-- The attachment of a router interface.  In an ipvlan network it shares the MAC of
    the first attachment that has one. -/
def interfaceAttachment (networks : List NetworkEntry) (router : Router)
    (attachments : List ResolvedAttachment) (interface : ResolvedInterface) :
    Except Failure (List ResolvedAttachment) :=
  match networks.find? (·.id = interface.network) with
  | none => .error (.reject "E_REFERENCE" ("network.routers." ++ router.id.text) "unknown network")
  | some definition =>
    let peer := attachments.find? fun p => p.network = some interface.network && p.mac.isSome
    .ok (attachments ++ [{
      id := (interface.attachmentId.map (·.text)).getD
        (router.id.text ++ "-" ++ interface.id.text)
      kind := .namespaceVeth
      owner := router.id
      network := some interface.network
      address := some interface.address
      interface := some interface.device
      peer := some interface.peer
      networkSwitch := some interface.networkSwitch
      port := interface.port
      mac := if isIpvlan definition.profile then peer.bind (·.mac) else none }])

def resolveRoute (router : Router) (interfaces : List ResolvedInterface) (route : Route) :
    Except Failure ResolvedRoute := do
  let path := "network.routers." ++ router.id.text ++ ".routes"
  match route.interface with
  | none => .error (.reject "E_REFERENCE" path "route must select a router interface")
  | some selected =>
    match interfaces.find? (·.id = selected) with
    | none => .error (.reject "E_REFERENCE" path "unknown route interface")
    | some found => .ok { toRoute := route, device := found.device }

structure RouterExpansion where
  routers : List ResolvedRouter := []
  attachments : List ResolvedAttachment

def expandRouter (networks : List NetworkEntry) (expansion : RouterExpansion) (router : Router) :
    Except Failure RouterExpansion := do
  let interfaces := router.interfaces.map (resolveInterface env graphId router)
  let attachments ← interfaces.foldlM (interfaceAttachment networks router) expansion.attachments
  let routes ← router.routes.mapM (resolveRoute router interfaces)
  .ok { routers := expansion.routers ++ [{
          id := router.id, forwarding := router.forwarding, interfaces := interfaces
          policies := router.policies, routes := routes
          namespaceName := resourceName env graphId.text "namespace" router.id.text }]
        attachments := attachments }

/-- The first element that satisfies a condition, replaced. -/
def replaceFirst {α : Type} (p : α → Bool) (f : α → α) : List α → List α
  | [] => []
  | a :: rest => if p a then f a :: rest else a :: replaceFirst p f rest

/-- An attachment with the names of its interfaces, before its port is consulted. -/
def nameAttachment (nodes : Table Ident Node) (a : ResolvedAttachment) : ResolvedAttachment :=
  { a with
    interface := some (a.interface.getD (resourceName env graphId.text
      (if a.kind = .qemuTap then "tap" else "interface") a.id))
    peer := if a.kind ≠ .qemuTap then some (a.peer.getD (resourceName env graphId.text "peer" a.id))
      else a.peer
    namespaceName := if a.kind = .namespaceVeth && nodes.contains a.owner then
      some (resourceName env graphId.text "namespace" a.owner.text) else a.namespaceName }

structure AttachmentExpansion where
  switches : List ResolvedSwitch
  attachments : List ResolvedAttachment := []

/-- Names an attachment; its switch port takes the names, and it takes the VLAN of
    the port. -/
def resolveAttachment (nodes : Table Ident Node) (expansion : AttachmentExpansion)
    (authored : ResolvedAttachment) : Except Failure AttachmentExpansion :=
  if authored.kind = .external then
    .ok { expansion with attachments := expansion.attachments ++ [authored] }
  else
    let a := nameAttachment env graphId nodes authored
    match a.port with
    | none => .ok { expansion with attachments := expansion.attachments ++ [a] }
    | some portId => do
      let swId ← at? a.networkSwitch
      match expansion.switches.find? (·.id = swId) with
      | none => .error (.reject "E_REFERENCE" ("network.attachments." ++ a.id) "unknown switch")
      | some sw =>
        match sw.ports.find? (·.id = portId) with
        | none => .error (.reject "E_REFERENCE" ("network.attachments." ++ a.id) "unknown switch port")
        | some port =>
          .ok { switches := replaceFirst (·.id = swId) (fun sw => { sw with
                  ports := replaceFirst (·.id = portId) (fun port => { port with
                    interface := a.interface.getD "", peer := a.peer }) sw.ports }) expansion.switches
                attachments := expansion.attachments ++ [{ a with vlan := port.vlan.or a.vlan }] }

def resolveCapture (attachments : List ResolvedAttachment) (capture : Capture) :
    Except Failure ResolvedCapture := do
  require (attachments.any (·.id = capture.attachment.text)) "E_REFERENCE" "network.captures"
    "unknown capture attachment"
  .ok { toCapture := capture
        directory := "/var/lib/graphx/captures/" ++ graphId.text ++ "/" ++ capture.id.text }

def sortById {α : Type} (id : α → String) (l : List α) : List α :=
  l.insertionSort fun a b => id a ≤ id b

/-- `network_value`; a graph without a network has an empty one. -/
def networkValue (nodes : Table Ident Node) (authored : Option Network) :
    Except Failure ResolvedNetwork := do
  let net := authored.getD { networks := [], switches := [], attachments := [] }
  let expanded ← net.routers.foldlM (expandRouter env graphId net.networks)
    { attachments := net.attachments.map fun a => { toAttachment := a } }
  let resolved ← expanded.attachments.foldlM (resolveAttachment env graphId nodes)
    { switches := net.switches.map (resolveSwitch env graphId) }
  let captures ← net.captures.mapM (resolveCapture graphId resolved.attachments)
  .ok { networks := sortById (·.id.text) net.networks
        switches := sortById (·.id.text) resolved.switches
        routers := sortById (·.id.text) expanded.routers
        attachments := sortById (·.id) resolved.attachments
        captures := sortById (·.id.text) captures
        edgePaths := net.edgePaths }

end expansion

end GraphX.Config
