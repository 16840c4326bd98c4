/-
  The connections of a graph (`connection_values` of `src/config_v3.cpp`).
-/
import GraphX.Lib.Reach
import GraphX.Config.Placement

namespace GraphX.Config

/-! ## Resolved connections -/

structure TcpSettings where
  host : String
  bind : String
  port : ℕ
  framing : Framing
  connectTimeoutMs : Within 1 600000
  sendTimeoutMs : Within 1 600000
  reconnect : Bool
  retry : Retry
  deriving DecidableEq

structure UdpSettings where
  destination : String
  bind : String
  port : ℕ
  framing : Framing
  mode : UdpMode
  interface : Option String
  ttl : Within 0 255
  loopback : Bool
  reuseAddress : Bool
  maxDatagramBytes : Within 1 65507
  receiveBufferBytes : Within 1 16777216
  sendBufferBytes : Within 1 16777216
  deriving DecidableEq

structure SharedMemorySettings where
  segment : String
  capacity : Within 1 65536
  maxMessageBytes : Within 1 16777216
  connectTimeoutMs : Within 1 600000
  sendTimeoutMs : Within 1 600000
  backpressure : Backpressure
  deriving DecidableEq

inductive ResolvedSettings where
  | tcp (settings : TcpSettings)
  | udp (settings : UdpSettings)
  | sharedMemory (settings : SharedMemorySettings)
  deriving DecidableEq

structure ResolvedConnection where
  id : Ident
  source : Endpoint
  target : Endpoint
  transport : Transport
  schema : String
  encoding : Encoding
  settings : ResolvedSettings
  sourceAddress : String
  destinationAddress : String
  attachments : Option Selected
  security : Security
  deriving DecidableEq

/-! ## Ports -/

section
variable (graph : Graph) (catalog : Catalog)

def typeOf (node : Ident) : Option NodeType := do
  let node ← graph.nodes.get? node
  catalog.types.get? node.type

def portOf (e : Endpoint) : Option PortType := do
  let type ← typeOf graph catalog e.node
  type.ports.get? e.port

/-- The endpoints of the connections seen; a port is connected as often as its
    endpoint occurs.  The source counts under the text `node.port`, which tells
    endpoints apart because no identifier contains a dot. -/
def diagnosePorts (seen : List Endpoint) (entry : Ident × Connection) :
    Except Failure (List Endpoint) :=
  match portOf graph catalog entry.2.source, portOf graph catalog entry.2.target with
  | some out, some input => do
    require (out.schema = input.schema) "E_SCHEMA_MISMATCH" ("connections." ++ entry.1.text)
      "port wire schemas must match"
    .ok (entry.2.target :: entry.2.source :: seen)
  | _, _ => .ok seen

def checkMaxima (seen : List Endpoint) (entry : Ident × Node) : Except Failure Unit := do
  let type ← at? (catalog.types.get? entry.2.type)
  type.ports.entries.forM fun port =>
    require (seen.count ⟨entry.1, port.1⟩ ≤ port.2.maxConnections.val) "E_CARDINALITY"
      ("nodes." ++ entry.1.text ++ ".ports." ++ port.1.text) "connection count exceeds type maximum"

def checkCardinality (seen : List Endpoint) (entry : Ident × Node) : Except Failure Unit := do
  let type ← at? (catalog.types.get? entry.2.type)
  type.ports.entries.forM fun port =>
    require (port.2.minConnections ≤ seen.count ⟨entry.1, port.1⟩ &&
        seen.count ⟨entry.1, port.1⟩ ≤ port.2.maxConnections.val) "E_CARDINALITY"
      ("nodes." ++ entry.1.text ++ ".ports." ++ port.1.text)
      "connection count violates type port minimum/maximum"

def getPort (path side : String) (e : Endpoint) : Except Failure PortType := do
  require (graph.nodes.contains e.node) "E_NODE_UNKNOWN" (path ++ "." ++ side) "unknown node"
  let type ← at? (typeOf graph catalog e.node)
  match type.ports.get? e.port with
  | none => .error (.reject "E_PORT_UNKNOWN" (path ++ "." ++ side) "unknown type port")
  | some port => .ok port

def checkPorts (path : String) (connection : Connection) (out input : PortType) :
    Except Failure Unit := do
  require (out.direction = .output && input.direction = .input) "E_PORT_DIRECTION" path
    "connection must join output to input"
  require (out.schema = input.schema && out.encoding = input.encoding) "E_SCHEMA_MISMATCH" path
    "port wire schemas and encodings must match"
  require (connection.transport ∈ out.transports && connection.transport ∈ input.transports)
    "E_TRANSPORT" path "type does not support selected transport"
  require (!(connection.feedback && (!out.feedback || !input.feedback))) "E_FEEDBACK_UNSUPPORTED"
    (path ++ ".feedback") "port does not support feedback"

/-! ## Addresses -/

/-- The addresses of the two ends of a connection. -/
structure EndAddresses where
  source : String
  destination : String

/-- The addresses of a connection that selects no attachments. -/
def hostAddresses (portable : Option PortableNetwork) (native : Bool) (connection : Connection) :
    Except Failure EndAddresses :=
  match portable with
  | none => .ok { source := if native then "127.0.0.1" else connection.source.node.text
                  destination := if native then "127.0.0.1" else connection.target.node.text }
  | some portable =>
    match portable.addresses.get? connection.source.node,
        portable.addresses.get? connection.target.node with
    | some source, some destination => .ok ⟨source, destination⟩
    | _, _ => .error (.reject "E_ADDRESS" "portable_network.addresses"
        "every connected node requires an address")

/-- The namespace in which a node runs, by its own name or another's. -/
def ownerOf (node : Ident) : Option Ident :=
  (graph.nodes.get? node).map fun n => n.execution.namespaceName.getD node

def findAttachment (attachments : List ResolvedAttachment) (path side : String) (id : Ident) :
    Except Failure ResolvedAttachment :=
  match attachments.find? (·.id = id.text) with
  | none => .error (.reject "E_REFERENCE" (path ++ ".attachments." ++ side) "unknown attachment")
  | some attachment => .ok attachment

structure SelectedEnds where
  first : ResolvedAttachment
  last : ResolvedAttachment

def selectedEnds (attachments : List ResolvedAttachment) (path : String) (connection : Connection)
    (selected : Selected) : Except Failure SelectedEnds := do
  let first ← findAttachment attachments path "from" selected.source
  let last ← findAttachment attachments path "to" selected.target
  require (some first.owner = ownerOf graph connection.source.node &&
      some last.owner = ownerOf graph connection.target.node) "E_REFERENCE" (path ++ ".attachments")
    "selected attachments must belong to connection endpoints"
  .ok ⟨first, last⟩

def attachmentMtu (a : ResolvedAttachment) : ℕ := (a.mtu.map (·.val)).getD 1500

/-- The size of an IP packet that a VITA path must carry. -/
def requiredMtu (connection : Connection) (out : PortType) : Except Failure (Option ℤ) :=
  if out.schema = "VitaIq" then .ok (some 4156)
  else if out.schema = "VitaPowerSpectrum" then do
    let node ← at? (graph.nodes.get? connection.source.node)
    match node.parameters.get? "path_mtu" with
    | none => .ok (some 9000)
    | some (.integer mtu) => .ok (some (max 8864 mtu))
    | some _ => .error .outOfRange
  else .ok none

def checkMtu (attachments : List ResolvedAttachment) (path : String) (ends : SelectedEnds)
    (required : ℤ) : Except Failure Unit := do
  require (ends.first.networkSwitch.isSome && ends.first.networkSwitch = ends.last.networkSwitch)
    "E_MTU" path "managed VITA jumbo paths require one owned application bridge"
  [ends.first, ends.last].forM fun endpoint => do
    require (required ≤ attachmentMtu endpoint) "E_MTU" path
      "VITA path MTU is below complete IP packet budget"
    require (attachments.all fun other => !(other.networkSwitch.isSome &&
        other.networkSwitch = endpoint.networkSwitch && (attachmentMtu other : ℤ) < required)) "E_MTU"
      path "selected bridge includes an insufficient attachment MTU"

/-- A unicast destination may be one of the aliases of the target. -/
def aliasDestination (connection : Connection) (ends : SelectedEnds) (address : String) : String :=
  if connection.transport = .udp && connection.settings.mode.getD .unicast = .unicast then
    match connection.settings.destination with
    | none => address
    | some destination =>
      if (ends.last.aliases.getD []).any fun text => destination = String.ofList (hostPart text)
      then destination else address
  else address

def endAddresses (attachments : List ResolvedAttachment) (portable : Option PortableNetwork)
    (native : Bool) (path : String) (connection : Connection) (out : PortType) :
    Except Failure EndAddresses := do
  let hosts ← hostAddresses portable native connection
  match connection.attachments with
  | none =>
    require graph.network.isNone "E_ENDPOINT_AMBIGUOUS" (path ++ ".attachments")
      "managed connection requires explicit source and destination attachments"
    .ok hosts
  | some selected =>
    let ends ← selectedEnds graph attachments path connection selected
    let source ← addressOf ends.first.toAttachment
    let destination ← addressOf ends.last.toAttachment
    match ← requiredMtu graph connection out with
    | none => pure ()
    | some required => checkMtu attachments path ends required
    .ok { source := source, destination := aliasDestination connection ends destination }

/-! ## Settings -/

/-- The members that authored settings have. -/
def Settings.fields (s : Settings) : List String :=
  (s.backpressure.map fun _ => "backpressure").toList ++ (s.bind.map fun _ => "bind").toList ++
    (s.capacity.map fun _ => "capacity").toList ++
    (s.connectTimeoutMs.map fun _ => "connect_timeout_ms").toList ++
    (s.destination.map fun _ => "destination").toList ++ (s.framing.map fun _ => "framing").toList ++
    (s.host.map fun _ => "host").toList ++ (s.interface.map fun _ => "interface").toList ++
    (s.loopback.map fun _ => "loopback").toList ++
    (s.maxDatagramBytes.map fun _ => "max_datagram_bytes").toList ++
    (s.maxMessageBytes.map fun _ => "max_message_bytes").toList ++
    (s.mode.map fun _ => "mode").toList ++ (s.port.map fun _ => "port").toList ++
    (s.receiveBufferBytes.map fun _ => "receive_buffer_bytes").toList ++
    (s.reconnect.map fun _ => "reconnect").toList ++ (s.retry.map fun _ => "retry").toList ++
    (s.reuseAddress.map fun _ => "reuse_address").toList ++
    (s.segment.map fun _ => "segment").toList ++
    (s.sendBufferBytes.map fun _ => "send_buffer_bytes").toList ++
    (s.sendTimeoutMs.map fun _ => "send_timeout_ms").toList ++ (s.ttl.map fun _ => "ttl").toList

def Transport.fields : Transport → List String
  | tcp => ["host", "bind", "port", "framing", "connect_timeout_ms", "send_timeout_ms", "reconnect",
      "retry"]
  | udp => ["destination", "bind", "port", "framing", "mode", "interface", "ttl", "loopback",
      "reuse_address", "max_datagram_bytes", "receive_buffer_bytes", "send_buffer_bytes"]
  | sharedMemory => ["segment", "capacity", "max_message_bytes", "connect_timeout_ms",
      "send_timeout_ms", "backpressure"]

def isAsciiAlphanumeric (c : Char) : Bool := c.isLower || c.isUpper || c.isDigit

/-- The pattern `^[A-Za-z0-9][A-Za-z0-9.-]{0,252}$`. -/
def isHostname (text : String) : Bool :=
  match text.toList with
  | [] => false
  | c :: rest => isAsciiAlphanumeric c &&
    rest.all (fun c => isAsciiAlphanumeric c || c = '.' || c = '-') && decide (rest.length ≤ 252)

/-- The pattern `^[A-Za-z][A-Za-z0-9_-]{0,63}$`. -/
def isSegment (text : String) : Bool :=
  match text.toList with
  | [] => false
  | c :: rest => (c.isLower || c.isUpper) &&
    rest.all (fun c => isAsciiAlphanumeric c || c = '_' || c = '-') && decide (rest.length ≤ 63)

def checkHostname (path field : String) (text : Option String) : Except Failure Unit :=
  require (text.all isHostname) "E_TRANSPORT" (path ++ ".settings." ++ field)
    "endpoint must be a hostname or numeric IPv4 address, not a URI or path"

def checkSegment (path : String) (connection : Connection) : Except Failure Unit := do
  if connection.transport = .sharedMemory then
    match connection.settings.segment with
    | none => .ok ()
    | some segment =>
      require (isSegment segment) "E_TRANSPORT" (path ++ ".settings.segment")
        "invalid shared-memory identifier"
      match connection.settings.capacity, connection.settings.maxMessageBytes with
      | some capacity, some bytes =>
        require (capacity.val * bytes.val ≤ 268435456) "E_BOUND" (path ++ ".settings")
          "shared-memory allocation exceeds 256 MiB"
      | _, _ => .ok ()
  else .ok ()

def framingOf : Encoding → Framing
  | .graphx => .u32be
  | .raw => .none

def checkSettings (path : String) (connection : Connection) (input : PortType) :
    Except Failure Unit := do
  let s := connection.settings
  s.fields.forM fun key =>
    require (key ∈ connection.transport.fields) "E_TRANSPORT" (path ++ ".settings." ++ key)
      "setting is not valid for selected transport"
  checkHostname path "host" s.host
  checkHostname path "bind" s.bind
  checkHostname path "destination" s.destination
  checkHostname path "interface" s.interface
  checkSegment path connection
  require (s.framing.all (· = framingOf input.encoding)) "E_TRANSPORT" (path ++ ".settings.framing")
    "framing does not match port encoding"
  require (connection.security.all fun security =>
      security.profile = .none || connection.transport = .tcp) "E_TRANSPORT" (path ++ ".security")
    "TLS requires TCP"

def requireSetting {α : Type} (path key : String) (value : Option α) : Except Failure α :=
  match value with
  | some a => .ok a
  | none => .error (.reject "E_SCHEMA" (path ++ ".settings." ++ key) "shared-memory setting is required")

/-- Both nodes are native, in one explicit IPC domain. -/
def sharesIpcDomain (connection : Connection) : Bool :=
  match graph.nodes.get? connection.source.node, graph.nodes.get? connection.target.node with
  | some a, some b => a.execution.kind = .native && b.execution.kind = .native &&
      a.execution.ipcDomain.isSome && a.execution.ipcDomain = b.execution.ipcDomain
  | _, _ => false

def sharedMemorySettings (path : String) (connection : Connection) :
    Except Failure SharedMemorySettings := do
  let s := connection.settings
  require (sharesIpcDomain graph connection) "E_IPC_PLACEMENT" path
    "shared memory requires one explicit native IPC domain"
  let segment ← requireSetting path "segment" s.segment
  let capacity ← requireSetting path "capacity" s.capacity
  let maxMessageBytes ← requireSetting path "max_message_bytes" s.maxMessageBytes
  let connectTimeoutMs ← requireSetting path "connect_timeout_ms" s.connectTimeoutMs
  let sendTimeoutMs ← requireSetting path "send_timeout_ms" s.sendTimeoutMs
  let backpressure ← requireSetting path "backpressure" s.backpressure
  .ok { segment, capacity, maxMessageBytes, connectTimeoutMs, sendTimeoutMs, backpressure }

/-- The port of a listener: authored, of the type, or by the order of connections. -/
def listenerPort (input : PortType) (ordinal : ℕ) (s : Settings) : ℕ :=
  (s.port.map (·.val)).getD ((input.defaultPort.map (·.val)).getD (20000 + ordinal))

/-- The address that a listener binds; for unicast `0.0.0.0` is narrowed. -/
def listenerBind (destination : String) (s : Settings) : String :=
  let bind := s.bind.getD destination
  if bind = "0.0.0.0" && s.mode.getD .unicast = .unicast then destination else bind

def tcpSettings (path : String) (input : PortType) (ordinal : ℕ) (destination : String)
    (s : Settings) : Except Failure TcpSettings := do
  let retry := s.retry.getD
    { maxAttempts := ⟨60, .refl true⟩, initialBackoffMs := ⟨100, .refl true⟩
      maxBackoffMs := ⟨2000, .refl true⟩ }
  require (retry.initialBackoffMs.val ≤ retry.maxBackoffMs.val) "E_TRANSPORT"
    (path ++ ".settings.retry") "initial backoff exceeds maximum backoff"
  .ok { host := s.host.getD destination, bind := listenerBind destination s
        port := listenerPort input ordinal s, framing := s.framing.getD (framingOf input.encoding)
        connectTimeoutMs := s.connectTimeoutMs.getD ⟨5000, .refl true⟩
        sendTimeoutMs := s.sendTimeoutMs.getD ⟨5000, .refl true⟩
        reconnect := s.reconnect.getD true, retry := retry }

def udpSettings (input : PortType) (ordinal : ℕ) (destination : String) (s : Settings) :
    UdpSettings where
  destination := s.destination.getD destination
  bind := listenerBind destination s
  port := listenerPort input ordinal s
  framing := s.framing.getD (framingOf input.encoding)
  mode := s.mode.getD .unicast
  interface := s.interface
  ttl := s.ttl.getD ⟨1, .refl true⟩
  loopback := s.loopback.getD true
  reuseAddress := s.reuseAddress.getD false
  maxDatagramBytes := s.maxDatagramBytes.getD ⟨1400, .refl true⟩
  receiveBufferBytes := s.receiveBufferBytes.getD ⟨65536, .refl true⟩
  sendBufferBytes := s.sendBufferBytes.getD ⟨65536, .refl true⟩

/-- What is required of a sender to many. -/
def checkGroup (path : String) (portable : Option PortableNetwork) (s : UdpSettings) :
    Except Failure Unit :=
  if s.mode = .unicast then .ok () else do
    match s.interface with
    | none => .error (.reject "E_ENDPOINT_AMBIGUOUS" (path ++ ".settings.interface")
        "broadcast/multicast sender interface is required")
    | some interface =>
      let _ ← ip interface (path ++ ".settings.interface")
      let group ← ip s.destination (path ++ ".settings.destination")
      require (!(s.mode = .multicast && group &&& 0xf0000000 ≠ 0xe0000000)) "E_TRANSPORT"
        (path ++ ".settings.destination") "multicast requires an address in 224.0.0.0/4"
      if s.mode = .broadcast && group ≠ 0xffffffff then
        match portable with
        | none => .error (.reject "E_ENDPOINT_AMBIGUOUS" (path ++ ".settings.destination")
            "directed broadcast requires an explicit portable subnet")
        | some portable =>
          let subnet ← cidr portable.subnet "portable_network.subnet"
          require (group = subnet.address ||| ~~~subnet.mask) "E_TRANSPORT"
            (path ++ ".settings.destination")
            "destination is not the selected subnet broadcast address"

/-! ## One connection -/

def ResolvedSettings.listener : ResolvedSettings → Option (Transport × String × ℕ)
  | tcp s => some (.tcp, s.bind, s.port)
  | udp s => some (.udp, s.bind, s.port)
  | sharedMemory _ => none

/-- The key under which a listener is unique. -/
def listenerKey (native : Bool) (target : Ident) (listener : Transport × String × ℕ) : String :=
  (if native then "native" else target.text) ++ ":" ++ listener.1.text ++ ":" ++ listener.2.1 ++ ":" ++
    toString listener.2.2

/-- The connections resolved and the listeners seen. -/
structure ConnectionScan where
  result : List ResolvedConnection := []
  listeners : List String := []

def freshListener (native : Bool) (path : String) (connection : Connection)
    (listeners : List String) (settings : ResolvedSettings) : Except Failure (List String) :=
  match settings.listener with
  | none => .ok listeners
  | some listener => Check.fresh listeners (listenerKey native connection.target.node listener)
      (.reject "E_PORT_CONFLICT" (path ++ ".settings.port")
        "listener address and port conflict in namespace")

def resolveSettings (path : String) (connection : Connection) (input : PortType) (ordinal : ℕ)
    (destination : String) : Except Failure ResolvedSettings :=
  match connection.transport with
  | .sharedMemory => do
    let settings ← sharedMemorySettings graph path connection
    .ok (.sharedMemory settings)
  | .tcp => do
    let settings ← tcpSettings path input ordinal destination connection.settings
    .ok (.tcp settings)
  | .udp => .ok (.udp (udpSettings input ordinal destination connection.settings))

def checkSettingsGroup (path : String) (portable : Option PortableNetwork) :
    ResolvedSettings → Except Failure Unit
  | .udp settings => checkGroup path portable settings
  | .tcp _ | .sharedMemory _ => .ok ()

def connectionValue (attachments : List ResolvedAttachment) (portable : Option PortableNetwork)
    (native : Bool) (scan : ConnectionScan) (entry : Ident × Connection) :
    Except Failure ConnectionScan := do
  let connection := entry.2
  let path := "connections." ++ entry.1.text
  let out ← getPort graph catalog path "from" connection.source
  let input ← getPort graph catalog path "to" connection.target
  checkPorts path connection out input
  let addresses ← endAddresses graph attachments portable native path connection out
  checkSettings path connection input
  let settings ← resolveSettings graph path connection input scan.result.length addresses.destination
  let listeners ← freshListener native path connection scan.listeners settings
  checkSettingsGroup path portable settings
  .ok { result := scan.result ++ [{
          id := entry.1, source := connection.source, target := connection.target
          transport := connection.transport, schema := input.schema, encoding := input.encoding
          settings := settings, sourceAddress := addresses.source
          destinationAddress := addresses.destination, attachments := connection.attachments
          security := connection.security.getD { profile := .none } }]
        listeners := listeners }

/-! ## All connections -/

def endpointsOf (connections : List ResolvedConnection) : List Endpoint :=
  connections.flatMap fun c => [c.source, c.target]

/-- Everything but the cycles. -/
def earlierChecks (attachments : List ResolvedAttachment) (portable : Option PortableNetwork)
    (native : Bool) : Except Failure (List ResolvedConnection) := do
  let seen ← graph.connections.entries.foldlM (diagnosePorts graph catalog) []
  graph.nodes.entries.forM (checkMaxima catalog seen)
  let scan ← graph.connections.entries.foldlM
    (connectionValue graph catalog attachments portable native) {}
  graph.nodes.entries.forM (checkCardinality catalog (endpointsOf scan.result))
  .ok scan.result

/-- `adjacency[node]` -/
def adjacency (connections : List ResolvedConnection) (node : Ident) : List Ident :=
  (connections.filter (·.source.node = node)).map (·.target.node)

/-- `reaches(to)` for a connection; a search that visits each node once needs no more
    depth than there are nodes. -/
def cycleSearch (connections : List ResolvedConnection) (edge : ResolvedConnection) :
    Option (Bool × List Ident) :=
  Reach.search (adjacency connections) edge.source.node (graph.nodes.entries.length + 1) []
    edge.target.node

def supportsFeedback (e : Endpoint) : Bool := (portOf graph catalog e).any (·.feedback)

def checkCycle (connections : List ResolvedConnection) (edge : ResolvedConnection) :
    Except Failure Unit :=
  require (!((cycleSearch graph connections edge).any (·.1) &&
      !(supportsFeedback graph catalog edge.source && supportsFeedback graph catalog edge.target)))
    "E_FEEDBACK_UNSUPPORTED" ("connections." ++ edge.id.text)
    "cycle requires feedback capability on every participating port"

def connectionValues (attachments : List ResolvedAttachment) (portable : Option PortableNetwork)
    (native : Bool) : Except Failure (List ResolvedConnection) := do
  let result ← earlierChecks graph catalog attachments portable native
  result.forM (checkCycle graph catalog result)
  .ok result

end

end GraphX.Config
