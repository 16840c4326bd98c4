/-
  Loading a graph (`load_graph` of `src/config_v3.cpp`).

  The bounds on the sizes of the files and of the text of the result, which refuse
  more, are left out.
-/
import GraphX.Config.Scenario

namespace GraphX.Config

/-! ## The platform section -/

def mergeHistory (d : History) (s : HistorySection) : History where
  batchSize := s.batchSize.getD d.batchSize
  flushIntervalMs := s.flushIntervalMs.getD d.flushIntervalMs
  maxDatabaseBytes := s.maxDatabaseBytes.getD d.maxDatabaseBytes
  maxPendingQueries := s.maxPendingQueries.getD d.maxPendingQueries
  maxQueueBytes := s.maxQueueBytes.getD d.maxQueueBytes
  maxRecords := s.maxRecords.getD d.maxRecords
  queryLimit := s.queryLimit.getD d.queryLimit
  queryTimeoutMs := s.queryTimeoutMs.getD d.queryTimeoutMs
  queueCapacity := s.queueCapacity.getD d.queueCapacity
  retentionSeconds := s.retentionSeconds.getD d.retentionSeconds
  shutdownTimeoutMs := s.shutdownTimeoutMs.getD d.shutdownTimeoutMs
  databaseFile := d.databaseFile

def mergeCapture (d : CaptureSettings) (s : CaptureSection) : CaptureSettings where
  enabled := s.enabled.getD d.enabled
  maxFileBytes := s.maxFileBytes.getD d.maxFileBytes
  maxFiles := s.maxFiles.getD d.maxFiles
  maxPackets := s.maxPackets.getD d.maxPackets
  provider := s.provider.getD d.provider
  retentionSeconds := s.retentionSeconds.getD d.retentionSeconds
  snaplen := d.snaplen
  directory := d.directory

def mergeControl (d : Control) (s : ControlSection) : Control where
  enabled := s.enabled.getD d.enabled
  grants := s.grants.getD d.grants
  idempotencyTtlSeconds := s.idempotencyTtlSeconds.getD d.idempotencyTtlSeconds
  maxAuditRecords := s.maxAuditRecords.getD d.maxAuditRecords
  maxRequestBytes := s.maxRequestBytes.getD d.maxRequestBytes
  allowedOrigins := d.allowedOrigins

def mergeOtlp (d : Otlp) (s : OtlpSection) : Otlp where
  enabled := s.enabled.getD d.enabled
  credentials := s.credentials.or d.credentials
  endpoint := s.endpoint.or d.endpoint
  exportIntervalMs := d.exportIntervalMs
  maxQueueBytes := s.maxQueueBytes.or d.maxQueueBytes
  mode := s.mode.or d.mode
  queueCapacity := s.queueCapacity.or d.queueCapacity
  serverName := s.serverName.or d.serverName
  timeoutMs := s.timeoutMs.or d.timeoutMs

/-- The origins of the console; the Lima environment forwards 8080 to 18080. -/
def consoleOrigins (target : String) (port : ℕ) : List String :=
  ("http://127.0.0.1:" ++ toString port) ::
    if target = "lima" && port = 8080 then ["http://127.0.0.1:18080"] else []

/-- The platform section with its defaults, and what the loader puts into it. -/
def resolvePlatform (catalog : Catalog) (graph : Graph) (target : String) (native : Bool)
    (network : ResolvedNetwork) : Platform :=
  let d := catalog.platform
  let s := graph.platform
  let port := s.consolePort.getD d.consolePort
  let capture := mergeCapture d.capture s.capture
  { capture := { capture with
      directory := if native then executionValue "GX_STATE" ++ "/captures" else "/captures"
      enabled := if graph.network.isSome then !network.captures.isEmpty else capture.enabled
      provider := if graph.network.isSome then .ovsSpan else capture.provider }
    consolePort := port
    control := { mergeControl d.control s.control with
      allowedOrigins := consoleOrigins target port.val }
    extensions := s.extensions.getD d.extensions
    history := { mergeHistory d.history s.history with
      databaseFile := if native then executionValue "GX_STATE" ++ "/history/history.sqlite"
        else "/var/lib/graphx/history/history.sqlite" }
    image := d.image
    otlp := mergeOtlp d.otlp s.otlp
    telemetryHost := if native then "127.0.0.1" else "platform" }

def checkOtlp (graph : Graph) (otlp : Otlp) : Except Failure Unit :=
  if !otlp.enabled then .ok () else do
    require otlp.endpoint.isSome "E_SCHEMA" "platform.otlp.endpoint"
      "enabled OTLP requires endpoint, mode and credentials"
    require otlp.mode.isSome "E_SCHEMA" "platform.otlp.mode"
      "enabled OTLP requires endpoint, mode and credentials"
    require otlp.credentials.isSome "E_SCHEMA" "platform.otlp.credentials"
      "enabled OTLP requires endpoint, mode and credentials"
    require (otlp.credentials.any graph.credentials.contains) "E_CREDENTIAL"
      "platform.otlp.credentials" "unknown credential reference"
    require (otlp.endpoint.any fun url => !(url.text.toList.contains '@' ||
        url.text.toList.contains '#' || url.text.toList.contains '?' || url.text.utf8ByteSize ≤ 8))
      "E_SCHEMA" "platform.otlp.endpoint"
      "OTLP requires an HTTPS endpoint without embedded credentials, query or fragment"

def collectorId : Ident := ⟨"collector", .refl true⟩

def checkGrantAction (graph : Graph) (id : Ident) (action : GrantAction) : Except Failure Unit := do
  require (!(action = .serial && (id = collectorId ||
      !(graph.nodes.get? id).any (·.execution.kind = .qemu)))) "E_REFERENCE" "platform.control.grants"
    "serial requires a QEMU node"
  require (decide (action = .reset) = decide (id = collectorId)) "E_REFERENCE"
    "platform.control.grants" "reset requires the collector target; collector only supports reset"

def checkGrant (graph : Graph) (grant : Grant) : Except Failure Unit := do
  require (graph.credentials.contains grant.credential) "E_CREDENTIAL" "platform.control.grants"
    "unknown grant credential"
  grant.nodes.forM fun id => do
    require (id = collectorId || graph.nodes.contains id) "E_REFERENCE" "platform.control.grants"
      "unknown granted node"
    grant.actions.forM (checkGrantAction graph id)

def checkLifecycle (graph : Graph) : Except Failure Unit :=
  if graph.lifecycle.startup ≠ .available then .ok () else
    graph.nodes.entries.forM fun entry =>
      require (entry.2.execution.kind = .native || entry.2.execution.kind = .container) "E_LIFECYCLE"
        ("nodes." ++ entry.1.text) "available startup requires native or container applications"

/-! ## The resolved graph -/

structure GraphConfig where
  id : Ident
  authored : Graph
  catalog : Catalog
  target : String
  laboratoryAction : String
  nodes : List ResolvedNode
  lifecycle : Lifecycle
  connections : List ResolvedConnection
  network : ResolvedNetwork
  portableNetwork : Option PortableNetwork
  platform : Platform
  credentialReferences : List String

/-- A `std::set` of texts, in order. -/
def textSet (texts : List String) : List String := texts.dedup.insertionSort (· ≤ ·)

/-! ## The normalized schema -/

def indexPath (part : String) (index : ℕ) : String :=
  "$." ++ part ++ "[" ++ toString index ++ "]"

def shapeVlan (path : String) (vlan : Option Vlan) : Except Failure Unit := do
  match vlan with
  | none => .ok ()
  | some vlan =>
    require vlan.accessTag.isSome "E_SCHEMA" path "missing required property access_tag"
    require vlan.trunks.isNone "E_SCHEMA" (path ++ ".trunks") "unknown property"

def shapeRoute (path : String) (indexed : Route × ℕ) : Except Failure Unit := do
  let path := path ++ ".routes[" ++ toString indexed.2 ++ "]"
  require indexed.1.install.isNone "E_SCHEMA" (path ++ ".install") "unknown property"
  require indexed.1.interface.isNone "E_SCHEMA" (path ++ ".interface") "unknown property"

def shapeAttachment (indexed : ResolvedAttachment × ℕ) : Except Failure Unit := do
  let path := indexPath "network.attachments" indexed.2
  require (isIdentifier indexed.1.id) "E_SCHEMA" (path ++ ".id") "text does not match required pattern"
  (indexed.1.routes.getD []).zipIdx.forM (shapeRoute path)
  shapeVlan (path ++ ".vlan") indexed.1.vlan

def shapeRouterRoute (path : String) (indexed : ResolvedRoute × ℕ) : Except Failure Unit := do
  let path := path ++ ".routes[" ++ toString indexed.2 ++ "]"
  require indexed.1.install.isSome "E_SCHEMA" path "missing required property install"
  require indexed.1.via.isSome "E_SCHEMA" path "missing required property via"

def shapeRouter (indexed : ResolvedRouter × ℕ) : Except Failure Unit :=
  indexed.1.routes.zipIdx.forM (shapeRouterRoute (indexPath "network.routers" indexed.2))

def shapeSwitch (indexed : ResolvedSwitch × ℕ) : Except Failure Unit :=
  indexed.1.ports.zipIdx.forM fun port =>
    shapeVlan (indexPath "network.switches" indexed.2 ++ ".ports[" ++ toString port.2 ++ "].vlan")
      port.1.vlan

def shapeNode (indexed : ResolvedNode × ℕ) : Except Failure Unit := do
  let path := indexPath "nodes" indexed.2
  require (indexed.1.bindings.entries.length ≤ 256) "E_SCHEMA" (path ++ ".bindings") "too many properties"
  require (indexed.1.credentials.entries.length ≤ 256) "E_SCHEMA" (path ++ ".credentials")
    "too many properties"
  indexed.1.credentials.entries.forM fun entry =>
    require (entry.2.utf8ByteSize ≤ 128) "E_SCHEMA" (path ++ ".credentials." ++ entry.1.text)
      "text is too long"
  require (indexed.1.parameters.entries.length ≤ 256) "E_SCHEMA" (path ++ ".parameters")
    "too many properties"

def shapeConnection (indexed : ResolvedConnection × ℕ) : Except Failure Unit :=
  require (indexed.1.settings.listener.all fun listener => listener.2.2 ≤ 65535) "E_SCHEMA"
    (indexPath "connections" indexed.2 ++ ".settings.port") "number is above maximum"

/-- `validate_shape(config.resolved, output_schema)` -/
def normalizedShape (config : GraphConfig) : Except Failure Unit := do
  config.connections.zipIdx.forM shapeConnection
  require (config.credentialReferences.length ≤ 4096) "E_SCHEMA" "$.credential_references"
    "too many array entries"
  require (config.network.attachments.length ≤ 4096) "E_SCHEMA" "$.network.attachments"
    "too many array entries"
  config.network.attachments.zipIdx.forM shapeAttachment
  config.network.routers.zipIdx.forM shapeRouter
  config.network.switches.zipIdx.forM shapeSwitch
  config.nodes.zipIdx.forM shapeNode
  require (config.portableNetwork.all (·.addresses.entries.length ≤ 1024)) "E_SCHEMA"
    "$.portable_network.addresses" "too many properties"

/-! ## The loader -/

/-- What the authored schema asks of a graph that a laboratory selection made. -/
def authoredShape (graph : Graph) : Except Failure Unit :=
  graph.nodes.entries.forM fun node => node.2.credentials.entries.forM fun entry =>
    require (entry.2 ≠ "") "E_SCHEMA" ("$.nodes." ++ node.1.text ++ ".credentials." ++ entry.1.text)
      "text is too short"

def Graph.surroundings (graph : Graph) : Surroundings :=
  { nodes := graph.nodes, connections := graph.connections }

/-- `validate_network(graph)` -/
def validateNetwork? (graph : Graph) (net : Option Network) : Except Failure Unit :=
  match net with
  | none => .ok ()
  | some net => validateNetwork graph.surroundings net

/-- The network of a graph: validated, expanded and validated again. -/
def expandNetwork (env : Environment) (graph : Graph) : Except Failure ResolvedNetwork := do
  validateNetwork? graph graph.network
  let network ← networkValue env graph.id graph.nodes graph.network
  validateNetwork? graph (graph.network.map fun _ => network.toNetwork)
  .ok network

def loadAuthored (env : Environment) (catalog : Catalog) (target laboratoryAction : String)
    (graph : Graph) : Except Failure GraphConfig := do
  authoredShape graph
  validateTarget graph catalog target
  let native := isNative graph
  let network ← expandNetwork env graph
  let portable ← portableValue env graph native
  let connections ← connectionValues graph catalog network.attachments portable native
  let platform := resolvePlatform catalog graph target native network
  checkOtlp graph platform.otlp
  platform.control.grants.forM (checkGrant graph)
  checkLifecycle graph
  let nodes ← nodeValues graph catalog connections platform native network.attachments
  let nodes := if graph.lifecycle.startup = .available then
    nodes.map fun node => { node with maxWaitMs := 600000 } else nodes
  let config : GraphConfig :=
    { id := graph.id, authored := graph, catalog := catalog, target := target
      laboratoryAction := laboratoryAction, nodes := nodes, lifecycle := graph.lifecycle
      connections := connections, network := network, portableNetwork := portable
      platform := platform
      credentialReferences := textSet ("observer" :: graph.credentials.keys.map (·.text) ++
        nodes.filterMap (·.telemetryCredential)) }
  normalizedShape config
  let _ ← scenarioPlan graph nodes connections network
  .ok config

structure LoadOptions where
  target : String
  laboratoryAction : String := ""

/-- `load_graph`; a laboratory is selected in a graph that loads without it. -/
def loadGraph (env : Environment) (catalog : Catalog) (options : LoadOptions) (graph : Graph) :
    Except Failure GraphConfig :=
  if options.laboratoryAction = "" then loadAuthored env catalog options.target "" graph else do
    let _ ← loadAuthored env catalog options.target "" graph
    let selected ← selectLaboratory graph options.laboratoryAction
    loadAuthored env catalog options.target options.laboratoryAction selected

/-! ## Accepted graphs -/

/-- What the loader established of the graph it returns a configuration for. -/
structure Accepted (env : Environment) (catalog : Catalog) (target : String)
    (config : GraphConfig) : Prop where
  catalog_eq : config.catalog = catalog
  target_eq : config.target = target
  id_eq : config.id = config.authored.id
  lifecycle_eq : config.lifecycle = config.authored.lifecycle
  shape : authoredShape config.authored = .ok ()
  placement : validateTarget config.authored catalog target = .ok ()
  network : expandNetwork env config.authored = .ok config.network
  portable : portableValue env config.authored (isNative config.authored) = .ok config.portableNetwork
  connections : connectionValues config.authored catalog config.network.attachments
    config.portableNetwork (isNative config.authored) = .ok config.connections
  platform : config.platform = resolvePlatform catalog config.authored target
    (isNative config.authored) config.network
  otlp : checkOtlp config.authored config.platform.otlp = .ok ()
  grants : config.platform.control.grants.forM (checkGrant config.authored) = .ok ()
  available : checkLifecycle config.authored = .ok ()
  nodes : ∃ nodes, nodeValues config.authored catalog config.connections config.platform
      (isNative config.authored) config.network.attachments = .ok nodes ∧
    config.nodes = if config.authored.lifecycle.startup = .available then
      nodes.map fun node => { node with maxWaitMs := 600000 } else nodes
  references : config.credentialReferences = textSet ("observer" ::
    config.authored.credentials.keys.map (·.text) ++ config.nodes.filterMap (·.telemetryCredential))
  normalized : normalizedShape config = .ok ()
  scenario : ∃ plan, scenarioPlan config.authored config.nodes config.connections config.network =
    .ok plan

variable {env : Environment} {catalog : Catalog} {options : LoadOptions} {graph : Graph}
  {config : GraphConfig}

theorem loadAuthored_accepted {target laboratoryAction : String}
    (h : loadAuthored env catalog target laboratoryAction graph = .ok config) :
    Accepted env catalog target config ∧ config.authored = graph := by
  simp only [loadAuthored, Check.bind_eq_ok] at h
  obtain ⟨_, hshape, _, hplacement, network, hnetwork, portable, hportable, connections,
    hconnections, _, hotlp, _, hgrants, _, havailable, nodes, hnodes, _, hnormalized, plan,
    hscenario, h⟩ := h
  cases h
  exact ⟨⟨rfl, rfl, rfl, rfl, hshape, hplacement, hnetwork, hportable, hconnections, rfl, hotlp,
    hgrants, havailable, ⟨nodes, hnodes, rfl⟩, rfl, hnormalized, ⟨plan, hscenario⟩⟩, rfl⟩

/-- A configuration is that of its authored graph, which a laboratory selection may
    have made. -/
theorem loadGraph_accepted (h : loadGraph env catalog options graph = .ok config) :
    Accepted env catalog options.target config := by
  unfold loadGraph at h
  split_ifs at h
  · exact (loadAuthored_accepted h).1
  · obtain ⟨_, -, h⟩ := Check.bind_eq_ok.1 h
    obtain ⟨_, -, h⟩ := Check.bind_eq_ok.1 h
    exact (loadAuthored_accepted h).1

end GraphX.Config
