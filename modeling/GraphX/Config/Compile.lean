/-
  The compiler (`src/compile.cpp`): what a resolved graph is run by.

  The files that only repeat resolved values (the platform's artifacts, the stages of
  the execution plan, the manifest) are left out, and so are the command line and the
  channels of a guest.
-/
import GraphX.Config.LoadGraph

namespace GraphX.Config

/-! ## Names and pins -/

def identity (id : String) : Except Failure Unit :=
  require (isIdentifier id) "E_COMPILE_ID" id "unsafe artifact identity"

def isImageChar (c : Char) : Bool :=
  isAsciiAlphanumeric c || c = '.' || c = '_' || c = '/' || c = ':' || c = '-'

def isLowerHexDigit (c : Char) : Bool := c.isDigit || ('a' ≤ c && c ≤ 'f')

/-- The pattern `^[a-zA-Z0-9][a-zA-Z0-9._/:-]*@sha256:[a-f0-9]{64}$`. -/
def isImagePin (image : String) : Bool :=
  let name := image.toList.takeWhile (· ≠ '@')
  let pin := image.toList.dropWhile (· ≠ '@')
  name.head?.any isAsciiAlphanumeric && name.all isImageChar &&
    "@sha256:".toList.isPrefixOf pin && decide ((pin.drop 8).length = 64) &&
    (pin.drop 8).all isLowerHexDigit

def imagePin (image : String) : Except Failure Unit :=
  require (isImagePin image) "E_COMPILE_PIN" "catalog.image" "digest-pinned image required"

/-- The pattern `^graphx-[a-z0-9-]+$`. -/
def isNodeExecutable (executable : String) : Bool :=
  "graphx-".toList.isPrefixOf executable.toList && decide (7 < executable.toList.length) &&
    (executable.toList.drop 7).all fun c => c.isLower || c.isDigit || c = '-'

def nodeArgv (node : ResolvedNode) (type : NodeType) (container : Bool) :
    Except Failure (List String) := do
  require (isNodeExecutable type.executable) "E_COMPILE_TEMPLATE" "type"
    "unsupported executable or template"
  .ok [if container then type.executable else executionValue "GX_RELEASE" ++ "/bin/" ++ type.executable,
    "--node", node.id.text, "--config",
    if container then "/run/graphx/node.json"
      else executionValue "GX_OUTPUT" ++ "/nodes/" ++ node.id.text ++ ".json",
    "--release-file",
    if container then "/run/graphx/barriers/release"
      else executionValue "GX_STATE" ++ "/barriers/release",
    "--release-token", executionValue "GX_OWNER"]

/-! ## Credentials -/

structure CredentialEntry where
  provider : Provider
  identity : String
  members : List String
  tlsRoles : Option (List String) := none
  files : Table String String := .empty
  deriving DecidableEq

/-- The declarations of the credentials, and their consumers: nodes by their ids, and
    fixed roles. -/
structure CredentialPlan where
  entries : Table String CredentialEntry
  consumers : Table String (List String)

namespace CredentialPlan

def allow (plan : CredentialPlan) (ref consumer : String) : CredentialPlan :=
  { plan with consumers :=
      plan.consumers.set ref ((plan.consumers.get? ref).getD [] ++ [consumer]) }

end CredentialPlan

def tlsRole (binding : Binding) : String :=
  match binding.role with
  | .listen => "serverAuth"
  | .connect => "clientAuth"

def planPort (node : ResolvedNode) (plan : CredentialPlan) (entry : Ident × String) :
    Except Failure CredentialPlan := do
  let plan := plan.allow entry.2 node.id.text
  let declaration ← at? (plan.entries.get? entry.2)
  if declaration.provider = .labGenerated then
    let peers ← at? (node.bindings.get? entry.1)
    .ok { plan with entries := plan.entries.set entry.2 { declaration with
      tlsRoles := some (textSet (declaration.tlsRoles.getD [] ++ peers.map tlsRole)) } }
  else .ok plan

def planTelemetry (node : ResolvedNode) (plan : CredentialPlan) : Except Failure CredentialPlan :=
  match node.telemetryCredential with
  | none => .ok plan
  | some ref => do
    require (!plan.entries.contains ref) "E_CREDENTIAL" ref
      "runtime credential collides with authored credential"
    let entry : CredentialEntry :=
      { provider := .runtimeGenerated, identity := node.id.text, members := ["hmac"] }
    .ok ({ plan with entries := plan.entries.set ref entry }.allow ref node.id.text)

def planNode (plan : CredentialPlan) (node : ResolvedNode) : Except Failure CredentialPlan := do
  let plan ← node.credentials.entries.foldlM (planPort node) plan
  planTelemetry node plan

/-- A member is the name of a file in the directory of its credential. -/
def isLiteralFilename (name : String) : Bool :=
  name ≠ "" && name ≠ "." && name ≠ ".." &&
    !name.toList.any (· ∈ ['/', '\\', '$', '\x7b', '\x7d', '\n', '\r'])

def credentialFiles (id : String) (members : List String) : Table String String :=
  members.foldl (fun files name =>
    files.set name (executionValue "GX_CREDENTIALS" ++ "/" ++ id ++ "/" ++ name)) .empty

/-- The platform receives the runtime credentials. -/
def planEntry (plan : CredentialPlan) (entry : String × CredentialEntry) :
    Except Failure CredentialPlan := do
  let (id, declaration) := entry
  identity id
  declaration.members.forM fun name => require (isLiteralFilename name) "E_CREDENTIAL" id
    "credential member must be a literal filename"
  let plan : CredentialPlan :=
    { entries := plan.entries.set id { declaration with files := credentialFiles id declaration.members }
      consumers := plan.consumers.emplace id [] }
  .ok (if id = "observer" || declaration.provider = .runtimeGenerated then plan.allow id "platform"
    else plan)

def planExtension (plan : CredentialPlan) : Extension → Except Failure CredentialPlan
  | .prometheus => .ok (plan.allow "observer" "prometheus")
  | .grafana => do
    require (plan.entries.contains "grafana-admin") "E_CREDENTIAL" "grafana-admin"
      "Grafana requires an external password reference"
    .ok (plan.allow "grafana-admin" "grafana")

def planOtlp (otlp : Otlp) (plan : CredentialPlan) : Except Failure CredentialPlan :=
  if otlp.enabled then do
    let credentials ← at? otlp.credentials
    .ok (plan.allow credentials.text "platform")
  else .ok plan

def authoredEntries (graph : Graph) : Table String CredentialEntry :=
  graph.credentials.entries.foldl (fun t e => t.set e.1.text
    { provider := e.2.provider, identity := e.2.identity, members := e.2.members }) .empty

def credentialPlan (config : GraphConfig) : Except Failure CredentialPlan := do
  let entries := authoredEntries config.authored
  require (!entries.contains "observer") "E_CREDENTIAL" "observer"
    "observer is a reserved runtime credential"
  let observer : CredentialEntry :=
    { provider := .runtimeGenerated, identity := "reader", members := ["token"] }
  let plan : CredentialPlan := { entries := entries.set "observer" observer, consumers := .empty }
  let plan ← config.nodes.foldlM planNode (plan.allow "observer" "reader")
  let plan ← plan.entries.entries.foldlM planEntry plan
  let plan ← config.platform.extensions.foldlM planExtension plan
  let plan := config.platform.control.grants.foldl
    (fun plan grant => plan.allow grant.credential.text "platform") plan
  let plan ← planOtlp config.platform.otlp plan
  .ok { plan with consumers := plan.consumers.map fun _ => textSet }

def credentialRefs (plan : CredentialPlan) (consumer : String) : List String :=
  (plan.consumers.entries.filter (consumer ∈ ·.2)).map (·.1)

/-! ## The Compose document -/

structure Logging where
  driver : String := "json-file"
  maxFile : String := "2"
  maxSize : String := "1m"
  deriving DecidableEq

/-- How a service is attached to a network. -/
structure Attached where
  aliases : List String := []
  ipv4Address : Option String := none
  deriving DecidableEq

structure Service where
  image : String
  restart : String
  readOnly : Bool
  user : String
  capDrop : List String
  securityOpt : List String
  tmpfs : List String
  pidsLimit : ℕ
  memLimit : ℕ
  logging : Logging
  capAdd : Option (List String) := none
  entrypoint : Option (List String) := none
  command : Option (List String) := none
  environment : Option (Table String String) := none
  volumes : List String := []
  networks : Table String Attached := .empty
  labels : Option (Table String String) := none
  ports : Option (List String) := none
  deriving DecidableEq

structure ComposeNetwork where
  driver : String := "bridge"
  internal : Bool := false
  subnet : Option String := none
  deriving DecidableEq

/-- What all services have in common. -/
def baseService (image : String) : Service where
  image := image
  restart := "no"
  readOnly := true
  user := "65532:65532"
  capDrop := ["ALL"]
  securityOpt := ["no-new-privileges:true"]
  tmpfs := ["/tmp:rw,nosuid,nodev,size=16m"]
  pidsLimit := 64
  memLimit := 134217728
  logging := {}

def serviceBase (image : String) : Except Failure Service := do
  imagePin image
  .ok (baseService image)

def nodeEnvironment (node : ResolvedNode) (container : Bool) : Table String String :=
  let root := if container then "/run/secrets" else executionValue "GX_CREDENTIALS"
  let result : Table String String := Table.empty.set "GRAPHX_CREDENTIALS" root
  match node.telemetryCredential with
  | none => result
  | some credential =>
    result.set "GRAPHX_TELEMETRY_SHARED_SECRET_FILE" (root ++ "/" ++ credential ++ "/hmac")

def credentialMount (ref : String) : String :=
  executionValue "GX_CREDENTIALS" ++ "/" ++ ref ++ ":/run/secrets/" ++ ref ++ ":ro"

def capturesTraffic (node : ResolvedNode) : Bool :=
  node.capture.enabled && node.capture.provider = .application

def nodeVolumes (node : ResolvedNode) (refs : List String) : List String :=
  ["./nodes/" ++ node.id.text ++ ".json:/run/graphx/node.json:ro",
    executionValue "GX_STATE" ++ "/barriers:/run/graphx/barriers:ro"] ++ refs.map credentialMount ++
    if capturesTraffic node then
      [executionValue "GX_STATE" ++ "/captures/" ++ node.id.text ++ ":/captures"] else []

/-! ## Processes and guests -/

inductive Readiness where
  | http (url : String) (timeoutMs : ℕ)
  | node (timeoutMs : ℕ)
  deriving DecidableEq

structure Process where
  id : String
  kind : ExecutionKind
  argv : List String
  cwd : String
  environment : Table String String
  credentials : List String
  readiness : Readiness
  log : String
  logBytes : ℕ
  memoryBytes : ℕ
  namespaceName : Option String
  deriving DecidableEq

def process (id : String) (argv refs : List String) (readiness : Readiness) : Process where
  id := id
  kind := .native
  argv := argv
  cwd := executionValue "GX_OUTPUT"
  environment := .empty
  credentials := refs
  readiness := readiness
  log := executionValue "GX_STATE" ++ "/logs/" ++ id ++ ".log"
  logBytes := 2097152
  memoryBytes := 134217728
  namespaceName := none

structure GuestPlan where
  node : Ident
  recipe : String
  credentials : Table Ident String
  tap : ResolvedAttachment
  deriving DecidableEq

def qemuGuest (node : ResolvedNode) (recipe : String) (guest : Guest)
    (attachments : List ResolvedAttachment) : Except Failure GuestPlan := do
  let taps := attachments.filter fun a => a.owner = node.id && a.kind = .qemuTap
  require (taps.length ≤ 1) "E_COMPILE_GUEST" node.id.text "one TAP per guest is supported"
  match taps.head? with
  | none => .error (.reject "E_COMPILE_GUEST" node.id.text "x86_64 TCG and one resolved TAP required")
  | some tap =>
    let unsupported := fun condition => require condition "E_COMPILE_GUEST" node.id.text
      "x86_64 TCG and one resolved TAP required"
    let uid ← at? tap.tapUid
    unsupported (uid.val = 65532)
    let gid ← at? tap.tapGid
    unsupported (gid.val = 65532)
    unsupported (guest.architecture = .x86_64)
    let accelerator ← at? node.execution.accelerator
    unsupported (accelerator = .tcg)
    let _ ← at? tap.interface
    let _ ← at? tap.mac
    .ok { node := node.id, recipe := recipe, credentials := node.credentials, tap := tap }

/-- The parts of a path between its slashes; empty ones are skipped. -/
def pathParts (path : List Char) : List (List Char) :=
  (path.splitOn '/').filter (· ≠ [])

/-- The source of a guest is a path below the declared root. -/
def checkSource (catalog : Catalog) (ref : String) (guest : Guest) : Except Failure Unit :=
  match catalog.sources.get? guest.sourceRef with
  | none => .error (.reject "E_COMPILE_SOURCE" ref "guest source reference is not pinned in the catalog")
  | some relative => do
    require (relative ≠ "" && relative.toList.head? ≠ some '/') "E_COMPILE_SOURCE" ref
      "relative source path required"
    (pathParts relative.toList).forM fun part =>
      require (part ≠ ['.'] && part ≠ ['.', '.'] && '\\' ∉ part) "E_COMPILE_SOURCE" ref
        "source path escapes its declared root"

/-! ## Nodes -/

/-- The plans while the nodes are compiled. -/
structure Plans where
  services : Table String Service := .empty
  networks : Table String ComposeNetwork := .empty
  platformNetworks : Table String Attached := .empty
  processes : List Process := []
  guests : List GuestPlan := []
  external : List Ident := []

section
variable (env : Environment) (config : GraphConfig) (credentials : CredentialPlan)

def managementNetwork (id : Ident) : String := "mg-" ++ id.text

/-- A container is on its management network, and on the data network of a portable
    graph. -/
def nodeNetworks (id : Ident) : Except Failure (Table String Attached) :=
  let attached : Table String Attached := Table.empty.set (managementNetwork id) {}
  match config.portableNetwork with
  | none => .ok attached
  | some portable => do
    let address ← at? (portable.addresses.get? id)
    .ok (attached.set "data" { ipv4Address := some address })

def containerService (node : ResolvedNode) (type : NodeType) : Except Failure Service := do
  let base ← serviceBase type.image
  let argv ← nodeArgv node type true
  let networks ← nodeNetworks config node.id
  .ok { base with
    capAdd := if node.recorder.isSome then some ["NET_RAW"] else none
    entrypoint := some (argv.take 1)
    command := some (argv.drop 1)
    memLimit := type.memoryBytes.val
    pidsLimit := type.pids.val
    labels := some (((Table.empty.set "org.graphx.graph" config.id.text).set "org.graphx.node"
      node.id.text).set "org.graphx.owner" (executionValue "GX_OWNER"))
    environment := some (nodeEnvironment node true)
    volumes := nodeVolumes node (credentialRefs credentials node.id.text)
    networks := networks }

def compileContainer (node : ResolvedNode) (type : NodeType) (plans : Plans) :
    Except Failure Plans := do
  let service ← containerService config credentials node type
  .ok { plans with
    services := plans.services.set node.id.text service
    networks := plans.networks.set (managementNetwork node.id) { internal := true }
    platformNetworks := plans.platformNetworks.set (managementNetwork node.id)
      { aliases := ["platform"] } }

def nodeProcess (node : ResolvedNode) (type : NodeType) : Except Failure Process := do
  let argv ← nodeArgv node type false
  .ok { process node.id.text argv (credentialRefs credentials node.id.text)
          (.node node.readinessTimeoutMs.val) with
    kind := node.execution.kind
    namespaceName := if node.execution.kind = .namespace then
      some (resourceName env config.id.text "namespace"
        ((node.execution.namespaceName.map (·.text)).getD node.id.text)) else none
    memoryBytes := type.memoryBytes.val
    environment := nodeEnvironment node false }

def compileGuest (node : ResolvedNode) (plans : Plans) : Except Failure Plans := do
  let ref ← at? (node.execution.guest.map (·.text))
  identity ref
  match config.catalog.guests.get? ref with
  | none => .error (.reject "E_COMPILE_CATALOG" ref "missing pinned catalog definition")
  | some guest =>
    imagePin guest.builderImage
    checkSource config.catalog ref guest
    let plan ← qemuGuest node ref guest config.network.attachments
    .ok { plans with guests := plans.guests ++ [plan] }

def compileNode (plans : Plans) (node : ResolvedNode) : Except Failure Plans := do
  identity node.id.text
  match config.catalog.types.get? node.type with
  | none => .error (.reject "E_COMPILE_CATALOG" node.type "missing pinned catalog definition")
  | some type =>
    imagePin type.image
    require (type.revision = node.revision) "E_COMPILE_TYPE" node.id.text "type revision mismatch"
    match node.execution.kind with
    | .container => compileContainer config credentials node type plans
    | .native | .namespace =>
      let process ← nodeProcess env config credentials node type
      .ok { plans with processes := plans.processes ++ [process] }
    | .qemu => compileGuest config node plans
    | .external => .ok { plans with external := plans.external ++ [node.id] }

/-! ## The platform -/

def platformProcess : Process :=
  { process "platform"
      [executionValue "GX_RELEASE" ++ "/bin/graphx-platform", "--config",
        executionValue "GX_OUTPUT" ++ "/platform.json"]
      (credentialRefs credentials "platform")
      (.http ("http://127.0.0.1:" ++ toString config.platform.consolePort.val ++ "/api/ready") 30000) with
    memoryBytes := 268435456 }

def platformVolumes (refs : List String) : List String :=
  ["./resolved.json:/run/graphx/resolved.json:ro", "./platform.json:/run/graphx/platform.json:ro",
    "./credentials.json:/run/graphx/credentials.json:ro",
    executionValue "GX_STATE" ++ "/console:/run/graphx/console:ro",
    executionValue "GX_STATE" ++ "/history:/var/lib/graphx/history",
    executionValue "GX_STATE" ++ "/handoff:/captures:ro"] ++ refs.map credentialMount

def platformService (networks : Table String Attached) : Except Failure Service := do
  let base ← serviceBase config.platform.image
  let port := toString config.platform.consolePort.val
  .ok { base with
    memLimit := max 536870912 (config.platform.history.maxDatabaseBytes.val / 2 + 268435456)
    entrypoint := some ["graphx-platform"]
    command := some ["--config", "/run/graphx/platform.json"]
    environment := some ((((Table.empty.set "GX_CREDENTIALS" "/run/secrets").set "GX_STATE"
      "/var/lib/graphx").set "GX_CONSOLE" "/run/graphx/console").set "GX_OWNER"
        (executionValue "GX_OWNER"))
    volumes := platformVolumes (credentialRefs credentials "platform")
    networks := networks
    ports := some ["127.0.0.1:" ++ port ++ ":" ++ port] }

def extensionImage : Extension → String
  | .prometheus =>
    "prom/prometheus:v3.13.0@sha256:c6b27ea434f8389bfe233fbc7be381cf50587c286e871bc842008f5a1b1908a7"
  | .grafana =>
    "grafana/grafana:13.2.0@sha256:3fd54ae1214669f8355f065ec9f6445d5279a3d77095ab048ca045685272429b"

def extensionService (networks : Table String Attached) (extension : Extension) :
    Except Failure Service := do
  let base ← serviceBase (extensionImage extension)
  match extension with
  | .prometheus =>
    .ok { base with
      networks := networks, memLimit := 536870912, pidsLimit := 128
      command := some ["--config.file=/etc/prometheus/graphx.json",
        "--storage.tsdb.path=/prometheus/data", "--storage.tsdb.retention.time=24h",
        "--storage.tsdb.retention.size=128MB"]
      volumes := ["./prometheus.json:/etc/prometheus/graphx.json:ro",
        "./prometheus-alerts.json:/etc/prometheus/alerts.json:ro",
        executionValue "GX_CREDENTIALS" ++ "/observer:/run/secrets/observer:ro"]
      tmpfs := ["/prometheus:rw,nosuid,nodev,noexec,size=256m,uid=65532,gid=65532,mode=0700"]
      ports := some ["127.0.0.1:9090:9090"] }
  | .grafana =>
    .ok { base with
      networks := networks, memLimit := 536870912, pidsLimit := 256
      environment := some ((((Table.empty.set "GOMAXPROCS" "2").set
        "GF_SECURITY_ADMIN_PASSWORD__FILE" "/run/secrets/grafana-admin/password").set
        "GF_USERS_ALLOW_SIGN_UP" "false").set "GF_AUTH_ANONYMOUS_ENABLED" "false")
      volumes := [
        "./grafana-datasources.json:/etc/grafana/provisioning/datasources/graphx.yaml:ro",
        "./grafana-dashboards.json:/etc/grafana/provisioning/dashboards/graphx.yaml:ro",
        "./grafana-dashboard.json:/etc/graphx-dashboards/graphx.json:ro",
        executionValue "GX_CREDENTIALS" ++ "/grafana-admin:/run/secrets/grafana-admin:ro"]
      tmpfs := ["/tmp:rw,nosuid,nodev,size=16m",
        "/var/lib/grafana:rw,nosuid,nodev,size=128m,uid=65532,gid=65532,mode=0700"]
      ports := some ["127.0.0.1:3000:3000"] }

def compileExtension (networks : Table String Attached) (services : Table String Service)
    (extension : Extension) : Except Failure (Table String Service) := do
  let service ← extensionService networks extension
  .ok (services.set extension.text service)

/-- The networks of the platform: those of the nodes, or one of its own. -/
def withPlatformNetwork (plans : Plans) : Plans :=
  if plans.platformNetworks.entries.isEmpty then
    { plans with
      networks := plans.networks.set "mg-platform" { internal := true }
      platformNetworks := plans.platformNetworks.set "mg-platform" {} }
  else plans

/-- The platform and its extensions as services.  A network of their own carries the
    published ports and the platform's exports. -/
def compilePlatform (plans : Plans) : Except Failure Plans := do
  let plans := withPlatformNetwork plans
  let networks := plans.platformNetworks.set "mg-console" {}
  let platform ← platformService config credentials networks
  let services ← config.platform.extensions.foldlM (compileExtension networks)
    (plans.services.set "platform" platform)
  .ok { plans with networks := plans.networks.set "mg-console" {}, services := services }

/-! ## Graphs -/

structure Compose where
  name : Ident
  services : Table String Service
  networks : Table String ComposeNetwork

structure Compiled where
  credentials : CredentialPlan
  native : Bool
  executable : Bool
  compose : Option Compose
  processes : List Process
  guests : List GuestPlan
  external : List Ident

def GraphConfig.ovs : Bool := !config.network.switches.isEmpty

def GraphConfig.native : Bool := config.platform.telemetryHost = "127.0.0.1"

def nodeAvailable (node : ResolvedNode) : Bool :=
  let kind := node.execution.kind
  if config.native then kind = .native
  else kind = .container || kind = .external ||
    (config.ovs && (kind = .namespace || kind = .qemu))

def executionAvailable : Bool :=
  (!config.native || !config.ovs) && !config.network.attachments.any (·.kind = .external) &&
    config.nodes.all (nodeAvailable config)

def checkCapability : Except Failure Unit :=
  match config.catalog.targets.get? config.target with
  | none => .error (.reject "E_COMPILE_TARGET" "target" "missing pinned target capabilities")
  | some capability =>
    require (!((!config.native && !capability.docker) ||
        (config.native && !capability.platformNative) || (config.ovs && !capability.ovs)))
      "E_COMPILE_TARGET" "target" "pinned target capabilities do not support the resolved plan"

/-- The networks before the nodes: the data network of a portable graph. -/
def dataNetworks : Table String ComposeNetwork :=
  match config.portableNetwork with
  | none => .empty
  | some portable => Table.empty.set "data" { internal := true, subnet := some portable.subnet }

/-- A native graph runs its platform as a process. -/
def compileServices (plans : Plans) : Except Failure Plans :=
  if config.native then .ok plans else compilePlatform config credentials plans

/-- The scenario that the graph authors is planned once more. -/
def compileScenario : Except Failure Unit :=
  if config.authored.scenario.isSome then do
    let _ ← scenarioPlan config.authored config.nodes config.connections config.network
    .ok ()
  else .ok ()

def compileGraph : Except Failure Compiled := do
  normalizedShape config
  identity config.id.text
  imagePin config.platform.image
  checkCapability config
  let credentials ← credentialPlan config
  let plans ← config.nodes.foldlM (compileNode env config credentials)
    { networks := dataNetworks config
      processes := if config.native then [platformProcess config credentials] else [] }
  let plans ← compileServices config credentials plans
  compileScenario config
  .ok { credentials := credentials
        native := config.native
        executable := executionAvailable config
        compose := if plans.services.entries.isEmpty then none else
          some { name := config.id, services := plans.services, networks := plans.networks }
        processes := sortById (·.id) plans.processes
        guests := plans.guests
        external := plans.external }

end

end GraphX.Config
