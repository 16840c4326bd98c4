/-
  The admission of a compiled graph (`execute_compose` of
  `src/infra/compose_execution.cpp`): the Compose document is checked once more before
  Docker runs it, and its execution values are filled in.

  What Docker and the file system answer is left out, apart from the identities of the
  images and the documents of the compilation, which the run has copied.
-/
import GraphX.Config.Compile
import GraphX.Lib.Text

namespace GraphX.Config

/-! ## The host -/

/-- `random_token` -/
structure Token where
  text : String
  hex : text.toList.all isLowerHexDigit = true

/-- What marks a value that is still to be filled in. -/
def mark : List Char := ['$', '\x7b']

/-- The part of a path that has nothing to fill in. -/
def isResolvedName (part : List Char) : Bool := Path.isName part && !decide (mark <:+: part)

/-- What a run brings: its state directory (`safe_execution_path` accepts canonical paths
    only), the tokens it draws, the images of the release with the pins that were verified,
    and the node types that were compiled into the program. -/
structure Host where
  stateRoot : List (List Char)
  canonical : ∀ part ∈ stateRoot, isResolvedName part = true
  release : String
  configuration : Token
  owner : Token
  console : Token
  handoff : Token
  verified : List String
  imageId : String → String
  imageId_resolved : ∀ pin, ¬ mark <:+: (imageId pin).toList
  runtimeTypes : List (String × String)

def fill (values : List (String × String)) (text : List Char) : List Char :=
  values.foldl (fun t e => Text.replaceAll (executionValue e.1).toList e.2.toList t) text

namespace Host

variable (host : Host) (graph : Ident)

def root : List (List Char) := host.stateRoot ++ [graph.text.toList]

/-- The copy of the compilation that the containers see. -/
def configurationRoot : List (List Char) :=
  host.root graph ++ [("configuration-" ++ host.configuration.text).toList]

/-- The values that are filled in, in the order of the `std::map`. -/
def values : List (String × String) :=
  [("GX_CREDENTIALS", "/unused-credential-path"),
    ("GX_OUTPUT", String.ofList (Path.text (host.configurationRoot graph))),
    ("GX_OWNER", host.owner.text), ("GX_RELEASE", host.release),
    ("GX_STATE", String.ofList (Path.text (host.root graph)))]

/-- `replace`, before it looks for what is left. -/
def substitute (text : String) : String :=
  String.ofList (fill (host.values graph) text.toList)

end Host

def isUnresolved (text : String) : Bool := decide (mark <:+: text.toList)

def replace (host : Host) (graph : Ident) (text : String) : Except Failure String := do
  require (!isUnresolved (host.substitute graph text)) "E_SUBSTITUTION" "" "unresolved Compose field"
  .ok (host.substitute graph text)

/-! ## The checks -/

def refuse (condition : Bool) (message : String) : Except Failure Unit :=
  require condition "E_COMPOSE_SECURITY" "" message

section
variable (host : Host) (config : GraphConfig)

/-- A managed network is realized on Linux, without physical devices. -/
def checkManaged : Except Failure Unit :=
  if config.ovs then do
    require (config.target = "native-linux" || config.target = "lima") "E_TARGET" ""
      "OVS target must be native-linux or lima"
    require (!config.network.attachments.any (·.kind = .external)) "E_PHASE_UNAVAILABLE" ""
      "physical-device uplink ownership contract is not defined"
  else .ok ()

def checkExecution (node : ResolvedNode) : Except Failure Unit :=
  require (node.execution.kind ∈
      [ExecutionKind.container, .external, .namespace, .qemu]) "E_PHASE_UNAVAILABLE" ""
    "graph requires native, namespace or guest execution"

/-- The members that a network of the document has. -/
def ComposeNetwork.fields (net : ComposeNetwork) : List String :=
  "driver" :: (if net.internal then ["internal"] else []) ++ (net.subnet.map fun _ => "ipam").toList

def admitNetwork (net : ComposeNetwork) : Except Failure Unit := do
  net.fields.forM fun key =>
    refuse (key ∈ ["driver", "internal", "ipam"]) "unsupported network field"
  refuse (net.driver = "bridge") "portable networks must use bridge"

/-- The members that a service of the document has. -/
def Service.fields (service : Service) : List String :=
  ["image", "restart", "read_only", "user", "cap_drop", "security_opt", "tmpfs", "pids_limit",
    "mem_limit", "logging", "volumes", "networks"] ++
    (service.capAdd.map fun _ => "cap_add").toList ++
    (service.entrypoint.map fun _ => "entrypoint").toList ++
    (service.command.map fun _ => "command").toList ++
    (service.environment.map fun _ => "environment").toList ++
    (service.labels.map fun _ => "labels").toList ++ (service.ports.map fun _ => "ports").toList

def allowedFields : List String :=
  ["image", "restart", "read_only", "user", "cap_drop", "cap_add", "security_opt", "tmpfs",
    "pids_limit", "mem_limit", "logging", "entrypoint", "command", "environment", "volumes",
    "networks", "labels", "ports"]

def isContainerRecorder (node : ResolvedNode) : Bool :=
  node.type = "vita.recorder" && node.execution.kind = .container && node.recorder.isSome

def findNode (name : String) : Option ResolvedNode := config.nodes.find? (·.id.text = name)

def validateComposeServiceFields (name : String) (service : Service) : Except Failure Unit := do
  service.fields.forM fun key => refuse (key ∈ allowedFields) "unsupported service field"
  refuse (service.capAdd = if (findNode config name).any isContainerRecorder then some ["NET_RAW"] else none)
    "invalid recorder capability policy"

/-- The arguments of an application. -/
def fixedCommand (name : String) : List String :=
  ["--node", name, "--config", "/run/graphx/node.json", "--release-file",
    "/run/graphx/barriers/release", "--release-token", executionValue "GX_OWNER"]

/-- An application runs the executable of its type, with fixed arguments. -/
def admitApplication (name : String) (service : Service) : Except Failure Unit :=
  match findNode config name with
  | none => .error (.reject "E_COMPOSE_SECURITY" "" "unknown application")
  | some node =>
    match host.runtimeTypes.find? (·.1 = node.type) with
    | none => .error (.reject "E_COMPOSE_SECURITY" ""
        "application argv does not match fixed template")
    | some type => do
      let entrypoint ← at? service.entrypoint
      refuse (entrypoint = [type.2]) "application argv does not match fixed template"
      let command ← at? service.command
      refuse (command = fixedCommand name) "application argv does not match fixed template"
      refuse (!service.networks.contains "mg-console") "applications cannot join the console network"

def isPlatformName (name : String) : Bool :=
  name = "platform" || name = "prometheus" || name = "grafana"

/-- Only applications are held to the template. -/
def admitArguments (name : String) (service : Service) : Except Failure Unit :=
  if isPlatformName name then .ok () else admitApplication host config name service

def admitService (entry : String × Service) : Except Failure Unit := do
  let (name, service) := entry
  validateComposeServiceFields config name service
  refuse (service.capDrop = ["ALL"] && service.securityOpt = ["no-new-privileges:true"] &&
    1 ≤ service.pidsLimit && service.pidsLimit ≤ 1024 && 1048576 ≤ service.memLimit &&
    service.memLimit ≤ 4294967296) "invalid resource boundary"
  admitArguments host config name service
  require (service.image ∈ host.verified || "@sha256:".toList <:+: service.image.toList)
    "E_RELEASE_IDENTITY" "" "unpinned service"
  refuse (service.readOnly && service.user = "65532:65532" && service.restart = "no")
    "unsupported service policy"

/-! ## Mounts -/

inductive Mount where
  | volume (source target : String) (readOnly : Bool) (subpath : Option String)
  | bind (source target : String)
  deriving DecidableEq

/-- The part of a mount before its first colon. -/
def mountSource (text : String) : List Char := text.toList.takeWhile (· ≠ ':')

/-- The part of a mount between its first two colons. -/
def mountTarget (text : String) : List Char :=
  if ':' ∈ text.toList then ((text.toList.dropWhile (· ≠ ':')).drop 1).takeWhile (· ≠ ':')
  else text.toList

/-- The directory of all credentials, in a compiled document. -/
def credentialRoot : List Char := (executionValue "GX_CREDENTIALS" ++ "/").toList

def resourceOf (graph : Ident) (name : String) : String := "graphx-" ++ graph.text ++ "-" ++ name

/-- The documents that the compiler writes for the nodes and for the platform. -/
def documents : List (List String) :=
  [["resolved.json"], ["credentials.json"], ["platform.json"]] ++
    config.nodes.map (fun node => ["nodes", node.id.text ++ ".json"]) ++
    config.platform.extensions.flatMap fun
      | .prometheus => [["prometheus-alerts.json"], ["prometheus.json"]]
      | .grafana => [["grafana-dashboard.json"], ["grafana-dashboards.json"],
          ["grafana-datasources.json"]]

/-- The path that a bind names, before it is checked. -/
def bindPath (source : List Char) : Except Failure (List Char) :=
  if ['.', '/'].isPrefixOf source then
    .ok (Path.append (Path.text (host.configurationRoot config.id)) (source.drop 2))
  else do
    let path ← replace host config.id (String.ofList source)
    .ok path.toList

def prepareBind (source target : List Char) : Except Failure Mount := do
  let path ← bindPath host config source
  let path := Path.lexicallyNormal path
  let barriers := Path.text (host.root config.id ++ ["barriers".toList])
  refuse (path = barriers ||
      (Path.text (host.configurationRoot config.id) ++ ['/']).isPrefixOf path)
    "bind is outside the compilation and barrier roots"
  require (path = barriers || ((documents config).map fun parts =>
      Path.text (host.configurationRoot config.id ++ parts.map String.toList)).contains path)
    "E_EXECUTION_PATH" "" "missing path"
  .ok (.bind (String.ofList path) (String.ofList target))

/-- The directory that captures are handed over in, if the network has captures. -/
def handoffMount : Option Mount :=
  if config.ovs && !config.network.captures.isEmpty then
    some (.bind (String.ofList (Path.text (host.root config.id ++
      [("handoff-" ++ host.handoff.text).toList]))) "/captures")
  else none

/-- What a mount becomes; nothing, where the platform would see captures that are not
    there. -/
def prepareMount (name text : String) : Except Failure (Option Mount) :=
  let source := mountSource text
  let target := mountTarget text
  if credentialRoot.isPrefixOf source then
    .ok (some (.volume (resourceOf config.id "credentials") (String.ofList target) true
      (some ("credentials/" ++ String.ofList (source.drop credentialRoot.length)))))
  else if target = "/run/graphx/console".toList && name = "platform" then
    .ok (some (.bind (String.ofList (Path.text (host.root config.id ++
      [("console-" ++ host.console.text).toList]))) (String.ofList target)))
  else if target = "/captures".toList && name = "platform" then .ok (handoffMount host config)
  else if target = "/captures".toList then
    .ok (some (.volume (resourceOf config.id ("capture-" ++ name)) "/captures" false none))
  else if target = "/var/lib/graphx/history".toList then
    .ok (some (.volume (resourceOf config.id "history") "/var/lib/graphx" false none))
  else do
    let mount ← prepareBind host config source target
    .ok (some mount)

/-- The platform reads the captures of the nodes. -/
def captureMounts (name : String) : List Mount :=
  if name = "platform" then
    (config.nodes.filter capturesTraffic).map fun node =>
      .volume (resourceOf config.id ("capture-" ++ node.id.text)) ("/captures/" ++ node.id.text) true none
  else []

/-! ## The document that is run -/

structure RunService where
  service : Service
  containerName : String
  mounts : List Mount

structure RunNetwork where
  network : ComposeNetwork
  name : String
  labels : Table String String

structure RunCompose where
  name : String
  services : List (String × RunService)
  networks : List (String × RunNetwork)
  volumes : List String

/-- The shell in which an application waits for its network. -/
def networkGate : String :=
  "trap 'exit 130' INT TERM; i=0; while [ \"$$i\" -lt 600 ]; do " ++
  "if [ -f /run/graphx/barriers/network-ready ] && " ++
  "[ \"$$(cat /run/graphx/barriers/network-ready)\" = \"$$1\" ]; then " ++
  "shift; exec \"$$@\"; fi; i=$$((i+1)); sleep 0.1; done; exit 124"

/-- An application of a managed network waits for it, unless it is a recorder. -/
def gateService (name : String) (service : Service) : Except Failure Service :=
  if config.ovs && !isPlatformName name && service.capAdd.isNone then do
    let entrypoint ← at? service.entrypoint
    let command ← at? service.command
    .ok { service with
      entrypoint := some ["/bin/sh"]
      command := some (["-c", networkGate, "graphx-network-prepare", host.owner.text] ++ entrypoint ++
        command) }
  else .ok service

def ownedLabels (labels : Table String String) : Table String String :=
  (labels.set "org.graphx.owner" host.owner.text).set "org.graphx.graph" config.id.text

def prepareService (entry : String × Service) : Except Failure (String × RunService) := do
  let (name, service) := entry
  let mounts ← service.volumes.mapM (prepareMount host config name)
  let gated ← gateService host config name service
  .ok (name, {
    service := { gated with
      image := host.imageId service.image
      labels := some (ownedLabels host config (service.labels.getD .empty))
      volumes := [] }
    containerName := resourceOf config.id name
    mounts := mounts.reduceOption ++ captureMounts config name })

def prepareNetwork (entry : String × ComposeNetwork) : String × RunNetwork :=
  (entry.1, {
    network := entry.2
    name := resourceOf config.id entry.1
    labels := ownedLabels host config .empty })

def volumeNames : List String :=
  [resourceOf config.id "history", resourceOf config.id "credentials"] ++
    (config.nodes.filter capturesTraffic).map fun node =>
      resourceOf config.id ("capture-" ++ node.id.text)

end

/-! ## The values of a document -/

section
variable (f : String → String)

def Attached.texts (a : Attached) : List String := a.aliases ++ a.ipv4Address.toList

def Attached.mapTexts (a : Attached) : Attached where
  aliases := a.aliases.map f
  ipv4Address := a.ipv4Address.map f

def Logging.texts (l : Logging) : List String := [l.driver, l.maxFile, l.maxSize]

def Logging.mapTexts (l : Logging) : Logging where
  driver := f l.driver
  maxFile := f l.maxFile
  maxSize := f l.maxSize

/-- The texts of a service, apart from its mounts. -/
def Service.texts (s : Service) : List String :=
  [s.image, s.restart, s.user] ++ s.capDrop ++ s.securityOpt ++ s.tmpfs ++ s.logging.texts ++
    s.capAdd.getD [] ++ s.entrypoint.getD [] ++ s.command.getD [] ++
    (s.environment.getD .empty).values ++ s.networks.values.flatMap Attached.texts ++
    (s.labels.getD .empty).values ++ s.ports.getD []

def Service.mapTexts (s : Service) : Service :=
  { s with
    image := f s.image
    restart := f s.restart
    user := f s.user
    capDrop := s.capDrop.map f
    securityOpt := s.securityOpt.map f
    tmpfs := s.tmpfs.map f
    logging := s.logging.mapTexts f
    capAdd := s.capAdd.map (·.map f)
    entrypoint := s.entrypoint.map (·.map f)
    command := s.command.map (·.map f)
    environment := s.environment.map (·.map fun _ => f)
    networks := s.networks.map fun _ => Attached.mapTexts f
    labels := s.labels.map (·.map fun _ => f)
    ports := s.ports.map (·.map f) }

def Mount.texts : Mount → List String
  | .volume source target _ subpath => [source, target] ++ subpath.toList
  | .bind source target => [source, target]

def Mount.mapTexts : Mount → Mount
  | .volume source target readOnly subpath => .volume (f source) (f target) readOnly (subpath.map f)
  | .bind source target => .bind (f source) (f target)

def RunService.texts (s : RunService) : List String :=
  s.service.texts ++ s.containerName :: s.mounts.flatMap Mount.texts

def RunService.mapTexts (s : RunService) : RunService where
  service := s.service.mapTexts f
  containerName := f s.containerName
  mounts := s.mounts.map (Mount.mapTexts f)

def RunNetwork.texts (n : RunNetwork) : List String :=
  [n.network.driver, n.name] ++ n.network.subnet.toList ++ n.labels.values

def RunNetwork.mapTexts (n : RunNetwork) : RunNetwork where
  network := { n.network with driver := f n.network.driver, subnet := n.network.subnet.map f }
  name := f n.name
  labels := n.labels.map fun _ => f

def RunCompose.texts (c : RunCompose) : List String :=
  c.name :: c.services.flatMap (fun e => RunService.texts e.2) ++
    c.networks.flatMap (fun e => RunNetwork.texts e.2) ++ c.volumes

def RunCompose.mapTexts (c : RunCompose) : RunCompose where
  name := f c.name
  services := c.services.map fun e => (e.1, e.2.mapTexts f)
  networks := c.networks.map fun e => (e.1, e.2.mapTexts f)
  volumes := c.volumes.map f

end

/-- `project`, on the whole document -/
def project (host : Host) (graph : Ident) (compose : RunCompose) : Except Failure RunCompose := do
  let projected := compose.mapTexts (host.substitute graph)
  require (!projected.texts.any isUnresolved) "E_SUBSTITUTION" "" "unresolved Compose field"
  .ok projected

/-- `execute_compose`, up to the document that Docker is given -/
def admitCompose (host : Host) (config : GraphConfig) (compose : Compose) :
    Except Failure RunCompose := do
  checkManaged config
  config.nodes.forM checkExecution
  compose.networks.values.forM admitNetwork
  compose.services.entries.forM (admitService host config)
  let services ← compose.services.entries.mapM (prepareService host config)
  project host config.id {
    name := compose.name.text
    services := services
    networks := compose.networks.entries.map (prepareNetwork host config)
    volumes := volumeNames config }

end GraphX.Config
