/-
  The owned resources: how each kind is recognised and removed
  (`src/infra/ovs_resources.cpp`, `namespace_resources.cpp`,
  `endpoint_resources.cpp`, `capture_resources.cpp`, `fault_resources.cpp`,
  `management_policy.cpp`).

  A check is a function of the world and of the ledger; a removal is a `Run` that
  makes its check immediately before it issues its command.
-/
import GraphX.Host

namespace GraphX

open Imperative Site

/-! ## Containers -/

structure DeploymentService where
  nodeId : String
  image : String

structure Deployment where
  project : String
  services : List DeploymentService

/-- What the lifecycle reads of a configuration. -/
structure GraphConfig where
  id : String
  /-- `configuration_hash` of its file. -/
  hash : String
  deployment : Deployment

/-- The service of an owned container is added to those that were found before. -/
def bindService (lead : String) (services : List DeploymentService)
    (resource : OwnedResourceIdentity) : Result (List DeploymentService) :=
  if resource.kind ≠ "container" then .ok services
  else if !lead.toList.isPrefixOf resource.name.toList || resource.name = lead ||
      resource.secondaryId = "" then
    .error (.runtimeError "invalid owned container service identity")
  else
    let name := String.ofList (resource.name.toList.drop lead.length)
    if services.any (·.nodeId = name) then
      .error (.runtimeError "duplicate owned container service identity")
    else .ok (services ++ [⟨name, resource.secondaryId⟩])

def bindOwnedContainerServices (config : GraphConfig) (state : OwnershipState) : Result GraphConfig :=
  if config.id ≠ state.graphId then
    .error (.runtimeError "container service ledger belongs to another graph")
  else do
    let services ← state.processes.foldlM (bindService ("graphx-" ++ config.id ++ "-")) []
    return { config with deployment := ⟨"graphx-" ++ config.id, services⟩ }

section containers
variable (w : World) (config : GraphConfig) (state : OwnershipState)

def resolveContainer (owner : String) : Result Container :=
  match config.deployment.services.find? (·.nodeId = owner) with
  | none => .error (.runtimeError ("no deployment service for container attachment owner " ++ owner))
  | some service =>
    match w.containers.filter fun c => c.running && c.project = config.deployment.project &&
        c.service = owner with
    | [c] =>
      if c.image ≠ service.image then
        .error (.runtimeError ("Docker deployment identity does not match declared service " ++ owner))
      else if c.id.length ≠ 64 || !c.id.toList.all isXDigit then
        .error (.runtimeError "Docker returned an invalid full container identity")
      else if c.pid = 0 then .error (.runtimeError "Docker returned an invalid container PID")
      else .ok c
    | _ => .error (.runtimeError
        ("expected exactly one running container for Compose service " ++ owner))

def resolveOwnedContainer (owner : String) : Result Container := do
  let c ← resolveContainer w config owner
  match state.processes.find? fun item =>
      item.kind = "container" && item.name = "graphx-" ++ state.graphId ++ "-" ++ owner with
  | none => .error (.runtimeError "E_DOCKER_IDENTITY: endpoint container is not graph-owned")
  | some record =>
    if record.stableId ≠ c.id || record.processIdentity ≠ state.ownerToken then
      .error (.runtimeError "E_DOCKER_IDENTITY: endpoint container is not graph-owned")
    else if c.owner ++ "/" ++ c.graph ≠ state.ownerToken ++ "/" ++ state.graphId then
      .error (.runtimeError "E_DOCKER_IDENTITY: endpoint container owner changed")
    else if !c.inCgroup then
      .error (.runtimeError "E_DOCKER_IDENTITY: container is not in the local engine cgroup")
    else .ok c

end containers

/-! ## Bridges -/

section bridges
variable (w : World) (state : OwnershipState)

def internalPort (bridge : OwnedResourceIdentity) : String :=
  if bridge.secondaryId = "" then w.ovsGet .port bridge.name .uuid else bridge.secondaryId

/-- The markers of a bridge are those of the graph. -/
def bridgeMarked (name : String) : Bool :=
  w.ovsGet .bridge name (.externalId .owner) = state.ownerToken &&
    w.ovsGet .bridge name (.externalId .configHash) = state.configHash &&
    w.ovsGet .bridge name (.externalId .graph) = state.graphId

def observedBridge (name : String) : OwnedResourceIdentity :=
  bridgeIdentity name (w.ovsGet .bridge name .uuid) (w.ovsGet .port name .uuid)

def bridgeOwned (bridge : OwnedResourceIdentity) : Bool :=
  internalPort w bridge ≠ "" && w.bridgeExists bridge.name &&
    stableIdentityMatches bridge (observedBridge w bridge.name) && bridgeMarked w state bridge.name

def ovsUuidSet (value : String) : Finset String :=
  (runsOf (fun c => isXDigit c || c = '-') value.toList []).toFinset

/-- The recorded ports of a bridge that are still there; `none` if an endpoint has
    no definition. -/
def expectedPorts (bridge : OwnedResourceIdentity) :
    List OwnedResourceIdentity → Option (Finset String)
  | [] => some ∅
  | endpoint :: rest =>
    match state.expectedEndpoint? endpoint.attachmentId with
    | none => none
    | some definition =>
      if definition.networkSwitch = bridge.name &&
          w.ovsGet .port endpoint.stableId .uuid = endpoint.stableId then
        (expectedPorts bridge rest).map (insert endpoint.stableId)
      else expectedPorts bridge rest

def bridgeCompleteSetOwned (bridge : OwnedResourceIdentity) : Bool :=
  bridgeOwned w state bridge &&
    match expectedPorts w state bridge state.endpoints with
    | none => false
    | some expected =>
      ovsUuidSet (w.ovsGet .bridge bridge.stableId .ports) = insert (internalPort w bridge) expected

/-- What `wait-until` requires of a bridge. -/
def bridgeConditions : List (Marker × String) :=
  [(.owner, state.ownerToken), (.configHash, state.configHash), (.graph, state.graphId)]

def deleteOwnedBridge (bridge : OwnedResourceIdentity) : Run Bool := do
  let s ← get
  let port := internalPort s.world bridge
  if port = "" || s.world.ovsGet .port bridge.name .uuid ≠ port ||
      s.world.ovsGet .bridge bridge.stableId .ports ≠ setText [port] then
    return false
  else issue (.destroyBridge bridge.stableId port (bridgeConditions s.memory))

end bridges

/-! ## Namespaces -/

def namespaceOwned (w : World) (state : OwnershipState) (item : OwnedResourceIdentity) : Bool :=
  match w.namespaceInode item.name with
  | none => false
  | some inode =>
    item.namespaceInode = some inode &&
      ((w.namespaces item.name).bind (·.loopback)).any (contains · (namespaceAlias state item.name))

def deleteOwnedNamespace (item : OwnedResourceIdentity) : Run Bool := do
  let s ← get
  if (s.world.namespaceInode item.name).isNone then return true
  else if namespaceOwned s.world s.memory item then issue (.deleteNamespace item.name)
  else return false

/-! ## Endpoints -/

section endpoints
variable (w : World) (config : GraphConfig) (state : OwnershipState)

def endpointMarked (table : OvsTable) (uuid attachment : String) : Bool :=
  w.ovsGet table uuid (.externalId .owner) = state.ownerToken &&
    w.ovsGet table uuid (.externalId .attachment) = attachment &&
    w.ovsGet table uuid (.externalId .configHash) = state.configHash &&
    w.ovsGet table uuid (.externalId .graph) = state.graphId

def ovsEndpointOwned (endpoint : OwnedResourceIdentity) : Bool :=
  w.ovsGet .port endpoint.stableId .uuid = endpoint.stableId &&
    w.ovsGet .interface endpoint.secondaryId .uuid = endpoint.secondaryId &&
    endpointMarked w state .port endpoint.stableId endpoint.attachmentId &&
    endpointMarked w state .interface endpoint.secondaryId endpoint.attachmentId

def hostEndpointOwned (endpoint : OwnedResourceIdentity) : Bool :=
  match w.linkIfindex endpoint.name with
  | none => false
  | some observed =>
    endpoint.ifindex = some observed &&
      w.linkAlias endpoint.name = endpointAlias state endpoint.attachmentId "host"

def tapOwnerMatches (expected : ExpectedEndpoint) : Bool :=
  match (w.links expected.hostInterface).bind (·.tuntap) with
  | none => false
  | some details =>
    contains details " tap " && contains details (" user " ++ toString expected.tapUid.toNat) &&
      contains details (" group " ++ toString expected.tapGid.toNat)

def endpointNamesAbsentOrRecorded (endpoint : OwnedResourceIdentity) : Bool :=
  let portUuid := w.ovsGet .port endpoint.name .uuid
  let interfaceUuid := w.ovsGet .interface endpoint.name .uuid
  (portUuid = "" || portUuid = endpoint.stableId) &&
    (interfaceUuid = "" || interfaceUuid = endpoint.secondaryId)

def endpointVlanMatches (expected : ExpectedEndpoint) (endpoint : OwnedResourceIdentity) : Bool :=
  (match expected.vlan.accessTag with
    | none => true
    | some tag => w.ovsGet .port endpoint.stableId (.named "tag") = toString tag.toNat) &&
  (expected.vlan.trunks.isEmpty ||
    ovsUuidSet (w.ovsGet .port endpoint.stableId (.named "trunks")) =
      (expected.vlan.trunks.map fun trunk => toString trunk.toNat).toFinset)

def mirrorAbsentOrOwned (endpoint : OwnedResourceIdentity) : Bool :=
  if endpoint.routeIdentity = "" then true
  else if !w.ovsAnswers then false
  else
    let recorded := ((w.row .mirror endpoint.routeIdentity).map (·.uuid)).toList
    let named := w.ovsFind .mirror (·.name = endpoint.name)
    let owned := w.ovsFind .mirror fun r => r.externalIds .owner = some state.ownerToken &&
      r.externalIds .attachment = some endpoint.attachmentId
    if named.isEmpty && recorded.isEmpty && owned.isEmpty then true
    else
      named = [endpoint.routeIdentity] && recorded = [endpoint.routeIdentity] &&
        owned = [endpoint.routeIdentity] &&
        w.ovsGet .mirror endpoint.routeIdentity (.externalId .graph) = state.graphId &&
        w.ovsGet .mirror endpoint.routeIdentity (.externalId .configHash) = state.configHash

/-- The word that follows the word `key`. -/
def wordAfter (key : String) : List String → Option String
  | [] => none
  | word :: rest => if word = key then rest.head? else wordAfter key rest

def mirrorPeerLinkMatches (link : String) (index : UInt32) (name : String) : Bool :=
  match words link with
  | [] => false
  | first :: rest => first = toString index.toNat ++ ":" && wordAfter "alias" rest = some name

def mirrorPeerOwned (expected : ExpectedEndpoint) (endpoint : OwnedResourceIdentity) :
    Result Bool := do
  let container ← resolveOwnedContainer w config state expected.owner
  if container.id ≠ endpoint.containerId ||
      some container.namespaceInode ≠ endpoint.namespaceInode then
    return false
  else match container.links expected.targetInterface, endpoint.peerIfindex with
    | some link, some index =>
      return mirrorPeerLinkMatches link index (endpointAlias state expected.id "peer")
    | _, _ => return false

/-- The other end of a mirror is in the host's namespace, as recorded. -/
def peerInHost (expected : ExpectedEndpoint) (endpoint : OwnedResourceIdentity) : Bool :=
  w.linkIfindex expected.targetInterface = endpoint.peerIfindex &&
    w.linkAlias expected.targetInterface = endpointAlias state endpoint.attachmentId "peer"

/-- The ends of a mirror into a container are both as recorded. -/
def endpointPaired (expected : ExpectedEndpoint) (endpoint : OwnedResourceIdentity) : Result Bool :=
  if expected.mirrorContainer && (w.linkIfindex endpoint.name).isSome then
    if !hostEndpointOwned w state endpoint then .ok false
    else if peerInHost w state expected endpoint then .ok true
    else mirrorPeerOwned w config state expected endpoint
  else .ok true

/-- The checks of `delete_owned_endpoint` ahead of its commands: the definition of
    the endpoint and the bridge that it is on. -/
def endpointDeletable (endpoint : OwnedResourceIdentity) :
    Result (Option (ExpectedEndpoint × OwnedResourceIdentity)) := do
  let expected ← state.expectedEndpoint endpoint.attachmentId
  let paired ← endpointPaired w config state expected endpoint
  if paired && endpointNamesAbsentOrRecorded w endpoint && mirrorAbsentOrOwned w state endpoint then
    return (state.bridges.find? (·.name = expected.networkSwitch)).map fun bridge =>
      (expected, bridge)
  else return none

/-- What `wait-until` requires of an endpoint's rows. -/
def endpointConditions (endpoint : OwnedResourceIdentity) : List (Marker × String) :=
  [(.owner, state.ownerToken), (.attachment, endpoint.attachmentId),
    (.configHash, state.configHash), (.graph, state.graphId)]

def deleteMirror (bridge endpoint : OwnedResourceIdentity) : Run Bool := do
  let s ← get
  if endpoint.routeIdentity ≠ "" &&
      s.world.ovsGet .mirror endpoint.routeIdentity .uuid = endpoint.routeIdentity then
    issue (.destroyMirror bridge.stableId endpoint.routeIdentity
      (endpointConditions s.memory endpoint))
  else return true

def deletePort (bridge endpoint : OwnedResourceIdentity) : Run Bool := do
  let s ← get
  if s.world.ovsGet .port endpoint.stableId .uuid = endpoint.stableId then
    if ovsEndpointOwned s.world s.memory endpoint then
      issue (.destroyPort bridge.stableId endpoint.stableId endpoint.secondaryId
        (endpointConditions s.memory endpoint))
    else return false
  else return true

def deleteHostLink (expected : ExpectedEndpoint) (endpoint : OwnedResourceIdentity) : Run Bool := do
  let s ← get
  if (s.world.linkIfindex endpoint.name).isSome then
    if !hostEndpointOwned s.world s.memory endpoint then return false
    else if expected.kind = .qemuTap then
      if tapOwnerMatches s.world expected &&
          endpoint.tapOwner = tapOwnerIdentity expected.tapUid expected.tapGid then
        issue (.deleteTap endpoint.name)
      else return false
    else issue (.deleteLink endpoint.name)
  else return true

def deleteOwnedEndpoint (endpoint : OwnedResourceIdentity) : Run Bool := do
  let s ← get
  match endpointDeletable s.world config s.memory endpoint with
  | .error e => throw e
  | .ok none => return false
  | .ok (some (expected, bridge)) =>
    if ← deleteMirror bridge endpoint then
      if ← deletePort bridge endpoint then deleteHostLink expected endpoint else return false
    else return false

end endpoints

/-! ## Processes -/

def processOwned (pid : UInt32) (startTime marker : String) (w : World) : Bool :=
  pid ≠ 0 && startTime ≠ "" && w.processStartTime pid = startTime &&
    contains (w.processCommand pid) marker

def timerOwned (pid : UInt32) (startTime : String) (w : World) : Bool :=
  pid ≠ 0 && startTime ≠ "" && w.processStartTime pid = startTime &&
    w.processName pid = "graphx-fault"

/-- `stop_owned_process`; `owned` is the check of the process or of the timer. -/
def stopOwnedProcess (pid : UInt32) (owned : World → Bool) : Run Bool := do
  let s ← get
  if !owned s.world then return s.world.processStartTime pid = ""
  else do
    let _ ← issue (.signal pid false)
    let s ← get
    if s.world.processStartTime pid = "" then return true
    else do
      if owned s.world then
        let _ ← issue (.signal pid true)
      let s ← get
      return s.world.processStartTime pid = ""

/-! ## Captures -/

def captureDirectoryMetadataMatches (capture : OwnedCapture) (d : Directory)
    (requiredMode : UInt32) : Bool :=
  d.isDirectory && d.device = capture.directoryDevice && d.inode = capture.directoryInode &&
    d.uid = capture.directoryUid && d.gid = capture.directoryGid &&
    d.mode &&& 0o777 = requiredMode && capture.directoryUid = 0 && capture.directoryGid = 0 &&
    capture.directoryMode = 0o700

/-- In use or sealed. -/
def directoryMatches (capture : OwnedCapture) (d : Directory) : Bool :=
  captureDirectoryMetadataMatches capture d 0o700 || captureDirectoryMetadataMatches capture d 0o550

def directoryIdentityMatches (w : World) (capture : OwnedCapture) : Bool :=
  (w.directories capture.sessionDirectory).any (directoryMatches capture)

def captureFileSafe (requireReadOnly : Bool) (file : CaptureFile) : Bool :=
  (file.name = "dumpcap.stderr" || file.name.endsWith ".pcapng") && file.regular &&
    file.links = 1 && file.uid = 0 && file.gid = 0 && file.mode &&& 0o22 = 0 &&
    (!requireReadOnly || file.mode &&& 0o222 = 0)

def inspectCaptureSessionFiles (files : List CaptureFile) (requireReadOnly : Bool) :
    Option (List CaptureFile) :=
  if files.all (captureFileSafe requireReadOnly) && files.any (·.name.endsWith ".pcapng") then
    some files
  else none

def sessionFiles (w : World) (path : String) : List CaptureFile :=
  ((w.directories path).map (·.files)).getD []

/-- The same file, found again. -/
def sameFile (expected file : CaptureFile) : Bool :=
  file.name = expected.name && file.device = expected.device && file.inode = expected.inode

def sealEach (path : String) : List CaptureFile → Run Bool
  | [] => return true
  | expected :: rest => do
    let s ← get
    if (sessionFiles s.world path).any fun f => sameFile expected f && captureFileSafe false f then
      if ← issue (.sealFile path expected.name) then
        let s ← get
        if (sessionFiles s.world path).any fun f => sameFile expected f && captureFileSafe true f then
          sealEach path rest
        else return false
      else return false
    else return false

def sealCaptureSessionFiles (path : String) : Run Bool := do
  let s ← get
  match inspectCaptureSessionFiles (sessionFiles s.world path) false with
  | none => return false
  | some files =>
    if ← sealEach path files then
      let s ← get
      match inspectCaptureSessionFiles (sessionFiles s.world path) true with
      | none => return false
      | some found =>
        return found.length = files.length &&
          files.all fun expected => found.any (sameFile expected)
    else return false

def stopCapture (capture : OwnedCapture) : Run Bool := do
  let s ← get
  if !directoryIdentityMatches s.world capture then return false
  else if ← stopOwnedProcess capture.pid
      (processOwned capture.pid capture.processStartTime capture.sessionDirectory) then
    let s ← get
    if !directoryIdentityMatches s.world capture then return false
    else if ← sealCaptureSessionFiles capture.sessionDirectory then
      if ← issue (.sealDirectory capture.sessionDirectory) then
        let s ← get
        return (s.world.directories capture.sessionDirectory).any
          (captureDirectoryMetadataMatches capture · 0o550)
      else return false
    else return false
  else return false

/-! ## Faults -/

section faults
variable (w : World) (fault : OwnedFault)

def faultDeadlineElapsed : Bool :=
  w.bootIdentity = fault.bootId && fault.expiresMonotonicNs ≤ w.monotonicNs

def faultHealthy : Bool :=
  w.linkIfindex fault.interface = some fault.ifindex &&
    if timerOwned fault.timerPid fault.timerStartTime w then
      w.qdiscState fault.interface = fault.qdiscIdentity
    else
      faultDeadlineElapsed w fault && !contains (w.qdiscState fault.interface) "netem"

def clearFault : Run Bool := do
  let s ← get
  let qdisc := s.world.qdiscState fault.interface
  -- The conditions of `fault_healthy` once more.
  if !faultHealthy s.world fault then return false
  else do
    let stopped ←
      if timerOwned fault.timerPid fault.timerStartTime s.world then
        stopOwnedProcess fault.timerPid (timerOwned fault.timerPid fault.timerStartTime)
      else pure true
    if stopped then
      if contains qdisc "netem" then issue (.deleteQdisc fault.interface) else return true
    else return false

end faults

/-! ## Management policies -/

section policies
variable (w : World) (config : GraphConfig) (state : OwnershipState)

/-- `docker inspect`, of which the state is read. -/
def containerRunning (id : String) : Result Bool :=
  match w.containers.find? (·.id = id) with
  | some container => .ok container.running
  | none => .error (.runtimeError "E_MANAGEMENT_ACL: command failed")

/-- `policy_hash` -/
def containerPolicy (container : Container) : Result String :=
  match container.policy with
  | some policy => .ok policy
  | none => .error (.runtimeError "E_MANAGEMENT_ACL: command failed")

/-- The check of one endpoint when the policy may be absent. -/
def endpointPolicyMatches (endpoint : ExpectedEndpoint) : Result Bool := do
  if endpoint.managementPolicy = "" then return true
  else if (w.linkIfindex endpoint.hostInterface).isNone then return true
  else if !(← containerRunning w endpoint.containerId) then return true
  else
    let container ← resolveOwnedContainer w config state endpoint.owner
    if container.namespaceInode ≠ endpoint.namespaceInode then return false
    else return (← containerPolicy container) = endpoint.managementPolicy

/-- `management_policy_matches` with `allow_absent`: the first endpoint of each
    container is looked at. -/
def managementPolicyMatches (seen : List String) : List ExpectedEndpoint → Result Bool
  | [] => .ok true
  | endpoint :: rest =>
    if endpoint.kind ≠ .containerVeth || seen.contains endpoint.owner then
      managementPolicyMatches seen rest
    else do
      if ← endpointPolicyMatches w config state endpoint then
        managementPolicyMatches (endpoint.owner :: seen) rest
      else return false

end policies

end GraphX
