/-
  The ownership ledger (`include/graphx/ownership.hpp`,
  `src/infra/ownership_state.hpp`, and the definitions of
  `include/graphx/network.hpp` that it records).

  The ledger of a graph lists what its creation was going to make (`expected*`)
  and the identities of what it has made.  Cleanup may touch a resource only if
  what it observes is what the ledger recorded.
-/
import GraphX.Telemetry

namespace GraphX

/-! ## Networks -/

inductive AttachmentKind where
  | containerVeth
  | namespaceVeth
  | qemuTap
  | external
  | mirror
  deriving DecidableEq

structure VlanMetadata where
  accessTag : Option UInt16 := none
  trunks : List UInt16 := []
  deriving DecidableEq

structure RouteDefinition where
  destination : String := ""
  via : String := ""
  device : String := ""
  installOnCreate : Bool := true
  deriving DecidableEq

structure NetworkCaptureDefinition where
  id : String := ""
  attachment : String := ""
  directory : String := ""
  snaplen : UInt32 := 65535
  maxFileBytes : UInt64 := 67108864
  maxFiles : UInt32 := 4
  rotationSeconds : UInt32 := 300
  retentionSeconds : UInt32 := 86400
  deriving DecidableEq

structure NetworkFaultDefinition where
  id : String := ""
  attachment : String := ""
  delayMs : UInt32 := 0
  jitterMs : UInt32 := 0
  lossPercent : Double := .finite false 0
  rateKbit : UInt32 := 0
  durationSeconds : UInt32 := 30

/-! ## Identities -/

/-- Each kind of resource fills the slots that it has. -/
structure OwnedResourceIdentity where
  kind : String := ""
  name : String := ""
  stableId : String := ""
  secondaryId : String := ""
  attachmentId : String := ""
  targetInterface : String := ""
  ifindex : Option UInt32 := none
  peerIfindex : Option UInt32 := none
  namespaceInode : Option UInt64 := none
  containerId : String := ""
  tapOwner : String := ""
  routeIdentity : String := ""
  ruleIdentity : String := ""
  qdiscIdentity : String := ""
  captureIdentity : String := ""
  processIdentity : String := ""
  runtimeDirectory : String := ""
  runtimeIdentity : String := ""
  deriving DecidableEq

def bridgeIdentity (name uuid internalPortUuid : String) : OwnedResourceIdentity :=
  { kind := "ovs_bridge", name := name, stableId := uuid, secondaryId := internalPortUuid }

def stableIdentityMatches (expected observed : OwnedResourceIdentity) : Bool :=
  expected.kind = observed.kind && expected.name = observed.name &&
    expected.stableId = observed.stableId && expected.secondaryId = observed.secondaryId &&
    expected.attachmentId = observed.attachmentId &&
    expected.targetInterface = observed.targetInterface && expected.ifindex = observed.ifindex &&
    expected.peerIfindex = observed.peerIfindex &&
    expected.namespaceInode = observed.namespaceInode &&
    expected.containerId = observed.containerId && expected.tapOwner = observed.tapOwner &&
    expected.routeIdentity = observed.routeIdentity &&
    expected.ruleIdentity = observed.ruleIdentity &&
    expected.qdiscIdentity = observed.qdiscIdentity &&
    expected.captureIdentity = observed.captureIdentity &&
    expected.processIdentity = observed.processIdentity

structure ExpectedEndpoint where
  mirrorContainer : Bool := false
  kind : AttachmentKind := .containerVeth
  id : String := ""
  owner : String := ""
  hostInterface : String := ""
  targetInterface : String := ""
  networkSwitch : String := ""
  address : String := ""
  mac : String := ""
  mtu : UInt32 := 1500
  routes : List RouteDefinition := []
  aliases : List String := []
  managementPolicy : String := ""
  containerId : String := ""
  namespaceInode : UInt64 := 0
  namespaceName : String := ""
  tapUid : UInt32 := 0
  tapGid : UInt32 := 0
  vlan : VlanMetadata := {}
  deriving DecidableEq

structure ExpectedCapture where
  definition : NetworkCaptureDefinition
  interface : String
  deriving DecidableEq

structure OwnedCapture where
  id : String := ""
  attachmentId : String := ""
  interface : String := ""
  sessionDirectory : String := ""
  ifindex : UInt32 := 0
  directoryDevice : UInt64 := 0
  directoryInode : UInt64 := 0
  directoryUid : UInt32 := 0
  directoryGid : UInt32 := 0
  directoryMode : UInt32 := 0
  pid : UInt32 := 0
  processStartTime : String := ""
  snapshotInode : UInt64 := 0
  snapshotPendingInode : UInt64 := 0
  deriving DecidableEq

structure ExpectedFault where
  definition : NetworkFaultDefinition
  interface : String

structure OwnedFault where
  id : String := ""
  attachmentId : String := ""
  interface : String := ""
  ifindex : UInt32 := 0
  qdiscIdentity : String := ""
  timerPid : UInt32 := 0
  timerStartTime : String := ""
  bootId : String := ""
  appliedMonotonicNs : UInt64 := 0
  expiresMonotonicNs : UInt64 := 0
  deriving DecidableEq

structure OwnedScenarioAction where
  id : String
  kind : String
  status : String
  identity : String
  deriving DecidableEq

/-! ## The ledger -/

/-- `std::map<std::string, std::string>`: the entries, with increasing keys. -/
@[ext] structure StringMap where
  entries : List (String × String)
  sorted : entries.Pairwise fun a b => a.1 < b.1

def StringMap.empty : StringMap := ⟨[], .nil⟩

structure OwnershipState where
  actions : List OwnedScenarioAction := []
  credentialDirectory : String := ""
  credentialIdentity : String := ""
  graphId : String := ""
  configHash : String := ""
  ownerToken : String := ""
  status : String := ""
  applications : StringMap := .empty
  consoleSockets : StringMap := .empty
  consoleName : String := ""
  consoleInode : UInt64 := 0
  consoleDevice : UInt64 := 0
  handoffName : String := ""
  handoffInode : UInt64 := 0
  handoffDevice : UInt64 := 0
  expectedBridges : List String := []
  bridges : List OwnedResourceIdentity := []
  expectedEndpoints : List ExpectedEndpoint := []
  endpoints : List OwnedResourceIdentity := []
  expectedNamespaces : List String := []
  namespaces : List OwnedResourceIdentity := []
  expectedCaptures : List ExpectedCapture := []
  captures : List OwnedCapture := []
  expectedFaults : List ExpectedFault := []
  faults : List OwnedFault := []
  processes : List OwnedResourceIdentity := []

namespace OwnershipState

def clearInfrastructure (state : OwnershipState) : OwnershipState :=
  { state with
    expectedBridges := [], bridges := [], expectedEndpoints := [], endpoints := []
    expectedNamespaces := [], namespaces := [], expectedCaptures := [], captures := []
    expectedFaults := [], faults := [] }

/-- `expected_endpoint`, without its exception. -/
def expectedEndpoint? (state : OwnershipState) (id : String) : Option ExpectedEndpoint :=
  state.expectedEndpoints.find? (·.id = id)

def expectedEndpoint (state : OwnershipState) (id : String) : Result ExpectedEndpoint :=
  match state.expectedEndpoint? id with
  | some endpoint => .ok endpoint
  | none => .error (.runtimeError ("missing expected endpoint record " ++ id))

end OwnershipState

def endpointAlias (state : OwnershipState) (attachment side : String) : String :=
  "graphx:" ++ state.ownerToken ++ ":" ++ attachment ++ ":" ++ side

def namespaceAlias (state : OwnershipState) (name : String) : String :=
  "graphx:" ++ state.ownerToken ++ ":netns:" ++ name

def tapOwnerIdentity (uid gid : UInt32) : String :=
  toString uid.toNat ++ ":" ++ toString gid.toNat

end GraphX
