/-
  `destroy` and `recover` (`execute_ovs_lifecycle_impl` in
  `src/infra/lifecycle_coordinator.cpp`).

  Cleanup first adds to the ledger what an interrupted creation made and did not
  record (`discover`), then refuses if anything recorded is not what it was
  (`refuseReplaced`), and only then removes the resources, each after a check of
  its own (`removeRecorded`).
-/
import GraphX.Resources

namespace GraphX

open Imperative Site

inductive CleanupAction where
  | destroy
  | recover
  deriving DecidableEq

/-! ## Discovery -/

/-- The ledger with a namespace that was made and not recorded; `none` if there is
    no such namespace. -/
def recoverNamespace (name : String) (w : World) (state : OwnershipState) :
    Result (Option OwnershipState) :=
  if state.namespaces.any (·.name = name) then .ok none
  else match w.namespaceInode name with
    | none => .ok none
    | some inode =>
      let recovered : OwnedResourceIdentity :=
        { kind := "linux_namespace", name := name, namespaceInode := some inode }
      if namespaceOwned w state recovered then .ok (some { state with
        namespaces := state.namespaces ++ [recovered]
        expectedEndpoints := state.expectedEndpoints.map fun endpoint =>
          if endpoint.namespaceName = name then { endpoint with namespaceInode := inode }
          else endpoint })
      else .error (.runtimeError
        "E_NAMESPACE_IDENTITY: interrupted namespace lacks ownership proof; state retained")

def discoverBridge (name : String) (w : World) (state : OwnershipState) :
    Result (Option OwnershipState) :=
  if state.bridges.any (·.name = name) || !w.bridgeExists name then .ok none
  else if bridgeMarked w state name then
    .ok (some { state with bridges := state.bridges ++ [observedBridge w name] })
  else .error (.runtimeError ("refusing unowned or replaced OVS bridge: " ++ name))

/-- The kind of a record. -/
def ownedKind : AttachmentKind → String
  | .containerVeth => "container_veth"
  | .namespaceVeth => "namespace_veth"
  | .qemuTap => "qemu_tap"
  | _ => "mirror_veth"

/-- `ovs_find_uuid` for a mirror: its UUID if there is exactly one. -/
def findMirror (w : World) (state : OwnershipState) (attachment : String) : String :=
  if w.ovsAnswers then
    match w.ovsFind .mirror fun r => r.externalIds .attachment = some attachment &&
        r.externalIds .owner = some state.ownerToken with
    | [uuid] => uuid
    | _ => ""
  else ""

/-- The record of an endpoint that was found, but for the other end of a mirror. -/
def foundEndpoint (w : World) (state : OwnershipState) (expected : ExpectedEndpoint)
    (ifindex peerIfindex : UInt32) : OwnedResourceIdentity where
  kind := ownedKind expected.kind
  attachmentId := expected.id
  name := expected.hostInterface
  targetInterface := expected.targetInterface
  ifindex := some ifindex
  peerIfindex := some peerIfindex
  namespaceInode := some expected.namespaceInode
  containerId := expected.containerId
  tapOwner := if expected.kind = .qemuTap then tapOwnerIdentity expected.tapUid expected.tapGid
    else ""
  stableId := w.ovsGet .port expected.hostInterface .uuid
  secondaryId := w.ovsGet .interface expected.hostInterface .uuid
  routeIdentity := if expected.kind = .mirror then findMirror w state expected.id else ""

/-- What is found of an endpoint that was expected and not recorded: both the alias
    of the link and the markers of the port must show its owner. -/
def discoveredEndpoint (w : World) (state : OwnershipState) (expected : ExpectedEndpoint) :
    Result (Option OwnedResourceIdentity) :=
  let portUuid := w.ovsGet .port expected.hostInterface .uuid
  match w.linkIfindex expected.hostInterface with
  | none =>
    if portUuid = "" then .ok none
    else .error (.runtimeError ("refusing unowned or replaced container endpoint: " ++ expected.id))
  | some ifindex =>
    if w.linkAlias expected.hostInterface ≠ endpointAlias state expected.id "host" ||
        portUuid = "" || w.ovsGet .port portUuid (.externalId .owner) ≠ state.ownerToken ||
        w.ovsGet .port portUuid (.externalId .attachment) ≠ expected.id then
      .error (.runtimeError ("refusing unowned or replaced container endpoint: " ++ expected.id))
    else if expected.kind = .mirror && !expected.mirrorContainer then
      match w.linkIfindex expected.targetInterface with
      | some peerIfindex =>
        if w.linkAlias expected.targetInterface = endpointAlias state expected.id "peer" then
          .ok (some (foundEndpoint w state expected ifindex peerIfindex))
        else .error (.runtimeError ("refusing unowned or replaced mirror peer: " ++ expected.id))
      | none => .error (.runtimeError ("refusing unowned or replaced mirror peer: " ++ expected.id))
    else if expected.kind = .qemuTap && !tapOwnerMatches w expected then
      .error (.runtimeError ("refusing unowned or replaced QEMU TAP: " ++ expected.id))
    else
      let peerIfindex := if expected.mirrorContainer then
        (w.linkPeerIfindex expected.hostInterface).getD 0 else ifindex
      .ok (some (foundEndpoint w state expected ifindex peerIfindex))

def discoverEndpoint (expected : ExpectedEndpoint) (w : World) (state : OwnershipState) :
    Result (Option OwnershipState) := do
  if state.endpoints.any (·.attachmentId = expected.id) then return none
  else
    let discovered ← discoveredEndpoint w state expected
    return discovered.map fun item => { state with endpoints := state.endpoints ++ [item] }

/-- Keeps the ledger that was found, if any. -/
def adopt (found : World → OwnershipState → Result (Option OwnershipState)) (publish : Run Unit) :
    Run Unit := do
  let s ← get
  match found s.world s.memory with
  | .error e => throw e
  | .ok none => return ()
  | .ok (some memory) => do
    modify fun s => { s with memory }
    publish

def recoverNamespaces : Run Unit := do
  let s ← get
  s.memory.expectedNamespaces.forM fun name => adopt (recoverNamespace name) saveState

/-- What was made before it was recorded. -/
def discover : Run Unit := do
  recoverNamespaces
  let s ← get
  s.memory.expectedBridges.forM fun name => adopt (discoverBridge name) (pure ())
  let s ← get
  s.memory.expectedEndpoints.forM fun expected => adopt (discoverEndpoint expected) (pure ())

/-! ## The check of all records -/

section refuse
variable (w : World) (config : GraphConfig) (state : OwnershipState)

/-- `throw` unless the condition holds. -/
def require (b : Bool) (what : String) : Result Unit :=
  if b then .ok () else .error (.runtimeError what)

def refuseBridge (item : OwnedResourceIdentity) : Result Unit :=
  require (!w.bridgeExists item.name || bridgeCompleteSetOwned w state item)
    ("refusing OVS bridge with replaced identity or unexpected ports: " ++ item.name)

/-- A TAP belongs to its user, and its port to its VLAN. -/
def tapUnchanged (expected : ExpectedEndpoint) (item : OwnedResourceIdentity) : Bool :=
  tapOwnerMatches w expected && item.tapOwner = tapOwnerIdentity expected.tapUid expected.tapGid &&
    endpointVlanMatches w expected item

def refuseContainerPeer (expected : ExpectedEndpoint) (item : OwnedResourceIdentity) :
    Result Unit := do
  if expected.mirrorContainer && (w.linkIfindex item.name).isSome &&
      !peerInHost w state expected item then
    let owned ← mirrorPeerOwned w config state expected item
    require owned ("refusing replaced container mirror peer: " ++ item.attachmentId)
  else return ()

/-- The other end of a mirror on the host. -/
def mirrorPeerUnchanged (expected : ExpectedEndpoint) (item : OwnedResourceIdentity) : Bool :=
  !(expected.kind = .mirror && !expected.mirrorContainer &&
      ((w.linkIfindex item.name).isSome || (w.linkIfindex expected.targetInterface).isSome)) ||
    peerInHost w state expected item

def refuseEndpoint (item : OwnedResourceIdentity) : Result Unit := do
  require ((w.linkIfindex item.name).isNone || hostEndpointOwned w state item)
    ("refusing to delete replaced host endpoint: " ++ item.attachmentId)
  require (w.ovsGet .port item.stableId .uuid = "" || ovsEndpointOwned w state item)
    ("refusing to delete replaced OVS endpoint: " ++ item.attachmentId)
  require (endpointNamesAbsentOrRecorded w item)
    ("refusing same-name OVS endpoint replacement: " ++ item.attachmentId)
  require (mirrorAbsentOrOwned w state item) ("refusing replaced OVS mirror: " ++ item.attachmentId)
  let expected ← state.expectedEndpoint item.attachmentId
  require (expected.kind ≠ .qemuTap || tapUnchanged w expected item)
    ("refusing replaced QEMU TAP ownership or VLAN: " ++ item.attachmentId)
  refuseContainerPeer w config state expected item
  require (mirrorPeerUnchanged w state expected item)
    ("refusing replaced mirror peer: " ++ item.attachmentId)

def refuseNamespace (item : OwnedResourceIdentity) : Result Unit := do
  if (w.namespaceInode item.name).isSome then
    let what := "refusing to delete replaced Linux namespace: " ++ item.name
    require (namespaceOwned w state item) what
    if item.ruleIdentity ≠ "" then
      let observed ← w.namespacePolicy item.name
      require (item.ruleIdentity = observed) what
    else return ()
  else return ()

def refuseCapture (item : OwnedCapture) : Result Unit := do
  require (directoryIdentityMatches w item) ("refusing replaced capture directory: " ++ item.id)
  require (w.processStartTime item.pid = "" ||
    processOwned item.pid item.processStartTime item.sessionDirectory w)
    ("refusing replaced capture process: " ++ item.id)

def refuseFault (item : OwnedFault) : Result Unit :=
  require (faultHealthy w item) ("refusing replaced fault target, timer, or qdisc: " ++ item.id)

/-- Refuses the entire cleanup before the first change. -/
def refuseReplaced : Result Unit := do
  state.bridges.forM (refuseBridge w state)
  state.endpoints.forM (refuseEndpoint w config state)
  state.namespaces.forM (refuseNamespace w state)
  state.captures.forM (refuseCapture w)
  state.faults.forM (refuseFault w)
  let unchanged ← managementPolicyMatches w config state [] state.expectedEndpoints
  require unchanged "E_MANAGEMENT_ACL: policy identity changed; nothing removed"

end refuse

/-! ## Removal -/

/-- A removal that must succeed. -/
def demand (x : Run Bool) (what : String) : Run Unit := do
  if ← x then return () else throw (.runtimeError what)

def removeFault (item : OwnedFault) : Run Unit :=
  demand (clearFault item) ("identity changed while clearing network fault " ++ item.id)

def removeCapture (item : OwnedCapture) : Run Unit :=
  demand (stopCapture item) ("identity changed while stopping network capture " ++ item.id)

def removeEndpoint (config : GraphConfig) (item : OwnedResourceIdentity) : Run Unit :=
  demand (deleteOwnedEndpoint config item)
    ("identity changed while deleting owned container endpoint " ++ item.attachmentId)

def removeNamespace (item : OwnedResourceIdentity) : Run Unit :=
  demand (deleteOwnedNamespace item)
    ("identity changed while deleting Linux namespace " ++ item.name)

def removeBridge (item : OwnedResourceIdentity) : Run Unit := do
  let s ← get
  if !s.world.bridgeExists item.name then return ()
  else if !bridgeOwned s.world s.memory item then
    throw (.runtimeError ("refusing to delete replaced OVS bridge: " ++ item.name))
  else
    demand (deleteOwnedBridge item)
      ("identity changed while deleting owned OVS bridge " ++ item.name)

/-- Everything recorded, the latest first. -/
def removeRecorded (config : GraphConfig) : Run Unit := do
  let s ← get
  s.memory.faults.reverse.forM removeFault
  s.memory.captures.reverse.forM removeCapture
  s.memory.endpoints.reverse.forM (removeEndpoint config)
  s.memory.namespaces.reverse.forM removeNamespace
  s.memory.bridges.reverse.forM removeBridge

def cleanup (config : GraphConfig) (action : CleanupAction) (validateOnly : Bool) : Run Unit := do
  let s ← get
  if s.memory.graphId ≠ config.id || s.memory.configHash ≠ config.hash then
    throw (.runtimeError "E_EXECUTION_IDENTITY: OVS context does not match compilation")
  else if action = .recover ∧ s.memory.status = "ready" then
    throw (.runtimeError "ownership state is ready; use infra destroy, not recover")
  else do
    discover
    let s ← get
    match refuseReplaced s.world config s.memory with
    | .error e => throw e
    | .ok () =>
      if validateOnly then return ()
      else do
        modify fun s => { s with memory := { s.memory with status := "destroying" } }
        saveState
        removeRecorded config
        modify fun s => { s with memory := s.memory.clearInfrastructure }
        saveState

end GraphX
