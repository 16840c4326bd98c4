/-
  Scenarios and laboratories (`src/scenario_config.cpp`).
-/
import GraphX.Config.NodeValues

namespace GraphX.Config

/-- `require` of `src/scenario_config.cpp` -/
def demand (condition : Bool) (message : String) : Except Failure Unit :=
  require condition "E_SCENARIO" "scenario.actions" message

/-- `find` of `src/scenario_config.cpp` -/
def findResource {α : Type} (p : α → Bool) (l : List α) : Except Failure α :=
  match l.find? p with
  | some a => .ok a
  | none => .error (.reject "E_SCENARIO" "scenario.actions" "unknown resource reference")

theorem findResource_eq_ok {α : Type} {p : α → Bool} {l : List α} {a : α} :
    findResource p l = .ok a ↔ l.find? p = some a := by
  cases h : l.find? p <;> simp [findResource, h]

/-! ## Plans -/

/-- The members that an action has. -/
def ScenarioAction.fields (a : ScenarioAction) : List String :=
  ["action"] ++ (a.address.map fun _ => "address").toList ++
    (a.attachment.map fun _ => "attachment").toList ++
    (a.clientCredentials.map fun _ => "client_credentials").toList ++
    (a.connections.map fun _ => "connections").toList ++
    (a.credential.map fun _ => "credential").toList ++
    (a.credentials.map fun _ => "credentials").toList ++ (a.delayMs.map fun _ => "delay_ms").toList ++
    (a.destination.map fun _ => "destination").toList ++
    (a.durationSeconds.map fun _ => "duration_seconds").toList ++
    (a.exclusiveWithPhysicalDevice.map fun _ => "exclusive_with").toList ++
    (a.expect.map fun _ => "expect").toList ++ (a.graceSeconds.map fun _ => "grace_seconds").toList ++
    ["id"] ++ (a.jitterMs.map fun _ => "jitter_ms").toList ++
    (a.lossPercent.map fun _ => "loss_percent").toList ++ (a.next.map fun _ => "next").toList ++
    (a.node.map fun _ => "node").toList ++ (a.router.map fun _ => "router").toList ++
    (a.type.map fun _ => "type").toList ++ (a.verify.map fun _ => "verify").toList

/-- The members that an operation needs. -/
def ActionKind.needed : ActionKind → List String
  | fault => ["attachment", "duration_seconds"]
  | routeApply | routeClear => ["destination", "router"]
  | traffic => ["connections", "expect"]
  | credentialRotate => ["credential", "grace_seconds", "next"]
  | externalSimulator => ["address", "attachment", "client_credentials", "credentials",
      "exclusive_with", "node", "type"]

/-- The members that an operation may have beyond those. -/
def ActionKind.optional : ActionKind → List String
  | fault => ["delay_ms", "jitter_ms", "loss_percent"]
  | credentialRotate => ["verify"]
  | routeApply | routeClear | traffic | externalSimulator => []

/-- What the actions of a scenario refer to. -/
structure Resources where
  actionIds : List String
  credentials : Table String Credential
  nodes : List ResolvedNode
  connections : List ResolvedConnection
  network : ResolvedNetwork

def checkFault (r : Resources) (a : ScenarioAction) : Except Failure Unit := do
  let id ← at? a.attachment
  let attachment ← findResource (·.id = id.text) r.network.attachments
  demand (attachment.kind ≠ .external && attachment.kind ≠ .mirror) "fault needs an owned data attachment"
  let delay := (a.delayMs.map (·.val)).getD 0
  demand ((a.jitterMs.map (·.val)).getD 0 ≤ delay) "jitter exceeds delay"
  demand (0 < delay || a.lossPercent.any (0 < ·)) "empty fault"

def checkRoute (r : Resources) (a : ScenarioAction) : Except Failure Unit := do
  let id ← at? a.router
  let destination ← at? a.destination
  let router ← findResource (·.id = id) r.network.routers
  let route ← findResource (·.destination = destination) router.routes
  demand (route.install = some .manual) "scenario routes must be declared manual"

def knownExpectations : List String :=
  ["pass", "drop", "bidirectional-tcp-udp", "vlan-43-isolated", "capture-nonempty", "qmp-pause-resume"]

def checkTraffic (r : Resources) (a : ScenarioAction) : Except Failure Unit := do
  let connections ← at? a.connections
  let expect ← at? a.expect
  demand (!connections.isEmpty && !expect.isEmpty) "traffic requires connections and expectations"
  let _ ← connections.foldlM (fun refs id => do
    let _ ← findResource (·.id = id) r.connections
    Check.fresh refs id (.reject "E_SCENARIO" "scenario.actions" "duplicate traffic connection")) []
  expect.forM fun value => demand (value ∈ knownExpectations ||
    ("pass-only-after-".toList.isPrefixOf value.toList &&
      String.ofList (value.toList.drop 16) ∈ r.actionIds)) "unknown traffic expectation"

def checkRotation (r : Resources) (a : ScenarioAction) : Except Failure Unit := do
  let ref ← at? a.credential
  let next ← at? a.next
  let grace ← at? a.graceSeconds
  match r.credentials.get? ref.text, r.credentials.get? next.text with
  | some old, some new =>
    demand (ref ≠ next) "unknown or identical rotation reference"
    demand (old.provider = new.provider && old.identity = new.identity && old.members = new.members)
      "rotation changes credential identity or roles"
    demand (grace.val ≤ 60) "rotation overlap exceeds 60 seconds"
    (a.verify.getD []).forM fun value => demand (value ∈ ["old-and-new-during-grace",
      "old-rejected-after-grace", "per-node-identity-bound"]) "unknown rotation verification"
  | _, _ => demand false "unknown or identical rotation reference"

def checkLabCredential (r : Resources) (ref : String) : Except Failure Unit :=
  demand ((r.credentials.get? ref).any (·.provider = .labGenerated))
    "laboratory requires test credentials"

def checkSimulator (r : Resources) (a : ScenarioAction) : Except Failure Unit := do
  let nodeId ← at? a.node
  let attachmentId ← at? a.attachment
  let node ← findResource (·.id = nodeId) r.nodes
  let attachment ← findResource (·.id = attachmentId.text) r.network.attachments
  demand (node.execution.kind = .external && node.execution.address.isSome &&
    node.execution.address = a.address)
    "laboratory selection must replace the declared external address"
  demand (a.type = some "sdr.simulator" && a.exclusiveWithPhysicalDevice.isSome &&
    attachment.owner = nodeId) "invalid laboratory substitute"
  let credentials ← at? a.credentials
  checkLabCredential r credentials.text
  let clients ← at? a.clientCredentials
  clients.entries.forM fun entry => do
    let _ ← findResource (·.id.text = entry.1) r.nodes
    checkLabCredential r entry.2

def checkAction (r : Resources) (a : ScenarioAction) : Except Failure Unit := do
  let kind := a.action
  a.fields.forM fun key => demand (key ∈ ["id", "action"] ++ kind.needed ++ kind.optional)
    ("field does not belong to operation: " ++ key)
  kind.needed.forM fun key => demand (key ∈ a.fields) ("missing operation field: " ++ key)
  match kind with
  | .fault => checkFault r a
  | .routeApply | .routeClear => checkRoute r a
  | .traffic => checkTraffic r a
  | .credentialRotate => checkRotation r a
  | .externalSimulator => checkSimulator r a

def scenarioCredentials (graph : Graph) (nodes : List ResolvedNode) : Table String Credential :=
  nodes.foldl (fun credentials node =>
    match node.telemetryCredential with
    | none => credentials
    | some ref => credentials.emplace ref
        { provider := .runtimeGenerated, identity := node.id.text, members := ["hmac"] })
    (graph.credentials.entries.foldl (fun t e => t.set e.1.text e.2) .empty)

def scenarioPlan (graph : Graph) (nodes : List ResolvedNode) (connections : List ResolvedConnection)
    (network : ResolvedNetwork) : Except Failure (List ScenarioAction) := do
  let actions := graph.scenario.getD []
  let ids ← actions.foldlM (fun ids a => Check.fresh ids a.id.text
    (.reject "E_SCENARIO" "scenario.actions" "duplicate action ID")) []
  actions.forM (checkAction
    { actionIds := ids, credentials := scenarioCredentials graph nodes, nodes := nodes
      connections := connections, network := network })
  .ok actions

/-! ## Laboratories -/

def controlRole : Ident := ⟨"control", .refl true⟩

/-- `graph["nodes"][client]["credentials"]["control"] = ref`, with the reference that
    was there. -/
def replaceControl (nodes : Table Ident Node) (client : Ident) (ref : String) :
    Except Failure (Table Ident Node × String) := do
  let node ← at? (nodes.get? client)
  let old ← at? (node.credentials.get? controlRole)
  .ok (nodes.set client { node with credentials := node.credentials.set controlRole ref }, old)

/-- The nodes, and the references that were replaced. -/
structure Replacement where
  nodes : Table Ident Node
  oldRefs : List String

def findIdent (nodes : Table Ident Node) (text : String) : Option Ident :=
  (nodes.entries.find? (·.1.text = text)).map (·.1)

def replaceClient (r : Replacement) (entry : String × String) : Except Failure Replacement := do
  let client ← at? (findIdent r.nodes entry.1)
  let (nodes, old) ← replaceControl r.nodes client entry.2
  .ok { nodes := nodes, oldRefs := r.oldRefs ++ [old] }

/-- The selected node becomes a container of the simulator's type. -/
def replaceSelected (nodes : Table Ident Node) (action : ScenarioAction) :
    Except Failure Replacement := do
  let id ← at? action.node
  let selected ← at? (nodes.get? id)
  demand (selected.execution.kind = .external && selected.execution.address.isSome &&
    selected.execution.address = action.address) "physical declaration mismatch"
  let type ← at? action.type
  let credentials ← at? action.credentials
  let nodes := nodes.set id { selected with execution := { kind := .container }, type := type }
  let (nodes, old) ← replaceControl nodes id credentials.text
  .ok { nodes := nodes, oldRefs := [old] }

def peerSwitches (attachments : List Attachment) (a : Attachment) : List Ident :=
  ((attachments.filter fun peer => peer.network.isSome && peer.network = a.network &&
    peer.networkSwitch.isSome && peer.kind ≠ .external).filterMap (·.networkSwitch)).dedup

/-- The selected attachment becomes that of a container, on the switch of its network. -/
def replaceAttachment (attachments : List Attachment) (a : Attachment) : Except Failure Attachment :=
  match a.networkSwitch with
  | some _ => .ok { a with kind := .containerVeth }
  | none =>
    match peerSwitches attachments a with
    | [sw] => .ok { a with networkSwitch := some sw, kind := .containerVeth }
    | _ => .error (.reject "E_SCENARIO" "scenario.actions"
        "laboratory attachment requires one unambiguous owned switch")

/-- The attachments of a network in order; each turn sees the ones already replaced. -/
def replaceAttachments (id : Ident) (before : List Attachment) :
    List Attachment → Except Failure (List Attachment)
  | [] => .ok before
  | a :: rest =>
    if a.id = id.text then do
      let replaced ← replaceAttachment (before ++ a :: rest) a
      replaceAttachments id (before ++ [replaced]) rest
    else replaceAttachments id (before ++ [a]) rest

/-- A node uses the credential. -/
def usedByNode (nodes : Table Ident Node) (ref : String) : Bool :=
  nodes.values.any fun node => node.credentials.values.any (· = ref)

/-- The credentials without the replaced ones that no node uses. -/
def dropUnused (nodes : Table Ident Node) (oldRefs : List String)
    (credentials : Table Ident Credential) : Table Ident Credential where
  entries := credentials.entries.filter fun e => !(e.1.text ∈ oldRefs && !usedByNode nodes e.1.text)
  sorted := credentials.sorted.filter _

def selectLaboratory (graph : Graph) (id : String) : Except Failure Graph := do
  match graph.scenario with
  | none => demand false "laboratory action not declared"; .ok graph
  | some actions =>
    let action ← findResource (·.id.text = id) actions
    demand (action.action = .externalSimulator) "pre-start selection requires external-simulator"
    let selected ← replaceSelected graph.nodes action
    let clients ← at? action.clientCredentials
    let replaced ← clients.entries.foldlM replaceClient selected
    let network ← at? graph.network
    let attachmentId ← at? action.attachment
    let attachments ← replaceAttachments attachmentId [] network.attachments
    .ok { graph with
      nodes := replaced.nodes
      network := some { network with attachments := attachments }
      credentials := dropUnused replaced.nodes replaced.oldRefs graph.credentials
      scenario := some (actions.filter (·.id.text ≠ id)) }

end GraphX.Config
