/-
  Where the nodes of a graph run (`validate_target` and `portable_value` of
  `src/config_v3.cpp`).
-/
import GraphX.Config.Catalog
import GraphX.Config.Network

namespace GraphX.Config

def ExecutionKind.text : ExecutionKind → String
  | .container => "container"
  | .native => "native"
  | .namespace => "namespace"
  | .qemu => "qemu"
  | .external => "external"

def hasExecution (graph : Graph) (kind : ExecutionKind) : Bool :=
  graph.nodes.values.any (·.execution.kind = kind)

/-- The members that an execution has. -/
def Execution.fields (e : Execution) : List String :=
  (e.accelerator.map fun _ => "accelerator").toList ++ (e.address.map fun _ => "address").toList ++
    (e.architecture.map fun _ => "architecture").toList ++
    (e.attachmentOnly.map fun _ => "attachment_only").toList ++
    (e.guest.map fun _ => "guest").toList ++ (e.ipcDomain.map fun _ => "ipc_domain").toList ++
    ["kind"] ++ (e.namespaceName.map fun _ => "namespace").toList

def ExecutionKind.fields : ExecutionKind → List String
  | .container => ["kind"]
  | .native => ["kind", "ipc_domain"]
  | .namespace => ["kind", "namespace"]
  | .qemu => ["kind", "guest", "architecture", "accelerator"]
  | .external => ["kind", "address", "architecture", "accelerator", "attachment_only"]

/-- The names that the compiler uses for services of its own. -/
def isReserved (id : Ident) : Bool :=
  id.text = "platform" || id.text = "prometheus" || id.text = "grafana" ||
    "mg-".toList.isPrefixOf id.text.toList

/-- What is required of a guest. -/
def validateGuest (catalog : Catalog) (id : Ident) (node : Node) : Except Failure Unit := do
  let path := "nodes." ++ id.text ++ ".execution"
  match catalog.guests.get? ((node.execution.guest.map (·.text)).getD "") with
  | none => .error (.reject "E_GUEST_ARTIFACT" (path ++ ".guest")
      "no pinned guest artifact or build recipe")
  | some guest =>
    require (node.execution.architecture = some guest.architecture) "E_GUEST_ARTIFACT"
      (path ++ ".architecture") "guest architecture mismatch"
    require (node.execution.accelerator.any (· ∈ guest.accelerators)) "E_TARGET_CAPABILITY"
      (path ++ ".accelerator") "guest accelerator is not supported"
    require (guest.application = some node.type) "E_GUEST_ARTIFACT" (path ++ ".guest")
      "guest does not implement the node type"

def validateNode (catalog : Catalog) (target : String) (entry : Ident × Node) :
    Except Failure Unit := do
  let id := entry.1
  let node := entry.2
  let kind := node.execution.kind
  require (!isReserved id) "E_NAME_RESERVED" ("nodes." ++ id.text) "reserved generated name"
  match catalog.types.get? node.type with
  | none => .error (.reject "E_TYPE_UNKNOWN" ("nodes." ++ id.text ++ ".type") "unknown catalog type")
  | some type =>
    node.execution.fields.forM fun key =>
      require (key ∈ kind.fields) "E_SCHEMA" ("nodes." ++ id.text ++ ".execution." ++ key)
        "field is not valid for execution kind"
    require (kind ∈ type.execution) "E_TARGET_CAPABILITY" ("nodes." ++ id.text ++ ".execution")
      "type does not support this execution kind"
    require (!(kind = .native && target = "orbstack" && node.execution.ipcDomain.isSome))
      "E_IPC_PLACEMENT" "target" "OrbStack cannot realize native process placement"
    require (!((kind = .container && target = "native-macos") ||
        (kind = .native && target = "orbstack") ||
        ((kind = .qemu || kind = .namespace) && (target = "native-macos" || target = "orbstack"))))
      "E_TARGET_CAPABILITY" "target" "target cannot realize authored placement"
    if kind = .qemu then validateGuest catalog id node

def validateTarget (graph : Graph) (catalog : Catalog) (target : String) : Except Failure Unit := do
  require (target ∈ ["native-linux", "native-macos", "orbstack", "lima"]) "E_TARGET_CAPABILITY"
    "target" "unknown execution target"
  require (!(graph.network.isSome && (target = "native-macos" || target = "orbstack")))
    "E_TARGET_CAPABILITY" "target" "managed OVS requires Linux or Lima"
  require (!(hasExecution graph .native && hasExecution graph .container)) "E_EXECUTION_MIX" "nodes"
    "native and container applications require separate graphs"
  graph.nodes.entries.forM (validateNode catalog target)

def isNative (graph : Graph) : Bool :=
  !graph.nodes.entries.isEmpty && graph.nodes.values.all (·.execution.kind = .native)

/-! ## Portable networks -/

def validatePortableAddress (graph : Graph) (subnet : Cidr) (used : List UInt32)
    (entry : Ident × String) : Except Failure (List UInt32) := do
  let path := "portable_network.addresses." ++ entry.1.text
  require (graph.nodes.contains entry.1) "E_REFERENCE" path "unknown node"
  let address ← ip entry.2 path
  require (inSubnet address subnet && address ≠ subnet.address &&
    address ≠ subnet.address ||| ~~~subnet.mask) "E_ADDRESS" path
    "address must be a usable host in subnet"
  Check.fresh used address (.reject "E_ADDRESS_CONFLICT" path "duplicate portable address")

def hexDigit (c : Char) : ℕ := if c.isDigit then c.toNat - 48 else c.toNat - 87

/-- `std::stoul(text, nullptr, 16)`, of the lower-case digits of a digest -/
def hexNumber (text : List Char) : ℕ := text.foldl (fun n c => 16 * n + hexDigit c) 0

/-- Addresses from 10 upwards, one for each node. -/
def deriveAddresses (subnet : String) : List Ident → ℕ → List (Ident × String)
  | [], _ => []
  | id :: rest, index => (id, subnet ++ toString index) :: deriveAddresses subnet rest (index + 1)

theorem deriveAddresses_keys (subnet : String) (ids : List Ident) (index : ℕ) :
    (deriveAddresses subnet ids index).map (·.1) = ids := by
  induction ids generalizing index with
  | nil => rfl
  | cons id rest ih => simp [deriveAddresses, ih]

theorem deriveAddresses_sorted (subnet : String) (nodes : Table Ident Node) :
    (deriveAddresses subnet nodes.keys 10).Pairwise fun a b => a.1 < b.1 := by
  have hkeys : nodes.keys.Pairwise (· < ·) := List.Pairwise.map _ (fun _ _ h => h) nodes.sorted
  rw [← deriveAddresses_keys subnet nodes.keys 10] at hkeys
  exact List.pairwise_map.1 hkeys

def portableValue (env : Environment) (graph : Graph) (native : Bool) :
    Except Failure (Option PortableNetwork) := do
  if native || graph.network.isSome then .ok none else
  match graph.portableNetwork with
  | some portable =>
    let subnet ← cidr portable.subnet "portable_network.subnet"
    require (inSubnet subnet.address subnet) "E_ADDRESS" "portable_network.subnet"
      "subnet must use network address"
    let _ ← portable.addresses.entries.foldlM (validatePortableAddress graph subnet) []
    .ok (some portable)
  | none =>
    let octet := hexNumber ((env.sha256 graph.id.text).toList.take 4) % 128
    let subnet := "172.28." ++ toString octet ++ "."
    require (graph.nodes.keys.length ≤ 244) "E_ADDRESS" "portable_network"
      "derived subnet address capacity exceeded"
    .ok (some { subnet := subnet ++ "0/24",
                addresses := ⟨deriveAddresses subnet graph.nodes.keys 10,
                  deriveAddresses_sorted subnet graph.nodes⟩ })

end GraphX.Config
