/-
  The contracts of the nodes (`node_values` of `src/config_v3.cpp`,
  `validate_vita_processing` and `validate_vita_bindings` of
  `src/config_document.cpp`).
-/
import GraphX.Config.Connections

namespace GraphX.Config

/-! ## Parameters -/

def checkParameter (id : Ident) (type : NodeType) (entry : String × ParameterValue) :
    Except Failure Unit := do
  let path := "nodes." ++ id.text ++ ".parameters." ++ entry.1
  match findText type.parameters entry.1 with
  | none => .error (.reject "E_PARAMETER" path "unknown type parameter")
  | some definition =>
    match entry.2 with
    | .integer value =>
      require (definition.minimum ≤ value) "E_SCHEMA" path "number is below minimum"
      require (value ≤ definition.maximum) "E_SCHEMA" path "number is above maximum"
    | .text _ | .boolean _ => .error (.reject "E_SCHEMA" path "incorrect value type")

/-- The authored value of a parameter, or its default. -/
def parameterValue (node : Node) (key : Ident) (definition : ParameterDefinition) : ℤ :=
  match node.parameters.get? key.text with
  | some (.integer value) => value
  | _ => definition.default

def nodeParameters (id : Ident) (node : Node) (type : NodeType) :
    Except Failure (Table Ident ℤ) := do
  node.parameters.entries.forM (checkParameter id type)
  .ok (type.parameters.map (parameterValue node))

/-! ## Credentials -/

def checkCredential (graph : Graph) (id : Ident) (type : NodeType) (entry : Ident × String) :
    Except Failure Unit := do
  let path := "nodes." ++ id.text ++ ".credentials." ++ entry.1.text
  require (entry.1 ∈ type.credentials) "E_CREDENTIAL" path "unknown credential role"
  require (containsText graph.credentials entry.2) "E_CREDENTIAL" path "unknown credential reference"

def checkCredentials (graph : Graph) (id : Ident) (node : Node) (type : NodeType) :
    Except Failure Unit := do
  node.credentials.entries.forM (checkCredential graph id type)
  type.credentials.forM fun role =>
    require (node.credentials.contains role) "E_CREDENTIAL" ("nodes." ++ id.text ++ ".credentials")
      "required credential role is missing"

/-! ## Bindings -/

inductive Role where
  | connect
  | listen
  deriving DecidableEq

/-- A connection as one of its ports sees it. -/
structure Binding where
  role : Role
  connection : ResolvedConnection
  deriving DecidableEq

def portBindings (connections : List ResolvedConnection) (e : Endpoint) : List Binding :=
  connections.flatMap fun c =>
    (if c.source = e then [⟨.connect, c⟩] else []) ++ (if c.target = e then [⟨.listen, c⟩] else [])

def nodeBindings (connections : List ResolvedConnection) (id : Ident) (type : NodeType) :
    Table Ident (List Binding) :=
  type.ports.map fun port _ => portBindings connections ⟨id, port⟩

/-! ## VITA processing -/

/-- `parameters.at(key).integer()` -/
def parameterAt (parameters : Table Ident ℤ) (key : String) : Except Failure ℤ :=
  at? (findText parameters key)

def isPowerOfTwo (n : ℤ) : Bool := n.toNat &&& (n.toNat - 1) = 0

def checkVitaChannel (path : String) (parameters : Table Ident ℤ) (channel : String) :
    Except Failure Unit := do
  let rate ← parameterAt parameters ("rate" ++ channel)
  let num ← parameterAt parameters ("bin_width_numerator_hz" ++ channel)
  let den ← parameterAt parameters ("bin_width_denominator" ++ channel)
  require (1000 ≤ rate && rate ≤ 2000000 && 1 ≤ num && num ≤ 2000000 && 1 ≤ den && den ≤ 2048)
    "E_PARAMETER" path "sample rate or bin-width rational outside bounds"
  let count := rate * den / num
  require (rate * den % num = 0 && 64 ≤ count && count ≤ 2048 && isPowerOfTwo count) "E_PARAMETER" path
    "bin width must equal Fs/N for power-of-two N from 64 to 2048"
  let bandwidth ← parameterAt parameters ("bandwidth" ++ channel)
  require (bandwidth ≤ rate) "E_PARAMETER" path "bandwidth exceeds sample rate"
  let mtu ← parameterAt parameters "path_mtu"
  require (132 + count / 4 + 4 * count + 28 ≤ mtu) "E_PARAMETER" path "FFT result exceeds path MTU"

def validateVitaProcessing (path : String) (parameters : Table Ident ℤ) : Except Failure Unit := do
  let overlap ← parameterAt parameters "overlap_percent"
  require (overlap = 0 || overlap = 50 || overlap = 75) "E_PARAMETER" path
    "overlap must be 0, 50 or 75 percent"
  ["1", "2", "3", "4"].forM (checkVitaChannel path parameters)

def checkProcessing (id : Ident) (node : Node) (parameters : Table Ident ℤ) : Except Failure Unit :=
  if node.type = "vita.processor" then
    validateVitaProcessing ("nodes." ++ id.text ++ ".parameters") parameters
  else .ok ()

/-- The size of the largest spectrum that a processor sends. -/
def powerBytes (parameters : Table Ident ℤ) : Except Failure ℤ :=
  ["1", "2", "3", "4"].foldlM (fun bytes channel => do
    let rate ← parameterAt parameters ("rate" ++ channel)
    let den ← parameterAt parameters ("bin_width_denominator" ++ channel)
    let num ← parameterAt parameters ("bin_width_numerator_hz" ++ channel)
    let n := rate * den / num
    .ok (max bytes (132 + n / 4 + 4 * n))) 0

def checkVitaBinding (bytes : ℤ) (port : Ident) (binding : Binding) : Except Failure Unit :=
  let path := "bindings." ++ port.text
  if "control".toList.isPrefixOf port.text.toList then
    require (binding.connection.security.profile = .mtls) "E_BINDING" path
      "VITA controller requires mTLS"
  else
    match binding.connection.settings with
    | .udp s =>
      require (s.mode = .unicast && s.framing = .none &&
          (if port.text = "spectra" then bytes else 4128) ≤ s.maxDatagramBytes.val) "E_BINDING" path
        "VITA processing requires raw unicast UDP with sufficient datagram budget"
    | .tcp _ | .sharedMemory _ => .error .outOfRange

def validateVitaBindings (type : String) (bindings : Table Ident (List Binding))
    (parameters : Table Ident ℤ) : Except Failure Unit := do
  if type = "vita.processor" then
    let bytes ← powerBytes parameters
    bindings.entries.forM fun entry => entry.2.forM (checkVitaBinding bytes entry.1)
  else if type = "vita.detector" then
    bindings.entries.forM fun entry => entry.2.forM (checkVitaBinding 8836 entry.1)

/-! ## Contracts -/

structure Recorder where
  interface : String
  mtu : ℕ
  deriving DecidableEq

structure ResolvedNode where
  id : Ident
  type : String
  revision : Within 1 2147483647
  execution : Execution
  parameters : Table Ident ℤ
  control : ControlKind
  bindings : Table Ident (List Binding)
  telemetryHost : String
  telemetryCredential : Option String
  credentials : Table Ident String
  readinessTimeoutMs : Within 1 120000
  capture : CaptureSettings
  releaseBarrier : Bool
  maxWaitMs : ℕ
  recorder : Option Recorder
  deriving DecidableEq

/-- The passive mirror that a recorder listens on: the last one that is delivered. -/
def recorderOf (attachments : List ResolvedAttachment) (id : Ident) : Except Failure (Option Recorder) :=
  attachments.foldlM (fun found a =>
    if a.owner = id && a.delivery.getD .host = .container then do
      let peer ← at? a.peer
      .ok (some { interface := peer, mtu := attachmentMtu a })
    else .ok found) none

/-- The mirror of a recorder, which has to have one. -/
def nodeRecorder (attachments : List ResolvedAttachment) (id : Ident) (node : Node) :
    Except Failure (Option Recorder) :=
  if node.type = "vita.recorder" then do
    let recorder ← recorderOf attachments id
    require recorder.isSome "E_NETWORK" ("nodes." ++ id.text)
      "recorder requires a passive container mirror"
    .ok recorder
  else .ok none

def telemetryCredential (id : Ident) (node : Node) (type : NodeType) : Option String :=
  if node.execution.kind ≠ .external && type.observation = .graphx then some ("runtime-" ++ id.text)
  else none

def nodeValue (graph : Graph) (catalog : Catalog) (connections : List ResolvedConnection)
    (platform : Platform) (native : Bool) (attachments : List ResolvedAttachment)
    (entry : Ident × Node) : Except Failure ResolvedNode := do
  let id := entry.1
  let node := entry.2
  let type ← at? (catalog.types.get? node.type)
  let parameters ← nodeParameters id node type
  checkProcessing id node parameters
  checkCredentials graph id node type
  let bindings := nodeBindings connections id type
  validateVitaBindings node.type bindings parameters
  let recorder ← nodeRecorder attachments id node
  .ok { id := id, type := node.type, revision := type.revision, execution := node.execution
        parameters := parameters, control := type.control, bindings := bindings
        telemetryHost := if native then "127.0.0.1" else "platform"
        telemetryCredential := telemetryCredential id node type
        credentials := node.credentials, readinessTimeoutMs := type.readinessTimeoutMs
        capture := { platform.capture with
          enabled := platform.capture.enabled && recorder.isNone
          directory := if native then executionValue "GX_STATE" ++ "/captures/" ++ id.text else "/captures" }
        releaseBarrier := node.execution.kind ≠ .external
        maxWaitMs := if hasExecution graph .qemu then 180000 else 30000
        recorder := recorder }

def nodeValues (graph : Graph) (catalog : Catalog) (connections : List ResolvedConnection)
    (platform : Platform) (native : Bool) (attachments : List ResolvedAttachment) :
    Except Failure (List ResolvedNode) :=
  graph.nodes.entries.mapM (nodeValue graph catalog connections platform native attachments)

end GraphX.Config
