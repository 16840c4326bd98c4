/-
  The catalog (`load_catalog` of `src/config_v3.cpp`,
  `config/schema/node-type.schema.json`).

  What the loader requires of a catalog is carried by its structures: a port type
  has an ordered cardinality and a transport and listens iff it is an input, a
  default parameter is within its range, and every port has a known wire schema.
-/
import GraphX.Config.Authored

namespace GraphX.Config

/-! ## Types -/

inductive Direction where
  | input
  | output
  deriving DecidableEq

inductive Encoding where
  | raw
  | graphx
  deriving DecidableEq

structure PortType where
  direction : Direction
  schema : String
  transports : List Transport
  encoding : Encoding
  minConnections : ℕ
  maxConnections : Within 1 4096
  feedback : Bool
  listener : Bool
  defaultPort : Option (Within 1 65535)
  ordered : decide (minConnections ≤ maxConnections.val) = true
  connectable : transports.isEmpty = false
  listens : listener = decide (direction = .input)
  deriving DecidableEq

structure ParameterDefinition where
  minimum : ℤ
  maximum : ℤ
  default : ℤ
  admitted : (decide (minimum ≤ default) && decide (default ≤ maximum)) = true
  deriving DecidableEq

inductive TypeObservation where
  | graphx
  | packet
  | none
  deriving DecidableEq

inductive ControlKind where
  | none
  | graphx
  | origin
  deriving DecidableEq

structure NodeType where
  revision : Within 1 2147483647
  image : String
  executable : String
  execution : List ExecutionKind
  ports : Table Ident PortType
  parameters : Table Ident ParameterDefinition
  observation : TypeObservation
  readinessTimeoutMs : Within 1 120000
  credentials : List Ident
  control : ControlKind := .none
  pids : Within 1 1024
  memoryBytes : Within 1048576 4294967296
  deriving DecidableEq

structure Guest where
  architecture : Architecture
  accelerators : List Accelerator
  application : Option String := none
  builderImage : String
  sourceRef : String
  deriving DecidableEq

/-! ## The platform -/

structure History where
  batchSize : Within 1 10000
  flushIntervalMs : Within 1 60000
  maxDatabaseBytes : Within 1048576 4294967296
  maxPendingQueries : Within 1 256
  maxQueueBytes : Within 4096 67108864
  maxRecords : Within 1 10000000
  queryLimit : Within 1 10000
  queryTimeoutMs : Within 1 60000
  queueCapacity : Within 1 65536
  retentionSeconds : Within 1 31536000
  shutdownTimeoutMs : Within 1 60000
  databaseFile : String := ""
  deriving DecidableEq

structure CaptureSettings where
  enabled : Bool
  maxFileBytes : Within 65536 4294967296
  maxFiles : Within 1 64
  maxPackets : Within 1 10000000
  provider : CaptureProvider
  retentionSeconds : Within 1 31536000
  snaplen : Option (Within 256 16777220) := none
  directory : String := ""
  deriving DecidableEq

structure Control where
  enabled : Bool
  grants : List Grant
  idempotencyTtlSeconds : Within 1 86400
  maxAuditRecords : Within 1 100000
  maxRequestBytes : Within 1 65536
  allowedOrigins : List String := []
  deriving DecidableEq

structure Otlp where
  enabled : Bool
  credentials : Option Ident := none
  endpoint : Option HttpsUrl := none
  exportIntervalMs : Option (Within 250 600000) := none
  maxQueueBytes : Option (Within 4096 67108864) := none
  mode : Option OtlpMode := none
  queueCapacity : Option (Within 1 65536) := none
  serverName : Option String := none
  timeoutMs : Option (Within 1 60000) := none
  deriving DecidableEq

structure Platform where
  capture : CaptureSettings
  consolePort : Within 1024 65535
  control : Control
  extensions : List Extension
  history : History
  image : String
  otlp : Otlp
  telemetryHost : String := ""
  deriving DecidableEq

/-! ## The catalog -/

structure TargetCapability where
  docker : Bool
  platformNative : Bool
  ovs : Bool
  deriving DecidableEq

def typesWired (types : Table String NodeType) (wireSchemas : Table String Encoding) : Bool :=
  types.values.all fun type => type.ports.values.all fun port =>
    decide (wireSchemas.get? port.schema = some port.encoding)

structure Catalog where
  types : Table String NodeType
  guests : Table String Guest := .empty
  wireSchemas : Table String Encoding
  platform : Platform
  targets : Table String TargetCapability
  /-- The relative paths of the pinned sources. -/
  sources : Table String String := .empty
  inhabited : types.entries.isEmpty = false
  wired : typesWired types wireSchemas = true
  deriving DecidableEq

end GraphX.Config
