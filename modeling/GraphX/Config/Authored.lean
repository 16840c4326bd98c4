/-
  Authored graphs (`config/schema/graphx.schema.json`).

  A document that the authored schema admits, as a value: identifiers and integers
  carry the pattern and the range that the schema gives them, an enumeration is a
  type, and an object is a record whose optional members are optional fields.  A
  member that the loader reads with an empty object or array as its default is an
  empty table or list here.
-/
import Mathlib.Data.Rat.Defs
import Mathlib.Order.Basic
import GraphX.Lib.Check
import GraphX.Lib.Table

namespace GraphX.Config

/-! ## Texts and integers -/

def isIdentifierChar (c : Char) : Bool := c.isLower || c.isDigit || c = '_' || c = '-'

/-- The pattern `^[a-z][a-z0-9_-]{0,63}$`. -/
def isIdentifier (text : String) : Bool :=
  match text.toList with
  | [] => false
  | c :: rest => c.isLower && rest.all isIdentifierChar && decide (rest.length ≤ 63)

structure Ident where
  text : String
  valid : isIdentifier text = true

namespace Ident

theorem text_injective : Function.Injective text := by
  rintro ⟨a, ha⟩ ⟨b, hb⟩ rfl
  rfl

@[simp] theorem text_inj {a b : Ident} : a.text = b.text ↔ a = b := text_injective.eq_iff

instance instLinearOrder : LinearOrder Ident := LinearOrder.lift' text text_injective

instance instLawfulBEq : LawfulBEq Ident := inferInstance

theorem chars_valid (id : Ident) : ∀ c ∈ id.text.toList, isIdentifierChar c = true := by
  have hvalid := id.valid
  unfold isIdentifier at hvalid
  rcases htext : id.text.toList with _ | ⟨c, rest⟩
  · simp
  · rw [htext] at hvalid
    simp only [Bool.and_eq_true, List.all_eq_true] at hvalid
    intro d hd
    rcases List.mem_cons.1 hd with rfl | hd
    · simp [isIdentifierChar, hvalid.1.1]
    · exact hvalid.1.2 d hd

end Ident

/-- An integer with the `minimum` and `maximum` of its schema. -/
structure Within (low high : ℕ) where
  val : ℕ
  bounds : (decide (low ≤ val) && decide (val ≤ high)) = true
  deriving DecidableEq

namespace Within

variable {low high : ℕ}

theorem low_le (n : Within low high) : low ≤ n.val := by
  have := n.bounds
  simp only [Bool.and_eq_true, decide_eq_true_eq] at this
  exact this.1

theorem le_high (n : Within low high) : n.val ≤ high := by
  have := n.bounds
  simp only [Bool.and_eq_true, decide_eq_true_eq] at this
  exact this.2

end Within

/-- A lookup by a text that need not be an identifier. -/
def findText {α : Type} (t : Table Ident α) (text : String) : Option α :=
  (t.entries.find? (·.1.text = text)).map (·.2)

def containsText {α : Type} (t : Table Ident α) (text : String) : Bool :=
  t.entries.any (·.1.text = text)

section findText
variable {α : Type} {t : Table Ident α} {text : String} {a : α}

theorem findText_eq_some_iff :
    findText t text = some a ↔ ∃ id, id.text = text ∧ (id, a) ∈ t.entries := by
  unfold findText
  constructor
  · intro h
    obtain ⟨⟨id, b⟩, hfind, rfl⟩ := Option.map_eq_some_iff.1 h
    have hkey := List.find?_some hfind
    exact ⟨id, by simpa using hkey, List.mem_of_find?_eq_some hfind⟩
  · rintro ⟨id, rfl, hmem⟩
    rw [← Table.get?_eq_some_iff] at hmem
    simpa [Table.get?] using hmem

theorem containsText_iff : containsText t text = true ↔ ∃ id a, id.text = text ∧ (id, a) ∈ t.entries := by
  simp only [containsText, List.any_eq_true, decide_eq_true_eq, Prod.exists]
  constructor
  · rintro ⟨id, a, hmem, rfl⟩
    exact ⟨id, a, rfl, hmem⟩
  · rintro ⟨id, a, rfl, hmem⟩
    exact ⟨id, a, hmem, rfl⟩

end findText

def executionValue (name : String) : String := "$\x7b" ++ name ++ "\x7d"

/-! ## How the loader fails -/

/-- An exception of the loader: a diagnostic, or one of the standard library from a
    member that is not there or has another type. -/
inductive Failure where
  | reject (code path message : String)
  | outOfRange
  deriving DecidableEq

/-- Reports the diagnostic unless the condition holds. -/
def require (condition : Bool) (code path message : String) : Except Failure Unit :=
  Check.ensure condition (.reject code path message)

@[simp] theorem require_eq_ok {condition : Bool} {code path message : String} :
    require condition code path message = .ok () ↔ condition = true := Check.ensure_eq_ok

/-- `value.at(key)` -/
def at? {α : Type} (value : Option α) : Except Failure α :=
  match value with
  | some a => .ok a
  | none => .error .outOfRange

@[simp] theorem at?_eq_ok {α : Type} {value : Option α} {a : α} : at? value = .ok a ↔ value = some a := by
  cases value <;> simp [at?]

/-! ## Connections -/

inductive Transport where
  | tcp
  | udp
  | sharedMemory
  deriving DecidableEq

def Transport.text : Transport → String
  | tcp => "tcp"
  | udp => "udp"
  | sharedMemory => "shared_memory"

inductive Framing where
  | u32be
  | none
  deriving DecidableEq

inductive UdpMode where
  | unicast
  | broadcast
  | multicast
  deriving DecidableEq

inductive Backpressure where
  | block
  | reject
  deriving DecidableEq

structure Retry where
  maxAttempts : Within 1 1000
  initialBackoffMs : Within 1 60000
  maxBackoffMs : Within 1 60000
  deriving DecidableEq

structure Settings where
  backpressure : Option Backpressure := none
  bind : Option String := none
  capacity : Option (Within 1 65536) := none
  connectTimeoutMs : Option (Within 1 600000) := none
  destination : Option String := none
  framing : Option Framing := none
  host : Option String := none
  interface : Option String := none
  loopback : Option Bool := none
  maxDatagramBytes : Option (Within 1 65507) := none
  maxMessageBytes : Option (Within 1 16777216) := none
  mode : Option UdpMode := none
  port : Option (Within 1 65535) := none
  receiveBufferBytes : Option (Within 1 16777216) := none
  reconnect : Option Bool := none
  retry : Option Retry := none
  reuseAddress : Option Bool := none
  segment : Option String := none
  sendBufferBytes : Option (Within 1 16777216) := none
  sendTimeoutMs : Option (Within 1 600000) := none
  ttl : Option (Within 0 255) := none
  deriving DecidableEq

/-- `node.port` -/
structure Endpoint where
  node : Ident
  port : Ident
  deriving DecidableEq

inductive SecurityProfile where
  | none
  | mtls
  deriving DecidableEq

structure Security where
  profile : SecurityProfile
  serverName : Option String := none
  deriving DecidableEq

/-- The attachments of the two ends of a connection. -/
structure Selected where
  source : Ident
  target : Ident
  deriving DecidableEq

/-- A connection, from `source` to `target`. -/
structure Connection where
  source : Endpoint
  target : Endpoint
  transport : Transport
  settings : Settings := {}
  attachments : Option Selected := none
  security : Option Security := none
  feedback : Bool := false
  deriving DecidableEq

/-! ## Nodes -/

inductive ExecutionKind where
  | container
  | native
  | namespace
  | qemu
  | external
  deriving DecidableEq

inductive Accelerator where
  | tcg
  | kvm
  deriving DecidableEq

inductive Architecture where
  | x86_64
  | arm64
  deriving DecidableEq

structure Execution where
  kind : ExecutionKind
  accelerator : Option Accelerator := none
  address : Option String := none
  architecture : Option Architecture := none
  attachmentOnly : Option Bool := none
  guest : Option Ident := none
  ipcDomain : Option Ident := none
  namespaceName : Option Ident := none
  deriving DecidableEq

inductive ParameterValue where
  | text (value : String)
  | integer (value : ℤ)
  | boolean (value : Bool)
  deriving DecidableEq

structure Node where
  type : String
  execution : Execution
  parameters : Table String ParameterValue := .empty
  credentials : Table Ident String := .empty
  deriving DecidableEq

/-! ## Credentials -/

inductive Provider where
  | external
  | labGenerated
  | runtimeGenerated
  deriving DecidableEq

structure Credential where
  provider : Provider
  identity : String
  members : List String
  deriving DecidableEq

/-! ## Networks -/

inductive Profile where
  | ethernet
  | macvlan
  | ipvlanL2
  | ipvlanL3
  deriving DecidableEq

structure NetworkEntry where
  id : Ident
  profile : Profile
  subnets : List String
  gateway : Option String := none
  deriving DecidableEq

structure Vlan where
  accessTag : Option (Within 1 4094) := none
  trunks : Option (List (Within 1 4094)) := none
  deriving DecidableEq

structure SwitchPort where
  id : Ident
  vlan : Option Vlan := none
  deriving DecidableEq

structure Mirror where
  id : Ident
  outputPort : Ident
  selectAll : Bool
  deriving DecidableEq

structure Switch where
  id : Ident
  ports : List SwitchPort
  mirror : Option Mirror := none
  deriving DecidableEq

inductive Install where
  | create
  | manual
  deriving DecidableEq

structure Route where
  destination : String
  via : Option String := none
  interface : Option Ident := none
  install : Option Install := none
  deriving DecidableEq

structure RouterInterface where
  id : Ident
  network : Ident
  address : String
  networkSwitch : Ident
  port : Option Ident := none
  attachmentId : Option Ident := none
  deriving DecidableEq

structure Policy where
  id : Ident
  source : String
  destination : String
  accept : Bool
  deriving DecidableEq

structure Router where
  id : Ident
  forwarding : Bool
  interfaces : List RouterInterface
  policies : List Policy := []
  routes : List Route := []
  deriving DecidableEq

inductive AttachmentKind where
  | containerVeth
  | namespaceVeth
  | qemuTap
  | external
  | mirror
  deriving DecidableEq

inductive Delivery where
  | host
  | container
  deriving DecidableEq

/-- An attachment.  Its identity is a text: the loader makes attachments of the
    router interfaces, whose identities need not be identifiers. -/
structure Attachment where
  id : String
  kind : AttachmentKind
  owner : Ident
  network : Option Ident := none
  address : Option String := none
  networkSwitch : Option Ident := none
  port : Option Ident := none
  aliases : Option (List String) := none
  routes : Option (List Route) := none
  vlan : Option Vlan := none
  mac : Option String := none
  mtu : Option (Within 576 9000) := none
  delivery : Option Delivery := none
  tapUid : Option (Within 1 4294967294) := none
  tapGid : Option (Within 1 4294967294) := none
  deriving DecidableEq

structure Capture where
  id : Ident
  attachment : Ident
  snaplen : Within 256 262144
  maxFileBytes : Within 65536 4294967296
  maxFiles : Within 1 1024
  rotationSeconds : Within 1 86400
  retentionSeconds : Within 1 31536000
  deriving DecidableEq

structure Network where
  networks : List NetworkEntry
  switches : List Switch
  routers : List Router := []
  attachments : List Attachment
  captures : List Capture := []
  edgePaths : Table Ident (List Ident) := .empty
  deriving DecidableEq

structure PortableNetwork where
  subnet : String
  addresses : Table Ident String
  deriving DecidableEq

/-! ## The platform -/

structure HistorySection where
  batchSize : Option (Within 1 10000) := none
  flushIntervalMs : Option (Within 1 60000) := none
  maxDatabaseBytes : Option (Within 1048576 4294967296) := none
  maxPendingQueries : Option (Within 1 256) := none
  maxQueueBytes : Option (Within 4096 67108864) := none
  maxRecords : Option (Within 1 10000000) := none
  queryLimit : Option (Within 1 10000) := none
  queryTimeoutMs : Option (Within 1 60000) := none
  queueCapacity : Option (Within 1 65536) := none
  retentionSeconds : Option (Within 1 31536000) := none
  shutdownTimeoutMs : Option (Within 1 60000) := none
  deriving DecidableEq

inductive CaptureProvider where
  | application
  | ovsSpan
  deriving DecidableEq

structure CaptureSection where
  enabled : Option Bool := none
  maxFileBytes : Option (Within 65536 4294967296) := none
  maxFiles : Option (Within 1 64) := none
  maxPackets : Option (Within 1 10000000) := none
  provider : Option CaptureProvider := none
  retentionSeconds : Option (Within 1 31536000) := none
  deriving DecidableEq

inductive GrantAction where
  | serial
  | pause
  | resume
  | setFrequency
  | reset
  deriving DecidableEq

structure Grant where
  credential : Ident
  nodes : List Ident
  actions : List GrantAction
  deriving DecidableEq

structure ControlSection where
  enabled : Option Bool := none
  grants : Option (List Grant) := none
  idempotencyTtlSeconds : Option (Within 1 86400) := none
  maxAuditRecords : Option (Within 1 100000) := none
  maxRequestBytes : Option (Within 1 65536) := none
  deriving DecidableEq

inductive OtlpMode where
  | bearer
  | mtls
  deriving DecidableEq

/-- `^https://` -/
def isHttps (text : String) : Bool := "https://".toList.isPrefixOf text.toList

structure HttpsUrl where
  text : String
  https : isHttps text = true
  deriving DecidableEq

structure OtlpSection where
  credentials : Option Ident := none
  enabled : Option Bool := none
  endpoint : Option HttpsUrl := none
  maxQueueBytes : Option (Within 4096 67108864) := none
  mode : Option OtlpMode := none
  queueCapacity : Option (Within 1 65536) := none
  serverName : Option String := none
  timeoutMs : Option (Within 1 60000) := none
  deriving DecidableEq

inductive Extension where
  | prometheus
  | grafana
  deriving DecidableEq

def Extension.text : Extension → String
  | prometheus => "prometheus"
  | grafana => "grafana"

structure PlatformSection where
  capture : CaptureSection := {}
  consolePort : Option (Within 1024 65535) := none
  control : ControlSection := {}
  extensions : Option (List Extension) := none
  history : HistorySection := {}
  otlp : OtlpSection := {}
  deriving DecidableEq

/-! ## Scenarios and lifecycle -/

inductive ActionKind where
  | fault
  | routeApply
  | routeClear
  | traffic
  | externalSimulator
  | credentialRotate
  deriving DecidableEq

structure ScenarioAction where
  id : Ident
  action : ActionKind
  address : Option String := none
  attachment : Option Ident := none
  clientCredentials : Option (Table String String) := none
  connections : Option (List Ident) := none
  credential : Option Ident := none
  credentials : Option Ident := none
  delayMs : Option (Within 0 600000) := none
  destination : Option String := none
  durationSeconds : Option (Within 1 86400) := none
  exclusiveWithPhysicalDevice : Option Unit := none
  expect : Option (List String) := none
  graceSeconds : Option (Within 1 60) := none
  jitterMs : Option (Within 0 600000) := none
  lossPercent : Option ℚ := none
  next : Option Ident := none
  node : Option Ident := none
  router : Option Ident := none
  type : Option String := none
  verify : Option (List String) := none
  deriving DecidableEq

inductive Startup where
  | transactional
  | available
  deriving DecidableEq

structure Lifecycle where
  startup : Startup := .transactional
  readinessMs : Within 100 30000 := ⟨30000, .refl true⟩
  deriving DecidableEq

/-! ## The document -/

structure Graph where
  id : Ident
  nodes : Table Ident Node
  connections : Table Ident Connection
  credentials : Table Ident Credential := .empty
  network : Option Network := none
  portableNetwork : Option PortableNetwork := none
  platform : PlatformSection := {}
  lifecycle : Lifecycle := {}
  scenario : Option (List ScenarioAction) := none
  deriving DecidableEq

end GraphX.Config
