/-
  The host of a laboratory: what the infrastructure code can observe of it, and
  what its commands change.

  A `World` holds the links of the host's network namespace, the rows of Open
  vSwitch, the named network namespaces, processes, capture directories and
  containers.  What a tool prints about one of them and is only searched (`ip
  tuntap show`, `tc qdisc show`, `ip -d link show`) is kept as its text.
-/
import GraphX.Lib.Search
import GraphX.Ownership

namespace GraphX

open Imperative

/-! ## Texts -/

/-- `text.find(part) != npos` -/
def contains (text part : String) : Bool := (Search.find part.toList text.toList).isSome

/-- The maximal runs of characters that satisfy `keep`, the first of them behind
    the characters `run` (in reverse). -/
def runsOf (keep : Char → Bool) : List Char → List Char → List String
  | [], [] => []
  | [], run => [String.ofList run.reverse]
  | c :: rest, run =>
    if keep c then runsOf keep rest (c :: run)
    else if run.isEmpty then runsOf keep rest []
    else String.ofList run.reverse :: runsOf keep rest []

/-- The words that `>>` reads from a text. -/
def words (text : String) : List String := runsOf (!·.isWhitespace) text.toList []

/-- `std::isxdigit` -/
def isXDigit (c : Char) : Bool := c.isDigit || ('a' ≤ c && c ≤ 'f') || ('A' ≤ c && c ≤ 'F')

/-! ## Links -/

/-- Where the other end of a link is. -/
inductive LinkPeer where
  | none
  | host (name : String)
  | netns (name : String)
  | container (id : String)
  deriving DecidableEq

structure NetLink where
  ifindex : UInt32
  iflink : UInt32
  ifalias : String
  peer : LinkPeer
  /-- `ip tuntap show dev` -/
  tuntap : Option String
  /-- `tc qdisc show dev` -/
  qdisc : Option String

/-! ## Open vSwitch -/

inductive OvsTable where
  | bridge
  | port
  | interface
  | mirror
  deriving DecidableEq

/-- The keys `external_ids:graphx_*`. -/
inductive Marker where
  | owner
  | attachment
  | graph
  | configHash
  deriving DecidableEq

inductive OvsColumn where
  | uuid
  | externalId (marker : Marker)
  | ports
  | named (name : String)

structure OvsRow where
  uuid : String
  name : String
  externalIds : Marker → Option String
  /-- The ports and mirrors of a bridge. -/
  ports : List String := []
  mirrors : List String := []
  columns : List (String × String) := []

/-- A set of identifiers is printed in brackets. -/
def setText (values : List String) : String := "[" ++ String.intercalate ", " values ++ "]"

def OvsRow.get (row : OvsRow) : OvsColumn → Option String
  | .uuid => some row.uuid
  | .externalId marker => row.externalIds marker
  | .ports => some (setText row.ports)
  | .named name => row.columns.lookup name

/-- `wait-until` on the markers of a row. -/
def OvsRow.meets (row : OvsRow) (conditions : List (Marker × String)) : Bool :=
  conditions.all fun c => row.externalIds c.1 = some c.2

/-- A table: its rows have distinct UUIDs. -/
structure OvsRows where
  rows : List OvsRow
  nodup : (rows.map OvsRow.uuid).Nodup

namespace OvsRows

def filter (t : OvsRows) (p : OvsRow → Bool) : OvsRows :=
  ⟨t.rows.filter p, t.nodup.sublist (List.filter_sublist.map _)⟩

/-- Rows keep their UUIDs. -/
def mapRows (t : OvsRows) (f : OvsRow → OvsRow) (h : ∀ r, (f r).uuid = r.uuid) : OvsRows :=
  ⟨t.rows.map f, by simpa [Function.comp_def, h] using t.nodup⟩

end OvsRows

/-! ## The world -/

structure NetNs where
  inode : UInt64
  /-- `ip -d link show dev lo` -/
  loopback : Option String
  /-- The digest of its table `inet graphx`. -/
  policy : Option String

structure Process where
  startTime : String
  command : String
  name : String
  survivesTerm : Bool := false
  survivesKill : Bool := false
  deriving DecidableEq

structure CaptureFile where
  name : String
  device : UInt64
  inode : UInt64
  uid : UInt32
  gid : UInt32
  mode : UInt32
  regular : Bool
  links : ℕ
  deriving DecidableEq

structure Directory where
  isDirectory : Bool
  device : UInt64
  inode : UInt64
  uid : UInt32
  gid : UInt32
  mode : UInt32
  files : List CaptureFile
  deriving DecidableEq

structure Container where
  id : String
  running : Bool
  pid : UInt32
  image : String
  project : String
  service : String
  owner : String
  graph : String
  namespaceInode : UInt64
  /-- Its process is in a control group of this engine. -/
  inCgroup : Bool
  /-- `ip -d -o link show dev` inside the container. -/
  links : String → Option String
  /-- The digest of its table `inet graphx_management`. -/
  policy : Option String

structure World where
  links : String → Option NetLink
  ovs : OvsTable → OvsRows
  /-- `ovs-vsctl` reaches the database. -/
  ovsAnswers : Bool
  namespaces : String → Option NetNs
  processes : UInt32 → Option Process
  directories : String → Option Directory
  containers : List Container
  bootId : String
  monotonicNs : UInt64

namespace World

variable (w : World)

def linkIfindex (name : String) : Option UInt32 := (w.links name).map (·.ifindex)

def linkPeerIfindex (name : String) : Option UInt32 :=
  (w.links name).bind fun l => if l.iflink = 0 then none else some l.iflink

def linkAlias (name : String) : String := ((w.links name).map (·.ifalias)).getD ""

/-- The row that a command names, by its UUID or its name. -/
def row (table : OvsTable) (record : String) : Option OvsRow :=
  (w.ovs table).rows.find? fun r => r.uuid = record || r.name = record

/-- `ovs_get`: empty if the command fails. -/
def ovsGet (table : OvsTable) (record : String) (column : OvsColumn) : String :=
  if w.ovsAnswers then ((w.row table record).bind (·.get column)).getD "" else ""

/-- The rows whose name or markers a `find` asks for. -/
def ovsFind (table : OvsTable) (p : OvsRow → Bool) : List String :=
  ((w.ovs table).rows.filter p).map (·.uuid)

def bridgeExists (name : String) : Bool := w.ovsAnswers && (w.ovs .bridge).rows.any (·.name = name)

def namespaceInode (name : String) : Option UInt64 :=
  (w.namespaces name).bind fun n => if n.inode = 0 then none else some n.inode

/-- `nft_policy_identity` in a namespace. -/
def namespacePolicy (name : String) : Result String :=
  match (w.namespaces name).bind (·.policy) with
  | some policy => .ok policy
  | none => .error (.runtimeError "E_MANAGEMENT_ACL: command failed")

def processStartTime (pid : UInt32) : String := ((w.processes pid).map (·.startTime)).getD ""

def processCommand (pid : UInt32) : String := ((w.processes pid).map (·.command)).getD ""

def processName (pid : UInt32) : String := ((w.processes pid).map (·.name)).getD ""

def qdiscState (interface : String) : String := ((w.links interface).bind (·.qdisc)).getD ""

def bootIdentity : String :=
  if w.bootId.length = 36 && w.bootId.toList.all fun c => isXDigit c || c = '-' then w.bootId else ""

end World

/-! ## Commands -/

inductive Removal where
  | destroyMirror (bridge mirror : String) (conditions : List (Marker × String))
  | destroyPort (bridge port interface : String) (conditions : List (Marker × String))
  | destroyBridge (bridge internalPort : String) (conditions : List (Marker × String))
  | deleteTap (name : String)
  | deleteLink (name : String)
  | deleteNamespace (name : String)
  | deleteQdisc (interface : String)
  | signal (pid : UInt32) (fatal : Bool)
  | sealFile (directory file : String)
  | sealDirectory (directory : String)
  deriving DecidableEq

namespace World

variable (w : World)

def setRows (table : OvsTable) (rows : OvsRows) : World :=
  { w with ovs := Function.update w.ovs table rows }

def dropRow (table : OvsTable) (uuid : String) : World :=
  w.setRows table ((w.ovs table).filter (·.uuid ≠ uuid))

/-- `remove Bridge … ports …`, `remove Bridge … mirrors …` -/
def dropFromBridge (bridge uuid : String) : World :=
  w.setRows .bridge ((w.ovs .bridge).mapRows (fun r =>
    if r.uuid = bridge then
      { r with ports := r.ports.filter (· ≠ uuid), mirrors := r.mirrors.filter (· ≠ uuid) }
    else r) fun r => by split <;> rfl)

/-- A link goes with its other end. -/
def dropLink (name : String) : World :=
  { w with links := fun n =>
      if n = name ∨ (w.links name).any (·.peer = .host n) then none else w.links n }

/-- A namespace goes with the links that end in it. -/
def dropNamespace (name : String) : World :=
  { w with
    namespaces := Function.update w.namespaces name none
    links := fun n => (w.links n).filter (·.peer ≠ .netns name) }

/-- What `tc qdisc show` prints of a link without a discipline of its own. -/
def plainQdisc : String := "qdisc noqueue 0: root refcnt 2"

def updateDirectory (path : String) (f : Directory → Directory) : World :=
  { w with directories := Function.update w.directories path ((w.directories path).map f) }

def remove : Removal → Option World
  | .destroyMirror bridge mirror conditions =>
    if w.ovsAnswers && (w.row .mirror mirror).any (·.meets conditions) &&
        (w.row .bridge bridge).isSome then
      some ((w.dropFromBridge bridge mirror).dropRow .mirror mirror)
    else none
  | .destroyPort bridge port interface conditions =>
    if w.ovsAnswers && (w.row .port port).any (·.meets conditions) &&
        (w.row .bridge bridge).isSome && (w.row .interface interface).isSome then
      some (((w.dropFromBridge bridge port).dropRow .interface interface).dropRow .port port)
    else none
  | .destroyBridge bridge internalPort conditions =>
    match w.row .bridge bridge with
    | some row =>
      -- The internal port and its interface are collected with the bridge.
      if w.ovsAnswers && row.meets conditions && row.ports = [internalPort] then
        some (((w.dropRow .bridge bridge).dropRow .port internalPort).setRows .interface
          ((w.ovs .interface).filter (·.name ≠ row.name)))
      else none
    | none => none
  | .deleteTap name => some (w.dropLink name)
  | .deleteLink name => if (w.links name).isSome then some (w.dropLink name) else none
  | .deleteNamespace name => if (w.namespaces name).isSome then some (w.dropNamespace name) else none
  | .deleteQdisc interface =>
    (w.links interface).map fun l =>
      { w with links := Function.update w.links interface (some { l with qdisc := some plainQdisc }) }
  | .signal pid fatal =>
    (w.processes pid).map fun p =>
      if (if fatal then p.survivesKill else p.survivesTerm) then w
      else { w with processes := Function.update w.processes pid none }
  | .sealFile directory file =>
    some (w.updateDirectory directory fun d =>
      { d with files := d.files.map fun f =>
          if f.name = file then { f with mode := f.mode &&& 0o7555 } else f })
  | .sealDirectory directory => some (w.updateDirectory directory ({ · with mode := 0o550 }))

end World

/-! ## Sites -/

/-- What befalls a command, or a write of the ledger. -/
inductive Fate where
  | works
  | fails
  | late
  | killed
  deriving DecidableEq

/-- A command that was issued, with the ledger on disk and the world at that
    moment. -/
structure Event where
  ledger : OwnershipState
  world : World
  command : Removal

structure Site where
  world : World
  /-- `context->state` -/
  memory : OwnershipState
  /-- The file `ownership.yml`. -/
  ledger : OwnershipState
  log : List Event
  plan : ℕ → Fate
  steps : ℕ

namespace Site

abbrev Run := Act Site Exn

/-- Runs a command; says whether its status is 0. -/
def issue (command : Removal) : Run Bool := do
  let s ← get
  let log := s.log ++ [⟨s.ledger, s.world, command⟩]
  let done := (s.world.remove command).getD s.world
  match s.plan s.steps with
  | .killed => Act.block
  | .fails => do
    modify ({ · with log := log, steps := s.steps + 1 })
    return false
  | .late => do
    modify ({ · with log := log, steps := s.steps + 1, world := done })
    return false
  | .works => do
    modify ({ · with log := log, steps := s.steps + 1, world := done })
    return (s.world.remove command).isSome

def saveState : Run Unit := do
  let s ← get
  match s.plan s.steps with
  | .killed => Act.block
  | .fails => do
    modify ({ · with steps := s.steps + 1 })
    throw (.runtimeError "cannot publish ownership state")
  | .late => do
    modify ({ · with steps := s.steps + 1, ledger := s.memory })
    throw (.runtimeError "cannot sync ownership state directory")
  | .works => modify ({ · with steps := s.steps + 1, ledger := s.memory })

end Site

end GraphX
