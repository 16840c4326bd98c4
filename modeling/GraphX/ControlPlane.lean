/-
  The collector's control plane (`apps/telemetry/control.mjs`, `ControlPlane`, and
  `deliverControl` of `collector.mjs`): commands are issued to runtimes, expire,
  and are acknowledged.

  Times are time values of ECMAScript, in milliseconds: for other numbers `toISOString`
  throws.  `Map`s are lists in the order of insertion.  The audit log, which no decision
  reads, is left out, and with it the counters `denied` and `auditDropped`.
-/
import GraphX.Security

namespace GraphX

open Ecma List

/-! ## Configuration -/

/-- An integer in a range. -/
abbrev Bounded (minimum maximum : ℤ) := {n : ℤ // minimum ≤ n ∧ n ≤ maximum}

def integer {minimum maximum : ℤ} (value : Option Json) (fallback : Bounded minimum maximum)
    (name : String) : Except Text (Bounded minimum maximum) :=
  let error := text name ++ text " must be an integer between " ++ decimalInt minimum ++
    text " and " ++ decimalInt maximum
  match value with
  | none | some .null => .ok fallback
  | some (.num n) =>
    match n.safeInteger with
    | some z => if h : minimum ≤ z ∧ z ≤ maximum then .ok ⟨z, h⟩ else .error error
    | none => .error error
  | some _ => .error error

structure ControlConfig where
  commandTimeoutMs : Bounded 100 30000
  commandRetentionSeconds : Bounded 60 86400
  maxCommands : Bounded 1 10000
  maxAuditRecords : Bounded 10 100000
  idempotencyTtlSeconds : Bounded 60 86400
  maxRequestBytes : Bounded 256 16384

def controlConfigKeys : List String :=
  ["command_timeout_ms", "command_retention_seconds", "max_commands", "max_audit_records",
    "idempotency_ttl_seconds", "max_request_bytes"]

def controlConfig (config : Json) : Except Text ControlConfig :=
  match config with
  | .obj ms =>
    match ms.find? fun m => !controlConfigKeys.any (text · = m.1) with
    | some (key, _) =>
      .error (text "unknown control configuration property '" ++ key ++ text "'")
    | none => do
      let get (k : String) := config.get (text k)
      return {
        commandTimeoutMs := ← integer (get "command_timeout_ms") ⟨2000, by decide⟩
          "control command_timeout_ms"
        commandRetentionSeconds := ← integer (get "command_retention_seconds") ⟨3600, by decide⟩
          "control command_retention_seconds"
        maxCommands := ← integer (get "max_commands") ⟨1024, by decide⟩ "control max_commands"
        maxAuditRecords := ← integer (get "max_audit_records") ⟨4096, by decide⟩
          "control max_audit_records"
        idempotencyTtlSeconds := ← integer (get "idempotency_ttl_seconds") ⟨3600, by decide⟩
          "control idempotency_ttl_seconds"
        maxRequestBytes := ← integer (get "max_request_bytes") ⟨4096, by decide⟩
          "control max_request_bytes" }
  | _ => .error (text "control configuration must be an object")

/-- The configuration in which nothing is set. -/
def ControlConfig.unset : ControlConfig :=
  ⟨⟨2000, by decide⟩, ⟨3600, by decide⟩, ⟨1024, by decide⟩, ⟨4096, by decide⟩, ⟨3600, by decide⟩,
    ⟨4096, by decide⟩⟩

example : controlConfig (.obj []) = .ok .unset := rfl

/-! ## Commands -/

inductive ControlAction where
  | pause
  | resume
  | reset
  deriving DecidableEq

def ControlAction.name : ControlAction → String
  | pause => "pause"
  | resume => "resume"
  | reset => "reset"

inductive CommandStatus where
  | pending
  | accepted
  | rejected
  | timedOut
  deriving DecidableEq

structure Acknowledgement where
  accepted : Bool
  receivedAt : ℤ
  state : Option Text
  error : Option Text

structure Command where
  id : Text
  action : ControlAction
  targetNodes : List Text
  actor : Text
  reason : Option Text
  status : CommandStatus
  issuedAt : ℤ
  expiresAt : ℤ
  acknowledgements : List (Text × Acknowledgement)
  delivered : ℕ

/-- What an `Idempotency-Key` was used for. -/
structure Idempotency where
  commandId : Text
  fingerprint : Text
  expiresAt : ℤ

structure ControlStats where
  issued : ℕ := 0
  accepted : ℕ := 0
  rejected : ℕ := 0
  timedOut : ℕ := 0
  idempotentReplays : ℕ := 0

structure ControlPlane where
  config : ControlConfig
  nodeIds : List Text
  commands : List Command := []
  idempotency : List (Text × Idempotency) := []
  stats : ControlStats := {}

inductive ControlError where
  | error (message : String)
  | conflict (message : String)

/-- The arguments of `issue`; that the action is one of `CONTROL_ACTIONS` is in its
    type. -/
structure ControlRequest where
  action : ControlAction
  targetNodes : List Text
  actor : Text
  reason : Option Text := none
  idempotencyKey : Option Text := none

/-- What the clock says and `randomUUID` returns while a command is issued. -/
structure IssueMoment where
  maintainedAt : ℤ
  previousAt : ℤ
  issuedAt : ℤ
  uuid : Text

/-- `/^[A-Za-z0-9._:-]\x7b1,128\x7d$/` -/
def isIdempotencyKey (s : Text) : Bool :=
  1 ≤ s.length && s.length ≤ 128 && s.all fun u => isWord u || u = unit '.' || u = unit ':'

/-- `[...targets].sort()` -/
def sortTexts (targets : List Text) : List Text := targets.mergeSort fun s t => decide (s ≤ t)

def fingerprint (action : ControlAction) (targets : List Text) (reason : Option Text) : Text :=
  stringify (.obj [(text "action", .str (text action.name)),
    (text "targets", .arr ((sortTexts targets).map .str)),
    (text "reason", reason.elim .null .str)])

/-- The key in the table of idempotency. -/
def ControlRequest.cacheKey (r : ControlRequest) : Option Text :=
  r.idempotencyKey.map fun key => r.actor ++ unit ':' :: key

def ControlRequest.print (r : ControlRequest) : Text :=
  fingerprint r.action r.targetNodes.eraseDups r.reason

namespace ControlPlane

/-- A pending command that has expired. -/
def hasExpired (timestamp : ℤ) (c : Command) : Bool :=
  c.status = .pending && decide (timestamp ≥ c.expiresAt)

def expire (timestamp : ℤ) (c : Command) : Command :=
  if hasExpired timestamp c then { c with status := .timedOut } else c

/-- `#maintain` -/
def maintain (plane : ControlPlane) (timestamp : ℤ) : ControlPlane :=
  let commandCutoff := timestamp - plane.config.commandRetentionSeconds * 1000
  let timedOut := plane.stats.timedOut + plane.commands.countP (hasExpired timestamp)
  { plane with
    commands := (plane.commands.map (expire timestamp)).filter fun c =>
      !decide (c.issuedAt < commandCutoff)
    idempotency := plane.idempotency.filter fun entry => !decide (timestamp ≥ entry.2.expiresAt)
    stats := { plane.stats with timedOut } }

/-- `this.commands.get(id)` -/
def command (plane : ControlPlane) (id : Text) : Option Command := plane.commands.find? (·.id = id)

/-- `this.commands.set(command.id, command)` -/
def setCommand (plane : ControlPlane) (c : Command) : ControlPlane :=
  { plane with commands :=
      if plane.commands.any (·.id = c.id) then
        plane.commands.map fun d => if d.id = c.id then c else d
      else plane.commands ++ [c] }

def setIdempotency (plane : ControlPlane) (key : Text) (entry : Idempotency) : ControlPlane :=
  { plane with idempotency := plane.idempotency.filter (·.1 ≠ key) ++ [(key, entry)] }

def deleteIdempotency (plane : ControlPlane) (key : Text) : ControlPlane :=
  { plane with idempotency := plane.idempotency.filter (·.1 ≠ key) }

/-- The targets are not empty, not too many, and configured. -/
def validTargets (plane : ControlPlane) (action : ControlAction) (targets : List Text) : Bool :=
  !targets.isEmpty && targets.length ≤ 1024 &&
    targets.all fun node =>
      if action = .reset then node = text "collector" else plane.nodeIds.contains node

/-- Why the arguments of a request are refused. -/
def refusal (plane : ControlPlane) (r : ControlRequest) : Option String :=
  if !plane.validTargets r.action r.targetNodes.eraseDups then
    some "control targetNodes are invalid"
  else if r.reason.any fun s => s.length < 1 || s.length > 256 then
    some "control reason must contain 1-256 characters"
  else if r.idempotencyKey.any fun key => !isIdempotencyKey key then
    some "Idempotency-Key is invalid"
  else none

/-- What the key of the request was used for. -/
def previous (plane : ControlPlane) (r : ControlRequest) : Option (Text × Idempotency) :=
  r.cacheKey.bind fun key => (plane.idempotency.lookup key).map (key, ·)

def newCommand (plane : ControlPlane) (m : IssueMoment) (r : ControlRequest) : Command where
  id := m.uuid
  action := r.action
  targetNodes := r.targetNodes.eraseDups
  actor := r.actor
  reason := r.reason
  status := if r.action = .reset then .accepted else .pending
  issuedAt := m.issuedAt
  expiresAt := m.issuedAt + plane.config.commandTimeoutMs
  acknowledgements := []
  delivered := 0

/-- A delivered command is recorded, and its key. -/
def recordCommand (plane : ControlPlane) (c : Command) (cacheKey : Option Text) : ControlPlane :=
  let plane := plane.setCommand c
  let entry : Idempotency :=
    { commandId := c.id
      fingerprint := fingerprint c.action c.targetNodes c.reason
      expiresAt := c.issuedAt + plane.config.idempotencyTtlSeconds * 1000 }
  let plane := cacheKey.elim plane fun key => plane.setIdempotency key entry
  let accepted := if c.action = .reset then plane.stats.accepted + 1 else plane.stats.accepted
  { plane with stats := { plane.stats with issued := plane.stats.issued + 1, accepted } }

/-- The end of `issue`: the command is delivered and recorded. -/
def issueNew (plane : ControlPlane) (m : IssueMoment) (r : ControlRequest) (cacheKey : Option Text)
    (delivered : Command → ℕ) : Except ControlError (Command × Bool) × ControlPlane :=
  if (plane.commands.length : ℤ) ≥ plane.config.maxCommands then
    (.error (.error "control command capacity exceeded"), plane)
  else
    let c := plane.newCommand m r
    let c := { c with delivered := delivered c }
    if r.action ≠ .reset && c.delivered < 1 then
      (.error (.error "no live authorized runtime nodes"), plane)
    else (.ok (c, false), plane.recordCommand c cacheKey)

def countReplay (plane : ControlPlane) : ControlPlane :=
  { plane with stats.idempotentReplays := plane.stats.idempotentReplays + 1 }

def issue (plane : ControlPlane) (m : IssueMoment) (r : ControlRequest) (delivered : Command → ℕ) :
    Except ControlError (Command × Bool) × ControlPlane :=
  let plane := plane.maintain m.maintainedAt
  match plane.refusal r with
  | some message => (.error (.error message), plane)
  | none =>
    match plane.previous r with
    | none => plane.issueNew m r r.cacheKey delivered
    | some (key, previous) =>
      if previous.fingerprint ≠ r.print then
        (.error (.conflict "Idempotency-Key was reused for a different command"), plane)
      else
        let plane := plane.maintain m.previousAt
        match plane.command previous.commandId with
        | none => (plane.deleteIdempotency key).issueNew m r r.cacheKey delivered
        | some c => (.ok (c, true), plane.countReplay)

def stringField (event : Json) (k : String) : Option Text :=
  match event.get (text k) with
  | some (.str s) => some s
  | _ => none

/-- What the event says about the command. -/
def acknowledgement (event : Json) (timestamp : ℤ) : Acknowledgement where
  accepted :=
    match event.get (text "accepted") with
    | some (.bool b) => b
    | _ => false
  receivedAt := timestamp
  state := (stringField event "state").filter fun s => s = text "paused" || s = text "running"
  error := stringField event "error"

def acknowledged (c : Command) (node : Text) (a : Acknowledgement) : Command :=
  let acknowledgements := c.acknowledgements ++ [(node, a)]
  { c with
    acknowledgements
    status :=
      if !a.accepted then .rejected
      else if acknowledgements.length = c.targetNodes.length then .accepted
      else c.status }

/-- The answer `a` of a node is recorded. -/
def recordAnswer (plane : ControlPlane) (c : Command) (node : Text) (a : Acknowledgement) :
    ControlPlane :=
  let c := acknowledged c node a
  { plane.setCommand c with
    stats :=
      if !a.accepted then { plane.stats with rejected := plane.stats.rejected + 1 }
      else if c.acknowledgements.length = c.targetNodes.length then
        { plane.stats with accepted := plane.stats.accepted + 1 }
      else plane.stats }

def acknowledge (plane : ControlPlane) (event : Json) (timestamp : ℤ) : Bool × ControlPlane :=
  let plane := plane.maintain timestamp
  let safeEvent := sanitizeControlAcknowledgement event
  match (stringField safeEvent "commandId").bind plane.command, stringField safeEvent "nodeId" with
  | some c, some node =>
    if c.status ≠ .pending || stringField safeEvent "action" ≠ some (text c.action.name) ||
        !c.targetNodes.contains node || c.acknowledgements.any (·.1 = node) then (false, plane)
    else (true, plane.recordAnswer c node (acknowledgement safeEvent timestamp))
  | _, _ => (false, plane)

/-- `pendingCount`, after its maintenance pass -/
def pendingCount (plane : ControlPlane) : ℕ := plane.commands.countP (·.status = .pending)

end ControlPlane

/-! ## Delivery -/

/-- A time value of ECMAScript. -/
def timeNumber (t : ℤ) : Number := .ofDecimal (decide (t < 0)) t.natAbs 0

structure ControlEndpoint where
  address : Text
  port : ℕ

/-- What `deliverControl` finds for a node. -/
structure Delivery where
  /-- The endpoint, if it is live. -/
  endpoint : Option ControlEndpoint
  /-- The secret of the node; the empty text if there is none. -/
  targetSecret : Text
  /-- The clock and the nonce, when the command is signed. -/
  timestamp : ℤ
  nonce : Entropy

def controlPayload (c : Command) (nodeId : Text) : Json :=
  .obj [(text "kind", .str (text "control")), (text "action", .str (text c.action.name)),
    (text "commandId", .str c.id), (text "targetNode", .str nodeId),
    (text "issuedAt", .num (timeNumber c.issuedAt)), (text "expiresAt", .num (timeNumber c.expiresAt))]

/-- `Buffer.from(JSON.stringify(signEnvelope(payload, targetSecret)))` -/
def controlDatagram (H : Hmac) (c : Command) (nodeId : Text) (d : Delivery) : Bytes :=
  encode (stringify (signEnvelope H (controlPayload c nodeId) d.targetSecret (timeNumber d.timestamp)
    (widen (hexText d.nonce.1))))

/-- What is sent for a command, in order. -/
def deliverControl (H : Hmac) (c : Command) (delivery : Text → Delivery) :
    List (Text × ControlEndpoint × Bytes) :=
  c.targetNodes.filterMap fun nodeId =>
    let d := delivery nodeId
    d.endpoint.bind fun endpoint =>
      if d.targetSecret = [] then none else some (nodeId, endpoint, controlDatagram H c nodeId d)

/-- The number that `deliverControl` returns. -/
def delivered (H : Hmac) (delivery : Text → Delivery) (c : Command) : ℕ :=
  if c.action = .reset then 1 else (deliverControl H c delivery).length

end GraphX
