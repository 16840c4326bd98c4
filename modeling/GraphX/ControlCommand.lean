/-
  Control commands as a runtime reads them (`src/observability.cpp`): the
  control thread of `UdpJsonTraceSink` looks for markers in the bytes of a
  datagram and answers a command with an acknowledgement.
-/
import GraphX.Telemetry
import GraphX.Lib.Search

namespace GraphX

open Ecma Search

/-! ## Fields -/

/-- `input.find(needle, pos)` -/
def findFrom (needle input : Bytes) (pos : ℕ) : Option ℕ := (find needle (input.drop pos)).map (· + pos)

def substr (input : Bytes) (pos count : ℕ) : Bytes := (input.drop pos).take count

def isDigitByte (b : UInt8) : Bool := ascii '0' ≤ b && b ≤ ascii '9'

/-- `std::isspace` -/
def isSpaceByte (b : UInt8) : Bool := b = 0x20 || (0x09 ≤ b && b ≤ 0x0d)

/-- The sign of a number, and how long it is. -/
def signOf : Bytes → Bool × ℕ
  | b :: _ => if b = ascii '-' then (true, 1) else if b = ascii '+' then (false, 1) else (false, 0)
  | [] => (false, 0)

/-- `std::stoll`: the value and how much was read of the text; nothing if it
    throws. -/
def stoll (s : Bytes) : Option (ℤ × ℕ) :=
  let blank := (s.takeWhile isSpaceByte).length
  let (negative, sign) := signOf (s.drop blank)
  let digits := (s.drop (blank + sign)).takeWhile isDigitByte
  let magnitude : ℤ := value (widen digits)
  let n := if negative then -magnitude else magnitude
  if digits.isEmpty || n < -2 ^ 63 || 2 ^ 63 ≤ n then none
  else some (n, blank + sign + digits.length)

def jsonAuthField (input name : Bytes) (length : ℕ) : Bytes :=
  let marker := chars "\"" ++ name ++ chars "\":\""
  match find marker input with
  | none => []
  | some start =>
    let value := start + marker.length
    if value + length ≥ input.length || input[value + length]? ≠ some (ascii '"') then []
    else substr input value length

def jsonStringField (input name : Bytes) (maximum : ℕ) : Bytes :=
  let marker := chars "\"" ++ name ++ chars "\":\""
  match find marker input with
  | none => []
  | some start =>
    let value := start + marker.length
    match findFrom (chars "\"") input value with
    | none => []
    | some stop =>
      let result := substr input value (stop - value)
      if stop - value > maximum || result.contains (ascii '\\') then [] else result

def jsonIntegerField (input name : Bytes) : Option ℤ :=
  let marker := chars "\"" ++ name ++ chars "\":"
  match find marker input with
  | none => none
  | some start =>
    let value := start + marker.length
    let minus := if input[value]? = some (ascii '-') then 1 else 0
    let length := minus + ((input.drop (value + minus)).takeWhile isDigitByte).length
    if length = minus then none
    else
      match stoll (substr input value length) with
      | some (n, parsed) => if parsed = length then some n else none
      | none => none

/-! ## Commands -/

def payloadMarker : Bytes := chars "\x7b\"payload\":"

def authMarker : Bytes := chars ",\"auth\":\x7b"

def timestampMarker : Bytes := chars "\"timestamp\":"

/-- The text between the two markers. -/
def commandPayload (input : Bytes) : Bytes :=
  match rfind authMarker input with
  | none => []
  | some auth =>
    if payloadMarker.isPrefixOf input then substr input payloadMarker.length (auth - payloadMarker.length)
    else []

/-- The timestamp behind `auth`. -/
def commandTimestamp (input : Bytes) (auth : ℕ) : Option ℤ := do
  let marker ← findFrom timestampMarker input auth
  let start := marker + 12
  let stop ← findFrom (chars ",") input start
  let (timestamp, _) ← stoll (substr input start (stop - start))
  return timestamp

/-- The nonces after `nonce`; the set is cleared when it is full. -/
def insertNonce (nonces : Finset Bytes) (nonce : Bytes) : Finset Bytes :=
  insert nonce (if nonces.card ≥ 4096 then ∅ else nonces)

def authenticateCommand (H : Hmac) (input secret : Bytes) (nonces : Finset Bytes) (now : Int64) :
    Bool × Finset Bytes :=
  match rfind authMarker input with
  | none => (false, nonces)
  | some auth =>
    if secret.isEmpty || !payloadMarker.isPrefixOf input || !(chars "\x7d\x7d").isSuffixOf input then
      (false, nonces)
    else
      let payload := substr input payloadMarker.length (auth - payloadMarker.length)
      match commandTimestamp input auth with
      | none => (false, nonces)
      | some timestamp =>
        if timestamp < now.toInt - 30000 || timestamp > now.toInt + 30000 then (false, nonces)
        else
          let nonce := jsonAuthField (input.drop auth) (chars "nonce") 32
          let signature := jsonAuthField (input.drop auth) (chars "signature") 64
          if nonce.isEmpty || signature.isEmpty || nonce ∈ nonces then (false, nonces)
          else
            let expected := hmacHex H secret
              (integerText timestamp ++ chars "." ++ nonce ++ chars "." ++ payload)
            if signature ≠ expected then (false, nonces) else (true, insertNonce nonces nonce)

def isIdDigit (b : UInt8) : Bool := isHexByte b || (ascii 'A' ≤ b && b ≤ ascii 'F')

def commandIdDashes : List ℕ := [8, 13, 18, 23]

def validCommandId (value : Bytes) : Bool :=
  value.length = 36 && commandIdDashes.all (fun i => value[i]? = some (ascii '-')) &&
    (List.range 36).all fun i => i ∈ commandIdDashes || value[i]?.any isIdDigit

/-! ## The control thread -/

inductive PauseAction where
  | pause
  | resume
  deriving DecidableEq

def PauseAction.text : PauseAction → String
  | pause => "pause"
  | resume => "resume"

/-- The action of a command, if it is one of the two. -/
def requestedAction (text : Bytes) : Option PauseAction :=
  if text = chars PauseAction.pause.text then some .pause
  else if text = chars PauseAction.resume.text then some .resume
  else none

/-- What the control thread keeps between two datagrams. -/
structure ControlState where
  paused : Bool
  nonces : Finset Bytes

/-- What the system supplies while a command is handled. -/
structure ControlMoment where
  /-- The clock and the secret, when the command is authenticated. -/
  received : Moment
  /-- The clock, when the expiry is checked. -/
  now : Int64
  /-- The clock, the secret and the nonce, when the acknowledgement is signed. -/
  answered : Moment

namespace UdpJsonTraceSink

def acknowledgementPayload (sink : UdpJsonTraceSink) (action : PauseAction) (commandId : Bytes)
    (paused : Bool) : Bytes :=
  chars "\x7b\"kind\":\"control_ack\",\"nodeId\":\"" ++ escapeJson sink.nodeId ++
    chars "\",\"action\":\"" ++ chars action.text ++ chars "\",\"commandId\":\"" ++ commandId ++
    chars "\",\"accepted\":true,\"state\":\"" ++ chars (if paused then "paused" else "running") ++
    chars "\"\x7d"

/-- The action of an authenticated command for this node. -/
def commandAction (sink : UdpJsonTraceSink) (payload : Bytes) (now : Int64) : Option PauseAction :=
  let kind := jsonStringField payload (chars "kind") 16
  let commandId := jsonStringField payload (chars "commandId") 36
  let targetNode := jsonStringField payload (chars "targetNode") 64
  match jsonIntegerField payload (chars "expiresAt") with
  | none => none
  | some expiresAt =>
    if kind ≠ chars "control" || !validCommandId commandId || targetNode ≠ sink.nodeId ||
        expiresAt < now.toInt || expiresAt > now.toInt + 30000 then none
    else requestedAction (jsonStringField payload (chars "action") 8)

/-- A datagram arrives: the state after it, and what is sent back.  The buffer has
    2048 bytes, and what does not fit is cut off. -/
def receiveCommand (H : Hmac) (sink : UdpJsonTraceSink) (m : ControlMoment) (state : ControlState)
    (datagram : Bytes) : ControlState × Option Bytes :=
  let command := datagram.take 2048
  match sink.secret m.received with
  | .error _ => (state, none)
  | .ok secret =>
    let (authentic, nonces) := authenticateCommand H command secret state.nonces m.received.now
    let state := { state with nonces }
    if !authentic then (state, none)
    else
      let payload := commandPayload command
      match sink.commandAction payload m.now with
      | none => (state, none)
      | some action =>
        let paused := decide (action = .pause)
        let commandId := jsonStringField payload (chars "commandId") 36
        let acknowledgement := sink.acknowledgementPayload action commandId paused
        ({ state with paused }, some (sink.sign H m.answered acknowledgement))

end UdpJsonTraceSink

end GraphX
