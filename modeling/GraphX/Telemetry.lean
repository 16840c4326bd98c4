/-
  The telemetry sink (`src/observability.cpp`, `UdpJsonTraceSink`): every
  callback is written as a JSON text, byte by byte, and signed.

  `payload` is the text of a callback and `datagram` what is sent for it.
  Strings are bytes, and `escape_json` works on bytes; a failure to read the
  secret or to draw a nonce leaves an empty datagram.
-/
import GraphX.Transport
import GraphX.Lib.Utf8

namespace GraphX

open Ecma

/-! ## Texts -/

/-- A string literal. -/
def chars (s : String) : Bytes := s.toList.map ascii

/-- A text of characters, each in one byte. -/
def narrow (t : Text) : Bytes := t.map UInt16.toUInt8

/-- `std::to_string`, and `<<` of an integer. -/
def integerText (n : ℤ) : Bytes := narrow (decimalInt n)

/-- One byte as `escape_json` writes it. -/
def escapeByte (byte : UInt8) : Bytes :=
  if byte = ascii '\\' then chars "\\\\"
  else if byte = ascii '"' then chars "\\\""
  else if byte = ascii '\n' then chars "\\n"
  else if byte = ascii '\r' then chars "\\r"
  else if byte = ascii '\t' then chars "\\t"
  else if byte < 0x20 || byte ≥ 0x7f then
    chars "\\u00" ++ Reader.hexDigits byte
  else [byte]

def escapeJson (value : Bytes) : Bytes := value.flatMap escapeByte

/-- Two digits for each byte. -/
def hexText (bytes : Bytes) : Bytes := bytes.flatMap Reader.hexDigits

theorem hexValue_hexDigits : ∀ b : UInt8,
    Ecma.hexValue (hexDigit (b >>> 4)).toUInt16 = some (b >>> 4).toUInt16 ∧
      Ecma.hexValue (hexDigit (b &&& 0x0f)).toUInt16 = some (b &&& 0x0f).toUInt16 :=
  forall_byte (by decide)

inductive Double where
  | finite (negative : Bool) (magnitude : ℚ≥0)
  | infinite (negative : Bool)
  | nan

/-- `value >= 0.0` -/
def Double.atLeastZero : Double → Bool
  | finite negative magnitude => !negative || magnitude = 0
  | infinite negative => !negative
  | nan => false

/-- `<< std::setprecision(15) << value` -/
def Double.text : Double → Text
  | finite negative magnitude =>
    (if negative then [unit '-'] else []) ++
      (if magnitude = 0 then [unit '0'] else printGeneral 15 magnitude)
  | infinite negative => Ecma.text (if negative then "-inf" else "inf")
  | nan => Ecma.text "nan"

/-! ## Signing -/

/-- HMAC-SHA256. -/
structure Hmac where
  digest : (key message : Bytes) → Bytes
  length_digest : ∀ key message, (digest key message).length = 32

def hmacHex (H : Hmac) (secret value : Bytes) : Bytes := hexText (H.digest secret value)

/-- What `getentropy` fills a nonce with. -/
abbrev Entropy := {bytes : Bytes // bytes.length = 16}

def randomHexNonce : Option Entropy → Result Bytes
  | none => .error (.runtimeError "getentropy failed")
  | some entropy => .ok (hexText entropy.1)

/-- The text that is signed. -/
def signedValue (timestamp : Int64) (nonce payload : Bytes) : Bytes :=
  integerText timestamp.toInt ++ chars "." ++ nonce ++ chars "." ++ payload

def signedDatagram (H : Hmac) (payload secret : Bytes) (timestamp : Int64)
    (entropy : Option Entropy) : Result Bytes :=
  if secret.isEmpty then .ok payload
  else do
    let nonce ← randomHexNonce entropy
    .ok (chars "\x7b\"payload\":" ++ payload ++ chars ",\"auth\":\x7b\"timestamp\":" ++
      integerText timestamp.toInt ++ chars ",\"nonce\":\"" ++ nonce ++ chars "\",\"signature\":\"" ++
      hmacHex H secret (signedValue timestamp nonce payload) ++ chars "\"\x7d\x7d")

structure UdpJsonTraceSink where
  nodeId : Bytes
  sharedSecret : Bytes
  /-- Whether there is a `secret_reader`. -/
  secretReader : Bool
  counterSession : Entropy

/-- What the system supplies while a callback runs. -/
structure Moment where
  /-- The clock, when the text is written. -/
  now : Int64
  /-- What the `secret_reader` returns or throws. -/
  secretRead : Result Bytes
  /-- The clock, when the text is signed. -/
  signedAt : Int64
  entropy : Option Entropy

namespace UdpJsonTraceSink

def secret (sink : UdpJsonTraceSink) (m : Moment) : Result Bytes :=
  if sink.secretReader then m.secretRead else .ok sink.sharedSecret

/-- The datagram; nothing is in it if the secret or the nonce cannot be had. -/
def sign (H : Hmac) (sink : UdpJsonTraceSink) (m : Moment) (payload : Bytes) : Bytes :=
  let signed : Result Bytes := do
    let secret ← sink.secret m
    signedDatagram H payload secret m.signedAt m.entropy
  match signed with
  | .ok datagram => datagram
  | .error _ => []

/-! ## Callbacks -/

def connectionText : ConnectionState → String
  | .disconnected => "disconnected"
  | .connecting => "connecting"
  | .listening => "listening"
  | .connected => "connected"
  | .closed => "closed"
  | .error => "error"

/-- `duration_cast<microseconds>(duration).count()` -/
def microseconds (ns : Int64) : ℤ := ns.toInt.tdiv 1000

/-- The arguments of `emit`, with the defaults of its declaration. -/
structure Emit where
  event : String
  edgeId : Bytes := []
  envelope : Option Envelope := none
  wireBytes : ℕ := 0
  latency : Int64 := 0
  message : Bytes := []
  cpuPercent : Double := .finite true 1

/-- The part about the envelope. -/
def envelopeText (e : Envelope) : Bytes :=
  chars ",\"sequence\":" ++ integerText e.sequence.toNat ++
    chars ",\"wireVersion\":" ++ integerText e.wireVersion.toNat ++
    chars ",\"type\":\"" ++ escapeJson e.type ++
    chars "\",\"payloadBytes\":" ++ integerText e.payload.length ++
    chars ",\"messageId\":\"" ++ escapeJson e.messageId ++
    chars "\",\"parentMessageId\":\"" ++ escapeJson e.parentMessageId ++
    chars "\",\"traceId\":\"" ++ escapeJson e.traceId ++ chars "\""

/-- The parts that an event may lack. -/
def edgeText (edgeId : Bytes) : Bytes :=
  if edgeId.isEmpty then [] else chars ",\"edgeId\":\"" ++ escapeJson edgeId ++ chars "\""

def messageText (message : Bytes) : Bytes :=
  if message.isEmpty then [] else chars ",\"message\":\"" ++ escapeJson message ++ chars "\""

def cpuText (cpuPercent : Double) : Bytes :=
  if cpuPercent.atLeastZero then chars ",\"cpuPercent\":" ++ narrow cpuPercent.text else []

def emit (sink : UdpJsonTraceSink) (now : Int64) (a : Emit) : Bytes :=
  chars "\x7b\"kind\":\"trace\",\"event\":\"" ++ chars a.event ++
    chars "\",\"nodeId\":\"" ++ escapeJson sink.nodeId ++ chars "\"" ++ edgeText a.edgeId ++
    chars ",\"timestamp\":" ++ integerText now.toInt ++
    chars ",\"wireBytes\":" ++ integerText a.wireBytes ++
    chars ",\"latencyUs\":" ++ integerText (microseconds a.latency) ++
    a.envelope.elim [] envelopeText ++ messageText a.message ++ cpuText a.cpuPercent ++
    chars "\x7d"

def edgeTotals (sink : UdpJsonTraceSink) (now : Int64) (edgeId : Bytes) (sent : Bool)
    (packets wireBytes : UInt64) : Bytes :=
  chars "\x7b\"kind\":\"edge_totals\",\"event\":\"totals\",\"nodeId\":\"" ++
    escapeJson sink.nodeId ++ chars "\",\"edgeId\":\"" ++ escapeJson edgeId ++
    chars "\",\"direction\":\"" ++ chars (if sent then "sent" else "received") ++
    chars "\",\"sessionId\":\"" ++ hexText sink.counterSession.1 ++
    chars "\",\"timestamp\":" ++ integerText now.toInt ++
    chars ",\"packets\":" ++ integerText packets.toNat ++
    chars ",\"wireBytes\":" ++ integerText wireBytes.toNat ++ chars "\x7d"

def capture (sink : UdpJsonTraceSink) (now : Int64) (edgeId : Bytes) (e : Envelope)
    (direction file : Bytes) (packetIndex fileOffset : UInt64) : Bytes :=
  chars "\x7b\"kind\":\"capture\",\"event\":\"frame\",\"nodeId\":\"" ++ escapeJson sink.nodeId ++
    chars "\",\"edgeId\":\"" ++ escapeJson edgeId ++
    chars "\",\"timestamp\":" ++ integerText now.toInt ++
    chars ",\"sequence\":" ++ integerText e.sequence.toNat ++
    chars ",\"wireVersion\":" ++ integerText e.wireVersion.toNat ++
    chars ",\"type\":\"" ++ escapeJson e.type ++
    chars "\",\"messageId\":\"" ++ escapeJson e.messageId ++
    chars "\",\"parentMessageId\":\"" ++ escapeJson e.parentMessageId ++
    chars "\",\"traceId\":\"" ++ escapeJson e.traceId ++
    chars "\",\"direction\":\"" ++ escapeJson direction ++
    chars "\",\"captureFile\":\"" ++ escapeJson file ++
    chars "\",\"capturePacket\":" ++ integerText packetIndex.toNat ++
    chars ",\"captureOffset\":" ++ integerText fileOffset.toNat ++ chars "\x7d"

/-- A callback of the sink with its arguments. -/
inductive Call where
  | onSend (edgeId : Bytes) (envelope : Envelope) (wireBytes : ℕ)
  | onReceive (edgeId : Bytes) (envelope : Envelope) (wireBytes : ℕ) (latency : Int64)
  | onError (edgeId message : Bytes)
  | onConnection (edgeId : Bytes) (state : ConnectionState)
  | onReconnect (edgeId : Bytes)
  | onBackpressure (edgeId : Bytes) (duration : Int64) (rejected : Bool)
  | onProcessing (envelope : Envelope) (duration : Int64) (success : Bool)
  | onHeartbeat (cpuPercent : Double)
  | onEdgeTotals (edgeId : Bytes) (sent : Bool) (packets wireBytes : UInt64)
  | onCapture (edgeId : Bytes) (envelope : Envelope) (direction file : Bytes)
      (packetIndex fileOffset : UInt64)

/-- The three kinds of texts, with what goes into them. -/
inductive Record where
  | trace (a : Emit)
  | edgeTotals (edgeId : Bytes) (sent : Bool) (packets wireBytes : UInt64)
  | capture (edgeId : Bytes) (envelope : Envelope) (direction file : Bytes)
      (packetIndex fileOffset : UInt64)

/-- What each callback writes. -/
def Call.record : Call → Record
  | onSend edgeId envelope wireBytes =>
    .trace { event := "send", edgeId, envelope := some envelope, wireBytes }
  | onReceive edgeId envelope wireBytes latency =>
    .trace { event := "receive", edgeId, envelope := some envelope, wireBytes, latency }
  | onError edgeId message => .trace { event := "error", edgeId, message }
  | onConnection edgeId state =>
    .trace { event := "connection", edgeId, message := chars (connectionText state) }
  | onReconnect edgeId => .trace { event := "reconnect", edgeId }
  | onBackpressure edgeId duration rejected =>
    let message := chars (if rejected then "rejected" else "blocked")
    .trace { event := "backpressure", edgeId, latency := duration, message }
  | onProcessing envelope duration success =>
    let message := chars (if success then "ok" else "error")
    .trace { event := "processing", envelope := some envelope, latency := duration, message }
  | onHeartbeat cpuPercent => .trace { event := "heartbeat", cpuPercent }
  | onEdgeTotals edgeId sent packets wireBytes => .edgeTotals edgeId sent packets wireBytes
  | onCapture edgeId envelope direction file packetIndex fileOffset =>
    .capture edgeId envelope direction file packetIndex fileOffset

/-- The text of a callback. -/
def payload (sink : UdpJsonTraceSink) (now : Int64) (c : Call) : Bytes :=
  match c.record with
  | .trace a => sink.emit now a
  | .edgeTotals edgeId sent packets wireBytes => sink.edgeTotals now edgeId sent packets wireBytes
  | .capture edgeId envelope direction file packetIndex fileOffset =>
    sink.capture now edgeId envelope direction file packetIndex fileOffset

/-- The datagram of a callback. -/
def datagram (H : Hmac) (sink : UdpJsonTraceSink) (m : Moment) (c : Call) : Bytes :=
  sink.sign H m (sink.payload m.now c)

end UdpJsonTraceSink

end GraphX
