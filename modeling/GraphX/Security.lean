/-
  The collector's checks (`apps/telemetry/security.mjs`): signed envelopes, the
  cache of nonces, and the form of the events.

  The values are those of `JSON.parse`, strings are texts of UTF-16 code units,
  and times are milliseconds.  `null` is the value `.null`.
-/
import GraphX.Telemetry

namespace GraphX

open Ecma

def maxClockSkewMs : ℤ := 30000

/-! ## Signatures -/

def isLowerHex (u : UInt16) : Bool := isDigit u || (unit 'a' ≤ u && u ≤ unit 'f')

/-- `/^[a-f0-9]\x7bn\x7d$/` -/
def lowerHex (n : ℕ) (s : Text) : Bool := s.length = n && s.all isLowerHex

/-- `Buffer.from(s, 'hex')` -/
def hexBuffer : Text → Bytes
  | high :: low :: rest =>
    match Ecma.hexValue high, Ecma.hexValue low with
    | some h, some l => (h <<< 4 ||| l).toUInt8 :: hexBuffer rest
    | _, _ => []
  | _ => []

def signedText (payload : Json) (timestamp : Number) (nonce : Text) : Text :=
  timestamp.print ++ unit '.' :: (nonce ++ unit '.' :: stringify payload)

/-- `createHmac('sha256', secret).update(text).digest()` -/
def createHmac (H : Hmac) (secret text : Text) : Bytes := H.digest (encode secret) (encode text)

/-- A signed value; without a secret the payload itself. -/
def signEnvelope (H : Hmac) (payload : Json) (secret : Text) (timestamp : Number) (nonce : Text) :
    Json :=
  if secret = [] then payload
  else
    let signature := widen (hexText (createHmac H secret (signedText payload timestamp nonce)))
    .obj [(text "payload", payload), (text "auth", .obj [(text "timestamp", .num timestamp),
      (text "nonce", .str nonce), (text "signature", .str signature)])]

/-! ## Replays -/

/-- The nonces that were accepted and when, in the order of the `Map`. -/
structure ReplayCache where
  maxEntries : ℕ
  ttlMs : ℤ
  values : List (Text × ℤ)
  maxEntries_pos : 0 < maxEntries

namespace ReplayCache

/-- `new ReplayCache()` -/
def new : ReplayCache := ⟨4096, maxClockSkewMs * 2, [], by decide⟩

/-- The entries that are not too old. -/
def fresh (cache : ReplayCache) (now : ℤ) : List (Text × ℤ) :=
  cache.values.filter fun entry => !decide (now - entry.2 > cache.ttlMs)

/-- Deletes the oldest entries while there are `maxEntries` or more. -/
def evict (maxEntries : ℕ) : List (Text × ℤ) → List (Text × ℤ)
  | [] => []
  | entry :: values =>
    if (entry :: values).length ≥ maxEntries then evict maxEntries values else entry :: values

def accept (cache : ReplayCache) (nonce : Text) (now : ℤ) : Bool × ReplayCache :=
  let values := cache.fresh now
  if values.any (·.1 = nonce) then (false, { cache with values })
  else (true, { cache with values := evict cache.maxEntries values ++ [(nonce, now)] })

end ReplayCache

/-! ## Verification -/

/-- The fields of `auth`, if they have the form they should have. -/
structure Auth where
  timestamp : Number
  nonce : Text
  signature : Text

def Auth.ofJson (auth : Json) : Option Auth :=
  match auth.get (text "timestamp"), auth.get (text "nonce"), auth.get (text "signature") with
  | some (.num timestamp), some (.str nonce), some (.str signature) =>
    if lowerHex 32 nonce && lowerHex 64 signature then some ⟨timestamp, nonce, signature⟩ else none
  | _, _, _ => none

/-- Whether `auth` was made for the payload with the secret, at about `now`. -/
def Auth.valid (H : Hmac) (auth : Auth) (payload : Json) (secret : Text) (now : ℤ) : Bool :=
  match auth.timestamp.safeInteger with
  | none => false
  | some timestamp =>
    !decide (|now - timestamp| > maxClockSkewMs) &&
      createHmac H secret (signedText payload auth.timestamp auth.nonce) = hexBuffer auth.signature

def verifyEnvelope (H : Hmac) (value : Json) (secret : Text) (replayCache : ReplayCache) (now : ℤ) :
    Json × ReplayCache :=
  if secret = [] then
    (if truthy (value.get (text "payload")) && truthy (value.get (text "auth")) then .null else value,
      replayCache)
  else
    match value.get (text "payload"), value.get (text "auth") with
    | some payload, some auth =>
      match Auth.ofJson auth with
      | none => (.null, replayCache)
      | some a =>
        if truthy (some payload) && a.valid H payload secret now then
          let (accepted, replayCache) := replayCache.accept a.nonce now
          (if accepted then payload else .null, replayCache)
        else (.null, replayCache)
    | _, _ => (.null, replayCache)

/-- `verifyEnvelope(JSON.parse(data.toString('utf8')), …)`; a `SyntaxError` ends
    the handler. -/
def verifyDatagram (H : Hmac) (data : Bytes) (secret : Text) (replayCache : ReplayCache) (now : ℤ) :
    Json × ReplayCache :=
  match parse (decode data) with
  | none => (.null, replayCache)
  | some value => verifyEnvelope H value secret replayCache now

/-! ## Events -/

/-- `value == null` -/
def isNull : Option Json → Bool
  | none | some .null => true
  | some _ => false

/-- A string with the property. -/
def stringWhere (p : Text → Bool) : Option Json → Bool
  | some (.str s) => p s
  | _ => false

/-- `names.includes(value)` -/
def oneOf (names : List String) : Option Json → Bool := stringWhere fun s => names.any (text · = s)

/-- A number with `Number.isFinite` and the property. -/
def numberWhere (p : ℚ → Bool) : Option Json → Bool
  | some (.num (.finite q)) => p q
  | _ => false

/-- A number with `Number.isSafeInteger` and the property. -/
def integerWhere (p : ℤ → Bool) : Option Json → Bool
  | some (.num n) => n.safeInteger.any p
  | _ => false

def identities (value : Option Json) : Bool := isNull value || stringWhere (·.length ≤ 128) value

def boundedText (value : Option Json) (maximum : ℕ) : Bool :=
  isNull value || stringWhere (·.length ≤ maximum) value

/-- The default bound is `Number.MAX_SAFE_INTEGER`. -/
def boundedNumber (value : Option Json) (maximum : ℚ := 2 ^ 53 - 1) : Bool :=
  isNull value || numberWhere (fun q => 0 ≤ q && q ≤ maximum) value

/-- One class of characters after the other. -/
def matchesClasses (classes : List (UInt16 → Bool)) (s : Text) : Bool :=
  s.length = classes.length && (List.zipWith (fun c u => c u) classes s).all id

def isDash (u : UInt16) : Bool := u = unit '-'

def isHex (u : UInt16) : Bool := isLowerHex u || (unit 'A' ≤ u && u ≤ unit 'F')

/-- The classes of
    `/^[0-9a-f]{8}-[0-9a-f]{4}-[1-5][0-9a-f]{3}-[89ab][0-9a-f]{3}-[0-9a-f]{12}$/i`. -/
def commandIdClasses : List (UInt16 → Bool) :=
  List.replicate 8 isHex ++ isDash :: (List.replicate 4 isHex ++
    isDash :: (fun u => unit '1' ≤ u && u ≤ unit '5') :: (List.replicate 3 isHex ++
    isDash :: (fun u => (text "89abAB").contains u) :: (List.replicate 3 isHex ++
    isDash :: List.replicate 12 isHex)))

def isLetter (u : UInt16) : Bool := (unit 'A' ≤ u && u ≤ unit 'Z') || (unit 'a' ≤ u && u ≤ unit 'z')

def isWord (u : UInt16) : Bool := isLetter u || isDigit u || u = unit '_' || u = unit '-'

/-- `/^[A-Za-z][A-Za-z0-9_-]\x7b0,63\x7d$/` -/
def isIdentifier : Text → Bool
  | [] => false
  | u :: s => isLetter u && s.all isWord && s.length ≤ 63

/-- `/^[A-Za-z][A-Za-z0-9_-]\x7b0,63\x7d\.pcapng$/` -/
def isCaptureFile (s : Text) : Bool :=
  (text ".pcapng").isSuffixOf s && isIdentifier (s.take (s.length - 7))

def packetOnlyKeys : List String :=
  ["protocol", "sourceAddress", "destinationAddress", "sourcePort", "destinationPort",
    "observationSource"]

def edgeTotalKeys : List String :=
  ["kind", "event", "nodeId", "edgeId", "timestamp", "sessionId", "direction", "packets",
    "wireBytes"]

def events : List String :=
  ["send", "receive", "error", "connection", "reconnect", "backpressure", "drop", "processing",
    "heartbeat", "frame"]

def connectionStates : List String :=
  ["disconnected", "connecting", "listening", "connected", "closed", "error"]

section validation

variable (get : String → Option Json)

def validEdgeTotals (ms : List (Text × Json)) (edgeIds : List Text) : Bool :=
  ms.all (fun m => edgeTotalKeys.any (text · = m.1)) && oneOf ["totals"] (get "event") &&
    stringWhere (· ∈ edgeIds) (get "edgeId") && oneOf ["sent", "received"] (get "direction") &&
    stringWhere (lowerHex 32) (get "sessionId") &&
    ["timestamp", "packets", "wireBytes"].all fun k => integerWhere (0 ≤ ·) (get k)

def validControlAck : Bool :=
  oneOf ["pause", "resume"] (get "action") &&
    (match get "accepted" with
      | some (.bool _) => true
      | _ => false) &&
    stringWhere (matchesClasses commandIdClasses) (get "commandId") &&
    (isNull (get "state") || oneOf ["paused", "running"] (get "state")) &&
    boundedText (get "error") 256

/-- What the events about messages have in common. -/
def validMessage (edgeIds : List Text) : Bool :=
  oneOf events (get "event") && boundedNumber (get "timestamp") && boundedNumber (get "sequence") &&
    boundedNumber (get "wireBytes") (64 * 1024 * 1024) &&
    boundedNumber (get "latencyUs") (24 * 60 * 60 * 1000000) &&
    boundedNumber (get "cpuPercent") 1000 && identities (get "messageId") &&
    identities (get "parentMessageId") && identities (get "traceId") &&
    boundedText (get "spanId") 32 && boundedText (get "type") 128 &&
    boundedText (get "message") 256 && boundedNumber (get "wireVersion") 255 &&
    boundedNumber (get "payloadBytes") (64 * 1024 * 1024) &&
    (!truthy (get "edgeId") || stringWhere (· ∈ edgeIds) (get "edgeId"))

def validNetworkPacket : Bool :=
  oneOf ["receive"] (get "event") && oneOf ["TCP", "UDP"] (get "protocol") &&
    stringWhere (·.length ≤ 45) (get "sourceAddress") &&
    stringWhere (·.length ≤ 45) (get "destinationAddress") &&
    integerWhere (fun n => 0 ≤ n && n ≤ 65535) (get "sourcePort") &&
    integerWhere (fun n => 0 ≤ n && n ≤ 65535) (get "destinationPort") &&
    oneOf ["qemu-pcap", "ethernet-pcap", "ovs-span"] (get "observationSource") &&
    oneOf ["observed"] (get "direction")

def validCapture : Bool :=
  oneOf ["frame"] (get "event") && stringWhere isCaptureFile (get "captureFile") &&
    oneOf ["sent", "received"] (get "direction") && boundedNumber (get "capturePacket") &&
    boundedNumber (get "captureOffset")

def validTrace : Bool :=
  if oneOf ["connection"] (get "event") then oneOf connectionStates (get "message")
  else if oneOf ["backpressure"] (get "event") then oneOf ["blocked", "rejected"] (get "message")
  else if oneOf ["processing"] (get "event") then oneOf ["ok", "error"] (get "message")
  else oneOf ["error"] (get "event") || isNull (get "message")

end validation

def validateTelemetryEvent (event : Json) (nodeIds edgeIds : List Text) : Bool :=
  match event with
  | .obj ms =>
    let get (k : String) := event.get (text k)
    let kind (k : String) := oneOf [k] (get "kind")
    if !oneOf ["trace", "capture", "control_ack", "network_packet", "edge_totals"] (get "kind") ||
        !stringWhere (· ∈ nodeIds) (get "nodeId") then false
    else if !kind "network_packet" && packetOnlyKeys.any (fun k => (get k).isSome) then false
    else if kind "edge_totals" then validEdgeTotals get ms edgeIds
    else if kind "control_ack" then validControlAck get
    else if !validMessage get edgeIds then false
    else if kind "network_packet" then validNetworkPacket get
    else if kind "capture" then validCapture get
    else validTrace get
  | _ => false

def controlAckErrorCodes : List String :=
  ["busy", "invalid-state", "policy-denied", "runtime-error", "unsupported-action"]

/-- An acknowledgement keeps its error only if it was rejected, and then as one of
    the codes. -/
def sanitizeControlAcknowledgement (event : Json) : Json :=
  match event with
  | .obj ms =>
    if !oneOf ["control_ack"] (event.get (text "kind")) then event
    else
      match event.get (text "accepted"), event.get (text "error") with
      | some (.bool true), _ | _, none | _, some .null => .obj (ms.filter (·.1 ≠ text "error"))
      | _, some error =>
        let error : Json :=
          if oneOf controlAckErrorCodes (some error) then error else .str (text "runtime-rejected")
        .obj (ms.map fun m => if m.1 = text "error" then (m.1, error) else m)
  | _ => event

/-! ## Digits -/

theorem lowerHex_hexText {bytes : Bytes} {n : ℕ} (h : 2 * bytes.length = n) :
    lowerHex n (widen (hexText bytes)) = true := by
  have hdigits : ∀ b : UInt8, (widen (Reader.hexDigits b)).length = 2 ∧
      (widen (Reader.hexDigits b)).all isLowerHex = true := forall_byte (by decide)
  induction bytes generalizing n with
  | nil => subst h; rfl
  | cons b bytes ih =>
    obtain ⟨hlen, hall⟩ := hdigits b
    have hrest := ih rfl
    simp only [lowerHex, Bool.and_eq_true, decide_eq_true_eq] at hrest ⊢
    have heq : widen (hexText (b :: bytes)) = widen (Reader.hexDigits b) ++ widen (hexText bytes) := by
      simp [hexText]
    rw [heq, List.length_append, List.all_append, hall, hrest.2]
    simp only [List.length_cons] at h
    exact ⟨by omega, rfl⟩

theorem hexBuffer_hexText (bytes : Bytes) : hexBuffer (widen (hexText bytes)) = bytes := by
  have hbytes : ∀ b : UInt8, ((b >>> 4).toUInt16 <<< 4 ||| (b &&& 0x0f).toUInt16).toUInt8 = b :=
    forall_byte (by decide)
  induction bytes with
  | nil => rfl
  | cons b bytes ih =>
    obtain ⟨hhigh, hlow⟩ := hexValue_hexDigits b
    have heq : widen (hexText (b :: bytes)) = (hexDigit (b >>> 4)).toUInt16 ::
        (hexDigit (b &&& 0x0f)).toUInt16 :: widen (hexText bytes) := rfl
    rw [heq, hexBuffer, hhigh, hlow]
    simp only [hbytes, ih]

/-! ## What is accepted -/

theorem ReplayCache.accept_new {cache : ReplayCache} {nonce : Text}
    (h : ∀ entry ∈ cache.values, entry.1 ≠ nonce) (now : ℤ) : (cache.accept nonce now).1 = true := by
  have hany : (cache.fresh now).any (·.1 = nonce) = false := by
    rw [List.any_eq_false]
    intro entry hentry
    simpa using h entry (List.mem_of_mem_filter hentry)
  simp [accept, hany]

end GraphX
