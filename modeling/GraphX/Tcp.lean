/-
  The TCP transport (`src/tcp_transport.cpp`) without TLS, as one thread sees
  it between two calls of `close`.

  Every step of the source that reports to the trace sink does so here, at the
  same place, and an exception of the sink takes the path it takes there.
-/
import GraphX.Transport

namespace GraphX

open Imperative

/-! ## Sockets -/

/-- What a `poll`/`recv` round meets.  A chunk of data is never empty: `recv`
    returning 0 means that the peer has shut the connection. -/
inductive RecvEvent where
  | data (byte : UInt8) (bytes : Bytes)
  /-- `EINTR` -/
  | interrupted
  /-- `EAGAIN` or `EWOULDBLOCK` -/
  | wouldBlock
  /-- nothing arrives for longer than any finite timeout -/
  | quiet
  /-- any other error, with the text of the exception -/
  | failed (what : String)
  deriving DecidableEq

structure Socket where
  id : ℕ
  incoming : List RecvEvent
  /-- the peer has shut its side: after the events `recv` returns 0 -/
  ended : Bool
  deriving DecidableEq

/-- The next entry in the queue of a listener. -/
inductive Arrival where
  | connection (socket : Socket)
  | acceptFailed (what : String)
  | setupFailed (what : String)
  deriving DecidableEq

/-- The fate of a `write_all`: how long it was under pressure, and after how
    many bytes it failed, if it did. -/
structure WriteFate where
  pressureNs : ℕ
  failure : Option (ℕ × String)

/-- What the transport does to the network. -/
inductive WireEffect where
  | opened (id : ℕ)
  | wrote (id : ℕ) (bytes : Bytes)
  | shut (id : ℕ)
  deriving DecidableEq

structure Endpoint where
  host : String
  port : UInt16
  deriving DecidableEq

/-- A `TcpTransport`, its sink's state, and the network as it meets it. -/
structure Tcp (σ : Type) where
  socket : Option Socket
  listener : Option (List Arrival)
  closed : Bool
  endpoint : Endpoint
  edgeId : String
  /-- `options_.reconnect` -/
  reconnect : Bool
  /-- `options_.retry.max_attempts` -/
  maxAttempts : ℕ
  outbound : Bool
  everConnected : Bool
  sink : σ
  connects : List (Option String)
  writes : List WriteFate
  opened : ℕ
  wire : List WireEffect
  nowNs : Int64

namespace Tcp

variable {σ : Type} (sink : TraceSink σ)

abbrev Call (σ α : Type) := Act (Tcp σ) Thrown α

/-- A callback of the trace sink. -/
def observe (c : SinkCall) : Call σ Unit := notify sink Tcp.sink (fun s t => { t with sink := s }) c

def context (t : Tcp σ) (action : String) : String :=
  "TCP" ++ (if t.edgeId = "" then "" else " edge '" ++ t.edgeId ++ "'") ++
    " " ++ t.endpoint.host ++ ":" ++ toString t.endpoint.port.toNat ++ " " ++ action

def failure {α : Type} (detail : String) : Call σ α := do
  let t ← get
  observe sink (.onError t.edgeId (t.context detail))
  throw (.std (.runtimeError (t.context detail)))

/-- `close_connection`: shuts the socket; an exception of the sink is dropped. -/
def closeConnection : Call σ Unit := do
  let t ← get
  match t.socket with
  | none => pure ()
  | some s =>
    modify fun t => { t with socket := none, wire := t.wire ++ [.shut s.id] }
    tryCatch (observe sink (.onConnection t.edgeId .disconnected)) fun _ => pure ()

/-! ## Reading -/

inductive ReadStatus where
  | complete | closed | timedOut
  deriving DecidableEq

/-- How the loop of `read_all` ends: with a status and the bytes transferred,
    with an error, or not at all. -/
inductive ReadOutcome where
  | finished (status : ReadStatus) (bytes : Bytes) (rest : List RecvEvent)
  | failed (what : String) (rest : List RecvEvent)
  | waiting (bytes : Bytes)
  deriving DecidableEq

/-- The loop of `read_all`: `got` has been transferred, `wanted` bytes are
    missing. -/
def readLoop (hasDeadline ended : Bool) : List RecvEvent → (wanted : ℕ) → (got : Bytes) → ReadOutcome
  | events, 0, got => .finished .complete got events
  | [], _ + 1, got =>
    if ended then .finished .closed got []
    else if hasDeadline then .finished .timedOut got []
    else .waiting got
  | .interrupted :: events, n + 1, got => readLoop hasDeadline ended events (n + 1) got
  | .wouldBlock :: events, n + 1, got => readLoop hasDeadline ended events (n + 1) got
  | .quiet :: events, n + 1, got =>
    if hasDeadline then .finished .timedOut got events
    else readLoop hasDeadline ended events (n + 1) got
  | .failed what :: events, _ + 1, _ => .failed what events
  | .data b bs :: events, n + 1, got =>
    match bs.drop n with
    | [] => readLoop hasDeadline ended events (n - bs.length) (got ++ b :: bs)
    -- the buffer is full: the rest of the chunk stays in the socket
    | b' :: bs' => .finished .complete (got ++ b :: bs.take n) (.data b' bs' :: events)

def readAll (wanted : ℕ) (hasDeadline : Bool) : Call σ (ReadStatus × Bytes) := do
  let t ← get
  match t.socket with
  -- `poll` ignores a negative descriptor
  | none =>
    if wanted = 0 then pure (.complete, [])
    else if hasDeadline then pure (.timedOut, [])
    else Act.block
  | some s =>
    match readLoop hasDeadline s.ended s.incoming wanted [] with
    | .finished status bytes rest =>
      modify fun t => { t with socket := some { s with incoming := rest } }
      pure (status, bytes)
    | .failed what rest =>
      modify fun t => { t with socket := some { s with incoming := rest } }
      throw (.std (.runtimeError what))
    | .waiting _ => Act.block

/-! ## Receiving -/

/-- `accept_inbound`: whether there is a connection to read from. -/
def acceptInbound (hasDeadline : Bool) : Call σ Bool := do
  let t ← get
  if t.socket.isSome then pure true
  else if t.closed then pure false
  else match t.listener with
  | none => pure false
  | some [] => if hasDeadline then pure false else Act.block
  | some (.acceptFailed what :: rest) =>
    modify fun t => { t with listener := some rest }
    failure sink ("accept failed: " ++ what)
  | some (.setupFailed what :: rest) =>
    modify fun t => { t with listener := some rest }
    failure sink ("accepted socket setup failed: " ++ what)
  | some (.connection s :: rest) =>
    modify fun t => { t with socket := some s, listener := some rest }
    Act.onlyIf t.everConnected (observe sink (.onReconnect t.edgeId))
    modify fun t => { t with everConnected := true }
    observe sink (.onConnection t.edgeId .connected)
    pure true

/-- The part of `receive_result` that reads and decodes the payload. -/
def receiveBody (hasDeadline : Bool) (size : UInt32) : Call σ ReceiveResult := do
  let (status, payload) ← catchStd (readAll size.toNat hasDeadline) fun error => do
    closeConnection sink
    failure sink ("receive payload failed: " ++ error.what)
  match status with
  | .timedOut =>
    closeConnection sink
    failure sink "receive timed out during frame payload"
  | .closed =>
    closeConnection sink
    failure sink "peer closed during frame payload"
  | .complete =>
    match deserialize payload with
    | .error error => failure sink ("malformed envelope: " ++ error.what)
    | .ok envelope =>
      let t ← get
      observe sink (.onReceive t.edgeId envelope (size.toNat + 4) (latency t.nowNs envelope))
      pure (.ofMessage envelope)

/-- A connection that ended between two frames: the loop goes on (`none`) with
    the next connection, or the stream is over. -/
def endOfConnection : Call σ (Option ReceiveResult) := do
  let t ← get
  if !t.outbound && t.reconnect then pure none
  else
    modify fun t => if t.outbound then t else { t with listener := none }
    pure (some .endOfStream)

def receiveFrame (hasDeadline : Bool) : Call σ (Option ReceiveResult) := do
  let (status, header) ← catchStd (readAll 4 hasDeadline) fun error => do
    closeConnection sink
    failure sink ("receive header failed: " ++ error.what)
  match status with
  | .timedOut =>
    if header.length = 0 then pure (some .timeout)
    else
      closeConnection sink
      failure sink "receive timed out during frame header"
  | .closed =>
    closeConnection sink
    if header.length ≠ 0 then failure sink "peer closed during frame header"
    else endOfConnection
  | .complete =>
    match decodeFrameSize header with
    | .error error =>
      closeConnection sink
      failure sink ("invalid frame header: " ++ error.what)
    | .ok size =>
      let result ← receiveBody sink hasDeadline size
      pure (some result)

/-- One turn of the loop of `receive_result`; `none` is its `continue`. -/
def receiveTurn (hasDeadline : Bool) : Call σ (Option ReceiveResult) := do
  let t ← get
  if t.closed then pure (some .cancelled)
  else
    let connected ← acceptInbound sink hasDeadline
    if connected then receiveFrame sink hasDeadline else pure (some .timeout)

def receiveLoop (hasDeadline : Bool) : ℕ → Call σ ReceiveResult
  | 0 => Act.block
  | turns + 1 => do
    match ← receiveTurn sink hasDeadline with
    | some result => pure result
    | none => receiveLoop hasDeadline turns

/-- The connections a call of `receive_result` can use up. -/
def pending (t : Tcp σ) : ℕ := t.socket.toList.length + (t.listener.getD []).length

/-- `receive_result`; a timeout of `none` is unlimited.  Each `continue` uses
    up a connection, so the bound on the turns is never met
    (`receiveLoop_turns`). -/
def receiveResult (timeoutMs : Option ℕ) : Call σ ReceiveResult := do
  let t ← get
  receiveLoop sink timeoutMs.isSome (t.pending + 1)

/-! ## Sending -/

/-- `connect_once` and `write_all`: the next fate of each. -/
def connectOnce : Call σ Unit := do
  let t ← get
  modify fun t => { t with connects := t.connects.tail }
  match t.connects.head?.join with
  | some what => throw (.std (.runtimeError what))
  | none =>
    modify fun t => { t with
      socket := some ⟨t.opened, [], false⟩
      opened := t.opened + 1
      wire := t.wire ++ [.opened t.opened] }

def writeAll (id : ℕ) (bytes : Bytes) : Call σ ℕ := do
  let t ← get
  let fate := t.writes.head?.getD ⟨0, none⟩
  modify fun t => { t with writes := t.writes.tail }
  match fate.failure with
  | some (sent, what) =>
    modify fun t => { t with wire := t.wire ++ [.wrote id (bytes.take sent)] }
    throw (.std (.runtimeError what))
  | none =>
    modify fun t => { t with wire := t.wire ++ [.wrote id bytes] }
    pure fate.pressureNs

/-- One attempt of `connect_outbound`. -/
def connectAttempt : Call σ Unit := do
  let t ← get
  observe sink (.onConnection t.edgeId .connecting)
  connectOnce
  Act.onlyIf t.everConnected (observe sink (.onReconnect t.edgeId))
  modify fun t => { t with everConnected := true }
  observe sink (.onConnection t.edgeId .connected)

/-- An attempt of `connect_outbound` that failed. -/
def connectFailed (attempt : ℕ) (error : Exn) : Call σ Unit := do
  let t ← get
  observe sink (.onError t.edgeId
    (t.context ("connect attempt " ++ toString attempt ++ " failed: " ++ error.what)))

/-- The attempts of `connect_outbound`: `attempt` is the next one, and `left`
    more may follow it. -/
def connectLoop (attempts : ℕ) : (left attempt : ℕ) → Call σ Unit
  | 0, attempt => catchStd (connectAttempt sink) fun error => do
    connectFailed sink attempt error
    let t ← get
    throw (.std (.runtimeError (t.context
      ("connect failed after " ++ toString attempts ++ " attempt(s): " ++ error.what))))
  | left + 1, attempt => catchStd (connectAttempt sink) fun error => do
    connectFailed sink attempt error
    connectLoop attempts left (attempt + 1)

def connectOutbound : Call σ Unit := do
  let t ← get
  let attempts := max 1 t.maxAttempts
  if t.closed then throw (.std (.runtimeError (t.context "connection cancelled")))
  else connectLoop sink attempts (attempts - 1) 1

/-- The body of the `try` of `send`. -/
def sendAttempt (envelope : Envelope) (framed : Bytes) : Call σ Unit := do
  let t ← get
  Act.onlyIf t.socket.isNone
    (if t.outbound then connectOutbound sink else throw (.std (.runtimeError "no accepted peer")))
  let t ← get
  let pressure ← writeAll ((t.socket.map Socket.id).getD 0) framed
  Act.onlyIf (pressure > 0) (observe sink (.onBackpressure t.edgeId pressure false))
  observe sink (.onSend t.edgeId envelope framed.length)

/-- An attempt of `send` that failed. -/
def sendFailed (error : Exn) : Call σ Unit := do
  let t ← get
  observe sink (.onError t.edgeId (t.context ("send failed: " ++ error.what)))
  closeConnection sink

def sendLoop (envelope : Envelope) (framed : Bytes) : (left : ℕ) → Call σ Unit
  | 0 => catchStd (sendAttempt sink envelope framed) fun error => do
    sendFailed sink error
    let t ← get
    throw (.std (.runtimeError (t.context ("send failed: " ++ error.what))))
  | left + 1 => catchStd (sendAttempt sink envelope framed) fun error => do
    sendFailed sink error
    sendLoop envelope framed left

def send (envelope : Envelope) : Call σ Unit := do
  let t ← get
  if t.closed then throw (.std (.runtimeError (t.context "send on closed transport")))
  else
    match serialize envelope >>= frame with
    | .error error => throw (.std error)
    | .ok framed => sendLoop sink envelope framed (if t.outbound && t.reconnect then 1 else 0)

end Tcp

end GraphX
