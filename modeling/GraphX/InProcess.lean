/-
  The in-process transport (`src/in_process_transport.cpp`): two transports over
  one channel.

  The queue of a channel is guarded by its mutex, so that a `push` and a `pop`
  take effect at one moment.  A call is modelled at that moment: a `push` that
  had to wait for room is one that finds room, with the time it waited; one
  that finds none has waited for as long as it was allowed to.  The times are
  read from the list `waits`.
-/
import GraphX.Transport

namespace GraphX

open Imperative

namespace InProcess

inductive ChannelPushStatus where
  | accepted | closed | timedOut | rejected
  deriving DecidableEq

inductive ChannelPopStatus where
  | message | timeout | closed
  deriving DecidableEq

/-- `InProcessChannel` -/
structure Channel where
  queue : List Envelope
  capacity : ℕ
  /-- `InProcessBackpressure::reject` -/
  reject : Bool
  closed : Bool
  /-- how long the next calls of `push` wait, in nanoseconds -/
  waits : List ℕ

/-- `InProcessTransport` -/
structure Transport (σ : Type) where
  edgeId : String
  closed : Bool
  sink : σ

/-- A channel and the transports at its ends. -/
structure Pair (σ τ : Type) where
  channel : Channel
  sender : Transport σ
  receiver : Transport τ
  nowNs : Int64

namespace Channel

def push (c : Channel) (envelope : Envelope) : (ChannelPushStatus × ℕ) × Channel :=
  let wait := c.waits.head?.getD 0
  let c' := { c with waits := c.waits.tail }
  if c.closed then ((.closed, 0), c')
  else if c.capacity ≤ c.queue.length then
    if c.reject then ((.rejected, 0), c') else ((.timedOut, wait), c')
  else ((.accepted, wait), { c' with queue := c.queue ++ [envelope] })

/-- `pop`; `none` when it does not return. -/
def pop (c : Channel) (finite : Bool) : Option ((ChannelPopStatus × Option Envelope) × Channel) :=
  match c.queue with
  | [] =>
    if c.closed then some ((.closed, none), c)
    else if finite then some ((.timeout, none), c)
    else none
  | envelope :: rest => some ((.message, some envelope), { c with queue := rest })

end Channel

variable {σ τ : Type} (sendSink : TraceSink σ) (receiveSink : TraceSink τ)

abbrev Call (σ τ α : Type) := Act (Pair σ τ) Thrown α

/-- A callback of the sender's sink. -/
def observeSend (c : SinkCall) : Call σ τ Unit :=
  notify sendSink (·.sender.sink) (fun s p => { p with sender := { p.sender with sink := s } }) c

/-- A callback of the receiver's sink. -/
def observeReceive (c : SinkCall) : Call σ τ Unit :=
  notify receiveSink (·.receiver.sink)
    (fun s p => { p with receiver := { p.receiver with sink := s } }) c

/-- What `send` throws for a push that was not accepted. -/
def pushError : ChannelPushStatus → String
  | .closed => "in-process channel is closed"
  | .timedOut => "in-process send timed out waiting for channel capacity"
  | .rejected => "in-process channel is full (backpressure=reject)"
  | .accepted => ""

/-- The end of `send`. -/
def sent (edgeId : String) (envelope : Envelope) (wireBytes : ℕ) :
    ChannelPushStatus × ℕ → Call σ τ Unit
  | (.accepted, wait) => do
    Act.onlyIf (wait > 0) (observeSend sendSink (.onBackpressure edgeId wait false))
    observeSend sendSink (.onSend edgeId envelope wireBytes)
  | (status, wait) => do
    let rejected := status == .rejected
    Act.onlyIf (rejected || status == .timedOut)
      (observeSend sendSink (.onBackpressure edgeId wait rejected))
    throw (.std (.runtimeError (pushError status)))

def send (envelope : Envelope) : Call σ τ Unit := do
  let p ← get
  if p.sender.closed then throw (.std (.runtimeError "send on closed in-process transport"))
  else
    match serialize envelope with
    | .error error => throw (.std error)
    | .ok wire =>
      let (result, channel) := p.channel.push envelope
      modify fun p => { p with channel := channel }
      sent sendSink p.sender.edgeId envelope wire.length result

def receiveResult (timeoutMs : Option ℕ) : Call σ τ ReceiveResult := do
  let p ← get
  if p.receiver.closed then pure .cancelled
  else
    match p.channel.pop timeoutMs.isSome with
    | none => Act.block
    | some ((_, some envelope), channel) =>
      modify fun p => { p with channel := channel }
      match serialize envelope with
      | .error error => throw (.std error)
      | .ok wire =>
        observeReceive receiveSink
          (.onReceive p.receiver.edgeId envelope wire.length (latency p.nowNs envelope))
        pure (.ofMessage envelope)
    | some ((.timeout, none), _) => pure .timeout
    | some ((_, none), _) => pure .endOfStream

end InProcess

end GraphX
