/-
  The calls of the shared-memory transport, one at a time, with what they report
  to the trace sinks.

  The small steps of `SharedMemory` say how calls interleave; here a call is
  modelled at the moment its critical section takes effect, between two live
  processes, and with all its callbacks.  A send that had to wait for room is
  one that finds room, with the time it waited; the times are read from the
  list `waits`.
-/
import GraphX.SharedMemorySafety

namespace GraphX

open Imperative List

namespace SharedMemory

/-- What a process keeps for itself (`SharedMemoryTransport::Impl`). -/
structure Peer (σ : Type) where
  edgeId : String
  segment : String
  locallyClosed : Bool
  sink : σ

structure Pair (σ τ : Type) where
  shared : Shared
  producer : Peer σ
  consumer : Peer τ
  /-- how long the next sends wait for room, in nanoseconds, if they do -/
  waits : List (Option ℕ)
  nowNs : Int64

def Peer.context {σ : Type} (p : Peer σ) (action : String) : String :=
  "shared memory" ++ (if p.edgeId = "" then "" else " edge '" ++ p.edgeId ++ "'") ++
    " segment '" ++ p.segment ++ "' " ++ action

variable {σ τ : Type} (opts : Options) (sendSink : TraceSink σ) (receiveSink : TraceSink τ)

abbrev Call (σ τ α : Type) := Act (Pair σ τ) Thrown α

/-- A callback of the producer's sink. -/
def observeSend (c : SinkCall) : Call σ τ Unit :=
  notify sendSink (·.producer.sink)
    (fun s p => { p with producer := { p.producer with sink := s } }) c

/-- A callback of the consumer's sink. -/
def observeReceive (c : SinkCall) : Call σ τ Unit :=
  notify receiveSink (·.consumer.sink)
    (fun s p => { p with consumer := { p.consumer with sink := s } }) c

def failSend {α : Type} (detail : String) : Call σ τ α := do
  let p ← get
  observeSend sendSink (.onError p.producer.edgeId (p.producer.context detail))
  throw (.std (.runtimeError (p.producer.context detail)))

def failReceive {α : Type} (detail : String) : Call σ τ α := do
  let p ← get
  observeReceive receiveSink (.onError p.consumer.edgeId (p.consumer.context detail))
  throw (.std (.runtimeError (p.consumer.context detail)))

/-- The `memcpy` of a frame into the slot of the head, from the `k`-th byte on. -/
def Shared.storeData (m : Shared) (k : ℕ) : Bytes → Shared
  | [] => m
  | byte :: bytes => (m.storeByte opts k byte).storeData (k + 1) bytes

/-- The frame is put into its slot and the head advanced. -/
def Shared.put (m : Shared) (framed : Bytes) : Shared :=
  ((m.storeLength opts (UInt32.ofNat framed.length)).storeData opts 0 framed).publish

/-- `send` from the test for room on. -/
def sendFramed (envelope : Envelope) (framed : Bytes) : Call σ τ Unit := do
  let p ← get
  modify fun p => { p with waits := p.waits.tail }
  if p.shared.isFull opts then
    Act.onlyIf opts.reject (observeSend sendSink (.onBackpressure p.producer.edgeId 0 true))
    failSend sendSink (if opts.reject then "ring is full (backpressure=reject)"
      else "send timed out waiting for ring capacity")
  else
    modify fun p => { p with shared := p.shared.put opts framed }
    let waited := p.waits.head?.join
    Act.onlyIf waited.isSome
      (observeSend sendSink (.onBackpressure p.producer.edgeId (waited.getD 0) false))
    observeSend sendSink (.onSend p.producer.edgeId envelope framed.length)

def send (envelope : Envelope) : Call σ τ Unit := do
  let p ← get
  if p.producer.locallyClosed then
    throw (.std (.runtimeError "send on closed shared memory"))
  else
    match serialize envelope >>= frame with
    | .error error => throw (.std error)
    | .ok framed =>
      if opts.maxMessageBytes < framed.length then
        failSend sendSink "frame exceeds configured maximum message size"
      else if p.shared.closed then failSend sendSink "send on closed channel"
      else if !p.shared.consumerClaimed then
        modify fun p => { p with shared := p.shared.close }
        failSend sendSink "consumer process is no longer alive"
      else sendFramed opts sendSink envelope framed

/-- `receive_result` from the unlocking on. -/
def receiveFramed (framed : Bytes) : Call σ τ ReceiveResult := do
  let p ← get
  match decodeFrameSize (framed.take 4) with
  | .error error => failReceive receiveSink ("invalid frame prefix: " ++ error.what)
  | .ok size =>
    if size.toNat ≠ framed.length - 4 then
      failReceive receiveSink "ring slot frame length does not match prefix"
    else
      match deserialize (framed.drop 4) with
      | .error error => failReceive receiveSink ("malformed envelope: " ++ error.what)
      | .ok envelope =>
        observeReceive receiveSink
          (.onReceive p.consumer.edgeId envelope framed.length (latency p.nowNs envelope))
        pure (.ofMessage envelope)

def receiveResult (timeoutMs : Option ℕ) : Call σ τ ReceiveResult := do
  let p ← get
  if p.consumer.locallyClosed then pure .cancelled
  else if p.shared.isEmpty then
    if p.shared.closed then pure .endOfStream
    else if timeoutMs.isSome then pure .timeout
    else Act.block
  else
    match p.shared.load opts with
    | none =>
      modify fun p => { p with shared := p.shared.close }
      failReceive receiveSink "ring slot contains an invalid frame length"
    | some framed =>
      modify fun p => { p with shared := p.shared.advance }
      receiveFramed receiveSink framed

/-! ## Calls and small steps -/

section refinement

open Ipc

variable {opts : Options} {s : Ipc}

/-- What a send of a frame does to the segment. -/
def sendEffect (opts : Options) (m : Shared) (framed : Bytes) : Shared :=
  if m.closed then m
  else if !m.consumerClaimed then m.close
  else if m.isFull opts then m
  else m.put opts framed

section keeps
variable {β : Type} {part : Pair σ τ → β}

/-- A part of the world without the producer's sink. -/
def SinkFree (part : Pair σ τ → β) : Prop :=
  ∀ s p, part { p with producer := { p.producer with sink := s } } = part p

theorem keeps_observeSend (hpart : SinkFree part) (c : SinkCall) :
    Act.Keeps part (observeSend sendSink c) :=
  keeps_notify hpart c

theorem keeps_failSend {α : Type} (hpart : SinkFree part) (detail : String) :
    Act.Keeps part (failSend sendSink detail : Call σ τ α) :=
  .get_bind fun _ => .bind (keeps_observeSend sendSink hpart _) fun _ => .throw _

theorem keeps_rejected {α : Type} (hpart : SinkFree part) (b : Bool) (c : SinkCall) (detail : String) :
    Act.Keeps part (Act.onlyIf b (observeSend sendSink c) >>= fun _ => failSend sendSink detail :
      Call σ τ α) :=
  .bind (.onlyIf (keeps_observeSend sendSink hpart c)) fun _ => keeps_failSend sendSink hpart detail

theorem keeps_sent (hpart : SinkFree part) (b : Bool) (c d : SinkCall) :
    Act.Keeps part (Act.onlyIf b (observeSend sendSink c) >>= fun _ => observeSend sendSink d) :=
  .bind (.onlyIf (keeps_observeSend sendSink hpart c)) fun _ => keeps_observeSend sendSink hpart d

end keeps

theorem sinkFree_shared : SinkFree (Pair.shared : Pair σ τ → Shared) := fun _ _ => rfl

theorem sendFramed_shared (e : Envelope) (framed : Bytes) (p : Pair σ τ) :
    ((sendFramed opts sendSink e framed).run p).world.shared =
      if p.shared.isFull opts then p.shared else p.shared.put opts framed := by
  unfold sendFramed
  simp only [Act.run_get_bind]
  split_ifs
  · exact (keeps_rejected sendSink sinkFree_shared _ _ _).world { p with waits := p.waits.tail }
  · exact (keeps_rejected sendSink sinkFree_shared _ _ _).world { p with waits := p.waits.tail }
  · exact (keeps_sent sendSink sinkFree_shared _ _ _).world
      { p with waits := p.waits.tail, shared := p.shared.put opts framed }

variable {framed : Bytes} {p : Pair σ τ}

/-- **A send does this to the segment, whatever the sink does.** -/
theorem send_shared {e : Envelope} (henc : encode opts e = some framed)
    (hl : p.producer.locallyClosed = false) :
    ((send opts sendSink e).run p).world.shared = sendEffect opts p.shared framed := by
  obtain ⟨body, hb, hf, hle⟩ := encode_eq_some.1 henc
  have hframe : (serialize e >>= frame) = .ok framed := by rw [hb]; exact hf
  simp only [send, Act.run_get_bind, hl, hframe, not_lt.2 hle, sendEffect, Bool.false_eq_true,
    if_false]
  split_ifs with hc hk
  · exact (keeps_failSend sendSink sinkFree_shared _).world p
  · exact (keeps_failSend sendSink sinkFree_shared _).world { p with shared := p.shared.close }
  · rename_i hfull
    rw [sendFramed_shared, if_pos hfull]
  · rename_i hfull
    rw [sendFramed_shared, if_neg hfull]

theorem exec_storeData (hint : Hint) {m : Message} {k : ℕ} {bytes : Bytes}
    (hb : m.framed.drop k = bytes) (hs : s.send = .storeData m k)
    (ha : s.alive .producer = true) :
    exec opts s (replicate (bytes.length + 1) (.run .sender hint)) = some { s with
      shared := s.shared.storeData opts k bytes
      send := .publish m } := by
  induction bytes generalizing s k with
  | nil =>
    have hk : m.framed[k]? = none := by
      rw [getElem?_eq_none_iff]
      exact drop_eq_nil_iff.1 hb
    simp [exec, step, ha, Thread.side, stepSend, hs, hk, Shared.storeData]
  | cons byte bytes ih =>
    have hk : m.framed[k]? = some byte := by
      rw [← head?_drop, hb, head?_cons]
    have hb' : m.framed.drop (k + 1) = bytes := by
      rw [← drop_drop, hb, drop_one, tail_cons]
    have hstep : s.step opts (.run .sender hint) = some { s with
        shared := s.shared.storeByte opts k byte
        send := .storeData m (k + 1) } := by
      simp [step, ha, Thread.side, stepSend, hs, hk]
    rw [replicate_succ, exec, hstep]
    exact ih hb' rfl ha

end refinement

end SharedMemory

end GraphX
