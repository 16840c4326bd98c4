/-
  The shared-memory transport (`src/shared_memory_transport.cpp`): one producer
  process and one consumer process over a ring of slots in a mapped segment,
  with a robust process-shared mutex.

  What time and scheduling decide is the `Hint` of a step: whether a deadline
  has passed, whether a wait failed, and whether `kill(pid, 0)` still finds a
  dead process.  A wait may end at any time.

  `published`, `results`, `taken` and `recoveries` record the history; no step
  reads them.
-/
import GraphX.Transport

namespace GraphX.SharedMemory

/-! ## The segment -/

structure Options where
  capacity : ℕ
  maxMessageBytes : ℕ
  /-- `SharedMemoryBackpressure::reject` -/
  reject : Bool
  capacity_pos : 0 < capacity
  capacity_le : capacity ≤ 65536
  le_max : 64 ≤ maxMessageBytes
  max_le : maxMessageBytes ≤ kMaxFrameBytes + 4

structure Slot where
  length : UInt32
  data : ℕ → UInt8

/-- The part of `SharedHeader` that changes, and the slots.  A process id is
    either zero or that of the one process of its role. -/
structure Shared where
  head : UInt64
  tail : UInt64
  recoveryCount : UInt64
  producerClaimed : Bool
  consumerClaimed : Bool
  closed : Bool
  slots : ℕ → Slot

variable (opts : Options)

namespace Shared

def slotIndex (sequence : UInt64) : ℕ := sequence.toNat % opts.capacity

def isEmpty (m : Shared) : Bool := m.head == m.tail

def isFull (m : Shared) : Bool := opts.capacity ≤ (m.head - m.tail).toNat

def slot (m : Shared) : Slot := m.slots (slotIndex opts m.head)

def setSlot (m : Shared) (slot : Slot) : Shared :=
  { m with slots := Function.update m.slots (slotIndex opts m.head) slot }

def storeLength (m : Shared) (length : UInt32) : Shared :=
  m.setSlot opts ⟨length, (m.slot opts).data⟩

def storeByte (m : Shared) (k : ℕ) (byte : UInt8) : Shared :=
  m.setSlot opts ⟨(m.slot opts).length, Function.update (m.slot opts).data k byte⟩

def publish (m : Shared) : Shared := { m with head := m.head + 1 }

/-- The frame in the slot of the tail, unless its length is invalid. -/
def load (m : Shared) : Option Bytes :=
  let slot := m.slots (slotIndex opts m.tail)
  if slot.length < 4 || opts.maxMessageBytes < slot.length.toNat then none
  else some ((List.range slot.length.toNat).map slot.data)

def advance (m : Shared) : Shared := { m with tail := m.tail + 1 }

def close (m : Shared) : Shared := { m with closed := true }

end Shared

/-- What a receive makes of the frame it copied out; `none` is an error. -/
def decode (framed : Bytes) : Option Envelope :=
  match decodeFrameSize (framed.take 4) with
  | .error _ => none
  | .ok size =>
    if size.toNat ≠ framed.length - 4 then none
    else (deserialize (framed.drop 4)).toOption

/-- The frame a send stores, unless the envelope or its frame is refused. -/
def encode (e : Envelope) : Option Bytes :=
  match serialize e >>= frame with
  | .error _ => none
  | .ok framed => if opts.maxMessageBytes < framed.length then none else some framed

/-! ## Threads -/

inductive Side where
  | producer | consumer
  deriving DecidableEq

inductive Thread where
  | sender | receiver
  | closer (side : Side)
  deriving DecidableEq

def Thread.side : Thread → Side
  | sender => .producer
  | receiver => .consumer
  | closer side => side

inductive Mutex where
  | free
  | held (thread : Thread)
  /-- the owner died -/
  | abandoned
  deriving DecidableEq

/-- The stores of `lock_header` and `wait_condition` on `EOWNERDEAD`. -/
inductive Recovery where
  | close | drop | count | consistent
  deriving DecidableEq

structure Message where
  envelope : Envelope
  framed : Bytes

/-- Where a thread is in `send`. -/
inductive SendPc where
  | idle
  | lock (m : Message)
  | recover (stage : Recovery)
  /-- the tests after locking -/
  | check (m : Message)
  /-- the consumer is gone: `closed = true` -/
  | closeDead
  /-- the condition of the loop -/
  | full (m : Message)
  | wait (m : Message)
  /-- the tests after a wait -/
  | woken (m : Message)
  | storeLength (m : Message)
  | storeData (m : Message) (done : ℕ)
  | publish (m : Message)
  | unlock

/-- What a receive does after it has unlocked. -/
inductive Outcome where
  | result (r : ReceiveResult)
  | failed
  | decode (framed : Bytes)

/-- Where a thread is in `receive_result`. -/
inductive ReceivePc where
  | idle
  | lock
  | recover (stage : Recovery)
  /-- the condition of the loop, and the tests in its body -/
  | empty
  /-- the producer is gone: `closed = true` -/
  | closeDead
  | wait
  | load
  /-- the slot is invalid: `closed = true` -/
  | closeInvalid
  | advance (framed : Bytes)
  | unlock (outcome : Outcome)
  | decode (framed : Bytes)

/-- Where a thread is in `request_close`. -/
inductive ClosePc where
  | idle
  | lock
  | consistent
  | storeClosed
  | storePid
  | unlock
  deriving DecidableEq

/-- Both processes. -/
structure Ipc where
  shared : Shared
  mutex : Mutex
  alive : Side → Bool
  /-- `locally_closed` -/
  locallyClosed : Side → Bool
  send : SendPc
  receive : ReceivePc
  closing : Side → ClosePc
  /-- the envelopes whose send advanced the head -/
  published : List Envelope
  /-- what the receives returned; `none` is an exception -/
  results : List (Option ReceiveResult)
  /-- how many messages the tail has passed -/
  taken : ℕ
  /-- how often a lock reported a dead owner -/
  recoveries : ℕ

structure Hint where
  /-- what `process_alive` says of a dead process -/
  foundDead : Bool
  expired : Bool
  waitFailed : Bool

inductive Action where
  | callSend (e : Envelope)
  | callReceive
  | callClose (side : Side)
  | run (thread : Thread) (hint : Hint)
  | die (side : Side)

namespace Ipc

/-- `process_alive` of the process of a role, if it is registered. -/
def processAlive (s : Ipc) (claimed : Bool) (side : Side) (hint : Hint) : Bool :=
  claimed && (s.alive side || !hint.foundDead)

/-- `pthread_mutex_lock`: whether the owner had died. -/
def acquire (s : Ipc) (thread : Thread) : Option (Bool × Ipc) :=
  match s.mutex with
  | .free => some (false, { s with mutex := .held thread })
  | .abandoned => some (true, { s with mutex := .held thread, recoveries := s.recoveries + 1 })
  | .held _ => none

def release (s : Ipc) : Ipc := { s with mutex := .free }

/-- One store of a recovery, and the next one. -/
def recover (s : Ipc) : Recovery → Ipc × Option Recovery
  | .close => ({ s with shared := s.shared.close }, some .drop)
  | .drop => ({ s with
      shared := { s.shared with tail := s.shared.head }
      taken := s.published.length }, some .count)
  | .count => ({ s with
      shared := { s.shared with recoveryCount := s.shared.recoveryCount + 1 } }, some .consistent)
  | .consistent => (s, none)

/-- The next step of `send`. -/
def stepSend (s : Ipc) (hint : Hint) : Option Ipc :=
  match s.send with
  | .idle => none
  | .lock m => (s.acquire .sender).map fun (ownerDied, s) =>
    { s with send := if ownerDied then .recover .close else .check m }
  | .recover stage =>
    let (s', next) := s.recover stage
    some { s' with send := next.elim .unlock .recover }
  | .check m =>
    some { s with send :=
      if s.shared.closed then .unlock
      else if s.processAlive s.shared.consumerClaimed .consumer hint then .full m
      else .closeDead }
  | .closeDead => some { s with shared := s.shared.close, send := .unlock }
  | .full m =>
    if s.shared.isFull opts then
      if opts.reject || hint.expired then some { s with send := .unlock }
      else some { s.release with send := .wait m }
    else some { s with send := .storeLength m }
  | .wait m => (s.acquire .sender).map fun (ownerDied, s) =>
    { s with send := if ownerDied then .recover .close else .woken m }
  | .woken m =>
    some { s with send :=
      if hint.waitFailed || s.shared.closed then .unlock
      else if s.processAlive s.shared.consumerClaimed .consumer hint then .full m
      else .closeDead }
  | .storeLength m =>
    some { s with
      shared := s.shared.storeLength opts (UInt32.ofNat m.framed.length)
      send := .storeData m 0 }
  | .storeData m k =>
    match m.framed[k]? with
    | some byte => some { s with
        shared := s.shared.storeByte opts k byte
        send := .storeData m (k + 1) }
    | none => some { s with send := .publish m }
  | .publish m => some { s with
      shared := s.shared.publish
      published := s.published ++ [m.envelope]
      send := .unlock }
  | .unlock => some { s.release with send := .idle }

/-- The end of a receive. -/
def finish (s : Ipc) (r : Option ReceiveResult) : Ipc :=
  { s with receive := .idle, results := s.results ++ [r] }

/-- The next step of `receive_result`. -/
def stepReceive (s : Ipc) (hint : Hint) : Option Ipc :=
  match s.receive with
  | .idle => none
  | .lock => (s.acquire .receiver).map fun (ownerDied, s) =>
    { s with receive := if ownerDied then .recover .close else .empty }
  | .recover stage =>
    let (s', next) := s.recover stage
    some { s' with receive := next.elim (.unlock .failed) .recover }
  | .empty =>
    if s.shared.isEmpty then
      if s.locallyClosed .consumer then some { s with receive := .unlock (.result .cancelled) }
      else if s.shared.closed then some { s with receive := .unlock (.result .endOfStream) }
      else if s.shared.producerClaimed && !s.processAlive true .producer hint then
        some { s with receive := .closeDead }
      else if hint.expired then some { s with receive := .unlock (.result .timeout) }
      else some { s.release with receive := .wait }
    else some { s with receive := .load }
  | .closeDead => some { s with
      shared := s.shared.close
      receive := .unlock (.result .endOfStream) }
  | .wait => (s.acquire .receiver).map fun (ownerDied, s) =>
    { s with receive :=
      if ownerDied then .recover .close
      else if hint.waitFailed then .unlock .failed
      else .empty }
  | .load =>
    match s.shared.load opts with
    | none => some { s with receive := .closeInvalid }
    | some framed => some { s with receive := .advance framed }
  | .closeInvalid => some { s with shared := s.shared.close, receive := .unlock .failed }
  | .advance framed => some { s with
      shared := s.shared.advance
      taken := s.taken + 1
      receive := .unlock (.decode framed) }
  | .unlock (.result r) => some (s.release.finish (some r))
  | .unlock .failed => some (s.release.finish none)
  | .unlock (.decode framed) => some { s.release with receive := .decode framed }
  | .decode framed => some (s.finish ((decode framed).map .ofMessage))

/-- The next step of `request_close`. -/
def stepClose (s : Ipc) (side : Side) : Option Ipc :=
  let goTo (s : Ipc) (pc : ClosePc) : Ipc := { s with closing := Function.update s.closing side pc }
  match s.closing side with
  | .idle => none
  | .lock => (s.acquire (.closer side)).map fun (ownerDied, s) =>
    goTo s (if ownerDied then .consistent else .storeClosed)
  | .consistent => some (goTo s .storeClosed)
  | .storeClosed => some (goTo { s with shared := s.shared.close } .storePid)
  | .storePid =>
    some (goTo { s with shared := match side with
      | .producer => { s.shared with producerClaimed := false }
      | .consumer => { s.shared with consumerClaimed := false } } .unlock)
  | .unlock => some (goTo s.release .idle)

/-- The death of a process takes its threads with it. -/
def die (s : Ipc) (side : Side) : Ipc :=
  { s with
    alive := Function.update s.alive side false
    mutex := match s.mutex with
      | .held thread => if thread.side = side then .abandoned else s.mutex
      | m => m
    send := if side = .producer then .idle else s.send
    receive := if side = .consumer then .idle else s.receive
    closing := Function.update s.closing side .idle }

/-- One step of the two processes. -/
def step (s : Ipc) : Action → Option Ipc
  | .callSend e =>
    match s.send with
    | .idle =>
      if !s.alive .producer || s.locallyClosed .producer then none
      else (encode opts e).map fun framed => { s with send := .lock ⟨e, framed⟩ }
    | _ => none
  | .callReceive =>
    match s.receive with
    | .idle =>
      if !s.alive .consumer then none
      else if s.locallyClosed .consumer then some (s.finish (some .cancelled))
      else some { s with receive := .lock }
    | _ => none
  | .callClose side =>
    if !s.alive side || s.locallyClosed side then none
    else some { s with
      locallyClosed := Function.update s.locallyClosed side true
      closing := Function.update s.closing side .lock }
  | .run thread hint =>
    if !s.alive thread.side then none
    else match thread with
    | .sender => s.stepSend opts hint
    | .receiver => s.stepReceive opts hint
    | .closer side => s.stepClose side
  | .die side => if s.alive side then some (s.die side) else none

/-- Both processes have attached, and nothing has been sent. -/
def initial : Ipc where
  shared := ⟨0, 0, 0, true, true, false, fun _ => ⟨0, fun _ => 0⟩⟩
  mutex := .free
  alive := fun _ => true
  locallyClosed := fun _ => false
  send := .idle
  receive := .idle
  closing := fun _ => .idle
  published := []
  results := []
  taken := 0
  recoveries := 0

/-- A run: the actions that are possible, one after the other. -/
def exec (s : Ipc) : List Action → Option Ipc
  | [] => some s
  | a :: as => (s.step opts a).bind fun s' => exec s' as

/-- The envelopes that receives returned. -/
def delivered (s : Ipc) : List Envelope :=
  s.results.flatMap fun r => r.elim [] ReceiveResult.delivered

end Ipc

end GraphX.SharedMemory
