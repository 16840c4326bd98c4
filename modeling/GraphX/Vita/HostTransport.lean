/-
  The transport of a host (`HostTransport` of `src/vita/host.cpp`).

  Submissions wait in slots: seven for datagrams, four for control messages and one for a
  cancellation.  Control messages go to the TLS connection in pieces, as much as it takes at
  a time; datagrams go first.

  The accepted submissions are numbered by `sequence_`.  What the clock, the sockets and the
  library say is given with the call.  A transport also has the completions that were
  published and what went to the TLS connection (`queue`, `offered`, `written`); no decision
  depends on them.

  * **`transport_accounts`**: in every run each accepted submission is completed at most once,
    and exactly once when the transport was detached; the bytes of the control messages are
    counted, and a cancellation always finds room for them.
-/
import GraphX.Envelope
import GraphX.Lib.Check
import GraphX.Lib.Slots

namespace GraphX

open Slots

namespace Vita

/-- `vr::ErrorCode` -/
inductive ErrorCode where
  | invalidState | resourceLimit | capacityExhausted | invalidArgument | overflow
  /-- an error of the packet counter -/
  | counter (code : ℕ)
  deriving DecidableEq

/-- What `vr::codec::decode_envelope` returns. -/
structure EnvelopeHead (PacketType : Type) where
  streamId : UInt32
  type : PacketType
  cancel : Bool

/-- What is used of the library. -/
structure HostLibrary where
  PacketType : Type
  decEq : DecidableEq PacketType
  isCommand : PacketType → Bool
  decodeEnvelope : Bytes → Option (EnvelopeHead PacketType)

instance HostLibrary.decidableEq (H : HostLibrary) : DecidableEq H.PacketType := H.decEq

/-- `tx::TxSubmission` -/
structure Submission (H : HostLibrary) where
  streamId : UInt32
  type : H.PacketType
  byteSize : ℕ
  /-- A segment that cannot be read is absent. -/
  segments : List (Option Bytes)
  /-- `completion.is_reserved()` -/
  reserved : Bool
  sourceGeneration : UInt64

/-- `rt::CompletionResult`, and the number of the submission. -/
structure Completion where
  sequence : UInt64
  value : ℕ
  success : Bool
  deriving DecidableEq

structure Slot where
  /-- `submission.has_value()` -/
  occupied : Bool
  bytes : Bytes
  offset : ℕ
  generation : UInt64
  sequence : UInt64
  control : Bool
  deadline : ℤ

/-- The slot after its submission was completed. -/
def Slot.freed (s : Slot) : Slot := { s with occupied := false, generation := s.generation + 1 }

structure HostTransport where
  slots : Fin 12 → Slot
  /-- `host_` and `ingress_`, which are there together -/
  host : Bool
  ssl : Bool
  closed : Bool
  failed : Bool
  sequence : UInt64
  queuedControl : ℕ
  udpErrors : ℕ
  udpSent : ℕ
  udpSentBytes : ℕ
  completions : List Completion
  /-- The control messages that wait, with their numbers. -/
  queue : List (UInt64 × Bytes)
  /-- The control messages that waited when the connection was made, and those since. -/
  offered : List Bytes
  /-- What the TLS connection has taken. -/
  written : Bytes

namespace HostTransport

def emptySlot : Slot := ⟨false, [], 0, 1, 0, false, 0⟩

/-- The transport as it is constructed. -/
def new : HostTransport where
  slots _ := emptySlot
  host := false
  ssl := false
  closed := false
  failed := false
  sequence := 0
  queuedControl := 0
  udpErrors := 0
  udpSent := 0
  udpSentBytes := 0
  completions := []
  queue := []
  offered := []
  written := []

/-! ## Sending -/

/-- `UINT64_MAX` -/
def counterMax : UInt64 := 0xffffffffffffffff

/-- The segments one after the other; `none` unless they are there and fill `size`. -/
def gather (size : ℕ) : (staging : Bytes) → List (Option Bytes) → Option Bytes
  | staging, [] => if staging.length = size then some staging else none
  | _, none :: _ => none
  | staging, some part :: rest =>
    if size - staging.length < part.length then none else gather size (staging ++ part) rest

/-- The bytes of a submission that may be sent, and whether it is a cancellation. -/
def examine (H : HostLibrary) (t : HostTransport) (s : Submission H) :
    Except ErrorCode (Bytes × Bool) := do
  let control := H.isCommand s.type
  Check.ensure (!t.closed && t.host) .invalidState
  Check.ensure (s.byteSize ≠ 0 && s.byteSize ≤ if control then 1024 else 4128) .resourceLimit
  Check.ensure (!control || t.queuedControl + s.byteSize ≤ 4096) .capacityExhausted
  Check.ensure (s.reserved && s.sourceGeneration ≠ 0 && s.segments.length ≤ 3) .invalidArgument
  let staging ← (gather s.byteSize [] s.segments).elim (.error .invalidArgument) .ok
  let envelope ← (H.decodeEnvelope staging).elim (.error .invalidArgument) .ok
  Check.ensure (envelope.streamId = s.streamId && envelope.type = s.type) .invalidArgument
  Check.ensure (!control || envelope.cancel || t.queuedControl + s.byteSize ≤ 3072) .capacityExhausted
  pure (staging, envelope.cancel)

/-- The slots that a submission may take. -/
def lane (control cancel : Bool) : List (Fin 12) :=
  if control then if cancel then [11] else [7, 8, 9, 10] else [0, 1, 2, 3, 4, 5, 6]

/-- The submission takes the slot. -/
def occupy (t : HostTransport) (i : Fin 12) (control : Bool) (bytes : Bytes) (deadline : ℤ) :
    HostTransport :=
  { t with
    slots := Function.update t.slots i
      { occupied := true
        bytes := bytes
        offset := 0
        generation := (t.slots i).generation
        sequence := t.sequence + 1
        control := control
        deadline := deadline }
    sequence := t.sequence + 1
    queuedControl := if control then t.queuedControl + bytes.length else t.queuedControl
    queue := if control then t.queue ++ [(t.sequence + 1, bytes)] else t.queue
    offered := if control && t.ssl then t.offered ++ [bytes] else t.offered }

/-- `send` at the time `now`; `count` is the error of `host_->counters.accept`, if any.  The
    token is the slot and its generation. -/
def send (H : HostLibrary) (t : HostTransport) (s : Submission H) (now : ℤ)
    (count : Option ErrorCode) : Except ErrorCode (Fin 12 × UInt64) × HostTransport :=
  match examine H t s with
  | .error e => (.error e, t)
  | .ok (bytes, cancel) =>
    match (lane (H.isCommand s.type) cancel).find? fun i => !(t.slots i).occupied with
    | none => (.error .capacityExhausted, t)
    | some i =>
      if t.sequence = counterMax || (t.slots i).generation = counterMax then (.error .overflow, t)
      else
        match count with
        | some e => (.error e, t)
        | none => (.ok (i, (t.slots i).generation),
            t.occupy i (H.isCommand s.type) bytes (now + 2000000000))

/-! ## Progress -/

def finish (t : HostTransport) (i : Fin 12) (success : Bool) : HostTransport :=
  { t with
    completions := ⟨(t.slots i).sequence, (t.slots i).bytes.length, success⟩ :: t.completions
    queuedControl :=
      if (t.slots i).control then t.queuedControl - (t.slots i).bytes.length else t.queuedControl
    slots := Function.update t.slots i (t.slots i).freed
    queue :=
      if (t.slots i).control then t.queue.filter fun m => m.1 ≠ (t.slots i).sequence else t.queue }

/-- The occupied slots with the property are finished, without success. -/
def sweepOver (p : Slot → Bool) (l : List (Fin 12)) (t : HostTransport) : HostTransport :=
  l.foldl (fun t i =>
    if (t.slots i).occupied && p (t.slots i) then t.finish i false else t) t

def sweep (p : Slot → Bool) (t : HostTransport) : HostTransport := sweepOver p (List.finRange 12) t

/-- The TLS connection has taken `n` more bytes of the message. -/
def write (t : HostTransport) (i : Fin 12) (n : ℕ) : HostTransport :=
  { t with
    slots := Function.update t.slots i { t.slots i with offset := (t.slots i).offset + n }
    written := t.written ++ ((t.slots i).bytes.drop (t.slots i).offset).take n }

/-- Datagrams go before control messages, and earlier submissions before later ones. -/
def better (s next : Slot) : Bool :=
  (next.control && !s.control) || (s.control = next.control && s.sequence < next.sequence)

def next (t : HostTransport) : Option (Fin 12) :=
  pick Slot.occupied better t.slots (List.finRange 12)

/-- `SSL_get_error` -/
inductive SslError where
  | wantRead | wantWrite | other
  deriving DecidableEq

/-- What the clock and the sockets say during a call of `progress`. -/
structure Turn where
  now : ℤ
  /-- the second reading of the clock -/
  later : ℤ
  /-- the result of `sendto` -/
  sent : ℤ
  /-- the result of `SSL_write` -/
  count : ℤ
  error : SslError

/-- The first part of `progress`: a control message that has expired fails the connection. -/
def expire (t : HostTransport) (now : ℤ) : HostTransport :=
  { t with
    failed := t.failed || (List.finRange 12).any fun i =>
      (t.slots i).occupied && (t.slots i).control && (t.slots i).deadline ≤ now }

def failControl (t : HostTransport) : HostTransport :=
  if t.failed then t.sweep Slot.control else t

def sendDatagram (t : HostTransport) (i : Fin 12) (sent : ℤ) : HostTransport :=
  if sent = (t.slots i).bytes.length then
    { t with
      udpSent := t.udpSent + 1
      udpSentBytes := t.udpSentBytes + (t.slots i).bytes.length }.finish i true
  else { t with udpErrors := t.udpErrors + 1 }.finish i false

/-- A piece of a control message is written. -/
def writeControl (t : HostTransport) (i : Fin 12) (r : Turn) : Bool × HostTransport :=
  if 0 < r.count then
    (true, if (t.slots i).offset + r.count.toNat = (t.slots i).bytes.length then
      (t.write i r.count.toNat).finish i true else t.write i r.count.toNat)
  else if r.error = .wantRead || r.error = .wantWrite then (false, t)
  else (true, { t with failed := true }.finish i false)

/-- The second part of `progress`: the slot is served. -/
def serve (t : HostTransport) (i : Fin 12) (r : Turn) : Bool × HostTransport :=
  if !(t.slots i).control then (true, t.sendDatagram i r.sent)
  else if !t.ssl || t.failed || (t.slots i).deadline ≤ r.later then
    (true, { t with failed := t.ssl }.finish i false)
  else t.writeControl i r

def progress (t : HostTransport) (r : Turn) : Bool × HostTransport :=
  let expired := t.expire r.now
  let completed := expired.failed && (List.finRange 12).any fun i =>
    (t.slots i).occupied && (t.slots i).control
  match expired.failControl.next with
  | none => (completed, expired.failControl)
  | some i => expired.failControl.serve i r

/-! ## Connections -/

/-- `create`: the host is attached. -/
def create (t : HostTransport) : HostTransport := { t with host := true }

/-- `connect`; `authenticated` says whether TLS has verified the peer. -/
def connect (t : HostTransport) (given authenticated : Bool) : Result Unit × HostTransport :=
  if !given || !t.host || t.closed || t.ssl then
    (.error (.runtimeError "invalid authenticated TLS binding"), t)
  else if !authenticated then (.error (.runtimeError "unauthenticated VITA TLS peer"), t)
  else (.ok (),
    { t with
      ssl := true
      failed := false
      offered := t.queue.map (·.2)
      written := [] })

def disconnect (t : HostTransport) : HostTransport := { t with ssl := false }.sweep Slot.control

def detach (t : HostTransport) : HostTransport :=
  { t.disconnect.sweep fun _ => true with
    host := false
    closed := true }

/-! ## Calls -/

inductive Call (H : HostLibrary) where
  | create
  | send (s : Submission H) (now : ℤ) (count : Option ErrorCode)
  | progress (r : Turn)
  | connect (given authenticated : Bool)
  | disconnect
  | closeAdmission
  | detach

def step {H : HostLibrary} (t : HostTransport) : Call H → HostTransport
  | .create => t.create
  | .send s now count => (t.send H s now count).2
  | .progress r => (t.progress r).2
  | .connect given authenticated => (t.connect given authenticated).2
  | .disconnect => t.disconnect
  | .closeAdmission => { t with closed := true }
  | .detach => t.detach

def run {H : HostLibrary} (calls : List (Call H)) : HostTransport := calls.foldl step new

/-! ## What every call keeps -/

def controlBytes (s : Slot) : ℕ := if s.occupied && s.control then s.bytes.length else 0

/-- Those of a message that is no cancellation. -/
def ordinaryBytes (i : Fin 12) (s : Slot) : ℕ := if i = 11 then 0 else controlBytes s

/-- Whether the submission with the number is in the slot. -/
def holds (n : UInt64) (s : Slot) : ℕ := if s.occupied && s.sequence = n then 1 else 0

/-- How often the submission with the number was completed. -/
def completed (t : HostTransport) (n : UInt64) : ℕ := t.completions.countP fun c => c.sequence = n

/-- Whether the number was given to a submission. -/
def given (sequence n : UInt64) : ℕ := if 1 ≤ n && n ≤ sequence then 1 else 0

structure Accounted (t : HostTransport) : Prop where
  queued : t.queuedControl = total (fun _ => controlBytes) t.slots
  lanes : ∀ i, (t.slots i).occupied = true → (t.slots i).control = decide (7 ≤ i)
  ordinary : total ordinaryBytes t.slots ≤ 3072
  cancel : controlBytes (t.slots 11) ≤ 1024
  once : ∀ n, t.completed n + total (fun _ => holds n) t.slots = given t.sequence n

variable {t : HostTransport} {i : Fin 12}

/-- What is counted, and what counts it. -/
def account (t : HostTransport) := (t.slots, t.queuedControl, t.sequence, t.completions)

theorem Accounted.congr (h : Accounted t) {t' : HostTransport} (ht : t'.account = t.account) :
    Accounted t' := by
  simp only [account, Prod.mk.injEq] at ht
  obtain ⟨hslots, hqueued, hsequence, hcompletions⟩ := ht
  refine ⟨?_, hslots ▸ h.lanes, hslots ▸ h.ordinary, hslots ▸ h.cancel, fun n => ?_⟩
  · rw [hqueued, hslots]
    exact h.queued
  · rw [completed, hcompletions, hslots, hsequence]
    exact h.once n

theorem total_controlBytes (slots : Fin 12 → Slot) :
    total (fun _ => controlBytes) slots = total ordinaryBytes slots + controlBytes (slots 11) := by
  simp only [total, Fin.sum_univ_succ, ordinaryBytes]
  simp
  ring

theorem Accounted.new : Accounted new := by
  refine ⟨?_, ?_, ?_, ?_, fun n => ?_⟩
  · exact (total_eq_zero fun _ => rfl).symm
  · exact fun i hi => absurd hi Bool.false_ne_true
  · exact (total_eq_zero fun i => by unfold ordinaryBytes; split_ifs <;> rfl).trans_le (by decide)
  · exact Nat.zero_le _
  · have hzero : given 0 n = 0 := by
      refine if_neg fun hn => ?_
      rw [Bool.and_eq_true, decide_eq_true_eq, decide_eq_true_eq] at hn
      exact absurd (UInt64.le_trans hn.1 hn.2) (by decide)
    exact (congrArg (0 + ·) (total_eq_zero fun _ => rfl)).trans hzero.symm

variable {s : Slot}

theorem controlBytes_occupied (h : s.occupied = true) :
    controlBytes s = if s.control then s.bytes.length else 0 := by
  simp [controlBytes, h]

theorem holds_occupied (h : s.occupied = true) (n : UInt64) :
    holds n s = if s.sequence = n then 1 else 0 := by
  simp [holds, h]

theorem update_lanes {slots : Fin 12 → Slot}
    (h : ∀ j, (slots j).occupied = true → (slots j).control = decide (7 ≤ j))
    (hs : s.occupied = true → s.control = decide (7 ≤ i)) :
    ∀ j, (Function.update slots i s j).occupied = true →
      (Function.update slots i s j).control = decide (7 ≤ j) := by
  intro j
  by_cases hj : j = i
  · subst hj
    rwa [Function.update_self]
  · rw [Function.update_of_ne hj]
    exact h j

/-- One slot changes, and what is counted changes with it. -/
theorem Accounted.put (h : Accounted t) {t' : HostTransport}
    (hslots : t'.slots = Function.update t.slots i s)
    (hqueued : t'.queuedControl + controlBytes (t.slots i) = t.queuedControl + controlBytes s)
    (hlane : s.occupied = true → s.control = decide (7 ≤ i))
    (hordinary : i ≠ 11 → controlBytes s ≤ controlBytes (t.slots i) ∨
      t.queuedControl + controlBytes s ≤ 3072)
    (hcancel : i = 11 → controlBytes s ≤ 1024)
    (honce : ∀ n, t'.completed n + holds n s + given t.sequence n =
      t.completed n + holds n (t.slots i) + given t'.sequence n) : Accounted t' := by
  have hcontrol := total_update (fun _ => controlBytes) t.slots i s
  have htotal := total_update ordinaryBytes t.slots i s
  have hle := h.ordinary
  have hsum := total_controlBytes t.slots
  rw [← h.queued] at hcontrol hsum
  refine ⟨?_, ?_, ?_, ?_, fun n => ?_⟩ <;> rw [hslots]
  · omega
  · exact update_lanes h.lanes hlane
  · unfold ordinaryBytes at htotal hle hsum ⊢
    split_ifs at htotal with hi
    · omega
    · have := hordinary hi
      omega
  · by_cases hi : i = 11
    · subst hi
      rw [Function.update_self]
      exact hcancel rfl
    · rw [Function.update_of_ne (Ne.symm hi)]
      exact h.cancel
  · have hholds := total_update (fun _ => holds n) t.slots i s
    have := h.once n
    have := honce n
    omega

section

variable (h : Accounted t)
include h

theorem Accounted.finish (hi : (t.slots i).occupied = true) (success : Bool) :
    Accounted (t.finish i success) := by
  refine h.put rfl ?_ (fun hfreed => absurd hfreed Bool.false_ne_true)
    (fun _ => .inl (Nat.zero_le _)) (fun _ => Nat.zero_le _) fun n => ?_
  · have hcontrol := controlBytes_occupied hi
    have htotal := total_update (fun _ => controlBytes) t.slots i (t.slots i).freed
    have hfree : controlBytes (t.slots i).freed = 0 := rfl
    have hqueued := h.queued
    change (if (t.slots i).control then _ else _) + _ = _ + 0
    split_ifs at hcontrol ⊢ <;> omega
  · change (_ :: t.completions).countP _ + 0 + _ = _ + _ + given t.sequence n
    simp only [List.countP_cons, decide_eq_true_eq, holds_occupied hi, completed]
    omega

theorem Accounted.write (n : ℕ) : Accounted (t.write i n) :=
  h.put (s := { t.slots i with offset := (t.slots i).offset + n }) rfl rfl (h.lanes i)
    (fun _ => .inl le_rfl) (fun hi => hi ▸ h.cancel) fun _ => rfl

theorem Accounted.sweepOver (p : Slot → Bool) (l : List (Fin 12)) :
    Accounted (t.sweepOver p l) := by
  induction l generalizing t with
  | nil => exact h
  | cons i l ih =>
    refine ih ?_
    dsimp only
    split_ifs with hi
    · exact h.finish (Bool.and_eq_true _ _ ▸ hi).1 false
    · exact h

theorem Accounted.sweep (p : Slot → Bool) : Accounted (t.sweep p) :=
  h.sweepOver p _

end

theorem given_succ {sequence : UInt64} (h : sequence ≠ counterMax) (n : UInt64) :
    given (sequence + 1) n = given sequence n + if sequence + 1 = n then 1 else 0 := by
  have hmax : sequence.toNat ≠ 2 ^ 64 - 1 := fun heq => h (UInt64.toNat_inj.1 heq)
  have hlt : sequence.toNat < 2 ^ 64 := sequence.toNat_lt
  have hsucc : (sequence + 1).toNat = sequence.toNat + 1 := by
    exact Nat.mod_eq_of_lt (by change sequence.toNat + 1 < _; omega)
  have hone : (1 : UInt64).toNat = 1 := rfl
  unfold given
  simp only [Bool.and_eq_true, decide_eq_true_eq, UInt64.le_iff_toNat_le, ← UInt64.toNat_inj]
  split_ifs <;> omega

theorem Accounted.occupy (h : Accounted t) {control : Bool} {bytes : Bytes} {deadline : ℤ}
    (hfree : (t.slots i).occupied = false) (hlane : control = decide (7 ≤ i))
    (hsequence : t.sequence ≠ counterMax)
    (hordinary : control = true → i ≠ 11 → t.queuedControl + bytes.length ≤ 3072)
    (hcancel : i = 11 → bytes.length ≤ 1024) : Accounted (t.occupy i control bytes deadline) := by
  have hbefore : controlBytes (t.slots i) = 0 := by simp [controlBytes, hfree]
  have hafter : ∀ o g q d, controlBytes ⟨true, bytes, o, g, q, control, d⟩ =
      if control then bytes.length else 0 := fun _ _ _ _ => controlBytes_occupied rfl
  refine h.put rfl ?_ (fun _ => hlane) (fun hi => ?_) (fun hi => ?_) fun n => ?_
  · rw [hafter, hbefore]
    change (if control then _ else _) + 0 = _
    split_ifs <;> rfl
  · rw [hafter]
    split_ifs with hcontrol
    · exact .inr (hordinary hcontrol hi)
    · exact .inl (Nat.zero_le _)
  · rw [hafter]
    have := hcancel hi
    split_ifs <;> omega
  · have hnone : holds n (t.slots i) = 0 := by simp [holds, hfree]
    rw [hnone, holds_occupied rfl]
    change t.completed n + _ + _ = t.completed n + 0 + given (t.sequence + 1) n
    rw [given_succ hsequence]
    dsimp only
    omega

/-! ## Sending -/

section send
variable {H : HostLibrary} {s : Submission H} {bytes : Bytes} {cancel : Bool}

theorem length_of_gather {size : ℕ} {staging : Bytes} {segments : List (Option Bytes)}
    (h : gather size staging segments = some bytes) : bytes.length = size := by
  induction segments generalizing staging with
  | nil =>
    rw [gather] at h
    split_ifs at h with hlength
    rwa [← Option.some.inj h]
  | cons part rest ih =>
    cases part with
    | none => cases h
    | some part =>
      rw [gather] at h
      split_ifs at h
      exact ih h

theorem elim_eq_ok {α : Type} {x : Option α} {e : ErrorCode} {a : α} :
    x.elim (Except.error e) Except.ok = .ok a ↔ x = some a := by
  cases x <;> simp

theorem examine_eq_ok : examine H t s = .ok (bytes, cancel) ↔
    ((t.closed = false ∧ t.host = true) ∧
      (s.byteSize ≠ 0 ∧ s.byteSize ≤ if H.isCommand s.type then 1024 else 4128) ∧
      (H.isCommand s.type = false ∨ t.queuedControl + s.byteSize ≤ 4096) ∧
      ((s.reserved = true ∧ s.sourceGeneration ≠ 0) ∧ s.segments.length ≤ 3)) ∧
    gather s.byteSize [] s.segments = some bytes ∧ ∃ e, H.decodeEnvelope bytes = some e ∧
      (e.streamId = s.streamId ∧ e.type = s.type) ∧
      ((H.isCommand s.type = false ∨ e.cancel = true) ∨ t.queuedControl + s.byteSize ≤ 3072) ∧
      e.cancel = cancel := by
  simp only [examine, Check.bind_unit_eq_ok, Check.bind_eq_ok (α := Bytes),
    Check.bind_eq_ok (α := EnvelopeHead H.PacketType), Check.ensure_eq_ok, elim_eq_ok, Bool.and_eq_true,
    Bool.or_eq_true, Bool.not_eq_true', decide_eq_true_eq]
  constructor
  · rintro ⟨hattached, hsize, hqueued, hsource, staging, hstaging, e, he, hmatch, hordinary, hresult⟩
    cases hresult
    exact ⟨⟨hattached, hsize, hqueued, hsource⟩, hstaging, e, he, hmatch, hordinary, rfl⟩
  · rintro ⟨⟨hattached, hsize, hqueued, hsource⟩, hstaging, e, he, hmatch, hordinary, rfl⟩
    exact ⟨hattached, hsize, hqueued, hsource, bytes, hstaging, e, he, hmatch, hordinary, rfl⟩

theorem lane_spec : ∀ control cancel, ∀ i ∈ lane control cancel,
    control = decide (7 ≤ i) ∧ (i = 11 ↔ control = true ∧ cancel = true) := by
  decide

theorem send_cases (H : HostLibrary) (t : HostTransport) (s : Submission H) (now : ℤ)
    (count : Option ErrorCode) : (t.send H s now count).2 = t ∨
      ∃ i bytes cancel, examine H t s = .ok (bytes, cancel) ∧ i ∈ lane (H.isCommand s.type) cancel ∧
        (t.slots i).occupied = false ∧ t.sequence ≠ counterMax ∧
        (t.send H s now count).2 = t.occupy i (H.isCommand s.type) bytes (now + 2000000000) := by
  unfold send
  cases hexamine : examine H t s with
  | error e => exact Or.inl rfl
  | ok r =>
    obtain ⟨bytes, cancel⟩ := r
    dsimp only
    cases hfind : (lane (H.isCommand s.type) cancel).find? fun i => !(t.slots i).occupied with
    | none => exact Or.inl rfl
    | some i =>
      dsimp only
      split_ifs with hfull
      · exact Or.inl rfl
      · cases count with
        | some e => exact Or.inl rfl
        | none =>
          simp only [Bool.or_eq_true, decide_eq_true_eq, not_or] at hfull
          refine Or.inr ⟨i, bytes, cancel, rfl, List.mem_of_find?_eq_some hfind, ?_, hfull.1, rfl⟩
          simpa using List.find?_some hfind

theorem Accounted.send (h : Accounted t) (s : Submission H) (now : ℤ) (count : Option ErrorCode) :
    Accounted (t.send H s now count).2 := by
  rcases send_cases H t s now count with hsame | ⟨i, bytes, cancel, hexamine, hi, hfree, hsequence, hsend⟩
  · rwa [hsame]
  · obtain ⟨⟨-, ⟨-, hsize⟩, -⟩, hgather, e, -, -, hordinary, rfl⟩ := examine_eq_ok.1 hexamine
    obtain ⟨hlane, hcancel⟩ := lane_spec _ _ i hi
    rw [← length_of_gather hgather] at hsize hordinary
    rw [hsend]
    refine h.occupy hfree hlane hsequence (fun hcontrol hne => ?_) fun heq => ?_
    · have hnot : e.cancel ≠ true := fun hc => hne (hcancel.2 ⟨hcontrol, hc⟩)
      simpa [hcontrol, hnot] using hordinary
    · simpa [(hcancel.1 heq).1] using hsize

/-- A well-formed cancellation. -/
structure Cancels (H : HostLibrary) (s : Submission H) : Prop where
  command : H.isCommand s.type = true
  size : s.byteSize ≠ 0 ∧ s.byteSize ≤ 1024
  source : (s.reserved = true ∧ s.sourceGeneration ≠ 0) ∧ s.segments.length ≤ 3
  envelope : ∃ bytes e, gather s.byteSize [] s.segments = some bytes ∧
    H.decodeEnvelope bytes = some e ∧ (e.streamId = s.streamId ∧ e.type = s.type) ∧ e.cancel = true

/-- **A cancellation is admitted when its slot is free.** -/
theorem Accounted.send_cancel (h : Accounted t) (hs : Cancels H s)
    (hattached : t.closed = false ∧ t.host = true) (hfree : (t.slots 11).occupied = false)
    (hsequence : t.sequence ≠ counterMax) (hgeneration : (t.slots 11).generation ≠ counterMax)
    (now : ℤ) : (t.send H s now none).1 = .ok (11, (t.slots 11).generation) := by
  obtain ⟨bytes, e, hgather, hdecode, hmatch, hcancel⟩ := hs.envelope
  have hqueued : t.queuedControl ≤ 3072 := by
    have hnone : controlBytes (t.slots 11) = 0 := by simp [controlBytes, hfree]
    rw [h.queued, total_controlBytes, hnone, Nat.add_zero]
    exact h.ordinary
  have hsize := hs.size.2
  have hexamine : examine H t s = .ok (bytes, true) := by
    refine examine_eq_ok.2 ⟨⟨hattached, ⟨hs.size.1, ?_⟩, Or.inr (by omega), hs.source⟩, hgather, e,
      hdecode, hmatch, Or.inl (Or.inr hcancel), hcancel⟩
    rwa [if_pos hs.command]
  have hfind : (lane true true).find? (fun i => !(t.slots i).occupied) = some 11 := by
    simp [lane, hfree]
  simp [HostTransport.send, hexamine, hs.command, hfind, hsequence, hgeneration]

end send

/-! ## Progress -/

/-- The order in which the slots are served. -/
def rank (s : Slot) : Bool ×ₗ ℕ := toLex (s.control, s.sequence.toNat)

theorem better_iff (s s' : Slot) : better s s' = true ↔ rank s < rank s' := by
  unfold rank better
  rw [Prod.Lex.toLex_lt_toLex, Bool.or_eq_true, Bool.and_eq_true, Bool.and_eq_true, decide_eq_true_eq,
    decide_eq_true_eq, Bool.lt_iff, Bool.not_eq_true', and_comm, UInt64.lt_iff_toNat_lt]

/-- The slot that is served is occupied, and no other one comes before it. -/
theorem next_eq_some (h : t.next = some i) : (t.slots i).occupied = true ∧
    ∀ j, (t.slots j).occupied = true → rank (t.slots i) ≤ rank (t.slots j) := by
  obtain ⟨hoccupied, hleast⟩ := pick_eq_some better_iff h
  exact ⟨hoccupied, fun j => hleast j (List.mem_finRange j)⟩

section

variable (h : Accounted t)
include h

section served
variable (hi : (t.slots i).occupied = true)
include hi

theorem Accounted.finish_of {t' : HostTransport} {success : Bool} (ht : t'.account = t.account) :
    Accounted (t'.finish i success) := by
  have hslots : t'.slots = t.slots := congrArg Prod.fst ht
  exact (h.congr ht).finish (hslots ▸ hi) success

theorem Accounted.sendDatagram (sent : ℤ) : Accounted (t.sendDatagram i sent) := by
  unfold HostTransport.sendDatagram
  split_ifs
  · exact h.finish_of hi rfl
  · exact h.finish_of hi rfl

theorem Accounted.writeControl (r : Turn) : Accounted (t.writeControl i r).2 := by
  have hwrite : ((t.write i r.count.toNat).slots i).occupied = true := by
    simp [HostTransport.write, hi]
  unfold HostTransport.writeControl
  split_ifs
  · exact (h.write _).finish hwrite true
  · exact h.write _
  · exact h
  · exact h.finish_of hi rfl

theorem Accounted.serve (r : Turn) : Accounted (t.serve i r).2 := by
  unfold HostTransport.serve
  split_ifs
  · exact h.sendDatagram hi r.sent
  · exact h.finish_of hi rfl
  · exact h.writeControl hi r

end served

theorem Accounted.failControl : Accounted t.failControl := by
  unfold HostTransport.failControl
  split_ifs
  · exact h.sweep _
  · exact h

theorem Accounted.progress (r : Turn) : Accounted (t.progress r).2 := by
  have hfailed : Accounted (t.expire r.now).failControl := Accounted.failControl (h.congr rfl)
  unfold HostTransport.progress
  dsimp only
  cases hnext : (t.expire r.now).failControl.next with
  | none => exact hfailed
  | some i => exact hfailed.serve (next_eq_some hnext).1 r

theorem Accounted.disconnect : Accounted t.disconnect :=
  Accounted.sweep (t := { t with ssl := false }) (h.congr rfl) Slot.control

theorem Accounted.flags (host closed : Bool) :
    Accounted { t with host := host, closed := closed } :=
  h.congr rfl

theorem Accounted.step {H : HostLibrary} (call : Call H) : Accounted (t.step call) := by
  cases call with
  | create => exact h.flags true t.closed
  | send s now count => exact h.send s now count
  | progress r => exact h.progress r
  | connect given authenticated =>
    change Accounted (t.connect given authenticated).2
    unfold connect
    split_ifs
    · exact h
    · exact h
    · exact h.congr rfl
  | disconnect => exact h.disconnect
  | closeAdmission => exact h.flags t.host true
  | detach => exact (h.disconnect.sweep fun _ => true).flags false true

end

/-! ## After detaching -/

/-- Nothing waits, and nothing will. -/
structure Gone (t : HostTransport) : Prop where
  closed : t.closed = true
  free : ∀ i, (t.slots i).occupied = false

theorem slots_finish (t : HostTransport) (i : Fin 12) (success : Bool) :
    (t.finish i success).slots = Function.update t.slots i (t.slots i).freed := rfl

theorem slots_sweepOver (p : Slot → Bool) (l : List (Fin 12)) (t : HostTransport) (j : Fin 12) :
    (t.sweepOver p l).slots j =
      if j ∈ l ∧ (t.slots j).occupied = true ∧ p (t.slots j) = true then (t.slots j).freed
      else t.slots j := by
  induction l generalizing t with
  | nil => simp [sweepOver]
  | cons i l ih =>
    rw [sweepOver, List.foldl_cons]
    refine (ih _).trans ?_
    by_cases hi : ((t.slots i).occupied && p (t.slots i)) = true
    · rw [if_pos hi, slots_finish]
      rw [Bool.and_eq_true] at hi
      by_cases hj : j = i
      · subst hj
        simp [Slot.freed, hi]
      · simp [hj]
    · rw [if_neg hi]
      rw [Bool.and_eq_true] at hi
      by_cases hj : j = i
      · subst hj
        simp [hi]
      · simp [hj]

theorem slots_sweep (p : Slot → Bool) (t : HostTransport) (j : Fin 12) :
    (t.sweep p).slots j =
      if (t.slots j).occupied = true ∧ p (t.slots j) = true then (t.slots j).freed else t.slots j := by
  simp [sweep, slots_sweepOver]

theorem sweep_of_free (p : Slot → Bool) (h : ∀ i, (t.slots i).occupied = false) : t.sweep p = t := by
  refine List.foldlRecOn (motive := (· = t)) _ _ rfl ?_
  rintro _ rfl i -
  simp [h i]

theorem gone_detach (t : HostTransport) : Gone t.detach := by
  refine ⟨rfl, fun i => ?_⟩
  change ((t.disconnect.sweep fun _ => true).slots i).occupied = false
  rw [slots_sweep]
  split_ifs with hi
  · rfl
  · simpa using hi

theorem Gone.step {H : HostLibrary} (h : Gone t) (call : Call H) : Gone (t.step call) := by
  cases call with
  | create => exact ⟨h.closed, h.free⟩
  | send s now count =>
    rcases send_cases H t s now count with hsame | ⟨i, bytes, cancel, hexamine, -⟩
    · change Gone (t.send H s now count).2
      rwa [hsame]
    · have := (examine_eq_ok.1 hexamine).1.1.1
      rw [h.closed] at this
      exact absurd this.symm Bool.false_ne_true
  | progress r =>
    have hfailed : Gone (t.expire r.now).failControl := by
      have hexpired : Gone (t.expire r.now) := ⟨h.closed, h.free⟩
      unfold failControl
      split_ifs
      · rwa [sweep_of_free _ hexpired.free]
      · exact hexpired
    change Gone (t.progress r).2
    unfold progress
    dsimp only
    cases hnext : (t.expire r.now).failControl.next with
    | none => exact hfailed
    | some i =>
      have hoccupied := (next_eq_some hnext).1
      rw [hfailed.free i] at hoccupied
      exact absurd hoccupied Bool.false_ne_true
  | connect given authenticated =>
    have hsame : (t.connect given authenticated).2 = t := by
      simp [connect, h.closed]
    change Gone (t.connect given authenticated).2
    rwa [hsame]
  | disconnect =>
    change Gone (HostTransport.sweep Slot.control { t with ssl := false })
    rw [sweep_of_free Slot.control (t := { t with ssl := false }) h.free]
    exact ⟨h.closed, h.free⟩
  | closeAdmission => exact ⟨rfl, h.free⟩
  | detach => exact gone_detach t

/-! ## Runs -/

section run
variable {H : HostLibrary}

theorem accounted_run (calls : List (Call H)) : Accounted (run calls) :=
  List.foldlRecOn (motive := Accounted) calls step Accounted.new fun _ h call _ => h.step call

theorem gone_run {calls : List (Call H)} (h : Call.detach ∈ calls) : Gone (run calls) := by
  obtain ⟨before, after, rfl⟩ := List.append_of_mem h
  rw [run, List.foldl_append]
  exact List.foldlRecOn (motive := Gone) after step (gone_detach _) fun _ h call _ => h.step call

/-- **The accounts of a transport.**  In every run the accepted submissions, which have the
    numbers from 1 to `sequence`, are completed at most once, and exactly once if the
    transport was detached; the bytes of the control messages that wait are counted and
    limited; a cancellation is admitted whenever its slot is free. -/
theorem transport_accounts (H : HostLibrary) (calls : List (Call H)) :
    ((∀ n, (run calls).completed n ≤ 1) ∧
      ∀ n, ¬(1 ≤ n ∧ n ≤ (run calls).sequence) → (run calls).completed n = 0) ∧
    (Call.detach ∈ calls → ∀ n, 1 ≤ n → n ≤ (run calls).sequence → (run calls).completed n = 1) ∧
    ((run calls).queuedControl = total (fun _ => controlBytes) (run calls).slots ∧
      (run calls).queuedControl ≤ 4096 ∧ total ordinaryBytes (run calls).slots ≤ 3072) ∧
    ∀ s : Submission H, Cancels H s → (run calls).closed = false ∧ (run calls).host = true →
      ((run calls).slots 11).occupied = false → (run calls).sequence ≠ counterMax →
      ((run calls).slots 11).generation ≠ counterMax →
      ∀ now, ((run calls).send H s now none).1 = .ok (11, ((run calls).slots 11).generation) := by
  have h := accounted_run calls
  have hgiven : ∀ n, given (run calls).sequence n ≤ 1 := by
    intro n
    unfold given
    split_ifs
    · exact le_rfl
    · exact Nat.zero_le _
  refine ⟨⟨fun n => ?_, fun n hn => ?_⟩, fun hdetach n hge hle => ?_, ⟨h.queued, ?_, h.ordinary⟩, ?_⟩
  · exact (Nat.le_add_right _ _).trans ((h.once n).trans_le (hgiven n))
  · have honce := h.once n
    have hzero : given (run calls).sequence n = 0 := if_neg (by simpa using hn)
    omega
  · have honce := h.once n
    have hone : given (run calls).sequence n = 1 := if_pos (by simp [hge, hle])
    have hfree : total (fun _ => holds n) (run calls).slots = 0 :=
      total_eq_zero fun i => by simp [holds, (gone_run hdetach).free i]
    omega
  · have hcancel := h.cancel
    have hordinary := h.ordinary
    rw [h.queued, total_controlBytes]
    omega
  · intro s hs hattached hfree hsequence hgeneration now
    exact h.send_cancel hs hattached hfree hsequence hgeneration now

end run

namespace Samples

/-- Every packet is a command on stream 1, and one of two bytes is a cancellation. -/
def library : HostLibrary where
  PacketType := Unit
  decEq := instDecidableEqPUnit
  isCommand _ := true
  decodeEnvelope bytes := some ⟨1, (), bytes.length = 2⟩

def submission (n : ℕ) : Submission library := ⟨1, (), n, [some (List.replicate n 0)], true, 1⟩

/-- One message is written, and a cancellation waits when the transport is detached. -/
def calls : List (Call library) :=
  [.create, .send (submission 1) 0 none, .send (submission 2) 0 none, .connect true true,
    .progress ⟨0, 0, 0, 1, .other⟩, .detach]

theorem cancels : Cancels library (submission 2) :=
  ⟨rfl, by decide, by decide, [0, 0], ⟨1, (), true⟩, rfl, rfl, ⟨rfl, rfl⟩, rfl⟩

end Samples

open Samples in
set_option maxRecDepth 4000 in
theorem transport_accounts_sample :
    ((run calls).sequence = 2 ∧ (run calls).completed 1 = 1 ∧ (run calls).completed 2 = 1) ∧
      ((run (H := library) [.create]).send library (submission 2) 0 none).1 = .ok (11, 1) := by
  have hdetach : Call.detach ∈ calls := by simp [calls]
  have hsequence : (run calls).sequence = 2 := by decide
  have hcreated : run (H := library) [.create] = new.create := rfl
  obtain ⟨-, honce, -⟩ := transport_accounts library calls
  obtain ⟨-, -, -, hcancel⟩ := transport_accounts library [.create]
  rw [hsequence] at honce
  rw [hcreated] at hcancel ⊢
  refine ⟨⟨hsequence, honce hdetach 1 (by decide) (by decide), honce hdetach 2 (by decide) (by decide)⟩, ?_⟩
  exact hcancel (submission 2) cancels ⟨rfl, rfl⟩ rfl (by decide) (by decide) 0

end HostTransport

end Vita

end GraphX
