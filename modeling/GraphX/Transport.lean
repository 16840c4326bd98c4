/-
  What the transports share (`include/graphx/transport.hpp`, `framing.hpp`,
  `observability.hpp`, `src/framing.cpp`): length-prefixed frames, the results
  of `receive_result`, and the trace sink every transport reports to.

  A trace sink is code of the application: `TraceSink σ` is any function of its
  own state and of the callback, and each callback may throw.  `NullTraceSink`
  is the one that does nothing.

  `decodeFrameSize_header`: the size read back from a frame is the size of its
  payload.
-/
import GraphX.Lib.Action
import GraphX.EnvelopeCodec

namespace GraphX

open Codec Imperative

/-! ## Frames -/

/-- The four bytes in front of a payload of this size. -/
def frameHeader (size : UInt32) : Bytes :=
  [((size >>> 24) &&& 0xff).toUInt8, ((size >>> 16) &&& 0xff).toUInt8,
    ((size >>> 8) &&& 0xff).toUInt8, (size &&& 0xff).toUInt8]

def frame (payload : Bytes) : Result Bytes :=
  if payload.length > kMaxFrameBytes then .error (.lengthError "frame too large")
  else .ok (frameHeader (UInt32.ofNat payload.length) ++ payload)

def decodeFrameSize (header : Bytes) : Result UInt32 :=
  let size := header.foldl (fun (size : UInt32) byte => (size <<< 8) ||| byte.toUInt32) 0
  if size.toNat > kMaxFrameBytes then .error (.lengthError "frame exceeds configured maximum")
  else .ok size

@[simp] theorem length_frameHeader (size : UInt32) : (frameHeader size).length = 4 := rfl

theorem frame_ok {payload bs : Bytes} : frame payload = .ok bs ↔
    payload.length ≤ kMaxFrameBytes ∧ frameHeader (UInt32.ofNat payload.length) ++ payload = bs := by
  unfold frame
  split_ifs with h
  · simp only [false_iff]; omega
  · simp [not_lt.1 h]

theorem toNat_ofNat_frame {n : ℕ} (h : n ≤ kMaxFrameBytes) : (UInt32.ofNat n).toNat = n := by
  exact Nat.mod_eq_of_lt (lt_of_le_of_lt h (by decide))

theorem toNat_byteOf (size : UInt32) {k : UInt32} {m : ℕ} (hk : k.toNat % 32 = m) :
    ((size >>> k) &&& 0xff).toUInt8.toNat = size.toNat / 2 ^ m % 256 := by
  have hff : (0xff : UInt32).toNat = 2 ^ 8 - 1 := rfl
  rw [UInt32.toNat_toUInt8, UInt32.toNat_and, UInt32.toNat_shiftRight, hk, hff,
    Nat.and_two_pow_sub_one_eq_mod, Nat.shiftRight_eq_div_pow]
  exact Nat.mod_mod _ _

theorem toNat_shiftIn (size : UInt32) (b : UInt8) (h : size.toNat < 2 ^ 24) :
    ((size <<< 8) ||| b.toUInt32).toNat = size.toNat * 256 + b.toNat := by
  have h8 : (8 : UInt32).toNat % 32 = 8 := rfl
  have hl : size.toNat <<< 8 < 2 ^ 32 := by rw [Nat.shiftLeft_eq]; omega
  rw [UInt32.toNat_or, UInt32.toNat_shiftLeft, h8, UInt8.toNat_toUInt32, Nat.mod_eq_of_lt hl,
    ← Nat.shiftLeft_add_eq_or_of_lt b.toNat_lt, Nat.shiftLeft_eq]

/-- Shifting the bytes of a word back in restores the word. -/
theorem foldl_frameHeader (size : UInt32) :
    (frameHeader size).foldl (fun (size : UInt32) byte => (size <<< 8) ||| byte.toUInt32) 0 =
      size := by
  have b₀ := toNat_byteOf size (k := 24) (m := 24) rfl
  have b₁ := toNat_byteOf size (k := 16) (m := 16) rfl
  have b₂ := toNat_byteOf size (k := 8) (m := 8) rfl
  have b₃ := toNat_byteOf size (k := 0) (m := 0) rfl
  rw [UInt32.shiftRight_zero] at b₃
  have hs := size.toNat_lt
  simp only [frameHeader, List.foldl_cons, List.foldl_nil]
  have h₀ := toNat_shiftIn 0 ((size >>> 24) &&& 0xff).toUInt8 (by decide)
  have h₁ := toNat_shiftIn _ ((size >>> 16) &&& 0xff).toUInt8 (by rw [h₀, b₀]; simp; omega)
  have h₂ := toNat_shiftIn _ ((size >>> 8) &&& 0xff).toUInt8 (by rw [h₁, h₀, b₀, b₁]; simp; omega)
  have h₃ := toNat_shiftIn _ (size &&& 0xff).toUInt8 (by rw [h₂, h₁, h₀, b₀, b₁, b₂]; simp; omega)
  apply UInt32.toNat_inj.1
  rw [h₃, h₂, h₁, h₀, b₀, b₁, b₂, b₃]
  simp
  omega

theorem decodeFrameSize_header {n : ℕ} (h : n ≤ kMaxFrameBytes) :
    decodeFrameSize (frameHeader (UInt32.ofNat n)) = .ok (UInt32.ofNat n) := by
  simp only [decodeFrameSize, foldl_frameHeader, toNat_ofNat_frame h, not_lt.2 h,
    if_false]

theorem length_of_frame_ok {payload bs : Bytes} (h : frame payload = .ok bs) :
    bs.length = payload.length + 4 := by
  obtain ⟨-, rfl⟩ := frame_ok.1 h
  simp [Nat.add_comm]

/-! ## Results of a receive -/

inductive ReceiveStatus where
  | message | timeout | endOfStream | cancelled
  deriving DecidableEq, Repr

structure ReceiveResult where
  status : ReceiveStatus
  envelope : Option Envelope
  deriving DecidableEq

namespace ReceiveResult

def ofMessage (e : Envelope) : ReceiveResult := ⟨.message, some e⟩
def timeout : ReceiveResult := ⟨.timeout, none⟩
def endOfStream : ReceiveResult := ⟨.endOfStream, none⟩
def cancelled : ReceiveResult := ⟨.cancelled, none⟩

/-- The envelope handed to the application. -/
def delivered (r : ReceiveResult) : List Envelope := r.envelope.toList

end ReceiveResult

/-! ## Trace sinks -/

inductive ConnectionState where
  | disconnected | connecting | listening | connected | closed | error
  deriving DecidableEq, Repr

/-- A callback of a trace sink with its arguments. -/
inductive SinkCall where
  | onSend (edgeId : String) (envelope : Envelope) (wireBytes : ℕ)
  | onReceive (edgeId : String) (envelope : Envelope) (wireBytes : ℕ) (latencyNs : Int64)
  | onError (edgeId : String) (message : String)
  | onConnection (edgeId : String) (state : ConnectionState)
  | onReconnect (edgeId : String)
  | onBackpressure (edgeId : String) (durationNs : ℕ) (rejected : Bool)

/-- A thrown value: an `std::exception`, or a value of another type, which a
    handler for `std::exception` lets pass. -/
inductive Thrown where
  | std (e : Exn)
  | other
  deriving DecidableEq

/-- A trace sink: what a callback throws, if anything, and the sink's next
    state. -/
structure TraceSink (σ : Type) where
  call : SinkCall → σ → Option Thrown × σ

/-- The sink that a transport without one uses. -/
def nullTraceSink : TraceSink Unit := ⟨fun _ s => (none, s)⟩

/-- The latency reported for an envelope received at `nowNs`. -/
def latency (nowNs : Int64) (e : Envelope) : Int64 := max 0 (nowNs - e.timestampNs)

def notify {ω σ : Type} (sink : TraceSink σ) (state : ω → σ) (update : σ → ω → ω) (c : SinkCall) :
    Act ω Thrown Unit := do
  let w ← get
  let (thrown, s) := sink.call c (state w)
  modify (update s)
  match thrown with
  | none => pure ()
  | some e => throw e

theorem run_notify {ω σ : Type} (sink : TraceSink σ) (state : ω → σ) (update : σ → ω → ω)
    (c : SinkCall) (w : ω) : (notify sink state update c).run w =
      match (sink.call c (state w)).1 with
      | none => .returned () (update (sink.call c (state w)).2 w)
      | some e => .threw e (update (sink.call c (state w)).2 w) := by
  rcases hc : sink.call c (state w) with ⟨_ | e, x⟩
  all_goals
    unfold notify
    simp only [Act.run_get_bind, hc]
    rfl

theorem keeps_notify {ω σ β : Type} {sink : TraceSink σ} {state : ω → σ} {update : σ → ω → ω}
    {part : ω → β} (h : ∀ s w, part (update s w) = part w) (c : SinkCall) :
    Act.Keeps part (notify sink state update c) := by
  intro w
  rw [run_notify]
  split <;> exact ⟨_, _, rfl, h _ w⟩

/-- `try … catch (const std::exception&)` -/
def catchStd {ω α : Type} (x : Act ω Thrown α) (handler : Exn → Act ω Thrown α) :
    Act ω Thrown α :=
  tryCatch x fun
    | .std e => handler e
    | .other => throw .other

end GraphX
