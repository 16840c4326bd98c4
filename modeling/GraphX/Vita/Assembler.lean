/-
  The assembler of samples (`SampleAssembler` of `src/vita/processing.cpp`).

  Packets of samples are put in order and cut into windows; a window that is full is
  transformed and emitted as a `Spectrum`, and the next one starts one hop later.  A sample
  that no packet brought is zero and missing; a large gap or another center frequency
  starts a new window.

  The arithmetic of the transform is that of `Arithmetic`, the decoding of packets that of
  the library, `VitaLibrary` being what is used of it.  An assembler also has a `Trace` of
  what happened: no decision depends on it.
-/
import GraphX.Lib.Bits
import GraphX.Lib.Triple
import GraphX.Vita.Spectrum

namespace GraphX

open Imperative List

namespace Vita

/-! ## The transform -/

/-- The arithmetic of `double` and `std::complex<double>`. -/
structure Arithmetic where
  Real : Type
  Complex : Type
  zero : Complex
  one : Complex
  add : Complex → Complex → Complex
  sub : Complex → Complex → Complex
  mul : Complex → Complex → Complex
  /-- `std::isfinite` of both parts -/
  isFinite : Complex → Bool
  none : Real
  whole : Real
  plus : Real → Real → Real
  /-- `.5 - .5 * std::cos(2 * std::numbers::pi * i / size)` -/
  hann : (i size : ℕ) → Real
  times : Complex → Real → Complex
  /-- `std::polar(1.0, -2 * std::numbers::pi / length)` -/
  root : (length : ℕ) → Complex
  /-- The bits of `static_cast<float>(std::norm(a) / (scale * scale))`. -/
  power : (a : Complex) → (scale : Real) → UInt32
  /-- `{iq.i / 32768.0, iq.q / 32768.0}` -/
  sample : Int16 → Int16 → Complex

section transform
variable (N : Arithmetic)

def swap (a : List N.Complex) (i j : ℕ) : List N.Complex :=
  (a.set i (a.getD j N.zero)).set j (a.getD i N.zero)

/-- The next number in the order of reversed bits; `bit` is zero before the fuel is. -/
def nextReversed : (fuel j bit : ℕ) → ℕ
  | 0, j, bit => j ^^^ bit
  | fuel + 1, j, bit =>
    if j &&& bit ≠ 0 then nextReversed fuel (j ^^^ bit) (bit >>> 1) else j ^^^ bit

def reverseOrder (size : ℕ) (a : List N.Complex) : List N.Complex :=
  ((List.range size).tail.foldl (fun (s : List N.Complex × ℕ) i =>
    let j := nextReversed size s.2 (size >>> 1)
    (if i < j then swap N s.1 i j else s.1, j)) (a, 0)).1

def butterflies (length base : ℕ) (a : List N.Complex) : List N.Complex :=
  ((List.range (length / 2)).foldl (fun (s : List N.Complex × N.Complex) k =>
    let u := s.1.getD (base + k) N.zero
    let v := N.mul s.2 (s.1.getD (base + k + length / 2) N.zero)
    ((s.1.set (base + k) (N.add u v)).set (base + k + length / 2) (N.sub u v),
      N.mul s.2 (N.root length))) (a, N.one)).1

/-- The stages of the transform, for windows of 2, 4, … samples. -/
def stages (size : ℕ) (a : List N.Complex) : List N.Complex :=
  (List.range size.log2).foldl (fun a k =>
    (List.range (size / 2 ^ (k + 1))).foldl (fun a b =>
      butterflies N (2 ^ (k + 1)) (b * 2 ^ (k + 1)) a) a) a

def powers (c : ProcessingConfig) (samples : List N.Complex) (missing : List Bool) : List UInt32 :=
  let n := c.size.toNat
  let weights := (List.range n).map fun i => if c.hann then N.hann i n else N.whole
  let scale := weights.foldl N.plus N.none
  let a := ((samples.zip weights).zip missing).map fun s =>
    if s.2 then N.zero else N.times s.1.1 s.1.2
  let a := stages N n (reverseOrder N n a)
  (List.range n).map fun i => N.power (a.getD ((i + n / 2) % n) N.zero) scale

def powerSpectrum (c : ProcessingConfig) (samples : List N.Complex) (missing : List Bool) :
    Result Spectrum := do
  c.validate
  require (samples.length = c.size.toNat && missing.length = c.size.toNat)
  require (samples.all N.isFinite)
  pure
    { stream := 0
      sequence := 0
      rate := c.rate
      size := c.size
      hop := c.hop
      valid := .ofNat (missing.countP (!·))
      hann := c.hann
      center := 0
      discontinuities := 0
      ordinal := 0
      sequenceGaps := 0
      begin := ⟨0, 0⟩
      «end» := ⟨0, 0⟩
      epoch := ⟨0, 0⟩
      power := powers N c samples missing
      gaps := Bits.mark (List.replicate (c.size.toNat / 8) 0) missing.zipIdx
      boundaries := List.replicate (c.size.toNat / 8 + 4) 0 }

theorem ProcessingConfig.validate_eq_ok {c : ProcessingConfig} :
    c.validate = .ok () ↔ (1000 ≤ c.rate.toNat ∧ c.rate.toNat ≤ 2000000) ∧
      (64 ≤ c.size.toNat ∧ c.size.toNat ≤ 2048 ∧ hasSingleBit c.size.toNat = true) ∧
      (c.overlap = 0 ∨ c.overlap = 50 ∨ c.overlap = 75) := by
  simp only [validate, Check.bind_unit_eq_ok, require_eq_ok, Bool.and_eq_true, Bool.or_eq_true,
    decide_eq_true_eq, and_assoc, or_assoc]
  rfl

theorem ProcessingConfig.size_cases {c : ProcessingConfig} (h : c.validate = .ok ()) :
    c.size = 64 ∨ c.size = 128 ∨ c.size = 256 ∨ c.size = 512 ∨ c.size = 1024 ∨ c.size = 2048 := by
  obtain ⟨-, ⟨hge, hle, hbit⟩, -⟩ := validate_eq_ok.1 h
  simp only [hasSingleBit, Bool.and_eq_true, decide_eq_true_eq] at hbit
  obtain ⟨k, hk⟩ := (Nat.and_sub_one_eq_zero_iff_isPowerOfTwo (by omega)).1 hbit.2
  have hk6 : 5 < k := (Nat.pow_lt_pow_iff_right (by decide : 1 < 2)).1 (by omega)
  have hk11 : k < 12 := (Nat.pow_lt_pow_iff_right (by decide : 1 < 2)).1 (by omega)
  simp only [← UInt32.toNat_inj, hk]
  interval_cases k <;> decide

/-- The windows are one hop apart, which is all of the window, a half or a quarter of it. -/
theorem ProcessingConfig.hop_cases {c : ProcessingConfig} (h : c.validate = .ok ()) :
    (c.hop ≠ 0 ∧ c.hop ≤ c.size ∧ c.size % c.hop = 0) ∧
      100 - c.hop * 100 / c.size = c.overlap := by
  have hsize := size_cases h
  obtain ⟨-, -, hoverlap⟩ := validate_eq_ok.1 h
  unfold hop
  rcases hsize with hsize | hsize | hsize | hsize | hsize | hsize <;>
    rcases hoverlap with hoverlap | hoverlap | hoverlap <;> rw [hsize, hoverlap] <;> decide

theorem ProcessingConfig.hop_le {c : ProcessingConfig} (h : c.validate = .ok ()) :
    0 < c.hop.toNat ∧ c.hop.toNat ≤ c.size.toNat := by
  obtain ⟨⟨hne, hle, -⟩, -⟩ := hop_cases h
  exact ⟨Nat.pos_of_ne_zero fun h0 => hne (UInt32.toNat_inj.1 h0), hle⟩

variable {N} {c : ProcessingConfig} {samples : List N.Complex} {missing : List Bool} {s : Spectrum}

theorem powerSpectrum_eq_ok (h : powerSpectrum N c samples missing = .ok s) :
    (c.validate = .ok () ∧ missing.length = c.size.toNat) ∧
      (s.rate = c.rate ∧ s.size = c.size ∧ s.hop = c.hop ∧ s.hann = c.hann) ∧
      (s.valid = .ofNat (missing.countP (!·)) ∧ s.power = powers N c samples missing ∧
      s.gaps = Bits.mark (replicate (c.size.toNat / 8) 0) missing.zipIdx ∧
      s.boundaries = replicate (c.size.toNat / 8 + 4) 0) := by
  simp only [powerSpectrum, Check.bind_unit_eq_ok, require_eq_ok, Bool.and_eq_true,
    decide_eq_true_eq] at h
  obtain ⟨hvalid, ⟨-, hmissing⟩, -, hs⟩ := h
  cases hs
  exact ⟨⟨hvalid, hmissing⟩, ⟨rfl, rfl, rfl, rfl⟩, rfl, rfl, rfl, rfl⟩

theorem bit_gaps (h : powerSpectrum N c samples missing = .ok s) (i : ℕ) :
    Bits.bit s.gaps i = missing.getD i false := by
  obtain ⟨⟨hvalid, hmissing⟩, -, -, -, hgaps, -⟩ := powerSpectrum_eq_ok h
  obtain ⟨-, ⟨hge, -, hbit⟩, -⟩ := ProcessingConfig.validate_eq_ok.1 hvalid
  have hmod := mod_eight hge hbit
  have hrange : ∀ p ∈ missing.zipIdx, p.2 / 8 < (replicate (c.size.toNat / 8) (0 : UInt8)).length := by
    intro p hp
    have hlt := snd_lt_of_mem_zipIdx hp
    rw [length_replicate]
    omega
  rw [hgaps, Bits.bit_mark hrange, Bits.bit_replicate, Bool.or_false, Bool.eq_iff_iff,
    decide_eq_true_iff, mk_mem_zipIdx_iff_getElem?, getD_eq_getElem?_getD]
  cases missing[i]? with
  | none | some b => simp

theorem countP_range_getD (l : List Bool) :
    (range l.length).countP (l.getD · false) = l.countP id := by
  have hmap : (range l.length).map (l.getD · false) = l := by
    refine ext_getElem (by simp) fun i h₁ h₂ => ?_
    simp [h₂]
  conv_rhs => rw [← hmap, countP_map]
  rfl

/-- **The valid samples and the gaps are all samples.** -/
theorem valid_add_gaps (h : powerSpectrum N c samples missing = .ok s) :
    s.valid.toNat + (s.gaps.map popcount).sum = c.size.toNat := by
  obtain ⟨⟨hvalid, hmissing⟩, -, hcount, -, hgaps, -⟩ := powerSpectrum_eq_ok h
  obtain ⟨-, ⟨hge, hle, hbit⟩, -⟩ := ProcessingConfig.validate_eq_ok.1 hvalid
  have hmod := mod_eight hge hbit
  have hlength : 8 * s.gaps.length = missing.length := by
    rw [hgaps, Bits.length_mark, length_replicate]
    omega
  have hsum : (s.gaps.map popcount).sum = missing.countP id := by
    have hones := Bits.sum_ones s.gaps
    rw [hlength, funext (bit_gaps h), countP_range_getD] at hones
    exact hones
  have htotal := length_eq_countP_add_countP id (l := missing)
  have hnot : missing.countP (fun b => ¬id b = true) = missing.countP (!·) :=
    countP_congr fun b _ => by cases b <;> decide
  have hfits : (UInt32.ofNat (missing.countP (!·))).toNat = missing.countP (!·) :=
    UInt32.toNat_ofNat_of_lt' (lt_of_le_of_lt (countP_le_length.trans (hmissing.trans_le hle))
      (by decide))
  rw [hcount]
  omega

end transform

/-! ## Packets and the assembler -/

/-- `vr::profiles::iq::SampleFrame` -/
inductive SampleFrame where
  | single | first | middle | final
  deriving DecidableEq

/-- What is used of the library. -/
structure VitaLibrary extends TimelineLibrary where
  /-- `vr::runtime::timing::valid` -/
  valid : ProtocolTime → Bool
  /-- `vr::profiles::iq::graphx_trailer` -/
  graphxTrailer : SampleFrame → UInt32

/-- `operator<` of `ProtocolTime` -/
def ProtocolTime.before (t t' : ProtocolTime) : Bool :=
  t.seconds < t'.seconds || (t.seconds = t'.seconds && t.picoseconds < t'.picoseconds)

structure Sample (N : Arithmetic) where
  value : N.Complex
  missing : Bool
  first : Bool
  final : Bool

structure Packet (N : Arithmetic) where
  time : ProtocolTime
  center : UInt64
  samples : List N.Complex
  count : UInt8
  first : Bool
  final : Bool
  /-- in nanoseconds -/
  arrival : ℤ

structure Hint where
  time : ProtocolTime
  count : UInt8
  first : Bool
  final : Bool
  deriving DecidableEq

/-- A packet and the number of its first sample in the epoch. -/
structure Accepted (N : Arithmetic) where
  start : UInt64
  packet : Packet N

/-- What happened in an epoch: the packets that were accepted, the spectra that were emitted
    since the last reset, and those before, from one reset to the next.  The latest one is
    always the first. -/
structure Trace (N : Arithmetic) where
  accepted : List (Accepted N)
  run : List Spectrum
  runs : List (List Spectrum)

def Trace.empty (N : Arithmetic) : Trace N := ⟨[], [], []⟩

/-- All spectra of the epoch. -/
def Trace.spectra {N : Arithmetic} (t : Trace N) : List Spectrum := t.run ++ t.runs.flatten

/-- `SampleAssembler` -/
structure Assembler (N : Arithmetic) where
  sid : UInt32
  sequence : UInt32
  config : ProcessingConfig
  hints : List Hint
  count : Option UInt8
  pending : List (Packet N)
  samples : List (Sample N)
  epoch : Option ProtocolTime
  center : UInt64
  ordinal : UInt64
  window : UInt64
  invalid : UInt64
  duplicates : UInt64
  skipped : UInt64
  sequenceGaps : UInt64
  trace : Trace N
  /-- The epochs before. -/
  past : List (ProtocolTime × Trace N)

namespace Assembler
variable {N : Arithmetic}

/-- The epochs and what happened in them. -/
def epochs (a : Assembler N) : List (ProtocolTime × Trace N) :=
  (a.epoch.map fun e => (e, a.trace)).toList ++ a.past

/-- The spectra that `emit_` was called with. -/
def emitted (a : Assembler N) : List Spectrum := a.epochs.flatMap fun e => e.2.spectra

/-- `SampleAssembler(sid, c, emit)`; the constructor throws unless `c` is valid. -/
def create (N : Arithmetic) (sid : UInt32) (c : ProcessingConfig) : Assembler N where
  sid := sid
  sequence := 0
  config := c
  hints := []
  count := none
  pending := []
  samples := []
  epoch := none
  center := 0
  ordinal := 0
  window := 0
  invalid := 0
  duplicates := 0
  skipped := 0
  sequenceGaps := 0
  trace := .empty N
  past := []

def push (a : Assembler N) (value : Sample N) : Assembler N :=
  { a with
    samples := a.samples ++ [value]
    ordinal := a.ordinal + 1 }

def setSequence (a : Assembler N) (n : UInt32) : Assembler N := { a with sequence := n }

/-- `emit_`, after which the window moves on. -/
def emit (a : Assembler N) (s : Spectrum) : Assembler N :=
  { a with
    samples := a.samples.drop a.config.hop.toNat
    window := a.window + a.config.hop.toUInt64
    trace := { a.trace with run := s :: a.trace.run } }

/-- The spectrum of the window, its transform and times being known. -/
def finish (a : Assembler N) (base : Spectrum) (epoch begin «end» : ProtocolTime) : Spectrum :=
  { base with
    epoch := epoch
    ordinal := a.window
    stream := a.sid
    sequence := a.sequence
    center := a.center
    discontinuities := a.skipped
    sequenceGaps := a.sequenceGaps
    boundaries := Bits.mark base.boundaries
      ((a.samples.take a.config.size.toNat).zipIdx.flatMap fun s =>
        [(s.1.first, s.2), (s.1.final, s.2 + 1)])
    begin := begin
    «end» := «end» }

/-- `start_epoch`, the time being valid. -/
def restart (a : Assembler N) (time : ProtocolTime) : Assembler N :=
  { a with
    past := a.epochs
    trace := .empty N
    epoch := some time
    ordinal := 0
    window := 0
    center := 0
    samples := []
    pending := []
    hints := []
    count := none }

/-- The first packet starts the epoch if nothing else did. -/
def begin (a : Assembler N) (time : ProtocolTime) : Assembler N :=
  { a with epoch := a.epoch.orElse fun _ => some time }

/-- The counters of an accepted packet, and its center. -/
def accept (a : Assembler N) (start : UInt64) (packet : Packet N) : Assembler N :=
  { a with
    sequenceGaps :=
      if a.count.any fun c => packet.count ≠ (c + 1) &&& 15 then a.sequenceGaps + 1
      else a.sequenceGaps
    count := some packet.count
    center := packet.center
    trace := { a.trace with accepted := ⟨start, packet⟩ :: a.trace.accepted } }

/-- The window starts again at `start`. -/
def reset (a : Assembler N) (start : UInt64) : Assembler N :=
  { a with
    skipped := a.skipped + ((start - a.ordinal) + .ofNat a.samples.length)
    samples := []
    ordinal := start
    window := start
    trace := { a.trace with run := [], runs := a.trace.run :: a.trace.runs } }

end Assembler

/-- What is put in the place of a sample that no packet brought. -/
def Sample.gap (N : Arithmetic) : Sample N := ⟨N.zero, true, false, false⟩

/-- The sample number `i` of the packet. -/
def Packet.sample {N : Arithmetic} (p : Packet N) (i : ℕ) : Sample N :=
  ⟨p.samples.getD i N.zero, false, p.first && i = 0, p.final && i + 1 = p.samples.length⟩

abbrev Call (N : Arithmetic) (α : Type) := Act (Assembler N) Exn α

section calls
variable {N : Arithmetic} {α : Type}

/-- A function that may throw. -/
def ofResult : Result α → Call N α
  | .ok a => pure a
  | .error e => throw e

/-- `*x`: it is undefined what happens if there is no value. -/
def deref : Option α → Call N α
  | some a => pure a
  | none => Act.block

def orThrow (e : Exn) : Option α → Call N α
  | some a => pure a
  | none => throw e

def overflow : Exn := .runtimeError "sample time overflow"

variable {β : Type} {f : α → Call N β} {a : Assembler N} {R : Post (Assembler N) Exn β}

theorem wp_ofResult_bind {x : Result α} (hok : ∀ v, x = .ok v → (f v).wp a R)
    (herror : ∀ e, x = .error e → R.threw e a) : (ofResult x >>= f).wp a R := by
  cases x with
  | ok v => exact hok v rfl
  | error e => exact herror e rfl

theorem wp_deref_bind {x : Option α} (hsome : ∀ v, x = some v → (f v).wp a R)
    (hnone : x = none → R.blocked a) : (deref x >>= f).wp a R := by
  cases x with
  | some v => exact hsome v rfl
  | none => exact hnone rfl

theorem wp_orThrow_bind {x : Option α} {e : Exn} (hsome : ∀ v, x = some v → (f v).wp a R)
    (hnone : x = none → R.threw e a) : (orThrow e x >>= f).wp a R := by
  cases x with
  | some v => exact hsome v rfl
  | none => exact hnone rfl

end calls

/-! ## Samples -/

section assembler
variable (L : VitaLibrary) {N : Arithmetic}

/-- The second part of `append`: the window is full. -/
def emitWindow : Call N Unit := do
  let a ← get
  let window := a.samples.take a.config.size.toNat
  let base ← ofResult (powerSpectrum N a.config (window.map (·.value)) (window.map (·.missing)))
  let epoch ← deref a.epoch
  modify fun a => a.setSequence (a.sequence + 1)
  let clock ← deref (L.create epoch a.config.rate)
  let first ← orThrow overflow (L.advance clock a.window)
  let last ← orThrow overflow (L.advance first a.config.size.toUInt64)
  modify (·.emit (a.finish base epoch (L.time first) (L.time last)))

def append (value : Sample N) : Call N Unit := do
  modify (·.push value)
  let a ← get
  Act.onlyIf (a.config.size.toNat ≤ a.samples.length) (emitWindow L)

/-! ## Packets -/

def int64Max : UInt64 := 0x7fffffffffffffff

/-- `static_cast<std::int64_t>` -/
def int64 (x : UInt64) : ℤ := (x.toNat : ℤ).bmod (2 ^ 64)

theorem int64_of_lt {x : UInt64} (h : x.toNat < 2 ^ 63) : int64 x = x.toNat :=
  Int.bmod_eq_of_le (by omega) (by omega)

/-- `static_cast<std::uint64_t>` -/
def uint64 (z : ℤ) : UInt64 := .ofNat (z % 2 ^ 64).toNat

def sampleNumber (rate : UInt32) (epoch time : ProtocolTime) : ℤ :=
  let ps := int64 time.picoseconds - int64 epoch.picoseconds
  int64 ((time.seconds - epoch.seconds) * rate.toUInt64) +
    (ps * rate.toNat + if 0 ≤ ps then 500000000000 else -500000000000).tdiv 1000000000000

/-- Whether the signed numbers on the way to the sample number have 64 bits: it is undefined
    what happens if one does not. -/
def fits (rate : UInt32) (epoch time : ProtocolTime) : Bool :=
  let ps := int64 time.picoseconds - int64 epoch.picoseconds
  let rounded := ps * rate.toNat + if 0 ≤ ps then 500000000000 else -500000000000
  [ps, ps * rate.toNat, rounded, sampleNumber rate epoch time].all fun z =>
    -2 ^ 63 ≤ z && z < 2 ^ 63

inductive Verdict where
  | duplicate | invalid | undefined
  | accept (start : UInt64)

/-- What becomes of a packet of an epoch. -/
def verdict (a : Assembler N) (epoch time : ProtocolTime) : Verdict :=
  if time.before epoch then .duplicate
  else if int64Max / a.config.rate.toUInt64 < time.seconds - epoch.seconds then .invalid
  else if !fits a.config.rate epoch time then .undefined
  else
    let number := sampleNumber a.config.rate epoch time
    if number < int64 a.ordinal then .duplicate
    else
      match L.create epoch a.config.rate with
      | none => .undefined
      | some clock =>
        match L.advance clock (uint64 number) with
        | none => .invalid
        | some clock => if L.time clock ≠ time then .invalid else .accept (uint64 number)

/-- The second part of `consume`: the packet is accepted. -/
def place (packet : Packet N) (start : UInt64) : Call N Unit := do
  let a ← get
  let gap := start - a.ordinal
  let changed : Bool := a.center ≠ 0 && a.center ≠ packet.center
  modify (·.accept start packet)
  if (2 * a.config.size).toUInt64 < gap || changed then modify (·.reset start)
  else (List.replicate gap.toNat (Sample.gap N)).forM (append L)
  ((List.range packet.samples.length).map packet.sample).forM (append L)

def consume (packet : Packet N) : Call N Unit := do
  modify (·.begin packet.time)
  let a ← get
  let epoch ← deref a.epoch
  match verdict L a epoch packet.time with
  | .duplicate => modify fun a => { a with duplicates := a.duplicates + 1 }
  | .invalid => modify fun a => { a with invalid := a.invalid + 1 }
  | .undefined => Act.block
  | .accept start => place L packet start

def startEpoch (time : ProtocolTime) : Call N Unit := do
  ofResult (require (L.valid time))
  modify (·.restart time)

/-! ## What is received -/

/-- What `vr::codec::decode_envelope` returns. -/
structure EnvelopeView where
  streamId : UInt32
  context : Bool
  signal : Bool
  /-- the time stamp counts seconds of UTC and picoseconds -/
  utc : Bool
  picoseconds : Bool
  time : ProtocolTime
  packetCount : UInt8
  trailer : Option UInt32

/-- The frame whose trailer it is; the last one of those that have it. -/
def frameOf (trailer : UInt32) : Option SampleFrame :=
  [SampleFrame.final, .middle, .first, .single].find? fun f => L.graphxTrailer f = trailer

def Assembler.addHint (a : Assembler N) (hint : Hint) : Assembler N :=
  if a.hints.length = 128 then
    { a with hints := a.hints.tail ++ [hint], invalid := a.invalid + 1 }
  else { a with hints := a.hints ++ [hint] }

def Assembler.observe (a : Assembler N) (view : Option EnvelopeView) : Bool × Assembler N :=
  match view with
  | none => (false, a)
  | some e =>
    if e.streamId ≠ a.sid then (false, a)
    else if e.context then (true, a)
    else if !e.signal || !e.utc || !e.picoseconds then (false, a)
    else
      match e.trailer.bind (frameOf L) with
      | none => (false, a)
      | some frame => (true, a.addHint
        { time := e.time
          count := e.packetCount
          first := frame = .single || frame = .first
          final := frame = .single || frame = .final })

/-- `vr::runtime::context::BorrowedSignalRx`: a rate or center that is no number of hertz, or
    a fragment that cannot be read, is absent. -/
structure BorrowedSignalRx where
  sampleTime : ProtocolTime
  known : Bool
  validData : Bool
  rate : Option ℤ
  center : Option ℤ
  fragments : List (Option (List (Int16 × Int16)))

def Assembler.refuse (a : Assembler N) : Assembler N := { a with invalid := a.invalid + 1 }

/-- The packet is put where `std::lower_bound` says. -/
def Assembler.insertPending (a : Assembler N) (packet : Packet N) : Assembler N :=
  let earlier := a.pending.takeWhile fun p => p.time.before packet.time
  let later := a.pending.dropWhile fun p => p.time.before packet.time
  if later.head?.any fun p => p.time = packet.time then { a with duplicates := a.duplicates + 1 }
  else { a with pending := earlier ++ packet :: later }

/-- The center frequency in hertz, if it is whole and in range. -/
def centerOf (q20 : ℤ) : Option UInt64 :=
  if q20 < 1000000 * 1048576 || 6000000000 * 1048576 < q20 || q20.tmod 1048576 ≠ 0 then none
  else some (uint64 (q20.tdiv 1048576))

def Assembler.receive (a : Assembler N) (rx : BorrowedSignalRx) (now : ℤ) : Assembler N :=
  if 0xffffffff < rx.sampleTime.seconds || 1000000000000 ≤ rx.sampleTime.picoseconds then a.refuse
  else if !rx.known || !rx.validData then a.refuse
  else if rx.rate ≠ some (a.config.rate.toNat * 1048576) then a.refuse
  else
    match a.hints.find? fun h => h.time = rx.sampleTime, rx.center.bind centerOf with
    | none, _ => a.refuse
    | some _, none => a.refuse
    | some hint, some center =>
      let a := { a with hints := a.hints.eraseP fun h => h.time = rx.sampleTime }
      match rx.fragments.mapM id with
      | none => a.refuse
      | some fragments =>
        let samples := fragments.flatten.map fun iq => N.sample iq.1 iq.2
        if samples.isEmpty || 1024 < samples.length || a.pending.length = 32 then a.refuse
        else a.insertPending
          { time := rx.sampleTime
            center := center
            samples := samples
            count := hint.count
            first := hint.first
            final := hint.final
            arrival := now }

/-- Whether the next sample is expected at the time. -/
def contiguous (a : Assembler N) (time : ProtocolTime) : Bool :=
  (do
    let expected ← L.create (← a.epoch) a.config.rate
    let expected ← L.advance expected a.ordinal
    pure (L.time expected = time : Bool)).getD false

/-- The loop of `progress`; `consume` leaves the pending packets alone. -/
def drain (now : ℤ) : List (Packet N) → Call N Unit
  | [] => pure ()
  | packet :: rest => do
    let a ← get
    if !contiguous L a packet.time && now - packet.arrival < 10000000 then pure ()
    else do
      modify fun a => { a with pending := rest }
      consume L packet
      drain now rest

def progress (now : ℤ) : Call N Unit := do
  let a ← get
  drain L now a.pending

/-! ## What a call can lead to -/

/-- The spectrum that is emitted when the window is full. -/
def Emits (a : Assembler N) (s : Spectrum) : Prop :=
  ∃ base epoch clock first last,
    powerSpectrum N a.config ((a.samples.take a.config.size.toNat).map (·.value))
      ((a.samples.take a.config.size.toNat).map (·.missing)) = .ok base ∧
    a.epoch = some epoch ∧ L.create epoch a.config.rate = some clock ∧
    L.advance clock a.window = some first ∧ L.advance first a.config.size.toUInt64 = some last ∧
    s = a.finish base epoch (L.time first) (L.time last)

variable {L} {a : Assembler N} {Q : Post (Assembler N) Exn Unit}

theorem wp_emitWindow
    (hemit : ∀ s, Emits L a s → Q.returned () ((a.setSequence (a.sequence + 1)).emit s))
    (hthrow : ∀ e n, Q.threw e (a.setSequence n)) (hblock : ∀ n, Q.blocked (a.setSequence n)) :
    (emitWindow L).wp a Q := by
  refine wp_ofResult_bind (fun base hbase => ?_) fun e _ => hthrow e a.sequence
  refine wp_deref_bind (fun epoch hepoch => ?_) fun _ => hblock a.sequence
  refine wp_deref_bind (fun clock hclock => ?_) fun _ => hblock _
  refine wp_orThrow_bind (fun first hfirst => ?_) fun _ => hthrow overflow _
  refine wp_orThrow_bind (fun last hlast => ?_) fun _ => hthrow overflow _
  exact hemit _ ⟨base, epoch, clock, first, last, hbase, hepoch, hclock, hfirst, hlast, rfl⟩

theorem wp_append {value : Sample N}
    (hshort : (a.push value).samples.length < a.config.size.toNat → Q.returned () (a.push value))
    (hfull : a.config.size.toNat ≤ (a.push value).samples.length → ∀ s, Emits L (a.push value) s →
      Q.returned () (((a.push value).setSequence (a.sequence + 1)).emit s))
    (hthrow : ∀ e n, Q.threw e ((a.push value).setSequence n))
    (hblock : ∀ n, Q.blocked ((a.push value).setSequence n)) : (append L value).wp a Q := by
  rw [append, Act.wp_modify_bind, Act.wp_get_bind]
  by_cases hlength : a.config.size.toNat ≤ (a.push value).samples.length
  · have hdecide : decide ((a.push value).config.size.toNat ≤ (a.push value).samples.length) = true :=
      decide_eq_true hlength
    rw [hdecide]
    exact wp_emitWindow (hfull hlength) hthrow hblock
  · have hdecide : decide ((a.push value).config.size.toNat ≤ (a.push value).samples.length) = false :=
      decide_eq_false hlength
    rw [hdecide]
    exact hshort (not_le.1 hlength)

theorem wp_place {packet : Packet N} {start : UInt64}
    (hreset : (((range packet.samples.length).map packet.sample).forM (append L)).wp
      ((a.accept start packet).reset start) Q)
    (hfill : a.center = 0 ∨ a.center = packet.center →
      ((replicate (start - a.ordinal).toNat (Sample.gap N)).forM (append L)).wp
        (a.accept start packet)
        ⟨fun _ a' => (((range packet.samples.length).map packet.sample).forM (append L)).wp a' Q,
          Q.threw, Q.blocked⟩) : (place L packet start).wp a Q := by
  rw [place, Act.wp_get_bind]
  rw [Act.wp_modify_bind]
  split_ifs with hnew
  · exact hreset
  · refine Act.wp_bind.2 (hfill ?_)
    simp only [Bool.or_eq_true, Bool.and_eq_true, decide_eq_true_eq, not_or, not_and, not_not] at hnew
    by_cases hzero : a.center = 0
    · exact Or.inl hzero
    · exact Or.inr (hnew.2 hzero)

theorem wp_consume {packet : Packet N} {b : Assembler N} (hb : a.begin packet.time = b)
    (hduplicate : Q.returned () { b with duplicates := b.duplicates + 1 })
    (hinvalid : Q.returned () { b with invalid := b.invalid + 1 }) (hblock : Q.blocked b)
    (haccept : ∀ epoch start, b.epoch = some epoch → verdict L b epoch packet.time = .accept start →
      (place L packet start).wp b Q) : (consume L packet).wp a Q := by
  rw [consume, Act.wp_modify_bind, Act.wp_get_bind, hb]
  refine wp_deref_bind (fun epoch hepoch => ?_) fun _ => hblock
  cases hverdict : verdict L b epoch packet.time with
  | duplicate => exact hduplicate
  | invalid => exact hinvalid
  | undefined => exact hblock
  | accept start => exact haccept epoch start hepoch hverdict

end assembler

end Vita

end GraphX
