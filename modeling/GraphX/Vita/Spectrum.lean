/-
  Power spectra and their datagrams (`src/vita/processing.cpp`).

  A datagram has a header of fixed fields, a bit map of missing samples, a bit map of
  packet boundaries and the powers.  Powers are binary32 numbers, given by their bits.
  The sample timeline is a library of its own; `TimelineLibrary` is what is used of it.

  * **`spectrum_codec`**: encoding and decoding are inverse to each other on what they
    accept.
-/
import GraphX.Envelope
import GraphX.Lib.Check
import GraphX.Lib.Layout

namespace GraphX.Vita

open Layout List

/-! ## Times -/

/-- `vr::runtime::timing::ProtocolTime` -/
structure ProtocolTime where
  seconds : UInt64
  picoseconds : UInt64
  deriving DecidableEq

/-- `vr::runtime::timing::SampleTimeline` -/
structure TimelineLibrary where
  Timeline : Type
  create : ProtocolTime → (rate : UInt32) → Option Timeline
  advance : Timeline → (samples : UInt64) → Option Timeline
  time : Timeline → ProtocolTime

/-! ## Spectra -/

structure ProcessingConfig where
  rate : UInt32
  size : UInt32
  overlap : UInt32
  hann : Bool
  deriving DecidableEq

structure Spectrum where
  stream : UInt32
  sequence : UInt32
  rate : UInt32
  size : UInt32
  hop : UInt32
  valid : UInt32
  hann : Bool
  center : UInt64
  discontinuities : UInt64
  ordinal : UInt64
  sequenceGaps : UInt64
  begin : ProtocolTime
  «end» : ProtocolTime
  epoch : ProtocolTime
  /-- The bits of the powers. -/
  power : List UInt32
  gaps : Bytes
  boundaries : Bytes
  deriving DecidableEq

def require (yes : Bool) : Result Unit :=
  if yes then .ok () else .error (.invalidArgument "invalid power spectrum")

/-- `std::has_single_bit` -/
def hasSingleBit (n : ℕ) : Bool := n ≠ 0 && n &&& (n - 1) = 0

namespace ProcessingConfig

def hop (c : ProcessingConfig) : UInt32 := c.size * (100 - c.overlap) / 100

def validate (c : ProcessingConfig) : Result Unit := do
  require (1000 ≤ c.rate && c.rate ≤ 2000000 && 64 ≤ c.size && c.size ≤ 2048 &&
    hasSingleBit c.size.toNat)
  require (c.overlap = 0 || c.overlap = 50 || c.overlap = 75)

end ProcessingConfig

def spectrumBytes (n : ℕ) : Result ℕ := do
  require (64 ≤ n && n ≤ 2048 && hasSingleBit n)
  pure (132 + n / 4 + 4 * n)

/-- `std::isfinite(power) && power >= 0`: the exponent is not the greatest, and the sign is
    set only for zero. -/
def isPower (bits : UInt32) : Bool :=
  bits >>> 23 &&& 0xff ≠ 0xff && (bits < 0x80000000 || bits = 0x80000000)

def popcount (b : UInt8) : ℕ := (List.range 8).countP fun i => b.toNat.testBit i

/-- The result of a library call that may fail. -/
def requireSome {α : Type} : Option α → Result α
  | some a => .ok a
  | none => .error (.invalidArgument "invalid power spectrum")

def validate (L : TimelineLibrary) (s : Spectrum) : Result Unit := do
  require (s.hop ≠ 0 && s.hop ≤ s.size && s.size % s.hop = 0)
  ProcessingConfig.validate ⟨s.rate, s.size, 100 - s.hop * 100 / s.size, s.hann⟩
  require (1 ≤ s.stream && s.stream ≤ 4 && 1000000 ≤ s.center && s.center ≤ 6000000000)
  require (s.valid ≤ s.size && s.power.length = s.size.toNat && s.gaps.length = s.size.toNat / 8 &&
    s.boundaries.length = s.size.toNat / 8 + 4)
  require (s.boundaries.getD (s.size.toNat / 8) 0 &&& 127 = 0)
  require ((s.boundaries.drop (s.size.toNat / 8 + 1)).all (· = 0))
  let timeline ← requireSome (L.create s.epoch s.rate)
  let timeline ← requireSome (L.advance timeline s.ordinal)
  require (L.time timeline = s.begin)
  let timeline ← requireSome (L.advance timeline s.size.toUInt64)
  require (L.time timeline = s.end)
  let missing := (s.gaps.map popcount).sum
  require (s.valid.toNat + missing = s.size.toNat)
  require (s.power.all isPower)

/-! ## Datagrams -/

/-- The fields of the header: offset, value and width. -/
def header (s : Spectrum) (total : ℕ) : List (ℕ × ℕ × ℕ) :=
  [(0, 0x47585032, 4), (4, 1, 2), (6, 128, 2), (8, total, 4), (12, s.stream.toNat, 4),
    (16, s.sequence.toNat, 4), (20, s.size.toNat, 4), (24, s.hop.toNat, 4),
    (28, s.hann.toNat, 1), (29, 1, 1), (30, 1, 1), (32, s.center.toNat, 8),
    (40, s.rate.toNat, 8), (48, s.begin.seconds.toNat, 8), (56, s.begin.picoseconds.toNat, 8),
    (64, s.end.seconds.toNat, 8), (72, s.end.picoseconds.toNat, 8), (80, s.valid.toNat, 4),
    (84, (s.size - s.valid).toNat, 4), (88, s.discontinuities.toNat, 8),
    (96, s.epoch.seconds.toNat, 8), (104, s.epoch.picoseconds.toNat, 8),
    (112, s.ordinal.toNat, 8), (120, s.sequenceGaps.toNat, 8)]

def encodeSpectrum (L : TimelineLibrary) (s : Spectrum) : Result Bytes := do
  validate L s
  let total ← spectrumBytes s.size.toNat
  let n := s.size.toNat
  let out := (header s total).foldl (fun out f => Layout.put out f.1 f.2.1 f.2.2) (List.replicate total 0)
  let out := copy out 128 s.gaps
  let out := copy out (128 + n / 8) s.boundaries
  pure (s.power.zipIdx.foldl (fun out p => Layout.put out (132 + n / 4 + 4 * p.2) p.1.toNat 4) out)

/-- The spectrum that the bytes describe, its size being known. -/
def fieldsOf (bytes : Bytes) : Spectrum :=
  let n := get bytes 20 4
  { stream := .ofNat (get bytes 12 4)
    sequence := .ofNat (get bytes 16 4)
    size := .ofNat (get bytes 20 4)
    hop := .ofNat (get bytes 24 4)
    hann := get bytes 28 1 ≠ 0
    center := .ofNat (get bytes 32 8)
    rate := .ofNat (get bytes 40 8)
    begin := ⟨.ofNat (get bytes 48 8), .ofNat (get bytes 56 8)⟩
    «end» := ⟨.ofNat (get bytes 64 8), .ofNat (get bytes 72 8)⟩
    valid := .ofNat (get bytes 80 4)
    discontinuities := .ofNat (get bytes 88 8)
    epoch := ⟨.ofNat (get bytes 96 8), .ofNat (get bytes 104 8)⟩
    ordinal := .ofNat (get bytes 112 8)
    sequenceGaps := .ofNat (get bytes 120 8)
    boundaries := (bytes.drop (128 + n / 8)).take (n / 4 + 4 - n / 8)
    gaps := (bytes.drop 128).take (n / 8)
    power := (List.range n).map fun i => .ofNat (get bytes (132 + n / 4 + 4 * i) 4) }

def decodeSpectrum (L : TimelineLibrary) (bytes : Bytes) : Result Spectrum := do
  require (128 ≤ bytes.length && get bytes 0 4 = 0x47585032 && get bytes 4 2 = 1 &&
    get bytes 6 2 = 128 && get bytes 8 4 = bytes.length)
  let s := fieldsOf bytes
  let total ← spectrumBytes s.size.toNat
  require (bytes.length = total)
  require (get bytes 28 1 ≤ 1 && get bytes 29 1 = 1 && get bytes 30 1 = 1 && get bytes 31 1 = 0)
  require (get bytes 40 8 ≤ 2000000)
  require (get bytes 84 4 = (s.size - s.valid).toNat)
  validate L s
  pure s

/-! ## A datagram is its fields one after the other -/

/-- The fields of the header in order, with the byte that is not written. -/
def headerFields (s : Spectrum) (total : ℕ) : List (ℕ × ℕ) :=
  [(4, 0x47585032), (2, 1), (2, 128), (4, total), (4, s.stream.toNat), (4, s.sequence.toNat),
    (4, s.size.toNat), (4, s.hop.toNat), (1, s.hann.toNat), (1, 1), (1, 1), (1, 0),
    (8, s.center.toNat), (8, s.rate.toNat), (8, s.begin.seconds.toNat),
    (8, s.begin.picoseconds.toNat), (8, s.end.seconds.toNat), (8, s.end.picoseconds.toNat),
    (4, s.valid.toNat), (4, (s.size - s.valid).toNat), (8, s.discontinuities.toNat),
    (8, s.epoch.seconds.toNat), (8, s.epoch.picoseconds.toNat), (8, s.ordinal.toNat),
    (8, s.sequenceGaps.toNat)]

def headerWidths : List ℕ :=
  [4, 2, 2, 4, 4, 4, 4, 4, 1, 1, 1, 1, 8, 8, 8, 8, 8, 8, 4, 4, 8, 8, 8, 8, 8]

theorem length_header (s : Spectrum) (total : ℕ) : (flat (headerFields s total)).length = 128 := by
  rfl

theorem foldl_header (s : Spectrum) (total k : ℕ) :
    (header s total).foldl (fun out f => Layout.put out f.1 f.2.1 f.2.2) (replicate (128 + k) 0) =
      flat (headerFields s total) ++ replicate k 0 := by
  have htable := @foldl_copy ((header s total).map fun f => (f.1, Codec.toBE f.2.2 f.2.1)) []
  have hinc : Increasing 0 ((header s total).map fun f => (f.1, Codec.toBE f.2.2 f.2.1)) := by
    simp [header, Increasing]
  have hfilled : filled 0 ((header s total).map fun f => (f.1, Codec.toBE f.2.2 f.2.1)) =
      flat (headerFields s total) := by
    simp [header, headerFields, filled, flat, Codec.toBE]
  have := htable hinc k
  rw [length_nil, hfilled] at this
  exact this

theorem require_eq_ok {yes : Bool} : require yes = .ok () ↔ yes = true := by
  unfold require
  split_ifs with h
  · simp [h]
  · simp [h]

/-- The length of a datagram. -/
def total (n : ℕ) : ℕ := 132 + n / 4 + 4 * n

theorem spectrumBytes_eq_ok {n m : ℕ} :
    spectrumBytes n = .ok m ↔ (64 ≤ n ∧ n ≤ 2048 ∧ hasSingleBit n = true) ∧ total n = m := by
  simp only [spectrumBytes, Check.bind_unit_eq_ok, require_eq_ok, Bool.and_eq_true,
    decide_eq_true_eq, and_assoc]
  refine and_congr_right fun _ => and_congr_right fun _ => and_congr_right fun _ => ?_
  exact ⟨fun h => by cases h; rfl, fun h => by rw [← h]; rfl⟩

theorem mod_eight {n : ℕ} (h : 64 ≤ n) (hbit : hasSingleBit n = true) : n % 8 = 0 := by
  simp only [hasSingleBit, Bool.and_eq_true, decide_eq_true_eq] at hbit
  by_contra hne
  have hshift : (n &&& (n - 1)) >>> 3 = (n >>> 3) &&& ((n - 1) >>> 3) := Nat.shiftRight_and_distrib
  have hdiv : (n - 1) / 8 = n / 8 := by omega
  simp only [Nat.shiftRight_eq_div_pow, hdiv, Nat.and_self] at hshift
  omega

/-- The lengths of the parts of a valid spectrum. -/
structure Shape (s : Spectrum) : Prop where
  size_ge : 64 ≤ s.size.toNat
  size_le : s.size.toNat ≤ 2048
  single : hasSingleBit s.size.toNat = true
  rate_le : s.rate.toNat ≤ 2000000
  power : s.power.length = s.size.toNat
  gaps : s.gaps.length = s.size.toNat / 8
  boundaries : s.boundaries.length = s.size.toNat / 8 + 4

variable {L : TimelineLibrary} {s : Spectrum}

theorem shape_of_validate (h : validate L s = .ok ()) : Shape s := by
  simp only [validate, ProcessingConfig.validate, Check.bind_unit_eq_ok, require_eq_ok,
    Bool.and_eq_true, decide_eq_true_eq] at h
  obtain ⟨-, ⟨⟨⟨⟨⟨-, hrate⟩, hge⟩, hle⟩, hsingle⟩, -⟩, -, ⟨⟨⟨-, hpower⟩, hgaps⟩, hboundaries⟩, -⟩ := h
  exact ⟨hge, hle, hsingle, hrate, hpower, hgaps, hboundaries⟩

/-- The fields one after the other. -/
def layout (s : Spectrum) : Bytes :=
  flat (headerFields s (total s.size.toNat)) ++ s.gaps ++ s.boundaries ++
    flat (s.power.map fun p => (4, p.toNat))

theorem Shape.length_front (h : Shape s) :
    (flat (headerFields s (total s.size.toNat)) ++ s.gaps ++ s.boundaries).length =
      132 + s.size.toNat / 4 := by
  have := mod_eight h.size_ge h.single
  rw [length_append, length_append, length_header, h.gaps, h.boundaries]
  omega

/-- **A datagram is its fields one after the other.** -/
theorem encodeSpectrum_eq (h : validate L s = .ok ()) : encodeSpectrum L s = .ok (layout s) := by
  have hshape := shape_of_validate h
  have hbytes : spectrumBytes s.size.toNat = .ok (total s.size.toNat) :=
    spectrumBytes_eq_ok.2 ⟨⟨hshape.size_ge, hshape.size_le, hshape.single⟩, rfl⟩
  have hfront := hshape.length_front
  have htotal : total s.size.toNat = 128 + (s.gaps.length + (s.boundaries.length +
      (4 * s.power.length + 0))) := by
    have := mod_eight hshape.size_ge hshape.single
    rw [total, hshape.gaps, hshape.boundaries, hshape.power]
    omega
  have hgaps := copy_here (flat (headerFields s (total s.size.toNat))) s.gaps
  have hboundaries := copy_here (flat (headerFields s (total s.size.toNat)) ++ s.gaps) s.boundaries
  rw [length_header] at hgaps
  rw [length_append, length_header, hshape.gaps] at hboundaries
  have hpower := @foldl_array _ UInt32.toNat _ s.power (132 + s.size.toNat / 4) 4 0 hfront 0
  have hzeros : replicate (total s.size.toNat) (0 : UInt8) = replicate (128 +
      (s.gaps.length + (s.boundaries.length + (4 * s.power.length + 0)))) 0 := by rw [htotal]
  rw [encodeSpectrum, h]
  rw [hbytes]
  refine congrArg Except.ok ?_
  rw [hzeros, foldl_header, hgaps, hboundaries, hpower, replicate_zero, append_nil, layout]

/-! ## Reading the fields -/

theorem fit32 (x : UInt32) : x.toNat < 256 ^ 4 := x.toNat_lt

theorem fit64 (x : UInt64) : x.toNat < 256 ^ 8 := x.toNat_lt

section

variable (h : Shape s)
include h

theorem Shape.total_lt : total s.size.toNat < 256 ^ 4 := by
  have := h.size_le
  unfold total
  omega

theorem headerFields_fit : ∀ f ∈ headerFields s (total s.size.toNat), f.2 < 256 ^ f.1 := by
  have hhann : s.hann.toNat < 256 ^ 1 := by cases s.hann <;> decide
  simp only [headerFields, forall_mem_cons]
  refine ⟨by decide, by decide, by decide, h.total_lt, fit32 _, fit32 _, fit32 _, fit32 _, hhann,
    by decide, by decide, by decide, fit64 _, ?_, fit64 _, fit64 _, fit64 _, fit64 _, fit32 _,
    fit32 _, fit64 _, fit64 _, fit64 _, fit64 _, fit64 _, by simp⟩
  exact (fit32 s.rate).trans (by norm_num)

theorem readAll_layout :
    readAll (layout s) 0 headerWidths = headerFields s (total s.size.toNat) := by
  have hread := @readAll_flat [] (s.gaps ++ s.boundaries ++ flat (s.power.map fun p => (4, p.toNat)))
    (headerFields s (total s.size.toNat)) (headerFields_fit h)
  rw [layout, append_assoc, append_assoc, ← append_assoc s.gaps]
  exact hread

theorem Shape.gaps_layout : ((layout s).drop 128).take (s.size.toNat / 8) = s.gaps := by
  have hassoc : layout s = flat (headerFields s (total s.size.toNat)) ++ (s.gaps ++
      (s.boundaries ++ flat (s.power.map fun p => (4, p.toNat)))) := by
    simp only [layout, append_assoc]
  rw [hassoc, drop_left' (length_header _ _), take_left' h.gaps]

theorem Shape.boundaries_layout :
    ((layout s).drop (128 + s.size.toNat / 8)).take (s.size.toNat / 4 + 4 - s.size.toNat / 8) =
      s.boundaries := by
  have hmod := mod_eight h.size_ge h.single
  have hlength : (flat (headerFields s (total s.size.toNat)) ++ s.gaps).length =
      128 + s.size.toNat / 8 := by
    rw [length_append, length_header, h.gaps]
  rw [layout, append_assoc, drop_left' hlength, take_left' (h.boundaries.trans _)]
  omega

theorem Shape.power_layout :
    (range s.size.toNat).map (fun i =>
      UInt32.ofNat (Layout.get (layout s) (132 + s.size.toNat / 4 + 4 * i) 4)) = s.power := by
  have hfit : ∀ f ∈ s.power.map fun p => (4, p.toNat), f.2 < 256 ^ f.1 := by
    intro f hf
    obtain ⟨p, -, rfl⟩ := mem_map.1 hf
    exact fit32 p
  have hread := @readAll_flat (flat (headerFields s (total s.size.toNat)) ++ s.gaps ++ s.boundaries) []
    (s.power.map fun p => (4, p.toNat)) hfit
  have hwidths : (s.power.map fun p => (4, p.toNat)).map Prod.fst =
      replicate s.size.toNat 4 := by
    rw [map_map, ← h.power]
    exact map_const
  rw [h.length_front, hwidths, readAll_replicate, append_nil] at hread
  have hvalues := congrArg (map fun f => UInt32.ofNat f.2) hread
  simp only [map_map, Function.comp_def, UInt32.ofNat_toNat, map_id'] at hvalues
  exact hvalues

theorem fieldsOf_layout : fieldsOf (layout s) = s := by
  have hread := readAll_layout h
  simp only [readAll, headerWidths, headerFields, cons.injEq, Prod.mk.injEq] at hread
  obtain ⟨-, -, -, -, hstream, hsequence, hsize, hhop, hhann, -, -, -, hcenter, hrate, hbegin,
    hbegin', hend, hend', hvalid, -, hdiscontinuities, hepoch, hepoch', hordinal, hgaps⟩ := hread
  have hbool : decide (s.hann.toNat ≠ 0) = s.hann := by cases s.hann <;> rfl
  simp [fieldsOf, hstream, hsequence, hsize, hhop, hhann, hcenter, hrate, hbegin, hbegin', hend,
    hend', hvalid, hdiscontinuities, hepoch, hepoch', hordinal, hgaps, h.gaps_layout,
    h.boundaries_layout, h.power_layout]

end

theorem toNat_get32 (bytes : Bytes) (offset : ℕ) :
    (UInt32.ofNat (Layout.get bytes offset 4)).toNat = Layout.get bytes offset 4 :=
  UInt32.toNat_ofNat_of_lt' (get_lt bytes offset 4)

theorem toNat_get64 (bytes : Bytes) (offset : ℕ) :
    (UInt64.ofNat (Layout.get bytes offset 8)).toNat = Layout.get bytes offset 8 :=
  UInt64.toNat_ofNat_of_lt' (get_lt bytes offset 8)

/-- The bytes that are accepted: the fields of the header are those of the spectrum, and the
    length is that of its datagram. -/
theorem decodeSpectrum_eq_ok {bytes : Bytes} :
    decodeSpectrum L bytes = .ok s ↔ fieldsOf bytes = s ∧ validate L s = .ok () ∧
      bytes.length = total s.size.toNat ∧
      readAll bytes 0 headerWidths = headerFields s (total s.size.toNat) := by
  rw [decodeSpectrum, Check.bind_unit_eq_ok, Check.bind_eq_ok]
  simp only [Check.bind_unit_eq_ok, require_eq_ok, spectrumBytes_eq_ok, Bool.and_eq_true,
    decide_eq_true_eq, readAll, headerWidths, headerFields, cons.injEq, Prod.mk.injEq, true_and]
  constructor
  · rintro ⟨⟨⟨⟨⟨-, hmagic⟩, hversion⟩, hheader⟩, hlength⟩, _, ⟨-, rfl⟩, htotal,
      ⟨⟨⟨hhann, hnorm⟩, haxis⟩, hreserved⟩, hrate, hmissing, hvalid, hs⟩
    cases hs
    have hrate' : (UInt32.ofNat (Layout.get bytes 40 8)).toNat = Layout.get bytes 40 8 :=
      UInt32.toNat_ofNat_of_lt' (lt_of_le_of_lt hrate (by decide))
    have hbool : (decide (Layout.get bytes 28 1 ≠ 0)).toNat = Layout.get bytes 28 1 := by
      interval_cases Layout.get bytes 28 1 <;> rfl
    refine ⟨rfl, hvalid, htotal, hmagic, hversion, hheader, hlength.trans htotal, ?_⟩
    simp only [fieldsOf, toNat_get32, toNat_get64, hrate', hbool, hnorm, haxis, hreserved, true_and,
      and_true]
    exact hmissing
  · rintro ⟨rfl, hvalid, hlength, hmagic, hversion, hheader, htotal, -, -, -, -, hhann, hnorm, haxis,
      hreserved, -, hrate, -, -, -, -, -, hmissing, -⟩
    have hshape := shape_of_validate hvalid
    have hbool : (fieldsOf bytes).hann.toNat ≤ 1 := Bool.toNat_le _
    refine ⟨⟨⟨⟨⟨?_, hmagic⟩, hversion⟩, hheader⟩, htotal.trans hlength.symm⟩, _,
      ⟨⟨hshape.size_ge, hshape.size_le, hshape.single⟩, rfl⟩, hlength,
      ⟨⟨⟨hhann.le.trans hbool, hnorm⟩, haxis⟩, hreserved⟩, hrate.le.trans hshape.rate_le, hmissing,
      hvalid, rfl⟩
    rw [hlength, total]
    omega

/-- **What is encoded is decoded.** -/
theorem decode_layout (h : validate L s = .ok ()) : decodeSpectrum L (layout s) = .ok s := by
  have hshape := shape_of_validate h
  refine decodeSpectrum_eq_ok.2 ⟨fieldsOf_layout hshape, h, ?_, readAll_layout hshape⟩
  have hsum : ((s.power.map fun p => (4, p.toNat)).map Prod.fst).sum = 4 * s.size.toNat := by
    rw [map_map, ← hshape.power]
    exact (congrArg sum map_const).trans (by rw [sum_replicate]; ring)
  rw [layout, length_append, hshape.length_front, length_flat, hsum, total]

/-- What is accepted is the datagram of the spectrum. -/
theorem layout_fieldsOf {bytes : Bytes} (hfields : fieldsOf bytes = s) (hshape : Shape s)
    (hlength : bytes.length = total s.size.toNat)
    (hread : readAll bytes 0 headerWidths = headerFields s (total s.size.toNat)) :
    layout s = bytes := by
  have hmod := mod_eight hshape.size_ge hshape.single
  rw [total] at hlength
  have hsize : Layout.get bytes 20 4 = s.size.toNat := by
    rw [← hfields]
    exact (toNat_get32 bytes 20).symm
  have hheader : flat (headerFields s (total s.size.toNat)) = bytes.take 128 := by
    rw [← hread, flat_readAll (by change 0 + 128 ≤ _; omega), drop_zero]
    rfl
  have hgaps : s.gaps = (bytes.drop 128).take (s.size.toNat / 8) := by
    rw [← hsize]
    exact (congrArg Spectrum.gaps hfields).symm
  have hboundaries : s.boundaries = (bytes.drop (128 + s.size.toNat / 8)).take
      (s.size.toNat / 4 + 4 - s.size.toNat / 8) := by
    rw [← hsize]
    exact (congrArg Spectrum.boundaries hfields).symm
  have hpower : flat (s.power.map fun p => (4, p.toNat)) =
      (bytes.drop (132 + s.size.toNat / 4)).take (4 * s.size.toNat) := by
    have hvalues : s.power.map (fun p => (4, p.toNat)) =
        readAll bytes (132 + s.size.toNat / 4) (replicate s.size.toNat 4) := by
      rw [readAll_replicate, ← hsize, ← hfields]
      simp only [fieldsOf, map_map, Function.comp_def, toNat_get32]
    rw [hvalues, flat_readAll, sum_replicate, smul_eq_mul, mul_comm]
    rw [sum_replicate, smul_eq_mul]
    omega
  have hfront : 132 + s.size.toNat / 4 =
      128 + s.size.toNat / 8 + (s.size.toNat / 4 + 4 - s.size.toNat / 8) := by omega
  rw [layout, hheader, hgaps, hboundaries, hpower, hfront, ← take_add, ← take_add,
    ← take_add, take_of_length_le (by omega)]

/-- **The codec is a bijection** between the spectra that are encoded and the bytes that are
    decoded. -/
theorem spectrum_codec (L : TimelineLibrary) :
    (∀ s bytes, encodeSpectrum L s = .ok bytes → decodeSpectrum L bytes = .ok s) ∧
      ∀ bytes s, decodeSpectrum L bytes = .ok s → encodeSpectrum L s = .ok bytes := by
  constructor
  · intro s bytes h
    have hvalid : validate L s = .ok () := (Check.bind_unit_eq_ok.1 h).1
    rw [encodeSpectrum_eq hvalid] at h
    rw [← Except.ok.inj h]
    exact decode_layout hvalid
  · intro bytes s h
    obtain ⟨hfields, hvalid, hlength, hread⟩ := decodeSpectrum_eq_ok.1 h
    rw [encodeSpectrum_eq hvalid, layout_fieldsOf hfields (shape_of_validate hvalid) hlength hread]

end GraphX.Vita
