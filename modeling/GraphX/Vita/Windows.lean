/-
  What the spectra of an assembler are the spectra of.

  The packets that were accepted in an epoch make up a signal: at each ordinal the sample
  that a packet brought, and a missing one where none did (`signal`).  The samples that the
  assembler holds are a window of the signal (`Tracks`), and every spectrum is that of a
  window (`Windowed`).

  `consume` takes a center of 0 for none, so that a packet with this center is not told from
  the next one; numbers from 2 ^ 63 on, which need a time of more than 2 ^ 32 seconds, are
  taken for negative ones.  `receive` makes no packet of either kind: `Fed`.

  * **`spectra_windowed`**: the spectra of every run are those of windows of the signal.
-/
import GraphX.Vita.Assembler

namespace GraphX

open Imperative List

namespace Vita

variable {L : VitaLibrary} {N : Arithmetic}

/-! ## The signal of an epoch -/

/-- The packet brought the sample with this ordinal. -/
def Accepted.Supplies (p : Accepted N) (o : ℕ) : Prop :=
  p.start.toNat ≤ o ∧ o < p.start.toNat + p.packet.samples.length

instance Accepted.decidableSupplies (p : Accepted N) (o : ℕ) : Decidable (p.Supplies o) :=
  inferInstanceAs (Decidable (_ ∧ _))

/-- The sample with this ordinal. -/
def signal : List (Accepted N) → ℕ → Sample N
  | [], _ => .gap N
  | p :: accepted, o =>
    if p.Supplies o then p.packet.sample (o - p.start.toNat) else signal accepted o

variable {accepted : List (Accepted N)}

theorem signal_gap {o : ℕ} (h : ∀ p ∈ accepted, ¬p.Supplies o) : signal accepted o = .gap N := by
  induction accepted with
  | nil => rfl
  | cons p accepted ih =>
    obtain ⟨hp, hrest⟩ := forall_mem_cons.1 h
    rw [signal, if_neg hp, ih hrest]

/-- A sample is missing iff no packet brought it. -/
theorem missing_signal {o : ℕ} :
    (signal accepted o).missing = true ↔ ∀ p ∈ accepted, ¬p.Supplies o := by
  induction accepted with
  | nil => simp [signal, Sample.gap]
  | cons p accepted ih =>
    rw [signal]
    split_ifs with hp
    · simp [hp, Packet.sample]
    · simp [hp, ih]

/-- The samples from `start` on. -/
def window (accepted : List (Accepted N)) (start size : ℕ) : List (Sample N) :=
  (List.range' start size).map (signal accepted)

@[simp] theorem length_window (accepted : List (Accepted N)) (start size : ℕ) :
    (window accepted start size).length = size := by
  simp [window]

theorem window_succ (accepted : List (Accepted N)) (start size : ℕ) :
    window accepted start (size + 1) = window accepted start size ++ [signal accepted (start + size)] := by
  simp [window, range'_concat]

theorem drop_window (accepted : List (Accepted N)) (start size k : ℕ) :
    (window accepted start size).drop k = window accepted (start + k) (size - k) := by
  simp [window, ← map_drop]

variable {p : Accepted N}

/-- A window before a packet does not see it. -/
theorem window_before {start size : ℕ} (h : start + size ≤ p.start.toNat) :
    window (p :: accepted) start size = window accepted start size := by
  refine map_congr_left fun o ho => ?_
  have hlt : o < start + size := by
    obtain ⟨i, hi, rfl⟩ := mem_range'.1 ho
    omega
  rw [signal, if_neg]
  rintro ⟨hge, -⟩
  omega

/-- A window after all packets is empty. -/
theorem window_after {start size : ℕ}
    (h : ∀ p ∈ accepted, ∀ o, start ≤ o → o < start + size → ¬p.Supplies o) :
    window accepted start size = replicate size (.gap N) := by
  refine eq_replicate_iff.2 ⟨length_window _ _ _, fun b hb => ?_⟩
  obtain ⟨o, ho, rfl⟩ := mem_map.1 hb
  obtain ⟨i, hi, rfl⟩ := mem_range'.1 ho
  exact signal_gap fun p hp => h p hp _ (by omega) (by omega)

theorem window_packet (p : Accepted N) (accepted : List (Accepted N)) :
    window (p :: accepted) p.start.toNat p.packet.samples.length =
      (range p.packet.samples.length).map p.packet.sample := by
  rw [window, range'_eq_map_range, map_map]
  refine map_congr_left fun i hi => ?_
  have hi := mem_range.1 hi
  rw [Function.comp_apply, signal, if_pos ⟨by omega, by omega⟩, Nat.add_sub_cancel_left]

/-! ## Spectra of windows -/

variable {c : ProcessingConfig} {e : ProtocolTime} {a : Assembler N}

/-- The spectrum is that of the window of the signal that it names. -/
structure Windowed (c : ProcessingConfig) (e : ProtocolTime) (accepted : List (Accepted N))
    (s : Spectrum) : Prop where
  epoch : s.epoch = e
  transform : ∃ base, powerSpectrum N c
      ((window accepted s.ordinal.toNat c.size.toNat).map (·.value))
      ((window accepted s.ordinal.toNat c.size.toNat).map (·.missing)) = .ok base ∧
    s.power = base.power ∧ s.gaps = base.gaps ∧ s.valid = base.valid
  center : ∀ p ∈ accepted, ∀ i < c.size.toNat, p.Supplies (s.ordinal.toNat + i) →
    p.packet.center = s.center

/-- One window is a hop after the other. -/
def Hop (c : ProcessingConfig) (later earlier : Spectrum) : Prop :=
  later.ordinal.toNat = earlier.ordinal.toNat + c.hop.toNat

structure Good (c : ProcessingConfig) (e : ProtocolTime) (t : Trace N) : Prop where
  spectra : ∀ s ∈ t.spectra, Windowed c e t.accepted s
  hops : ∀ run ∈ t.run :: t.runs, run.IsChain (Hop c)

/-- The samples that are held are those of the signal from the start of the window to the
    next ordinal, and the spectra before are good. -/
structure Holds (c : ProcessingConfig) (e : ProtocolTime) (a : Assembler N) : Prop where
  config : a.config = c
  epoch : a.epoch = some e
  ordinal : a.ordinal.toNat = a.window.toNat + a.samples.length
  samples : a.samples = window a.trace.accepted a.window.toNat a.samples.length
  center : ∀ p ∈ a.trace.accepted, ∀ o, a.window.toNat ≤ o → p.Supplies o →
    p.packet.center = a.center
  next : ∀ s ∈ a.trace.run.head?, a.window.toNat = s.ordinal.toNat + c.hop.toNat
  spectra : ∀ s ∈ a.trace.spectra, s.ordinal.toNat + c.size.toNat ≤ a.ordinal.toNat
  good : Good c e a.trace

/-- The window is not full yet. -/
structure Tracks (c : ProcessingConfig) (e : ProtocolTime) (a : Assembler N) : Prop
    extends Holds c e a where
  short : a.samples.length < c.size.toNat

/-- What the samples leave alone. -/
structure Same (a a' : Assembler N) : Prop where
  epoch : a'.epoch = a.epoch
  center : a'.center = a.center
  accepted : a'.trace.accepted = a.trace.accepted
  past : a'.past = a.past

theorem Same.trans {a' a'' : Assembler N} (h : Same a a') (h' : Same a' a'') : Same a a'' :=
  ⟨h'.epoch.trans h.epoch, h'.center.trans h.center, h'.accepted.trans h.accepted,
    h'.past.trans h.past⟩

theorem toNat_succ {o : UInt64} (h : o.toNat + 1 < 2 ^ 64) : (o + 1).toNat = o.toNat + 1 := by
  rw [UInt64.toNat_add, Nat.mod_eq_of_lt (by exact h)]
  rfl

variable {s : Spectrum}

theorem Good.emit {t : Trace N} (h : Good c e t) (hs : Windowed c e t.accepted s)
    (hnext : ∀ s' ∈ t.run.head?, s.ordinal.toNat = s'.ordinal.toNat + c.hop.toNat) :
    Good c e { t with run := s :: t.run } := by
  obtain ⟨hrun, hruns⟩ := forall_mem_cons.1 h.hops
  refine ⟨forall_mem_cons.2 ⟨hs, h.spectra⟩, forall_mem_cons.2 ⟨?_, hruns⟩⟩
  exact isChain_cons.2 ⟨hnext, hrun⟩

/-- The next sample of the signal is held. -/
theorem Holds.push (h : Holds c e a) (hlt : a.ordinal.toNat + 1 < 2 ^ 64) :
    Holds c e (a.push (signal a.trace.accepted a.ordinal.toNat)) := by
  have hsucc := toNat_succ hlt
  have hlength : (a.push (signal a.trace.accepted a.ordinal.toNat)).samples.length =
      a.samples.length + 1 := length_append
  refine ⟨h.config, h.epoch, ?_, ?_, h.center, h.next, fun s hs => ?_, h.good⟩
  · rw [hlength, ← Nat.add_assoc]
    exact hsucc.trans (congrArg (· + 1) h.ordinal)
  · rw [hlength]
    exact (congrArg₂ (· ++ [signal _ ·]) h.samples h.ordinal).trans (window_succ ..).symm
  · exact (h.spectra s hs).trans ((Nat.le_succ _).trans_eq hsucc.symm)

theorem Holds.windowed (h : Holds c e a) (hfull : a.samples.length = c.size.toNat)
    (hs : Emits L a s) : s.ordinal = a.window ∧ Windowed c e a.trace.accepted s := by
  obtain ⟨base, epoch, clock, first, last, hbase, hepoch, -, -, -, rfl⟩ := hs
  rw [h.config, take_of_length_le hfull.le, h.samples, hfull] at hbase
  refine ⟨rfl, Option.some.inj (hepoch.symm.trans h.epoch), ⟨base, hbase, rfl, rfl, rfl⟩,
    fun p hp i _ hsupplies => ?_⟩
  exact h.center p hp _ (Nat.le_add_right _ _) hsupplies

/-- The window is full and moves on. -/
theorem Holds.emit (hc : c.validate = .ok ()) (h : Holds c e a)
    (hfull : a.samples.length = c.size.toNat) (hs : Emits L a s) (n : UInt32) :
    Tracks c e ((a.setSequence n).emit s) := by
  obtain ⟨hstart, hwindowed⟩ := h.windowed hfull hs
  obtain ⟨hpos, hle⟩ := ProcessingConfig.hop_le hc
  have hordinal := h.ordinal
  have hlt := a.ordinal.toNat_lt
  have hwindow : (a.window + c.hop.toUInt64).toNat = a.window.toNat + c.hop.toNat := by
    rw [UInt64.toNat_add, UInt32.toNat_toUInt64]
    omega
  have hstop : ((a.setSequence n).emit s).window = a.window + c.hop.toUInt64 := by
    rw [← h.config]
    rfl
  have hheld : ((a.setSequence n).emit s).samples =
      window a.trace.accepted (a.window + c.hop.toUInt64).toNat (c.size.toNat - c.hop.toNat) := by
    rw [hwindow, ← drop_window, ← hfull, ← h.samples, ← h.config]
    rfl
  refine ⟨⟨h.config, h.epoch, ?_, ?_, fun p hp o ho => h.center p hp o ?_, ?_, ?_, ?_⟩, ?_⟩
  · rw [hheld, hstop, length_window]
    change a.ordinal.toNat = _
    omega
  · rw [hheld, hstop, length_window]
    rfl
  · rw [hstop] at ho
    omega
  · rintro _ ⟨⟩
    rw [hstop, hwindow, hstart]
  · refine forall_mem_cons.2 ⟨?_, h.spectra⟩
    rw [hstart]
    exact (hfull ▸ hordinal).ge
  · exact h.good.emit hwindowed fun s' hs' => hstart ▸ h.next s' hs'
  · rw [hheld, length_window]
    omega

def AllGood (c : ProcessingConfig) (a : Assembler N) : Prop := ∀ x ∈ a.epochs, Good c x.1 x.2

theorem allGood_of_epoch (hepoch : a.epoch = some e) (hgood : Good c e a.trace)
    (hpast : ∀ x ∈ a.past, Good c x.1 x.2) : AllGood c a := by
  unfold AllGood Assembler.epochs
  rw [hepoch]
  exact forall_mem_cons.2 ⟨hgood, hpast⟩

/-- The assembler has got the next `n` samples, or has failed before. -/
def Advanced (c : ProcessingConfig) (e : ProtocolTime) (a : Assembler N) (n : ℕ) :
    Post (Assembler N) Exn Unit :=
  ⟨fun _ a' => Tracks c e a' ∧ a'.ordinal.toNat = a.ordinal.toNat + n ∧ Same a a',
    fun _ => AllGood c, AllGood c⟩

/-- **The next sample of the signal.** -/
theorem Tracks.wp_append (hc : c.validate = .ok ()) (h : Tracks c e a)
    (hpast : ∀ x ∈ a.past, Good c x.1 x.2) (hordinal : a.ordinal.toNat + 1 < 2 ^ 64) :
    (append L (signal a.trace.accepted a.ordinal.toNat)).wp a (Advanced c e a 1) := by
  have hpushed := h.push hordinal
  have hsucc := toNat_succ hordinal
  have hgood : AllGood c (a.push (signal a.trace.accepted a.ordinal.toNat)) :=
    allGood_of_epoch h.epoch h.good hpast
  have hlength : (a.push (signal a.trace.accepted a.ordinal.toNat)).samples.length ≤ c.size.toNat :=
    length_append.trans_le h.short
  refine Vita.wp_append (fun hshort => ?_) (fun hfull s hs => ?_) (fun _ _ => hgood) fun _ => hgood
  · exact ⟨⟨hpushed, h.config ▸ hshort⟩, hsucc, rfl, rfl, rfl, rfl⟩
  · have hexact := le_antisymm hlength (h.config ▸ hfull)
    exact ⟨hpushed.emit hc hexact hs _, hsucc, rfl, rfl, rfl, rfl⟩

theorem Tracks.wp_appendAll (hc : c.validate = .ok ()) {n : ℕ} (h : Tracks c e a)
    (hpast : ∀ x ∈ a.past, Good c x.1 x.2) (hordinal : a.ordinal.toNat + n < 2 ^ 64) :
    ((window a.trace.accepted a.ordinal.toNat n).forM (append L)).wp a (Advanced c e a n) := by
  induction n generalizing a with
  | zero => exact ⟨h, rfl, rfl, rfl, rfl, rfl⟩
  | succ n ih =>
    refine Act.wp_bind_of (h.wp_append hc hpast (by omega)) ?_ (fun _ _ => id) fun _ => id
    rintro - a' ⟨htracks, hnext, hsame⟩
    have hrest := ih htracks (hsame.past ▸ hpast) (by omega)
    rw [hsame.accepted, hnext] at hrest
    refine Act.wp_mono hrest ?_ (fun _ _ => id) fun _ => id
    rintro - a'' ⟨htracks', hnext', hsame'⟩
    exact ⟨htracks', by omega, hsame.trans hsame'⟩

/-! ## Packets -/

theorem Windowed.accept (h : Windowed c e accepted s)
    (hs : s.ordinal.toNat + c.size.toNat ≤ p.start.toNat) : Windowed c e (p :: accepted) s := by
  refine ⟨h.epoch, ?_, forall_mem_cons.2 ⟨?_, h.center⟩⟩
  · rw [window_before hs]
    exact h.transform
  · rintro i hi ⟨hge, -⟩
    omega

theorem Good.accept {t : Trace N} (h : Good c e t)
    (hs : ∀ s ∈ t.spectra, s.ordinal.toNat + c.size.toNat ≤ p.start.toNat) :
    Good c e { t with accepted := p :: t.accepted } :=
  ⟨fun s hmem => (h.spectra s hmem).accept (hs s hmem), h.hops⟩

theorem Good.reset {t : Trace N} (h : Good c e t) :
    Good c e { t with run := [], runs := t.run :: t.runs } :=
  ⟨h.spectra, forall_mem_cons.2 ⟨isChain_nil, h.hops⟩⟩

/-- No packet of the epoch goes beyond the next ordinal. -/
def Ended (a : Assembler N) : Prop :=
  ∀ p ∈ a.trace.accepted, p.start.toNat + p.packet.samples.length ≤ a.ordinal.toNat

section packet
variable {packet : Packet N} {start : UInt64}

theorem Tracks.accept (h : Tracks c e a) (hstart : a.ordinal.toNat ≤ start.toNat)
    (hcenter : a.trace.accepted = [] ∨ a.center = packet.center) :
    Tracks c e (a.accept start packet) := by
  have hordinal := h.ordinal
  refine ⟨⟨h.config, h.epoch, h.ordinal, ?_, forall_mem_cons.2 ⟨fun _ _ _ => rfl, ?_⟩, h.next,
    h.spectra, h.good.accept fun s hs => (h.spectra s hs).trans hstart⟩, h.short⟩
  · exact h.samples.trans (window_before (by change _ ≤ start.toNat; omega)).symm
  · intro p hp o ho hsupplies
    rcases hcenter with hnil | heq
    · rw [hnil] at hp
      exact absurd hp not_mem_nil
    · exact (h.center p hp o ho hsupplies).trans heq

theorem Tracks.reset (h : Tracks c e a) (hc : c.validate = .ok ()) (hends : Ended a)
    (hstart : a.ordinal.toNat ≤ start.toNat) :
    Tracks c e ((a.accept start packet).reset start) := by
  obtain ⟨-, ⟨hge, -⟩, -⟩ := ProcessingConfig.validate_eq_ok.1 hc
  have hgood : Good c e (a.accept start packet).trace :=
    h.good.accept fun s hs => (h.spectra s hs).trans hstart
  refine ⟨⟨h.config, h.epoch, rfl, rfl, forall_mem_cons.2 ⟨fun _ _ _ => rfl, ?_⟩, ?_,
    fun s hs => (h.spectra s hs).trans hstart, hgood.reset⟩, Nat.zero_lt_of_lt hge⟩
  · rintro p hp o ho ⟨-, hlt⟩
    have hend := hends p hp
    have ho : start.toNat ≤ o := ho
    omega
  · intro s hs
    cases hs

end packet

/-! ## The number of a sample -/

theorem toNat_uint64 {z : ℤ} (h : 0 ≤ z) (h' : z < 2 ^ 64) : ((uint64 z).toNat : ℤ) = z := by
  unfold uint64
  rw [Int.emod_eq_of_lt h h', UInt64.toNat_ofNat_of_lt']
  · exact Int.toNat_of_nonneg h
  · have : UInt64.size = 2 ^ 64 := rfl
    omega

variable {time : ProtocolTime}

theorem sampleNumber_lt {rate : UInt32} (hrate : rate.toNat ≤ 2000000)
    (htime : time.seconds.toNat < 2 ^ 32) (hbefore : time.before e = false)
    (hfits : fits rate e time = true) : sampleNumber rate e time < 2 ^ 53 := by
  have hseconds : e.seconds ≤ time.seconds := by
    simp only [ProtocolTime.before, Bool.or_eq_false_iff, decide_eq_false_iff_not] at hbefore
    exact UInt64.not_lt.1 hbefore.1
  have hsub := UInt64.toNat_sub_of_le _ _ hseconds
  have hmul : (time.seconds.toNat - e.seconds.toNat) * rate.toNat ≤ 2 ^ 32 * 2000000 :=
    Nat.mul_le_mul (by omega) hrate
  have hproduct : ((time.seconds - e.seconds) * rate.toUInt64).toNat =
      (time.seconds.toNat - e.seconds.toNat) * rate.toNat := by
    rw [UInt64.toNat_mul, hsub, UInt32.toNat_toUInt64, Nat.mod_eq_of_lt (by omega)]
  have hwhole : int64 ((time.seconds - e.seconds) * rate.toUInt64) ≤ 2 ^ 32 * 2000000 := by
    rw [int64_of_lt (by rw [hproduct]; omega), hproduct]
    exact_mod_cast hmul
  simp only [fits, all_cons, Bool.and_eq_true, decide_eq_true_eq] at hfits
  obtain ⟨-, -, ⟨-, hrounded⟩, -⟩ := hfits
  have hdiv := Int.tdiv_le_tdiv (by decide : (0 : ℤ) < 1000000000000) hrounded.le
  exact (add_le_add hwhole hdiv).trans_lt (by decide)

theorem verdict_eq_accept {start : UInt64} (h : verdict L a e time = .accept start) :
    time.before e = false ∧ fits a.config.rate e time = true ∧
      int64 a.ordinal ≤ sampleNumber a.config.rate e time ∧
      uint64 (sampleNumber a.config.rate e time) = start := by
  unfold verdict at h
  dsimp only at h
  split_ifs at h with hbefore hsec hfits hnumber
  refine ⟨Bool.not_eq_true _ ▸ hbefore, by simpa using hfits, not_lt.1 hnumber, ?_⟩
  cases hcreate : L.create e a.config.rate with
  | none => rw [hcreate] at h; cases h
  | some clock =>
    rw [hcreate] at h
    dsimp only at h
    cases hadvance : L.advance clock (uint64 (sampleNumber a.config.rate e time)) with
    | none => rw [hadvance] at h; cases h
    | some clock' =>
      rw [hadvance] at h
      dsimp only at h
      split_ifs at h
      exact Verdict.accept.inj h

theorem start_of_accept {start : UInt64} (hrate : a.config.rate.toNat ≤ 2000000)
    (htime : time.seconds.toNat < 2 ^ 32) (hordinal : a.ordinal.toNat ≤ 2 ^ 54)
    (h : verdict L a e time = .accept start) :
    a.ordinal.toNat ≤ start.toNat ∧ start.toNat < 2 ^ 53 := by
  obtain ⟨hbefore, hfits, hnumber, rfl⟩ := verdict_eq_accept h
  have hlt := sampleNumber_lt hrate htime hbefore hfits
  rw [int64_of_lt (by omega)] at hnumber
  have huint := toNat_uint64 (by omega : 0 ≤ sampleNumber a.config.rate e time) (by omega)
  omega

/-! ## Calls -/

theorem begin_of_epoch (h : a.epoch = some e) (time : ProtocolTime) : a.begin time = a := by
  cases a
  cases h
  rfl

/-- What holds before and after a call. -/
structure Between (c : ProcessingConfig) (a : Assembler N) : Prop where
  tracks : ∀ t : ProtocolTime, ∃ e, Tracks c e (a.begin t)
  past : ∀ x ∈ a.past, Good c x.1 x.2
  ended : Ended a
  fresh : a.center = 0 → a.trace.accepted = []
  bound : a.ordinal.toNat ≤ 2 ^ 54

theorem Tracks.between (h : Tracks c e a) (hpast : ∀ x ∈ a.past, Good c x.1 x.2)
    (hended : Ended a) (hfresh : a.center = 0 → a.trace.accepted = [])
    (hbound : a.ordinal.toNat ≤ 2 ^ 54) : Between c a :=
  ⟨fun _ => ⟨e, by rwa [begin_of_epoch h.epoch]⟩, hpast, hended, hfresh, hbound⟩

theorem Between.allGood (h : Between c a) : AllGood c a := by
  obtain ⟨e, htracks⟩ := h.tracks ⟨0, 0⟩
  cases hepoch : a.epoch with
  | none =>
    unfold AllGood Assembler.epochs
    rw [hepoch]
    exact h.past
  | some e' =>
    have heq : some e' = some e := by
      rw [← hepoch, ← htracks.epoch, begin_of_epoch hepoch]
    cases heq
    exact allGood_of_epoch hepoch htracks.good h.past

theorem tracks_restart (hc : c.validate = .ok ()) (hconfig : a.config = c) (e : ProtocolTime) :
    Tracks c e (a.restart e) := by
  obtain ⟨-, ⟨hge, -⟩, -⟩ := ProcessingConfig.validate_eq_ok.1 hc
  have hgood : Good c e (Trace.empty N) :=
    ⟨forall_mem_nil _, forall_mem_singleton.2 isChain_nil⟩
  exact ⟨⟨hconfig, rfl, rfl, rfl, forall_mem_nil _, fun s hs => (Option.not_mem_none s hs).elim,
    forall_mem_nil _, hgood⟩, Nat.zero_lt_of_lt hge⟩

/-- A packet that `receive` lets through. -/
structure Packet.Fed (p : Packet N) : Prop where
  time : p.time.seconds.toNat < 2 ^ 32
  center : p.center ≠ 0
  samples : p.samples.length ≤ 1024

/-- What a call leaves. -/
def Leaves (c : ProcessingConfig) : Post (Assembler N) Exn Unit :=
  ⟨fun _ => Between c, fun _ => AllGood c, AllGood c⟩

theorem Between.begin (h : Between c a) (t : ProtocolTime) : Between c (a.begin t) := by
  obtain ⟨e, htracks⟩ := h.tracks t
  exact htracks.between h.past h.ended h.fresh h.bound

theorem Between.counters (h : Between c a) (invalid duplicates : UInt64) :
    Between c { a with invalid := invalid, duplicates := duplicates } := by
  refine ⟨fun t => ?_, h.past, h.ended, h.fresh, h.bound⟩
  obtain ⟨e, htracks⟩ := h.tracks t
  exact ⟨e, { htracks with }⟩

section packet
variable {packet : Packet N} {start : UInt64} {accepted : List (Accepted N)}
  (hc : c.validate = .ok ())
include hc

theorem Tracks.wp_packet (h : Tracks c e a)
    (hpast : ∀ x ∈ a.past, Good c x.1 x.2)
    (haccepted : a.trace.accepted = ⟨start, packet⟩ :: accepted)
    (hends : ∀ p ∈ accepted, p.start.toNat + p.packet.samples.length ≤ start.toNat)
    (hordinal : a.ordinal.toNat = start.toNat) (hstart : start.toNat < 2 ^ 53)
    (hcenter : a.center = packet.center) (hpacket : packet.Fed) :
    (((range packet.samples.length).map packet.sample).forM (append L)).wp a (Leaves c) := by
  have hlength := hpacket.samples
  have hall := h.wp_appendAll (L := L) hc (n := packet.samples.length) hpast (by omega)
  rw [haccepted, hordinal, window_packet] at hall
  refine Act.wp_mono hall ?_ (fun _ _ => id) fun _ => id
  rintro - a' ⟨htracks, hnext, hsame⟩
  refine htracks.between (hsame.past ▸ hpast) ?_ ?_ (by omega)
  · unfold Ended
    rw [hsame.accepted, haccepted]
    refine forall_mem_cons.2 ⟨hnext.symm.le.trans' (by rw [hordinal]), fun p hp => ?_⟩
    have := hends p hp
    omega
  · intro hzero
    rw [hsame.center, hcenter] at hzero
    exact absurd hzero hpacket.center

theorem Between.wp_place (h : Between c a) (htracks : Tracks c e a)
    (hstart : a.ordinal.toNat ≤ start.toNat) (hlt : start.toNat < 2 ^ 53) (hpacket : packet.Fed) :
    (place L packet start).wp a (Leaves c) := by
  have hends : ∀ p ∈ a.trace.accepted, p.start.toNat + p.packet.samples.length ≤ start.toNat :=
    fun p hp => (h.ended p hp).trans hstart
  refine Vita.wp_place ?_ fun hcenter => ?_
  · exact (htracks.reset hc h.ended hstart).wp_packet hc h.past rfl hends rfl hlt rfl hpacket
  · have hfilled : Tracks c e (a.accept start packet) := by
      refine htracks.accept hstart ?_
      rcases hcenter with hzero | heq
      · exact Or.inl (h.fresh hzero)
      · exact Or.inr heq
    have hgap : (start - a.ordinal).toNat = start.toNat - a.ordinal.toNat :=
      UInt64.toNat_sub_of_le _ _ hstart
    have hgaps : window (a.accept start packet).trace.accepted (a.accept start packet).ordinal.toNat
        (start - a.ordinal).toNat = replicate (start - a.ordinal).toNat (.gap N) := by
      refine window_after (forall_mem_cons.2 ⟨?_, fun p hp o ho hlt hsupplies => ?_⟩)
      · rintro o ho hlt ⟨hge, -⟩
        have hlt : o < a.ordinal.toNat + (start - a.ordinal).toNat := hlt
        have hge : start.toNat ≤ o := hge
        omega
      · have hend := h.ended p hp
        have ho : a.ordinal.toNat ≤ o := ho
        have := hsupplies.2
        omega
    have hall := hfilled.wp_appendAll (L := L) hc (n := (start - a.ordinal).toNat) h.past
      (by change a.ordinal.toNat + _ < _; omega)
    rw [hgaps] at hall
    refine Act.wp_mono hall ?_ (fun _ _ => id) fun _ => id
    rintro - a' ⟨htracks', hnext, hsame⟩
    refine htracks'.wp_packet hc (hsame.past ▸ h.past) hsame.accepted hends ?_ hlt hsame.center hpacket
    rw [hnext]
    change a.ordinal.toNat + _ = _
    omega

theorem Between.wp_consume (h : Between c a) (hpacket : packet.Fed) :
    (consume L packet).wp a (Leaves c) := by
  obtain ⟨⟨-, hrate⟩, -, -⟩ := ProcessingConfig.validate_eq_ok.1 hc
  have hbegin := h.begin packet.time
  refine Vita.wp_consume rfl (hbegin.counters _ _) (hbegin.counters _ _) hbegin.allGood ?_
  intro epoch start hepoch hverdict
  obtain ⟨e, htracks⟩ := h.tracks packet.time
  cases Option.some.inj (hepoch.symm.trans htracks.epoch)
  obtain ⟨hstart, hlt⟩ := start_of_accept (htracks.config ▸ hrate) hpacket.time h.bound hverdict
  exact hbegin.wp_place hc htracks hstart hlt hpacket

theorem Between.restart (h : Between c a) (time : ProtocolTime) :
    Between c (a.restart time) := by
  obtain ⟨e, htracks⟩ := h.tracks time
  exact (tracks_restart (a := a) hc htracks.config time).between h.allGood (forall_mem_nil _)
    (fun _ => rfl) (Nat.zero_le _)

theorem between_create (sid : UInt32) :
    Between c (Assembler.create N sid c) := by
  exact ⟨fun t => ⟨t, tracks_restart hc rfl t⟩, forall_mem_nil _, forall_mem_nil _, fun _ => rfl,
    Nat.zero_le _⟩

/-! ## Runs -/

inductive StreamCall (N : Arithmetic) where
  | startEpoch (time : ProtocolTime)
  | consume (packet : Packet N)

namespace StreamCall

def run (L : VitaLibrary) : StreamCall N → Call N Unit
  | startEpoch time => Vita.startEpoch L time
  | consume packet => Vita.consume L packet

def Fed : StreamCall N → Prop
  | startEpoch _ => True
  | consume packet => packet.Fed

end StreamCall

theorem Between.wp_call (h : Between c a) {call : StreamCall N}
    (hcall : call.Fed) : (call.run L).wp a (Leaves c) := by
  cases call with
  | startEpoch time => exact wp_ofResult_bind (fun _ _ => h.restart hc time) fun _ _ => h.allGood
  | consume packet => exact h.wp_consume hc hcall

theorem wp_calls (sid : UInt32) {calls : List (StreamCall N)}
    (hfed : ∀ call ∈ calls, call.Fed) :
    (calls.forM (StreamCall.run L)).wp (Assembler.create N sid c) (Leaves c) :=
  Act.wp_forM (between_create hc sid) fun call hcall _ h => h.wp_call hc (hfed call hcall)

end packet

/-- What a spectrum says of the packets of its epoch. -/
structure Covers (c : ProcessingConfig) (e : ProtocolTime) (accepted : List (Accepted N))
    (s : Spectrum) : Prop where
  epoch : s.epoch = e
  /-- The powers are those of the samples from `s.ordinal` on. -/
  power : s.power = powers N c ((window accepted s.ordinal.toNat c.size.toNat).map (·.value))
    ((window accepted s.ordinal.toNat c.size.toNat).map (·.missing))
  gaps : ∀ i < c.size.toNat, Bits.bit s.gaps i = true ↔
    ∀ p ∈ accepted, ¬p.Supplies (s.ordinal.toNat + i)
  valid : s.valid.toNat + (s.gaps.map popcount).sum = c.size.toNat
  center : ∀ p ∈ accepted, ∀ i < c.size.toNat, p.Supplies (s.ordinal.toNat + i) →
    p.packet.center = s.center

theorem Windowed.covers (h : Windowed c e accepted s) : Covers c e accepted s := by
  obtain ⟨base, hbase, hpower, hgaps, hvalid⟩ := h.transform
  refine ⟨h.epoch, ?_, fun i hi => ?_, ?_, h.center⟩
  · rw [hpower, (powerSpectrum_eq_ok hbase).2.2.2.1]
  · have hsample : ((window accepted s.ordinal.toNat c.size.toNat).map (·.missing)).getD i false =
        (signal accepted (s.ordinal.toNat + i)).missing := by
      simp [window, hi]
    rw [hgaps, bit_gaps hbase, hsample, missing_signal]
  · rw [hgaps, hvalid]
    exact valid_add_gaps hbase

/-- **Spectra are those of windows of the signal.**  Between the calls of a run the next
    ordinal is the one after the samples that are held, which are less than a window; however
    the run ends, each spectrum covers a window of its epoch, and the windows between two
    resets are one hop apart. -/
theorem spectra_windowed (L : VitaLibrary) (N : Arithmetic) (sid : UInt32)
    {c : ProcessingConfig} (hc : c.validate = .ok ()) (calls : List (StreamCall N))
    (hfed : ∀ call ∈ calls, call.Fed) :
    (∀ a, (calls.forM (StreamCall.run L)).run (Assembler.create N sid c) = .returned () a →
      a.ordinal.toNat = a.window.toNat + a.samples.length ∧ a.samples.length < c.size.toNat) ∧
    ∀ x ∈ ((calls.forM (StreamCall.run L)).run (Assembler.create N sid c)).world.epochs,
      (∀ s ∈ x.2.spectra, Covers c x.1 x.2.accepted s) ∧
        ∀ run ∈ x.2.run :: x.2.runs, run.IsChain (Hop c) := by
  have hrun := wp_calls (L := L) hc sid hfed
  constructor
  · intro a ha
    obtain ⟨e, htracks⟩ := (Act.of_returned hrun ha).tracks ⟨0, 0⟩
    exact ⟨htracks.ordinal, htracks.short⟩
  · have hall : AllGood c ((calls.forM (StreamCall.run L)).run (Assembler.create N sid c)).world :=
      Act.wp_always_world (Act.wp_mono hrun (fun _ _ => Between.allGood) (fun _ _ => id) fun _ => id)
    intro x hx
    have hgood := hall x hx
    exact ⟨fun s hs => (hgood.spectra s hs).covers, hgood.hops⟩

namespace Samples

/-- Numbers that are all the same. -/
def arithmetic : Arithmetic where
  Real := Unit
  Complex := Unit
  zero := ()
  one := ()
  add _ _ := ()
  sub _ _ := ()
  mul _ _ := ()
  isFinite _ := true
  none := ()
  whole := ()
  plus _ _ := ()
  hann _ _ := ()
  times _ _ := ()
  root _ := ()
  power _ _ := 0
  sample _ _ := ()

def sampleTime (epoch : ProtocolTime) (rate : UInt32) (n : UInt64) : ProtocolTime :=
  let ps := epoch.picoseconds.toNat + n.toNat * 1000000000000 / rate.toNat
  ⟨epoch.seconds + .ofNat (ps / 1000000000000), .ofNat (ps % 1000000000000)⟩

def library : VitaLibrary where
  Timeline := ProtocolTime × UInt32 × UInt64
  create epoch rate := some (epoch, rate, 0)
  advance t n := some (t.1, t.2.1, t.2.2 + n)
  time t := sampleTime t.1 t.2.1 t.2.2
  valid t := t.picoseconds < 1000000000000
  graphxTrailer
    | .single => 3
    | .first => 2
    | .middle => 0
    | .final => 1

def config : ProcessingConfig := ⟨1000, 64, 50, false⟩

/-- A packet of `n` samples from ordinal `start` of the epoch 0 on. -/
def packet (start n : ℕ) (center : UInt64) : Packet arithmetic where
  time := ⟨0, .ofNat (start * 1000000000)⟩
  center := center
  samples := List.replicate n ()
  count := 0
  first := false
  final := false
  arrival := 0

/-- What the calls leave. -/
def after (calls : List (StreamCall arithmetic)) : Assembler arithmetic :=
  ((calls.forM (StreamCall.run library)).run (Assembler.create arithmetic 1 config)).world

/-- Two packets and a gap between them. -/
def calls : List (StreamCall arithmetic) :=
  [.startEpoch ⟨0, 0⟩, .consume (packet 0 60 1000000), .consume (packet 62 2 1000000)]

/-- The second packet is the sample with the number 2 ^ 63 - 1. -/
def late : List (StreamCall arithmetic) :=
  [.consume (packet 0 64 1000000),
    .consume { packet 0 1 1000000 with time := ⟨9223372036854775, 807000000000⟩ },
    .consume (packet 0 64 2000000)]

/-- A timeline that ends with the first window. -/
def ending : VitaLibrary :=
  { library with advance := fun t n => if t.2.2 + n < 64 then library.advance t n else none }

theorem calls_fed : ∀ call ∈ calls, call.Fed := by
  have hfed : ∀ start n center, center ≠ 0 → n ≤ 1024 → (packet start n center).Fed := by
    intro start n center hcenter hn
    exact ⟨by simp [packet], hcenter, length_replicate.trans_le hn⟩
  simp only [calls, forall_mem_cons]
  exact ⟨trivial, hfed _ _ _ (by decide) (by decide), hfed _ _ _ (by decide) (by decide),
    forall_mem_nil _⟩

end Samples

open Samples in
set_option maxRecDepth 4000 in
theorem spectra_windowed_samples :
    (after calls).trace.spectra.map (·.ordinal) = [0] ∧
      ∀ x ∈ (after calls).epochs, ∀ s ∈ x.2.spectra, Covers config x.1 x.2.accepted s :=
  ⟨by decide, fun x hx =>
    ((spectra_windowed library arithmetic 1 (by decide) calls calls_fed).2 x hx).1⟩

open Samples in
/-- A center of 0 is taken for none: the spectrum covers a sample of a packet with another
    center. -/
theorem spectrum_of_two_centers :
    ∃ s ∈ (after [.consume (packet 0 1 0), .consume (packet 1 63 1000000)]).trace.spectra,
      ∃ p ∈ (after [.consume (packet 0 1 0), .consume (packet 1 63 1000000)]).trace.accepted,
        p.Supplies s.ordinal.toNat ∧ p.packet.center ≠ s.center := by
  decide

open Samples in
/-- A packet may be so late that the next ordinal is 2 ^ 63, which `consume` reads as a
    negative number: the first ordinals are then accepted once more. -/
example :
    ∃ s ∈ (after late).trace.spectra, ∃ p ∈ (after late).trace.accepted,
      p.Supplies s.ordinal.toNat ∧ p.packet.center ≠ s.center := by
  decide +kernel

open Samples in
set_option maxRecDepth 4000 in
/-- A call that throws leaves the window full. -/
example :
    ∃ a, ((StreamCall.consume (packet 0 64 1000000)).run ending).run (.create arithmetic 1 config) =
      .threw overflow a ∧ a.samples.length = config.size.toNat :=
  ⟨_, rfl, rfl⟩

end Vita

end GraphX
