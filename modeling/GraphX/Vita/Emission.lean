/-
  The spectra of an assembler are accepted by the encoder.

  The assembler and `encode_spectrum` check different things: what `validate` asks for is
  derived from what holds of an assembler that is fed by `receive` (`Sound`).

  * **`emitted_encoded`**: in every run all spectra are encoded, also those after a call that
    throws.
-/
import GraphX.Vita.Windows

namespace GraphX

open Imperative List

namespace Vita

variable {L : VitaLibrary} {N : Arithmetic} {c : ProcessingConfig} {a : Assembler N} {s : Spectrum}

/-! ## Valid spectra -/

/-- The boundary bits that a window sets. -/
def boundaryMarks (window : List (Sample N)) : List (Bool × ℕ) :=
  window.zipIdx.flatMap fun s => [(s.1.first, s.2), (s.1.final, s.2 + 1)]

theorem boundaryMarks_le {window : List (Sample N)} : ∀ p ∈ boundaryMarks window, p.2 ≤ window.length := by
  intro p hp
  obtain ⟨s, hs, hp⟩ := mem_flatMap.1 hp
  have hlt := snd_lt_of_mem_zipIdx hs
  simp only [mem_cons, not_mem_nil, or_false] at hp
  rcases hp with rfl | rfl
  · exact le_of_lt (by simpa using hlt)
  · simpa using hlt

theorem bit_boundaries {window : List (Sample N)} (hmod : window.length % 8 = 0) {j : ℕ}
    (hj : window.length < j) :
    Bits.bit (Bits.mark (replicate (window.length / 8 + 4) 0) (boundaryMarks window)) j = false := by
  have hrange : ∀ p ∈ boundaryMarks window,
      p.2 / 8 < (replicate (window.length / 8 + 4) (0 : UInt8)).length := by
    intro p hp
    have := boundaryMarks_le p hp
    rw [length_replicate]
    omega
  rw [Bits.bit_mark hrange, Bits.bit_replicate, Bool.or_false, decide_eq_false_iff_not]
  intro hmem
  have : j ≤ window.length := boundaryMarks_le _ hmem
  omega

theorem boundaries_valid (window : List (Sample N)) (hmod : window.length % 8 = 0) :
    (Bits.mark (replicate (window.length / 8 + 4) 0) (boundaryMarks window)).getD
        (window.length / 8) 0 &&& 127 = 0 ∧
      ((Bits.mark (replicate (window.length / 8 + 4) 0) (boundaryMarks window)).drop
        (window.length / 8 + 1)).all (· = 0) = true := by
  constructor
  · have hzero := @Bits.getD_mod_two_pow
      (Bits.mark (replicate (window.length / 8 + 4) 0) (boundaryMarks window))
      (window.length / 8) 7 (by decide) fun i hi _ => bit_boundaries hmod (by omega)
    rw [← UInt8.toNat_inj]
    exact (Nat.and_two_pow_sub_one_eq_mod _ 7).trans hzero
  · refine all_eq_true.2 fun b hb => decide_eq_true ?_
    obtain ⟨i, hi, rfl⟩ := mem_iff_getElem.1 hb
    rw [getElem_drop]
    have hzero := @Bits.getD_mod_two_pow
      (Bits.mark (replicate (window.length / 8 + 4) 0) (boundaryMarks window))
      (window.length / 8 + 1 + i) 8 (by decide) fun k _ _ => bit_boundaries hmod (by omega)
    rw [length_drop] at hi
    rw [getD_eq_getElem?_getD, getElem?_eq_getElem (by omega), Nat.mod_eq_of_lt (UInt8.toNat_lt _)] at hzero
    exact UInt8.toNat_inj.1 hzero

/-- The center frequencies that `receive` lets through. -/
def InBand (center : UInt64) : Prop := 1000000 ≤ center ∧ center ≤ 6000000000

/-- **A window that is full gives a valid spectrum.** -/
theorem validate_of_emits (hsid : 1 ≤ a.sid ∧ a.sid ≤ 4) (hc : a.config.validate = .ok ())
    (hcenter : InBand a.center)
    (hpower : (powers N a.config ((a.samples.take a.config.size.toNat).map (·.value))
      ((a.samples.take a.config.size.toNat).map (·.missing))).all isPower = true)
    (h : Emits L a s) : validate L.toTimelineLibrary s = .ok () := by
  obtain ⟨base, epoch, clock, first, last, hbase, -, hclock, hfirst, hlast, rfl⟩ := h
  obtain ⟨⟨-, hlength⟩, ⟨hrate, hsize, hhop, hhann⟩, hvalid, hpowers, hgaps, hboundaries⟩ :=
    powerSpectrum_eq_ok hbase
  have hcount := valid_add_gaps hbase
  obtain ⟨⟨hne, hle, hmod⟩, hoverlap⟩ := ProcessingConfig.hop_cases hc
  obtain ⟨-, ⟨hge, -, hbit⟩, -⟩ := ProcessingConfig.validate_eq_ok.1 hc
  have hbytes := mod_eight hge hbit
  rw [length_map] at hlength
  have hmarks := boundaries_valid (a.samples.take a.config.size.toNat)
    (by rw [hlength]; exact hbytes)
  rw [hlength] at hmarks
  simp only [validate, Assembler.finish, Check.bind_unit_eq_ok, require_eq_ok, Bool.and_eq_true,
    decide_eq_true_eq, hrate, hsize, hhop, hoverlap, hclock, hboundaries, hpowers, hpower]
  refine ⟨⟨⟨hne, hle⟩, hmod⟩, hc, ⟨⟨hsid, hcenter.1⟩, hcenter.2⟩, ⟨⟨⟨?_, ?_⟩, ?_⟩, ?_⟩, hmarks.1,
    hmarks.2, ?_⟩
  · rw [UInt32.le_iff_toNat_le]
    omega
  · simp [powers]
  · rw [hgaps, Bits.length_mark, length_replicate]
  · rw [Bits.length_mark, length_replicate]
  · change (requireSome (L.advance clock a.window) >>= _) = _
    rw [hfirst]
    change (require (L.time first = L.time first) >>= _) = _
    rw [Check.bind_unit_eq_ok, require_eq_ok, hlast]
    refine ⟨decide_eq_true rfl, ?_⟩
    change (require (L.time last = L.time last) >>= _) = _
    rw [decide_eq_true hcount, decide_eq_true rfl]
    rfl

/-! ## What holds of an assembler -/

/-- A value that was received, or stands for one that was not. -/
def Arithmetic.Received (N : Arithmetic) (x : N.Complex) : Prop := x = N.zero ∨ ∃ i q, x = N.sample i q

def FinitePowers (N : Arithmetic) (c : ProcessingConfig) : Prop :=
  ∀ samples, (∀ x ∈ samples, N.Received x) → ∀ missing, (powers N c samples missing).all isPower = true

/-- A packet that `receive` makes. -/
structure Packet.Sound (p : Packet N) : Prop where
  center : InBand p.center
  samples : ∀ x ∈ p.samples, N.Received x

/-- All spectra are valid. -/
structure AllValid (L : VitaLibrary) (a : Assembler N) : Prop where
  current : ∀ s ∈ a.trace.spectra, validate L.toTimelineLibrary s = .ok ()
  past : ∀ x ∈ a.past, ∀ s ∈ x.2.spectra, validate L.toTimelineLibrary s = .ok ()

/-- What holds before and after a call, also of one that throws. -/
structure Sound (L : VitaLibrary) (sid : UInt32) (c : ProcessingConfig) (a : Assembler N) : Prop where
  sid : a.sid = sid
  config : a.config = c
  held : ∀ v ∈ a.samples, N.Received v.value
  pending : ∀ p ∈ a.pending, p.Sound
  valid : AllValid L a

/-- What `Sound` speaks of. -/
def Assembler.core (a : Assembler N) :=
  (a.sid, a.config, a.samples, a.pending, a.trace, a.past)

theorem Sound.congr {sid : UInt32} (h : Sound L sid c a) {b : Assembler N} (hb : b.core = a.core) :
    Sound L sid c b := by
  simp only [Assembler.core, Prod.mk.injEq] at hb
  obtain ⟨hsid, hconfig, hsamples, hpending, htrace, hpast⟩ := hb
  exact ⟨hsid.trans h.sid, hconfig.trans h.config, hsamples ▸ h.held, hpending ▸ h.pending,
    htrace ▸ h.valid.current, hpast ▸ h.valid.past⟩

theorem AllValid.epochs (h : AllValid L a) :
    ∀ x ∈ a.epochs, ∀ s ∈ x.2.spectra, validate L.toTimelineLibrary s = .ok () := by
  intro x hx
  rcases mem_append.1 hx with hx | hx
  · obtain ⟨e, -, rfl⟩ := Option.map_eq_some_iff.1 (Option.mem_toList.1 hx)
    exact h.current
  · exact h.past x hx

theorem AllValid.emitted (h : AllValid L a) :
    ∀ s ∈ a.emitted, validate L.toTimelineLibrary s = .ok () := by
  intro s hs
  obtain ⟨x, hx, hs⟩ := mem_flatMap.1 hs
  exact h.epochs x hx s hs

section calls
variable {sid : UInt32}

/-- What is assumed of the stream, its configuration and the arithmetic. -/
structure Suited (N : Arithmetic) (sid : UInt32) (c : ProcessingConfig) : Prop where
  sid : 1 ≤ sid ∧ sid ≤ 4
  config : c.validate = .ok ()
  power : FinitePowers N c

/-- What the samples leave. -/
def LeavesInBand (L : VitaLibrary) (sid : UInt32) (c : ProcessingConfig) :
    Post (Assembler N) Exn Unit :=
  ⟨fun _ a => Sound L sid c a ∧ InBand a.center, fun _ => Sound L sid c, Sound L sid c⟩

theorem Sound.push (h : Sound L sid c a) {value : Sample N} (hvalue : N.Received value.value) :
    Sound L sid c (a.push value) := by
  refine ⟨h.sid, h.config, fun v hv => ?_, h.pending, h.valid.current, h.valid.past⟩
  rcases mem_append.1 hv with hv | hv
  · exact h.held v hv
  · rwa [mem_singleton.1 hv]

theorem Sound.wp_append (hsuited : Suited N sid c) (h : Sound L sid c a) (hcenter : InBand a.center)
    {value : Sample N} (hvalue : N.Received value.value) :
    (append L value).wp a (LeavesInBand L sid c) := by
  have hpushed := h.push hvalue
  refine Vita.wp_append (fun _ => ⟨hpushed, hcenter⟩) (fun _ s hs => ?_)
    (fun _ _ => hpushed.congr rfl) fun _ => hpushed.congr rfl
  have hvalid : validate L.toTimelineLibrary s = .ok () := by
    refine validate_of_emits (a := a.push value) (hpushed.sid ▸ hsuited.sid)
      (hpushed.config ▸ hsuited.config) hcenter ?_ hs
    rw [hpushed.config]
    refine hsuited.power _ (fun x hx => ?_) _
    obtain ⟨v, hv, rfl⟩ := mem_map.1 hx
    exact hpushed.held v (mem_of_mem_take hv)
  exact ⟨⟨h.sid, h.config, fun v hv => hpushed.held v (mem_of_mem_drop hv), h.pending,
    forall_mem_cons.2 ⟨hvalid, h.valid.current⟩, h.valid.past⟩, hcenter⟩

theorem Sound.wp_appendAll (hsuited : Suited N sid c) (h : Sound L sid c a)
    (hcenter : InBand a.center)
    {values : List (Sample N)} (hvalues : ∀ v ∈ values, N.Received v.value) :
    (values.forM (append L)).wp a (LeavesInBand L sid c) :=
  Act.wp_forM (I := fun a => Sound L sid c a ∧ InBand a.center) ⟨h, hcenter⟩ fun v hv _ h' =>
    h'.1.wp_append hsuited h'.2 (hvalues v hv)

variable {packet : Packet N}

theorem Packet.Sound.received (h : packet.Sound) :
    ∀ v ∈ (range packet.samples.length).map packet.sample, N.Received v.value := by
  intro v hv
  obtain ⟨i, hi, rfl⟩ := mem_map.1 hv
  change N.Received (packet.samples.getD i N.zero)
  rw [getD_eq_getElem?_getD, getElem?_eq_getElem (mem_range.1 hi)]
  exact h.samples _ (getElem_mem _)

theorem Sound.wp_place (hsuited : Suited N sid c) (h : Sound L sid c a) (hpacket : packet.Sound)
    (start : UInt64) : (place L packet start).wp a (LeavesInBand L sid c) := by
  have haccept : Sound L sid c (a.accept start packet) :=
    ⟨h.sid, h.config, h.held, h.pending, h.valid.current, h.valid.past⟩
  have hreset : Sound L sid c ((a.accept start packet).reset start) :=
    ⟨h.sid, h.config, forall_mem_nil _, h.pending, h.valid.current, h.valid.past⟩
  refine Vita.wp_place ?_ fun _ => ?_
  · exact hreset.wp_appendAll hsuited hpacket.center hpacket.received
  · have hgaps : ∀ v ∈ replicate (start - a.ordinal).toNat (Sample.gap N), N.Received v.value := by
      intro v hv
      rw [eq_of_mem_replicate hv]
      exact Or.inl rfl
    refine Act.wp_mono (haccept.wp_appendAll hsuited hpacket.center hgaps) ?_ (fun _ _ => id)
      fun _ => id
    rintro - a' ⟨hsound, hcenter⟩
    exact hsound.wp_appendAll hsuited hcenter hpacket.received

theorem Sound.wp_consume (hsuited : Suited N sid c) (h : Sound L sid c a) (hpacket : packet.Sound) :
    (consume L packet).wp a (.always (Sound L sid c)) := by
  have hbegin : Sound L sid c (a.begin packet.time) := h.congr rfl
  refine Vita.wp_consume rfl (hbegin.congr rfl) (hbegin.congr rfl) hbegin fun epoch start _ _ => ?_
  exact Act.wp_mono (hbegin.wp_place hsuited hpacket start) (fun _ _ => And.left)
    (fun _ _ => id) fun _ => id

theorem Sound.wp_drain (hsuited : Suited N sid c) (now : ℤ) {pending : List (Packet N)}
    (hpending : ∀ p ∈ pending, p.Sound) (h : Sound L sid c a) :
    (drain L now pending).wp a (.always (Sound L sid c)) := by
  induction pending generalizing a with
  | nil => exact h
  | cons packet rest ih =>
    obtain ⟨hpacket, hrest⟩ := forall_mem_cons.1 hpending
    rw [drain, Act.wp_get_bind]
    split_ifs
    · exact h
    · rw [Act.wp_modify_bind]
      have hpopped : Sound L sid c { a with pending := rest } :=
        ⟨h.sid, h.config, h.held, hrest, h.valid.current, h.valid.past⟩
      exact Act.wp_always_bind (hpopped.wp_consume hsuited hpacket) fun _ _ => ih hrest

/-! ## What is received -/

theorem Sound.refuse (h : Sound L sid c a) : Sound L sid c a.refuse := h.congr rfl

theorem inBand_of_centerOf {q20 : ℤ} {center : UInt64} (h : centerOf q20 = some center) :
    InBand center := by
  unfold centerOf at h
  split_ifs at h with hrange
  simp only [Bool.or_eq_true, decide_eq_true_eq] at hrange
  cases h
  have hge : 0 ≤ q20 := by omega
  have hdiv := Int.tdiv_eq_ediv_of_nonneg hge (b := 1048576)
  have huint := toNat_uint64 (z := q20.tdiv 1048576) (by omega) (by omega)
  constructor
  · rw [UInt64.le_iff_toNat_le]
    change 1000000 ≤ _
    omega
  · rw [UInt64.le_iff_toNat_le]
    change _ ≤ 6000000000
    omega

theorem Sound.insertPending (h : Sound L sid c a) (hpacket : packet.Sound) :
    Sound L sid c (a.insertPending packet) := by
  unfold Assembler.insertPending
  dsimp only
  split_ifs
  · exact h.congr rfl
  · refine ⟨h.sid, h.config, h.held, fun p hp => ?_, h.valid.current, h.valid.past⟩
    rcases mem_append.1 hp with hp | hp
    · exact h.pending p ((takeWhile_sublist _).subset hp)
    · rcases mem_cons.1 hp with rfl | hp
      · exact hpacket
      · exact h.pending p ((dropWhile_sublist _).subset hp)

theorem Sound.receive (h : Sound L sid c a) (rx : BorrowedSignalRx) (now : ℤ) :
    Sound L sid c (a.receive rx now) := by
  unfold Assembler.receive
  split_ifs
  · exact h.refuse
  · exact h.refuse
  · exact h.refuse
  · cases a.hints.find? fun h => h.time = rx.sampleTime with
    | none => exact h.refuse
    | some hint =>
      cases hcenter : rx.center.bind centerOf with
      | none => exact h.refuse
      | some center =>
        have herased : Sound L sid c
            { a with hints := a.hints.eraseP fun h => h.time = rx.sampleTime } :=
          h.congr rfl
        obtain ⟨q20, -, hq20⟩ := Option.bind_eq_some_iff.1 hcenter
        cases rx.fragments.mapM id with
        | none => exact herased.refuse
        | some fragments =>
          dsimp only
          split_ifs
          · exact herased.refuse
          · refine herased.insertPending ⟨inBand_of_centerOf hq20, fun x hx => ?_⟩
            obtain ⟨iq, -, rfl⟩ := mem_map.1 hx
            exact Or.inr ⟨iq.1, iq.2, rfl⟩

theorem Sound.observe (h : Sound L sid c a) (view : Option EnvelopeView) :
    Sound L sid c (a.observe L view).2 := by
  have hhint : ∀ hint, Sound L sid c (a.addHint hint) := by
    intro hint
    unfold Assembler.addHint
    split_ifs
    · exact h.congr rfl
    · exact h.congr rfl
  cases view with
  | none => exact h
  | some e =>
    simp only [Assembler.observe]
    split_ifs
    · exact h
    · exact h
    · exact h
    · cases e.trailer.bind (frameOf L) with
      | none => exact h
      | some frame => exact hhint _

/-! ## Runs -/

end calls

inductive ProcessorCall where
  | startEpoch (time : ProtocolTime)
  | observe (view : Option EnvelopeView)
  | receive (rx : BorrowedSignalRx) (now : ℤ)
  | progress (now : ℤ)

def ProcessorCall.run (L : VitaLibrary) : ProcessorCall → Call N Unit
  | startEpoch time => Vita.startEpoch L time
  | observe view => modify fun a => (a.observe L view).2
  | receive rx now => modify fun a => a.receive rx now
  | progress now => Vita.progress L now

/-- The exception of a call is caught, and the calls go on. -/
def ProcessorCall.caught (L : VitaLibrary) (call : ProcessorCall) : Call N Unit :=
  tryCatch (call.run L) fun _ => pure ()

theorem Sound.wp_call {sid : UInt32} (hsuited : Suited N sid c) (h : Sound L sid c a)
    (call : ProcessorCall) : (call.caught L).wp a (.always (Sound L sid c)) := by
  refine Act.wp_catch.2 ?_
  cases call with
  | startEpoch time =>
    refine wp_ofResult_bind (fun _ _ => ?_) fun _ _ => h
    exact ⟨h.sid, h.config, forall_mem_nil _, forall_mem_nil _, forall_mem_nil _, h.valid.epochs⟩
  | observe view => exact h.observe view
  | receive rx now => exact h.receive rx now
  | progress now => exact h.wp_drain hsuited now h.pending

/-- **The encoder accepts all spectra**, those before a call that throws and those after it. -/
theorem emitted_encoded (L : VitaLibrary) (N : Arithmetic) {sid : UInt32} (hsid : 1 ≤ sid ∧ sid ≤ 4)
    {c : ProcessingConfig} (hc : c.validate = .ok ()) (hpower : FinitePowers N c)
    (calls : List ProcessorCall) :
    ∀ s ∈ ((calls.forM (ProcessorCall.caught L)).run (Assembler.create N sid c)).world.emitted,
      ∃ bytes, encodeSpectrum L.toTimelineLibrary s = .ok bytes := by
  have hcreate : Sound L sid c (Assembler.create N sid c) :=
    ⟨rfl, rfl, forall_mem_nil _, forall_mem_nil _, forall_mem_nil _, forall_mem_nil _⟩
  have hsound := Act.wp_always_world (Act.wp_always_forM hcreate fun call (_ : call ∈ calls) _ h =>
    h.wp_call ⟨hsid, hc, hpower⟩ call)
  intro s hs
  exact ⟨_, encodeSpectrum_eq (hsound.valid.emitted s hs)⟩

namespace Samples

/-- One packet that fills a window. -/
def received : List ProcessorCall :=
  [.startEpoch ⟨0, 0⟩,
    .observe (some
      { streamId := 1
        context := false
        signal := true
        utc := true
        picoseconds := true
        time := ⟨0, 0⟩
        packetCount := 0
        trailer := some 3 }),
    .receive
      { sampleTime := ⟨0, 0⟩
        known := true
        validData := true
        rate := some (1000 * 1048576)
        center := some (1000000 * 1048576)
        fragments := [some (List.replicate 64 (0, 0))] } 0,
    .progress 0]

theorem finitePowers : FinitePowers arithmetic config := by
  intro samples _ missing
  refine all_eq_true.2 fun p hp => ?_
  obtain ⟨i, -, rfl⟩ := mem_map.1 hp
  change isPower 0 = true
  decide

end Samples

open Samples in
set_option maxRecDepth 4000 in
theorem emitted_encoded_received :
    ((received.forM (ProcessorCall.caught library)).run
        (Assembler.create arithmetic 1 config)).world.emitted.map (·.center) = [1000000] ∧
      ∀ s ∈ ((received.forM (ProcessorCall.caught library)).run
        (Assembler.create arithmetic 1 config)).world.emitted,
        ∃ bytes, encodeSpectrum library.toTimelineLibrary s = .ok bytes :=
  ⟨by decide, emitted_encoded library arithmetic (by decide) (by decide) finitePowers received⟩

end Vita

end GraphX
