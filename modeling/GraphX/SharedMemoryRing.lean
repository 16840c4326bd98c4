/-
  The shared-memory ring over whole runs of the two processes.
-/
import GraphX.Lib.Ring
import GraphX.SharedMemory

namespace GraphX.SharedMemory

open Ipc List

variable {opts : Options} {s s' : Ipc}

/-! ## Slots -/

/-- The length and the first `n` bytes of a frame have been stored. -/
def Slot.Filled (slot : Slot) (framed : Bytes) (n : ℕ) : Prop :=
  slot.length = UInt32.ofNat framed.length ∧ ∀ k < n, framed[k]? = some (slot.data k)

/-- The slot holds the frame of an envelope. -/
def Carries (opts : Options) (slot : Slot) (e : Envelope) : Prop :=
  ∃ framed, encode opts e = some framed ∧ slot.Filled framed framed.length

variable {e : Envelope} {framed : Bytes}

theorem encode_eq_some : encode opts e = some framed ↔
    ∃ body, serialize e = .ok body ∧ frame body = .ok framed ∧
      framed.length ≤ opts.maxMessageBytes := by
  constructor
  · intro h
    unfold encode at h
    split at h
    · cases h
    · rename_i f hf
      split_ifs at h with hl
      cases h
      obtain ⟨body, hb, hf⟩ := Check.bind_eq_ok.1 hf
      exact ⟨body, hb, hf, not_lt.1 hl⟩
  · rintro ⟨body, hb, hf, hl⟩
    have h : serialize e >>= frame = .ok framed := Check.bind_eq_ok.2 ⟨body, hb, hf⟩
    simp [encode, h, not_lt.2 hl]

theorem Shared.slot_setSlot (opts : Options) (m : Shared) (slot : Slot) :
    (m.setSlot opts slot).slot opts = slot := Function.update_self ..

theorem Slot.Filled.snoc {slot : Slot} {k : ℕ} {byte : UInt8} (h : slot.Filled framed k)
    (hb : framed[k]? = some byte) :
    Slot.Filled ⟨slot.length, Function.update slot.data k byte⟩ framed (k + 1) := by
  refine ⟨h.1, fun j hj => ?_⟩
  rcases Nat.lt_succ_iff_lt_or_eq.1 hj with hj | rfl
  · have hne : j ≠ k := by omega
    simp [h.2 j hj, Function.update_of_ne hne]
  · simp [hb]

theorem map_data_of_filled {slot : Slot} (h : slot.Filled framed framed.length)
    (hl : framed.length < 2 ^ 32) : (range slot.length.toNat).map slot.data = framed := by
  have hn : slot.length.toNat = framed.length := by
    rw [h.1]
    exact Nat.mod_eq_of_lt hl
  rw [hn]
  apply ext_getElem?
  intro k
  by_cases hk : k < framed.length
  · rw [h.2 k hk]
    simp [hk]
  · rw [getElem?_eq_none (by simpa using hk), getElem?_eq_none (by simpa using hk)]

/-- **A frame decodes to its envelope.** -/
theorem decode_of_encode (h : encode opts e = some framed) : decode framed = some e := by
  obtain ⟨body, hb, hf, -⟩ := encode_eq_some.1 h
  obtain ⟨hle, rfl⟩ := frame_ok.1 hf
  have hd := deserialize_of_serialize hb
  simp only [decode]
  rw [take_left' (length_frameHeader _), drop_left' (length_frameHeader _),
    decodeFrameSize_header hle]
  simp [toNat_ofNat_frame hle, hd, Except.toOption]

theorem length_of_encode (h : encode opts e = some framed) :
    4 ≤ framed.length ∧ framed.length ≤ opts.maxMessageBytes ∧ framed.length < 2 ^ 32 := by
  obtain ⟨body, -, hf, hle⟩ := encode_eq_some.1 h
  have := length_of_frame_ok hf
  have := opts.max_le
  have : kMaxFrameBytes + 4 < 2 ^ 32 := by decide
  omega

/-! ## The ring -/

/-- The counters number the messages, and the slots between them are filled. -/
structure RingOk (opts : Options) (m : Shared) (published : List Envelope) (taken : ℕ) : Prop where
  head : m.head = UInt64.ofNat published.length
  tail : m.tail = UInt64.ofNat taken
  taken_le : taken ≤ published.length
  room : published.length ≤ taken + opts.capacity
  wraps : published.length < 2 ^ 64 ∨ opts.capacity ∣ 2 ^ 64
  holds : Ring.Holds (Carries opts) opts.capacity m.slots published taken

/-- The next publication finds its slot: the counter does not wrap around, or
    does so at a multiple of the capacity. -/
def PublishOk (opts : Options) (s : Ipc) : Prop :=
  s.shared.head + 1 ≠ 0 ∨ opts.capacity ∣ 2 ^ 64

namespace RingOk

variable {m : Shared} {published : List Envelope} {taken : ℕ} (h : RingOk opts m published taken)
include h

theorem window_lt : published.length - taken < 2 ^ 64 := by
  have := h.room
  have := opts.capacity_le
  omega

theorem toNat_sub : (m.head - m.tail).toNat = published.length - taken := by
  rw [h.head, h.tail, Ring.toNat_sub h.taken_le h.window_lt]

theorem isEmpty_iff : m.isEmpty = true ↔ taken = published.length := by
  rw [Shared.isEmpty, beq_iff_eq, h.head, h.tail, Ring.ofNat_eq_iff h.taken_le h.window_lt, eq_comm]

theorem isFull_iff : m.isFull opts = true ↔ taken + opts.capacity ≤ published.length := by
  rw [Shared.isFull, decide_eq_true_iff, h.toNat_sub]
  have := opts.capacity_pos
  omega

theorem slotIndex_head : Shared.slotIndex opts m.head = published.length % opts.capacity := by
  rw [Shared.slotIndex, h.head, Ring.toNat_mod h.wraps]

theorem slotIndex_tail : Shared.slotIndex opts m.tail = taken % opts.capacity := by
  rw [Shared.slotIndex, h.tail, Ring.toNat_mod]
  exact h.wraps.imp_left (lt_of_le_of_lt h.taken_le)

theorem load (hlt : taken < published.length) :
    ∃ e framed, published[taken]? = some e ∧ encode opts e = some framed ∧
      m.load opts = some framed := by
  have he : published[taken]? = some published[taken] := getElem?_eq_getElem hlt
  obtain ⟨framed, hf, hfill⟩ := h.holds _ _ le_rfl he
  obtain ⟨h4, hmax, h32⟩ := length_of_encode hf
  have hlen : (m.slots (taken % opts.capacity)).length.toNat = framed.length := by
    rw [hfill.1]
    exact Nat.mod_eq_of_lt h32
  refine ⟨_, framed, he, hf, ?_⟩
  simp only [Shared.load, h.slotIndex_tail, UInt32.lt_iff_toNat_lt, hlen, Bool.or_eq_true,
    decide_eq_true_eq]
  rw [if_neg (by simp only [UInt32.reduceToNat]; omega), ← hlen, map_data_of_filled hfill h32]

theorem congr {m' : Shared} (hh : m'.head = m.head) (ht : m'.tail = m.tail)
    (hs : m'.slots = m.slots) : RingOk opts m' published taken :=
  ⟨hh ▸ h.head, ht ▸ h.tail, h.taken_le, h.room, h.wraps, hs ▸ h.holds⟩

theorem setSlot (hroom : published.length < taken + opts.capacity) (slot : Slot) :
    RingOk opts (m.setSlot opts slot) published taken := by
  refine ⟨h.head, h.tail, h.taken_le, h.room, h.wraps, ?_⟩
  have := h.holds.update hroom slot
  rwa [← h.slotIndex_head] at this

theorem drop : RingOk opts { m with tail := m.head } published published.length :=
  ⟨h.head, h.head, le_rfl, Nat.le_add_right _ _, h.wraps, h.holds.mono h.taken_le⟩

theorem advance (hlt : taken < published.length) :
    RingOk opts m.advance published (taken + 1) := by
  refine ⟨h.head, ?_, hlt, by have := h.room; omega, h.wraps, h.holds.mono (Nat.le_succ _)⟩
  show m.tail + 1 = UInt64.ofNat (taken + 1)
  rw [h.tail, UInt64.ofNat_add]
  rfl

theorem publish (hroom : published.length < taken + opts.capacity)
    (hw : m.head + 1 ≠ 0 ∨ opts.capacity ∣ 2 ^ 64) (he : Carries opts (m.slot opts) e) :
    RingOk opts m.publish (published ++ [e]) taken where
  head := by
    show m.head + 1 = UInt64.ofNat (published ++ [e]).length
    rw [h.head, length_append, UInt64.ofNat_add]
    rfl
  tail := h.tail
  taken_le := by
    have := h.taken_le
    simp only [length_append]
    omega
  room := by
    simp only [length_append, length_singleton]
    omega
  wraps := by
    simp only [length_append, length_singleton]
    rcases hw with hw | hw
    · rcases h.wraps with hlt | hdvd
      · refine .inl (lt_of_le_of_ne hlt fun heq => hw ?_)
        rw [h.head, ← UInt64.toNat_inj, UInt64.toNat_add, UInt64.toNat_ofNat']
        simp only [UInt64.reduceToNat]
        omega
      · exact .inr hdvd
    · exact .inr hw
  holds := by
    refine h.holds.push ?_
    rw [← h.slotIndex_head]
    exact he

end RingOk

/-! ## Threads -/

def Message.Encoded (opts : Options) (m : Message) : Prop := encode opts m.envelope = some m.framed

/-- While `send` is at this place. -/
def SendOk (opts : Options) (s : Ipc) : SendPc → Prop
  | .idle => True
  | .lock m | .wait m => m.Encoded opts
  | .recover _ => s.mutex = .held .sender ∧ s.alive .consumer = false ∧ 0 < s.recoveries
  | .check m | .woken m => s.mutex = .held .sender ∧ m.Encoded opts
  | .closeDead | .unlock => s.mutex = .held .sender
  | .full m => s.mutex = .held .sender ∧ m.Encoded opts ∧ s.shared.closed = false
  | .storeLength m => s.mutex = .held .sender ∧ m.Encoded opts ∧ s.shared.closed = false ∧
      s.published.length < s.taken + opts.capacity
  | .storeData m k => s.mutex = .held .sender ∧ m.Encoded opts ∧ s.shared.closed = false ∧
      s.published.length < s.taken + opts.capacity ∧ (s.shared.slot opts).Filled m.framed k
  | .publish m => s.mutex = .held .sender ∧ m.Encoded opts ∧ s.shared.closed = false ∧
      s.published.length < s.taken + opts.capacity ∧
      (s.shared.slot opts).Filled m.framed m.framed.length

/-- The frame of the next message to be delivered. -/
def InHand (opts : Options) (s : Ipc) (framed : Bytes) : Prop :=
  ∃ e, s.published[s.delivered.length]? = some e ∧ encode opts e = some framed

/-- While `receive_result` is at this place. -/
def ReceiveOk (opts : Options) (s : Ipc) : ReceivePc → Prop
  | .idle | .lock | .wait => True
  | .recover stage => s.mutex = .held .receiver ∧ s.alive .producer = false ∧ 0 < s.recoveries ∧
      (stage = .close ∨ stage = .drop ∨ s.taken = s.published.length)
  | .empty | .unlock .failed => s.mutex = .held .receiver
  | .closeDead => s.mutex = .held .receiver ∧ s.taken = s.published.length
  | .load => s.mutex = .held .receiver ∧ s.taken < s.published.length
  | .closeInvalid => False
  | .advance framed => s.mutex = .held .receiver ∧ s.taken < s.published.length ∧
      ∃ e, s.published[s.taken]? = some e ∧ encode opts e = some framed
  | .unlock (.result r) => s.mutex = .held .receiver ∧ r.envelope = none ∧
      (r = .endOfStream → s.shared.closed = true ∧ s.taken = s.published.length)
  | .unlock (.decode framed) => s.mutex = .held .receiver ∧ InHand opts s framed
  | .decode framed => InHand opts s framed

/-- While `request_close` is at this place. -/
def CloseOk (s : Ipc) (side : Side) : ClosePc → Prop
  | .idle | .lock => True
  | _ => s.mutex = .held (.closer side)

/-- How many messages a receive has taken and not yet returned. -/
def inHand : ReceivePc → ℕ
  | .unlock (.decode _) | .decode _ => 1
  | _ => 0

/-- What is known of a thread. -/
def Place (opts : Options) (s : Ipc) : Thread → Prop
  | .sender => SendOk opts s s.send
  | .receiver => ReceiveOk opts s s.receive
  | .closer side => CloseOk s side (s.closing side)

/-- The thread is where it was. -/
def Stands (s s' : Ipc) : Thread → Prop
  | .sender => s'.send = s.send
  | .receiver => s'.receive = s.receive
  | .closer side => s'.closing side = s.closing side

/-- The thread is in no call. -/
def Idle (s : Ipc) : Thread → Prop
  | .sender => s.send = .idle
  | .receiver => s.receive = .idle
  | .closer side => s.closing side = .idle

theorem Idle.stands {t : Thread} (h : Idle s t) (hstands : Stands s s' t) : Idle s' t := by
  cases t <;> exact hstands.trans h

/-- What the mutex protects is as it was. -/
structure Untouched (s s' : Ipc) : Prop where
  shared : s'.shared = s.shared
  published : s'.published = s.published
  taken : s'.taken = s.taken
  recoveries : s'.recoveries = s.recoveries

/-- What is known of a thread concerns what the mutex protects while it holds it, and
    otherwise the message that it has in hand. -/
theorem Place.congr {t : Thread} (h : Place opts s t) (hstands : Stands s s' t)
    (hheld : s.mutex = .held t → s'.mutex = .held t ∧ Untouched s s')
    (halive : ∀ side, s.alive side = false → s'.alive side = false)
    (hpublished : s.published <+: s'.published)
    (hdelivered : t = .receiver → s'.delivered = s.delivered) : Place opts s' t := by
  have hsame : s.mutex = .held t → s'.mutex = .held t ∧ s'.shared = s.shared ∧
      s'.published = s.published ∧ s'.taken = s.taken ∧ s'.recoveries = s.recoveries := fun hm =>
    ⟨(hheld hm).1, (hheld hm).2.shared, (hheld hm).2.published, (hheld hm).2.taken,
      (hheld hm).2.recoveries⟩
  cases t with
  | sender =>
    rw [Place, show s'.send = s.send from hstands]
    cases hpc : s.send <;> simp_all [Place, SendOk]
  | receiver =>
    have hhand : ∀ framed, InHand opts s framed → InHand opts s' framed := by
      rintro framed ⟨e, he, hf⟩
      obtain ⟨more, hmore⟩ := hpublished
      have hlt := (List.getElem?_eq_some_iff.1 he).1
      exact ⟨e, by rw [hdelivered rfl, ← hmore, getElem?_append_left hlt, he], hf⟩
    rw [Place, show s'.receive = s.receive from hstands]
    cases hpc : s.receive with
    | unlock o => cases o <;> simp_all [Place, ReceiveOk]
    | advance framed =>
      rw [Place, hpc] at h
      obtain ⟨hm, hlt, e, he, hf⟩ := h
      obtain ⟨hm', -, hp, hk, -⟩ := hsame hm
      exact ⟨hm', by rwa [hk, hp], e, by rwa [hk, hp], hf⟩
    | _ => simp_all [Place, ReceiveOk]
  | closer side =>
    rw [Place, show s'.closing side = s.closing side from hstands]
    cases hpc : s.closing side <;> simp_all [Place, CloseOk]

/-! ## The invariant -/

/-- What has been delivered. -/
structure Stream (s : Ipc) : Prop where
  order : s.delivered <+: s.published
  /-- the tail is where the receives have got to, or nothing is left for them -/
  taken : s.alive .consumer = true → s.taken = s.delivered.length + inHand s.receive ∨
    s.alive .producer = false ∧ s.taken = s.published.length
  /-- without a recovery nothing is skipped -/
  clean : s.recoveries = 0 → s.alive .consumer = true →
    s.taken = s.delivered.length + inHand s.receive
  /-- and the stream ends only when everything has been delivered -/
  ended : s.recoveries = 0 → some .endOfStream ∈ s.results →
    s.shared.closed = true ∧ s.delivered = s.published

/-- What holds in every state of every run. -/
structure Inv (opts : Options) (s : Ipc) : Prop where
  ring : RingOk opts s.shared s.published s.taken
  place : ∀ t, Place opts s t
  /-- a dead process has no threads -/
  dead : ∀ t : Thread, s.alive t.side = false → Idle s t
  holder : ∀ t, s.mutex = .held t → s.alive t.side = true
  abandoned : s.mutex = .abandoned → ∃ side, s.alive side = false
  stream : Stream s

theorem inv_initial : Inv opts Ipc.initial where
  ring := ⟨rfl, rfl, le_rfl, Nat.zero_le _, .inl (by decide), Ring.holds_nil⟩
  place t := by cases t <;> trivial
  dead _ hd := nomatch hd
  holder := nofun
  abandoned := nofun
  stream := ⟨ nil_prefix, fun _ => .inl rfl, fun _ _ => rfl, fun _ h => nomatch h⟩

theorem Inv.other_dead (h : Inv opts s) {side : Side} (ha : s.alive side = true)
    (hm : s.mutex = .abandoned) {other : Side} (hne : other ≠ side) : s.alive other = false := by
  obtain ⟨side', hd⟩ := h.abandoned hm
  cases side <;> cases other <;> cases side' <;> simp_all

/-! ## Steps of one thread -/

/-- The thread has the mutex for itself, or its step does not touch what the mutex
    protects. -/
inductive Exclusive (t : Thread) (s s' : Ipc) : Prop
  | inside (owner : ∀ t', s.mutex = .held t' → t' = t)
      (mutex : s'.mutex = .held t ∨ s'.mutex = .free)
  | outside (mutex : s'.mutex = s.mutex) (untouched : Untouched s s')

/-- The step of a thread leaves the others alone. -/
structure Alone (t : Thread) (s s' : Ipc) : Prop where
  mutex : Exclusive t s s'
  others : ∀ t' ≠ t, Stands s s' t'
  alive : s'.alive = s.alive
  published : s.published <+: s'.published
  delivered : t ≠ .receiver → s'.delivered = s.delivered

theorem Alone.sender (hmutex : Exclusive .sender s s')
    (hsame : (s'.receive, s'.closing, s'.alive, s'.results) =
      (s.receive, s.closing, s.alive, s.results))
    (hpublished : s.published <+: s'.published) : Alone .sender s s' := by
  simp only [Prod.mk.injEq] at hsame
  obtain ⟨hreceive, hclosing, halive, hresults⟩ := hsame
  refine ⟨hmutex, ?_, halive, hpublished, fun _ => by simp only [Ipc.delivered, hresults]⟩
  rintro (_ | _ | side) ht
  exacts [absurd rfl ht, hreceive, congrFun hclosing side]

theorem Alone.receiver (hmutex : Exclusive .receiver s s')
    (hsame : (s'.send, s'.closing, s'.alive, s'.published) =
      (s.send, s.closing, s.alive, s.published)) : Alone .receiver s s' := by
  simp only [Prod.mk.injEq] at hsame
  obtain ⟨hsend, hclosing, halive, hpublished⟩ := hsame
  refine ⟨hmutex, ?_, halive, hpublished ▸ prefix_refl _, (absurd rfl ·)⟩
  rintro (_ | _ | side) ht
  exacts [hsend, absurd rfl ht, congrFun hclosing side]

theorem Alone.closer {side : Side} {pc : ClosePc} (hmutex : Exclusive (.closer side) s s')
    (hsame : (s'.send, s'.receive, s'.alive, s'.published, s'.results) =
      (s.send, s.receive, s.alive, s.published, s.results))
    (hclosing : s'.closing = Function.update s.closing side pc) : Alone (.closer side) s s' := by
  simp only [Prod.mk.injEq] at hsame
  obtain ⟨hsend, hreceive, halive, hpublished, hresults⟩ := hsame
  refine ⟨hmutex, ?_, halive, hpublished ▸ prefix_refl _,
    fun _ => by simp only [Ipc.delivered, hresults]⟩
  rintro (_ | _ | side') ht
  exacts [hsend, hreceive, (congrFun hclosing side').trans
    (Function.update_of_ne (fun heq => ht (congrArg _ heq)) ..)]

variable {t : Thread}

theorem Exclusive.holder (hm : s.mutex = .held t) (hmutex : s'.mutex = .held t ∨ s'.mutex = .free) :
    Exclusive t s s' :=
  .inside (fun _ ht' => Mutex.held.inj (ht'.symm.trans hm)) hmutex

theorem Inv.alone (h : Inv opts s) (hstep : Alone t s s') (ha : s.alive t.side = true)
    (hring : RingOk opts s'.shared s'.published s'.taken) (hplace : Place opts s' t)
    (hstream : Stream s') : Inv opts s' where
  ring := hring
  place t' := by
    by_cases ht : t' = t
    · exact ht ▸ hplace
    · refine (h.place t').congr (hstep.others t' ht) (fun hm => ?_) (fun _ hd => hstep.alive ▸ hd)
        hstep.published fun hr => hstep.delivered fun heq => ht (hr.trans heq.symm)
      rcases hstep.mutex with ⟨howner, -⟩ | ⟨hmutex, hsame⟩
      · exact absurd (howner t' hm) ht
      · exact ⟨hmutex.trans hm, hsame⟩
  dead t' hd := by
    rw [hstep.alive] at hd
    refine (h.dead t' hd).stands (hstep.others t' ?_)
    rintro rfl
    exact absurd (ha.symm.trans hd) nofun
  holder t' hm := by
    rw [hstep.alive]
    rcases hstep.mutex with ⟨-, hs | hs⟩ | ⟨hs, -⟩
    · rw [hs] at hm
      cases hm
      exact ha
    · rw [hs] at hm
      cases hm
    · exact h.holder t' (hs ▸ hm)
  abandoned hm := by
    rw [hstep.alive]
    rcases hstep.mutex with ⟨-, hs | hs⟩ | ⟨hs, -⟩
    · rw [hs] at hm
      cases hm
    · rw [hs] at hm
      cases hm
    · exact h.abandoned (hs ▸ hm)
  stream := hstream

/-- Neither counter of the ring moves, and it stays closed. -/
structure Quiet (m m' : Shared) : Prop where
  ring : (m'.head, m'.tail, m'.slots) = (m.head, m.tail, m.slots)
  closed : m.closed = true → m'.closed = true

theorem Quiet.refl (m : Shared) : Quiet m m := ⟨rfl, id⟩

theorem Quiet.close (m : Shared) : Quiet m m.close := ⟨rfl, fun _ => rfl⟩

/-- The stream of a step that delivers nothing. -/
theorem Stream.congr (h : Stream s) (halive : s'.alive = s.alive)
    (hhand : inHand s'.receive = inHand s.receive) (hresults : s'.results = s.results)
    (hpublished : s.published <+: s'.published)
    (hopen : s.shared.closed = true ∨ s.alive .producer = false → s'.published = s.published)
    (hclosed : s.shared.closed = true → s'.shared.closed = true)
    (htaken : s.alive .consumer = true → s'.taken = s.taken)
    (hrecoveries : s.recoveries ≤ s'.recoveries) : Stream s' := by
  have hd : s'.delivered = s.delivered := by simp only [delivered, hresults]
  refine ⟨hd ▸ h.order.trans hpublished, fun hc => ?_, fun h0 hc => ?_, fun h0 hmem => ?_⟩
  · rw [halive] at hc ⊢
    rw [hd, hhand, htaken hc]
    exact (h.taken hc).imp_right fun ⟨hp, ht⟩ => ⟨hp, by rw [hopen (.inr hp), ht]⟩
  · rw [halive] at hc
    rw [hd, hhand, htaken hc]
    exact h.clean (by omega) hc
  · obtain ⟨hc, hall⟩ := h.ended (by omega) (hresults ▸ hmem)
    exact ⟨hclosed hc, by rw [hd, hopen (.inl hc), hall]⟩

/-- A step that delivers nothing. -/
theorem Inv.quiet (h : Inv opts s) (hstep : Alone t s s') (ha : s.alive t.side = true)
    (hq : Quiet s.shared s'.shared)
    (hsame : (inHand s'.receive, s'.published, s'.results, s'.taken) =
      (inHand s.receive, s.published, s.results, s.taken))
    (hrecoveries : s.recoveries ≤ s'.recoveries) (hplace : Place opts s' t) : Inv opts s' := by
  have hring := hq.ring
  simp only [Prod.mk.injEq] at hsame hring
  obtain ⟨hhand, hpublished, hresults, htaken⟩ := hsame
  obtain ⟨hhead, htail, hslots⟩ := hring
  exact h.alone hstep ha (hpublished ▸ htaken ▸ h.ring.congr hhead htail hslots) hplace
    (h.stream.congr hstep.alive hhand hresults hstep.published (fun _ => hpublished) hq.closed
      (fun _ => htaken) hrecoveries)

theorem acquire_eq_some {t : Thread} {died : Bool} {s₁ : Ipc} (h : s.acquire t = some (died, s₁)) :
    (∀ t', s.mutex = .held t' → t' = t) ∧ (died = true → s.mutex = .abandoned) ∧
      s₁ = { s with
        mutex := .held t
        recoveries := if died then s.recoveries + 1 else s.recoveries } := by
  unfold acquire at h
  split at h
  · rename_i hm
    cases h
    exact ⟨by simp [hm], by simp, rfl⟩
  · rename_i hm
    cases h
    exact ⟨by simp [hm], by simp [hm], rfl⟩
  · cases h

/-! ## The sender -/

theorem delivered_finish (s : Ipc) (r : Option ReceiveResult) :
    (s.finish r).delivered = s.delivered ++ r.elim [] ReceiveResult.delivered := by
  simp [delivered, finish]

variable {mutex : Mutex}

section

variable (h : Inv opts s)
include h

/-- A step inside the critical section of `send`. -/
theorem Inv.senderQuiet (ha : s.alive .producer = true) (hm : s.mutex = .held .sender) {m : Shared}
    {pc : SendPc} (hmutex : mutex = .held .sender ∨ mutex = .free)
    (hq : Quiet s.shared m)
    (hsend : SendOk opts { s with shared := m, mutex, send := pc } pc) :
    Inv opts { s with shared := m, mutex, send := pc } :=
  h.quiet (.sender (.holder hm hmutex) rfl (prefix_refl _)) ha hq rfl le_rfl hsend

/-- `send` gets the mutex, with `EOWNERDEAD` or without. -/
theorem Inv.senderLocks (ha : s.alive .producer = true) {died : Bool} {s₁ : Ipc} {pc : SendPc}
    (hacq : s.acquire .sender = some (died, s₁))
    (hpc : ∀ s', s'.mutex = .held .sender → SendOk opts s' pc) :
    Inv opts { s₁ with send := if died then .recover .close else pc } := by
  obtain ⟨hm, hdied, rfl⟩ := acquire_eq_some hacq
  refine h.quiet (.sender (.inside hm (.inl rfl)) rfl (prefix_refl _)) ha (.refl _) rfl
    (by dsimp only; split_ifs <;> omega) ?_
  cases died with
  | false => exact hpc _ rfl
  | true => exact ⟨rfl, h.other_dead ha (hdied rfl) nofun, Nat.succ_pos _⟩

/-- **A step of the sender.** -/
theorem Inv.stepSend (ha : s.alive .producer = true) {hint : Hint}
    (hw : ∀ m, s.send = .publish m → PublishOk opts s) (hs : s.stepSend opts hint = some s') :
    Inv opts s' := by
  have hok : SendOk opts s s.send := h.place .sender
  unfold Ipc.stepSend at hs
  cases hpc : s.send with
    simp only [hpc, Option.some.injEq, Option.map_eq_some_iff, Prod.exists] at hs hok
  | idle => cases hs
  | lock m | wait m =>
    obtain ⟨died, s₁, hacq, rfl⟩ := hs
    exact h.senderLocks ha hacq fun _ hm => ⟨hm, hok⟩
  | recover stage =>
    obtain ⟨hm, hdead, hrec⟩ := hok
    cases stage <;> cases hs
    · exact h.senderQuiet ha hm (.inl hm) (.close _) ⟨hm, hdead, hrec⟩
    · refine h.alone (.sender (.holder hm (.inl hm)) rfl (prefix_refl _)) ha h.ring.drop
        ⟨hm, hdead, hrec⟩ (h.stream.congr rfl rfl rfl (prefix_refl _) (fun _ => rfl) id
          (fun hc => absurd (hdead.symm.trans hc) nofun) le_rfl)
    · exact h.senderQuiet ha hm (.inl hm) ⟨rfl, id⟩ ⟨hm, hdead, hrec⟩
    · exact h.senderQuiet ha hm (.inl hm) (.refl _) hm
  | check m =>
    obtain ⟨hm, henc⟩ := hok
    subst hs
    refine h.senderQuiet ha hm (.inl hm) (.refl _) ?_
    split_ifs with hc
    · exact hm
    · exact ⟨hm, henc, by simpa using hc⟩
    · exact hm
  | closeDead =>
    subst hs
    exact h.senderQuiet ha hok (.inl hok) (.close _) hok
  | full m =>
    obtain ⟨hm, henc, hopen⟩ := hok
    split_ifs at hs with hfull hgive <;> cases hs
    · exact h.senderQuiet ha hm (.inl hm) (.refl _) hm
    · exact h.senderQuiet ha hm (.inr rfl) (.refl _) henc
    · rw [h.ring.isFull_iff, not_le] at hfull
      exact h.senderQuiet ha hm (.inl hm) (.refl _) ⟨hm, henc, hopen, hfull⟩
  | woken m =>
    obtain ⟨hm, henc⟩ := hok
    subst hs
    refine h.senderQuiet ha hm (.inl hm) (.refl _) ?_
    split_ifs with hc
    · exact hm
    · simp only [Bool.or_eq_true, not_or, Bool.not_eq_true] at hc
      exact ⟨hm, henc, hc.2⟩
    · exact hm
  | storeLength m =>
    obtain ⟨hm, henc, hopen, hroom⟩ := hok
    subst hs
    refine h.alone (.sender (.holder hm (.inl hm)) rfl (prefix_refl _)) ha
      (h.ring.setSlot hroom _) ⟨hm, henc, hopen, hroom, ?_, fun k hk => nomatch hk⟩
      (h.stream.congr rfl rfl rfl (prefix_refl _) (fun _ => rfl) id (fun _ => rfl) le_rfl)
    exact congrArg Slot.length (Shared.slot_setSlot opts s.shared _)
  | storeData m k =>
    obtain ⟨hm, henc, hopen, hroom, hlen, hdone⟩ := hok
    split at hs <;> cases hs
    · rename_i byte hbyte
      refine h.alone (.sender (.holder hm (.inl hm)) rfl (prefix_refl _)) ha
        (h.ring.setSlot hroom _) ⟨hm, henc, hopen, hroom, ?_⟩
        (h.stream.congr rfl rfl rfl (prefix_refl _) (fun _ => rfl) id (fun _ => rfl) le_rfl)
      exact (Shared.slot_setSlot opts s.shared _).symm ▸ Slot.Filled.snoc ⟨hlen, hdone⟩ hbyte
    · rename_i hend
      refine h.senderQuiet ha hm (.inl hm) (.refl _) ⟨hm, henc, hopen, hroom, hlen, fun j hj => ?_⟩
      rw [List.getElem?_eq_none_iff] at hend
      exact hdone j (by omega)
  | publish m =>
    obtain ⟨hm, henc, hopen, hroom, hfill⟩ := hok
    subst hs
    have hnot : ¬(s.shared.closed = true ∨ s.alive .producer = false) := by simp [hopen, ha]
    exact h.alone (.sender (.holder hm (.inl hm)) rfl (prefix_append ..)) ha
      (h.ring.publish hroom (hw m hpc) ⟨_, henc, hfill⟩) hm
      (h.stream.congr rfl rfl rfl (prefix_append ..) (absurd · hnot) id (fun _ => rfl) le_rfl)
  | unlock =>
    subst hs
    exact h.senderQuiet ha hok (.inr rfl) (.refl _) trivial

/-! ## The receiver -/

/-- A step inside the critical section of `receive_result`. -/
theorem Inv.receiverQuiet (ha : s.alive .consumer = true) (hm : s.mutex = .held .receiver)
    {m : Shared} {pc pc' : ReceivePc} (hpc : s.receive = pc) (hhand : inHand pc' = inHand pc)
    (hmutex : mutex = .held .receiver ∨ mutex = .free) (hq : Quiet s.shared m)
    (hreceive : ReceiveOk opts { s with shared := m, mutex, receive := pc' } pc') :
    Inv opts { s with shared := m, mutex, receive := pc' } := by
  subst hpc
  exact h.quiet (.receiver (.holder hm hmutex) rfl) ha hq (congrArg (·, _) hhand) le_rfl hreceive

/-- `receive_result` gets the mutex, with `EOWNERDEAD` or without. -/
theorem Inv.receiverLocks (ha : s.alive .consumer = true) {died : Bool} {s₁ : Ipc}
    {pc : ReceivePc} (hacq : s.acquire .receiver = some (died, s₁)) (hhand : inHand s.receive = 0)
    (hpc : inHand pc = 0 ∧ ∀ s', s'.mutex = .held .receiver → ReceiveOk opts s' pc) :
    Inv opts { s₁ with receive := if died then .recover .close else pc } := by
  obtain ⟨hm, hdied, rfl⟩ := acquire_eq_some hacq
  refine h.quiet (.receiver (.inside hm (.inl rfl)) rfl) ha (.refl _) (congrArg (·, _) ?_)
    (by dsimp only; split_ifs <;> omega) ?_
  · cases died with
    | false => exact hpc.1.trans hhand.symm
    | true => exact hhand.symm
  · cases died with
    | false => exact hpc.2 _ rfl
    | true => exact ⟨rfl, h.other_dead ha (hdied rfl) nofun, Nat.succ_pos _, .inl rfl⟩

/-- The end of a receive that has nothing in hand. -/
theorem Inv.finishes (ha : s.alive .consumer = true) (hmutex : mutex = .free ∧ s.mutex = .held .receiver ∨
      mutex = s.mutex) (hhand : inHand s.receive = 0) {r : Option ReceiveResult}
    (hr : r.elim [] ReceiveResult.delivered = [])
    (hend : s.recoveries = 0 → r = some .endOfStream →
      s.shared.closed = true ∧ s.taken = s.published.length) :
    Inv opts (Ipc.finish { s with mutex } r) := by
  have hd : (Ipc.finish { s with mutex } r).delivered = s.delivered := by
    rw [delivered_finish, hr]
    exact append_nil _
  have htaken := h.stream.taken ha
  have hclean := fun h0 => h.stream.clean h0 ha
  rw [hhand] at htaken hclean
  refine h.alone (.receiver ?_ rfl) ha h.ring trivial
    ⟨hd ▸ h.stream.order, fun _ => hd ▸ htaken, fun h0 _ => hd ▸ hclean h0, fun h0 hmem => ?_⟩
  · rcases hmutex with ⟨rfl, hm⟩ | rfl
    · exact .holder hm (.inr rfl)
    · exact .outside rfl ⟨rfl, rfl, rfl, rfl⟩
  · rw [hd]
    rcases mem_append.1 hmem with hmem | hmem
    · exact h.stream.ended h0 hmem
    · obtain ⟨hc, htk⟩ := hend h0 (mem_singleton.1 hmem).symm
      exact ⟨hc, h.stream.order.eq_of_length ((hclean h0).symm.trans htk)⟩

/-- **The delivery of a message.** -/
theorem Inv.deliver (ha : s.alive .consumer = true) (hpc : s.receive = .decode framed) :
    Inv opts (s.finish ((decode framed).map .ofMessage)) := by
  have hok := h.place .receiver
  rw [Place, hpc] at hok
  obtain ⟨e, he, henc⟩ := hok
  have hdec := decode_of_encode henc
  have hd : (s.finish ((decode framed).map .ofMessage)).delivered = s.delivered ++ [e] := by
    rw [delivered_finish, hdec]
    rfl
  have htaken := h.stream.taken ha
  have hclean := fun h0 => h.stream.clean h0 ha
  rw [hpc] at htaken hclean
  refine h.alone (.receiver (.outside rfl ⟨rfl, rfl, rfl, rfl⟩) rfl) ha h.ring trivial
    ⟨?_, fun _ => ?_, fun h0 _ => ?_, fun h0 hmem => ?_⟩
  · rw [hd]
    obtain ⟨rest, hrest⟩ := h.stream.order
    have hlast : rest[0]? = some e := by
      have : s.published = s.delivered ++ rest := hrest.symm
      rwa [this, getElem?_append_right le_rfl, Nat.sub_self] at he
    cases rest with
    | nil => cases hlast
    | cons x xs =>
      cases hlast
      exact ⟨xs, by rw [append_assoc]; exact hrest⟩
  · rw [hd]
    exact htaken.imp_left fun ht => by simpa [inHand, finish] using ht
  · rw [hd]
    simpa [inHand, finish] using hclean h0
  · -- the stream has not ended, since this message was still to come
    have hlt := (List.getElem?_eq_some_iff.1 he).1
    have hmem : some .endOfStream ∈ s.results := by
      simpa [finish, hdec, ReceiveResult.endOfStream, ReceiveResult.ofMessage] using hmem
    rw [(h.stream.ended h0 hmem).2] at hlt
    exact absurd hlt (lt_irrefl _)

/-- **A step of the receiver.** -/
theorem Inv.stepReceive (ha : s.alive .consumer = true) {hint : Hint}
    (hs : s.stepReceive opts hint = some s') : Inv opts s' := by
  have hok : ReceiveOk opts s s.receive := h.place .receiver
  unfold Ipc.stepReceive at hs
  cases hpc : s.receive with
    simp only [hpc, Option.some.injEq, Option.map_eq_some_iff, Prod.exists] at hs hok
  | idle => cases hs
  | lock =>
    obtain ⟨died, s₁, hacq, rfl⟩ := hs
    exact h.receiverLocks ha hacq (by rw [hpc]; rfl) ⟨rfl, fun _ => id⟩
  | wait =>
    obtain ⟨died, s₁, hacq, rfl⟩ := hs
    refine h.receiverLocks ha hacq (by rw [hpc]; rfl) ?_
    cases hint.waitFailed <;> exact ⟨rfl, fun _ => id⟩
  | recover stage =>
    obtain ⟨hm, hdead, hrec, hstage⟩ := hok
    cases stage <;> cases hs
    · exact h.receiverQuiet ha hm hpc rfl (.inl hm) (.close _)
        ⟨hm, hdead, hrec, .inr (.inl rfl)⟩
    · exact h.alone (.receiver (.holder hm (.inl hm)) rfl) ha h.ring.drop
        ⟨hm, hdead, hrec, .inr (.inr rfl)⟩ ⟨h.stream.order, fun _ => .inr ⟨hdead, rfl⟩,
          fun h0 => absurd h0 hrec.ne', h.stream.ended⟩
    · exact h.receiverQuiet ha hm hpc rfl (.inl hm) ⟨rfl, id⟩
        ⟨hm, hdead, hrec, .inr (.inr (by simpa using hstage))⟩
    · exact h.receiverQuiet ha hm hpc rfl (.inl hm) (.refl _) hm
  | empty =>
    have hm : s.mutex = .held .receiver := hok
    by_cases he : s.shared.isEmpty
    · have htk := h.ring.isEmpty_iff.1 he
      split_ifs at hs with h₁ h₂ h₃ h₄ <;> cases hs
      · exact h.receiverQuiet ha hm hpc rfl (.inl hm) (.refl _) ⟨hm, rfl, nofun⟩
      · exact h.receiverQuiet ha hm hpc rfl (.inl hm) (.refl _) ⟨hm, rfl, fun _ => ⟨h₂, htk⟩⟩
      · exact h.receiverQuiet ha hm hpc rfl (.inl hm) (.refl _) ⟨hm, htk⟩
      · exact h.receiverQuiet ha hm hpc rfl (.inl hm) (.refl _) ⟨hm, rfl, nofun⟩
      · exact h.receiverQuiet ha hm hpc rfl (.inr rfl) (.refl _) trivial
    · rw [if_neg he] at hs
      rw [h.ring.isEmpty_iff] at he
      cases hs
      exact h.receiverQuiet ha hm hpc rfl (.inl hm) (.refl _)
        ⟨hm, lt_of_le_of_ne h.ring.taken_le he⟩
  | closeDead =>
    subst hs
    exact h.receiverQuiet ha hok.1 hpc rfl (.inl hok.1) (.close _)
      ⟨hok.1, rfl, fun _ => ⟨rfl, hok.2⟩⟩
  | load =>
    obtain ⟨hm, hlt⟩ := hok
    obtain ⟨e, framed, he, henc, hload⟩ := h.ring.load hlt
    rw [hload] at hs
    cases hs
    exact h.receiverQuiet ha hm hpc rfl (.inl hm) (.refl _) ⟨hm, hlt, e, he, henc⟩
  | closeInvalid => exact hok.elim
  | advance framed =>
    obtain ⟨hm, hlt, e, he, henc⟩ := hok
    subst hs
    have htk : s.taken = s.delivered.length := by
      rcases h.stream.taken ha with ht | ⟨-, ht⟩
      · rwa [hpc] at ht
      · omega
    refine h.alone (.receiver (.holder hm (.inl hm)) rfl) ha
      (h.ring.advance hlt) ⟨hm, e, ?_, henc⟩ ⟨h.stream.order, fun _ => .inl (congrArg (· + 1) htk),
        fun _ _ => congrArg (· + 1) htk, h.stream.ended⟩
    rw [htk] at he
    exact he
  | unlock outcome =>
    cases outcome with
    | result r =>
      cases hs
      obtain ⟨hm, hr, hend⟩ := hok
      exact h.finishes ha (.inl ⟨rfl, hm⟩) (by rw [hpc]; rfl) (by simp [ReceiveResult.delivered, hr])
        fun _ heq => hend (Option.some.inj heq)
    | failed =>
      cases hs
      exact h.finishes ha (.inl ⟨rfl, hok⟩) (by rw [hpc]; rfl) rfl nofun
    | decode framed =>
      cases hs
      exact h.receiverQuiet ha hok.1 hpc rfl (.inr rfl) (.refl _) hok.2
  | decode framed =>
    cases hs
    exact h.deliver ha hpc

/-! ## Closing and dying -/

variable {side : Side}

/-- A step inside the critical section of `request_close`. -/
theorem Inv.closerQuiet (ha : s.alive side = true) (hm : s.mutex = .held (.closer side)) {m : Shared}
    {pc : ClosePc} (hpc : mutex = .held (.closer side) ∨ mutex = .free ∧ pc = .idle)
    (hq : Quiet s.shared m) :
    Inv opts { s with shared := m, mutex, closing := Function.update s.closing side pc } := by
  refine h.quiet (.closer (.holder hm (hpc.imp_right And.left)) rfl rfl) ha hq rfl le_rfl ?_
  simp only [Place, Function.update_self]
  rcases hpc with rfl | ⟨-, rfl⟩
  · cases pc <;> trivial
  · trivial

/-- **A step of `request_close`.** -/
theorem Inv.stepClose (ha : s.alive side = true) (hs : s.stepClose side = some s') :
    Inv opts s' := by
  have hok : CloseOk s side (s.closing side) := h.place (.closer side)
  unfold Ipc.stepClose at hs
  cases hpc : s.closing side with
    simp only [hpc, Option.some.injEq, Option.map_eq_some_iff, Prod.exists] at hs hok
  | idle => cases hs
  | lock =>
    obtain ⟨died, s₁, hacq, rfl⟩ := hs
    obtain ⟨hm, hdied, rfl⟩ := acquire_eq_some hacq
    refine h.quiet (.closer (.inside hm (.inl rfl)) rfl rfl) ha (.refl _) rfl
      (by dsimp only; split_ifs <;> omega) ?_
    simp only [Place, Function.update_self]
    cases died <;> rfl
  | consistent =>
    subst hs
    exact h.closerQuiet ha hok (.inl hok) (.refl _)
  | storeClosed =>
    subst hs
    exact h.closerQuiet ha hok (.inl hok) (.close _)
  | storePid =>
    subst hs
    cases side <;> exact h.closerQuiet ha hok (.inl hok) ⟨rfl, id⟩
  | unlock =>
    subst hs
    exact h.closerQuiet ha hok (.inr ⟨rfl, rfl⟩) (.refl _)

/-- **The death of a process.** -/
theorem Inv.die (side : Side) : Inv opts (s.die side) := by
  have halive : ∀ side', s.alive side' = false → (s.die side).alive side' = false := by
    intro side' hd
    by_cases hside : side' = side
    · simp [Ipc.die, hside]
    · simp [Ipc.die, Function.update_of_ne hside, hd]
  have hidle : ∀ t : Thread, t.side = side → Idle (s.die side) t := by
    rintro (_ | _ | side') rfl <;> simp [Idle, Ipc.die, Thread.side]
  have hstands : ∀ t : Thread, t.side ≠ side → Stands s (s.die side) t := by
    rintro (_ | _ | side') hne <;> cases side <;> simp_all [Stands, Ipc.die, Thread.side]
  have hmutex : ∀ t, (s.die side).mutex = .held t ↔ s.mutex = .held t ∧ t.side ≠ side := by
    intro t
    simp only [Ipc.die]
    split <;> grind
  refine ⟨h.ring, fun t => ?_, fun t hd => ?_, fun t hm => ?_, fun _ => ?_,
    h.stream.order, fun hc => ?_, fun h0 hc => ?_, h.stream.ended⟩
  · by_cases hside : t.side = side
    · have := hidle t hside
      cases t <;> simp_all [Idle, Place, SendOk, ReceiveOk, CloseOk]
    · exact (h.place t).congr (hstands t hside)
        (fun hm => ⟨(hmutex t).2 ⟨hm, hside⟩, rfl, rfl, rfl, rfl⟩) halive (prefix_refl _) fun _ => rfl
  · by_cases hside : t.side = side
    · exact hidle t hside
    · refine (h.dead t ?_).stands (hstands t hside)
      simpa [Ipc.die, Function.update_of_ne hside] using hd
  · obtain ⟨hm, hside⟩ := (hmutex t).1 hm
    simpa [Ipc.die, Function.update_of_ne hside] using h.holder t hm
  · exact ⟨side, by simp [Ipc.die]⟩
  · cases side with
    | producer => exact (h.stream.taken hc).imp_right (And.imp_left (halive _))
    | consumer => simp [Ipc.die] at hc
  · cases side with
    | producer => exact h.stream.clean h0 hc
    | consumer => simp [Ipc.die] at hc

end

/-! ## Steps -/

/-- What a step can do. -/
inductive Stepped (opts : Options) (s : Ipc) : Action → Ipc → Prop where
  | callSend {e : Envelope} {framed : Bytes} (hidle : s.send = .idle)
      (ha : s.alive .producer = true) (henc : encode opts e = some framed) :
      Stepped opts s (.callSend e) { s with send := .lock ⟨e, framed⟩ }
  | cancelled (hidle : s.receive = .idle) (ha : s.alive .consumer = true)
      (hc : s.locallyClosed .consumer = true) :
      Stepped opts s .callReceive (s.finish (some .cancelled))
  | callReceive (hidle : s.receive = .idle) (ha : s.alive .consumer = true)
      (hc : s.locallyClosed .consumer = false) :
      Stepped opts s .callReceive { s with receive := .lock }
  | callClose {side : Side} (ha : s.alive side = true) :
      Stepped opts s (.callClose side) { s with
        locallyClosed := Function.update s.locallyClosed side true
        closing := Function.update s.closing side .lock }
  | sender {hint : Hint} {s' : Ipc} (ha : s.alive .producer = true)
      (hs : s.stepSend opts hint = some s') : Stepped opts s (.run .sender hint) s'
  | receiver {hint : Hint} {s' : Ipc} (ha : s.alive .consumer = true)
      (hs : s.stepReceive opts hint = some s') : Stepped opts s (.run .receiver hint) s'
  | closer {side : Side} {hint : Hint} {s' : Ipc} (ha : s.alive side = true)
      (hs : s.stepClose side = some s') : Stepped opts s (.run (.closer side) hint) s'
  | die {side : Side} : Stepped opts s (.die side) (s.die side)

theorem stepped_of_step {a : Action} (hs : s.step opts a = some s') : Stepped opts s a s' := by
  cases a with simp only [Ipc.step] at hs
  | callSend e =>
    split at hs
    · rename_i hidle
      split_ifs at hs with hc
      simp only [Option.map_eq_some_iff] at hs
      obtain ⟨framed, henc, rfl⟩ := hs
      exact .callSend hidle (by simp_all) henc
    · cases hs
  | callReceive =>
    split at hs
    · rename_i hidle
      split_ifs at hs with ha hc <;> cases hs
      · exact .cancelled hidle (by simpa using ha) hc
      · exact .callReceive hidle (by simpa using ha) (by simpa using hc)
    · cases hs
  | callClose side =>
    split_ifs at hs with hc
    cases hs
    exact .callClose (by simp_all)
  | run thread hint =>
    split_ifs at hs with ha
    have ha : s.alive thread.side = true := by simpa using ha
    cases thread with
    | sender => exact .sender ha hs
    | receiver => exact .receiver ha hs
    | closer side => exact .closer ha hs
  | die side =>
    split_ifs at hs
    cases hs
    exact .die

/-- What the environment may not do for the ring to stay in order: let the
    head counter wrap around where that changes the slots. -/
def CountersOk (opts : Options) (s : Ipc) : Action → Prop
  | .run .sender _ => ∀ m, s.send = .publish m → PublishOk opts s
  | _ => True

/-- **Every step keeps the invariant.** -/
theorem Inv.step (h : Inv opts s) {a : Action} (hw : CountersOk opts s a)
    (hs : s.step opts a = some s') : Inv opts s' := by
  cases stepped_of_step hs with
  | callSend hidle ha henc =>
    exact h.quiet (.sender (.outside rfl ⟨rfl, rfl, rfl, rfl⟩) rfl (prefix_refl _)) ha (.refl _) rfl
      le_rfl henc
  | cancelled hidle ha hc =>
    exact h.finishes ha (.inr rfl) (by rw [hidle]; rfl) rfl nofun
  | callReceive hidle ha hc =>
    refine h.quiet (.receiver (.outside rfl ⟨rfl, rfl, rfl, rfl⟩) rfl) ha (.refl _)
      (congrArg (·, _) ?_) le_rfl trivial
    rw [hidle]
    rfl
  | @callClose side ha =>
    refine h.quiet (.closer (.outside rfl ⟨rfl, rfl, rfl, rfl⟩) rfl rfl) ha (.refl _) rfl le_rfl ?_
    simp only [Place, Function.update_self]
    trivial
  | sender ha hs => exact h.stepSend ha hw hs
  | receiver ha hs => exact h.stepReceive ha hs
  | closer ha hs => exact h.stepClose ha hs
  | die => exact h.die _

end GraphX.SharedMemory
