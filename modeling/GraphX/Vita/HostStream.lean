/-
  What goes to the TLS connection of a host.

  The control messages that wait are a queue: they are served in the order in which they
  were submitted, and a message that was written in part stays at the head until all of it
  was written or the connection has failed.

  * **`stream_prefixed`**: what a connection has taken are whole messages in the order in
    which they were submitted, and a piece of the next one.
-/
import GraphX.Vita.HostTransport

namespace GraphX

open Slots List

namespace Vita

namespace HostTransport

/-- Whole messages, and a piece of the next one. -/
def Prefixed (offered : List Bytes) (written : Bytes) : Prop :=
  ∃ sent rest piece, offered = sent ++ rest ∧ piece <+: rest.headD [] ∧ written = sent.flatten ++ piece

theorem Prefixed.append {offered : List Bytes} {written : Bytes} (h : Prefixed offered written)
    (message : Bytes) : Prefixed (offered ++ [message]) written := by
  obtain ⟨sent, rest, piece, rfl, hpiece, rfl⟩ := h
  refine ⟨sent, rest ++ [message], piece, append_assoc _ _ _, ?_, rfl⟩
  cases rest with
  | nil =>
    rw [prefix_nil.1 hpiece]
    exact nil_prefix
  | cons m rest => exact hpiece

/-- A control message that waits, and how much of it was written. -/
structure Pending where
  sequence : UInt64
  bytes : Bytes
  offset : ℕ

/-- The message with its number. -/
def Pending.message (p : Pending) : UInt64 × Bytes := (p.sequence, p.bytes)

/-- The control message in the slot. -/
def pending (s : Slot) : Option Pending :=
  if s.occupied && s.control then some ⟨s.sequence, s.bytes, s.offset⟩ else none

def message (s : Slot) : Option (UInt64 × Bytes) := (pending s).map Pending.message

/-- The connection takes what is written. -/
def Flows (t : HostTransport) : Prop := t.ssl = true ∧ t.failed = false

variable {t t' : HostTransport} {i : Fin 12} {p : Pending}

/-- What was written, from the messages that were offered. -/
def Written (t : HostTransport) : Prop :=
  ∃ sent, t.offered = sent ++ t.queue.map (·.2) ∧ (t.queue = [] → t.written = sent.flatten) ∧
    ∀ i p, pending (t.slots i) = some p → t.queue.head? = some p.message →
      t.written = sent.flatten ++ p.bytes.take p.offset

/-- The slots hold the messages of the queue, each in one slot. -/
structure Held (slots : Fin 12 → Slot) (queue : List (UInt64 × Bytes)) : Prop where
  mem_queue : ∀ m, m ∈ queue ↔ ∃ i, message (slots i) = some m
  distinct : ∀ i j m m', message (slots i) = some m → message (slots j) = some m' →
    m.1 = m'.1 → i = j

/-- Only the first message of the queue was begun.  As long as the connection has not failed,
    what was written is known. -/
structure Queued (t : HostTransport) : Prop extends Held t.slots t.queue where
  order : t.queue.Pairwise fun m m' => m.1 < m'.1
  bound : ∀ m ∈ t.queue, m.1 ≤ t.sequence
  begun : ∀ i p, pending (t.slots i) = some p → 0 < p.offset → t.queue.head? = some p.message
  flows : Flows t → Written t
  stopped : Prefixed t.offered t.written

/-- Nothing was written of the messages that wait for a connection. -/
def Idle (t : HostTransport) : Prop :=
  t.ssl = false → ∀ i p, pending (t.slots i) = some p → p.offset = 0

theorem message_of_pending {s : Slot} (h : pending s = some p) : message s = some p.message := by
  rw [message, h]
  rfl

theorem Queued.new : Queued new := by
  have hfree : ∀ i, pending (HostTransport.new.slots i) = none := fun _ => rfl
  have hheld : Held HostTransport.new.slots [] := by
    constructor <;> simp [message, hfree]
  refine ⟨hheld, List.Pairwise.nil, forall_mem_nil _, ?_, ?_, [], [], [], rfl, nil_prefix, rfl⟩
  · simp [hfree]
  · exact fun hflows => absurd hflows.1 Bool.false_ne_true

/-- What was written are whole messages and a piece of the first one that waits. -/
theorem Written.prefixed (h : Written t) (hheld : Held t.slots t.queue) :
    Prefixed t.offered t.written := by
  obtain ⟨sent, hoffered, hempty, hhead⟩ := h
  cases hqueue : t.queue with
  | nil =>
    refine ⟨sent, [], [], ?_, nil_prefix, ?_⟩
    · rw [hoffered, hqueue, map_nil]
    · rw [hempty hqueue, append_nil]
  | cons m queue =>
    obtain ⟨i, hi⟩ := (hheld.mem_queue m).1 (by rw [hqueue]; exact mem_cons_self)
    obtain ⟨p, hp, rfl⟩ := Option.map_eq_some_iff.1 hi
    refine ⟨sent, t.queue.map (·.2), _, hoffered, ?_, hhead i p hp (by rw [hqueue]; rfl)⟩
    rw [hqueue]
    exact take_prefix _ _

theorem Held.congr {slots slots' : Fin 12 → Slot} {queue : List (UInt64 × Bytes)}
    (h : Held slots queue) (hmessage : ∀ j, message (slots' j) = message (slots j)) :
    Held slots' queue := by
  constructor
  · simpa only [hmessage] using h.mem_queue
  · simpa only [hmessage] using h.distinct

theorem Queued.congr (h : Queued t) (hpending : ∀ j, pending (t'.slots j) = pending (t.slots j))
    (hqueue : t'.queue = t.queue) (hsequence : t.sequence ≤ t'.sequence)
    (hflows : Flows t' → Flows t) (hoffered : t'.offered = t.offered)
    (hwritten : t'.written = t.written) : Queued t' := by
  refine ⟨?_, ?_, ?_, ?_, fun hf => ?_, ?_⟩
  · rw [hqueue]
    exact h.toHeld.congr fun j => by rw [message, hpending, message]
  · rw [hqueue]
    exact h.order
  · rw [hqueue]
    exact fun m hm => UInt64.le_trans (h.bound m hm) hsequence
  · simp only [hqueue, hpending]
    exact h.begun
  · unfold Written
    simp only [hqueue, hpending, hoffered, hwritten]
    exact h.flows (hflows hf)
  · rw [hoffered, hwritten]
    exact h.stopped

/-! ## Finishing -/

theorem pending_update (slots : Fin 12 → Slot) (i : Fin 12) (s : Slot) (j : Fin 12) :
    pending (Function.update slots i s j) = if j = i then pending s else pending (slots j) := by
  by_cases hj : j = i
  · subst hj
    rw [Function.update_self, if_pos rfl]
  · rw [Function.update_of_ne hj, if_neg hj]

theorem pending_freed (s : Slot) : pending s.freed = none := rfl

theorem pending_of_control {s : Slot} (hoccupied : s.occupied = true) (hcontrol : s.control = true) :
    pending s = some ⟨s.sequence, s.bytes, s.offset⟩ := by
  simp [pending, hoccupied, hcontrol]

theorem control_of_pending {s : Slot} (h : pending s = some p) :
    s.occupied = true ∧ s.control = true ∧ p = ⟨s.sequence, s.bytes, s.offset⟩ := by
  unfold pending at h
  split_ifs at h with hs
  rw [Bool.and_eq_true] at hs
  exact ⟨hs.1, hs.2, (Option.some.inj h).symm⟩

theorem message_update (slots : Fin 12 → Slot) (i : Fin 12) (s : Slot) (j : Fin 12) :
    message (Function.update slots i s j) = if j = i then message s else message (slots j) := by
  rw [message, pending_update]
  split_ifs <;> rfl

theorem Queued.finish_datagram (h : Queued t) (hi : (t.slots i).control = false) (success : Bool) :
    Queued (t.finish i success) := by
  refine h.congr (fun j => ?_) (by simp [HostTransport.finish, hi]) (UInt64.le_refl _) id rfl rfl
  rw [slots_finish, pending_update, pending_freed]
  split_ifs with hj
  · subst hj
    simp [pending, hi]
  · rfl

theorem head_filter {q : List (UInt64 × Bytes)} {m : UInt64 × Bytes} {n : UInt64}
    (h : q.head? = some m) (hm : m.1 ≠ n) : (q.filter fun m => m.1 ≠ n).head? = some m := by
  cases q with
  | nil => cases h
  | cons m' q =>
    cases h
    rw [filter_cons_of_pos (by simpa using hm)]
    rfl

theorem Held.free {slots : Fin 12 → Slot} {queue : List (UInt64 × Bytes)} {m : UInt64 × Bytes}
    {s : Slot} (h : Held slots queue) (hi : message (slots i) = some m) (hs : message s = none) :
    Held (Function.update slots i s) (queue.filter fun m' => m'.1 ≠ m.1) := by
  have hcases : ∀ j m', message (Function.update slots i s j) = some m' ↔
      message (slots j) = some m' ∧ m'.1 ≠ m.1 := by
    intro j m'
    rw [message_update, hs]
    split_ifs with hj
    · grind
    · exact ⟨fun hm => ⟨hm, fun heq => hj (h.distinct j i m' m hm hi heq)⟩, And.left⟩
  constructor
  · intro m'
    simp [hcases, h.mem_queue]
  · simp only [hcases]
    exact fun j k m' m'' hj hk => h.distinct j k m' m'' hj.1 hk.1

theorem Held.put {slots : Fin 12 → Slot} {queue : List (UInt64 × Bytes)} {m : UInt64 × Bytes}
    {s : Slot} (h : Held slots queue) (hi : message (slots i) = none) (hs : message s = some m)
    (hnew : ∀ m' ∈ queue, m'.1 < m.1) : Held (Function.update slots i s) (queue ++ [m]) := by
  constructor
  · intro m'
    simp only [mem_append, mem_singleton, h.mem_queue, message_update, hs]
    grind
  · intro j k m' m'' hj hk heq
    have hbefore : ∀ j m', message (slots j) = some m' → m'.1 ≠ m.1 := fun j m' hj =>
      UInt64.ne_of_lt (hnew m' ((h.mem_queue m').2 ⟨j, hj⟩))
    have hdistinct := h.distinct j k m' m''
    rw [message_update, hs] at hj hk
    grind

/-- **A control message is finished**: the first one when all of it was written, or any one
    when the connection has failed. -/
theorem Queued.finish (h : Queued t) (hi : pending (t.slots i) = some p)
    (hflows : Flows t → t.queue.head? = some p.message ∧ p.bytes.length ≤ p.offset) (success : Bool) :
    Queued (t.finish i success) := by
  obtain ⟨-, hcontrol, hp⟩ := control_of_pending hi
  have hqueue : (t.finish i success).queue = t.queue.filter fun m => m.1 ≠ p.sequence := by
    simp [HostTransport.finish, hcontrol, hp]
  have hother : ∀ j q, pending ((t.finish i success).slots j) = some q →
      pending (t.slots j) = some q ∧ q.sequence ≠ p.sequence := by
    intro j q hj
    rw [slots_finish, pending_update, pending_freed] at hj
    split_ifs at hj with hji
    exact ⟨hj, fun heq => hji (h.distinct j i _ _ (message_of_pending hj) (message_of_pending hi) heq)⟩
  refine ⟨?_, ?_, ?_, ?_, fun hf => ?_, h.stopped⟩
  · rw [hqueue]
    exact h.toHeld.free (message_of_pending hi) rfl
  · rw [hqueue]
    exact h.order.filter _
  · rw [hqueue]
    exact fun m hm => h.bound m (mem_of_mem_filter hm)
  · intro j q hj hoffset
    obtain ⟨hj, hne⟩ := hother j q hj
    rw [hqueue]
    exact head_filter (h.begun j q hj hoffset) hne
  · obtain ⟨hhead, hlength⟩ := hflows hf
    obtain ⟨sent, hoffered, -, hwritten⟩ := h.flows hf
    have hall := hwritten i p hi hhead
    rw [take_of_length_le hlength] at hall
    obtain ⟨rest, hrest⟩ := head?_eq_some_iff.1 hhead
    have horder := h.order
    rw [hrest, pairwise_cons] at horder
    have htail : t.queue.filter (fun m => m.1 ≠ p.sequence) = rest := by
      rw [hrest, filter_cons_of_neg (by simp [Pending.message]), filter_eq_self]
      exact fun m hm => decide_eq_true (UInt64.ne_of_lt (horder.1 m hm)).symm
    refine ⟨sent ++ [p.bytes], ?_, fun _ => ?_, fun j q hj _ => ?_⟩
    · rw [hqueue, htail]
      change t.offered = _
      rw [hoffered, hrest, append_assoc]
      rfl
    · change t.written = _
      rw [hall, flatten_append, flatten_singleton]
    · -- the messages after the first one have not been begun
      obtain ⟨hj, hne⟩ := hother j q hj
      have hzero : q.offset = 0 := by
        by_contra hpos
        have hfirst := h.begun j q hj (Nat.pos_of_ne_zero hpos)
        rw [hhead] at hfirst
        exact hne (congrArg Prod.fst (Option.some.inj hfirst)).symm
      change t.written = _
      rw [hall, hzero, take_zero, append_nil, flatten_append, flatten_singleton]

theorem Queued.finish_stopped (h : Queued t) (hstopped : ¬Flows t) (hi : (t.slots i).occupied = true)
    (success : Bool) : Queued (t.finish i success) := by
  cases hcontrol : (t.slots i).control with
  | false => exact h.finish_datagram hcontrol success
  | true => exact h.finish (pending_of_control hi hcontrol) (fun hf => absurd hf hstopped) success

theorem Queued.sweepOver (h : Queued t) (hstopped : ¬Flows t) (p : Slot → Bool) (l : List (Fin 12)) :
    Queued (t.sweepOver p l) := by
  induction l generalizing t with
  | nil => exact h
  | cons i l ih =>
    by_cases hi : ((t.slots i).occupied && p (t.slots i)) = true
    · have hcons : t.sweepOver p (i :: l) = (t.finish i false).sweepOver p l := by
        simp only [HostTransport.sweepOver, foldl_cons, if_pos hi]
      rw [hcons]
      exact ih (h.finish_stopped hstopped (Bool.and_eq_true _ _ ▸ hi).1 false) hstopped
    · have hcons : t.sweepOver p (i :: l) = t.sweepOver p l := by
        simp only [HostTransport.sweepOver, foldl_cons, if_neg hi]
      rw [hcons]
      exact ih h hstopped

theorem pending_sweep (p : Slot → Bool) (t : HostTransport) (j : Fin 12) :
    pending ((t.sweep p).slots j) = if p (t.slots j) then none else pending (t.slots j) := by
  rw [slots_sweep]
  cases hj : (t.slots j).occupied <;> cases hp : p (t.slots j) <;> simp [pending, Slot.freed, hj]

/-! ## Admission -/

theorem lt_succ_of_le {n sequence : UInt64} (h : sequence ≠ counterMax) (hn : n ≤ sequence) :
    n < sequence + 1 := by
  have hmax : sequence.toNat ≠ 2 ^ 64 - 1 := fun heq => h (UInt64.toNat_inj.1 heq)
  have hlt : sequence.toNat < 2 ^ 64 := sequence.toNat_lt
  have hone : (1 : UInt64).toNat = 1 := rfl
  rw [UInt64.le_iff_toNat_le] at hn
  rw [UInt64.lt_iff_toNat_lt, UInt64.toNat_add]
  omega

section occupy
variable {bytes : Bytes} {deadline : ℤ}

theorem pending_occupy (control : Bool) (j : Fin 12) :
    pending ((t.occupy i control bytes deadline).slots j) =
      if j = i then if control then some ⟨t.sequence + 1, bytes, 0⟩ else none
      else pending (t.slots j) := by
  refine (pending_update _ _ _ _).trans ?_
  cases control <;> rfl

theorem Queued.admit_datagram (h : Queued t) (hfree : (t.slots i).occupied = false)
    (hsequence : t.sequence ≠ counterMax) : Queued (t.occupy i false bytes deadline) := by
  have hle : t.sequence ≤ t.sequence + 1 := UInt64.le_of_lt (lt_succ_of_le hsequence (UInt64.le_refl _))
  refine h.congr (fun j => ?_) rfl hle id rfl rfl
  rw [pending_occupy, if_neg Bool.false_ne_true]
  split_ifs with hj
  · subst hj
    simp [pending, hfree]
  · rfl

/-- **A control message is put to the end of the queue.** -/
theorem Queued.occupy (h : Queued t) (hfree : (t.slots i).occupied = false)
    (hsequence : t.sequence ≠ counterMax) : Queued (t.occupy i true bytes deadline) := by
  have hbefore : ∀ m ∈ t.queue, m.1 < t.sequence + 1 := fun m hm =>
    lt_succ_of_le hsequence (h.bound m hm)
  have hqueue : (t.occupy i true bytes deadline).queue = t.queue ++ [(t.sequence + 1, bytes)] := rfl
  have hcases : ∀ j q, pending ((t.occupy i true bytes deadline).slots j) = some q →
      q = ⟨t.sequence + 1, bytes, 0⟩ ∨ pending (t.slots j) = some q ∧ q.message ∈ t.queue := by
    intro j q hj
    rw [pending_occupy, if_pos rfl] at hj
    split_ifs at hj with hji
    · exact Or.inl (Option.some.inj hj).symm
    · exact Or.inr ⟨hj, (h.mem_queue _).2 ⟨j, message_of_pending hj⟩⟩
  have hfirst : ∀ m, t.queue.head? = some m →
      (t.occupy i true bytes deadline).queue.head? = some m := by
    intro m hm
    rw [hqueue, head?_append, hm]
    rfl
  refine ⟨h.toHeld.put ?_ rfl hbefore, ?_, ?_, ?_, fun hf => ?_, ?_⟩
  · simp [message, pending, hfree]
  · refine pairwise_append.2 ⟨h.order, pairwise_singleton _ _, fun m hm m' hm' => ?_⟩
    rw [mem_singleton.1 hm']
    exact hbefore m hm
  · rw [hqueue, forall_mem_append, forall_mem_singleton]
    exact ⟨fun m hm => UInt64.le_of_lt (hbefore m hm), UInt64.le_refl _⟩
  · intro j q hj hoffset
    rcases hcases j q hj with rfl | ⟨hj, -⟩
    · exact absurd hoffset (Nat.lt_irrefl 0)
    · exact hfirst _ (h.begun j q hj hoffset)
  · obtain ⟨sent, hoffered, hempty, hwritten⟩ := h.flows hf
    have hssl : t.ssl = true := hf.1
    refine ⟨sent, ?_, fun hnil => ?_, fun j q hj hhead => ?_⟩
    · have hadded : (t.occupy i true bytes deadline).offered = t.offered ++ [bytes] := by
        simp [HostTransport.occupy, hssl]
      rw [hadded, hqueue, hoffered, map_append, append_assoc]
      rfl
    · exact absurd hnil (append_ne_nil_of_right_ne_nil _ (cons_ne_nil _ _))
    · change t.written = _
      rcases hcases j q hj with rfl | ⟨hj, hmem⟩
      · -- the new message is the only one, as it comes after those that wait
        have hnil : t.queue = [] := by
          by_contra hne
          have hold := head?_eq_some_head hne
          have hlt := hbefore _ (mem_of_mem_head? hold)
          rw [Option.some.inj ((hfirst _ hold).symm.trans hhead)] at hlt
          exact UInt64.lt_irrefl _ hlt
        rw [hempty hnil, take_zero, append_nil]
      · have hold := head?_eq_some_head (ne_nil_of_mem hmem)
        exact hwritten j q hj (hold.trans ((hfirst _ hold).symm.trans hhead))
  · change Prefixed (if true && t.ssl then t.offered ++ [bytes] else t.offered) t.written
    split_ifs
    · exact h.stopped.append bytes
    · exact h.stopped

end occupy

/-! ## Writing -/

theorem Queued.head_of_next (h : Queued t) (hnext : t.next = some i)
    (hcontrol : (t.slots i).control = true) :
    ∃ p, pending (t.slots i) = some p ∧ t.queue.head? = some p.message := by
  obtain ⟨hoccupied, hleast⟩ := next_eq_some hnext
  have hi := pending_of_control hoccupied hcontrol
  have hmem := (h.mem_queue _).2 ⟨i, message_of_pending hi⟩
  refine ⟨_, hi, ?_⟩
  have hat := h.toHeld.mem_queue
  have horder := h.order
  generalize t.queue = queue at hmem hat horder ⊢
  cases queue with
  | nil => exact absurd hmem not_mem_nil
  | cons m rest =>
    rcases mem_cons.1 hmem with heq | hrest
    · rw [heq]
      rfl
    · -- a message before it would be in a slot that comes first
      have hlt := (pairwise_cons.1 horder).1 _ hrest
      obtain ⟨j, hm⟩ := (hat m).1 mem_cons_self
      obtain ⟨q, hj, rfl⟩ := Option.map_eq_some_iff.1 hm
      obtain ⟨hjoccupied, hjcontrol, rfl⟩ := control_of_pending hj
      have hrank := hleast j hjoccupied
      rw [rank, rank, Prod.Lex.toLex_le_toLex, hcontrol, hjcontrol] at hrank
      rcases hrank with hrank | ⟨-, hrank⟩
      · exact absurd hrank (lt_irrefl _)
      · exact absurd hlt (Nat.not_lt.2 hrank)

theorem pending_write (hi : pending (t.slots i) = some p) (n : ℕ) (j : Fin 12) :
    pending ((t.write i n).slots j) =
      if j = i then some { p with offset := p.offset + n } else pending (t.slots j) := by
  obtain ⟨hoccupied, hcontrol, rfl⟩ := control_of_pending hi
  refine (pending_update _ _ _ _).trans (if_congr Iff.rfl ?_ rfl)
  exact pending_of_control hoccupied hcontrol

/-- **A piece of the first message is written.** -/
theorem Queued.write (h : Queued t) (hi : pending (t.slots i) = some p)
    (hhead : t.queue.head? = some p.message) (hflows : Flows t) (n : ℕ) : Queued (t.write i n) := by
  obtain ⟨hoccupied, hcontrol, hp⟩ := control_of_pending hi
  have hpending := pending_write hi n
  have hheld : Held (t.write i n).slots t.queue := by
    refine h.toHeld.congr fun j => ?_
    rw [message, hpending]
    split_ifs with hj
    · rw [hj, message_of_pending hi]
      rfl
    · rfl
  have hwrites : Written (t.write i n) := by
    obtain ⟨sent, hoffered, hempty, hwritten⟩ := h.flows hflows
    refine ⟨sent, hoffered, fun hnil => ?_, fun j q hj hq => ?_⟩
    · have hnil : t.queue = [] := hnil
      rw [hnil] at hhead
      cases hhead
    · have hq : p.message = q.message := Option.some.inj (hhead.symm.trans hq)
      have hji : j = i := by
        refine hheld.distinct j i _ _ (message_of_pending hj) ?_ (congrArg Prod.fst hq).symm
        rw [message, hpending, if_pos rfl]
        rfl
      rw [hpending, if_pos hji] at hj
      have hpiece : (t.write i n).written = t.written ++ (p.bytes.drop p.offset).take n := by
        rw [hp]
        rfl
      rw [hpiece, hwritten i p hi hhead, ← Option.some.inj hj, append_assoc, ← take_add]
  refine ⟨hheld, h.order, h.bound, fun j q hj hoffset => ?_, fun _ => hwrites, hwrites.prefixed hheld⟩
  rw [hpending] at hj
  split_ifs at hj with hji
  · rw [← Option.some.inj hj]
    exact hhead
  · exact h.begun j q hj hoffset

/-! ## Calls -/

/-- What every call keeps. -/
structure Streams (t : HostTransport) : Prop where
  queued : Queued t
  idle : Idle t

theorem Idle.of_pending (h : Idle t) (hssl : t'.ssl = t.ssl)
    (hpending : ∀ j q, pending (t'.slots j) = some q → pending (t.slots j) = some q ∨ q.offset = 0) :
    Idle t' := by
  intro hfalse j q hj
  rcases hpending j q hj with hj | hzero
  · exact h (hssl ▸ hfalse) j q hj
  · exact hzero

theorem Idle.finish (h : Idle t) (i : Fin 12) (success : Bool) : Idle (t.finish i success) := by
  refine h.of_pending rfl fun j q hj => Or.inl ?_
  rw [slots_finish, pending_update, pending_freed] at hj
  split_ifs at hj
  exact hj

theorem Idle.sweep (h : Idle t) (p : Slot → Bool) (hssl : (t.sweep p).ssl = t.ssl) : Idle (t.sweep p) := by
  refine h.of_pending hssl fun j q hj => Or.inl ?_
  rw [pending_sweep] at hj
  split_ifs at hj
  exact hj

theorem sweep_flags (p : Slot → Bool) (t : HostTransport) :
    (t.sweep p).ssl = t.ssl ∧ (t.sweep p).failed = t.failed := by
  refine foldlRecOn (motive := fun t' : HostTransport => t'.ssl = t.ssl ∧ t'.failed = t.failed) _ _
    ⟨rfl, rfl⟩ ?_
  intro t' h i _
  split_ifs
  · exact h
  · exact h

theorem Streams.send {H : HostLibrary} (h : Streams t) (s : Submission H) (now : ℤ)
    (count : Option ErrorCode) : Streams (t.send H s now count).2 := by
  rcases send_cases H t s now count with hsame | ⟨i, bytes, cancel, -, -, hfree, hsequence, hsend⟩
  · rwa [hsame]
  · rw [hsend]
    refine ⟨?_, h.idle.of_pending rfl fun j q hj => ?_⟩
    · cases H.isCommand s.type with
      | false => exact h.queued.admit_datagram hfree hsequence
      | true => exact h.queued.occupy hfree hsequence
    · rw [pending_occupy] at hj
      split_ifs at hj
      · exact Or.inr (by rw [← Option.some.inj hj])
      · exact Or.inl hj

theorem Queued.stop (h : Queued t) (failed : Bool) (hstopped : ¬(t.ssl = true ∧ failed = false)) :
    Queued { t with failed := failed } :=
  h.congr (fun _ => rfl) rfl (UInt64.le_refl _) (fun hf => absurd hf hstopped) rfl rfl

section

variable (h : Streams t)
include h

theorem Streams.fail (hi : (t.slots i).occupied = true) {failed : Bool}
    (hstopped : ¬(t.ssl = true ∧ failed = false)) :
    Streams ({ t with failed := failed }.finish i false) := by
  refine ⟨?_, Idle.finish ?_ i false⟩
  · exact (h.queued.stop failed hstopped).finish_stopped hstopped hi false
  · exact h.idle

theorem Streams.writeControl (hnext : t.next = some i) (hcontrol : (t.slots i).control = true)
    (hflows : Flows t) (r : Turn) : Streams (t.writeControl i r).2 := by
  obtain ⟨p, hi, hhead⟩ := h.queued.head_of_next hnext hcontrol
  obtain ⟨hoccupied, -, hp⟩ := control_of_pending hi
  have hwrite := h.queued.write hi hhead hflows r.count.toNat
  have hidle : Idle (t.write i r.count.toNat) := fun hssl => by
    rw [show (t.write i r.count.toNat).ssl = true from hflows.1] at hssl
    exact absurd hssl.symm Bool.false_ne_true
  unfold HostTransport.writeControl
  split_ifs with hcount hdone
  · have hpiece := pending_write hi r.count.toNat i
    rw [if_pos rfl] at hpiece
    refine ⟨hwrite.finish hpiece (fun _ => ⟨hhead, ?_⟩) true, hidle.finish i true⟩
    rw [hp]
    exact hdone.symm.le
  · exact ⟨hwrite, hidle⟩
  · exact h
  · exact h.fail hoccupied fun hf => Bool.false_ne_true hf.2.symm

theorem Streams.datagram (hi : (t.slots i).control = false) (errors sent bytes : ℕ)
    (success : Bool) :
    Streams ({ t with udpErrors := errors, udpSent := sent, udpSentBytes := bytes }.finish i success) := by
  refine ⟨Queued.finish_datagram ?_ ?_ success, Idle.finish ?_ i success⟩
  · exact h.queued.congr (fun _ => rfl) rfl (UInt64.le_refl _) id rfl rfl
  · exact hi
  · exact h.idle

theorem Streams.serve (hnext : t.next = some i) (r : Turn) : Streams (t.serve i r).2 := by
  have hoccupied := (next_eq_some hnext).1
  unfold HostTransport.serve
  split_ifs with hdatagram hstopped
  · have hcontrol : (t.slots i).control = false := by simpa using hdatagram
    unfold sendDatagram
    split_ifs
    · exact h.datagram hcontrol _ _ _ true
    · exact h.datagram hcontrol _ _ _ false
  · refine h.fail hoccupied fun hf => ?_
    rw [hf.1] at hf
    exact Bool.false_ne_true hf.2.symm
  · simp only [Bool.or_eq_true, not_or] at hstopped
    refine h.writeControl hnext (by simpa using hdatagram) ⟨?_, ?_⟩ r
    · simpa using hstopped.1.1
    · simpa using hstopped.1.2

theorem Streams.progress (r : Turn) : Streams (t.progress r).2 := by
  have hexpired : Streams (t.expire r.now) := by
    refine ⟨h.queued.congr (fun _ => rfl) rfl (UInt64.le_refl _) (fun hf => ⟨hf.1, ?_⟩) rfl rfl, h.idle⟩
    exact (Bool.or_eq_false_iff.1 hf.2).1
  have hfailed : Streams (t.expire r.now).failControl := by
    unfold failControl
    split_ifs with hfail
    · refine ⟨hexpired.queued.sweepOver (fun hf => ?_) _ _, hexpired.idle.sweep _ (sweep_flags _ _).1⟩
      exact Bool.false_ne_true (hf.2.symm.trans hfail)
    · exact hexpired
  unfold HostTransport.progress
  dsimp only
  cases hnext : (t.expire r.now).failControl.next with
  | none => exact hfailed
  | some i => exact hfailed.serve hnext r

theorem Streams.connect (given authenticated : Bool) :
    Streams (t.connect given authenticated).2 := by
  unfold HostTransport.connect
  split_ifs with hrefused
  · exact h
  · exact h
  · simp only [Bool.or_eq_true, not_or, Bool.not_eq_true] at hrefused
    have hzero := h.idle hrefused.2
    refine ⟨⟨h.queued.toHeld, h.queued.order, h.queued.bound, h.queued.begun,
      fun _ => ⟨[], rfl, fun _ => rfl, fun j q hj _ => ?_⟩, ⟨[], _, [], rfl, nil_prefix, rfl⟩⟩, ?_⟩
    · rw [hzero j q hj]
      rfl
    · exact fun hssl => absurd hssl.symm Bool.false_ne_true

theorem Streams.disconnect : Streams t.disconnect := by
  have hstopped : ¬Flows { t with ssl := false } := fun hf => Bool.false_ne_true hf.1
  have hqueued : Queued { t with ssl := false } :=
    h.queued.congr (fun _ => rfl) rfl (UInt64.le_refl _) (fun hf => absurd hf hstopped) rfl rfl
  refine ⟨hqueued.sweepOver hstopped _ _, fun _ j q hj => ?_⟩
  unfold HostTransport.disconnect at hj
  rw [pending_sweep] at hj
  split_ifs at hj with hcontrol
  exact absurd (control_of_pending hj).2.1 hcontrol

theorem Streams.detach : Streams t.detach := by
  have hdisconnected := h.disconnect
  have hssl : t.disconnect.ssl = false := (sweep_flags _ _).1
  have hswept : Streams (t.disconnect.sweep fun _ => true) := by
    refine ⟨hdisconnected.queued.sweepOver (fun hf => ?_) _ _,
      hdisconnected.idle.sweep _ (sweep_flags _ _).1⟩
    exact Bool.false_ne_true (hssl.symm.trans hf.1)
  refine ⟨hswept.queued.congr (fun _ => rfl) rfl (UInt64.le_refl _) id rfl rfl, ?_⟩
  exact hswept.idle

theorem Streams.step {H : HostLibrary} (call : Call H) : Streams (t.step call) := by
  cases call with
  | create => exact ⟨h.queued.congr (fun _ => rfl) rfl (UInt64.le_refl _) id rfl rfl, h.idle⟩
  | send s now count => exact h.send s now count
  | progress r => exact h.progress r
  | connect given authenticated => exact h.connect given authenticated
  | disconnect => exact h.disconnect
  | closeAdmission => exact ⟨h.queued.congr (fun _ => rfl) rfl (UInt64.le_refl _) id rfl rfl, h.idle⟩
  | detach => exact h.detach

end

/-- **What goes to a connection.**  In every run the control messages that wait are a queue in
    the order of their submission, and what the connection has taken are whole messages in this
    order, those that waited when it was made being the first, and a piece of the next one. -/
theorem stream_prefixed (H : HostLibrary) (calls : List (Call H)) :
    ((run calls).queue.Pairwise (fun m m' => m.1 < m'.1) ∧
      ∀ m, m ∈ (run calls).queue ↔ ∃ i p, pending ((run calls).slots i) = some p ∧ p.message = m) ∧
    ∃ sent rest piece, (run calls).offered = sent ++ rest ∧ piece <+: rest.headD [] ∧
      (run calls).written = sent.flatten ++ piece := by
  have hnew : Streams new := ⟨.new, fun _ i p h => by cases h⟩
  have h : Streams (run calls) :=
    foldlRecOn (motive := Streams) calls HostTransport.step hnew fun _ h call _ => h.step call
  refine ⟨⟨h.queued.order, fun m => ?_⟩, h.queued.stopped⟩
  simp [h.queued.mem_queue, message]

end HostTransport

end Vita

end GraphX
