/-
  The sequence numbers of received datagrams (`track_sequence` of `src/udp_transport.cpp`).

  A receiver keeps the numbers it accepted last, in a ring of 256 cells, and the highest
  number it has seen.  A `SequenceRun` is a tracker with what happened to it: the numbers
  that were no duplicates, how often the highest number advanced, and the gaps reported.
-/
import GraphX.Lib.Ring

namespace GraphX

open List

namespace Udp

/-- What is reported of a sequence number. -/
inductive SequenceEvent where
  | duplicate
  | outOfOrder
  | sequenceGap (count : UInt64)
  deriving DecidableEq

structure SequenceTracker where
  sequenceInitialized : Bool
  highestSequence : UInt64
  /-- the first `recent_count` cells of the array -/
  recentSequences : List UInt64
  recentCursor : ℕ

def kSequenceWindow : ℕ := 256

namespace SequenceTracker

def new : SequenceTracker := ⟨false, 0, [], 0⟩

/-- The number is put into the ring. -/
def remember (t : SequenceTracker) (sequence : UInt64) : SequenceTracker :=
  if t.recentSequences.length < kSequenceWindow then
    { t with recentSequences := t.recentSequences ++ [sequence] }
  else
    { t with
      recentSequences := t.recentSequences.set t.recentCursor sequence
      recentCursor := (t.recentCursor + 1) % kSequenceWindow }

/-- What an accepted number is reported as. -/
def order (t : SequenceTracker) (sequence : UInt64) : List SequenceEvent :=
  if t.sequenceInitialized then
    if sequence < t.highestSequence then [.outOfOrder]
    else if t.highestSequence ≠ 0xffffffffffffffff && t.highestSequence + 1 < sequence then
      [.sequenceGap (sequence - t.highestSequence - 1)]
    else []
  else []

/-- `track_sequence`, with the calls of `event` -/
def track (t : SequenceTracker) (sequence : UInt64) : SequenceTracker × List SequenceEvent :=
  if sequence ∈ t.recentSequences then (t, [.duplicate])
  else
    ({ t with
        sequenceInitialized := true
        highestSequence :=
          if !t.sequenceInitialized || t.highestSequence < sequence then sequence
          else t.highestSequence }.remember sequence,
      t.order sequence)

end SequenceTracker

def SequenceEvent.gapCount : SequenceEvent → ℕ
  | sequenceGap count => count.toNat
  | _ => 0

structure SequenceRun where
  tracker : SequenceTracker
  accepted : List UInt64
  advances : ℕ
  gaps : ℕ

namespace SequenceRun

def new : SequenceRun := ⟨.new, [], 0, 0⟩

def step (r : SequenceRun) (sequence : UInt64) : SequenceRun :=
  let (tracker, events) := r.tracker.track sequence
  { tracker
    accepted := if .duplicate ∈ events then r.accepted else r.accepted ++ [sequence]
    advances := r.advances +
      if r.tracker.sequenceInitialized && r.tracker.highestSequence < tracker.highestSequence then 1
      else 0
    gaps := r.gaps + (events.map SequenceEvent.gapCount).sum }

def run (sequences : List UInt64) : SequenceRun := sequences.foldl step new

end SequenceRun

/-! ## The window -/

/-- The last numbers that were accepted. -/
def SequenceRun.lastAccepted (r : SequenceRun) : List UInt64 :=
  r.accepted.drop (r.accepted.length - kSequenceWindow)

/-- The ring holds the numbers that were accepted last; the cursor is at the oldest one. -/
structure SequenceRun.Windowed (r : SequenceRun) : Prop where
  ordered : r.tracker.recentSequences.rotate r.tracker.recentCursor = r.lastAccepted
  nodup : r.tracker.recentSequences.Nodup
  filling : r.tracker.recentSequences.length < kSequenceWindow →
    r.tracker.recentCursor = 0 ∧ r.tracker.recentSequences = r.accepted
  full : kSequenceWindow ≤ r.tracker.recentSequences.length →
    r.tracker.recentSequences.length = kSequenceWindow ∧ r.tracker.recentCursor < kSequenceWindow

section
variable {r : SequenceRun} {sequence : UInt64}

theorem SequenceRun.Windowed.mem_iff (h : r.Windowed) :
    sequence ∈ r.tracker.recentSequences ↔ sequence ∈ r.lastAccepted := by
  rw [← h.ordered, mem_rotate]

variable {t : SequenceTracker}

theorem duplicate_not_mem_order : .duplicate ∉ t.order sequence := by
  unfold SequenceTracker.order
  split_ifs <;> simp

theorem SequenceTracker.track_fresh (h : sequence ∉ t.recentSequences) :
    t.track sequence = ({ t.remember sequence with
      sequenceInitialized := true
      highestSequence := if !t.sequenceInitialized || t.highestSequence < sequence then sequence
        else t.highestSequence }, t.order sequence) := by
  simp only [track, remember]
  split_ifs <;> rfl

theorem SequenceRun.accepted_fresh (h : sequence ∉ r.tracker.recentSequences) :
    (r.step sequence).accepted = r.accepted ++ [sequence] := by
  simp only [step, SequenceTracker.track_fresh h, if_neg duplicate_not_mem_order]

theorem SequenceRun.step_duplicate (h : sequence ∈ r.tracker.recentSequences) :
    r.step sequence = r := by
  simp [step, SequenceTracker.track, h, SequenceEvent.gapCount]

theorem SequenceRun.Windowed.step (h : r.Windowed) : (r.step sequence).Windowed := by
  by_cases hmem : sequence ∈ r.tracker.recentSequences
  · rw [step_duplicate hmem]
    exact h
  · have haccepted := accepted_fresh hmem
    have hrecent : (r.step sequence).tracker.recentSequences =
        (r.tracker.remember sequence).recentSequences := by
      simp only [SequenceRun.step, SequenceTracker.track_fresh hmem]
    have hcursor : (r.step sequence).tracker.recentCursor =
        (r.tracker.remember sequence).recentCursor := by
      simp only [SequenceRun.step, SequenceTracker.track_fresh hmem]
    by_cases hroom : r.tracker.recentSequences.length < kSequenceWindow
    · obtain ⟨hzero, hall⟩ := h.filling hroom
      simp only [SequenceTracker.remember, if_pos hroom] at hrecent hcursor
      rw [hall] at hroom hmem hrecent
      have hlast : (r.step sequence).lastAccepted = r.accepted ++ [sequence] := by
        rw [lastAccepted, haccepted, Nat.sub_eq_zero_of_le (by simpa using hroom), drop_zero]
      refine ⟨?_, ?_, fun _ => ⟨hcursor.trans hzero, hrecent.trans haccepted.symm⟩, fun hfull => ?_⟩
      · rw [hlast, hrecent, hcursor, hzero, rotate_zero]
      · rw [hrecent, nodup_append_comm, singleton_append, nodup_cons]
        exact ⟨hmem, hall ▸ h.nodup⟩
      · rw [hrecent, length_append, length_singleton] at hfull ⊢
        rw [hcursor, hzero]
        exact ⟨by omega, by decide⟩
    · obtain ⟨hlength, hlt⟩ := h.full (not_lt.1 hroom)
      simp only [SequenceTracker.remember, if_neg hroom] at hrecent hcursor
      have hlast : (r.step sequence).lastAccepted = r.lastAccepted.tail ++ [sequence] := by
        have hle : kSequenceWindow ≤ r.accepted.length := by
          have := congrArg length h.ordered
          rw [length_rotate, lastAccepted, length_drop] at this
          omega
        rw [lastAccepted, haccepted, lastAccepted, tail_drop, length_append,
          length_singleton, Nat.sub_add_comm hle, drop_append_of_le_length]
        omega
      refine ⟨?_, ?_, fun hshort => ?_, fun _ => ?_⟩
      · rw [hlast, hrecent, hcursor, ← h.ordered, ← hlength]
        exact Ring.rotate_set (hlength ▸ hlt) sequence
      · rw [hrecent]
        exact h.nodup.set hmem
      · rw [hrecent, length_set] at hshort
        exact absurd hshort hroom
      · rw [hrecent, hcursor, length_set]
        exact ⟨hlength, Nat.mod_lt _ (by decide)⟩

/-! ## The highest number -/

/-- The highest number is the first one, and what was gone forward since. -/
structure SequenceRun.Counted (first : UInt64) (r : SequenceRun) : Prop where
  initialized : r.tracker.sequenceInitialized = true
  highest : r.tracker.highestSequence.toNat = first.toNat + r.advances + r.gaps

theorem SequenceTracker.toNat_forward (hinit : t.sequenceInitialized = true)
    (h : t.highestSequence < sequence) : sequence.toNat =
      t.highestSequence.toNat + 1 + ((t.order sequence).map SequenceEvent.gapCount).sum := by
  have hlt := UInt64.lt_iff_toNat_lt.1 h
  have hbound := sequence.toNat_lt
  have hmax : t.highestSequence ≠ 0xffffffffffffffff := by
    rintro heq
    rw [heq] at hlt
    exact absurd hbound (not_lt.2 hlt)
  have hnext : (t.highestSequence + 1).toNat = t.highestSequence.toNat + 1 := by
    rw [UInt64.toNat_add, UInt64.toNat_one]
    omega
  simp only [order, hmax, ne_eq, not_false_eq_true, decide_true, Bool.true_and,
    decide_eq_true_eq, UInt64.lt_iff_toNat_lt]
  rw [if_neg (not_lt.2 hlt.le)]
  split_ifs with hgap
  · have hsub : (sequence - t.highestSequence).toNat = sequence.toNat - t.highestSequence.toNat :=
      UInt64.toNat_sub_of_le _ _ hlt.le
    have hone : (1 : UInt64) ≤ sequence - t.highestSequence := by
      rw [UInt64.le_iff_toNat_le, UInt64.toNat_one]
      omega
    simp only [map_cons, map_nil, sum_cons, sum_nil, SequenceEvent.gapCount,
      UInt64.toNat_sub_of_le _ _ hone, UInt64.toNat_one]
    omega
  · simp only [map_nil, sum_nil]
    omega

theorem SequenceTracker.sum_order_of_le (h : ¬ t.highestSequence < sequence) :
    ((t.order sequence).map SequenceEvent.gapCount).sum = 0 := by
  unfold order
  split_ifs with _ _ hgap
  · rfl
  · simp only [Bool.and_eq_true, decide_eq_true_eq, UInt64.lt_iff_toNat_lt, ne_eq,
      ← UInt64.toNat_inj] at h hgap
    have hbound := t.highestSequence.toNat_lt
    rw [UInt64.toNat_add, UInt64.toNat_one] at hgap
    have hmax : (0xffffffffffffffff : UInt64).toNat = 2 ^ 64 - 1 := rfl
    omega
  · rfl
  · rfl

theorem SequenceRun.Counted.step {first : UInt64} (h : r.Counted first) :
    (r.step sequence).Counted first := by
  by_cases hmem : sequence ∈ r.tracker.recentSequences
  · rw [step_duplicate hmem]
    exact h
  · have htrack := SequenceTracker.track_fresh hmem
    simp only [h.initialized, Bool.not_true, Bool.false_or] at htrack
    refine ⟨by rw [SequenceRun.step, htrack], ?_⟩
    simp only [SequenceRun.step, htrack, h.initialized, Bool.true_and, decide_eq_true_eq]
    by_cases hforward : r.tracker.highestSequence < sequence
    · rw [if_pos hforward, if_pos hforward, SequenceTracker.toNat_forward h.initialized hforward,
        h.highest]
      omega
    · rw [if_neg hforward, if_neg (UInt64.lt_irrefl _), SequenceTracker.sum_order_of_le hforward, h.highest]
      omega

theorem SequenceRun.windowed_run (sequences : List UInt64) : (run sequences).Windowed := by
  induction sequences using reverseRecOn with
  | nil => exact ⟨rfl, .nil, fun _ => ⟨rfl, rfl⟩, fun h => absurd h (by decide)⟩
  | append_singleton sequences next ih =>
    rw [run, foldl_append]
    exact ih.step

theorem SequenceRun.counted_run (first : UInt64) (rest : List UInt64) :
    (run (first :: rest)).Counted first := by
  induction rest using reverseRecOn with
  | nil => exact ⟨rfl, rfl⟩
  | append_singleton rest next ih =>
    rw [run, ← cons_append, foldl_append]
    exact ih.step

end

/-- What the receiver knows of the numbers. -/
structure SequenceRun.Tracked (sequences : List UInt64) (r : SequenceRun) : Prop where
  window : r.tracker.recentSequences.rotate r.tracker.recentCursor = r.lastAccepted
  nodup : r.tracker.recentSequences.Nodup
  duplicate : ∀ next, .duplicate ∈ (r.tracker.track next).2 ↔ next ∈ r.lastAccepted
  single : ∀ next, (r.tracker.track next).2.length ≤ 1
  highest : ∀ first ∈ sequences.head?,
    r.tracker.highestSequence.toNat = first.toNat + r.advances + r.gaps

/-- **The numbers are tracked**, whatever they are. -/
theorem sequences_tracked (sequences : List UInt64) :
    (SequenceRun.run sequences).Tracked sequences := by
  have hwindow := SequenceRun.windowed_run sequences
  refine ⟨hwindow.ordered, hwindow.nodup, fun next => ?_, fun next => ?_, fun first hfirst => ?_⟩
  · rw [← hwindow.mem_iff]
    by_cases hmem : next ∈ (SequenceRun.run sequences).tracker.recentSequences
    · simp [SequenceTracker.track, hmem]
    · rw [SequenceTracker.track_fresh hmem]
      exact iff_of_false duplicate_not_mem_order hmem
  · unfold SequenceTracker.track SequenceTracker.order
    split_ifs <;> simp
  · obtain ⟨rest, rfl⟩ := head?_eq_some_iff.1 hfirst
    exact (SequenceRun.counted_run first rest).highest

end Udp

end GraphX
