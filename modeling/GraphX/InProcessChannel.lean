/-
  The channel of the in-process transport under threads (`src/in_process_transport.cpp`).

  A call of `push`, `pop` or `close` is a sequence of sections that hold the mutex, with
  the waits on `not_full_` and `not_empty_` between them and a notification after the
  last one.  Sections of different threads exclude each other, so a section is one step;
  any thread may take the next one.  A thread that waits is woken by a notification, by
  its timeout, or without a reason.
-/
import GraphX.InProcess
import GraphX.Lib.BoundedQueue
import Mathlib.Logic.Relation

namespace GraphX.InProcess

open BoundedQueue (Event History)

/-! ## Threads -/

/-- `InProcessOptions` -/
structure ChannelOptions where
  capacity : ℕ
  /-- `InProcessBackpressure::reject` -/
  reject : Bool

/-- Where a thread is in its call.  `finite` tells a `pop` with a timeout; `timedOut` how a
    wait ended. -/
inductive Thread where
  | idle
  | pushWaits (envelope : Envelope)
  | pushWakes (envelope : Envelope) (timedOut : Bool)
  | popWaits (finite : Bool)
  | popWakes (finite timedOut : Bool)
  | notifiesNotEmpty
  | notifiesNotFull
  | notifiesAll

/-- `notify_all` -/
def Thread.notified : Thread → Thread
  | pushWaits envelope => pushWakes envelope false
  | popWaits finite => popWakes finite false
  | thread => thread

/-- What a call returns. -/
inductive Outcome where
  | pushed (envelope : Envelope) (status : ChannelPushStatus)
  | popped (envelope : Envelope)
  | timedOut
  | endOfStream
  | closed

/-- The channel, and the outcomes of its calls in the order in which they were decided. -/
structure SharedChannel (τ : Type) where
  queue : List Envelope
  closed : Bool
  threads : τ → Thread
  outcomes : List (τ × Outcome)

namespace SharedChannel

variable {τ : Type}

def new : SharedChannel τ := ⟨[], false, fun _ => .idle, []⟩

variable [DecidableEq τ]

def goto (s : SharedChannel τ) (t : τ) (thread : Thread) : SharedChannel τ :=
  { s with threads := Function.update s.threads t thread }

/-- The call is decided; `thread` is what the thread has left to do. -/
def decides (s : SharedChannel τ) (t : τ) (outcome : Outcome) (thread : Thread) : SharedChannel τ :=
  { s.goto t thread with outcomes := s.outcomes ++ [(t, outcome)] }

variable (o : ChannelOptions)

/-- `queue_.push_back` -/
def accepts (s : SharedChannel τ) (t : τ) (envelope : Envelope) : SharedChannel τ :=
  { s.decides t (.pushed envelope .accepted) .notifiesNotEmpty with queue := s.queue ++ [envelope] }

/-- The first section of `push`. -/
def push (s : SharedChannel τ) (t : τ) (envelope : Envelope) : SharedChannel τ :=
  if s.closed then s.decides t (.pushed envelope .closed) .idle
  else if o.capacity ≤ s.queue.length then
    if o.reject then s.decides t (.pushed envelope .rejected) .idle
    else s.goto t (.pushWaits envelope)
  else s.accepts t envelope

/-- `not_full_.wait_for` looks at its predicate and waits again, or `push` goes on. -/
def pushResumes (s : SharedChannel τ) (t : τ) (envelope : Envelope) (timedOut : Bool) :
    SharedChannel τ :=
  if !s.closed && decide (o.capacity ≤ s.queue.length) then
    if timedOut then s.decides t (.pushed envelope .timedOut) .idle else s.goto t (.pushWaits envelope)
  else if s.closed then s.decides t (.pushed envelope .closed) .idle
  else s.accepts t envelope

/-- A `pop` whose predicate holds. -/
def takes (s : SharedChannel τ) (t : τ) : SharedChannel τ :=
  match s.queue with
  | [] => s.decides t .endOfStream .idle
  | envelope :: rest => { s.decides t (.popped envelope) .notifiesNotFull with queue := rest }

/-- The first section of `pop`. -/
def pop (s : SharedChannel τ) (t : τ) (finite : Bool) : SharedChannel τ :=
  if s.closed || !s.queue.isEmpty then s.takes t else s.goto t (.popWaits finite)

/-- `not_empty_.wait_for` looks at its predicate and waits again, or `pop` goes on. -/
def popResumes (s : SharedChannel τ) (t : τ) (finite timedOut : Bool) : SharedChannel τ :=
  if s.closed || !s.queue.isEmpty then s.takes t
  else if timedOut then s.decides t .timedOut .idle
  else s.goto t (.popWaits finite)

/-- The section of `close`. -/
def close (s : SharedChannel τ) (t : τ) : SharedChannel τ :=
  { s.decides t .closed .notifiesAll with closed := true }

end SharedChannel

open SharedChannel

variable {τ : Type} [DecidableEq τ] {o : ChannelOptions} {s s' : SharedChannel τ}

inductive Step (o : ChannelOptions) : SharedChannel τ → SharedChannel τ → Prop
  | push {s t} (envelope) : s.threads t = .idle → Step o s (s.push o t envelope)
  | pushWakes {s t envelope} (timedOut) : s.threads t = .pushWaits envelope →
      Step o s (s.goto t (.pushWakes envelope timedOut))
  | pushResumes {s t envelope timedOut} : s.threads t = .pushWakes envelope timedOut →
      Step o s (s.pushResumes o t envelope timedOut)
  | pop {s t} (finite) : s.threads t = .idle → Step o s (s.pop t finite)
  | popWakes {s t finite} (timedOut) : s.threads t = .popWaits finite →
      (timedOut = true → finite = true) → Step o s (s.goto t (.popWakes finite timedOut))
  | popResumes {s t finite timedOut} : s.threads t = .popWakes finite timedOut →
      Step o s (s.popResumes t finite timedOut)
  | close {s t} : s.threads t = .idle → Step o s (s.close t)
  | notifyPop {s t waiter finite} : s.threads t = .notifiesNotEmpty →
      s.threads waiter = .popWaits finite →
        Step o s ((s.goto waiter (.popWakes finite false)).goto t .idle)
  | notifyNoPop {s t} : s.threads t = .notifiesNotEmpty →
      (∀ waiter finite, s.threads waiter ≠ .popWaits finite) → Step o s (s.goto t .idle)
  | notifyPush {s t waiter envelope} : s.threads t = .notifiesNotFull →
      s.threads waiter = .pushWaits envelope →
        Step o s ((s.goto waiter (.pushWakes envelope false)).goto t .idle)
  | notifyNoPush {s t} : s.threads t = .notifiesNotFull →
      (∀ waiter envelope, s.threads waiter ≠ .pushWaits envelope) → Step o s (s.goto t .idle)
  | notifyAll {s t} : s.threads t = .notifiesAll →
      Step o s ({ s with threads := fun waiter => (s.threads waiter).notified }.goto t .idle)

def Reachable (o : ChannelOptions) (s : SharedChannel τ) : Prop :=
  Relation.ReflTransGen (Step o) .new s

/-! ## The queue behind the channel -/

/-- What an outcome means for the queue. -/
def Outcome.event : Outcome → Event Envelope
  | pushed envelope .accepted => .accepted envelope
  | pushed _ .closed => .refusedClosed
  | pushed _ .timedOut => .refusedFull
  | pushed _ .rejected => .refusedFull
  | popped envelope => .popped envelope
  | timedOut => .empty
  | endOfStream => .ended
  | closed => .close

def events (outcomes : List (τ × Outcome)) : List (Event Envelope) := outcomes.map (·.2.event)

/-- Either no call is decided and the queue is as it was, or one is and the queue makes
    the step of its outcome. -/
def Decides (o : ChannelOptions) (s s' : SharedChannel τ) : Prop :=
  (s'.queue = s.queue ∧ s'.closed = s.closed ∧ s'.outcomes = s.outcomes) ∨
    ∃ t outcome, s'.outcomes = s.outcomes ++ [(t, outcome)] ∧
      BoundedQueue.Step o.capacity ⟨s.queue, s.closed⟩ outcome.event ⟨s'.queue, s'.closed⟩

section
variable {t : τ} {envelope : Envelope} {thread : Thread}

theorem decides_goto : Decides o s (s.goto t thread) := .inl ⟨rfl, rfl, rfl⟩

theorem decides_closed (h : s.closed = true) :
    Decides o s (s.decides t (.pushed envelope .closed) .idle) := by
  obtain ⟨queue, closed, threads, outcomes⟩ := s
  obtain rfl : closed = true := h
  exact .inr ⟨t, _, rfl, .refusedClosed⟩

theorem decides_full {status : ChannelPushStatus} (hstatus : status = .rejected ∨ status = .timedOut)
    (hopen : s.closed = false) (hfull : o.capacity ≤ s.queue.length) :
    Decides o s (s.decides t (.pushed envelope status) .idle) := by
  obtain ⟨queue, closed, threads, outcomes⟩ := s
  obtain rfl : closed = false := hopen
  refine .inr ⟨t, _, rfl, ?_⟩
  rcases hstatus with rfl | rfl
  · exact .refusedFull hfull
  · exact .refusedFull hfull

theorem decides_accepts (hopen : s.closed = false) (hroom : s.queue.length < o.capacity) :
    Decides o s (s.accepts t envelope) := by
  obtain ⟨queue, closed, threads, outcomes⟩ := s
  obtain rfl : closed = false := hopen
  exact .inr ⟨t, _, rfl, .accepted hroom⟩

theorem decides_push : Decides o s (s.push o t envelope) := by
  unfold SharedChannel.push
  split_ifs with hclosed hfull hreject
  · exact decides_closed hclosed
  · exact decides_full (.inl rfl) (Bool.eq_false_iff.2 hclosed) hfull
  · exact decides_goto
  · exact decides_accepts (Bool.eq_false_iff.2 hclosed) (not_le.1 hfull)

theorem decides_pushResumes {timedOut : Bool} : Decides o s (s.pushResumes o t envelope timedOut) := by
  unfold SharedChannel.pushResumes
  split_ifs with hwait htimeout hclosed
  · simp only [Bool.and_eq_true, Bool.not_eq_true', decide_eq_true_eq] at hwait
    exact decides_full (.inr rfl) hwait.1 hwait.2
  · exact decides_goto
  · exact decides_closed hclosed
  · have hopen := Bool.eq_false_iff.2 hclosed
    refine decides_accepts hopen (not_le.1 fun hfull => hwait ?_)
    simp [hopen, hfull]

/-- An empty queue is taken for the end only if the channel is closed. -/
theorem decides_takes (h : (s.closed || !s.queue.isEmpty) = true) : Decides o s (s.takes t) := by
  obtain ⟨queue, closed, threads, outcomes⟩ := s
  cases queue with
  | nil =>
    obtain rfl : closed = true := by simpa using h
    exact .inr ⟨t, _, rfl, .ended⟩
  | cons envelope rest => exact .inr ⟨t, _, rfl, .popped⟩

theorem decides_pop {finite : Bool} : Decides o s (s.pop t finite) := by
  unfold SharedChannel.pop
  split_ifs with hready
  · exact decides_takes hready
  · exact decides_goto

theorem decides_popResumes {finite timedOut : Bool} : Decides o s (s.popResumes t finite timedOut) := by
  unfold SharedChannel.popResumes
  split_ifs with hready htimeout
  · exact decides_takes hready
  · obtain ⟨queue, closed, threads, outcomes⟩ := s
    simp only [Bool.or_eq_true, Bool.not_eq_true', not_or, Bool.not_eq_true, Bool.not_eq_false,
      List.isEmpty_iff] at hready
    obtain ⟨rfl, rfl⟩ := hready
    exact .inr ⟨t, _, rfl, .empty⟩
  · exact decides_goto

end

theorem Step.section (h : Step o s s') : Decides o s s' := by
  cases h with
  | push => exact decides_push
  | pushResumes => exact decides_pushResumes
  | pop => exact decides_pop
  | popResumes => exact decides_popResumes
  | close => exact .inr ⟨_, _, rfl, .close⟩
  | pushWakes | popWakes | notifyPop | notifyNoPop | notifyPush | notifyNoPush | notifyAll =>
    exact .inl ⟨rfl, rfl, rfl⟩

theorem Reachable.history (h : Reachable o s) :
    History o.capacity (events s.outcomes) ⟨s.queue, s.closed⟩ := by
  induction h with
  | refl => exact .nil
  | tail _ hstep ih =>
    obtain ⟨hqueue, hclosed, houtcomes⟩ | ⟨t, outcome, houtcomes, hevent⟩ := hstep.section
    · rwa [hqueue, hclosed, houtcomes]
    · rw [houtcomes, events, List.map_append]
      exact ih.snoc hevent

/-! ## Histories of the channel -/

/-- The envelopes whose push succeeded, in the order of acceptance. -/
def accepted (outcomes : List (τ × Outcome)) : List Envelope := BoundedQueue.accepted (events outcomes)

def popped (outcomes : List (τ × Outcome)) : List Envelope := BoundedQueue.popped (events outcomes)

omit [DecidableEq τ] in
theorem exists_of_close_mem {outcomes : List (τ × Outcome)} (h : Event.close ∈ events outcomes) :
    ∃ t, (t, Outcome.closed) ∈ outcomes := by
  obtain ⟨⟨t, outcome⟩, hmem, hevent⟩ := List.mem_map.1 h
  refine ⟨t, ?_⟩
  cases outcome with
  | closed => exact hmem
  | pushed _ status => cases status <;> cases hevent
  | popped | timedOut | endOfStream => cases hevent

/-- **Bounded, in order, and closed for good.**  In every reachable state the queue is
    within its capacity and what was accepted has been popped, in this order, or is in the
    queue; no push is accepted after a `close`, and a `pop` reports the end of the stream
    only after one, when all that was accepted has been popped. -/
theorem channel_linear (h : Reachable o s) :
    s.queue.length ≤ o.capacity ∧ accepted s.outcomes = popped s.outcomes ++ s.queue ∧
      (∀ before t after, s.outcomes = before ++ (t, .closed) :: after →
        ∀ t' envelope, (t', Outcome.pushed envelope .accepted) ∉ after) ∧
      ∀ before t after, s.outcomes = before ++ (t, .endOfStream) :: after →
        (∃ t', (t', Outcome.closed) ∈ before) ∧ accepted before = popped before := by
  refine ⟨h.history.length_le, h.history.accepted_eq, ?_, ?_⟩
  · intro before t after hsplit t' envelope hmem
    have hhistory := h.history
    rw [hsplit, events, List.map_append, List.map_cons] at hhistory
    exact hhistory.not_accepted envelope (List.mem_map_of_mem (f := (·.2.event)) hmem)
  · intro before t after hsplit
    have hhistory := h.history
    rw [hsplit, events, List.map_append, List.map_cons] at hhistory
    exact ⟨exists_of_close_mem hhistory.ended.1, hhistory.ended.2⟩

namespace HandOver

/-- A channel for one envelope. -/
def options : ChannelOptions := ⟨1, false⟩

/-- One thread waits for an envelope; the other one brings it, wakes the first, -/
def woken : SharedChannel Bool :=
  (((SharedChannel.new.pop true false).push options false sampleEnvelope).goto true
    (.popWakes false false)).goto false .idle

/-- which takes it; -/
def taken : SharedChannel Bool := (woken.popResumes true false false).goto true .idle

/-- and the channel is closed, which the first thread sees when it pops again. -/
def ended : SharedChannel Bool := (taken.close false).pop true false

theorem reachable_ended : Reachable options ended := by
  have hwaits : Reachable options (SharedChannel.new.pop true false) := .single (.pop false rfl)
  have hpush := hwaits.tail (.push (t := false) sampleEnvelope rfl)
  have hwoken : Reachable options woken := hpush.tail (.notifyPop rfl rfl)
  have hpopped := hwoken.tail (.popResumes (t := true) rfl)
  have htaken : Reachable options taken := by
    refine hpopped.tail (.notifyNoPush rfl fun waiter envelope => ?_)
    cases waiter <;> exact Thread.noConfusion
  have hclose := htaken.tail (.close (t := false) rfl)
  exact hclose.tail (.pop false rfl)

end HandOver

open HandOver in
theorem channel_linear_handedOver : Reachable options ended ∧
    ended.outcomes = [(false, .pushed sampleEnvelope .accepted), (true, .popped sampleEnvelope),
      (false, .closed)] ++ [(true, .endOfStream)] ∧
    accepted ended.outcomes = popped ended.outcomes ++ ended.queue ∧
    ∃ t, (t, Outcome.closed) ∈ ended.outcomes := by
  obtain ⟨-, heq, -, hend⟩ := channel_linear reachable_ended
  obtain ⟨⟨t, ht⟩, -⟩ := hend _ true [] rfl
  exact ⟨reachable_ended, rfl, heq, t, List.mem_append_left _ ht⟩

end GraphX.InProcess
