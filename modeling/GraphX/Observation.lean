/-
  Observation and delivery.

  A trace sink may throw from its callbacks.  Which envelopes reach the receiving
  application depends on that only through some of the callbacks: `on_receive`
  everywhere, since it is called after the message has been taken; and with TCP
  those that are called while a connection is set up or inside the retried part
  of a send.

  A run with a sink is compared with the run of the same calls without one.  The worlds of
  which nothing is said are those in which the sink has thrown from such a callback.
-/
import GraphX.Link

namespace GraphX

open Imperative

variable {ω ω' ι σ τ : Type}

/-- The sink remembers that it has thrown from one of these callbacks. -/
structure TraceSink.Marks (sink : TraceSink σ) (critical : SinkCall → Prop) (Failed : σ → Prop) :
    Prop where
  marked : ∀ c s, critical c → (sink.call c s).1 ≠ none → Failed (sink.call c s).2
  stays : ∀ c s, Failed s → Failed (sink.call c s).2

/-- `on_receive`, which is called after the message has been taken. -/
def OnReceive : SinkCall → Prop
  | .onReceive .. => True
  | _ => False

/-- Nothing is thrown, and anything may be thrown. -/
def Never (_ _ : Thrown) : Prop := False
def Whatever (_ _ : Thrown) : Prop := True

variable {S : Erasure ω ω'} {E : Thrown → Thrown → Prop}

/-! ## Links -/

namespace Link

variable {link : Link ω ι} {link' : Link ω' ι}
  (hsend : ∀ e, Act.Sim S Ended (link.send e) (link'.send e))
  (hreceive : ∀ timeoutMs,
    Act.Sim S (Alike Whatever) (link.receive timeoutMs) (link'.receive timeoutMs))
  (hheld : ∀ event b w, S.Held b w → S.Held b (link.environment event w))
include hsend hreceive hheld

theorem held_after (calls : List (LinkCall ι)) {b : Prop} {w : ω} (hw : S.Held b w) :
    S.Held b (link.after calls w) := by
  induction calls generalizing w with
  | nil => exact hw
  | cons call calls ih =>
    cases call with
    | send e =>
      have hs := (hsend e).stays b w hw
      unfold Act.wp at hs
      simp only [Link.after]
      generalize (link.send e).run w = o at hs ⊢
      cases o with
      | returned | threw => exact ih hs
      | blocked => exact hs
    | receive timeoutMs =>
      have hr := (hreceive timeoutMs).stays b w hw
      unfold Act.wp at hr
      simp only [Link.after]
      generalize (link.receive timeoutMs).run w = o at hr ⊢
      cases o with
      | returned | threw => exact ih hr
      | blocked => exact hr
    | environment event => exact ih (hheld event b w hw)

theorem lost_after (calls : List (LinkCall ι)) {w : ω} (hw : S.Good w) (hlost : S.Lost w) :
    S.Lost (link.after calls w) :=
  (held_after hsend hreceive hheld calls ⟨hw, fun _ => hlost⟩).2 trivial

/-- **Links whose calls simulate each other deliver the same envelopes**, in every run
    that does not end in a lost world. -/
theorem delivered_eq
    (henvironment : ∀ event w,
      S.erase (link.environment event w) = link'.environment event (S.erase w))
    (calls : List (LinkCall ι)) {w : ω} (hw : S.Good w) (hlost : ¬S.Lost (link.after calls w)) :
    link.delivered calls w = link'.delivered calls (S.erase w) := by
  induction calls generalizing w with
  | nil => rfl
  | cons call calls ih =>
    have hkept : ∀ {w}, S.Good w → ¬S.Lost (link.after calls w) → ¬S.Lost w := fun hw =>
      mt (lost_after hsend hreceive hheld calls hw)
    cases call with
    | send e =>
      have hgood := (hsend e).stays.good hw
      have hagree := (hsend e).agree w hw
      simp only [Link.delivered, Link.after] at hlost ⊢
      generalize (link.send e).run w = o at hgood hagree hlost ⊢
      generalize (link'.send e).run (S.erase w) = o' at hagree ⊢
      cases o with
      | returned a w₁ | threw a w₁ =>
        cases o' <;> cases hagree.resolve_left (hkept hgood hlost)
        all_goals
          rename_i h
          exact (ih hgood hlost).trans (congrArg _ h.2.symm)
      | blocked w₁ =>
        obtain ⟨w', rfl⟩ := Outcome.matches_blocked (hagree.resolve_left hlost)
        rfl
    | receive timeoutMs =>
      have hgood := (hreceive timeoutMs).stays.good hw
      have hagree := (hreceive timeoutMs).agree w hw
      simp only [Link.delivered, Link.after] at hlost ⊢
      generalize (link.receive timeoutMs).run w = o at hgood hagree hlost ⊢
      generalize (link'.receive timeoutMs).run (S.erase w) = o' at hagree ⊢
      cases o with
      | returned result w₁ =>
        obtain rfl := Outcome.matches_returned (hagree.resolve_left (hkept hgood hlost))
        exact congrArg _ (ih hgood hlost)
      | threw e w₁ =>
        obtain ⟨e', -, rfl⟩ := Outcome.matches_threw (hagree.resolve_left (hkept hgood hlost))
        exact ih hgood hlost
      | blocked w₁ =>
        obtain ⟨w', rfl⟩ := Outcome.matches_blocked (hagree.resolve_left hlost)
        rfl
    | environment event =>
      simp only [Link.delivered, ← henvironment]
      exact ih (hheld event False w ⟨hw, False.elim⟩).1 hlost

end Link

/-! ## Callbacks -/

/-- The world is lost once the sink has failed, and without the sink the callback changes
    nothing else. -/
structure Watched (S : Erasure ω ω') (Failed : σ → Prop) (state : ω → σ) (update : σ → ω → ω)
    (update' : Unit → ω' → ω') : Prop where
  read : ∀ s w, state (update s w) = s
  erase : ∀ s w, S.erase (update s w) = update' () (S.erase w)
  good : ∀ s w, S.Good w → S.Good (update s w)
  lost : ∀ w, S.Lost w ↔ Failed (state w)

namespace Watched

variable {sink : TraceSink σ} {critical : SinkCall → Prop} {Failed : σ → Prop} {state : ω → σ}
  {update : σ → ω → ω} {state' : ω' → Unit} {update' : Unit → ω' → ω'} {α : Type}
  (h : Watched S Failed state update update') (hmarks : sink.Marks critical Failed)
include h hmarks

theorem stays (c : SinkCall) : Act.Stays S (notify sink state update c) := by
  intro b w hw
  have hheld : S.Held b (update (sink.call c (state w)).2 w) := by
    refine ⟨h.good _ w hw.1, fun hb => (h.lost _).2 ?_⟩
    rw [h.read]
    exact hmarks.stays c _ ((h.lost w).1 (hw.2 hb))
  unfold Act.wp
  rw [run_notify]
  split <;> exact hheld

/-- A callback that matters. -/
theorem sim {c : SinkCall} (hc : critical c) :
    Act.Sim S (Alike E) (notify sink state update c) (notify nullTraceSink state' update' c) where
  stays := h.stays hmarks c
  agree w _ := by
    rw [run_notify, run_notify]
    cases hcall : (sink.call c (state w)).1 with
    | none => exact .inr (.some ⟨rfl, (h.erase _ w).symm⟩)
    | some e =>
      have hfailed := hmarks.marked c (state w) hc (by simp [hcall])
      rw [← h.read (sink.call c (state w)).2 w] at hfailed
      exact .inl ((h.lost _).2 hfailed)

/-- A callback before an exception. -/
theorem sim_throw (c : SinkCall) (e : Thrown) :
    Act.Sim S (Alike Whatever) (notify sink state update c >>= fun _ => throw e : Act ω Thrown α)
      (notify nullTraceSink state' update' c >>= fun _ => throw e) where
  stays := (h.stays hmarks c).bind fun _ => .throw e
  agree w _ := by
    have hrun := run_notify sink state update c w
    have herase := (h.erase (sink.call c (state w)).2 w).symm
    refine .inr ?_
    split at hrun
    · rw [Act.run_bind_returned hrun]
      exact .some ⟨trivial, herase⟩
    · rw [Act.run_bind_threw hrun]
      exact .some ⟨trivial, herase⟩

/-- A callback whose exceptions are dropped. -/
theorem sim_caught (c : SinkCall) :
    Act.Sim S (Alike E) (tryCatch (notify sink state update c) fun _ => pure ())
      (tryCatch (notify nullTraceSink state' update' c) fun _ => pure ()) where
  stays := (h.stays hmarks c).tryCatch fun _ => .pure ()
  agree w _ := by
    have hrun := run_notify sink state update c w
    have herase := (h.erase (sink.call c (state w)).2 w).symm
    refine .inr ?_
    split at hrun
    · rw [Act.run_catch_returned hrun]
      exact .some ⟨rfl, herase⟩
    · rw [Act.run_catch_threw hrun]
      exact .some ⟨rfl, herase⟩

end Watched

section catchStd

variable {α : Type} {x : Act ω Thrown α} {y : Act ω' Thrown α} {handler : Exn → Act ω Thrown α}
  {handler' : Exn → Act ω' Thrown α}

theorem sim_catchStd (hx : Act.Sim S (Alike Eq) x y)
    (hh : ∀ e, Act.Sim S (Alike Whatever) (handler e) (handler' e)) :
    Act.Sim S (Alike Whatever) (catchStd x handler) (catchStd y handler') := by
  refine .tryCatch hx (fun _ => rfl) (fun e => ?_) fun e e' he => ?_
  · cases e with
    | std e => exact (hh e).stays
    | other => exact .throw _
  · subst he
    cases e with
    | std e => exact hh e
    | other => exact .throw trivial

/-- A call that throws in lost worlds only. -/
theorem sim_catchStd_never (hx : Act.Sim S (Alike Never) x y)
    (hh : ∀ e, Act.Stays S (handler e)) :
    Act.Sim S (Alike E) (catchStd x handler) (catchStd y handler') := by
  refine .tryCatch hx (fun _ => rfl) (fun e => ?_) fun _ _ he => he.elim
  cases e with
  | std e => exact hh e
  | other => exact .throw _

end catchStd

/-! ## The in-process transport -/

namespace InProcess

/-- The world without its sinks. -/
def Pair.erase (p : Pair σ τ) : Pair Unit Unit :=
  ⟨p.channel, ⟨p.sender.edgeId, p.sender.closed, ()⟩, ⟨p.receiver.edgeId, p.receiver.closed, ()⟩,
    p.nowNs⟩

/-- Until the receiver's sink has failed. -/
def erasure (Failed : τ → Prop) : Erasure (Pair σ τ) (Pair Unit Unit) where
  erase := Pair.erase
  Good _ := True
  Lost p := Failed p.receiver.sink

variable {receiveSink : TraceSink τ} {Failed : τ → Prop}

theorem keeps_sent (sendSink : TraceSink σ) (edgeId : String) (e : Envelope) (n : ℕ)
    (result : ChannelPushStatus × ℕ) :
    Act.Keeps (fun p => (p.erase, p.receiver.sink)) (sent sendSink edgeId e n result : Call σ τ Unit) := by
  have hobserve : ∀ c, Act.Keeps (fun p => (p.erase, p.receiver.sink))
      (observeSend sendSink c : Call σ τ Unit) := keeps_notify fun _ _ => rfl
  unfold sent
  split
  · exact .bind (.onlyIf (hobserve _)) fun _ => hobserve _
  · exact .bind (.onlyIf (hobserve _)) fun _ => .throw _

/-- **A send does the same with any sink.** -/
theorem sim_send (sendSink : TraceSink σ) (e : Envelope) :
    Act.Sim (erasure Failed) Ended (send sendSink e : Call σ τ Unit) (send nullTraceSink e) := by
  refine .get_bind fun p _ => .ite (fun _ => .throw trivial) fun _ => ?_
  cases serialize e with
  | error error => exact .throw trivial
  | ok wire =>
    refine .bind_of (E := Eq) (.modify (fun _ _ h => h) fun _ => rfl) (fun _ => ?_) fun _ _ _ => trivial
    refine .of_keeps (keeps_sent _ _ _ _ _) (fun w => ?_) fun w w' h => ?_
    · obtain ⟨r, w', hr, hp⟩ := keeps_sent nullTraceSink p.sender.edgeId e wire.length
        (p.channel.push e).1 w
      exact ⟨r, w', hr, congrArg Prod.fst hp⟩
    · obtain ⟨herase, hsink⟩ := Prod.mk.inj h
      exact ⟨herase, id, (congrArg Failed hsink).mpr⟩

theorem watched : Watched (erasure Failed) Failed (fun p : Pair σ τ => p.receiver.sink)
    (fun s p => { p with receiver := { p.receiver with sink := s } })
    (fun s p => { p with receiver := { p.receiver with sink := s } }) :=
  ⟨fun _ _ => rfl, fun _ _ => rfl, fun _ _ => id, fun _ => Iff.rfl⟩

/-- **A receive does the same until the sink has failed.** -/
theorem sim_receiveResult (hmarks : receiveSink.Marks OnReceive Failed) (timeoutMs : Option ℕ) :
    Act.Sim (erasure Failed) (Alike Whatever)
      (receiveResult receiveSink timeoutMs : Call σ τ ReceiveResult)
      (receiveResult nullTraceSink timeoutMs) := by
  refine .get_bind fun p _ => .ite (fun _ => .pure _) fun _ => ?_
  simp only [erasure, Pair.erase]
  rcases p.channel.pop timeoutMs.isSome with _ | ⟨⟨status, _ | envelope⟩, channel⟩
  · exact .block
  · cases status <;> exact .pure _
  · refine .bind (.modify (fun _ _ h => h) fun _ => rfl) fun _ => ?_
    cases serialize envelope with
    | error error => exact .throw trivial
    | ok wire => exact .bind (watched.sim hmarks trivial) fun _ => .pure _

end InProcess

/-! ## The shared-memory transport -/

namespace SharedMemory

/-- The world without its sinks. -/
def Pair.erase (p : Pair σ τ) : Pair Unit Unit :=
  ⟨p.shared, ⟨p.producer.edgeId, p.producer.segment, p.producer.locallyClosed, ()⟩,
    ⟨p.consumer.edgeId, p.consumer.segment, p.consumer.locallyClosed, ()⟩, p.waits, p.nowNs⟩

/-- Until the consumer's sink has failed. -/
def erasure (Failed : τ → Prop) : Erasure (Pair σ τ) (Pair Unit Unit) where
  erase := Pair.erase
  Good _ := True
  Lost p := Failed p.consumer.sink

variable {receiveSink : TraceSink τ} {Failed : τ → Prop} {opts : Options}

theorem sinkFree_erase : SinkFree fun p : Pair σ τ => (p.erase, p.consumer.sink) := fun _ _ => rfl

/-- Calls that only tell the producer's sink something. -/
theorem sim_of_keeps {x : Call σ τ Unit} {y : Call Unit Unit Unit}
    (hx : Act.Keeps (fun p => (p.erase, p.consumer.sink)) x) (hy : Act.Keeps id y) :
    Act.Sim (erasure Failed) Ended x y := by
  refine .of_keeps hx hy fun p p' h => ?_
  obtain ⟨herase, hsink⟩ := Prod.mk.inj h
  exact ⟨herase, id, (congrArg Failed hsink).mpr⟩

/-- **A send does the same with any sink.** -/
theorem sim_send (sendSink : TraceSink σ) (e : Envelope) :
    Act.Sim (erasure Failed) Ended (send opts sendSink e : Call σ τ Unit)
      (send opts nullTraceSink e) := by
  have hfail : ∀ detail, Act.Sim (erasure Failed) Ended (failSend sendSink detail : Call σ τ Unit)
      (failSend nullTraceSink detail) := fun detail =>
    sim_of_keeps (keeps_failSend _ sinkFree_erase _) (keeps_failSend _ (fun _ _ => rfl) _)
  refine .get_bind fun p _ => .ite (fun _ => .throw trivial) fun _ => ?_
  cases serialize e >>= frame with
  | error error => exact .throw trivial
  | ok framed =>
    refine .ite (fun _ => hfail _) fun _ => .ite (fun _ => hfail _) fun _ => .ite (fun _ => ?_) fun _ => ?_
    · exact .bind_of (E := Eq) (.modify (fun _ _ h => h) fun _ => rfl) (fun _ => hfail _)
        fun _ _ _ => trivial
    · refine .get_bind fun p _ => .bind_of (E := Eq) (.modify (fun _ _ h => h) fun _ => rfl)
        (fun _ => .ite (fun _ => ?_) fun _ => ?_) fun _ _ _ => trivial
      · exact sim_of_keeps (keeps_rejected _ sinkFree_erase _ _ _)
          (keeps_rejected _ (fun _ _ => rfl) _ _ _)
      · refine .bind_of (E := Eq) (.modify (fun _ _ h => h) fun _ => rfl) (fun _ => ?_)
          fun _ _ _ => trivial
        exact sim_of_keeps (keeps_sent _ sinkFree_erase _ _ _) (keeps_sent _ (fun _ _ => rfl) _ _ _)

theorem watched : Watched (erasure Failed) Failed (fun p : Pair σ τ => p.consumer.sink)
    (fun s p => { p with consumer := { p.consumer with sink := s } })
    (fun s p => { p with consumer := { p.consumer with sink := s } }) :=
  ⟨fun _ _ => rfl, fun _ _ => rfl, fun _ _ => id, fun _ => Iff.rfl⟩

/-- **A receive does the same until the sink has failed.** -/
theorem sim_receiveResult (hmarks : receiveSink.Marks OnReceive Failed) (timeoutMs : Option ℕ) :
    Act.Sim (erasure Failed) (Alike Whatever)
      (receiveResult opts receiveSink timeoutMs : Call σ τ ReceiveResult)
      (receiveResult opts nullTraceSink timeoutMs) := by
  have hfail : ∀ detail, Act.Sim (erasure Failed) (Alike Whatever)
      (failReceive receiveSink detail : Call σ τ ReceiveResult) (failReceive nullTraceSink detail) :=
    fun detail => .get_bind fun p _ => watched.sim_throw hmarks _ _
  refine .get_bind fun p _ => .ite (fun _ => .pure _) fun _ => .ite (fun _ => ?_) fun _ => ?_
  · exact .ite (fun _ => .pure _) fun _ => .ite (fun _ => .pure _) fun _ => .block
  · simp only [erasure, Pair.erase]
    cases p.shared.load opts with
    | none => exact .bind (.modify (fun _ _ h => h) fun _ => rfl) fun _ => hfail _
    | some framed =>
      refine .bind (.modify (fun _ _ h => h) fun _ => rfl) fun _ => .get_bind fun p _ => ?_
      cases decodeFrameSize (framed.take 4) with
      | error error => exact hfail _
      | ok size =>
        refine .ite (fun _ => hfail _) fun _ => ?_
        cases deserialize (framed.drop 4) with
        | error error => exact hfail _
        | ok envelope => exact .bind (watched.sim hmarks trivial) fun _ => .pure _

end SharedMemory

end GraphX
