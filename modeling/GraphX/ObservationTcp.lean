/-
  Observation and delivery: the TCP transport, and all three.

  With TCP a throwing callback can do more than lose a message.  `send` calls
  `on_backpressure` and `on_send` inside the `try` whose handler connects anew
  and writes the frame again; a connection whose set-up callbacks throw is
  dropped, or left half set up.

  * **`observation_keeps_delivery`** for every run of every link in which no such
    callback throws, and the runs of **`failing_observer_changes_delivery`** in which one does.
-/
import GraphX.Observation

namespace GraphX

open Imperative

variable {σ τ : Type}

/-! ## The TCP transport -/

namespace Tcp

/-- The transport without its sink. -/
def erase (t : Tcp σ) : Tcp Unit :=
  ⟨t.socket, t.listener, t.closed, t.endpoint, t.edgeId, t.reconnect, t.maxAttempts, t.outbound,
    t.everConnected, (), t.connects, t.writes, t.opened, t.wire, t.nowNs⟩

/-- The callbacks of `receive_result` that are called while it holds something. -/
def ReceiveCritical : SinkCall → Prop
  | .onReceive .. | .onReconnect .. => True
  | .onConnection _ state => state = .connected
  | _ => False

/-- Those of `send` that are called inside its `try`. -/
def SendCritical : SinkCall → Prop
  | .onSend .. | .onReconnect .. | .onBackpressure .. => True
  | .onConnection _ state => state = .connecting ∨ state = .connected
  | _ => False

/-- Transports of which `Good` holds, until the sink has failed. -/
def erasure (Good : Tcp σ → Prop) (Failed : σ → Prop) : Erasure (Tcp σ) (Tcp Unit) where
  erase := erase
  Good
  Lost t := Failed t.sink

/-- The condition does not depend on the sink. -/
def SinkFree (Good : Tcp σ → Prop) : Prop := ∀ s t, Good t → Good { t with sink := s }

variable {sink : TraceSink σ} {Good : Tcp σ → Prop} {Failed : σ → Prop} {critical : SinkCall → Prop}
  {E : Thrown → Thrown → Prop} {α : Type}

theorem watched (hfree : SinkFree Good) : Watched (erasure Good Failed) Failed Tcp.sink
    (fun s t => { t with sink := s }) (fun s t => { t with sink := s }) :=
  ⟨fun _ _ => rfl, fun _ _ => rfl, hfree, fun _ => Iff.rfl⟩

theorem sim_modify {f : Tcp σ → Tcp σ} {f' : Tcp Unit → Tcp Unit}
    (hf : ∀ t, (f t).erase = f' t.erase ∧ (f t).sink = t.sink) (hgood : ∀ t, Good t → Good (f t)) :
    Act.Sim (erasure Good Failed) (Alike E) (modify f) (modify f') :=
  .modify (fun _ t h => ⟨hgood t h.1, fun hb => (congrArg Failed (hf t).2).mpr (h.2 hb)⟩)
    fun t => (hf t).1

theorem sim_closeConnection (hmarks : sink.Marks critical Failed) (hfree : SinkFree Good)
    (hgood : ∀ t socket wire, Good t → Good { t with socket, wire }) :
    Act.Sim (erasure Good Failed) (Alike E) (closeConnection sink)
      (closeConnection nullTraceSink) := by
  refine .get_bind fun t _ => ?_
  simp only [erasure, erase]
  cases t.socket with
  | none => exact .pure ()
  | some s =>
    exact .bind (sim_modify (fun _ => ⟨rfl, rfl⟩) fun t => hgood t _ _) fun _ =>
      (watched hfree).sim_caught hmarks _

/-! ### Receiving -/

section receive

/-- Any transport, until its sink has failed. -/
abbrev receiving (Failed : σ → Prop) : Erasure (Tcp σ) (Tcp Unit) := erasure (fun _ => True) Failed

theorem sim_readAll (wanted : ℕ) (hasDeadline : Bool) :
    Act.Sim (receiving Failed) (Alike Eq) (readAll wanted hasDeadline) (readAll wanted hasDeadline) := by
  refine .get_bind fun t _ => ?_
  simp only [erasure, erase]
  cases t.socket with
  | none => exact .ite (fun _ => .pure _) fun _ => .ite (fun _ => .pure _) fun _ => .block
  | some s =>
    simp only
    cases readLoop hasDeadline s.ended s.incoming wanted [] with
    | finished status bytes rest =>
      exact .bind (sim_modify (fun _ => ⟨rfl, rfl⟩) fun _ => id) fun _ => .pure _
    | failed what rest =>
      exact .bind (sim_modify (fun _ => ⟨rfl, rfl⟩) fun _ => id) fun _ => .throw rfl
    | waiting bytes => exact .block

variable (hmarks : sink.Marks ReceiveCritical Failed)
include hmarks

theorem sim_failure (detail : String) :
    Act.Sim (receiving Failed) (Alike Whatever) (failure sink detail : Call σ α)
      (failure nullTraceSink detail) :=
  .get_bind fun _ _ => (watched fun _ _ => id).sim_throw hmarks _ _

theorem sim_closed : Act.Sim (receiving Failed) (Alike E) (closeConnection sink)
    (closeConnection nullTraceSink) :=
  sim_closeConnection hmarks (fun _ _ => id) fun _ _ _ => id

theorem sim_closeFailure (detail : String) :
    Act.Sim (receiving Failed) (Alike Whatever)
      (closeConnection sink >>= fun _ => failure sink detail : Call σ α)
      (closeConnection nullTraceSink >>= fun _ => failure nullTraceSink detail) :=
  .bind (sim_closed hmarks) fun _ => sim_failure hmarks detail

theorem sim_observe {c : SinkCall} (hc : ReceiveCritical c) :
    Act.Sim (receiving Failed) (Alike E) (observe sink c) (observe nullTraceSink c) :=
  (watched fun _ _ => id).sim hmarks hc

theorem sim_acceptInbound (hasDeadline : Bool) :
    Act.Sim (receiving Failed) (Alike Whatever) (acceptInbound sink hasDeadline)
      (acceptInbound nullTraceSink hasDeadline) := by
  refine .get_bind fun t _ => .ite (fun _ => .pure _) fun _ => .ite (fun _ => .pure _) fun _ => ?_
  simp only [erasure, erase]
  rcases t.listener with _ | _ | ⟨⟨s⟩ | what | what, rest⟩
  · exact .pure _
  · exact .ite (fun _ => .pure _) fun _ => .block
  · refine .bind (sim_modify (fun _ => ⟨rfl, rfl⟩) fun _ => id) fun _ => ?_
    refine .bind (.onlyIf (sim_observe hmarks trivial)) fun _ => ?_
    refine .bind (sim_modify (fun _ => ⟨rfl, rfl⟩) fun _ => id) fun _ => ?_
    exact .bind (sim_observe hmarks rfl) fun _ => .pure _
  · exact .bind (sim_modify (fun _ => ⟨rfl, rfl⟩) fun _ => id) fun _ => sim_failure hmarks _
  · exact .bind (sim_modify (fun _ => ⟨rfl, rfl⟩) fun _ => id) fun _ => sim_failure hmarks _

theorem sim_receiveBody (hasDeadline : Bool) (size : UInt32) :
    Act.Sim (receiving Failed) (Alike Whatever) (receiveBody sink hasDeadline size)
      (receiveBody nullTraceSink hasDeadline size) := by
  refine .bind (sim_catchStd (sim_readAll _ _) fun _ => sim_closeFailure hmarks _) ?_
  rintro ⟨status, payload⟩
  cases status with
  | timedOut | closed => exact sim_closeFailure hmarks _
  | complete =>
    simp only
    cases deserialize payload with
    | error error => exact sim_failure hmarks _
    | ok envelope =>
      exact .get_bind fun t _ => .bind (sim_observe hmarks trivial) fun _ => .pure _

theorem sim_receiveFrame (hasDeadline : Bool) :
    Act.Sim (receiving Failed) (Alike Whatever) (receiveFrame sink hasDeadline)
      (receiveFrame nullTraceSink hasDeadline) := by
  refine .bind (sim_catchStd (sim_readAll _ _) fun _ => sim_closeFailure hmarks _) ?_
  rintro ⟨status, header⟩
  cases status with
  | timedOut => exact .ite (fun _ => .pure _) fun _ => sim_closeFailure hmarks _
  | closed =>
    refine .bind (sim_closed hmarks) fun _ => .ite (fun _ => sim_failure hmarks _) fun _ => ?_
    refine .get_bind fun t _ => .ite (fun _ => .pure _) fun _ =>
      .bind (sim_modify (fun t => ⟨?_, ?_⟩) fun _ => id) fun _ => .pure _
    · by_cases ho : t.outbound = true <;> simp [erase, ho]
    · by_cases ho : t.outbound = true <;> simp [ho]
  | complete =>
    simp only
    cases decodeFrameSize header with
    | error error => exact sim_closeFailure hmarks _
    | ok size => exact .bind (sim_receiveBody hmarks _ _) fun _ => .pure _

theorem sim_receiveLoop (hasDeadline : Bool) (turns : ℕ) :
    Act.Sim (receiving Failed) (Alike Whatever) (receiveLoop sink hasDeadline turns)
      (receiveLoop nullTraceSink hasDeadline turns) := by
  induction turns with
  | zero => exact .block
  | succ turns ih =>
    refine .bind (.get_bind fun t _ => .ite (fun _ => .pure _) fun _ => ?_) fun result => ?_
    · exact .bind (sim_acceptInbound hmarks _) fun _ =>
        .ite (fun _ => sim_receiveFrame hmarks _) fun _ => .pure _
    · cases result with
      | none => exact ih
      | some result => exact .pure _

/-- **A receive does the same until the sink has failed.** -/
theorem sim_receiveResult (timeoutMs : Option ℕ) :
    Act.Sim (receiving Failed) (Alike Whatever) (receiveResult sink timeoutMs)
      (receiveResult nullTraceSink timeoutMs) :=
  .get_bind fun _ _ => sim_receiveLoop hmarks _ _

end receive

/-! ### Sending -/

section send

/-- A connecting end with a network that does not fail. -/
structure Healthy (t : Tcp σ) : Prop where
  outbound : t.outbound = true
  notClosed : t.closed = false
  connects : ∀ fate ∈ t.connects, fate = none
  writes : ∀ fate ∈ t.writes, fate.failure = none

/-- A healthy transport, until its sink has failed. -/
abbrev sending (Failed : σ → Prop) : Erasure (Tcp σ) (Tcp Unit) := erasure Healthy Failed

theorem Healthy.congr {t t' : Tcp σ} (h : Healthy t)
    (hsame : (t'.outbound, t'.closed, t'.connects, t'.writes) =
      (t.outbound, t.closed, t.connects, t.writes)) : Healthy t' := by
  simp only [Prod.mk.injEq] at hsame
  obtain ⟨houtbound, hclosed, hconnects, hwrites⟩ := hsame
  exact ⟨houtbound.trans h.outbound, hclosed.trans h.notClosed, hconnects ▸ h.connects,
    hwrites ▸ h.writes⟩

theorem sinkFree_healthy : SinkFree (Healthy (σ := σ)) := fun _ _ h => h.congr rfl

theorem sim_connectOnce :
    Act.Sim (sending Failed) (Alike Never) connectOnce connectOnce := by
  refine .get_bind fun t ht => ?_
  have hnone : t.connects.head?.join = none := by
    cases hcs : t.connects with
    | nil => rfl
    | cons fate _ => exact ht.connects fate (by simp [hcs])
  refine .bind (sim_modify (fun _ => ⟨rfl, rfl⟩) fun t ht => ?_) fun _ => ?_
  · exact { ht with connects := fun f hf => ht.connects f (List.mem_of_mem_tail hf) }
  · simp only [erasure, erase, hnone]
    exact sim_modify (fun _ => ⟨rfl, rfl⟩) fun t ht => ht.congr rfl

theorem sim_writeAll (id : ℕ) (bytes : Bytes) :
    Act.Sim (sending Failed) (Alike Never) (writeAll id bytes) (writeAll id bytes) := by
  refine .get_bind fun t ht => ?_
  have hnone : (t.writes.head?.getD ⟨0, none⟩).failure = none := by
    cases hws : t.writes with
    | nil => rfl
    | cons fate _ => exact ht.writes fate (by simp [hws])
  refine .bind (sim_modify (fun _ => ⟨rfl, rfl⟩) fun t ht => ?_) fun _ => ?_
  · exact { ht with writes := fun f hf => ht.writes f (List.mem_of_mem_tail hf) }
  · simp only [erasure, erase, hnone]
    exact .bind (sim_modify (fun _ => ⟨rfl, rfl⟩) fun t ht =>
      ht.congr rfl) fun _ => .pure _

variable (hmarks : sink.Marks SendCritical Failed)
include hmarks

theorem stays_told (c : SinkCall) : Act.Stays (sending Failed) (observe sink c) :=
  (watched sinkFree_healthy).stays hmarks c

theorem sim_told {c : SinkCall} (hc : SendCritical c) :
    Act.Sim (sending Failed) (Alike E) (observe sink c) (observe nullTraceSink c) :=
  (watched sinkFree_healthy).sim hmarks hc

theorem sim_connectAttempt :
    Act.Sim (sending Failed) (Alike Never) (connectAttempt sink) (connectAttempt nullTraceSink) := by
  refine .get_bind fun t _ => .bind (sim_told hmarks (.inl rfl)) fun _ => .bind sim_connectOnce fun _ => ?_
  refine .bind (.onlyIf (sim_told hmarks trivial)) fun _ => ?_
  refine .bind (sim_modify (fun _ => ⟨rfl, rfl⟩) fun t ht => ?_) fun _ => sim_told hmarks (.inr rfl)
  exact ht.congr rfl

theorem sim_connectLoop (attempts left attempt : ℕ) :
    Act.Sim (sending Failed) (Alike Never) (connectLoop sink attempts left attempt)
      (connectLoop nullTraceSink attempts left attempt) := by
  have hfailed : ∀ attempt error, Act.Stays (sending Failed) (connectFailed sink attempt error) :=
    fun _ _ => .get_bind fun _ => stays_told hmarks _
  induction left generalizing attempt with
  | zero =>
    refine sim_catchStd_never (sim_connectAttempt hmarks) fun error => ?_
    exact (hfailed attempt error).bind fun _ => .get_bind fun _ => .throw _
  | succ left ih =>
    refine sim_catchStd_never (sim_connectAttempt hmarks) fun error => ?_
    exact (hfailed attempt error).bind fun _ => (ih (attempt + 1)).stays

theorem sim_sendAttempt (e : Envelope) (framed : Bytes) :
    Act.Sim (sending Failed) (Alike Never) (sendAttempt sink e framed)
      (sendAttempt nullTraceSink e framed) := by
  refine .get_bind fun t ht => .bind (.onlyIf ?_) fun _ => .get_bind fun t _ => ?_
  · rw [if_pos ht.outbound, if_pos (show ((sending Failed).erase t).outbound = true from ht.outbound)]
    refine .get_bind fun t ht => ?_
    simp only [ht.notClosed, show ((sending Failed).erase t).closed = false from ht.notClosed]
    exact sim_connectLoop hmarks _ _ _
  · refine .bind (sim_writeAll _ _) fun _ => ?_
    exact .bind (.onlyIf (sim_told hmarks trivial)) fun _ => sim_told hmarks trivial

theorem sim_sendLoop (e : Envelope) (framed : Bytes) (left : ℕ) :
    Act.Sim (sending Failed) (Alike Whatever) (sendLoop sink e framed left)
      (sendLoop nullTraceSink e framed left) := by
  have hfailed : ∀ error, Act.Stays (sending Failed) (sendFailed sink error) := fun _ =>
    .get_bind fun _ => (stays_told hmarks _).bind fun _ =>
      (sim_closeConnection (E := Eq) hmarks sinkFree_healthy fun _ _ _ ht =>
        ht.congr rfl).stays
  induction left with
  | zero =>
    refine sim_catchStd_never (sim_sendAttempt hmarks e framed) fun error => ?_
    exact (hfailed error).bind fun _ => .get_bind fun _ => .throw _
  | succ left ih =>
    refine sim_catchStd_never (sim_sendAttempt hmarks e framed) fun error => ?_
    exact (hfailed error).bind fun _ => ih.stays

/-- **A send does the same until the sink has failed.** -/
theorem sim_send (e : Envelope) :
    Act.Sim (sending Failed) (Alike Whatever) (send sink e) (send nullTraceSink e) := by
  refine .get_bind fun t _ => .ite (fun _ => .throw trivial) fun _ => ?_
  cases serialize e >>= frame with
  | error error => exact .throw trivial
  | ok framed => exact sim_sendLoop hmarks e framed _

end send

end Tcp

namespace TcpNet

/-- The network without its sinks. -/
def erase (n : TcpNet σ τ) : TcpNet Unit Unit := ⟨n.sender.erase, n.receiver.erase, n.inFlight⟩

/-- Networks with a healthy sender, until one of the sinks has failed. -/
def erasure (SendFailed : σ → Prop) (ReceiveFailed : τ → Prop) :
    Erasure (TcpNet σ τ) (TcpNet Unit Unit) where
  erase := erase
  Good n := n.sender.Healthy
  Lost n := SendFailed n.sender.sink ∨ ReceiveFailed n.receiver.sink

variable {SendFailed : σ → Prop} {ReceiveFailed : τ → Prop}

theorem erase_arrive (more : ℕ) (n : TcpNet σ τ) : (n.arrive more).erase = n.erase.arrive more := by
  obtain ⟨sender, receiver, inFlight⟩ := n
  rcases inFlight with _ | ⟨effect, rest⟩
  · rfl
  · cases effect with
    | opened id => rfl
    | wrote id bytes =>
      simp only [arrive, erase]
      cases bytes.take (more + 1) <;> rfl
    | shut id => rfl

/-- What arrives changes neither the sender nor a sink. -/
theorem arrive_eq (more : ℕ) (n : TcpNet σ τ) :
    (n.arrive more).sender = n.sender ∧ (n.arrive more).receiver.sink = n.receiver.sink := by
  obtain ⟨sender, receiver, inFlight⟩ := n
  rcases inFlight with _ | ⟨effect, rest⟩
  · exact ⟨rfl, rfl⟩
  · cases effect with
    | opened id => exact ⟨rfl, rfl⟩
    | wrote id bytes =>
      refine ⟨rfl, ?_⟩
      simp only [arrive]
      cases bytes.take (more + 1) <;> rfl
    | shut id => exact ⟨rfl, rfl⟩

theorem held_arrive (more : ℕ) (b : Prop) (n : TcpNet σ τ)
    (h : (erasure SendFailed ReceiveFailed).Held b n) :
    (erasure SendFailed ReceiveFailed).Held b (n.arrive more) := by
  obtain ⟨hsender, hsink⟩ := arrive_eq more n
  simpa only [Erasure.Held, erasure, hsender, hsink] using h

theorem sim_send {sendSink : TraceSink σ} (receiveSink : TraceSink τ)
    (hmarks : sendSink.Marks Tcp.SendCritical SendFailed) (e : Envelope) :
    Act.Sim (erasure SendFailed ReceiveFailed) Ended ((tcpLink sendSink receiveSink).send e)
      ((tcpLink nullTraceSink nullTraceSink).send e) := by
  refine .mono (A := Alike Whatever) ?_ fun _ _ _ => trivial
  refine .zoom (Tcp.sim_send hmarks e) (fun _ => rfl) (fun _ _ => rfl) (fun n hn => ?_)
    (fun _ _ _ ht => ht) (fun _ _ => .inl) fun n hlost => ?_
  · exact hn.congr rfl
  · exact hlost.imp_right fun hl _ => .inr hl

theorem sim_receive (sendSink : TraceSink σ) {receiveSink : TraceSink τ}
    (hmarks : receiveSink.Marks Tcp.ReceiveCritical ReceiveFailed) (timeoutMs : Option ℕ) :
    Act.Sim (erasure SendFailed ReceiveFailed) (Alike Whatever)
      ((tcpLink sendSink receiveSink).receive timeoutMs)
      ((tcpLink nullTraceSink nullTraceSink).receive timeoutMs) :=
  .zoom (Tcp.sim_receiveResult hmarks timeoutMs) (fun _ => rfl) (fun _ _ => rfl) (fun _ _ => trivial)
    (fun _ _ hn _ => hn) (fun _ _ => .inr) fun _ hlost => hlost.symm.imp_right fun hl _ => .inl hl

end TcpNet

/-! ## Delivery -/

/-- **Observation does not change delivery** in a run in which no sink throws from
    `on_receive` and, with TCP, none throws while a connection is set up or
    inside the retried part of a send.  In-process and shared-memory senders may
    throw from any callback, and every sink from the other ones. -/
theorem observation_keeps_delivery {σ τ : Type} (opts : SharedMemory.Options)
    (sendSink : TraceSink σ) (receiveSink : TraceSink τ) (SendFailed : σ → Prop)
    (ReceiveFailed : τ → Prop) :
    (receiveSink.Marks OnReceive ReceiveFailed → ∀ calls p,
      ¬ReceiveFailed ((inProcessLink sendSink receiveSink).after calls p).receiver.sink →
        (inProcessLink sendSink receiveSink).delivered calls p =
          (inProcessLink nullTraceSink nullTraceSink).delivered calls p.erase) ∧
    (receiveSink.Marks OnReceive ReceiveFailed → ∀ calls p,
      ¬ReceiveFailed ((sharedMemoryLink opts sendSink receiveSink).after calls p).consumer.sink →
        (sharedMemoryLink opts sendSink receiveSink).delivered calls p =
          (sharedMemoryLink opts nullTraceSink nullTraceSink).delivered calls p.erase) ∧
    (sendSink.Marks Tcp.SendCritical SendFailed →
      receiveSink.Marks Tcp.ReceiveCritical ReceiveFailed → ∀ calls n, n.sender.Healthy →
        ¬SendFailed ((tcpLink sendSink receiveSink).after calls n).sender.sink →
        ¬ReceiveFailed ((tcpLink sendSink receiveSink).after calls n).receiver.sink →
          (tcpLink sendSink receiveSink).delivered calls n =
            (tcpLink nullTraceSink nullTraceSink).delivered calls n.erase) := by
  refine ⟨fun hmarks calls p hnot => ?_, fun hmarks calls p hnot => ?_,
    fun hs hr calls n hn hsend hreceive => ?_⟩
  · exact Link.delivered_eq (S := InProcess.erasure ReceiveFailed) (InProcess.sim_send sendSink)
      (InProcess.sim_receiveResult hmarks) nofun nofun calls trivial hnot
  · exact Link.delivered_eq (S := SharedMemory.erasure ReceiveFailed)
      (SharedMemory.sim_send sendSink) (SharedMemory.sim_receiveResult hmarks) nofun nofun calls
      trivial hnot
  · exact Link.delivered_eq (S := TcpNet.erasure SendFailed ReceiveFailed)
      (TcpNet.sim_send receiveSink hs) (TcpNet.sim_receive sendSink hr) TcpNet.held_arrive
      TcpNet.erase_arrive calls hn (not_or.2 ⟨hsend, hreceive⟩)

section sample

/-- A sink that throws from the `n`-th of these callbacks; its state counts down to it. -/
def failingAt (p : SinkCall → Bool) : TraceSink ℕ where
  call c n :=
    if p c then (if n = 1 then some (.std (.runtimeError "observer")) else none, n - 1)
    else (none, n)

theorem marks_failingAt (p : SinkCall → Bool) (critical : SinkCall → Prop) :
    (failingAt p).Marks critical (· = 0) where
  marked c n _ hthrown := by
    by_cases hp : p c = true <;> by_cases hn : n = 1 <;> simp_all [failingAt]
  stays c n hn := by
    by_cases hp : p c = true <;> simp [failingAt, hp, hn]

def isOnSend : SinkCall → Bool
  | .onSend .. => true
  | _ => false

def isOnReceive : SinkCall → Bool
  | .onReceive .. => true
  | _ => false

def samplePair : InProcess.Pair Unit ℕ :=
  ⟨⟨[], 2, false, false, []⟩, ⟨"a-b", false, ()⟩, ⟨"a-b", false, 1⟩, 0⟩

/-- A connected pair of TCP transports whose sender reconnects, with sinks that fail at the
    `n`-th callback. -/
def sampleNet (n : ℕ) : TcpNet ℕ ℕ where
  sender := ⟨none, none, false, ⟨"127.0.0.1", 7000⟩, "a-b", true, 1, true, false, n, [], [], 0,
    [], 0⟩
  receiver := ⟨none, some [], false, ⟨"127.0.0.1", 7000⟩, "a-b", true, 1, false, false, n, [], [],
    0, [], 0⟩
  inFlight := []

/-- A send, the arrival of everything it put on the wire, and two receives. -/
def sampleCalls : List (LinkCall ℕ) :=
  .send sampleEnvelope :: List.replicate 5 (.environment 200) ++
    [.receive (some 10), .receive (some 10)]

/-- Sinks that fail at the second message do not matter for the first. -/
theorem observation_keeps_delivery_sample :
    (tcpLink (failingAt isOnSend) (failingAt isOnReceive)).delivered sampleCalls (sampleNet 2) =
      [sampleEnvelope] := by
  have h := observation_keeps_delivery SharedMemory.sampleOptions (failingAt isOnSend)
    (failingAt isOnReceive) (· = 0) (· = 0)
  rw [h.2.2 (marks_failingAt _ _) (marks_failingAt _ _) sampleCalls (sampleNet 2)
    ⟨rfl, rfl, by simp [sampleNet], by simp [sampleNet]⟩ (by decide +kernel) (by decide +kernel)]
  decide +kernel

/-- **A failing observer loses a message**: `on_receive` throws after the channel
    has given the message away.  **Another one duplicates it**: `on_send` throws
    after the frame has been written, and the send writes it again. -/
theorem failing_observer_changes_delivery :
    (inProcessLink nullTraceSink (failingAt isOnReceive)).delivered
      [.send sampleEnvelope, .receive (some 10), .receive (some 10)] samplePair = [] ∧
    (inProcessLink nullTraceSink nullTraceSink).delivered
      [.send sampleEnvelope, .receive (some 10), .receive (some 10)] samplePair.erase =
        [sampleEnvelope] ∧
    (tcpLink (failingAt isOnSend) (failingAt isOnSend)).delivered sampleCalls (sampleNet 1) =
      [sampleEnvelope, sampleEnvelope] := by
  decide +kernel

end sample

end GraphX
