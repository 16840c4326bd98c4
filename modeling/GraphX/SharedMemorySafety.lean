/-
  Safety of the shared-memory transport in whole runs.

  `Silent s`: no receive will deliver another message, because the consumer is
  dead, or the producer is and nothing is queued for the receives to come.
  Every recovery of an abandoned mutex makes the transport silent except one:
  `request_close` of the consumer leaves the queue as it is, so a receive under
  way in another thread still finds the messages in it (`RecoveryOk` excludes
  that).

  * **`shared_memory_safety`**, and the run **`close_recovery_delivers`** that
    shows the exception.
-/
import GraphX.Lib.Runs
import GraphX.SharedMemoryRing

namespace GraphX.SharedMemory

open Ipc List

variable {opts : Options} {s s' : Ipc}

/-! ## Silence -/

/-- No message can come out of the receive at this place. -/
def SilentAt (s : Ipc) : ReceivePc → Prop
  | .recover .close | .recover .drop => True
  | .load | .advance _ | .unlock (.decode _) | .decode _ => False
  | .idle => s.taken = s.published.length ∨ s.locallyClosed .consumer = true
  | _ => s.taken = s.published.length

def Silent (s : Ipc) : Prop :=
  s.alive .consumer = false ∨ s.alive .producer = false ∧ SilentAt s s.receive

/-- The state in which `request_close` of the consumer may recover the mutex: no
    receive is under way that has a message or finds one. -/
def CannotDeliver (s : Ipc) : Prop :=
  match s.receive with
  | .idle => True
  | .decode _ => False
  | _ => s.shared.isEmpty = true

/-- `request_close` of the consumer recovers the mutex only then. -/
def RecoveryOk (s : Ipc) : Action → Prop
  | .run (.closer .consumer) _ =>
    s.closing .consumer = .lock → s.mutex = .abandoned → CannotDeliver s
  | _ => True

variable {hint : Hint}

theorem SilentAt.stepReceive (h : Inv opts s) (hsil : SilentAt s s.receive)
    (hs : s.stepReceive opts hint = some s') :
    s'.alive = s.alive ∧ s'.delivered = s.delivered ∧ SilentAt s' s'.receive := by
  have hok : ReceiveOk opts s s.receive := h.place .receiver
  unfold Ipc.stepReceive at hs
  cases hpc : s.receive with
    simp only [hpc, Option.map_eq_some_iff, Prod.exists] at hs hsil hok
  | idle => cases hs
  | lock =>
    obtain ⟨died, s₁, hacq, rfl⟩ := hs
    obtain ⟨-, -, rfl⟩ := acquire_eq_some hacq
    cases died <;> trivial
  | wait =>
    obtain ⟨died, s₁, hacq, rfl⟩ := hs
    obtain ⟨-, -, rfl⟩ := acquire_eq_some hacq
    refine ⟨rfl, rfl, ?_⟩
    cases died
    · cases hint.waitFailed <;> exact hsil
    · trivial
  | recover stage =>
    cases stage <;> cases hs
    · exact ⟨rfl, rfl, trivial⟩
    · exact ⟨rfl, rfl, rfl⟩
    · exact ⟨rfl, rfl, hsil⟩
    · exact ⟨rfl, rfl, hsil⟩
  | empty =>
    rw [if_pos (h.ring.isEmpty_iff.2 hsil)] at hs
    split_ifs at hs <;> cases hs <;> exact ⟨rfl, rfl, hsil⟩
  | closeDead =>
    cases hs
    exact ⟨rfl, rfl, hsil⟩
  | closeInvalid => exact hok.elim
  | unlock outcome =>
    cases outcome with
    | result r =>
      cases hs
      refine ⟨rfl, ?_, .inl hsil⟩
      rw [delivered_finish]
      simp [ReceiveResult.delivered, hok.2.1]
      rfl
    | failed =>
      cases hs
      refine ⟨rfl, ?_, .inl hsil⟩
      rw [delivered_finish]
      exact append_nil _
    | decode framed => exact hsil.elim
  | load | advance | decode => exact hsil.elim

theorem recover_frame (s : Ipc) (stage : Recovery) :
    (s.recover stage).1.alive = s.alive ∧ (s.recover stage).1.results = s.results ∧
      (s.recover stage).1.closing = s.closing ∧
      (s.recover stage).1.locallyClosed = s.locallyClosed ∧
      (s.recover stage).1.recoveries = s.recoveries := by
  cases stage <;> exact ⟨rfl, rfl, rfl, rfl, rfl⟩

theorem stepSend_frame (hs : s.stepSend opts hint = some s') :
    s'.alive = s.alive ∧ s'.results = s.results ∧ s'.closing = s.closing ∧
      s'.locallyClosed = s.locallyClosed ∧
      (s'.recoveries = s.recoveries ∨ s.mutex = .abandoned) := by
  unfold Ipc.stepSend at hs
  split at hs <;> grind [acquire, recover_frame, release]

theorem stepReceive_frame (hs : s.stepReceive opts hint = some s') :
    s'.alive = s.alive ∧ s'.closing = s.closing ∧ s'.locallyClosed = s.locallyClosed ∧
      (s'.recoveries = s.recoveries ∨ s.mutex = .abandoned ∧ s'.receive = .recover .close) := by
  unfold Ipc.stepReceive at hs
  split at hs <;> grind [acquire, recover_frame, release, finish]

theorem stepClose_frame {side : Side} (hs : s.stepClose side = some s') :
    s'.alive = s.alive ∧ s'.results = s.results ∧ s'.receive = s.receive ∧ s'.taken = s.taken ∧
      s'.published = s.published ∧ s'.locallyClosed = s.locallyClosed ∧
      (s'.shared.head = s.shared.head ∧ s'.shared.tail = s.shared.tail ∧
        s'.shared.slots = s.shared.slots) ∧
      (∃ pc, s.closing side ≠ .idle ∧ s'.closing = Function.update s.closing side pc) ∧
      (s'.recoveries = s.recoveries ∨ s.closing side = .lock ∧ s.mutex = .abandoned) := by
  unfold Ipc.stepClose at hs
  cases hpc : s.closing side with simp only [hpc, Option.map_eq_some_iff, Prod.exists] at hs
  | idle => cases hs
  | lock =>
    obtain ⟨died, s₁, hacq, rfl⟩ := hs
    obtain ⟨-, hdied, rfl⟩ := acquire_eq_some hacq
    refine ⟨rfl, rfl, rfl, rfl, rfl, rfl, ⟨rfl, rfl, rfl⟩, ⟨_, nofun, rfl⟩, ?_⟩
    cases died with
    | false => exact .inl rfl
    | true => exact .inr ⟨rfl, hdied rfl⟩
  | _ =>
    cases hs
    cases side <;>
      exact ⟨rfl, rfl, rfl, rfl, rfl, rfl, ⟨rfl, rfl, rfl⟩, ⟨_, nofun, rfl⟩, .inl rfl⟩

theorem SilentAt.congr {pc : ReceivePc} (h : SilentAt s pc) (hk : s'.taken = s.taken)
    (hp : s'.published = s.published)
    (hl : s.locallyClosed .consumer = true → s'.locallyClosed .consumer = true) :
    SilentAt s' pc := by
  cases pc with
  | recover stage => cases stage <;> simp_all [SilentAt]
  | unlock o => cases o <;> simp_all [SilentAt]
  | idle => exact h.imp (by rw [hk, hp]; exact id) hl
  | _ => simp_all [SilentAt]

variable {a : Action}

/-- **A silent transport stays silent and delivers nothing.** -/
theorem Silent.step (h : Inv opts s) (hsil : Silent s) (hs : s.step opts a = some s') :
    Silent s' ∧ s'.delivered = s.delivered := by
  cases stepped_of_step hs with
  | callSend => exact ⟨hsil.imp_right fun hp => ⟨hp.1, hp.2.congr rfl rfl id⟩, rfl⟩
  | cancelled hidle ha hc =>
    refine ⟨hsil.imp_right fun hp => ⟨hp.1, .inr hc⟩, ?_⟩
    rw [delivered_finish]
    exact append_nil _
  | callReceive hidle ha hc =>
    refine ⟨hsil.imp_right fun hp => ⟨hp.1, ?_⟩, rfl⟩
    rw [hidle] at hp
    exact hp.2.resolve_right (by simp [hc])
  | @callClose side ha =>
    refine ⟨hsil.imp_right fun hp => ⟨hp.1, hp.2.congr rfl rfl fun hl => ?_⟩, rfl⟩
    cases side with
    | producer => exact hl
    | consumer => simp
  | sender ha hs =>
    obtain ⟨halive, hres, -⟩ := stepSend_frame hs
    rcases hsil with hc | ⟨hp, -⟩
    · exact ⟨.inl (halive ▸ hc), by simp only [delivered, hres]⟩
    · exact absurd (hp.symm.trans ha) Bool.false_ne_true
  | receiver ha hs =>
    rcases hsil with hc | ⟨hp, hsil⟩
    · exact absurd (hc.symm.trans ha) Bool.false_ne_true
    · obtain ⟨halive, hd, hsil'⟩ := hsil.stepReceive h hs
      exact ⟨.inr ⟨halive ▸ hp, hsil'⟩, hd⟩
  | closer ha hs =>
    obtain ⟨halive, hres, hrec, hk, hpub, hl, -⟩ := stepClose_frame hs
    refine ⟨?_, by simp only [delivered, hres]⟩
    rw [Silent, halive, hrec]
    exact hsil.imp_right fun hp => ⟨hp.1, hp.2.congr hk hpub (hl ▸ id)⟩
  | @die side =>
    refine ⟨?_, rfl⟩
    cases side with
    | producer => exact hsil.imp_right fun hp => ⟨rfl, hp.2.congr rfl rfl id⟩
    | consumer => exact .inl rfl

/-! ## Recoveries -/

/-- A process that is in `request_close` refuses new calls. -/
def Closes (s : Ipc) : Prop := ∀ side, s.closing side ≠ .idle → s.locallyClosed side = true

theorem Closes.step (h : Closes s) (hs : s.step opts a = some s') : Closes s' := by
  cases stepped_of_step hs with
  | callSend | cancelled | callReceive => exact h
  | @callClose side ha =>
    intro side' hc
    by_cases heq : side' = side
    · simp [heq]
    · simp only [Function.update_of_ne heq] at hc ⊢
      exact h side' hc
  | sender ha hs =>
    obtain ⟨-, -, hc, hl, -⟩ := stepSend_frame hs
    rwa [Closes, hc, hl]
  | receiver ha hs =>
    obtain ⟨-, hc, hl, -⟩ := stepReceive_frame hs
    rwa [Closes, hc, hl]
  | @closer side hint _ ha hs =>
    obtain ⟨-, -, -, -, -, hl, -, ⟨pc, hne, hc⟩, -⟩ := stepClose_frame hs
    intro side' hc'
    rw [hl]
    by_cases heq : side' = side
    · exact heq ▸ h side hne
    · rw [hc, Function.update_of_ne heq] at hc'
      exact h side' hc'
  | @die side =>
    intro side' hc
    by_cases heq : side' = side
    · simp [Ipc.die, heq] at hc
    · simp only [Ipc.die, Function.update_of_ne heq] at hc
      exact h side' hc

theorem silentAt_of_cannotDeliver (h : Inv opts s) (hcl : s.locallyClosed .consumer = true)
    (hm : s.mutex = .abandoned) (hcd : CannotDeliver s) : SilentAt s s.receive := by
  have hok : ReceiveOk opts s s.receive := h.place .receiver
  have hempty := h.ring.isEmpty_iff
  unfold CannotDeliver at hcd
  cases hpc : s.receive with
  | idle => exact .inr hcl
  | decode framed => simp only [hpc] at hcd
  | lock | wait =>
    simp only [hpc] at hcd
    exact hempty.1 hcd
  | unlock o => cases o <;> simp_all [ReceiveOk]
  | _ => simp_all [ReceiveOk]

/-- **A recovery makes the transport silent.** -/
theorem silent_of_recovery (h : Inv opts s) (hc : Closes s) (hok : RecoveryOk s a)
    (hs : s.step opts a = some s') : s'.recoveries = s.recoveries ∨ Silent s' := by
  cases stepped_of_step hs with
  | callSend | cancelled | callReceive | callClose | die => exact .inl rfl
  | sender ha hs =>
    obtain ⟨halive, -, -, -, hrec⟩ := stepSend_frame hs
    refine hrec.imp_right fun hm => .inl ?_
    rw [halive]
    exact h.other_dead ha hm nofun
  | receiver ha hs =>
    obtain ⟨halive, -, -, hrec⟩ := stepReceive_frame hs
    refine hrec.imp_right fun ⟨hm, hpc⟩ => .inr ⟨?_, hpc ▸ trivial⟩
    rw [halive]
    exact h.other_dead ha hm nofun
  | @closer side hint _ ha hs =>
    obtain ⟨halive, -, hr, hk, hp, hl, -, ⟨pc, hne, -⟩, hrec⟩ := stepClose_frame hs
    refine hrec.imp_right fun ⟨hlock, hm⟩ => ?_
    rw [Silent, halive, hr]
    cases side with
    | producer => exact .inl (h.other_dead ha hm nofun)
    | consumer =>
      -- the one recovery that leaves the queue as it is
      refine .inr ⟨h.other_dead ha hm nofun, ?_⟩
      have hsil := silentAt_of_cannotDeliver h (hc .consumer hne) hm (hok hlock hm)
      exact hsil.congr hk hp (hl ▸ id)

/-! ## Runs -/

/-- What is known of every state of a run. -/
structure Safe (opts : Options) (s : Ipc) : Prop where
  inv : Inv opts s
  closes : Closes s
  silent : 0 < s.recoveries → Silent s

theorem safe_initial : Safe opts Ipc.initial :=
  ⟨inv_initial, fun _ h => absurd rfl h, fun h => absurd h (lt_irrefl 0)⟩

/-- The steps that keep the promises of the transport. -/
def StepOk (opts : Options) (s : Ipc) (a : Action) : Prop := CountersOk opts s a ∧ RecoveryOk s a

theorem Safe.step (h : Safe opts s) (hok : StepOk opts s a) (hs : s.step opts a = some s') :
    Safe opts s' := by
  refine ⟨h.inv.step hok.1 hs, h.closes.step hs, fun hr => ?_⟩
  rcases silent_of_recovery h.inv h.closes hok.2 hs with heq | hsil
  · exact ((h.silent (heq ▸ hr)).step h.inv hs).1
  · exact hsil

/-- The next state of a run, if the action is possible. -/
def next (opts : Options) (o : Option Ipc) (a : Action) : Option Ipc := o.bind (·.step opts a)

/-- Every possible action of a run is such a step. -/
def RunOk (opts : Options) (s : Ipc) : List Action → Prop :=
  Runs.Along (next opts) (fun o a => ∀ s ∈ o, StepOk opts s a) (some s)

variable {as : List Action}

theorem exec_eq_foldl (s : Ipc) (as : List Action) :
    exec opts s as = as.foldl (next opts) (some s) := by
  have hnone : ∀ as : List Action, as.foldl (next opts) none = none := fun as =>
    foldl_fixed' (fun _ => rfl) as
  induction as generalizing s with
  | nil => rfl
  | cons a as ih =>
    rw [exec, foldl_cons, show next opts (some s) a = s.step opts a from rfl]
    cases s.step opts a with
    | none => exact (hnone as).symm
    | some s₁ => exact ih s₁

theorem exec_append (s : Ipc) (as bs : List Action) :
    exec opts s (as ++ bs) = (exec opts s as).bind fun s' => exec opts s' bs := by
  induction as generalizing s with
  | nil => rfl
  | cons a as ih =>
    simp only [cons_append, exec, ih, Option.bind_assoc]

/-- What every legal step keeps, a legal run keeps. -/
theorem exec_induction {I : Ipc → Prop} {L : Ipc → Action → Prop}
    (hstep : ∀ s a s', I s → L s a → s.step opts a = some s' → I s') (h : I s)
    (hok : Runs.Along (next opts) (fun o a => ∀ s ∈ o, L s a) (some s) as)
    (hs : exec opts s as = some s') : I s' := by
  rw [exec_eq_foldl] at hs
  refine Runs.foldl_along (I := fun o => ∀ t ∈ o, I t) (fun o a ho hl t ht => ?_) (fun t ht => ?_)
    hok s' hs
  · obtain ⟨s₁, hs₁, hstep₁⟩ := Option.bind_eq_some_iff.1 ht
    exact hstep s₁ a t (ho s₁ hs₁) (hl s₁ hs₁) hstep₁
  · exact Option.some.inj ht ▸ h

theorem Safe.exec (h : Safe opts s) (hok : RunOk opts s as) (hs : exec opts s as = some s') :
    Safe opts s' :=
  exec_induction (fun _ _ _ => Safe.step) h hok hs

theorem Silent.exec (h : Safe opts s) (hsil : Silent s) (hok : RunOk opts s as)
    (hs : exec opts s as = some s') : s'.delivered = s.delivered := by
  refine (exec_induction (I := fun t => Safe opts t ∧ Silent t ∧ t.delivered = s.delivered)
    (fun t a t' ht hok hs => ?_) ⟨h, hsil, rfl⟩ hok hs).2.2
  obtain ⟨hsil', hd⟩ := ht.2.1.step ht.1.inv hs
  exact ⟨ht.1.step hok hs, hsil', hd.trans ht.2.2⟩

/-! ## Draining after a close -/

/-- The consumer may call `receive_result`, and nobody is in the way. -/
structure Ready (s : Ipc) : Prop where
  mutex : s.mutex = .free
  alive : s.alive .consumer = true
  notClosed : s.locallyClosed .consumer = false
  receive : s.receive = .idle

/-- A receive by itself that takes `n` steps. -/
def receiving (hint : Hint) (n : ℕ) : List Action :=
  .callReceive :: List.replicate n (.run .receiver hint)

theorem receive_next (h : Inv opts s) (hr : Ready s) (hlt : s.taken < s.published.length)
    (hint : Hint) :
    exec opts s (receiving hint 6) = some { s with
      shared := s.shared.advance
      taken := s.taken + 1
      results := s.results ++ [some (.ofMessage s.published[s.taken])] } := by
  obtain ⟨e, framed, he, hf, hload⟩ := h.ring.load hlt
  have hne : s.shared.isEmpty = false := by
    rw [Bool.eq_false_iff, ne_eq, h.ring.isEmpty_iff]
    omega
  rw [getElem?_eq_getElem hlt, Option.some.injEq] at he
  simp [receiving, exec, step, hr.receive, hr.alive, hr.notClosed, Thread.side,
    stepReceive, acquire, hr.mutex, hne, hload, release, finish, decode_of_encode hf, he]

theorem receive_endOfStream (h : Inv opts s) (hr : Ready s) (hc : s.shared.closed = true)
    (hend : s.taken = s.published.length) (hint : Hint) :
    exec opts s (receiving hint 3) = some { s with
      results := s.results ++ [some .endOfStream] } := by
  have he : s.shared.isEmpty = true := h.ring.isEmpty_iff.2 hend
  simp [receiving, exec, step, hr.receive, hr.alive, hr.notClosed, Thread.side,
    stepReceive, acquire, hr.mutex, he, hc, release, finish]

theorem Inv.exec (h : Inv opts s) (hw : ∀ a ∈ as, ∀ s, CountersOk opts s a)
    (hs : exec opts s as = some s') : Inv opts s' :=
  exec_induction (fun _ _ _ h hw hs => h.step hw hs) h
    (Runs.along_of_forall fun a ha _ s _ => hw a ha s) hs

theorem countersOk_receiving {n : ℕ} (ha : a ∈ receiving hint n) (s : Ipc) :
    CountersOk opts s a := by
  rcases mem_cons.1 ha with rfl | ha
  · trivial
  · obtain ⟨-, rfl⟩ := mem_replicate.1 ha
    trivial

/-- The receives that empty a closed queue of `n` messages. -/
def drain (hint : Hint) (n : ℕ) : List Action :=
  (List.replicate n (receiving hint 6)).flatten ++ receiving hint 3

/-- **After a close the receives deliver what is queued, and then the end.** -/
theorem exec_drain (h : Inv opts s) (hr : Ready s) (hc : s.shared.closed = true) (hint : Hint) :
    ∃ s', exec opts s (drain hint (s.published.length - s.taken)) = some s' ∧
      s'.published = s.published ∧
      s'.results = s.results ++
        (s.published.drop s.taken).map (some ∘ .ofMessage) ++ [some .endOfStream] := by
  induction hn : s.published.length - s.taken generalizing s with
  | zero =>
    have hend : s.taken = s.published.length := by
      have := h.ring.taken_le
      omega
    refine ⟨_, receive_endOfStream h hr hc hend hint, rfl, ?_⟩
    rw [drop_of_length_le hend.ge]
    simp
  | succ n ih =>
    have hlt : s.taken < s.published.length := by omega
    have hnext := receive_next h hr hlt hint
    obtain ⟨s', hs', hp, hres⟩ :=
      ih (h.exec (fun a ha => countersOk_receiving ha) hnext) ⟨hr.1, hr.2, hr.3, hr.4⟩ hc
      (show s.published.length - (s.taken + 1) = n by omega)
    refine ⟨s', ?_, hp, ?_⟩
    · rw [drain, replicate_succ, flatten_cons, append_assoc, exec_append, hnext]
      exact hs'
    · simp only [hres, drop_eq_getElem_cons hlt, map_cons, append_assoc,
        nil_append, cons_append, Function.comp_apply]

/-! ## Safety -/

theorem delivered_drain (h : Inv opts s) (h0 : s.recoveries = 0) (hr : Ready s)
    (hc : s.shared.closed = true) (hint : Hint) :
    ∃ s', exec opts s (drain hint (s.published.length - s.taken)) = some s' ∧
      s'.delivered = s.published ∧ s'.results.getLast? = some (some .endOfStream) := by
  obtain ⟨s', hs', hp, hres⟩ := exec_drain h hr hc hint
  have hk : s.taken = s.delivered.length := by
    have := h.stream.clean h0 hr.alive
    rwa [hr.receive] at this
  refine ⟨s', hs', ?_, by simp [hres]⟩
  obtain ⟨queue, hq⟩ := h.stream.order
  have hdrop : s.published.drop s.taken = queue := by rw [hk, ← hq, drop_left]
  have hmsgs : ∀ es : List Envelope, (es.map (some ∘ ReceiveResult.ofMessage)).flatMap
      (fun r => r.elim [] ReceiveResult.delivered) = es := by
    intro es
    induction es with
    | nil => rfl
    | cons e es ih => simpa [ReceiveResult.delivered, ReceiveResult.ofMessage] using ih
  rw [delivered, hres, hdrop, flatMap_append, flatMap_append, hmsgs, ← hq]
  exact append_nil _

/-- **Safety of the shared-memory transport.**  At every point of a run, what has
    been received is the beginning of what was published and the ring is not
    overfull; `request_close` leaves the queue as it is, and the receives after
    a close deliver all of it before the end of the stream; after a recovery
    nothing more is delivered. -/
theorem shared_memory_safety (opts : Options) (as bs : List Action) (s s' : Ipc)
    (hok : RunOk opts Ipc.initial (as ++ bs)) (hs : exec opts Ipc.initial as = some s)
    (hs' : exec opts s bs = some s') :
    s.delivered <+: s.published ∧
    (s.shared.head - s.shared.tail).toNat ≤ opts.capacity ∧
    (∀ side t, s.stepClose side = some t → t.shared.head = s.shared.head ∧
      t.shared.tail = s.shared.tail ∧ t.shared.slots = s.shared.slots) ∧
    (s.recoveries = 0 → some .endOfStream ∈ s.results → s.delivered = s.published) ∧
    (s.recoveries = 0 → Ready s → s.shared.closed = true → ∀ hint, ∃ t,
      exec opts s (drain hint (s.published.length - s.taken)) = some t ∧
      t.delivered = s.published ∧ t.results.getLast? = some (some .endOfStream)) ∧
    (0 < s.recoveries → s'.delivered = s.delivered) := by
  obtain ⟨hok, hok'⟩ := Runs.along_append.1 hok
  rw [← exec_eq_foldl, hs] at hok'
  have h := safe_initial.exec hok hs
  refine ⟨h.inv.stream.order, ?_, fun side t ht => ?_, fun h0 hend => (h.inv.stream.ended h0 hend).2,
    fun h0 hr hc hint => delivered_drain h.inv h0 hr hc hint,
    fun hrec => (h.silent hrec).exec h hok' hs'⟩
  · have := h.inv.ring.room
    rw [h.inv.ring.toNat_sub]
    omega
  · exact (stepClose_frame ht).2.2.2.2.2.2.1

section sample

def sampleOptions : Options where
  capacity := 2
  maxMessageBytes := 1024
  reject := false
  capacity_pos := by decide
  capacity_le := by decide
  le_max := by decide
  max_le := by decide

def sampleHint : Hint := ⟨true, false, false⟩

/-- The producer dies after it has advanced the head and before it unlocks. -/
def deathInSend : List Action :=
  .callSend sampleEnvelope :: List.replicate 114 (.run .sender sampleHint) ++ [.die .producer]

/-- The next receive recovers the mutex, and drops the message. -/
def recoveredByReceive : List Action := deathInSend ++ receiving sampleHint 1

theorem stepOk_recoveredByReceive :
    ∀ a ∈ recoveredByReceive ++ replicate 5 (.run .receiver sampleHint),
      ∀ s, StepOk sampleOptions s a := by
  have hcap : ∀ s, PublishOk sampleOptions s := fun s => .inr (by decide)
  intro a ha s
  simp only [recoveredByReceive, deathInSend, receiving, mem_append, mem_cons,
    mem_replicate, not_mem_nil, or_false] at ha
  rcases ha with ((((rfl | ⟨-, rfl⟩) | rfl) | rfl | ⟨-, rfl⟩)) | ⟨-, rfl⟩
  all_goals first
    | exact ⟨trivial, trivial⟩
    | exact ⟨fun _ _ => hcap s, trivial⟩

def recoveredState : Ipc :=
  (exec sampleOptions Ipc.initial recoveredByReceive).get (by decide +kernel)

/-- The receive fails, and the message published before the death stays
    undelivered. -/
theorem shared_memory_safety_sample :
    recoveredState.recoveries = 1 ∧ recoveredState.published = [sampleEnvelope] ∧
    ∀ s', exec sampleOptions recoveredState (List.replicate 5 (.run .receiver sampleHint)) = some s' →
      s'.delivered = recoveredState.delivered := by
  have hrec : recoveredState.recoveries = 1 := by decide +kernel
  refine ⟨hrec, by decide +kernel, fun s' hs' => ?_⟩
  have h := shared_memory_safety sampleOptions recoveredByReceive
    (replicate 5 (.run .receiver sampleHint)) recoveredState s'
    (Runs.along_of_forall fun a ha _ s _ => stepOk_recoveredByReceive a ha s)
    (Option.some_get _).symm hs'
  exact h.2.2.2.2.2 (hrec ▸ Nat.one_pos)

/-- A receive is about to lock when `request_close` of the same process recovers
    the mutex. -/
def recoveredByClose : List Action :=
  deathInSend ++ [.callReceive, .callClose .consumer] ++
    List.replicate 5 (.run (.closer .consumer) sampleHint)

/-- **A message is delivered after the recovery**, since `request_close` does not
    drop the queue as `lock_header` and `wait_condition` do. -/
theorem close_recovery_delivers :
    ((exec sampleOptions Ipc.initial recoveredByClose).bind fun s =>
      (exec sampleOptions s (List.replicate 6 (.run .receiver sampleHint))).map fun s' =>
        (s.recoveries, s.delivered, s'.delivered)) = some (1, [], [sampleEnvelope]) := by
  decide +kernel

end sample

end GraphX.SharedMemory
