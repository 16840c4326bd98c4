/-
  The mutex of the shared-memory transport is given back.

  `stepsLeft` bounds the steps that a thread still makes in its critical section.  Main
  result: `mutex_released`, at every point of every run of the two processes, whoever holds
  the mutex is alive, and gives it back by running on.
-/
import GraphX.SharedMemorySafety

namespace GraphX.SharedMemory

open Ipc List

/-! ## Critical sections -/

@[grind =] def Recovery.stepsLeft : Recovery → ℕ
  | close => 5
  | drop => 4
  | count => 3
  | consistent => 2

/-- The steps of `send` up to the one that releases the mutex, at most; none outside the
    critical section. -/
@[grind =] def SendPc.stepsLeft : SendPc → ℕ
  | idle | lock _ | wait _ => 0
  | recover stage => stage.stepsLeft
  | check m | woken m => m.framed.length + 6
  | full m => m.framed.length + 5
  | storeLength m => m.framed.length + 4
  | storeData m k => m.framed.length - k + 3
  | closeDead | publish _ => 2
  | unlock => 1

@[grind =] def ReceivePc.stepsLeft : ReceivePc → ℕ
  | idle | lock | wait | decode _ => 0
  | recover stage => stage.stepsLeft
  | empty => 4
  | load => 3
  | closeDead | closeInvalid | advance _ => 2
  | unlock _ => 1

@[grind =] def ClosePc.stepsLeft : ClosePc → ℕ
  | idle | lock => 0
  | consistent => 4
  | storeClosed => 3
  | storePid => 2
  | unlock => 1

@[grind =] def Ipc.stepsLeft (s : Ipc) : Thread → ℕ
  | .sender => s.send.stepsLeft
  | .receiver => s.receive.stepsLeft
  | .closer side => (s.closing side).stepsLeft

/-- What a step of a thread does with the mutex. -/
inductive Turn (t : Thread) (s s' : Ipc) : Prop
  | outside (hmutex : s'.mutex = s.mutex) (h : s.stepsLeft t = 0)
  | enters (hmutex : ∀ t', s.mutex ≠ .held t') (hmutex' : s'.mutex = .held t)
      (h' : 0 < s'.stepsLeft t)
  | inside (hmutex : s'.mutex = s.mutex) (hlt : s'.stepsLeft t < s.stepsLeft t)
      (h' : 0 < s'.stepsLeft t)
  | leaves (hmutex' : s'.mutex = .free)

variable {opts : Options} {s s' : Ipc} {t : Thread} {hint : Hint}

theorem turn_stepSend (hs : s.stepSend opts hint = some s') : Turn .sender s s' := by
  unfold Ipc.stepSend at hs
  cases hpc : s.send with
  | recover stage =>
    cases stage <;> grind [recover, Turn]
  | _ => grind [acquire, release, Turn]

theorem turn_stepReceive (hs : s.stepReceive opts hint = some s') : Turn .receiver s s' := by
  unfold Ipc.stepReceive at hs
  cases hpc : s.receive with
  | recover stage =>
    cases stage <;> grind [recover, Turn]
  | _ => grind [acquire, release, finish, Turn]

theorem turn_stepClose {side : Side} (hs : s.stepClose side = some s') :
    Turn (.closer side) s s' := by
  unfold Ipc.stepClose at hs
  cases hpc : s.closing side with
  | idle => simp [hpc] at hs
  | lock =>
    simp only [hpc, Option.map_eq_some_iff, Prod.exists] at hs
    obtain ⟨died, s₁, hacq, rfl⟩ := hs
    grind [acquire, Turn, Function.update_self]
  | _ =>
    simp only [hpc, Option.some.injEq] at hs
    subst hs
    grind [release, Turn, Function.update_self]

theorem turn_run (hs : s.step opts (.run t hint) = some s') : Turn t s s' := by
  cases stepped_of_step hs with
  | sender _ hs => exact turn_stepSend hs
  | receiver _ hs => exact turn_stepReceive hs
  | closer _ hs => exact turn_stepClose hs

theorem recover_threads (s : Ipc) (stage : Recovery) :
    (s.recover stage).1.send = s.send ∧ (s.recover stage).1.receive = s.receive := by
  cases stage <;> exact ⟨rfl, rfl⟩

/-- A step of a thread is no step of the others. -/
theorem frame_run (hs : s.step opts (.run t hint) = some s') :
    s'.alive = s.alive ∧ ∀ t' ≠ t, s'.stepsLeft t' = s.stepsLeft t' := by
  cases stepped_of_step hs with
  | sender _ hs =>
    have hreceive : s'.receive = s.receive := by
      unfold Ipc.stepSend at hs
      split at hs <;> grind [acquire, recover_threads, release]
    refine ⟨(stepSend_frame hs).1, fun t' hne => ?_⟩
    cases t' <;> simp_all [Ipc.stepsLeft, stepSend_frame hs]
  | receiver _ hs =>
    have hsend : s'.send = s.send := by
      unfold Ipc.stepReceive at hs
      split at hs <;> grind [acquire, recover_threads, release, finish]
    refine ⟨(stepReceive_frame hs).1, fun t' hne => ?_⟩
    cases t' <;> simp_all [Ipc.stepsLeft, stepReceive_frame hs]
  | @closer side _ _ _ hs =>
    have hsend : s'.send = s.send := by
      unfold Ipc.stepClose at hs
      split at hs <;> grind [acquire, release]
    obtain ⟨halive, -, hreceive, -, -, -, -, ⟨pc, -, hclosing⟩, -⟩ := stepClose_frame hs
    refine ⟨halive, fun t' hne => ?_⟩
    cases t' with
    | closer side' =>
      have hside : side' ≠ side := fun heq => hne (heq ▸ rfl)
      simp only [Ipc.stepsLeft, hclosing, Function.update_of_ne hside]
    | _ => simp [Ipc.stepsLeft, hsend, hreceive]

/-- A thread in its critical section goes on. -/
theorem step_inside (ha : s.alive t.side = true) (h : 0 < s.stepsLeft t) (hint : Hint) :
    ∃ s', s.step opts (.run t hint) = some s' := by
  simp only [step, ha, Bool.not_true, Bool.false_eq_true, if_false, ← Option.isSome_iff_exists]
  cases t with
  | sender => cases hpc : s.send <;> grind [stepSend]
  | receiver => cases hpc : s.receive <;> grind [stepReceive]
  | closer side => cases hpc : s.closing side <;> simp_all [stepClose, Ipc.stepsLeft, ClosePc.stepsLeft]

/-! ## Runs -/

/-- The holder of the mutex is alive and in its critical section. -/
def Holding (s : Ipc) : Prop := ∀ t, s.mutex = .held t → s.alive t.side = true ∧ 0 < s.stepsLeft t

theorem Holding.run {t' : Thread} (h : Holding s) (hs : s.step opts (.run t hint) = some s')
    (ha : s.alive t.side = true) (ht' : s'.mutex = .held t') :
    s'.alive t'.side = true ∧ 0 < s'.stepsLeft t' := by
  obtain ⟨halive, hothers⟩ := frame_run hs
  rw [halive]
  by_cases hself : t' = t
  · subst hself
    refine ⟨ha, ?_⟩
    cases turn_run hs with
    | outside hmutex h0 => exact absurd (h t' (hmutex ▸ ht')).2 (by omega)
    | enters _ _ hpos | inside _ _ hpos => exact hpos
    | leaves hfree => simp [hfree] at ht'
  · rw [hothers t' hself]
    exact h t' (by cases turn_run hs <;> grind)

theorem Holding.step {a : Action} (h : Holding s) (hc : Closes s) (hs : s.step opts a = some s') :
    Holding s' := by
  intro t ht
  cases stepped_of_step hs with
  | callSend hidle | cancelled hidle | callReceive hidle =>
    have hold := h t ht
    cases t <;> simp_all [Ipc.stepsLeft, SendPc.stepsLeft, ReceivePc.stepsLeft, finish]
  | @callClose side _ =>
    have hopen : s.locallyClosed side = false := by grind [Ipc.step]
    obtain ⟨ha, hpos⟩ := h t ht
    refine ⟨ha, ?_⟩
    cases t with
    | closer side' =>
      -- a close that is going on has closed the process
      have := hc side'
      grind
    | _ => exact hpos
  | @die side =>
    have hold : s.mutex = .held t ∧ t.side ≠ side := by grind [Ipc.die]
    obtain ⟨ha, hpos⟩ := h t hold.1
    refine ⟨by simpa [Ipc.die, hold.2] using ha, ?_⟩
    cases t <;> cases side <;> simp_all [Ipc.die, Ipc.stepsLeft, Thread.side]
  | sender ha _ | receiver ha _ | closer ha _ => exact h.run hs ha ht

theorem Holding.exec {as : List Action} (h : Holding s) (hc : Closes s)
    (hs : exec opts s as = some s') : Holding s' :=
  (exec_induction (I := fun s => Holding s ∧ Closes s) (L := fun _ _ => True)
    (fun _ _ _ h _ hs => ⟨h.1.step h.2 hs, h.2.step hs⟩) ⟨h, hc⟩
    (Runs.along_of_forall fun _ _ _ _ _ => trivial) hs).1

/-- **A critical section ends.** -/
theorem exec_running (ha : s.alive t.side = true) (hm : s.mutex = .held t) (h : 0 < s.stepsLeft t)
    (hints : ℕ → Hint) : ∃ n ≤ s.stepsLeft t, ∃ s',
      exec opts s ((range n).map fun i => .run t (hints i)) = some s' ∧ s'.mutex = .free := by
  induction hn : s.stepsLeft t using Nat.strong_induction_on generalizing s hints with
  | _ n ih =>
    obtain ⟨s₁, hs₁⟩ : ∃ s₁, s.step opts (.run t (hints 0)) = some s₁ := step_inside ha h _
    cases turn_run hs₁ with
    | outside _ h0 => omega
    | enters hfree => exact absurd hm (hfree t)
    | inside hmutex hlt hpos =>
      obtain ⟨n, hle, s', hs', hfree⟩ := ih _ (hn ▸ hlt) ((frame_run hs₁).1 ▸ ha)
        (hmutex.trans hm) hpos (fun i => hints (i + 1)) rfl
      refine ⟨n + 1, by omega, s', ?_, hfree⟩
      rw [range_succ_eq_map, map_cons, map_map, exec, hs₁]
      exact hs'
    | leaves hfree => exact ⟨1, by omega, s₁, by simp [exec, hs₁], hfree⟩

/-- **The mutex is given back.**  At every point of every run of the two processes, the thread
    that holds the mutex is alive, and running on it releases the mutex, whatever it finds out
    about time and the other process. -/
theorem mutex_released (as : List Action) (hs : exec opts Ipc.initial as = some s)
    (hm : s.mutex = .held t) :
    s.alive t.side = true ∧ ∀ hints : ℕ → Hint, ∃ n ≤ s.stepsLeft t, ∃ s',
      exec opts s ((range n).map fun i => .run t (hints i)) = some s' ∧ s'.mutex = .free := by
  have hinitial : Holding Ipc.initial := fun t ht => nomatch ht
  obtain ⟨ha, hpos⟩ := hinitial.exec (fun _ h => absurd rfl h) hs t hm
  exact ⟨ha, exec_running ha hm hpos⟩

/-- The producer has died while the consumer, in its own close, holds the mutex. -/
theorem mutex_released_close : ∃ s, exec sampleOptions Ipc.initial
      [.callClose .consumer, .run (.closer .consumer) sampleHint, .die .producer] = some s ∧
    s.mutex = .held (.closer .consumer) ∧ s.alive .consumer = true :=
  ⟨_, rfl, rfl, (@mutex_released sampleOptions _ _
    [.callClose .consumer, .run (.closer .consumer) sampleHint, .die .producer] rfl rfl).1⟩

end GraphX.SharedMemory
