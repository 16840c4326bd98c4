/-
  Calls on a world.

  A call of an imperative program either returns a value, throws, or never
  returns; the changes it made to the world before it threw or blocked stay.
  `Act ω ε α` is the type of such calls, with `throw`, `catch` and the state
  operations.
-/
import Mathlib.Tactic

namespace Imperative

variable {ω ε α β : Type}

/-- How a call ends, and the world it leaves. -/
inductive Outcome (ω ε α : Type) where
  | returned (value : α) (world : ω)
  | threw (error : ε) (world : ω)
  | blocked (world : ω)

/-- The value returned or thrown, and the world; `none` when the call does not
    return. -/
def Outcome.result : Outcome ω ε α → Option (Except ε α × ω)
  | returned a w => some (.ok a, w)
  | threw e w => some (.error e, w)
  | blocked _ => none

/-- The world a call leaves. -/
def Outcome.world : Outcome ω ε α → ω
  | returned _ w | threw _ w | blocked w => w

/-- A call on a world `ω` that may throw an `ε`. -/
def Act (ω ε α : Type) := ω → Outcome ω ε α

namespace Act

def run (x : Act ω ε α) (w : ω) : Outcome ω ε α := x w

instance : Monad (Act ω ε) where
  pure a := fun w => .returned a w
  bind x f := fun w =>
    match x w with
    | .returned a w' => f a w'
    | .threw e w' => .threw e w'
    | .blocked w' => .blocked w'

instance : MonadExceptOf ε (Act ω ε) where
  throw e := fun w => .threw e w
  tryCatch x handler := fun w =>
    match x w with
    | .returned a w' => .returned a w'
    | .threw e w' => handler e w'
    | .blocked w' => .blocked w'

instance : MonadStateOf ω (Act ω ε) where
  get := fun w => .returned w w
  set w := fun _ => .returned () w
  modifyGet f := fun w => .returned (f w).1 (f w).2

/-- The call does not return. -/
def block : Act ω ε α := fun w => .blocked w

/-- A call on the part `part` of a world. -/
def zoom {ω' : Type} (part : ω → ω') (update : ω' → ω → ω) (x : Act ω' ε α) : Act ω ε α := fun w =>
  match x.run (part w) with
  | .returned a p => .returned a (update p w)
  | .threw e p => .threw e (update p w)
  | .blocked p => .blocked (update p w)

/-- A call made under a condition. -/
def onlyIf (b : Bool) (x : Act ω ε Unit) : Act ω ε Unit := if b then x else pure ()

/-! ## Executing a call -/

section run
variable {x : Act ω ε α} {f : α → Act ω ε β} {w w' : ω} {a : α} {e : ε}

@[simp] theorem run_pure : (pure a : Act ω ε α).run w = .returned a w := rfl

@[simp] theorem run_throw : (throw e : Act ω ε α).run w = .threw e w := rfl

theorem run_bind_returned (h : x.run w = .returned a w') : (x >>= f).run w = (f a).run w' := by
  simp only [run, bind] at *
  rw [h]

theorem run_bind_threw (h : x.run w = .threw e w') : (x >>= f).run w = .threw e w' := by
  simp only [run, bind] at *
  rw [h]

theorem run_bind_blocked (h : x.run w = .blocked w') : (x >>= f).run w = .blocked w' := by
  simp only [run, bind] at *
  rw [h]

theorem run_bind_eq_returned {b : β} : (x >>= f).run w = .returned b w' ↔
    ∃ a w₁, x.run w = .returned a w₁ ∧ (f a).run w₁ = .returned b w' := by
  simp only [run, bind]
  rcases x w with ⟨a, w₁⟩ | ⟨e, w₁⟩ | w₁ <;> simp

theorem bind_bind {γ : Type} (x : Act ω ε α) (f : α → Act ω ε β) (g : β → Act ω ε γ) :
    (x >>= f) >>= g = x >>= fun a => f a >>= g := by
  funext w
  simp only [bind]
  cases x w <;> rfl

@[simp] theorem run_get_bind {f : ω → Act ω ε β} : (get >>= f).run w = (f w).run w := rfl

@[simp] theorem run_pure_bind {f : α → Act ω ε β} : (pure a >>= f).run w = (f a).run w := rfl

@[simp] theorem onlyIf_true (x : Act ω ε Unit) : onlyIf true x = x := rfl

@[simp] theorem onlyIf_false (x : Act ω ε Unit) : onlyIf false x = pure () := rfl

theorem run_catch_returned (h : x.run w = .returned a w') :
    (tryCatch x handler).run w = .returned a w' := by
  simp only [run, tryCatch, tryCatchThe, MonadExceptOf.tryCatch] at *
  rw [h]

theorem run_catch_threw (h : x.run w = .threw e w') :
    (tryCatch x handler).run w = (handler e).run w' := by
  simp only [run, tryCatch, tryCatchThe, MonadExceptOf.tryCatch] at *
  rw [h]

theorem run_catch_blocked (h : x.run w = .blocked w') :
    (tryCatch x handler).run w = .blocked w' := by
  simp only [run, tryCatch, tryCatchThe, MonadExceptOf.tryCatch] at *
  rw [h]

section zoom
variable {ω' : Type} (part : ω → ω') (update : ω' → ω → ω) (x : Act ω' ε α)

theorem result_zoom : ((x.zoom part update).run w).result =
    (x.run (part w)).result.map fun r => (r.1, update r.2 w) := by
  unfold run zoom run
  cases x (part w) <;> rfl

theorem world_zoom : ((x.zoom part update).run w).world = update (x.run (part w)).world w := by
  unfold run zoom run
  cases x (part w) <;> rfl

end zoom

end run

/-! ## What a call leaves alone -/

/-- The call returns or throws, and the part `part` of the world is as before. -/
def Keeps (part : ω → β) (x : Act ω ε α) : Prop :=
  ∀ w, ∃ r w', (x.run w).result = some (r, w') ∧ part w' = part w

namespace Keeps

variable {γ : Type} {part : ω → γ} {x : Act ω ε α}

theorem pure (a : α) : Keeps part (pure a : Act ω ε α) := fun w => ⟨.ok a, w, rfl, rfl⟩

theorem throw (e : ε) : Keeps part (throw e : Act ω ε α) := fun w => ⟨.error e, w, rfl, rfl⟩

theorem bind {f : α → Act ω ε β} (hx : Keeps part x) (hf : ∀ a, Keeps part (f a)) :
    Keeps part (x >>= f) := by
  intro w
  obtain ⟨r, w₁, hr, hp⟩ := hx w
  rcases hrun : x.run w with ⟨a, w₂⟩ | ⟨e, w₂⟩ | w₂
  · rw [hrun] at hr
    cases hr
    obtain ⟨r, w₃, hr, hp'⟩ := hf a w₁
    exact ⟨r, w₃, by rw [run_bind_returned hrun, hr], hp'.trans hp⟩
  · rw [hrun] at hr
    cases hr
    exact ⟨.error e, w₁, by rw [run_bind_threw hrun]; rfl, hp⟩
  · rw [hrun] at hr
    cases hr

theorem get_bind {f : ω → Act ω ε β} (hf : ∀ w, Keeps part (f w)) : Keeps part (get >>= f) :=
  fun w => hf w w

theorem onlyIf {b : Bool} {x : Act ω ε Unit} (h : Keeps part x) : Keeps part (onlyIf b x) := by
  cases b with
  | false => exact pure ()
  | true => exact h

theorem world (hx : Keeps part x) (w : ω) : part (x.run w).world = part w := by
  obtain ⟨r, w', hr, hp⟩ := hx w
  rcases hrun : x.run w with ⟨a, w₂⟩ | ⟨e, w₂⟩ | w₂ <;> rw [hrun] at hr <;> cases hr <;> exact hp

end Keeps

/-! ## Several calls -/

/-- The results of `n` calls of `x`, one after the other, each returned or
    thrown; `none` when one of them does not return. -/
def calls (x : Act ω ε α) : ℕ → ω → Option (List (Except ε α) × ω)
  | 0, w => some ([], w)
  | n + 1, w => do
    let (r, w') ← (x.run w).result
    let (rs, w'') ← calls x n w'
    pure (r :: rs, w'')

section calls
variable {x : Act ω ε α} {w w' w'' : ω} {r : Except ε α} {n m : ℕ} {rs rs' : List (Except ε α)}

theorem calls_succ (h : (x.run w).result = some (r, w')) (hn : x.calls n w' = some (rs, w'')) :
    x.calls (n + 1) w = some (r :: rs, w'') := by
  simp [calls, h, hn]

theorem calls_add (hn : x.calls n w = some (rs, w')) (hm : x.calls m w' = some (rs', w'')) :
    x.calls (n + m) w = some (rs ++ rs', w'') := by
  induction n generalizing w rs with
  | zero =>
    obtain ⟨rfl, rfl⟩ := hn
    simpa using hm
  | succ n ih =>
    simp only [calls, Option.bind_eq_bind, Option.bind_eq_some_iff, Prod.exists] at hn
    obtain ⟨r, w₁, h₁, rs₁, w₂, h₂, rfl, rfl⟩ := hn
    rw [Nat.succ_add]
    exact calls_succ h₁ (ih h₂)

end calls

end Act

end Imperative
