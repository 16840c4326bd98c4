/-
  Postconditions of calls.

  `x.wp w Q` says that the call `x`, made in the world `w`, ends as `Q` requires:
  `Q` has a condition for the value and world it returns, one for what it throws
  and one for the world in which it stops forever.
-/
import GraphX.Lib.Action

namespace Imperative

variable {ω ε α β : Type}

/-- A condition for each way a call can end. -/
structure Post (ω ε α : Type) where
  returned : α → ω → Prop
  threw : ε → ω → Prop
  blocked : ω → Prop

/-- The same condition however the call ends. -/
def Post.always (I : ω → Prop) : Post ω ε α := ⟨fun _ => I, fun _ => I, I⟩

def Outcome.Meets (Q : Post ω ε α) : Outcome ω ε α → Prop
  | returned a w => Q.returned a w
  | threw e w => Q.threw e w
  | blocked w => Q.blocked w

namespace Act

def wp (x : Act ω ε α) (w : ω) (Q : Post ω ε α) : Prop := (x.run w).Meets Q

section rules
variable {x : Act ω ε α} {f : α → Act ω ε β} {w w' : ω} {Q Q' : Post ω ε α} {R : Post ω ε β}

theorem wp_bind : (x >>= f).wp w R ↔ x.wp w ⟨fun a w' => (f a).wp w' R, R.threw, R.blocked⟩ := by
  unfold wp
  cases hx : x.run w with
  | returned a w' => rw [run_bind_returned hx]; rfl
  | threw e w' => rw [run_bind_threw hx]; rfl
  | blocked w' => rw [run_bind_blocked hx]; rfl

@[simp] theorem wp_pure {a : α} : (pure a : Act ω ε α).wp w Q ↔ Q.returned a w := Iff.rfl

@[simp] theorem wp_pure_bind {a : α} : (pure a >>= f).wp w R ↔ (f a).wp w R := Iff.rfl

@[simp] theorem wp_get_bind {f : ω → Act ω ε β} : (get >>= f).wp w R ↔ (f w).wp w R := Iff.rfl

@[simp] theorem wp_modify_bind {g : ω → ω} {f : Unit → Act ω ε β} :
    (modify g >>= f).wp w R ↔ (f ()).wp (g w) R := Iff.rfl

theorem wp_zoom {ω' : Type} {part : ω → ω'} {update : ω' → ω → ω}
    {x : Act ω' ε α} :
    (x.zoom part update).wp w Q ↔ x.wp (part w)
      ⟨fun a p => Q.returned a (update p w), fun e p => Q.threw e (update p w),
        fun p => Q.blocked (update p w)⟩ := by
  simp only [wp, run, zoom]
  cases x (part w) <;> rfl

theorem wp_catch {handler : ε → Act ω ε α} : (tryCatch x handler).wp w Q ↔
    x.wp w ⟨Q.returned, fun e w' => (handler e).wp w' Q, Q.blocked⟩ := by
  unfold wp
  cases hx : x.run w with
  | returned a w' => rw [run_catch_returned hx]; rfl
  | threw e w' => rw [run_catch_threw hx]; rfl
  | blocked w' => rw [run_catch_blocked hx]; rfl

theorem wp_mono (hx : x.wp w Q) (hreturned : ∀ a w', Q.returned a w' → Q'.returned a w')
    (hthrew : ∀ e w', Q.threw e w' → Q'.threw e w')
    (hblocked : ∀ w', Q.blocked w' → Q'.blocked w') : x.wp w Q' := by
  unfold wp at hx ⊢
  generalize x.run w = o at hx ⊢
  cases o with
  | returned a w' => exact hreturned a w' hx
  | threw e w' => exact hthrew e w' hx
  | blocked w' => exact hblocked w' hx

/-- A call whose continuation keeps the conditions of throwing and stopping. -/
theorem wp_bind_of (hx : x.wp w Q) (hreturned : ∀ a w', Q.returned a w' → (f a).wp w' R)
    (hthrew : ∀ e w', Q.threw e w' → R.threw e w') (hblocked : ∀ w', Q.blocked w' → R.blocked w') :
    (x >>= f).wp w R :=
  wp_bind.2 (wp_mono hx hreturned hthrew hblocked)

theorem wp_always_bind {I : ω → Prop} (hx : x.wp w (.always I))
    (hf : ∀ a w', I w' → (f a).wp w' (.always I)) : (x >>= f).wp w (.always I) :=
  wp_bind_of hx hf (fun _ _ => id) fun _ => id

theorem wp_always_world {I : ω → Prop} (hx : x.wp w (.always I)) : I (x.run w).world := by
  unfold wp at hx
  generalize x.run w = o at hx ⊢
  cases o <;> exact hx

theorem wp_intro (hreturned : ∀ a w', Q.returned a w') (hthrew : ∀ e w', Q.threw e w')
    (hblocked : ∀ w', Q.blocked w') : x.wp w Q := by
  unfold wp
  cases x.run w with
  | returned a w' => exact hreturned a w'
  | threw e w' => exact hthrew e w'
  | blocked w' => exact hblocked w'

/-- A call that neither throws nor blocks returns. -/
theorem exists_returned {P : α → ω → Prop} (hx : x.wp w ⟨P, fun _ _ => False, fun _ => False⟩) :
    ∃ a w', x.run w = .returned a w' ∧ P a w' := by
  unfold wp at hx
  cases hrun : x.run w with
  | returned a w' =>
    rw [hrun] at hx
    exact ⟨a, w', rfl, hx⟩
  | threw e w' | blocked w' =>
    rw [hrun] at hx
    exact hx.elim

theorem exists_threw {P : ε → ω → Prop} (hx : x.wp w ⟨fun _ _ => False, P, fun _ => False⟩) :
    ∃ e w', x.run w = .threw e w' ∧ P e w' := by
  unfold wp at hx
  cases hrun : x.run w with
  | threw e w' =>
    rw [hrun] at hx
    exact ⟨e, w', rfl, hx⟩
  | returned a w' | blocked w' =>
    rw [hrun] at hx
    exact hx.elim

theorem of_returned {a : α} (hx : x.wp w Q) (hrun : x.run w = .returned a w') : Q.returned a w' := by
  unfold wp at hx
  rw [hrun] at hx
  exact hx

end rules

section loops
variable {f : α → Act ω ε PUnit} {E : ε → ω → Prop} {B : ω → Prop}

/-- A loop whose invariant speaks of the turns to come. -/
theorem wp_forM_rest {I : List α → ω → Prop} {l : List α} {w : ω} (h : I l w)
    (step : ∀ a rest w, (∃ before, l = before ++ a :: rest) → I (a :: rest) w →
      (f a).wp w ⟨fun _ => I rest, E, B⟩) :
    (l.forM f).wp w ⟨fun _ => I [], E, B⟩ := by
  induction l generalizing w with
  | nil => exact h
  | cons a rest ih =>
    refine wp_bind_of (step a rest w ⟨[], rfl⟩ h) (fun _ w' h' => ?_) (fun _ _ => id) fun _ => id
    refine ih h' fun b rest' w'' ⟨before, hb⟩ => step b rest' w'' ⟨a :: before, by rw [hb]; rfl⟩

theorem wp_always_forM {I : ω → Prop} {l : List α} {w : ω} (h : I w)
    (step : ∀ a ∈ l, ∀ w, I w → (f a).wp w (.always I)) : (l.forM f).wp w (.always I) :=
  wp_forM_rest (I := fun _ => I) h fun a _ w ⟨before, hl⟩ => step a (by simp [hl]) w

theorem wp_forM {I : ω → Prop} {l : List α} {w : ω} (h : I w)
    (step : ∀ a ∈ l, ∀ w, I w → (f a).wp w ⟨fun _ => I, E, B⟩) :
    (l.forM f).wp w ⟨fun _ => I, E, B⟩ :=
  wp_forM_rest (I := fun _ => I) h fun a _ w ⟨before, hl⟩ => step a (by simp [hl]) w

end loops

end Act

end Imperative
