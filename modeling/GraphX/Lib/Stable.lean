/-
  Reading a stamp before and after.

  A writer replaces several things one after the other, and marks with a stamp what it
  publishes.  A reader that finds the same stamp before and after its reads has read
  things that belong together, if the stamp is never used twice.
-/
import Mathlib.Logic.Relation
import Mathlib.Order.Nat

namespace Stable

open Relation

variable {σ α : Type}

/-- The steps of a writer, with the rank of a state and what readers see of it. -/
structure Stamped (Step : σ → σ → Prop) (Inv : σ → Prop) (rank : σ → ℕ) (view : σ → α)
    (Published : α → Prop) : Prop where
  inv : ∀ {a b}, Inv a → Step a b → Inv b
  mono : ∀ {a b}, Inv a → Step a b → rank a ≤ rank b
  keep : ∀ {a b}, Inv a → Step a b → Published (view a) → rank a = rank b → view b = view a

namespace Stamped

variable {Step : σ → σ → Prop} {Inv : σ → Prop} {rank : σ → ℕ} {view : σ → α}
  {Published : α → Prop} (h : Stamped Step Inv rank view Published)
include h

theorem inv_later {a b : σ} (ha : Inv a) (hab : ReflTransGen Step a b) : Inv b := by
  induction hab with
  | refl => exact ha
  | tail _ hstep ih => exact h.inv ih hstep

theorem mono_later {a b : σ} (ha : Inv a) (hab : ReflTransGen Step a b) : rank a ≤ rank b := by
  induction hab with
  | refl => exact le_rfl
  | tail hac hstep ih => exact ih.trans (h.mono (h.inv_later ha hac) hstep)

theorem keep_later {a b : σ} (ha : Inv a) (hab : ReflTransGen Step a b)
    (hpublished : Published (view a)) (hrank : rank a = rank b) : view b = view a := by
  induction hab with
  | refl => rfl
  | @tail b c hab hstep ih =>
    have hb := h.inv_later ha hab
    -- the rank cannot have gone up and down again
    have hac : rank a = rank b :=
      le_antisymm (h.mono_later ha hab) (hrank ▸ h.mono hb hstep)
    have hview := ih hac
    rw [h.keep hb hstep (hview ▸ hpublished) (hac ▸ hrank), hview]

theorem between {a c b : σ} (ha : Inv a) (hac : ReflTransGen Step a c)
    (hcb : ReflTransGen Step c b) (hpublished : Published (view a)) (hrank : rank a = rank b) :
    view c = view a := by
  have hc := h.inv_later ha hac
  refine h.keep_later ha hac hpublished (le_antisymm (h.mono_later ha hac) ?_)
  rw [hrank]
  exact h.mono_later hc hcb

end Stamped

end Stable
