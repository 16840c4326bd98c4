/-
  Runs of a system that takes one step after the other.
-/
import Mathlib.Data.List.Basic

namespace Runs

variable {σ α : Type} (step : σ → α → σ)

def states : σ → List α → List σ
  | s, [] => [s]
  | s, a :: as => s :: states (step s a) as

def Along (P : σ → α → Prop) : σ → List α → Prop
  | _, [] => True
  | s, a :: as => P s a ∧ Along P (step s a) as

variable {step} {Inv Good : σ → Prop} {Legal Meets : σ → α → Prop}

theorem along_congr {P Q : σ → α → Prop} (h : ∀ s a, P s a ↔ Q s a) {s : σ} {as : List α} :
    Along step P s as ↔ Along step Q s as := by
  induction as generalizing s with
  | nil => exact Iff.rfl
  | cons a as ih => exact and_congr (h s a) ih

theorem along_of_forall {P : σ → α → Prop} {s : σ} {as : List α} (h : ∀ a ∈ as, ∀ s, P s a) :
    Along step P s as := by
  induction as generalizing s with
  | nil => trivial
  | cons a as ih => exact ⟨h a List.mem_cons_self s, ih fun b hb => h b (List.mem_cons_of_mem _ hb)⟩

theorem along_append {P : σ → α → Prop} {s : σ} {as bs : List α} :
    Along step P s (as ++ bs) ↔ Along step P s as ∧ Along step P (as.foldl step s) bs := by
  induction as generalizing s with
  | nil => exact (and_iff_right trivial).symm
  | cons a as ih => exact (and_congr_right fun _ => ih).trans and_assoc.symm

theorem foldl_along {I : σ → Prop} (hkeep : ∀ s a, I s → Legal s a → I (step s a)) {s : σ}
    {as : List α} (hs : I s) (h : Along step Legal s as) : I (as.foldl step s) := by
  induction as generalizing s with
  | nil => exact hs
  | cons a as ih => exact ih (hkeep s a hs h.1) h.2

theorem forall_states (hkeep : ∀ s a, Inv s → Inv (step s a)) {s : σ} {as : List α} (hs : Inv s) :
    ∀ t ∈ states step s as, Inv t := by
  induction as generalizing s with
  | nil =>
    intro t ht
    rwa [List.mem_singleton.1 ht]
  | cons a as ih =>
    intro t ht
    rcases List.mem_cons.1 ht with rfl | ht
    · exact hs
    · exact ih (hkeep s a hs) t ht

theorem mem_states_self (s : σ) (as : List α) : s ∈ states step s as := by
  cases as <;> exact List.mem_cons_self

theorem forall_states_iff (hgood : ∀ s, Inv s → Good s)
    (hkeep : ∀ s a, Inv s → Legal s a → Meets s a → Inv (step s a))
    (hbreak : ∀ s a, Inv s → Legal s a → Good (step s a) → Meets s a) {s : σ} {as : List α}
    (hs : Inv s) (h : Along step Legal s as) :
    (∀ t ∈ states step s as, Good t) ↔ Along step Meets s as := by
  induction as generalizing s with
  | nil =>
    refine iff_of_true (fun t ht => ?_) trivial
    rw [List.mem_singleton.1 ht]
    exact hgood s hs
  | cons a as ih =>
    constructor
    · intro hall
      have hmeets : Meets s a :=
        hbreak s a hs h.1 (hall _ (List.mem_cons_of_mem _ (mem_states_self _ as)))
      exact ⟨hmeets, (ih (hkeep s a hs h.1 hmeets) h.2).1 fun t ht =>
        hall t (List.mem_cons_of_mem _ ht)⟩
    · rintro ⟨hmeets, hrest⟩ t ht
      rcases List.mem_cons.1 ht with rfl | ht
      · exact hgood t hs
      · exact (ih (hkeep s a hs h.1 hmeets) h.2).2 hrest t ht

/-- An invariant that holds as long as all inputs are fine, and is lost with the first that is
    not. -/
theorem foldl_kept_or_lost (Kept Lost : σ → Prop) (Fine : α → Prop)
    (hkeep : ∀ s a, Kept s → Fine a → Kept (step s a))
    (hlose : ∀ s a, Kept s → ¬Fine a → Lost (step s a)) (hlost : ∀ s a, Lost s → Lost (step s a))
    {s : σ} (as : List α) (h : Kept s) :
    (∀ a ∈ as, Fine a) ∧ Kept (as.foldl step s) ∨
      ¬(∀ a ∈ as, Fine a) ∧ Lost (as.foldl step s) := by
  induction as generalizing s with
  | nil => exact .inl ⟨fun a ha => absurd ha List.not_mem_nil, h⟩
  | cons a as ih =>
    simp only [List.forall_mem_cons, List.foldl_cons]
    by_cases ha : Fine a
    · simpa only [ha, true_and] using ih (hkeep s a h ha)
    · refine .inr ⟨fun hall => ha hall.1, ?_⟩
      exact List.foldlRecOn as step (hlose s a h ha) fun s hs a _ => hlost s a hs

end Runs
