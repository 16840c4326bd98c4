/-
  Tables of slots.
-/
import Mathlib.Algebra.BigOperators.Group.Finset.Basic
import Mathlib.Algebra.BigOperators.Group.Finset.Piecewise
import Mathlib.Algebra.Order.BigOperators.Group.Finset
import Mathlib.Data.Fintype.BigOperators

namespace Slots

variable {ι σ : Type}

/-! ## Sums -/

section total
variable [Fintype ι] (w : ι → σ → ℕ)

/-- The sum of the weights of the slots. -/
def total (slots : ι → σ) : ℕ := ∑ i, w i (slots i)

theorem total_update (slots : ι → σ) [DecidableEq ι] (i : ι) (s : σ) :
    total w (Function.update slots i s) + w i (slots i) = total w slots + w i s := by
  have hrest : ∀ t : ι → σ, total w t = w i (t i) + ∑ j ∈ Finset.univ.erase i, w j (t j) := fun t =>
    (Finset.add_sum_erase _ _ (Finset.mem_univ i)).symm
  have hsame : ∑ j ∈ Finset.univ.erase i, w j (Function.update slots i s j) =
      ∑ j ∈ Finset.univ.erase i, w j (slots j) := by
    refine Finset.sum_congr rfl fun j hj => ?_
    rw [Function.update_of_ne (Finset.ne_of_mem_erase hj)]
  rw [hrest, hrest slots, Function.update_self]
  omega

variable {w} in
theorem total_eq_zero {slots : ι → σ} (h : ∀ i, w i (slots i) = 0) : total w slots = 0 :=
  Finset.sum_eq_zero fun i _ => h i

end total

/-! ## The best slot -/

section pick
variable (occupied : σ → Bool) (better : σ → σ → Bool) (slots : ι → σ)

def pick (l : List ι) : Option ι :=
  l.foldl (fun next i =>
    if occupied (slots i) && next.all fun j => better (slots i) (slots j) then some i else next) none

variable {occupied better slots} {κ : Type} [LinearOrder κ] {key : σ → κ}

/-- What the loop has found among the slots it has seen. -/
def Best (occupied : σ → Bool) (key : σ → κ) (slots : ι → σ) (seen : List ι) (next : Option ι) : Prop :=
  (next = none → ∀ i ∈ seen, occupied (slots i) = false) ∧
    ∀ i, next = some i → i ∈ seen ∧ occupied (slots i) = true ∧
      ∀ j ∈ seen, occupied (slots j) = true → key (slots i) ≤ key (slots j)

variable (hbetter : ∀ s s', better s s' = true ↔ key s < key s')
include hbetter

theorem Best.step {seen : List ι} {next : Option ι} (h : Best occupied key slots seen next)
    (i : ι) :
    Best occupied key slots (seen ++ [i])
      (if occupied (slots i) && next.all fun j => better (slots i) (slots j) then some i else next) := by
  split_ifs with hc
  · rw [Bool.and_eq_true] at hc
    refine ⟨fun hnone => absurd hnone (Option.some_ne_none i), ?_⟩
    rintro _ ⟨⟩
    refine ⟨by simp, hc.1, fun j hj hoccupied => ?_⟩
    rcases List.mem_append.1 hj with hj | hj
    · cases hnext : next with
      | none => rw [h.1 hnext j hj] at hoccupied; exact absurd hoccupied Bool.false_ne_true
      | some k =>
        rw [hnext] at hc
        exact ((hbetter _ _).1 hc.2).le.trans ((h.2 k hnext).2.2 j hj hoccupied)
    · rw [List.mem_singleton.1 hj]
  · rw [Bool.and_eq_true, not_and] at hc
    constructor
    · intro hnone j hj
      rcases List.mem_append.1 hj with hj | hj
      · exact h.1 hnone j hj
      · rw [List.mem_singleton.1 hj]
        by_contra hoccupied
        exact hc (Bool.not_eq_false _ ▸ hoccupied) (by rw [hnone]; rfl)
    · intro k hk
      obtain ⟨hmem, hoccupied, hleast⟩ := h.2 k hk
      refine ⟨List.mem_append_left _ hmem, hoccupied, fun j hj hj' => ?_⟩
      rcases List.mem_append.1 hj with hj | hj
      · exact hleast j hj hj'
      · have hnot := hc (List.mem_singleton.1 hj ▸ hj')
        rw [hk] at hnot
        rw [List.mem_singleton.1 hj]
        exact not_lt.1 fun hlt => hnot ((hbetter _ _).2 hlt)

theorem best_pick (l : List ι) : Best occupied key slots l (pick occupied better slots l) := by
  induction l using List.reverseRecOn with
  | nil => exact ⟨fun _ i hi => absurd hi List.not_mem_nil, fun i hi => absurd hi.symm (Option.some_ne_none i)⟩
  | append_singleton l i ih =>
    rw [pick, List.foldl_append]
    exact ih.step hbetter i

/-- **The slot that is taken has the least key.** -/
theorem pick_eq_some {l : List ι} {i : ι} (h : pick occupied better slots l = some i) :
    occupied (slots i) = true ∧
      ∀ j ∈ l, occupied (slots j) = true → key (slots i) ≤ key (slots j) :=
  ((best_pick hbetter l).2 i h).2

end pick

end Slots
