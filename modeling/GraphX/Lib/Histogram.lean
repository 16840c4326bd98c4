/-
  Histograms: how often each class occurs among some values.
-/
import Mathlib.Algebra.BigOperators.Group.List.Basic
import Mathlib.Data.List.Basic
import Mathlib.Data.List.GetD
import Mathlib.Tactic

namespace Histogram

open List

variable {α : Type}

/-! ## Values and their histogram -/

def Counts (f : α → ℕ) (L : List α) (h : List ℕ) : Prop :=
  ∀ i, L.countP (f · = i) = h.getD i 0

theorem sum_take_succ (h : List ℕ) (k : ℕ) : (h.take (k + 1)).sum = (h.take k).sum + h.getD k 0 := by
  rcases lt_or_ge k h.length with hk | hk
  · rw [take_add_one, sum_append, getElem?_eq_getElem hk, getD_eq_getElem _ _ hk]
    simp
  · rw [take_of_length_le hk, take_of_length_le (hk.trans (Nat.le_succ k)),
      getD_eq_default _ _ hk, Nat.add_zero]

theorem countP_lt_succ (f : α → ℕ) (L : List α) (k : ℕ) :
    L.countP (f · < k + 1) = L.countP (f · < k) + L.countP (f · = k) := by
  induction L with
  | nil => rfl
  | cons x L ih =>
    simp only [countP_cons, decide_eq_true_eq]
    split_ifs <;> omega

namespace Counts

variable {f : α → ℕ} {L : List α} {h : List ℕ}

theorem countP_lt (hc : Counts f L h) (k : ℕ) : L.countP (f · < k) = (h.take k).sum := by
  induction k with
  | zero => simp
  | succ k ih => rw [countP_lt_succ, ih, hc k, sum_take_succ]

/-- A value of a class that the histogram does not have would be counted there. -/
theorem class_lt (hc : Counts f L h) {x : α} (hx : x ∈ L) : f x < h.length := by
  by_contra hle
  have hzero : L.countP (f · = f x) = 0 := by
    rw [hc (f x), getD_eq_default _ _ (not_lt.1 hle)]
  exact absurd (countP_eq_zero.1 hzero x hx) (by simp)

theorem length_eq (hc : Counts f L h) : L.length = h.sum := by
  have hall : L.countP (f · < h.length) = L.length :=
    countP_eq_length.2 fun x hx => decide_eq_true (hc.class_lt hx)
  rw [← hall, hc.countP_lt, take_length]

end Counts

/-! ## Values with a given histogram -/

/-- `h i` copies of the value `v i` for each class `i`, from the class `start` on. -/
def realise (v : ℕ → α) (start : ℕ) : List ℕ → List α
  | [] => []
  | n :: h => List.replicate n (v start) ++ realise v (start + 1) h

theorem mem_realise {v : ℕ → α} {h : List ℕ} {start : ℕ} {x : α} (hx : x ∈ realise v start h) :
    ∃ i, start ≤ i ∧ i < start + h.length ∧ x = v i := by
  induction h generalizing start with
  | nil => exact absurd hx not_mem_nil
  | cons n h ih =>
    rcases mem_append.1 hx with hx | hx
    · exact ⟨start, le_rfl, by simp, eq_of_mem_replicate hx⟩
    · obtain ⟨i, hlow, hhigh, rfl⟩ := ih hx
      exact ⟨i, by omega, by simp only [length_cons]; omega, rfl⟩

theorem counts_realise {f : α → ℕ} {v : ℕ → α} {h : List ℕ} (hv : ∀ i < h.length, f (v i) = i) :
    Counts f (realise v 0 h) h := by
  have hgeneral : ∀ (h : List ℕ) (start : ℕ), (∀ i < h.length, f (v (start + i)) = start + i) →
      ∀ i, (realise v start h).countP (f · = start + i) = h.getD i 0 := by
    intro h
    induction h with
    | nil => intro start _ i; rfl
    | cons n h ih =>
      intro start hstart i
      have hhead : f (v start) = start := hstart 0 (by simp)
      have htail : ∀ j < h.length, f (v (start + 1 + j)) = start + 1 + j := by
        intro j hj
        have := hstart (j + 1) (by simpa using hj)
        rwa [Nat.add_comm j 1, ← Nat.add_assoc] at this
      rw [realise, countP_append, countP_replicate, hhead]
      cases i with
      | zero =>
        have hrest : (realise v (start + 1) h).countP (f · = start + 0) = 0 := by
          refine countP_eq_zero.2 fun x hx hclass => ?_
          obtain ⟨j, hlow, hhigh, rfl⟩ := mem_realise hx
          have hj : f (v j) = j := by
            have := htail (j - (start + 1)) (by omega)
            rwa [Nat.add_sub_cancel' hlow] at this
          simp at hclass
          omega
        rw [hrest]
        simp
      | succ i =>
        have hrest := ih (start + 1) htail i
        rw [Nat.add_assoc, Nat.add_comm 1 i] at hrest
        rw [hrest]
        simp
  intro i
  have := hgeneral h 0 (fun i hi => by simpa using hv i hi) i
  simpa using this

/-! ## Ranks -/

/-- The first class at which the cumulative count reaches the target. -/
def rankIndex (target : ℕ) : ℕ → List ℕ → Option ℕ
  | _, [] => none
  | seen, n :: h =>
    if target ≤ seen + n then some 0 else (rankIndex target (seen + n) h).map (· + 1)

variable {target seen i : ℕ} {h : List ℕ}

theorem rankIndex_spec (hi : rankIndex target seen h = some i) :
    i < h.length ∧ target ≤ seen + (h.take (i + 1)).sum := by
  induction h generalizing seen i with
  | nil => exact absurd hi.symm (Option.some_ne_none i)
  | cons n h ih =>
    rw [rankIndex] at hi
    split_ifs at hi with hle
    · obtain rfl := Option.some.inj hi
      exact ⟨by simp, by simpa using hle⟩
    · obtain ⟨j, hj, rfl⟩ := Option.map_eq_some_iff.1 hi
      obtain ⟨hlt, hsum⟩ := ih hj
      exact ⟨by simpa using hlt, by simpa [Nat.add_assoc] using hsum⟩

theorem exists_rankIndex (hne : h ≠ []) (htarget : target ≤ seen + h.sum) :
    ∃ i, rankIndex target seen h = some i := by
  induction h generalizing seen with
  | nil => exact absurd rfl hne
  | cons n h ih =>
    rw [rankIndex]
    split_ifs with hle
    · exact ⟨0, rfl⟩
    · rw [sum_cons] at htarget
      have hrest : h ≠ [] := by
        rintro rfl
        simp only [sum_nil] at htarget
        omega
      have hsum : target ≤ seen + n + h.sum := by omega
      obtain ⟨i, hi⟩ := ih hrest hsum
      exact ⟨i + 1, by rw [hi]; rfl⟩

end Histogram
