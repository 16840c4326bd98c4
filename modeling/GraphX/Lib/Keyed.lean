/-
  Association lists in the order of insertion: a `Map` or an object of ECMAScript.
-/
import Mathlib.Data.List.Infix
import Mathlib.Data.List.Nodup

namespace Keyed

open List

variable {α β : Type*} [BEq α] [LawfulBEq α] {l : List (α × β)} {key : α} {b : β}

theorem mem_of_lookup (h : l.lookup key = some b) : (key, b) ∈ l := by
  obtain ⟨before, after, rfl, -⟩ := lookup_eq_some_iff.1 h
  simp

theorem lookup_of_mem (hnodup : (l.map Prod.fst).Nodup) (h : (key, b) ∈ l) :
    l.lookup key = some b := by
  induction l with
  | nil => cases h
  | cons e l ih =>
    rw [map_cons, nodup_cons] at hnodup
    rw [lookup_cons]
    rcases mem_cons.1 h with rfl | h
    · simp
    · have hne : key ≠ e.1 := fun heq => hnodup.1 (heq ▸ mem_map_of_mem h)
      rw [beq_false_of_ne hne]
      exact ih hnodup.2 h

theorem lookup_eq_of_filter [DecidableEq α] (h : l.filter (·.1 = key) = [(key, b)]) :
    l.lookup key = some b := by
  induction l with
  | nil => cases h
  | cons e l ih =>
    rw [lookup_cons]
    by_cases heq : e.1 = key
    · rw [filter_cons_of_pos (by simpa using heq), cons.injEq] at h
      simp [h.1]
    · rw [filter_cons_of_neg (by simpa using heq)] at h
      rw [beq_false_of_ne (Ne.symm heq)]
      exact ih h

theorem nodup_eraseDups (l : List α) : l.eraseDups.Nodup := by
  induction hn : l.length using Nat.strong_induction_on generalizing l with
  | _ n ih =>
    cases l with
    | nil => simp
    | cons a as =>
      rw [eraseDups_cons, nodup_cons]
      constructor
      · simp
      · refine ih _ ?_ _ rfl
        rw [← hn]
        exact Nat.lt_succ_of_le (length_filter_le _ _)

section records
variable {κ ρ : Type*} [DecidableEq κ] (key : ρ → κ)

/-- Changes the first record with the key `k`. -/
def amend (k : κ) (f : ρ → ρ) : List ρ → List ρ
  | [] => []
  | r :: rest => if key r = k then f r :: rest else r :: amend k f rest

variable {key} {k : κ} {f : ρ → ρ}

theorem map_amend (hf : ∀ r, key (f r) = key r) (l : List ρ) :
    (amend key k f l).map key = l.map key := by
  induction l with
  | nil => rfl
  | cons r rest ih =>
    unfold amend
    split_ifs
    · simp [hf]
    · simp [ih]

theorem find?_amend (hf : ∀ r, key (f r) = key r) (l : List ρ) :
    (amend key k f l).find? (key · = k) = (l.find? (key · = k)).map f := by
  induction l with
  | nil => rfl
  | cons r rest ih =>
    unfold amend
    split_ifs with h
    · simp [hf, h]
    · simpa [h] using ih

theorem find?_amend_of_ne {k' : κ} (hf : ∀ r, key (f r) = key r) (hne : k' ≠ k) (l : List ρ) :
    (amend key k f l).find? (key · = k') = l.find? (key · = k') := by
  induction l with
  | nil => rfl
  | cons r rest ih =>
    unfold amend
    split_ifs with h
    · have hr : key r ≠ k' := fun h' => hne (h'.symm.trans h)
      simp [hf, hr]
    · by_cases hr : key r = k'
      · simp [hr]
      · simpa [hr] using ih

end records

end Keyed
