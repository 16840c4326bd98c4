/-
  Ring buffers: a queue in `cap` cells, the `i`-th item in cell `i % cap`.

  `Holds good cap cells items t`: the items from number `t` on are in their
  cells, where `good c x` says that the cell contents `c` are those of the item
  `x`.  The lemmas say what a writer may do (fill the next cell while it is
  free, publish it) and what a reader may do (give cells up).

  Counters of 64 bits that wrap around stand for the item numbers: `toNat_sub`
  and `toNat_mod` say what is left of them.
-/
import Mathlib.Data.List.Rotate
import Mathlib.Tactic

namespace Ring

open List

variable {α β : Type} {good : α → β → Prop} {cap t : ℕ} {cells : ℕ → α} {items : List β}

/-- The items numbered `t` and above are in their cells. -/
def Holds (good : α → β → Prop) (cap : ℕ) (cells : ℕ → α) (items : List β) (t : ℕ) : Prop :=
  ∀ i x, t ≤ i → items[i]? = some x → good (cells (i % cap)) x

/-- Two items of one window have different cells. -/
theorem mod_ne_of_window {i j : ℕ} (hi : t ≤ i) (hij : i < j) (hj : j < t + cap) :
    i % cap ≠ j % cap := by
  intro h
  obtain ⟨k, hk⟩ := (Nat.modEq_iff_dvd' hij.le).1 h
  have hpos : 0 < k := Nat.pos_of_ne_zero fun h0 => by simp [h0] at hk; omega
  have : cap ≤ j - i := hk ▸ Nat.le_mul_of_pos_right cap hpos
  omega

theorem holds_nil : Holds good cap cells [] t := by
  intro i x _ h
  simp at h

section

variable (h : Holds good cap cells items t)
include h

theorem Holds.mono {t' : ℕ} (ht : t ≤ t') : Holds good cap cells items t' :=
  fun i x hi hx => h i x (ht.trans hi) hx

theorem Holds.update (hroom : items.length < t + cap) (c : α) :
    Holds good cap (Function.update cells (items.length % cap) c) items t := by
  intro i x hi hx
  have hlt : i < items.length := (List.getElem?_eq_some_iff.1 hx).1
  rw [Function.update_of_ne (mod_ne_of_window hi hlt hroom)]
  exact h i x hi hx

theorem Holds.push {x : β} (hx : good (cells (items.length % cap)) x) :
    Holds good cap cells (items ++ [x]) t := by
  intro i y hi hy
  rcases lt_trichotomy i items.length with hlt | rfl | hgt
  · rw [getElem?_append_left hlt] at hy
    exact h i y hi hy
  · rw [getElem?_append_right le_rfl, Nat.sub_self] at hy
    cases hy
    exact hx
  · rw [getElem?_eq_none (by simp; omega)] at hy
    cases hy

end

/-- A full ring that overwrites its oldest item, the one at the cursor. -/
theorem rotate_set {ring : List α} {cursor : ℕ} (h : cursor < ring.length) (x : α) :
    (ring.set cursor x).rotate ((cursor + 1) % ring.length) = (ring.rotate cursor).tail ++ [x] := by
  obtain ⟨before, y, after, rfl, rfl⟩ : ∃ before y after, ring = before ++ y :: after ∧
      before.length = cursor :=
    ⟨_, _, _, (take_append_drop cursor ring).symm.trans
      (congrArg _ (drop_eq_getElem_cons h)), length_take_of_le h.le⟩
  have hset : (before ++ y :: after).set before.length x = (before ++ [x]) ++ after := by simp
  have hlength : (before ++ y :: after).length = ((before ++ [x]) ++ after).length := by simp
  have hnext : before.length + 1 = (before ++ [x]).length := by simp
  rw [hset, hlength, rotate_mod, hnext, rotate_append_length_eq]
  simp

/-! ## Counters that wrap around -/

theorem toNat_sub {h t : ℕ} (hth : t ≤ h) (hlt : h - t < 2 ^ 64) :
    (UInt64.ofNat h - UInt64.ofNat t).toNat = h - t := by
  rw [UInt64.toNat_sub, UInt64.toNat_ofNat', UInt64.toNat_ofNat']
  omega

theorem ofNat_eq_iff {h t : ℕ} (hth : t ≤ h) (hlt : h - t < 2 ^ 64) :
    UInt64.ofNat h = UInt64.ofNat t ↔ h = t := by
  refine ⟨fun he => ?_, fun he => he ▸ rfl⟩
  have := toNat_sub hth hlt
  rw [he] at this
  simp at this
  omega

/-- The cell of an item is found from its counter if the counter has not
    wrapped around, or wraps around at a multiple of the capacity. -/
theorem toNat_mod {h : ℕ} (hw : h < 2 ^ 64 ∨ cap ∣ 2 ^ 64) :
    (UInt64.ofNat h).toNat % cap = h % cap := by
  rw [UInt64.toNat_ofNat']
  rcases hw with hw | hw
  · rw [Nat.mod_eq_of_lt hw]
  · exact Nat.mod_mod_of_dvd h hw

end Ring
