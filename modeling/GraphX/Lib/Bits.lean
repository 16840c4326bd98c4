/-
  Bit maps.

  A bit map is a list of bytes; bit 0 is the most significant bit of the first byte.
-/
import Mathlib.Data.List.Basic
import Mathlib.Data.Nat.Bitwise

namespace Bits

open List

/-- Bit number `i`. -/
def bit (map : List UInt8) (i : ℕ) : Bool := (map.getD (i / 8) 0).toNat.testBit (7 - i % 8)

/-- Sets bit number `i`. -/
def set (map : List UInt8) (i : ℕ) : List UInt8 :=
  map.modify (i / 8) (· ||| UInt8.ofNat (1 <<< (7 - i % 8)))

/-- Sets the bits whose condition holds. -/
def mark (map : List UInt8) (l : List (Bool × ℕ)) : List UInt8 :=
  l.foldl (fun map p => if p.1 then set map p.2 else map) map

/-- How many bits of a byte are set. -/
def ones (b : UInt8) : ℕ := (List.range 8).countP fun i => b.toNat.testBit i

@[simp] theorem length_set (map : List UInt8) (i : ℕ) : (set map i).length = map.length :=
  length_modify ..

@[simp] theorem length_mark (map : List UInt8) (l : List (Bool × ℕ)) :
    (mark map l).length = map.length := by
  induction l generalizing map with
  | nil => rfl
  | cons p l ih =>
    change (mark (if p.1 then set map p.2 else map) l).length = _
    rw [ih]
    split_ifs
    · exact length_set map p.2
    · rfl

theorem toNat_one_shiftLeft {k : ℕ} (h : k < 8) : (UInt8.ofNat (1 <<< k)).toNat = 2 ^ k := by
  rw [Nat.one_shiftLeft]
  exact UInt8.toNat_ofNat_of_lt' (Nat.pow_lt_pow_right (by decide) h)

variable {map : List UInt8}

theorem bit_set {i : ℕ} (h : i / 8 < map.length) (j : ℕ) :
    bit (set map i) j = (decide (i = j) || bit map j) := by
  unfold bit set
  rw [getD_eq_getElem?_getD, getD_eq_getElem?_getD, getElem?_modify]
  by_cases hbyte : i / 8 = j / 8
  · have hj : j / 8 < map.length := hbyte ▸ h
    simp only [if_pos hbyte, getElem?_eq_getElem hj, Option.map_eq_map, Option.map_some,
      Option.getD_some]
    rw [UInt8.toNat_or, Nat.testBit_or, toNat_one_shiftLeft (by omega), Nat.testBit_two_pow, Bool.or_comm]
    congr 1
    exact decide_eq_decide.2 ⟨fun _ => by omega, fun _ => by omega⟩
  · have hne : i ≠ j := fun heq => hbyte (by rw [heq])
    simp [hbyte, hne]

/-- **The bits after some of them were set.** -/
theorem bit_mark {l : List (Bool × ℕ)} (h : ∀ p ∈ l, p.2 / 8 < map.length) (j : ℕ) :
    bit (mark map l) j = (decide ((true, j) ∈ l) || bit map j) := by
  induction l generalizing map with
  | nil => simp [mark]
  | cons p l ih =>
    change bit (mark (if p.1 then set map p.2 else map) l) j = _
    obtain ⟨hp, hl⟩ := forall_mem_cons.1 h
    obtain ⟨c, i⟩ := p
    cases c with
    | false => rw [if_neg Bool.false_ne_true, ih hl]; simp
    | true =>
      rw [if_pos rfl, ih (by simpa using hl), bit_set hp]
      by_cases hij : i = j
      · simp [hij]
      · simp [hij, Ne.symm hij]

theorem bit_replicate (n j : ℕ) : bit (replicate n 0) j = false := by
  unfold bit
  rw [getD_eq_getElem?_getD, getElem?_replicate]
  split_ifs <;> exact Nat.zero_testBit _

theorem ones_eq (b : UInt8) :
    ones b = (range 8).countP fun i => b.toNat.testBit (7 - i) := by
  have hreverse : range 8 = ((range 8).map (7 - ·)).reverse := by decide
  rw [ones, hreverse, countP_reverse]
  rfl

/-- **The set bits, byte by byte.** -/
theorem sum_ones (map : List UInt8) :
    (map.map ones).sum = (range (8 * map.length)).countP (bit map) := by
  induction map with
  | nil => rfl
  | cons b map ih =>
    have hfirst : (range 8).countP (bit (b :: map)) = ones b := by
      rw [ones_eq]
      refine countP_congr fun i hi => ?_
      have hi := mem_range.1 hi
      simp [bit, Nat.div_eq_of_lt hi, Nat.mod_eq_of_lt hi]
    have hrest : bit (b :: map) ∘ (8 + ·) = bit map := by
      funext i
      simp [bit]
    rw [map_cons, sum_cons, ih, length_cons, mul_add, Nat.add_comm (8 * _),
      range_add, countP_append, hfirst, countP_map, hrest]

theorem getD_mod_two_pow {byte k : ℕ} (hk : k ≤ 8)
    (h : ∀ i, 8 - k ≤ i → i < 8 → bit map (8 * byte + i) = false) :
    (map.getD byte 0).toNat % 2 ^ k = 0 := by
  refine Nat.eq_of_testBit_eq fun i => ?_
  rw [Nat.testBit_mod_two_pow, Nat.zero_testBit]
  by_cases hi : i < k
  · have hbit := h (7 - i) (by omega) (by omega)
    rw [bit, show (8 * byte + (7 - i)) / 8 = byte by omega,
      show 7 - (8 * byte + (7 - i)) % 8 = i by omega] at hbit
    rw [hbit, Bool.and_false]
  · simp [hi]

end Bits
