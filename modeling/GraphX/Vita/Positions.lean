/-
  The number of a sample, computed from its time (`consume` of `src/vita/processing.cpp`).

  A sample of the timeline has the time of the epoch and as many picoseconds as its number
  takes at the rate, rounded down.  Whole seconds and picoseconds are converted apart, and
  the picoseconds may be fewer than those of the epoch.
-/
import GraphX.Vita.Assembler

namespace GraphX.Vita

/-- The time of the sample number `ordinal`, as the library computes it. -/
structure IsSampleTime (epoch : ProtocolTime) (rate : UInt32) (ordinal : ℕ) (time : ProtocolTime) :
    Prop where
  normal : time.picoseconds.toNat < 10 ^ 12
  total : time.seconds.toNat * 10 ^ 12 + time.picoseconds.toNat =
    epoch.seconds.toNat * 10 ^ 12 + epoch.picoseconds.toNat + ordinal * 10 ^ 12 / rate.toNat

/-- The difference in picoseconds, as a signed number. -/
def picosecondsBetween (epoch time : ProtocolTime) : ℤ :=
  (time.picoseconds.toNat : ℤ) - epoch.picoseconds.toNat

/-- What is added before the division, so that it rounds to the nearest number. -/
def half (ps : ℤ) : ℤ := if 0 ≤ ps then 500000000000 else -500000000000

/-- The rounded quotient makes up for what was lost when the time was rounded down: that is
    less than `rate` picoseconds in all. -/
theorem rounded_eq {rate seconds ordinal : ℕ} {ps : ℤ} (hrate : rate ≤ 2000000)
    (hlow : (seconds : ℤ) * rate * 10 ^ 12 + ps * rate ≤ ordinal * 10 ^ 12)
    (hhigh : (ordinal : ℤ) * 10 ^ 12 < seconds * rate * 10 ^ 12 + ps * rate + rate) :
    (seconds : ℤ) * rate + (ps * rate + half ps).tdiv 1000000000000 = ordinal := by
  unfold half
  split_ifs with hps
  · have hnonneg : 0 ≤ ps * rate := by positivity
    rw [Int.tdiv_eq_ediv_of_nonneg (by omega)]
    omega
  · have hneg : ps * rate ≤ 0 := Int.mul_nonpos_of_nonpos_of_nonneg (by omega) (by omega)
    rw [← neg_neg (ps * rate + _), Int.neg_tdiv, Int.tdiv_eq_ediv_of_nonneg (by omega)]
    omega

theorem position_eq {rate seconds ordinal : ℕ} {ps : ℤ} (hrate : 1000 ≤ rate ∧ rate ≤ 2000000)
    (hseconds : seconds < 2 ^ 32) (hps : |ps| < 10 ^ 12)
    (hpassed : ((ordinal * 10 ^ 12 / rate : ℕ) : ℤ) = seconds * 10 ^ 12 + ps) :
    (seconds : ℤ) * rate + (ps * rate + half ps).tdiv 1000000000000 = ordinal ∧
      seconds * rate < 2 ^ 63 ∧ |ps * rate| < 2 ^ 63 ∧ |ps * rate + half ps| < 2 ^ 63 ∧
      ordinal < 2 ^ 63 := by
  have hlow : ((ordinal * 10 ^ 12 / rate : ℕ) : ℤ) * rate ≤ ordinal * 10 ^ 12 := by
    exact_mod_cast Nat.div_mul_le_self (ordinal * 10 ^ 12) rate
  have hhigh : (ordinal : ℤ) * 10 ^ 12 < ((ordinal * 10 ^ 12 / rate : ℕ) : ℤ) * rate + rate := by
    exact_mod_cast Nat.lt_div_mul_add (by omega)
  rw [hpassed] at hlow hhigh
  have hproduct : seconds * rate ≤ 2 ^ 32 * 2000000 := Nat.mul_le_mul hseconds.le hrate.2
  have hpsProduct : |ps * rate| ≤ 10 ^ 12 * 2000000 := by
    rw [abs_mul, Nat.abs_cast]
    exact mul_le_mul hps.le (by exact_mod_cast hrate.2) (Nat.cast_nonneg rate) (by norm_num)
  have hhalf : |half ps| = 500000000000 := by
    unfold half
    split_ifs <;> rfl
  have hsum := abs_add_le (ps * rate) (half ps)
  refine ⟨rounded_eq hrate.2 (by linarith) (by linarith), by omega, by omega, by omega, ?_⟩
  have hpsHigh := (le_abs_self _).trans hpsProduct
  linarith [hrate.2]

variable {epoch time : ProtocolTime} {rate : UInt32} {ordinal : ℕ}

/-- **The number of a sample is found from its time.**  The checks before it pass, and
    nothing that is computed on the way leaves the range of its 64 bits. -/
theorem position_exact (hrate : 1000 ≤ rate.toNat ∧ rate.toNat ≤ 2000000)
    (hepoch : epoch.picoseconds.toNat < 10 ^ 12) (hseconds : time.seconds.toNat < 2 ^ 32)
    (htime : IsSampleTime epoch rate ordinal time) :
    sampleNumber rate epoch time = ordinal ∧
      time.before epoch = false ∧ ¬ int64Max / rate.toUInt64 < time.seconds - epoch.seconds ∧
      epoch.seconds.toNat ≤ time.seconds.toNat ∧
      (time.seconds - epoch.seconds).toNat * rate.toNat < 2 ^ 63 ∧
      |picosecondsBetween epoch time * rate.toNat| < 2 ^ 63 ∧
      |picosecondsBetween epoch time * rate.toNat + half (picosecondsBetween epoch time)| < 2 ^ 63 ∧
      ordinal < 2 ^ 63 := by
  have htotal := htime.total
  have hnormal := htime.normal
  have hlater : epoch.seconds.toNat * 10 ^ 12 + epoch.picoseconds.toNat ≤
      time.seconds.toNat * 10 ^ 12 + time.picoseconds.toNat := by
    rw [htotal]
    exact Nat.le_add_right _ _
  have hle : epoch.seconds.toNat ≤ time.seconds.toNat := by omega
  have hsub : (time.seconds - epoch.seconds).toNat = time.seconds.toNat - epoch.seconds.toNat :=
    UInt64.toNat_sub_of_le _ _ hle
  have hps : |picosecondsBetween epoch time| < 10 ^ 12 := by
    unfold picosecondsBetween
    exact abs_lt.2 ⟨by omega, by omega⟩
  have hpassed : ((ordinal * 10 ^ 12 / rate.toNat : ℕ) : ℤ) =
      (time.seconds - epoch.seconds).toNat * 10 ^ 12 + picosecondsBetween epoch time := by
    unfold picosecondsBetween
    generalize ordinal * 10 ^ 12 / rate.toNat = passed at htotal ⊢
    omega
  obtain ⟨hnumber, hproduct, hrest⟩ := position_eq hrate (by omega) hps hpassed
  refine ⟨?_, ?_, ?_, hle, hproduct, hrest⟩
  · have hmul : ((time.seconds - epoch.seconds) * rate.toUInt64).toNat =
        (time.seconds - epoch.seconds).toNat * rate.toNat := by
      rw [UInt64.toNat_mul, UInt32.toNat_toUInt64, Nat.mod_eq_of_lt (by omega)]
    rw [← hnumber, sampleNumber, int64_of_lt (hmul ▸ hproduct), int64_of_lt (by omega),
      int64_of_lt (by omega), hmul, Nat.cast_mul]
    rfl
  · simp only [ProtocolTime.before, Bool.or_eq_false_iff, Bool.and_eq_false_imp,
      decide_eq_false_iff_not, decide_eq_true_eq, UInt64.lt_iff_toNat_lt]
    refine ⟨by omega, fun hsame => ?_⟩
    rw [hsame] at hlater
    omega
  · rw [UInt64.lt_iff_toNat_lt, UInt64.toNat_div, not_lt, Nat.le_div_iff_mul_le (by simp; omega),
      UInt32.toNat_toUInt64]
    have hmax : int64Max.toNat = 2 ^ 63 - 1 := rfl
    omega

/-- At 1500 samples a second, sample 1000 comes in the next second, with fewer picoseconds
    than those of the epoch. -/
theorem position_exact_next_second :
    sampleNumber 1500 ⟨7, 900000000000⟩ ⟨8, 566666666666⟩ = 1000 :=
  (position_exact (by decide) (by decide) (by decide) ⟨by decide, by decide⟩).1

end GraphX.Vita
