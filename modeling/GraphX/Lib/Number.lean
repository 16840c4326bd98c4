/-
  Numbers as texts: decimal texts, the numbers of ECMAScript (binary64), and how
  ECMAScript reads and prints them.

  A text is a sequence of UTF-16 code units.

  * **`print_ofDecimal`**: an integer below `2 ^ 53` is printed as it was read.
-/
import Mathlib

namespace Ecma

open List

abbrev Text := List UInt16

def unit (c : Char) : UInt16 := c.val.toUInt16

def text (s : String) : Text := s.toList.map unit

/-! ## Decimal texts -/

def digit (d : ℕ) : UInt16 := UInt16.ofNat (48 + d)

def isDigit (u : UInt16) : Bool := 48 ≤ u && u ≤ 57

/-- The digits of a number, as `std::to_string` and `String(n)` write them. -/
def decimal (n : ℕ) : Text := (Nat.toDigits 10 n).map unit

/-- The number a sequence of digits stands for. -/
def value (digits : Text) : ℕ := digits.foldl (fun v u => 10 * v + (u.toNat - 48)) 0

/-- An integer with its sign. -/
def decimalInt : ℤ → Text
  | .ofNat n => decimal n
  | .negSucc n => unit '-' :: decimal (n + 1)

variable {d : ℕ}

theorem unit_digitChar (h : d < 10) : unit d.digitChar = digit d := by
  revert d
  decide

variable {n : ℕ}

theorem decimal_of_lt (h : n < 10) : decimal n = [digit n] := by
  rw [decimal, Nat.toDigits_of_lt_base h, map_singleton, unit_digitChar h]

theorem decimal_of_le (h : 10 ≤ n) : decimal n = decimal (n / 10) ++ [digit (n % 10)] := by
  rw [decimal, Nat.toDigits_of_base_le (by decide) h, map_append, map_singleton,
    unit_digitChar (Nat.mod_lt n (by decide))]
  rfl

/-- Induction along the digits. -/
theorem decimal_induction {P : ℕ → Prop} (hlt : ∀ n < 10, P n)
    (hle : ∀ n, 10 ≤ n → P (n / 10) → P n) (n : ℕ) : P n := by
  induction n using Nat.strong_induction_on with
  | _ n ih =>
    by_cases h : n < 10
    · exact hlt n h
    · exact hle n (by omega) (ih (n / 10) (by omega))

theorem toNat_digit (h : d < 10) : (digit d).toNat = 48 + d := by
  revert d
  decide

theorem isDigit_digit (h : d < 10) : isDigit (digit d) = true := by
  revert d
  decide

theorem exists_digit {u : UInt16} (h : isDigit u = true) : ∃ d < 10, u = digit d := by
  simp only [isDigit, Bool.and_eq_true, decide_eq_true_eq, UInt16.le_iff_toNat_le,
    UInt16.reduceToNat] at h
  refine ⟨u.toNat - 48, by omega, ?_⟩
  rw [digit, show 48 + (u.toNat - 48) = u.toNat by omega, UInt16.ofNat_toNat]

theorem isDigit_decimal (n : ℕ) : ∀ u ∈ decimal n, isDigit u = true := by
  induction n using decimal_induction with
  | hlt n h => simp [decimal_of_lt h, isDigit_digit h]
  | hle n h ih =>
    intro u hu
    rw [decimal_of_le h, mem_append, mem_singleton] at hu
    rcases hu with hu | rfl
    · exact ih u hu
    · exact isDigit_digit (Nat.mod_lt n (by decide))

theorem value_append_digit (ds : Text) (h : d < 10) :
    value (ds ++ [digit d]) = 10 * value ds + d := by
  simp [value, toNat_digit h]

theorem value_decimal (n : ℕ) : value (decimal n) = n := by
  induction n using decimal_induction with
  | hlt n h => simp [decimal_of_lt h, value, toNat_digit h]
  | hle n h ih =>
    rw [decimal_of_le h, value_append_digit _ (Nat.mod_lt n (by decide))]
    omega

theorem decimal_injective : Function.Injective decimal :=
  Function.LeftInverse.injective value_decimal

theorem decimal_ne_nil (n : ℕ) : decimal n ≠ [] := by
  induction n using decimal_induction with
  | hlt n h => simp [decimal_of_lt h]
  | hle n h ih => simp [decimal_of_le h]

/-- Only zero begins with a zero. -/
theorem head_decimal (hn : n ≠ 0) : ∃ d, 1 ≤ d ∧ d < 10 ∧ (decimal n).head? = some (digit d) := by
  induction n using decimal_induction with
  | hlt n h => exact ⟨n, by omega, h, by simp [decimal_of_lt h]⟩
  | hle n h ih =>
    obtain ⟨d, h1, h2, hd⟩ := ih (by omega)
    refine ⟨d, h1, h2, ?_⟩
    rw [decimal_of_le h, head?_append, hd]
    rfl

theorem decimal_mul_ten (hn : n ≠ 0) : decimal (n * 10) = decimal n ++ [digit 0] := by
  rw [decimal_of_le (by omega)]
  simp

theorem decimal_mul_pow (hn : n ≠ 0) (j : ℕ) :
    decimal (n * 10 ^ j) = decimal n ++ replicate j (digit 0) := by
  induction j with
  | zero => simp
  | succ j ih =>
    rw [pow_succ, ← mul_assoc, decimal_mul_ten (by positivity), ih, append_assoc,
      replicate_succ']

theorem length_decimal_le {k : ℕ} (hk : 0 < k) (h : n < 10 ^ k) : (decimal n).length ≤ k := by
  rw [decimal, length_map]
  exact Nat.toDigits_length 10 n k hk h

theorem decimalInt_injective : Function.Injective decimalInt := by
  have hsign : ∀ m n : ℕ, decimal m ≠ unit '-' :: decimal n := by
    intro m n heq
    have := isDigit_decimal m (unit '-') (by rw [heq]; simp)
    exact absurd this (by decide)
  rintro (m | m) (n | n) heq
  · exact congrArg Int.ofNat (decimal_injective heq)
  · exact absurd heq (hsign m (n + 1))
  · exact absurd heq.symm (hsign n (m + 1))
  · have := decimal_injective (cons.inj heq).2
    exact congrArg Int.negSucc (by omega)

/-! ## binary64 -/

/-- The nearest integer, of two the even one. -/
def roundEven (q : ℚ) : ℤ :=
  if q - ⌊q⌋ < 1 / 2 ∨ q - ⌊q⌋ = 1 / 2 ∧ ⌊q⌋ % 2 = 0 then ⌊q⌋ else ⌊q⌋ + 1

/-- The exponent of the last place of the binary64 numbers around `q`. -/
def lastPlace (q : ℚ) : ℤ := max (-1074) (Int.log 2 q - 52)

/-- The nearest binary64 number, if its exponent were not bounded above. -/
def nearest (q : ℚ) : ℚ := roundEven (q / 2 ^ lastPlace q) * 2 ^ lastPlace q

/-- A number of ECMAScript, other than `NaN`; the two zeros are not told apart,
    which they are not in print either. -/
inductive Number where
  | finite (q : ℚ)
  | infinite (negative : Bool)
  deriving DecidableEq

/-- The value of the literal `± digits · 10 ^ exponent`. -/
def Number.ofDecimal (negative : Bool) (digits : ℕ) (exponent : ℤ) : Number :=
  let q := nearest (digits * 10 ^ exponent)
  if 2 ^ 1024 ≤ q then .infinite negative else .finite (if negative then -q else q)

theorem le_roundEven {z : ℤ} {q : ℚ} (h : (z : ℚ) ≤ q) : z ≤ roundEven q := by
  have := Int.le_floor.2 h
  unfold roundEven
  split_ifs <;> omega

theorem roundEven_intCast (z : ℤ) : roundEven z = z := by
  simp [roundEven]

theorem nearest_of_int {q : ℚ} {z : ℤ} (h : q = z * 2 ^ lastPlace q) : nearest q = q := by
  have hpos : (2 : ℚ) ^ lastPlace q ≠ 0 := by positivity
  have hdiv : q / 2 ^ lastPlace q = z := by
    rw [div_eq_iff hpos]
    exact h
  rw [nearest, hdiv, roundEven_intCast, ← h]

theorem log_natCast_lt {k : ℕ} (hn : n ≠ 0) (h : n < 2 ^ k) : Int.log 2 (n : ℚ) < k := by
  exact_mod_cast Nat.log_lt_of_lt_pow hn h

theorem nearest_natCast (h : n < 2 ^ 53) : nearest n = n := by
  rcases Nat.eq_zero_or_pos n with rfl | hn
  · exact nearest_of_int (z := 0) (by simp)
  · have hlog := log_natCast_lt hn.ne' h
    have hle : lastPlace n ≤ 0 := by
      unfold lastPlace
      omega
    obtain ⟨t, ht⟩ := Int.eq_ofNat_of_zero_le (neg_nonneg.2 hle)
    have ht : lastPlace n = -(t : ℤ) := by omega
    refine nearest_of_int (z := n * 2 ^ t) ?_
    rw [ht, zpow_neg, zpow_natCast]
    push_cast
    field_simp

/-- And larger ones are rounded to no less than `2 ^ 53`. -/
theorem le_nearest_natCast (h : 2 ^ 53 ≤ n) : 2 ^ 53 ≤ nearest n := by
  have hlog : (53 : ℤ) ≤ Int.log 2 (n : ℚ) := by
    exact_mod_cast Nat.le_log_of_pow_le (by decide) h
  have hplace : lastPlace n = Int.log 2 (n : ℚ) - 52 := by
    unfold lastPlace
    omega
  have hpow : (2 : ℚ) ^ Int.log 2 (n : ℚ) ≤ n := by
    have := Int.zpow_log_le_self (b := 2) (r := (n : ℚ)) (by decide) (by positivity)
    exact_mod_cast this
  have hq : ((2 ^ 52 : ℤ) : ℚ) ≤ n / 2 ^ lastPlace n := by
    have h52 : (2 : ℚ) ^ (52 : ℤ) = ((2 ^ 52 : ℤ) : ℚ) := by norm_num
    rw [le_div_iff₀ (by positivity), hplace, zpow_sub₀ two_ne_zero, h52,
      mul_div_cancel₀ _ (by norm_num)]
    exact hpow
  have hr : ((2 ^ 52 : ℤ) : ℚ) ≤ roundEven (n / 2 ^ lastPlace n) := by
    exact_mod_cast le_roundEven hq
  have hone : (2 : ℚ) ^ (1 : ℤ) ≤ 2 ^ lastPlace (n : ℚ) :=
    zpow_le_zpow_right₀ one_le_two (by omega)
  calc (2 : ℚ) ^ 53 = ((2 ^ 52 : ℤ) : ℚ) * 2 ^ (1 : ℤ) := by norm_num
    _ ≤ roundEven (n / 2 ^ lastPlace n) * 2 ^ lastPlace n := by gcongr

/-- No other integer reads as one below `2 ^ 53`. -/
theorem natCast_eq_of_nearest {m : ℕ} (hn : n < 2 ^ 53) (h : nearest m = n) : m = n := by
  by_cases hm : m < 2 ^ 53
  · rw [nearest_natCast hm] at h
    exact_mod_cast h
  · have hle := le_nearest_natCast (not_lt.1 hm)
    rw [h] at hle
    have : 2 ^ 53 ≤ n := by exact_mod_cast hle
    omega

/-! ## Printing -/

/-- A decimal `s · 10 ^ j` that reads as `x`, the nearer one if there are two. -/
def decimalAt (x : ℚ) (j : ℤ) : Option ℕ :=
  let low := ⌊x / 10 ^ j⌋.toNat
  let reads (s : ℕ) : Bool := nearest (s * 10 ^ j) = x
  if reads low && !(reads (low + 1) && decide ((low + 1 : ℕ) * 10 ^ j - x < x - low * 10 ^ j)) then
    some low
  else if reads (low + 1) then some (low + 1)
  else none

/-- The one with the fewest digits: `j` goes down until there is one. -/
def shortest (x : ℚ) : (fuel : ℕ) → (j : ℤ) → ℕ × ℤ
  | 0, j => (⌊x / 10 ^ j⌋.toNat, j)
  | fuel + 1, j =>
    match decimalAt x j with
    | some s => (s, j)
    | none => shortest x fuel (j - 1)

/-- Digits without an exponent; the decimal point is after the `point`-th. -/
def layout (digits : Text) (point : ℤ) : Text :=
  if digits.length ≤ point then
    digits ++ List.replicate (point - digits.length).toNat (unit '0')
  else if 0 < point then
    digits.take point.toNat ++ unit '.' :: digits.drop point.toNat
  else text "0." ++ List.replicate (-point).toNat (unit '0') ++ digits

def layoutExponent (digits exponent : Text) : Text :=
  match digits with
  | [d] => d :: unit 'e' :: exponent
  | ds => ds.take 1 ++ unit '.' :: ds.drop 1 ++ unit 'e' :: exponent

/-- A positive number; 17 digits always suffice. -/
def printPositive (x : ℚ) : Text :=
  let (s, j) := shortest x 17 (Int.log 10 x)
  -- of `10 · 10 ^ j` one digit is enough
  let (s, j) := if s % 10 = 0 then (s / 10, j + 1) else (s, j)
  let digits := decimal s
  let point := digits.length + j
  if -6 < point && point ≤ 21 then layout digits point
  else layoutExponent digits
    ((if 0 < point then unit '+' else unit '-') :: decimal (point - 1).natAbs)

/-- A number as `JSON.stringify` prints it. -/
def Number.print : Number → Text
  | .finite q =>
    if q = 0 then text "0"
    else if q < 0 then unit '-' :: printPositive (-q)
    else printPositive q
  | .infinite _ => text "null"

variable {x : ℚ}

theorem reads_of_decimalAt {j : ℤ} {s : ℕ} (h : decimalAt x j = some s) :
    nearest (s * 10 ^ j) = x := by
  unfold decimalAt at h
  simp only [Bool.and_eq_true, decide_eq_true_eq] at h
  split_ifs at h with h₁ h₂
  · obtain rfl := Option.some.inj h
    exact h₁.1
  · obtain rfl := Option.some.inj h
    exact h₂

theorem nearest_zero : nearest 0 = 0 := by simpa using nearest_natCast (n := 0) (by norm_num)

theorem shortest_ne_zero (hx : 0 < x) (fuel : ℕ) {j : ℤ} (hj : j ≤ Int.log 10 x) :
    (shortest x fuel j).1 ≠ 0 := by
  induction fuel generalizing j with
  | zero =>
    have hpow : (10 : ℚ) ^ j ≤ x := by
      have hlog := Int.zpow_log_le_self (b := 10) (r := x) (by decide) hx
      have hle : (10 : ℚ) ^ j ≤ 10 ^ Int.log 10 x := zpow_le_zpow_right₀ (by norm_num) hj
      exact hle.trans (by exact_mod_cast hlog)
    have hfloor : (1 : ℤ) ≤ ⌊x / 10 ^ j⌋ := by
      rw [Int.le_floor, Int.cast_one, le_div_iff₀ (by positivity), one_mul]
      exact hpow
    simp only [shortest]
    omega
  | succ fuel ih =>
    unfold shortest
    cases hat : decimalAt x j with
    | some s =>
      rintro (rfl : s = 0)
      have := reads_of_decimalAt hat
      rw [Nat.cast_zero, zero_mul, nearest_zero] at this
      exact hx.ne this
    | none => exact ih (by omega)

theorem decimalAt_zero_ne_none (hn : n < 2 ^ 53) : decimalAt n 0 ≠ none := by
  unfold decimalAt
  simp only [zpow_zero, div_one, Int.floor_natCast, Int.toNat_natCast, mul_one, nearest_natCast hn]
  split_ifs with h₁ h₂
  · simp
  · simp
  · simp_all

/-- The search for an integer ends with a power of ten that divides it. -/
theorem shortest_natCast (hn : n < 2 ^ 53) {fuel j : ℕ} (hj : j < fuel) :
    ∃ s i : ℕ, shortest n fuel j = (s, (i : ℤ)) ∧ s * 10 ^ i = n := by
  induction fuel generalizing j with
  | zero => omega
  | succ fuel ih =>
    unfold shortest
    cases hat : decimalAt n j with
    | some s =>
      refine ⟨s, j, rfl, natCast_eq_of_nearest hn ?_⟩
      have := reads_of_decimalAt hat
      exact_mod_cast this
    | none =>
      cases j with
      | zero => exact absurd hat (by exact_mod_cast decimalAt_zero_ne_none hn)
      | succ j =>
        obtain ⟨s, i, hs, hsi⟩ := ih (j := j) (by omega)
        refine ⟨s, i, ?_, hsi⟩
        simpa using hs

theorem layout_natCast {s i : ℕ} (h0 : n ≠ 0) (hn : n < 2 ^ 53) (h : s * 10 ^ i = n) :
    layout (decimal s) ((decimal s).length + (i : ℤ)) = decimal n ∧
      (decimal s).length + (i : ℤ) ≤ 21 := by
  have hs0 : s ≠ 0 := by
    rintro rfl
    exact h0 (by rw [← h, zero_mul])
  have hd := decimal_mul_pow hs0 i
  rw [h] at hd
  refine ⟨?_, ?_⟩
  · unfold layout
    rw [if_pos (by omega), hd]
    congr 2
    omega
  · have := length_decimal_le (k := 16) (by decide) (lt_trans hn (by norm_num))
    rw [hd, length_append, length_replicate] at this
    omega

theorem printPositive_natCast (h0 : n ≠ 0) (hn : n < 2 ^ 53) : printPositive n = decimal n := by
  have hlog : Nat.log 10 n < 17 := Nat.log_lt_of_lt_pow h0 (lt_trans hn (by norm_num))
  have hlog' : Int.log 10 (n : ℚ) = (Nat.log 10 n : ℕ) := Int.log_natCast 10 n
  obtain ⟨s, i, hs, hsi⟩ := shortest_natCast hn hlog
  obtain ⟨s', i', hpair, hsi'⟩ : ∃ s' i' : ℕ,
      (if s % 10 = 0 then (s / 10, (i : ℤ) + 1) else (s, (i : ℤ))) = (s', (i' : ℤ)) ∧
        s' * 10 ^ i' = n := by
    by_cases h10 : s % 10 = 0
    · refine ⟨s / 10, i + 1, by simp [h10], ?_⟩
      rw [pow_succ', ← mul_assoc, Nat.div_mul_cancel (Nat.dvd_of_mod_eq_zero h10), hsi]
    · exact ⟨s, i, by simp [h10], hsi⟩
  obtain ⟨hlayout, hle⟩ := layout_natCast h0 hn hsi'
  unfold printPositive
  simp only [hlog', hs, hpair]
  rw [if_pos, hlayout]
  simp only [Bool.and_eq_true, decide_eq_true_eq]
  omega

theorem ofDecimal_natCast (hn : n < 2 ^ 53) (negative : Bool) :
    Number.ofDecimal negative n 0 = .finite (if negative then -(n : ℚ) else n) := by
  have hlt : ¬(2 : ℚ) ^ 1024 ≤ n := by
    have h53 : (n : ℚ) < 2 ^ 53 := by exact_mod_cast hn
    have h1024 : (2 : ℚ) ^ 53 ≤ 2 ^ 1024 := by gcongr <;> norm_num
    exact not_le.2 (lt_of_lt_of_le h53 h1024)
  simp [Number.ofDecimal, nearest_natCast hn, hlt]

/-- **An integer below `2 ^ 53` is printed as it was read.** -/
theorem print_ofDecimal (hn : n < 2 ^ 53) (negative : Bool) (h : negative = true → n ≠ 0) :
    (Number.ofDecimal negative n 0).print =
      if negative then unit '-' :: decimal n else decimal n := by
  rw [ofDecimal_natCast hn]
  rcases Nat.eq_zero_or_pos n with rfl | hpos
  · cases negative with
    | true => exact absurd rfl (h rfl)
    | false => decide
  · cases negative with
    | false | true => simp [Number.print, hpos.ne', printPositive_natCast hpos.ne' hn]

example : (Number.ofDecimal false (2 ^ 53 + 1) 0).print = text "9007199254740992" := by
  decide +kernel

example : (Number.ofDecimal false 5 (-5)).print = text "0.00005" := by decide +kernel

/-! ## The conversion `%g` of C -/

/-- The `p` significant digits of a positive number, and their exponent. -/
def significant (p : ℕ) (x : ℚ) : ℕ × ℤ :=
  let j := Int.log 10 x - (p - 1)
  let s := (roundEven (x / 10 ^ j)).toNat
  if s = 10 ^ p then (10 ^ (p - 1), j + 1) else (s, j)

/-- An exponent of at least two digits. -/
def exponentText (e : ℤ) : Text :=
  (if e < 0 then unit '-' else unit '+') ::
    (if e.natAbs < 10 then unit '0' :: decimal e.natAbs else decimal e.natAbs)

/-- A positive number with `p` significant digits, without the zeros at their
    end. -/
def printGeneral (p : ℕ) (x : ℚ) : Text :=
  let (s, j) := significant p x
  let digits := (decimal s).rdropWhile (· == unit '0')
  let e := j + (p - 1)
  if -4 ≤ e && e < p then layout digits (e + 1) else layoutExponent digits (exponentText e)

/-- Digits of a positive number: there are some, and the first is not zero. -/
structure LeadingDigits (digits : Text) : Prop where
  nonempty : digits ≠ []
  all_digits : ∀ u ∈ digits, isDigit u = true
  head : digits.head? ≠ some (unit '0')

theorem leadingDigits_decimal (hn : n ≠ 0) : LeadingDigits (decimal n) := by
  refine ⟨decimal_ne_nil n, isDigit_decimal n, ?_⟩
  obtain ⟨d, h1, h2, hd⟩ := head_decimal hn
  rw [hd]
  interval_cases d <;> decide

variable {digits : Text}

theorem LeadingDigits.rdropWhile (h : LeadingDigits digits) :
    LeadingDigits (digits.rdropWhile (· == unit '0')) := by
  obtain ⟨u, t, rfl⟩ := exists_cons_of_ne_nil h.nonempty
  have hu : u ≠ unit '0' := fun heq => h.head (by rw [heq]; rfl)
  have hpre := rdropWhile_prefix (· == unit '0') (u :: t)
  have hne : (u :: t).rdropWhile (· == unit '0') ≠ [] := by
    rw [Ne, rdropWhile_eq_nil_iff]
    exact fun hall => hu (by simpa using hall u (by simp))
  obtain ⟨v, t', heq⟩ := exists_cons_of_ne_nil hne
  obtain ⟨rest, hrest⟩ := hpre
  rw [heq, cons_append, cons.injEq] at hrest
  refine ⟨hne, fun w hw => h.all_digits w ((List.rdropWhile_prefix _ _).subset hw), ?_⟩
  rw [heq, hrest.1]
  simpa using hu

theorem significant_ne_zero {p : ℕ} (hp : 0 < p) (hx : 0 < x) : (significant p x).1 ≠ 0 := by
  have hle : ((1 : ℤ) : ℚ) ≤ x / 10 ^ (Int.log 10 x - (p - 1 : ℤ)) := by
    have hlog := Int.zpow_log_le_self (b := 10) (r := x) (by decide) hx
    have hpow : (10 : ℚ) ^ (Int.log 10 x - (p - 1 : ℤ)) ≤ 10 ^ Int.log 10 x :=
      zpow_le_zpow_right₀ (by norm_num) (by omega)
    rw [le_div_iff₀ (by positivity), Int.cast_one, one_mul]
    exact hpow.trans (by exact_mod_cast hlog)
  have hround := le_roundEven hle
  unfold significant
  dsimp only
  split_ifs
  · simp
  · omega

theorem leadingDigits_significant {p : ℕ} (hp : 0 < p) (hx : 0 < x) :
    LeadingDigits ((decimal (significant p x).1).rdropWhile (· == unit '0')) :=
  (leadingDigits_decimal (significant_ne_zero hp hx)).rdropWhile

/-! ## The characters of a number -/

def isNumeric (u : UInt16) : Bool :=
  isDigit u || u = unit '.' || u = unit 'e' || u = unit '+' || u = unit '-'

/-- The text has only characters that numbers have. -/
def Numeric (t : Text) : Prop := ∀ u ∈ t, isNumeric u = true

theorem forall_numeric {P : UInt16 → Prop} (hdigits : ∀ d < 10, P (digit d))
    (hsigns : P (unit '.') ∧ P (unit 'e') ∧ P (unit '+') ∧ P (unit '-')) {u : UInt16}
    (h : isNumeric u = true) : P u := by
  obtain ⟨hpoint, he, hplus, hminus⟩ := hsigns
  simp only [isNumeric, Bool.or_eq_true, decide_eq_true_eq] at h
  rcases h with (((h | rfl) | rfl) | rfl) | rfl
  · obtain ⟨d, hd, rfl⟩ := exists_digit h
    exact hdigits d hd
  all_goals assumption

theorem numeric_nil : Numeric [] := fun _ h => absurd h (by simp)

variable {t : Text}

theorem Numeric.append {t' : Text} (h : Numeric t) (h' : Numeric t') : Numeric (t ++ t') :=
  fun u hu => (mem_append.1 hu).elim (h u) (h' u)

theorem Numeric.cons {u : UInt16} (hu : isNumeric u = true) (h : Numeric t) : Numeric (u :: t) :=
  fun _ hv => (mem_cons.1 hv).elim (fun heq => heq ▸ hu) (h _)

theorem Numeric.of_subset {t' : Text} (h : Numeric t) (hsub : t' ⊆ t) : Numeric t' :=
  fun u hu => h u (hsub hu)

theorem numeric_replicate (n : ℕ) : Numeric (replicate n (unit '0')) := by
  intro u hu
  rw [eq_of_mem_replicate hu]
  rfl

theorem numeric_of_isDigit (h : ∀ u ∈ t, isDigit u = true) : Numeric t := by
  intro u hu
  simp [isNumeric, h u hu]

theorem numeric_decimal (n : ℕ) : Numeric (decimal n) := numeric_of_isDigit (isDigit_decimal n)

theorem numeric_decimalInt (n : ℤ) : Numeric (decimalInt n) := by
  cases n with
  | ofNat n => exact numeric_decimal n
  | negSucc n => exact (numeric_decimal (n + 1)).cons rfl

theorem numeric_layout (h : Numeric digits) (point : ℤ) : Numeric (layout digits point) := by
  unfold layout
  split_ifs
  · exact h.append (numeric_replicate _)
  · exact (h.of_subset (take_subset _ _)).append
      ((h.of_subset (drop_subset _ _)).cons rfl)
  · have hzero : Numeric (text "0.") := (numeric_nil.cons rfl).cons rfl
    exact (hzero.append (numeric_replicate _)).append h

theorem numeric_layoutExponent {exponent : Text} (h : Numeric digits) (he : Numeric exponent) :
    Numeric (layoutExponent digits exponent) := by
  unfold layoutExponent
  split
  · exact (he.cons rfl).cons (h _ (by simp))
  · exact ((h.of_subset (take_subset _ _)).append
      ((h.of_subset (drop_subset _ _)).cons rfl)).append (he.cons rfl)

theorem numeric_printPositive (x : ℚ) : Numeric (printPositive x) := by
  unfold printPositive
  dsimp only
  split_ifs
  all_goals first
    | exact numeric_layout (numeric_decimal _) _
    | exact numeric_layoutExponent (numeric_decimal _) ((numeric_decimal _).cons rfl)

theorem numeric_print (n : Number) : Numeric n.print ∨ n.print = text "null" := by
  cases n with
  | infinite negative => exact .inr rfl
  | finite q =>
    left
    simp only [Number.print]
    split_ifs
    · exact numeric_nil.cons (u := unit '0') rfl
    · exact (numeric_printPositive _).cons rfl
    · exact numeric_printPositive _

theorem numeric_exponentText (e : ℤ) : Numeric (exponentText e) := by
  unfold exponentText
  split_ifs
  all_goals first
    | exact ((numeric_decimal _).cons rfl).cons rfl
    | exact (numeric_decimal _).cons rfl

theorem numeric_printGeneral (p : ℕ) (x : ℚ) : Numeric (printGeneral p x) := by
  have hdigits (s : ℕ) : Numeric ((decimal s).rdropWhile (· == unit '0')) :=
    (numeric_decimal s).of_subset (List.rdropWhile_prefix _ _).subset
  unfold printGeneral
  dsimp only
  split_ifs
  · exact numeric_layout (hdigits _) _
  · exact numeric_layoutExponent (hdigits _) (numeric_exponentText _)

end Ecma
