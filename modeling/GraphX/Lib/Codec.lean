/-
  Prefix codecs: decoders that read a prefix of their input and return the
  rest, and the encoders they invert.
-/
import Mathlib.Data.List.Basic
import Mathlib.Tactic

namespace Codec

variable {β ε α α' γ : Type}

/-- A decoder over the alphabet `β`: it reads a prefix of its input and leaves
    the rest, or fails. -/
abbrev Decoder (β ε α : Type) := StateT (List β) (Except ε) α

variable {bs : List β}

theorem run_bind_ok {p : Decoder β ε α} {f : α → Decoder β ε γ} {r : γ × List β} :
    (p >>= f).run bs = .ok r ↔ ∃ a rest, p.run bs = .ok (a, rest) ∧ (f a).run rest = .ok r := by
  rw [StateT.run_bind]
  rcases h : p.run bs with e | ⟨a, rest⟩
  · simp [bind, Except.bind]
  · constructor
    · exact fun hr => ⟨a, rest, rfl, hr⟩
    · rintro ⟨a', rest', h', hr⟩
      cases h'; exact hr

theorem run_bind_of_ok {p : Decoder β ε α} {f : α → Decoder β ε γ} {rest : List β} {a : α}
    (h : p.run bs = .ok (a, rest)) : (p >>= f).run bs = (f a).run rest := by
  rw [StateT.run_bind, h]; rfl

@[simp] theorem run_pure_ok {a a' : α} {bs' : List β} :
    (pure a : Decoder β ε α).run bs = .ok (a', bs') ↔ a = a' ∧ bs = bs' := by
  rw [StateT.run_pure]
  simp [pure, Except.pure]

/-- Fail with `e` unless `b` holds. -/
def check (b : Bool) (e : ε) : Decoder β ε Unit := if b then pure () else throw e

@[simp] theorem run_check_ok {b : Bool} {e : ε} {u : Unit} {bs' : List β} :
    (check b e : Decoder β ε Unit).run bs = .ok (u, bs') ↔ b ∧ bs = bs' := by
  unfold check
  cases b
  · simp only [Bool.false_eq_true, false_and, iff_false]; exact nofun
  · simp only [if_true, run_pure_ok]

/-- **Exact decoders**: `p` reads the encoding of every value of `dom`
    (`complete`), and whatever it reads is such an encoding (`sound`). -/
structure Exact (p : Decoder β ε α) (enc : α → List β) (dom : α → Prop) : Prop where
  complete : ∀ a rest, dom a → p.run (enc a ++ rest) = .ok (a, rest)
  sound : ∀ bs a rest, p.run bs = .ok (a, rest) → dom a ∧ bs = enc a ++ rest

namespace Exact
variable {p : Decoder β ε α} {enc : α → List β} {dom : α → Prop}

theorem run_iff (h : Exact p enc dom) {bs rest : List β} {a : α} :
    p.run bs = .ok (a, rest) ↔ dom a ∧ bs = enc a ++ rest := by
  refine ⟨h.sound bs a rest, ?_⟩
  rintro ⟨ha, rfl⟩
  exact h.complete a rest ha

/-- The bytes read determine the value, and no encoding is a proper prefix of
    another one. -/
theorem inj (h : Exact p enc dom) {a b : α} {r r' : List β} (ha : dom a) (hb : dom b)
    (he : enc a ++ r = enc b ++ r') : a = b ∧ r = r' := by
  have h1 := h.complete a r ha
  rw [he, h.complete b r' hb] at h1
  cases h1; exact ⟨rfl, rfl⟩

/-- Decoding another representation `g a` of the values, with inverse `f`. -/
theorem map (hp : Exact p enc dom) (f : α' → α) (g : α → α') {dom' : α' → Prop}
    (hf : ∀ b, dom' b → dom (f b) ∧ g (f b) = b) (hg : ∀ a, dom a → dom' (g a) ∧ f (g a) = a) :
    Exact (g <$> p) (fun b => enc (f b)) dom' := by
  constructor
  · intro b rest hb
    obtain ⟨hd, hb'⟩ := hf b hb
    rw [map_eq_pure_bind, run_bind_of_ok (hp.complete (f b) rest hd), hb']
    rfl
  · intro bs b rest h
    rw [map_eq_pure_bind] at h
    obtain ⟨a, r, h₁, h⟩ := run_bind_ok.1 h
    obtain ⟨rfl, rfl⟩ := run_pure_ok.1 h
    obtain ⟨ha, rfl⟩ := hp.sound _ _ _ h₁
    exact ⟨(hg a ha).1, by rw [(hg a ha).2]⟩

end Exact

/-! ## Big-endian integers -/

/-- The `n` low-order bytes of `v`, most significant first. -/
def toBE : ℕ → ℕ → List UInt8
  | 0, _ => []
  | n + 1, v => UInt8.ofNat (v / 256 ^ n) :: toBE n v

/-- The integer whose big-endian bytes are given. -/
def ofBE (bs : List UInt8) : ℕ := bs.foldl (fun v b => v * 256 + b.toNat) 0

@[simp] theorem length_toBE : ∀ n v, (toBE n v).length = n
  | 0, _ => rfl
  | n + 1, v => by simp [toBE, length_toBE n v]

theorem ofBE_foldl (bs : List UInt8) (v : ℕ) :
    bs.foldl (fun v b => v * 256 + b.toNat) v = v * 256 ^ bs.length + ofBE bs := by
  induction bs generalizing v with
  | nil => simp [ofBE]
  | cons b bs ih =>
    rw [ofBE, List.foldl_cons, List.foldl_cons, ih, ih]
    simp only [List.length_cons]
    ring

theorem ofBE_cons (b : UInt8) (bs : List UInt8) :
    ofBE (b :: bs) = b.toNat * 256 ^ bs.length + ofBE bs := by
  rw [ofBE, List.foldl_cons, ofBE_foldl]; simp

theorem ofBE_lt (bs : List UInt8) : ofBE bs < 256 ^ bs.length := by
  induction bs with
  | nil => simp [ofBE]
  | cons b bs ih =>
    have hb : b.toNat + 1 ≤ 256 := b.toNat_lt
    have := Nat.mul_le_mul_right (256 ^ bs.length) hb
    rw [ofBE_cons, List.length_cons, pow_succ]
    linarith

theorem ofBE_toBE : ∀ n v, ofBE (toBE n v) = v % 256 ^ n
  | 0, v => by simp [toBE, ofBE, Nat.mod_one]
  | n + 1, v => by
    rw [toBE, ofBE_cons, ofBE_toBE n v, length_toBE, pow_succ, Nat.mod_mul]
    simp only [UInt8.toNat_ofNat', Nat.reducePow]
    ring

theorem toBE_congr {n v w : ℕ} (h : v % 256 ^ n = w % 256 ^ n) : toBE n v = toBE n w := by
  induction n with
  | zero => rfl
  | succ n ih =>
    have hn : v % 256 ^ n = w % 256 ^ n := by
      have hd : 256 ^ n ∣ 256 ^ (n + 1) := pow_dvd_pow _ (Nat.le_succ n)
      rw [← Nat.mod_mod_of_dvd v hd, h, Nat.mod_mod_of_dvd w hd]
    have hq : v / 256 ^ n % 256 = w / 256 ^ n % 256 := by
      rw [pow_succ, Nat.mod_mul, Nat.mod_mul, hn] at h
      exact Nat.eq_of_mul_eq_mul_left (pow_pos (by norm_num) n) (Nat.add_left_cancel h)
    rw [toBE, ih hn]
    congr 1
    apply UInt8.toNat_inj.1
    simpa using hq

theorem toBE_ofBE (bs : List UInt8) : toBE bs.length (ofBE bs) = bs := by
  induction bs with
  | nil => rfl
  | cons b bs ih =>
    have hlt := ofBE_lt bs
    have hdiv : ofBE (b :: bs) / 256 ^ bs.length = b.toNat := by
      rw [ofBE_cons, mul_comm, Nat.mul_add_div (pow_pos (by norm_num) _), Nat.div_eq_of_lt hlt,
        add_zero]
    rw [List.length_cons, toBE, hdiv, UInt8.ofNat_toNat]
    congr 1
    refine (toBE_congr ?_).trans ih
    rw [ofBE_cons, Nat.mul_add_mod_self_right]

end Codec
