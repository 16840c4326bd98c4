/-
  UTF-8, as the strings of ECMAScript are encoded and decoded.
-/
import GraphX.Lib.Json

namespace Ecma

/-- ASCII bytes as code units. -/
def widen (bytes : List UInt8) : Text := bytes.map UInt8.toUInt16

@[simp] theorem widen_nil : widen [] = [] := rfl

@[simp] theorem widen_cons (b : UInt8) (bs : List UInt8) :
    widen (b :: bs) = b.toUInt16 :: widen bs := rfl

@[simp] theorem widen_append (as bs : List UInt8) : widen (as ++ bs) = widen as ++ widen bs :=
  List.map_append

def IsAscii (bytes : List UInt8) : Prop := ∀ b ∈ bytes, b < 0x80

instance (bytes : List UInt8) : Decidable (IsAscii bytes) :=
  decidable_of_iff (bytes.all (· < 0x80) = true) (by simp [IsAscii])

variable {bs : List UInt8}

theorem isAscii_append {as : List UInt8} : IsAscii (as ++ bs) ↔ IsAscii as ∧ IsAscii bs :=
  List.forall_mem_append

theorem isAscii_flatMap {α : Type} {as : List α} {f : α → List UInt8} (h : ∀ a, IsAscii (f a)) :
    IsAscii (as.flatMap f) := by
  intro b hb
  obtain ⟨a, -, hb⟩ := List.mem_flatMap.1 hb
  exact h a b hb

/-! ## Encoding -/

def utf8Byte (base n : ℕ) : UInt8 := UInt8.ofNat (base + n)

def encodePoint (c : ℕ) : List UInt8 :=
  if c < 0x80 then [utf8Byte 0 c]
  else if c < 0x800 then [utf8Byte 0xc0 (c / 64), utf8Byte 0x80 (c % 64)]
  else if c < 0x10000 then
    [utf8Byte 0xe0 (c / 4096), utf8Byte 0x80 (c / 64 % 64), utf8Byte 0x80 (c % 64)]
  else [utf8Byte 0xf0 (c / 262144), utf8Byte 0x80 (c / 4096 % 64), utf8Byte 0x80 (c / 64 % 64),
    utf8Byte 0x80 (c % 64)]

/-- The code point of a surrogate pair. -/
def pairPoint (lead trail : UInt16) : ℕ :=
  0x10000 + (lead.toNat - 0xd800) * 0x400 + (trail.toNat - 0xdc00)

def encodeUnit (u : UInt16) : List UInt8 :=
  encodePoint (if isLead u || isTrail u then 0xfffd else u.toNat)

/-- `Buffer.from(s, 'utf8')` -/
def encode : Text → List UInt8
  | [] => []
  | [u] => encodeUnit u
  | u :: v :: rest =>
    if isLead u && isTrail v then encodePoint (pairPoint u v) ++ encode rest
    else encodeUnit u ++ encode (v :: rest)

theorem encodePoint_ne_nil (c : ℕ) : encodePoint c ≠ [] := by
  unfold encodePoint
  split_ifs <;> simp

theorem encode_ne_nil {t : Text} (h : t ≠ []) : encode t ≠ [] := by
  unfold encode
  split
  · exact absurd rfl h
  · exact encodePoint_ne_nil _
  · split_ifs
    all_goals simp [encodeUnit, encodePoint_ne_nil]

/-! ## Decoding -/

/-- A character whose first bytes have been read: its bits so far, how many
    bytes it still needs, and the range of the next one. -/
structure Pending where
  bits : ℕ
  needed : ℕ
  lower : UInt8
  upper : UInt8

/-- The code units of a code point. -/
def pointUnits (c : ℕ) : Text :=
  if c < 0x10000 then [UInt16.ofNat c]
  else [UInt16.ofNat (0xd800 + (c - 0x10000) / 0x400), UInt16.ofNat (0xdc00 + (c - 0x10000) % 0x400)]

/-- The first byte of a character. -/
def decodeFirst (b : UInt8) : Text × Option Pending :=
  if b < 0x80 then ([b.toUInt16], none)
  else if 0xc2 ≤ b && b ≤ 0xdf then ([], some ⟨b.toNat - 0xc0, 1, 0x80, 0xbf⟩)
  else if 0xe0 ≤ b && b ≤ 0xef then
    ([], some ⟨b.toNat - 0xe0, 2, if b = 0xe0 then 0xa0 else 0x80, if b = 0xed then 0x9f else 0xbf⟩)
  else if 0xf0 ≤ b && b ≤ 0xf4 then
    ([], some ⟨b.toNat - 0xf0, 3, if b = 0xf0 then 0x90 else 0x80, if b = 0xf4 then 0x8f else 0xbf⟩)
  else ([0xfffd], none)

def decodeByte (b : UInt8) : Option Pending → Text × Option Pending
  | none => decodeFirst b
  | some p =>
    if p.lower ≤ b && b ≤ p.upper then
      let bits := p.bits * 64 + (b.toNat - 0x80)
      if p.needed = 1 then (pointUnits bits, none) else ([], some ⟨bits, p.needed - 1, 0x80, 0xbf⟩)
    else
      -- the byte is read again, as the first of a character
      let (t, q) := decodeFirst b
      (0xfffd :: t, q)

def decodeFrom : Option Pending → List UInt8 → Text
  | none, [] => []
  | some _, [] => [0xfffd]
  | p, b :: bs =>
    let (t, q) := decodeByte b p
    t ++ decodeFrom q bs

/-- `buffer.toString('utf8')` -/
def decode (bytes : List UInt8) : Text := decodeFrom none bytes

/-! ## ASCII -/

theorem decode_widen (h : IsAscii bs) : decode bs = widen bs := by
  unfold decode
  induction bs with
  | nil => rfl
  | cons b bs ih =>
    have hb : b < 0x80 := h b (by simp)
    rw [decodeFrom, widen_cons, ← ih fun c hc => h c (by simp [hc])]
    simp [decodeByte, decodeFirst, hb]

theorem encodePoint_of_lt {c : ℕ} (h : c < 0x80) : encodePoint c = [UInt8.ofNat c] := by
  simp [encodePoint, h, utf8Byte]

/-- Every character outside ASCII has a byte outside ASCII. -/
theorem exists_not_ascii {c : ℕ} (h : 0x80 ≤ c) (hc : c < 0x110000) :
    ∃ b ∈ encodePoint c, ¬b < 0x80 := by
  have hbyte : ∀ {base n : ℕ}, 0x80 ≤ base → base + n < 256 → ¬utf8Byte base n < 0x80 := by
    intro base n hbase hlt
    rw [UInt8.lt_iff_toNat_lt, utf8Byte, UInt8.toNat_ofNat']
    simp only [UInt8.reduceToNat]
    omega
  unfold encodePoint
  rw [if_neg (by omega)]
  split_ifs with h2 h3
  · exact ⟨_, by simp, hbyte (by decide) (by omega : 0xc0 + c / 64 < 256)⟩
  · exact ⟨_, by simp, hbyte (by decide) (by omega : 0xe0 + c / 4096 < 256)⟩
  · exact ⟨_, by simp, hbyte (by decide) (by omega : 0xf0 + c / 262144 < 256)⟩

theorem encodeUnit_of_ascii {u : UInt16} (h : IsAscii (encodeUnit u)) :
    encodeUnit u = [u.toUInt8] ∧ u.toUInt8.toUInt16 = u := by
  unfold encodeUnit at h ⊢
  have hlt := u.toNat_lt
  by_cases hs : isLead u || isTrail u
  · rw [if_pos hs] at h
    obtain ⟨b, hb, hnot⟩ := exists_not_ascii (c := 0xfffd) (by decide) (by decide)
    exact absurd (h b hb) hnot
  · rw [if_neg hs] at h ⊢
    have hu : u.toNat < 0x80 := by
      by_contra hge
      obtain ⟨b, hb, hnot⟩ := exists_not_ascii (not_lt.1 hge) (by omega)
      exact hnot (h b hb)
    refine ⟨encodePoint_of_lt hu, ?_⟩
    apply UInt16.toNat_inj.1
    rw [UInt8.toNat_toUInt16, UInt16.toNat_toUInt8]
    omega

/-- **Only an ASCII string is encoded as ASCII**, and it is the same. -/
theorem eq_widen_of_encode {t : Text} (h : IsAscii (encode t)) : t = widen (encode t) := by
  induction t using encode.induct with
  | case1 => rfl
  | case2 u =>
    obtain ⟨hu, hw⟩ := encodeUnit_of_ascii (u := u) h
    rw [encode, hu, widen_cons, hw, widen_nil]
  | case3 u v rest hpair ih =>
    rw [encode, if_pos hpair] at h
    have hlead : u.toNat < 0xdc00 := by
      simp only [isLead, Bool.and_eq_true, decide_eq_true_eq] at hpair
      exact hpair.1.2
    have htrail : v.toNat < 0xe000 := by
      simp only [isTrail, Bool.and_eq_true, decide_eq_true_eq] at hpair
      exact hpair.2.2
    obtain ⟨b, hb, hnot⟩ := exists_not_ascii (c := pairPoint u v)
      (by unfold pairPoint; omega) (by unfold pairPoint; omega)
    exact absurd (h b (List.mem_append_left _ hb)) hnot
  | case4 u v rest hpair ih =>
    rw [encode, if_neg hpair] at h ⊢
    obtain ⟨hu, hw⟩ := encodeUnit_of_ascii (u := u) fun b hb => h b (List.mem_append_left _ hb)
    rw [hu, List.singleton_append, widen_cons, hw,
      ← ih fun b hb => h b (List.mem_append_right _ hb)]

theorem encodeUnit_widen {b : UInt8} (h : b < 0x80) : encodeUnit b.toUInt16 = [b] := by
  have hall : ∀ n : Fin 0x80, encodeUnit (UInt8.ofNat n).toUInt16 = [UInt8.ofNat n] := by decide
  simpa using hall ⟨b.toNat, h⟩

theorem encode_widen (h : IsAscii bs) : encode (widen bs) = bs := by
  induction bs with
  | nil => rfl
  | cons b bs ih =>
    have hb := encodeUnit_widen (h b (by simp))
    have hbs := ih fun c hc => h c (by simp [hc])
    cases bs with
    | nil => simpa [encode] using hb
    | cons c bs =>
      have hlead : isLead b.toUInt16 = false := by
        have hlt := b.toNat_lt
        simp only [isLead, Bool.and_eq_false_iff, decide_eq_false_iff_not, UInt16.le_iff_toNat_le,
          UInt8.toNat_toUInt16, UInt16.reduceToNat]
        omega
      rw [widen_cons, widen_cons, encode, hlead, hb,
        ← widen_cons, hbs]
      rfl

theorem encode_injective_ascii {t : Text} (hbs : IsAscii bs) (h : encode t = bs) :
    t = widen bs := by
  rw [← h] at hbs ⊢
  exact eq_widen_of_encode hbs

end Ecma
