/-
  IPv4 addresses (`ip`, `cidr` and `address_of` of `src/config_v3.cpp`).
-/
import GraphX.Config.Authored

namespace GraphX.Config

/-! ## `inet_pton` -/

/-- The parts of a text between its dots. -/
def splitDots : List Char → List (List Char)
  | [] => [[]]
  | c :: rest => if c = '.' then [] :: splitDots rest else
    match splitDots rest with
    | [] => [[c]]
    | part :: parts => (c :: part) :: parts

def digit? (c : Char) : Option ℕ := if c.isDigit then some (c.toNat - 48) else none

/-- A decimal octet: at most 255, and with no leading zero. -/
def octet? : List Char → Option ℕ
  | [a] => digit? a
  | [a, b] => do
    let x ← digit? a
    let y ← digit? b
    if x = 0 then none else some (10 * x + y)
  | [a, b, c] => do
    let x ← digit? a
    let y ← digit? b
    let z ← digit? c
    if x = 0 ∨ 255 < 100 * x + 10 * y + z then none else some (100 * x + 10 * y + z)
  | _ => none

def inetPton (text : List Char) : Option UInt32 :=
  match splitDots text with
  | [a, b, c, d] => do
    let w ← octet? a
    let x ← octet? b
    let y ← octet? c
    let z ← octet? d
    some (UInt32.ofNat (16777216 * w + 65536 * x + 256 * y + z))
  | _ => none

/-! ## Addresses of the configuration -/

/-- The characters of `std::string(text).c_str()`. -/
def cString (text : List Char) : List Char := text.takeWhile (· ≠ '\x00')

def ipOf (text : List Char) (path : String) : Except Failure UInt32 :=
  match inetPton (cString text) with
  | some address => .ok address
  | none => .error (.reject "E_ADDRESS" path "a numeric IPv4 address is required")

def ip (text path : String) : Except Failure UInt32 := ipOf text.toList path

structure Cidr where
  address : UInt32
  mask : UInt32
  deriving DecidableEq

/-- The digits of a prefix length, at most two. -/
def prefixBits : List Char → Option ℕ
  | [a] => digit? a
  | [a, b] => do
    let x ← digit? a
    let y ← digit? b
    some (10 * x + y)
  | _ => none

def maskOf (bits : ℕ) : UInt32 := if bits = 0 then 0 else 0xffffffff <<< UInt32.ofNat (32 - bits)

def hostPart (text : String) : List Char := text.toList.takeWhile (· ≠ '/')

def cidr (value path : String) : Except Failure Cidr := do
  require (value.toList.contains '/') "E_ADDRESS" path "an IPv4 CIDR is required"
  match prefixBits ((value.toList.dropWhile (· ≠ '/')).drop 1) with
  | none => .error (.reject "E_ADDRESS" path "invalid IPv4 prefix")
  | some bits =>
    require (decide (bits ≤ 32)) "E_ADDRESS" path "IPv4 prefix exceeds 32"
    let address ← ipOf (hostPart value) path
    .ok ⟨address, maskOf bits⟩

/-- `address_of`: the address of an attachment without its prefix length. -/
def addressOf (attachment : Attachment) : Except Failure String := do
  let address ← at? attachment.address
  .ok (String.ofList (hostPart address))

theorem ipOf_eq_ok {text : List Char} {path : String} {address : UInt32} :
    ipOf text path = .ok address ↔ inetPton (cString text) = some address := by
  unfold ipOf
  split <;> simp_all

theorem cidr_eq_ok {value path : String} {parsed : Cidr} (h : cidr value path = .ok parsed) :
    inetPton (cString (hostPart value)) = some parsed.address := by
  obtain ⟨-, h⟩ := Check.bind_unit_eq_ok.1 h
  split at h
  · cases h
  · obtain ⟨-, h⟩ := Check.bind_unit_eq_ok.1 h
    obtain ⟨address, haddress, h⟩ := Check.bind_eq_ok.1 h
    cases h
    exact ipOf_eq_ok.1 haddress

/-! ## Spelling -/

open List

theorem digit?_eq_some {c : Char} {n : ℕ} (h : digit? c = some n) : n < 10 ∧ c = Nat.digitChar n := by
  simp only [digit?, Option.ite_none_right_eq_some, Option.some.injEq, Char.isDigit,
    Bool.and_eq_true, decide_eq_true_eq] at h
  have hlow : 48 ≤ c.toNat := h.1.1
  have hhigh : c.toNat ≤ 57 := h.1.2
  have hchars : ∀ n < 10, (Nat.digitChar n).toNat = n + 48 := by decide
  have hn : n < 10 := by omega
  have := hchars n hn
  exact ⟨hn, Char.toNat_inj.1 (by omega)⟩

/-- An octet is spelled in one way. -/
theorem octet?_eq_some {s : List Char} {n : ℕ} (h : octet? s = some n) :
    n < 256 ∧ s = Nat.toDigits 10 n := by
  have happend (m d : ℕ) (hm : m ≠ 0) (hd : d < 10) :
      Nat.toDigits 10 (10 * m + d) = Nat.toDigits 10 m ++ [Nat.digitChar d] := by
    rw [← Nat.toDigits_append_toDigits (by decide) (Nat.pos_of_ne_zero hm) hd,
      Nat.toDigits_of_lt_base hd]
  unfold octet? at h
  split at h
  · obtain ⟨hn, rfl⟩ := digit?_eq_some h
    exact ⟨by omega, (Nat.toDigits_of_lt_base hn).symm⟩
  · simp only [Option.bind_eq_bind, Option.bind_eq_some_iff] at h
    obtain ⟨x, hx, y, hy, h⟩ := h
    obtain ⟨hx', rfl⟩ := digit?_eq_some hx
    obtain ⟨hy', rfl⟩ := digit?_eq_some hy
    split_ifs at h with hzero
    cases h
    refine ⟨by omega, ?_⟩
    rw [happend x y hzero hy', Nat.toDigits_of_lt_base hx']
    rfl
  · simp only [Option.bind_eq_bind, Option.bind_eq_some_iff] at h
    obtain ⟨x, hx, y, hy, z, hz, h⟩ := h
    obtain ⟨hx', rfl⟩ := digit?_eq_some hx
    obtain ⟨hy', rfl⟩ := digit?_eq_some hy
    obtain ⟨hz', rfl⟩ := digit?_eq_some hz
    split_ifs at h with hrange
    cases h
    refine ⟨by omega, ?_⟩
    rw [show 100 * x + 10 * y + z = 10 * (10 * x + y) + z by omega, happend _ z (by omega) hz',
      happend x y (by omega) hy', Nat.toDigits_of_lt_base hx']
    rfl
  · cases h

theorem splitDots_ne_nil (s : List Char) : splitDots s ≠ [] := by
  fun_cases splitDots s <;> simp

theorem intercalate_splitDots (s : List Char) : ['.'].intercalate (splitDots s) = s := by
  induction s with
  | nil => rfl
  | cons c rest ih =>
    unfold splitDots
    split_ifs with hc
    · rw [hc, intercalate_cons_of_ne_nil (splitDots_ne_nil rest), ih]
      rfl
    · cases hparts : splitDots rest with
      | nil => exact absurd hparts (splitDots_ne_nil rest)
      | cons part parts =>
        rw [hparts] at ih
        cases parts <;> simp_all [intercalate]

/-- An address is spelled in one way. -/
theorem inetPton_eq_some {s : List Char} {address : UInt32} (h : inetPton s = some address) :
    s = ['.'].intercalate ([16777216, 65536, 256, 1].map fun unit =>
      Nat.toDigits 10 (address.toNat / unit % 256)) := by
  unfold inetPton at h
  split at h
  · next a b c d hparts =>
    simp only [Option.bind_eq_bind, Option.bind_eq_some_iff, Option.some.injEq] at h
    obtain ⟨w, hw, x, hx, y, hy, z, hz, rfl⟩ := h
    obtain ⟨hw', rfl⟩ := octet?_eq_some hw
    obtain ⟨hx', rfl⟩ := octet?_eq_some hx
    obtain ⟨hy', rfl⟩ := octet?_eq_some hy
    obtain ⟨hz', rfl⟩ := octet?_eq_some hz
    have hvalue : (UInt32.ofNat (16777216 * w + 65536 * x + 256 * y + z)).toNat =
        16777216 * w + 65536 * x + 256 * y + z := 
      UInt32.toNat_ofNat_of_lt' (by simp only [UInt32.size]; omega)
    have hsame : [w, x, y, z] = [16777216, 65536, 256, 1].map fun unit =>
        (16777216 * w + 65536 * x + 256 * y + z) / unit % 256 := by
      simp only [map_cons, map_nil, cons.injEq, and_true]
      omega
    rw [← intercalate_splitDots s, hparts, hvalue]
    exact congrArg (fun units => ['.'].intercalate (units.map (Nat.toDigits 10))) hsame
  · cases h

end GraphX.Config
