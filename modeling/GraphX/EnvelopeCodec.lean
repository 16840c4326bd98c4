/-
  Correctness of the envelope codec.

  A `Wire` is the content of an encoded envelope with its attribute entries in
  wire order, and `Wire.encode` its bytes.

  Round trips in both directions follow.
-/
import GraphX.Envelope
import GraphX.Lib.Check

namespace GraphX

open Check Codec List Reader

/-! ## Integers and strings -/

theorem put_eq_toBE (v : UInt64) : ∀ {n}, n ≤ 8 → put n v = toBE n v.toNat
  | 0, _ => rfl
  | n + 1, h => by
    rw [put, toBE, put_eq_toBE v (by omega)]
    congr 1
    apply UInt8.toNat_inj.1
    have h8 : 8 * n % 64 = 8 * n := Nat.mod_eq_of_lt (by omega)
    have hs : (UInt64.ofNat (8 * n)).toNat = 8 * n := by
      rw [UInt64.toNat_ofNat']; exact Nat.mod_eq_of_lt (by omega)
    have hff : (0xff : UInt64).toNat = 2 ^ 8 - 1 := rfl
    rw [UInt64.toNat_toUInt8, UInt64.toNat_and, UInt64.toNat_shiftRight, hs, h8, hff,
      Nat.and_two_pow_sub_one_eq_mod, UInt8.toNat_ofNat', Nat.shiftRight_eq_div_pow,
      show (2 : ℕ) ^ (8 * n) = 256 ^ n by rw [pow_mul]; norm_num, Nat.mod_mod]

@[simp] theorem length_put (n : ℕ) (v : UInt64) : (put n v).length = n := by
  induction n with
  | zero => rfl
  | succ n ih => simp [put, ih]

/-- The accumulator of `Reader.get` is the big-endian value of the bytes read. -/
theorem foldl_shiftIn : ∀ (bs : Bytes) (v : UInt64),
    v.toNat * 256 ^ bs.length + 256 ^ bs.length ≤ 2 ^ 64 →
    (bs.foldl shiftIn v).toNat =
      v.toNat * 256 ^ bs.length + ofBE bs
  | [], v, _ => by simp [ofBE]
  | b :: bs, v, h => by
    rw [length_cons, pow_succ] at h
    have hp : 1 ≤ 256 ^ bs.length := Nat.one_le_pow _ _ (by norm_num)
    have hv : v.toNat * 256 + 256 ≤ 2 ^ 64 := by nlinarith
    have hb := b.toNat_lt
    have hstep : (shiftIn v b).toNat = v.toNat * 256 + b.toNat := by
      have h8 : (8 : UInt64).toNat % 64 = 8 := rfl
      have hl : v.toNat <<< 8 < 2 ^ 64 := by rw [Nat.shiftLeft_eq]; omega
      rw [shiftIn, UInt64.toNat_or, UInt64.toNat_shiftLeft, h8, UInt8.toNat_toUInt64, Nat.mod_eq_of_lt hl,
        ← Nat.shiftLeft_add_eq_or_of_lt hb, Nat.shiftLeft_eq]
    rw [foldl_cons, foldl_shiftIn bs _ (by rw [hstep]; nlinarith), hstep, ofBE_cons,
      length_cons]
    ring

theorem run_get_bind {α : Type} (f : Bytes → Reader α) (bs : Bytes) :
    ((get : Reader Bytes) >>= f).run bs = (f bs).run bs := rfl

theorem take_run (n : ℕ) (bs : Bytes) : (Reader.take n).run bs =
    if n ≤ bs.length then .ok (bs.take n, bs.drop n)
    else .error (.runtimeError "truncated envelope") := by
  unfold Reader.take check
  rw [run_get_bind]
  by_cases h : n ≤ bs.length <;> simp only [h] <;> rfl

theorem take_exact (n : ℕ) : Exact (take n) id (fun a => a.length = n) := by
  constructor
  · rintro a rest rfl
    rw [take_run]
    simp
  · intro bs a rest h
    rw [take_run] at h
    split_ifs at h with hn
    cases h
    exact ⟨by simp; omega, (take_append_drop n bs).symm⟩

/-- **Integers.** -/
theorem get_exact {n : ℕ} (hn : n ≤ 8) :
    Exact (get n) (put n) (fun v => v.toNat < 256 ^ n) := by
  have hpow : 256 ^ n ≤ 2 ^ 64 := by
    calc 256 ^ n ≤ 256 ^ 8 := Nat.pow_le_pow_right (by norm_num) hn
      _ = 2 ^ 64 := by norm_num
  have hfold : ∀ bs : Bytes, bs.length = n →
      (bs.foldl shiftIn 0).toNat = ofBE bs := by
    intro bs hbs
    rw [foldl_shiftIn bs 0 (by simpa [hbs] using hpow)]
    simp
  refine (take_exact n).map (put n) _ (fun v hv => ⟨by simp, ?_⟩) fun bs hbs => ⟨?_, ?_⟩
  · apply UInt64.toNat_inj.1
    rw [hfold _ (by simp), put_eq_toBE v hn, ofBE_toBE, Nat.mod_eq_of_lt hv]
  · rw [hfold bs hbs, ← hbs]; exact ofBE_lt bs
  · rw [put_eq_toBE _ hn, hfold bs hbs, ← hbs]; exact toBE_ofBE bs

def encString (s : Bytes) : Bytes := put 4 (UInt64.ofNat s.length) ++ s

theorem toNat_ofNat_length {s : Bytes} (h : s.length < 2 ^ 32) :
    (UInt64.ofNat s.length).toNat = s.length := by
  rw [UInt64.toNat_ofNat']; exact Nat.mod_eq_of_lt (by omega)

/-- **Strings.** -/
theorem string_exact : Exact string encString (fun s => s.length < 2 ^ 32) := by
  have hget := get_exact (n := 4) (by norm_num)
  constructor
  · intro s rest hs
    have hlen := toNat_ofNat_length hs
    unfold string encString
    rw [append_assoc, run_bind_of_ok (hget.complete _ _ (by rw [hlen]; norm_num; omega)), hlen]
    exact (take_exact _).complete s rest rfl
  · intro bs s rest h
    obtain ⟨v, r, hv, ht⟩ := run_bind_ok.1 h
    obtain ⟨hlt, rfl⟩ := hget.sound _ _ _ hv
    obtain ⟨hs, rfl⟩ := (take_exact _).sound _ _ _ ht
    refine ⟨by rw [hs]; exact hlt.trans_eq (by norm_num), ?_⟩
    rw [encString, hs, UInt64.ofNat_toNat]
    rfl

theorem putString_ok {s out : Bytes} :
    putString s = .ok out ↔ s.length < 2 ^ 32 ∧ out = encString s := by
  unfold putString encString
  split_ifs with h
  · simp; omega
  · simp only [Except.ok.injEq]
    constructor
    · rintro rfl; exact ⟨by omega, rfl⟩
    · rintro ⟨-, rfl⟩; rfl

@[simp] theorem length_encString (s : Bytes) : (encString s).length = 4 + s.length := by
  simp [encString]

/-! ## Identities -/

/-- A property of every byte is decided by evaluation, digit by digit. -/
theorem forall_byte {P : UInt8 → Prop} (h : ∀ i j : Fin 16, P (UInt8.ofNat (16 * i + j))) (b : UInt8) :
    P b := by
  have hlt := b.toNat_lt
  have := h ⟨b.toNat / 16, by omega⟩ ⟨b.toNat % 16, by omega⟩
  simpa [Nat.div_add_mod] using this

theorem hexDigits_spec : ∀ b : UInt8, isHexByte (hexDigit (b >>> 4)) ∧
    isHexByte (hexDigit (b &&& 0x0f)) ∧
    hexValue (hexDigit (b >>> 4)) = .ok (b >>> 4) ∧ hexValue (hexDigit (b &&& 0x0f)) = .ok (b &&& 0x0f) ∧
    ((b >>> 4) <<< 4) ||| (b &&& 0x0f) = b ∧
    ((hexDigit (b >>> 4) = ascii '0' ∧ hexDigit (b &&& 0x0f) = ascii '0') ↔ b = 0) :=
  forall_byte (by decide)

theorem hexByte_iff : ∀ c : UInt8, isHexByte c → ∃ n : Fin 16, c = hexDigit (UInt8.ofNat n) :=
  forall_byte (by decide)

theorem hexDigits_nibbles : ∀ n m : Fin 16,
    hexDigits ((UInt8.ofNat n <<< 4) ||| UInt8.ofNat m) =
      [hexDigit (UInt8.ofNat n), hexDigit (UInt8.ofNat m)] := by
  decide

/-- The bytes of a canonical or empty identity: an empty one is all zeros. -/
def encIdentity (v : Bytes) : Bytes :=
  if v.isEmpty then List.replicate 16 0 else
    match packHex v with
    | .ok out => out
    | .error _ => []

/-- The identities that can be written and read. -/
def IdentityOk (optional : Bool) (v : Bytes) : Prop :=
  isCanonicalIdentity v ∨ (optional ∧ v = [])

theorem packHex_flatMap (bs : Bytes) : packHex (bs.flatMap hexDigits) = .ok bs := by
  induction bs with
  | nil => rfl
  | cons b bs ih =>
    obtain ⟨-, -, hh, hl, hb, -⟩ := hexDigits_spec b
    simp only [flatMap_cons, hexDigits, cons_append, nil_append, packHex] at ih ⊢
    rw [hh, hl, ih]
    simp only [bind, Except.bind, pure, Except.pure, hb]

theorem exists_hexDigits : ∀ {n : ℕ} {v : Bytes}, v.length = 2 * n → v.all isHexByte →
    ∃ bs : Bytes, bs.length = n ∧ v = bs.flatMap hexDigits
  | 0, v, hl, _ => ⟨[], rfl, length_eq_zero_iff.1 hl⟩
  | n + 1, hi :: lo :: v, hl, h => by
    simp only [all_cons, Bool.and_eq_true] at h
    obtain ⟨a, rfl⟩ := hexByte_iff hi h.1
    obtain ⟨b, rfl⟩ := hexByte_iff lo h.2.1
    obtain ⟨bs, hbs, rfl⟩ := exists_hexDigits (n := n) (v := v)
      (by simp only [length_cons] at hl; omega) h.2.2
    exact ⟨((UInt8.ofNat a <<< 4) ||| UInt8.ofNat b) :: bs, by simp [hbs],
      by simp [flatMap_cons, hexDigits_nibbles]⟩
  | n + 1, [], hl, _ => by simp at hl
  | n + 1, [_], hl, _ => by simp at hl; omega

theorem any_nonzero_iff (bs : Bytes) :
    (bs.flatMap hexDigits).any (· != ascii '0') = !bs.all (· == 0) := by
  induction bs with
  | nil => rfl
  | cons b bs ih =>
    obtain ⟨-, -, -, -, -, hz⟩ := hexDigits_spec b
    simp only [flatMap_cons, any_append, ih]
    simp only [hexDigits]
    by_cases hb : b = 0
    · obtain ⟨h₁, h₂⟩ := hz.2 hb
      rw [hb]; rfl
    · have : ¬ (hexDigit (b >>> 4) = ascii '0' ∧ hexDigit (b &&& 0x0f) = ascii '0') :=
        fun h => hb (hz.1 h)
      have hb' : (b == 0) = false := by simpa using hb
      rcases not_and_or.1 this with h | h
      · simp [hb', bne_iff_ne.2 h]
      · simp [hb', bne_iff_ne.2 h]

theorem all_hexByte (bs : Bytes) : (bs.flatMap hexDigits).all isHexByte := by
  induction bs with
  | nil => rfl
  | cons b bs ih =>
    obtain ⟨h₁, h₂, -⟩ := hexDigits_spec b
    simp [hexDigits, h₁, h₂, ih]

theorem length_flatMap_hexDigits (bs : Bytes) :
    (bs.flatMap hexDigits).length = 2 * bs.length := by
  induction bs with
  | nil => rfl
  | cons b bs ih => simp [hexDigits]; omega

/-- The canonical identities are the hexadecimal forms of 16 bytes that are not
    all zero. -/
theorem isCanonicalIdentity_iff {v : Bytes} : isCanonicalIdentity v ↔
    ∃ bs : Bytes, bs.length = 16 ∧ bs.all (· == 0) = false ∧ v = bs.flatMap hexDigits := by
  unfold isCanonicalIdentity kIdentityHexLength
  constructor
  · intro h
    simp only [Bool.and_eq_true, beq_iff_eq] at h
    obtain ⟨⟨hl, ha⟩, hn⟩ := h
    obtain ⟨bs, hbs, rfl⟩ := exists_hexDigits (n := 16) hl ha
    rw [any_nonzero_iff, Bool.not_eq_true'] at hn
    exact ⟨bs, hbs, hn, rfl⟩
  · rintro ⟨bs, hbs, hz, rfl⟩
    simp only [length_flatMap_hexDigits, hbs, all_hexByte, any_nonzero_iff, hz]
    rfl

variable {bs : Bytes}

theorem encIdentity_flatMap (h : bs.length = 16) :
    encIdentity (bs.flatMap hexDigits) = bs := by
  have hne : (bs.flatMap hexDigits).isEmpty = false := by
    rw [isEmpty_eq_false_iff, ← length_pos_iff, length_flatMap_hexDigits]
    omega
  simp [encIdentity, hne, packHex_flatMap]

theorem length_encIdentity {optional : Bool} {v : Bytes} (h : IdentityOk optional v) :
    (encIdentity v).length = 16 := by
  rcases h with h | ⟨-, rfl⟩
  · obtain ⟨bs, hbs, -, rfl⟩ := isCanonicalIdentity_iff.1 h
    rw [encIdentity_flatMap hbs, hbs]
  · rfl

/-- **Identities.** -/
theorem identity_exact (optional : Bool) :
    Exact (identity optional) encIdentity (IdentityOk optional) := by
  constructor
  · rintro v rest (h | ⟨ho, rfl⟩)
    · obtain ⟨bs, hbs, hz, rfl⟩ := isCanonicalIdentity_iff.1 h
      rw [encIdentity_flatMap hbs]
      refine (run_bind_of_ok ((take_exact 16).complete bs rest hbs)).trans ?_
      simp only [hz]
      rfl
    · refine (run_bind_of_ok ((take_exact 16).complete (encIdentity []) rest rfl)).trans ?_
      rw [if_pos ho]
      rfl
  · intro bs v rest h
    obtain ⟨b, r, hb, h'⟩ := run_bind_ok.1 h
    obtain ⟨hl, rfl⟩ := (take_exact 16).sound _ _ _ hb
    cases hz : b.all (· == 0) with
    | true =>
      cases optional with
      | true =>
        simp only [hz] at h'
        obtain ⟨rfl, rfl⟩ := h'
        refine ⟨Or.inr ⟨rfl, rfl⟩, ?_⟩
        have : b = replicate 16 0 := eq_replicate_iff.2 ⟨hl, by simpa using hz⟩
        simp [this, encIdentity]
      | false =>
        simp only [hz] at h'
        cases h'
    | false =>
      simp only [hz] at h'
      obtain ⟨rfl, rfl⟩ := run_pure_ok.1 h'
      exact ⟨Or.inl (isCanonicalIdentity_iff.2 ⟨b, hl, hz, rfl⟩), by rw [encIdentity_flatMap hl]; rfl⟩

theorem putIdentity_ok {v out : Bytes} {field : String} {optional : Bool} :
    putIdentity v field optional = .ok out ↔ IdentityOk optional v ∧ out = encIdentity v := by
  unfold putIdentity IdentityOk
  by_cases hv : v = []
  · subst hv
    have hc : isCanonicalIdentity [] = false := rfl
    cases optional <;> simp [hc, encIdentity, eq_comm]
  · have he : v.isEmpty = false := by simpa using hv
    simp only [he, hv]
    cases hc : isCanonicalIdentity v with
    | false => simp
    | true =>
      obtain ⟨bs, hbs, -, rfl⟩ := isCanonicalIdentity_iff.1 hc
      simp [packHex_flatMap, encIdentity_flatMap hbs, eq_comm]

/-! ## Attribute entries -/

def encEntry (entry : Entry) : Bytes := encString entry.1 ++ encString entry.2

/-- Both strings of an entry have a 32-bit length. -/
def EntryOk (entry : Entry) : Prop := entry.1.length < 2 ^ 32 ∧ entry.2.length < 2 ^ 32

theorem emplace_true {a a' : Attributes} {key value : Bytes} :
    a.emplace key value = (a', true) ↔
      key ∉ a.entries.map Prod.fst ∧ a'.entries = (key, value) ::ₘ a.entries := by
  unfold Attributes.emplace
  split_ifs with h
  · simp [h]
  · simp only [Prod.mk.injEq, and_true, h, not_false_eq_true, true_and]
    constructor
    · rintro rfl; rfl
    · intro h'; exact Attributes.ext h'.symm

/-- **The attribute loop** reads any entries with new, distinct keys, and adds
    them all. -/
theorem attributes_run_iff : ∀ {n : ℕ} {acc acc' : Attributes} {bs rest : Bytes},
    (attributes n acc).run bs = .ok (acc', rest) ↔
      ∃ es : List Entry, es.length = n ∧ (∀ e ∈ es, EntryOk e) ∧
        bs = es.flatMap encEntry ++ rest ∧ acc'.entries = acc.entries + (es : Multiset Entry)
  | 0, acc, acc', bs, rest => by
    rw [attributes, run_pure_ok]
    constructor
    · rintro ⟨rfl, rfl⟩; exact ⟨[], rfl, by simp, rfl, by simp⟩
    · rintro ⟨es, hl, -, rfl, he⟩
      obtain rfl := length_eq_zero_iff.1 hl
      exact ⟨Attributes.ext (by simpa using he.symm), rfl⟩
  | n + 1, acc, acc', bs, rest => by
    simp only [attributes, run_bind_ok, string_exact.run_iff]
    constructor
    · rintro ⟨key, _, ⟨hkl, rfl⟩, value, _, ⟨hvl, rfl⟩, h⟩
      rcases hm : acc.emplace key value with ⟨acc₁, _ | _⟩
      · rw [hm] at h
        cases h
      · rw [hm] at h
        obtain ⟨es, hl, hes, rfl, he⟩ := attributes_run_iff.1 h
        refine ⟨(key, value) :: es, by simp [hl], forall_mem_cons.2 ⟨⟨hkl, hvl⟩, hes⟩,
          by simp [encEntry], ?_⟩
        rw [he, (emplace_true.1 hm).2, ← Multiset.cons_coe, Multiset.add_cons, Multiset.cons_add]
    · rintro ⟨_ | ⟨⟨key, value⟩, es⟩, hl, hes, rfl, he⟩
      · simp at hl
      obtain ⟨⟨hkl, hvl⟩, hes⟩ := forall_mem_cons.1 hes
      -- the keys of the result are distinct, so `key` is not among those of `acc`
      have hnd := acc'.nodup
      rw [he, ← Multiset.cons_coe, Multiset.add_cons, Multiset.map_cons, Multiset.nodup_cons] at hnd
      have hnew : key ∉ acc.entries.map Prod.fst := fun h =>
        hnd.1 (by rw [Multiset.map_add]; exact Multiset.mem_add.2 (Or.inl h))
      obtain ⟨acc₁, hm, hacc₁⟩ : ∃ acc₁ : Attributes, acc.emplace key value = (acc₁, true) ∧
        acc₁.entries = (key, value) ::ₘ acc.entries := ⟨_, dif_neg hnew, rfl⟩
      refine ⟨key, encString value ++ (es.flatMap encEntry ++ rest), ⟨hkl, by simp [encEntry]⟩, value, _,
        ⟨hvl, rfl⟩, ?_⟩
      rw [hm]
      refine attributes_run_iff.2 ⟨es, by simpa using hl, hes, rfl, ?_⟩
      rw [he, hacc₁, ← Multiset.cons_coe, Multiset.add_cons, Multiset.cons_add]

/-! ## Wires -/

/-- The content of an encoded envelope, its attribute entries in wire order. -/
structure Wire where
  sequence : UInt64
  timestampNs : Int64
  messageId : Bytes
  traceId : Bytes
  parentMessageId : Bytes
  type : Bytes
  entries : List Entry
  payload : Bytes

namespace Wire

def encode (w : Wire) : Bytes :=
  [ascii 'G', ascii 'X', ascii 'E', kEnvelopeWireVersion] ++ (put 8 w.sequence ++
    (put 8 w.timestampNs.toUInt64 ++ (encIdentity w.messageId ++ (encIdentity w.traceId ++
      (encIdentity w.parentMessageId ++ (encString w.type ++
        (put 4 (UInt64.ofNat w.entries.length) ++ (w.entries.flatMap encEntry ++
          encString w.payload))))))))

/-- A wire whose fields can all be represented, without duplicate keys. -/
structure Ok (w : Wire) : Prop where
  messageId : IdentityOk false w.messageId
  traceId : IdentityOk false w.traceId
  parentMessageId : IdentityOk true w.parentMessageId
  type : w.type.length < 2 ^ 32
  count : w.entries.length ≤ kMaxEnvelopeAttributes
  entries : ∀ e ∈ w.entries, EntryOk e
  nodup : (w.entries.map Prod.fst).Nodup
  payload : w.payload.length < 2 ^ 32

/-- `w` carries the content of `e`, its attributes in some order. -/
structure Represents (w : Wire) (e : Envelope) : Prop where
  sequence : w.sequence = e.sequence
  timestampNs : w.timestampNs = e.timestampNs
  messageId : w.messageId = e.messageId
  traceId : w.traceId = e.traceId
  parentMessageId : w.parentMessageId = e.parentMessageId
  type : w.type = e.type
  entries : (w.entries : Multiset Entry) = e.attributes.entries
  payload : w.payload = e.payload
  wireVersion : e.wireVersion = kEnvelopeWireVersion

variable {w : Wire}

theorem Represents.unique {e e' : Envelope} (h : w.Represents e) (h' : w.Represents e') :
    e = e' := by
  obtain ⟨_, _, _, _, ⟨_, _⟩, _, _, _, _⟩ := e
  obtain ⟨_, _, _, _, ⟨_, _⟩, _, _, _, _⟩ := e'
  obtain ⟨rfl, rfl, rfl, rfl, rfl, rfl, he, rfl, rfl⟩ := h
  obtain ⟨h1, h2, h3, h4, h5, h6, he', h7, h8⟩ := h'
  subst h1 h2 h3 h4 h5 h6 h7 h8 he he'
  rfl

theorem Ok.reorder (h : w.Ok) {es : List Entry} (hp : es.Perm w.entries) :
    Ok { w with entries := es } where
  messageId := h.messageId
  traceId := h.traceId
  parentMessageId := h.parentMessageId
  type := h.type
  count := hp.length_eq ▸ h.count
  entries e he := h.entries e (hp.subset he)
  nodup := (hp.map Prod.fst).nodup_iff.2 h.nodup
  payload := h.payload

theorem length_entries (es : List Entry) :
    (es.flatMap encEntry).length = (es.map entrySize).sum := by
  induction es with
  | nil => rfl
  | cons e es ih => simp [encEntry, entrySize, ih]; omega

theorem length_encode (h : w.Ok) : w.encode.length =
    72 + 4 + w.type.length + (w.entries.map entrySize).sum + 4 + w.payload.length := by
  simp only [encode, length_append, length_cons, length_nil, length_put,
    length_encIdentity h.messageId, length_encIdentity h.traceId,
    length_encIdentity h.parentMessageId, length_encString, length_entries]
  omega

theorem length_reorder (h : w.Ok) {es : List Entry} (hp : es.Perm w.entries) :
    (encode { w with entries := es }).length = w.encode.length := by
  rw [length_encode h, length_encode (h.reorder hp), (hp.map entrySize).sum_eq]

end Wire

/-! ## Reading an envelope -/

variable {rest : Bytes}

theorem byte_run_iff {b : UInt8} {v : UInt64} (hv : v.toUInt8 = b) :
    (get 1).run bs = .ok (v, rest) ↔ v = b.toUInt64 ∧ bs = b :: rest := by
  have hput : ∀ v : UInt64, v.toNat < 256 → put 1 v = [v.toUInt8] := by
    intro v hv
    rw [put_eq_toBE v (by norm_num)]
    simp only [toBE, pow_zero, Nat.div_one]
    rfl
  rw [(get_exact (n := 1) (by norm_num)).run_iff]
  constructor
  · rintro ⟨hlt, rfl⟩
    rw [hput v (by simpa using hlt), hv]
    refine ⟨UInt64.toNat_inj.1 ?_, rfl⟩
    rw [UInt8.toNat_toUInt64, ← hv]
    exact (Nat.mod_eq_of_lt (by simpa using hlt)).symm
  · rintro ⟨rfl, rfl⟩
    have hlt : b.toUInt64.toNat < 256 := by simpa using b.toNat_lt
    rw [hput _ hlt]
    simpa using b.toNat_lt

theorem magic_run_iff (cs : List Char) {u : Unit} :
    (magic cs).run bs = .ok (u, rest) ↔ bs = cs.map ascii ++ rest := by
  induction cs generalizing bs with
  | nil => rw [magic, run_pure_ok]; simp
  | cons c cs ih =>
    simp only [magic, run_bind_ok, run_check_ok, ih]
    constructor
    · rintro ⟨v, _, hv, _, _, ⟨hb, rfl⟩, rfl⟩
      obtain ⟨rfl, rfl⟩ := (byte_run_iff (beq_iff_eq.1 hb)).1 hv
      rfl
    · rintro rfl
      exact ⟨_, _, (byte_run_iff (b := ascii c) (by simp)).2 ⟨rfl, rfl⟩, (), _, ⟨by simp, rfl⟩, rfl⟩

variable {e : Envelope}

/-- **The reader accepts exactly the well-formed wires.** -/
theorem envelope_run_iff :
    envelope.run bs = .ok (e, rest) ↔
      rest = [] ∧ ∃ w : Wire, w.Ok ∧ bs = w.encode ∧ w.Represents e := by
  have h8 := get_exact (n := 8) (by norm_num)
  have h4 := get_exact (n := 4) (by norm_num)
  simp only [envelope, run_bind_ok, magic_run_iff, h8.run_iff, h4.run_iff, (identity_exact _).run_iff,
    string_exact.run_iff, attributes_run_iff, run_check_ok, run_get_bind, run_pure_ok]
  constructor
  · rintro ⟨_, _, rfl, version, _, hversion, _, _, ⟨hv, rfl⟩, sequence, _, ⟨-, rfl⟩, timestamp, _,
      ⟨-, rfl⟩, messageId, _, ⟨hm, rfl⟩, traceId, _, ⟨ht, rfl⟩, parentId, _, ⟨hp, rfl⟩, type, _,
      ⟨htl, rfl⟩, count, _, ⟨-, rfl⟩, _, _, ⟨hle, rfl⟩, attributes, _, ⟨es, hlen, hes, rfl, hent⟩,
      payload, _, ⟨hpl, rfl⟩, _, _, ⟨hempty, rfl⟩, rfl, rfl⟩
    obtain ⟨rfl, rfl⟩ := (byte_run_iff (beq_iff_eq.1 hv)).1 hversion
    obtain rfl := isEmpty_iff.1 hempty
    have hes' : (es : Multiset Entry) = attributes.entries := by
      rw [hent, Attributes.empty, zero_add]
    refine ⟨rfl, ⟨sequence, timestamp.toInt64, messageId, traceId, parentId, type, es, payload⟩,
      ⟨hm, ht, hp, htl, ?_, hes, ?_, hpl⟩, ?_, rfl, rfl, rfl, rfl, rfl, rfl, hes', rfl, beq_iff_eq.1 hv⟩
    · rw [hlen]
      exact of_decide_eq_true hle
    · have := attributes.nodup
      rwa [← hes', Multiset.map_coe, Multiset.coe_nodup] at this
    · simp only [Wire.encode, hlen, UInt64.ofNat_toNat, append_nil]
      rfl
  · rintro ⟨rfl, w, hw, rfl, hr⟩
    have hle := hw.count
    have hcount : (UInt64.ofNat w.entries.length).toNat = w.entries.length := by
      rw [UInt64.toNat_ofNat']
      exact Nat.mod_eq_of_lt (by unfold kMaxEnvelopeAttributes at hle; omega)
    have hlt : ∀ v : UInt64, v.toNat < 256 ^ 8 := fun v => v.toNat_lt.trans_eq (by norm_num)
    have hent : e.attributes.entries = Attributes.empty.entries + (w.entries : Multiset Entry) := by
      rw [← hr.entries, Attributes.empty, zero_add]
    refine ⟨(), _, rfl, _, _, (byte_run_iff (b := kEnvelopeWireVersion) (by simp)).2 ⟨rfl, rfl⟩, (), _,
      ⟨by simp, rfl⟩, _, _, ⟨hlt _, rfl⟩, _, _, ⟨hlt _, rfl⟩, _, _, ⟨hw.messageId, rfl⟩, _, _,
      ⟨hw.traceId, rfl⟩, _, _, ⟨hw.parentMessageId, rfl⟩, _, _, ⟨hw.type, rfl⟩, _, _, ⟨?_, rfl⟩, (), _,
      ⟨by simpa [hcount] using hle, rfl⟩, _, _, ⟨_, hcount.symm, hw.entries, rfl, hent⟩, _, _,
      ⟨hw.payload, (append_nil _).symm⟩, (), _, ⟨rfl, rfl⟩, ?_, rfl⟩
    · rw [hcount]
      unfold kMaxEnvelopeAttributes at hle
      omega
    · simp [hr.sequence, hr.timestampNs, hr.type, hr.traceId, hr.payload, hr.messageId,
        hr.parentMessageId, ← hr.wireVersion]

/-- **What `deserialize` accepts.** -/
theorem deserialize_iff : deserialize bs = .ok e ↔
    bs.length ≤ kMaxFrameBytes ∧ ∃ w : Wire, w.Ok ∧ bs = w.encode ∧ w.Represents e := by
  unfold deserialize
  by_cases hl : bs.length ≤ kMaxFrameBytes
  · rw [if_neg (by omega)]
    constructor
    · intro h
      rcases hr : envelope.run bs with x | ⟨e', rest⟩
      · rw [hr] at h; cases h
      · rw [hr] at h; cases h
        exact ⟨hl, (envelope_run_iff.1 hr).2⟩
    · rintro ⟨-, hw⟩
      rw [envelope_run_iff.2 ⟨rfl, hw⟩]; rfl
  · rw [if_pos (by omega)]
    simp [hl]

/-! ## Writing an envelope -/

theorem sorted_coe (a : Attributes) : (a.sorted : Multiset Entry) = a.entries := by
  obtain ⟨⟨l⟩, h⟩ := a
  exact Quot.sound (perm_insertionSort entryLe l)

theorem sorted_pairwise (a : Attributes) : a.sorted.Pairwise entryLe := by
  obtain ⟨⟨l⟩, h⟩ := a
  exact pairwise_insertionSort entryLe l

theorem foldl_addEntrySize (es : List Entry) {t : ℕ} (ht : t ≤ kMaxFrameBytes) :
    es.foldl addEntrySize (.ok t) =
      if t + (es.map entrySize).sum ≤ kMaxFrameBytes then .ok (t + (es.map entrySize).sum)
      else .error (.lengthError "envelope exceeds 16777216-byte protocol maximum") := by
  induction es generalizing t with
  | nil => simp [ht]
  | cons e es ih =>
    rw [foldl_cons, addEntrySize_ok, map_cons, sum_cons]
    by_cases h : t + entrySize e ≤ kMaxFrameBytes
    · rw [if_pos h, ih h, add_assoc]
    · rw [if_neg h, if_neg (by omega)]
      clear ih
      induction es with
      | nil => rfl
      | cons e' es ih => rw [foldl_cons, addEntrySize_error, ih]

/-- The wire `serialize` writes: the attributes sorted. -/
def wireOf (e : Envelope) : Wire where
  sequence := e.sequence
  timestampNs := e.timestampNs
  messageId := e.messageId
  traceId := e.traceId
  parentMessageId := e.parentMessageId
  type := e.type
  entries := e.attributes.sorted
  payload := e.payload

/-- The size that `encoded_size` adds up. -/
def wireSize (e : Envelope) : ℕ :=
  72 + 4 + e.type.length + (e.attributes.sorted.map entrySize).sum + 4 + e.payload.length

theorem encodedSize_ok {n : ℕ} : encodedSize e = .ok n ↔
    e.attributes.sorted.length ≤ kMaxEnvelopeAttributes ∧ n = wireSize e ∧ n ≤ kMaxFrameBytes := by
  have hsize : e.attributes.size = e.attributes.sorted.length := by
    rw [Attributes.size, ← sorted_coe, Multiset.coe_card]
  have hfold : ∀ x, e.attributes.entries.foldl addEntrySize x =
      e.attributes.sorted.foldl addEntrySize x := by
    intro x; rw [← sorted_coe, Multiset.coe_foldl]
  unfold encodedSize wireSize
  by_cases hc : e.attributes.size > kMaxEnvelopeAttributes
  · rw [if_pos hc]
    simp only [reduceCtorEq, false_iff]
    rintro ⟨h, -⟩; omega
  rw [if_neg hc, bind_eq_ok]
  simp only [checkedStringSize_eq, hfold]
  constructor
  · rintro ⟨t, ht, h⟩
    split_ifs at ht with h₁
    cases ht
    rw [foldl_addEntrySize _ h₁] at h
    obtain ⟨t', ht', h⟩ := bind_eq_ok.1 h
    split_ifs at ht' h
    cases ht'; cases h
    exact ⟨by omega, rfl, by omega⟩
  · rintro ⟨h, rfl, hn⟩
    refine ⟨_, if_pos (by omega), ?_⟩
    rw [foldl_addEntrySize _ (by omega), if_pos (by omega)]
    exact if_pos (by omega)

theorem serializedSize_ok {n : ℕ} : serializedSize e = .ok n ↔
    e.wireVersion = kEnvelopeWireVersion ∧ e.attributes.sorted.length ≤ kMaxEnvelopeAttributes ∧
      n = wireSize e ∧ n ≤ kMaxFrameBytes := by
  unfold serializedSize validateSerializable
  by_cases h : e.wireVersion = kEnvelopeWireVersion
  · simp only [h, true_and]
    exact encodedSize_ok
  · simp only [bne_iff_ne, ne_eq, h, false_and, iff_false]
    exact nofun

theorem putEntries_ok {es : List Entry} {out : Bytes} : putEntries es = .ok out ↔
    (∀ e ∈ es, EntryOk e) ∧ out = es.flatMap encEntry := by
  induction es generalizing out with
  | nil => simp [putEntries, pure, Except.pure]
  | cons e es ih =>
    simp only [putEntries, bind_eq_ok, putString_ok, ih, forall_mem_cons]
    constructor
    · rintro ⟨_, ⟨hk, rfl⟩, _, ⟨hv, rfl⟩, _, ⟨hes, rfl⟩, h⟩
      cases h
      exact ⟨⟨⟨hk, hv⟩, hes⟩, rfl⟩
    · rintro ⟨⟨⟨hk, hv⟩, hes⟩, rfl⟩
      exact ⟨_, ⟨hk, rfl⟩, _, ⟨hv, rfl⟩, _, ⟨hes, rfl⟩, rfl⟩

theorem wireOf_represents (h : e.wireVersion = kEnvelopeWireVersion) : (wireOf e).Represents e :=
  ⟨rfl, rfl, rfl, rfl, rfl, rfl, sorted_coe _, rfl, h⟩

theorem wireOf_nodup (e : Envelope) : ((wireOf e).entries.map Prod.fst).Nodup := by
  have := e.attributes.nodup
  rwa [← sorted_coe, Multiset.map_coe, Multiset.coe_nodup] at this

/-- **What `serialize` writes.** -/
theorem serialize_iff : serialize e = .ok bs ↔
    e.wireVersion = kEnvelopeWireVersion ∧ (wireOf e).Ok ∧
      (wireOf e).encode.length ≤ kMaxFrameBytes ∧ bs = (wireOf e).encode := by
  unfold serialize
  simp only [bind_eq_ok, serializedSize_ok, putIdentity_ok, putString_ok, putEntries_ok]
  constructor
  · rintro ⟨n, ⟨hv, hc, rfl, hn⟩, _, ⟨hm, rfl⟩, _, ⟨ht, rfl⟩, _, ⟨hp, rfl⟩, _, ⟨hty, rfl⟩, _,
      ⟨hes, rfl⟩, _, ⟨hpl, rfl⟩, h⟩
    cases h
    have hok : (wireOf e).Ok := ⟨hm, ht, hp, hty, hc, hes, wireOf_nodup e, hpl⟩
    refine ⟨hv, hok, by rw [Wire.length_encode hok]; exact hn, ?_⟩
    simp only [Wire.encode, wireOf, hv, append_assoc]
  · rintro ⟨hv, hok, hn, rfl⟩
    refine ⟨_, ⟨hv, hok.count, rfl, by rw [Wire.length_encode hok] at hn; exact hn⟩, _,
      ⟨hok.messageId, rfl⟩, _, ⟨hok.traceId, rfl⟩, _, ⟨hok.parentMessageId, rfl⟩, _,
      ⟨hok.type, rfl⟩, _, ⟨hok.entries, rfl⟩, _, ⟨hok.payload, rfl⟩, ?_⟩
    simp only [hv, append_assoc]
    rfl

/-! ## Round trips -/

theorem serializedSize_of_serialize (h : serialize e = .ok bs) :
    serializedSize e = .ok bs.length := by
  obtain ⟨hv, hok, hn, rfl⟩ := serialize_iff.1 h
  exact serializedSize_ok.2 ⟨hv, hok.count, Wire.length_encode hok, hn⟩

theorem deserialize_of_serialize (h : serialize e = .ok bs) : deserialize bs = .ok e := by
  obtain ⟨hv, hok, hn, rfl⟩ := serialize_iff.1 h
  exact deserialize_iff.2 ⟨hn, _, hok, rfl, wireOf_represents hv⟩

/-- **Encoding then decoding.**  What `serialize` returns has the announced
    size, and `deserialize` gives the envelope back. -/
theorem envelope_round_trip (e : Envelope) (bs : Bytes) (h : serialize e = .ok bs) :
    serializedSize e = .ok bs.length ∧ deserialize bs = .ok e :=
  ⟨serializedSize_of_serialize h, deserialize_of_serialize h⟩

theorem sampleEntries_nodup :
    (Multiset.map Prod.fst {(([9], [1]) : Entry), ([3, 4], [])}).Nodup := by decide

def sampleEnvelope : Envelope where
  sequence := 9223372036854775813
  timestampNs := -7
  type := [1, 2]
  traceId := "00112233445566778899aabbccddeeff".toList.map ascii
  attributes := ⟨_, sampleEntries_nodup⟩
  payload := [0, 255]
  messageId := "0000000000000000000000000000000f".toList.map ascii
  parentMessageId := []
  wireVersion := 2

/-- Its encoding, with the attributes in the given order. -/
def sampleBytes (entries : Bytes) : Bytes :=
  [71, 88, 69, 2, 128, 0, 0, 0, 0, 0, 0, 5, 255, 255, 255, 255, 255, 255, 255, 249,
    0, 0, 0, 0, 0, 0, 0, 0, 0, 0, 0, 0, 0, 0, 0, 15,
    0, 17, 34, 51, 68, 85, 102, 119, 136, 153, 170, 187, 204, 221, 238, 255,
    0, 0, 0, 0, 0, 0, 0, 0, 0, 0, 0, 0, 0, 0, 0, 0,
    0, 0, 0, 2, 1, 2, 0, 0, 0, 2] ++ entries ++ [0, 0, 0, 2, 0, 255]

theorem envelope_round_trip_sample :
    serializedSize sampleEnvelope =
        .ok (sampleBytes [0, 0, 0, 2, 3, 4, 0, 0, 0, 0, 0, 0, 0, 1, 9, 0, 0, 0, 1, 1]).length ∧
      deserialize (sampleBytes [0, 0, 0, 2, 3, 4, 0, 0, 0, 0, 0, 0, 0, 1, 9, 0, 0, 0, 1, 1]) =
        .ok sampleEnvelope :=
  envelope_round_trip _ _ (by decide +kernel)

/-- Two byte strings that differ only in the order of their attribute entries. -/
def SameUpToEntryOrder (bs bs' : Bytes) : Prop :=
  ∃ (w : Wire) (es : List Entry), w.Ok ∧ es.Perm w.entries ∧ bs = w.encode ∧
    bs' = Wire.encode { w with entries := es }

def SortsEntries (bs bs' : Bytes) : Prop :=
  ∃ w : Wire, w.Ok ∧ bs = w.encode ∧
    bs' = Wire.encode { w with entries := w.entries.insertionSort entryLe }

theorem Wire.Represents.wireOf_eq {w : Wire} (h : w.Represents e) :
    wireOf e = { w with entries := w.entries.insertionSort entryLe } := by
  have hs : e.attributes.sorted = w.entries.insertionSort entryLe := by
    refine List.Perm.eq_of_pairwise' (sorted_pairwise _) (pairwise_insertionSort entryLe _) ?_
    refine Multiset.coe_eq_coe.1 ?_
    rw [sorted_coe, ← h.entries]
    exact (Multiset.coe_eq_coe.2 (perm_insertionSort entryLe _)).symm
  simp only [wireOf, hs, h.sequence, h.timestampNs, h.messageId, h.traceId, h.parentMessageId,
    h.type, h.payload]

theorem serialize_of_deserialize (h : deserialize bs = .ok e) :
    ∃ bs', serialize e = .ok bs' ∧ bs'.length = bs.length ∧ SortsEntries bs bs' := by
  obtain ⟨hl, w, hw, rfl, hr⟩ := deserialize_iff.1 h
  have hp := perm_insertionSort entryLe w.entries
  have hlen := Wire.length_reorder hw hp
  refine ⟨_, serialize_iff.2 ⟨hr.wireVersion, ?_, ?_, rfl⟩, ?_, w, hw, rfl, ?_⟩
  · rw [hr.wireOf_eq]; exact hw.reorder hp
  · rw [hr.wireOf_eq, hlen]; exact hl
  · rw [hr.wireOf_eq, hlen]
  · rw [hr.wireOf_eq]

theorem Wire.Ok.exists_envelope {w : Wire} (h : w.Ok) : ∃ e, w.Represents e := by
  have hn : ((w.entries : Multiset Entry).map Prod.fst).Nodup := by
    rw [Multiset.map_coe]; exact h.nodup
  exact ⟨⟨w.sequence, w.timestampNs, w.type, w.traceId, ⟨w.entries, hn⟩, w.payload, w.messageId,
    w.parentMessageId, kEnvelopeWireVersion⟩, rfl, rfl, rfl, rfl, rfl, rfl, rfl, rfl, rfl⟩

theorem Wire.Ok.represents {w : Wire} (hw : w.Ok) (h : deserialize w.encode = .ok e) :
    w.Represents e := by
  obtain ⟨e', hr⟩ := hw.exists_envelope
  have h' := deserialize_iff.2 ⟨(deserialize_iff.1 h).1, w, hw, rfl, hr⟩
  rw [h] at h'
  cases h'; exact hr

theorem deserialize_eq_iff {bs' : Bytes} {e' : Envelope} (h : deserialize bs = .ok e)
    (h' : deserialize bs' = .ok e') : e = e' ↔ SameUpToEntryOrder bs bs' := by
  constructor
  · rintro rfl
    obtain ⟨-, w, hw, rfl, hr⟩ := deserialize_iff.1 h
    obtain ⟨-, w', -, rfl, hr'⟩ := deserialize_iff.1 h'
    refine ⟨w, w'.entries, hw, Multiset.coe_eq_coe.1 (hr'.entries.trans hr.entries.symm), rfl, ?_⟩
    obtain ⟨_, _, _, _, _, _, _, _⟩ := w
    obtain ⟨_, _, _, _, _, _, _, _⟩ := w'
    obtain ⟨rfl, rfl, rfl, rfl, rfl, rfl, -, rfl, -⟩ := hr
    obtain ⟨rfl, rfl, rfl, rfl, rfl, rfl, -, rfl, -⟩ := hr'
    rfl
  · rintro ⟨w, es, hw, hp, rfl, rfl⟩
    have hr := hw.represents h
    have hr' := (hw.reorder hp).represents h'
    -- reordering the entries does not change the envelope represented
    exact Wire.Represents.unique (w := { w with entries := es })
      ⟨hr.1, hr.2, hr.3, hr.4, hr.5, hr.6, (Multiset.coe_eq_coe.2 hp).trans hr.7, hr.8, hr.9⟩ hr'

/-- **Decoding then encoding.**  Accepted bytes are re-encoded at the same
    length with their entries sorted, and decode to the same envelope as other
    accepted bytes exactly if they differ in the order of the entries only. -/
theorem accepted_bytes_canonical (bs : Bytes) (e : Envelope) (h : deserialize bs = .ok e) :
    (∃ bs', serialize e = .ok bs' ∧ bs'.length = bs.length ∧ SortsEntries bs bs') ∧
      ∀ bs' e', deserialize bs' = .ok e' → (e = e' ↔ SameUpToEntryOrder bs bs') :=
  ⟨serialize_of_deserialize h, fun _ _ h' => deserialize_eq_iff h h'⟩

theorem accepted_bytes_canonical_sample :
    (∃ bs', serialize sampleEnvelope = .ok bs' ∧
        bs'.length = (sampleBytes [0, 0, 0, 1, 9, 0, 0, 0, 1, 1, 0, 0, 0, 2, 3, 4, 0, 0, 0, 0]).length ∧
        SortsEntries (sampleBytes [0, 0, 0, 1, 9, 0, 0, 0, 1, 1, 0, 0, 0, 2, 3, 4, 0, 0, 0, 0]) bs') ∧
      ∀ bs' e', deserialize bs' = .ok e' → (sampleEnvelope = e' ↔ SameUpToEntryOrder
        (sampleBytes [0, 0, 0, 1, 9, 0, 0, 0, 1, 1, 0, 0, 0, 2, 3, 4, 0, 0, 0, 0]) bs') :=
  accepted_bytes_canonical _ _ (by decide +kernel)

end GraphX
