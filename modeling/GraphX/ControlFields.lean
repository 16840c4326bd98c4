/-
  JSON objects in bytes, as the runtime writes and reads them: the fields of an object are
  found by their markers.
-/
import GraphX.ControlCommand
import GraphX.TelemetryVerification

namespace GraphX

open Ecma Search UdpJsonTraceSink List

/-! ## Objects in bytes -/

/-- The signs of JSON. -/
def json : Punctuation UInt8 where
  quote := ascii '"'
  colon := ascii ':'
  comma := ascii ','
  opening := ascii '\x7b'
  closing := ascii '\x7d'
  quote_ne := by decide
  comma_ne := by decide

/-- The bytes that stand for themselves in a string. -/
def bare (b : UInt8) : Bool := 0x20 ≤ b && b < 0x7f && b ≠ ascii '"' && b ≠ ascii '\\'

/-- Texts of such bytes. -/
def Bare (s : Bytes) : Prop := s.all bare = true

instance (s : Bytes) : Decidable (Bare s) := inferInstanceAs (Decidable (_ = _))

variable {s : Bytes}

theorem Bare.mem (h : Bare s) {b : UInt8} (hb : b ∈ s) : bare b = true :=
  all_eq_true.1 h b hb

theorem Bare.quote_not_mem (h : Bare s) : ascii '"' ∉ s :=
  fun hb => absurd (h.mem hb) (by decide)

theorem Bare.isAscii (h : Bare s) : IsAscii s := by
  have hbare : ∀ b : UInt8, bare b = true → b < 0x80 := forall_byte (by decide)
  exact fun b hb => hbare b (h.mem hb)

theorem Bare.quote (h : Bare s) : quote (widen s) = widen (json.quoted s) := by
  have hbare : ∀ b : UInt8, bare b = true → quoteUnit b.toUInt16 = [b.toUInt16] :=
    forall_byte (by decide)
  have hbody : (widen s).flatMap quoteUnit = widen s := by
    induction s with
    | nil => rfl
    | cons b s ih =>
      have hs : Bare s := all_eq_true.2 fun c hc => h.mem (mem_cons_of_mem _ hc)
      rw [widen_cons, flatMap_cons, hbare b (h.mem (mem_cons_self ..)), ih hs]
      rfl
  rw [Ecma.quote, quoteBody_eq lt_surrogate_of_mem_widen, hbody]
  simp only [Punctuation.quoted, widen_cons, widen_append]
  rfl

theorem Bare.escapeJson (h : Bare s) : escapeJson s = s := by
  have hbare : ∀ b : UInt8, bare b = true → escapeByte b = [b] := forall_byte (by decide)
  induction s with
  | nil => rfl
  | cons b s ih =>
    have hs : Bare s := all_eq_true.2 fun c hc => h.mem (mem_cons_of_mem _ hc)
    rw [GraphX.escapeJson, flatMap_cons, hbare b (h.mem (mem_cons_self ..)),
      ← GraphX.escapeJson, ih hs]
    rfl

theorem bare_hexText (bytes : Bytes) : Bare (hexText bytes) := by
  have hdigits : ∀ b : UInt8, (Reader.hexDigits b).all bare = true := forall_byte (by decide)
  induction bytes with
  | nil => rfl
  | cons b bytes ih =>
    rw [Bare, hexText, flatMap_cons, all_append, hdigits b]
    exact ih

theorem length_hexText (bytes : Bytes) : (hexText bytes).length = 2 * bytes.length := by
  induction bytes with
  | nil => rfl
  | cons b bytes ih =>
    rw [hexText, flatMap_cons, length_append, ← hexText]
    simp only [Reader.hexDigits, length_cons, length_nil]
    omega

theorem bare_narrow {t : Text} (h : Numeric t) : Bare (narrow t) := by
  refine all_eq_true.2 fun b hb => ?_
  obtain ⟨u, hu, rfl⟩ := mem_map.1 hb
  exact forall_numeric (P := fun u => bare u.toUInt8 = true) (by decide) (by decide) (h u hu)

theorem bare_integerText (n : ℤ) : Bare (integerText n) := bare_narrow (numeric_decimalInt n)

variable {fields : List (Bytes × Bytes)}

/-- **The bytes of an object are its text in ECMAScript.** -/
theorem widen_object (hne : fields ≠ []) (h : ∀ f ∈ fields, Bare f.1) :
    widen (json.object fields) = object (fields.map fun f => (widen f.1, widen f.2)) := by
  have hmarker : ∀ f : Bytes × Bytes, Bare f.1 →
      widen (json.marker f.1 ++ f.2) = fieldText (widen f.1, widen f.2) := by
    intro f hf
    have hsplit : json.marker f.1 = json.quoted f.1 ++ [json.colon] := by
      simp [Punctuation.marker, Punctuation.quoted]
    rw [fieldText, hf.quote, hsplit]
    simp only [widen_append, append_assoc]
    rfl
  have hending : ∀ fields : List (Bytes × Bytes), (∀ f ∈ fields, Bare f.1) →
      widen (json.ending fields) =
        ((fields.map fun f => (widen f.1, widen f.2)).flatMap fun g => unit ',' :: fieldText g) ++
          [unit '\x7d'] := by
    intro fields hfields
    induction fields with
    | nil => rfl
    | cons f fields ih =>
      obtain ⟨hf, hrest⟩ := forall_mem_cons.1 hfields
      rw [Punctuation.ending, widen_cons, ← append_assoc, widen_append, hmarker f hf, ih hrest,
        map_cons, flatMap_cons, append_assoc]
      rfl
  obtain ⟨f, fields, rfl⟩ := exists_cons_of_ne_nil hne
  obtain ⟨hf, hrest⟩ := forall_mem_cons.1 h
  rw [Punctuation.object, widen_cons, ← append_assoc, widen_append, hmarker f hf,
    hending fields hrest, map_cons, object_cons, append_assoc]
  rfl

variable {ms : List (Text × Json)}

theorem reads_stringify (hne : ms ≠ []) (h : ∀ m ∈ ms, IsName m.1 ∧ Reads (stringify m.2) m.2)
    (hnames : (ms.map Prod.fst).Nodup) : Reads (stringify (.obj ms)) (.obj ms) := by
  have hfields := @reads_object (ms.map fun m => ⟨m.1, stringify m.2, m.2⟩) (by simpa using hne)
    (by
      intro f hf
      obtain ⟨m, hm, rfl⟩ := mem_map.1 hf
      exact ⟨(h m hm).1.1, (h m hm).1.2, (h m hm).2⟩)
    (by simpa [Function.comp_def] using hnames)
  simp only [map_map, Function.comp_def, Field.member, map_id'] at hfields
  rwa [stringify, stringifyMembers_eq]

/-! ## Numbers -/

theorem isDigitByte_narrow (n : ℕ) : ∀ b ∈ narrow (decimal n), isDigitByte b = true := by
  intro b hb
  obtain ⟨u, hu, rfl⟩ := mem_map.1 hb
  obtain ⟨d, hlt, rfl⟩ := exists_digit (isDigit_decimal n u hu)
  interval_cases d <;> decide

theorem takeWhile_digits {digits rest : Bytes} (hdigits : ∀ b ∈ digits, isDigitByte b = true)
    (hrest : ∀ b ∈ rest.head?, isDigitByte b = false) :
    (digits ++ rest).takeWhile isDigitByte = digits := by
  rw [takeWhile_append_of_pos hdigits]
  cases rest with
  | nil => simp
  | cons b rest => simp [hrest b rfl]

theorem integerText_eq (n : ℤ) : ∃ sign : Bytes, ∃ m : ℕ, integerText n = sign ++ narrow (decimal m) ∧
    ((sign = [] ∧ n = m) ∨ (sign = [ascii '-'] ∧ n = -m)) := by
  cases n with
  | ofNat m => exact ⟨[], m, rfl, .inl ⟨rfl, rfl⟩⟩
  | negSucc m => exact ⟨[ascii '-'], m + 1, rfl, .inr ⟨rfl, by simp [Int.negSucc_eq]⟩⟩

theorem narrow_decimal_ne_nil (m : ℕ) : narrow (decimal m) ≠ [] := by
  simpa [narrow] using decimal_ne_nil m

theorem value_narrow (m : ℕ) : value (widen (narrow (decimal m))) = m := by
  rw [widen_narrow fun u hu => lt_of_isNumeric (numeric_decimal m u hu), value_decimal]

theorem digit_head {m : ℕ} {b : UInt8} (h : b ∈ (narrow (decimal m)).head?) :
    isSpaceByte b = false ∧ b ≠ ascii '-' ∧ b ≠ ascii '+' := by
  have hdigit : ∀ b : UInt8, isDigitByte b = true →
      isSpaceByte b = false ∧ b ≠ ascii '-' ∧ b ≠ ascii '+' := forall_byte (by decide)
  exact hdigit b (isDigitByte_narrow m b (mem_of_mem_head? h))

theorem stoll_integerText {n : ℤ} (hlow : -2 ^ 63 ≤ n) (hhigh : n < 2 ^ 63) :
    stoll (integerText n) = some (n, (integerText n).length) := by
  obtain ⟨sign, m, htext, hsign⟩ := integerText_eq n
  obtain ⟨b, digits, hdigits⟩ := exists_cons_of_ne_nil (narrow_decimal_ne_nil m)
  obtain ⟨hspace, hminus, hplus⟩ := digit_head (m := m) (b := b) (by rw [hdigits]; rfl)
  have htake : (narrow (decimal m)).takeWhile isDigitByte = narrow (decimal m) := by
    simpa using isDigitByte_narrow m
  have hrange : ¬((narrow (decimal m)).isEmpty || decide (n < -2 ^ 63) || decide (2 ^ 63 ≤ n)) := by
    simp only [Bool.or_eq_true, List.isEmpty_iff, decide_eq_true_eq, not_or, not_lt, not_le]
    exact ⟨⟨narrow_decimal_ne_nil m, hlow⟩, hhigh⟩
  rcases hsign with ⟨rfl, rfl⟩ | ⟨rfl, rfl⟩
  · have hblank : (narrow (decimal m)).takeWhile isSpaceByte = [] := by
      rw [hdigits, takeWhile_cons, hspace]; rfl
    have hnone : signOf (narrow (decimal m)) = (false, 0) := by
      rw [hdigits, signOf, if_neg hminus, if_neg hplus]
    rw [htext, nil_append, stoll, hblank]
    simp only [length_nil, drop_zero, hnone, htake, value_narrow, zero_add]
    exact if_neg hrange
  · have hblank : (ascii '-' :: narrow (decimal m)).takeWhile isSpaceByte = [] := rfl
    have hsign : signOf (ascii '-' :: narrow (decimal m)) = (true, 1) := rfl
    rw [htext, singleton_append, stoll, hblank]
    simp only [length_nil, drop_zero, hsign, drop_succ_cons, htake,
      value_narrow, if_true]
    rw [if_neg hrange, length_cons, Nat.add_comm]

theorem length_integerText (n : ℤ) {rest : Bytes} (hrest : ∀ b ∈ rest.head?, isDigitByte b = false) :
    let minus := if (integerText n ++ rest)[0]? = some (ascii '-') then 1 else 0
    minus + (((integerText n ++ rest).drop minus).takeWhile isDigitByte).length =
        (integerText n).length ∧ minus < (integerText n).length := by
  obtain ⟨sign, m, htext, hsign⟩ := integerText_eq n
  obtain ⟨b, digits, hdigits⟩ := exists_cons_of_ne_nil (narrow_decimal_ne_nil m)
  obtain ⟨-, hminus, -⟩ := digit_head (m := m) (b := b) (by rw [hdigits]; rfl)
  have htake := takeWhile_digits (isDigitByte_narrow m) hrest
  rw [htext]
  rcases hsign with ⟨rfl, -⟩ | ⟨rfl, -⟩
  · have hnot : (narrow (decimal m) ++ rest)[0]? ≠ some (ascii '-') := by
      rw [hdigits]
      simpa using hminus
    simp only [nil_append, if_neg hnot, drop_zero, htake]
    simp [hdigits]
  · simp only [cons_append, nil_append, getElem?_cons_zero, if_true,
      drop_succ_cons, drop_zero, htake]
    refine ⟨Nat.add_comm _ _, ?_⟩
    simp [hdigits]

/-! ## Finding fields -/

section fields

variable {lead key rest : Bytes} {before after : List (Bytes × Bytes)}

/-- The fields before the one that is looked for. -/
def OtherFields (key : Bytes) (fields : List (Bytes × Bytes)) : Prop :=
  ∀ f ∈ fields, ascii '"' ∉ f.1 ∧ key ≠ f.1 ∧ json.Simple f.2

theorem stringMarker_eq (key : Bytes) :
    chars "\"" ++ key ++ chars "\":\"" = json.marker key ++ [ascii '"'] := by
  simp only [Punctuation.marker, append_assoc, cons_append]
  rfl

theorem integerMarker_eq (key : Bytes) : chars "\"" ++ key ++ chars "\":" = json.marker key := by
  rfl

theorem json_ending_head (after : List (Bytes × Bytes)) :
    ∀ b ∈ (json.ending after).head?, isDigitByte b = false := by
  cases after <;> simp [Punctuation.ending] <;> decide

section found

variable {input v : Bytes} {start : ℕ}

variable (rest) in
theorem jsonStringField_found {maximum : ℕ}
    (hfind : find (json.marker key ++ [ascii '"']) input = some start)
    (hdrop : input.drop (start + (json.marker key ++ [ascii '"']).length) = v ++ ascii '"' :: rest)
    (hv : Bare v) (hlength : v.length ≤ maximum) : jsonStringField input key maximum = v := by
  have hstop : find (chars "\"") (v ++ ascii '"' :: rest) = some v.length :=
    (@find_here _ (chars "\"") _ _ _ (absent_of_not_mem hv.quote_not_mem)).1
  have hslash : v.contains (ascii '\\') = false := by
    rw [← Bool.not_eq_true, contains_iff_mem]
    exact fun hb => absurd (hv.mem hb) (by decide)
  rw [jsonStringField, stringMarker_eq, hfind]
  simp only [findFrom, hdrop, hstop, Option.map_some, substr, Nat.add_sub_cancel, take_left',
    hslash, gt_iff_lt, not_lt.2 hlength, decide_false, Bool.or_self, Bool.false_eq_true, if_false]

variable (rest) in
theorem jsonAuthField_found (hfind : find (json.marker key ++ [ascii '"']) input = some start)
    (hdrop : input.drop (start + (json.marker key ++ [ascii '"']).length) = v ++ ascii '"' :: rest) :
    jsonAuthField input key v.length = v := by
  have hinside : start + (json.marker key ++ [ascii '"']).length + v.length < input.length := by
    have := congrArg length hdrop
    simp only [length_drop, length_append, length_cons] at this ⊢
    omega
  have hend : input[start + (json.marker key ++ [ascii '"']).length + v.length]? =
      some (ascii '"') := by
    rw [← getElem?_drop, hdrop]
    simp
  rw [jsonAuthField, stringMarker_eq, hfind]
  simp only [substr, hdrop, hend, ge_iff_le, not_le.2 hinside, decide_false, ne_eq, not_true,
    Bool.or_self, Bool.false_eq_true, if_false, take_left']

variable (rest) in
theorem jsonIntegerField_found {n : ℤ} (hfind : find (json.marker key) input = some start)
    (hdrop : input.drop (start + (json.marker key).length) = integerText n ++ rest)
    (hrest : ∀ b ∈ rest.head?, isDigitByte b = false) (hlow : -2 ^ 63 ≤ n) (hhigh : n < 2 ^ 63) :
    jsonIntegerField input key = some n := by
  obtain ⟨hlength, hminus⟩ := length_integerText n hrest
  have hfirst : input[start + (json.marker key).length]? = (integerText n ++ rest)[0]? := by
    rw [← hdrop, getElem?_drop, Nat.add_zero]
  rw [jsonIntegerField, integerMarker_eq, hfind]
  simp only [hfirst, ← drop_drop, hdrop, hlength, substr, take_left', if_neg hminus.ne',
    stoll_integerText hlow hhigh, if_true]

end found

/-- Where a field of an object is found, behind a text that does not hold its
    name. -/
theorem find_object {f : Bytes × Bytes} {tail : Bytes} (hkey : json.Name f.1)
    (hlead : ∀ s, Absent (json.marker f.1 ++ tail) lead s) (hbefore : OtherFields f.1 before)
    (hf : f.2 = tail ++ rest) (trail : Bytes) :
    ∃ start, find (json.marker f.1 ++ tail) (lead ++ (json.object (before ++ f :: after) ++ trail)) =
        some start ∧
      (lead ++ (json.object (before ++ f :: after) ++ trail)).drop
        (start + (json.marker f.1 ++ tail).length) = rest ++ (json.ending after ++ trail) := by
  have htext : lead ++ (json.object (before ++ f :: after) ++ trail) =
      lead ++ (json.opening :: json.leading before) ++
        (json.marker f.1 ++ tail ++ (rest ++ (json.ending after ++ trail))) := by
    rw [json.object_append, hf]
    simp
  rw [htext]
  exact ⟨_, find_here (absent_append.2 ⟨hlead _, hkey.absent_leading hbefore⟩)⟩

variable (before) in
/-- **The strings of an object.** -/
theorem jsonStringField_object {v : Bytes} {maximum : ℕ} (hkey : json.Name key)
    (hbefore : OtherFields key before) (hv : Bare v) (hlength : v.length ≤ maximum) :
    jsonStringField (json.object (before ++ (key, json.quoted v) :: after)) key maximum = v := by
  obtain ⟨start, hfind, hdrop⟩ := @find_object [] (v ++ [ascii '"']) before after
    (key, json.quoted v) [ascii '"'] hkey (fun _ => trivial) hbefore rfl []
  rw [append_nil, nil_append] at hfind hdrop
  refine jsonStringField_found (json.ending after) hfind ?_ hv hlength
  rw [hdrop]
  simp

variable (before after) in
/-- **The numbers of an object.** -/
theorem jsonIntegerField_object {n : ℤ} (hkey : json.Name key) (hbefore : OtherFields key before)
    (hlow : -2 ^ 63 ≤ n) (hhigh : n < 2 ^ 63) :
    jsonIntegerField (json.object (before ++ (key, integerText n) :: after)) key = some n := by
  obtain ⟨start, hfind, hdrop⟩ := @find_object [] (integerText n) before after (key, integerText n)
    [] hkey (fun _ => trivial) hbefore rfl []
  rw [append_nil, append_nil, nil_append] at hfind hdrop
  refine jsonIntegerField_found (json.ending after) hfind ?_ (json_ending_head after) hlow hhigh
  rw [hdrop, append_nil]

theorem json_name {key : String} (h : chars key ≠ [] ∧ (chars key).all (fun b => b ≠ ascii '"' &&
    b ≠ ascii ':' && b ≠ ascii ',') = true) : json.Name (chars key) := by
  have hall : ∀ b ∈ chars key, b ≠ ascii '"' ∧ b ≠ ascii ':' ∧ b ≠ ascii ',' := by
    simpa [and_assoc] using h.2
  exact ⟨h.1, fun hb => (hall _ hb).1 rfl, fun hb => (hall _ hb).2.1 rfl, fun hb => (hall _ hb).2.2 rfl⟩

theorem simple_quoted {v : Bytes} (hv : Bare v) : json.Simple (json.quoted v) :=
  .inr ⟨v, hv.quote_not_mem, rfl⟩

theorem simple_integerText (n : ℤ) : json.Simple (integerText n) :=
  .inl (bare_integerText n).quote_not_mem

end fields

/-! ## Printing -/

theorem stringify_bare (h : Bare s) : stringify (.str (widen s)) = widen (json.quoted s) := by
  rw [stringify, h.quote]

/-- A member of an object and the bytes of its name and its value. -/
structure Printed (m : Text × Json) (f : Bytes × Bytes) : Prop where
  bare : Bare f.1
  name : m.1 = widen f.1
  value : stringify m.2 = widen f.2 ∧ IsAscii f.2

theorem isAscii_object (h : ∀ f ∈ fields, IsAscii f.1 ∧ IsAscii f.2) :
    IsAscii (json.object fields) := by
  have hmarker : ∀ {name : Bytes}, IsAscii name → IsAscii (json.marker name) := by
    intro name hname
    have hsplit : json.marker name = [ascii '"'] ++ (name ++ [ascii '"', ascii ':']) := rfl
    rw [hsplit, isAscii_append, isAscii_append]
    exact ⟨by decide, hname, by decide⟩
  have hending : ∀ fields : List (Bytes × Bytes), (∀ f ∈ fields, IsAscii f.1 ∧ IsAscii f.2) →
      IsAscii (json.ending fields) := by
    intro fields hfields
    induction fields with
    | nil => decide
    | cons f fields ih =>
      obtain ⟨hf, hrest⟩ := forall_mem_cons.1 hfields
      rw [Punctuation.ending, ← singleton_append, isAscii_append, isAscii_append, isAscii_append]
      exact ⟨by decide, hmarker hf.1, hf.2, ih hrest⟩
  cases fields with
  | nil => decide
  | cons f fields =>
    obtain ⟨hf, hrest⟩ := forall_mem_cons.1 h
    rw [Punctuation.object, ← singleton_append, isAscii_append, isAscii_append, isAscii_append]
    exact ⟨by decide, hmarker hf.1, hf.2, hending fields hrest⟩

theorem printed_object (hne : fields ≠ []) (h : List.Forall₂ Printed ms fields) :
    stringify (.obj ms) = widen (json.object fields) ∧ IsAscii (json.object fields) := by
  have hboth : ms.map (fun m => (m.1, stringify m.2)) = fields.map (fun f => (widen f.1, widen f.2)) ∧
      ∀ f ∈ fields, Bare f.1 ∧ IsAscii f.2 := by
    clear hne
    induction h with
    | nil => exact ⟨rfl, fun f hf => absurd hf not_mem_nil⟩
    | cons hmf _ ih =>
      refine ⟨?_, forall_mem_cons.2 ⟨⟨hmf.bare, hmf.value.2⟩, ih.2⟩⟩
      rw [map_cons, map_cons, ih.1, hmf.name, hmf.value.1]
  refine ⟨?_, isAscii_object fun f hf => ⟨(hboth.2 f hf).1.isAscii, (hboth.2 f hf).2⟩⟩
  rw [stringify, stringifyMembers_eq, hboth.1, widen_object hne fun f hf => (hboth.2 f hf).1]

theorem encode_object (hne : fields ≠ []) (h : List.Forall₂ Printed ms fields) :
    encode (stringify (.obj ms)) = json.object fields := by
  rw [(printed_object hne h).1, encode_widen (printed_object hne h).2]

theorem Bare.isAscii_quoted (h : Bare s) : IsAscii (json.quoted s) := by
  have hsplit : json.quoted s = [ascii '"'] ++ (s ++ [ascii '"']) := rfl
  rw [hsplit, isAscii_append, isAscii_append]
  exact ⟨by decide, h.isAscii, by decide⟩

theorem Bare.printed (h : Bare s) :
    stringify (.str (widen s)) = widen (json.quoted s) ∧ IsAscii (json.quoted s) :=
  ⟨stringify_bare h, h.isAscii_quoted⟩

theorem length_object (f : Bytes × Bytes) (fields : List (Bytes × Bytes)) :
    (json.object (f :: fields)).length =
      ((f :: fields).map fun f => f.1.length + f.2.length + 4).sum + 1 := by
  have hending : ∀ fields : List (Bytes × Bytes), (json.ending fields).length =
      (fields.map fun f => f.1.length + f.2.length + 4).sum + 1 := by
    intro fields
    induction fields with
    | nil => rfl
    | cons f fields ih =>
      simp only [Punctuation.ending, Punctuation.marker, length_cons, length_append, map_cons,
        sum_cons, length_nil]
      omega
  simp only [Punctuation.object, Punctuation.marker, length_cons, length_append, hending,
    map_cons, sum_cons, length_nil]
  omega

theorem length_integerText_le {n : ℤ} (h : n.natAbs < 2 ^ 53) : (integerText n).length ≤ 17 := by
  have hdecimal : ∀ {m : ℕ}, m < 2 ^ 53 → (narrow (decimal m)).length ≤ 16 := by
    intro m hm
    rw [narrow, length_map]
    exact length_decimal_le (by decide) (lt_trans hm (by norm_num))
  obtain ⟨sign, m, htext, ⟨rfl, rfl⟩ | ⟨rfl, rfl⟩⟩ := integerText_eq n
  all_goals
    have := hdecimal (m := m) (by omega)
    rw [htext]
    simp only [length_append, length_nil, length_cons]
    omega

end GraphX
