/-
  JSON as ECMAScript reads and prints it.
-/
import GraphX.Lib.Number

namespace Ecma

open List

inductive Json where
  | null
  | bool (b : Bool)
  | num (n : Number)
  | str (s : Text)
  | arr (elements : List Json)
  | obj (members : List (Text × Json))

/-! ## Printing -/

def isLead (u : UInt16) : Bool := 0xd800 ≤ u && u < 0xdc00

def isTrail (u : UInt16) : Bool := 0xdc00 ≤ u && u < 0xe000

/-- A hexadecimal digit in lower case. -/
def hexDigit (d : UInt16) : UInt16 := if d < 10 then 48 + d else 87 + d

/-- `\uXXXX` -/
def unicodeEscape (u : UInt16) : Text :=
  text "\\u" ++ [hexDigit (u >>> 12), hexDigit (u >>> 8 &&& 0xf), hexDigit (u >>> 4 &&& 0xf),
    hexDigit (u &&& 0xf)]

/-- A code unit that is not part of a surrogate pair, inside a string. -/
def quoteUnit (u : UInt16) : Text :=
  if u = 0x08 then text "\\b"
  else if u = 0x09 then text "\\t"
  else if u = 0x0a then text "\\n"
  else if u = 0x0c then text "\\f"
  else if u = 0x0d then text "\\r"
  else if u = 0x22 then text "\\\""
  else if u = 0x5c then text "\\\\"
  else if u < 0x20 || isLead u || isTrail u then unicodeEscape u
  else [u]

def quoteBody : Text → Text
  | [] => []
  | [u] => quoteUnit u
  | u :: v :: rest =>
    if isLead u && isTrail v then u :: v :: quoteBody rest
    else quoteUnit u ++ quoteBody (v :: rest)

/-- `QuoteJSONString` -/
def quote (s : Text) : Text := unit '"' :: quoteBody s ++ [unit '"']

/-- The members of an object, from their names and the texts of their values. -/
def fieldTexts : List (Text × Text) → Text
  | [] => []
  | [(k, t)] => quote k ++ unit ':' :: t
  | (k, t) :: fields => quote k ++ unit ':' :: t ++ unit ',' :: fieldTexts fields

def object (fields : List (Text × Text)) : Text := unit '\x7b' :: fieldTexts fields ++ [unit '\x7d']

mutual

def stringify : Json → Text
  | .null => text "null"
  | .bool b => text (if b then "true" else "false")
  | .num n => n.print
  | .str s => quote s
  | .arr xs => unit '[' :: stringifyElements xs ++ [unit ']']
  | .obj ms => object (stringifyMembers ms)

def stringifyElements : List Json → Text
  | [] => []
  | [x] => stringify x
  | x :: xs => stringify x ++ unit ',' :: stringifyElements xs

def stringifyMembers : List (Text × Json) → List (Text × Text)
  | [] => []
  | (k, v) :: ms => (k, stringify v) :: stringifyMembers ms

end

/-! ## Reading -/

def isSpace (u : UInt16) : Bool := u = 0x20 || u = 0x09 || u = 0x0a || u = 0x0d

def skip (s : Text) : Text := s.dropWhile isSpace

def hexValue (u : UInt16) : Option UInt16 :=
  if isDigit u then some (u - 48)
  else if unit 'a' ≤ u && u ≤ unit 'f' then some (u - 87)
  else if unit 'A' ≤ u && u ≤ unit 'F' then some (u - 55)
  else none

/-- The escapes of one letter. -/
def unescape (u : UInt16) : Option UInt16 :=
  if u = unit '"' || u = unit '\\' || u = unit '/' then some u
  else if u = unit 'b' then some 0x08
  else if u = unit 'f' then some 0x0c
  else if u = unit 'n' then some 0x0a
  else if u = unit 'r' then some 0x0d
  else if u = unit 't' then some 0x09
  else none

/-- A string after its opening quotation mark, and what follows it. -/
def stringBody : Text → Option (Text × Text)
  | [] => none
  | [u] => if u = unit '"' then some ([], []) else none
  | u :: c :: rest =>
    if u = unit '"' then some ([], c :: rest)
    else if u = unit '\\' then
      if c = unit 'u' then
        match rest with
        | h₃ :: h₂ :: h₁ :: h₀ :: rest => do
          let d₃ ← hexValue h₃
          let d₂ ← hexValue h₂
          let d₁ ← hexValue h₁
          let d₀ ← hexValue h₀
          let (s, after) ← stringBody rest
          pure ((d₃ <<< 12 ||| d₂ <<< 8 ||| d₁ <<< 4 ||| d₀) :: s, after)
        | _ => none
      else do
        let e ← unescape c
        let (s, after) ← stringBody rest
        pure (e :: s, after)
    else if u < 0x20 then none
    else do
      let (s, after) ← stringBody (c :: rest)
      pure (u :: s, after)

/-- A literal of a number: its sign, its digits as an integer, and their
    exponent. -/
abbrev Literal := Bool × ℕ × ℤ

def fraction : Text → Option (Text × Text)
  | u :: s =>
    if u = unit '.' then
      let (ds, after) := s.span isDigit
      if ds = [] then none else some (ds, after)
    else some ([], u :: s)
  | [] => some ([], [])

def exponentDigits (negative : Bool) (s : Text) : Option (ℤ × Text) :=
  let (ds, after) := s.span isDigit
  if ds = [] then none else some (if negative then -(value ds : ℤ) else value ds, after)

def exponent : Text → Option (ℤ × Text)
  | u :: s =>
    if u = unit 'e' || u = unit 'E' then
      match s with
      | c :: s' =>
        if c = unit '-' then exponentDigits true s'
        else if c = unit '+' then exponentDigits false s'
        else exponentDigits false s
      | [] => none
    else some (0, u :: s)
  | [] => some (0, [])

def unsignedLiteral (negative : Bool) (s : Text) : Option (Literal × Text) := do
  let (int, s) := s.span isDigit
  if int = [] || (int.head? == some (unit '0') && 1 < int.length) then none
  else
    let (frac, s) ← fraction s
    let (exp, s) ← exponent s
    pure ((negative, value (int ++ frac), exp - frac.length), s)

def literal : Text → Option (Literal × Text)
  | u :: s => if u = unit '-' then unsignedLiteral true s else unsignedLiteral false (u :: s)
  | [] => none

def Number.ofLiteral : Literal → Number
  | (negative, digits, exponent) => .ofDecimal negative digits exponent

/-- The array index that a member's name stands for. -/
def arrayIndex (k : Text) : Option ℕ :=
  if k = decimal (value k) && value k < 2 ^ 32 - 1 then some (value k) else none

/-- Whether a new member named `k` comes before one named `k'`. -/
def comesBefore (k k' : Text) : Bool :=
  match arrayIndex k, arrayIndex k' with
  | some i, some i' => i < i'
  | some _, none => true
  | none, _ => false

def setMember (k : Text) (v : Json) (ms : List (Text × Json)) : List (Text × Json) :=
  if ms.any (·.1 == k) then ms.map fun m => if m.1 = k then (k, v) else m
  else
    let (before, after) := ms.span fun m => !comesBefore k m.1
    before ++ (k, v) :: after

/-- A constant word. -/
def word (w : String) (v : Json) (s : Text) : Option (Json × Text) :=
  if (text w).isPrefixOf s then some (v, s.drop w.length) else none

mutual

def parseValue : (fuel : ℕ) → Text → Option (Json × Text)
  | 0, _ => none
  | fuel + 1, s =>
    match skip s with
    | [] => none
    | u :: s' =>
      if u = unit '"' then do
        let (str, after) ← stringBody s'
        pure (.str str, after)
      else if u = unit '\x7b' then
        match skip s' with
        | c :: after =>
          if c = unit '\x7d' then some (.obj [], after) else parseMembers fuel [] (c :: after)
        | [] => none
      else if u = unit '[' then
        match skip s' with
        | c :: after => if c = unit ']' then some (.arr [], after) else parseElements fuel (c :: after)
        | [] => none
      else if u = unit 't' then word "true" (.bool true) (u :: s')
      else if u = unit 'f' then word "false" (.bool false) (u :: s')
      else if u = unit 'n' then word "null" .null (u :: s')
      else do
        let (l, after) ← literal (u :: s')
        pure (.num (.ofLiteral l), after)

/-- The members that follow those in `ms`. -/
def parseMembers : (fuel : ℕ) → List (Text × Json) → Text → Option (Json × Text)
  | 0, _, _ => none
  | fuel + 1, ms, s =>
    match skip s with
    | [] => none
    | q :: s =>
      if q = unit '"' then do
        let (k, s) ← stringBody s
        match skip s with
        | [] => none
        | c :: s =>
          if c = unit ':' then do
            let (v, s) ← parseValue fuel s
            let ms := setMember k v ms
            match skip s with
            | [] => none
            | d :: s =>
              if d = unit ',' then parseMembers fuel ms s
              else if d = unit '\x7d' then some (.obj ms, s)
              else none
          else none
      else none

def parseElements : (fuel : ℕ) → Text → Option (Json × Text)
  | 0, _ => none
  | fuel + 1, s => do
    let (x, s) ← parseValue fuel s
    match skip s with
    | [] => none
    | d :: s =>
      if d = unit ',' then
        match ← parseElements fuel s with
        | (.arr xs, s) => pure (.arr (x :: xs), s)
        | _ => none
      else if d = unit ']' then some (.arr [x], s)
      else none

end

/-- `JSON.parse`; `none` is a `SyntaxError`. -/
def parse (s : Text) : Option Json :=
  match parseValue (s.length + 1) s with
  | some (v, after) => if skip after = [] then some v else none
  | none => none

/-! ## Values of a program -/

/-- `v?.k`, for a name `k` that no prototype has; `none` is `undefined`. -/
def Json.get (v : Json) (k : Text) : Option Json :=
  match v with
  | .obj ms => ms.lookup k
  | _ => none

/-- The truth value of `v`, which may be `undefined`. -/
def truthy : Option Json → Bool
  | none | some .null => false
  | some (.bool b) => b
  | some (.num n) => n ≠ .finite 0
  | some (.str s) => s ≠ []
  | some (.arr _) | some (.obj _) => true

/-- The integer that `n` is, if `Number.isSafeInteger(n)`. -/
def Number.safeInteger : Number → Option ℤ
  | .finite q => if q.den = 1 && q.num.natAbs < 2 ^ 53 then some q.num else none
  | .infinite _ => none

theorem Json.get_head (k : Text) (v : Json) (ms : List (Text × Json)) :
    (Json.obj ((k, v) :: ms)).get k = some v := by
  simp [Json.get]

theorem Json.get_tail {k k' : Text} (h : k ≠ k') (v : Json) (ms : List (Text × Json)) :
    (Json.obj ((k', v) :: ms)).get k = (Json.obj ms).get k := by
  have hbeq : (k == k') = false := by simpa using h
  simp [Json.get, lookup_cons, hbeq]

variable {n : ℤ}

theorem ofDecimal_intCast (h : n.natAbs < 2 ^ 53) :
    Number.ofDecimal (decide (n < 0)) n.natAbs 0 = .finite n := by
  rw [ofDecimal_natCast h]
  cases n with
  | ofNat n => simp
  | negSucc n => simp [Int.cast_negSucc]

theorem safeInteger_ofDecimal (h : n.natAbs < 2 ^ 53) :
    (Number.ofDecimal (decide (n < 0)) n.natAbs 0).safeInteger = some n := by
  rw [ofDecimal_intCast h]
  exact if_pos (decide_eq_true h)

theorem eq_of_safeInteger {x : Number} (h : x.safeInteger = some n) :
    x = .finite n ∧ n.natAbs < 2 ^ 53 := by
  cases x with
  | infinite negative => cases h
  | finite q =>
    simp only [Number.safeInteger] at h
    split_ifs at h with hq
    simp only [Bool.and_eq_true, decide_eq_true_eq] at hq
    obtain rfl := Option.some.inj h
    refine ⟨?_, hq.2⟩
    rw [Rat.coe_int_num_of_den_eq_one hq.1]

/-! ## Texts that are read -/

/-- A value ends here: a delimiter follows, or nothing. -/
def Stops (rest : Text) : Prop := ∀ u ∈ rest.head?, u = unit ',' ∨ u = unit '\x7d' ∨ u = unit ']'

/-- The text is read as the value, with any amount of fuel that its length
    allows for. -/
structure Reads (t : Text) (v : Json) : Prop where
  nonempty : t ≠ []
  read : ∀ fuel, t.length ≤ fuel → ∀ rest, Stops rest →
    parseValue fuel (t ++ rest) = some (v, rest)

theorem Stops.skip {rest : Text} (h : Stops rest) : skip rest = rest := by
  cases rest with
  | nil => rfl
  | cons u rest =>
    have hu : isSpace u = false := by
      rcases h u rfl with rfl | rfl | rfl <;> decide
    simp [Ecma.skip, hu]

theorem stops_nil : Stops [] := fun _ h => absurd h (by simp)

theorem stops_comma (rest : Text) : Stops (unit ',' :: rest) := by
  intro u hu
  left
  simpa using hu.symm

theorem stops_brace (rest : Text) : Stops (unit '\x7d' :: rest) := by
  intro u hu
  right
  left
  simpa using hu.symm

variable {t : Text}

/-- **`JSON.parse` of a text that is read.** -/
theorem Reads.parse {v : Json} (h : Reads t v) : parse t = some v := by
  have hread := h.read (t.length + 1) (by omega) [] stops_nil
  rw [append_nil] at hread
  simp [Ecma.parse, hread, Ecma.skip]

/-- Two texts that cannot be continued to the same text. -/
def Separate (t t' : Text) : Prop :=
  ∀ rest rest', Stops rest → Stops rest' → t ++ rest = t' ++ rest' → t = t' ∧ rest = rest'

theorem separate_of_rest {t' : Text}
    (h : ∀ rest rest', Stops rest → Stops rest' → t ++ rest = t' ++ rest' → rest = rest') :
    Separate t t' := by
  intro rest rest' hr hr' heq
  obtain rfl := h rest rest' hr hr' heq
  exact ⟨append_cancel_right heq, rfl⟩

/-- Texts without delimiters are separate. -/
theorem separate_of_not_mem {t' : Text} (ht : ∀ u ∈ t, ¬Stops [u]) (ht' : ∀ u ∈ t', ¬Stops [u]) :
    Separate t t' := by
  have hstop : ∀ {u : UInt16} {rest : Text}, Stops (u :: rest) → Stops [u] := fun h => h
  induction t generalizing t' with
  | nil =>
    intro rest rest' hr hr' heq
    cases t' with
    | nil => exact ⟨rfl, heq⟩
    | cons u t' =>
      subst heq
      exact absurd (hstop hr) (ht' u (by simp))
  | cons u t ih =>
    intro rest rest' hr hr' heq
    cases t' with
    | nil =>
      subst heq
      exact absurd (hstop hr') (ht u (by simp))
    | cons u' t' =>
      simp only [cons_append, cons.injEq] at heq
      obtain ⟨rfl, heq⟩ := heq
      obtain ⟨rfl, rfl⟩ := @ih t' (fun v hv => ht v (by simp [hv]))
        (fun v hv => ht' v (by simp [hv])) rest rest' hr hr' heq
      exact ⟨rfl, rfl⟩

/-! ### Strings -/

section strings

variable {α : Type} {f : α → Text} {g : α → UInt16}

/-- The text `t` inside a string stands for the code unit `u`. -/
def Spells (t : Text) (u : UInt16) : Prop :=
  ∀ rest, rest ≠ [] → stringBody (t ++ rest) = (stringBody rest).map fun p => (u :: p.1, p.2)

theorem stringBody_end (rest : Text) : stringBody (unit '"' :: rest) = some ([], rest) := by
  cases rest with
  | nil => rfl
  | cons u rest =>
    rw [stringBody.eq_def]
    simp only [if_pos]

theorem stringBody_flatMap (h : ∀ a, Spells (f a) (g a)) (as : List α) (rest : Text) :
    stringBody (as.flatMap f ++ unit '"' :: rest) = some (as.map g, rest) := by
  induction as with
  | nil => exact stringBody_end rest
  | cons a as ih =>
    rw [flatMap_cons, append_assoc, h a _ (by simp), ih]
    rfl

theorem reads_string {t s : Text} (h : ∀ rest, stringBody (t ++ unit '"' :: rest) = some (s, rest)) :
    Reads (unit '"' :: t ++ [unit '"']) (.str s) := by
  refine ⟨by simp, fun fuel hfuel rest _ => ?_⟩
  obtain ⟨fuel, rfl⟩ : ∃ n, fuel = n + 1 := ⟨fuel - 1, by simp at hfuel; omega⟩
  have hskip : skip (unit '"' :: (t ++ unit '"' :: rest)) = unit '"' :: (t ++ unit '"' :: rest) := rfl
  simp [parseValue, hskip, h]

theorem separate_string {t t' s s' : Text}
    (h : ∀ rest, stringBody (t ++ unit '"' :: rest) = some (s, rest))
    (h' : ∀ rest, stringBody (t' ++ unit '"' :: rest) = some (s', rest)) :
    Separate (unit '"' :: t ++ [unit '"']) (unit '"' :: t' ++ [unit '"']) := by
  refine separate_of_rest fun rest rest' _ _ heq => ?_
  simp only [cons_append, append_assoc, nil_append, cons.injEq,
    true_and] at heq
  have hs := h rest
  rw [heq, h', Option.some.injEq, Prod.mk.injEq] at hs
  exact hs.2.symm

theorem spells_unit {u : UInt16} (h : ¬u < 0x20) (hq : u ≠ unit '"') (hb : u ≠ unit '\\') :
    Spells [u] u := by
  intro rest hne
  cases rest with
  | nil => exact absurd rfl hne
  | cons c rest =>
    rw [singleton_append, stringBody.eq_def]
    simp only [if_neg hq, if_neg hb, if_neg h]
    cases stringBody (c :: rest) <;> rfl

theorem spells_escape {c e : UInt16} (hc : c ≠ unit 'u') (h : unescape c = some e) :
    Spells [unit '\\', c] e := by
  intro rest _
  have hq : unit '\\' ≠ unit '"' := by decide
  rw [cons_append, singleton_append, stringBody.eq_def]
  simp only [if_neg hc, h]
  cases stringBody rest <;> rfl

theorem spells_unicode {h₃ h₂ h₁ h₀ d₃ d₂ d₁ d₀ : UInt16} (e₃ : hexValue h₃ = some d₃)
    (e₂ : hexValue h₂ = some d₂) (e₁ : hexValue h₁ = some d₁) (e₀ : hexValue h₀ = some d₀) :
    Spells [unit '\\', unit 'u', h₃, h₂, h₁, h₀] (d₃ <<< 12 ||| d₂ <<< 8 ||| d₁ <<< 4 ||| d₀) := by
  intro rest _
  have hq : unit '\\' ≠ unit '"' := by decide
  simp only [cons_append, nil_append]
  rw [stringBody.eq_def]
  simp only [e₃, e₂, e₁, e₀]
  cases stringBody rest <;> rfl

theorem hexValue_hexDigit {d : UInt16} (h : d < 16) : hexValue (hexDigit d) = some d := by
  have hall : ∀ n : Fin 16, hexValue (hexDigit (UInt16.ofNat n)) = some (UInt16.ofNat n) := by decide
  have hn : d.toNat < 16 := h
  simpa using hall ⟨d.toNat, hn⟩

theorem nibbles (u : UInt16) : (u >>> 12) <<< 12 ||| (u >>> 8 &&& 0xf) <<< 8 |||
    (u >>> 4 &&& 0xf) <<< 4 ||| (u &&& 0xf) = u := by
  refine UInt16.eq_of_toBitVec_eq (BitVec.eq_of_getElem_eq fun i hi => ?_)
  interval_cases i <;> simp

theorem spells_unicodeEscape (u : UInt16) : Spells (unicodeEscape u) u := by
  have hmask : ∀ v : UInt16, v &&& 0xf < 16 := fun v => by
    have := Nat.and_le_right (n := v.toNat) (m := 15)
    simp only [UInt16.lt_iff_toNat_lt, UInt16.toNat_and, UInt16.reduceToNat]
    omega
  have htop : u >>> 12 < 16 := by
    have := u.toNat_lt
    simp only [UInt16.lt_iff_toNat_lt, UInt16.toNat_shiftRight, UInt16.reduceToNat,
      Nat.reduceMod]
    omega
  have := spells_unicode (hexValue_hexDigit htop) (hexValue_hexDigit (hmask (u >>> 8)))
    (hexValue_hexDigit (hmask (u >>> 4))) (hexValue_hexDigit (hmask u))
  rwa [nibbles] at this

theorem spells_quoteUnit (u : UInt16) : Spells (quoteUnit u) u := by
  unfold quoteUnit
  split_ifs with h1 h2 h3 h4 h5 h6 h7 h8
  · exact h1 ▸ spells_escape (by decide) (by decide)
  · exact h2 ▸ spells_escape (by decide) (by decide)
  · exact h3 ▸ spells_escape (by decide) (by decide)
  · exact h4 ▸ spells_escape (by decide) (by decide)
  · exact h5 ▸ spells_escape (by decide) (by decide)
  · exact h6 ▸ spells_escape (by decide) (by decide)
  · exact h7 ▸ spells_escape (by decide) (by decide)
  · exact spells_unicodeEscape u
  · simp only [Bool.or_eq_true, decide_eq_true_eq, not_or] at h8
    exact spells_unit h8.1.1 h6 h7

theorem quoteBody_eq {s : Text} (h : ∀ u ∈ s, u < 0xd800) : quoteBody s = s.flatMap quoteUnit := by
  induction s with
  | nil => rfl
  | cons u s ih =>
    cases s with
    | nil => simp [quoteBody]
    | cons v s =>
      have hlead : isLead u = false := by
        simp [isLead, h u (by simp)]
      rw [quoteBody, hlead, ih fun w hw => h w (by simp [hw])]
      rfl

theorem spells_surrogate {u : UInt16} (h : isLead u = true ∨ isTrail u = true) : Spells [u] u := by
  simp only [isLead, isTrail, Bool.and_eq_true, decide_eq_true_eq, UInt16.le_iff_toNat_le,
    UInt16.reduceToNat] at h
  refine spells_unit ?_ ?_ ?_
  · simp only [UInt16.lt_iff_toNat_lt, UInt16.reduceToNat]
    omega
  · rintro rfl
    exact absurd h (by decide)
  · rintro rfl
    exact absurd h (by decide)

/-- **Every string is read back**: a surrogate without its partner is escaped, and
    a pair stands for itself. -/
theorem stringBody_quoteBody (s rest : Text) :
    stringBody (quoteBody s ++ unit '"' :: rest) = some (s, rest) := by
  induction s using quoteBody.induct with
  | case1 => exact stringBody_end rest
  | case2 u =>
    rw [quoteBody, spells_quoteUnit u _ (by simp), stringBody_end]
    rfl
  | case3 u v s hpair ih =>
    rw [Bool.and_eq_true] at hpair
    have hrest : quoteBody s ++ unit '"' :: rest ≠ [] := by simp
    rw [quoteBody, if_pos (by simpa using hpair), cons_append, cons_append,
      ← singleton_append (l := v :: _), spells_surrogate (.inl hpair.1) _ (by simp),
      ← singleton_append (l := quoteBody s ++ _), spells_surrogate (.inr hpair.2) _ hrest, ih]
    rfl
  | case4 u v s hpair ih =>
    rw [quoteBody, if_neg hpair, append_assoc, spells_quoteUnit u _ (by simp), ih]
    rfl

theorem reads_quote (s : Text) : Reads (quote s) (.str s) := reads_string (stringBody_quoteBody s)

end strings

/-! ### Numbers and words -/

section numbers

variable {ds rest : Text}

theorem span_isDigit (h : ∀ u ∈ ds, isDigit u = true) (hrest : ∀ u ∈ rest.head?, isDigit u = false) :
    (ds ++ rest).span isDigit = (ds, rest) := by
  rw [span_eq_takeWhile_dropWhile, takeWhile_append_of_pos h,
    dropWhile_append_of_pos h]
  cases rest with
  | nil => simp
  | cons u rest => simp [hrest u rfl]

theorem Stops.not_isDigit (h : Stops rest) : ∀ u ∈ rest.head?, isDigit u = false := by
  intro u hu
  rcases h u hu with rfl | rfl | rfl <;> decide

theorem Stops.fraction (h : Stops rest) : fraction rest = some ([], rest) := by
  cases rest with
  | nil => rfl
  | cons u rest =>
    have hu : u ≠ unit '.' := by
      rcases h u rfl with rfl | rfl | rfl <;> decide
    simp [Ecma.fraction, hu]

theorem Stops.exponent (h : Stops rest) : exponent rest = some (0, rest) := by
  cases rest with
  | nil => rfl
  | cons u rest =>
    have hu : u ≠ unit 'e' ∧ u ≠ unit 'E' := by
      rcases h u rfl with rfl | rfl | rfl <;> decide
    simp [Ecma.exponent, hu]

/-- The digits before the point: at least one, and no zero in front of others. -/
structure IntegerPart (int : Text) : Prop where
  nonempty : int ≠ []
  digits : ∀ u ∈ int, isDigit u = true
  lead : int.head? = some (unit '0') → int.length = 1

variable {int : Text}

theorem IntegerPart.literal (h : IntegerPart int) (rest : Text) :
    literal (int ++ rest) = unsignedLiteral false (int ++ rest) := by
  obtain ⟨u, int, rfl⟩ := exists_cons_of_ne_nil h.nonempty
  have hu : u ≠ unit '-' := by
    rintro rfl
    exact absurd (h.digits (unit '-') (by simp)) (by decide)
  simp [Ecma.literal, hu]

theorem IntegerPart.unsigned (h : IntegerPart int) (negative : Bool)
    (hrest : ∀ u ∈ rest.head?, isDigit u = false) {frac after after' : Text} {exp : ℤ}
    (hfrac : fraction rest = some (frac, after)) (hexp : exponent after = some (exp, after')) :
    unsignedLiteral negative (int ++ rest) =
      some ((negative, value (int ++ frac), exp - frac.length), after') := by
  have hlead : ¬(int = [] || (int.head? == some (unit '0') && decide (1 < int.length))) = true := by
    simp only [h.nonempty, decide_false, Bool.false_or, Bool.and_eq_true, beq_iff_eq,
      decide_eq_true_eq, not_and, not_lt]
    exact fun hz => (h.lead hz).le
  simp only [unsignedLiteral, span_isDigit h.digits hrest, if_neg hlead, hfrac, hexp,
    Option.bind_eq_bind, Option.bind_some, Option.pure_def]

theorem integerPart_decimal (n : ℕ) : IntegerPart (decimal n) := by
  refine ⟨decimal_ne_nil n, isDigit_decimal n, fun hz => ?_⟩
  rcases eq_or_ne n 0 with rfl | hn
  · rfl
  · obtain ⟨d, h1, h2, hd⟩ := head_decimal hn
    rw [hd] at hz
    interval_cases d <;> exact absurd (Option.some.inj hz) (by decide)

theorem reads_number {t : Text} {l : Literal} (hne : t ≠ [])
    (hhead : ∀ u ∈ t.head?, isDigit u = true ∨ u = unit '-')
    (h : ∀ rest, Stops rest → literal (t ++ rest) = some (l, rest)) :
    Reads t (.num (.ofLiteral l)) := by
  refine ⟨hne, fun fuel hfuel rest hrest => ?_⟩
  obtain ⟨u, t', rfl⟩ := exists_cons_of_ne_nil hne
  obtain ⟨fuel, rfl⟩ : ∃ n, fuel = n + 1 := ⟨fuel - 1, by simp at hfuel; omega⟩
  have hlit := h rest hrest
  have hu : isSpace u = false ∧ u ≠ unit '"' ∧ u ≠ unit '\x7b' ∧ u ≠ unit '[' ∧ u ≠ unit 't' ∧
      u ≠ unit 'f' ∧ u ≠ unit 'n' := by
    rcases hhead u rfl with hd | rfl
    · obtain ⟨d, hlt, rfl⟩ := exists_digit hd
      interval_cases d <;> decide
    · decide
  obtain ⟨hs, h1, h2, h3, h4, h5, h6⟩ := hu
  have hskip : skip (u :: (t' ++ rest)) = u :: (t' ++ rest) := by simp [Ecma.skip, hs]
  rw [cons_append] at hlit ⊢
  simp [parseValue, hskip, h1, h2, h3, h4, h5, h6, hlit]

/-- **The decimal text of an integer is read as a number.** -/
theorem reads_decimalInt (n : ℤ) :
    Reads (decimalInt n) (.num (.ofDecimal (decide (n < 0)) n.natAbs 0)) := by
  have hint := integerPart_decimal n.natAbs
  have hlit : ∀ negative rest, Stops rest → unsignedLiteral negative (decimal n.natAbs ++ rest) =
      some ((negative, n.natAbs, 0), rest) := by
    intro negative rest hrest
    rw [hint.unsigned negative hrest.not_isDigit hrest.fraction hrest.exponent]
    simp [value_decimal]
  cases n with
  | ofNat n =>
    refine reads_number (l := (false, n, 0)) hint.nonempty (fun u hu => ?_) fun rest hrest => ?_
    · exact .inl (hint.digits u (mem_of_mem_head? hu))
    · exact (hint.literal rest).trans (hlit false rest hrest)
  | negSucc n =>
    rw [decide_eq_true (Int.negSucc_lt_zero n)]
    change Reads (unit '-' :: decimal (n + 1)) (.num (.ofLiteral (true, n + 1, 0)))
    refine reads_number (cons_ne_nil _ _) (fun u hu => ?_) fun rest hrest => ?_
    · right
      simpa using hu.symm
    · exact hlit true rest hrest

theorem fraction_point (hne : ds ≠ []) (hds : ∀ u ∈ ds, isDigit u = true)
    (hrest : ∀ u ∈ rest.head?, isDigit u = false) :
    fraction (unit '.' :: (ds ++ rest)) = some (ds, rest) := by
  simp only [fraction, if_pos, span_isDigit hds hrest, if_neg hne]

theorem exponent_sign {c : UInt16} (hc : c = unit '-' ∨ c = unit '+') (hne : ds ≠ [])
    (hds : ∀ u ∈ ds, isDigit u = true) :
    ∃ v, ∀ rest, Stops rest → exponent (unit 'e' :: (c :: ds ++ rest)) = some (v, rest) := by
  have hplus : unit '+' ≠ unit '-' := by decide
  have hspan (negative : Bool) {rest : Text} (hrest : Stops rest) :
      exponentDigits negative (ds ++ rest) =
        some (if negative then -(value ds : ℤ) else value ds, rest) := by
    simp only [exponentDigits, span_isDigit hds hrest.not_isDigit, if_neg hne]
  rcases hc with rfl | rfl
  · exact ⟨_, fun rest hrest => by simpa [exponent] using hspan true hrest⟩
  · exact ⟨_, fun rest hrest => by simpa [exponent, hplus] using hspan false hrest⟩

theorem exponent_exponentText (e : ℤ) :
    ∃ v, ∀ rest, Stops rest → exponent (unit 'e' :: (exponentText e ++ rest)) = some (v, rest) := by
  refine exponent_sign ?_ ?_ ?_
  · split_ifs
    · exact .inl rfl
    · exact .inr rfl
  · split_ifs
    · exact cons_ne_nil _ _
    · exact decimal_ne_nil _
  · split_ifs
    · exact fun u hu => (mem_cons.1 hu).elim (fun heq => heq ▸ rfl) (isDigit_decimal _ u)
    · exact isDigit_decimal _

/-- The text is a literal, wherever a value may end. -/
def Lexes (t : Text) : Prop :=
  ∃ l, ∀ rest, Stops rest → literal (t ++ rest) = some (l, rest)

theorem IntegerPart.lexes {tail : Text} (h : IntegerPart int)
    (htail : ∃ frac exp, ∀ rest, Stops rest → ∃ after,
      (∀ u ∈ (tail ++ rest).head?, isDigit u = false) ∧
      fraction (tail ++ rest) = some (frac, after) ∧ exponent after = some (exp, rest)) :
    Lexes (int ++ tail) := by
  obtain ⟨frac, exp, hall⟩ := htail
  refine ⟨(false, value (int ++ frac), exp - frac.length), fun rest hrest => ?_⟩
  obtain ⟨after, hhead, hfrac, hexp⟩ := hall rest hrest
  rw [append_assoc, h.literal, h.unsigned false hhead hfrac hexp]

theorem IntegerPart.lexes_point (h : IntegerPart int) (hne : ds ≠ [])
    (hds : ∀ u ∈ ds, isDigit u = true) : Lexes (int ++ unit '.' :: ds) := by
  refine h.lexes ⟨ds, 0, fun rest hrest => ⟨rest, ?_, ?_, hrest.exponent⟩⟩
  · simp only [cons_append, head?_cons, Option.mem_some_iff, forall_eq']
    rfl
  · exact fraction_point hne hds hrest.not_isDigit

theorem lexes_layout {digits : Text} (h : LeadingDigits digits) (point : ℤ) :
    Lexes (layout digits point) := by
  unfold layout
  split_ifs with h₁ h₂
  · -- an integer
    have hint : IntegerPart (digits ++ replicate (point - digits.length).toNat (unit '0')) := by
      refine ⟨by simp [h.nonempty], fun u hu => ?_, fun hz => absurd hz ?_⟩
      · rcases mem_append.1 hu with hu | hu
        · exact h.all_digits u hu
        · rw [eq_of_mem_replicate hu]
          rfl
      · rw [head?_append_of_ne_nil _ h.nonempty]
        exact h.head
    rw [← append_nil (digits ++ _)]
    exact hint.lexes ⟨[], 0, fun rest hrest => ⟨rest, hrest.not_isDigit, hrest.fraction, hrest.exponent⟩⟩
  · -- digits on both sides of the point
    have htake : digits.take point.toNat ≠ [] := by
      rw [Ne, take_eq_nil_iff]
      exact fun hor => hor.elim (by omega) h.nonempty
    have hhead : (digits.take point.toNat).head? = digits.head? := by
      rw [head?_take, if_neg (by omega)]
    have hint : IntegerPart (digits.take point.toNat) :=
      ⟨htake, fun u hu => h.all_digits u (mem_of_mem_take hu),
        fun hz => absurd (hhead ▸ hz) h.head⟩
    have hdrop : digits.drop point.toNat ≠ [] := by
      rw [Ne, drop_eq_nil_iff]
      omega
    exact hint.lexes_point hdrop fun u hu => h.all_digits u (mem_of_mem_drop hu)
  · -- zero before the point
    have hint : IntegerPart [unit '0'] := integerPart_decimal 0
    have hdigits : ∀ u ∈ replicate (-point).toNat (unit '0') ++ digits, isDigit u = true := by
      intro u hu
      rcases mem_append.1 hu with hu | hu
      · rw [eq_of_mem_replicate hu]
        rfl
      · exact h.all_digits u hu
    have heq : text "0." ++ replicate (-point).toNat (unit '0') ++ digits =
        [unit '0'] ++ unit '.' :: (replicate (-point).toNat (unit '0') ++ digits) := by
      rfl
    exact hint.lexes_point (by simp [h.nonempty]) hdigits

theorem lexes_layoutExponent {digits : Text} (h : LeadingDigits digits) {e : Text}
    (he : ∃ v, ∀ rest, Stops rest → exponent (unit 'e' :: (e ++ rest)) = some (v, rest)) :
    Lexes (layoutExponent digits e) := by
  obtain ⟨v, hv⟩ := he
  obtain ⟨d, ds, rfl⟩ := exists_cons_of_ne_nil h.nonempty
  have hint : IntegerPart [d] := by
    refine ⟨by simp, fun u hu => h.all_digits u ?_, fun _ => rfl⟩
    rw [mem_singleton.1 hu]
    simp
  have hdigit : isDigit (unit 'e') = false := by decide
  have hpoint : unit 'e' ≠ unit '.' := by decide
  cases ds with
  | nil =>
    refine hint.lexes ⟨[], v, fun rest hrest => ⟨_, ?_, ?_, hv rest hrest⟩⟩
    · simp [hdigit]
    · simp [fraction, hpoint]
  | cons c ds =>
    have heq : layoutExponent (d :: c :: ds) (e) =
        [d] ++ unit '.' :: (c :: ds ++ unit 'e' :: e) := by
      simp [layoutExponent]
    refine hint.lexes ⟨c :: ds, v, fun rest hrest => ⟨_, ?_, ?_, hv rest hrest⟩⟩
    · simp only [cons_append, head?_cons, Option.mem_some_iff, forall_eq']
      rfl
    · have hrest' : ∀ u ∈ (unit 'e' :: (e ++ rest)).head?, isDigit u = false := by
        simp [hdigit]
      have hds : ∀ u ∈ c :: ds, isDigit u = true := fun u hu => h.all_digits u (by simp [hu])
      simpa using fraction_point (by simp) hds hrest'

variable {x : ℚ}

theorem lexes_printGeneral {p : ℕ} (hp : 0 < p) (hx : 0 < x) : Lexes (printGeneral p x) := by
  have hdigits := leadingDigits_significant hp hx
  unfold printGeneral
  dsimp only
  split_ifs
  · exact lexes_layout hdigits _
  · exact lexes_layoutExponent hdigits (exponent_exponentText _)

theorem literal_head {u : UInt16} {s : Text} (h : literal (u :: s) ≠ none) :
    isDigit u = true ∨ u = unit '-' := by
  by_contra hnot
  simp only [not_or] at hnot
  refine h ?_
  simp only [literal, if_neg hnot.2, unsignedLiteral, span_eq_takeWhile_dropWhile,
    takeWhile_cons, hnot.1]
  rfl

theorem Lexes.reads {t : Text} (h : Lexes t) : ∃ n, Reads t (.num n) := by
  obtain ⟨l, hl⟩ := h
  have hne : t ≠ [] := by
    rintro rfl
    exact absurd (hl [] stops_nil) (by simp [literal])
  refine ⟨_, reads_number hne (fun u hu => ?_) hl⟩
  obtain ⟨v, s, rfl⟩ := exists_cons_of_ne_nil hne
  obtain rfl : v = u := by simpa using hu
  have hlit := hl [] stops_nil
  rw [append_nil] at hlit
  exact literal_head (by rw [hlit]; simp)

theorem printPositive_cases (hx : 0 < x) : ∃ digits, LeadingDigits digits ∧
    ((∃ point, printPositive x = layout digits point) ∨
      ∃ c n, (c = unit '-' ∨ c = unit '+') ∧
        printPositive x = layoutExponent digits (c :: decimal n)) := by
  have hs := shortest_ne_zero hx 17 (le_refl (Int.log 10 x))
  unfold printPositive
  generalize shortest x 17 (Int.log 10 x) = p at hs
  obtain ⟨s, j⟩ := p
  have hdigits : LeadingDigits (decimal (if s % 10 = 0 then (s / 10, j + 1) else (s, j)).1) := by
    refine leadingDigits_decimal ?_
    split_ifs
    · omega
    · exact hs
  refine ⟨_, hdigits, ?_⟩
  dsimp only
  generalize (if s % 10 = 0 then (s / 10, j + 1) else (s, j)) = p
  split_ifs
  · exact .inl ⟨_, rfl⟩
  · exact .inr ⟨_, _, .inr rfl, rfl⟩
  · exact .inr ⟨_, _, .inl rfl, rfl⟩

theorem lexes_printPositive (hx : 0 < x) : Lexes (printPositive x) := by
  obtain ⟨digits, hdigits, ⟨point, heq⟩ | ⟨c, n, hc, heq⟩⟩ := printPositive_cases hx
  · rw [heq]
    exact lexes_layout hdigits point
  · rw [heq]
    exact lexes_layoutExponent hdigits (exponent_sign hc (decimal_ne_nil n) (isDigit_decimal n))

theorem head_printPositive (hx : 0 < x) : ∀ u ∈ (printPositive x).head?, isDigit u = true := by
  obtain ⟨digits, hdigits, ⟨point, heq⟩ | ⟨c, n, hc, heq⟩⟩ := printPositive_cases hx
  all_goals
    obtain ⟨d, ds, rfl⟩ := exists_cons_of_ne_nil hdigits.nonempty
    have hd := hdigits.all_digits d (by simp)
    intro u hu
    rw [heq] at hu
  · unfold layout at hu
    split_ifs at hu with h₁ h₂
    · obtain rfl : d = u := by simpa using hu
      exact hd
    · obtain ⟨k, hk⟩ : ∃ k, point.toNat = k + 1 := ⟨point.toNat - 1, by omega⟩
      obtain rfl : d = u := by simpa [hk] using hu
      exact hd
    · obtain rfl : unit '0' = u := Option.some.inj hu
      rfl
  · have hhead : (layoutExponent (d :: ds) (c :: decimal n)).head? = some d := by
      cases ds <;> rfl
    obtain rfl : d = u := Option.some.inj (hhead.symm.trans hu)
    exact hd

theorem unsignedLiteral_sign (s : Text) : unsignedLiteral true s =
    (unsignedLiteral false s).map fun p => ((true, p.1.2), p.2) := by
  unfold unsignedLiteral
  dsimp only
  split_ifs
  · rfl
  · cases fraction (s.span isDigit).2 with
    | none => rfl
    | some p =>
      simp only [Option.bind_eq_bind, Option.bind_some]
      cases exponent p.2 <;> rfl

/-- A minus sign may stand before a literal. -/
theorem Lexes.neg {t : Text} (h : Lexes t) (hhead : ∀ u ∈ t.head?, isDigit u = true) :
    Lexes (unit '-' :: t) := by
  obtain ⟨l, hl⟩ := h
  refine ⟨(true, l.2), fun rest hrest => ?_⟩
  have hlit := hl rest hrest
  cases t with
  | nil => exact absurd (hl [] stops_nil) (by simp [literal])
  | cons u t =>
    have hu : u ≠ unit '-' := by
      rintro rfl
      exact absurd (hhead _ rfl) (by decide)
    rw [cons_append, literal, if_neg hu] at hlit
    rw [cons_append, literal, unsignedLiteral_sign, cons_append, hlit]
    rfl

theorem reads_of_first {t : Text} {v : Json} (hne : t ≠ [])
    (h : ∀ fuel rest, parseValue (fuel + 1) (t ++ rest) = some (v, rest)) : Reads t v := by
  refine ⟨hne, fun fuel hfuel rest _ => ?_⟩
  have hpos := length_pos_iff.2 hne
  obtain ⟨fuel, rfl⟩ : ∃ n, fuel = n + 1 := ⟨fuel - 1, by omega⟩
  exact h fuel rest

theorem reads_true : Reads (text "true") (.bool true) := reads_of_first (by decide) fun _ _ => rfl

theorem reads_null : Reads (text "null") .null := reads_of_first (by decide) fun _ _ => rfl

/-- **Every number is printed as a value.** -/
theorem reads_print (n : Number) : ∃ v, Reads n.print v := by
  cases n with
  | infinite negative => exact ⟨_, reads_null⟩
  | finite q =>
    rcases lt_trichotomy q 0 with hq | rfl | hq
    · obtain ⟨v, hv⟩ := ((lexes_printPositive (neg_pos.2 hq)).neg
        (head_printPositive (neg_pos.2 hq))).reads
      refine ⟨.num v, ?_⟩
      rwa [Number.print, if_neg hq.ne, if_pos hq]
    · exact ⟨_, reads_decimalInt 0⟩
    · obtain ⟨v, hv⟩ := (lexes_printPositive hq).reads
      refine ⟨.num v, ?_⟩
      rwa [Number.print, if_neg hq.ne', if_neg hq.not_gt]

end numbers

/-! ### Objects -/

section objects

/-- A field: its name, the text of its value, and the value. -/
structure Field where
  name : Text
  text : Text
  value : Json

/-- The field is read as it should be. -/
structure Field.Ok (f : Field) : Prop where
  name_plain : ∀ u ∈ f.name, u < 0xd800
  not_index : arrayIndex f.name = none
  reads : Reads f.text f.value

def Field.member (f : Field) : Text × Json := (f.name, f.value)

def Field.entry (f : Field) : Text × Text := (f.name, f.text)

theorem setMember_new {k : Text} {v : Json} {ms : List (Text × Json)} (hk : arrayIndex k = none)
    (hnew : k ∉ ms.map Prod.fst) : setMember k v ms = ms ++ [(k, v)] := by
  have hany : ms.any (·.1 == k) = false := by
    rw [any_eq_false]
    intro m hm heq
    exact hnew (mem_map.2 ⟨m, hm, by simpa using heq⟩)
  have hbefore : ∀ k', comesBefore k k' = false := by
    intro k'
    simp [comesBefore, hk]
  simp only [setMember, hany, Bool.false_eq_true, if_false, hbefore]
  rw [span_eq_takeWhile_dropWhile, takeWhile_eq_self_iff.2 (by simp),
    dropWhile_eq_nil_iff.2 (by simp)]

theorem parseMembers_name (fuel : ℕ) (ms : List (Text × Json)) (k s : Text) :
    parseMembers (fuel + 1) ms (quote k ++ unit ':' :: s) = (parseValue fuel s).bind fun p =>
      match skip p.2 with
      | [] => none
      | d :: s =>
        if d = unit ',' then parseMembers fuel (setMember k p.1 ms) s
        else if d = unit '\x7d' then some (.obj (setMember k p.1 ms), s)
        else none := by
  have hquote : quote k ++ unit ':' :: s = unit '"' :: (quoteBody k ++ unit '"' :: unit ':' :: s) := by
    simp [quote]
  have hskip : ∀ s, skip (unit '"' :: s) = unit '"' :: s ∧ skip (unit ':' :: s) = unit ':' :: s :=
    fun _ => ⟨rfl, rfl⟩
  rw [hquote, parseMembers]
  simp only [hskip, if_true, stringBody_quoteBody, Option.bind_eq_bind, Option.bind_some]

theorem parseMembers_step {f : Field} (hf : f.Ok) {fuel : ℕ} (hfuel : f.text.length ≤ fuel)
    (ms : List (Text × Json)) {d : UInt16} {tail : Text} (hd : Stops (d :: tail)) :
    parseMembers (fuel + 1) ms (quote f.name ++ unit ':' :: (f.text ++ d :: tail)) =
      if d = unit ',' then parseMembers fuel (setMember f.name f.value ms) tail
      else if d = unit '\x7d' then some (.obj (setMember f.name f.value ms), tail)
      else none := by
  rw [parseMembers_name, hf.reads.read fuel hfuel (d :: tail) hd]
  simp [hd.skip]

theorem fieldTexts_cons (f g : Text × Text) (fields : List (Text × Text)) :
    fieldTexts (f :: g :: fields) =
      quote f.1 ++ unit ':' :: (f.2 ++ unit ',' :: fieldTexts (g :: fields)) := by
  simp [fieldTexts]

/-- A member with its text. -/
def fieldText (f : Text × Text) : Text := quote f.1 ++ unit ':' :: f.2

theorem object_cons (f : Text × Text) (fields : List (Text × Text)) :
    object (f :: fields) = unit '\x7b' :: (fieldText f ++
      (fields.flatMap fun g => unit ',' :: fieldText g) ++ [unit '\x7d']) := by
  have h : fieldTexts (f :: fields) = fieldText f ++ fields.flatMap fun g => unit ',' :: fieldText g := by
    induction fields generalizing f with
    | nil => simp [fieldTexts, fieldText]
    | cons g fields ih => simp [fieldTexts_cons, ih, fieldText]
  rw [object, h]
  simp

/-- Members that others follow. -/
def leadingTexts (fields : List (Text × Text)) : Text :=
  fields.flatMap fun f => fieldText f ++ [unit ',']

theorem fieldTexts_append (fields : List (Text × Text)) (g : Text × Text)
    (after : List (Text × Text)) :
    fieldTexts (fields ++ g :: after) = leadingTexts fields ++ fieldTexts (g :: after) := by
  induction fields with
  | nil => rfl
  | cons f fields ih =>
    obtain ⟨g', after', h⟩ : ∃ g' after', fields ++ g :: after = g' :: after' :=
      exists_cons_of_ne_nil (by simp)
    rw [cons_append, h, fieldTexts_cons, ← h, ih]
    simp [leadingTexts, fieldText]

/-- What follows the value of a member. -/
def afterField (after : List (Text × Text)) (rest : Text) : Text :=
  match after with
  | [] => unit '\x7d' :: rest
  | g :: after => unit ',' :: (fieldTexts (g :: after) ++ unit '\x7d' :: rest)

theorem stops_afterField (after : List (Text × Text)) (rest : Text) :
    Stops (afterField after rest) := by
  cases after with
  | nil => exact stops_brace rest
  | cons g after => exact stops_comma _

theorem fieldTexts_head (g : Text × Text) (after : List (Text × Text)) (rest : Text) :
    fieldTexts (g :: after) ++ unit '\x7d' :: rest = fieldText g ++ afterField after rest := by
  cases after with
  | nil => simp [fieldTexts, fieldText, afterField]
  | cons g' after => simp [fieldTexts_cons, fieldText, afterField]

variable {fields : List Field}

theorem parseMembers_leading (hok : ∀ f ∈ fields, f.Ok) (ms : List (Text × Json))
    (hnames : (ms.map Prod.fst ++ fields.map Field.name).Nodup) {n k : ℕ}
    (hn : (leadingTexts (fields.map Field.entry)).length + k ≤ n) (tail : Text) :
    ∃ m, k ≤ m ∧ parseMembers n ms (leadingTexts (fields.map Field.entry) ++ tail) =
      parseMembers m (ms ++ fields.map Field.member) tail := by
  induction fields generalizing ms n with
  | nil =>
    refine ⟨n, ?_, by simp [leadingTexts]⟩
    simpa [leadingTexts] using hn
  | cons f fields ih =>
    have heq : leadingTexts ((f :: fields).map Field.entry) ++ tail = quote f.name ++ unit ':' ::
        (f.text ++ unit ',' :: (leadingTexts (fields.map Field.entry) ++ tail)) := by
      simp [leadingTexts, fieldText, Field.entry]
    have hlen : (leadingTexts ((f :: fields).map Field.entry)).length =
        (quote f.name).length + f.text.length + 2 +
          (leadingTexts (fields.map Field.entry)).length := by
      simp only [leadingTexts, fieldText, Field.entry, map_cons, flatMap_cons,
        length_append, length_cons, length_nil]
      omega
    obtain ⟨n, rfl⟩ : ∃ m, n = m + 1 := ⟨n - 1, by omega⟩
    have hf := hok f (by simp)
    have hnew : f.name ∉ ms.map Prod.fst := by
      rw [nodup_append] at hnames
      exact fun hmem => hnames.2.2 _ hmem _ (by simp) rfl
    obtain ⟨m, hm, hread⟩ := ih (fun g hg => hok g (by simp [hg])) (ms ++ [(f.name, f.value)])
      (by simpa using hnames) (n := n) (by omega)
    refine ⟨m, hm, ?_⟩
    rw [heq, parseMembers_step hf (by omega) ms (stops_comma _), setMember_new hf.not_index hnew, hread]
    simp [Field.member]

theorem parseValue_object {fields : List (Text × Text)} (hne : fields ≠ []) (n : ℕ) (rest : Text) :
    parseValue (n + 1) (object fields ++ rest) =
      parseMembers n [] (fieldTexts fields ++ unit '\x7d' :: rest) := by
  obtain ⟨f, fields, rfl⟩ := exists_cons_of_ne_nil hne
  obtain ⟨t, ht⟩ : ∃ t, fieldTexts (f :: fields) = unit '"' :: t := by
    cases fields with
    | nil => exact ⟨_, rfl⟩
    | cons g fields =>
      exact ⟨_, rfl⟩
  have hskip₁ : ∀ s, skip (unit '\x7b' :: s) = unit '\x7b' :: s := fun _ => rfl
  have hskip₂ : ∀ s, skip (unit '"' :: s) = unit '"' :: s := fun _ => rfl
  have hq : unit '\x7b' ≠ unit '"' := by decide
  have hb : unit '"' ≠ unit '\x7d' := by decide
  rw [object, cons_append, cons_append, append_assoc, singleton_append, ht,
    cons_append, parseValue]
  simp only [hskip₁, hskip₂, if_neg hq, if_true, if_neg hb]

theorem parseValue_reach (hok : ∀ f ∈ fields, f.Ok) (hnames : (fields.map Field.name).Nodup)
    (g : Text × Text) (after : List (Text × Text)) {n : ℕ}
    (hn : (object (fields.map Field.entry ++ g :: after)).length ≤ n) (rest : Text) :
    ∃ m, g.2.length ≤ m ∧ parseValue n (object (fields.map Field.entry ++ g :: after) ++ rest) =
      parseMembers (m + 1) (fields.map Field.member) (fieldText g ++ afterField after rest) := by
  have hlen : (leadingTexts (fields.map Field.entry)).length + (g.2.length + 1) + 1 ≤ n := by
    have hhead := congrArg length (fieldTexts_head g after [])
    rw [object, fieldTexts_append] at hn
    simp only [length_append, length_cons, fieldText] at hn hhead
    omega
  obtain ⟨n, rfl⟩ : ∃ m, n = m + 1 := ⟨n - 1, by omega⟩
  obtain ⟨m, hm, hread⟩ := parseMembers_leading hok [] (by simpa using hnames) (n := n)
    (k := g.2.length + 1) (by omega) (fieldText g ++ afterField after rest)
  obtain ⟨m, rfl⟩ : ∃ i, m = i + 1 := ⟨m - 1, by omega⟩
  refine ⟨m, by omega, ?_⟩
  rw [parseValue_object (by simp), fieldTexts_append, append_assoc, fieldTexts_head, hread,
    nil_append]

/-- **The text of an object is read as the object.** -/
theorem reads_object (hne : fields ≠ []) (hok : ∀ f ∈ fields, f.Ok)
    (hnames : (fields.map Field.name).Nodup) :
    Reads (object (fields.map Field.entry)) (.obj (fields.map Field.member)) := by
  refine ⟨by simp [object], fun n hn rest _ => ?_⟩
  obtain ⟨front, g, rfl⟩ : ∃ front g, fields = front ++ [g] :=
    ⟨fields.dropLast, fields.getLast hne, (dropLast_append_getLast hne).symm⟩
  rw [map_append, map_singleton] at hn hnames ⊢
  have hg := hok g (by simp)
  have hnew : g.name ∉ (front.map Field.member).map Prod.fst := by
    rw [nodup_append] at hnames
    intro hmem
    refine hnames.2.2 g.name ?_ _ (by simp) rfl
    simpa [Field.member] using hmem
  obtain ⟨m, hm, hread⟩ := parseValue_reach (fun f hf => hok f (by simp [hf]))
    (nodup_append.1 hnames).1 g.entry [] hn rest
  have hstep := parseMembers_step hg hm (front.map Field.member) (stops_brace rest)
  rw [if_neg (by decide), setMember_new hg.not_index hnew] at hstep
  rw [hread, fieldText, append_assoc, cons_append]
  rw [Field.entry, afterField, hstep]
  simp [Field.member]

/-- The text is no value, whatever follows it. -/
def Fails (t : Text) : Prop :=
  ∀ n, t.length ≤ n → ∀ rest, Stops rest → parseValue n (t ++ rest) = none

theorem Fails.parse {t : Text} (h : Fails t) : parse t = none := by
  have hread := h (t.length + 1) (by omega) [] stops_nil
  rw [append_nil] at hread
  simp [Ecma.parse, hread]

/-- An object with a member that is no value is none either. -/
theorem fails_object (hok : ∀ f ∈ fields, f.Ok) (hnames : (fields.map Field.name).Nodup)
    {g : Text × Text} (hfail : Fails g.2) (after : List (Text × Text)) :
    Fails (object (fields.map Field.entry ++ g :: after)) := by
  intro n hn rest _
  obtain ⟨m, hm, hread⟩ := parseValue_reach hok hnames g after hn rest
  rw [hread, fieldText, append_assoc, cons_append, parseMembers_name,
    hfail m hm _ (stops_afterField after rest)]
  rfl

/-- The names, and two texts for each value. -/
abbrev TwoTexts := List (Text × Text × Text)

theorem fieldTexts_injective {fields : TwoTexts} (hsep : ∀ f ∈ fields, Separate f.2.1 f.2.2)
    {rest rest' : Text}
    (heq : fieldTexts (fields.map fun f => (f.1, f.2.1)) ++ unit '\x7d' :: rest =
      fieldTexts (fields.map fun f => (f.1, f.2.2)) ++ unit '\x7d' :: rest') :
    ∀ f ∈ fields, f.2.1 = f.2.2 := by
  induction fields with
  | nil => exact fun _ h => absurd h (by simp)
  | cons f fields ih =>
    have hf := hsep f (by simp)
    cases fields with
    | nil =>
      simp only [map_cons, map_nil, fieldTexts, append_assoc, cons_append,
        append_cancel_left_eq, cons.injEq, true_and] at heq
      simpa using (hf _ _ (stops_brace _) (stops_brace _) heq).1
    | cons g fields =>
      simp only [map_cons, fieldTexts_cons, append_assoc, cons_append,
        append_cancel_left_eq, cons.injEq, true_and] at heq
      obtain ⟨ht, hrest⟩ := hf _ _ (stops_comma _) (stops_comma _) heq
      simp only [cons.injEq, true_and] at hrest
      have hall := ih (fun h hh => hsep h (by simp [hh])) hrest
      intro h hh
      rcases mem_cons.1 hh with rfl | hh
      · exact ht
      · exact hall h hh

/-- **Objects with the same names are the same text only if their values are.** -/
theorem object_injective (fields : TwoTexts) (hsep : ∀ f ∈ fields, Separate f.2.1 f.2.2) :
    object (fields.map fun f => (f.1, f.2.1)) = object (fields.map fun f => (f.1, f.2.2)) ↔
      ∀ f ∈ fields, f.2.1 = f.2.2 := by
  constructor
  · intro heq
    simp only [object, cons_append, cons.injEq, true_and] at heq
    exact fieldTexts_injective hsep heq
  · intro hall
    congr 1
    exact map_congr_left fun f hf => by rw [hall f hf]

end objects

/-! ## Texts that survive reading and printing -/

/-- `JSON.stringify(JSON.parse(t)) === t` -/
def Survives (t : Text) : Prop := (parse t).map stringify = some t

instance (t : Text) : Decidable (Survives t) := inferInstanceAs (Decidable (_ = _))

theorem Reads.survives_iff {v : Json} (h : Reads t v) : Survives t ↔ stringify v = t := by
  simp [Survives, h.parse]

theorem Fails.not_survives (h : Fails t) : ¬Survives t := by
  simp [Survives, h.parse]

theorem stringifyMembers_eq (ms : List (Text × Json)) :
    stringifyMembers ms = ms.map fun m => (m.1, stringify m.2) := by
  induction ms with
  | nil => simp [stringifyMembers]
  | cons m ms ih => simp [stringifyMembers, ih]

/-- **An object survives if its members do.** -/
theorem survives_object {fields : List Field} (hne : fields ≠ []) (hok : ∀ f ∈ fields, f.Ok)
    (hnames : (fields.map Field.name).Nodup)
    (hsep : ∀ f ∈ fields, Separate f.text (stringify f.value)) :
    Survives (object (fields.map Field.entry)) ↔ ∀ f ∈ fields, Survives f.text := by
  have hinj := object_injective (fields.map fun f => (f.name, f.text, stringify f.value))
    (by simpa using hsep)
  have hprint : stringify (.obj (fields.map Field.member)) =
      object (fields.map fun f => (f.name, stringify f.value)) := by
    simp [stringify, stringifyMembers_eq, Field.member, Function.comp_def]
  have hentry : fields.map Field.entry = fields.map fun f => (f.name, f.text) := rfl
  simp only [map_map, Function.comp_def, forall_mem_map] at hinj
  rw [(reads_object hne hok hnames).survives_iff, hprint, hentry, eq_comm, hinj]
  exact forall₂_congr fun f hf => by rw [(hok f hf).reads.survives_iff, eq_comm]

/-- The text is read, and cannot be mistaken for what its value is printed as;
    or it is no value. -/
def Settled (t : Text) : Prop := (∃ v, Reads t v ∧ Separate t (stringify v)) ∨ Fails t

/-- The name of a member: nothing in it is a surrogate, and it is no array
    index. -/
def IsName (k : Text) : Prop := (∀ u ∈ k, u < 0xd800) ∧ arrayIndex k = none

instance (k : Text) : Decidable (IsName k) :=
  decidable_of_iff (k.all (· < 0xd800) = true ∧ arrayIndex k = none) (by simp [IsName])

/-- **An object whose values are read is read.** -/
theorem exists_reads_object {ms : List (Text × Json)} (hne : ms ≠ [])
    (h : ∀ m ∈ ms, IsName m.1 ∧ ∃ v, Reads (stringify m.2) v) (hnames : (ms.map Prod.fst).Nodup) :
    ∃ v, Reads (stringify (.obj ms)) v := by
  have : Nonempty Json := ⟨.null⟩
  choose! f hf using fun m hm => (h m hm).2
  have hread := @reads_object (ms.map fun m => ⟨m.1, stringify m.2, f m⟩) (by simpa using hne)
    (by
      intro g hg
      obtain ⟨m, hm, rfl⟩ := mem_map.1 hg
      exact ⟨(h m hm).1.1, (h m hm).1.2, hf m hm⟩)
    (by simpa [Function.comp_def] using hnames)
  rw [stringify, stringifyMembers_eq]
  simp only [map_map] at hread
  exact ⟨_, hread⟩

variable {entries : List (Text × Text)}

theorem exists_fields (hnames : ∀ e ∈ entries, IsName e.1)
    (h : ∀ e ∈ entries, ∃ v, Reads e.2 v ∧ Separate e.2 (stringify v)) :
    ∃ fields : List Field, fields.map Field.entry = entries ∧ (∀ f ∈ fields, f.Ok) ∧
      ∀ f ∈ fields, Separate f.text (stringify f.value) := by
  induction entries with
  | nil => exact ⟨[], rfl, by simp, by simp⟩
  | cons e entries ih =>
    obtain ⟨fields, hentry, hok, hsep⟩ := ih (fun g hg => hnames g (by simp [hg]))
      fun g hg => h g (by simp [hg])
    obtain ⟨v, hreads, hv⟩ := h e (by simp)
    obtain ⟨hplain, hindex⟩ := hnames e (by simp)
    refine ⟨⟨e.1, e.2, v⟩ :: fields, by simp [hentry, Field.entry], ?_, ?_⟩
    · exact forall_mem_cons.2 ⟨⟨hplain, hindex, hreads⟩, hok⟩
    · exact forall_mem_cons.2 ⟨hv, hsep⟩

/-- The members of an object: all are read, or the first that is no value stops
    the reader. -/
theorem entries_cases (hnames : ∀ e ∈ entries, IsName e.1) (hnodup : (entries.map Prod.fst).Nodup)
    (hsettled : ∀ e ∈ entries, Settled e.2) :
    (∃ fields : List Field, fields.map Field.entry = entries ∧ (∀ f ∈ fields, f.Ok) ∧
      (∀ f ∈ fields, Separate f.text (stringify f.value)) ∧ (fields.map Field.name).Nodup) ∨
    (Fails (object entries) ∧ ∃ e ∈ entries, Fails e.2) := by
  classical
  have hname : ∀ {fields : List Field}, fields.map Field.name =
      (fields.map Field.entry).map Prod.fst := by
    intro fields
    simp [Field.entry]
  rcases hfind : entries.find? fun e => decide (Fails e.2) with _ | g
  · have hread : ∀ e ∈ entries, ∃ v, Reads e.2 v ∧ Separate e.2 (stringify v) := fun e he =>
      (hsettled e he).resolve_right (by simpa using find?_eq_none.1 hfind e he)
    obtain ⟨fields, rfl, hok, hsep⟩ := exists_fields hnames hread
    exact .inl ⟨fields, rfl, hok, hsep, hname ▸ hnodup⟩
  · obtain ⟨hg, front, after, rfl, hfront⟩ := find?_eq_some_iff_append.1 hfind
    have hg : Fails g.2 := by simpa using hg
    have hread : ∀ e ∈ front, ∃ v, Reads e.2 v ∧ Separate e.2 (stringify v) := fun e he =>
      (hsettled e (by simp [he])).resolve_right (by simpa using hfront e he)
    obtain ⟨fields, rfl, hok, -⟩ := exists_fields (fun e he => hnames e (by simp [he])) hread
    have hnodup' : (fields.map Field.name).Nodup := by
      rw [map_append] at hnodup
      exact hname ▸ (nodup_append.1 hnodup).1
    exact .inr ⟨fails_object hok hnodup' hg after, g, by simp, hg⟩

theorem reads_or_fails (hne : entries ≠ []) (hnames : ∀ e ∈ entries, IsName e.1)
    (hnodup : (entries.map Prod.fst).Nodup) (hsettled : ∀ e ∈ entries, Settled e.2) :
    (∃ ms, Reads (object entries) (.obj ms)) ∨ Fails (object entries) := by
  rcases entries_cases hnames hnodup hsettled with ⟨fields, rfl, hok, -, hnodup'⟩ | ⟨hfail, -⟩
  · exact .inl ⟨_, reads_object (by simpa using hne) hok hnodup'⟩
  · exact .inr hfail

/-- **An object survives if the values of its members do.** -/
theorem survives_entries (hne : entries ≠ []) (hnames : ∀ e ∈ entries, IsName e.1)
    (hnodup : (entries.map Prod.fst).Nodup) (hsettled : ∀ e ∈ entries, Settled e.2) :
    Survives (object entries) ↔ ∀ e ∈ entries, Survives e.2 := by
  rcases entries_cases hnames hnodup hsettled with ⟨fields, rfl, hok, hsep, hnodup'⟩ |
    ⟨hfail, e, he, hfail'⟩
  · rw [survives_object (by simpa using hne) hok hnodup' hsep]
    simp [Field.entry]
  · exact iff_of_false hfail.not_survives fun hall => hfail'.not_survives (hall e he)

theorem not_stops_of_isNumeric {u : UInt16} (h : isNumeric u = true) : ¬Stops [u] := by
  intro hstop
  rcases hstop u rfl with rfl | rfl | rfl <;> exact absurd h (by decide)

theorem separate_number (h : Numeric t) (n : Number) : Separate t (stringify (.num n)) := by
  refine separate_of_not_mem (fun u hu => not_stops_of_isNumeric (h u hu)) fun u hu => ?_
  rw [stringify] at hu
  rcases numeric_print n with hn | hn
  · exact not_stops_of_isNumeric (hn u hu)
  · have hnull : text "null" = [unit 'n', unit 'u', unit 'l', unit 'l'] := rfl
    rw [hn, hnull] at hu
    simp only [mem_cons, not_mem_nil, or_false] at hu
    rintro hstop
    rcases hu with rfl | rfl | rfl | rfl <;> rcases hstop _ rfl with h | h | h <;>
      exact absurd h (by decide)

/-- **Integers of at most 53 bits survive.** -/
theorem survives_decimalInt (h : n.natAbs < 2 ^ 53) : Survives (decimalInt n) := by
  rw [(reads_decimalInt n).survives_iff, stringify, print_ofDecimal h]
  · cases n with
    | ofNat n => rfl
    | negSucc n => rw [decide_eq_true (Int.negSucc_lt_zero n)]; rfl
  · intro hneg
    have := of_decide_eq_true hneg
    omega

theorem print_of_safeInteger {x : Number} (h : x.safeInteger = some n) :
    x.print = decimalInt n := by
  obtain ⟨rfl, hn⟩ := eq_of_safeInteger h
  have := (reads_decimalInt n).survives_iff.1 (survives_decimalInt hn)
  rwa [stringify, ofDecimal_intCast hn] at this

end Ecma
