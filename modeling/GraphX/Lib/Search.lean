/-
  Searching a text for a part of it.
-/
import Mathlib.Data.List.Infix

namespace Search

open List

variable {α : Type}

/-- The first place where the needle stands. -/
def find [DecidableEq α] (needle : List α) : List α → Option ℕ
  | [] => if needle = [] then some 0 else none
  | a :: s => if needle.isPrefixOf (a :: s) then some 0 else (find needle s).map (· + 1)

/-- The last place where the needle stands. -/
def rfind [DecidableEq α] (needle : List α) : List α → Option ℕ
  | [] => if needle = [] then some 0 else none
  | a :: s =>
    match rfind needle s with
    | some i => some (i + 1)
    | none => if needle.isPrefixOf (a :: s) then some 0 else none

/-- The needle starts nowhere in `s`, which `rest` follows. -/
def Absent (needle : List α) : (s rest : List α) → Prop
  | [], _ => True
  | a :: s, rest => ¬needle <+: a :: (s ++ rest) ∧ Absent needle s rest

variable {needle s t rest : List α}

theorem absent_append : Absent needle (s ++ t) rest ↔ Absent needle s (t ++ rest) ∧ Absent needle t rest := by
  induction s with
  | nil => simp [Absent]
  | cons a s ih => simp [Absent, ih, and_assoc]

theorem absent_of_not_mem {c : α} {m : List α} (h : c ∉ s) : Absent (c :: m) s rest := by
  induction s with
  | nil => trivial
  | cons a s ih =>
    simp only [mem_cons, not_or] at h
    refine ⟨fun hleads => h.1 ?_, ih h.2⟩
    exact (cons_prefix_cons.1 hleads).1

section search

variable [DecidableEq α]

theorem find_skip (h : Absent needle s rest) :
    find needle (s ++ rest) = (find needle rest).map (· + s.length) := by
  induction s with
  | nil => simp
  | cons a s ih =>
    have hnot : needle.isPrefixOf (a :: (s ++ rest)) = false := by
      simpa [← isPrefixOf_iff_prefix] using h.1
    rw [cons_append, find, hnot, if_neg (by simp), ih h.2, Option.map_map]
    simp only [Function.comp_def, length_cons, Nat.add_assoc]

theorem find_of_prefix (h : needle <+: s) : find needle s = some 0 := by
  cases s with
  | nil => simp [find, prefix_nil.1 h]
  | cons a s => rw [find, isPrefixOf_iff_prefix.2 h, if_pos rfl]

/-- The needle is found behind a text where it is absent, and `rest` follows it. -/
theorem find_here (h : Absent needle s (needle ++ rest)) :
    find needle (s ++ (needle ++ rest)) = some s.length ∧
      (s ++ (needle ++ rest)).drop (s.length + needle.length) = rest := by
  constructor
  · rw [find_skip h, find_of_prefix (prefix_append _ _)]
    simp
  · rw [← append_assoc, drop_left' (by simp)]

theorem rfind_eq_none (hne : needle ≠ []) (h : Absent needle s []) : rfind needle s = none := by
  induction s with
  | nil => simp [rfind, hne]
  | cons a s ih =>
    have hnot : needle.isPrefixOf (a :: s) = false := by
      have := h.1
      simpa [← isPrefixOf_iff_prefix] using this
    rw [rfind, ih h.2, hnot]
    simp

/-- The needle is found before a text where it is absent. -/
theorem rfind_last {c : α} {m : List α} (h : Absent (c :: m) (m ++ rest) []) :
    rfind (c :: m) (s ++ (c :: m ++ rest)) = some s.length := by
  induction s with
  | nil =>
    have hhere : (c :: m).isPrefixOf (c :: (m ++ rest)) = true :=
      isPrefixOf_iff_prefix.2 (prefix_append _ _)
    rw [nil_append, cons_append, rfind, rfind_eq_none (by simp) h]
    simp
  | cons a s ih => rw [cons_append, rfind, ih, length_cons]

end search

/-! ## Quoted names -/

section quoted

variable {quote colon : α} {name value tail : List α}

/-- Two texts without the quote that end at a quote. -/
theorem prefix_quoted {x y : List α} (hname : quote ∉ name) (hvalue : quote ∉ value)
    (h : name ++ quote :: x <+: value ++ quote :: y) : name = value ∧ x <+: y := by
  induction name generalizing value with
  | nil =>
    cases value with
    | nil => exact ⟨rfl, (cons_prefix_cons.1 h).2⟩
    | cons b value =>
      obtain ⟨rfl, -⟩ := cons_prefix_cons.1 h
      exact absurd (mem_cons_self ..) hvalue
  | cons a name ih =>
    cases value with
    | nil =>
      obtain ⟨rfl, -⟩ := cons_prefix_cons.1 h
      exact absurd (mem_cons_self ..) hname
    | cons b value =>
      obtain ⟨rfl, h'⟩ := cons_prefix_cons.1 h
      obtain ⟨rfl, h''⟩ := ih (fun hm => hname (mem_cons_of_mem _ hm))
        (fun hm => hvalue (mem_cons_of_mem _ hm)) h'
      exact ⟨rfl, h''⟩

theorem absent_quoted {d : α} (hname : quote ∉ name) (hne : name ≠ []) (hvalue : quote ∉ value)
    (hd : d ∉ name) (hother : name = value → d ≠ colon) :
    Absent (quote :: (name ++ quote :: colon :: tail)) (quote :: (value ++ [quote])) (d :: rest) := by
  refine ⟨fun h => ?_, absent_append.2 ⟨absent_of_not_mem hvalue, fun h => ?_, trivial⟩⟩
  · have h' := (cons_prefix_cons.1 h).2
    simp only [append_assoc] at h'
    obtain ⟨heq, hcolon⟩ := prefix_quoted hname hvalue h'
    exact hother heq (cons_prefix_cons.1 hcolon).1.symm
  · obtain ⟨a, name, rfl⟩ := exists_cons_of_ne_nil hne
    have h' := (cons_prefix_cons.1 h).2
    exact hd ((cons_prefix_cons.1 h').1 ▸ mem_cons_self ..)

end quoted

/-! ## Fields -/

/-- The signs that stand around the names and the values of fields. -/
structure Punctuation (α : Type) where
  quote : α
  colon : α
  comma : α
  opening : α
  closing : α
  quote_ne : quote ≠ colon ∧ quote ≠ comma ∧ quote ≠ opening
  comma_ne : comma ≠ colon

namespace Punctuation

variable (p : Punctuation α)

def quoted (value : List α) : List α := p.quote :: (value ++ [p.quote])

def marker (name : List α) : List α := p.quote :: (name ++ [p.quote, p.colon])

/-- Fields that others follow. -/
def leading (fields : List (List α × List α)) : List α :=
  fields.flatMap fun f => p.marker f.1 ++ (f.2 ++ [p.comma])

/-- What follows the value of a field. -/
def ending : List (List α × List α) → List α
  | [] => [p.closing]
  | f :: fields => p.comma :: (p.marker f.1 ++ (f.2 ++ ending fields))

def object : List (List α × List α) → List α
  | [] => [p.opening, p.closing]
  | f :: fields => p.opening :: (p.marker f.1 ++ (f.2 ++ p.ending fields))

/-- The part of an object from a field on. -/
theorem object_append (before : List (List α × List α)) (f : List α × List α)
    (after : List (List α × List α)) : p.object (before ++ f :: after) =
      p.opening :: p.leading before ++ (p.marker f.1 ++ (f.2 ++ p.ending after)) := by
  have hending : ∀ g before, p.marker g.1 ++ (g.2 ++ p.ending (before ++ f :: after)) =
      p.leading (g :: before) ++ (p.marker f.1 ++ (f.2 ++ p.ending after)) := by
    intro g before
    induction before generalizing g with
    | nil => simp [leading, ending]
    | cons g' before ih =>
      rw [cons_append, ending, ih]
      simp [leading]
  cases before with
  | nil => rfl
  | cons g before => rw [cons_append, object, hending, cons_append]

/-- A name that can be searched for. -/
structure Name (name : List α) : Prop where
  ne_nil : name ≠ []
  quote_not_mem : p.quote ∉ name
  colon_not_mem : p.colon ∉ name
  comma_not_mem : p.comma ∉ name

/-- A value that holds no name: without quotes, or a quoted one. -/
def Simple (value : List α) : Prop :=
  p.quote ∉ value ∨ ∃ v, p.quote ∉ v ∧ value = p.quoted v

variable {p} {key tail rest : List α}

theorem Name.absent_quoted {value : List α} {d : α} (hkey : p.Name key) (hvalue : p.quote ∉ value)
    (hd : d ∉ key) (hother : key = value → d ≠ p.colon) :
    Absent (p.marker key ++ tail) (p.quoted value) (d :: rest) := by
  have heq : p.marker key ++ tail = p.quote :: (key ++ p.quote :: p.colon :: tail) := by simp [marker]
  rw [heq]
  exact Search.absent_quoted hkey.quote_not_mem hkey.ne_nil hvalue hd hother

theorem Name.absent_of_not_mem {s : List α} (h : p.quote ∉ s) :
    Absent (p.marker key ++ tail) s rest :=
  Search.absent_of_not_mem h

theorem Name.absent_marker {name : List α} (hkey : p.Name key) (hname : p.quote ∉ name)
    (hne : key ≠ name) : Absent (p.marker key ++ tail) (p.marker name) rest := by
  have heq : p.marker name = p.quoted name ++ [p.colon] := by simp [marker, quoted]
  rw [heq, absent_append]
  exact ⟨hkey.absent_quoted hname hkey.colon_not_mem fun h => absurd h hne,
    absent_of_not_mem (by simpa using p.quote_ne.1)⟩

theorem Name.absent_value {value : List α} (hkey : p.Name key) (hvalue : p.Simple value) :
    Absent (p.marker key ++ tail) value (p.comma :: rest) := by
  rcases hvalue with hplain | ⟨v, hv, rfl⟩
  · exact absent_of_not_mem hplain
  · exact hkey.absent_quoted hv hkey.comma_not_mem fun _ => p.comma_ne

theorem Name.absent_leading {before : List (List α × List α)} (hkey : p.Name key)
    (hbefore : ∀ f ∈ before, p.quote ∉ f.1 ∧ key ≠ f.1 ∧ p.Simple f.2) :
    Absent (p.marker key ++ tail) (p.opening :: p.leading before) rest := by
  rw [← singleton_append, absent_append]
  refine ⟨absent_of_not_mem (by simpa using p.quote_ne.2.2), ?_⟩
  induction before with
  | nil => trivial
  | cons f before ih =>
    obtain ⟨hname, hne, hvalue⟩ := hbefore f (mem_cons_self ..)
    rw [leading, flatMap_cons, absent_append, absent_append, absent_append]
    refine ⟨⟨hkey.absent_marker hname hne, hkey.absent_value hvalue, ?_⟩,
      ih fun g hg => hbefore g (mem_cons_of_mem _ hg)⟩
    exact absent_of_not_mem (by simpa using p.quote_ne.2.1)

end Punctuation

end Search
