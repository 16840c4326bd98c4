/-
  Texts: substitution, and paths as texts.
-/
import Mathlib.Data.List.Infix

namespace Text

open List

variable {α : Type} [DecidableEq α]

/-! ## Substitution -/

/-- The text with each occurrence of the pattern replaced, from the left; the first
    `skip` elements belong to an occurrence that has been replaced. -/
def replaceFrom (pattern value : List α) : ℕ → List α → List α
  | _, [] => []
  | skip + 1, _ :: text => replaceFrom pattern value skip text
  | 0, a :: text =>
    if pattern.isPrefixOf (a :: text) then
      value ++ replaceFrom pattern value (pattern.length - 1) text
    else a :: replaceFrom pattern value 0 text

def replaceAll (pattern value text : List α) : List α := replaceFrom pattern value 0 text

variable {pattern value text : List α}

theorem replaceFrom_eq_drop (skip : ℕ) :
    replaceFrom pattern value skip text = replaceAll pattern value (text.drop skip) := by
  induction text generalizing skip with
  | nil => cases skip <;> rfl
  | cons a text ih =>
    cases skip with
    | zero => rfl
    | succ skip => exact ih skip

theorem replaceAll_of_not_infix (h : ¬ pattern <:+: text) : replaceAll pattern value text = text := by
  induction text with
  | nil => rfl
  | cons a text ih =>
    have hhead : pattern.isPrefixOf (a :: text) = false := by
      rw [← Bool.not_eq_true, isPrefixOf_iff_prefix]
      exact fun hp => h hp.isInfix
    rw [replaceAll, replaceFrom, hhead]
    exact congrArg (a :: ·) (ih fun hinside => h (hinside.trans (infix_cons infix_rfl)))

theorem replaceAll_append (h : pattern ≠ []) :
    replaceAll pattern value (pattern ++ text) = value ++ replaceAll pattern value text := by
  obtain ⟨a, rest, rfl⟩ := exists_cons_of_ne_nil h
  have hhead : (a :: rest).isPrefixOf (a :: (rest ++ text)) = true := by
    rw [List.isPrefixOf_iff_prefix]
    exact prefix_append (a :: rest) text
  rw [replaceAll, cons_append, replaceFrom, hhead, replaceFrom_eq_drop]
  simp

/-! ## What is found after a substitution -/

section
variable {word : List α} (hword : ∀ a ∈ word, a ∉ value)
include hword

omit [DecidableEq α] in
/-- A word that has nothing in common with what comes first. -/
theorem infix_of_infix_append (h : word <:+: value ++ text) : word <:+: text := by
  induction value with
  | nil => exact h
  | cons v value ih =>
    rw [cons_append, infix_cons_iff] at h
    have hvalue : ∀ a ∈ word, a ∉ value := fun a ha hmem =>
      hword a ha (mem_cons_of_mem v hmem)
    rcases h with hhead | hinside
    · cases word with
      | nil => exact nil_infix
      | cons a word =>
        obtain ⟨rfl, -⟩ := cons_prefix_cons.1 hhead
        exact absurd mem_cons_self (hword a mem_cons_self)
    · exact ih hvalue hinside

/-- The start of the result is that of the text, up to the first occurrence. -/
theorem prefix_of_prefix_replaceAll (hvalue : value ≠ []) (h : word <+: replaceAll pattern value text) :
    word <+: text := by
  induction text generalizing word with
  | nil => exact h
  | cons a text ih =>
    cases word with
    | nil => exact nil_prefix
    | cons b word =>
      rw [replaceAll, replaceFrom] at h
      split_ifs at h
      · obtain ⟨v, value, rfl⟩ := exists_cons_of_ne_nil hvalue
        obtain ⟨rfl, -⟩ := cons_prefix_cons.1 h
        exact absurd mem_cons_self (hword b mem_cons_self)
      · obtain ⟨rfl, hrest⟩ := cons_prefix_cons.1 h
        have hword' : ∀ a ∈ word, a ∉ value := fun a ha => hword a (mem_cons_of_mem b ha)
        exact cons_prefix_cons.2 ⟨rfl, ih hword' hrest⟩

/-- **A substitution makes no new words.** -/
theorem infix_of_infix_replaceAll (hvalue : value ≠ []) (h : word <:+: replaceAll pattern value text) :
    word <:+: text := by
  induction hn : text.length using Nat.strong_induction_on generalizing text with
  | _ n ih =>
    cases text with
    | nil => exact h
    | cons a text =>
      rw [length_cons] at hn
      rw [replaceAll, replaceFrom] at h
      split_ifs at h
      · rw [replaceFrom_eq_drop] at h
        have hdrop : text.drop (pattern.length - 1) <:+: text := (drop_suffix _ _).isInfix
        have hrest := ih _ (by have := hdrop.length_le; omega) (infix_of_infix_append hword h) rfl
        exact (hrest.trans hdrop).trans (infix_cons infix_rfl)
      · rcases infix_cons_iff.1 h with hhead | hinside
        · cases word with
          | nil => exact nil_infix
          | cons b word =>
            obtain ⟨rfl, hrest⟩ := cons_prefix_cons.1 hhead
            have hword' : ∀ a ∈ word, a ∉ value := fun a ha => hword a (mem_cons_of_mem b ha)
            exact (cons_prefix_cons.2
              ⟨rfl, prefix_of_prefix_replaceAll hword' hvalue hrest⟩).isInfix
        · exact (ih _ (by omega) hinside rfl).trans (infix_cons infix_rfl)

end

/-- **Nothing is left of the pattern**, if it has nothing in common with the value. -/
theorem not_infix_replaceAll (hvalue : value ≠ []) (hpattern : pattern ≠ [])
    (hdisjoint : ∀ a ∈ pattern, a ∉ value) : ¬ pattern <:+: replaceAll pattern value text := by
  induction hn : text.length using Nat.strong_induction_on generalizing text with
  | _ n ih =>
    intro h
    cases text with
    | nil => exact hpattern (infix_nil.1 h)
    | cons a text =>
      rw [length_cons] at hn
      rw [replaceAll, replaceFrom] at h
      split_ifs at h with hstart
      · rw [replaceFrom_eq_drop] at h
        refine ih _ ?_ rfl (infix_of_infix_append hdisjoint h)
        rw [length_drop]
        omega
      · rcases infix_cons_iff.1 h with hhead | hinside
        · obtain ⟨b, rest, rfl⟩ := exists_cons_of_ne_nil hpattern
          obtain ⟨rfl, hrest⟩ := cons_prefix_cons.1 hhead
          have hrest' := prefix_of_prefix_replaceAll
            (fun c hc => hdisjoint c (mem_cons_of_mem b hc)) hvalue hrest
          exact hstart (List.isPrefixOf_iff_prefix.2 (cons_prefix_cons.2 ⟨rfl, hrest'⟩))
        · exact ih _ (by omega) rfl hinside

/-! ## Neighbours -/

omit [DecidableEq α] in
theorem not_infix_of_not_mem {a : α} (ha : a ∈ pattern) (h : a ∉ text) : ¬ pattern <:+: text :=
  fun hinside => h (hinside.subset ha)

omit [DecidableEq α] in
/-- Neighbours of a concatenation are neighbours of one part, or its seam. -/
theorem pair_infix_append {x y : α} {s t : List α} (h : [x, y] <:+: s ++ t) :
    [x, y] <:+: s ∨ [x, y] <:+: t ∨ t.head? = some y := by
  induction s with
  | nil => exact .inr (.inl h)
  | cons a s ih =>
    rw [cons_append, infix_cons_iff] at h
    rcases h with hhead | hinside
    · obtain ⟨rfl, hrest⟩ := cons_prefix_cons.1 hhead
      cases s with
      | nil =>
        cases t with
        | nil => simp at hrest
        | cons b t =>
          obtain ⟨rfl, -⟩ := cons_prefix_cons.1 hrest
          exact .inr (.inr rfl)
      | cons b s =>
        obtain ⟨rfl, -⟩ := cons_prefix_cons.1 hrest
        exact .inl ⟨[], s, rfl⟩
    · exact (ih hinside).imp_left fun hs => hs.trans (infix_cons infix_rfl)

end Text

/-! ## Paths -/

namespace Path

/-- Adds a part of a path to those before it, the last one first: `.` adds nothing and
    `..` removes a part, which an absolute path does not do at its root. -/
def push (absolute : Bool) (stack : List (List Char)) (part : List Char) : List (List Char) :=
  if part = [] || part = ['.'] then stack
  else if part = ['.', '.'] then
    match stack with
    | [] => if absolute then [] else [part]
    | top :: rest => if top = ['.', '.'] then part :: top :: rest else rest
  else part :: stack

/-- The path is written as that of a directory. -/
def endsInDirectory (stack parts : List (List Char)) : Bool :=
  stack.head?.any (· ≠ ['.', '.']) && parts.getLast?.any (· ∈ [[], ['.'], ['.', '.']])

/-- `std::filesystem::path::lexically_normal` -/
def lexicallyNormal (path : List Char) : List Char :=
  if path = [] then [] else
  let absolute := decide (path.head? = some '/')
  let parts := path.splitOn '/'
  let stack := parts.foldl (push absolute) []
  let body := ['/'].intercalate stack.reverse ++ if endsInDirectory stack parts then ['/'] else []
  if absolute then '/' :: body else if body = [] then ['.'] else body

/-- `std::filesystem::path::operator/` -/
def append (path relative : List Char) : List Char :=
  if relative.head? = some '/' then relative
  else if path = [] || path.getLast? = some '/' then path ++ relative
  else path ++ '/' :: relative

/-- The name of a file or a directory. -/
def isName (part : List Char) : Bool :=
  part ≠ [] && part ≠ ['.'] && part ≠ ['.', '.'] && '/' ∉ part

/-- The text of the absolute path with these parts. -/
def text (parts : List (List Char)) : List Char := '/' :: ['/'].intercalate parts

variable {parts : List (List Char)}

variable {part : List Char}

theorem not_slash_of_isName (h : isName part = true) : '/' ∉ part := by
  simp only [isName, Bool.and_eq_true, decide_eq_true_eq] at h
  exact h.2

theorem ne_nil_of_isName (h : isName part = true) : part ≠ [] := by
  rintro rfl
  cases h

theorem text_singleton (part : List Char) : text [part] = '/' :: part := by
  simp [text]

theorem text_cons (part : List Char) (hne : parts ≠ []) :
    text (part :: parts) = '/' :: (part ++ text parts) := by
  obtain ⟨next, rest, rfl⟩ := List.exists_cons_of_ne_nil hne
  simp [text]

theorem text_append {inner : List (List Char)} (hne : parts ≠ []) (hinner : inner ≠ []) :
    text (parts ++ inner) = text parts ++ text inner := by
  induction parts with
  | nil => exact absurd rfl hne
  | cons part rest ih =>
    cases rest with
    | nil => rw [List.singleton_append, text_cons part hinner, text_singleton, List.cons_append]
    | cons next rest =>
      rw [List.cons_append, text_cons part (by simp), ih (by simp), text_cons part (by simp)]
      simp

theorem not_mem_text {c : Char} (hc : c ≠ '/') (h : ∀ part ∈ parts, c ∉ part) : c ∉ text parts := by
  induction parts with
  | nil => simpa [text] using hc
  | cons part rest ih =>
    have hpart := h part List.mem_cons_self
    have hrest := ih fun p hp => h p (List.mem_cons_of_mem _ hp)
    cases rest with
    | nil => simpa [text_singleton] using ⟨hc, hpart⟩
    | cons next rest =>
      rw [text_cons part (by simp)]
      simpa using ⟨hc, hpart, hrest⟩

theorem push_name {absolute : Bool} {stack : List (List Char)} (h : isName part = true) :
    push absolute stack part = part :: stack := by
  simp only [isName, Bool.and_eq_true, decide_eq_true_eq] at h
  simp [push, h.1.1.1, h.1.1.2, h.1.2]

theorem foldl_push {absolute : Bool} {stack : List (List Char)}
    (h : ∀ part ∈ parts, isName part = true) :
    parts.foldl (push absolute) stack = parts.reverse ++ stack := by
  induction parts generalizing stack with
  | nil => rfl
  | cons part parts ih =>
    rw [List.foldl_cons, push_name (h part List.mem_cons_self),
      ih fun p hp => h p (List.mem_cons_of_mem _ hp)]
    simp

section names
variable (hne : parts ≠ []) (h : ∀ part ∈ parts, isName part = true)
include hne h

theorem splitOn_text : (text parts).splitOn '/' = [] :: parts := by
  have htext : text parts = ['/'].intercalate ([] :: parts) := by
    obtain ⟨part, rest, rfl⟩ := List.exists_cons_of_ne_nil hne
    simp [text]
  rw [htext, List.splitOn_intercalate _ _ (List.cons_ne_nil _ _)]
  intro part hpart
  rcases List.mem_cons.1 hpart with rfl | hpart
  · simp
  · exact not_slash_of_isName (h part hpart)

theorem lexicallyNormal_text : lexicallyNormal (text parts) = text parts := by
  have hstack : (text parts).splitOn '/' = [] :: parts := splitOn_text hne h
  have hpush : ([] :: parts).foldl (push true) [] = parts.reverse := by
    rw [List.foldl_cons, foldl_push h]
    simp [push]
  have hdirectory : endsInDirectory parts.reverse ([] :: parts) = false := by
    have hlast := h _ (List.getLast_mem hne)
    rw [endsInDirectory, List.getLast?_cons, List.getLast?_eq_some_getLast hne]
    simp only [isName, Bool.and_eq_true, decide_eq_true_eq] at hlast
    simp [hlast.1.1.1, hlast.1.1.2, hlast.1.2]
  have habsolute : decide ((text parts).head? = some '/') = true := rfl
  rw [lexicallyNormal]
  simp only [habsolute, hstack, hpush, hdirectory]
  simp [text]

theorem getLast?_text : (text parts).getLast? ≠ some '/' := by
  induction parts with
  | nil => exact absurd rfl hne
  | cons part rest ih =>
    have hpart := h part List.mem_cons_self
    cases rest with
    | nil =>
      rw [text_singleton, ← List.singleton_append,
        List.getLast?_append_of_ne_nil _ (ne_nil_of_isName hpart)]
      exact fun hlast => not_slash_of_isName hpart (List.mem_of_getLast? hlast)
    | cons next rest =>
      rw [text_cons part (by simp), ← List.cons_append, List.getLast?_append_of_ne_nil _ (by simp [text])]
      exact ih (by simp) fun p hp => h p (List.mem_cons_of_mem _ hp)

end names

theorem append_text {inner : List (List Char)} (hne : parts ≠ []) (hinner : inner ≠ [])
    (h : ∀ part ∈ parts, isName part = true) (hnames : ∀ part ∈ inner, isName part = true) :
    append (text parts) (['/'].intercalate inner) = text (parts ++ inner) := by
  have hhead : (['/'].intercalate inner).head? ≠ some '/' := by
    obtain ⟨first, rest, rfl⟩ := List.exists_cons_of_ne_nil hinner
    have hfirst := hnames first List.mem_cons_self
    obtain ⟨c, tail, rfl⟩ := List.exists_cons_of_ne_nil (ne_nil_of_isName hfirst)
    have hc : c ≠ '/' := fun hc => not_slash_of_isName hfirst (hc ▸ List.mem_cons_self)
    cases rest <;> simpa [List.intercalate] using hc
  have hdirectory : ¬ (text parts = [] || (text parts).getLast? = some '/') = true := by
    simp only [Bool.or_eq_true, decide_eq_true_eq, not_or]
    exact ⟨List.cons_ne_nil _ _, getLast?_text hne h⟩
  rw [append, if_neg hhead, if_neg hdirectory, text_append hne hinner]
  rfl

end Path
