/-
  Maps with ordered keys.

  A `Table κ α` is a `std::map`: a list of entries whose keys increase.
-/
import Mathlib.Data.List.Nodup
import Mathlib.Data.String.Basic
import Mathlib.Order.Basic
import Mathlib.Tactic.SplitIfs

/-- The entries of a map, in the order of their keys. -/
@[ext] structure Table (κ α : Type) [LT κ] where
  entries : List (κ × α)
  sorted : entries.Pairwise fun a b => a.1 < b.1

namespace Table

open List

variable {κ α β γ : Type} [LinearOrder κ]

instance instDecidableEq [DecidableEq α] : DecidableEq (Table κ α) := fun s t =>
  decidable_of_iff (s.entries = t.entries) Table.ext_iff.symm

def empty : Table κ α := ⟨[], .nil⟩

instance instInhabited : Inhabited (Table κ α) := ⟨empty⟩

/-- The table of a list that is written in order. -/
def ofList (entries : List (κ × α))
    (sorted : decide (entries.Pairwise fun a b => a.1 < b.1) = true) : Table κ α :=
  ⟨entries, of_decide_eq_true sorted⟩

def keys (t : Table κ α) : List κ := t.entries.map (·.1)

def values (t : Table κ α) : List α := t.entries.map (·.2)

def get? (t : Table κ α) (k : κ) : Option α := (t.entries.find? (·.1 = k)).map (·.2)

def contains (t : Table κ α) (k : κ) : Bool := t.entries.any (·.1 = k)

def map (f : κ → α → β) (t : Table κ α) : Table κ β where
  entries := t.entries.map fun e => (e.1, f e.1 e.2)
  sorted := List.Pairwise.map _ (fun _ _ h => h) t.sorted

/-- Writes an entry into an ordered list, over the one of its key. -/
def put (k : κ) (a : α) : List (κ × α) → List (κ × α)
  | [] => [(k, a)]
  | e :: rest => if k < e.1 then (k, a) :: e :: rest
    else if k = e.1 then (k, a) :: rest
    else e :: put k a rest

variable {k : κ} {a : α} {l : List (κ × α)}

theorem mem_put {e : κ × α} (h : e ∈ put k a l) : e = (k, a) ∨ e ∈ l := by
  induction l with
  | nil => simpa [put] using h
  | cons e' rest ih =>
    rw [put] at h
    split_ifs at h
    · simpa using h
    · rcases mem_cons.1 h with h | h
      · exact .inl h
      · exact .inr (mem_cons_of_mem _ h)
    · rcases mem_cons.1 h with h | h
      · exact .inr (h ▸ mem_cons_self)
      · exact (ih h).imp_right (mem_cons_of_mem _)

theorem put_sorted (h : l.Pairwise fun a b => a.1 < b.1) :
    (put k a l).Pairwise fun a b => a.1 < b.1 := by
  induction l with
  | nil => simp [put]
  | cons e rest ih =>
    obtain ⟨hhead, hrest⟩ := pairwise_cons.1 h
    rw [put]
    split_ifs with hlt heq
    · refine pairwise_cons.2 ⟨fun b hb => ?_, h⟩
      rcases mem_cons.1 hb with rfl | hb
      · exact hlt
      · exact hlt.trans (hhead b hb)
    · exact pairwise_cons.2 ⟨fun b hb => heq ▸ hhead b hb, hrest⟩
    · refine pairwise_cons.2 ⟨fun b hb => ?_, ih hrest⟩
      rcases mem_put hb with rfl | hb
      · exact lt_of_le_of_ne (not_lt.1 hlt) (Ne.symm heq)
      · exact hhead b hb

def set (t : Table κ α) (k : κ) (a : α) : Table κ α := ⟨put k a t.entries, put_sorted t.sorted⟩

/-- `emplace`: writes an entry if its key is new. -/
def emplace (t : Table κ α) (k : κ) (a : α) : Table κ α := if t.contains k then t else t.set k a

/-! ## Lookup -/

theorem keys_nodup (t : Table κ α) : t.keys.Nodup :=
  List.Pairwise.map _ (fun _ _ h => ne_of_lt h) t.sorted

variable {t : Table κ α}

theorem eq_of_mem {b : α} (ha : (k, a) ∈ t.entries) (hb : (k, b) ∈ t.entries) : a = b :=
  congrArg Prod.snd (inj_on_of_nodup_map t.keys_nodup ha hb rfl)

theorem get?_eq_some_iff : t.get? k = some a ↔ (k, a) ∈ t.entries := by
  unfold get?
  constructor
  · intro h
    obtain ⟨⟨k', a'⟩, hfind, rfl⟩ := Option.map_eq_some_iff.1 h
    have hkey := find?_some hfind
    have hmem := mem_of_find?_eq_some hfind
    simp only [decide_eq_true_eq] at hkey
    exact hkey ▸ hmem
  · intro h
    rcases hfind : t.entries.find? (·.1 = k) with _ | ⟨k', b⟩
    · have := find?_eq_none.1 hfind (k, a) h
      simp at this
    · have hkey := find?_some hfind
      have hmem := mem_of_find?_eq_some hfind
      simp only [decide_eq_true_eq] at hkey
      subst hkey
      rw [hfind, eq_of_mem h hmem, Option.map_some]

theorem contains_iff : t.contains k = true ↔ ∃ a, (k, a) ∈ t.entries := by
  simp [contains]

theorem contains_iff_get? : t.contains k = true ↔ ∃ a, t.get? k = some a := by
  simp only [contains_iff, get?_eq_some_iff]

theorem get?_eq_none_iff : t.get? k = none ↔ t.contains k = false := by
  rw [← Bool.not_eq_true, contains_iff_get?, Option.eq_none_iff_forall_ne_some, not_exists]

@[simp] theorem get?_empty : (empty : Table κ α).get? k = none := rfl

theorem get?_map {f : κ → α → β} : (t.map f).get? k = (t.get? k).map (f k) := by
  apply Option.ext
  intro b
  simp only [get?_eq_some_iff, Option.map_eq_some_iff, map, mem_map, Prod.mk.injEq,
    Prod.exists]
  constructor
  · rintro ⟨k', a, hmem, rfl, rfl⟩
    exact ⟨a, hmem, rfl⟩
  · rintro ⟨a, hmem, rfl⟩
    exact ⟨k, a, hmem, rfl, rfl⟩

theorem mem_put_self (k : κ) (a : α) (l : List (κ × α)) : (k, a) ∈ put k a l := by
  induction l with
  | nil => simp [put]
  | cons e rest ih =>
    rw [put]
    split_ifs
    · exact mem_cons_self
    · exact mem_cons_self
    · exact mem_cons_of_mem _ ih

theorem mem_put_of_ne {k' : κ} {b : α} (hne : k' ≠ k) (h : (k', b) ∈ l) : (k', b) ∈ put k a l := by
  induction l with
  | nil => cases h
  | cons e rest ih =>
    rw [put]
    split_ifs with hlt heq
    · exact mem_cons_of_mem _ h
    · rcases mem_cons.1 h with rfl | h
      · exact absurd heq.symm hne
      · exact mem_cons_of_mem _ h
    · rcases mem_cons.1 h with rfl | h
      · exact mem_cons_self
      · exact mem_cons_of_mem _ (ih h)

theorem get?_set {k' : κ} : (t.set k a).get? k' = if k' = k then some a else t.get? k' := by
  split_ifs with h
  · exact get?_eq_some_iff.2 (h ▸ mem_put_self k a t.entries)
  · apply Option.ext
    intro b
    simp only [get?_eq_some_iff]
    constructor
    · intro hmem
      rcases mem_put hmem with heq | hmem
      · cases heq
        exact absurd rfl h
      · exact hmem
    · exact mem_put_of_ne h

theorem contains_set {k' : κ} : (t.set k a).contains k' = (decide (k' = k) || t.contains k') := by
  rw [Bool.eq_iff_iff, Bool.or_eq_true, contains_iff_get?, get?_set, contains_iff_get?]
  split_ifs with h <;> simp [h]

@[simp] theorem contains_empty : (empty : Table κ α).contains k = false := rfl

theorem contains_foldl_set {key : β → κ} {value : β → α} {l : List β} :
    (l.foldl (fun t b => t.set (key b) (value b)) t).contains k = true ↔
      (∃ b ∈ l, key b = k) ∨ t.contains k = true := by
  induction l generalizing t with
  | nil => simp
  | cons b l ih =>
    rw [foldl_cons, ih, contains_set, Bool.or_eq_true, decide_eq_true_eq, eq_comm (a := k),
      ← or_assoc, exists_mem_cons_iff, or_comm (a := key b = k)]

/-- A table is what it answers. -/
theorem ext_get? {s : Table κ α} (h : ∀ k, s.get? k = t.get? k) : s = t := by
  have hmem : ∀ e, e ∈ s.entries ↔ e ∈ t.entries := by
    rintro ⟨k, a⟩
    rw [← get?_eq_some_iff, h, get?_eq_some_iff]
  have hperm : s.entries.Perm t.entries :=
    (perm_ext_iff_of_nodup s.keys_nodup.of_map t.keys_nodup.of_map).2 hmem
  have heq : s.entries = t.entries :=
    hperm.eq_of_pairwise (fun a b _ _ hab hba => absurd hba (lt_asymm hab)) s.sorted t.sorted
  cases s
  cases t
  cases heq
  rfl

theorem mem_values (h : t.get? k = some a) : a ∈ t.values :=
  mem_map_of_mem (get?_eq_some_iff.1 h)

theorem mem_values_set {b : α} (h : b ∈ (t.set k a).values) : b = a ∨ b ∈ t.values := by
  obtain ⟨e, he, rfl⟩ := mem_map.1 h
  rcases mem_put he with rfl | he
  · exact .inl rfl
  · exact .inr (mem_map_of_mem he)

theorem forall_values_set {P : α → Prop} (ha : P a) (h : ∀ b ∈ t.values, P b) :
    ∀ b ∈ (t.set k a).values, P b := by
  intro b hb
  rcases mem_values_set hb with rfl | hb
  · exact ha
  · exact h b hb

theorem forall_values_empty {P : α → Prop} : ∀ b ∈ (empty : Table κ α).values, P b :=
  fun _ hb => absurd hb not_mem_nil

theorem values_map (t : Table κ α) (f : α → β) : (t.map fun _ => f).values = t.values.map f := by
  rw [values, values, map, map_map, map_map]
  rfl

theorem map_map {f : κ → α → β} {g : κ → β → γ} :
    (t.map f).map g = t.map fun k a => g k (f k a) := by
  apply ext_get?
  intro k
  simp [get?_map, Function.comp_def]

theorem set_eq_map {f : α → α} (h : t.get? k = some a) :
    t.set k (f a) = t.map fun k' b => if k' = k then f b else b := by
  apply ext_get?
  intro k'
  rw [get?_set, get?_map]
  split_ifs with hk
  · simp [hk, h]
  · simp

end Table
