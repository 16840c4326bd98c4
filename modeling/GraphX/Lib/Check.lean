/-
  Programs that check and may fail.

  What it means that a program in `Except` did not fail, construct by construct.
-/
import Mathlib.Data.List.Basic
import Mathlib.Data.List.Nodup

namespace Check

open List

variable {ε α β σ κ : Type}

/-- Fails with `e` unless the condition holds. -/
def ensure (b : Bool) (e : ε) : Except ε Unit := if b then .ok () else .error e

/-- Adds a key to those seen; fails with `e` if it is among them. -/
def fresh [DecidableEq κ] (seen : List κ) (k : κ) (e : ε) : Except ε (List κ) :=
  if k ∈ seen then .error e else .ok (k :: seen)

variable {f : α → Except ε β}

theorem bind_eq_ok {x : Except ε α} {b : β} : (x >>= f) = .ok b ↔ ∃ a, x = .ok a ∧ f a = .ok b := by
  cases x with
  | error e | ok a => simp [bind, Except.bind]

theorem bind_unit_eq_ok {x : Except ε Unit} {f : Unit → Except ε β} {b : β} :
    (x >>= f) = .ok b ↔ x = .ok () ∧ f () = .ok b :=
  bind_eq_ok.trans ⟨fun ⟨_, h⟩ => h, fun h => ⟨(), h⟩⟩

@[simp] theorem ensure_eq_ok {b : Bool} {e : ε} : ensure b e = .ok () ↔ b = true := by
  cases b <;> simp [ensure]

theorem fresh_eq_ok [DecidableEq κ] {seen seen' : List κ} {k : κ} {e : ε} :
    fresh seen k e = .ok seen' ↔ k ∉ seen ∧ seen' = k :: seen := by
  unfold fresh
  split_ifs with h
  · simp [h]
  · simp [h, eq_comm]

variable {l : List α}

theorem forM_eq_ok {f : α → Except ε PUnit} : l.forM f = .ok () ↔ ∀ a ∈ l, f a = .ok () := by
  induction l with
  | nil => simp only [not_mem_nil, false_imp_iff, implies_true, iff_true]; rfl
  | cons a l ih =>
    change (f a >>= fun _ => l.forM f) = .ok () ↔ _
    rw [bind_unit_eq_ok, forall_mem_cons, ih]

theorem forM_error {f : α → Except ε PUnit} {e : ε} (h : l.forM f = .error e) :
    ∃ a ∈ l, f a = .error e := by
  induction l with
  | nil => cases h
  | cons a l ih =>
    change (f a >>= fun _ => l.forM f) = .error e at h
    cases ha : f a with
    | error e' =>
      rw [ha] at h
      cases h
      exact ⟨a, by simp, ha⟩
    | ok u =>
      rw [ha] at h
      obtain ⟨b, hb, hfb⟩ := ih h
      exact ⟨b, by simp [hb], hfb⟩

variable {s' : σ}

theorem foldlM_invariant {f : σ → α → Except ε σ} {I : List α → σ → Prop}
    (step : ∀ before a s s', I before s → f s a = .ok s' → I (before ++ [a]) s') {s : σ}
    (h : l.foldlM f s = .ok s') (start : I [] s) : I l s' := by
  suffices hrest : ∀ before, I before s → I (before ++ l) s' from hrest [] start
  clear start
  induction l generalizing s with
  | nil =>
    intro before hbefore
    cases h
    simpa using hbefore
  | cons a l ih =>
    intro before hbefore
    obtain ⟨s₁, hstep, hloop⟩ := bind_eq_ok.1 h
    have := ih hloop (before ++ [a]) (step before a s s₁ hbefore hstep)
    simpa using this

theorem foldlM_forall {f : σ → α → Except ε σ} {P : α → Prop}
    (step : ∀ a s s', f s a = .ok s' → P a) {s : σ} (h : l.foldlM f s = .ok s') : ∀ a ∈ l, P a := by
  refine foldlM_invariant (I := fun before _ => ∀ a ∈ before, P a) ?_ h (by simp)
  intro before a s s' hbefore hstep b hb
  rcases mem_append.1 hb with hb | hb
  · exact hbefore b hb
  · exact mem_singleton.1 hb ▸ step a s s' hstep

/-- A loop each of whose turns makes something true, and leaves it true. -/
theorem foldlM_adds {f : σ → α → Except ε σ} {P : σ → Prop} {Q : α → Prop}
    (step : ∀ a s s', f s a = .ok s' → (P s' ↔ Q a ∨ P s)) {s : σ} (h : l.foldlM f s = .ok s') :
    P s' ↔ (∃ a ∈ l, Q a) ∨ P s := by
  refine foldlM_invariant (I := fun before t => P t ↔ (∃ a ∈ before, Q a) ∨ P s) ?_ h (by simp)
  intro before a t t' ht hstep
  rw [step a t t' hstep, ht, ← or_assoc]
  refine or_congr_left ?_
  simp only [mem_append, mem_singleton, or_and_right, exists_or, exists_eq_left]
  exact or_comm

variable {l' : List β}

theorem mapM_eq_ok (h : l.mapM f = .ok l') : List.Forall₂ (fun a b => f a = .ok b) l l' := by
  induction l generalizing l' with
  | nil =>
    cases h
    exact .nil
  | cons a l ih =>
    rw [mapM_cons] at h
    obtain ⟨b, hb, h⟩ := bind_eq_ok.1 h
    obtain ⟨bs, hbs, h⟩ := bind_eq_ok.1 h
    cases h
    exact .cons hb (ih hbs)

theorem exists_mapM_eq_ok (h : ∀ a ∈ l, ∃ b, f a = .ok b) : ∃ l', l.mapM f = .ok l' := by
  induction l with
  | nil => exact ⟨[], rfl⟩
  | cons a l ih =>
    obtain ⟨b, hb⟩ := h a mem_cons_self
    obtain ⟨bs, hbs⟩ := ih fun c hc => h c (mem_cons_of_mem _ hc)
    refine ⟨b :: bs, ?_⟩
    rw [mapM_cons]
    exact bind_eq_ok.2 ⟨b, hb, bind_eq_ok.2 ⟨bs, hbs, rfl⟩⟩

theorem exists_of_forall₂ {R : α → β → Prop} (h : Forall₂ R l l') {b : β} (hb : b ∈ l') :
    ∃ a ∈ l, R a b := by
  induction h with
  | nil => cases hb
  | cons hhead _ ih =>
    rcases mem_cons.1 hb with rfl | hb
    · exact ⟨_, mem_cons_self, hhead⟩
    · obtain ⟨a, ha, hab⟩ := ih hb
      exact ⟨a, mem_cons_of_mem _ ha, hab⟩

theorem mem_of_mapM_eq_ok (h : l.mapM f = .ok l') {b : β} (hb : b ∈ l') : ∃ a ∈ l, f a = .ok b :=
  exists_of_forall₂ (mapM_eq_ok h) hb

theorem exists_of_mapM_eq_ok (h : l.mapM f = .ok l') {a : α} (ha : a ∈ l) :
    ∃ b ∈ l', f a = .ok b :=
  exists_of_forall₂ (mapM_eq_ok h).flip ha

/-- A loop that adds the keys of its elements to those seen, and refuses one that it
    has seen. -/
theorem foldlM_fresh {f : σ → α → Except ε σ} (seen : σ → List κ) (keys : α → List κ)
    (step : ∀ a s s', (seen s).Nodup → f s a = .ok s' → seen s' = (keys a).reverse ++ seen s ∧ (seen s').Nodup)
    {s : σ} (h : l.foldlM f s = .ok s') (start : (seen s).Nodup) :
    seen s' = (l.flatMap keys).reverse ++ seen s ∧ (seen s').Nodup := by
  refine foldlM_invariant (I := fun before t =>
    seen t = (before.flatMap keys).reverse ++ seen s ∧ (seen t).Nodup) ?_ h ⟨by simp, start⟩
  rintro before a t t' ⟨hseen, hnodup⟩ hstep
  obtain ⟨hadd, hnodup'⟩ := step a t t' hnodup hstep
  refine ⟨?_, hnodup'⟩
  rw [hadd, hseen]
  simp

theorem eq_of_filterMap_nodup {key : α → Option κ} (h : (l.filterMap key).Nodup) {a b : α}
    (ha : a ∈ l) (hb : b ∈ l) {k : κ} (hka : key a = some k) (hkb : key b = some k) : a = b := by
  induction l with
  | nil => cases ha
  | cons c l ih =>
    have hmem : ∀ d ∈ l, key d = some k → k ∈ l.filterMap key :=
      fun d hd hk => mem_filterMap.2 ⟨d, hd, hk⟩
    rcases mem_cons.1 ha with rfl | ha' <;> rcases mem_cons.1 hb with rfl | hb'
    · rfl
    · rw [filterMap_cons_some hka] at h
      exact absurd (hmem b hb' hkb) (nodup_cons.1 h).1
    · rw [filterMap_cons_some hkb] at h
      exact absurd (hmem a ha' hka) (nodup_cons.1 h).1
    · refine ih ?_ ha' hb'
      cases hc : key c with
      | none => rwa [filterMap_cons_none hc] at h
      | some k' =>
        rw [filterMap_cons_some hc] at h
        exact (nodup_cons.1 h).2

end Check
