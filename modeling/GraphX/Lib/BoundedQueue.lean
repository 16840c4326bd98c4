/-
  Bounded queues that can be closed, by their histories.

  An `Event` is what a call decides: a push is accepted, or refused because the queue is
  closed or full; a pop takes an item, or finds the queue empty, or closed and empty.
  `History cap log q`: the events of `log` were possible one after the other, and left
  the queue `q`.
-/
import Mathlib.Data.List.Basic

namespace BoundedQueue

open List

variable {α : Type}

inductive Event (α : Type) where
  | accepted (a : α)
  | refusedClosed
  | refusedFull
  | popped (a : α)
  | empty
  | ended
  | close

/-- The items that the events accept, in their order. -/
def accepted (log : List (Event α)) : List α :=
  log.filterMap fun | .accepted a => some a | _ => none

/-- The items that the events take, in their order. -/
def popped (log : List (Event α)) : List α :=
  log.filterMap fun | .popped a => some a | _ => none

structure Queue (α : Type) where
  items : List α
  closed : Bool

inductive Step (cap : ℕ) : Queue α → Event α → Queue α → Prop
  | accepted {items a} : items.length < cap →
      Step cap ⟨items, false⟩ (.accepted a) ⟨items ++ [a], false⟩
  | refusedClosed {items} : Step cap ⟨items, true⟩ .refusedClosed ⟨items, true⟩
  | refusedFull {items} : cap ≤ items.length → Step cap ⟨items, false⟩ .refusedFull ⟨items, false⟩
  | popped {a items closed} : Step cap ⟨a :: items, closed⟩ (.popped a) ⟨items, closed⟩
  | empty : Step cap ⟨[], false⟩ .empty ⟨[], false⟩
  | ended : Step cap ⟨[], true⟩ .ended ⟨[], true⟩
  | close {items closed} : Step cap ⟨items, closed⟩ .close ⟨items, true⟩

inductive History (cap : ℕ) : List (Event α) → Queue α → Prop
  | nil : History cap [] ⟨[], false⟩
  | snoc {log q e q'} : History cap log q → Step cap q e q' → History cap (log ++ [e]) q'

namespace History

variable {cap : ℕ} {log before after : List (Event α)} {q : Queue α} {e : Event α}

theorem split (h : History cap (before ++ after) q) : ∃ q', History cap before q' := by
  generalize hlog : before ++ after = log at h
  induction h generalizing after with
  | nil =>
    obtain ⟨rfl, -⟩ := append_eq_nil_iff.1 hlog
    exact ⟨_, .nil⟩
  | snoc h hstep ih =>
    rcases eq_nil_or_concat after with rfl | ⟨after', e, rfl⟩
    · rw [append_nil] at hlog
      exact ⟨_, hlog ▸ h.snoc hstep⟩
    · rw [concat_eq_append, ← append_assoc] at hlog
      exact ih (append_inj_left' hlog rfl)

theorem last (h : History cap (log ++ [e]) q) : ∃ q', History cap log q' ∧ Step cap q' e q := by
  generalize hlog : log ++ [e] = log' at h
  cases h with
  | nil => exact absurd hlog (by simp)
  | snoc h hstep =>
    obtain ⟨rfl, he⟩ := append_inj' hlog rfl
    obtain rfl := head_eq_of_cons_eq he
    exact ⟨_, h, hstep⟩

theorem length_le (h : History cap log q) : q.items.length ≤ cap := by
  induction h with
  | nil => exact Nat.zero_le cap
  | snoc h hstep ih =>
    cases hstep with
    | accepted hlt => simpa using Nat.succ_le_of_lt hlt
    | popped => exact (Nat.le_of_succ_le ih)
    | refusedClosed | refusedFull | empty | ended | close => exact ih

theorem accepted_eq (h : History cap log q) : accepted log = popped log ++ q.items := by
  induction h with
  | nil => rfl
  | snoc h hstep ih =>
    cases hstep <;> simp_all [accepted, popped]

theorem closed_iff (h : History cap log q) : q.closed = true ↔ Event.close ∈ log := by
  induction h with
  | nil => simp
  | snoc h hstep ih => cases hstep <;> simp_all

theorem not_accepted (h : History cap (before ++ .close :: after) q) (a : α) :
    Event.accepted a ∉ after := by
  intro hmem
  obtain ⟨between, rest, rfl⟩ := append_of_mem hmem
  rw [← cons_append, ← append_assoc, append_cons (before ++ _)] at h
  obtain ⟨q', hsplit⟩ := split h
  obtain ⟨q'', hbefore, hstep⟩ := last hsplit
  cases hstep with
  | accepted => exact absurd (hbefore.closed_iff.2 (by simp)) Bool.false_ne_true

theorem ended (h : History cap (before ++ .ended :: after) q) :
    Event.close ∈ before ∧ accepted before = popped before := by
  rw [append_cons] at h
  obtain ⟨q', hsplit⟩ := split h
  obtain ⟨q'', hbefore, hstep⟩ := last hsplit
  cases hstep with
  | ended => exact ⟨hbefore.closed_iff.1 rfl, by simpa using hbefore.accepted_eq⟩

end History

end BoundedQueue
