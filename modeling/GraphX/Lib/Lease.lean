/-
  Leases: for each key, at most one holder at a time.

  The trail of a lease service says what happened, the newest first: a lease was granted,
  renewed or used, given up, or exercised.
-/
import Mathlib.Tactic

namespace Lease

variable {κ α β : Type}

/-- A step of a lease service. -/
inductive Record (κ α β : Type) where
  | granted (key : κ) (grant : α)
  | used (key : κ) (time : ℤ)
  | released (key : κ)
  | exercised (key : κ) (act : β)

def Record.key : Record κ α β → κ
  | granted key _ | used key _ | released key | exercised key _ => key

abbrev Trail (κ α β : Type) := List (Record κ α β)

/-- Every exercise of the trail meets `P`. -/
def Each (P : Trail κ α β → κ → β → Prop) : Trail κ α β → Prop
  | [] => True
  | .exercised key act :: trail => P trail key act ∧ Each P trail
  | _ :: trail => Each P trail

variable [DecidableEq κ]

def holder : Trail κ α β → κ → Option α
  | [], _ => none
  | .granted k grant :: trail, key => if k = key then some grant else holder trail key
  | .released k :: trail, key => if k = key then none else holder trail key
  | .used _ _ :: trail, key | .exercised _ _ :: trail, key => holder trail key

def lastUse : Trail κ α β → κ → Option ℤ
  | [], _ => none
  | .used k time :: trail, key => if k = key then some time else lastUse trail key
  | .granted _ _ :: trail, key | .released _ :: trail, key | .exercised _ _ :: trail, key =>
    lastUse trail key

variable {trail : Trail κ α β} {key k : κ} {grant : α} {act : β} {time : ℤ} {r : Record κ α β}

@[simp] theorem holder_granted : holder (.granted key grant :: trail) key = some grant := if_pos rfl

@[simp] theorem holder_released : holder (.released key :: trail) key = none := if_pos rfl

@[simp] theorem lastUse_used : lastUse (.used key time :: trail) key = some time := if_pos rfl

theorem holder_cons_of_ne (h : r.key ≠ key) : holder (r :: trail) key = holder trail key := by
  cases r with
  | granted k grant | released k => exact if_neg h
  | used k time | exercised k act => rfl

theorem lastUse_cons_of_ne (h : r.key ≠ key) : lastUse (r :: trail) key = lastUse trail key := by
  cases r with
  | used k time => exact if_neg h
  | granted k grant | released k | exercised k act => rfl

end Lease
