/-
  Depth-first search for a node, with one set of visited nodes for all branches.

  `search succ goal fuel seen node` looks for `goal` from `node`; it returns
  whether it was found and the visited nodes, the last visited first, or `none`
  when the fuel is used up.
-/
import Mathlib.Data.Finset.Card
import Mathlib.Logic.Relation
import Mathlib.Tactic.Common

namespace Reach

variable {α : Type}

/-- The search in the successors of a node, until one of them finds the goal. -/
def searchList (visit : List α → α → Option (Bool × List α)) :
    List α → List α → Option (Bool × List α)
  | seen, [] => some (false, seen)
  | seen, next :: rest =>
    match visit seen next with
    | none => none
    | some (true, seen') => some (true, seen')
    | some (false, seen') => searchList visit seen' rest

variable [DecidableEq α] (succ : α → List α) (goal : α)

def search : ℕ → List α → α → Option (Bool × List α)
  | 0, _, _ => none
  | fuel + 1, seen, node =>
    if node = goal then some (true, seen)
    else if node ∈ seen then some (false, seen)
    else searchList (search fuel) (node :: seen) (succ node)

/-- There is a path of successors. -/
def Reaches (a b : α) : Prop := Relation.ReflTransGen (fun x y => y ∈ succ x) a b

variable {succ goal} {seen seen' : List α} {b : Bool}

omit [DecidableEq α] in
theorem searchList_induction {visit : List α → α → Option (Bool × List α)}
    {P : List α → List α → Prop} (refl : ∀ s, P s s) (trans : ∀ {s t u}, P s t → P t u → P s u)
    (step : ∀ seen a b seen', visit seen a = some (b, seen') → P seen seen') {nodes : List α}
    (h : searchList visit seen nodes = some (b, seen')) : P seen seen' := by
  induction nodes generalizing seen with
  | nil =>
    cases h
    exact refl _
  | cons next rest ih =>
    rw [searchList] at h
    split at h
    · cases h
    · next seen₁ hvisit =>
      cases h
      exact step _ _ _ _ hvisit
    · next seen₁ hvisit => exact trans (step _ _ _ _ hvisit) (ih h)

variable {fuel : ℕ} {node : α}

/-- A relation between the sets visited before and after a search. -/
theorem search_induction {P : List α → List α → Prop} (refl : ∀ s, P s s)
    (trans : ∀ {s t u}, P s t → P t u → P s u)
    (visit : ∀ node seen, node ≠ goal → node ∉ seen → P seen (node :: seen))
    (h : search succ goal fuel seen node = some (b, seen')) : P seen seen' := by
  induction fuel generalizing node seen seen' b with
  | zero => cases h
  | succ fuel ih =>
    rw [search] at h
    split_ifs at h with hgoal hseen
    · cases h
      exact refl _
    · cases h
      exact refl _
    · exact trans (visit node seen hgoal hseen)
        (searchList_induction refl trans (fun _ _ _ _ => ih) h)

section
variable (h : search succ goal fuel seen node = some (b, seen'))
include h

theorem search_subset : seen ⊆ seen' :=
  search_induction (P := fun s t => s ⊆ t) (fun _ => List.Subset.refl _) List.Subset.trans
    (fun node seen _ _ => List.subset_cons_self node seen) h

/-- **No node is visited twice.** -/
theorem search_nodup (hseen : seen.Nodup) : seen'.Nodup :=
  search_induction (P := fun s t => s.Nodup → t.Nodup) (fun _ => id) (fun h₁ h₂ h => h₂ (h₁ h))
    (fun _ _ _ hnew hs => List.nodup_cons.2 ⟨hnew, hs⟩) h hseen

theorem search_goal_notMem (hseen : goal ∉ seen) : goal ∉ seen' := by
  refine search_induction (P := fun s t => goal ∉ s → goal ∉ t) (fun _ => id)
    (fun h₁ h₂ h => h₂ (h₁ h)) (fun node seen hne _ hs => ?_) h hseen
  simp only [List.mem_cons, not_or]
  exact ⟨fun heq => hne heq.symm, hs⟩

end

/-! ## Termination -/

section total
variable {nodes : Finset α} (hclosed : ∀ a ∈ nodes, ∀ b ∈ succ a, b ∈ nodes)
include hclosed

theorem search_within {fuel : ℕ} {node : α} {seen seen' : List α} {b : Bool}
    (hnode : node ∈ nodes) (hseen : ∀ a ∈ seen, a ∈ nodes)
    (h : search succ goal fuel seen node = some (b, seen')) : ∀ a ∈ seen', a ∈ nodes := by
  induction fuel generalizing node seen seen' b with
  | zero => cases h
  | succ fuel ih =>
    rw [search] at h
    split_ifs at h with hgoal hmem
    · cases h
      exact hseen
    · cases h
      exact hseen
    have hlist : ∀ l : List α, (∀ a ∈ l, a ∈ nodes) → ∀ s : List α, (∀ a ∈ s, a ∈ nodes) →
        ∀ r, searchList (search succ goal fuel) s l = some r → ∀ a ∈ r.2, a ∈ nodes := by
      intro l
      induction l with
      | nil =>
        rintro - s hs r hr
        cases hr
        exact hs
      | cons next rest ihrest =>
        intro hl s hs r hr
        rw [searchList] at hr
        split at hr
        · cases hr
        · next s₁ hvisit =>
          cases hr
          exact ih (hl next (by simp)) hs hvisit
        · next s₁ hvisit =>
          exact ihrest (fun a ha => hl a (by simp [ha])) s₁ (ih (hl next (by simp)) hs hvisit) r hr
    refine hlist _ (hclosed node hnode) _ ?_ _ h
    simpa [hnode] using hseen

variable (goal) in
/-- **The search ends**: the nodes not yet visited bound its depth. -/
theorem search_total {fuel : ℕ} {node : α} {seen : List α} (hnode : node ∈ nodes)
    (hseen : ∀ a ∈ seen, a ∈ nodes) (hfuel : (nodes.filter (· ∉ seen)).card < fuel) :
    ∃ r, search succ goal fuel seen node = some r := by
  induction fuel generalizing node seen with
  | zero => omega
  | succ fuel ih =>
    rw [search]
    split_ifs with hgoal hmem
    · exact ⟨_, rfl⟩
    · exact ⟨_, rfl⟩
    -- One node less is unvisited inside the loop, and the loop only adds to them.
    have hsmaller : ∀ s : List α, node :: seen ⊆ s → (nodes.filter (· ∉ s)).card < fuel := by
      intro s hs
      have hlt : (nodes.filter (· ∉ s)).card < (nodes.filter (· ∉ seen)).card := by
        refine Finset.card_lt_card ⟨fun a ha => ?_, fun hsub => ?_⟩
        · simp only [Finset.mem_filter] at ha ⊢
          exact ⟨ha.1, fun hin => ha.2 (hs (List.mem_cons_of_mem _ hin))⟩
        · have hin := hsub (Finset.mem_filter.2 ⟨hnode, hmem⟩)
          exact (Finset.mem_filter.1 hin).2 (hs (List.mem_cons_self))
      omega
    have hlist : ∀ l : List α, (∀ a ∈ l, a ∈ nodes) → ∀ s : List α, node :: seen ⊆ s →
        (∀ a ∈ s, a ∈ nodes) → ∃ r, searchList (search succ goal fuel) s l = some r := by
      intro l
      induction l with
      | nil => exact fun _ s _ _ => ⟨_, rfl⟩
      | cons next rest ihrest =>
        intro hl s hs hin
        have hnext := hl next (by simp)
        obtain ⟨⟨b, s₁⟩, hvisit⟩ := ih hnext hin (hsmaller s hs)
        rw [searchList, hvisit]
        cases b with
        | true => exact ⟨_, rfl⟩
        | false =>
          exact ihrest (fun a ha => hl a (by simp [ha])) s₁
            (List.Subset.trans hs (search_subset hvisit)) (search_within hclosed hnext hin hvisit)
    refine hlist _ (hclosed node hnode) _ (List.Subset.refl _) ?_
    simpa [hnode] using hseen

end total

/-! ## Correctness -/

theorem search_sound (h : search succ goal fuel seen node = some (true, seen')) :
    Reaches succ node goal := by
  induction fuel generalizing node seen seen' with
  | zero => cases h
  | succ fuel ih =>
    rw [search] at h
    split_ifs at h with hgoal hmem
    · exact hgoal ▸ .refl
    · cases h
    suffices hlist : ∀ l s, searchList (search succ goal fuel) s l = some (true, seen') →
        ∃ a ∈ l, Reaches succ a goal by
      obtain ⟨a, ha, hreach⟩ := hlist _ _ h
      exact hreach.head ha
    intro l
    induction l with
    | nil =>
      intro s hs
      simp [searchList] at hs
    | cons next rest ihrest =>
      intro s hs
      rw [searchList] at hs
      split at hs
      · cases hs
      · next s₁ hvisit => exact ⟨next, by simp, ih hvisit⟩
      · next s₁ hvisit =>
        obtain ⟨a, ha, hreach⟩ := ihrest s₁ hs
        exact ⟨a, by simp [ha], hreach⟩

/-- After a search that found nothing, the node is visited, and so are the
    successors of all nodes that were visited on the way. -/
theorem search_closes (h : search succ goal fuel seen node = some (false, seen')) :
    node ∈ seen' ∧ ∀ a ∈ seen', a ∉ seen → ∀ b ∈ succ a, b ∈ seen' := by
  induction fuel generalizing node seen seen' with
  | zero => cases h
  | succ fuel ih =>
    rw [search] at h
    split_ifs at h with hgoal hmem
    · cases h
    · cases h
      exact ⟨hmem, fun a ha hnot => absurd ha hnot⟩
    have hlist : ∀ l s, searchList (search succ goal fuel) s l = some (false, seen') →
        s ⊆ seen' ∧ (∀ a ∈ l, a ∈ seen') ∧ ∀ a ∈ seen', a ∉ s → ∀ b ∈ succ a, b ∈ seen' := by
      intro l
      induction l with
      | nil =>
        intro s hs
        cases hs
        exact ⟨List.Subset.refl _, by simp, fun a ha hnot => absurd ha hnot⟩
      | cons next rest ihrest =>
        intro s hs
        rw [searchList] at hs
        split at hs
        · cases hs
        · cases hs
        · next s₁ hvisit =>
          obtain ⟨hnext, hclosed⟩ := ih hvisit
          obtain ⟨hsub, hrest, hclosed'⟩ := ihrest s₁ hs
          refine ⟨List.Subset.trans (search_subset hvisit) hsub, ?_, fun a ha hnot b hb => ?_⟩
          · simp only [List.mem_cons, forall_eq_or_imp]
            exact ⟨hsub hnext, hrest⟩
          · by_cases h₁ : a ∈ s₁
            · exact hsub (hclosed a h₁ hnot b hb)
            · exact hclosed' a ha h₁ b hb
    obtain ⟨hsub, hsucc, hclosed⟩ := hlist _ _ h
    refine ⟨hsub (List.mem_cons_self), fun a ha hnot b hb => ?_⟩
    by_cases heq : a = node
    · exact hsucc b (heq ▸ hb)
    · exact hclosed a ha (by simp [heq, hnot]) b hb

/-- **The goal is found iff it can be reached.** -/
theorem search_true_iff (h : search succ goal fuel [] node = some (b, seen)) :
    b = true ↔ Reaches succ node goal := by
  cases b with
  | true => simpa using search_sound h
  | false =>
    simp only [Bool.false_eq_true, false_iff]
    intro hreach
    obtain ⟨hnode, hclosed⟩ := search_closes h
    have hvisited : ∀ a, Reaches succ node a → a ∈ seen := by
      intro a ha
      induction ha with
      | refl => exact hnode
      | tail _ hstep ih => exact hclosed _ ih (by simp) _ hstep
    exact search_goal_notMem h (by simp) (hvisited goal hreach)

end Reach
