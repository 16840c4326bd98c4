/-
  Simulation between calls on two worlds, the second of which has less in it.

  `Sim S A x y`: the calls `x` and `y` both end, with results related by `A`, or both
  block, and `y` leaves what remains of the world that `x` leaves; or else `x` leaves a
  lost world.  There is one rule for each way of building a call; with them a simulation
  is proved along the structure of a program.
-/
import GraphX.Lib.Triple

namespace Imperative

variable {ω ω' ε α β : Type}

/-- What remains of a world, and when something can be said of it. -/
structure Erasure (ω ω' : Type) where
  erase : ω → ω'
  /-- What every call may assume and leaves true. -/
  Good : ω → Prop
  /-- The worlds of which nothing is said any more. -/
  Lost : ω → Prop

/-- A good world, and a lost one if `b`. -/
def Erasure.Held (S : Erasure ω ω') (b : Prop) (w : ω) : Prop := S.Good w ∧ (b → S.Lost w)

/-- The same value, or exceptions related by `E`. -/
def Alike (E : ε → ε → Prop) : Except ε α → Except ε α → Prop
  | .ok a, .ok a' => a = a'
  | .error e, .error e' => E e e'
  | _, _ => False

/-- Any two results. -/
def Ended (_ _ : Except ε α) : Prop := True

/-- Both calls have ended, the second with what remains of the first one's world, or
    neither has. -/
def Outcome.Matches (S : Erasure ω ω') (A : Except ε α → Except ε α → Prop)
    (o : Outcome ω ε α) (o' : Outcome ω' ε α) : Prop :=
  Option.Rel (fun r r' => A r.1 r'.1 ∧ r'.2 = S.erase r.2) o.result o'.result

namespace Outcome

variable {S : Erasure ω ω'} {A : Except ε α → Except ε α → Prop} {E : ε → ε → Prop} {a : α} {e : ε}
  {w : ω} {o' : Outcome ω' ε α}

theorem matches_returned (h : Matches S (Alike E) (.returned a w) o') :
    o' = .returned a (S.erase w) := by
  cases o' with
  | returned a' w' =>
    cases h with
    | some h => exact congrArg₂ _ (Eq.symm h.1) h.2
  | threw e' w' =>
    cases h with
    | some h => exact h.1.elim
  | blocked w' => cases h

theorem matches_threw (h : Matches S (Alike E) (.threw e w : Outcome ω ε α) o') :
    ∃ e', E e e' ∧ o' = .threw e' (S.erase w) := by
  cases o' with
  | returned a' w' =>
    cases h with
    | some h => exact h.1.elim
  | threw e' w' =>
    cases h with
    | some h => exact ⟨e', h.1, congrArg _ h.2⟩
  | blocked w' => cases h

theorem matches_blocked (h : Matches S A (.blocked w) o') : ∃ w', o' = .blocked w' := by
  cases o' with
  | returned | threw => cases h
  | blocked w' => exact ⟨w', rfl⟩

theorem Matches.mono {o : Outcome ω ε α} {B : Except ε α → Except ε α → Prop} (h : Matches S A o o')
    (hA : ∀ r r', A r r' → B r r') : Matches S B o o' := by
  unfold Matches at h ⊢
  generalize o.result = r at h ⊢
  generalize o'.result = r' at h ⊢
  cases h with
  | some h => exact .some ⟨hA _ _ h.1, h.2⟩
  | none => exact .none

theorem Matches.blocked {w' : ω'} : Matches S A (.blocked w) (.blocked w') := .none

theorem Matches.returned (h : A (.ok a) (.ok a)) :
    Matches S A (.returned a w) (.returned a (S.erase w)) := .some ⟨h, rfl⟩

theorem Matches.threw {e' : ε} (h : A (.error e) (.error e')) :
    Matches S A (.threw e w) (.threw e' (S.erase w)) := .some ⟨h, rfl⟩

end Outcome

namespace Act

/-- A good world stays good, and a lost one lost. -/
def Stays (S : Erasure ω ω') (x : Act ω ε α) : Prop :=
  ∀ b w, S.Held b w → x.wp w (.always (S.Held b))

structure Sim (S : Erasure ω ω') (A : Except ε α → Except ε α → Prop) (x : Act ω ε α)
    (y : Act ω' ε α) : Prop where
  stays : Stays S x
  agree : ∀ w, S.Good w → S.Lost (x.run w).world ∨ (x.run w).Matches S A (y.run (S.erase w))

variable {S : Erasure ω ω'} {A : Except ε α → Except ε α → Prop} {E : ε → ε → Prop}
  {x : Act ω ε α} {y : Act ω' ε α} {f : α → Act ω ε β} {f' : α → Act ω' ε β} {w : ω}

namespace Stays

theorem good (hx : Stays S x) (hw : S.Good w) : S.Good (x.run w).world :=
  (wp_always_world (hx False w ⟨hw, False.elim⟩)).1

theorem lost (hx : Stays S x) (hw : S.Good w) (hlost : S.Lost w) : S.Lost (x.run w).world :=
  (wp_always_world (hx True w ⟨hw, fun _ => hlost⟩)).2 trivial

theorem pure (a : α) : Stays S (pure a : Act ω ε α) := fun _ _ h => h

theorem throw (e : ε) : Stays S (throw e : Act ω ε α) := fun _ _ h => h

theorem bind (hx : Stays S x) (hf : ∀ a, Stays S (f a)) : Stays S (x >>= f) :=
  fun b w h => wp_always_bind (hx b w h) fun a => hf a b

theorem get_bind {f : ω → Act ω ε β} (hf : ∀ w, Stays S (f w)) : Stays S (get >>= f) :=
  fun b w h => hf w b w h

theorem tryCatch {handler : ε → Act ω ε α} (hx : Stays S x) (hh : ∀ e, Stays S (handler e)) :
    Stays S (tryCatch x handler) :=
  fun b w h => wp_catch.2 (wp_mono (hx b w h) (fun _ _ => id) (fun e => hh e b) fun _ => id)

end Stays

namespace Sim

theorem mono {B : Except ε α → Except ε α → Prop} (h : Sim S A x y) (hA : ∀ r r', A r r' → B r r') :
    Sim S B x y where
  stays := h.stays
  agree w hw := (h.agree w hw).imp_right fun hm => hm.mono hA

theorem pure (a : α) : Sim S (Alike E) (pure a) (pure a) where
  stays := .pure a
  agree _ _ := .inr (.returned rfl)

theorem throw {e e' : ε} (he : A (.error e) (.error e')) :
    Sim S A (throw e : Act ω ε α) (throw e') where
  stays := .throw e
  agree _ _ := .inr (.threw he)

theorem block : Sim S A (block : Act ω ε α) block where
  stays _ _ h := h
  agree _ _ := .inr .blocked

theorem modify {g : ω → ω} {g' : ω' → ω'} (hheld : ∀ b w, S.Held b w → S.Held b (g w))
    (hg : ∀ w, S.erase (g w) = g' (S.erase w)) : Sim S (Alike E) (modify g) (modify g') where
  stays := hheld
  agree w _ := .inr (.some ⟨rfl, (hg w).symm⟩)

theorem bind_of {B : Except ε β → Except ε β → Prop} (hx : Sim S (Alike E) x y)
    (hf : ∀ a, Sim S B (f a) (f' a)) (hE : ∀ e e', E e e' → B (.error e) (.error e')) :
    Sim S B (x >>= f) (y >>= f') where
  stays := hx.stays.bind fun a => (hf a).stays
  agree w hw := by
    have hgood := hx.stays.good hw
    have hagree := hx.agree w hw
    cases hrun : x.run w with
    | returned a w₁ =>
      rw [hrun] at hgood hagree
      rw [run_bind_returned hrun]
      rcases hagree with hlost | hm
      · exact .inl ((hf a).stays.lost hgood hlost)
      · rw [run_bind_returned (Outcome.matches_returned hm)]
        exact (hf a).agree w₁ hgood
    | threw e w₁ =>
      rw [hrun] at hagree
      rw [run_bind_threw hrun]
      refine hagree.imp_right fun hm => ?_
      obtain ⟨e', he, hy⟩ := Outcome.matches_threw hm
      rw [run_bind_threw hy]
      exact .threw (hE e e' he)
    | blocked w₁ =>
      rw [hrun] at hagree
      rw [run_bind_blocked hrun]
      refine hagree.imp_right fun hm => ?_
      obtain ⟨w', hy⟩ := Outcome.matches_blocked hm
      rw [run_bind_blocked hy]
      exact .blocked

theorem bind (hx : Sim S (Alike E) x y) (hf : ∀ a, Sim S (Alike E) (f a) (f' a)) :
    Sim S (Alike E) (x >>= f) (y >>= f') :=
  hx.bind_of hf fun _ _ h => h

theorem get_bind {f : ω → Act ω ε α} {f' : ω' → Act ω' ε α}
    (hf : ∀ w, S.Good w → Sim S A (f w) (f' (S.erase w))) : Sim S A (get >>= f) (get >>= f') where
  stays b w h := (hf w h.1).stays b w h
  agree w hw := (hf w hw).agree w hw

theorem onlyIf {b : Bool} {x : Act ω ε Unit} {y : Act ω' ε Unit} (h : Sim S (Alike E) x y) :
    Sim S (Alike E) (Act.onlyIf b x) (Act.onlyIf b y) := by
  cases b with
  | false => exact pure ()
  | true => exact h

theorem ite {c : Prop} [Decidable c] {x' : Act ω ε α} {y' : Act ω' ε α} (h : c → Sim S A x y)
    (h' : ¬c → Sim S A x' y') : Sim S A (if c then x else x') (if c then y else y') := by
  by_cases hc : c
  · rw [if_pos hc, if_pos hc]
    exact h hc
  · rw [if_neg hc, if_neg hc]
    exact h' hc

/-- A handler sees what was thrown only up to `E`. -/
theorem tryCatch {handler : ε → Act ω ε α} {handler' : ε → Act ω' ε α} (hx : Sim S (Alike E) x y)
    (hpure : ∀ a, A (.ok a) (.ok a)) (hstays : ∀ e, Stays S (handler e))
    (hh : ∀ e e', E e e' → Sim S A (handler e) (handler' e')) :
    Sim S A (tryCatch x handler) (tryCatch y handler') where
  stays := hx.stays.tryCatch hstays
  agree w hw := by
    have hgood := hx.stays.good hw
    have hagree := hx.agree w hw
    cases hrun : x.run w with
    | returned a w₁ =>
      rw [hrun] at hagree
      rw [run_catch_returned hrun]
      refine hagree.imp_right fun hm => ?_
      rw [run_catch_returned (Outcome.matches_returned hm)]
      exact .returned (hpure a)
    | threw e w₁ =>
      rw [hrun] at hgood hagree
      rw [run_catch_threw hrun]
      rcases hagree with hlost | hm
      · exact .inl ((hstays e).lost hgood hlost)
      · obtain ⟨e', he, hy⟩ := Outcome.matches_threw hm
        rw [run_catch_threw hy]
        exact (hh e e' he).agree w₁ hgood
    | blocked w₁ =>
      rw [hrun] at hagree
      rw [run_catch_blocked hrun]
      refine hagree.imp_right fun hm => ?_
      obtain ⟨w', hy⟩ := Outcome.matches_blocked hm
      rw [run_catch_blocked hy]
      exact .blocked

/-- A call on a part of the world. -/
theorem zoom {χ χ' : Type} {T : Erasure χ χ'} {part : χ → ω} {update : ω → χ → χ}
    {part' : χ' → ω'} {update' : ω' → χ' → χ'} (hx : Sim S A x y)
    (herase : ∀ w, S.erase (part w) = part' (T.erase w))
    (hupdate : ∀ p w, T.erase (update p w) = update' (S.erase p) (T.erase w))
    (hgood : ∀ w, T.Good w → S.Good (part w))
    (hgood' : ∀ p w, T.Good w → S.Good p → T.Good (update p w))
    (hlost : ∀ p w, S.Lost p → T.Lost (update p w))
    (hlost' : ∀ w, T.Lost w → S.Lost (part w) ∨ ∀ p, T.Lost (update p w)) :
    Sim T A (x.zoom part update) (y.zoom part' update') where
  stays b w h := by
    have hheld := hx.stays (b ∧ S.Lost (part w)) (part w) ⟨hgood w h.1, And.right⟩
    have hback : ∀ p, S.Held (b ∧ S.Lost (part w)) p → T.Held b (update p w) := fun p hp =>
      ⟨hgood' p w h.1 hp.1, fun hb => (hlost' w (h.2 hb)).elim
        (fun hl => hlost p w (hp.2 ⟨hb, hl⟩)) fun hl => hl p⟩
    exact wp_zoom.2 (wp_mono hheld (fun _ => hback) (fun _ => hback) hback)
  agree w hw := by
    have hagree := hx.agree (part w) (hgood w hw)
    rw [herase] at hagree
    unfold Outcome.Matches at hagree ⊢
    rw [world_zoom, result_zoom, result_zoom]
    refine hagree.imp (hlost _ w) fun hm => ?_
    generalize (x.run (part w)).result = r at hm ⊢
    generalize (y.run (part' (T.erase w))).result = r' at hm ⊢
    cases hm with
    | some h => exact .some ⟨h.1, by rw [hupdate, ← h.2]⟩
    | none => exact .none

/-- Calls that end, and leave alone what the simulation is about. -/
theorem of_keeps {γ : Type} {part : ω → γ} (hx : Keeps part x) (hy : Keeps id y)
    (hpart : ∀ w w', part w' = part w →
      S.erase w' = S.erase w ∧ (S.Good w → S.Good w') ∧ (S.Lost w → S.Lost w')) :
    Sim S Ended x y where
  stays b w h := by
    obtain ⟨r, w', hr, hp⟩ := hx w
    obtain ⟨-, hgood, hlost⟩ := hpart w w' hp
    have hheld : S.Held b w' := ⟨hgood h.1, fun hb => hlost (h.2 hb)⟩
    unfold wp
    cases hrun : x.run w <;> rw [hrun] at hr <;> cases hr <;> exact hheld
  agree w _ := by
    obtain ⟨r, w', hr, hp⟩ := hx w
    obtain ⟨r', w₁, hr', hp'⟩ := hy (S.erase w)
    refine .inr ?_
    rw [Outcome.Matches, hr, hr']
    exact .some ⟨trivial, hp'.trans (hpart w w' hp).1.symm⟩

end Sim

end Act

end Imperative
