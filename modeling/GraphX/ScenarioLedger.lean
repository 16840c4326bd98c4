/-
  The ledger of a scenario and the commands that were issued for it.

  They agree: a record that is not pending tells the outcome of the latest command for its
  action (`Inv`), and every command was justified when it was issued (`Sound`).
-/
import GraphX.ScenarioRoutes

namespace GraphX.ScenarioRoutes

open List

variable {plan : Plan} {R : Routing}

/-! ## Plans -/

theorem Plan.checked (plan : Plan) : ∃ ids,
    plan.actions.foldlM (fun ids a => Check.fresh ids a.id.text
      (Config.Failure.reject "E_SCENARIO" "scenario.actions" "duplicate action ID")) [] = .ok ids ∧
    ∀ a ∈ plan.actions, Config.checkAction ⟨ids, Config.scenarioCredentials plan.graph plan.nodes,
      plan.nodes, plan.connections, plan.network⟩ a = .ok () := by
  have haccepted := plan.accepted
  obtain ⟨ids, hids, hrest⟩ := Check.bind_eq_ok.1 haccepted
  obtain ⟨hactions, heq⟩ := Check.bind_unit_eq_ok.1 hrest
  have heq : plan.graph.scenario.getD [] = plan.actions := Except.ok.inj heq
  rw [heq] at hids hactions
  exact ⟨ids, hids, Check.forM_eq_ok.1 hactions⟩

theorem Plan.ids_nodup (plan : Plan) : (plan.actions.map fun a => a.id.text).Nodup := by
  obtain ⟨ids, hids, -⟩ := plan.checked
  obtain ⟨hseen, hnodup⟩ := Check.foldlM_fresh id (fun a : Config.ScenarioAction => [a.id.text])
    (by
      rintro a s s' hs hstep
      obtain ⟨hnew, rfl⟩ := Check.fresh_eq_ok.1 hstep
      exact ⟨rfl, nodup_cons.2 ⟨hnew, hs⟩⟩) hids nodup_nil
  rw [hseen] at hnodup
  simpa [← map_eq_flatMap] using hnodup

theorem checkRoute_of_checkAction {r : Config.Resources} {a : Config.ScenarioAction}
    (h : Config.checkAction r a = .ok ())
    (hroute : a.action = .routeApply ∨ a.action = .routeClear) : Config.checkRoute r a = .ok () := by
  obtain ⟨-, h⟩ := Check.bind_unit_eq_ok.1 h
  obtain ⟨-, h⟩ := Check.bind_unit_eq_ok.1 h
  rcases hroute with hkind | hkind <;> rw [hkind] at h <;> exact h

namespace RouteAction

variable {a b : RouteAction plan}

theorem action_eq (h : a.id = b.id) : a.action = b.action :=
  inj_on_of_nodup_map plan.ids_nodup a.declared b.declared h

theorem kind_eq (h : a.id = b.id) : a.kind = b.kind :=
  congrArg Config.ScenarioAction.action (action_eq h)

theorem exists_applyOwner {apply : Config.ScenarioAction} (h : a.applyOwner = some apply) :
    ∃ b : RouteAction plan, b.action = apply ∧ b.kind = .routeApply ∧ b.router = a.router ∧
      b.destination = a.destination := by
  have hp := find?_some h
  simp only [Bool.and_eq_true, decide_eq_true_eq] at hp
  exact ⟨⟨apply, a.router, a.destination, mem_of_find?_eq_some h, .inl hp.1.1, hp.1.2, hp.2⟩,
    rfl, hp.1.1, rfl, rfl⟩

end RouteAction

/-! ## Records -/

def recordOf (actions : List OwnedScenarioAction) (id : String) : Option OwnedScenarioAction :=
  actions.find? (·.id = id)

def Pending (actions : List OwnedScenarioAction) (id : String) : Prop :=
  ∃ r, recordOf actions id = some r ∧ r.status = "pending"

/-- The latest command for an action. -/
def latest (trail : List (Issued R)) (id : String) : Option (Issued R) :=
  trail.find? (·.owner = id)

/-- The record tells that the command succeeded. -/
def Recorded (e : Issued R) (r : OwnedScenarioAction) : Prop :=
  match e.verb with
  | .add => r.status = "complete" ∧ r.identity = R.print e.left
  | .delete => r.status = "cleared"

variable {actions : List OwnedScenarioAction} {id id' : String} {r : OwnedScenarioAction}
  {f : OwnedScenarioAction → OwnedScenarioAction} {trail : List (Issued R)} {e : Issued R}

theorem id_of_recordOf (h : recordOf actions id = some r) : r.id = id := by
  simpa using find?_some h

theorem recordOf_of_mem (hnodup : (actions.map (·.id)).Nodup) (h : r ∈ actions) :
    recordOf actions r.id = some r := by
  cases hfound : recordOf actions r.id with
  | none => exact absurd (find?_eq_none.1 hfound r h) (by simp)
  | some r' =>
    have hmem := mem_of_find?_eq_some hfound
    rw [inj_on_of_nodup_map hnodup hmem h (id_of_recordOf hfound)]

theorem recordOf_push_of_ne (h : r.id ≠ id) : recordOf (actions ++ [r]) id = recordOf actions id := by
  simp [recordOf, h]

theorem recordOf_push (h : recordOf actions r.id = none) : recordOf (actions ++ [r]) r.id = some r := by
  unfold recordOf at h ⊢
  simp [h]

theorem recordOf_amend (hf : ∀ r, (f r).id = r.id) :
    recordOf (Keyed.amend OwnedScenarioAction.id id f actions) id = (recordOf actions id).map f :=
  Keyed.find?_amend hf actions

theorem all_not_pending :
    (recordOf actions id).all (·.status ≠ "pending") = true ↔ ¬Pending actions id := by
  cases h : recordOf actions id <;> simp [Pending, h]

theorem latest_cons_of_ne (h : e.owner ≠ id) : latest (e :: trail) id = latest trail id := by
  simp [latest, h]

theorem latest_cons : latest (e :: trail) e.owner = some e := by simp [latest]

/-! ## What the ledger and the trail tell -/

/-- The records agree with the commands that were issued. -/
structure Inv (plan : Plan) (trail : List (Issued R)) (actions : List OwnedScenarioAction) :
    Prop where
  nodup : (actions.map (·.id)).Nodup
  declared : ∀ id r, recordOf actions id = some r →
    (∃ a : RouteAction plan, r.id = a.id ∧ r.kind = kindText a.kind) ∧
      r.status ∈ ["pending", "complete", "cleared"]
  known : ∀ a : RouteAction plan, a.kind = .routeApply → ∀ r, recordOf actions a.id = some r →
    r.status = "pending" ∨ ∃ e, latest trail a.id = some e ∧ e.succeeded = true ∧ Recorded e r
  recorded : ∀ a : RouteAction plan, a.kind = .routeApply → ∀ e, latest trail a.id = some e →
    (recordOf actions a.id).isSome

/-- What a command was issued on: an apply action of the plan that is pending in the
    ledger, in the namespace of its router, which is the recorded one.  A route is added
    where there is none; what is deleted is listed as it was after the action added it. -/
structure Justified (plan : Plan) (earlier : List (Issued R)) (e : Issued R) : Prop where
  action : ∃ a : RouteAction plan, ∃ router : Config.ResolvedRouter, a.id = e.owner ∧
    a.kind = .routeApply ∧ plan.network.routers.find? (·.id = a.router) = some router ∧
    e.namespaceName = router.namespaceName ∧ e.destination = a.destination
  owned : ∃ item ∈ e.site.memory.namespaces, item.name = e.namespaceName ∧
    namespaceOwned e.site.world e.site.memory item = true
  pending : Pending e.site.ledger.actions e.owner
  added : e.verb = .add → e.found = []
  deleted : e.verb = .delete → ∃ added, latest earlier e.owner = some added ∧ added.verb = .add ∧
    added.succeeded = true ∧ R.print e.found = R.print added.left
  effective : e.succeeded = true → ∃ route, effect e.verb route e.found = some e.left

/-- Every command was justified when it was issued. -/
def Sound (plan : Plan) (trail : List (Issued R)) : Prop :=
  ∀ later e earlier, trail = later ++ e :: earlier → Justified plan earlier e

theorem Sound.cons (h : Sound plan trail) (he : Justified plan trail e) : Sound plan (e :: trail) := by
  rintro (_ | ⟨e', later⟩) e₁ earlier htrail
  · obtain ⟨rfl, rfl⟩ := cons.inj htrail
    exact he
  · exact h later e₁ earlier (cons.inj htrail).2

theorem Sound.of_latest (h : Sound plan trail) (he : latest trail id = some e) :
    ∃ earlier, Justified plan earlier e := by
  obtain ⟨later, earlier, htrail⟩ := append_of_mem (mem_of_find?_eq_some he)
  exact ⟨earlier, h later e earlier htrail⟩

/-- The records of a call that began with `start` and may touch the records in `T`. -/
structure Good (plan : Plan) (T : String → Prop) (start : List OwnedScenarioAction)
    (trail : List (Issued R)) (actions : List OwnedScenarioAction) : Prop where
  inv : Inv plan trail actions
  sound : Sound plan trail
  others : ∀ id, ¬T id → recordOf actions id = recordOf start id

namespace Good

variable {T : String → Prop} {start : List OwnedScenarioAction}

/-- What a changed record must tell. -/
def Tells (plan : Plan) (trail : List (Issued R)) (id : String) (r : OwnedScenarioAction) : Prop :=
  r.status ∈ ["pending", "complete", "cleared"] ∧
    ∀ a : RouteAction plan, a.kind = .routeApply → a.id = id →
      r.status = "pending" ∨ ∃ e, latest trail id = some e ∧ e.succeeded = true ∧ Recorded e r

theorem tells_of_pending (h : r.status = "pending") : Tells plan trail id r :=
  ⟨by simp [h], fun _ _ _ => .inl h⟩

variable (h : Good plan T start trail actions)
include h

/-- One record is changed. -/
theorem update {actions' : List OwnedScenarioAction} (hT : T id)
    (hnodup : (actions'.map (·.id)).Nodup)
    (hother : ∀ id', id' ≠ id → recordOf actions' id' = recordOf actions id')
    (hsome : (recordOf actions id).isSome → (recordOf actions' id).isSome)
    (hself : ∀ r, recordOf actions' id = some r →
      (∃ a : RouteAction plan, r.id = a.id ∧ r.kind = kindText a.kind) ∧ Tells plan trail id r) :
    Good plan T start trail actions' := by
  refine ⟨⟨hnodup, ?_, ?_, ?_⟩, h.sound, ?_⟩
  · intro id' r hr
    by_cases heq : id' = id
    · subst heq
      exact ⟨(hself r hr).1, (hself r hr).2.1⟩
    · exact h.inv.declared id' r ((hother id' heq).symm.trans hr)
  · intro a ha r hr
    by_cases heq : a.id = id
    · rw [heq] at hr ⊢
      exact (hself r hr).2.2 a ha heq
    · exact h.inv.known a ha r ((hother a.id heq).symm.trans hr)
  · intro a ha e he
    have hrecorded := h.inv.recorded a ha e he
    by_cases heq : a.id = id
    · rw [heq] at hrecorded ⊢
      exact hsome hrecorded
    · rw [hother a.id heq]
      exact hrecorded
  · intro id' hid'
    have hne : id' ≠ id := fun heq => hid' (heq ▸ hT)
    rw [hother id' hne]
    exact h.others id' hid'

theorem amend (hT : T id) (hid : ∀ r, (f r).id = r.id) (hkind : ∀ r, (f r).kind = r.kind)
    (htells : ∀ r, recordOf actions id = some r → Tells plan trail id (f r)) :
    Good plan T start trail (Keyed.amend OwnedScenarioAction.id id f actions) := by
  refine h.update hT ?_ (fun id' hne => Keyed.find?_amend_of_ne hid hne actions) ?_ ?_
  · rw [Keyed.map_amend hid]
    exact h.inv.nodup
  · rw [recordOf_amend hid, Option.isSome_map]
    exact fun h => h
  · intro r hr
    rw [recordOf_amend hid] at hr
    obtain ⟨r₀, hr₀, rfl⟩ := Option.map_eq_some_iff.1 hr
    obtain ⟨⟨a, ha, hk⟩, -⟩ := h.inv.declared id r₀ hr₀
    exact ⟨⟨a, (hid r₀).trans ha, (hkind r₀).trans hk⟩, htells r₀ hr₀⟩

theorem push {a : RouteAction plan} (hT : T a.id) (hnone : recordOf actions a.id = none)
    (hid : r.id = a.id) (hkind : r.kind = kindText a.kind) (htells : Tells plan trail a.id r) :
    Good plan T start trail (actions ++ [r]) := by
  have hself : recordOf (actions ++ [r]) a.id = some r := hid ▸ recordOf_push (hid ▸ hnone)
  refine h.update hT ?_ (fun id hne => recordOf_push_of_ne (hid ▸ hne.symm)) (by simp [hself]) ?_
  · have hnew : r.id ∉ actions.map (·.id) := by
      intro hmem
      obtain ⟨r', hr', heq⟩ := mem_map.1 hmem
      have := find?_eq_none.1 hnone r' hr'
      simp [heq, hid] at this
    rw [map_append, nodup_append]
    refine ⟨h.inv.nodup, nodup_singleton _, ?_⟩
    intro x hx y hy heq
    rw [map_singleton, mem_singleton] at hy
    exact hnew (hy ▸ heq ▸ hx)
  · intro r' hr'
    cases hself.symm.trans hr'
    exact ⟨⟨a, hid, hkind⟩, htells⟩

theorem issue (hpending : Pending actions e.owner) (he : Justified plan trail e) :
    Good plan T start (e :: trail) actions := by
  obtain ⟨r₀, hr₀, hstatus⟩ := hpending
  refine ⟨⟨h.inv.nodup, h.inv.declared, ?_, ?_⟩, h.sound.cons he, h.others⟩
  · intro a ha r hr
    by_cases heq : e.owner = a.id
    · rw [heq, hr] at hr₀
      exact .inl (Option.some.inj hr₀ ▸ hstatus)
    · rw [latest_cons_of_ne heq]
      exact h.inv.known a ha r hr
  · intro a ha e' he'
    by_cases heq : e.owner = a.id
    · simp [← heq, hr₀]
    · rw [latest_cons_of_ne heq] at he'
      exact h.inv.recorded a ha e' he'

end Good

end GraphX.ScenarioRoutes
