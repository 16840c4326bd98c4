/-
  The routes of a scenario, in every history of calls.

  * **`scenario_routes_owned`**: routes are added where there is none and deleted as they
    were recorded, what is unknown stays pending, and a route can be cleared by its own
    action just if that is the first of the plan to apply it.
-/
import GraphX.ScenarioCalls
import GraphX.Lib.Runs

namespace GraphX.ScenarioRoutes

open Imperative Imperative.Act List

variable {plan : Plan} {R : Routing} {actions : List OwnedScenarioAction} {r : OwnedScenarioAction}
  {trail : List (Issued R)}

/-! ## What can be cleared -/

theorem RouteAction.exists_route (a : RouteAction plan) : ∃ router route,
    plan.network.routers.find? (·.id = a.router) = some router ∧
      router.routes.find? (·.destination = a.destination) = some route := by
  obtain ⟨ids, -, hchecked⟩ := plan.checked
  have hroute := checkRoute_of_checkAction (hchecked a.action a.declared) a.isRoute
  unfold Config.checkRoute at hroute
  rw [a.router_eq, a.destination_eq] at hroute
  obtain ⟨id, hid, hroute⟩ := Check.bind_eq_ok.1 hroute
  obtain ⟨destination, hdestination, hroute⟩ := Check.bind_eq_ok.1 hroute
  cases Config.at?_eq_ok.1 hid
  cases Config.at?_eq_ok.1 hdestination
  obtain ⟨router, hrouter, hroute⟩ := Check.bind_eq_ok.1 hroute
  obtain ⟨route, hdeclared, -⟩ := Check.bind_eq_ok.1 hroute
  exact ⟨router, route, Config.findResource_eq_ok.1 hrouter, Config.findResource_eq_ok.1 hdeclared⟩

theorem ident_length (id : Config.Ident) : id.text ≠ "" ∧ id.text.toList.length ≤ 64 := by
  have hvalid := id.valid
  unfold Config.isIdentifier at hvalid
  cases htext : id.text.toList with
  | nil => simp [htext] at hvalid
  | cons c rest =>
    rw [htext] at hvalid
    simp only [Bool.and_eq_true, decide_eq_true_eq] at hvalid
    refine ⟨fun h => by simp [h] at htext, ?_⟩
    exact Nat.succ_le_succ hvalid.2

theorem Inv.loads_iff (h : Inv plan trail actions) :
    (actions.length ≤ 64 ∧ identitiesLoad actions = true) ↔
      ∀ r ∈ actions, r.identity.utf8ByteSize ≤ 65536 := by
  have hdeclared : ∀ r ∈ actions, (∃ a : RouteAction plan, r.id = a.id ∧ r.kind = kindText a.kind) ∧
      r.status ∈ ["pending", "complete", "cleared"] :=
    fun r hr => h.declared r.id r (recordOf_of_mem h.nodup hr)
  constructor
  · rintro ⟨-, hloads⟩ r hr
    unfold identitiesLoad at hloads
    rw [Bool.and_eq_true, all_eq_true] at hloads
    have := hloads.2 r hr
    simp only [actionLoads, Bool.and_eq_true, decide_eq_true_eq] at this
    exact this.1.1.2
  · intro hshort
    have hsubset : actions.map (·.id) ⊆ plan.actions.map fun a => a.id.text := by
      intro id hid
      obtain ⟨r, hr, rfl⟩ := mem_map.1 hid
      obtain ⟨⟨a, ha, -⟩, -⟩ := hdeclared r hr
      exact mem_map.2 ⟨a.action, a.declared, ha.symm⟩
    have hlength := (h.nodup.subperm hsubset).length_le
    simp only [length_map] at hlength
    refine ⟨hlength.trans plan.bounded, ?_⟩
    unfold identitiesLoad
    rw [Bool.and_eq_true, all_eq_true]
    refine ⟨decide_eq_true h.nodup, fun r hr => ?_⟩
    obtain ⟨⟨a, hid, hkind⟩, hstatus⟩ := hdeclared r hr
    obtain ⟨hne, hlength⟩ := ident_length a.action.id
    have hkinds : r.kind ∈ ["fault", "route-apply", "route-clear", "credential-rotate", "traffic"] := by
      rw [hkind, RouteAction.kind]
      rcases a.isRoute with h | h <;> rw [h] <;> simp [kindText]
    simp only [actionLoads, Bool.and_eq_true, decide_eq_true_eq, all_eq_true]
    rw [hid]
    exact ⟨⟨⟨⟨⟨hne, hlength⟩, a.action.id.chars_valid⟩, hshort r hr⟩, hkinds⟩, hstatus⟩

def clearCall (a : RouteAction plan) (config : GraphConfig) : Call plan :=
  ⟨.clear, a, config, true, fun _ => .works⟩

/-- The graph is ready, its network is its own, and the router's namespace the recorded one. -/
structure Available (s : Scene R) (config : GraphConfig) (router : Config.ResolvedRouter) : Prop where
  graph : s.site.ledger.graphId = config.id
  hash : s.site.ledger.configHash = config.hash
  status : s.site.ledger.status = "ready"
  network : ∃ bound site, bindOwnedContainerServices config s.site.ledger = .ok bound ∧
    (cleanup bound .destroy true).run (s.enter fun _ => .works).load.site = .returned () site ∧
    (site.memory.namespaces.find? (·.name = router.namespaceName)).any
      (namespaceOwned site.world site.memory) = true

def Gone (a : RouteAction plan) (router : Config.ResolvedRouter) (s : Scene R) : Prop :=
  (recordOf s.site.ledger.actions a.id).any (·.status = "cleared") = true ∧
    s.routes router.namespaceName (R.target a.destination) = []

def Clears (s : Scene R) (config : GraphConfig) (a : RouteAction plan)
    (router : Config.ResolvedRouter) : Prop :=
  ∃ s', (executeScenario (clearCall a config)).run (s.enter fun _ => .works) = .returned () s' ∧
    Gone a router s'

section clears
variable {s : Scene R} {a : RouteAction plan} {router : Config.ResolvedRouter} {config : GraphConfig}

theorem clearRoute_clears {x : R.Route} (hsmooth : Smooth s) (ha : a.kind = .routeApply)
    (howner : a.applyOwner = some a.action) (hr : recordOf s.site.memory.actions a.id = some r)
    (hstatus : r.status = "complete")
    (hroute : router.routes.find? (·.destination = a.destination) ≠ none)
    (hfound : s.routes router.namespaceName (R.target a.destination) = [x]) :
    (clearRoute a router r.identity).wp s
      ⟨fun _ => Gone a router, fun _ _ => False, fun _ => False⟩ := by
  unfold clearRoute
  rw [howner]
  refine wp_expect_bind (fun _ => ?_) fun h => ?_
  · refine wp_modify_bind.2 (wp_bind.2 (wp_save ?_ (absurd hsmooth) (absurd hsmooth) (absurd hsmooth)))
    refine wp_bind.2 (wp_routeCommand (fun route hdestination => ?_) (absurd · hroute))
    rw [← hdestination] at hfound
    refine wp_bind.2 (wp_callRoute (fun left hleft => ?_) (fun h => ?_) (absurd hsmooth))
    · dsimp only
      rw [wp_modify_bind, decide_eq_false (by simp [ha]), onlyIf_false]
      refine wp_save ⟨?_, ?_⟩ (absurd hsmooth) (absurd hsmooth) (absurd hsmooth)
      · change (recordOf (Keyed.amend _ a.id _ (Keyed.amend _ a.id _ s.site.memory.actions))
          a.id).any _ = true
        rw [recordOf_amend, recordOf_amend, hr]
        · rfl
        all_goals exact fun _ => rfl
      · have hleft : effect .delete route [x] = some left := hfound ▸ hleft
        cases hleft
        rw [← hdestination]
        simp [Scene.saved, Scene.amend, Scene.setActions, Scene.tick, Scene.issue]
    · rcases h with h | h
      · exact absurd hsmooth h
      · have hnone : effect .delete route [x] = none := hfound ▸ h
        cases hnone
  · have : (recordOf s.site.memory.actions a.id).any (fun owned =>
        owned.status = "complete" && owned.identity = r.identity) = true := by simp [hr, hstatus]
    exact absurd (this.symm.trans h) (by decide)

variable (h : Inv plan s.trail s.site.ledger.actions) (hsound : Sound plan s.trail)
  (ha : a.kind = .routeApply) (hr : recordOf s.site.ledger.actions a.id = some r)
  (hstatus : r.status = "complete")
  (hrouter : plan.network.routers.find? (·.id = a.router) = some router)
  (hunchanged : R.print (s.routes router.namespaceName (R.target a.destination)) = r.identity)
  (havailable : Available s config router)
include h hsound ha hr hstatus hrouter hunchanged havailable

theorem clears_of_owner (howner : a.applyOwner = some a.action)
    (hshort : ∀ r ∈ s.site.ledger.actions, r.identity.utf8ByteSize ≤ 65536) :
    Clears s config a router := by
  -- the route that was added is the only one
  obtain ⟨e, he, hadd, hsucceeded, hidentity⟩ := h.complete ha hr hstatus
  obtain ⟨earlier, hjustified⟩ := hsound.of_latest he
  obtain ⟨made, hmade⟩ := hjustified.effective hsucceeded
  rw [hadd, hjustified.added hadd] at hmade
  have hfound : s.routes router.namespaceName (R.target a.destination) = [R.made made] :=
    (print_injective (hunchanged.trans hidentity)).trans (Option.some.inj hmade).symm
  obtain ⟨bound, site, hbound, hrun, howned⟩ := havailable.network
  obtain ⟨hfew, hloads⟩ := h.loads_iff.2 hshort
  have hpending : ¬Pending s.site.ledger.actions a.id := by
    rintro ⟨r', hr', hpending⟩
    cases hr.symm.trans hr'
    simp [hstatus] at hpending
  have hready : Ready (clearCall a config) (s.enter fun _ => .works) bound :=
    ⟨rfl, hfew, hloads, havailable.graph, havailable.hash, havailable.status, hbound, hpending⟩
  have hquiet : Quiet s.site.ledger.actions (fun _ => .works) site :=
    of_returned (cleanup_quiet bound ⟨rfl, rfl, rfl⟩) hrun
  have hwp : (executeScenario (clearCall a config)).wp (s.enter fun _ => .works)
      ⟨fun _ => Gone a router, fun _ _ => False, fun _ => False⟩ := by
    refine wp_executeScenario (fun h => absurd hready (h bound)) fun bound' hready' => ?_
    cases hbound.symm.trans hready'.bound
    refine wp_bind.2 (wp_zoom.2 ?_)
    unfold wp
    rw [hrun]
    have hsmooth : Smooth { (s.enter fun _ => .works).load with site := site } := hquiet.2.2
    refine wp_bind.2 (wp_proceed ?_ (absurd hsmooth) (absurd hsmooth))
    refine wp_bind.2 (wp_ownedRouter hrouter howned ?_)
    have hlisting : (R.print (s.routes router.namespaceName
      (R.target a.destination))).utf8ByteSize ≤ 65536 := by
      rw [hunchanged]
      exact hshort r (mem_of_find?_eq_some hr)
    refine wp_bind.2 (wp_showRoute (fun _ => ?_) (fun h => ?_) (absurd hsmooth))
    · obtain ⟨router', route, hrouter', hroute⟩ := a.exists_route
      cases hrouter.symm.trans hrouter'
      have hclears : (clearCall a config).clears = true := by simp [Call.clears, clearCall]
      dsimp only
      rw [if_pos hclears]
      have hr' : recordOf site.memory.actions a.id = some r := by rw [hquiet.1, hr]
      have := clearRoute_clears (s := Scene.tick (Scene.tick { s with site := site })) hsmooth ha howner
        hr' hstatus (by simp [hroute]) hfound
      rw [← hunchanged] at this
      exact this
    · rcases h with h | h
      · exact absurd hsmooth h
      · exact absurd (h.trans_le hlisting) (by decide)
  obtain ⟨_, s', hs', hgone⟩ := exists_returned hwp
  exact ⟨s', hs', hgone⟩

/-- An action whose route is unchanged can be cleared just if it is the owner of the route
    and every listing in the ledger can be read. -/
theorem clears_iff :
    Clears s config a router ↔ a.applyOwner = some a.action ∧
      ∀ r ∈ s.site.ledger.actions, r.identity.utf8ByteSize ≤ 65536 := by
  refine ⟨?_, fun hcond => clears_of_owner h hsound ha hr hstatus hrouter hunchanged havailable
    hcond.1 hcond.2⟩
  rintro ⟨s', hrun, hcleared, -⟩
  constructor
  · have hfine := of_returned (executeScenario_fine (s := s.enter fun _ => .works)
      (clearCall a config) h hsound) hrun
    by_contra hnot
    have huntouched : ¬Touched (clearCall a config) s.site.ledger.actions a.id := by
      rintro ⟨-, ⟨-, apply, howner, hid⟩ | ⟨hclears, -⟩⟩
      · obtain ⟨b, rfl, -, -, -⟩ := RouteAction.exists_applyOwner howner
        exact hnot (howner.trans (congrArg some (RouteAction.action_eq (a := a) hid).symm))
      · exact hclears ⟨by simp [Call.clears, clearCall], ha⟩
    have hsame := hfine.others a.id huntouched
    rw [hsame] at hcleared
    have : (recordOf s.site.ledger.actions a.id).any (·.status = "cleared") = false := by
      simp [hr, hstatus]
    exact absurd (this.symm.trans hcleared) (by decide)
  · have hready : (executeScenario (clearCall a config)).wp (s.enter fun _ => .works)
        ⟨fun _ _ => ∃ bound, Ready (clearCall a config) (s.enter fun _ => .works) bound,
          fun _ _ => True, fun _ => True⟩ :=
      wp_executeScenario (fun _ _ => ⟨trivial, trivial⟩) fun bound hready =>
        wp_intro (fun _ _ => ⟨bound, hready⟩) (fun _ _ => trivial) fun _ => trivial
    obtain ⟨_, -, hfew, hloads, -⟩ := of_returned hready hrun
    exact h.loads_iff.1 ⟨hfew, hloads⟩

end clears

/-! ## Histories -/

/-- What holds of a scene and of what may follow it. -/
structure RoutesOwned (plan : Plan) (s : Scene R) : Prop where
  /-- Every command on a route was justified when it was issued. -/
  justified : Sound plan s.trail
  /-- The latest command for an action succeeded, as its record tells, with the listing that
      it left; or else the action is pending. -/
  known : ∀ a : RouteAction plan, a.kind = .routeApply → ∀ e, latest s.trail a.id = some e →
    Pending s.site.ledger.actions a.id ∨
      e.succeeded = true ∧ ∃ r, recordOf s.site.ledger.actions a.id = some r ∧ Recorded e r
  /-- There is no record without a command, but of a pending action. -/
  told : ∀ a : RouteAction plan, a.kind = .routeApply → ∀ r,
    recordOf s.site.ledger.actions a.id = some r → r.status ≠ "pending" →
      ∃ e, latest s.trail a.id = some e ∧ e.succeeded = true ∧ Recorded e r
  /-- A pending action stays pending. -/
  stays : ∀ id, Pending s.site.ledger.actions id → ∀ steps : List (Step plan R),
    ∀ t ∈ Runs.states Scene.step s steps, Pending t.site.ledger.actions id
  /-- A pending action is neither run nor cleared. -/
  blocks : ∀ c : Call plan, Pending s.site.ledger.actions c.action.id →
    (∀ s', (executeScenario c).run (s.enter c.fates) ≠ .returned () s') ∧
      (s.step (.call c)).routes = s.routes ∧ (s.step (.call c)).trail = s.trail ∧
      (s.step (.call c)).site.ledger = s.site.ledger
  /-- A complete action whose route is unchanged can be cleared just if no action before it
      in the plan applies the same route, and no listing in the ledger is too long. -/
  clearable : ∀ a : RouteAction plan, a.kind = .routeApply → ∀ r,
    recordOf s.site.ledger.actions a.id = some r → r.status = "complete" → ∀ router,
    plan.network.routers.find? (·.id = a.router) = some router →
    R.print (s.routes router.namespaceName (R.target a.destination)) = r.identity →
    ∀ config, Available s config router →
      (Clears s config a router ↔ a.applyOwner = some a.action ∧
        ∀ r ∈ s.site.ledger.actions, r.identity.utf8ByteSize ≤ 65536)

section histories
variable {s : Scene R}

/-- What one step keeps. -/
def Kept (plan : Plan) (s : Scene R) : Prop :=
  Inv plan s.trail s.site.ledger.actions ∧ Sound plan s.trail

theorem Kept.step (h : Kept plan s) (step : Step plan R) : Kept plan (s.step step) ∧
    ∀ id, Pending s.site.ledger.actions id → Pending (s.step step).site.ledger.actions id := by
  cases step with
  | change world routes => exact ⟨h, fun _ => id⟩
  | call c =>
    have hfine := wp_always_world (executeScenario_fine (s := s.enter c.fates) c h.1 h.2)
    refine ⟨⟨hfine.inv, hfine.sound⟩, fun id hid => ?_⟩
    have huntouched : ¬Touched c s.site.ledger.actions id := fun ht => ht.1 hid
    obtain ⟨r, hr, hstatus⟩ := hid
    exact ⟨r, (hfine.others id huntouched).trans hr, hstatus⟩

theorem Kept.run (h : Kept plan s) (steps : List (Step plan R)) :
    ∀ t ∈ Runs.states Scene.step s steps, Kept plan t ∧
      ∀ id, Pending s.site.ledger.actions id → Pending t.site.ledger.actions id := by
  induction steps generalizing s with
  | nil =>
    intro t ht
    cases mem_singleton.1 ht
    exact ⟨h, fun _ => id⟩
  | cons step steps ih =>
    intro t ht
    rcases mem_cons.1 ht with rfl | ht
    · exact ⟨h, fun _ => id⟩
    · obtain ⟨hstep, hpending⟩ := h.step step
      obtain ⟨hkept, hlater⟩ := ih hstep t ht
      exact ⟨hkept, fun id hid => hlater id (hpending id hid)⟩

theorem kept_start (world : World) (ledger : OwnershipState)
    (routes : String → String → List R.Route) : Kept plan (Scene.start world ledger routes) := by
  refine ⟨⟨nodup_nil, ?_, ?_, ?_⟩, ?_⟩
  · intro id r hr
    cases hr
  · intro a _ r hr
    cases hr
  · intro a _ e he
    cases he
  · intro later e earlier htrail
    cases later <;> cases htrail

theorem Kept.routesOwned (h : Kept plan s) : RoutesOwned plan s where
  justified := h.2
  known a ha e he := by
    obtain ⟨r, hr⟩ := Option.isSome_iff_exists.1 (h.1.recorded a ha e he)
    rcases h.1.known a ha r hr with hpending | ⟨e', he', hsucceeded, hrecorded⟩
    · exact .inl ⟨r, hr, hpending⟩
    · cases he.symm.trans he'
      exact .inr ⟨hsucceeded, r, hr, hrecorded⟩
  told a ha r hr hstatus := (h.1.known a ha r hr).resolve_left hstatus
  stays id hid steps t ht := (h.run steps t ht).2 id hid
  blocks c hc := by
    have hwp := executeScenario_blocked (s := s.enter c.fates) hc
    refine ⟨fun s' hrun => of_returned hwp hrun, ?_⟩
    rw [Scene.step]
    unfold wp at hwp
    cases hrun : (executeScenario c).run (s.enter c.fates) with
    | returned _ s' =>
      rw [hrun] at hwp
      exact hwp.elim
    | threw e s' =>
      rw [hrun] at hwp
      rcases hwp with rfl | rfl <;> exact ⟨rfl, rfl, rfl⟩
    | blocked s' =>
      rw [hrun] at hwp
      exact hwp.elim
  clearable _ ha _ hr hstatus _ hrouter hunchanged _ havailable :=
    clears_iff h.1 h.2 ha hr hstatus hrouter hunchanged havailable

end histories

/-! ## Two actions for one route -/

namespace Sample

def router : Config.ResolvedRouter where
  id := ⟨"r", .refl true⟩
  forwarding := true
  interfaces := []
  policies := []
  routes := [{ destination := "d", install := some .manual, device := "v" }]
  namespaceName := "n"

def network : Config.ResolvedNetwork where
  networks := []
  switches := []
  routers := [router]
  attachments := []
  captures := []
  edgePaths := .empty

def first : Config.ScenarioAction :=
  { id := ⟨"a", .refl true⟩, action := .routeApply, router := some router.id, destination := some "d" }

def second : Config.ScenarioAction := { first with id := ⟨"b", .refl true⟩ }

def graph : Config.Graph :=
  { id := ⟨"g", .refl true⟩, nodes := .empty, connections := .empty, scenario := some [first, second] }

theorem accepted : Config.scenarioPlan graph [] [] network = .ok [first, second] := rfl

theorem bounded : [first, second].length ≤ 64 := by simp

def twice : Plan := ⟨graph, [], [], network, [first, second], accepted, bounded⟩

theorem second_mem : second ∈ twice.actions := .tail _ (.head _)

def later : RouteAction twice := ⟨second, router.id, "d", second_mem, .inl rfl, rfl, rfl⟩

theorem parse_print (l : List Unit) :
    some ((String.ofList (l.map fun _ => 'x')).toList.map fun _ => ()) = some l := by
  rw [String.toList_ofList, map_map]
  exact congrArg some (map_id l)

/-- Routes of which nothing is to be told. -/
def routing : Routing where
  Route := Unit
  target := fun text => text
  made := fun _ => ()
  print := fun l => String.ofList (l.map fun _ => 'x')
  parse := fun text => some (text.toList.map fun _ => ())
  parse_print := parse_print

def world : World where
  links := fun _ => none
  ovs := fun _ => ⟨[], .nil⟩
  ovsAnswers := true
  namespaces := fun name => if name = "n" then some ⟨1, some "graphx::netns:n", none⟩ else none
  processes := fun _ => none
  directories := fun _ => none
  containers := []
  bootId := ""
  monotonicNs := 0

def ledger : OwnershipState :=
  { graphId := "g", configHash := "h", status := "ready"
    namespaces := [{ kind := "linux_namespace", name := "n", namespaceInode := some 1 }] }

def config : GraphConfig := ⟨"g", "h", ⟨"graphx-g", []⟩⟩

/-- The second action has been run, and nothing else. -/
def applied : Scene routing :=
  (Scene.start world ledger fun _ _ => []).step (.call ⟨.run, later, config, true, fun _ => .works⟩)

end Sample

end GraphX.ScenarioRoutes
