/-
  What a call on the routes of a scenario does: the records that it leaves, however it ends,
  agree with the commands that it issued (`executeScenario_fine`).
-/
import GraphX.CleanupChecks
import GraphX.ScenarioLedger

namespace GraphX.ScenarioRoutes

open Imperative Imperative.Act List

variable {plan : Plan} {R : Routing} {actions : List OwnedScenarioAction} {id : String}
  {r : OwnedScenarioAction} {f : OwnedScenarioAction → OwnedScenarioAction} {trail : List (Issued R)}
  {e : Issued R}

/-! ## The steps of a call -/

/-- Nothing goes wrong. -/
def Smooth (s : Scene R) : Prop := s.site.plan = fun _ => .works

/-- The scene after the ledger was written. -/
def Scene.saved (s : Scene R) : Scene R :=
  { s with site := { s.site with steps := s.site.steps + 1, ledger := s.site.memory } }

section steps
variable {s : Scene R} {Q : Post (Scene R) Exn Unit} {message : String}

theorem wp_expect {b : Bool} (htrue : b = true → Q.returned () s)
    (hfalse : b = false → ∀ e, Q.threw e s) : (expect b message).wp s Q := by
  cases b with
  | false => exact hfalse rfl _
  | true => exact htrue rfl

theorem wp_expect_bind {β : Type} {b : Bool} {f : Unit → Scenario R β} {Q : Post (Scene R) Exn β}
    (htrue : b = true → (f ()).wp s Q) (hfalse : b = false → ∀ e, Q.threw e s) :
    (expect b message >>= f).wp s Q :=
  wp_bind.2 (wp_expect htrue hfalse)

theorem rough {fate : Fate} (hfate : s.site.plan s.site.steps = fate) (hne : fate ≠ .works) :
    ¬Smooth s :=
  fun hs => hne (by rw [← hfate, hs])

theorem wp_proceed (hworks : Q.returned () s.tick) (hfails : ¬Smooth s → ∀ e, Q.threw e s.tick)
    (hkilled : ¬Smooth s → Q.blocked s) : (proceed message).wp s Q := by
  rw [proceed, wp_get_bind]
  cases hfate : s.site.plan s.site.steps with
  | works => exact hworks
  | fails | late => exact hfails (rough hfate (by decide)) _
  | killed => exact hkilled (rough hfate (by decide))

theorem wp_save (hworks : Q.returned () s.saved) (hfails : ¬Smooth s → ∀ e, Q.threw e s.tick)
    (hlate : ¬Smooth s → ∀ e, Q.threw e s.saved) (hkilled : ¬Smooth s → Q.blocked s) :
    save.wp s Q := by
  rw [save, onSite, wp_zoom, Site.saveState, wp_get_bind]
  cases hfate : s.site.plan s.site.steps with
  | works => exact hworks
  | fails => exact hfails (rough hfate (by decide)) _
  | late => exact hlate (rough hfate (by decide)) _
  | killed => exact hkilled (rough hfate (by decide))

theorem wp_showRoute {name destination : String} {Q : Post (Scene R) Exn String}
    (hworks : (R.print (s.routes name (R.target destination))).utf8ByteSize ≤ 1024 * 1024 →
      Q.returned (R.print (s.routes name (R.target destination))) s.tick)
    (hfails : (¬Smooth s ∨ 1024 * 1024 < (R.print (s.routes name (R.target destination))).utf8ByteSize) →
      ∀ e, Q.threw e s.tick)
    (hkilled : ¬Smooth s → Q.blocked s) : (showRoute name destination).wp s Q := by
  refine wp_bind.2 (wp_proceed ?_ (fun h => hfails (.inl h)) hkilled)
  dsimp only
  refine wp_expect_bind (fun h => ?_) fun h => hfails (.inr ?_)
  · exact hworks (of_decide_eq_true h)
  · exact Nat.lt_of_not_le (of_decide_eq_false h)

/-- A command is issued; it is known to have succeeded only if it returns. -/
theorem wp_callRoute {owner name : String} {verb : Verb} {route : Config.ResolvedRoute}
    (hworks : ∀ left, effect verb route (s.routes name (R.target route.destination)) = some left →
      Q.returned () (s.issue owner verb name route.destination left true).tick)
    (hfails : (¬Smooth s ∨ effect verb route (s.routes name (R.target route.destination)) = none) →
      ∀ left e, Q.threw e (s.issue owner verb name route.destination left false).tick)
    (hkilled : ¬Smooth s → Q.blocked s) : (callRoute owner verb name route).wp s Q := by
  rw [callRoute, wp_get_bind]
  cases hfate : s.site.plan s.site.steps with
  | works =>
    rw [wp_modify_bind]
    cases hdone : effect verb route (s.routes name (R.target route.destination)) with
    | none => exact hfails (.inr hdone) _ _
    | some left => exact hworks left hdone
  | fails | late => exact hfails (.inl (rough hfate (by decide))) _ _
  | killed => exact hkilled (rough hfate (by decide))

theorem wp_loadState
    (hloads : s.site.ledger.actions.length ≤ 64 → identitiesLoad s.site.ledger.actions = true →
      Q.returned () s.load)
    (hfails : (64 < s.site.ledger.actions.length ∨ identitiesLoad s.site.ledger.actions = false) →
      ∀ e, Q.threw e s) : loadState.wp s Q := by
  rw [loadState, wp_get_bind]
  split_ifs with hmany hidentities
  · exact hfails (.inl hmany) _
  · exact hloads (not_lt.1 hmany) hidentities
  · exact hfails (.inr (by simpa using hidentities)) _

theorem wp_routeCommand {router : Config.ResolvedRouter} {destination : String}
    {Q : Post (Scene R) Exn Config.ResolvedRoute}
    (hworks : ∀ route, route.destination = destination → Q.returned route s)
    (hfails : router.routes.find? (·.destination = destination) = none → ∀ e, Q.threw e s) :
    (routeCommand router destination).wp s Q := by
  unfold routeCommand
  split
  case h_1 route hroute => exact hworks route (by simpa using find?_some hroute)
  case h_2 hnone => exact hfails hnone _

end steps

/-! ## The check of the network -/

/-- The records of the actions, in memory and on disk, and the fates to come. -/
def Quiet (actions : List OwnedScenarioAction) (fates : ℕ → Fate) (site : Site) : Prop :=
  site.memory.actions = actions ∧ site.ledger.actions = actions ∧ site.plan = fates

section quiet
variable {fates : ℕ → Fate} {site : Site}

theorem saveState_quiet (h : Quiet actions fates site) :
    Site.saveState.wp site (.always (Quiet actions fates)) := by
  rw [Site.saveState, wp_get_bind]
  cases site.plan site.steps with
  | works => exact ⟨h.1, h.1, h.2.2⟩
  | fails => exact h
  | late => exact ⟨h.1, h.1, h.2.2⟩
  | killed => exact h

theorem adopt_quiet {found : World → OwnershipState → Result (Option OwnershipState)}
    {publish : Site.Run Unit} (hpublish : ∀ site, Quiet actions fates site →
      publish.wp site (.always (Quiet actions fates)))
    (hfound : ∀ w state next, found w state = .ok (some next) → Extends state next)
    (h : Quiet actions fates site) :
    (adopt found publish).wp site (.always (Quiet actions fates)) := by
  rw [adopt, wp_get_bind]
  split
  · exact h
  · exact h
  · next hnext =>
    rw [wp_modify_bind]
    exact hpublish _ ⟨(hfound _ _ _ hnext).actions.trans h.1, h.2⟩

theorem discover_quiet (h : Quiet actions fates site) :
    discover.wp site (.always (Quiet actions fates)) := by
  refine wp_always_bind (x := recoverNamespaces) (wp_always_forM h fun name _ _ =>
    adopt_quiet (fun _ => saveState_quiet) fun _ => recoverNamespace_extends name) fun _ s₁ h₁ => ?_
  rw [wp_get_bind]
  refine wp_always_bind (wp_always_forM h₁ fun name _ _ =>
    adopt_quiet (fun _ => id) fun _ => discoverBridge_extends name) fun _ s₂ h₂ => ?_
  exact wp_always_forM h₂ fun expected _ _ =>
    adopt_quiet (fun _ => id) fun _ => discoverEndpoint_extends expected

/-- The check may add to the ledger what it finds, but no record of an action. -/
theorem cleanup_quiet (config : GraphConfig) (h : Quiet actions fates site) :
    (cleanup config .destroy true).wp site (.always (Quiet actions fates)) := by
  rw [cleanup, wp_get_bind]
  split
  · exact h
  split
  · exact h
  refine wp_always_bind (discover_quiet h) fun _ site₁ h₁ => ?_
  rw [wp_get_bind]
  split <;> exact h₁

end quiet

/-! ## Applying a route -/

/-- The ledger of a scene, in a call that began with `start`. -/
def Fine (plan : Plan) (T : String → Prop) (start : List OwnedScenarioAction) (s : Scene R) : Prop :=
  Good plan T start s.trail s.site.ledger.actions

section calls
variable {T : String → Prop} {start : List OwnedScenarioAction} {s : Scene R} {a : RouteAction plan}
  {router : Config.ResolvedRouter}

theorem pending_amend (hf : ∀ r, (f r).id = r.id) (hpending : ∀ r, (f r).status = "pending")
    (h : recordOf actions id = some r) :
    Pending (Keyed.amend OwnedScenarioAction.id id f actions) id :=
  ⟨f r, by rw [recordOf_amend hf, h]; rfl, hpending r⟩

theorem begin_spec (h : Fine plan T start s) (hm : Good plan T start s.trail s.site.memory.actions)
    (hT : T a.id) : (begin a.id (kindText a.kind)).wp s
      ⟨fun _ s' => ∃ actions, s' = s.setActions actions ∧ Good plan T start s.trail actions ∧
        Pending actions a.id, fun _ => Fine plan T start, Fine plan T start⟩ := by
  rw [begin, wp_get_bind]
  cases hrecord : s.record a.id with
  | none =>
    let r : OwnedScenarioAction := ⟨a.id, kindText a.kind, "pending", ""⟩
    have hr : r.status = "pending" := rfl
    exact ⟨_, rfl, hm.push hT hrecord rfl rfl (Good.tells_of_pending hr), r,
      recordOf_push (r := r) hrecord, hr⟩
  | some record =>
    refine wp_expect_bind (fun _ => ?_) fun _ _ => h
    exact ⟨_, rfl,
      hm.amend hT (fun _ => rfl) (fun _ => rfl) fun _ _ => Good.tells_of_pending rfl,
      pending_amend (fun _ => rfl) (fun _ => rfl) hrecord⟩

def NamespaceOwned (site : Site) (router : Config.ResolvedRouter) : Prop :=
  ∃ item ∈ site.memory.namespaces, item.name = router.namespaceName ∧
    namespaceOwned site.world site.memory item = true

theorem complete {identity : String} (h : Good plan T start (e :: trail) actions) (hT : T e.owner)
    (hpending : Pending actions e.owner) (hadd : e.verb = .add) (hsucceeded : e.succeeded = true)
    (hidentity : identity = R.print e.left) :
    Good plan T start (e :: trail) (Keyed.amend OwnedScenarioAction.id e.owner
      ({ · with status := "complete" }) (Keyed.amend OwnedScenarioAction.id e.owner
        ({ · with identity := identity }) actions)) := by
  obtain ⟨r₀, hr₀, hstatus⟩ := hpending
  have hlisted : Good plan T start (e :: trail) (Keyed.amend OwnedScenarioAction.id e.owner
      ({ · with identity := identity }) actions) := by
    refine h.amend hT (fun _ => rfl) (fun _ => rfl) fun r hr => ?_
    cases hr₀.symm.trans hr
    exact Good.tells_of_pending hstatus
  refine hlisted.amend hT (fun _ => rfl) (fun _ => rfl) fun r hr => ⟨?_, fun _ _ _ => .inr ?_⟩
  · simp
  · refine ⟨e, latest_cons, hsucceeded, ?_⟩
    rw [recordOf_amend, hr₀] at hr
    · cases hr
      simp [Recorded, hadd, hidentity]
    · exact fun _ => rfl

theorem applyRoute_fine (h : Fine plan T start s)
    (hm : Good plan T start s.trail s.site.memory.actions) (hT : T a.id) (ha : a.kind = .routeApply)
    (hrouter : plan.network.routers.find? (·.id = a.router) = some router)
    (howned : NamespaceOwned s.site router)
    (hempty : s.routes router.namespaceName (R.target a.destination) = []) :
    (applyRoute a router).wp s (.always (Fine plan T start)) := by
  refine wp_bind_of (begin_spec h hm hT) ?_ (fun _ _ => id) fun _ => id
  rintro _ _ ⟨actions, rfl, hA, hpending⟩
  -- from here on the ledger has the pending record, in memory and on disk
  refine wp_bind.2 (wp_save ?_ (fun _ _ => h) (fun _ _ => hA) fun _ => h)
  refine wp_bind.2 (wp_proceed ?_ (fun _ _ => hA) fun _ => hA)
  refine wp_bind.2 (wp_routeCommand (fun route hroute => ?_) fun _ _ => hA)
  rw [← hroute] at hempty ⊢
  have hjustified : ∀ left succeeded, (succeeded = true → left = [R.made route]) →
      Justified plan s.trail ⟨a.id, .add, router.namespaceName, route.destination,
        (s.setActions actions).saved.tick.site, s.routes router.namespaceName
          (R.target route.destination), left, succeeded⟩ := fun left succeeded hleft =>
    { action := ⟨a, router, rfl, ha, hrouter, rfl, hroute⟩
      owned := howned
      pending := hpending
      added := fun _ => hempty
      deleted := fun hverb => by cases hverb
      effective := fun hs => ⟨route, by simp [effect, hempty, hleft hs]⟩ }
  refine wp_bind.2 (wp_callRoute (fun left hleft => ?_)
    (fun _ left _ => hA.issue hpending (hjustified left false fun h => by cases h)) fun _ => hA)
  have hmade : left = [R.made route] := by
    have hfound : (s.setActions actions).saved.tick.routes router.namespaceName
      (R.target route.destination) = [] := hempty
    rw [hfound] at hleft
    exact (Option.some.inj hleft).symm
  have hI := hA.issue hpending (hjustified left true fun _ => hmade)
  refine wp_bind.2 (wp_showRoute (fun _ => ?_) (fun _ _ => hI) fun _ => hI)
  refine wp_modify_bind.2 (wp_bind.2 (wp_proceed ?_ (fun _ _ => hI) fun _ => hI))
  have hlisting : ((s.setActions actions).saved.tick.issue a.id .add router.namespaceName
      route.destination left true).tick.routes router.namespaceName (R.target route.destination) =
      left := by simp [Scene.tick, Scene.issue]
  have hcomplete := complete hI hT hpending rfl rfl (congrArg R.print hlisting)
  exact wp_modify_bind.2 (wp_save hcomplete (fun _ _ => hI) (fun _ _ => hcomplete) fun _ => hI)

/-! ## Clearing a route -/

theorem Inv.complete (h : Inv plan trail actions) (ha : a.kind = .routeApply)
    (hr : recordOf actions a.id = some r) (hcomplete : r.status = "complete") :
    ∃ e, latest trail a.id = some e ∧ e.verb = .add ∧ e.succeeded = true ∧
      r.identity = R.print e.left := by
  rcases h.known a ha r hr with hpending | ⟨e, he, hsucceeded, hrecorded⟩
  · simp [hcomplete] at hpending
  · unfold Recorded at hrecorded
    cases hverb : e.verb with
    | add =>
      rw [hverb] at hrecorded
      exact ⟨e, he, hverb, hsucceeded, hrecorded.2⟩
    | delete =>
      rw [hverb] at hrecorded
      simp [hcomplete] at hrecorded

theorem recordCleared_fine (hkind : a.kind = .routeClear) (hT : T a.id)
    (hm : Good plan T start s.trail s.site.memory.actions) :
    (recordCleared a).wp s ⟨fun _ s' => ∃ actions, s' = s.setActions actions ∧
      Good plan T start s.trail actions, fun _ _ => False, fun _ => False⟩ := by
  have htells : ∀ r : OwnedScenarioAction, r.status = "complete" → Good.Tells plan s.trail a.id r := by
    refine fun r hr => ⟨by simp [hr], fun b hb hid => ?_⟩
    rw [RouteAction.kind_eq hid, hkind] at hb
    cases hb
  rw [recordCleared, wp_get_bind]
  cases hrecord : s.record a.id with
  | none => exact ⟨_, rfl, hm.push hT hrecord rfl rfl (htells _ rfl)⟩
  | some record =>
    exact ⟨_, rfl, hm.amend hT (fun _ => rfl) (fun _ => rfl) fun _ _ => htells _ rfl⟩

theorem cleared (h : Good plan T start (e :: trail) actions) (hT : T e.owner)
    (hdelete : e.verb = .delete) (hsucceeded : e.succeeded = true) :
    Good plan T start (e :: trail) (Keyed.amend OwnedScenarioAction.id e.owner
      ({ · with status := "cleared", identity := "" }) actions) := by
  refine h.amend hT (fun _ => rfl) (fun _ => rfl) fun r _ => ⟨by simp, fun _ _ _ => .inr ?_⟩
  exact ⟨e, latest_cons, hsucceeded, by simp [Recorded, hdelete]⟩

theorem clearRoute_fine {current : String} (h : Fine plan T start s)
    (hm : Good plan T start s.trail s.site.memory.actions)
    (hT : ∀ apply, a.applyOwner = some apply → ¬Pending s.site.memory.actions apply.id.text →
      T apply.id.text) (hTa : a.kind = .routeClear → T a.id)
    (hrouter : plan.network.routers.find? (·.id = a.router) = some router)
    (howned : NamespaceOwned s.site router)
    (hcurrent : current = R.print (s.routes router.namespaceName (R.target a.destination))) :
    (clearRoute a router current).wp s (.always (Fine plan T start)) := by
  unfold clearRoute
  cases howner : a.applyOwner with
  | none => exact h
  | some apply =>
    refine wp_expect_bind (fun hexpected => ?_) fun _ _ => h
    obtain ⟨b, rfl, hb, hrouter', hdestination⟩ := RouteAction.exists_applyOwner howner
    obtain ⟨r, hr, hmatch⟩ := (Option.any_eq_true ..).1 hexpected
    obtain ⟨hstatus, hidentity⟩ : r.status = "complete" ∧ r.identity = current := by
      simpa using hmatch
    have hT : T b.id := hT _ howner fun hp => by
      obtain ⟨r', hr', hpending⟩ := hp
      cases hr.symm.trans hr'
      simp [hstatus] at hpending
    obtain ⟨added, hadded, hverb, hsucceeded, hlisting⟩ := hm.inv.complete hb hr hstatus
    -- pending in memory, then on disk
    let f : OwnedScenarioAction → OwnedScenarioAction := ({ · with status := "pending" })
    have hA : Good plan T start s.trail (Keyed.amend OwnedScenarioAction.id b.id f
        s.site.memory.actions) :=
      hm.amend hT (fun _ => rfl) (fun _ => rfl) fun _ _ => Good.tells_of_pending rfl
    have hpending : Pending (Keyed.amend OwnedScenarioAction.id b.id f s.site.memory.actions) b.id :=
      pending_amend (fun _ => rfl) (fun _ => rfl) hr
    refine wp_modify_bind.2 (wp_bind.2 (wp_save ?_ (fun _ _ => h) (fun _ _ => hA) fun _ => h))
    refine wp_bind.2 (wp_routeCommand (fun route hroute => ?_) fun _ _ => hA)
    rw [← hroute] at hcurrent
    have hjustified : ∀ left succeeded, (succeeded = true →
        effect .delete route (s.routes router.namespaceName (R.target route.destination)) = some left) →
        Justified plan s.trail ⟨b.id, .delete, router.namespaceName, route.destination,
          (s.amend b.id f).saved.site, s.routes router.namespaceName (R.target route.destination),
          left, succeeded⟩ := fun left succeeded hleft =>
      { action := ⟨b, router, rfl, hb, hrouter' ▸ hrouter, rfl, hroute.trans hdestination.symm⟩
        owned := howned
        pending := hpending
        added := fun hverb => by cases hverb
        deleted := fun _ => ⟨added, hadded, hverb, hsucceeded,
          hcurrent.symm.trans (hidentity.symm.trans hlisting)⟩
        effective := fun hs => ⟨route, hleft hs⟩ }
    refine wp_bind.2 (wp_callRoute (fun left hleft => ?_)
      (fun _ left _ => hA.issue hpending (hjustified left false fun h => by cases h)) fun _ => hA)
    have hI := hA.issue hpending (hjustified left true fun _ => hleft)
    have hC := cleared hI hT rfl rfl
    dsimp only
    rw [wp_modify_bind]
    by_cases hkind : a.kind = .routeClear
    · rw [decide_eq_true hkind]
      refine wp_bind_of (recordCleared_fine hkind (hTa hkind) hC) ?_ (fun _ _ => False.elim)
        fun _ => False.elim
      rintro _ _ ⟨actions, rfl, hD⟩
      exact wp_save hD (fun _ _ => hI) (fun _ _ => hD) fun _ => hI
    · rw [decide_eq_false hkind, onlyIf_false]
      exact wp_save hC (fun _ _ => hI) (fun _ _ => hC) fun _ => hI

/-! ## A call -/

theorem print_injective : Function.Injective R.print := fun l l' h => by
  have := congrArg R.parse h
  rw [R.parse_print, R.parse_print] at this
  exact Option.some.inj this

theorem wp_ownedRouter {Q : Post (Scene R) Exn Config.ResolvedRouter}
    (hrouter : plan.network.routers.find? (·.id = a.router) = some router)
    (howned : (s.site.memory.namespaces.find? (·.name = router.namespaceName)).any
      (namespaceOwned s.site.world s.site.memory) = true) (h : Q.returned router s) :
    (ownedRouter a).wp s Q := by
  rw [ownedRouter, wp_get_bind, hrouter]
  exact wp_expect_bind (fun _ => h) fun hnot => absurd (howned.symm.trans hnot) (by decide)

theorem ownedRouter_spec : (ownedRouter a).wp s ⟨fun router s' => s' = s ∧
    plan.network.routers.find? (·.id = a.router) = some router ∧ NamespaceOwned s.site router,
    fun _ s' => s' = s, fun _ => False⟩ := by
  rw [ownedRouter, wp_get_bind]
  split
  · rfl
  case h_2 router hrouter =>
    refine wp_expect_bind (fun howned => ⟨rfl, hrouter, ?_⟩) fun _ _ => rfl
    obtain ⟨item, hitem, howned⟩ := (Option.any_eq_true ..).1 howned
    exact ⟨item, mem_of_find?_eq_some hitem, by simpa using find?_some hitem, howned⟩

/-- The records that a call may change: its own, or the owner's of the route that it
    clears; never one that is pending. -/
def Touched (c : Call plan) (start : List OwnedScenarioAction) (id : String) : Prop :=
  ¬Pending start id ∧
    ((c.clears = true ∧ ∃ apply, c.action.applyOwner = some apply ∧ id = apply.id.text) ∨
      (¬(c.clears = true ∧ c.action.kind = .routeApply) ∧ id = c.action.id))

theorem perform_fine {c : Call plan} (h : Fine plan (Touched c start) start s)
    (hmemory : s.site.memory.actions = start) (hledger : s.site.ledger.actions = start)
    (hpending : ¬Pending start c.action.id) :
    c.perform.wp s (.always (Fine plan (Touched c start) start)) := by
  have hm : Good plan (Touched c start) start s.trail s.site.memory.actions := by
    rw [hmemory, ← hledger]
    rw [← hledger] at h
    exact h
  refine wp_bind_of ownedRouter_spec ?_ (fun _ s' hs => hs ▸ h) fun _ => False.elim
  rintro router _ ⟨rfl, hrouter, howned⟩
  refine wp_bind.2 (wp_showRoute (fun _ => ?_) (fun _ _ => h) fun _ => h)
  dsimp only
  split_ifs with hclears
  · refine clearRoute_fine h hm (fun apply howner hp => ?_) (fun hkind => ?_) hrouter howned rfl
    · exact ⟨hmemory ▸ hp, .inl ⟨hclears, apply, howner, rfl⟩⟩
    · exact ⟨hpending, .inr ⟨fun hk => by simp [hkind] at hk, rfl⟩⟩
  · rw [R.parse_print]
    refine wp_expect_bind (fun hlisted => ?_) fun _ _ => h
    have hkind : c.action.kind = .routeApply := by
      rcases c.action.isRoute with hk | hk
      · exact hk
      · exact absurd (by simp [Call.clears, RouteAction.kind, hk]) hclears
    exact applyRoute_fine h hm ⟨hpending, .inr ⟨fun hk => hclears hk.1, rfl⟩⟩ hkind hrouter howned
      (isEmpty_iff.1 hlisted)

/-- What a call requires of the ledger before it looks at the network. -/
structure Ready (c : Call plan) (s : Scene R) (config : GraphConfig) : Prop where
  privileged : c.privileged = true
  few : s.site.ledger.actions.length ≤ 64
  loads : identitiesLoad s.site.ledger.actions = true
  graph : s.site.ledger.graphId = c.config.id
  hash : s.site.ledger.configHash = c.config.hash
  status : s.site.ledger.status = "ready"
  bound : bindOwnedContainerServices c.config s.site.ledger = .ok config
  notPending : ¬Pending s.site.ledger.actions c.action.id

theorem wp_executeScenario {c : Call plan} {Q : Post (Scene R) Exn Unit}
    (hrefused : (∀ config, ¬Ready c s config) → ∀ e, Q.threw e s ∧ Q.threw e s.load)
    (hready : ∀ config, Ready c s config → (do
      onSite (cleanup config .destroy true)
      checkpoint
      c.perform : Scenario R Unit).wp s.load Q) : (executeScenario c).wp s Q := by
  refine wp_expect_bind (fun hprivileged => ?_) fun h e => (hrefused (fun _ hr => ?_) e).1
  · refine wp_bind.2 (wp_loadState (fun hfew hloads => ?_) fun h e => (hrefused (fun _ hr => ?_) e).1)
    · dsimp only
      refine wp_expect_bind (fun hmatch => ?_) fun h e => (hrefused (fun _ hr => ?_) e).2
      · split
        · next hbound =>
          refine (hrefused (fun config hr => ?_) _).2
          cases hr.bound.symm.trans hbound
        next config hbound =>
        refine wp_expect_bind (fun hrecord => hready config ?_) fun h e => (hrefused (fun _ hr => ?_) e).2
        · simp only [Bool.and_eq_true, decide_eq_true_eq] at hmatch
          exact ⟨hprivileged, hfew, hloads, hmatch.1.1, hmatch.1.2, hmatch.2, hbound,
            all_not_pending.1 hrecord⟩
        · exact Bool.false_ne_true (h.symm.trans (all_not_pending.2 hr.notPending))
      · simp [Scene.load, hr.graph, hr.hash, hr.status] at h
    · rcases h with h | h
      · exact absurd hr.few (not_le.2 h)
      · simp [hr.loads] at h
  · simp [hr.privileged] at h

theorem executeScenario_fine (c : Call plan) (h : Inv plan s.trail s.site.ledger.actions)
    (hsound : Sound plan s.trail) : (executeScenario c).wp s
      (.always (Fine plan (Touched c s.site.ledger.actions) s.site.ledger.actions)) := by
  have hs : Fine plan (Touched c s.site.ledger.actions) s.site.ledger.actions s :=
    ⟨h, hsound, fun _ _ => rfl⟩
  refine wp_executeScenario (fun _ _ => ⟨hs, hs⟩) fun config hready => ?_
  have hquiet : Quiet s.site.ledger.actions s.site.plan s.load.site := ⟨rfl, rfl, rfl⟩
  -- the check leaves the records of the actions as they are, in memory and on disk
  have hfine : ∀ site : Site, Quiet s.site.ledger.actions s.site.plan site →
      Fine plan (Touched c s.site.ledger.actions) s.site.ledger.actions
        { s.load with site := site } := by
    intro site hsite
    change Good plan _ _ s.trail site.ledger.actions
    rw [hsite.2.1]
    exact hs
  refine wp_bind.2 (wp_zoom.2 (wp_mono (cleanup_quiet config hquiet) (fun _ site hsite => ?_)
    (fun _ site => hfine site) fun site => hfine site))
  have hsite' := hfine site hsite
  refine wp_bind.2 (wp_proceed ?_ (fun _ _ => hsite') fun _ => hsite')
  exact perform_fine hsite' hsite.1 hsite.2.1 hready.notPending

/-- A pending action is not run again, nor cleared. -/
theorem executeScenario_blocked {c : Call plan} (h : Pending s.site.ledger.actions c.action.id) :
    (executeScenario c).wp s ⟨fun _ _ => False, fun _ s' => s' = s ∨ s' = s.load, fun _ => False⟩ :=
  wp_executeScenario (fun _ _ => ⟨.inl rfl, .inr rfl⟩) fun _ hready => absurd h hready.notPending

end calls

end GraphX.ScenarioRoutes
