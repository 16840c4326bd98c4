/-
  Manual routes of scenarios (`execute_scenario` in `src/infra/scenario_execution.cpp`,
  `route_command` in `src/infra.cpp`).

  A scenario action applies or clears a route of a router's namespace.  The ledger has a
  record of each action that was run: it is pending while its command is under way, then
  complete with the listing of the route, and cleared when the route was deleted.

  A `Scene` is a site with the routing tables of its namespaces.  Every command, every
  write of the ledger and every look for a signal meets its `Fate`.  Calls exclude each
  other by the lock of the graph; between two of them the host may change in any way,
  while during a call nothing else touches it.
  The `trail` of a scene is not in the source: it has the commands that were issued.

  The actions of other kinds are left out, and so are the texts that a call prints.
-/
import GraphX.Cleanup
import GraphX.Config.Scenario
import GraphX.Lib.Keyed

namespace GraphX.ScenarioRoutes

open Imperative Imperative.Act

/-! ## Plans -/

/-- The name of a kind in the ledger. -/
def kindText : Config.ActionKind → String
  | .fault => "fault"
  | .routeApply => "route-apply"
  | .routeClear => "route-clear"
  | .traffic => "traffic"
  | .externalSimulator => "external-simulator"
  | .credentialRotate => "credential-rotate"

/-- A plan that `scenario_plan` accepts, of as many actions as the schema allows. -/
structure Plan where
  graph : Config.Graph
  nodes : List Config.ResolvedNode
  connections : List Config.ResolvedConnection
  network : Config.ResolvedNetwork
  actions : List Config.ScenarioAction
  accepted : Config.scenarioPlan graph nodes connections network = .ok actions
  bounded : actions.length ≤ 64

structure RouteAction (plan : Plan) where
  action : Config.ScenarioAction
  router : Config.Ident
  destination : String
  declared : action ∈ plan.actions
  isRoute : action.action = .routeApply ∨ action.action = .routeClear
  router_eq : action.router = some router
  destination_eq : action.destination = some destination

namespace RouteAction

variable {plan : Plan} (a : RouteAction plan)

def id : String := a.action.id.text

def kind : Config.ActionKind := a.action.action

/-- The action whose record a clear looks for: the first of the plan that applies a route
    with the router and the destination. -/
def applyOwner : Option Config.ScenarioAction :=
  plan.actions.find? fun value => value.action = .routeApply && value.router = some a.router &&
    value.destination = some a.destination

end RouteAction

/-! ## Scenes -/

/-- What `ip route` reads, makes and prints. -/
structure Routing where
  Route : Type
  /-- The destination that a text denotes. -/
  target : String → String
  /-- The route that `add` makes. -/
  made : Config.ResolvedRoute → Route
  /-- `ip -j route show exact`, and the document in what it prints. -/
  print : List Route → String
  parse : String → Option (List Route)
  parse_print : ∀ routes, parse (print routes) = some routes

inductive Verb where
  | add
  | delete
  deriving DecidableEq

/-- A command on a route: for which action it was issued, in which site, the routes of
    its destination before and after it, and whether its status was 0. -/
structure Issued (R : Routing) where
  owner : String
  verb : Verb
  namespaceName : String
  destination : String
  site : Site
  found : List R.Route
  left : List R.Route
  succeeded : Bool

structure Scene (R : Routing) where
  site : Site
  /-- The routes of a namespace to a destination. -/
  routes : String → String → List R.Route
  /-- The latest command comes first. -/
  trail : List (Issued R)

variable {R : Routing}

namespace Scene

variable (s : Scene R)

def tick : Scene R := { s with site := { s.site with steps := s.site.steps + 1 } }

/-- The record that a call works on. -/
def record (id : String) : Option OwnedScenarioAction :=
  s.site.memory.actions.find? (·.id = id)

def setActions (actions : List OwnedScenarioAction) : Scene R :=
  { s with site := { s.site with memory := { s.site.memory with actions := actions } } }

def amend (id : String) (f : OwnedScenarioAction → OwnedScenarioAction) : Scene R :=
  s.setActions (Keyed.amend OwnedScenarioAction.id id f s.site.memory.actions)

def push (record : OwnedScenarioAction) : Scene R :=
  s.setActions (s.site.memory.actions ++ [record])

/-- The scene after a command. -/
def issue (owner : String) (verb : Verb) (name destination : String) (left : List R.Route)
    (succeeded : Bool) : Scene R where
  site := s.site
  routes := Function.update s.routes name
    (Function.update (s.routes name) (R.target destination) left)
  trail := ⟨owner, verb, name, destination, s.site, s.routes name (R.target destination), left,
    succeeded⟩ :: s.trail

end Scene

abbrev Scenario (R : Routing) := Act (Scene R) Exn

def failure (message : String) : Exn := .runtimeError ("E_SCENARIO: " ++ message)

/-- `require` of `src/infra/scenario_execution.cpp` -/
def expect (condition : Bool) (message : String) : Scenario R Unit :=
  if condition then pure () else throw (failure message)

def onSite {α : Type} (x : Site.Run α) : Scenario R α :=
  x.zoom Scene.site fun site s => { s with site := site }

def save : Scenario R Unit := onSite Site.saveState

/-- A step of the program that changes nothing. -/
def proceed (message : String) : Scenario R Unit := do
  let s ← get
  match s.site.plan s.site.steps with
  | .killed => block
  | .works => modify Scene.tick
  | .fails | .late => do
    modify Scene.tick
    throw (failure message)

def checkpoint : Scenario R Unit := proceed "interrupted; action recovery state retained"

/-! ## Commands -/

/-- `ip -j route show exact`; what is printed beyond a bound is a failure. -/
def showRoute (name destination : String) : Scenario R String := do
  proceed "bounded command failed: ip"
  let s ← get
  let listing := R.print (s.routes name (R.target destination))
  expect (listing.utf8ByteSize ≤ 1024 * 1024) "bounded command failed: ip"
  return listing

/-- What a command makes of the routes to its destination, if it succeeds.  A second route
    may be added, with another metric; the first one is deleted. -/
def effect (verb : Verb) (route : Config.ResolvedRoute) (found : List R.Route) :
    Option (List R.Route) :=
  match verb, found with
  | .add, found => some (found ++ [R.made route])
  | .delete, [] => none
  | .delete, _ :: rest => some rest

/-- The call of `ip route add` or `ip route delete`. -/
def callRoute (owner : String) (verb : Verb) (name : String) (route : Config.ResolvedRoute) :
    Scenario R Unit := do
  let s ← get
  let found := s.routes name (R.target route.destination)
  let done := effect verb route found
  match s.site.plan s.site.steps with
  | .killed => block
  | .fails => do
    modify fun s => (s.issue owner verb name route.destination found false).tick
    throw (failure "bounded command failed: ip")
  | .late => do
    modify fun s => (s.issue owner verb name route.destination (done.getD found) false).tick
    throw (failure "bounded command failed: ip")
  | .works => do
    modify fun s => (s.issue owner verb name route.destination (done.getD found) done.isSome).tick
    expect done.isSome "bounded command failed: ip"

/-- `route_command`: the route that it names; the routers of a resolved network are all
    Linux namespaces. -/
def routeCommand (router : Config.ResolvedRouter) (destination : String) :
    Scenario R Config.ResolvedRoute :=
  match router.routes.find? (·.destination = destination) with
  | some route => pure route
  | none => throw (.invalidArgument "unknown declared route")

/-! ## The ledger -/

/-- What `load_state` requires of the record of an action. -/
def actionLoads (a : OwnedScenarioAction) : Bool :=
  a.id ≠ "" && a.id.toList.length ≤ 64 && a.id.toList.all Config.isIdentifierChar &&
    a.identity.utf8ByteSize ≤ 65536 &&
    a.kind ∈ ["fault", "route-apply", "route-clear", "credential-rotate", "traffic"] &&
    a.status ∈ ["pending", "complete", "cleared"]

/-- What it requires of the records of all actions. -/
def identitiesLoad (actions : List OwnedScenarioAction) : Bool :=
  decide (actions.map (·.id)).Nodup && actions.all actionLoads

/-- The scene with the ledger read. -/
def Scene.load (s : Scene R) : Scene R :=
  { s with site := { s.site with memory := s.site.ledger } }

/-- `load_state`, for the part with the actions. -/
def loadState : Scenario R Unit := do
  let s ← get
  if 64 < s.site.ledger.actions.length then throw (.runtimeError "invalid scenario inventory")
  else if identitiesLoad s.site.ledger.actions then modify Scene.load
  else throw (.runtimeError "invalid scenario action identity")

def pend (r : OwnedScenarioAction) : OwnedScenarioAction :=
  { r with status := "pending", identity := "" }

/-- The record is pending before anything is done. -/
def begin (id kind : String) : Scenario R Unit := do
  let s ← get
  match s.record id with
  | none => modify (Scene.push · ⟨id, kind, "pending", ""⟩)
  | some record => do
    expect (record.status = "cleared") "action already completed"
    modify (Scene.amend · id pend)

/-! ## Calls -/

section calls
variable {plan : Plan} (a : RouteAction plan)

/-- The part of `execute_scenario` that applies a route. -/
def applyRoute (router : Config.ResolvedRouter) : Scenario R Unit := do
  begin a.id (kindText a.kind)
  save
  checkpoint
  let route ← routeCommand router a.destination
  callRoute a.id .add router.namespaceName route
  let identity ← showRoute router.namespaceName a.destination
  modify (Scene.amend · a.id ({ · with identity := identity }))
  checkpoint
  modify (Scene.amend · a.id ({ · with status := "complete" }))
  save

/-- The record of an action that is itself a clear. -/
def recordCleared : Scenario R Unit := do
  let s ← get
  match s.record a.id with
  | none => modify (Scene.push · ⟨a.id, kindText a.kind, "complete", ""⟩)
  | some _ => modify (Scene.amend · a.id ({ · with status := "complete", identity := "" }))

/-- The part of `execute_scenario` that clears a route. -/
def clearRoute (router : Config.ResolvedRouter) (current : String) : Scenario R Unit := do
  match a.applyOwner with
  | none => throw (failure "route has no apply owner")
  | some apply => do
    let owner := apply.id.text
    let s ← get
    expect ((s.record owner).any fun owned => owned.status = "complete" && owned.identity = current)
      "route identity changed or not owned"
    modify (Scene.amend · owner ({ · with status := "pending" }))
    save
    let route ← routeCommand router a.destination
    callRoute owner .delete router.namespaceName route
    modify (Scene.amend · owner ({ · with status := "cleared", identity := "" }))
    onlyIf (a.kind = .routeClear) (recordCleared a)
    save

end calls

inductive Operation where
  | run
  | clear
  deriving DecidableEq

/-- A call of `execute_scenario` for a route action. -/
structure Call (plan : Plan) where
  operation : Operation
  action : RouteAction plan
  config : GraphConfig
  /-- `opts.allow_privileged && ::geteuid() == 0` -/
  privileged : Bool
  fates : ℕ → Fate

variable {plan : Plan}

def ownedRouter (a : RouteAction plan) : Scenario R Config.ResolvedRouter := do
  let s ← get
  match plan.network.routers.find? (·.id = a.router) with
  | none => throw (.invalidArgument ("unknown router '" ++ a.router.text ++ "'"))
  | some router => do
    expect ((s.site.memory.namespaces.find? (·.name = router.namespaceName)).any
      (namespaceOwned s.site.world s.site.memory)) "router namespace identity changed"
    return router

def Call.clears (c : Call plan) : Bool :=
  c.action.kind = .routeClear || c.operation = .clear

/-- What is done once the network is known to be the graph's own. -/
def Call.perform (c : Call plan) : Scenario R Unit := do
  let router ← ownedRouter c.action
  let current ← showRoute router.namespaceName c.action.destination
  if c.clears then clearRoute c.action router current
  else match R.parse current with
    | none => throw (failure "invalid document")
    | some listed => do
      expect listed.isEmpty "refusing pre-existing route"
      applyRoute c.action router

def executeScenario (c : Call plan) : Scenario R Unit := do
  expect c.privileged "explicit --allow-privileged and local Linux root required"
  loadState
  let s ← get
  expect (s.site.memory.graphId = c.config.id && s.site.memory.configHash = c.config.hash &&
    s.site.memory.status = "ready") "matching ready graph required"
  match bindOwnedContainerServices c.config s.site.memory with
  | .error e => throw e
  | .ok config => do
    expect ((s.record c.action.id).all (·.status ≠ "pending"))
      "incomplete action; inspect recovery state before retry"
    onSite (cleanup config .destroy true)
    checkpoint
    c.perform

/-! ## Histories -/

inductive Step (plan : Plan) (R : Routing) where
  | call (c : Call plan)
  | change (world : World) (routes : String → String → List R.Route)

/-- The scene in which a call begins. -/
def Scene.enter (s : Scene R) (fates : ℕ → Fate) : Scene R :=
  { s with site := { s.site with log := [], plan := fates, steps := 0 } }

def Scene.step (s : Scene R) : Step plan R → Scene R
  | .call c => ((executeScenario c).run (s.enter c.fates)).world
  | .change world routes => { s with site := { s.site with world := world }, routes := routes }

/-- A graph none of whose actions has been run. -/
def Scene.start (world : World) (ledger : OwnershipState)
    (routes : String → String → List R.Route) : Scene R where
  site := ⟨world, { ledger with actions := [] }, { ledger with actions := [] }, [], fun _ => .works, 0⟩
  routes := routes
  trail := []

end GraphX.ScenarioRoutes
