/-
  What the compiler makes of an accepted graph.
-/
import GraphX.Config.ResolvedNodes

namespace GraphX.Config

open List Check

variable {env : Environment} {config : GraphConfig} {credentials : CredentialPlan}

/-! ## One node -/

/-- The service that a container is compiled to. -/
def IsService (config : GraphConfig) (credentials : CredentialPlan) (node : ResolvedNode)
    (service : Service) : Prop :=
  ∃ type, config.catalog.types.get? node.type = some type ∧
    containerService config credentials node type = .ok service

/-- The process that a native node or one in a namespace is compiled to. -/
def IsProcess (env : Environment) (config : GraphConfig) (credentials : CredentialPlan)
    (node : ResolvedNode) (p : Process) : Prop :=
  ∃ type, config.catalog.types.get? node.type = some type ∧
    nodeProcess env config credentials node type = .ok p

/-- The node runs as a process of the host. -/
def ResolvedNode.isProcess (node : ResolvedNode) : Bool :=
  node.execution.kind = .native || node.execution.kind = .namespace

variable {plans plans' : Plans} {node : ResolvedNode}

theorem compileNode_cases (h : compileNode env config credentials plans node = .ok plans') :
    (node.execution.kind = .container ∧ ∃ service, IsService config credentials node service ∧
      plans' = { plans with
        services := plans.services.set node.id.text service
        networks := plans.networks.set (managementNetwork node.id) { internal := true }
        platformNetworks := plans.platformNetworks.set (managementNetwork node.id)
          { aliases := ["platform"] } }) ∨
    (node.isProcess = true ∧ ∃ p, IsProcess env config credentials node p ∧
      plans' = { plans with processes := plans.processes ++ [p] }) ∨
    (node.execution.kind ≠ .container ∧ node.isProcess = false ∧
      plans'.services = plans.services ∧ plans'.networks = plans.networks ∧
      plans'.platformNetworks = plans.platformNetworks ∧ plans'.processes = plans.processes) := by
  obtain ⟨-, h⟩ := bind_unit_eq_ok.1 h
  split at h
  · cases h
  · next type htype =>
    obtain ⟨-, h⟩ := bind_unit_eq_ok.1 h
    obtain ⟨-, h⟩ := bind_unit_eq_ok.1 h
    unfold ResolvedNode.isProcess
    cases hkind : node.execution.kind with rw [hkind] at h
    | container =>
      obtain ⟨service, hservice, h⟩ := bind_eq_ok.1 h
      cases h
      exact .inl ⟨rfl, service, ⟨type, htype, hservice⟩, rfl⟩
    | native | «namespace» =>
      obtain ⟨p, hp, h⟩ := bind_eq_ok.1 h
      cases h
      exact .inr (.inl ⟨rfl, p, ⟨type, htype, hp⟩, rfl⟩)
    | qemu =>
      obtain ⟨ref, -, h⟩ := bind_eq_ok.1 h
      obtain ⟨-, h⟩ := bind_unit_eq_ok.1 h
      split at h
      · cases h
      · obtain ⟨-, h⟩ := bind_unit_eq_ok.1 h
        obtain ⟨-, h⟩ := bind_unit_eq_ok.1 h
        obtain ⟨guest, -, h⟩ := bind_eq_ok.1 h
        cases h
        exact .inr (.inr ⟨by simp, rfl, rfl, rfl, rfl, rfl⟩)
    | external =>
      cases h
      exact .inr (.inr ⟨by simp, rfl, rfl, rfl, rfl, rfl⟩)

/-! ## All nodes -/

structure PlansOf (env : Environment) (config : GraphConfig) (credentials : CredentialPlan)
    (start : List Process) (nodes : List ResolvedNode) (plans : Plans) : Prop where
  service : ∀ name service, plans.services.get? name = some service → ∃ node ∈ nodes,
    node.execution.kind = .container ∧ node.id.text = name ∧ IsService config credentials node service
  served : ∀ node ∈ nodes, node.execution.kind = .container →
    plans.services.contains node.id.text = true
  network : ∀ name net, plans.networks.get? name = some net ↔
    (∃ node ∈ nodes, node.execution.kind = .container ∧ name = managementNetwork node.id) ∧
        net = { internal := true } ∨ (dataNetworks config).get? name = some net
  platformNetwork : ∀ name, plans.platformNetworks.contains name = true ↔
    ∃ node ∈ nodes, node.execution.kind = .container ∧ name = managementNetwork node.id
  attached : ∀ a ∈ plans.platformNetworks.values, a = { aliases := ["platform"] }
  process : ∀ p, p ∈ plans.processes ↔
    p ∈ start ∨ ∃ node ∈ nodes, node.isProcess = true ∧ IsProcess env config credentials node p
  processed : ∀ node ∈ nodes, node.isProcess = true → ∃ p, IsProcess env config credentials node p

theorem managementNetwork_injective : Function.Injective managementNetwork := by
  intro a b h
  have htext := congrArg String.toList h
  simp only [managementNetwork, String.toList_append, append_cancel_left_eq] at htext
  exact Ident.text_injective (String.toList_injective htext)

variable {name : String}

theorem managementNetwork_ne {id : Ident} (h : "mg-".toList.isPrefixOf name.toList = false) :
    name ≠ managementNetwork id := by
  rintro rfl
  simp [managementNetwork] at h

theorem dataNetworks_eq_some {net : ComposeNetwork}
    (h : (dataNetworks config).get? name = some net) :
    name = "data" ∧ net.internal = true ∧ config.portableNetwork.isSome = true := by
  unfold dataNetworks at h
  split at h
  · cases h
  · next portable hportable =>
    rw [Table.get?_set] at h
    split_ifs at h with hname
    · cases h
      simp [hname, hportable]
    · cases h

theorem exists_mem_snoc {α : Type} {P : α → Prop} {l : List α} {a : α} :
    (∃ x ∈ l ++ [a], P x) ↔ P a ∨ ∃ x ∈ l, P x := by
  simp only [mem_append, mem_singleton, or_and_right, exists_or, exists_eq_left]
  exact or_comm

theorem IsProcess.unique {p q : Process} (hp : IsProcess env config credentials node p)
    (hq : IsProcess env config credentials node q) : p = q := by
  obtain ⟨type, htype, hp⟩ := hp
  obtain ⟨type', htype', hq⟩ := hq
  cases htype.symm.trans htype'
  exact Except.ok.inj (hp.symm.trans hq)

variable {start : List Process} {before : List ResolvedNode}

section

variable (h : PlansOf env config credentials start before plans)
include h

theorem PlansOf.container {service : Service} (hkind : node.execution.kind = .container)
    (hservice : IsService config credentials node service) :
    PlansOf env config credentials start (before ++ [node]) { plans with
      services := plans.services.set node.id.text service
      networks := plans.networks.set (managementNetwork node.id) { internal := true }
      platformNetworks := plans.platformNetworks.set (managementNetwork node.id)
        { aliases := ["platform"] } } := by
  constructor
  · intro name s hs
    rw [Table.get?_set] at hs
    rw [exists_mem_snoc]
    split_ifs at hs with hname
    · cases hs
      exact .inl ⟨hkind, hname.symm, hservice⟩
    · exact .inr (h.service name s hs)
  · intro n hn hcontainer
    rw [Table.contains_set, Bool.or_eq_true]
    rcases mem_append.1 hn with hn | hn
    · exact .inr (h.served n hn hcontainer)
    · exact .inl (by simp [mem_singleton.1 hn])
  · intro name net
    rw [Table.get?_set, exists_mem_snoc]
    split_ifs with hname
    · constructor
      · rintro ⟨⟩
        exact .inl ⟨.inl ⟨hkind, hname⟩, rfl⟩
      · rintro (⟨-, rfl⟩ | hdata)
        · rfl
        · rw [(dataNetworks_eq_some hdata).1] at hname
          exact absurd hname (managementNetwork_ne (by decide))
    · rw [h.network]
      simp [hname]
  · intro name
    rw [Table.contains_set, Bool.or_eq_true, h.platformNetwork, decide_eq_true_eq, exists_mem_snoc]
    simp only [hkind, true_and]
  · intro a ha
    exact (Table.mem_values_set ha).elim id (h.attached a)
  · intro p
    rw [h.process]
    simp [ResolvedNode.isProcess, hkind]
  · intro n hn hprocess
    rcases mem_append.1 hn with hn | hn
    · exact h.processed n hn hprocess
    · rw [mem_singleton.1 hn] at hprocess
      simp [ResolvedNode.isProcess, hkind] at hprocess

theorem PlansOf.other (hkind : node.execution.kind ≠ .container)
    (hservices : plans'.services = plans.services) (hnetworks : plans'.networks = plans.networks)
    (hplatform : plans'.platformNetworks = plans.platformNetworks)
    (hprocess : ∀ p, p ∈ plans'.processes ↔
      p ∈ plans.processes ∨ node.isProcess = true ∧ IsProcess env config credentials node p)
    (hprocessed : node.isProcess = true → ∃ p, IsProcess env config credentials node p) :
    PlansOf env config credentials start (before ++ [node]) plans' := by
  constructor
  · intro name s hs
    rw [exists_mem_snoc]
    exact .inr (h.service name s (hservices ▸ hs))
  · intro n hn hcontainer
    rcases mem_append.1 hn with hn | hn
    · rw [hservices]
      exact h.served n hn hcontainer
    · exact absurd (mem_singleton.1 hn ▸ hcontainer) hkind
  · intro name net
    rw [hnetworks, h.network, exists_mem_snoc]
    simp [hkind]
  · intro name
    rw [hplatform, h.platformNetwork, exists_mem_snoc]
    simp only [hkind, false_and, false_or]
  · rw [hplatform]
    exact h.attached
  · intro p
    rw [hprocess, h.process, exists_mem_snoc, or_assoc]
    exact or_congr_right or_comm
  · intro n hn hn'
    rcases mem_append.1 hn with hn | hn
    · exact h.processed n hn hn'
    · rw [mem_singleton.1 hn] at hn' ⊢
      exact hprocessed hn'

theorem PlansOf.step (hstep : compileNode env config credentials plans node = .ok plans') :
    PlansOf env config credentials start (before ++ [node]) plans' := by
  obtain ⟨hkind, service, hservice, rfl⟩ | ⟨hkind, p, hp, rfl⟩ |
    ⟨hkind, hprocess, hservices, hnetworks, hplatform, hprocesses⟩ := compileNode_cases hstep
  · exact h.container hkind hservice
  · refine h.other ?_ rfl rfl rfl (fun q => ?_) fun _ => ⟨p, hp⟩
    · intro hcontainer
      simp [ResolvedNode.isProcess, hcontainer] at hkind
    · rw [mem_append, mem_singleton]
      refine or_congr_right ⟨?_, fun hq => hq.2.unique hp⟩
      rintro rfl
      exact ⟨hkind, hp⟩
  · refine h.other hkind hservices hnetworks hplatform (fun q => ?_) (by simp [hprocess])
    simp [hprocesses, hprocess]

end

/-! ## The platform -/

/-- The services of the compiler itself. -/
def platformServices : List String := ["platform", "prometheus", "grafana"]

theorem extension_mem (extension : Extension) : extension.text ∈ platformServices := by
  cases extension <;> decide

variable {networks : Table String Attached} {extensions : List Extension}
  {services services' : Table String Service}

section extensions
variable (h : extensions.foldlM (compileExtension networks) services = .ok services')
include h

theorem compileExtensions_get? (hname : name ∉ platformServices) :
    services'.get? name = services.get? name := by
  refine foldlM_invariant (I := fun _ reached => reached.get? name = services.get? name)
    (fun _ extension reached reached' hreached hstep => ?_) h rfl
  obtain ⟨service, -, hstep⟩ := bind_eq_ok.1 hstep
  cases hstep
  rw [Table.get?_set, if_neg, hreached]
  rintro rfl
  exact hname (extension_mem extension)

def IsPlatformService (config : GraphConfig) (credentials : CredentialPlan)
    (extensions : List Extension) (networks : Table String Attached) (name : String)
    (service : Service) : Prop :=
  name = "platform" ∧ platformService config credentials networks = .ok service ∨
    ∃ extension ∈ extensions, name = extension.text ∧ extensionService networks extension = .ok service

theorem compileExtensions_platform
    (hstart : ∀ name ∈ platformServices, ∀ service, services.get? name = some service →
      IsPlatformService config credentials [] networks name service) :
    ∀ name ∈ platformServices, ∀ service, services'.get? name = some service →
      IsPlatformService config credentials extensions networks name service := by
  refine foldlM_invariant (I := fun before reached => ∀ name ∈ platformServices, ∀ service,
    reached.get? name = some service →
      IsPlatformService config credentials before networks name service)
    (fun before extension reached reached' hreached hstep => ?_) h hstart
  obtain ⟨added, hadded, hstep⟩ := bind_eq_ok.1 hstep
  cases hstep
  intro name hname service hservice
  rw [Table.get?_set] at hservice
  split_ifs at hservice with heq
  · cases hservice
    exact .inr ⟨extension, by simp, heq, hadded⟩
  · refine (hreached name hname service hservice).imp_right ?_
    rintro ⟨earlier, hmem, hearlier⟩
    exact ⟨earlier, mem_append_left _ hmem, hearlier⟩

theorem compileExtensions_contains (hstart : services.contains name = true) :
    services'.contains name = true := by
  refine foldlM_invariant (I := fun _ reached => reached.contains name = true)
    (fun _ extension reached reached' hreached hstep => ?_) h hstart
  obtain ⟨added, -, hstep⟩ := bind_eq_ok.1 hstep
  cases hstep
  rw [Table.contains_set, hreached, Bool.or_true]

end extensions

theorem withPlatformNetwork_services (plans : Plans) :
    (withPlatformNetwork plans).services = plans.services ∧
      (withPlatformNetwork plans).processes = plans.processes := by
  unfold withPlatformNetwork
  split_ifs <;> exact ⟨rfl, rfl⟩

/-! ## The document -/

/-- The networks of the platform and its extensions. -/
def consoleNetworks (plans : Plans) : Table String Attached :=
  (withPlatformNetwork plans).platformNetworks.set "mg-console" {}

/-- The Compose document, by the plans of the nodes. -/
structure ComposeOf (config : GraphConfig) (credentials : CredentialPlan) (plans : Plans)
    (compose : Compose) : Prop where
  name : compose.name = config.id
  applications : ∀ name, name ∉ platformServices →
    compose.services.get? name = plans.services.get? name
  platform : ∀ name ∈ platformServices, ∀ service, compose.services.get? name = some service →
    IsPlatformService config credentials config.platform.extensions (consoleNetworks plans) name
      service
  platform_served : compose.services.contains "platform" = true
  networks : compose.networks = (withPlatformNetwork plans).networks.set "mg-console" {}

theorem compilePlatform_eq_ok
    (hreserved : ∀ name ∈ platformServices, plans.services.get? name = none)
    (h : compilePlatform config credentials plans = .ok plans') :
    plans'.processes = plans.processes ∧
      ComposeOf config credentials plans ⟨config.id, plans'.services, plans'.networks⟩ := by
  obtain ⟨platform, hplatform, h⟩ := bind_eq_ok.1 h
  obtain ⟨services, hservices, h⟩ := bind_eq_ok.1 h
  cases h
  obtain ⟨hsame, hprocesses⟩ := withPlatformNetwork_services plans
  rw [hsame] at hservices
  refine ⟨hprocesses, rfl, fun name hname => ?_, ?_, ?_, rfl⟩
  · rw [compileExtensions_get? hservices hname, Table.get?_set, if_neg]
    rintro rfl
    exact hname (by decide)
  · refine compileExtensions_platform hservices fun name hname service hservice => ?_
    rw [Table.get?_set, hreserved name hname] at hservice
    split_ifs at hservice with heq
    cases hservice
    exact .inl ⟨heq, hplatform⟩
  · refine compileExtensions_contains hservices ?_
    rw [Table.contains_set]
    rfl

theorem compileGraph_eq_ok {compiled : Compiled}
    (hreserved : ∀ node ∈ config.nodes, node.id.text ∉ platformServices)
    (h : compileGraph env config = .ok compiled) :
    credentialPlan config = .ok compiled.credentials ∧ compiled.native = config.native ∧
      compiled.executable = executionAvailable config ∧
      ∃ plans, PlansOf env config compiled.credentials
          (if config.native then [platformProcess config compiled.credentials] else [])
          config.nodes plans ∧
        (∀ p, p ∈ compiled.processes ↔ p ∈ plans.processes) ∧
        (config.native = false →
          ∃ compose, compiled.compose = some compose ∧
            ComposeOf config compiled.credentials plans compose) := by
  simp only [compileGraph, bind_eq_ok] at h
  obtain ⟨_, -, _, -, _, -, _, -, credentials, hcredentials, plans, hplans, plans', hservices, _,
    -, h⟩ := h
  cases h
  have hplansOf := foldlM_invariant
    (I := fun before plans => PlansOf env config credentials
      (if config.native then [platformProcess config credentials] else []) before plans)
    (fun _ _ _ _ hbefore hstep => hbefore.step hstep) hplans
    ⟨by simp, by simp, by simp, by simp, by simp [Table.values, Table.empty], by simp, by simp⟩
  have hfree : ∀ name ∈ platformServices, plans.services.get? name = none := by
    intro name hname
    rcases hs : plans.services.get? name with _ | service
    · rfl
    · obtain ⟨node, hnode, -, rfl, -⟩ := hplansOf.service name service hs
      exact absurd hname (hreserved node hnode)
  refine ⟨hcredentials, rfl, rfl, plans, hplansOf, fun p => ?_, fun hnative => ?_⟩
  · rw [sortById, mem_insertionSort]
    unfold compileServices at hservices
    split_ifs at hservices
    · cases hservices
      rfl
    · rw [(compilePlatform_eq_ok hfree hservices).1]
  · rw [compileServices, hnative] at hservices
    obtain ⟨-, hcompose⟩ := compilePlatform_eq_ok hfree hservices
    refine ⟨_, if_neg ?_, hcompose⟩
    obtain ⟨service, hplatform⟩ := Table.contains_iff.1 hcompose.platform_served
    exact fun hempty => not_mem_nil (isEmpty_iff.1 hempty ▸ hplatform)

end GraphX.Config
