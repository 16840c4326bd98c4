/-
  Which compiled graphs are admitted.

  * **`admission_iff`**: an executable graph in container mode is, unless a container is
    called as the console or an authored address has something to fill in.
-/
import GraphX.Config.Mounts
import GraphX.Config.Services

namespace GraphX.Config

open List Check Path

variable {text : String}

/-! ## The document that is run -/

section
variable {config : GraphConfig} {service gated : Service} {host : Host} {name : String}
  {entry : String × RunService}

theorem brace_notMem_networkGate : '\x7b' ∉ networkGate.toList := by
  unfold networkGate
  rw [String.toList_append, String.toList_append, String.toList_append]
  simp only [mem_append, not_or]
  refine ⟨⟨⟨?_, ?_⟩, ?_⟩, ?_⟩ <;> rw [String.toList_ofList] <;> decide

theorem resolves_networkGate {graph : Ident} : Resolves host graph networkGate := by
  refine resolves_of_clean (Text.not_infix_of_not_mem ?_ brace_notMem_networkGate)
  exact mem_cons_of_mem _ mem_cons_self

theorem gateService_cases (h : gateService host config name service = .ok gated) :
    gated = service ∨ ∃ entrypoint command, service.entrypoint = some entrypoint ∧
      service.command = some command ∧ gated = { service with
        entrypoint := some ["/bin/sh"]
        command := some (["-c", networkGate, "graphx-network-prepare", host.owner.text] ++ entrypoint ++
          command) } := by
  unfold gateService at h
  split_ifs at h
  · obtain ⟨entrypoint, hentrypoint, h⟩ := bind_eq_ok.1 h
    obtain ⟨command, hcommand, h⟩ := bind_eq_ok.1 h
    cases h
    exact .inr ⟨entrypoint, command, at?_eq_ok.1 hentrypoint, at?_eq_ok.1 hcommand, rfl⟩
  · cases h
    exact .inl rfl

theorem gateService_texts (h : gateService host config name service = .ok gated)
    (htexts : ∀ t ∈ service.texts, Resolves host config.id t) :
    ∀ t ∈ gated.texts, Resolves host config.id t := by
  rcases gateService_cases h with rfl | ⟨entrypoint, command, hentrypoint, hcommand, rfl⟩
  · exact htexts
  · rw [Service.forall_texts] at htexts ⊢
    have hentry := htexts.entrypoint
    have hargs := htexts.command
    rw [hentrypoint] at hentry
    rw [hcommand] at hargs
    refine { htexts with
      entrypoint := forall_mem_singleton.2 (resolves_of_no_dollar (by simp))
      command := ?_ }
    simp only [Option.getD_some, forall_mem_append, forall_mem_cons]
    exact ⟨⟨⟨resolves_of_no_dollar (by simp), resolves_networkGate,
      resolves_of_no_dollar (by simp), resolves_of_clean (clean_token host.owner), by simp⟩,
      hentry⟩, hargs⟩

theorem prepareService_eq_ok (h : prepareService host config (name, service) = .ok entry) :
    ∃ mounts gated, service.volumes.mapM (prepareMount host config name) = .ok mounts ∧
      gateService host config name service = .ok gated ∧
      entry = (name, {
        service := { gated with
          image := host.imageId service.image
          labels := some (ownedLabels host config (service.labels.getD .empty))
          volumes := [] }
        containerName := resourceOf config.id name
        mounts := mounts.reduceOption ++ captureMounts config name }) := by
  obtain ⟨mounts, hmounts, h⟩ := bind_eq_ok.1 h
  obtain ⟨gated, hgated, h⟩ := bind_eq_ok.1 h
  cases h
  exact ⟨mounts, gated, hmounts, hgated, rfl⟩

theorem prepareService_networks (h : prepareService host config (name, service) = .ok entry) :
    entry.2.service.networks = service.networks := by
  obtain ⟨mounts, gated, -, hgated, rfl⟩ := prepareService_eq_ok h
  rcases gateService_cases hgated with rfl | ⟨entrypoint, command, -, -, rfl⟩ <;> rfl

theorem captureMounts_resolve :
    ∀ m ∈ captureMounts config name, ∀ t ∈ m.texts, Resolves host config.id t := by
  intro m hm t ht
  unfold captureMounts at hm
  split_ifs at hm
  · obtain ⟨node, -, rfl⟩ := mem_map.1 hm
    simp only [Mount.texts, Option.toList_none, append_nil, mem_cons, not_mem_nil,
      or_false] at ht
    rcases ht with rfl | rfl <;> exact resolves_of_no_dollar (by simp)
  · cases hm

theorem ownedLabels_resolve {labels : Table String String}
    (h : ∀ t ∈ labels.values, Resolves host config.id t) :
    ∀ t ∈ (ownedLabels host config labels).values, Resolves host config.id t :=
  Table.forall_values_set config.id.fixed.resolves
    (Table.forall_values_set (resolves_of_clean (clean_token host.owner)) h)

theorem prepareService_texts (h : prepareService host config (name, service) = .ok entry)
    (hmounts : ∀ text ∈ service.volumes, Prepared host config name text) (hname : '$' ∉ name.toList)
    (htexts : ∀ t ∈ service.texts, Resolves host config.id t) :
    ∀ t ∈ entry.2.texts, Resolves host config.id t := by
  obtain ⟨mounts, gated, hprepared, hgated, rfl⟩ := prepareService_eq_ok h
  have hgate := gateService_texts hgated htexts
  rw [Service.forall_texts] at hgate htexts
  simp only [RunService.texts, forall_mem_append, forall_mem_cons, forall_mem_flatMap]
  refine ⟨?_, resolves_of_no_dollar (by simpa using hname), ?_, captureMounts_resolve⟩
  · rw [Service.forall_texts]
    exact { hgate with
      image := resolves_of_clean (host.imageId_resolved _)
      labels := ownedLabels_resolve htexts.labels }
  · intro m hm
    rw [reduceOption_mem_iff] at hm
    obtain ⟨text, htext, hmount⟩ := mem_of_mapM_eq_ok hprepared hm
    obtain ⟨mount, hmount', hresolves⟩ := hmounts text htext
    cases hmount.symm.trans hmount'
    exact hresolves m rfl

theorem exists_prepareService (hmounts : ∀ text ∈ service.volumes, Prepared host config name text)
    (hargv : isPlatformName name = false →
      service.entrypoint.isSome = true ∧ service.command.isSome = true) :
    ∃ entry, prepareService host config (name, service) = .ok entry := by
  obtain ⟨mounts, hprepared⟩ := exists_mapM_eq_ok fun text htext =>
    (hmounts text htext).imp fun mount hmount => hmount.1
  have hgated : ∃ gated, gateService host config name service = .ok gated := by
    unfold gateService
    split_ifs with hgate
    · simp only [Bool.and_eq_true, Bool.not_eq_true'] at hgate
      obtain ⟨hentrypoint, hcommand⟩ := hargv hgate.1.2
      obtain ⟨entrypoint, hentrypoint⟩ := Option.isSome_iff_exists.1 hentrypoint
      obtain ⟨command, hcommand⟩ := Option.isSome_iff_exists.1 hcommand
      exact ⟨_, bind_eq_ok.2 ⟨entrypoint, at?_eq_ok.2 hentrypoint,
        bind_eq_ok.2 ⟨command, at?_eq_ok.2 hcommand, rfl⟩⟩⟩
    · exact ⟨service, rfl⟩
  obtain ⟨gated, hgated⟩ := hgated
  exact ⟨_, bind_eq_ok.2 ⟨mounts, hprepared, bind_eq_ok.2 ⟨gated, hgated, rfl⟩⟩⟩

end

/-! ## Admission -/

section
variable {env : Environment} {catalog : Catalog} {options : LoadOptions} {graph : Graph}
  {target : String} {config : GraphConfig} {compiled : Compiled} {node : ResolvedNode}
  {plan : CredentialPlan} {plans : Plans} {compose : Compose} {host : Host} {name : String}
  {start : List Process}

theorem Accepted.network_of_ovs (h : Accepted env catalog target config) (hovs : config.ovs = true) :
    config.authored.network.isSome = true := by
  by_contra hnone
  rw [Bool.not_eq_true, Option.isSome_eq_false_iff, Option.isNone_iff_eq_none] at hnone
  have hnetwork := h.network
  obtain ⟨-, hnetwork⟩ := bind_unit_eq_ok.1 hnetwork
  obtain ⟨network, hvalue, hnetwork⟩ := bind_eq_ok.1 hnetwork
  obtain ⟨-, hnetwork⟩ := bind_unit_eq_ok.1 hnetwork
  rw [hnone] at hvalue
  rw [GraphConfig.ovs, ← Except.ok.inj hnetwork, ← Except.ok.inj hvalue] at hovs
  cases hovs

theorem Accepted.checkManaged_eq_ok (h : Accepted env catalog target config)
    (hexecutable : executionAvailable config = true) : checkManaged config = .ok () := by
  unfold checkManaged
  split_ifs with hovs
  · have hplacement := h.placement
    obtain ⟨hknown, hplacement⟩ := bind_unit_eq_ok.1 hplacement
    obtain ⟨hmanaged, -⟩ := bind_unit_eq_ok.1 hplacement
    simp only [executionAvailable, Bool.and_eq_true] at hexecutable
    rw [require_eq_ok, h.network_of_ovs hovs, Bool.true_and, Bool.not_eq_true',
      Bool.or_eq_false_iff] at hmanaged
    refine bind_unit_eq_ok.2 ⟨?_, require_eq_ok.2 hexecutable.1.2⟩
    rw [require_eq_ok, h.target_eq, Bool.or_eq_true]
    simpa [hmanaged] using hknown
  · rfl

theorem checkExecution_eq_ok (hnative : config.native = false)
    (hexecutable : executionAvailable config = true) (hnode : node ∈ config.nodes) :
    checkExecution node = .ok () := by
  simp only [executionAvailable, Bool.and_eq_true, all_eq_true] at hexecutable
  have havailable := hexecutable.2 node hnode
  simp only [nodeAvailable, hnative, Bool.false_eq_true, if_false, Bool.or_eq_true, Bool.and_eq_true,
    decide_eq_true_eq] at havailable
  rw [checkExecution, require_eq_ok]
  rcases havailable with (hkind | hkind) | ⟨-, hkind | hkind⟩ <;> simp [hkind]

/-- A bridge, with the subnet of the portable network if it has one. -/
def IsBridge (config : GraphConfig) (name : String) (net : ComposeNetwork) : Prop :=
  '$' ∉ name.toList ∧ net.driver = "bridge" ∧ ∀ subnet, net.subnet = some subnet →
    ∃ portable, config.portableNetwork = some portable ∧ subnet = portable.subnet

variable {net : ComposeNetwork}

theorem PlansOf.isBridge (hplans : PlansOf env config plan start config.nodes plans)
    (hnet : plans.networks.get? name = some net) : IsBridge config name net := by
  rcases (hplans.network name net).1 hnet with ⟨⟨node, -, -, rfl⟩, rfl⟩ | hdata
  · exact ⟨by simp [managementNetwork], rfl, by simp⟩
  · unfold dataNetworks at hdata
    split at hdata
    · cases hdata
    · next portable hportable =>
      rw [Table.get?_set] at hdata
      split_ifs at hdata with hname
      · cases hdata
        rw [hname]
        refine ⟨by simp, rfl, fun subnet hsubnet => ⟨portable, hportable, ?_⟩⟩
        exact (Option.some.inj hsubnet).symm
      · cases hdata

theorem ComposeOf.isBridge (h : ComposeOf config plan plans compose)
    (hplans : PlansOf env config plan start config.nodes plans)
    (hnet : compose.networks.get? name = some net) : IsBridge config name net := by
  rw [h.networks, Table.get?_set] at hnet
  split_ifs at hnet with hconsole
  · cases hnet
    rw [hconsole]
    exact ⟨by simp, rfl, by simp⟩
  · unfold withPlatformNetwork at hnet
    split_ifs at hnet
    · rw [Table.get?_set] at hnet
      split_ifs at hnet with hplatform
      · cases hnet
        rw [hplatform]
        exact ⟨by simp, rfl, by simp⟩
      · exact hplans.isBridge hnet
    · exact hplans.isBridge hnet

theorem IsBridge.admitNetwork (h : IsBridge config name net) : admitNetwork net = .ok () := by
  refine bind_unit_eq_ok.2 ⟨forM_eq_ok.2 fun key hkey => ?_, ?_⟩
  · rw [refuse_eq_ok]
    unfold ComposeNetwork.fields at hkey
    cases hsubnet : net.subnet <;> cases hinternal : net.internal <;>
      simp only [hinternal] at hkey <;> revert hkey <;> simp +contextual [or_imp]
  · rw [refuse_eq_ok, decide_eq_true_eq]
    exact h.2.1

theorem IsBridge.texts (h : IsBridge config name net)
    (hsubnet : ∀ portable, config.portableNetwork = some portable →
      Resolves host config.id portable.subnet) :
    ∀ t ∈ (prepareNetwork host config (name, net)).2.texts, Resolves host config.id t := by
  obtain ⟨hname, hdriver, hportable⟩ := h
  simp only [prepareNetwork, RunNetwork.texts, forall_mem_append, forall_mem_cons]
  refine ⟨⟨⟨?_, resolves_of_no_dollar (by simpa using hname), by simp⟩, ?_⟩,
    ownedLabels_resolve Table.forall_values_empty⟩
  · rw [hdriver]
    exact resolves_of_no_dollar (by simp)
  · intro t ht
    obtain ⟨portable, hsome, rfl⟩ := hportable t (Option.mem_toList.1 ht)
    exact hsubnet portable hsome

variable {service : Service}

theorem ComposeOf.service_cases (h : ComposeOf config plan plans compose)
    (hplans : PlansOf env config plan start config.nodes plans)
    (hservice : compose.services.get? name = some service) :
    IsPlatformService config plan config.platform.extensions (consoleNetworks plans) name service ∨
      ∃ node ∈ config.nodes, node.execution.kind = .container ∧ node.id.text = name ∧
        IsService config plan node service := by
  by_cases hname : name ∈ platformServices
  · exact .inl (h.platform name hname service hservice)
  · rw [h.applications name hname] at hservice
    exact .inr (hplans.service name service hservice)

/-- The portable subnet and the addresses of containers have their values filled in. -/
def PortableResolves (host : Host) (config : GraphConfig) : Prop :=
  ∀ portable, config.portableNetwork = some portable → Resolves host config.id portable.subnet ∧
    ∀ node ∈ config.nodes, node.execution.kind = .container →
      ∀ address, portable.addresses.get? node.id = some address → Resolves host config.id address

theorem nodeNetworks_texts {id : Ident} {networks : Table String Attached}
    (h : nodeNetworks config id = .ok networks) {t : String} :
    (∃ a ∈ networks.values, t ∈ a.texts) ↔ ∃ portable, config.portableNetwork = some portable ∧
      portable.addresses.get? id = some t := by
  unfold nodeNetworks at h
  split at h
  · next hnone =>
    cases h
    rw [hnone]
    refine iff_of_false ?_ (by simp)
    rintro ⟨a, ha, ht⟩
    rcases Table.mem_values_set ha with rfl | ha
    · cases ht
    · cases ha
  · next portable hportable =>
    obtain ⟨address, haddress, h⟩ := bind_eq_ok.1 h
    cases h
    rw [at?_eq_ok] at haddress
    constructor
    · rintro ⟨a, ha, ht⟩
      refine ⟨portable, hportable, haddress.trans ?_⟩
      rcases Table.mem_values_set ha with rfl | ha
      · rw [mem_singleton.1 ht]
      · rcases Table.mem_values_set ha with rfl | ha
        · cases ht
        · cases ha
    · rintro ⟨portable', hportable', haddress'⟩
      cases hportable.symm.trans hportable'
      cases haddress.symm.trans haddress'
      refine ⟨{ ipv4Address := some t }, ?_, mem_singleton.2 rfl⟩
      exact Table.mem_values (Table.get?_set.trans (if_pos rfl))

theorem consoleNetworks_texts (hplans : PlansOf env config plan start config.nodes plans) :
    ∀ a ∈ (consoleNetworks plans).values, ∀ t ∈ a.texts, Fixed t := by
  have hempty : ∀ t ∈ Attached.texts {}, Fixed t := by simp [Attached.texts]
  have hplans : ∀ a ∈ plans.platformNetworks.values, ∀ t ∈ a.texts, Fixed t := by
    intro a ha t ht
    rw [hplans.attached a ha] at ht
    exact mem_singleton.1 ht ▸ .inl (by simp)
  unfold consoleNetworks withPlatformNetwork
  split_ifs
  · exact Table.forall_values_set hempty (Table.forall_values_set hempty hplans)
  · exact Table.forall_values_set hempty hplans

/-- What is needed of a service to be prepared. -/
structure Preparable (host : Host) (config : GraphConfig) (name : String) (service : Service) : Prop where
  name_plain : '$' ∉ name.toList
  mounts : ∀ text ∈ service.volumes, Prepared host config name text
  argv : isPlatformName name = false →
    service.entrypoint.isSome = true ∧ service.command.isSome = true

section

variable (haccepted : Accepted env catalog target config)
include haccepted

theorem IsPlatformService.preparable (hplan : credentialPlan config = .ok plan)
    {networks : Table String Attached}
    (h : IsPlatformService config plan config.platform.extensions networks name service) :
    Preparable host config name service := by
  have hname : ∀ name ∈ platformServices, '$' ∉ name.toList ∧ isPlatformName name = true := by
    simp only [platformServices, forall_mem_cons]
    exact ⟨⟨by simp, rfl⟩, ⟨by simp, rfl⟩, ⟨by simp, rfl⟩, by simp⟩
  rcases h with ⟨rfl, hservice⟩ | ⟨extension, hmem, rfl, hservice⟩
  · refine ⟨(hname _ mem_cons_self).1, ?_, fun hnot => ?_⟩
    · obtain ⟨base, -, hservice⟩ := bind_eq_ok.1 hservice
      cases hservice
      exact prepared_platformVolumes haccepted hplan
    · cases hnot
  · obtain ⟨hplain, hplatform⟩ := hname _ (extension_mem extension)
    refine ⟨hplain, prepared_extensionVolumes hmem hservice, fun hnot => ?_⟩
    rw [hplatform] at hnot
    cases hnot

theorem IsService.preparable (hplan : credentialPlan config = .ok plan)
    (hnode : node ∈ config.nodes) (h : IsService config plan node service) :
    Preparable host config node.id.text service := by
  obtain ⟨type, -, hservice⟩ := h
  obtain ⟨-, -, -, hbuilt⟩ := containerService_eq_ok hservice
  refine ⟨by simp, ?_, fun _ => ?_⟩
  · rw [containerService_volumes hservice]
    exact prepared_nodeVolumes haccepted hplan hnode
  · rw [hbuilt]
    exact ⟨rfl, rfl⟩

theorem ComposeOf.preparable (hplan : credentialPlan config = .ok plan)
    (h : ComposeOf config plan plans compose)
    (hplans : PlansOf env config plan start config.nodes plans)
    (hservice : compose.services.get? name = some service) :
    Preparable host config name service := by
  rcases h.service_cases hplans hservice with hplatform | ⟨node, hnode, -, rfl, hbuilt⟩
  · exact hplatform.preparable haccepted hplan
  · exact hbuilt.preparable haccepted hplan hnode

theorem ComposeOf.service_texts (h : ComposeOf config plan plans compose)
    (hplans : PlansOf env config plan start config.nodes plans)
    (hportable : PortableResolves host config)
    (hservice : compose.services.get? name = some service) :
    ∀ t ∈ service.texts, Resolves host config.id t := by
  rcases h.service_cases hplans hservice with hplatform | ⟨node, hnode, hkind, rfl, hbuilt⟩
  · have hnetworks := consoleNetworks_texts hplans
    intro t ht
    rcases hplatform with ⟨-, hplatform⟩ | ⟨extension, -, -, hextension⟩
    · exact (platformService_texts hnetworks hplatform t ht).resolves
    · exact (extensionService_texts hnetworks hextension t ht).resolves
  · obtain ⟨type, -, hbuilt⟩ := hbuilt
    refine containerService_texts haccepted hnode hbuilt (fun t ht => ht.resolves) fun a ha t ht => ?_
    obtain ⟨-, -, hnetworks, -⟩ := containerService_eq_ok hbuilt
    obtain ⟨portable, hsome, haddress⟩ := (nodeNetworks_texts hnetworks).1 ⟨a, ha, ht⟩
    exact (hportable portable hsome).2 node hnode hkind t haddress

end

theorem volumeNames_no_dollar (h : text ∈ volumeNames config) : '$' ∉ text.toList := by
  simp only [volumeNames, mem_append, mem_cons, not_mem_nil, or_false,
    mem_map] at h
  rcases h with (rfl | rfl) | ⟨node, -, rfl⟩ <;> simp

theorem prepareNetwork_subnet {subnet : String} (hsubnet : net.subnet = some subnet)
    (h : ∀ t ∈ (prepareNetwork host config (name, net)).2.texts, Resolves host config.id t) :
    Resolves host config.id subnet := by
  simp only [prepareNetwork, RunNetwork.texts, forall_mem_append] at h
  obtain ⟨⟨-, hnet⟩, -⟩ := h
  exact hnet subnet (Option.mem_toList.2 hsubnet)

section

variable (haccepted : Accepted env catalog target config)
  (hcompose : ComposeOf config plan plans compose)
  (hplans : PlansOf env config plan start config.nodes plans) (htypes : host.Matches config.catalog)
include haccepted hcompose hplans

include htypes in
/-- An admitted document has no container that is called as the console. -/
theorem names_of_admitted {admitted : RunCompose}
    (hadmitted : admitCompose host config compose = .ok admitted) :
    ∀ node ∈ config.nodes, node.execution.kind = .container → node.id.text ≠ "console" := by
  simp only [admitCompose, bind_unit_eq_ok] at hadmitted
  obtain ⟨-, -, -, hservices, -⟩ := hadmitted
  intro node hnode hkind
  obtain ⟨service, hservice, hbuilt⟩ := haccepted.service_of_container hplans hcompose hnode hkind
  exact (admitContainer_iff haccepted hnode hkind htypes hbuilt).1
    (forM_eq_ok.1 hservices _ (Table.get?_eq_some_iff.1 hservice))

/-- Nothing is left to fill in of an admitted document. -/
theorem portable_of_admitted {admitted : RunCompose}
    (hadmitted : admitCompose host config compose = .ok admitted) : PortableResolves host config := by
  simp only [admitCompose, bind_unit_eq_ok] at hadmitted
  obtain ⟨-, -, -, -, hadmitted⟩ := hadmitted
  obtain ⟨services, hprepared, hproject⟩ := bind_eq_ok.1 hadmitted
  have htexts := project_eq_ok.1 ⟨admitted, hproject⟩
  simp only [RunCompose.texts, forall_mem_append, forall_mem_cons, forall_mem_flatMap] at htexts
  obtain ⟨⟨⟨-, hservicesTexts⟩, hnetworksTexts⟩, -⟩ := htexts
  refine fun portable hportable => ⟨?_, fun node hnode hkind address haddress => ?_⟩
  · have hdata : compose.networks.get? "data" =
        some { internal := true, subnet := some portable.subnet } := by
      rw [hcompose.network_get? (by decide) (by decide), hplans.network]
      right
      rw [dataNetworks, hportable]
      exact Table.get?_set.trans (if_pos rfl)
    exact prepareNetwork_subnet rfl
      (hnetworksTexts _ (mem_map_of_mem (Table.get?_eq_some_iff.1 hdata)))
  · obtain ⟨service, hservice, type, -, hbuilt⟩ :=
      haccepted.service_of_container hplans hcompose hnode hkind
    obtain ⟨-, -, hnetworks, -⟩ := containerService_eq_ok hbuilt
    obtain ⟨entry, hentry, hprepare⟩ :=
      exists_of_mapM_eq_ok hprepared (Table.get?_eq_some_iff.1 hservice)
    obtain ⟨a, ha, ht⟩ := (nodeNetworks_texts hnetworks).2 ⟨portable, hportable, haddress⟩
    obtain ⟨hservice, -⟩ := forall_mem_append.1 (hservicesTexts entry hentry)
    have hattached := (Service.forall_texts.1 hservice).networks
    rw [prepareService_networks hprepare] at hattached
    exact hattached a ha address ht

include htypes in
theorem admitted_of_names (hplan : credentialPlan config = .ok plan) (hnative : config.native = false)
    (hexecutable : executionAvailable config = true)
    (hnames : ∀ node ∈ config.nodes, node.execution.kind = .container → node.id.text ≠ "console")
    (hportable : PortableResolves host config) :
    ∃ admitted, admitCompose host config compose = .ok admitted := by
  have hget : ∀ {name : String} {service : Service}, (name, service) ∈ compose.services.entries →
      compose.services.get? name = some service := Table.get?_eq_some_iff.2
  have hbridge : ∀ {name : String} {net : ComposeNetwork}, (name, net) ∈ compose.networks.entries →
      IsBridge config name net := fun hnet =>
    hcompose.isBridge hplans (Table.get?_eq_some_iff.2 hnet)
  have hpreparable : ∀ {name : String} {service : Service},
      (name, service) ∈ compose.services.entries → Preparable host config name service :=
    fun hservice => hcompose.preparable haccepted hplan hplans (hget hservice)
  obtain ⟨services, hprepared⟩ : ∃ services,
      compose.services.entries.mapM (prepareService host config) = .ok services :=
    exists_mapM_eq_ok fun _ hservice =>
      exists_prepareService (hpreparable hservice).mounts (hpreparable hservice).argv
  have htexts : ∀ text ∈ RunCompose.texts {
      name := compose.name.text
      services := services
      networks := compose.networks.entries.map (prepareNetwork host config)
      volumes := volumeNames config }, Resolves host config.id text := by
    simp only [RunCompose.texts, forall_mem_append, forall_mem_cons, forall_mem_flatMap]
    refine ⟨⟨⟨resolves_of_no_dollar (by simp), ?_⟩, ?_⟩, ?_⟩
    · intro entry hentry
      obtain ⟨⟨name, service⟩, hservice, hprepare⟩ := mem_of_mapM_eq_ok hprepared hentry
      exact prepareService_texts hprepare (hpreparable hservice).mounts
        (hpreparable hservice).name_plain
        (hcompose.service_texts haccepted hplans hportable (hget hservice))
    · intro entry hentry
      obtain ⟨⟨name, net⟩, hnet, rfl⟩ := mem_map.1 hentry
      exact (hbridge hnet).texts fun portable hsome => (hportable portable hsome).1
    · exact fun text htext => resolves_of_no_dollar (volumeNames_no_dollar htext)
  obtain ⟨admitted, hproject⟩ := project_eq_ok.2 htexts
  refine ⟨admitted, bind_unit_eq_ok.2 ⟨haccepted.checkManaged_eq_ok hexecutable,
    bind_unit_eq_ok.2 ⟨forM_eq_ok.2 fun node => checkExecution_eq_ok hnative hexecutable,
      bind_unit_eq_ok.2 ⟨forM_eq_ok.2 ?_, bind_unit_eq_ok.2
        ⟨forM_eq_ok.2 ?_, bind_eq_ok.2 ⟨services, hprepared, hproject⟩⟩⟩⟩⟩⟩
  · intro net hnet
    obtain ⟨⟨name, net⟩, hentry, rfl⟩ := mem_map.1 hnet
    exact (hbridge hentry).admitNetwork
  · rintro ⟨name, service⟩ hservice
    rcases hcompose.service_cases hplans (hget hservice) with
      hplatform | ⟨node, hnode, hkind, rfl, hbuilt⟩
    · exact admitPlatform haccepted hplatform
    · exact (admitContainer_iff haccepted hnode hkind htypes hbuilt).2 (hnames node hnode hkind)

end

/-- **Admission.**  The document of an executable graph in container mode passes all checks
    and has its values filled in, exactly when no container is called as the console and
    the portable addresses have nothing to fill in. -/
theorem admission_iff (h : loadGraph env catalog options graph = .ok config)
    (hc : compileGraph env config = .ok compiled) (hmode : compiled.native = false)
    (hexecutable : compiled.executable = true) (htypes : host.Matches config.catalog) :
    ∃ compose, compiled.compose = some compose ∧
      ((∃ admitted, admitCompose host config compose = .ok admitted) ↔
        (∀ node ∈ config.nodes, node.execution.kind = .container → node.id.text ≠ "console") ∧
          PortableResolves host config) := by
  have haccepted := loadGraph_accepted h
  obtain ⟨hplan, hnative, havailable, plans, hplans, -, hcompose⟩ :=
    compileGraph_eq_ok (fun _ => haccepted.not_platformService) hc
  rw [hnative] at hmode
  rw [havailable] at hexecutable
  obtain ⟨compose, hsome, hcompose⟩ := hcompose hmode
  refine ⟨compose, hsome, ?_, ?_⟩
  · rintro ⟨admitted, hadmitted⟩
    exact ⟨names_of_admitted haccepted hcompose hplans htypes hadmitted,
      portable_of_admitted haccepted hcompose hplans hadmitted⟩
  · rintro ⟨hnames, hportable⟩
    exact admitted_of_names haccepted hcompose hplans htypes hplan hmode hexecutable hnames hportable

theorem deriveAddresses_no_dollar {subnet : String} (hsubnet : '$' ∉ subnet.toList)
    {ids : List Ident} {index : ℕ} {entry : Ident × String}
    (h : entry ∈ deriveAddresses subnet ids index) : '$' ∉ entry.2.toList := by
  induction ids generalizing index with
  | nil => cases h
  | cons id rest ih =>
    rcases mem_cons.1 h with rfl | h
    · have hindex := toDigits_no_dollar index
      simpa [Nat.repr] using ⟨hsubnet, hindex⟩
    · exact ih h

/-- Addresses that the compiler derives have nothing to fill in. -/
theorem Accepted.portableResolves (h : Accepted env catalog target config)
    (hderived : config.authored.portableNetwork = none) : PortableResolves host config := by
  intro portable hsome
  have hportable := h.portable
  unfold portableValue at hportable
  rw [hderived, hsome] at hportable
  split_ifs at hportable with hnative
  · cases hportable
  · obtain ⟨-, hportable⟩ := bind_unit_eq_ok.1 hportable
    cases hportable
    have hoctet := toDigits_no_dollar
    have hsubnet : '$' ∉ ("172.28." ++
        toString (hexNumber ((env.sha256 config.authored.id.text).toList.take 4) % 128) ++
          ".").toList := by
      simp [hoctet]
    constructor
    · refine resolves_of_no_dollar ?_
      rw [String.toList_append, mem_append, not_or]
      exact ⟨hsubnet, by decide⟩
    · intro node _ _ address haddress
      exact resolves_of_no_dollar
        (deriveAddresses_no_dollar hsubnet (Table.get?_eq_some_iff.1 haddress))

end

/-- The table of a program that was built with the catalog. -/
def runtimeTypesOf (catalog : Catalog) : List (String × String) :=
  catalog.types.entries.map fun entry => (entry.1, entry.2.executable)

theorem runtimeTypesOf_matches {host : Host} {catalog : Catalog}
    (h : host.runtimeTypes = runtimeTypesOf catalog) : host.Matches catalog := by
  intro id type htype
  rw [h, runtimeTypesOf, find?_map]
  obtain ⟨entry, hentry, rfl⟩ := Option.map_eq_some_iff.1 htype
  have hid : entry.1 = id := by simpa using find?_some hentry
  rw [← hid]
  rw [← hid] at hentry
  exact congrArg (Option.map _) hentry

namespace SampleRun

def token : Token := ⟨"0f", .refl true⟩

theorem canonical : ∀ part ∈ ["srv".toList, "graphx".toList], isResolvedName part = true := by
  decide

theorem imageId_resolved : ¬ mark <:+: "sha256:9b".toList := by
  decide

def host : Host where
  stateRoot := ["srv".toList, "graphx".toList]
  canonical := canonical
  release := "/opt/graphx"
  configuration := token
  owner := token
  console := token
  handoff := token
  verified := []
  imageId _ := "sha256:9b"
  imageId_resolved _ := imageId_resolved
  runtimeTypes := runtimeTypesOf shippedCatalog

end SampleRun

set_option maxRecDepth 4000 in
theorem admission_pair : ∃ config compiled compose,
    loadGraph sampleEnvironment shippedCatalog { target := "native-linux" }
        (ContainerPair.graph ⟨"subscriber", .refl true⟩) = .ok config ∧
      compileGraph sampleEnvironment config = .ok compiled ∧ compiled.native = false ∧
      compiled.executable = true ∧ compiled.compose = some compose ∧
      ∃ admitted, admitCompose SampleRun.host config compose = .ok admitted := by
  obtain ⟨compose, hcompose, hadmission⟩ := admission_iff (show loadGraph sampleEnvironment
    shippedCatalog { target := "native-linux" } (ContainerPair.graph ⟨"subscriber", .refl true⟩) =
      .ok _ from rfl) rfl rfl rfl (show SampleRun.host.Matches _ from runtimeTypesOf_matches rfl)
  refine ⟨_, _, compose, rfl, rfl, rfl, rfl, hcompose, hadmission.2 ⟨by decide, ?_⟩⟩
  exact (loadGraph_accepted (show loadGraph sampleEnvironment shippedCatalog
    { target := "native-linux" } (ContainerPair.graph ⟨"subscriber", .refl true⟩) =
      .ok _ from rfl)).portableResolves rfl

set_option maxRecDepth 4000 in
/-- A container that is called `console` compiles, and the document is then refused. -/
theorem admission_console_refused : ∃ config compiled compose,
    loadGraph sampleEnvironment shippedCatalog { target := "native-linux" }
        (ContainerPair.graph ⟨"console", .refl true⟩) = .ok config ∧
      compileGraph sampleEnvironment config = .ok compiled ∧ compiled.native = false ∧
      compiled.executable = true ∧ compiled.compose = some compose ∧
      admitCompose SampleRun.host config compose = .error (.reject "E_COMPOSE_SECURITY" ""
        "applications cannot join the console network") := by
  refine ⟨_, _, _, rfl, rfl, rfl, rfl, rfl, ?_⟩
  rfl

end GraphX.Config
