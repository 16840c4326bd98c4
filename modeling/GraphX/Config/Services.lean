/-
  The services of the compiler: their texts have nothing to fill in but the owner, and they
  pass the checks of a run, unless they are called as the console.
-/
import GraphX.Config.Isolation
import GraphX.Config.Substitution
import Mathlib.Tactic.MkIffOfInductiveProp

namespace GraphX.Config

open List Check

variable {text : String} {graph : Ident}

/-! ## The texts of services -/

/-- A text without values, or the owner's. -/
def Fixed (text : String) : Prop := '$' ∉ text.toList ∨ text = executionValue "GX_OWNER"

theorem Fixed.resolves {host : Host} (h : Fixed text) : Resolves host graph text := by
  rcases h with h | rfl
  · exact resolves_of_no_dollar h
  · exact resolves_owner

section
variable {env : Environment} {catalog : Catalog} {target : String} {config : GraphConfig}
  {node : ResolvedNode} {plan : CredentialPlan} {type : NodeType} {service : Service}

theorem imagePin_eq_ok {image : String} (h : imagePin image = .ok ()) :
    '$' ∉ image.toList ∧ "@sha256:".toList <:+: image.toList := by
  rw [imagePin, require_eq_ok, isImagePin] at h
  simp only [Bool.and_eq_true, isPrefixOf_iff_prefix, all_eq_true] at h
  obtain ⟨⟨⟨⟨-, hname⟩, hpin⟩, -⟩, hdigest⟩ := h
  have hsplit := takeWhile_append_dropWhile (p := (· ≠ '@')) (l := image.toList)
  obtain ⟨rest, hrest⟩ := hpin
  constructor
  · intro hdollar
    rw [← hsplit, mem_append] at hdollar
    rcases hdollar with hdollar | hdollar
    · exact absurd (hname '$' hdollar) (by decide)
    · rw [← hrest] at hdollar hdigest
      rcases mem_append.1 hdollar with hdollar | hdollar
      · exact absurd hdollar (by decide)
      · exact absurd (hdigest '$' hdollar) (by decide)
  · rw [← hsplit, ← hrest]
    exact ⟨_, rest, by rw [append_assoc]⟩

theorem isNodeExecutable_no_dollar {executable : String} (h : isNodeExecutable executable = true) :
    '$' ∉ executable.toList := by
  simp only [isNodeExecutable, Bool.and_eq_true, isPrefixOf_iff_prefix, all_eq_true] at h
  obtain ⟨⟨⟨rest, hrest⟩, -⟩, hchars⟩ := h
  rw [← hrest] at hchars ⊢
  intro hdollar
  rcases mem_append.1 hdollar with hdollar | hdollar
  · exact absurd hdollar (by decide)
  · exact absurd (hchars '$' hdollar) (by decide)

theorem serviceBase_eq_ok {image : String} (h : serviceBase image = .ok service) :
    imagePin image = .ok () ∧ service = baseService image := by
  obtain ⟨hpin, h⟩ := bind_unit_eq_ok.1 h
  exact ⟨hpin, (Except.ok.inj h).symm⟩

theorem containerService_eq_ok (h : containerService config plan node type = .ok service) :
    imagePin type.image = .ok () ∧ isNodeExecutable type.executable = true ∧
      nodeNetworks config node.id = .ok service.networks ∧
      service = { baseService type.image with
        pidsLimit := type.pids.val
        memLimit := type.memoryBytes.val
        capAdd := if node.recorder.isSome then some ["NET_RAW"] else none
        entrypoint := some [type.executable]
        command := some (fixedCommand node.id.text)
        environment := some (nodeEnvironment node true)
        volumes := nodeVolumes node (credentialRefs plan node.id.text)
        networks := service.networks
        labels := some (((Table.empty.set "org.graphx.graph" config.id.text).set "org.graphx.node"
          node.id.text).set "org.graphx.owner" (executionValue "GX_OWNER")) } := by
  simp only [containerService, bind_eq_ok] at h
  obtain ⟨base, hbase, argv, hargv, networks, hnetworks, h⟩ := h
  obtain ⟨hpin, rfl⟩ := serviceBase_eq_ok hbase
  obtain ⟨hexecutable, hargv⟩ := bind_unit_eq_ok.1 hargv
  cases hargv
  cases h
  exact ⟨hpin, require_eq_ok.1 hexecutable, hnetworks, rfl⟩

theorem Ident.fixed (id : Ident) : Fixed id.text := .inl (by simp)

/-- Every text of the service is as `P` says. -/
@[mk_iff]
structure Service.TextsMeet (P : String → Prop) (s : Service) : Prop where
  image : P s.image
  restart : P s.restart
  user : P s.user
  capDrop : ∀ t ∈ s.capDrop, P t
  securityOpt : ∀ t ∈ s.securityOpt, P t
  tmpfs : ∀ t ∈ s.tmpfs, P t
  logging : ∀ t ∈ s.logging.texts, P t
  capAdd : ∀ t ∈ s.capAdd.getD [], P t
  entrypoint : ∀ t ∈ s.entrypoint.getD [], P t
  command : ∀ t ∈ s.command.getD [], P t
  environment : ∀ t ∈ (s.environment.getD .empty).values, P t
  networks : ∀ a ∈ s.networks.values, ∀ t ∈ a.texts, P t
  labels : ∀ t ∈ (s.labels.getD .empty).values, P t
  ports : ∀ t ∈ s.ports.getD [], P t

theorem Service.forall_texts {P : String → Prop} {s : Service} :
    (∀ t ∈ s.texts, P t) ↔ s.TextsMeet P := by
  simp only [Service.texts, forall_mem_append, forall_mem_cons, not_mem_nil, false_imp_iff,
    implies_true, and_true, and_assoc, forall_mem_flatMap, Service.textsMeet_iff]

variable {P : String → Prop}

theorem baseService_texts {image : String} (h : imagePin image = .ok ())
    (hplain : ∀ t : String, '$' ∉ t.toList → P t) : (baseService image).TextsMeet P := by
  refine ⟨hplain _ (imagePin_eq_ok h).1, ?_, ?_, ?_, ?_, ?_, ?_, ?_, ?_, ?_, Table.forall_values_empty,
    Table.forall_values_empty, Table.forall_values_empty, ?_⟩
  all_goals simp [baseService, hplain, Logging.texts]

theorem containerService_texts (h : Accepted env catalog target config) (hnode : node ∈ config.nodes)
    (hservice : containerService config plan node type = .ok service)
    (hfixed : ∀ t, Fixed t → P t) (hnetworks : ∀ a ∈ service.networks.values, ∀ t ∈ a.texts, P t) :
    ∀ t ∈ service.texts, P t := by
  obtain ⟨hpin, hexecutable, -, hservice⟩ := containerService_eq_ok hservice
  have hplain : ∀ t : String, '$' ∉ t.toList → P t := fun t ht => hfixed t (.inl ht)
  have howner : P (executionValue "GX_OWNER") := hfixed _ (.inr rfl)
  have hroot : ∀ t ∈ ((Table.empty : Table String String).set "GRAPHX_CREDENTIALS"
      "/run/secrets").values, P t :=
    Table.forall_values_set (hplain _ (by simp)) Table.forall_values_empty
  have henvironment : ∀ t ∈ (nodeEnvironment node true).values, P t := by
    simp only [nodeEnvironment]
    split
    · exact hroot
    · next credential hcredential =>
      have hdeclared : credential ∈ node.declared := by
        simp [ResolvedNode.declared, hcredential]
      have hdollar : '$' ∉ credential.toList := fun hdollar =>
        absurd (h.declared_chars hnode hdeclared hdollar) (by decide)
      exact Table.forall_values_set (hplain _ (by simp [hdollar])) hroot
  rw [Service.forall_texts, hservice]
  exact { baseService_texts hpin hplain with
    capAdd := by dsimp only; split_ifs <;> simp [hplain]
    entrypoint := forall_mem_singleton.2 (hplain _ (isNodeExecutable_no_dollar hexecutable))
    command := by simp [fixedCommand, howner, hplain]
    environment := henvironment
    networks := hnetworks
    labels := Table.forall_values_set howner (Table.forall_values_set (hfixed _ node.id.fixed)
      (Table.forall_values_set (hfixed _ config.id.fixed) Table.forall_values_empty)) }

theorem toDigits_no_dollar (n : ℕ) : '$' ∉ Nat.toDigits 10 n := fun h =>
  absurd (Nat.isDigit_of_mem_toDigits (by decide) (by decide) h) (by decide)

section
variable {networks : Table String Attached}
  (hnetworks : ∀ a ∈ networks.values, ∀ t ∈ a.texts, Fixed t)
include hnetworks

theorem platformService_texts (hservice : platformService config plan networks = .ok service) :
    ∀ t ∈ service.texts, Fixed t := by
  obtain ⟨base, hbase, hservice⟩ := bind_eq_ok.1 hservice
  obtain ⟨hpin, rfl⟩ := serviceBase_eq_ok hbase
  cases hservice
  have hplain : ∀ t : String, '$' ∉ t.toList → Fixed t := fun _ => .inl
  have hport := toDigits_no_dollar config.platform.consolePort.val
  rw [Service.forall_texts]
  generalize max 536870912 _ = limit
  exact { baseService_texts hpin hplain with
    entrypoint := by simp [hplain]
    command := by simp [hplain]
    environment := Table.forall_values_set (.inr rfl) (Table.forall_values_set (hplain _ (by simp))
      (Table.forall_values_set (hplain _ (by simp)) (Table.forall_values_set (hplain _ (by simp))
        Table.forall_values_empty)))
    networks := hnetworks
    ports := by simp [hplain, hport] }

theorem extensionService_texts {extension : Extension}
    (hservice : extensionService networks extension = .ok service) : ∀ t ∈ service.texts, Fixed t := by
  obtain ⟨base, hbase, hservice⟩ := bind_eq_ok.1 hservice
  obtain ⟨hpin, rfl⟩ := serviceBase_eq_ok hbase
  have hplain : ∀ t : String, '$' ∉ t.toList → Fixed t := fun _ => .inl
  rw [Service.forall_texts]
  cases extension with
  | prometheus =>
    cases hservice
    exact { baseService_texts hpin hplain with
      tmpfs := by simp [hplain]
      command := by simp [hplain]
      networks := hnetworks
      ports := by simp [hplain] }
  | grafana =>
    cases hservice
    exact { baseService_texts hpin hplain with
      tmpfs := by simp [hplain]
      environment := Table.forall_values_set (hplain _ (by simp))
        (Table.forall_values_set (hplain _ (by simp)) (Table.forall_values_set (hplain _ (by simp))
          (Table.forall_values_set (hplain _ (by simp)) Table.forall_values_empty)))
      networks := hnetworks
      ports := by simp [hplain] }

end

end

/-! ## The checks -/

section
variable {env : Environment} {catalog : Catalog} {target : String} {config : GraphConfig}
  {node : ResolvedNode} {plan : CredentialPlan} {type : NodeType} {service : Service} {host : Host}
  {name : String}

theorem refuse_eq_ok {condition : Bool} {message : String} :
    refuse condition message = .ok () ↔ condition = true := require_eq_ok

theorem Service.fields_allowed (s : Service) : ∀ key ∈ s.fields, key ∈ allowedFields := by
  have hsome : ∀ {α : Type} (o : Option α) {key : String}, key ∈ allowedFields →
      ∀ k ∈ (o.map fun _ => key).toList, k ∈ allowedFields := by
    intro α o key hkey k hk
    cases o with
    | none => cases hk
    | some a => exact mem_singleton.1 hk ▸ hkey
  simp only [Service.fields, forall_mem_append]
  all_goals simp [allowedFields]

theorem Accepted.findNode_eq (h : Accepted env catalog target config) (hnode : node ∈ config.nodes) :
    findNode config node.id.text = some node := by
  rcases hfind : findNode config node.id.text with _ | found
  · have := find?_eq_none.1 hfind node hnode
    simp at this
  · have hname := find?_some hfind
    simp only [decide_eq_true_eq, Ident.text_inj] at hname
    rw [h.eq_of_node_id (mem_of_find?_eq_some hfind) hnode hname]

theorem Accepted.findNode_platform (h : Accepted env catalog target config)
    (hname : name ∈ platformServices) : findNode config name = none := by
  refine find?_eq_none.2 fun node hnode => ?_
  rw [decide_eq_true_eq]
  rintro rfl
  exact h.not_platformService hnode hname

theorem isPlatformName_iff : isPlatformName name = true ↔ name ∈ platformServices := by
  simp [isPlatformName, platformServices, or_assoc]

/-- The types of the program are those of the catalog. -/
def Host.Matches (host : Host) (catalog : Catalog) : Prop :=
  ∀ id type, catalog.types.get? id = some type →
    host.runtimeTypes.find? (·.1 = id) = some (id, type.executable)

theorem admitService_eq_ok (hpin : imagePin service.image = .ok ())
    (hcap : service.capAdd =
      if (findNode config name).any isContainerRecorder then some ["NET_RAW"] else none)
    (hboundary : service.capDrop = ["ALL"] ∧ service.securityOpt = ["no-new-privileges:true"])
    (hlimits : (1 ≤ service.pidsLimit ∧ service.pidsLimit ≤ 1024) ∧ 1048576 ≤ service.memLimit ∧
      service.memLimit ≤ 4294967296)
    (hpolicy : service.readOnly = true ∧ service.user = "65532:65532" ∧ service.restart = "no") :
    admitService host config (name, service) = .ok () ↔
      admitArguments host config name service = .ok () := by
  unfold admitService validateComposeServiceFields
  simp only [bind_unit_eq_ok, forM_eq_ok, refuse_eq_ok, require_eq_ok]
  constructor
  · rintro ⟨-, -, harguments, -⟩
    exact harguments
  · intro harguments
    refine ⟨⟨fun key hkey => decide_eq_true (service.fields_allowed key hkey), decide_eq_true hcap⟩,
      ?_, harguments, ?_, ?_⟩
    · simp only [Bool.and_eq_true, decide_eq_true_eq]
      exact ⟨⟨⟨⟨hboundary, hlimits.1.1⟩, hlimits.1.2⟩, hlimits.2.1⟩, hlimits.2.2⟩
    · rw [Bool.or_eq_true]
      exact .inr (decide_eq_true (imagePin_eq_ok hpin).2)
    · simp only [Bool.and_eq_true, decide_eq_true_eq]
      exact ⟨⟨hpolicy.1, hpolicy.2.1⟩, hpolicy.2.2⟩

variable (h : Accepted env catalog target config)
include h

/-- An application is admitted, unless it is called as the console. -/
theorem admitApplication_iff (hnode : node ∈ config.nodes) (htypes : host.Matches config.catalog)
    (htype : config.catalog.types.get? node.type = some type)
    (hservice : containerService config plan node type = .ok service) :
    admitApplication host config node.id.text service = .ok () ↔ node.id.text ≠ "console" := by
  have hnetworks : service.networks.contains "mg-console" = true ↔ node.id.text = "console" := by
    rw [IsService.networks_contains ⟨type, htype, hservice⟩]
    constructor
    · rintro (hname | ⟨-, hname⟩)
      · exact managementNetwork_eq_iff.1 hname.symm
      · exact absurd hname (by decide)
    · exact fun hname => .inl (managementNetwork_eq_iff.2 hname).symm
  obtain ⟨-, -, -, hbuilt⟩ := containerService_eq_ok hservice
  have hentrypoint : service.entrypoint = some [type.executable] := by rw [hbuilt]
  have hcommand : service.command = some (fixedCommand node.id.text) := by rw [hbuilt]
  unfold admitApplication
  rw [h.findNode_eq hnode]
  dsimp only
  rw [htypes _ _ htype]
  constructor
  · intro hok hname
    simp only [bind_eq_ok] at hok
    obtain ⟨_, -, _, -, _, -, _, -, hok⟩ := hok
    rw [hnetworks.2 hname] at hok
    cases hok
  · intro hname
    refine bind_eq_ok.2 ⟨_, at?_eq_ok.2 hentrypoint, bind_unit_eq_ok.2
      ⟨refuse_eq_ok.2 (decide_eq_true rfl), bind_eq_ok.2 ⟨_, at?_eq_ok.2 hcommand,
        bind_unit_eq_ok.2 ⟨refuse_eq_ok.2 (decide_eq_true rfl), ?_⟩⟩⟩⟩
    rw [refuse_eq_ok, Bool.not_eq_true', Bool.eq_false_iff]
    exact fun hcontains => hname (hnetworks.1 hcontains)

theorem Accepted.isContainerRecorder_eq (hnode : node ∈ config.nodes)
    (hkind : node.execution.kind = .container) :
    isContainerRecorder node = node.recorder.isSome := by
  obtain ⟨entry, -, type, hresolved⟩ := h.node_resolved hnode
  have hrecorder := hresolved.recorder
  rw [← hresolved.type_eq] at hrecorder
  rw [Bool.eq_iff_iff, isContainerRecorder, Bool.and_eq_true, Bool.and_eq_true, decide_eq_true_eq,
    decide_eq_true_eq]
  exact ⟨fun hall => hall.2, fun hsome => ⟨⟨hrecorder.1 hsome, hkind⟩, hsome⟩⟩

theorem admitContainer_iff (hnode : node ∈ config.nodes) (hkind : node.execution.kind = .container)
    (htypes : host.Matches config.catalog) (hservice : IsService config plan node service) :
    admitService host config (node.id.text, service) = .ok () ↔ node.id.text ≠ "console" := by
  obtain ⟨type, htype, hservice⟩ := hservice
  have hplatform : isPlatformName node.id.text = false := by
    rw [Bool.eq_false_iff, Ne, isPlatformName_iff]
    exact h.not_platformService hnode
  rw [← admitApplication_iff h hnode htypes htype hservice]
  obtain ⟨hpin, -, -, hbuilt⟩ := containerService_eq_ok hservice
  rw [admitService_eq_ok, admitArguments, hplatform, if_neg Bool.false_ne_true]
  · rw [hbuilt]
    exact hpin
  · rw [h.findNode_eq hnode, Option.any_some, h.isContainerRecorder_eq hnode hkind, hbuilt]
  · rw [hbuilt]
    exact ⟨rfl, rfl⟩
  · rw [hbuilt]
    exact ⟨⟨type.pids.low_le, type.pids.le_high⟩, type.memoryBytes.low_le, type.memoryBytes.le_high⟩
  · rw [hbuilt]
    exact ⟨rfl, rfl, rfl⟩

theorem admitPlatform {networks : Table String Attached} {extensions : List Extension}
    (hservice : IsPlatformService config plan extensions networks name service) :
    admitService host config (name, service) = .ok () := by
  have hname : name ∈ platformServices := by
    rcases hservice with ⟨rfl, -⟩ | ⟨extension, -, rfl, -⟩
    · exact mem_cons_self
    · exact extension_mem extension
  have hcap : service.capAdd = none → service.capAdd =
      if (findNode config name).any isContainerRecorder then some ["NET_RAW"] else none := by
    intro hnone
    rw [hnone, h.findNode_platform hname, Option.any_none, if_neg Bool.false_ne_true]
  have harguments : admitArguments host config name service = .ok () := by
    rw [admitArguments, if_pos (isPlatformName_iff.2 hname)]
  have hbytes := config.platform.history.maxDatabaseBytes.le_high
  rcases hservice with ⟨rfl, hservice⟩ | ⟨_ | _, -, rfl, hservice⟩
  all_goals
    obtain ⟨base, hbase, hservice⟩ := bind_eq_ok.1 hservice
    obtain ⟨hpin, rfl⟩ := serviceBase_eq_ok hbase
    cases hservice
    refine (admitService_eq_ok ?_ ?_ ?_ ?_ ?_).2 harguments
    exacts [hpin, hcap rfl, ⟨rfl, rfl⟩, by dsimp only [baseService]; omega, ⟨rfl, rfl, rfl⟩]

end

end GraphX.Config
