/-
  What the compiler separates: the credentials and the networks of applications.
-/
import GraphX.Config.Admission
import GraphX.Config.CompiledGraph
import GraphX.Config.Transports

namespace GraphX.Config

open List Check

/-! ## Consumers -/

def CredentialPlan.Allows (plan : CredentialPlan) (ref consumer : String) : Prop :=
  consumer ∈ (plan.consumers.get? ref).getD []

/-- The credentials that a node has by its own declaration, and its runtime
    credential. -/
def ResolvedNode.declared (node : ResolvedNode) : List String :=
  node.credentials.values ++ node.telemetryCredential.toList

section
variable {plan plan' : CredentialPlan} {ref consumer : String} {node : ResolvedNode}

theorem allows_allow {ref' consumer' : String} :
    (plan.allow ref consumer).Allows ref' consumer' ↔
      (ref' = ref ∧ consumer' = consumer) ∨ plan.Allows ref' consumer' := by
  unfold CredentialPlan.Allows CredentialPlan.allow
  rw [Table.get?_set]
  split_ifs with h
  · subst h
    simp [or_comm]
  · simp [h]

theorem mem_credentialRefs : ref ∈ credentialRefs plan consumer ↔ plan.Allows ref consumer := by
  unfold credentialRefs CredentialPlan.Allows
  rw [mem_map]
  constructor
  · rintro ⟨⟨key, consumers⟩, hentry, rfl⟩
    rw [mem_filter, decide_eq_true_eq] at hentry
    rw [Table.get?_eq_some_iff.2 hentry.1]
    exact hentry.2
  · intro h
    rcases hget : plan.consumers.get? ref with _ | consumers
    · rw [hget] at h
      cases h
    · rw [hget] at h
      exact ⟨(ref, consumers), by simpa [Table.get?_eq_some_iff.1 hget] using h, rfl⟩

theorem planPort_allows {entry : Ident × String} (h : planPort node plan entry = .ok plan') :
    plan'.Allows ref consumer ↔
      (ref = entry.2 ∧ consumer = node.id.text) ∨ plan.Allows ref consumer := by
  obtain ⟨declaration, -, h⟩ := bind_eq_ok.1 h
  split_ifs at h
  · obtain ⟨peers, -, h⟩ := bind_eq_ok.1 h
    cases h
    exact allows_allow
  · cases h
    exact allows_allow

theorem planTelemetry_allows (h : planTelemetry node plan = .ok plan') :
    plan'.Allows ref consumer ↔
      (node.telemetryCredential = some ref ∧ consumer = node.id.text) ∨
        plan.Allows ref consumer := by
  unfold planTelemetry at h
  split at h
  · next hnone =>
    cases h
    simp [hnone]
  · next own hown =>
    obtain ⟨-, h⟩ := bind_unit_eq_ok.1 h
    cases h
    rw [allows_allow, hown, Option.some.injEq, eq_comm (a := ref)]
    rfl

theorem planNode_allows (h : planNode plan node = .ok plan') :
    plan'.Allows ref consumer ↔
      (ref ∈ node.declared ∧ consumer = node.id.text) ∨ plan.Allows ref consumer := by
  obtain ⟨plan₁, hports, h⟩ := bind_eq_ok.1 h
  rw [planTelemetry_allows h,
    foldlM_adds (P := fun plan => plan.Allows ref consumer)
      (fun entry _ _ hstep => planPort_allows hstep) hports, ← or_assoc]
  refine or_congr_left ?_
  simp only [ResolvedNode.declared, mem_append, Option.mem_toList, Table.values, mem_map]
  constructor
  · rintro (⟨hown, hconsumer⟩ | ⟨entry, hentry, rfl, hconsumer⟩)
    · exact ⟨.inr hown, hconsumer⟩
    · exact ⟨.inl ⟨entry, hentry, rfl⟩, hconsumer⟩
  · rintro ⟨⟨entry, hentry, rfl⟩ | hown, hconsumer⟩
    · exact .inr ⟨entry, hentry, rfl, hconsumer⟩
    · exact .inl ⟨hown, hconsumer⟩

/-- The platform is added where the declarations are checked. -/
theorem planEntry_allows {entry : String × CredentialEntry} (h : planEntry plan entry = .ok plan') :
    plan'.Allows ref consumer ↔
      ((entry.1 = "observer" ∨ entry.2.provider = .runtimeGenerated) ∧ ref = entry.1 ∧
        consumer = "platform") ∨ plan.Allows ref consumer := by
  obtain ⟨-, h⟩ := bind_unit_eq_ok.1 h
  obtain ⟨-, h⟩ := bind_unit_eq_ok.1 h
  cases h
  have hemplace : ∀ entries, CredentialPlan.Allows
      { entries := entries, consumers := plan.consumers.emplace entry.1 [] } ref consumer ↔
        plan.Allows ref consumer := by
    intro entries
    unfold CredentialPlan.Allows Table.emplace
    split_ifs with hcontains
    · rfl
    · rw [Table.get?_set]
      split_ifs with heq
      · subst heq
        rw [Bool.not_eq_true, ← Table.get?_eq_none_iff] at hcontains
        simp [hcontains]
      · rfl
  split_ifs with hplatform
  · rw [allows_allow, hemplace]
    simp only [Bool.or_eq_true, decide_eq_true_eq] at hplatform
    simp [hplatform]
  · simp only [Bool.or_eq_true, decide_eq_true_eq] at hplatform
    simp [hplatform, hemplace]

theorem planEntry_identifier {entry : String × CredentialEntry} (h : planEntry plan entry = .ok plan') :
    isIdentifier entry.1 = true := by
  obtain ⟨hidentity, -⟩ := bind_unit_eq_ok.1 h
  exact require_eq_ok.1 hidentity

def extensionCredential : Extension → String
  | .prometheus => "observer"
  | .grafana => "grafana-admin"

theorem planExtension_allows {extension : Extension} (h : planExtension plan extension = .ok plan') :
    plan'.Allows ref consumer ↔
      (ref = extensionCredential extension ∧ consumer = extension.text) ∨
        plan.Allows ref consumer := by
  cases extension with
  | prometheus =>
    cases h
    exact allows_allow
  | grafana =>
    obtain ⟨-, h⟩ := bind_unit_eq_ok.1 h
    cases h
    exact allows_allow

theorem planOtlp_allows {otlp : Otlp} (h : planOtlp otlp plan = .ok plan') :
    plan'.Allows ref consumer ↔
      (∃ id, otlp.enabled = true ∧ otlp.credentials = some id ∧ ref = id.text ∧
        consumer = "platform") ∨ plan.Allows ref consumer := by
  unfold planOtlp at h
  split_ifs at h with henabled
  · obtain ⟨id, hid, h⟩ := bind_eq_ok.1 h
    cases h
    rw [at?_eq_ok] at hid
    rw [allows_allow]
    simp [henabled, hid]
  · cases h
    simp [henabled]

theorem grants_allow (grants : List Grant) :
    (grants.foldl (fun plan grant => plan.allow grant.credential.text "platform") plan).Allows ref
      consumer ↔
      (∃ grant ∈ grants, ref = grant.credential.text ∧ consumer = "platform") ∨
        plan.Allows ref consumer := by
  induction grants generalizing plan with
  | nil => simp
  | cons grant grants ih =>
    rw [foldl_cons, ih, allows_allow, ← or_assoc, exists_mem_cons_iff,
      or_comm (a := ref = grant.credential.text ∧ consumer = "platform")]

/-- What the platform and its extensions may use. -/
def PlatformAllows (config : GraphConfig) (entries : Table String CredentialEntry)
    (ref consumer : String) : Prop :=
  (∃ e ∈ entries.entries, (e.1 = "observer" ∨ e.2.provider = .runtimeGenerated) ∧ ref = e.1 ∧
      consumer = "platform") ∨
    (∃ extension ∈ config.platform.extensions, ref = extensionCredential extension ∧
      consumer = extension.text) ∨
    (∃ grant ∈ config.platform.control.grants, ref = grant.credential.text ∧
      consumer = "platform") ∨
    ∃ id, config.platform.otlp.enabled = true ∧ config.platform.otlp.credentials = some id ∧
      ref = id.text ∧ consumer = "platform"

variable {config : GraphConfig}

theorem PlatformAllows.consumer_mem {entries : Table String CredentialEntry}
    (h : PlatformAllows config entries ref consumer) : consumer ∈ platformServices := by
  rcases h with ⟨_, _, _, _, rfl⟩ | ⟨extension, _, _, rfl⟩ | ⟨_, _, _, rfl⟩ | ⟨_, _, _, _, rfl⟩
  · exact mem_cons_self
  · exact extension_mem extension
  · exact mem_cons_self
  · exact mem_cons_self

theorem PlatformAllows.identifier {entries : Table String CredentialEntry}
    (hentries : ∀ e ∈ entries.entries, isIdentifier e.1 = true)
    (h : PlatformAllows config entries ref consumer) : isIdentifier ref = true := by
  rcases h with ⟨e, he, _, rfl, _⟩ | ⟨extension, _, rfl, _⟩ | ⟨grant, _, rfl, _⟩ | ⟨id, _, _, rfl, _⟩
  · exact hentries e he
  · cases extension <;> decide
  · exact grant.credential.valid
  · exact id.valid

theorem or_reverse {a b c d e : Prop} : a ∨ b ∨ c ∨ d ∨ e ↔ e ∨ d ∨ c ∨ b ∨ a := by tauto

/-- **Who may use a credential**: the nodes that declare it, the role `reader` the
    observer's token, and the platform with its extensions. -/
theorem credentialPlan_eq_ok (h : credentialPlan config = .ok plan) :
    ∃ entries : Table String CredentialEntry, (∀ e ∈ entries.entries, isIdentifier e.1 = true) ∧
      ∀ ref consumer, plan.Allows ref consumer ↔
        ((∃ node ∈ config.nodes, ref ∈ node.declared ∧ consumer = node.id.text) ∨
          ref = "observer" ∧ consumer = "reader") ∨ PlatformAllows config entries ref consumer := by
  simp only [credentialPlan, bind_eq_ok] at h
  obtain ⟨_, -, plan₁, hnodes, plan₂, hentries, plan₃, hextensions, plan₄, hotlp, h⟩ := h
  cases h
  refine ⟨plan₁.entries, foldlM_forall (fun _ _ _ hstep => planEntry_identifier hstep) hentries,
    fun ref consumer => ?_⟩
  have hsorted : CredentialPlan.Allows { plan₄ with consumers := plan₄.consumers.map fun _ => textSet }
      ref consumer ↔ plan₄.Allows ref consumer := by
    unfold CredentialPlan.Allows
    rw [Table.get?_map]
    cases plan₄.consumers.get? ref <;> simp [textSet]
  have hplan₃ := foldlM_adds (P := fun plan => plan.Allows ref consumer)
    (fun _ _ _ hstep => planExtension_allows hstep) hextensions
  have hplan₂ := foldlM_adds (P := fun plan => plan.Allows ref consumer)
    (fun _ _ _ hstep => planEntry_allows hstep) hentries
  have hplan₁ := foldlM_adds (P := fun plan => plan.Allows ref consumer)
    (fun _ _ _ hstep => planNode_allows hstep) hnodes
  have hstart : ∀ entries, ¬ CredentialPlan.Allows { entries := entries, consumers := .empty } ref
      consumer := by
    intro entries
    simp [CredentialPlan.Allows]
  rw [hsorted, planOtlp_allows hotlp, grants_allow, hplan₃, hplan₂, hplan₁, allows_allow]
  simp only [hstart, or_false]
  exact or_reverse

/-- Who may use a credential, apart from the platform and its extensions. -/
theorem credentialPlan_allows (hconsumer : consumer ∉ platformServices)
    (h : credentialPlan config = .ok plan) :
    plan.Allows ref consumer ↔ (∃ node ∈ config.nodes, ref ∈ node.declared ∧ consumer = node.id.text) ∨
      ref = "observer" ∧ consumer = "reader" := by
  obtain ⟨entries, -, hallows⟩ := credentialPlan_eq_ok h
  rw [hallows]
  exact or_iff_left fun hplatform => hconsumer hplatform.consumer_mem

theorem credentialPlan_observer (h : credentialPlan config = .ok plan) :
    (authoredEntries config.authored).contains "observer" = false := by
  obtain ⟨hobserver, -⟩ := bind_unit_eq_ok.1 h
  rwa [require_eq_ok, Bool.not_eq_true'] at hobserver

end

/-! ## Declarations -/

section
variable {env : Environment} {catalog : Catalog} {target : String} {config : GraphConfig}
  {node : ResolvedNode} {ref : String}

theorem authoredEntries_contains (graph : Graph) (id : String) :
    (authoredEntries graph).contains id = true ↔ containsText graph.credentials id = true := by
  rw [authoredEntries, Table.contains_foldl_set, containsText_iff]
  simp only [Table.contains_empty, Bool.false_eq_true, or_false, Prod.exists]
  constructor
  · rintro ⟨key, c, hmem, rfl⟩
    exact ⟨key, c, rfl, hmem⟩
  · rintro ⟨key, c, rfl, hmem⟩
    exact ⟨key, c, hmem, rfl⟩

theorem Accepted.declared_cases (h : Accepted env catalog target config) (hnode : node ∈ config.nodes)
    (href : ref ∈ node.declared) :
    containsText config.authored.credentials ref = true ∨ ref = "runtime-" ++ node.id.text := by
  obtain ⟨entry, -, type, hresolved⟩ := h.node_resolved hnode
  rcases mem_append.1 href with href | href
  · left
    have hchecked := hresolved.checked
    obtain ⟨hentries, -⟩ := bind_unit_eq_ok.1 hchecked
    rw [hresolved.credentials] at href
    obtain ⟨e, he, rfl⟩ := mem_map.1 href
    have hcredential := forM_eq_ok.1 hentries e he
    obtain ⟨-, hcredential⟩ := bind_unit_eq_ok.1 hcredential
    exact require_eq_ok.1 hcredential
  · right
    rw [Option.mem_toList, hresolved.telemetryCredential] at href
    unfold telemetryCredential at href
    split_ifs at href
    · cases href
      rw [hresolved.id]

theorem Accepted.declared_chars (h : Accepted env catalog target config) (hnode : node ∈ config.nodes)
    (href : ref ∈ node.declared) {c : Char} (hc : c ∈ ref.toList) : isIdentifierChar c = true := by
  rcases h.declared_cases hnode href with hauthored | rfl
  · obtain ⟨id, -, rfl, -⟩ := containsText_iff.1 hauthored
    exact id.chars_valid c hc
  · rw [String.toList_append, mem_append] at hc
    rcases hc with hc | hc
    · exact all_eq_true.1 (show "runtime-".toList.all isIdentifierChar = true by decide) c hc
    · exact node.id.chars_valid c hc

variable {plan : CredentialPlan}

variable (h : Accepted env catalog target config)
include h

theorem Accepted.refs_chars {consumer : String} (hplan : credentialPlan config = .ok plan)
    (href : ref ∈ credentialRefs plan consumer) {c : Char} (hc : c ∈ ref.toList) :
    isIdentifierChar c = true := by
  obtain ⟨entries, hentries, hallows⟩ := credentialPlan_eq_ok hplan
  rcases (hallows ref consumer).1 (mem_credentialRefs.1 href) with
    (⟨node, hnode, hdeclared, -⟩ | ⟨rfl, -⟩) | hplatform
  · exact h.declared_chars hnode hdeclared hc
  · exact all_eq_true.1 (show "observer".toList.all isIdentifierChar = true by decide) c hc
  · exact Ident.chars_valid ⟨ref, hplatform.identifier hentries⟩ c hc

theorem Accepted.refs_not_mem {consumer : String} (hplan : credentialPlan config = .ok plan)
    (href : ref ∈ credentialRefs plan consumer) {c : Char} (hinvalid : isIdentifierChar c = false) :
    c ∉ ref.toList := by
  intro hc
  rw [h.refs_chars hplan href hc] at hinvalid
  cases hinvalid

theorem Accepted.observer_not_declared (hplan : credentialPlan config = .ok plan)
    (hnode : node ∈ config.nodes) : "observer" ∉ node.declared := by
  intro href
  have hobserver := credentialPlan_observer hplan
  rcases h.declared_cases hnode href with hauthored | hruntime
  · rw [← authoredEntries_contains, hobserver] at hauthored
    cases hauthored
  · have := congrArg (fun text => text.toList.head?) hruntime
    simp [String.toList_append] at this

end

/-! ## Mounts -/

/-- The credential whose directory is mounted. -/
def mountedCredential (text : String) : Option String :=
  if credentialRoot.isPrefixOf (mountSource text) then
    some (String.ofList ((mountSource text).drop credentialRoot.length))
  else none

theorem takeWhile_colon {source rest : List Char} (h : ':' ∉ source) :
    (source ++ ':' :: rest).takeWhile (· ≠ ':') = source := by
  induction source with
  | nil => rfl
  | cons c source ih =>
    rw [mem_cons, not_or] at h
    have hc : decide (c ≠ ':') = true := decide_eq_true (Ne.symm h.1)
    rw [cons_append, takeWhile_cons, hc]
    exact congrArg _ (ih h.2)

theorem mountSource_credentialMount {ref : String} (h : ':' ∉ ref.toList) :
    mountSource (credentialMount ref) = credentialRoot ++ ref.toList := by
  have htext : (credentialMount ref).toList =
      (credentialRoot ++ ref.toList) ++ ':' :: ("/run/secrets/" ++ ref ++ ":ro").toList := by
    simp [credentialMount, credentialRoot]
  rw [mountSource, htext, takeWhile_colon]
  rw [mem_append, not_or]
  exact ⟨by decide, h⟩

theorem mountedCredential_credentialMount {ref : String} (h : ':' ∉ ref.toList) :
    mountedCredential (credentialMount ref) = some ref := by
  rw [mountedCredential, mountSource_credentialMount h]
  simp

/-- A mount whose text starts in another way is not that of a credential. -/
theorem mountedCredential_other {text : String}
    (h : credentialRoot.isPrefixOf text.toList = false) : mountedCredential text = none := by
  refine if_neg fun hsource => ?_
  rw [List.isPrefixOf_iff_prefix] at hsource
  have := hsource.trans (List.takeWhile_prefix _)
  rw [← isPrefixOf_iff_prefix, h] at this
  cases this

theorem mountedCredentials_node (node : ResolvedNode) {refs : List String}
    (h : ∀ ref ∈ refs, ':' ∉ ref.toList) :
    (nodeVolumes node refs).filterMap mountedCredential = refs := by
  have hconfiguration : mountedCredential
      ("./nodes/" ++ node.id.text ++ ".json:/run/graphx/node.json:ro") = none := by
    refine mountedCredential_other ?_
    simp only [String.toList_append]
    rfl
  have hbarriers : mountedCredential
      (executionValue "GX_STATE" ++ "/barriers:/run/graphx/barriers:ro") = none :=
    mountedCredential_other rfl
  have hcaptures : mountedCredential
      (executionValue "GX_STATE" ++ "/captures/" ++ node.id.text ++ ":/captures") = none := by
    refine mountedCredential_other ?_
    simp only [String.toList_append]
    rfl
  have hrefs : (refs.map credentialMount).filterMap mountedCredential = refs := by
    rw [filterMap_map]
    conv_rhs => rw [← filterMap_some (l := refs)]
    exact filterMap_congr fun ref href => mountedCredential_credentialMount (h ref href)
  unfold nodeVolumes
  split_ifs <;> simp [hconfiguration, hbarriers, hcaptures, hrefs]

/-! ## The credentials of applications -/

/-- The node runs in a container or as a process, native or in a namespace.  A QEMU guest
    does neither: it is handed `node.credentials` over a channel of its own. -/
def ResolvedNode.isApplication (node : ResolvedNode) : Bool :=
  node.execution.kind = .container || node.isProcess

/-- The credentials that a node receives: the directories mounted into its container, or
    those listed for its process. -/
inductive Receives (compiled : Compiled) (node : ResolvedNode) : List String → Prop where
  | container {compose : Compose} {service : Service} (hkind : node.execution.kind = .container)
      (hcompose : compiled.compose = some compose)
      (hservice : compose.services.get? node.id.text = some service) :
      Receives compiled node (service.volumes.filterMap mountedCredential)
  | process {p : Process} (hkind : node.isProcess = true) (hp : p ∈ compiled.processes)
      (hid : p.id = node.id.text) : Receives compiled node p.credentials

section
variable {env : Environment} {catalog : Catalog} {options : LoadOptions} {graph : Graph}
  {target : String} {config : GraphConfig} {compiled : Compiled} {node : ResolvedNode}

section

variable (h : Accepted env catalog target config)
include h

theorem Accepted.not_platformService (hnode : node ∈ config.nodes) :
    node.id.text ∉ platformServices := by
  have hreserved := h.not_reserved hnode
  simp only [isReserved, Bool.or_eq_false_iff, decide_eq_false_iff_not] at hreserved
  simp [platformServices, hreserved]

theorem Accepted.native_eq : config.native = isNative config.authored := by
  unfold GraphConfig.native
  rw [h.platform]
  cases isNative config.authored <;> rfl

theorem Accepted.not_native_of_container (hnode : node ∈ config.nodes)
    (hkind : node.execution.kind = .container) : config.native = false := by
  obtain ⟨entry, hentry, type, hresolved⟩ := h.node_resolved hnode
  rw [h.native_eq, Bool.eq_false_iff]
  intro hnative
  simp only [isNative, Bool.and_eq_true, all_eq_true] at hnative
  have := hnative.2 entry.2 (mem_map_of_mem hentry)
  rw [← hresolved.execution, hkind] at this
  cases this

end

theorem containerService_volumes {credentials : CredentialPlan} {type : NodeType} {service : Service}
    (h : containerService config credentials node type = .ok service) :
    service.volumes = nodeVolumes node (credentialRefs credentials node.id.text) := by
  simp only [containerService, bind_eq_ok] at h
  obtain ⟨base, -, argv, -, networks, -, h⟩ := h
  cases h
  rfl

theorem nodeProcess_credentials {credentials : CredentialPlan} {type : NodeType} {p : Process}
    (h : nodeProcess env config credentials node type = .ok p) :
    p.id = node.id.text ∧ p.credentials = credentialRefs credentials node.id.text := by
  obtain ⟨argv, -, h⟩ := bind_eq_ok.1 h
  cases h
  exact ⟨rfl, rfl⟩

section

variable (h : Accepted env catalog target config)
include h

theorem Accepted.mem_refs (hplan : credentialPlan config = .ok compiled.credentials)
    (hnode : node ∈ config.nodes) {ref : String} :
    ref ∈ credentialRefs compiled.credentials node.id.text ↔
      ref ∈ node.declared ∨ ref = "observer" ∧ node.id.text = "reader" := by
  rw [mem_credentialRefs, credentialPlan_allows (h.not_platformService hnode) hplan]
  refine or_congr_left ⟨?_, fun href => ⟨node, hnode, href, rfl⟩⟩
  rintro ⟨node', hnode', href, hid⟩
  rwa [h.eq_of_node_id hnode hnode' (Ident.text_injective hid)]

theorem Accepted.service_of_container {credentials : CredentialPlan}
    {plans : Plans} {compose : Compose} {start : List Process}
    (hplans : PlansOf env config credentials start config.nodes plans)
    (hcompose : ComposeOf config credentials plans compose) (hnode : node ∈ config.nodes)
    (hkind : node.execution.kind = .container) :
    ∃ service, compose.services.get? node.id.text = some service ∧
      IsService config credentials node service := by
  obtain ⟨service, hservice⟩ := Table.contains_iff_get?.1 (hplans.served node hnode hkind)
  obtain ⟨node', hnode', -, hid, hbuilt⟩ := hplans.service _ _ hservice
  cases h.eq_of_node_id hnode' hnode (Ident.text_injective hid)
  exact ⟨service, by rw [hcompose.applications _ (h.not_platformService hnode), hservice], hbuilt⟩

theorem Accepted.received (hc : compileGraph env config = .ok compiled)
    (hnode : node ∈ config.nodes) {refs : List String} (hrefs : Receives compiled node refs) :
    refs = credentialRefs compiled.credentials node.id.text := by
  obtain ⟨hplan, -, -, plans, hplans, hprocesses, hcompose⟩ :=
    compileGraph_eq_ok (fun _ => h.not_platformService) hc
  have hcolon : ∀ ref ∈ credentialRefs compiled.credentials node.id.text, ':' ∉ ref.toList :=
    fun ref href => h.refs_not_mem hplan href (by decide)
  cases hrefs with
  | container hkind hsome hservice =>
    obtain ⟨compose, hcompose, hcomposeOf⟩ := hcompose (h.not_native_of_container hnode hkind)
    cases hcompose.symm.trans hsome
    obtain ⟨service', hservice', type, -, hbuilt⟩ :=
      h.service_of_container hplans hcomposeOf hnode hkind
    cases hservice'.symm.trans hservice
    rw [containerService_volumes hbuilt, mountedCredentials_node node hcolon]
  | process hkind hp hid =>
    rcases (hplans.process _).1 ((hprocesses _).1 hp) with hp | ⟨node', hnode', -, type, -, hbuilt⟩
    · refine absurd (show node.id.text ∈ platformServices from ?_) (h.not_platformService hnode)
      split_ifs at hp
      · rw [← hid, mem_singleton.1 hp]
        exact mem_cons_self
      · cases hp
    · obtain ⟨hid', hcredentials⟩ := nodeProcess_credentials hbuilt
      cases h.eq_of_node_id hnode' hnode (Ident.text_injective (hid'.symm.trans hid))
      exact hcredentials

theorem Accepted.receives (hc : compileGraph env config = .ok compiled)
    (hnode : node ∈ config.nodes) (happlication : node.isApplication = true) :
    ∃ refs, Receives compiled node refs := by
  obtain ⟨-, -, -, plans, hplans, hprocesses, hcompose⟩ :=
    compileGraph_eq_ok (fun _ => h.not_platformService) hc
  rw [ResolvedNode.isApplication, Bool.or_eq_true, decide_eq_true_eq] at happlication
  rcases happlication with hkind | hkind
  · obtain ⟨compose, hcompose, hcomposeOf⟩ := hcompose (h.not_native_of_container hnode hkind)
    obtain ⟨service, hservice, -⟩ := h.service_of_container hplans hcomposeOf hnode hkind
    exact ⟨_, .container hkind hcompose hservice⟩
  · obtain ⟨p, hp⟩ := hplans.processed node hnode hkind
    obtain ⟨type, -, hbuilt⟩ := id hp
    exact ⟨_, .process hkind ((hprocesses p).2 ((hplans.process p).2 (.inr ⟨node, hnode, hkind, hp⟩)))
      (nodeProcess_credentials hbuilt).1⟩

end

/-- **Least privilege.**  Every container and every process receives the credentials that it
    declares and its runtime credential, and no others, exactly when none of them has the
    name of the observer's consumer. -/
theorem credentials_least_iff (h : loadGraph env catalog options graph = .ok config)
    (hc : compileGraph env config = .ok compiled) :
    (∀ node ∈ config.nodes, node.isApplication = true →
      (∃ refs, Receives compiled node refs) ∧
        ∀ refs, Receives compiled node refs → ∀ ref, ref ∈ refs ↔ ref ∈ node.declared) ↔
    ∀ node ∈ config.nodes, node.isApplication = true → node.id.text ≠ "reader" := by
  have haccepted := loadGraph_accepted h
  have hplan := (compileGraph_eq_ok (fun _ => haccepted.not_platformService) hc).1
  constructor
  · intro hleast node hnode happlication hreader
    obtain ⟨⟨refs, hrefs⟩, hexact⟩ := hleast node hnode happlication
    have hobserver : "observer" ∈ refs := by
      rw [haccepted.received hc hnode hrefs, haccepted.mem_refs hplan hnode]
      exact .inr ⟨rfl, hreader⟩
    exact haccepted.observer_not_declared hplan hnode ((hexact refs hrefs "observer").1 hobserver)
  · intro hnames node hnode happlication
    refine ⟨haccepted.receives hc hnode happlication, fun refs hrefs ref => ?_⟩
    rw [haccepted.received hc hnode hrefs, haccepted.mem_refs hplan hnode]
    exact or_iff_left fun hreader => hnames node hnode happlication hreader.2

end

/-! ## A pair of containers -/

namespace ContainerPair

def publisher : Ident := ⟨"publisher", .refl true⟩

/-- A publisher and a subscriber in containers. -/
def graph (subscriber : Ident) : Graph where
  id := ⟨"pair", .refl true⟩
  nodes := (Table.empty.set publisher
    { type := "udp.publisher", execution := { kind := .container } }).set subscriber
      { type := "udp.subscriber", execution := { kind := .container } }
  connections := Table.empty.set ⟨"messages", .refl true⟩
    { source := ⟨publisher, ⟨"out", .refl true⟩⟩, target := ⟨subscriber, ⟨"in", .refl true⟩⟩
      transport := .udp, settings := { port := some ⟨7000, .refl true⟩ } }

end ContainerPair

set_option maxRecDepth 4000 in
theorem credentials_least_pair : ∃ config compiled,
    loadGraph sampleEnvironment shippedCatalog { target := "native-linux" }
        (ContainerPair.graph ⟨"subscriber", .refl true⟩) = .ok config ∧
      compileGraph sampleEnvironment config = .ok compiled ∧
      ∀ node ∈ config.nodes, node.isApplication = true →
        (∃ refs, Receives compiled node refs) ∧
          ∀ refs, Receives compiled node refs → ∀ ref, ref ∈ refs ↔ ref ∈ node.declared := by
  refine ⟨_, _, rfl, rfl, (credentials_least_iff (show loadGraph sampleEnvironment shippedCatalog
    { target := "native-linux" } (ContainerPair.graph ⟨"subscriber", .refl true⟩) = .ok _ from rfl)
    rfl).2 ?_⟩
  decide

set_option maxRecDepth 4000 in
/-- A container that is called `reader` receives the observer's token. -/
theorem credentials_observer_mounted : ∃ config compiled,
    loadGraph sampleEnvironment shippedCatalog { target := "native-linux" }
        (ContainerPair.graph ⟨"reader", .refl true⟩) = .ok config ∧
      compileGraph sampleEnvironment config = .ok compiled ∧
      ∃ node ∈ config.nodes, node.isApplication = true ∧
        ∃ refs, Receives compiled node refs ∧ "observer" ∈ refs ∧ "observer" ∉ node.declared := by
  refine ⟨_, _, rfl, rfl, _, mem_cons_of_mem _ mem_cons_self, rfl, _,
    .container rfl rfl rfl, ?_⟩
  decide

/-! ## The networks of applications -/

/-- The networks of an application are internal, and its management network is joined by
    the platform and its extensions only. -/
def Isolated (config : GraphConfig) (compose : Compose) : Prop :=
  ∀ node ∈ config.nodes, node.execution.kind = .container →
    ∃ service, compose.services.get? node.id.text = some service ∧
      (∀ name, service.networks.contains name = true →
        ∃ net, compose.networks.get? name = some net ∧ net.internal = true) ∧
      service.networks.contains (managementNetwork node.id) = true ∧
      ∀ name other, compose.services.get? name = some other →
        other.networks.contains (managementNetwork node.id) = true →
          name = node.id.text ∨ name ∈ platformServices

section
variable {env : Environment} {catalog : Catalog} {options : LoadOptions} {graph : Graph}
  {target : String} {config : GraphConfig} {compiled : Compiled} {node : ResolvedNode}
  {credentials : CredentialPlan} {plans : Plans} {compose : Compose}

theorem IsService.networks_contains {service : Service} {name : String}
    (h : IsService config credentials node service) :
    service.networks.contains name = true ↔
      name = managementNetwork node.id ∨ config.portableNetwork.isSome = true ∧ name = "data" := by
  obtain ⟨type, -, h⟩ := h
  simp only [containerService, bind_eq_ok] at h
  obtain ⟨base, -, argv, -, networks, hnetworks, h⟩ := h
  cases h
  unfold nodeNetworks at hnetworks
  split at hnetworks
  · next hnone =>
    cases hnetworks
    simp [Table.contains_set, hnone]
  · next portable hportable =>
    obtain ⟨address, -, hnetworks⟩ := bind_eq_ok.1 hnetworks
    cases hnetworks
    simp [Table.contains_set, hportable, or_comm]

theorem ComposeOf.network_get? (h : ComposeOf config credentials plans compose) {name : String}
    (hconsole : name ≠ "mg-console") (hplatform : name ≠ "mg-platform") :
    compose.networks.get? name = plans.networks.get? name := by
  rw [h.networks, Table.get?_set, if_neg hconsole]
  unfold withPlatformNetwork
  split_ifs
  · rw [Table.get?_set, if_neg hplatform]
  · rfl

theorem managementNetwork_eq_iff {id : Ident} {text : String} :
    managementNetwork id = "mg-" ++ text ↔ id.text = text := by
  unfold managementNetwork
  constructor
  · intro h
    have htext := congrArg String.toList h
    simp only [String.toList_append, append_cancel_left_eq] at htext
    exact String.toList_injective htext
  · rintro rfl
    rfl

theorem Accepted.managementNetwork_ne_platform (h : Accepted env catalog target config)
    (hnode : node ∈ config.nodes) : managementNetwork node.id ≠ "mg-platform" := by
  intro hplatform
  have hname : node.id.text = "platform" := managementNetwork_eq_iff.1 hplatform
  exact h.not_platformService hnode (hname ▸ mem_cons_self)

/-- **Management isolation.**  In container mode the networks of the applications are
    internal and separate, exactly when no container has the name of the console. -/
theorem management_isolated_iff (h : loadGraph env catalog options graph = .ok config)
    (hc : compileGraph env config = .ok compiled) (hmode : compiled.native = false) :
    ∃ compose, compiled.compose = some compose ∧
      (Isolated config compose ↔
        ∀ node ∈ config.nodes, node.execution.kind = .container → node.id.text ≠ "console") := by
  have haccepted := loadGraph_accepted h
  obtain ⟨-, hnative, -, plans, hplans, -, hcompose⟩ :=
    compileGraph_eq_ok (fun _ => haccepted.not_platformService) hc
  obtain ⟨compose, hsome, hcompose⟩ := hcompose (hnative ▸ hmode)
  refine ⟨compose, hsome, ?_⟩
  constructor
  · intro hisolated node hnode hkind hconsole
    obtain ⟨service, -, hinternal, hown, -⟩ := hisolated node hnode hkind
    have hname : managementNetwork node.id = "mg-console" := managementNetwork_eq_iff.2 hconsole
    obtain ⟨net, hnet, hnet'⟩ := hinternal _ hown
    -- The console's bridge has taken the place of the management network.
    rw [hcompose.networks, hname, Table.get?_set, if_pos rfl] at hnet
    cases hnet
    cases hnet'
  · intro hnames node hnode hkind
    obtain ⟨service, hservice, hbuilt⟩ := haccepted.service_of_container hplans hcompose hnode hkind
    have hconsole : managementNetwork node.id ≠ "mg-console" := fun heq =>
      hnames node hnode hkind (managementNetwork_eq_iff.1 heq)
    have hplatform := haccepted.managementNetwork_ne_platform hnode
    refine ⟨service, hservice, fun name hname => ?_, hbuilt.networks_contains.2 (.inl rfl), ?_⟩
    · rcases hbuilt.networks_contains.1 hname with rfl | ⟨hportable, rfl⟩
      · refine ⟨{ internal := true }, ?_, rfl⟩
        rw [hcompose.network_get? hconsole hplatform, hplans.network]
        exact .inl ⟨⟨node, hnode, hkind, rfl⟩, rfl⟩
      · obtain ⟨portable, hportable⟩ := Option.isSome_iff_exists.1 hportable
        refine ⟨{ internal := true, subnet := some portable.subnet }, ?_, rfl⟩
        rw [hcompose.network_get? (by decide) (by decide), hplans.network]
        refine .inr ?_
        simp [dataNetworks, hportable, Table.get?_set]
    · intro name other hother hjoined
      by_cases hname : name ∈ platformServices
      · exact .inr hname
      · left
        rw [hcompose.applications name hname] at hother
        obtain ⟨node', hnode', -, rfl, hbuilt'⟩ := hplans.service _ _ hother
        rcases hbuilt'.networks_contains.1 hjoined with heq | ⟨-, heq⟩
        · rw [managementNetwork_injective heq]
        · exact absurd heq.symm (managementNetwork_ne (by decide))

end

set_option maxRecDepth 4000 in
theorem management_isolated_pair : ∃ config compiled compose,
    loadGraph sampleEnvironment shippedCatalog { target := "native-linux" }
        (ContainerPair.graph ⟨"subscriber", .refl true⟩) = .ok config ∧
      compileGraph sampleEnvironment config = .ok compiled ∧ compiled.native = false ∧
      compiled.compose = some compose ∧ Isolated config compose := by
  obtain ⟨compose, hcompose, hisolated⟩ := management_isolated_iff
    (show loadGraph sampleEnvironment shippedCatalog { target := "native-linux" }
      (ContainerPair.graph ⟨"subscriber", .refl true⟩) = .ok _ from rfl) rfl rfl
  refine ⟨_, _, compose, rfl, rfl, rfl, hcompose, hisolated.2 ?_⟩
  decide

set_option maxRecDepth 4000 in
/-- A container that is called `console` is on the bridge that is not internal, with the
    platform. -/
theorem management_console_open : ∃ config compiled compose,
    loadGraph sampleEnvironment shippedCatalog { target := "native-linux" }
        (ContainerPair.graph ⟨"console", .refl true⟩) = .ok config ∧
      compileGraph sampleEnvironment config = .ok compiled ∧ compiled.native = false ∧
      compiled.compose = some compose ∧
      ∃ service, compose.services.get? "console" = some service ∧
        service.networks.contains "mg-console" = true ∧
        compose.networks.get? "mg-console" = some { internal := false } := by
  refine ⟨_, _, _, rfl, rfl, rfl, rfl, _, rfl, ?_⟩
  decide

end GraphX.Config
