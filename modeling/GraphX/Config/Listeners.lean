/-
  The listeners of an accepted graph, by the network namespace in which they run.
-/
import GraphX.Config.Expansion
import GraphX.Config.ResolvedConnections

namespace GraphX.Config

open List Check

/-! ## Namespaces -/

/-- Where the application of a node opens its sockets. -/
inductive NetworkNamespace where
  | host
  | container (node : Ident)
  | named (name : Ident)
  | guest (node : Ident)
  | device (node : Ident)
  deriving DecidableEq

/-- A native node runs on the host, a container in its own namespace, and a namespace
    node in the one that it names, by default after itself (`src/compile.cpp`). -/
def Node.networkNamespace (node : Node) (id : Ident) : NetworkNamespace :=
  match node.execution.kind with
  | .native => .host
  | .container => .container id
  | .namespace => .named (node.execution.namespaceName.getD id)
  | .qemu => .guest id
  | .external => .device id

def listeningNamespace (graph : Graph) (c : ResolvedConnection) : Option NetworkNamespace :=
  (graph.nodes.get? c.target.node).map fun node => node.networkNamespace c.target.node

/-- Two connections listen at one address and port of one namespace. -/
def ListenersClash (graph : Graph) (c c' : ResolvedConnection) : Prop :=
  listeningNamespace graph c = listeningNamespace graph c' ∧
    c.settings.listener = c'.settings.listener ∧ c.settings.listener ≠ none

instance instDecidableListenersClash (graph : Graph) (c c' : ResolvedConnection) :
    Decidable (ListenersClash graph c c') := inferInstanceAs (Decidable (_ ∧ _ ∧ _))

/-! ## Listeners, as authored -/

namespace Graph
variable (graph : Graph)

/-- Two nodes of the host, or two that name one namespace. -/
def sharesNamespace (a b : Ident) : Bool :=
  match graph.nodes.get? a, graph.nodes.get? b with
  | some m, some n =>
    (m.execution.kind = .native && n.execution.kind = .native) ||
      (m.execution.kind = .namespace && n.execution.kind = .namespace &&
        m.execution.namespaceName.getD a = n.execution.namespaceName.getD b)
  | _, _ => false

/-- The address of the target of a connection: that of the selected attachment or, as
    the destination of unicast datagrams, one of its aliases; the portable address of the
    node if no attachment is selected. -/
def targetAddress (env : Environment) (connection : Connection) : Option String :=
  match connection.attachments, graph.network with
  | some selected, some net => do
    let a ← net.placed.find? (·.id = selected.target.text)
    let text ← a.address
    let named := connection.settings.destination.filter fun destination =>
      connection.transport = .udp && connection.settings.mode.getD .unicast = .unicast &&
        (a.aliases.getD []).any fun text => destination = String.ofList (hostPart text)
    some (named.getD (String.ofList (hostPart text)))
  | _, _ => do
    let portable ← (portableValue env graph false).toOption.join
    portable.addresses.get? connection.target.node

/-- The listener of a connection at a place in the order of the connections. -/
def listener (env : Environment) (catalog : Catalog) (entry : (Ident × Connection) × ℕ) :
    Option (Transport × String × ℕ) := do
  let connection := entry.1.2
  guard (connection.transport ≠ .sharedMemory)
  let input ← portOf graph catalog connection.target
  let address ← graph.targetAddress env connection
  some (connection.transport, listenerBind address connection.settings,
    listenerPort input entry.2 connection.settings)

end Graph

variable {env : Environment} {catalog : Catalog} {options : LoadOptions} {graph : Graph}
  {config : GraphConfig} {target : String}

theorem listeningNamespace_eq_iff {c c' : ResolvedConnection}
    (hc : c.target.node ∈ graph.nodes.keys) (hne : c.target.node ≠ c'.target.node) :
    listeningNamespace graph c = listeningNamespace graph c' ↔
      graph.sharesNamespace c.target.node c'.target.node = true := by
  obtain ⟨⟨id, node⟩, hentry, hid⟩ := mem_map.1 hc
  have hnode : graph.nodes.get? c.target.node = some node :=
    hid ▸ Table.get?_eq_some_iff.2 hentry
  unfold listeningNamespace Graph.sharesNamespace Node.networkNamespace
  cases hnode' : graph.nodes.get? c'.target.node with
  | none => simp [hnode]
  | some node' =>
    cases hk : node.execution.kind <;> cases hk' : node'.execution.kind <;>
      simp [hnode, hk, hk', hne]

theorem find?_of_mem {α κ : Type} [DecidableEq κ] {key : α → κ} {l : List α} {a : α}
    (hnodup : (l.map key).Nodup) (ha : a ∈ l) : l.find? (key · = key a) = some a := by
  cases hfound : l.find? (key · = key a) with
  | none => simpa using find?_eq_none.1 hfound a ha
  | some b =>
    have hkey : key b = key a := by simpa using find?_some hfound
    rw [inj_on_of_nodup_map hnodup (mem_of_find?_eq_some hfound) ha hkey]

theorem portableValue_isSome {portable : Option PortableNetwork} (hnet : graph.network = none)
    (h : portableValue env graph false = .ok portable) : portable ≠ none := by
  rintro rfl
  simp only [portableValue, hnet, Option.isSome_none, Bool.or_false, Bool.false_eq_true,
    if_false] at h
  split at h
  · obtain ⟨subnet, -, h⟩ := bind_eq_ok.1 h
    obtain ⟨-, h⟩ := bind_unit_eq_ok.1 h
    obtain ⟨used, -, h⟩ := bind_eq_ok.1 h
    cases h
  · obtain ⟨-, h⟩ := bind_unit_eq_ok.1 h
    cases h

/-- The attachment of an expanded network with an identity is the authored one. -/
theorem expandNetwork_find {network : ResolvedNetwork} {a : ResolvedAttachment}
    (h : expandNetwork env graph = .ok network) (ha : a ∈ network.attachments) :
    ∃ net, graph.network = some net ∧ net.placed.find? (·.id = a.id) = some a.bare := by
  cases hnet : graph.network with
  | none =>
    simp only [expandNetwork, bind_eq_ok] at h
    obtain ⟨_, -, network', hvalue, _, -, h⟩ := h
    cases h
    rw [hnet] at hvalue
    cases hvalue
    cases ha
  | some net =>
    obtain ⟨hvalue, hvalid⟩ := expandNetwork_eq_ok hnet h
    have hperm := networkValue_placed hvalue
    have hids : (net.placed.map (·.id)).Nodup := by
      have hids := validateNetwork_ids hvalid
      rw [ResolvedNetwork.toNetwork, map_map] at hids
      rw [← (hperm.map _).nodup_iff, map_map]
      exact hids
    exact ⟨net, rfl, find?_of_mem hids (hperm.subset (mem_map_of_mem ha))⟩

/-- In a graph that is not native the address of a target is the authored one. -/
theorem Accepted.targetAddress (h : Accepted env catalog target config)
    (hnative : isNative config.authored = false) {path : String} {connection : Connection}
    {out : PortType} {ends : EndAddresses}
    (hends : endAddresses config.authored config.network.attachments config.portableNetwork false
      path connection out = .ok ends) :
    config.authored.targetAddress env connection = some ends.destination := by
  obtain ⟨hosts, hhosts, hends⟩ := bind_eq_ok.1 hends
  split at hends
  · next hnone =>
    obtain ⟨hmanaged, hends⟩ := bind_unit_eq_ok.1 hends
    cases hends
    have hmanaged : config.authored.network = none := by simpa using require_eq_ok.1 hmanaged
    have hportable := h.portable
    rw [hnative] at hportable
    obtain ⟨portable, hsome⟩ := Option.ne_none_iff_exists'.1 (portableValue_isSome hmanaged hportable)
    rw [hsome] at hhosts hportable
    dsimp only [hostAddresses] at hhosts
    split at hhosts
    · next source destination _ hdestination =>
      cases hhosts
      simp [Graph.targetAddress, hnone, hportable, hdestination, Except.toOption]
    · cases hhosts
  · next selected hselected =>
    simp only [bind_eq_ok] at hends
    obtain ⟨found, hfound, source, -, destination, hdestination, required, -, hends⟩ := hends
    have hends : ends = ⟨source, aliasDestination connection found destination⟩ := by
      cases required with
      | none =>
        cases hends
        rfl
      | some required =>
        obtain ⟨-, hends⟩ := bind_unit_eq_ok.1 hends
        cases hends
        rfl
    simp only [selectedEnds, bind_eq_ok] at hfound
    obtain ⟨first, -, last, hlast, _, -, hfound⟩ := hfound
    cases hfound
    obtain ⟨text, htext, hdestination⟩ := bind_eq_ok.1 hdestination
    cases hdestination
    rw [at?_eq_ok] at htext
    dsimp only [findAttachment] at hlast
    split at hlast
    · cases hlast
    · next a hfind =>
      cases hlast
      obtain ⟨net, hnet, hplaced⟩ := expandNetwork_find h.network (mem_of_find?_eq_some hfind)
      have hid : last.id = selected.target.text := by simpa using find?_some hfind
      rw [hid] at hplaced
      have htext : last.bare.address = some text := htext
      have haliases : last.bare.aliases = last.aliases := rfl
      simp only [Graph.targetAddress, hselected, hnet, hplaced, Option.bind_eq_bind,
        Option.bind_some, htext, haliases, hends, aliasDestination]
      cases connection.settings.destination with
      | none => simp
      | some destination =>
        simp only [Option.filter_some]
        split_ifs <;> simp_all

/-- The listener of a connection is the authored one. -/
theorem Accepted.listener (h : Accepted env catalog target config)
    (hnative : isNative config.authored = false) {entry : (Ident × Connection) × ℕ}
    {c : ResolvedConnection}
    (hc : ConnectionResolved config.authored catalog config.network.attachments
      config.portableNetwork (isNative config.authored) entry.1 entry.2 c) :
    config.authored.listener env catalog entry = c.settings.listener := by
  obtain ⟨out, input, -, hinput, -, -, -, hends, -, hsettings⟩ := hc.ports
  rw [hnative] at hends
  have hport := (getPort_eq_ok hinput).2
  have haddress := h.targetAddress hnative hends
  rcases resolveSettings_cases hsettings with
    ⟨htransport, s, hs, -⟩ | ⟨htransport, s, hs, htcp⟩ | ⟨htransport, hs⟩
  · simp [Graph.listener, htransport, hs, ResolvedSettings.listener, guard]
  · obtain ⟨-, htcp⟩ := bind_unit_eq_ok.1 htcp
    cases htcp
    simp [Graph.listener, htransport, hport, haddress, hs, ResolvedSettings.listener, guard]
  · simp [Graph.listener, htransport, hport, haddress, hs, ResolvedSettings.listener, udpSettings,
      guard]

/-- **Listeners within a namespace.**  The loader keeps apart the listeners of one
    node, and all listeners of a native graph; what it does not compare are the
    listeners, as authored, of different nodes that share a namespace in any other
    graph. -/
theorem listeners_distinct_iff (h : loadGraph env catalog options graph = .ok config) :
    (∀ c ∈ config.connections, ∀ c' ∈ config.connections, c.id ≠ c'.id →
      ¬ListenersClash config.authored c c') ↔
    (isNative config.authored = false →
      ∀ e ∈ config.authored.connections.entries.zipIdx,
      ∀ e' ∈ config.authored.connections.entries.zipIdx,
        e.1.2.target.node ≠ e'.1.2.target.node →
        config.authored.sharesNamespace e.1.2.target.node e'.1.2.target.node = true →
        config.authored.listener env catalog e ≠ none →
        config.authored.listener env catalog e ≠ config.authored.listener env catalog e') := by
  have haccepted := loadGraph_accepted h
  have hall := haccepted.resolved
  constructor
  · intro hdistinct hnative e he e' he' hnode hshared hsome hsame
    obtain ⟨c, hc, hresolved⟩ := exists_of_forall₂ (Forall₂.flip hall) he
    obtain ⟨c', hc', hresolved'⟩ := exists_of_forall₂ (Forall₂.flip hall) he'
    rw [haccepted.listener hnative hresolved, haccepted.listener hnative hresolved'] at hsame
    rw [haccepted.listener hnative hresolved] at hsome
    rw [← hresolved.target, ← hresolved'.target] at hnode hshared
    refine hdistinct c hc c' hc' (fun hid => hnode ?_) ⟨?_, hsame, hsome⟩
    · rw [haccepted.eq_of_id hc hc' hid]
    · exact (listeningNamespace_eq_iff hresolved.nodes_known.2 hnode).2 hshared
  · rintro hapart c hc c' hc' hid ⟨hns, hlistener, hsome⟩
    -- Equal keys are refused; so the nodes differ and the graph is not native.
    obtain ⟨listener, hl⟩ := Option.ne_none_iff_exists'.1 hsome
    have hsame : listenerKey (isNative config.authored) c.target.node listener =
        listenerKey (isNative config.authored) c'.target.node listener → False := by
      intro hkeys
      have hkey : listenerKeyOf (isNative config.authored) c =
          some (listenerKey (isNative config.authored) c.target.node listener) := by
        simp [listenerKeyOf, hl]
      refine hid (congrArg (·.id) (haccepted.eq_of_listenerKey hc hc' hkey ?_))
      simp [listenerKeyOf, ← hlistener, hl, hkeys]
    cases hnative : isNative config.authored with
    | true => exact hsame (by simp [hnative, listenerKey])
    | false =>
      have hnode : c.target.node ≠ c'.target.node := fun hnode => hsame (by rw [hnode])
      obtain ⟨e, he, hresolved⟩ := exists_of_forall₂ hall hc
      obtain ⟨e', he', hresolved'⟩ := exists_of_forall₂ hall hc'
      refine hapart hnative e he e' he' ?_ ?_ ?_ ?_
      · rwa [← hresolved.target, ← hresolved'.target]
      · rw [← hresolved.target, ← hresolved'.target]
        exact (listeningNamespace_eq_iff hresolved.nodes_known.2 hnode).1 hns
      · rwa [haccepted.listener hnative hresolved]
      · rwa [haccepted.listener hnative hresolved, haccepted.listener hnative hresolved']

set_option maxRecDepth 4000 in
/-- Two peers in one namespace that listen at different ports. -/
theorem listeners_distinct_peers :
    ∃ config, loadGraph sampleEnvironment shippedCatalog { target := "native-linux" }
        SharedNamespace.apart = .ok config ∧
      ∀ c ∈ config.connections, ∀ c' ∈ config.connections, c.id ≠ c'.id →
        ¬ListenersClash config.authored c c' := by
  refine ⟨_, rfl, (listeners_distinct_iff (show loadGraph sampleEnvironment shippedCatalog
    { target := "native-linux" } SharedNamespace.apart = .ok _ from rfl)).2 ?_⟩
  decide

set_option maxRecDepth 4000 in
/-- Two peers in one namespace that both listen at 10.0.0.2, port 7000. -/
theorem listeners_shared_namespace :
    ∃ config, loadGraph sampleEnvironment shippedCatalog { target := "native-linux" }
        SharedNamespace.graph = .ok config ∧
      ∃ c ∈ config.connections, ∃ c' ∈ config.connections, c.id ≠ c'.id ∧
        ListenersClash config.authored c c' := by
  refine ⟨_, rfl, ?_⟩
  decide

end GraphX.Config
