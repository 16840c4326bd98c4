/-
  The nodes of an accepted graph (`node_values` of `src/config_v3.cpp`).
-/
import GraphX.Config.Compile
import GraphX.Config.ResolvedConnections

namespace GraphX.Config

/-- What the loader makes of a node. -/
structure NodeResolved (config : GraphConfig) (entry : Ident × Node) (type : NodeType)
    (node : ResolvedNode) : Prop where
  known : config.catalog.types.get? entry.2.type = some type
  id : node.id = entry.1
  type_eq : node.type = entry.2.type
  revision : node.revision = type.revision
  execution : node.execution = entry.2.execution
  control : node.control = type.control
  parameters : nodeParameters entry.1 entry.2 type = .ok node.parameters
  bindings : node.bindings = nodeBindings config.connections entry.1 type
  vita : validateVitaBindings entry.2.type node.bindings node.parameters = .ok ()
  telemetryHost : node.telemetryHost = if isNative config.authored then "127.0.0.1" else "platform"
  telemetryCredential : node.telemetryCredential = telemetryCredential entry.1 entry.2 type
  credentials : node.credentials = entry.2.credentials
  checked : checkCredentials config.authored entry.1 entry.2 type = .ok ()
  recorder : node.recorder.isSome = true ↔ entry.2.type = "vita.recorder"

variable {env : Environment} {catalog : Catalog} {target : String} {config : GraphConfig}

variable {node : ResolvedNode}

theorem nodeValue_resolved {entry : Ident × Node} (hcatalog : config.catalog = catalog)
    (h : nodeValue config.authored catalog config.connections config.platform
      (isNative config.authored) config.network.attachments entry = .ok node) (maxWaitMs : ℕ) :
    ∃ type, NodeResolved config entry type { node with maxWaitMs := maxWaitMs } := by
  simp only [nodeValue, Check.bind_eq_ok] at h
  obtain ⟨type, htype, parameters, hparameters, _, -, _, hchecked, _, hvita, recorder, hrecorder,
    h⟩ := h
  cases h
  rw [at?_eq_ok] at htype
  refine ⟨type, by rw [hcatalog]; exact htype, rfl, rfl, rfl, rfl, rfl, hparameters, rfl, hvita, rfl,
    rfl, rfl, hchecked, ?_⟩
  unfold nodeRecorder at hrecorder
  split_ifs at hrecorder with hvita
  · obtain ⟨found, -, hrecorder⟩ := Check.bind_eq_ok.1 hrecorder
    obtain ⟨hsome, hrecorder⟩ := Check.bind_unit_eq_ok.1 hrecorder
    cases hrecorder
    simpa [hvita] using hsome
  · cases hrecorder
    simp [hvita]

variable (h : Accepted env catalog target config)
include h

theorem Accepted.resolvedNodes :
    List.Forall₂ (fun entry node => ∃ type, NodeResolved config entry type node)
      config.authored.nodes.entries config.nodes := by
  obtain ⟨nodes, hnodes, hconfig⟩ := h.nodes
  have hall := Check.mapM_eq_ok hnodes
  have hcatalog := h.catalog_eq
  rw [hconfig]
  split_ifs
  · refine List.forall₂_map_right_iff.2 (hall.imp fun entry node hnode => ?_)
    exact nodeValue_resolved hcatalog hnode _
  · exact hall.imp fun entry node hnode => nodeValue_resolved hcatalog hnode node.maxWaitMs

theorem Accepted.node_ids :
    config.nodes.map (·.id) = config.authored.nodes.keys := by
  have hall := h.resolvedNodes
  unfold Table.keys
  generalize config.authored.nodes.entries = entries at hall
  generalize hnodes : config.nodes = nodes at hall
  clear hnodes
  induction hall with
  | nil => rfl
  | cons hnode _ ih =>
    obtain ⟨type, hnode⟩ := hnode
    simp [hnode.id, ih]

theorem Accepted.node_ids_nodup :
    (config.nodes.map (·.id)).Nodup := h.node_ids ▸ config.authored.nodes.keys_nodup

theorem Accepted.eq_of_node_id {node' : ResolvedNode}
    (hnode : node ∈ config.nodes) (hnode' : node' ∈ config.nodes) (hid : node.id = node'.id) :
    node = node' := List.inj_on_of_nodup_map h.node_ids_nodup hnode hnode' hid

theorem Accepted.node_resolved
    (hnode : node ∈ config.nodes) :
    ∃ entry ∈ config.authored.nodes.entries, ∃ type, NodeResolved config entry type node := by
  obtain ⟨i, hi, rfl⟩ := List.getElem_of_mem hnode
  have hlength := h.resolvedNodes.length_eq
  exact ⟨config.authored.nodes.entries[i], List.getElem_mem _,
    h.resolvedNodes.get (by omega) hi⟩

theorem Accepted.not_reserved (hnode : node ∈ config.nodes) :
    isReserved node.id = false := by
  obtain ⟨entry, hentry, type, hresolved⟩ := h.node_resolved hnode
  have hplacement := h.placement
  obtain ⟨-, hplacement⟩ := Check.bind_unit_eq_ok.1 hplacement
  obtain ⟨-, hplacement⟩ := Check.bind_unit_eq_ok.1 hplacement
  obtain ⟨-, hplacement⟩ := Check.bind_unit_eq_ok.1 hplacement
  have hvalid := Check.forM_eq_ok.1 hplacement entry hentry
  obtain ⟨hreserved, -⟩ := Check.bind_unit_eq_ok.1 hvalid
  rw [require_eq_ok, Bool.not_eq_true'] at hreserved
  rw [hresolved.id, hreserved]

end GraphX.Config
