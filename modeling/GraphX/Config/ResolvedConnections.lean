/-
  What loading establishes of the connections.
-/
import GraphX.Config.LoadGraph
import GraphX.Config.Shipped

namespace GraphX.Config

open List Check

/-! ## One connection -/

section
variable (graph : Graph) (catalog : Catalog) (attachments : List ResolvedAttachment)
  (portable : Option PortableNetwork) (native : Bool)

/-- What a turn of the loop checked and computed for a connection. -/
structure ConnectionResolved (entry : Ident × Connection) (ordinal : ℕ) (c : ResolvedConnection) :
    Prop where
  id : c.id = entry.1
  source : c.source = entry.2.source
  target : c.target = entry.2.target
  transport : c.transport = entry.2.transport
  selected : c.attachments = entry.2.attachments
  security : c.security = entry.2.security.getD { profile := .none }
  ports : ∃ out input : PortType,
    getPort graph catalog ("connections." ++ entry.1.text) "from" entry.2.source = .ok out ∧
    getPort graph catalog ("connections." ++ entry.1.text) "to" entry.2.target = .ok input ∧
    checkPorts ("connections." ++ entry.1.text) entry.2 out input = .ok () ∧
    c.schema = input.schema ∧ c.encoding = input.encoding ∧
    endAddresses graph attachments portable native ("connections." ++ entry.1.text) entry.2 out =
      .ok ⟨c.sourceAddress, c.destinationAddress⟩ ∧
    checkSettings ("connections." ++ entry.1.text) entry.2 input = .ok () ∧
    resolveSettings graph ("connections." ++ entry.1.text) entry.2 input ordinal
      c.destinationAddress = .ok c.settings
  group : checkSettingsGroup ("connections." ++ entry.1.text) portable c.settings = .ok ()

def listenerKeyOf (c : ResolvedConnection) : Option String :=
  c.settings.listener.map (listenerKey native c.target.node)

variable {graph catalog attachments portable native}

variable {path : String} {connection : Connection}

theorem freshListener_eq_ok {listeners listeners' : List String} {settings : ResolvedSettings}
    (h : freshListener native path connection listeners settings = .ok listeners') :
    listeners' = (settings.listener.map (listenerKey native connection.target.node)).toList ++ listeners ∧
      ∀ key ∈ settings.listener.map (listenerKey native connection.target.node), key ∉ listeners := by
  unfold freshListener at h
  split at h
  · next hnone =>
    cases h
    simp [hnone]
  · next listener hsome =>
    obtain ⟨hnew, rfl⟩ := fresh_eq_ok.1 h
    simp [hsome, hnew]

variable {entry : Ident × Connection}

theorem connectionValue_eq_ok {scan scan' : ConnectionScan}
    (h : connectionValue graph catalog attachments portable native scan entry = .ok scan') :
    ∃ c, ConnectionResolved graph catalog attachments portable native entry scan.result.length c ∧
      scan'.result = scan.result ++ [c] ∧
      scan'.listeners = (listenerKeyOf native c).toList ++ scan.listeners ∧
      ∀ key ∈ listenerKeyOf native c, key ∉ scan.listeners := by
  simp only [connectionValue, bind_eq_ok] at h
  obtain ⟨out, hout, input, hinput, _, hports, addresses, haddresses, _, hsettings, settings,
    hresolved, listeners, hlisteners, _, hgroup, h⟩ := h
  cases h
  obtain ⟨hlist, hnew⟩ := freshListener_eq_ok hlisteners
  exact ⟨_, ⟨rfl, rfl, rfl, rfl, rfl, rfl,
    ⟨out, input, hout, hinput, hports, rfl, rfl, haddresses, hsettings, hresolved⟩, hgroup⟩, rfl,
    hlist, hnew⟩

/-! ## All connections -/

variable (graph catalog attachments portable native) in
/-- The connections that correspond to authored entries, in order. -/
def AllResolved (entries : List (Ident × Connection)) (result : List ResolvedConnection) : Prop :=
  List.Forall₂ (fun (entry : (Ident × Connection) × ℕ) c =>
    ConnectionResolved graph catalog attachments portable native entry.1 entry.2 c) entries.zipIdx result

variable {entries : List (Ident × Connection)} {result : List ResolvedConnection}
  {c : ResolvedConnection}

section
variable (h : AllResolved graph catalog attachments portable native entries result)
include h

theorem AllResolved.snoc
    (hc : ConnectionResolved graph catalog attachments portable native entry result.length c) :
    AllResolved graph catalog attachments portable native (entries ++ [entry]) (result ++ [c]) := by
  have hlength : entries.length = result.length := by simpa using h.length_eq
  unfold AllResolved
  rw [zipIdx_append]
  refine rel_append h (.cons ?_ .nil)
  simpa [hlength] using hc

theorem AllResolved.of_mem (hc : c ∈ result) :
    ∃ entry ∈ entries, ∃ ordinal,
      ConnectionResolved graph catalog attachments portable native entry ordinal c := by
  obtain ⟨entry, hentry, hresolved⟩ := exists_of_forall₂ h hc
  exact ⟨_, fst_mem_of_mem_zipIdx hentry, _, hresolved⟩

theorem AllResolved.of_entry (hentry : entry ∈ entries) :
    ∃ c ∈ result, ∃ ordinal,
      ConnectionResolved graph catalog attachments portable native entry ordinal c := by
  rw [← zipIdx_map_fst 0 entries] at hentry
  obtain ⟨indexed, hindexed, rfl⟩ := mem_map.1 hentry
  obtain ⟨c, hc, hresolved⟩ := exists_of_forall₂ (Forall₂.flip h) hindexed
  exact ⟨c, hc, _, hresolved⟩

end

/-- **Every connection is resolved, and no two listeners have one key.** -/
theorem earlierChecks_resolved
    (h : earlierChecks graph catalog attachments portable native = .ok result) :
    AllResolved graph catalog attachments portable native graph.connections.entries result ∧
      (result.filterMap (listenerKeyOf native)).Nodup := by
  simp only [earlierChecks, bind_eq_ok] at h
  obtain ⟨seen, -, _, -, scan, hscan, _, -, h⟩ := h
  cases h
  have hinv := foldlM_invariant (I := fun before (s : ConnectionScan) =>
      AllResolved graph catalog attachments portable native before s.result ∧
        s.listeners = (s.result.filterMap (listenerKeyOf native)).reverse ∧ s.listeners.Nodup)
    ?_ hscan ⟨.nil, rfl, .nil⟩
  · exact ⟨hinv.1, nodup_reverse.1 (hinv.2.1 ▸ hinv.2.2)⟩
  · rintro before entry s s' ⟨hall, hkeys, hnodup⟩ hstep
    obtain ⟨c, hc, hresult, hlisteners, hnew⟩ := connectionValue_eq_ok hstep
    refine ⟨hresult ▸ hall.snoc hc, ?_, ?_⟩
    · rw [hlisteners, hresult, filterMap_append, hkeys]
      cases hkey : listenerKeyOf native c <;> simp [hkey]
    · rw [hlisteners]
      cases hkey : listenerKeyOf native c with
      | none => exact hnodup
      | some key => exact nodup_cons.2 ⟨hnew key hkey, hnodup⟩

theorem getPort_eq_ok {side : String} {e : Endpoint} {port : PortType}
    (h : getPort graph catalog path side e = .ok port) :
    graph.nodes.contains e.node = true ∧ portOf graph catalog e = some port := by
  obtain ⟨hnode, h⟩ := bind_unit_eq_ok.1 h
  obtain ⟨type, htype, h⟩ := bind_eq_ok.1 h
  rw [at?_eq_ok] at htype
  split at h
  · cases h
  · next hport =>
    cases h
    exact ⟨require_eq_ok.1 hnode, by simp [portOf, htype, hport]⟩

theorem ConnectionResolved.nodes_known {ordinal : ℕ}
    (h : ConnectionResolved graph catalog attachments portable native entry ordinal c) :
    c.source.node ∈ graph.nodes.keys ∧ c.target.node ∈ graph.nodes.keys := by
  obtain ⟨out, input, hout, hinput, -⟩ := h.ports
  have hmem : ∀ id, graph.nodes.contains id = true → id ∈ graph.nodes.keys := by
    intro id hid
    obtain ⟨node, hnode⟩ := Table.contains_iff.1 hid
    exact mem_map.2 ⟨(id, node), hnode, rfl⟩
  exact ⟨h.source ▸ hmem _ (getPort_eq_ok hout).1, h.target ▸ hmem _ (getPort_eq_ok hinput).1⟩

/-! ## Settings -/

/-- The three ways in which settings resolve. -/
theorem resolveSettings_cases {input : PortType} {ordinal : ℕ} {destination : String}
    {settings : ResolvedSettings}
    (h : resolveSettings graph path connection input ordinal destination = .ok settings) :
    (connection.transport = .sharedMemory ∧ ∃ s, settings = .sharedMemory s ∧
        sharedMemorySettings graph path connection = .ok s) ∨
      (connection.transport = .tcp ∧ ∃ s, settings = .tcp s ∧
        tcpSettings path input ordinal destination connection.settings = .ok s) ∨
      (connection.transport = .udp ∧
        settings = .udp (udpSettings input ordinal destination connection.settings)) := by
  unfold resolveSettings at h
  split at h
  · next htransport =>
    obtain ⟨s, hs, h⟩ := bind_eq_ok.1 h
    cases h
    exact .inl ⟨htransport, s, rfl, hs⟩
  · next htransport =>
    obtain ⟨s, hs, h⟩ := bind_eq_ok.1 h
    cases h
    exact .inr (.inl ⟨htransport, s, rfl, hs⟩)
  · next htransport =>
    cases h
    exact .inr (.inr ⟨htransport, rfl⟩)

theorem requireSetting_eq_ok {α : Type} {key : String} {value : Option α} {a : α} :
    requireSetting path key value = .ok a ↔ value = some a := by
  cases value <;> simp [requireSetting]

theorem sharedMemorySettings_eq_ok {s : SharedMemorySettings}
    (h : sharedMemorySettings graph path connection = .ok s) :
    sharesIpcDomain graph connection = true ∧ connection.settings.segment = some s.segment ∧
      connection.settings.capacity = some s.capacity ∧
      connection.settings.maxMessageBytes = some s.maxMessageBytes ∧
      connection.settings.connectTimeoutMs = some s.connectTimeoutMs ∧
      connection.settings.sendTimeoutMs = some s.sendTimeoutMs ∧
      connection.settings.backpressure = some s.backpressure := by
  simp only [sharedMemorySettings, bind_eq_ok] at h
  obtain ⟨_, hdomain, segment, hsegment, capacity, hcapacity, bytes, hbytes, connect, hconnect,
    send, hsend, backpressure, hbackpressure, h⟩ := h
  cases h
  rw [requireSetting_eq_ok] at hsegment hcapacity hbytes hconnect hsend hbackpressure
  exact ⟨require_eq_ok.1 hdomain, hsegment, hcapacity, hbytes, hconnect, hsend, hbackpressure⟩

theorem checkSettings_eq_ok {input : PortType} (h : checkSettings path connection input = .ok ()) :
    (∀ key ∈ connection.settings.fields, key ∈ connection.transport.fields) ∧
      connection.settings.host.all isHostname = true ∧
      connection.settings.bind.all isHostname = true ∧
      connection.settings.destination.all isHostname = true ∧
      connection.settings.interface.all isHostname = true ∧
      checkSegment path connection = .ok () ∧
      connection.settings.framing.all (· = framingOf input.encoding) = true ∧
      connection.security.all (fun security =>
        security.profile = .none || connection.transport = .tcp) = true := by
  simp only [checkSettings, bind_eq_ok] at h
  obtain ⟨_, hfields, _, hhost, _, hbind, _, hdestination, _, hinterface, _, hsegment, _,
    hframing, h⟩ := h
  refine ⟨fun key hkey => ?_, require_eq_ok.1 hhost, require_eq_ok.1 hbind,
    require_eq_ok.1 hdestination, require_eq_ok.1 hinterface, hsegment, require_eq_ok.1 hframing,
    require_eq_ok.1 h⟩
  simpa using forM_eq_ok.1 hfields key hkey

/-! ## Cycles -/

/-- A connection leads from one node to the other. -/
def Connected (graph : Graph) (a b : Ident) : Prop :=
  ∃ entry ∈ graph.connections.entries, entry.2.source.node = a ∧ entry.2.target.node = b

/-- A node can be reached along directed connections. -/
def CanReach (graph : Graph) (a b : Ident) : Prop := Relation.ReflTransGen (Connected graph) a b

section cycles
variable {result : List ResolvedConnection}
  (hall : AllResolved graph catalog attachments portable native graph.connections.entries result)
include hall

theorem mem_adjacency_iff {a b : Ident} : b ∈ adjacency result a ↔ Connected graph a b := by
  simp only [adjacency, mem_map, mem_filter, decide_eq_true_eq]
  constructor
  · rintro ⟨c, ⟨hc, rfl⟩, rfl⟩
    obtain ⟨entry, hentry, ordinal, hresolved⟩ := hall.of_mem hc
    exact ⟨entry, hentry, by rw [hresolved.source], by rw [hresolved.target]⟩
  · rintro ⟨entry, hentry, rfl, rfl⟩
    obtain ⟨c, hc, ordinal, hresolved⟩ := hall.of_entry hentry
    exact ⟨c, ⟨hc, by rw [hresolved.source]⟩, by rw [hresolved.target]⟩

theorem reaches_iff {a b : Ident} : Reach.Reaches (adjacency result) a b ↔ CanReach graph a b := by
  have hstep : (fun x y => y ∈ adjacency result x) = Connected graph := by
    funext x y
    exact propext (mem_adjacency_iff hall)
  rw [Reach.Reaches, CanReach, hstep]

/-- **The search of a connection ends, visits no node twice, and finds the source iff
    the target can reach it.** -/
theorem cycleSearch_spec {edge : ResolvedConnection} (hedge : edge ∈ result) :
    ∃ found seen, cycleSearch graph result edge = some (found, seen) ∧ seen.Nodup ∧
      (found = true ↔ CanReach graph edge.target.node edge.source.node) := by
  have hclosed : ∀ a ∈ graph.nodes.keys.toFinset, ∀ b ∈ adjacency result a,
      b ∈ graph.nodes.keys.toFinset := by
    intro a _ b hb
    obtain ⟨c, hc, rfl⟩ := mem_map.1 hb
    obtain ⟨entry, -, ordinal, hresolved⟩ := hall.of_mem (mem_filter.1 hc).1
    exact mem_toFinset.2 hresolved.nodes_known.2
  have hfuel : (graph.nodes.keys.toFinset.filter (· ∉ ([] : List Ident))).card <
      graph.nodes.entries.length + 1 := by
    have hcard : graph.nodes.keys.toFinset.card ≤ graph.nodes.keys.length := toFinset_card_le _
    have hlength : graph.nodes.keys.length = graph.nodes.entries.length := length_map ..
    have := Finset.card_filter_le graph.nodes.keys.toFinset (· ∉ ([] : List Ident))
    omega
  obtain ⟨entry, -, ordinal, hresolved⟩ := hall.of_mem hedge
  obtain ⟨⟨found, seen⟩, hsearch⟩ := Reach.search_total edge.source.node hclosed
    (mem_toFinset.2 hresolved.nodes_known.2) (by simp) hfuel
  refine ⟨found, seen, hsearch, Reach.search_nodup hsearch nodup_nil, ?_⟩
  rw [Reach.search_true_iff hsearch, reaches_iff hall]

theorem checkCycle_ok_iff {edge : ResolvedConnection} (hedge : edge ∈ result) :
    checkCycle graph catalog result edge = .ok () ↔
      (CanReach graph edge.target.node edge.source.node →
        supportsFeedback graph catalog edge.source = true ∧
          supportsFeedback graph catalog edge.target = true) := by
  obtain ⟨found, seen, hsearch, -, hfound⟩ := cycleSearch_spec hall hedge
  rw [checkCycle, ← hfound, hsearch]
  cases found <;> simp

end cycles

/-- The error of the cycle check, at a connection. -/
def feedbackError (id : Ident) : Failure :=
  .reject "E_FEEDBACK_UNSUPPORTED" ("connections." ++ id.text)
    "cycle requires feedback capability on every participating port"

/-- **The cycle check.**  Given that the earlier checks pass, loading fails at a
    connection that lacks feedback iff there is a connection in a cycle that does,
    and succeeds otherwise; the search for each connection ends and visits no node
    twice. -/
theorem connectionValues_feedback_iff {result : List ResolvedConnection}
    (h : earlierChecks graph catalog attachments portable native = .ok result) :
    ((∃ id, connectionValues graph catalog attachments portable native = .error (feedbackError id)) ↔
      ∃ entry ∈ graph.connections.entries,
        CanReach graph entry.2.target.node entry.2.source.node ∧
          ¬(supportsFeedback graph catalog entry.2.source = true ∧
            supportsFeedback graph catalog entry.2.target = true)) ∧
    ((¬∃ id, connectionValues graph catalog attachments portable native = .error (feedbackError id)) →
      connectionValues graph catalog attachments portable native = .ok result) ∧
    ∀ edge ∈ result, ∃ found seen, cycleSearch graph result edge = some (found, seen) ∧ seen.Nodup ∧
      (found = true ↔ CanReach graph edge.target.node edge.source.node) := by
  have hall := (earlierChecks_resolved h).1
  have hvalues : connectionValues graph catalog attachments portable native =
      (result.forM (checkCycle graph catalog result) >>= fun _ => .ok result) := by
    rw [connectionValues, h]
    rfl
  -- The loop succeeds, or fails at a connection with the error of the check.
  have hloop : result.forM (checkCycle graph catalog result) = .ok () ∨
      ∃ edge ∈ result, result.forM (checkCycle graph catalog result) = .error (feedbackError edge.id) ∧
        checkCycle graph catalog result edge ≠ .ok () := by
    cases hforM : result.forM (checkCycle graph catalog result) with
    | ok u => exact .inl rfl
    | error e =>
      obtain ⟨edge, hedge, herror⟩ := forM_error hforM
      refine .inr ⟨edge, hedge, ?_, by simp [herror]⟩
      unfold checkCycle require ensure at herror
      split_ifs at herror
      cases herror
      rfl
  have hfails : (∃ id, connectionValues graph catalog attachments portable native =
      .error (feedbackError id)) ↔ ∃ edge ∈ result, checkCycle graph catalog result edge ≠ .ok () := by
    constructor
    · rintro ⟨id, herror⟩
      rcases hloop with hok | ⟨edge, hedge, -, hne⟩
      · rw [hvalues, hok] at herror
        cases herror
      · exact ⟨edge, hedge, hne⟩
    · rintro ⟨edge, hedge, hne⟩
      rcases hloop with hok | ⟨edge', -, herror, -⟩
      · exact absurd (forM_eq_ok.1 hok edge hedge) hne
      · exact ⟨edge'.id, by rw [hvalues, herror]; rfl⟩
  refine ⟨hfails.trans ⟨?_, ?_⟩, ?_, fun edge hedge => cycleSearch_spec hall hedge⟩
  · rintro ⟨edge, hedge, hne⟩
    rw [ne_eq, checkCycle_ok_iff hall hedge, Classical.not_imp] at hne
    obtain ⟨entry, hentry, ordinal, hresolved⟩ := hall.of_mem hedge
    rw [hresolved.source, hresolved.target] at hne
    exact ⟨entry, hentry, hne⟩
  · rintro ⟨entry, hentry, hreach, hports⟩
    obtain ⟨edge, hedge, ordinal, hresolved⟩ := hall.of_entry hentry
    refine ⟨edge, hedge, ?_⟩
    rw [ne_eq, checkCycle_ok_iff hall hedge, Classical.not_imp, hresolved.source, hresolved.target]
    exact ⟨hreach, hports⟩
  · intro hnone
    rcases hloop with hok | ⟨edge, hedge, -, hne⟩
    · rw [hvalues, hok]
      rfl
    · exact absurd (hfails.2 ⟨edge, hedge, hne⟩) hnone

end

/-- A digest of the right length, for runs on given inputs. -/
def sampleEnvironment : Environment where
  sha256 _ := "0000000000000000000000000000000000000000000000000000000000000000"

namespace SharedNamespace

def left : Ident := ⟨"left", .refl true⟩
def right : Ident := ⟨"right", .refl true⟩
def lan : Ident := ⟨"lan", .refl true⟩
def bridge : Ident := ⟨"bridge", .refl true⟩
def tcpOut : Ident := ⟨"tcp_out", .refl true⟩
def tcpIn : Ident := ⟨"tcp_in", .refl true⟩
def udpOut : Ident := ⟨"udp_out", .refl true⟩
def udpIn : Ident := ⟨"udp_in", .refl true⟩

/-- A peer that runs in the namespace of `left`. -/
def peer : Node where
  type := "diagnostic.peer"
  execution := { kind := .namespace, namespaceName := some left }

def link (source target : Endpoint) (transport : Transport) (port : Within 1 65535) : Connection where
  source := source
  target := target
  transport := transport
  settings := { port := some port }
  attachments := some ⟨lan, lan⟩

/-- Two peers in one namespace, connected in both directions, with one port for both
    TCP listeners. -/
def graph : Graph where
  id := ⟨"pair", .refl true⟩
  nodes := .ofList [(left, peer), (right, peer)] rfl
  connections := .ofList
    [(⟨"tcp-a", .refl true⟩, link ⟨left, tcpOut⟩ ⟨right, tcpIn⟩ .tcp ⟨7000, .refl true⟩),
      (⟨"tcp-b", .refl true⟩, link ⟨right, tcpOut⟩ ⟨left, tcpIn⟩ .tcp ⟨7000, .refl true⟩),
      (⟨"udp-a", .refl true⟩, link ⟨left, udpOut⟩ ⟨right, udpIn⟩ .udp ⟨7001, .refl true⟩),
      (⟨"udp-b", .refl true⟩, link ⟨right, udpOut⟩ ⟨left, udpIn⟩ .udp ⟨7002, .refl true⟩)] rfl
  network := some
    { networks := [{ id := lan, profile := .ethernet, subnets := ["10.0.0.0/24"] }]
      switches := [{ id := bridge, ports := [] }]
      attachments := [{ id := "lan", kind := .namespaceVeth, owner := left, network := some lan
                        address := some "10.0.0.2/24", networkSwitch := some bridge }] }

/-- The same, with the listeners of `left` at port 7003. -/
def apart : Graph :=
  { graph with connections := graph.connections.map fun _ c =>
      if c.target.node = left then { c with settings := { port := some ⟨7003, .refl true⟩ } } else c }

/-- The attachments of the expanded network. -/
def attachments : List ResolvedAttachment :=
  match networkValue sampleEnvironment graph.id graph.nodes graph.network with
  | .ok net => net.attachments
  | .error _ => []

end SharedNamespace

open SharedNamespace in
set_option maxRecDepth 4000 in
/-- The peers are in a cycle, and their ports have feedback. -/
theorem connectionValues_feedback_peers :
    ∃ result, earlierChecks graph shippedCatalog attachments none false = .ok result ∧
      ((∃ id, connectionValues graph shippedCatalog attachments none false =
          .error (feedbackError id)) ↔
        ∃ entry ∈ graph.connections.entries,
          CanReach graph entry.2.target.node entry.2.source.node ∧
            ¬(supportsFeedback graph shippedCatalog entry.2.source = true ∧
              supportsFeedback graph shippedCatalog entry.2.target = true)) :=
  ⟨_, rfl, (connectionValues_feedback_iff (show earlierChecks graph shippedCatalog attachments none
    false = .ok _ from rfl)).1⟩

variable {env : Environment} {catalog : Catalog} {graph : Graph} {config : GraphConfig}
  {target : String}

/-! ## The connections of an accepted graph -/

theorem connectionValues_earlier {attachments : List ResolvedAttachment}
    {portable : Option PortableNetwork} {native : Bool} {result : List ResolvedConnection}
    (h : connectionValues graph catalog attachments portable native = .ok result) :
    earlierChecks graph catalog attachments portable native = .ok result := by
  obtain ⟨earlier, hearlier, h⟩ := bind_eq_ok.1 h
  obtain ⟨-, h⟩ := bind_unit_eq_ok.1 h
  cases h
  exact hearlier

theorem Accepted.resolved (h : Accepted env catalog target config) :
    AllResolved config.authored catalog config.network.attachments config.portableNetwork
      (isNative config.authored) config.authored.connections.entries config.connections :=
  (earlierChecks_resolved (connectionValues_earlier h.connections)).1

theorem AllResolved.ids {attachments : List ResolvedAttachment}
    {portable : Option PortableNetwork} {native : Bool} {entries : List (Ident × Connection)}
    {result : List ResolvedConnection}
    (h : AllResolved graph catalog attachments portable native entries result) :
    result.map (·.id) = entries.map (·.1) := by
  have hids : List.Forall₂ (fun (entry : (Ident × Connection) × ℕ) c => entry.1.1 = c.id)
      entries.zipIdx result := h.imp fun _ _ hresolved => hresolved.id.symm
  have := forall₂_eq_eq_eq ▸ forall₂_map_left_iff.2 (forall₂_map_right_iff.2 hids)
  calc result.map (·.id)
      = entries.zipIdx.map fun entry => entry.1.1 := this.symm
    _ = (entries.zipIdx.map (·.1)).map (·.1) := (map_map ..).symm
    _ = entries.map (·.1) := by rw [zipIdx_map_fst]

theorem Accepted.eq_of_id (h : Accepted env catalog target config) {c c' : ResolvedConnection}
    (hc : c ∈ config.connections) (hc' : c' ∈ config.connections) (hid : c.id = c'.id) :
    c = c' := by
  refine inj_on_of_nodup_map (f := (·.id)) ?_ hc hc' hid
  rw [h.resolved.ids]
  exact config.authored.connections.keys_nodup

theorem Accepted.eq_of_listenerKey (h : Accepted env catalog target config)
    {c c' : ResolvedConnection} (hc : c ∈ config.connections) (hc' : c' ∈ config.connections)
    {key : String} (hkey : listenerKeyOf (isNative config.authored) c = some key)
    (hkey' : listenerKeyOf (isNative config.authored) c' = some key) : c = c' :=
  eq_of_filterMap_nodup (earlierChecks_resolved (connectionValues_earlier h.connections)).2
    hc hc' hkey hkey'

end GraphX.Config
