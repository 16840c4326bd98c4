/-
  What cleanup finds and checks before its first command.

  The predicates `*Matches` say when an observed resource is the recorded one: the
  same identity, and the markers of its owner.  `Matched` says it of every recorded
  resource that still exists, `Targets` of the resource that a command changes.
-/
import GraphX.Cleanup
import GraphX.Lib.Triple

namespace GraphX

open Check Imperative Imperative.Act Site List

/-! ## Identities -/

section matches_
variable (w : World) (state : OwnershipState)

structure BridgeMatches (item : OwnedResourceIdentity) : Prop where
  uuid : w.ovsGet .bridge item.name .uuid = item.stableId
  internalPort : w.ovsGet .port item.name .uuid = item.secondaryId
  owner : w.ovsGet .bridge item.name (.externalId .owner) = state.ownerToken
  configHash : w.ovsGet .bridge item.name (.externalId .configHash) = state.configHash
  graph : w.ovsGet .bridge item.name (.externalId .graph) = state.graphId

structure LinkMatches (item : OwnedResourceIdentity) : Prop where
  ifindex : w.linkIfindex item.name = item.ifindex
  marker : w.linkAlias item.name = endpointAlias state item.attachmentId "host"

/-- The user and the group of a TAP are those that its record names. -/
def TapMatches (item : OwnedResourceIdentity) : Prop :=
  ∃ details user group, (w.links item.name).bind (·.tuntap) = some details ∧
    wordAfter "user" (words details) = some user ∧ wordAfter "group" (words details) = some group ∧
    item.tapOwner = user ++ ":" ++ group

/-- The four markers of a row. -/
structure RowMarked (table : OvsTable) (record id : String) : Prop where
  uuid : w.ovsGet table record .uuid = record
  owner : w.ovsGet table record (.externalId .owner) = state.ownerToken
  attachment : w.ovsGet table record (.externalId .attachment) = id
  configHash : w.ovsGet table record (.externalId .configHash) = state.configHash
  graph : w.ovsGet table record (.externalId .graph) = state.graphId

def PortMatches (item : OwnedResourceIdentity) : Prop :=
  RowMarked w state .port item.stableId item.attachmentId ∧
    RowMarked w state .interface item.secondaryId item.attachmentId

def MirrorMatches (item : OwnedResourceIdentity) : Prop :=
  RowMarked w state .mirror item.routeIdentity item.attachmentId

/-- The alias of a namespace's loopback link. -/
def NamespaceMarked (item : OwnedResourceIdentity) : Prop :=
  ∃ text, (w.namespaces item.name).bind (·.loopback) = some text ∧
    wordAfter "alias" (words text) = some (namespaceAlias state item.name)

structure NamespaceMatches (item : OwnedResourceIdentity) : Prop where
  inode : w.namespaceInode item.name = item.namespaceInode
  marker : NamespaceMarked w state item
  policy : item.ruleIdentity = "" ∨ w.namespacePolicy item.name = .ok item.ruleIdentity

structure DirectoryMatches (capture : OwnedCapture) (d : Directory) : Prop where
  isDirectory : d.isDirectory = true
  device : d.device = capture.directoryDevice
  inode : d.inode = capture.directoryInode
  uid : d.uid = capture.directoryUid
  gid : d.gid = capture.directoryGid

structure ProcessMatches (pid : UInt32) (startTime : String) : Prop where
  startTime_ne : startTime ≠ ""
  startTime : w.processStartTime pid = startTime

def CaptureProcessMatches (capture : OwnedCapture) : Prop :=
  ProcessMatches w capture.pid capture.processStartTime ∧
    contains (w.processCommand capture.pid) capture.sessionDirectory = true

def TimerMatches (fault : OwnedFault) : Prop :=
  ProcessMatches w fault.timerPid fault.timerStartTime ∧ w.processName fault.timerPid = "graphx-fault"

structure QdiscMatches (fault : OwnedFault) : Prop where
  ifindex : w.linkIfindex fault.interface = some fault.ifindex
  qdisc : w.qdiscState fault.interface = fault.qdiscIdentity

/-- A recorded endpoint is a TAP. -/
def IsTap (item : OwnedResourceIdentity) : Prop :=
  ∃ expected, state.expectedEndpoint? item.attachmentId = some expected ∧ expected.kind = .qemuTap

/-- Every recorded resource that exists is the one that was recorded. -/
structure Matched : Prop where
  bridges : ∀ item ∈ state.bridges, w.bridgeExists item.name = true → BridgeMatches w state item
  links : ∀ item ∈ state.endpoints, (w.linkIfindex item.name).isSome → LinkMatches w state item
  taps : ∀ item ∈ state.endpoints, IsTap state item → (w.linkIfindex item.name).isSome →
    TapMatches w item
  ports : ∀ item ∈ state.endpoints, w.ovsGet .port item.stableId .uuid ≠ "" →
    PortMatches w state item
  mirrors : ∀ item ∈ state.endpoints, item.routeIdentity ≠ "" →
    w.ovsGet .mirror item.routeIdentity .uuid ≠ "" → MirrorMatches w state item
  namespaces : ∀ item ∈ state.namespaces, (w.namespaceInode item.name).isSome →
    NamespaceMatches w state item
  directories : ∀ item ∈ state.captures, ∀ d, w.directories item.sessionDirectory = some d →
    DirectoryMatches item d
  processes : ∀ item ∈ state.captures, w.processStartTime item.pid ≠ "" →
    CaptureProcessMatches w item
  faults : ∀ item ∈ state.faults, w.linkIfindex item.interface = some item.ifindex ∧
    (contains (w.qdiscState item.interface) "netem" = true →
      TimerMatches w item ∧ QdiscMatches w item)

/-- The two markers that the code looks for as a part of a text. -/
structure ExactMarkers : Prop where
  taps : ∀ item ∈ state.endpoints, IsTap state item → (w.linkIfindex item.name).isSome →
    TapMatches w item
  namespaces : ∀ item ∈ state.namespaces, (w.namespaceInode item.name).isSome →
    NamespaceMarked w state item

end matches_

/-- The resource that a command changes is the one in the ledger. -/
def Targets (e : Event) : Prop :=
  match e.command with
  | .destroyMirror _ mirror _ => ∃ item ∈ e.ledger.endpoints, item.routeIdentity = mirror ∧
      MirrorMatches e.world e.ledger item
  | .destroyPort _ port interface _ => ∃ item ∈ e.ledger.endpoints, item.stableId = port ∧
      item.secondaryId = interface ∧ PortMatches e.world e.ledger item
  | .destroyBridge bridge _ _ => ∃ item ∈ e.ledger.bridges, item.stableId = bridge ∧
      BridgeMatches e.world e.ledger item
  | .deleteTap name => ∃ item ∈ e.ledger.endpoints, item.name = name ∧
      LinkMatches e.world e.ledger item ∧ TapMatches e.world item
  | .deleteLink name => ∃ item ∈ e.ledger.endpoints, item.name = name ∧
      LinkMatches e.world e.ledger item
  | .deleteNamespace name => ∃ item ∈ e.ledger.namespaces, item.name = name ∧
      NamespaceMatches e.world e.ledger item
  | .deleteQdisc interface => ∃ item ∈ e.ledger.faults, item.interface = interface ∧
      QdiscMatches e.world item
  | .signal pid _ => (∃ item ∈ e.ledger.faults, item.timerPid = pid ∧ TimerMatches e.world item) ∨
      ∃ item ∈ e.ledger.captures, item.pid = pid ∧ CaptureProcessMatches e.world item
  | .sealFile directory _ | .sealDirectory directory => ∃ item ∈ e.ledger.captures,
      item.sessionDirectory = directory ∧
        ∀ d, e.world.directories directory = some d → DirectoryMatches item d

/-! ## The checks -/

section checks
variable {w : World} {config : GraphConfig} {state : OwnershipState}

theorem require_ok {b : Bool} {what : String} : require b what = .ok () ↔ b = true := by
  cases b <;> simp [require]

theorem identities_of_matches {expected observed : OwnedResourceIdentity}
    (h : stableIdentityMatches expected observed = true) :
    expected.stableId = observed.stableId ∧ expected.secondaryId = observed.secondaryId := by
  simp only [stableIdentityMatches, Bool.and_eq_true, decide_eq_true_eq] at h
  tauto

variable {item : OwnedResourceIdentity}

theorem bridgeMatches_of_owned (h : bridgeOwned w state item = true) :
    BridgeMatches w state item := by
  simp only [bridgeOwned, bridgeMarked, Bool.and_eq_true, decide_eq_true_eq] at h
  obtain ⟨⟨-, hsame⟩, ⟨howner, hhash⟩, hgraph⟩ := h
  obtain ⟨huuid, hport⟩ := identities_of_matches hsame
  exact ⟨huuid.symm, hport.symm, howner, hhash, hgraph⟩

theorem linkMatches_of_owned (h : hostEndpointOwned w state item = true) :
    LinkMatches w state item := by
  unfold hostEndpointOwned at h
  cases hindex : w.linkIfindex item.name with
  | none => simp [hindex] at h
  | some observed =>
    simp only [hindex, Bool.and_eq_true, decide_eq_true_eq] at h
    exact ⟨hindex.trans h.1.symm, h.2⟩

variable {table : OvsTable}

theorem rowMarked_of_marked {uuid attachment : String} (hrow : w.ovsGet table uuid .uuid = uuid)
    (h : endpointMarked w state table uuid attachment = true) :
    RowMarked w state table uuid attachment := by
  simp only [endpointMarked, Bool.and_eq_true, decide_eq_true_eq] at h
  exact ⟨hrow, h.1.1.1, h.1.1.2, h.1.2, h.2⟩

theorem portMatches_of_owned (h : ovsEndpointOwned w state item = true) :
    PortMatches w state item := by
  simp only [ovsEndpointOwned, Bool.and_eq_true, decide_eq_true_eq] at h
  exact ⟨rowMarked_of_marked h.1.1.1 h.1.2, rowMarked_of_marked h.1.1.2 h.2⟩

theorem row_of_find {p : OvsRow → Bool} {uuid : String} {r : OvsRow}
    (hfind : w.ovsFind table p = [uuid]) (hrow : w.row table uuid = some r)
    (huuid : r.uuid = uuid) :
    p r = true := by
  have hmem : uuid ∈ w.ovsFind table p := by simp [hfind]
  obtain ⟨q, hq, hqid⟩ := mem_map.1 hmem
  obtain ⟨hqmem, hp⟩ := mem_filter.1 hq
  have hsame := inj_on_of_nodup_map (w.ovs table).nodup hqmem (mem_of_find?_eq_some hrow)
    (hqid.trans huuid.symm)
  exact hsame ▸ hp

theorem ovsGet_of_row {record : String} {column : OvsColumn} {r : OvsRow} {value : String}
    (hanswers : w.ovsAnswers = true) (hrow : w.row table record = some r)
    (hvalue : r.get column = some value) : w.ovsGet table record column = value := by
  simp [World.ovsGet, hanswers, hrow, hvalue]

theorem mirrorMatches_of_owned (h : mirrorAbsentOrOwned w state item = true)
    (hne : item.routeIdentity ≠ "") (hexists : w.ovsGet .mirror item.routeIdentity .uuid ≠ "") :
    MirrorMatches w state item := by
  have hanswers : w.ovsAnswers = true := by
    by_contra hnot
    simp [World.ovsGet, hnot] at hexists
  obtain ⟨r, hrow⟩ : ∃ r, w.row .mirror item.routeIdentity = some r := by
    cases hrow : w.row .mirror item.routeIdentity with
    | none => simp [World.ovsGet, hrow] at hexists
    | some r => exact ⟨r, rfl⟩
  simp only [mirrorAbsentOrOwned, if_neg hne, hanswers, hrow, Bool.not_true, Bool.false_eq_true,
    if_false, Option.map_some, Option.toList_some, isEmpty_cons, Bool.and_false, Bool.false_and,
    Bool.and_eq_true, decide_eq_true_eq, cons.injEq, and_true] at h
  obtain ⟨⟨⟨⟨-, huuid⟩, howned⟩, hgraph⟩, hhash⟩ := h
  have hmarked := row_of_find howned hrow huuid
  simp only [Bool.and_eq_true, decide_eq_true_eq] at hmarked
  exact ⟨ovsGet_of_row hanswers hrow (congrArg some huuid), ovsGet_of_row hanswers hrow hmarked.1,
    ovsGet_of_row hanswers hrow hmarked.2, hhash, hgraph⟩

variable {capture : OwnedCapture}

theorem directoryMatches_of_metadata {d : Directory} (h : directoryMatches capture d = true) :
    DirectoryMatches capture d := by
  simp only [directoryMatches, captureDirectoryMetadataMatches, Bool.or_eq_true, Bool.and_eq_true,
    decide_eq_true_eq] at h
  all_goals exact ⟨by tauto, by tauto, by tauto, by tauto, by tauto⟩

theorem directoryMatches_of_identity (h : directoryIdentityMatches w capture = true) {d : Directory}
    (hd : w.directories capture.sessionDirectory = some d) : DirectoryMatches capture d := by
  simp only [directoryIdentityMatches, hd] at h
  exact directoryMatches_of_metadata h

theorem captureProcess_of_owned
    (h : processOwned capture.pid capture.processStartTime capture.sessionDirectory w = true) :
    CaptureProcessMatches w capture := by
  simp only [processOwned, Bool.and_eq_true, decide_eq_true_eq] at h
  exact ⟨⟨h.1.1.2, h.1.2⟩, h.2⟩

theorem timerMatches_of_owned {fault : OwnedFault}
    (h : timerOwned fault.timerPid fault.timerStartTime w = true) : TimerMatches w fault := by
  simp only [timerOwned, Bool.and_eq_true, decide_eq_true_eq] at h
  exact ⟨⟨h.1.1.2, h.1.2⟩, h.2⟩

theorem fault_of_healthy {fault : OwnedFault} (h : faultHealthy w fault = true) :
    w.linkIfindex fault.interface = some fault.ifindex ∧
      (contains (w.qdiscState fault.interface) "netem" = true →
        timerOwned fault.timerPid fault.timerStartTime w = true ∧ QdiscMatches w fault) := by
  simp only [faultHealthy, Bool.and_eq_true, decide_eq_true_eq] at h
  obtain ⟨hindex, h⟩ := h
  refine ⟨hindex, fun hnetem => ?_⟩
  split_ifs at h with htimer
  · exact ⟨htimer, hindex, by simpa using h⟩
  · simp [hnetem] at h

/-- What `refuseEndpoint` has checked when it does not throw. -/
theorem refuseEndpoint_ok (h : refuseEndpoint w config state item = .ok ()) :
    ((w.linkIfindex item.name).isSome → hostEndpointOwned w state item = true) ∧
      (w.ovsGet .port item.stableId .uuid ≠ "" → ovsEndpointOwned w state item = true) ∧
      mirrorAbsentOrOwned w state item = true := by
  simp only [refuseEndpoint, bind_unit_eq_ok, require_ok, Bool.or_eq_true, decide_eq_true_eq] at h
  obtain ⟨hlink, hport, -, hmirror, -⟩ := h
  refine ⟨fun hsome => hlink.resolve_left ?_, hport.resolve_left, hmirror⟩
  simpa [Option.isSome_iff_ne_none] using hsome

theorem expectedEndpoint_ok {id : String} {expected : ExpectedEndpoint} :
    state.expectedEndpoint id = .ok expected ↔ state.expectedEndpoint? id = some expected := by
  unfold OwnershipState.expectedEndpoint
  cases state.expectedEndpoint? id <;> simp

theorem endpointDeletable_ok {bridge : OwnedResourceIdentity} {expected : ExpectedEndpoint}
    (h : endpointDeletable w config state item = .ok (some (expected, bridge))) :
    state.expectedEndpoint? item.attachmentId = some expected ∧
      mirrorAbsentOrOwned w state item = true := by
  obtain ⟨definition, hdefinition, h⟩ := bind_eq_ok.1 h
  obtain ⟨paired, -, h⟩ := bind_eq_ok.1 h
  split_ifs at h with hall
  · simp only [Bool.and_eq_true] at hall
    obtain ⟨_, -, hpair⟩ := Option.map_eq_some_iff.1 (Except.ok.inj h)
    cases hpair
    exact ⟨expectedEndpoint_ok.1 hdefinition, hall.2⟩
  · cases h

theorem refuseNamespace_ok (h : refuseNamespace w state item = .ok ())
    (hexists : (w.namespaceInode item.name).isSome) : namespaceOwned w state item = true ∧
      (item.ruleIdentity = "" ∨ w.namespacePolicy item.name = .ok item.ruleIdentity) := by
  simp only [refuseNamespace, hexists, if_true, bind_unit_eq_ok, require_ok] at h
  obtain ⟨howned, hpolicy⟩ := h
  refine ⟨howned, ?_⟩
  split_ifs at hpolicy with hrule
  · obtain ⟨observed, hobserved, hsame⟩ := bind_eq_ok.1 hpolicy
    right
    rw [hobserved, of_decide_eq_true (require_ok.1 hsame)]
  · exact .inl (not_not.1 hrule)

theorem refuseCapture_ok {item : OwnedCapture} (h : refuseCapture w item = .ok ()) :
    directoryIdentityMatches w item = true ∧ (w.processStartTime item.pid ≠ "" →
      processOwned item.pid item.processStartTime item.sessionDirectory w = true) := by
  simp only [refuseCapture, bind_unit_eq_ok, require_ok, Bool.or_eq_true, decide_eq_true_eq] at h
  obtain ⟨hdirectory, hprocess⟩ := h
  exact ⟨hdirectory, hprocess.resolve_left⟩

/-- What the checks have found when cleanup is not refused. -/
structure Checked (w : World) (config : GraphConfig) (state : OwnershipState) : Prop where
  bridges : ∀ item ∈ state.bridges, refuseBridge w state item = .ok ()
  endpoints : ∀ item ∈ state.endpoints, refuseEndpoint w config state item = .ok ()
  namespaces : ∀ item ∈ state.namespaces, refuseNamespace w state item = .ok ()
  captures : ∀ item ∈ state.captures, refuseCapture w item = .ok ()
  faults : ∀ item ∈ state.faults, faultHealthy w item = true

theorem checked_of_refuse (h : refuseReplaced w config state = .ok ()) : Checked w config state := by
  simp only [refuseReplaced, bind_unit_eq_ok, forM_eq_ok] at h
  obtain ⟨hbridges, hendpoints, hnamespaces, hcaptures, hfaults, -⟩ := h
  exact ⟨hbridges, hendpoints, hnamespaces, hcaptures, fun f hf => require_ok.1 (hfaults f hf)⟩

theorem expectedPorts_status (status : String) (bridge : OwnedResourceIdentity)
    (l : List OwnedResourceIdentity) :
    expectedPorts w { state with status } bridge l = expectedPorts w state bridge l := by
  induction l with
  | nil => rfl
  | cons endpoint rest ih => simp only [expectedPorts, ih]; rfl

theorem Checked.status (h : Checked w config state) (status : String) :
    Checked w config { state with status } where
  bridges item hitem := by
    have hb := h.bridges item hitem
    unfold refuseBridge bridgeCompleteSetOwned at hb ⊢
    rw [expectedPorts_status]
    exact hb
  endpoints := h.endpoints
  namespaces := h.namespaces
  captures := h.captures
  faults := h.faults

theorem namespaceMatches_of_owned (h : namespaceOwned w state item = true)
    (hmarked : NamespaceMarked w state item)
    (hpolicy : item.ruleIdentity = "" ∨ w.namespacePolicy item.name = .ok item.ruleIdentity) :
    NamespaceMatches w state item := by
  unfold namespaceOwned at h
  cases hinode : w.namespaceInode item.name with
  | none => simp [hinode] at h
  | some inode =>
    simp only [hinode, Bool.and_eq_true, decide_eq_true_eq] at h
    exact ⟨hinode.trans h.1.symm, hmarked, hpolicy⟩

/-- **The checks establish that everything is as recorded**, but for the two
    markers. -/
theorem Checked.matched (h : Checked w config state) (hexact : ExactMarkers w state) :
    Matched w state where
  bridges item hitem hexists := by
    have hb := require_ok.1 (h.bridges item hitem)
    simp only [hexists, Bool.not_true, Bool.false_or, bridgeCompleteSetOwned, Bool.and_eq_true] at hb
    exact bridgeMatches_of_owned hb.1
  links item hitem hexists :=
    linkMatches_of_owned ((refuseEndpoint_ok (h.endpoints item hitem)).1 hexists)
  taps := hexact.taps
  ports item hitem hexists :=
    portMatches_of_owned ((refuseEndpoint_ok (h.endpoints item hitem)).2.1 hexists)
  mirrors item hitem hne hexists :=
    mirrorMatches_of_owned (refuseEndpoint_ok (h.endpoints item hitem)).2.2 hne hexists
  namespaces item hitem hexists := by
    obtain ⟨howned, hpolicy⟩ := refuseNamespace_ok (h.namespaces item hitem) hexists
    exact namespaceMatches_of_owned howned (hexact.namespaces item hitem hexists) hpolicy
  directories item hitem _ hd :=
    directoryMatches_of_identity (refuseCapture_ok (h.captures item hitem)).1 hd
  processes item hitem hexists :=
    captureProcess_of_owned ((refuseCapture_ok (h.captures item hitem)).2 hexists)
  faults item hitem := by
    obtain ⟨hindex, hnetem⟩ := fault_of_healthy (h.faults item hitem)
    exact ⟨hindex, fun hn => ⟨timerMatches_of_owned (hnetem hn).1, (hnetem hn).2⟩⟩

end checks

/-! ## Discovery -/

/-- The records that discovery adds come behind those that were there. -/
structure Extends (state found : OwnershipState) : Prop where
  graphId : found.graphId = state.graphId
  configHash : found.configHash = state.configHash
  ownerToken : found.ownerToken = state.ownerToken
  bridges : state.bridges <+: found.bridges
  endpoints : state.endpoints <+: found.endpoints
  namespaces : state.namespaces <+: found.namespaces
  captures : found.captures = state.captures
  faults : found.faults = state.faults
  actions : found.actions = state.actions
  kinds : ∀ id, (found.expectedEndpoint? id).map (·.kind) = (state.expectedEndpoint? id).map (·.kind)

theorem Extends.refl (state : OwnershipState) : Extends state state :=
  ⟨rfl, rfl, rfl, prefix_rfl, prefix_rfl, prefix_rfl, rfl, rfl, rfl, fun _ => rfl⟩

theorem Extends.trans {a b c : OwnershipState} (h : Extends a b) (h' : Extends b c) :
    Extends a c where
  graphId := h'.graphId.trans h.graphId
  configHash := h'.configHash.trans h.configHash
  ownerToken := h'.ownerToken.trans h.ownerToken
  bridges := h.bridges.trans h'.bridges
  endpoints := h.endpoints.trans h'.endpoints
  namespaces := h.namespaces.trans h'.namespaces
  captures := h'.captures.trans h.captures
  faults := h'.faults.trans h.faults
  actions := h'.actions.trans h.actions
  kinds id := (h'.kinds id).trans (h.kinds id)

theorem expectedEndpoint?_map (state : OwnershipState) (f : ExpectedEndpoint → ExpectedEndpoint)
    (hid : ∀ e, (f e).id = e.id) (hkind : ∀ e, (f e).kind = e.kind) (id : String) :
    ((state.expectedEndpoints.map f).find? (·.id = id)).map (·.kind) =
      (state.expectedEndpoint? id).map (·.kind) := by
  simp only [find?_map, Function.comp_def, hid, Option.map_map, hkind]
  rfl

/-- The ledger after the resources that `found` looks for. -/
def adopted (found : World → OwnershipState → Result (Option OwnershipState)) (w : World)
    (state : OwnershipState) : Result OwnershipState :=
  (·.getD state) <$> found w state

/-- The ledger that discovery makes of `state`, as a function of the observed world. -/
def discovered (w : World) (state : OwnershipState) : Result OwnershipState := do
  let named ← state.expectedNamespaces.foldlM (fun st name => adopted (recoverNamespace name) w st)
    state
  let bridged ← named.expectedBridges.foldlM (fun st name => adopted (discoverBridge name) w st)
    named
  bridged.expectedEndpoints.foldlM (fun st expected => adopted (discoverEndpoint expected) w st)
    bridged

section discovered
variable {w : World} {state result : OwnershipState}
  {found : World → OwnershipState → Result (Option OwnershipState)}

theorem adopted_extends (hfound : ∀ next, found w state = .ok (some next) → Extends state next)
    (h : adopted found w state = .ok result) : Extends state result := by
  unfold adopted at h
  cases hnext : found w state with
  | error e => simp [hnext] at h
  | ok next =>
    rw [hnext] at h
    obtain rfl := Except.ok.inj h
    cases next with
    | none => exact .refl state
    | some next => exact hfound next hnext

theorem foldlM_extends {α : Type} {found : α → World → OwnershipState → Result (Option OwnershipState)}
    (hfound : ∀ a state next, found a w state = .ok (some next) → Extends state next) {l : List α}
    (h : l.foldlM (fun st a => adopted (found a) w st) state = .ok result) :
    Extends state result := by
  induction l generalizing state with
  | nil => exact Except.ok.inj h ▸ .refl state
  | cons a rest ih =>
    obtain ⟨next, hnext, hrest⟩ := bind_eq_ok.1 h
    exact (adopted_extends (hfound a state) hnext).trans (ih hrest)

theorem recoverNamespace_extends (name : String) (state next : OwnershipState)
    (h : recoverNamespace name w state = .ok (some next)) : Extends state next := by
  simp only [recoverNamespace] at h
  split_ifs at h
  · cases h
  split at h
  · cases h
  split_ifs at h
  · obtain rfl := Option.some.inj (Except.ok.inj h)
    refine ⟨rfl, rfl, rfl, prefix_rfl, prefix_rfl, prefix_append _ _, rfl, rfl, rfl, ?_⟩
    exact expectedEndpoint?_map _ _ (fun _ => by split <;> rfl) fun _ => by split <;> rfl

theorem discoverBridge_extends (name : String) (state next : OwnershipState)
    (h : discoverBridge name w state = .ok (some next)) : Extends state next := by
  unfold discoverBridge at h
  split_ifs at h
  · cases h
  · obtain rfl := Option.some.inj (Except.ok.inj h)
    exact ⟨rfl, rfl, rfl, prefix_append _ _, prefix_rfl, prefix_rfl, rfl, rfl, rfl, fun _ => rfl⟩

theorem discoverEndpoint_extends (expected : ExpectedEndpoint) (state next : OwnershipState)
    (h : discoverEndpoint expected w state = .ok (some next)) : Extends state next := by
  unfold discoverEndpoint at h
  split_ifs at h
  · cases h
  · obtain ⟨item, -, h⟩ := bind_eq_ok.1 h
    obtain ⟨_, -, rfl⟩ := Option.map_eq_some_iff.1 (Except.ok.inj h)
    exact ⟨rfl, rfl, rfl, prefix_rfl, prefix_append _ _, prefix_rfl, rfl, rfl, rfl, fun _ => rfl⟩

theorem discovered_extends (h : discovered w state = .ok result) : Extends state result := by
  obtain ⟨named, hnamed, h⟩ := bind_eq_ok.1 h
  obtain ⟨bridged, hbridged, h⟩ := bind_eq_ok.1 h
  exact ((foldlM_extends recoverNamespace_extends hnamed).trans
    (foldlM_extends discoverBridge_extends hbridged)).trans
    (foldlM_extends discoverEndpoint_extends h)

end discovered

/-- The call issues no command and leaves the ledger `result` in memory; where all
    commands work, it ends so if there is such a ledger. -/
def Adopts (s : Site) (result : Result OwnershipState) : Post Site Exn Unit where
  returned _ s' := s'.world = s.world ∧ s'.log = s.log ∧ s'.plan = s.plan ∧ result = .ok s'.memory
  threw _ s' := s'.log = s.log ∧ ((∀ n, s.plan n = .works) → ∀ state, result ≠ .ok state)
  blocked s' := s'.log = s.log ∧ ¬∀ n, s.plan n = .works

section adopts

theorem saveState_adopts (s : Site) : saveState.wp s (Adopts s (.ok s.memory)) := by
  rw [saveState, wp_get_bind]
  cases hfate : s.plan s.steps with
  | works => exact ⟨rfl, rfl, rfl, rfl⟩
  | fails | late | killed => exact ⟨rfl, fun hworks => by simp [hworks] at hfate⟩

theorem Adopts.bind {x : Run Unit} {f : Unit → Run Unit} {s : Site} {result : Result OwnershipState}
    {g : OwnershipState → Result OwnershipState} (hx : x.wp s (Adopts s result))
    (hf : ∀ s', s'.world = s.world → (f ()).wp s' (Adopts s' (g s'.memory))) :
    (x >>= f).wp s (Adopts s (result >>= g)) := by
  refine wp_bind_of hx (fun _ s' ⟨hworld, hlog, hplan, hresult⟩ => ?_)
    (fun _ s' ⟨hlog, hthrew⟩ => ⟨hlog, fun hworks state h => ?_⟩) fun _ => id
  · subst hresult
    refine wp_mono (hf s' hworld) (fun _ s'' ⟨hworld', hlog', hplan', hresult⟩ => ?_)
      (fun _ s'' ⟨hlog', hthrew⟩ => ?_) fun s'' ⟨hlog', hblocked⟩ => ?_
    · exact ⟨hworld'.trans hworld, hlog'.trans hlog, hplan'.trans hplan, hresult⟩
    · exact ⟨hlog'.trans hlog, hplan ▸ hthrew⟩
    · exact ⟨hlog'.trans hlog, hplan ▸ hblocked⟩
  · obtain ⟨next, hnext, -⟩ := bind_eq_ok.1 h
    exact hthrew hworks next hnext

variable {publish : Run Unit} (hpublish : ∀ s, publish.wp s (Adopts s (.ok s.memory)))
include hpublish

theorem adopt_adopts (found : World → OwnershipState → Result (Option OwnershipState)) (s : Site) :
    (adopt found publish).wp s (Adopts s (adopted found s.world s.memory)) := by
  rw [adopt, wp_get_bind, adopted]
  cases found s.world s.memory with
  | error e => exact ⟨rfl, fun _ _ h => by cases h⟩
  | ok next =>
    cases next with
    | none => exact ⟨rfl, rfl, rfl, rfl⟩
    | some memory => exact hpublish { s with memory }

theorem forM_adopts {α : Type} (found : α → World → OwnershipState → Result (Option OwnershipState))
    (l : List α) (s : Site) : (l.forM fun a => adopt (found a) publish).wp s
      (Adopts s (l.foldlM (fun st a => adopted (found a) s.world st) s.memory)) := by
  induction l generalizing s with
  | nil => exact ⟨rfl, rfl, rfl, rfl⟩
  | cons a rest ih =>
    refine Adopts.bind (adopt_adopts hpublish (found a) s) fun s' hworld => ?_
    rw [← hworld]
    exact ih s'

end adopts

/-- **Discovery leaves the discovered ledger**, in memory. -/
theorem discover_adopts (s : Site) :
    discover.wp s (Adopts s (discovered s.world s.memory)) := by
  have hpure : ∀ s, (pure () : Run Unit).wp s (Adopts s (.ok s.memory)) :=
    fun _ => ⟨rfl, rfl, rfl, rfl⟩
  refine Adopts.bind (x := recoverNamespaces) (forM_adopts saveState_adopts recoverNamespace _ s)
    fun s₁ hw₁ => ?_
  rw [wp_get_bind, ← hw₁]
  refine Adopts.bind (forM_adopts hpure discoverBridge _ s₁) fun s₂ hw₂ => ?_
  rw [wp_get_bind, ← hw₂]
  exact forM_adopts hpure discoverEndpoint _ s₂

end GraphX
