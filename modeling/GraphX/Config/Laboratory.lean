/-
  What a laboratory selection changes (`select_laboratory` of
  `src/scenario_config.cpp`).
-/
import GraphX.Config.Assignments

namespace GraphX.Config

open List Check

/-! ## References to credentials -/

def ScenarioAction.references (a : ScenarioAction) : List String :=
  (a.credential.map (·.text)).toList ++ (a.next.map (·.text)).toList ++
    (a.credentials.map (·.text)).toList ++ (a.clientCredentials.map (·.values)).getD []

def PlatformSection.references (platform : PlatformSection) (actions : List ScenarioAction) :
    List String :=
  (platform.control.grants.getD []).map (·.credential.text) ++
    (platform.otlp.credentials.map (·.text)).toList ++ actions.flatMap (·.references)

/-- Everything in a graph that refers to a credential.  A secured connection uses the
    credentials that its nodes have under the names of its ports. -/
def Graph.references (graph : Graph) : List String :=
  graph.nodes.values.flatMap (·.credentials.values) ++
    graph.platform.references (graph.scenario.getD [])

theorem usedByNode_iff {nodes : Table Ident Node} {ref : String} :
    usedByNode nodes ref = true ↔ ref ∈ nodes.values.flatMap (·.credentials.values) := by
  simp [usedByNode]

/-! ## The selection -/

/-- An action that replaces an external node by a simulator. -/
structure Laboratory where
  node : Ident
  type : String
  credentials : Ident
  clients : Table String String
  attachment : Ident

def ScenarioAction.laboratory? (a : ScenarioAction) : Option Laboratory := do
  some ⟨← a.node, ← a.type, ← a.credentials, ← a.clientCredentials, ← a.attachment⟩

def Node.setControl (node : Node) (ref : String) : Node :=
  { node with credentials := node.credentials.set controlRole ref }

def controlOf (nodes : Table Ident Node) (id : String) : Option String := do
  let node ← findText nodes id
  node.credentials.get? controlRole

namespace Laboratory

/-- The selected node is a container of the simulator's type, with the credential of
    the laboratory; the others are as they were. -/
def select (lab : Laboratory) (id : Ident) (node : Node) : Node :=
  if id = lab.node then
    { node with
      execution := { kind := .container }
      type := lab.type
      credentials := node.credentials.set controlRole lab.credentials.text }
  else node

/-- A node after the selection: a client has another control credential. -/
def substitute (lab : Laboratory) (id : Ident) (node : Node) : Node :=
  match lab.clients.get? id.text with
  | none => lab.select id node
  | some ref => (lab.select id node).setControl ref

/-- The control credentials that a selection replaces: that of the selected node, and
    those of its clients. -/
def replaced (lab : Laboratory) (nodes : Table Ident Node) : List String :=
  (controlOf nodes lab.node.text).toList ++
    lab.clients.keys.filterMap (controlOf (nodes.map lab.select))

end Laboratory

/-- An attachment after the selection of the attachment `id`. -/
inductive AttachmentSubstituted (id : Ident) : Attachment → Attachment → Prop where
  | other {a : Attachment} (h : a.id ≠ id.text) : AttachmentSubstituted id a a
  | selected {a : Attachment} {sw : Ident} (h : a.id = id.text)
      (hsw : ∀ own, a.networkSwitch = some own → sw = own) :
      AttachmentSubstituted id a { a with kind := .containerVeth, networkSwitch := some sw }

structure Substituted (graph : Graph) (action : ScenarioAction) (lab : Laboratory)
    (graph' : Graph) : Prop where
  id : graph'.id = graph.id
  connections : graph'.connections = graph.connections
  platform : graph'.platform = graph.platform
  lifecycle : graph'.lifecycle = graph.lifecycle
  portableNetwork : graph'.portableNetwork = graph.portableNetwork
  nodes : graph'.nodes = graph.nodes.map lab.substitute
  network : ∃ net attachments, graph.network = some net ∧
    graph'.network = some { net with attachments := attachments } ∧
      List.Forall₂ (AttachmentSubstituted lab.attachment) net.attachments attachments
  scenario : graph'.scenario = graph.scenario.map (·.filter (·.id ≠ action.id))
  credentials : ∀ id, graph'.credentials.get? id =
    if id.text ∈ lab.replaced graph.nodes ∧ usedByNode graph'.nodes id.text = false then none
    else graph.credentials.get? id

/-! ## What the code does -/

section
variable {nodes nodes' : Table Ident Node} {client : Ident} {ref old : String} {lab : Laboratory}

theorem findIdent_eq_some {text : String} (h : findIdent nodes text = some client) :
    client.text = text := by
  obtain ⟨e, hfind, rfl⟩ := Option.map_eq_some_iff.1 h
  simpa using find?_some hfind

theorem findText_text : findText nodes client.text = nodes.get? client := by
  apply Option.ext
  intro node
  rw [findText_eq_some_iff, Table.get?_eq_some_iff]
  constructor
  · rintro ⟨id, htext, hmem⟩
    exact Ident.text_injective htext ▸ hmem
  · exact fun hmem => ⟨client, rfl, hmem⟩

theorem findText_map {f : Ident → Node → Node} {text : String}
    (h : ∀ id node, id.text = text → f id node = node) :
    findText (nodes.map f) text = findText nodes text := by
  apply Option.ext
  intro node
  simp only [findText_eq_some_iff, ← Table.get?_eq_some_iff, Table.get?_map, Option.map_eq_some_iff]
  constructor
  · rintro ⟨id, htext, node, hnode, rfl⟩
    exact ⟨id, htext, by rw [h id node htext, hnode]⟩
  · rintro ⟨id, htext, hnode⟩
    exact ⟨id, htext, node, hnode, h id node htext⟩

theorem replaceControl_eq_ok (h : replaceControl nodes client ref = .ok (nodes', old)) :
    nodes' = nodes.map (fun id node => if id = client then node.setControl ref else node) ∧
      controlOf nodes client.text = some old := by
  obtain ⟨node, hnode, h⟩ := bind_eq_ok.1 h
  obtain ⟨found, hold, h⟩ := bind_eq_ok.1 h
  rw [at?_eq_ok] at hnode hold
  cases h
  refine ⟨Table.set_eq_map (f := fun node => node.setControl ref) hnode, ?_⟩
  simp [controlOf, findText_text, hnode, hold]

def setClients (clients : List (String × String)) (id : Ident) (node : Node) : Node :=
  clients.foldl (fun node entry => if entry.1 = id.text then node.setControl entry.2 else node) node

variable {clients : List (String × String)} {id : Ident}

theorem setClients_other {node : Node} (h : id.text ∉ clients.map (·.1)) :
    setClients clients id node = node := by
  induction clients with
  | nil => rfl
  | cons e rest ih =>
    rw [map_cons, mem_cons, not_or] at h
    simp only [setClients, foldl_cons, if_neg (Ne.symm h.1)]
    exact ih h.2

theorem setClients_client {node : Node} (hnodup : (clients.map (·.1)).Nodup)
    (h : (id.text, ref) ∈ clients) : setClients clients id node = node.setControl ref := by
  induction clients with
  | nil => cases h
  | cons e rest ih =>
    rw [map_cons, nodup_cons] at hnodup
    rcases mem_cons.1 h with rfl | h
    · simp only [setClients, foldl_cons]
      exact setClients_other hnodup.1
    · have hne : e.1 ≠ id.text := fun heq =>
        hnodup.1 (heq ▸ mem_map_of_mem (f := Prod.fst) h)
      simp only [setClients, foldl_cons, if_neg hne]
      exact ih hnodup.2 h

/-- The loop over the clients: each of them is replaced once, so that its credential is
    the one it had before the loop. -/
theorem replaceClients_eq_ok {r r' : Replacement} (hnodup : (clients.map (·.1)).Nodup)
    (h : clients.foldlM replaceClient r = .ok r') :
    r'.nodes = r.nodes.map (setClients clients) ∧
      r'.oldRefs = r.oldRefs ++ (clients.map (·.1)).filterMap (controlOf r.nodes) := by
  induction clients generalizing r with
  | nil =>
    cases h
    refine ⟨Table.ext_get? fun k => ?_, by simp⟩
    rw [Table.get?_map]
    exact Option.map_id'.symm
  | cons e rest ih =>
    rw [map_cons, nodup_cons] at hnodup
    obtain ⟨r₁, hstep, h⟩ := bind_eq_ok.1 h
    obtain ⟨client, hclient, hstep⟩ := bind_eq_ok.1 hstep
    obtain ⟨⟨nodes, old⟩, hreplace, hstep⟩ := bind_eq_ok.1 hstep
    cases hstep
    rw [at?_eq_ok] at hclient
    have hkey := findIdent_eq_some hclient
    obtain ⟨rfl, hold⟩ := replaceControl_eq_ok hreplace
    obtain ⟨hnodes, hrefs⟩ := ih hnodup.2 h
    constructor
    · rw [hnodes, Table.map_map]
      congr 1
      funext id node
      have hsame : e.1 = id.text ↔ id = client := by
        rw [← hkey]
        exact ⟨fun heq => (Ident.text_injective heq).symm, fun heq => heq ▸ rfl⟩
      simp only [setClients, foldl_cons, hsame]
    · rw [hrefs, map_cons, filterMap_cons, ← hkey, hold, append_assoc]
      congr 1
      rw [singleton_append]
      congr 1
      refine filterMap_congr fun text htext => ?_
      unfold controlOf
      rw [findText_map]
      rintro id node rfl
      refine if_neg ?_
      rintro rfl
      exact hnodup.1 (hkey ▸ htext)

theorem replaceSelected_eq_ok {action : ScenarioAction} {r : Replacement}
    (h : replaceSelected nodes action = .ok r) :
    ∃ id type credentials, action.node = some id ∧ action.type = some type ∧
      action.credentials = some credentials ∧
        ∀ lab : Laboratory, lab.node = id → lab.type = type → lab.credentials = credentials →
          r.nodes = nodes.map lab.select ∧ r.oldRefs = (controlOf nodes lab.node.text).toList := by
  simp only [replaceSelected, bind_eq_ok] at h
  obtain ⟨id, hid, selected, hselected, _, -, type, htype, credentials, hcredentials, ⟨nodes',
    old⟩, hreplace, h⟩ := h
  cases h
  rw [at?_eq_ok] at hid hselected htype hcredentials
  refine ⟨id, type, credentials, hid, htype, hcredentials, ?_⟩
  rintro lab rfl rfl rfl
  obtain ⟨rfl, hold⟩ := replaceControl_eq_ok hreplace
  -- The credentials of the selected node are those it had: only its type and its
  -- execution were written before.
  have hset := Table.set_eq_map
    (f := fun node : Node => { node with execution := { kind := .container }, type := lab.type })
    hselected
  constructor
  · dsimp only
    rw [hset, Table.map_map]
    congr 1
    funext id node
    by_cases heq : id = lab.node <;> simp [heq, Laboratory.select, Node.setControl]
  · rw [controlOf, findText_text, Table.get?_set, if_pos rfl] at hold
    rw [controlOf, findText_text, hselected]
    simp only [Option.bind_eq_bind, Option.bind_some] at hold ⊢
    rw [hold]
    rfl

theorem replaceAttachments_eq_ok {before l l' : List Attachment}
    (h : replaceAttachments id before l = .ok l') :
    ∃ after, l' = before ++ after ∧ List.Forall₂ (AttachmentSubstituted id) l after := by
  induction l generalizing before with
  | nil =>
    cases h
    exact ⟨[], by simp, .nil⟩
  | cons a rest ih =>
    rw [replaceAttachments] at h
    split_ifs at h with hid
    · obtain ⟨replaced, hreplaced, h⟩ := bind_eq_ok.1 h
      obtain ⟨after, rfl, hafter⟩ := ih h
      refine ⟨replaced :: after, by simp, .cons ?_ hafter⟩
      unfold replaceAttachment at hreplaced
      split at hreplaced
      · next sw hsw =>
        cases hreplaced
        have hselected : AttachmentSubstituted id a
            { a with kind := .containerVeth, networkSwitch := some sw } :=
          .selected hid fun own hown => Option.some.inj (hsw.symm.trans hown)
        rwa [← hsw] at hselected
      · next hnone =>
        split at hreplaced
        · cases hreplaced
          exact .selected hid fun own hown => absurd hown (by simp [hnone])
        · cases hreplaced
    · obtain ⟨after, rfl, hafter⟩ := ih h
      exact ⟨a :: after, by simp, .cons (.other hid) hafter⟩

theorem get?_dropUnused {oldRefs : List String} {credentials : Table Ident Credential} :
    (dropUnused nodes oldRefs credentials).get? id =
      if id.text ∈ oldRefs ∧ usedByNode nodes id.text = false then none
      else credentials.get? id := by
  apply Option.ext
  intro c
  rw [Table.get?_eq_some_iff]
  split_ifs with h
  · simp [dropUnused, h]
  · rw [Table.get?_eq_some_iff]
    simp only [dropUnused, mem_filter, and_iff_left_iff_imp]
    intro _
    simpa [imp_iff_not_or] using h

end

/-! ## The external radio -/

namespace ExternalRadio

def radio : Ident := ⟨"radio", .refl true⟩
def processor : Ident := ⟨"processor", .refl true⟩
def sink : Ident := ⟨"sink", .refl true⟩
def control : Ident := ⟨"control", .refl true⟩
def samples : Ident := ⟨"samples", .refl true⟩
def results : Ident := ⟨"results", .refl true⟩
def radioData : Ident := ⟨"sdr-node-data", .refl true⟩
def processorData : Ident := ⟨"processor-data", .refl true⟩
def sinkData : Ident := ⟨"sink-data", .refl true⟩
def lan : Ident := ⟨"gx-sdr-native", .refl true⟩
def bridge : Ident := ⟨"br-sdr", .refl true⟩
def labProcessor : Ident := ⟨"lab-processor", .refl true⟩
def testRadio : Ident := ⟨"test-radio", .refl true⟩

def certificate (provider : Provider) (identity : String) : Credential :=
  { provider := provider, identity := identity, members := ["ca.pem", "cert.pem", "key.pem"] }

def dataAttachment (id owner : Ident) (address : String) : Attachment :=
  { id := id.text, kind := .containerVeth, owner := owner, network := some lan
    address := some address, networkSwitch := some bridge }

def laboratory : ScenarioAction where
  id := ⟨"laboratory-radio", .refl true⟩
  action := .externalSimulator
  address := some "10.63.0.10"
  attachment := some radioData
  clientCredentials := some (.ofList [("processor", "test-processor")] rfl)
  credentials := some testRadio
  exclusiveWithPhysicalDevice := some ()
  node := some radio
  type := some "sdr.simulator"

/-- The rotation of the credential of the processor. -/
def rotation : ScenarioAction where
  id := ⟨"rotate-processor", .refl true⟩
  action := .credentialRotate
  credential := some labProcessor
  next := some ⟨"next-processor", .refl true⟩
  graceSeconds := some ⟨30, .refl true⟩

/-- `examples/sdr-node/external`, without its capture. -/
def graph (actions : List ScenarioAction) : Graph where
  id := ⟨"sdr-external", .refl true⟩
  nodes := .ofList
    [(processor, { type := "sdr.processor", execution := { kind := .container }
                   credentials := .ofList [(control, "lab-processor")] rfl }),
      (radio, { type := "sdr.radio"
                execution := { kind := .external, address := some "10.63.0.10" }
                credentials := .ofList [(control, "lab-radio")] rfl }),
      (sink, { type := "sdr.result-sink", execution := { kind := .container } })] rfl
  connections := .ofList
    [(control, { source := ⟨processor, control⟩, target := ⟨radio, control⟩, transport := .tcp
                 attachments := some ⟨processorData, radioData⟩
                 security := some { profile := .mtls, serverName := some "sdr-node" } }),
      (⟨"iq", .refl true⟩,
        { source := ⟨radio, samples⟩, target := ⟨processor, samples⟩, transport := .udp
          attachments := some ⟨radioData, processorData⟩ }),
      (results, { source := ⟨processor, results⟩, target := ⟨sink, results⟩, transport := .tcp
                  attachments := some ⟨processorData, sinkData⟩ })] rfl
  credentials := .ofList
    [(labProcessor, certificate .external "processor"),
      (⟨"lab-radio", .refl true⟩, { provider := .external, identity := "radio", members := ["ca.pem"] }),
      (⟨"next-processor", .refl true⟩, certificate .external "processor"),
      (⟨"test-processor", .refl true⟩, certificate .labGenerated "processor"),
      (testRadio, certificate .labGenerated "sdr-node")] rfl
  network := some
    { networks := [{ id := lan, profile := .macvlan, subnets := ["10.63.0.0/24"]
                     gateway := some "10.63.0.1" }]
      switches := [{ id := bridge, ports := [] }]
      attachments := [
        { id := "sdr-node-data", kind := .external, owner := radio, network := some lan
          address := some "10.63.0.10/24", mac := some "02:63:00:00:00:10" },
        dataAttachment processorData processor "10.63.0.20/24",
        dataAttachment sinkData sink "10.63.0.30/24"] }
  scenario := some actions

end ExternalRadio

section
variable {graph graph' : Graph} {id : String}

/-- **What a selection changes.** -/
theorem selectLaboratory_substituted (h : selectLaboratory graph id = .ok graph') :
    ∃ actions action lab, graph.scenario = some actions ∧
      actions.find? (·.id.text = id) = some action ∧ action.laboratory? = some lab ∧
        Substituted graph action lab graph' := by
  unfold selectLaboratory at h
  split at h
  · cases h
  · next actions hactions =>
    simp only [bind_eq_ok] at h
    obtain ⟨action, haction, _, -, selected, hselected, clients, hclients, replaced, hreplaced,
      net, hnet, attachment, hattachment, attachments, hattachments, h⟩ := h
    cases h
    rw [at?_eq_ok] at hclients hnet hattachment
    rw [findResource_eq_ok] at haction
    obtain ⟨node, type, credentials, hnode, htype, hcredentials, hselect⟩ :=
      replaceSelected_eq_ok hselected
    obtain ⟨hnodes, hrefs⟩ := hselect ⟨node, type, credentials, clients, attachment⟩ rfl rfl rfl
    obtain ⟨hnodes', hrefs'⟩ := replaceClients_eq_ok clients.keys_nodup hreplaced
    obtain ⟨after, hafter, hforall⟩ := replaceAttachments_eq_ok hattachments
    have hid : action.id.text = id := by simpa using find?_some haction
    refine ⟨actions, action, ⟨node, type, credentials, clients, attachment⟩, hactions, haction,
      by simp [ScenarioAction.laboratory?, hnode, htype, hcredentials, hclients, hattachment],
      rfl, rfl, rfl, rfl, rfl, ?_, ⟨net, after, hnet, hafter ▸ rfl, hforall⟩, ?_, ?_⟩
    · dsimp only
      rw [hnodes', hnodes, Table.map_map]
      congr 1
      funext id node
      unfold Laboratory.substitute
      split
      · next hnone =>
        rw [Table.get?_eq_none_iff, Bool.eq_false_iff, Ne, Table.contains_iff] at hnone
        refine setClients_other fun hmem => hnone ?_
        obtain ⟨⟨key, ref⟩, hmem, rfl⟩ := mem_map.1 hmem
        exact ⟨ref, hmem⟩
      · next ref href =>
        exact setClients_client clients.keys_nodup (Table.get?_eq_some_iff.1 href)
    · simp [hactions, ← hid]
    · intro key
      rw [get?_dropUnused, hrefs', hrefs, hnodes]
      rfl

/-- A selection removes only credentials that nothing refers to, exactly when each
    control credential that it replaces, and that no node has any more, is one that no
    grant, no exporter and no other action refers to. -/
theorem selectLaboratory_frame_iff (h : selectLaboratory graph id = .ok graph') :
    ∃ actions action lab, graph.scenario = some actions ∧
      actions.find? (·.id.text = id) = some action ∧ action.laboratory? = some lab ∧
        Substituted graph action lab graph' ∧
          ((∀ ref, graph.credentials.contains ref = true → graph'.credentials.contains ref = false →
              ref.text ∉ graph'.references) ↔
            ∀ ref, graph.credentials.contains ref = true → ref.text ∈ lab.replaced graph.nodes →
              usedByNode (graph.nodes.map lab.substitute) ref.text = false →
                ref.text ∉ graph.platform.references (actions.filter (·.id ≠ action.id))) := by
  obtain ⟨actions, action, lab, hactions, haction, hlab, hsub⟩ := selectLaboratory_substituted h
  refine ⟨actions, action, lab, hactions, haction, hlab, hsub, ?_⟩
  have hremoved : ∀ ref, graph.credentials.contains ref = true →
      (graph'.credentials.contains ref = false ↔ ref.text ∈ lab.replaced graph.nodes ∧
        usedByNode (graph.nodes.map lab.substitute) ref.text = false) := by
    intro ref href
    rw [← Table.get?_eq_none_iff, hsub.credentials, hsub.nodes]
    split_ifs with hdrop
    · simp [hdrop]
    · rw [Table.get?_eq_none_iff, href]
      simp [hdrop]
  have hreferences : ∀ ref : Ident, usedByNode (graph.nodes.map lab.substitute) ref.text = false →
      (ref.text ∈ graph'.references ↔
        ref.text ∈ graph.platform.references (actions.filter (·.id ≠ action.id))) := by
    intro ref hunused
    rw [Graph.references, mem_append, ← usedByNode_iff, hsub.nodes, hunused, hsub.platform,
      hsub.scenario, hactions]
    simp
  constructor
  · intro hall ref href hreplaced hunused
    rw [← hreferences ref hunused]
    exact hall ref href ((hremoved ref href).2 ⟨hreplaced, hunused⟩)
  · intro hall ref href hgone
    obtain ⟨hreplaced, hunused⟩ := (hremoved ref href).1 hgone
    rw [hreferences ref hunused]
    exact hall ref href hreplaced hunused

end

set_option maxRecDepth 4000 in
/-- The laboratory of the example: it replaces two credentials, which nothing else uses. -/
theorem selectLaboratory_frame_radio : ∃ graph',
    selectLaboratory (ExternalRadio.graph [ExternalRadio.laboratory]) "laboratory-radio" =
        .ok graph' ∧
      graph'.credentials.keys.map (·.text) = ["next-processor", "test-processor", "test-radio"] ∧
      ∃ actions action lab, (ExternalRadio.graph [ExternalRadio.laboratory]).scenario = some actions ∧
        actions.find? (·.id.text = "laboratory-radio") = some action ∧
          action.laboratory? = some lab ∧
            Substituted (ExternalRadio.graph [ExternalRadio.laboratory]) action lab graph' := by
  obtain ⟨actions, action, lab, hactions, haction, hlab, hsub, -⟩ := selectLaboratory_frame_iff
    (show selectLaboratory (ExternalRadio.graph [ExternalRadio.laboratory]) "laboratory-radio" =
      .ok _ from rfl)
  exact ⟨_, rfl, by decide, actions, action, lab, hactions, haction, hlab, hsub⟩

set_option maxRecDepth 4000 in
/-- The credential of the processor has a rotation: the graph loads, and the selection
    removes the credential and keeps the rotation, so that the result does not load. -/
theorem selectLaboratory_drops_rotated :
    (∃ config, loadGraph sampleEnvironment shippedCatalog { target := "native-linux" }
        (ExternalRadio.graph [ExternalRadio.laboratory, ExternalRadio.rotation]) = .ok config) ∧
      (∃ graph', selectLaboratory
          (ExternalRadio.graph [ExternalRadio.laboratory, ExternalRadio.rotation])
          "laboratory-radio" = .ok graph' ∧
        graph'.credentials.contains ExternalRadio.labProcessor = false ∧
          "lab-processor" ∈ graph'.references) ∧
      loadGraph sampleEnvironment shippedCatalog
          { target := "native-linux", laboratoryAction := "laboratory-radio" }
          (ExternalRadio.graph [ExternalRadio.laboratory, ExternalRadio.rotation]) =
        .error (.reject "E_SCENARIO" "scenario.actions" "unknown or identical rotation reference") := by
  refine ⟨⟨_, rfl⟩, ⟨_, rfl, ?_⟩, rfl⟩
  decide

end GraphX.Config
