/-
  What the expansion of a managed network keeps of the authored one.
-/
import GraphX.Config.LoadGraph

namespace GraphX.Config

open List Check

/-! ## The attachments, as authored -/

/-- The attachment that the loader makes of a router interface. -/
def Router.attachment (router : Router) (interface : RouterInterface) : Attachment where
  id := (interface.attachmentId.map (·.text)).getD (router.id.text ++ "-" ++ interface.id.text)
  kind := .namespaceVeth
  owner := router.id
  network := some interface.network
  address := some interface.address
  networkSwitch := some interface.networkSwitch
  port := interface.port

/-- An attachment without its MAC address, which a router interface may borrow. -/
def Attachment.bare (a : Attachment) : Attachment := { a with mac := none }

namespace Network
variable (net : Network)

def switchPort (a : Attachment) : Option SwitchPort := do
  let port ← a.port
  let networkSwitch ← a.networkSwitch
  let sw ← net.switches.find? (·.id = networkSwitch)
  sw.ports.find? (·.id = port)

/-- An attachment with the VLAN of its switch port. -/
def place (a : Attachment) : Attachment :=
  if a.kind = .external then a else
    { a with vlan := ((net.switchPort a).bind (·.vlan)).or a.vlan }

/-- The authored attachments and those of the router interfaces. -/
def placed : List Attachment :=
  (net.attachments ++ net.routers.flatMap fun router => router.interfaces.map router.attachment).map
    fun a => (net.place a).bare

end Network

/-! ## Expansion -/

def ResolvedSwitch.toSwitch (sw : ResolvedSwitch) : Switch where
  id := sw.id
  ports := sw.ports.map (·.toSwitchPort)
  mirror := sw.mirror

section
variable {env : Environment} {graphId : Ident}

theorem interfaceAttachment_bare {networks : List NetworkEntry} {router : Router}
    {attachments attachments' : List ResolvedAttachment} {interface : ResolvedInterface}
    (h : interfaceAttachment networks router attachments interface = .ok attachments') :
    attachments'.map (·.bare) = attachments.map (·.bare) ++
      [(router.attachment interface.toRouterInterface).bare] := by
  unfold interfaceAttachment at h
  split at h
  · cases h
  · cases h
    simp [Attachment.bare, Router.attachment]

theorem expandRouter_bare {networks : List NetworkEntry} {router : Router}
    {expansion expansion' : RouterExpansion}
    (h : expandRouter env graphId networks expansion router = .ok expansion') :
    expansion'.attachments.map (·.bare) = expansion.attachments.map (·.bare) ++
      router.interfaces.map fun interface => (router.attachment interface).bare := by
  obtain ⟨attachments, hattachments, h⟩ := bind_eq_ok.1 h
  obtain ⟨routes, -, h⟩ := bind_eq_ok.1 h
  cases h
  have hloop := foldlM_invariant
    (I := fun before reached => reached.map (·.bare) = expansion.attachments.map (·.bare) ++
      before.map fun i : ResolvedInterface => (router.attachment i.toRouterInterface).bare)
    (fun before interface reached reached' hreached hstep => by
      rw [interfaceAttachment_bare hstep, hreached]
      simp) hattachments (by simp)
  simpa [Function.comp_def, resolveInterface] using hloop

theorem map_replaceFirst {α β : Type} {p : α → Bool} {f : α → α} {g : α → β}
    (hf : ∀ a, g (f a) = g a) (l : List α) : (replaceFirst p f l).map g = l.map g := by
  induction l with
  | nil => rfl
  | cons a rest ih =>
    unfold replaceFirst
    split_ifs <;> simp [hf, ih]

variable {net : Network}

/-- The names of the interfaces change in a port, its VLAN does not. -/
theorem resolveAttachment_placed {nodes : Table Ident Node}
    {expansion expansion' : AttachmentExpansion} {a : ResolvedAttachment}
    (hswitches : expansion.switches.map (·.toSwitch) = net.switches)
    (h : resolveAttachment env graphId nodes expansion a = .ok expansion') :
    expansion'.switches.map (·.toSwitch) = net.switches ∧
      expansion'.attachments.map (·.bare) =
        expansion.attachments.map (·.bare) ++ [(net.place a.toAttachment).bare] := by
  unfold resolveAttachment at h
  split_ifs at h with hexternal
  · cases h
    simp [hswitches, Network.place, hexternal]
  · dsimp only at h
    split at h
    · next hport =>
      cases h
      have hport : a.port = none := hport
      simp [hswitches, Network.place, hexternal, nameAttachment, Attachment.bare,
        Network.switchPort, hport]
    · next portId hport =>
      have hport : a.port = some portId := hport
      obtain ⟨swId, hsw, h⟩ := bind_eq_ok.1 h
      have hsw : a.networkSwitch = some swId := at?_eq_ok.1 hsw
      split at h
      · cases h
      · next sw hfound =>
        split at h
        · cases h
        · next port hfoundPort =>
          cases h
          have hauthored : net.switchPort a.toAttachment = some port.toSwitchPort := by
            have hswitch : net.switches.find? (·.id = swId) = some sw.toSwitch := by
              rw [← hswitches, find?_map]
              exact congrArg (Option.map _) hfound
            have hswitchPort : sw.toSwitch.ports.find? (·.id = portId) = some port.toSwitchPort := by
              rw [ResolvedSwitch.toSwitch, find?_map]
              exact congrArg (Option.map _) hfoundPort
            simp [Network.switchPort, hport, hsw, hswitch, hswitchPort]
          constructor
          · rw [map_replaceFirst, hswitches]
            intro sw
            simp only [ResolvedSwitch.toSwitch, Switch.mk.injEq, true_and, and_true]
            refine map_replaceFirst ?_ _
            intro port
            rfl
          · simp [Network.place, hexternal, nameAttachment, Attachment.bare, hauthored]

/-- The attachments of an expanded network are those that were authored and one for
    each router interface, with the VLANs of their ports. -/
theorem networkValue_placed {nodes : Table Ident Node} {network : ResolvedNetwork}
    (h : networkValue env graphId nodes (some net) = .ok network) :
    (network.attachments.map (·.bare)).Perm net.placed := by
  unfold networkValue at h
  rw [Option.getD_some] at h
  simp only [bind_eq_ok] at h
  obtain ⟨expanded, hexpanded, resolved, hresolved, captures, -, h⟩ := h
  cases h
  have hrouters := foldlM_invariant
    (I := fun before reached => reached.attachments.map (·.bare) =
      net.attachments.map (·.bare) ++
        before.flatMap fun router => router.interfaces.map fun i => (router.attachment i).bare)
    (fun before router reached reached' hreached hstep => by
      rw [expandRouter_bare hstep, hreached]
      simp) hexpanded (by simp [Function.comp_def])
  have hnamed := foldlM_invariant
    (I := fun before reached => reached.switches.map (·.toSwitch) = net.switches ∧
      reached.attachments.map (·.bare) =
        before.map fun a : ResolvedAttachment => (net.place a.toAttachment).bare)
    (fun before a reached reached' hreached hstep => by
      obtain ⟨hswitches, hplaced⟩ := resolveAttachment_placed hreached.1 hstep
      exact ⟨hswitches, by simp [hplaced, hreached.2]⟩)
    hresolved ⟨by simp [Function.comp_def, resolveSwitch, ResolvedSwitch.toSwitch], rfl⟩
  have hbare (a : Attachment) : (net.place a.bare).bare = (net.place a).bare := by
    unfold Attachment.bare Network.place
    dsimp only
    split_ifs <;> rfl
  have hplaced : resolved.attachments.map (·.bare) = net.placed := by
    calc resolved.attachments.map (·.bare)
        = (expanded.attachments.map (·.bare)).map fun a => (net.place a).bare := by
          rw [hnamed.2, map_map]
          exact map_congr_left fun a _ => (hbare a.toAttachment).symm
      _ = net.placed := by simp [hrouters, Network.placed, hbare, map_flatMap, Function.comp_def]
  rw [← hplaced]
  exact (perm_insertionSort _ _).map _

theorem validateNetwork_ids {graph : Surroundings} (h : validateNetwork graph net = .ok ()) :
    (net.attachments.map (·.id)).Nodup := by
  simp only [validateNetwork, bind_eq_ok] at h
  obtain ⟨subnets, -, switches, -, scan, hscan, -⟩ := h
  obtain ⟨hids, hnodup⟩ := foldlM_fresh AttachmentScan.ids (fun indexed => [indexed.1.id])
    (fun indexed scan scan' hnodup hstep => by
      obtain ⟨ids, hids, hstep⟩ := bind_eq_ok.1 hstep
      obtain ⟨hnew, rfl⟩ := fresh_eq_ok.1 hids
      obtain ⟨-, hstep⟩ := bind_unit_eq_ok.1 hstep
      obtain ⟨-, hstep⟩ := bind_unit_eq_ok.1 hstep
      have hsame : scan'.ids = indexed.1.id :: scan.ids := by
        split_ifs at hstep
        · obtain ⟨-, hstep⟩ := bind_unit_eq_ok.1 hstep
          cases hstep
          rfl
        · obtain ⟨keys, -, hstep⟩ := bind_eq_ok.1 hstep
          cases hstep
          rfl
      simp [hsame, hnew, hnodup]) hscan nodup_nil
  rw [hids, append_nil, nodup_reverse, ← map_eq_flatMap] at hnodup
  rwa [← zipIdx_map_fst 0 net.attachments, map_map]

variable {graph : Graph} {network : ResolvedNetwork}

theorem expandNetwork_eq_ok (hnet : graph.network = some net)
    (h : expandNetwork env graph = .ok network) :
    networkValue env graph.id graph.nodes (some net) = .ok network ∧
      validateNetwork graph.surroundings network.toNetwork = .ok () := by
  simp only [expandNetwork, bind_eq_ok] at h
  obtain ⟨_, -, network, hvalue, _, hagain, h⟩ := h
  cases h
  rw [hnet] at hvalue hagain
  exact ⟨hvalue, hagain⟩

end

end GraphX.Config
