/-
  The addresses that a managed network assigns.
-/
import GraphX.Config.Expansion
import GraphX.Config.ResolvedConnections

namespace GraphX.Config

open List Check

/-! ## Assignments -/

/-- An address on a network and VLAN. -/
@[ext]
structure Assignment where
  network : Ident
  vlan : Option Vlan
  address : UInt32
  deriving DecidableEq

/-- The address of a text with a prefix length, if it is one. -/
def addressValue (text : String) : Option UInt32 := inetPton (cString (hostPart text))

def Attachment.primary (a : Attachment) : Option (Assignment × List Char) := do
  let network ← a.network
  let text ← a.address
  let address ← addressValue text
  some (⟨network, a.vlan, address⟩, hostPart text)

def Attachment.aliasAssignment (a : Attachment) (text : String) : Option Assignment := do
  let network ← a.network
  let address ← addressValue text
  some ⟨network, a.vlan, address⟩

def Attachment.aliasAssignments (a : Attachment) : List Assignment :=
  (a.aliases.getD []).filterMap a.aliasAssignment

namespace ResolvedNetwork

/-- The primary addresses, as they are spelled. -/
def primaries (net : ResolvedNetwork) : List (Assignment × List Char) :=
  net.attachments.filterMap (·.toAttachment.primary)

def aliases (net : ResolvedNetwork) : List Assignment :=
  net.attachments.flatMap (·.toAttachment.aliasAssignments)

/-- All addresses that a network assigns. -/
def assignments (net : ResolvedNetwork) : List Assignment :=
  net.primaries.map (·.1) ++ net.aliases

end ResolvedNetwork

/-! ## What the loops keep distinct -/

def primaryKey (p : Assignment × List Char) : String :=
  addressKey p.1.network p.1.vlan (String.ofList p.2)

section
variable {graph : Surroundings} {net : Network} {subnets : List (Ident × List Cidr)}
  {switches routers : List Ident}

variable {a : Attachment}

theorem validateAddress_eq_ok {keys keys' : List String} {path : String}
    (h : validateAddress subnets keys a path = .ok keys') :
    ∃ p, a.primary = some p ∧ primaryKey p ∉ keys ∧ keys' = primaryKey p :: keys := by
  unfold validateAddress at h
  split at h
  · cases h
  · next network prefixes hnetwork =>
    split at h
    · cases h
    · next text htext =>
      simp only [bind_eq_ok] at h
      obtain ⟨parsed, hparsed, _, -, keys₁, hkeys, _, -, h⟩ := h
      cases h
      obtain ⟨hnew, rfl⟩ := fresh_eq_ok.1 hkeys
      obtain ⟨id, hid, hfind⟩ := Option.bind_eq_some_iff.1 hnetwork
      have hsame : network = id := by simpa using find?_some hfind
      refine ⟨(⟨network, a.vlan, parsed.address⟩, hostPart text), ?_, hnew, rfl⟩
      simp [Attachment.primary, hid, htext, hsame, addressValue, cidr_eq_ok hparsed]

theorem validateMirror_primary {attachments : List Attachment} {path : String}
    (h : validateMirror graph attachments a path = .ok ()) : a.primary = none := by
  obtain ⟨-, h⟩ := bind_unit_eq_ok.1 h
  obtain ⟨hbare, -⟩ := bind_unit_eq_ok.1 h
  have haddress : a.address = none := by
    have := require_eq_ok.1 hbare
    simp only [Bool.not_eq_true', Bool.or_eq_false_iff] at this
    simpa using this.1.1
  cases hnetwork : a.network <;> simp [Attachment.primary, haddress]

theorem validateAttachment_keys {scan scan' : AttachmentScan} {indexed : Attachment × ℕ}
    (hnodup : scan.addressKeys.Nodup)
    (h : validateAttachment graph net subnets switches scan indexed = .ok scan') :
    scan'.addressKeys = ((indexed.1.primary.map primaryKey).toList).reverse ++ scan.addressKeys ∧
      scan'.addressKeys.Nodup := by
  simp only [validateAttachment, bind_eq_ok] at h
  obtain ⟨ids, -, _, -, _, -, h⟩ := h
  split_ifs at h with hmirror
  · obtain ⟨hbare, h⟩ := bind_unit_eq_ok.1 h
    cases h
    simp [validateMirror_primary hbare, hnodup]
  · obtain ⟨keys, hkeys, h⟩ := bind_eq_ok.1 h
    cases h
    obtain ⟨p, hp, hnew, rfl⟩ := validateAddress_eq_ok hkeys
    simp [hp, hnew, hnodup]

def aliasKeyOf (x : Assignment) : String := aliasKey x.network x.address

theorem validateAlias_keys {text : String} {keys keys' : List String} (hnodup : keys.Nodup)
    (h : validateAlias a keys text = .ok keys') :
    keys' = (((a.aliasAssignment text).map aliasKeyOf).toList).reverse ++ keys ∧ keys'.Nodup := by
  obtain ⟨parsed, hparsed, h⟩ := bind_eq_ok.1 h
  obtain ⟨network, hnetwork, h⟩ := bind_eq_ok.1 h
  obtain ⟨hnew, rfl⟩ := fresh_eq_ok.1 h
  rw [at?_eq_ok] at hnetwork
  have hvalue : addressValue text = some parsed.address := cidr_eq_ok hparsed
  have hassign : a.aliasAssignment text = some ⟨network, a.vlan, parsed.address⟩ := by
    simp [Attachment.aliasAssignment, hnetwork, hvalue]
  rw [hassign]
  exact ⟨rfl, nodup_cons.2 ⟨hnew, hnodup⟩⟩

theorem validateOwner_keys {scan scan' : OwnerScan} (hnodup : scan.addressKeys.Nodup)
    (h : validateOwner graph switches routers scan a = .ok scan') :
    scan'.addressKeys = (a.aliasAssignments.map aliasKeyOf).reverse ++ scan.addressKeys ∧
      scan'.addressKeys.Nodup := by
  simp only [validateOwner, bind_eq_ok] at h
  obtain ⟨_, -, ports, -, keys, hkeys, h⟩ := h
  cases h
  have hloop := foldlM_fresh id
    (fun text => ((a.aliasAssignment text).map aliasKeyOf).toList)
    (fun text s s' hs hstep => validateAlias_keys hs hstep) hkeys hnodup
  have hflat : ((a.aliases.getD []).flatMap fun text =>
      ((a.aliasAssignment text).map aliasKeyOf).toList) = a.aliasAssignments.map aliasKeyOf := by
    rw [Attachment.aliasAssignments, map_filterMap, filterMap_eq_flatMap_toList]
  rw [hflat] at hloop
  exact hloop

/-- **What validation keeps distinct**: the primary addresses as they are spelled, and
    the aliases. -/
theorem validateNetwork_keys (h : validateNetwork graph net = .ok ()) :
    ((net.attachments.filterMap (·.primary)).map primaryKey).Nodup ∧
      ((net.attachments.flatMap (·.aliasAssignments)).map aliasKeyOf).Nodup := by
  simp only [validateNetwork, bind_eq_ok] at h
  obtain ⟨subnets, -, switches, -, scan, hscan, _, -, routers, -, owners, howners, -⟩ := h
  obtain ⟨hprimary, hnodup⟩ := foldlM_fresh AttachmentScan.addressKeys
    (fun indexed => (indexed.1.primary.map primaryKey).toList)
    (fun _ _ _ hs hstep => validateAttachment_keys hs hstep) hscan nodup_nil
  obtain ⟨halias, hnodup'⟩ := foldlM_fresh OwnerScan.addressKeys
    (fun a => a.aliasAssignments.map aliasKeyOf)
    (fun _ _ _ hs hstep => validateOwner_keys hs hstep) howners hnodup
  have hfirst : (net.attachments.zipIdx.flatMap fun indexed =>
      (indexed.1.primary.map primaryKey).toList) =
        (net.attachments.filterMap (·.primary)).map primaryKey := by
    rw [map_filterMap, filterMap_eq_flatMap_toList]
    conv_rhs => rw [← zipIdx_map_fst 0 net.attachments, flatMap_map]
  constructor
  · rw [hprimary, hfirst] at hnodup
    simpa using hnodup
  · rw [halias] at hnodup'
    have := (nodup_append.1 hnodup').1
    rwa [nodup_reverse, ← map_flatMap] at this

end

/-! ## Addresses assigned twice -/

namespace AliasedPeer
open SharedNamespace

/-- The peers of `SharedNamespace`, with a second attachment that has an alias. -/
def graph (spare : String) : Graph :=
  { apart with network := apart.network.map fun net =>
      { net with attachments := net.attachments ++
          [{ id := "spare", kind := .namespaceVeth, owner := left, network := some lan
             address := some "10.0.0.3/24", aliases := some [spare]
             networkSwitch := some bridge }] } }

end AliasedPeer

section
variable {env : Environment} {catalog : Catalog} {options : LoadOptions} {graph : Graph}
  {config : GraphConfig} {net : Network}

theorem Attachment.mem_primary {a : Attachment} {p : Assignment × List Char} (h : p ∈ a.primary) :
    inetPton (cString p.2) = some p.1.address := by
  simp only [Attachment.primary, Option.bind_eq_bind, Option.mem_def, Option.bind_eq_some_iff] at h
  obtain ⟨network, -, text, -, address, haddress, h⟩ := h
  cases h
  exact haddress

/-- No address is assigned twice on a network and VLAN exactly when, of the authored
    attachments and router interfaces there, none has the primary address of one as an
    alias and no two have primary addresses that differ after a NUL only. -/
theorem assignments_distinct_iff (h : loadGraph env catalog options graph = .ok config)
    (hnet : config.authored.network = some net) :
    (config.network.attachments.map (·.bare)).Perm net.placed ∧
      (config.network.assignments.Nodup ↔
        (∀ a ∈ net.placed, ∀ p ∈ a.primary, ∀ b ∈ net.placed, ∀ q ∈ b.primary,
          p.1.network = q.1.network → p.1.vlan = q.1.vlan → cString p.2 = cString q.2 →
            p.2 = q.2) ∧
          ∀ a ∈ net.placed, ∀ p ∈ a.primary, ∀ b ∈ net.placed, p.1 ∉ b.aliasAssignments) := by
  obtain ⟨hvalue, hvalid⟩ := expandNetwork_eq_ok hnet (loadGraph_accepted h).network
  obtain ⟨hprimary, halias⟩ := validateNetwork_keys hvalid
  have hplaced := networkValue_placed hvalue
  have hprimaries : config.network.primaries.Nodup := by
    refine List.Nodup.of_map primaryKey ?_
    simpa [ResolvedNetwork.toNetwork, ResolvedNetwork.primaries, filterMap_map,
      Function.comp_def] using hprimary
  have haliases : config.network.aliases.Nodup := by
    refine List.Nodup.of_map aliasKeyOf ?_
    simpa [ResolvedNetwork.toNetwork, ResolvedNetwork.aliases, flatMap_map] using halias
  have hcarry (P : Attachment → Prop) :
      (∃ a ∈ net.placed, P a) ↔ ∃ a ∈ config.network.attachments, P a.bare := by
    simp [← hplaced.mem_iff]
  have hmem (p : Assignment × List Char) :
      p ∈ config.network.primaries ↔ ∃ a ∈ net.placed, p ∈ a.primary :=
    mem_filterMap.trans (hcarry fun a => p ∈ a.primary).symm
  have hmem' (x : Assignment) :
      x ∈ config.network.aliases ↔ ∃ a ∈ net.placed, x ∈ a.aliasAssignments :=
    mem_flatMap.trans (hcarry fun a => x ∈ a.aliasAssignments).symm
  refine ⟨hplaced, ?_⟩
  rw [ResolvedNetwork.assignments, nodup_append, nodup_map_iff_inj_on hprimaries]
  constructor
  · rintro ⟨hspelled, -, hapart⟩
    constructor
    · intro a ha p hp b hb q hq hnetwork hvlan htext
      have haddress := (Attachment.mem_primary hp).symm.trans (htext ▸ Attachment.mem_primary hq)
      have hpq : p.1 = q.1 := Assignment.ext hnetwork hvlan (Option.some.inj haddress)
      rw [hspelled p ((hmem p).2 ⟨a, ha, hp⟩) q ((hmem q).2 ⟨b, hb, hq⟩) hpq]
    · intro a ha p hp b hb hx
      exact hapart p.1 (mem_map_of_mem ((hmem p).2 ⟨a, ha, hp⟩)) p.1 ((hmem' _).2 ⟨b, hb, hx⟩) rfl
  · rintro ⟨hspelled, hapart⟩
    refine ⟨?_, haliases, ?_⟩
    · intro p hp q hq hpq
      obtain ⟨a, ha, hp⟩ := (hmem p).1 hp
      obtain ⟨b, hb, hq⟩ := (hmem q).1 hq
      -- One address has one spelling, up to a NUL.
      have htext : cString p.2 = cString q.2 := by
        rw [inetPton_eq_some (Attachment.mem_primary hp), hpq,
          ← inetPton_eq_some (Attachment.mem_primary hq)]
      exact Prod.ext hpq (hspelled a ha p hp b hb q hq (by rw [hpq]) (by rw [hpq]) htext)
    · rintro x hx y hy rfl
      obtain ⟨p, hp, rfl⟩ := mem_map.1 hx
      obtain ⟨a, ha, hp⟩ := (hmem p).1 hp
      obtain ⟨b, hb, hy⟩ := (hmem' _).1 hy
      exact hapart a ha p hp b hb hy

end

open SharedNamespace in
set_option maxRecDepth 4000 in
/-- An alias of its own. -/
theorem assignments_distinct_spare : ∃ config,
    loadGraph sampleEnvironment shippedCatalog { target := "native-linux" }
        (AliasedPeer.graph "10.0.0.4/24") = .ok config ∧
      config.network.assignments.Nodup := by
  refine ⟨_, rfl, (assignments_distinct_iff (show loadGraph sampleEnvironment shippedCatalog
    { target := "native-linux" } (AliasedPeer.graph "10.0.0.4/24") = .ok _ from rfl) rfl).2.2 ?_⟩
  decide

set_option maxRecDepth 4000 in
/-- The alias of one attachment is the address of another. -/
theorem assignments_alias_taken : ∃ config,
    loadGraph sampleEnvironment shippedCatalog { target := "native-linux" }
        (AliasedPeer.graph "10.0.0.2/24") = .ok config ∧
      ¬config.network.assignments.Nodup ∧ ∃ a ∈ config.network.attachments,
        ∃ b ∈ config.network.attachments, a.id ≠ b.id ∧ ∃ p ∈ a.primary, p.1 ∈ b.aliasAssignments := by
  refine ⟨_, rfl, ?_⟩
  decide

end GraphX.Config
