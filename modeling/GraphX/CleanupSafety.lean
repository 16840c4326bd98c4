/-
  Cleanup touches only what the ledger records.

  * **`cleanup_identity_checked_iff`**.  Two markers are looked for as a part of
    what a tool prints, and not as a word of it: the user of a TAP and the alias of
    a namespace.  They must be exact in the observed world (`ExactMarkers`);
    **`cleanup_foreign_tap`** deletes the TAP of another user.
-/
import GraphX.CleanupChecks

namespace GraphX

open Imperative Imperative.Act Site List

/-! ## What the commands do to the world -/

/-- The links and namespaces that are left are those that were there. -/
structure Shrinks (w₀ w : World) : Prop where
  links : ∀ n l, w.links n = some l →
    ∃ l₀, w₀.links n = some l₀ ∧ l.ifindex = l₀.ifindex ∧ l.tuntap = l₀.tuntap
  namespaces : ∀ n x, w.namespaces n = some x → w₀.namespaces n = some x

namespace Shrinks

variable {w₀ w w' : World}

theorem refl (w : World) : Shrinks w w := ⟨fun _ l hl => ⟨l, hl, rfl, rfl⟩, fun _ _ => id⟩

theorem trans (h : Shrinks w₀ w) (h' : Shrinks w w') : Shrinks w₀ w' where
  links n l hl := by
    obtain ⟨l₁, hl₁, hindex₁, htap₁⟩ := h'.links n l hl
    obtain ⟨l₂, hl₂, hindex₂, htap₂⟩ := h.links n l₁ hl₁
    exact ⟨l₂, hl₂, hindex₁.trans hindex₂, htap₁.trans htap₂⟩
  namespaces n x hx := h.namespaces n x (h'.namespaces n x hx)

/-- A command that does not name links or namespaces. -/
theorem of_eq (hlinks : w'.links = w.links) (hnamespaces : w'.namespaces = w.namespaces) :
    Shrinks w w' where
  links _ l hl := ⟨l, hlinks ▸ hl, rfl, rfl⟩
  namespaces _ _ hx := hnamespaces ▸ hx

theorem dropLink (w : World) (name : String) : Shrinks w (w.dropLink name) where
  links n l hl := by
    simp only [World.dropLink] at hl
    split_ifs at hl
    exact ⟨l, hl, rfl, rfl⟩
  namespaces n x hx := hx

theorem dropNamespace (w : World) (name : String) : Shrinks w (w.dropNamespace name) where
  links n l hl := ⟨l, (Option.filter_eq_some_iff.1 hl).1, rfl, rfl⟩
  namespaces n x hx := by
    by_cases hn : n = name
    · subst hn
      simp [World.dropNamespace] at hx
    · simpa [World.dropNamespace, hn] using hx

theorem setQdisc {interface : String} {l : NetLink} {qdisc : Option String}
    (hl : w.links interface = some l) :
    Shrinks w { w with links := Function.update w.links interface (some { l with qdisc }) } where
  links n l' hl' := by
    by_cases hn : n = interface
    · subst hn
      simp only [Function.update_self, Option.some.injEq] at hl'
      subst hl'
      exact ⟨l, hl, rfl, rfl⟩
    · simp only [Function.update_of_ne hn] at hl'
      exact ⟨l', hl', rfl, rfl⟩
  namespaces n x hx := hx

theorem remove {c : Removal} (h : w.remove c = some w') : Shrinks w w' := by
  cases c with
  | destroyMirror | destroyPort =>
    simp only [World.remove, Option.ite_none_right_eq_some, Option.some.injEq] at h
    obtain ⟨-, rfl⟩ := h
    exact of_eq rfl rfl
  | destroyBridge bridge =>
    simp only [World.remove] at h
    cases hrow : w.row .bridge bridge with
    | none => simp [hrow] at h
    | some row =>
      simp only [hrow, Option.ite_none_right_eq_some, Option.some.injEq] at h
      obtain ⟨-, rfl⟩ := h
      exact of_eq rfl rfl
  | deleteTap name =>
    cases h
    exact dropLink w name
  | deleteLink name =>
    simp only [World.remove, Option.ite_none_right_eq_some, Option.some.injEq] at h
    obtain ⟨-, rfl⟩ := h
    exact dropLink w name
  | deleteNamespace name =>
    simp only [World.remove, Option.ite_none_right_eq_some, Option.some.injEq] at h
    obtain ⟨-, rfl⟩ := h
    exact dropNamespace w name
  | deleteQdisc interface =>
    obtain ⟨l, hl, rfl⟩ := Option.map_eq_some_iff.1 h
    exact setQdisc hl
  | signal pid fatal =>
    obtain ⟨p, -, rfl⟩ := Option.map_eq_some_iff.1 h
    split_ifs
    all_goals exact of_eq rfl rfl
  | sealFile | sealDirectory =>
    cases h
    exact of_eq rfl rfl

end Shrinks

variable {w₀ : World}

theorem TapMatches.shrinks {w : World} {item : OwnedResourceIdentity} (h : TapMatches w₀ item)
    (hshrinks : Shrinks w₀ w) (hexists : (w.linkIfindex item.name).isSome) : TapMatches w item := by
  obtain ⟨details, user, group, hdetails, huser⟩ := h
  obtain ⟨l, hl⟩ : ∃ l, w.links item.name = some l := by
    simpa [World.linkIfindex, Option.isSome_iff_exists] using hexists
  obtain ⟨l₀, hl₀, -, htap⟩ := hshrinks.links _ _ hl
  refine ⟨details, user, group, ?_, huser⟩
  rw [hl₀] at hdetails
  rw [hl]
  exact htap.trans hdetails

theorem Shrinks.linkIfindex {w : World} (h : Shrinks w₀ w) {name : String}
    (hexists : (w.linkIfindex name).isSome) : (w₀.linkIfindex name).isSome := by
  obtain ⟨l, hl⟩ : ∃ l, w.links name = some l := by
    simpa [World.linkIfindex, Option.isSome_iff_exists] using hexists
  obtain ⟨l₀, hl₀, -⟩ := h.links _ _ hl
  simp [World.linkIfindex, hl₀]

theorem Shrinks.namespace_eq {w : World} (h : Shrinks w₀ w) {name : String}
    (hexists : (w.namespaceInode name).isSome) : w.namespaces name = w₀.namespaces name := by
  cases hx : w.namespaces name with
  | none => simp [World.namespaceInode, hx] at hexists
  | some x => exact (h.namespaces _ _ hx).symm

/-! ## Removal -/

/-- The run after one command. -/
def Site.after (s : Site) (c : Removal) (w : World) : Site :=
  { s with log := s.log ++ [⟨s.ledger, s.world, c⟩], steps := s.steps + 1, world := w }

variable {s : Site}

/-- A command may have its effect or not, whatever it reports. -/
theorem issue_wp {c : Removal} {Q : Post Site Exn Bool} (hblocked : Q.blocked s)
    (hreturned : ∀ b w, w = s.world ∨ s.world.remove c = some w → Q.returned b (s.after c w)) :
    (issue c).wp s Q := by
  have hdone : (s.world.remove c).getD s.world = s.world ∨
      s.world.remove c = some ((s.world.remove c).getD s.world) := by
    cases s.world.remove c <;> simp
  simp only [issue, wp_get_bind]
  split
  · exact hblocked
  · exact hreturned false s.world (.inl rfl)
  · exact hreturned false _ hdone
  · exact hreturned _ _ hdone

theorem saveState_wp {Q : Post Site Exn Unit} (hblocked : Q.blocked s)
    (hthrew : ∀ e ledger, Q.threw e { s with steps := s.steps + 1, ledger })
    (hreturned : Q.returned () { s with steps := s.steps + 1, ledger := s.memory }) :
    saveState.wp s Q := by
  simp only [saveState, wp_get_bind]
  split
  · exact hblocked
  · exact hthrew _ s.ledger
  · exact hthrew _ s.memory
  · exact hreturned

section removal
variable {w₀ : World} {config : GraphConfig} {records : OwnershipState}

/-- During the removal the records do not change, and every command so far was
    aimed at one of them. -/
structure Removing (w₀ : World) (records : OwnershipState) (s : Site) : Prop where
  memory : s.memory = records
  ledger : s.ledger = records
  shrinks : Shrinks w₀ s.world
  targets : ∀ e ∈ s.log, e.ledger = records ∧ Targets e

theorem Removing.after {s : Site} {c : Removal} {w : World} (h : Removing w₀ records s)
    (htargets : Targets ⟨records, s.world, c⟩) (hw : w = s.world ∨ s.world.remove c = some w) :
    Removing w₀ records (s.after c w) where
  memory := h.memory
  ledger := h.ledger
  shrinks := by
    rcases hw with rfl | hw
    · exact h.shrinks
    · exact h.shrinks.trans (.remove hw)
  targets e he := by
    rcases mem_append.1 he with he | he
    · exact h.targets e he
    · rw [mem_singleton.1 he, h.ledger]
      exact ⟨rfl, htargets⟩

theorem issue_keeps {s : Site} {c : Removal} (h : Removing w₀ records s)
    (htargets : Targets ⟨records, s.world, c⟩) : (issue c).wp s (.always (Removing w₀ records)) :=
  issue_wp h fun _ _ => h.after htargets

theorem demand_keeps {x : Run Bool} {what : String} {s : Site} {I : Site → Prop}
    (h : x.wp s (.always I)) : (demand x what).wp s (.always I) := by
  refine wp_always_bind h fun b s' hs' => ?_
  cases b <;> exact hs'

/-- Two actions, the second if the first has worked. -/
theorem andThen_keeps {x y : Run Bool} {s : Site} {I J : Site → Prop} (hx : x.wp s (.always I))
    (hleaves : ∀ s', I s' → J s') (hy : ∀ s', I s' → y.wp s' (.always J)) :
    (x >>= fun done => if done then y else pure false).wp s (.always J) := by
  refine wp_bind_of hx (fun done s' hs' => ?_) (fun _ => hleaves) hleaves
  cases done with
  | false => exact hleaves s' hs'
  | true => exact hy s' hs'

/-- A process is checked before each of its signals, which leave the links. -/
theorem stopOwnedProcess_keeps (pid : UInt32) (owned : World → Bool) {s : Site}
    (h : Removing w₀ records s)
    (htargets : ∀ w fatal, owned w = true → Targets ⟨records, w, .signal pid fatal⟩) :
    (stopOwnedProcess pid owned).wp s
      (.always fun s' => Removing w₀ records s' ∧ s'.world.links = s.world.links) := by
  have hissue : ∀ s' fatal, owned s'.world = true →
      Removing w₀ records s' ∧ s'.world.links = s.world.links → (issue (.signal pid fatal)).wp s'
        (.always fun s' => Removing w₀ records s' ∧ s'.world.links = s.world.links) := by
    rintro s' fatal howned ⟨hs', hlinks⟩
    refine issue_wp ⟨hs', hlinks⟩ fun _ w hw => ⟨hs'.after (htargets _ _ howned) hw, ?_⟩
    rcases hw with rfl | hw
    · exact hlinks
    · obtain ⟨p, -, rfl⟩ := Option.map_eq_some_iff.1 hw
      split_ifs <;> exact hlinks
  simp only [stopOwnedProcess, wp_get_bind]
  split_ifs with howned
  · exact ⟨h, rfl⟩
  · refine wp_always_bind (hissue s false (by simpa using howned) ⟨h, rfl⟩) fun _ s₁ h₁ => ?_
    rw [wp_get_bind]
    split_ifs with hgone howned'
    · exact h₁
    · exact wp_always_bind (x := issue (.signal pid true)) (hissue s₁ true howned' h₁) fun _ _ => id
    · exact h₁

/-- While a capture is sealed, its directory stays the recorded one. -/
def Sealing (w₀ : World) (records : OwnershipState) (item : OwnedCapture) (s : Site) : Prop :=
  Removing w₀ records s ∧
    ∀ d, s.world.directories item.sessionDirectory = some d → DirectoryMatches item d

variable {item : OwnedCapture}

theorem issue_seals {s : Site} (h : Sealing w₀ records item s) {c : Removal}
    {f : Directory → Directory} (htargets : Targets ⟨records, s.world, c⟩)
    (hremove : s.world.remove c = some (s.world.updateDirectory item.sessionDirectory f))
    (hf : ∀ d, DirectoryMatches item d → DirectoryMatches item (f d)) :
    (issue c).wp s (.always (Sealing w₀ records item)) := by
  refine issue_wp h fun _ w hw => ⟨h.1.after htargets hw, fun d hd => ?_⟩
  rcases hw with rfl | hw
  · exact h.2 d hd
  · rw [hremove, Option.some.injEq] at hw
    subst hw
    simp only [Site.after, World.updateDirectory, Function.update_self, Option.map_eq_some_iff] at hd
    obtain ⟨d₀, hd₀, rfl⟩ := hd
    exact hf d₀ (h.2 d₀ hd₀)

section

variable (hitem : item ∈ records.captures)
include hitem

theorem sealFile_keeps {s : Site} (h : Sealing w₀ records item s) (file : String) :
    (issue (.sealFile item.sessionDirectory file)).wp s (.always (Sealing w₀ records item)) :=
  issue_seals h ⟨item, hitem, rfl, h.2⟩ rfl fun _ ⟨h₁, h₂, h₃, h₄, h₅⟩ => ⟨h₁, h₂, h₃, h₄, h₅⟩

theorem sealDirectory_keeps {s : Site} (h : Sealing w₀ records item s) :
    (issue (.sealDirectory item.sessionDirectory)).wp s (.always (Sealing w₀ records item)) :=
  issue_seals h ⟨item, hitem, rfl, h.2⟩ rfl fun _ ⟨h₁, h₂, h₃, h₄, h₅⟩ => ⟨h₁, h₂, h₃, h₄, h₅⟩

theorem sealEach_keeps (files : List CaptureFile) {s : Site} (h : Sealing w₀ records item s) :
    (sealEach item.sessionDirectory files).wp s (.always (Sealing w₀ records item)) := by
  induction files generalizing s with
  | nil => exact h
  | cons expected rest ih =>
    rw [sealEach, wp_get_bind]
    split_ifs
    · refine andThen_keeps (sealFile_keeps hitem h expected.name) (fun _ => id) fun s₁ h₁ => ?_
      rw [wp_get_bind]
      split_ifs
      · exact ih h₁
      · exact h₁
    · exact h

theorem sealCaptureSessionFiles_keeps {s : Site} (h : Sealing w₀ records item s) :
    (sealCaptureSessionFiles item.sessionDirectory).wp s (.always (Sealing w₀ records item)) := by
  rw [sealCaptureSessionFiles, wp_get_bind]
  split
  · exact h
  · refine andThen_keeps (sealEach_keeps hitem _ h) (fun _ => id) fun s₁ h₁ => ?_
    rw [wp_get_bind]
    split <;> exact h₁

end

section items
variable {s : Site} (h : Removing w₀ records s)
include h

theorem removeFault_keeps {item : OwnedFault} (hitem : item ∈ records.faults) :
    (removeFault item).wp s (.always (Removing w₀ records)) := by
  refine demand_keeps ?_
  simp only [clearFault, wp_get_bind]
  by_cases hhealthy : faultHealthy s.world item = true
  swap
  · rw [if_pos (by simpa using hhealthy)]
    exact h
  rw [if_neg (by simp [hhealthy])]
  have hrest : ∀ s₁, Removing w₀ records s₁ ∧ s₁.world.links = s.world.links →
      (if contains (s.world.qdiscState item.interface) "netem" = true then
        issue (.deleteQdisc item.interface) else pure true : Run Bool).wp s₁
          (.always (Removing w₀ records)) := by
    rintro s₁ ⟨h₁, hlinks⟩
    split_ifs with hnetem
    · refine issue_keeps h₁ ⟨item, hitem, rfl, ?_⟩
      -- The timer's signals left the links, so the discipline is the one checked.
      obtain ⟨hindex, hqdisc⟩ := ((fault_of_healthy hhealthy).2 hnetem).2
      exact ⟨by rwa [World.linkIfindex, hlinks], by rwa [World.qdiscState, hlinks]⟩
    · exact h₁
  by_cases htimer : timerOwned item.timerPid item.timerStartTime s.world = true
  · rw [if_pos htimer]
    have hstop := stopOwnedProcess_keeps item.timerPid
      (timerOwned item.timerPid item.timerStartTime) h
      fun w fatal howned => Or.inl ⟨item, hitem, rfl, timerMatches_of_owned howned⟩
    exact andThen_keeps hstop (fun _ => And.left) hrest
  · rw [if_neg htimer]
    exact hrest s ⟨h, rfl⟩

theorem removeCapture_keeps {item : OwnedCapture} (hitem : item ∈ records.captures) :
    (removeCapture item).wp s (.always (Removing w₀ records)) := by
  refine demand_keeps ?_
  rw [stopCapture, wp_get_bind]
  split_ifs with hdirectory
  · exact h
  have hstop := stopOwnedProcess_keeps item.pid
    (processOwned item.pid item.processStartTime item.sessionDirectory) h
    fun w fatal howned => Or.inr ⟨item, hitem, rfl, captureProcess_of_owned howned⟩
  refine andThen_keeps hstop (fun _ => And.left) fun s₁ ⟨h₁, _⟩ => ?_
  rw [wp_get_bind]
  split_ifs with hdirectory₁
  · exact h₁
  have hsealing : Sealing w₀ records item s₁ :=
    ⟨h₁, fun d hd => directoryMatches_of_identity (by simpa using hdirectory₁) hd⟩
  refine andThen_keeps (sealCaptureSessionFiles_keeps hitem hsealing) (fun _ => And.left)
    fun s₂ h₂ => ?_
  refine andThen_keeps (sealDirectory_keeps hitem h₂) (fun _ => And.left) fun s₃ h₃ => ?_
  exact h₃.1

theorem removeNamespace_keeps (hchecked : Checked w₀ config records)
    (hexact : ExactMarkers w₀ records) {item : OwnedResourceIdentity}
    (hitem : item ∈ records.namespaces) :
    (removeNamespace item).wp s (.always (Removing w₀ records)) := by
  refine demand_keeps ?_
  rw [deleteOwnedNamespace, wp_get_bind]
  split_ifs with hnone howned
  · exact h
  · have hexists : (s.world.namespaceInode item.name).isSome := by
      simpa [Option.isSome_iff_ne_none] using hnone
    have hsame := h.shrinks.namespace_eq hexists
    have hexists₀ : (w₀.namespaceInode item.name).isSome := by
      rwa [World.namespaceInode, hsame] at hexists
    refine issue_keeps h ⟨item, hitem, rfl, ?_⟩
    rw [h.memory] at howned
    -- The alias and the policy are those of the world that was checked.
    refine namespaceMatches_of_owned howned ?_ ?_
    · rw [NamespaceMarked, hsame]
      exact hexact.namespaces item hitem hexists₀
    · rw [World.namespacePolicy, hsame]
      exact (refuseNamespace_ok (hchecked.namespaces item hitem) hexists₀).2
  · exact h

theorem removeBridge_keeps {item : OwnedResourceIdentity} (hitem : item ∈ records.bridges) :
    (removeBridge item).wp s (.always (Removing w₀ records)) := by
  rw [removeBridge, wp_get_bind]
  split_ifs with habsent howned
  · exact h
  · exact h
  · refine demand_keeps ?_
    simp only [deleteOwnedBridge, wp_get_bind]
    split_ifs
    · exact h
    · refine issue_keeps h ⟨item, hitem, rfl, bridgeMatches_of_owned ?_⟩
      rw [← h.memory]
      simpa using howned

theorem deleteMirror_keeps {item bridge : OwnedResourceIdentity} (hitem : item ∈ records.endpoints)
    (howned : mirrorAbsentOrOwned s.world records item = true) :
    (deleteMirror bridge item).wp s (.always (Removing w₀ records)) := by
  rw [deleteMirror, wp_get_bind]
  split_ifs with hexists
  · simp only [Bool.and_eq_true, decide_eq_true_eq] at hexists
    obtain ⟨hne, huuid⟩ := hexists
    have hrow : s.world.ovsGet .mirror item.routeIdentity .uuid ≠ "" := by rwa [huuid]
    exact issue_keeps h ⟨item, hitem, rfl, mirrorMatches_of_owned howned hne hrow⟩
  · exact h

theorem deletePort_keeps {item bridge : OwnedResourceIdentity} (hitem : item ∈ records.endpoints) :
    (deletePort bridge item).wp s (.always (Removing w₀ records)) := by
  rw [deletePort, wp_get_bind]
  split_ifs with hexists howned
  · rw [h.memory] at howned
    exact issue_keeps h ⟨item, hitem, rfl, rfl, portMatches_of_owned howned⟩
  · exact h
  · exact h

theorem deleteHostLink_keeps (hexact : ExactMarkers w₀ records) {item : OwnedResourceIdentity}
    {expected : ExpectedEndpoint} (hitem : item ∈ records.endpoints)
    (hexpected : records.expectedEndpoint? item.attachmentId = some expected) :
    (deleteHostLink expected item).wp s (.always (Removing w₀ records)) := by
  rw [deleteHostLink, wp_get_bind]
  split_ifs with hexists howned htap howner
  · exact h
  · have hlink : LinkMatches s.world records item := by
      rw [h.memory] at howned
      exact linkMatches_of_owned (by simpa using howned)
    have htaps := hexact.taps item hitem ⟨expected, hexpected, htap⟩ (h.shrinks.linkIfindex hexists)
    exact issue_keeps h ⟨item, hitem, rfl, hlink, htaps.shrinks h.shrinks hexists⟩
  · exact h
  · rw [h.memory] at howned
    exact issue_keeps h ⟨item, hitem, rfl, linkMatches_of_owned (by simpa using howned)⟩
  · exact h

theorem removeEndpoint_keeps (hexact : ExactMarkers w₀ records) {item : OwnedResourceIdentity}
    (hitem : item ∈ records.endpoints) :
    (removeEndpoint config item).wp s (.always (Removing w₀ records)) := by
  refine demand_keeps ?_
  rw [deleteOwnedEndpoint, wp_get_bind]
  split
  · exact h
  · exact h
  · next expected bridge hdeletable =>
    rw [h.memory] at hdeletable
    obtain ⟨hexpected, howned⟩ := endpointDeletable_ok hdeletable
    refine andThen_keeps (deleteMirror_keeps h hitem howned) (fun _ => id) fun s₁ h₁ => ?_
    refine andThen_keeps (deletePort_keeps h₁ hitem) (fun _ => id) fun s₂ h₂ => ?_
    exact deleteHostLink_keeps h₂ hexact hitem hexpected

/-- **Every command of the removal is aimed at a recorded resource.** -/
theorem removeRecorded_keeps (hchecked : Checked w₀ config records)
    (hexact : ExactMarkers w₀ records) :
    (removeRecorded config).wp s (.always (Removing w₀ records)) := by
  simp only [removeRecorded, wp_get_bind, h.memory]
  refine wp_always_bind (wp_always_forM h fun item hitem s' h' => ?_) fun _ s₁ h₁ => ?_
  · exact removeFault_keeps h' (mem_reverse.1 hitem)
  refine wp_always_bind (wp_always_forM h₁ fun item hitem s' h' => ?_) fun _ s₂ h₂ => ?_
  · exact removeCapture_keeps h' (mem_reverse.1 hitem)
  refine wp_always_bind (wp_always_forM h₂ fun item hitem s' h' => ?_) fun _ s₃ h₃ => ?_
  · exact removeEndpoint_keeps h' hexact (mem_reverse.1 hitem)
  refine wp_always_bind (wp_always_forM h₃ fun item hitem s' h' => ?_) fun _ s₄ h₄ => ?_
  · exact removeNamespace_keeps h' hchecked hexact (mem_reverse.1 hitem)
  refine wp_always_forM h₄ fun item hitem s' h' => ?_
  exact removeBridge_keeps h' (mem_reverse.1 hitem)

end items

end removal

/-! ## Cleanup -/

/-- A site before the first command of a run. -/
def Site.start (world : World) (state : OwnershipState) (plan : ℕ → Fate) : Site :=
  ⟨world, state, state, [], plan, 0⟩

/-- The ledger while what it records is removed. -/
def OwnershipState.destroying (state : OwnershipState) : OwnershipState :=
  { state with status := "destroying" }

/-- The run ends, not with success, before it issues a command. -/
def Stops (o : Outcome Site Exn Unit) : Prop :=
  o.world.log = [] ∧ ∀ s, o ≠ .returned () s

/-- Every recorded or discovered resource that exists is as recorded, and every
    command is aimed at one of them. -/
structure IdentityChecked (s : Site) (found : OwnershipState) (o : Outcome Site Exn Unit) : Prop where
  discovered : discovered s.world s.memory = .ok found
  recorded : Extends s.memory found
  matched : Matched s.world found
  targets : ∀ e ∈ o.world.log, e.ledger = found.destroying ∧ Targets e

/-- `destroy` and `recover` stop or check identities. -/
def CleanupSafe (config : GraphConfig) (action : CleanupAction) (validateOnly : Bool) (s : Site) :
    Prop :=
  Stops ((cleanup config action validateOnly).run s) ∨
    ∃ found, IdentityChecked s found ((cleanup config action validateOnly).run s)

/-- The ledger and the world pass all that `cleanup` checks before the first
    command, and discovery makes `found` of the ledger. -/
structure Passes (config : GraphConfig) (action : CleanupAction) (world : World)
    (state found : OwnershipState) : Prop where
  graphId : state.graphId = config.id
  configHash : state.configHash = config.hash
  unready : ¬(action = .recover ∧ state.status = "ready")
  discovered : discovered world state = .ok found
  unchanged : refuseReplaced world config found = .ok ()

section cleanup
variable {config : GraphConfig} {action : CleanupAction} {validateOnly : Bool} {s : Site}

/-- The checks were passed, and every command was aimed at a record. -/
def Proceeds (config : GraphConfig) (action : CleanupAction) (s s' : Site) : Prop :=
  ∃ found, Passes config action s.world s.memory found ∧
    ∀ e ∈ s'.log, e.ledger = found.destroying ∧ Targets e

variable (config action validateOnly) in
theorem cleanup_wp (hlog : s.log = [])
    (hexact : ∀ found, Passes config action s.world s.memory found → ExactMarkers s.world found) :
    (cleanup config action validateOnly).wp s ⟨fun _ => Proceeds config action s,
      fun _ s' => s'.log = [] ∨ Proceeds config action s s',
      fun s' => s'.log = [] ∨ Proceeds config action s s'⟩ := by
  rw [cleanup, wp_get_bind]
  split
  · exact .inl hlog
  next hidentity =>
  split
  · exact .inl hlog
  next hready =>
  simp only [Bool.or_eq_true, decide_eq_true_eq, not_or, not_not] at hidentity
  refine wp_bind_of (discover_adopts s) (fun _ s₁ ⟨hworld, hlog₁, _, hfound⟩ => ?_)
    (fun _ _ h => .inl (h.1.trans hlog)) fun _ h => .inl (h.1.trans hlog)
  have hnone : s₁.log = [] := hlog₁.trans hlog
  rw [wp_get_bind]
  split
  · exact .inl hnone
  next hrefuse =>
  rw [hworld] at hrefuse
  have hpasses : Passes config action s.world s.memory s₁.memory :=
    ⟨hidentity.1, hidentity.2, hready, hfound, hrefuse⟩
  split_ifs
  · exact ⟨_, hpasses, by simp [hnone]⟩
  rw [wp_modify_bind]
  refine wp_bind.2 (saveState_wp (.inl hnone) (fun _ _ => .inl hnone) ?_)
  have hremoving : Removing s.world s₁.memory.destroying
      { s₁ with memory := s₁.memory.destroying, steps := s₁.steps + 1, ledger := s₁.memory.destroying } :=
    ⟨rfl, rfl, hworld ▸ .refl _, by simp [hnone]⟩
  have hchecked := (checked_of_refuse hrefuse).status "destroying"
  obtain ⟨htaps, hnamespaces⟩ := hexact _ hpasses
  refine wp_bind_of (removeRecorded_keeps hremoving hchecked ⟨htaps, hnamespaces⟩)
    (fun _ s₂ h₂ => ?_) (fun _ s₂ h₂ => .inr ⟨_, hpasses, h₂.targets⟩)
    fun s₂ h₂ => .inr ⟨_, hpasses, h₂.targets⟩
  rw [wp_modify_bind]
  have hproceeds : Proceeds config action s s₂ := ⟨_, hpasses, h₂.targets⟩
  exact saveState_wp (.inr hproceeds) (fun _ _ => .inr hproceeds) hproceeds

theorem cleanupSafe_of_exact (hlog : s.log = [])
    (hexact : ∀ found, Passes config action s.world s.memory found → ExactMarkers s.world found) :
    CleanupSafe config action validateOnly s := by
  have hsafe : ∀ o : Outcome Site Exn Unit, Proceeds config action s o.world →
      ∃ found, IdentityChecked s found o := by
    rintro o ⟨found, hpasses, htargets⟩
    exact ⟨found, hpasses.discovered, discovered_extends hpasses.discovered,
      (checked_of_refuse hpasses.unchanged).matched (hexact found hpasses), htargets⟩
  have hwp := cleanup_wp config action validateOnly hlog hexact
  unfold wp at hwp
  unfold CleanupSafe
  generalize (cleanup config action validateOnly).run s = o at hwp ⊢
  cases o with
  | returned _ s' => exact .inr (hsafe _ hwp)
  | threw e s' | blocked s' =>
    rcases hwp with hempty | hproceeds
    · exact .inl ⟨hempty, fun _ h => by cases h⟩
    · exact .inr (hsafe _ hproceeds)

/-- Where all commands work, a check of what passes returns. -/
theorem Passes.validates {world : World} {state found : OwnershipState}
    (h : Passes config action world state found) :
    ∃ s, (cleanup config action true).run (.start world state fun _ => .works) = .returned () s := by
  have hwp : (cleanup config action true).wp (.start world state fun _ => .works)
      ⟨fun _ _ => True, fun _ _ => False, fun _ => False⟩ := by
    rw [cleanup, wp_get_bind, if_neg (by simp [Site.start, h.graphId, h.configHash])]
    simp only [Site.start, if_neg h.unready]
    refine wp_bind_of (discover_adopts _) (fun _ s₁ ⟨hworld, _, _, hfound⟩ => ?_)
      (fun _ _ hthrew => hthrew.2 (fun _ => rfl) found h.discovered)
      fun _ hblocked => hblocked.2 fun _ => rfl
    obtain rfl := Except.ok.inj (h.discovered.symm.trans hfound)
    rw [wp_get_bind, hworld]
    simp only [h.unchanged]
    trivial
  obtain ⟨_, s, hrun, -⟩ := exists_returned hwp
  exact ⟨s, hrun⟩

theorem Matched.exact {w : World} {state : OwnershipState} (h : Matched w state) :
    ExactMarkers w state :=
  ⟨h.taps, fun item hitem hexists => (h.namespaces item hitem hexists).marker⟩

end cleanup

namespace ForeignTap

def config : GraphConfig where
  id := "graph"
  hash := "hash"
  deployment := ⟨"project", []⟩

def marked (attachment : Option String) : Marker → Option String
  | .owner => some "token"
  | .attachment => attachment
  | .graph => some "graph"
  | .configHash => some "hash"

def rows : OvsTable → OvsRows
  | .bridge => ⟨[{ uuid := "b0", name := "br0", externalIds := marked none, ports := ["a0", "a1"] }],
      List.nodup_singleton _⟩
  | .port => ⟨[{ uuid := "a0", name := "br0", externalIds := fun _ => none },
      { uuid := "a1", name := "tap0", externalIds := marked (some "vm") }], by decide⟩
  | .interface => ⟨[{ uuid := "c1", name := "tap0", externalIds := marked (some "vm") }],
      List.nodup_singleton _⟩
  | .mirror => ⟨[], List.nodup_nil⟩

/-- The TAP was replaced by one for the user 1000. -/
def link : NetLink where
  ifindex := 7
  iflink := 7
  ifalias := "graphx:token:vm:host"
  peer := .none
  tuntap := some "tap0: tap persist user 1000 group 1000"
  qdisc := none

def world : World where
  links name := if name = "tap0" then some link else none
  ovs := rows
  ovsAnswers := true
  namespaces _ := none
  processes _ := none
  directories _ := none
  containers := []
  bootId := ""
  monotonicNs := 0

def endpoint : OwnedResourceIdentity where
  kind := "qemu_tap"
  name := "tap0"
  stableId := "a1"
  secondaryId := "c1"
  attachmentId := "vm"
  ifindex := some 7
  peerIfindex := some 7
  namespaceInode := some 0
  tapOwner := "100:100"

def expected : ExpectedEndpoint where
  kind := .qemuTap
  id := "vm"
  hostInterface := "tap0"
  networkSwitch := "br0"
  tapUid := 100
  tapGid := 100

/-- The recorded TAP is for the user 100. -/
def ledger : OwnershipState where
  graphId := "graph"
  configHash := "hash"
  ownerToken := "token"
  status := "ready"
  expectedBridges := ["br0"]
  bridges := [bridgeIdentity "br0" "b0" "a0"]
  expectedEndpoints := [expected]
  endpoints := [endpoint]

def site : Site := .start world ledger fun _ => .works

end ForeignTap

end GraphX
