/-
  The counters of the control plane: what was issued is accepted, rejected, timed out or
  pending (`Balanced.run`).  `randomUUID` draws an identifier that was not drawn before.
-/
import GraphX.ControlCalls

namespace GraphX

open Ecma ControlPlane List

/-- The counters agree with the table. -/
structure Balanced (plane : ControlPlane) : Prop where
  nodup : plane.ids.Nodup
  timeout : ∀ c ∈ plane.commands, c.expiresAt ≤ c.issuedAt + 30000
  size : (plane.commands.length : ℤ) ≤ plane.config.maxCommands
  balance : plane.stats.issued =
    plane.stats.accepted + plane.stats.rejected + plane.stats.timedOut + plane.pendingCount

namespace ControlPlane

variable {plane : ControlPlane} {c : Command}

/-- A pending command is not deleted before it has timed out. -/
theorem pendingCount_maintain (h : ∀ c ∈ plane.commands, c.expiresAt ≤ c.issuedAt + 30000) (t : ℤ) :
    (plane.maintain t).pendingCount + plane.commands.countP (hasExpired t) = plane.pendingCount := by
  have hretention := plane.config.commandRetentionSeconds.2.1
  have hkept : (plane.maintain t).pendingCount =
      (plane.commands.filter fun c => !hasExpired t c).countP (·.status = .pending) := by
    rw [pendingCount, maintain, countP_filter, countP_map, countP_filter]
    refine countP_congr fun c hc => ?_
    have htimeout := h c hc
    simp only [Function.comp_apply, Bool.and_eq_true, decide_eq_true_eq, Bool.not_eq_true',
      decide_eq_false_iff_not, expire, hasExpired, Bool.and_eq_false_iff]
    split_ifs with hexpired
    · simp only [false_and, false_iff, not_and, not_or]
      exact fun hpending => ⟨fun hnot => hnot hpending, fun hlate => hlate hexpired.2⟩
    · refine and_congr_right fun hpending => ?_
      have hearly : ¬t ≥ c.expiresAt := fun hlate => hexpired ⟨hpending, hlate⟩
      exact iff_of_true (by omega) (.inr hearly)
  have hexpired : plane.commands.countP (hasExpired t) =
      (plane.commands.filter (hasExpired t)).countP (·.status = .pending) := by
    rw [countP_filter]
    refine countP_congr fun c _ => ?_
    simp [hasExpired]
  rw [hkept, hexpired, Nat.add_comm]
  exact (countP_eq_countP_filter_add _ _ _).symm

theorem ids_maintain (plane : ControlPlane) (t : ℤ) : (plane.maintain t).ids.Sublist plane.ids := by
  have h : (plane.commands.map (expire t)).map (·.id) = plane.ids := by
    simp [ids]
  rw [← h]
  exact filter_sublist.map _

theorem length_maintain (plane : ControlPlane) (t : ℤ) :
    (plane.maintain t).commands.length ≤ plane.commands.length :=
  (length_filter_le _ _).trans_eq (length_map _)

theorem setCommand_new (h : c.id ∉ plane.ids) :
    (plane.setCommand c).commands = plane.commands ++ [c] := by
  unfold setCommand
  rw [if_neg]
  intro hany
  obtain ⟨d, hd, heq⟩ := any_eq_true.1 hany
  exact h (mem_map.2 ⟨d, hd, by simpa using heq⟩)

theorem setCommand_replace (hnodup : plane.ids.Nodup) (hc : c ∈ plane.commands) {d : Command}
    (hid : d.id = c.id) : ∃ before after, plane.commands = before ++ c :: after ∧
      (plane.setCommand d).commands = before ++ d :: after := by
  obtain ⟨before, after, hsplit⟩ := append_of_mem hc
  refine ⟨before, after, hsplit, ?_⟩
  rw [ids, hsplit, map_append, map_cons, nodup_middle, nodup_cons,
    ← map_append] at hnodup
  have hother : ∀ e ∈ before ++ after, (if e.id = d.id then d else e) = e := fun e he =>
    if_neg fun heq => hnodup.1 (mem_map.2 ⟨e, he, heq.trans hid⟩)
  have hsame : ∀ l : List Command, (∀ e ∈ l, e ∈ before ++ after) →
      l.map (fun e => if e.id = d.id then d else e) = l := fun l hl =>
    (map_congr_left fun e he => hother e (hl e he)).trans (map_id' l)
  have hany : plane.commands.any (·.id = d.id) = true :=
    any_eq_true.2 ⟨c, hc, by simp [hid]⟩
  simp only [setCommand, if_pos hany]
  rw [hsplit, map_append, map_cons, if_pos hid.symm,
    hsame before fun e he => mem_append_left _ he,
    hsame after fun e he => mem_append_right _ he]

end ControlPlane

namespace Balanced

variable {plane : ControlPlane} (h : Balanced plane)
include h

theorem maintain (t : ℤ) : Balanced (plane.maintain t) where
  nodup := h.nodup.sublist (plane.ids_maintain t)
  timeout d hd := by
    obtain ⟨c, hc, rfl, -⟩ := mem_maintain.1 hd
    rw [(successor_expire t c).issuedAt, (successor_expire t c).expiresAt]
    exact h.timeout c hc
  size := (Int.ofNat_le.2 (plane.length_maintain t)).trans h.size
  balance := by
    have hpending := pendingCount_maintain h.timeout t
    have hbalance := h.balance
    simp only [ControlPlane.maintain] at hpending ⊢
    omega

theorem recordCommand {m : IssueMoment} (hfresh : m.uuid ∉ plane.ids) (r : ControlRequest)
    (cacheKey : Option Text) (delivered : Command → ℕ)
    (hsize : (plane.commands.length : ℤ) < plane.config.maxCommands) :
    Balanced (plane.recordCommand (plane.issuedCommand m r delivered) cacheKey) := by
  set c := plane.issuedCommand m r delivered
  have hcommands := @setCommand_new plane c hfresh
  refine ⟨?_, ?_, ?_, ?_⟩
  · rw [ids, recordCommand_commands, hcommands, map_append, map_singleton, nodup_append_comm]
    exact nodup_cons.2 ⟨hfresh, h.nodup⟩
  · rw [recordCommand_commands, hcommands]
    refine forall_mem_append.2 ⟨h.timeout, forall_mem_singleton.2 ?_⟩
    have := plane.config.commandTimeoutMs.2.2
    simpa [c, issuedCommand, newCommand] using this
  · rw [recordCommand_commands, hcommands, recordCommand_config, length_append]
    exact hsize
  · have hbalance := h.balance
    have hstats : (plane.recordCommand c cacheKey).stats = { plane.stats with
        issued := plane.stats.issued + 1
        accepted := if r.action = .reset then plane.stats.accepted + 1 else plane.stats.accepted } := by
      cases cacheKey <;> rfl
    rw [pendingCount, recordCommand_commands, hcommands, countP_append, hstats]
    rw [pendingCount] at hbalance
    by_cases hreset : r.action = .reset
    · have hstatus : c.status = .accepted := if_pos hreset
      simp only [if_pos hreset, countP_singleton, hstatus]
      simp
      omega
    · have hstatus : c.status = .pending := if_neg hreset
      simp only [if_neg hreset, countP_singleton, hstatus, decide_true, if_true]
      omega

theorem recordAnswer {c : Command} (hc : c ∈ plane.commands) (hpending : c.status = .pending)
    (node : Text) (a : Acknowledgement) : Balanced (plane.recordAnswer c node a) := by
  obtain ⟨before, after, hsplit, hset⟩ := setCommand_replace h.nodup hc
    (d := acknowledged c node a) rfl
  refine ⟨?_, ?_, ?_, ?_⟩
  · have hnodup := h.nodup
    rw [ids, hsplit] at hnodup
    rw [ids, ControlPlane.recordAnswer, hset]
    simpa [acknowledged] using hnodup
  · intro d hd
    rcases mem_setCommand hd with rfl | ⟨hd, -⟩
    · exact h.timeout c hc
    · exact h.timeout d hd
  · have hsize := h.size
    rw [hsplit] at hsize
    rw [ControlPlane.recordAnswer, hset]
    simpa [setCommand] using hsize
  · have hbalance := h.balance
    rw [pendingCount, hsplit, countP_append] at hbalance
    rw [pendingCount, ControlPlane.recordAnswer, hset, countP_append]
    simp only [acknowledged]
    split_ifs <;> simp_all <;> omega

theorem step {call : PlaneCall} (hfresh : ∀ id ∈ plane.ids, call.uuid ≠ some id) :
    Balanced (call.step plane) := by
  have hpassed : Balanced (call.passed plane) :=
    PlaneCall.passed_induction _ h fun _ t hp => hp.maintain t
  have hids : (call.passed plane).ids ⊆ plane.ids :=
    PlaneCall.passed_induction (fun p => p.ids ⊆ plane.ids) (fun _ hid => hid)
      fun p t hp => List.Subset.trans (p.ids_maintain t).subset hp
  have heffect := PlaneCall.step_effect plane call
  generalize call.step plane = after at heffect
  cases heffect with
  | kept => exact hpassed
  | replayed | dropped => exact ⟨hpassed.nodup, hpassed.timeout, hpassed.size, hpassed.balance⟩
  | issued m r delivered c hc hgone hsize =>
    rw [hc]
    refine hpassed.recordCommand (fun hmem => hfresh _ (hids hmem) rfl) r _ delivered ?_
    rwa [PlaneCall.passed_config.1]
  | answered event t c node hanswers =>
    exact hpassed.recordAnswer (command_eq_some hanswers.command).1 hanswers.pending node _

end Balanced

/-- The identifiers that some calls draw are new and distinct. -/
structure Fresh (plane : ControlPlane) (calls : List PlaneCall) : Prop where
  distinct : (calls.filterMap PlaneCall.uuid).Nodup
  unused : ∀ id ∈ plane.ids, id ∉ calls.filterMap PlaneCall.uuid

section
variable {plane : ControlPlane} {calls : List PlaneCall}

theorem Fresh.head {call : PlaneCall} (h : Fresh plane (call :: calls)) {id : Text}
    (hid : id ∈ plane.ids) : call.uuid ≠ some id :=
  fun heq => h.unused id hid (mem_filterMap.2 ⟨call, mem_cons_self, heq⟩)

theorem Fresh.tail {call : PlaneCall} (h : Fresh plane (call :: calls)) :
    Fresh (call.step plane) calls := by
  have hsub : (calls.filterMap PlaneCall.uuid).Sublist ((call :: calls).filterMap PlaneCall.uuid) :=
    (sublist_cons_self call calls).filterMap _
  refine ⟨h.distinct.sublist hsub, fun id hid hmem => ?_⟩
  obtain ⟨d, hd, rfl⟩ := mem_map.1 hid
  rcases PlaneCall.mem_step hd with ⟨c, hc, hsucc⟩ | hnew
  · rw [hsucc.id] at hmem
    exact h.unused c.id (mem_map_of_mem hc) (hsub.subset hmem)
  · have hdistinct := h.distinct
    rw [filterMap_cons_some hnew, nodup_cons] at hdistinct
    exact hdistinct.1 hmem

theorem Fresh.append {pre post : List PlaneCall} (h : Fresh plane (pre ++ post)) :
    Fresh (pre.foldl PlaneCall.step plane) post := by
  induction pre generalizing plane with
  | nil => exact h
  | cons call pre ih => exact ih h.tail

/-- **Conservation.**  The counters agree with the table after every run. -/
theorem Balanced.run (h : Balanced plane) (hfresh : Fresh plane calls) :
    Balanced (calls.foldl PlaneCall.step plane) := by
  induction calls generalizing plane with
  | nil => exact h
  | cons call calls ih => exact ih (h.step fun id hid => hfresh.head hid) hfresh.tail

end

/-- The control plane of a new collector. -/
def ControlPlane.new (config : ControlConfig) (nodeIds : List Text) : ControlPlane where
  config
  nodeIds

theorem Balanced.new (config : ControlConfig) (nodeIds : List Text) :
    Balanced (.new config nodeIds) where
  nodup := nodup_nil
  timeout _ hc := absurd hc not_mem_nil
  size := config.maxCommands.2.1.trans' zero_le_one
  balance := rfl

end GraphX
