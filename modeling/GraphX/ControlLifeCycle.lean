/-
  The life cycle of a command: it is pending until it expires, is rejected, or has been
  accepted by all of its targets.

  * `Open plane c answers`: the command `c` is pending, after these answers.
    **`Open.step`**: what becomes of it in a call.
  * `Waits plane c node`: it waits for the answer of `node`.
    **`Waits.run`**: it goes on to wait while others answer, until it expires.
  * **`command_life_cycle`**
-/
import GraphX.ControlLedger
import GraphX.Lib.Runs

namespace GraphX

open Ecma ControlPlane List

/-! ## Leaving the pending state -/

/-- The command has left the pending state, if it is still there. -/
def SettledAs (plane : ControlPlane) (id : Text) (status : CommandStatus) : Prop :=
  ∀ d ∈ plane.commands, d.id = id → d.status = status

namespace SettledAs

variable {plane plane' : ControlPlane} {id : Text} {status : CommandStatus}

theorem of_successors (h : SettledAs plane id status) (hstatus : status ≠ .pending)
    (hmem : ∀ d ∈ plane'.commands, d.id = id → ∃ c ∈ plane.commands, Successor c d) :
    SettledAs plane' id status := by
  intro d hd hid
  obtain ⟨c, hc, hsucc⟩ := hmem d hd hid
  have hcstatus := h c hc (hsucc.id.symm.trans hid)
  rw [← hcstatus] at hstatus ⊢
  exact hsucc.status hstatus

theorem run (h : SettledAs plane id status) (hstatus : status ≠ .pending) {calls : List PlaneCall}
    (hids : ∀ call ∈ calls, call.uuid ≠ some id) :
    SettledAs (calls.foldl PlaneCall.step plane) id status := by
  refine foldlRecOn (motive := (SettledAs · id status)) calls _ h fun p hp call hcall =>
    hp.of_successors hstatus fun d hd hid => ?_
  refine (PlaneCall.mem_step hd).resolve_right fun hnew => hids call hcall ?_
  rw [hnew, hid]

end SettledAs

/-! ## Answers -/

/-- What a call answers to a command: the node, and whether it accepts. -/
def PlaneCall.answer (c : Command) : PlaneCall → List (Text × Bool)
  | acknowledge event t =>
    let safeEvent := sanitizeControlAcknowledgement event
    if stringField safeEvent "commandId" = some c.id ∧
        stringField safeEvent "action" = some (text c.action.name) then
      (stringField safeEvent "nodeId").toList.map
        (·, (acknowledgement safeEvent t).accepted)
    else []
  | maintain _ | issue _ _ _ => []

/-- The command `c` is now `d`: it is pending, all of its answers accept it, and a target is
    missing.  Of the answers of a node the first one counts. -/
structure OpenAs (c d : Command) (answers : List (Text × Bool)) : Prop where
  successor : Successor c d
  pending : d.status = .pending
  nodup : (d.acknowledgements.map Prod.fst).Nodup
  subset : d.acknowledgements.map Prod.fst ⊆ c.targetNodes
  missing : d.acknowledgements.length < c.targetNodes.length
  answered : ∀ node ∈ c.targetNodes, answers.lookup node =
    if node ∈ d.acknowledgements.map Prod.fst then some true else none

theorem OpenAs.not_all {c d : Command} {answers : List (Text × Bool)} (h : OpenAs c d answers)
    (htargets : c.targetNodes.Nodup) : ¬∀ node ∈ c.targetNodes, answers.lookup node = some true := by
  intro hall
  have hsub : c.targetNodes ⊆ d.acknowledgements.map Prod.fst := by
    intro node hnode
    by_contra hnot
    have := hall node hnode
    rw [h.answered node hnode, if_neg hnot] at this
    cases this
  have hlength := (subperm_of_subset htargets hsub).length_le
  have hmissing := h.missing
  rw [length_map] at hlength
  omega

/-- **What an answer does to a pending command.** -/
theorem OpenAs.acknowledged {c d : Command} {answers : List (Text × Bool)} (h : OpenAs c d answers)
    {node : Text} (htarget : node ∈ c.targetNodes)
    (hnew : node ∉ d.acknowledgements.map Prod.fst) (a : Acknowledgement) :
    (ControlPlane.acknowledged d node a).status = .rejected ∧
        (answers ++ [(node, a.accepted)]).lookup node = some false ∨
      (ControlPlane.acknowledged d node a).status = .accepted ∧
        (∀ other ∈ c.targetNodes, (answers ++ [(node, a.accepted)]).lookup other = some true) ∨
      OpenAs c (ControlPlane.acknowledged d node a) (answers ++ [(node, a.accepted)]) := by
  -- the first answer of every target after this one
  have hlookup : ∀ other ∈ c.targetNodes, (answers ++ [(node, a.accepted)]).lookup other =
      if other = node then some a.accepted
      else if other ∈ d.acknowledgements.map Prod.fst then some true else none := by
    intro other hother
    rw [lookup_append, h.answered other hother]
    by_cases heq : other = node
    · subst heq
      simp [hnew]
    · rw [lookup_cons, beq_false_of_ne heq]
      split_ifs <;> rfl
  have hself := hlookup node htarget
  rw [if_pos rfl] at hself
  cases haccepted : a.accepted with
  | false =>
    rw [haccepted] at hself
    exact .inl ⟨by simp [ControlPlane.acknowledged, haccepted], hself⟩
  | true =>
    right
    rw [haccepted] at hlookup
    have hnodup : (d.acknowledgements.map Prod.fst ++ [node]).Nodup :=
      nodup_append_comm.2 (nodup_cons.2 ⟨hnew, h.nodup⟩)
    have hsubset : d.acknowledgements.map Prod.fst ++ [node] ⊆ c.targetNodes :=
      append_subset.2 ⟨h.subset, cons_subset.2 ⟨htarget, nil_subset _⟩⟩
    have hsubperm := subperm_of_subset hnodup hsubset
    by_cases hcomplete : d.acknowledgements.length + 1 = c.targetNodes.length
    · -- all targets have answered, since there are as many answers as targets
      refine .inl ⟨?_, fun other hother => ?_⟩
      · simp [ControlPlane.acknowledged, haccepted, h.successor.targetNodes, hcomplete]
      · have hperm := hsubperm.perm_of_length_le (by simp [hcomplete])
        rw [hlookup other hother]
        rcases mem_append.1 (hperm.mem_iff.2 hother) with hmem | hmem
        · rw [if_pos hmem, ite_self]
        · rw [if_pos (mem_singleton.1 hmem)]
    · right
      refine ⟨h.successor.trans (successor_acknowledged h.pending node a), ?_, ?_, ?_, ?_, ?_⟩
      · simp [ControlPlane.acknowledged, haccepted, h.successor.targetNodes, hcomplete, h.pending]
      · simpa [ControlPlane.acknowledged] using hnodup
      · simpa [ControlPlane.acknowledged] using hsubset
      · have hle := hsubperm.length_le
        simp only [ControlPlane.acknowledged, length_append, length_map, length_singleton] at hle ⊢
        omega
      · intro other hother
        have hmem : other ∈ (ControlPlane.acknowledged d node a).acknowledgements.map Prod.fst ↔
            other ∈ d.acknowledgements.map Prod.fst ∨ other = node := by
          simp only [ControlPlane.acknowledged, map_append, mem_append, map_cons,
            map_nil, mem_singleton]
        rw [hlookup other hother, if_congr hmem rfl rfl]
        by_cases heq : other = node
        · rw [if_pos heq, if_pos (.inr heq)]
        · rw [if_neg heq, if_congr (or_iff_left heq).symm rfl rfl]

/-! ## Becoming accepted -/

/-- A pending command, with the answers it has had so far. -/
structure Open (plane : ControlPlane) (c : Command) (answers : List (Text × Bool)) : Prop where
  current : ∃ d, Holds plane d ∧ OpenAs c d answers
  targets : c.targetNodes.Nodup
  timeout : c.expiresAt ≤ c.issuedAt + 30000

/-- What becomes of an open command in a call; `early` says that the passes of the call
    come before its expiry. -/
inductive Answered (plane : ControlPlane) (c : Command) (answers : List (Text × Bool))
    (early : Prop) : Prop where
  | pending (h : early) (hopen : Open plane c answers)
  | accepted (h : early) (hstatus : ∃ d, plane.command c.id = some d ∧ d.status = .accepted)
      (hanswers : ∀ node ∈ c.targetNodes, answers.lookup node = some true)
  | closed (status : CommandStatus) (hpending : status ≠ .pending) (haccepted : status ≠ .accepted)
      (hsettled : SettledAs plane c.id status)
      (hwhy : early → ∃ node ∈ c.targetNodes, answers.lookup node = some false)

namespace Open

variable {plane : ControlPlane} {c : Command} {answers : List (Text × Bool)}
  (h : Open plane c answers)
include h

theorem maintain {t : ℤ} (ht : t < c.expiresAt) : Open (plane.maintain t) c answers := by
  obtain ⟨⟨d, hd, hopen⟩, htargets, htimeout⟩ := h
  have hexpire : expire t d = d := by
    refine if_neg ?_
    simp only [hasExpired, Bool.and_eq_true, decide_eq_true_eq, not_and, not_le]
    intro
    rw [hopen.successor.expiresAt]
    exact ht
  have hretention := plane.config.commandRetentionSeconds.2.1
  have hrecent : t - plane.config.commandRetentionSeconds * 1000 ≤ d.issuedAt := by
    rw [hopen.successor.issuedAt]
    omega
  refine ⟨⟨d, ⟨mem_maintain.2 ⟨d, hd.mem, hexpire.symm, hrecent⟩, fun e he hid => ?_⟩, hopen⟩,
    htargets, htimeout⟩
  obtain ⟨e', he', rfl, -⟩ := mem_maintain.1 he
  rw [hd.unique e' he' (by simpa using hid), hexpire]

theorem settled_late {t : ℤ} (ht : ¬t < c.expiresAt) :
    SettledAs (plane.maintain t) c.id .timedOut := by
  obtain ⟨⟨d, hd, hopen⟩, -, -⟩ := h
  intro e he hid
  obtain ⟨e', he', rfl, -⟩ := mem_maintain.1 he
  rw [hd.unique e' he' (by simpa [hopen.successor.id] using hid), expire, if_pos]
  simp only [hasExpired, hopen.pending, hopen.successor.expiresAt, Bool.and_eq_true, decide_eq_true_eq]
  exact ⟨trivial, not_lt.1 ht⟩

/-- The command stays open if its answers are not touched. -/
theorem of_holds {plane' : ControlPlane} {answers' : List (Text × Bool)}
    (hholds : ∀ d, d.id = c.id → Holds plane d → Holds plane' d)
    (hanswers : ∀ d, Holds plane d → OpenAs c d answers → ∀ node ∈ c.targetNodes,
      answers'.lookup node = answers.lookup node) : Open plane' c answers' := by
  obtain ⟨⟨d, hd, hopen⟩, htargets, htimeout⟩ := h
  exact ⟨⟨d, hholds d hopen.successor.id hd, { hopen with
    answered := fun node hnode => (hanswers d hd hopen node hnode).trans (hopen.answered node hnode) }⟩,
    htargets, htimeout⟩

/-- An answer that is not recorded is a second one, or not of a target. -/
theorem lookup_ignored {call : PlaneCall} (hnone : ∀ event t, call = .acknowledge event t →
    ∀ d node, ¬Answers plane event d node) {node : Text} (hnode : node ∈ c.targetNodes) :
    (answers ++ call.answer c).lookup node = answers.lookup node := by
  obtain ⟨⟨d, hd, hopen⟩, -, -⟩ := h
  cases call with
  | maintain | issue => rw [PlaneCall.answer, append_nil]
  | acknowledge event t =>
    rw [lookup_append, hopen.answered node hnode]
    by_cases hold : node ∈ d.acknowledgements.map Prod.fst
    · rw [if_pos hold, Option.some_or]
    rw [if_neg hold, Option.none_or, PlaneCall.answer]
    split_ifs with hmatch
    · cases hnodeId : stringField (sanitizeControlAcknowledgement event) "nodeId" with
      | none => rfl
      | some other =>
        refine lookup_eq_none_iff.2 fun entry hentry => bne_iff_ne.2 ?_
        obtain rfl := mem_singleton.1 hentry
        rintro rfl
        have hsucc := hopen.successor
        exact hnone event t rfl d node ⟨hd.command, hsucc.id ▸ hmatch.1, hnodeId,
          hsucc.action ▸ hmatch.2, hopen.pending, hsucc.targetNodes ▸ hnode, hold⟩
    · rfl

theorem recordAnswer {event : Json} {t : ℤ} {d : Command} {node : Text}
    (hanswers : Answers plane event d node) {early : Prop} (hearly : early) :
    Answered (plane.recordAnswer d node (acknowledgement (sanitizeControlAcknowledgement event) t)) c
      (answers ++ (PlaneCall.acknowledge event t).answer c) early := by
  set a := acknowledgement (sanitizeControlAcknowledgement event) t
  by_cases hid : d.id = c.id
  · obtain ⟨⟨e, he, hopen⟩, htargets, htimeout⟩ := h
    have hsucc := hopen.successor
    obtain rfl : d = e :=
      he.unique d (command_eq_some hanswers.command).1 (hid.trans hsucc.id.symm)
    have htarget : node ∈ c.targetNodes := hsucc.targetNodes ▸ hanswers.target
    have hanswer : (PlaneCall.acknowledge event t).answer c = [(node, a.accepted)] := by
      rw [PlaneCall.answer, if_pos ⟨hid ▸ hanswers.commandId, hsucc.action ▸ hanswers.action⟩,
        hanswers.nodeId]
      rfl
    have hholds : Holds (plane.recordAnswer d node a) (acknowledged d node a) :=
      (plane.holds_setCommand _).of_commands rfl
    rw [hanswer]
    rcases hopen.acknowledged htarget hanswers.new a with ⟨hstatus, hfalse⟩ | ⟨hstatus, hall⟩ | hopen
    · refine .closed .rejected (by decide) (by decide) (fun e he heid => ?_) fun _ =>
        ⟨node, htarget, hfalse⟩
      rw [hholds.unique e he (heid.trans hid.symm), hstatus]
    · exact .accepted hearly ⟨_, hid ▸ hholds.command, hstatus⟩ hall
    · exact .pending hearly ⟨⟨_, hholds, hopen⟩, htargets, htimeout⟩
  · have hanswer : (PlaneCall.acknowledge event t).answer c = [] := by
      refine if_neg fun hmatch => hid ?_
      exact Option.some.inj (hanswers.commandId.symm.trans hmatch.1)
    rw [hanswer, append_nil]
    refine .pending hearly (h.of_holds (fun e heid he => ?_) fun _ _ _ _ _ => rfl)
    have hne : e.id ≠ (acknowledged d node a).id := fun hsame => hid (hsame.symm.trans heid)
    exact (he.setCommand hne).of_commands rfl

/-- **What becomes of a pending command in a call.** -/
theorem step {call : PlaneCall} (hid : call.uuid ≠ some c.id) :
    Answered (call.step plane) c (answers ++ call.answer c)
      (∀ t ∈ call.passes plane, t < c.expiresAt) := by
  have heffect := PlaneCall.step_effect plane call
  generalize call.step plane = after at heffect
  have hlate : ∀ p t, SettledAs p c.id .timedOut → SettledAs (p.maintain t) c.id .timedOut :=
    fun p t hp => hp.of_successors (by decide) fun d hd _ => by
      obtain ⟨e, he, rfl, -⟩ := mem_maintain.1 hd
      exact ⟨e, he, successor_expire t e⟩
  rcases Runs.foldl_kept_or_lost (Open · c answers) (SettledAs · c.id .timedOut) (· < c.expiresAt)
    (fun _ _ hp => maintain hp) (fun _ _ hp => settled_late hp) hlate (call.passes plane) h with
    ⟨hearly, hopen⟩ | ⟨hnot, hsettled⟩
  · cases heffect with
    | kept _ hnone => exact .pending hearly (hopen.of_holds (fun _ _ hd => hd)
        fun _ _ _ _ hnode => hopen.lookup_ignored hnone hnode)
    | replayed | dropped =>
      rw [PlaneCall.answer, append_nil]
      exact .pending hearly (hopen.of_holds (fun _ _ hd => hd.of_commands rfl) fun _ _ _ _ _ => rfl)
    | issued m r delivered d hd =>
      rw [PlaneCall.answer, append_nil]
      refine .pending hearly (hopen.of_holds (fun e heid he => ?_) fun _ _ _ _ _ => rfl)
      refine (he.setCommand fun hsame => hid ?_).of_commands (recordCommand_commands _ d _)
      rw [← heid, hsame, hd]
      rfl
    | answered event t d node hanswers => exact hopen.recordAnswer hanswers hearly
  · refine .closed .timedOut (by decide) (by decide) ?_ fun hearly => absurd hearly hnot
    refine hsettled.of_successors (by decide) fun d hd hdid => ?_
    refine (heffect.mem hd).resolve_right fun hnew => hid ?_
    rw [hnew, hdid]

theorem not_accepted :
    (¬∃ d, plane.command c.id = some d ∧ d.status = .accepted) ∧
      ¬∀ node ∈ c.targetNodes, answers.lookup node = some true := by
  obtain ⟨⟨d, hd, hopen⟩, htargets, -⟩ := h
  refine ⟨?_, hopen.not_all htargets⟩
  rintro ⟨e, he, haccepted⟩
  obtain ⟨hmem, hid⟩ := command_eq_some he
  rw [hd.unique e hmem (hid.trans hopen.successor.id.symm), hopen.pending] at haccepted
  cases haccepted

/-- **A command becomes accepted exactly when all of its targets accept it in time.** -/
theorem accepted_iff {calls : List PlaneCall} (hids : ∀ call ∈ calls, call.uuid ≠ some c.id) :
    (∃ early, early <+: calls ∧ ∃ d, (early.foldl PlaneCall.step plane).command c.id = some d ∧
        d.status = .accepted) ↔
      ∃ early, early <+: calls ∧ (∀ t ∈ PlaneCall.passesOf plane early, t < c.expiresAt) ∧
        ∀ node ∈ c.targetNodes,
          (answers ++ early.flatMap (PlaneCall.answer c)).lookup node = some true := by
  induction calls generalizing plane answers with
  | nil =>
    have hnot := h.not_accepted
    simp only [prefix_nil, exists_eq_left, flatMap_nil, append_nil]
    exact iff_of_false hnot.1 fun hall => hnot.2 hall.2
  | cons call calls ih =>
    obtain ⟨hcall, hcalls⟩ := forall_mem_cons.1 hids
    have hnot := h.not_accepted
    -- the empty run accepts nothing, so that both sides speak about the runs that go on
    have hcons : ∀ P : List PlaneCall → Prop, ¬P [] →
        ((∃ early, early <+: call :: calls ∧ P early) ↔
          ∃ early, early <+: calls ∧ P (call :: early)) := by
      intro P hnil
      simp only [prefix_cons_iff]
      constructor
      · rintro ⟨early, rfl | ⟨rest, rfl, hrest⟩, hP⟩
        · exact absurd hP hnil
        · exact ⟨rest, hrest, hP⟩
      · rintro ⟨rest, hrest, hP⟩
        exact ⟨call :: rest, .inr ⟨rest, rfl, hrest⟩, hP⟩
    rw [hcons _ hnot.1, hcons _ (by simpa using fun _ => by simpa using hnot.2)]
    simp only [foldl_cons, PlaneCall.passesOf, forall_mem_append, flatMap_cons,
      ← append_assoc]
    cases h.step hcall with
    | pending hearly hopen =>
      rw [ih hopen hcalls]
      refine exists_congr fun early => and_congr_right fun _ => and_congr_left fun _ => ?_
      exact (and_iff_right hearly).symm
    | accepted hearly hstatus hanswers =>
      refine iff_of_true ⟨[], nil_prefix, hstatus⟩ ⟨[], nil_prefix, ⟨hearly, ?_⟩, ?_⟩
      · simp [PlaneCall.passesOf]
      · simpa using hanswers
    | closed status hpending haccepted hsettled hwhy =>
      refine iff_of_false ?_ ?_
      · rintro ⟨early, hearly, d, hd, hstatus⟩
        have hrun := hsettled.run hpending fun call hmem => hcalls call (hearly.subset hmem)
        obtain ⟨hmem, hid⟩ := command_eq_some hd
        exact haccepted ((hrun d hmem hid).symm.trans hstatus)
      · rintro ⟨early, -, ⟨hearly, -⟩, hall⟩
        obtain ⟨node, hnode, hfalse⟩ := hwhy hearly
        have := hall node hnode
        rw [lookup_append, hfalse] at this
        cases this

end Open

section
variable {plane : ControlPlane} {m : IssueMoment} {r : ControlRequest} {delivered : Command → ℕ}
  {c : Command}

theorem issue_ok (h : (plane.issue m r delivered).1 = .ok (c, false)) :
    c.id = m.uuid ∧ c.action = r.action ∧ c.expiresAt ≤ c.issuedAt + 30000 := by
  obtain ⟨-, rfl, -⟩ := (plane.issue_step m r delivered).new h
  refine ⟨rfl, rfl, ?_⟩
  have htimeout := ((plane.maintain m.maintainedAt).lookedUp m r).config.commandTimeoutMs.2.2
  simpa [issuedCommand, newCommand] using htimeout

theorem open_of_issue (h : (plane.issue m r delivered).1 = .ok (c, false)) (haction : r.action ≠ .reset) :
    Open (plane.issue m r delivered).2 c [] := by
  obtain ⟨hvalid, hc, hplane⟩ := (plane.issue_step m r delivered).new h
  have hnone : c.acknowledgements = [] := by rw [hc]; rfl
  have htargets : c.targetNodes = r.targetNodes.eraseDups := by rw [hc]; rfl
  have hne : r.targetNodes.eraseDups ≠ [] := by
    intro hnil
    simp [refusal, validTargets, hnil] at hvalid
  have hset := ((plane.maintain m.maintainedAt).lookedUp m r).holds_setCommand c
  rw [hplane]
  refine ⟨⟨c, hset.of_commands (recordCommand_commands _ c _), .refl c, ?_, ?_, ?_, ?_, ?_⟩, ?_,
    (issue_ok h).2.2⟩
  · rw [hc]
    exact if_neg haction
  · simp [hnone]
  · simp [hnone]
  · rw [hnone, htargets]
    exact length_pos_iff.2 hne
  · simp [hnone]
  · rw [htargets]
    exact Keyed.nodup_eraseDups _

end

/-! ## Waiting for an answer -/

/-- The command waits for the answer of the node. -/
structure Waits (plane : ControlPlane) (c : Command) (node : Text) : Prop where
  open_ : ∃ answers, Open plane c answers ∧ answers.lookup node = none ∧
    ∀ other, answers.lookup other ≠ some false
  target : node ∈ c.targetNodes

/-- The call comes before the command expires, and neither is it an answer of the
    node nor does another node reject the command with it. -/
def PlaneCall.Before (c : Command) (node : Text) : PlaneCall → Prop
  | maintain timestamp => timestamp < c.expiresAt
  | issue m _ _ => m.maintainedAt < c.expiresAt ∧ m.previousAt < c.expiresAt ∧ m.uuid ≠ c.id
  | acknowledge event timestamp =>
    let safeEvent := sanitizeControlAcknowledgement event
    timestamp < c.expiresAt ∧ (stringField safeEvent "commandId" = some c.id →
      stringField safeEvent "nodeId" ≠ some node ∧
        (acknowledgement safeEvent timestamp).accepted = true)

namespace PlaneCall.Before

variable {c : Command} {node : Text} {call : PlaneCall} (h : call.Before c node)
include h

theorem early (plane : ControlPlane) : ∀ t ∈ call.passes plane, t < c.expiresAt := by
  cases call with
  | maintain => exact forall_mem_singleton.2 h
  | acknowledge => exact forall_mem_singleton.2 h.1
  | issue =>
    refine forall_mem_cons.2 ⟨h.1, ?_⟩
    split_ifs
    · exact forall_mem_singleton.2 h.2.1
    · exact fun t ht => absurd ht not_mem_nil

theorem uuid_ne : call.uuid ≠ some c.id := by
  cases call with
  | maintain | acknowledge => exact Option.some_ne_none _ |>.symm
  | issue => exact fun heq => h.2.2 (Option.some.inj heq)

theorem answer_ne : ∀ e ∈ call.answer c, e.1 ≠ node ∧ e.2 = true := by
  cases call with
  | maintain | issue => exact fun e he => absurd he not_mem_nil
  | acknowledge event t =>
    intro e he
    rw [answer] at he
    split_ifs at he with hmatch
    · obtain ⟨other, hother, rfl⟩ := mem_map.1 he
      obtain ⟨hne, haccepted⟩ := h.2 hmatch.1
      exact ⟨fun heq => hne (heq ▸ Option.mem_toList.1 hother), haccepted⟩
    · exact absurd he not_mem_nil

end PlaneCall.Before

namespace Waits

variable {plane : ControlPlane} {c : Command} {node : Text} (h : Waits plane c node)
include h

theorem step {call : PlaneCall} (hbefore : call.Before c node) : Waits (call.step plane) c node := by
  obtain ⟨⟨answers, hopen, hnone, htrue⟩, htarget⟩ := h
  have hnone' : (answers ++ call.answer c).lookup node = none := by
    rw [lookup_append, hnone, Option.none_or, lookup_eq_none_iff]
    exact fun e he => bne_iff_ne.2 (hbefore.answer_ne e he).1.symm
  have htrue' : ∀ other, (answers ++ call.answer c).lookup other ≠ some false := by
    intro other hfalse
    rw [lookup_append] at hfalse
    cases hlookup : answers.lookup other with
    | some b =>
      rw [hlookup, Option.some_or] at hfalse
      exact htrue other (hlookup.trans hfalse)
    | none =>
      rw [hlookup, Option.none_or] at hfalse
      exact Bool.false_ne_true (hbefore.answer_ne _ (Keyed.mem_of_lookup hfalse)).2
  cases hopen.step hbefore.uuid_ne with
  | pending _ hopen' => exact ⟨⟨_, hopen', hnone', htrue'⟩, htarget⟩
  | accepted _ _ hanswers => cases hnone'.symm.trans (hanswers node htarget)
  | closed _ _ _ _ hwhy =>
    obtain ⟨other, -, hfalse⟩ := hwhy (hbefore.early plane)
    exact absurd hfalse (htrue' other)

/-- **A command waits for a node whatever else happens** before it expires. -/
theorem run {calls : List PlaneCall} (hbefore : ∀ call ∈ calls, call.Before c node) :
    Waits (calls.foldl PlaneCall.step plane) c node :=
  foldlRecOn (motive := (Waits · c node)) calls _ h fun _ hp call hcall => hp.step (hbefore call hcall)

/-- **The answer of the node is applied.** -/
theorem applied (event : Json) {timestamp : ℤ} (ht : timestamp < c.expiresAt)
    (hcommand : stringField (sanitizeControlAcknowledgement event) "commandId" = some c.id)
    (hnode : stringField (sanitizeControlAcknowledgement event) "nodeId" = some node)
    (haction : stringField (sanitizeControlAcknowledgement event) "action" = some (text c.action.name)) :
    (plane.acknowledge event timestamp).1 = true ∧
      ∃ d, (plane.acknowledge event timestamp).2.command c.id = some d ∧
        (node, acknowledgement (sanitizeControlAcknowledgement event) timestamp) ∈
          d.acknowledgements := by
  obtain ⟨⟨answers, hopen, hlookup, -⟩, htarget⟩ := h
  obtain ⟨d, hd, hopenAs⟩ := (hopen.maintain ht).current
  have hsucc := hopenAs.successor
  have hnew : node ∉ d.acknowledgements.map Prod.fst := by
    intro hmem
    rw [hopenAs.answered node htarget, if_pos hmem] at hlookup
    cases hlookup
  obtain ⟨-, hnone⟩ | ⟨e, other, hanswers, heq⟩ := plane.acknowledge_step event timestamp
  · exact absurd ⟨hd.command, hsucc.id ▸ hcommand, hnode, hsucc.action ▸ haction, hopenAs.pending,
      hsucc.targetNodes ▸ htarget, hnew⟩ (hnone d node)
  · obtain rfl : other = node := Option.some.inj (hanswers.nodeId.symm.trans hnode)
    have hsame : e.id = c.id := Option.some.inj (hanswers.commandId.symm.trans hcommand)
    have hholds := (plane.maintain timestamp).holds_setCommand (acknowledged e other
      (acknowledgement (sanitizeControlAcknowledgement event) timestamp))
    rw [heq]
    exact ⟨rfl, _, hsame ▸ hholds.command, mem_append_right _ mem_cons_self⟩

end Waits

theorem waits_of_issue {plane : ControlPlane} {m : IssueMoment} {r : ControlRequest}
    {delivered : Command → ℕ} {c : Command} {node : Text}
    (hissue : (plane.issue m r delivered).1 = .ok (c, false)) (haction : r.action ≠ .reset)
    (hnode : node ∈ c.targetNodes) : Waits (plane.issue m r delivered).2 c node :=
  ⟨⟨[], open_of_issue hissue haction, rfl, fun _ => Option.some_ne_none _ |>.symm⟩, hnode⟩

/-! ## The life cycle -/

/-- **The life cycle of commands.**  In every run, the table is bounded and the counters
    add up; a command keeps its status once it has left the pending state; and it becomes
    accepted exactly when each of its targets, in its first answer, accepts it before a
    maintenance pass that comes at or after its expiry. -/
theorem command_life_cycle (config : ControlConfig) (nodeIds : List Text) (calls : List PlaneCall)
    (hdistinct : (calls.filterMap PlaneCall.uuid).Nodup) :
    let state (calls : List PlaneCall) := calls.foldl PlaneCall.step (.new config nodeIds)
    (((state calls).commands.length : ℤ) ≤ config.maxCommands ∧
        (state calls).stats.issued = (state calls).stats.accepted + (state calls).stats.rejected +
          (state calls).stats.timedOut + (state calls).pendingCount) ∧
      (∀ pre post, calls = pre ++ post → ∀ c ∈ (state pre).commands, c.status ≠ .pending →
        ∀ d ∈ (state calls).commands, d.id = c.id → d.status = c.status) ∧
      ∀ pre m r delivered post c, calls = pre ++ .issue m r delivered :: post →
        ((state pre).issue m r delivered).1 = .ok (c, false) → r.action ≠ .reset →
        ((∃ early, early <+: post ∧ ∃ d,
            (state (pre ++ .issue m r delivered :: early)).command c.id = some d ∧
              d.status = .accepted) ↔
          ∃ early, early <+: post ∧
            (∀ t ∈ PlaneCall.passesOf ((state pre).issue m r delivered).2 early, t < c.expiresAt) ∧
            ∀ node ∈ c.targetNodes,
              (early.flatMap (PlaneCall.answer c)).lookup node = some true) := by
  intro state
  have hfresh : Fresh (ControlPlane.new config nodeIds) calls :=
    ⟨hdistinct, fun id hid => absurd hid not_mem_nil⟩
  have hbalanced := (Balanced.new config nodeIds).run hfresh
  have hrest : ∀ {pre post}, calls = pre ++ post → Fresh (state pre) post := by
    rintro pre post rfl
    exact hfresh.append
  refine ⟨⟨?_, hbalanced.balance⟩, ?_, ?_⟩
  · have hsize := hbalanced.size
    rwa [(PlaneCall.run_config _ calls).1] at hsize
  · intro pre post hsplit c hc hstatus
    have hnodup : (state pre).ids.Nodup := by
      refine ((Balanced.new config nodeIds).run ⟨?_, fun id hid => absurd hid not_mem_nil⟩).nodup
      rw [hsplit, filterMap_append] at hdistinct
      exact hdistinct.of_append_left
    have hsettled : SettledAs (state pre) c.id c.status := fun d hd hid => by
      rw [inj_on_of_nodup_map hnodup hd hc hid]
    have hpost : SettledAs (post.foldl PlaneCall.step (state pre)) c.id c.status :=
      hsettled.run hstatus fun call hcall heq => (hrest hsplit).unused c.id
        (mem_map_of_mem hc) (mem_filterMap.2 ⟨call, hcall, heq⟩)
    rwa [← foldl_append, ← hsplit] at hpost
  · intro pre m r delivered post c hsplit hissue haction
    have hids : ∀ call ∈ post, call.uuid ≠ some c.id := by
      intro call hcall heq
      have hnodup := (hrest hsplit).distinct
      have hhead : (PlaneCall.issue m r delivered).uuid = some m.uuid := rfl
      rw [filterMap_cons_some hhead, nodup_cons] at hnodup
      exact hnodup.1 (mem_filterMap.2 ⟨call, hcall, (issue_ok hissue).1 ▸ heq⟩)
    have hiff := (open_of_issue hissue haction).accepted_iff hids
    simp only [nil_append] at hiff
    rw [← hiff]
    simp only [state, foldl_append, foldl_cons]
    rfl

namespace PauseRun

def nodes : List Text := [text "source", text "sink"]

def moment : IssueMoment := ⟨0, 0, 0, text "c1"⟩

def request : ControlRequest where
  action := .pause
  targetNodes := nodes
  actor := text "operator"

def issue : PlaneCall := .issue moment request fun _ => 2

def accepts (node : String) (t : ℤ) : PlaneCall :=
  .acknowledge (.obj [(text "kind", .str (text "control_ack")), (text "commandId", .str (text "c1")),
    (text "nodeId", .str (text node)), (text "action", .str (text "pause")),
    (text "accepted", .bool true)]) t

def answers : List PlaneCall := [accepts "sink" 40, accepts "source" 50]

/-- The command that is issued. -/
def command : Command := (ControlPlane.new .unset nodes).issuedCommand moment request fun _ => 2

end PauseRun

open PauseRun in
theorem command_life_cycle_pause : ∃ early, early <+: answers ∧
    ∃ d, (foldl PlaneCall.step (.new .unset nodes) (issue :: early)).command (text "c1") = some d ∧
      d.status = .accepted := by
  have h := (command_life_cycle .unset nodes (issue :: answers) (by decide)).2.2 [] moment request
    (fun _ => 2) answers command rfl rfl (by decide)
  exact h.2 ⟨answers, prefix_refl _, by decide, by decide⟩

end GraphX
