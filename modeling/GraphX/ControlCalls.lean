/-
  The calls of the control plane, and what each of them does to its tables.

  A call makes its maintenance passes (`PlaneCall.passes`) and then has one `Effect`.
  Every invariant of the control plane is derived from these.
-/
import GraphX.ControlPlane
import GraphX.Lib.Keyed

namespace GraphX

open Ecma List

namespace ControlPlane

/-! ## Tables -/

variable {plane : ControlPlane} {c d : Command}

/-- The identifiers in the table. -/
def ids (plane : ControlPlane) : List Text := plane.commands.map (·.id)

theorem command_eq_some {id : Text} (h : plane.command id = some c) :
    c ∈ plane.commands ∧ c.id = id :=
  ⟨mem_of_find?_eq_some h, by simpa using find?_some h⟩

theorem command_eq_none {id : Text} : plane.command id = none ↔ ∀ c ∈ plane.commands, c.id ≠ id := by
  simp [command]

@[simp] theorem expire_id (t : ℤ) (c : Command) : (expire t c).id = c.id := by
  unfold expire
  split_ifs <;> rfl

@[simp] theorem expire_issuedAt (t : ℤ) (c : Command) : (expire t c).issuedAt = c.issuedAt := by
  unfold expire
  split_ifs <;> rfl

theorem mem_maintain {t : ℤ} : d ∈ (plane.maintain t).commands ↔ ∃ c ∈ plane.commands,
    d = expire t c ∧ t - plane.config.commandRetentionSeconds * 1000 ≤ c.issuedAt := by
  simp only [maintain, mem_filter, mem_map]
  constructor
  · rintro ⟨⟨c, hc, rfl⟩, hrecent⟩
    exact ⟨c, hc, rfl, by simpa using hrecent⟩
  · rintro ⟨c, hc, rfl, hrecent⟩
    exact ⟨⟨c, hc, rfl⟩, by simpa using hrecent⟩

theorem mem_setCommand (h : d ∈ (plane.setCommand c).commands) :
    d = c ∨ d ∈ plane.commands ∧ d.id ≠ c.id := by
  unfold setCommand at h
  split_ifs at h with hany
  · obtain ⟨e, he, rfl⟩ := mem_map.1 h
    split_ifs with hid
    · exact .inl rfl
    · exact .inr ⟨he, hid⟩
  · rcases mem_append.1 h with h | h
    · refine .inr ⟨h, fun hid => hany ?_⟩
      exact any_eq_true.2 ⟨d, h, by simpa using hid⟩
    · exact .inl (mem_singleton.1 h)

theorem setCommand_self (plane : ControlPlane) (c : Command) : c ∈ (plane.setCommand c).commands := by
  unfold setCommand
  split_ifs with hany
  · obtain ⟨d, hd, hid⟩ := any_eq_true.1 hany
    exact mem_map.2 ⟨d, hd, if_pos (by simpa using hid)⟩
  · exact mem_append_right _ mem_cons_self

theorem mem_setCommand_of_ne (h : d ∈ plane.commands) (hid : d.id ≠ c.id) :
    d ∈ (plane.setCommand c).commands := by
  unfold setCommand
  split_ifs
  · exact mem_map.2 ⟨d, h, if_neg hid⟩
  · exact mem_append_left _ h

theorem mem_id_setCommand (h : d ∈ plane.commands) :
    ∃ e ∈ (plane.setCommand c).commands, e.id = d.id := by
  by_cases hid : d.id = c.id
  · exact ⟨c, setCommand_self _ _, hid.symm⟩
  · exact ⟨d, mem_setCommand_of_ne h hid, rfl⟩

section recordCommand
variable (plane c) (cacheKey : Option Text)

@[simp] theorem recordCommand_commands :
    (plane.recordCommand c cacheKey).commands = (plane.setCommand c).commands := by
  cases cacheKey <;> rfl

@[simp] theorem recordCommand_config : (plane.recordCommand c cacheKey).config = plane.config := by
  cases cacheKey <;> rfl

@[simp] theorem recordCommand_nodeIds : (plane.recordCommand c cacheKey).nodeIds = plane.nodeIds := by
  cases cacheKey <;> rfl

end recordCommand

/-! ## Commands -/

/-- `d` is the command of its identifier. -/
structure Holds (plane : ControlPlane) (d : Command) : Prop where
  mem : d ∈ plane.commands
  unique : ∀ e ∈ plane.commands, e.id = d.id → e = d

theorem Holds.command (h : Holds plane d) : plane.command d.id = some d := by
  cases hfind : plane.command d.id with
  | none => exact absurd rfl (command_eq_none.1 hfind d h.mem)
  | some e =>
    obtain ⟨he, hid⟩ := command_eq_some hfind
    rw [h.unique e he hid]

theorem Holds.of_commands {plane' : ControlPlane} (h : Holds plane d)
    (heq : plane'.commands = plane.commands) : Holds plane' d :=
  ⟨heq ▸ h.mem, heq ▸ h.unique⟩

theorem holds_setCommand (plane : ControlPlane) (c : Command) : Holds (plane.setCommand c) c := by
  refine ⟨setCommand_self _ _, fun e he hid => ?_⟩
  rcases mem_setCommand he with rfl | ⟨-, hne⟩
  · rfl
  · exact absurd hid hne

theorem Holds.setCommand (h : Holds plane d) (hid : d.id ≠ c.id) : Holds (plane.setCommand c) d := by
  refine ⟨mem_setCommand_of_ne h.mem hid, fun e he heid => ?_⟩
  rcases mem_setCommand he with rfl | ⟨he, -⟩
  · exact absurd heid.symm hid
  · exact h.unique e he heid

/-- `d` is a later state of the command `c`. -/
structure Successor (c d : Command) : Prop where
  id : d.id = c.id
  action : d.action = c.action
  targetNodes : d.targetNodes = c.targetNodes
  issuedAt : d.issuedAt = c.issuedAt
  expiresAt : d.expiresAt = c.expiresAt
  status : c.status ≠ .pending → d.status = c.status

theorem Successor.refl (c : Command) : Successor c c := ⟨rfl, rfl, rfl, rfl, rfl, fun _ => rfl⟩

theorem Successor.trans {c d e : Command} (h : Successor c d) (h' : Successor d e) : Successor c e where
  id := h'.id.trans h.id
  action := h'.action.trans h.action
  targetNodes := h'.targetNodes.trans h.targetNodes
  issuedAt := h'.issuedAt.trans h.issuedAt
  expiresAt := h'.expiresAt.trans h.expiresAt
  status hc := by
    have hd := h.status hc
    rw [← hd] at hc
    exact (h'.status hc).trans hd

theorem successor_expire (t : ℤ) (c : Command) : Successor c (expire t c) := by
  unfold expire
  split_ifs with h
  · refine ⟨rfl, rfl, rfl, rfl, rfl, fun hc => absurd ?_ hc⟩
    simp only [hasExpired, Bool.and_eq_true, decide_eq_true_eq] at h
    exact h.1
  · exact .refl c

theorem successor_acknowledged (h : c.status = .pending) (node : Text) (a : Acknowledgement) :
    Successor c (acknowledged c node a) :=
  ⟨rfl, rfl, rfl, rfl, rfl, fun hc => absurd h hc⟩

/-! ## `issue` -/

/-- Whether the request was made before, as far as the table of keys knows. -/
def looksUp (plane : ControlPlane) (r : ControlRequest) : Bool :=
  (plane.refusal r).isNone && (plane.previous r).any (·.2.fingerprint = r.print)

/-- `this.get(previous.commandId)` makes another maintenance pass. -/
def lookedUp (plane : ControlPlane) (m : IssueMoment) (r : ControlRequest) : ControlPlane :=
  if plane.looksUp r then plane.maintain m.previousAt else plane

theorem mem_lookedUp {m : IssueMoment} {r : ControlRequest} (h : d ∈ (plane.lookedUp m r).commands) :
    ∃ c ∈ plane.commands, Successor c d := by
  unfold lookedUp at h
  split_ifs at h
  · obtain ⟨c, hc, rfl, -⟩ := mem_maintain.1 h
    exact ⟨c, hc, successor_expire _ c⟩
  · exact ⟨d, h, .refl d⟩

def issuedCommand (plane : ControlPlane) (m : IssueMoment) (r : ControlRequest)
    (delivered : Command → ℕ) : Command :=
  { plane.newCommand m r with delivered := delivered (plane.newCommand m r) }

/-- The command that the key of the request stands for is not in the later table. -/
def Gone (plane after : ControlPlane) (r : ControlRequest) : Prop :=
  ∀ key entry, plane.previous r = some (key, entry) → after.command entry.commandId = none

/-- The outcomes of `issue`: `plane` is the state after the first maintenance pass, and
    `after` the one after all of them. -/
inductive IssueStep (plane after : ControlPlane) (m : IssueMoment) (r : ControlRequest)
    (delivered : Command → ℕ) : Except ControlError (Command × Bool) × ControlPlane → Prop where
  | refused (e : ControlError) : IssueStep plane after m r delivered (.error e, after)
  | dropped (e : ControlError) (key : Text) (hkey : r.cacheKey = some key) (hgone : Gone plane after r) :
      IssueStep plane after m r delivered (.error e, after.deleteIdempotency key)
  | issued (c : Command) (hc : c = after.issuedCommand m r delivered) (hvalid : plane.refusal r = none)
      (hgone : Gone plane after r) (hsize : (after.commands.length : ℤ) < after.config.maxCommands) :
      IssueStep plane after m r delivered (.ok (c, false), after.recordCommand c r.cacheKey)
  | replayed (key : Text) (entry : Idempotency) (c : Command)
      (hprevious : plane.previous r = some (key, entry))
      (hcommand : after.command entry.commandId = some c) :
      IssueStep plane after m r delivered (.ok (c, true), after.countReplay)

theorem issueNew_step (plane : ControlPlane) (m : IssueMoment) (r : ControlRequest)
    (cacheKey : Option Text) (delivered : Command → ℕ) :
    (∃ e, plane.issueNew m r cacheKey delivered = (.error e, plane)) ∨
      (plane.commands.length : ℤ) < plane.config.maxCommands ∧
        plane.issueNew m r cacheKey delivered = (.ok (plane.issuedCommand m r delivered, false),
          plane.recordCommand (plane.issuedCommand m r delivered) cacheKey) := by
  unfold issueNew
  dsimp only
  split_ifs with hsize hlive
  · exact .inl ⟨_, rfl⟩
  · exact .inl ⟨_, rfl⟩
  · exact .inr ⟨by simpa using hsize, rfl⟩

theorem previous_eq_some {r : ControlRequest} {key : Text} {entry : Idempotency}
    (h : plane.previous r = some (key, entry)) :
    r.cacheKey = some key ∧ (key, entry) ∈ plane.idempotency := by
  obtain ⟨key', hkey, h⟩ := Option.bind_eq_some_iff.1 h
  obtain ⟨entry', hentry, heq⟩ := Option.map_eq_some_iff.1 h
  cases heq
  exact ⟨hkey, Keyed.mem_of_lookup hentry⟩

theorem recordCommand_deleteIdempotency (plane : ControlPlane) (c : Command) (key : Text) :
    (plane.deleteIdempotency key).recordCommand c (some key) = plane.recordCommand c (some key) := by
  simp [recordCommand, deleteIdempotency, setIdempotency, setCommand, filter_filter]

theorem issue_step (plane : ControlPlane) (m : IssueMoment) (r : ControlRequest)
    (delivered : Command → ℕ) :
    let first := plane.maintain m.maintainedAt
    IssueStep first (first.lookedUp m r) m r delivered (plane.issue m r delivered) := by
  unfold issue
  dsimp only
  generalize plane.maintain m.maintainedAt = plane
  split
  · next message hrefusal =>
    rw [lookedUp, if_neg (by simp [looksUp, hrefusal])]
    exact .refused _
  next hvalid =>
  split
  · next hnone =>
    rw [lookedUp, if_neg (by simp [looksUp, hnone])]
    obtain ⟨e, heq⟩ | ⟨hsize, heq⟩ := plane.issueNew_step m r r.cacheKey delivered
    all_goals rw [heq]
    · exact .refused e
    · exact .issued _ rfl hvalid (by simp [Gone, hnone]) hsize
  next key entry hprevious =>
  split_ifs with hprint
  · rw [lookedUp, if_neg (by simp [looksUp, hprevious, hprint])]
    exact .refused _
  rw [lookedUp, if_pos (by simpa [looksUp, hprevious, hvalid] using hprint)]
  split
  · next hcommand =>
    have hkey := (previous_eq_some hprevious).1
    have hgone : Gone plane (plane.maintain m.previousAt) r := by
      intro key' entry' hprevious'
      cases hprevious.symm.trans hprevious'
      exact hcommand
    obtain ⟨e, heq⟩ | ⟨hsize, heq⟩ :=
      ((plane.maintain m.previousAt).deleteIdempotency key).issueNew_step m r r.cacheKey delivered
    all_goals rw [heq]
    · exact .dropped e key hkey hgone
    · -- the key is set anew, and so it does not matter that it was deleted
      have hrecord := (plane.maintain m.previousAt).recordCommand_deleteIdempotency
        (issuedCommand plane m r delivered) key
      rw [← hkey] at hrecord
      exact hrecord ▸ .issued _ rfl hvalid hgone hsize
  · next c hcommand => exact .replayed key entry c hprevious hcommand

theorem IssueStep.new {after : ControlPlane} {m : IssueMoment} {r : ControlRequest}
    {delivered : Command → ℕ} {outcome : Except ControlError (Command × Bool) × ControlPlane}
    (hstep : IssueStep plane after m r delivered outcome) (h : outcome.1 = .ok (c, false)) :
    plane.refusal r = none ∧ c = after.issuedCommand m r delivered ∧
      outcome.2 = after.recordCommand c r.cacheKey := by
  cases hstep with
  | issued _ hc hvalid =>
    cases h
    exact ⟨hvalid, hc, rfl⟩
  | _ => cases h

/-! ## `acknowledge` -/

/-- The event is the answer of a node to a command that waits for it. -/
structure Answers (plane : ControlPlane) (event : Json) (c : Command) (node : Text) : Prop where
  command : plane.command c.id = some c
  commandId : stringField (sanitizeControlAcknowledgement event) "commandId" = some c.id
  nodeId : stringField (sanitizeControlAcknowledgement event) "nodeId" = some node
  action : stringField (sanitizeControlAcknowledgement event) "action" = some (text c.action.name)
  pending : c.status = .pending
  target : node ∈ c.targetNodes
  new : node ∉ c.acknowledgements.map Prod.fst

theorem acknowledge_step (plane : ControlPlane) (event : Json) (t : ℤ) :
    (plane.acknowledge event t = (false, plane.maintain t) ∧
        ∀ c node, ¬Answers (plane.maintain t) event c node) ∨
      ∃ c node, Answers (plane.maintain t) event c node ∧ plane.acknowledge event t = (true,
        (plane.maintain t).recordAnswer c node
          (acknowledgement (sanitizeControlAcknowledgement event) t)) := by
  unfold acknowledge
  dsimp only
  split
  · next c node hcommand hnode =>
    obtain ⟨id, hid, hfind⟩ := Option.bind_eq_some_iff.1 hcommand
    obtain rfl := (command_eq_some hfind).2
    have hnew : c.acknowledgements.any (·.1 = node) = false ↔
        node ∉ c.acknowledgements.map Prod.fst := by
      rw [any_eq_false, mem_map]
      constructor
      · rintro h ⟨a, ha, rfl⟩
        exact h a ha (by simp)
      · exact fun h a ha heq => h ⟨a, ha, by simpa using heq⟩
    split_ifs with hcond
    · refine .inl ⟨rfl, fun d other h => ?_⟩
      obtain rfl : other = node := Option.some.inj (h.nodeId.symm.trans hnode)
      have hsame : d.id = c.id := Option.some.inj (h.commandId.symm.trans hid)
      obtain rfl : d = c := Option.some.inj (h.command.symm.trans (hsame ▸ hfind))
      simp [h.pending, h.action, h.target, hnew.2 h.new] at hcond
    · simp only [Bool.or_eq_true, not_or, Bool.not_eq_true', Bool.not_eq_false,
        contains_iff_mem, decide_eq_true_eq, not_not, Bool.not_eq_true] at hcond
      obtain ⟨⟨⟨hpending, haction⟩, htarget⟩, hfresh⟩ := hcond
      exact .inr ⟨c, node, ⟨hfind, hid, hnode, haction, hpending, htarget, hnew.1 hfresh⟩, rfl⟩
  · next hnone =>
    refine .inl ⟨rfl, fun c node h => ?_⟩
    exact hnone c node (Option.bind_eq_some_iff.2 ⟨c.id, h.commandId, h.command⟩) h.nodeId

end ControlPlane

/-! ## Calls -/

open ControlPlane

/-- A call of the control plane; `maintain` stands for those that only read. -/
inductive PlaneCall where
  | maintain (timestamp : ℤ)
  | issue (m : IssueMoment) (r : ControlRequest) (delivered : Command → ℕ)
  | acknowledge (event : Json) (timestamp : ℤ)

namespace PlaneCall

def step (plane : ControlPlane) : PlaneCall → ControlPlane
  | maintain timestamp => plane.maintain timestamp
  | issue m r delivered => (plane.issue m r delivered).2
  | acknowledge event timestamp => (plane.acknowledge event timestamp).2

/-- The identifier that a call draws. -/
def uuid : PlaneCall → Option Text
  | issue m _ _ => some m.uuid
  | maintain _ | acknowledge _ _ => none

def cacheKey : PlaneCall → Option Text
  | issue _ r _ => r.cacheKey
  | maintain _ | acknowledge _ _ => none

/-- The times of the maintenance passes of a call. -/
def passes (plane : ControlPlane) : PlaneCall → List ℤ
  | maintain t | acknowledge _ t => [t]
  | issue m r _ =>
    m.maintainedAt :: if (plane.maintain m.maintainedAt).looksUp r then [m.previousAt] else []

/-- The times of the maintenance passes of some calls. -/
def passesOf : ControlPlane → List PlaneCall → List ℤ
  | _, [] => []
  | plane, call :: calls => call.passes plane ++ passesOf (call.step plane) calls

/-- The state after the maintenance passes of a call. -/
def passed (plane : ControlPlane) (call : PlaneCall) : ControlPlane :=
  (call.passes plane).foldl ControlPlane.maintain plane

theorem passed_issue (plane : ControlPlane) (m : IssueMoment) (r : ControlRequest)
    (delivered : Command → ℕ) :
    (issue m r delivered).passed plane = (plane.maintain m.maintainedAt).lookedUp m r := by
  rw [passed, passes, lookedUp]
  split_ifs <;> rfl

/-- What a call does after its maintenance passes. -/
inductive Effect (plane : ControlPlane) : PlaneCall → ControlPlane → Prop where
  | kept (call : PlaneCall) (hnone : ∀ event t, call = .acknowledge event t →
      ∀ c node, ¬Answers (call.passed plane) event c node) : Effect plane call (call.passed plane)
  | replayed (m : IssueMoment) (r : ControlRequest) (delivered : Command → ℕ) :
      Effect plane (issue m r delivered) ((issue m r delivered).passed plane).countReplay
  | dropped (m : IssueMoment) (r : ControlRequest) (delivered : Command → ℕ) (key : Text)
      (hkey : r.cacheKey = some key)
      (hgone : Gone (plane.maintain m.maintainedAt) ((issue m r delivered).passed plane) r) :
      Effect plane (issue m r delivered)
        (((issue m r delivered).passed plane).deleteIdempotency key)
  | issued (m : IssueMoment) (r : ControlRequest) (delivered : Command → ℕ) (c : Command)
      (hc : c = ((issue m r delivered).passed plane).issuedCommand m r delivered)
      (hgone : Gone (plane.maintain m.maintainedAt) ((issue m r delivered).passed plane) r)
      (hsize : (((issue m r delivered).passed plane).commands.length : ℤ) < plane.config.maxCommands) :
      Effect plane (issue m r delivered)
        (((issue m r delivered).passed plane).recordCommand c r.cacheKey)
  | answered (event : Json) (t : ℤ) (c : Command) (node : Text)
      (h : Answers (plane.maintain t) event c node) :
      Effect plane (acknowledge event t) ((plane.maintain t).recordAnswer c node
        (acknowledgement (sanitizeControlAcknowledgement event) t))

variable {plane after : ControlPlane} {call : PlaneCall} {d : Command}

/-- What maintenance keeps holds after the passes of a call. -/
theorem passed_induction (P : ControlPlane → Prop) (h : P plane)
    (hmaintain : ∀ p t, P p → P (p.maintain t)) : P (call.passed plane) :=
  foldlRecOn _ _ h fun p hp t _ => hmaintain p t hp

theorem passed_config :
    (call.passed plane).config = plane.config ∧ (call.passed plane).nodeIds = plane.nodeIds :=
  passed_induction (fun p => p.config = plane.config ∧ p.nodeIds = plane.nodeIds) ⟨rfl, rfl⟩
    fun _ _ h => h

theorem mem_passed : ∀ d ∈ (call.passed plane).commands, ∃ c ∈ plane.commands, Successor c d := by
  refine passed_induction (fun p => ∀ d ∈ p.commands, ∃ c ∈ plane.commands, Successor c d)
    (fun d hd => ⟨d, hd, .refl d⟩) fun p t hp d hd => ?_
  obtain ⟨e, he, rfl, -⟩ := mem_maintain.1 hd
  obtain ⟨c, hc, hsucc⟩ := hp e he
  exact ⟨c, hc, hsucc.trans (successor_expire t e)⟩

theorem entry_passed : ∀ e ∈ (call.passed plane).idempotency, e ∈ plane.idempotency :=
  passed_induction (fun p => ∀ e ∈ p.idempotency, e ∈ plane.idempotency) (fun _ he => he)
    fun _ _ hp e he => hp e (mem_of_mem_filter he)

theorem step_effect (plane : ControlPlane) (call : PlaneCall) : Effect plane call (call.step plane) := by
  cases call with
  | maintain t => exact .kept (maintain t) (by rintro _ _ ⟨⟩)
  | issue m r delivered =>
    have hstep := plane.issue_step m r delivered
    dsimp only at hstep
    rw [← passed_issue plane m r delivered] at hstep
    rw [step]
    generalize plane.issue m r delivered = outcome at hstep
    cases hstep with
    | refused => exact .kept _ (by rintro _ _ ⟨⟩)
    | dropped _ key hkey hgone => exact .dropped m r delivered key hkey hgone
    | issued c hc hvalid hgone hsize =>
      rw [passed_config.1] at hsize
      exact .issued m r delivered c hc hgone hsize
    | replayed => exact .replayed m r delivered
  | acknowledge event t =>
    obtain ⟨heq, hnone⟩ | ⟨c, node, h, heq⟩ := plane.acknowledge_step event t
    all_goals rw [step, heq]
    · refine .kept (acknowledge event t) fun event' t' heq' => ?_
      cases heq'
      exact hnone
    · exact .answered event t c node h

namespace Effect

variable (h : Effect plane call after)
include h

/-- **A call keeps the commands**, apart from a new one. -/
theorem mem (hd : d ∈ after.commands) :
    (∃ c ∈ (call.passed plane).commands, Successor c d) ∨ call.uuid = some d.id := by
  cases h with
  | kept | replayed | dropped => exact .inl ⟨d, hd, .refl d⟩
  | issued m r delivered c hc =>
    rw [recordCommand_commands] at hd
    rcases mem_setCommand hd with rfl | ⟨hd, -⟩
    · exact .inr (by rw [hc]; rfl)
    · exact .inl ⟨d, hd, .refl d⟩
  | answered event t c node hanswers =>
    rcases mem_setCommand hd with rfl | ⟨hd, -⟩
    · exact .inl ⟨_, (command_eq_some hanswers.command).1, successor_acknowledged hanswers.pending _ _⟩
    · exact .inl ⟨d, hd, .refl d⟩

/-- **A call keeps the keys**, apart from the one that it is about. -/
theorem entry {e : Text × Idempotency} (he : e ∈ after.idempotency) :
    e ∈ (call.passed plane).idempotency ∨
      call.cacheKey = some e.1 ∧ call.uuid = some e.2.commandId := by
  cases h with
  | kept | replayed | answered => exact .inl he
  | dropped => exact .inl (mem_of_mem_filter he)
  | issued m r delivered c hc =>
    rw [recordCommand] at he
    cases hkey : r.cacheKey with
    | none =>
      rw [hkey] at he
      exact .inl he
    | some key =>
      rw [hkey] at he
      rcases mem_append.1 he with he | he
      · exact .inl (mem_of_mem_filter he)
      · rw [mem_singleton.1 he, hc]
        exact .inr ⟨hkey, rfl⟩

theorem mem_id (hd : d ∈ (call.passed plane).commands) : ∃ e ∈ after.commands, e.id = d.id := by
  cases h with
  | kept | replayed | dropped => exact ⟨d, hd, rfl⟩
  | issued =>
    rw [recordCommand_commands]
    exact mem_id_setCommand hd
  | answered => exact mem_id_setCommand hd

theorem filter_entries {key : Text} (hkey : call.cacheKey ≠ some key) :
    after.idempotency.filter (·.1 = key) = (call.passed plane).idempotency.filter (·.1 = key) := by
  have hdrop : ∀ {l : List (Text × Idempotency)} {key' : Text}, key' ≠ key →
      (l.filter (·.1 ≠ key')).filter (·.1 = key) = l.filter (·.1 = key) := by
    intro l key' hne
    rw [filter_filter]
    refine filter_congr fun e _ => ?_
    by_cases he : e.1 = key
    · simp [he, Ne.symm hne]
    · simp [he]
  cases h with
  | kept | replayed | answered => rfl
  | dropped m r delivered key' hkey' => exact hdrop fun heq => hkey (hkey'.trans (congrArg some heq))
  | issued m r delivered =>
    rw [recordCommand]
    cases hcache : r.cacheKey with
    | none => rfl
    | some key' =>
      have hne : key' ≠ key := fun heq => hkey (hcache.trans (congrArg some heq))
      simp only [Option.elim_some, setIdempotency, setCommand, filter_append, hdrop hne]
      simp [hne]

theorem config : after.config = plane.config ∧ after.nodeIds = plane.nodeIds := by
  have hpassed : (call.passed plane).config = plane.config ∧ _ := passed_config
  cases h with
  | issued => rwa [recordCommand_config, recordCommand_nodeIds]
  | _ => exact hpassed

end Effect

theorem mem_step (h : d ∈ (call.step plane).commands) :
    (∃ c ∈ plane.commands, Successor c d) ∨ call.uuid = some d.id := by
  refine ((step_effect plane call).mem h).imp_left ?_
  rintro ⟨c, hc, hsucc⟩
  obtain ⟨b, hb, hbc⟩ := mem_passed c hc
  exact ⟨b, hb, hbc.trans hsucc⟩

theorem entry_step {e : Text × Idempotency} (h : e ∈ (call.step plane).idempotency) :
    e ∈ plane.idempotency ∨ call.cacheKey = some e.1 ∧ call.uuid = some e.2.commandId :=
  ((step_effect plane call).entry h).imp_left (entry_passed e)

theorem run_config (plane : ControlPlane) (calls : List PlaneCall) :
    (calls.foldl step plane).config = plane.config ∧
      (calls.foldl step plane).nodeIds = plane.nodeIds := by
  induction calls generalizing plane with
  | nil => exact ⟨rfl, rfl⟩
  | cons call calls ih =>
    obtain ⟨hconfig, hnodes⟩ := (step_effect plane call).config
    exact ⟨(ih _).1.trans hconfig, (ih _).2.trans hnodes⟩

end PlaneCall

end GraphX
