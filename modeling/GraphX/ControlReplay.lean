/-
  The lifetime of an `Idempotency-Key` (`ControlPlane.issue` and `#maintain` of
  `apps/telemetry/control.mjs`).

  A key is kept for `idempotency_ttl_seconds`, and the command that it stands for for
  `command_retention_seconds`.  A request that is made again is answered with its command
  as long as both are there.

  * **`key_honoured_iff`**: the second request delivers nothing iff all passes are such.
-/
import GraphX.ControlCalls
import GraphX.Lib.Runs

namespace GraphX

open Ecma ControlPlane List

/-! ## The same request -/

/-- The requests differ at most in the order of their targets. -/
structure SameRequest (r r' : ControlRequest) : Prop where
  actor : r'.actor = r.actor
  action : r'.action = r.action
  reason : r'.reason = r.reason
  key : r'.idempotencyKey = r.idempotencyKey
  targets : ∀ node, node ∈ r'.targetNodes ↔ node ∈ r.targetNodes

theorem sortTexts_perm {s t : List Text} (h : s.Perm t) : sortTexts s = sortTexts t := by
  have hsorted : ∀ l : List Text, (sortTexts l).Pairwise fun a b => a ≤ b := by
    intro l
    refine (pairwise_mergeSort ?_ ?_ l).imp fun h => by simpa using h
    · intro a b c hab hbc
      simp only [decide_eq_true_eq] at *
      exact List.le_trans hab hbc
    · intro a b
      simpa using List.le_total a b
  refine List.Perm.eq_of_pairwise (fun a b _ _ => List.le_antisymm) (hsorted s) (hsorted t) ?_
  exact (List.mergeSort_perm s _).trans (h.trans (List.mergeSort_perm t _).symm)

namespace SameRequest

variable {r r' : ControlRequest} (h : SameRequest r r')
include h

theorem perm : r'.targetNodes.eraseDups.Perm r.targetNodes.eraseDups := by
  rw [perm_ext_iff_of_nodup (Keyed.nodup_eraseDups _) (Keyed.nodup_eraseDups _)]
  simpa using h.targets

theorem print_eq : r'.print = r.print := by
  rw [ControlRequest.print, ControlRequest.print, fingerprint, fingerprint, h.action, h.reason,
    sortTexts_perm h.perm]

theorem cacheKey_eq : r'.cacheKey = r.cacheKey := by
  rw [ControlRequest.cacheKey, ControlRequest.cacheKey, h.actor, h.key]

theorem refusal_eq {plane plane' : ControlPlane} (hnodes : plane'.nodeIds = plane.nodeIds) :
    plane'.refusal r' = plane.refusal r := by
  have hvalid : plane'.validTargets r'.action r'.targetNodes.eraseDups =
      plane.validTargets r.action r.targetNodes.eraseDups := by
    simp only [validTargets, h.action, hnodes, h.perm.length_eq, h.perm.isEmpty_eq,
      h.perm.all_eq]
  rw [ControlPlane.refusal, ControlPlane.refusal, hvalid, h.reason, h.key]

end SameRequest

/-! ## The key and its command -/

/-- What is kept of a key. -/
def ControlPlane.entryOf (plane : ControlPlane) (c : Command) (r : ControlRequest) : Idempotency where
  commandId := c.id
  fingerprint := r.print
  expiresAt := c.issuedAt + plane.config.idempotencyTtlSeconds * 1000

structure StandsFor (plane : ControlPlane) (c : Command) (r : ControlRequest) (key : Text) : Prop where
  entry : plane.idempotency.filter (·.1 = key) = [(key, plane.entryOf c r)]
  command : ∃ d ∈ plane.commands, d.id = c.id
  issuedAt : ∀ d ∈ plane.commands, d.id = c.id → d.issuedAt = c.issuedAt

def Forgotten (plane : ControlPlane) (c : Command) (key : Text) : Prop :=
  (∀ d ∈ plane.commands, d.id ≠ c.id) ∨
    ∀ e ∈ plane.idempotency, e.1 = key → e.2.commandId ≠ c.id

/-- A maintenance pass at this time deletes neither the key nor the command. -/
structure Kept (plane : ControlPlane) (c : Command) (t : ℤ) : Prop where
  key : t < c.issuedAt + plane.config.idempotencyTtlSeconds * 1000
  command : t ≤ c.issuedAt + plane.config.commandRetentionSeconds * 1000

section
variable {plane : ControlPlane} {c : Command} {r : ControlRequest} {key : Text}

theorem StandsFor.previous (h : StandsFor plane c r key) {r' : ControlRequest}
    (hkey : r'.cacheKey = some key) : plane.previous r' = some (key, plane.entryOf c r) := by
  rw [ControlPlane.previous, hkey, Option.bind_some, Keyed.lookup_eq_of_filter h.entry, Option.map_some]

theorem StandsFor.command_ne_none (h : StandsFor plane c r key) : plane.command c.id ≠ none := by
  obtain ⟨d, hd, hid⟩ := h.command
  exact fun hnone => command_eq_none.1 hnone d hd hid

/-! ### Maintenance -/

variable {t : ℤ}

theorem StandsFor.maintain (h : StandsFor plane c r key) (ht : Kept plane c t) :
    StandsFor (plane.maintain t) c r key := by
  obtain ⟨d, hd, hid⟩ := h.command
  have hrecent : t - plane.config.commandRetentionSeconds * 1000 ≤ d.issuedAt := by
    have := ht.command
    rw [h.issuedAt d hd hid]
    omega
  refine ⟨?_, ⟨_, mem_maintain.2 ⟨d, hd, rfl, hrecent⟩, by simpa using hid⟩, ?_⟩
  · have hkey : ¬t ≥ (plane.entryOf c r).expiresAt := not_le.2 ht.key
    rw [ControlPlane.maintain, filter_comm, h.entry, filter_cons_of_pos (by simpa using hkey)]
    rfl
  · rintro e he heid
    obtain ⟨e', he', rfl, -⟩ := mem_maintain.1 he
    simpa using h.issuedAt e' he' (by simpa using heid)

theorem StandsFor.forgets (h : StandsFor plane c r key) (ht : ¬Kept plane c t) :
    Forgotten (plane.maintain t) c key := by
  by_cases hcommand : t ≤ c.issuedAt + plane.config.commandRetentionSeconds * 1000
  · right
    have hkey : t ≥ (plane.entryOf c r).expiresAt := not_lt.1 fun hkey => ht ⟨hkey, hcommand⟩
    rintro e he heq
    simp only [ControlPlane.maintain, mem_filter, Bool.not_eq_true', decide_eq_false_iff_not] at he
    have hmem : e ∈ plane.idempotency.filter (·.1 = key) :=
      mem_filter.2 ⟨he.1, by simpa using heq⟩
    rw [h.entry, mem_singleton] at hmem
    rw [hmem] at he
    exact absurd hkey he.2
  · left
    rintro d hd hid
    obtain ⟨d', hd', rfl, hrecent⟩ := mem_maintain.1 hd
    rw [h.issuedAt d' hd' (by simpa using hid)] at hrecent
    omega

variable {plane' : ControlPlane}

theorem Forgotten.of_tables (h : Forgotten plane c key)
    (hcommands : ∀ d ∈ plane'.commands, d.id = c.id → ∃ e ∈ plane.commands, Successor e d)
    (hentries : ∀ e ∈ plane'.idempotency, e.2.commandId = c.id → e ∈ plane.idempotency) :
    Forgotten plane' c key := by
  rcases h with h | h
  · left
    intro d hd hid
    obtain ⟨e, he, hsucc⟩ := hcommands d hd hid
    exact h e he (hsucc.id.symm.trans hid)
  · exact .inr fun e he heq hid => h e (hentries e he hid) heq hid

theorem Forgotten.maintain (h : Forgotten plane c key) (t : ℤ) : Forgotten (plane.maintain t) c key := by
  refine h.of_tables (fun d hd _ => ?_) fun e he _ => mem_of_mem_filter he
  obtain ⟨e, he, rfl, -⟩ := mem_maintain.1 hd
  exact ⟨e, he, successor_expire t e⟩

theorem Kept.of_config (hconfig : plane'.config = plane.config) :
    Kept plane' c t ↔ Kept plane c t := by
  have hkept : ∀ {p p' : ControlPlane}, p'.config = p.config → Kept p c t → Kept p' c t :=
    fun hp h => ⟨hp ▸ h.key, hp ▸ h.command⟩
  exact ⟨hkept hconfig.symm, hkept hconfig⟩

/-! ### Calls -/

theorem Forgotten.run (h : Forgotten plane c key) {calls : List PlaneCall}
    (hids : ∀ call ∈ calls, call.uuid ≠ some c.id) :
    Forgotten (calls.foldl PlaneCall.step plane) c key := by
  refine foldlRecOn (motive := (Forgotten · c key)) calls _ h fun p hp call hcall => ?_
  have hid := hids call hcall
  exact hp.of_tables
    (fun d hd hdid => (PlaneCall.mem_step hd).resolve_right fun hnew => hid (hdid ▸ hnew))
    fun e he heid => (PlaneCall.entry_step he).resolve_right fun hnew => hid (heid ▸ hnew.2)

/-- **A call remembers the key iff all of its maintenance passes keep it.** -/
theorem StandsFor.step (h : StandsFor plane c r key) {call : PlaneCall}
    (hid : call.uuid ≠ some c.id) :
    (∀ t ∈ call.passes plane, Kept plane c t) ∧ StandsFor (call.step plane) c r key ∨
      ¬(∀ t ∈ call.passes plane, Kept plane c t) ∧ Forgotten (call.step plane) c key := by
  have heffect := PlaneCall.step_effect plane call
  have hcommands : ∀ d ∈ (call.step plane).commands, d.id = c.id →
      ∃ e ∈ (call.passed plane).commands, Successor e d := fun d hd hdid =>
    (heffect.mem hd).resolve_right fun hnew => hid (hdid ▸ hnew)
  rcases Runs.foldl_kept_or_lost (fun p => StandsFor p c r key ∧ p.config = plane.config)
    (Forgotten · c key) (Kept plane c)
    (fun p t hp ht => ⟨hp.1.maintain ((Kept.of_config hp.2).2 ht), hp.2⟩)
    (fun p t hp ht => hp.1.forgets fun hkept => ht ((Kept.of_config hp.2).1 hkept))
    (fun p t hp => hp.maintain t) (call.passes plane) ⟨h, rfl⟩ with ⟨hkept, hpassed, -⟩ | ⟨hnot, hlost⟩
  · refine .inl ⟨hkept, ?_⟩
    change StandsFor (call.passed plane) c r key at hpassed
    -- a call with the same key finds the command, and so it does not change the entry
    have hentries : (call.step plane).idempotency.filter (·.1 = key) =
        (call.passed plane).idempotency.filter (·.1 = key) := by
      by_cases hkey : call.cacheKey = some key
      · generalize call.step plane = after at heffect
        cases heffect with
        | kept | replayed | answered => rfl
        | dropped m r' _ _ _ hgone | issued m r' _ _ _ hgone =>
          have hfirst := h.maintain (hkept m.maintainedAt mem_cons_self)
          exact absurd (hgone key _ (hfirst.previous hkey)) hpassed.command_ne_none
      · exact heffect.filter_entries hkey
    refine ⟨?_, ?_, fun d hd hdid => ?_⟩
    · rw [hentries, hpassed.entry, entryOf, entryOf, heffect.config.1, PlaneCall.passed_config.1]
    · obtain ⟨d, hd, hdid⟩ := hpassed.command
      obtain ⟨e, he, heid⟩ := heffect.mem_id hd
      exact ⟨e, he, heid.trans hdid⟩
    · obtain ⟨e, he, hsucc⟩ := hcommands d hd hdid
      rw [hsucc.issuedAt]
      exact hpassed.issuedAt e he (hsucc.id.symm.trans hdid)
  · refine .inr ⟨hnot, Forgotten.of_tables hlost hcommands fun e he heid => ?_⟩
    exact (heffect.entry he).resolve_right fun hnew => hid (heid ▸ hnew.2)

/-- **A run remembers the key iff all of its maintenance passes keep it.** -/
theorem StandsFor.run (h : StandsFor plane c r key) {calls : List PlaneCall}
    (hids : ∀ call ∈ calls, call.uuid ≠ some c.id) :
    (∀ t ∈ PlaneCall.passesOf plane calls, Kept plane c t) ∧
        StandsFor (calls.foldl PlaneCall.step plane) c r key ∨
      ¬(∀ t ∈ PlaneCall.passesOf plane calls, Kept plane c t) ∧
        Forgotten (calls.foldl PlaneCall.step plane) c key := by
  induction calls generalizing plane with
  | nil => exact .inl ⟨fun t ht => absurd ht not_mem_nil, h⟩
  | cons call calls ih =>
    obtain ⟨hcall, hcalls⟩ := forall_mem_cons.1 hids
    have hconfig := (PlaneCall.step_effect plane call).config.1
    simp only [PlaneCall.passesOf, forall_mem_append]
    rcases h.step hcall with ⟨hkept, hremembers⟩ | ⟨hnot, hforgotten⟩
    · have hrest := ih hremembers hcalls
      simp only [Kept.of_config hconfig] at hrest
      exact hrest.imp (fun h => ⟨⟨hkept, h.1⟩, h.2⟩) fun h => ⟨fun hall => h.1 hall.2, h.2⟩
    · exact .inr ⟨fun hall => hnot hall.1, hforgotten.run hcalls⟩

/-! ## The second request -/

/-- Nothing else is known of the key. -/
def Sole (plane : ControlPlane) (key : Text) (entry : Idempotency) : Prop :=
  ∀ e ∈ plane.idempotency, e.1 = key → e.2 = entry

theorem Sole.run {entry : Idempotency} (h : Sole plane key entry) {calls : List PlaneCall}
    (hkeys : ∀ call ∈ calls, call.cacheKey ≠ some key) :
    Sole (calls.foldl PlaneCall.step plane) key entry := by
  refine foldlRecOn (motive := (Sole · key entry)) calls _ h fun p hp call hcall e he heq => ?_
  exact hp e ((PlaneCall.entry_step he).resolve_right fun hnew => hkeys call hcall (heq ▸ hnew.1)) heq

variable {m : IssueMoment}

theorem standsFor_of_issue {delivered : Command → ℕ}
    (h : (plane.issue m r delivered).1 = .ok (c, false)) (hkey : r.cacheKey = some key) :
    StandsFor (plane.issue m r delivered).2 c r key := by
  obtain ⟨-, hc, hplane⟩ := (plane.issue_step m r delivered).new h
  have hholds := ((plane.maintain m.maintainedAt).lookedUp m r).holds_setCommand c
  rw [hplane]
  refine ⟨?_, ?_, ?_⟩
  · have hprint : fingerprint c.action c.targetNodes c.reason = r.print := by rw [hc]; rfl
    simp [hkey, recordCommand, setIdempotency, setCommand, entryOf, hprint]
  · rw [recordCommand_commands]
    exact ⟨c, hholds.mem, rfl⟩
  · rw [recordCommand_commands]
    intro d hd hid
    rw [hholds.unique d hd hid]

/-- The request is answered with the command, whatever would be delivered. -/
def Replays (plane : ControlPlane) (m : IssueMoment) (r : ControlRequest) (c : Command) : Prop :=
  ∀ delivered, ∃ d, (plane.issue m r delivered).1 = .ok (d, true) ∧ d.id = c.id

/-- The request goes on to the delivery of a new command, if the table is not full. -/
def DeliversAgain (plane : ControlPlane) (m : IssueMoment) (r : ControlRequest) : Prop :=
  ∃ plane' : ControlPlane, ∀ delivered,
    plane.issue m r delivered = plane'.issueNew m r r.cacheKey delivered

theorem Replays.not_delivers (h : Replays plane m r c) : ¬DeliversAgain plane m r := by
  rintro ⟨plane', hplane'⟩
  obtain ⟨d, hd, -⟩ := h fun _ => 1
  rw [hplane'] at hd
  obtain ⟨e, heq⟩ | ⟨-, heq⟩ := plane'.issueNew_step m r r.cacheKey fun _ => 1
  all_goals
    rw [heq] at hd
    cases hd

theorem Forgotten.not_replays (h : Forgotten (plane.maintain m.maintainedAt) c key)
    (hkey : r.cacheKey = some key) : ¬Replays plane m r c := by
  intro hreplays
  obtain ⟨d, hd, hid⟩ := hreplays fun _ => 0
  have hstep := plane.issue_step m r fun _ => 0
  generalize plane.issue m r (fun _ => 0) = outcome at hstep hd
  cases hstep with
  | refused | dropped | issued => cases hd
  | replayed key' entry e hprevious hcommand =>
    cases hd
    obtain ⟨hmem, hentry⟩ := command_eq_some hcommand
    obtain ⟨hkey', hknown⟩ := previous_eq_some hprevious
    rcases h with hnone | hnone
    · obtain ⟨e, he, hsucc⟩ := mem_lookedUp hmem
      exact hnone e he (hsucc.id.symm.trans hid)
    · refine hnone _ hknown ?_ (hentry.symm.trans hid)
      exact Option.some.inj (hkey'.symm.trans hkey)

theorem issue_known {entry : Idempotency}
    (hvalid : (plane.maintain m.maintainedAt).refusal r = none)
    (hprevious : (plane.maintain m.maintainedAt).previous r = some (key, entry))
    (hprint : entry.fingerprint = r.print) :
    (∃ c, ((plane.maintain m.maintainedAt).maintain m.previousAt).command entry.commandId = some c ∧
        Replays plane m r c) ∨
      ((plane.maintain m.maintainedAt).maintain m.previousAt).command entry.commandId = none ∧
        DeliversAgain plane m r := by
  unfold Replays DeliversAgain
  simp only [ControlPlane.issue, hvalid, hprevious, hprint, ne_eq, not_true, if_false]
  cases hcommand : ((plane.maintain m.maintainedAt).maintain m.previousAt).command entry.commandId with
  | none => exact .inr ⟨rfl, _, fun _ => rfl⟩
  | some c => exact .inl ⟨c, rfl, fun _ => ⟨c, rfl, rfl⟩⟩

theorem Forgotten.delivers (h : Forgotten (plane.maintain m.maintainedAt) c key)
    (hkey : r.cacheKey = some key) (hvalid : (plane.maintain m.maintainedAt).refusal r = none)
    {entry : Idempotency} (hsole : Sole (plane.maintain m.maintainedAt) key entry)
    (hcommand : entry.commandId = c.id) (hprint : entry.fingerprint = r.print) :
    DeliversAgain plane m r := by
  cases hprevious : (plane.maintain m.maintainedAt).previous r with
  | none =>
    refine ⟨plane.maintain m.maintainedAt, fun delivered => ?_⟩
    simp only [ControlPlane.issue, hvalid, hprevious]
  | some previous =>
    obtain ⟨key', known⟩ := previous
    obtain ⟨hkey', hknown⟩ := previous_eq_some hprevious
    obtain rfl : key' = key := Option.some.inj (hkey'.symm.trans hkey)
    obtain rfl : known = entry := hsole _ hknown rfl
    rcases issue_known hvalid hprevious hprint with ⟨d, hd, hreplays⟩ | ⟨-, hdelivers⟩
    · have hid : d.id = c.id := (command_eq_some hd).2.trans hcommand
      refine absurd (fun delivered => ?_) (h.not_replays hkey)
      obtain ⟨e, he, heid⟩ := hreplays delivered
      exact ⟨e, he, heid.trans hid⟩
    · exact hdelivers

theorem StandsFor.command_iff (h : StandsFor plane c r key) :
    (plane.maintain t).command c.id = none ↔
      ¬t ≤ c.issuedAt + plane.config.commandRetentionSeconds * 1000 := by
  rw [command_eq_none]
  constructor
  · intro hnone hrecent
    obtain ⟨d, hd, hid⟩ := h.command
    refine hnone _ (mem_maintain.2 ⟨d, hd, rfl, ?_⟩) (by simpa using hid)
    rw [h.issuedAt d hd hid]
    omega
  · intro hlate d hd hid
    obtain ⟨d', hd', rfl, hrecent⟩ := mem_maintain.1 hd
    rw [h.issuedAt d' hd' (by simpa using hid)] at hrecent
    omega

end

/-- **The lifetime of a key.**  A request that is made again within the lifetime of its key
    is answered with the first command iff no maintenance pass in between came after the
    key or the command was due to be deleted.  If the key was not used otherwise, the
    request is delivered again in all other cases. -/
theorem key_honoured_iff {plane : ControlPlane} {m m' : IssueMoment} {r r' : ControlRequest}
    {delivered : Command → ℕ} {c : Command} {calls : List PlaneCall}
    (hfirst : (plane.issue m r delivered).1 = .ok (c, false)) (hkey : r.idempotencyKey.isSome = true)
    (hids : ∀ call ∈ calls, call.uuid ≠ some c.id) (hsame : SameRequest r r')
    (hwithin : m'.maintainedAt < c.issuedAt + plane.config.idempotencyTtlSeconds * 1000 ∧
      m'.previousAt < c.issuedAt + plane.config.idempotencyTtlSeconds * 1000) :
    let issued := (plane.issue m r delivered).2
    let later := calls.foldl PlaneCall.step issued
    let kept := ∀ t ∈ PlaneCall.passesOf issued calls ++ [m'.maintainedAt, m'.previousAt],
      Kept plane c t
    (Replays later m' r' c ↔ kept) ∧
      ((∀ call ∈ calls, call.cacheKey ≠ r.cacheKey) → (DeliversAgain later m' r' ↔ ¬kept)) := by
  intro issued later kept
  obtain ⟨key, hcache⟩ : ∃ key, r.cacheKey = some key := by
    obtain ⟨key, heq⟩ := Option.isSome_iff_exists.1 hkey
    exact ⟨_, congrArg (Option.map _) heq⟩
  have hcache' : r'.cacheKey = some key := hsame.cacheKey_eq.trans hcache
  -- the configuration stays, and so the second request is as valid as the first
  obtain ⟨hissuedConfig, hissuedNodes⟩ :=
    (PlaneCall.step_effect plane (.issue m r delivered)).config
  obtain ⟨hrunConfig, hrunNodes⟩ := PlaneCall.run_config issued calls
  have hconfig : later.config = plane.config := hrunConfig.trans hissuedConfig
  have hvalid : (later.maintain m'.maintainedAt).refusal r' = none :=
    (hsame.refusal_eq (hrunNodes.trans hissuedNodes)).trans
      ((plane.issue_step m r delivered).new hfirst).1
  have hremembers : StandsFor issued c r key := standsFor_of_issue hfirst hcache
  have hkept : ∀ {p : ControlPlane}, p.config = plane.config → ∀ t, Kept p c t ↔ Kept plane c t :=
    fun hp t => Kept.of_config hp
  have hentry : ∀ {p : ControlPlane}, (p.entryOf c r).commandId = c.id ∧
      (p.entryOf c r).fingerprint = r'.print := ⟨rfl, hsame.print_eq.symm⟩
  -- a key that was forgotten is not used again
  have hforgotten : Forgotten (later.maintain m'.maintainedAt) c key → ¬Replays later m' r' c ∧
      ((∀ call ∈ calls, call.cacheKey ≠ r.cacheKey) → DeliversAgain later m' r') := by
    refine fun h => ⟨h.not_replays hcache', fun hkeys => ?_⟩
    have hsole : Sole issued key (issued.entryOf c r) := by
      intro e he heq
      have hmem : e ∈ issued.idempotency.filter (·.1 = key) :=
        mem_filter.2 ⟨he, by simpa using heq⟩
      rw [hremembers.entry, mem_singleton] at hmem
      rw [hmem]
    have hrun := hsole.run fun call hcall => hcache ▸ hkeys call hcall
    exact h.delivers hcache' hvalid (fun e he => hrun e (mem_of_mem_filter he)) hentry.1 hentry.2
  have hcases : kept ∧ Replays later m' r' c ∨ ¬kept ∧ ¬Replays later m' r' c ∧
      ((∀ call ∈ calls, call.cacheKey ≠ r.cacheKey) → DeliversAgain later m' r') := by
    simp only [kept, forall_mem_append, forall_mem_cons]
    have hissued : ∀ t, Kept issued c t ↔ Kept plane c t := hkept hissuedConfig
    have hrun := hremembers.run hids
    simp only [hissued] at hrun
    rcases hrun with ⟨hpasses, hlater⟩ | ⟨hnot, hlost⟩
    · by_cases hmaintained : Kept plane c m'.maintainedAt
      · have hknown : StandsFor (later.maintain m'.maintainedAt) c r key :=
          hlater.maintain ((hkept hconfig _).2 hmaintained)
        have hretention : ((later.maintain m'.maintainedAt).maintain m'.previousAt).command c.id = none ↔
            ¬m'.previousAt ≤ c.issuedAt + later.config.commandRetentionSeconds * 1000 :=
          hknown.command_iff
        rw [hconfig] at hretention
        rcases issue_known hvalid (hknown.previous hcache') hentry.2 with
          ⟨d, hd, hreplays⟩ | ⟨hnone, hdelivers⟩
        · left
          have hrecent : m'.previousAt ≤ c.issuedAt + plane.config.commandRetentionSeconds * 1000 := by
            by_contra hlate
            exact Option.some_ne_none d (hd.symm.trans (hretention.2 hlate))
          refine ⟨⟨hpasses, hmaintained, ⟨hwithin.2, hrecent⟩, by simp⟩, fun delivered => ?_⟩
          obtain ⟨e, he, heid⟩ := hreplays delivered
          exact ⟨e, he, heid.trans (command_eq_some hd).2⟩
        · right
          refine ⟨fun hall => ?_, fun hreplays => hreplays.not_delivers hdelivers, fun _ => hdelivers⟩
          exact hretention.1 hnone hall.2.2.1.command
      · have hlost := hlater.forgets fun h => hmaintained ((hkept hconfig _).1 h)
        exact .inr ⟨fun hall => hmaintained hall.2.1, hforgotten hlost⟩
    · exact .inr ⟨fun hall => hnot hall.1, hforgotten (hlost.maintain _)⟩
  rcases hcases with ⟨hyes, hreplays⟩ | ⟨hno, hreplays, hdelivers⟩
  · exact ⟨iff_of_true hreplays hyes, fun _ =>
      iff_of_false hreplays.not_delivers (not_not.2 hyes)⟩
  · exact ⟨iff_of_false hreplays hno, fun hkeys => iff_of_true (hdelivers hkeys) hno⟩

namespace RepeatedPause

theorem minute_valid : (60 : ℤ) ≤ 60 ∧ (60 : ℤ) ≤ 86400 := by decide

theorem hour_valid : (60 : ℤ) ≤ 3600 ∧ (3600 : ℤ) ≤ 86400 := by decide

def minute : Bounded 60 86400 := ⟨60, minute_valid⟩

def hour : Bounded 60 86400 := ⟨3600, hour_valid⟩

def config (retention : Bounded 60 86400) : ControlConfig :=
  { ControlConfig.unset with commandRetentionSeconds := retention }

def plane (retention : Bounded 60 86400) : ControlPlane where
  config := config retention
  nodeIds := [text "source"]

def request : ControlRequest where
  action := .pause
  targetNodes := [text "source"]
  actor := text "operator"
  idempotencyKey := some (text "request-1")

def moment (t : ℤ) (uuid : String) : IssueMoment := ⟨t, t, t, text uuid⟩

def command (t : ℤ) (uuid : String) : Command :=
  (plane minute).issuedCommand (moment t uuid) request fun _ => 1

end RepeatedPause

open RepeatedPause in
theorem key_honoured_hour :
    Replays ((plane hour).issue (moment 0 "c1") request fun _ => 1).2 (moment 61000 "c2") request
      (command 0 "c1") := by
  have h := (key_honoured_iff
    (show ((plane hour).issue (moment 0 "c1") request fun _ => 1).1 = .ok (command 0 "c1", false)
      from rfl) rfl
    (show ∀ call ∈ ([] : List PlaneCall), call.uuid ≠ some (command 0 "c1").id from
      fun call hcall => absurd hcall not_mem_nil)
    (⟨rfl, rfl, rfl, rfl, fun _ => Iff.rfl⟩ : SameRequest request request)
    (show (moment 61000 "c2").maintainedAt < _ ∧ (moment 61000 "c2").previousAt < _ by decide)).1
  refine h.2 fun t ht => ?_
  have htime : t = 61000 := by simpa [PlaneCall.passesOf, moment] using ht
  subst htime
  exact ⟨by decide, by decide⟩

open RepeatedPause in
/-- Commands are kept for a minute and keys for an hour: after 61 seconds the same request
    pauses the node once more. -/
theorem key_forgotten_minute :
    ∃ later, (plane minute).issue (moment 0 "c1") request (fun _ => 1) =
        (.ok (command 0 "c1", false), later) ∧
      (moment 61000 "c2").issuedAt < (command 0 "c1").issuedAt +
        (plane minute).config.idempotencyTtlSeconds * 1000 ∧
      (later.issue (moment 61000 "c2") request fun _ => 1).1 = .ok (command 61000 "c2", false) := by
  refine ⟨_, rfl, by decide, ?_⟩
  exact congrArg Prod.fst (if_neg fun h => h rfl)

end GraphX
