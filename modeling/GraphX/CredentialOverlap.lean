/-
  The values that the collector redacts (`credentialValues` of `CredentialRegistry`, in
  `apps/telemetry/control.mjs`).

  A value that a reload replaces is kept for the overlap, whatever the reloads after it
  find.  That no two values that were ever active have the same SHA-256 fingerprint is
  assumed.
-/
import GraphX.CredentialModes

namespace GraphX

open CredentialModes Ecma List

def CredentialRegistry.credentialValues (registry : CredentialRegistry)
    (previousEntries : List CredentialEntry) (now : ℤ) : List Text :=
  (registry.activeCredentials ++ (registry.pruneRetired now).retiredCredentials.map (·.2.1) ++
    previousEntries.map (·.value)).eraseDups

/-- The state after some refreshes, each forced or not. -/
def CredentialModes.Mode.run (mode : Mode) (fingerprint : Text → Text) (s : CredentialState)
    (calls : List (Bool × Reading)) : CredentialState :=
  calls.foldl (fun s call => (mode.refresh fingerprint s call.1 call.2).2) s

/-- The value is kept until `deadline` at least. -/
def KeptUntil (fingerprint : Text → Text) (deadline : ℤ) (value : Text)
    (retired : List (Text × Text × ℤ)) : Prop :=
  ∃ expiresAt, (fingerprint value, value, expiresAt) ∈ retired ∧ deadline ≤ expiresAt

section
variable {fingerprint : Text → Text} {deadline now : ℤ} {value : Text} {registry : CredentialRegistry}
  {mode : Mode} {s : CredentialState} {call : Bool × Reading}

theorem KeptUntil.prune (h : KeptUntil fingerprint deadline value registry.retiredCredentials)
    (hnow : now < deadline) :
    KeptUntil fingerprint deadline value (registry.pruneRetired now).retiredCredentials := by
  obtain ⟨expiresAt, hmem, hle⟩ := h
  refine ⟨expiresAt, mem_filter.2 ⟨hmem, ?_⟩, hle⟩
  simpa using hnow.trans_le hle

/-- A value that is replaced is kept from now on, and one that was kept already is not lost. -/
theorem KeptUntil.retire {next : List Text}
    (hinj : ∀ v ∈ registry.activeCredentials, fingerprint v = fingerprint value → v = value)
    (hdeadline : deadline ≤ now + registry.redactionOverlapMs)
    (h : KeptUntil fingerprint deadline value registry.retiredCredentials ∨
      value ∈ registry.activeCredentials ∧ fingerprint value ∉ next.map fingerprint) :
    KeptUntil fingerprint deadline value (registry.retire fingerprint next now) := by
  unfold CredentialRegistry.retire
  generalize registry.retiredCredentials = retired at h ⊢
  generalize registry.activeCredentials = active at h hinj ⊢
  induction active generalizing retired with
  | nil => exact h.resolve_right fun hmem => not_mem_nil hmem.1
  | cons v active ih =>
    obtain ⟨hv, hactive⟩ := forall_mem_cons.1 hinj
    rw [foldl_cons]
    refine ih _ ?_ hactive
    by_cases heq : v = value
    · subst heq
      split_ifs with hnext
      · exact h.imp_right fun hmem => absurd (contains_iff_mem.1 hnext) hmem.2
      · exact .inl ⟨_, mem_append_right _ (mem_singleton.2 rfl), hdeadline⟩
    · refine h.imp ?_ fun hmem => ⟨(mem_cons.1 hmem.1).resolve_left (Ne.symm heq), hmem.2⟩
      split_ifs
      · exact id
      · rintro ⟨expiresAt, hmem, hle⟩
        refine ⟨expiresAt, mem_append_left _ (mem_filter.2 ⟨hmem, ?_⟩), hle⟩
        simpa using fun hsame => heq (hv hsame.symm)

theorem report_registry (s : CredentialState) : s.report.registry = s.registry := by
  unfold CredentialState.report
  split_ifs <;> rfl

/-- What a reload that returned `valid` did to the retired values. -/
structure Reloaded (fingerprint : Text → Text) (now : ℤ) (registry : CredentialRegistry)
    (valid : Bool) (after : CredentialRegistry) : Prop where
  overlap : after.redactionOverlapMs = registry.redactionOverlapMs
  retired : valid = false ∧
      after.retiredCredentials = (registry.pruneRetired now).retiredCredentials ∨
    ∃ next, after.retiredCredentials = (registry.pruneRetired now).retire fingerprint next now ∧
      (valid = true → after.activeCredentials = next)

theorem reload_reloaded (fingerprint : Text → Text) (registry : CredentialRegistry)
    (before held : PlatformCredentials) (valid : StoresValid) (force : Bool) (m : RefreshMoment) :
    Reloaded fingerprint m.now registry
      (registry.reload fingerprint before held valid force m).1
      (registry.reload fingerprint before held valid force m).2.1 := by
  unfold CredentialRegistry.reload
  dsimp only
  split_ifs
  · exact ⟨rfl, .inl ⟨rfl, rfl⟩⟩
  · unfold CredentialRegistry.check
    dsimp only
    split
    · exact ⟨rfl, .inl ⟨rfl, rfl⟩⟩
    · split_ifs
      · exact ⟨rfl, .inr ⟨_, rfl, fun h => by cases h⟩⟩
      · exact ⟨rfl, .inr ⟨_, rfl, fun _ => rfl⟩⟩
  · exact ⟨rfl, .inl ⟨rfl, rfl⟩⟩

theorem refresh_reloaded (fingerprint : Text → Text) (mode : Mode) (s : CredentialState)
    (call : Bool × Reading) :
    Reloaded fingerprint call.2.now s.registry (mode.refresh fingerprint s call.1 call.2).1
      (mode.refresh fingerprint s call.1 call.2).2.registry := by
  cases mode with
  | staged loaded =>
    simp only [Mode.refresh, CredentialState.refreshCredentials, report_registry]
    generalize PlatformCredentials.reload loaded call.2.contents = staged
    have h := reload_reloaded fingerprint
      { s.registry with observationToken := staged.observation.headD [] } staged staged
      (.together staged.error.isNone) call.1 call.2.toRefreshMoment
    refine ⟨h.overlap, h.retired.imp (fun hfailed => ⟨?_, hfailed.2⟩) ?_⟩
    · rw [hfailed.1, Bool.false_and]
    · rintro ⟨next, hnext, hactive⟩
      exact ⟨next, hnext, fun hvalid => hactive (Bool.and_eq_true_iff.1 hvalid).1⟩
  | direct observationToken =>
    simp only [Mode.refresh, refreshDirect, report_registry]
    have h := reload_reloaded fingerprint
      { s.registry with observationToken := observationToken } s.staged
      (call.2.policy.held observationToken) call.2.policy.valid call.1 call.2.toRefreshMoment
    exact ⟨h.overlap, h.retired⟩

theorem KeptUntil.step {valid : Bool} {after : CredentialRegistry}
    (hreloaded : Reloaded fingerprint now registry valid after)
    (hinj : ∀ v ∈ registry.activeCredentials, fingerprint v = fingerprint value → v = value)
    (hnow : now < deadline) (hdeadline : deadline ≤ now + registry.redactionOverlapMs)
    (h : KeptUntil fingerprint deadline value registry.retiredCredentials ∨
      value ∈ registry.activeCredentials ∧ valid = true ∧
        fingerprint value ∉ after.activeCredentials.map fingerprint) :
    KeptUntil fingerprint deadline value after.retiredCredentials := by
  rcases hreloaded.retired with ⟨hfalse, heq⟩ | ⟨next, heq, hnext⟩
  · rw [heq]
    exact KeptUntil.prune (h.resolve_right fun ⟨_, htrue, _⟩ => by simp [hfalse] at htrue) hnow
  · rw [heq]
    refine KeptUntil.retire hinj hdeadline (h.imp (fun h => h.prune hnow) ?_)
    rintro ⟨hactive, htrue, hreplaced⟩
    exact ⟨hactive, hnext htrue ▸ hreplaced⟩

theorem KeptUntil.run {calls : List (Bool × Reading)}
    (hinj : ∀ pre, pre <+: calls → ∀ v ∈ (mode.run fingerprint s pre).registry.activeCredentials,
      fingerprint v = fingerprint value → v = value)
    (h : KeptUntil fingerprint deadline value s.registry.retiredCredentials)
    (hcalls : ∀ call ∈ calls, call.2.now < deadline ∧
      deadline ≤ call.2.now + s.registry.redactionOverlapMs) :
    KeptUntil fingerprint deadline value
      (mode.run fingerprint s calls).registry.retiredCredentials := by
  induction calls generalizing s with
  | nil => exact h
  | cons call calls ih =>
    obtain ⟨hcall, hrest⟩ := forall_mem_cons.1 hcalls
    have hreloaded := refresh_reloaded fingerprint mode s call
    refine ih (fun pre hpre => hinj (call :: pre) (cons_prefix_cons.2 ⟨rfl, hpre⟩))
      (KeptUntil.step hreloaded (hinj [] nil_prefix) hcall.1 hcall.2 (.inl h)) ?_
    rw [hreloaded.overlap]
    exact hrest

theorem run_overlap (calls : List (Bool × Reading)) :
    (mode.run fingerprint s calls).registry.redactionOverlapMs = s.registry.redactionOverlapMs := by
  induction calls generalizing s with
  | nil => rfl
  | cons call calls ih => exact ih.trans (refresh_reloaded fingerprint mode s call).overlap

end

/-- **What is redacted.**  After any refreshes, of staged credentials or of those in
    files, these are all active values, and all values that a successful refresh has
    replaced within the overlap. -/
theorem replaced_values_redacted {fingerprint : Text → Text} (mode : Mode) {s : CredentialState}
    (hoverlap : s.registry.redactionOverlapMs = 60000) {calls : List (Bool × Reading)} {now : ℤ}
    (hclock : (calls.map (·.2.now) ++ [now]).Pairwise (· ≤ ·))
    (hinj : Set.InjOn fingerprint {value | ∃ pre, pre <+: calls ∧
      value ∈ (mode.run fingerprint s pre).registry.activeCredentials})
    (previousEntries : List CredentialEntry) :
    (∀ value ∈ (mode.run fingerprint s calls).registry.activeCredentials, value ∈
        (mode.run fingerprint s calls).registry.credentialValues previousEntries now) ∧
      ∀ pre call post value, calls = pre ++ call :: post →
        value ∈ (mode.run fingerprint s pre).registry.activeCredentials →
        (mode.refresh fingerprint (mode.run fingerprint s pre) call.1 call.2).1 = true →
        value ∉ (mode.run fingerprint s (pre ++ [call])).registry.activeCredentials →
        now < call.2.now + 60000 →
        value ∈ (mode.run fingerprint s calls).registry.credentialValues previousEntries now := by
  refine ⟨fun value hvalue => by simp [CredentialRegistry.credentialValues, hvalue], ?_⟩
  rintro pre call post value rfl hactive hvalid hreplaced hnow
  have hlast : (mode.run fingerprint s (pre ++ [call])) =
      (mode.refresh fingerprint (mode.run fingerprint s pre) call.1 call.2).2 := by
    simp [Mode.run]
  have hsplit (post : List (Bool × Reading)) : mode.run fingerprint s (pre ++ call :: post) =
      mode.run fingerprint (mode.run fingerprint s (pre ++ [call])) post := by
    simp [Mode.run]
  have hever : ∃ pre', pre' <+: pre ++ call :: post ∧
      value ∈ (mode.run fingerprint s pre').registry.activeCredentials :=
    ⟨pre, prefix_append _ _, hactive⟩
  simp only [map_append, map_cons, append_assoc, cons_append,
    pairwise_append, pairwise_cons, mem_append, mem_map] at hclock
  obtain ⟨-, ⟨hafter, hrest⟩, -⟩ := hclock
  have hreloaded := refresh_reloaded fingerprint mode (mode.run fingerprint s pre) call
  have hstep : KeptUntil fingerprint (call.2.now + 60000) value
      (mode.run fingerprint s (pre ++ [call])).registry.retiredCredentials := by
    rw [hlast] at hreplaced ⊢
    refine KeptUntil.step hreloaded (fun v hv heq => hinj ⟨pre, prefix_append _ _, hv⟩ hever heq)
      (by omega) ?_ (.inr ⟨hactive, hvalid, fun hmem => ?_⟩)
    · rw [run_overlap, hoverlap]
    · obtain ⟨v, hv, heq⟩ := mem_map.1 hmem
      rw [← hlast] at hv hreplaced
      exact hreplaced (hinj ⟨_, ⟨post, by simp⟩, hv⟩ hever heq ▸ hv)
  have hkept : KeptUntil fingerprint (call.2.now + 60000) value
      (mode.run fingerprint s (pre ++ call :: post)).registry.retiredCredentials := by
    rw [hsplit]
    refine hstep.run (fun mid hmid v hv heq => ?_) fun later hlater => ?_
    · rw [← hsplit] at hv
      refine hinj ⟨_, ?_, hv⟩ hever heq
      exact (prefix_append_right_inj _).2 (cons_prefix_cons.2 ⟨rfl, hmid⟩)
    · have hle := hafter later.2.now (.inl ⟨later, hlater, rfl⟩)
      have hbefore := hrest.2.2 _ ⟨later, hlater, rfl⟩ now (mem_singleton.2 rfl)
      rw [run_overlap, hoverlap]
      omega
  obtain ⟨expiresAt, hmem, -⟩ := hkept.prune hnow
  simp only [CredentialRegistry.credentialValues, mem_eraseDups, mem_append, mem_map]
  exact .inl (.inr ⟨_, hmem, rfl⟩)

namespace DroppedPrincipal

def registry : CredentialRegistry := ⟨[], [], none, 0, 60000, 4096, [], []⟩

def state : CredentialState := ⟨.withdrawn none, registry, none, [], []⟩

/-- The principals of the policy, at a time. -/
def reading (principals : List PolicyPrincipal) (now : ℤ) : Reading :=
  ⟨⟨fun _ => none, now, now⟩, ⟨.together true, principals, [], []⟩⟩

def operator : PolicyPrincipal := ⟨text "operator", text "secret", [], []⟩

def calls : List (Bool × Reading) := [(true, reading [operator] 0), (true, reading [] 1000)]

end DroppedPrincipal

open DroppedPrincipal in
/-- The operator disappeared from the policy almost a minute ago. -/
theorem replaced_values_redacted_operator :
    text "secret" ∈ ((Mode.direct []).run id state calls).registry.credentialValues [] 60999 :=
  (replaced_values_redacted (.direct []) rfl (by decide) (Function.injective_id.injOn) []).2
    [(true, reading [operator] 0)] (true, reading [] 1000) [] _ rfl
    (by decide) (by decide) (by decide) (by decide)

end GraphX
