/-
  The two ways of a collector to its credentials (`refreshCredentials` of
  `apps/telemetry/collector.mjs`): they are staged, or the stores of `control.mjs` read
  them from files.  A refresh that succeeds leaves no token with two roles.
-/
import GraphX.Credentials
import GraphX.Lib.Keyed

namespace GraphX.CredentialModes

open Ecma List

/-! ## Credentials in force -/

structure PolicyPrincipal where
  id : Text
  token : Text
  permissions : List Text
  nodes : List Text

/-- What the stores of a collector without staged credentials hold when they have been
    reloaded, and whether they are valid. -/
structure Policy where
  valid : StoresValid
  principals : List PolicyPrincipal
  identities : List (Text × Text)
  previousEntries : List CredentialEntry

/-- A collector reads staged credentials, or has an observation token and a policy. -/
inductive Mode where
  | staged (loaded : LoadedPlatform)
  | direct (observationToken : Text)

structure Reading extends RefreshMoment where
  policy : Policy

def PolicyPrincipal.toPrincipal (p : PolicyPrincipal) : Principal :=
  ⟨p.id, p.token, [p.token], [], p.permissions, p.nodes⟩

def Policy.held (policy : Policy) (observationToken : Text) : PlatformCredentials where
  observation := [observationToken]
  runtimeTokens := []
  identities := policy.identities
  principals := policy.principals.map PolicyPrincipal.toPrincipal
  previousEntries := policy.previousEntries
  error := none

/-- `refreshCredentials` without staged credentials. -/
def refreshDirect (fingerprint : Text → Text) (observationToken : Text) (s : CredentialState)
    (force : Bool) (m : Reading) : Bool × CredentialState :=
  let registry := { s.registry with observationToken := observationToken }
  let (valid, registry, staged) := registry.reload fingerprint s.staged
    (m.policy.held observationToken) m.policy.valid force m.toRefreshMoment
  (valid, { s with registry := registry, staged := staged }.report)

namespace Mode

/-- What a refresh reads. -/
def read (mode : Mode) (m : Reading) : PlatformCredentials :=
  match mode with
  | staged loaded => .reload loaded m.contents
  | direct observationToken => m.policy.held observationToken

def refresh (mode : Mode) (fingerprint : Text → Text) (s : CredentialState) (force : Bool)
    (m : Reading) : Bool × CredentialState :=
  match mode with
  | staged loaded => s.refreshCredentials fingerprint loaded force m.toRefreshMoment
  | direct observationToken => refreshDirect fingerprint observationToken s force m

end Mode

/-! ## No token has two roles -/

section registry
variable {fingerprint : Text → Text}

def Coherent (fingerprint : Text → Text) (entries : List CredentialEntry) : Prop :=
  ∀ e ∈ entries, ∀ e' ∈ entries, fingerprint e.value = fingerprint e'.value → e.key = e'.key

/-- The map of the registry has an entry of the same key for each that it has passed. -/
def Represents (fingerprint : Text → Text) (seen : List (Text × CredentialEntry))
    (entries : List CredentialEntry) : Prop :=
  ∀ e ∈ entries, ∃ e', seen.lookup (fingerprint e.value) = some e' ∧ e'.key = e.key

variable {seen seen' : List (Text × CredentialEntry)} {entries before : List CredentialEntry}
  {e : CredentialEntry}

section

variable (h : Represents fingerprint seen entries)
include h

theorem Represents.coherent : Coherent fingerprint entries := by
  intro e he e' he' heq
  obtain ⟨found, hfound, hkey⟩ := h e he
  obtain ⟨found', hfound', hkey'⟩ := h e' he'
  rw [heq, hfound'] at hfound
  rw [← hkey, ← hkey', Option.some.inj hfound]

theorem Represents.add (hnone : seen.lookup (fingerprint e.value) = none) :
    Represents fingerprint (seen ++ [(fingerprint e.value, e)]) (entries ++ [e]) := by
  intro e' he'
  rcases mem_append.1 he' with he' | he'
  · obtain ⟨found, hfound, hkey⟩ := h e' he'
    exact ⟨found, by rw [lookup_append, hfound]; rfl, hkey⟩
  · cases mem_singleton.1 he'
    exact ⟨e, by simp [lookup_append, hnone], rfl⟩

theorem Represents.keep {found : CredentialEntry}
    (hfound : seen.lookup (fingerprint e.value) = some found) (hkey : found.key = e.key) :
    Represents fingerprint seen (entries ++ [e]) := by
  intro e' he'
  rcases mem_append.1 he' with he' | he'
  · exact h e' he'
  · cases mem_singleton.1 he'
    exact ⟨found, hfound, hkey⟩

end

theorem checkActive_represents (h : CredentialRegistry.checkActive fingerprint seen entries = .ok seen')
    (hbefore : Represents fingerprint seen before) :
    Represents fingerprint seen' (before ++ entries) := by
  induction entries generalizing seen before with
  | nil =>
    cases h
    rwa [append_nil]
  | cons e entries ih =>
    unfold CredentialRegistry.checkActive at h
    cases hlookup : seen.lookup (fingerprint e.value) with
    | some found => simp [hlookup] at h
    | none =>
      rw [hlookup] at h
      rw [append_cons]
      exact ih h (hbefore.add hlookup)

theorem checkPrevious_represents
    (h : CredentialRegistry.checkPrevious fingerprint seen entries = .ok seen')
    (hbefore : Represents fingerprint seen before) :
    Represents fingerprint seen' (before ++ entries) := by
  induction entries generalizing seen before with
  | nil =>
    cases h
    rwa [append_nil]
  | cons e entries ih =>
    unfold CredentialRegistry.checkPrevious at h
    rw [append_cons]
    cases hlookup : seen.lookup (fingerprint e.value) with
    | none =>
      rw [hlookup] at h
      exact ih h (hbefore.add hlookup)
    | some found =>
      rw [hlookup] at h
      dsimp only at h
      split_ifs at h with hkey
      exact ih h (hbefore.keep hlookup (not_not.1 hkey))

/-- The tokens that are accepted are among the entries that the registry compares. -/
structure Listed (observationToken : Text) (staged : PlatformCredentials) : Prop where
  observation : ∀ t ∈ staged.observation, t ≠ [] → t = observationToken ∨
    ∃ e ∈ staged.previousEntries, e.value = t ∧ e.key = keyOf "observation" (text "observation")
  control : ∀ p ∈ staged.principals, ∀ t ∈ p.tokens, t = p.token ∨
    ∃ e ∈ staged.previousEntries, e.value = t ∧ e.key = keyOf "control_principal" p.id

/-- No observation token passes for a control token. -/
def RolesDisjoint (staged : PlatformCredentials) : Prop :=
  ∀ t ∈ staged.observation, t ≠ [] → ∀ p ∈ staged.principals, ∀ t' ∈ p.tokens, encode t ≠ encode t'

theorem observation_key_ne (id : Text) :
    keyOf "observation" (text "observation") ≠ keyOf "control_principal" id := by
  intro h
  have hhead : some (unit 'o') = some (unit 'c') := congrArg head? h
  exact absurd hhead (by decide)

variable {digest : Bytes → Text} {registry : CredentialRegistry} {staged : PlatformCredentials}
  {m : RefreshMoment}

/-- What the registry accepts is coherent, and it publishes it as it is. -/
theorem check_coherent (h : (registry.check fingerprint staged m).1 = true) :
    (registry.check fingerprint staged m).2.2 = staged ∧
      Coherent fingerprint (registry.activeEntries staged ++ staged.previousEntries) := by
  unfold CredentialRegistry.check at h ⊢
  dsimp only at h ⊢
  split at h
  · cases h
  case h_2 seen hseen =>
    obtain ⟨active, hactive, hprevious⟩ := Check.bind_eq_ok.1 hseen
    have hnone : Represents fingerprint [] [] := by simp [Represents]
    have hrepresents := checkPrevious_represents hprevious (checkActive_represents hactive hnone)
    split_ifs at h with hcapacity
    · cases h
    · rw [if_neg hcapacity]
      exact ⟨rfl, hrepresents.coherent⟩

theorem rolesDisjoint_of_coherent (hlisted : Listed registry.observationToken staged)
    (h : Coherent (fun t => digest (encode t))
      (registry.activeEntries staged ++ staged.previousEntries)) : RolesDisjoint staged := by
  intro t ht hne p hp t' ht' heq
  have hobserved : ∃ e ∈ registry.activeEntries staged ++ staged.previousEntries, e.value = t ∧
      e.key = keyOf "observation" (text "observation") := by
    rcases hlisted.observation t ht hne with rfl | ⟨e, he, hvalue, hkey⟩
    · simp [CredentialRegistry.activeEntries, hne]
    · exact ⟨e, mem_append_right _ he, hvalue, hkey⟩
  have hcontrol : ∃ e ∈ registry.activeEntries staged ++ staged.previousEntries, e.value = t' ∧
      e.key = keyOf "control_principal" p.id := by
    rcases hlisted.control p hp t' ht' with rfl | ⟨e, he, hvalue, hkey⟩
    · refine ⟨⟨text "control principal '" ++ p.id ++ text "'", _, p.token⟩, ?_, rfl, rfl⟩
      have hmem := mem_map_of_mem (f := fun p : Principal => (⟨text "control principal '" ++
        p.id ++ text "'", keyOf "control_principal" p.id, p.token⟩ : CredentialEntry)) hp
      unfold CredentialRegistry.activeEntries
      simp only [mem_append]
      exact .inl (.inl (.inr hmem))
    · exact ⟨e, mem_append_right _ he, hvalue, hkey⟩
  obtain ⟨e, he, rfl, hkey⟩ := hobserved
  obtain ⟨e', he', rfl, hkey'⟩ := hcontrol
  have := h e he e' he' (congrArg digest heq)
  exact observation_key_ne p.id (hkey.symm.trans (this.trans hkey'))

/-! ## What is read is listed -/

section listed
variable {contents : Contents} {loaded : LoadedPlatform}

variable {old : List CredentialEntry}

theorem readTokens_listed {ref key : Text} {member : String} {tokens : List Text}
    (h : readTokens contents ref member key = some (tokens, old)) :
    ∀ t ∈ tokens, t = tokens.headD [] ∨ ∃ e ∈ old, e.value = t ∧ e.key = key := by
  simp only [readTokens, Option.bind_eq_bind, Option.bind_eq_some_iff] at h
  obtain ⟨bundle, -, current, -, h⟩ := h
  cases hprevious : bundle.previous member with
  | none =>
    simp only [hprevious] at h
    obtain ⟨rfl, rfl⟩ := h
    simp
  | some bytes =>
    simp only [hprevious, Option.bind_eq_some_iff] at h
    obtain ⟨previous, -, rfl, rfl⟩ := h
    simp

def ControlListed (principals : List Principal) (entries : List CredentialEntry) : Prop :=
  ∀ p ∈ principals, ∀ t ∈ p.tokens, t = p.token ∨
    ∃ e ∈ entries, e.value = t ∧ e.key = keyOf "control_principal" p.id

variable {principals : List Principal}

theorem ControlListed.mono {entries entries' : List CredentialEntry}
    (h : ControlListed principals entries) (hsub : entries ⊆ entries') :
    ControlListed principals entries' := fun p hp t ht =>
  (h p hp t ht).imp_right fun ⟨e, he, hvalue⟩ => ⟨e, hsub he, hvalue⟩

theorem addGrant_listed {entries : List CredentialEntry} {grant : Grant} {tokens : List Text}
    (h : ControlListed principals entries)
    (htokens : ∀ t ∈ tokens, t = tokens.headD [] ∨
      ∃ e ∈ old, e.value = t ∧ e.key = keyOf "control_principal" grant.credential) :
    ControlListed (addGrant principals grant tokens) (entries ++ old) := by
  have hmono := h.mono (subset_append_left entries old)
  intro p hp t ht
  unfold addGrant at hp
  split_ifs at hp
  · obtain ⟨q, hq, rfl⟩ := mem_map.1 hp
    split_ifs at ht ⊢ <;> exact hmono q hq t ht
  · rcases mem_append.1 hp with hp | hp
    · exact hmono p hp t ht
    · cases mem_singleton.1 hp
      exact (htokens t ht).imp_right fun ⟨e, he, hvalue⟩ => ⟨e, mem_append_right _ he, hvalue⟩

theorem readGrants_listed {result : List Principal} {grants : List Grant}
    {before : List CredentialEntry} (h : readGrants contents principals grants = some (result, old))
    (hbefore : ControlListed principals before) : ControlListed result (before ++ old) := by
  induction grants generalizing principals before old with
  | nil =>
    obtain ⟨rfl, rfl⟩ := h
    rwa [append_nil]
  | cons grant grants ih =>
    simp only [readGrants, Option.bind_eq_bind, Option.bind_eq_some_iff, Prod.exists] at h
    obtain ⟨tokens, old₁, htokens, result', old₂, hrest, heq⟩ := h
    obtain ⟨rfl, rfl⟩ := heq
    rw [← append_assoc]
    exact ih hrest (addGrant_listed hbefore (readTokens_listed htokens))

theorem read_listed (h : PlatformCredentials.read loaded contents = some staged) :
    Listed (staged.observation.headD []) staged := by
  simp only [PlatformCredentials.read, Option.bind_eq_bind, Option.bind_eq_some_iff, Prod.exists] at h
  obtain ⟨observation, old, hobservation, runtimes, old', -, principals, old'', hgrants, heq⟩ := h
  simp only [Option.pure_def, Option.some.injEq] at heq
  subst heq
  constructor
  · intro t ht _
    refine (readTokens_listed hobservation t ht).imp_right ?_
    rintro ⟨e, he, hvalue⟩
    exact ⟨e, by simp [he], hvalue⟩
  · have hnone : ControlListed [] (old ++ old') := by simp [ControlListed]
    exact readGrants_listed hgrants hnone

end listed

variable {force : Bool}

theorem reload_valid {held : PlatformCredentials} {valid : StoresValid}
    (h : (registry.reload fingerprint staged held valid force m).1 = true) :
    registry.reload fingerprint staged held valid force m =
      (registry.pruneRetired m.now).check fingerprint held m := by
  unfold CredentialRegistry.reload at h ⊢
  dsimp only at h ⊢
  split_ifs at h with hthrottled hvalid
  · rw [if_neg hthrottled, if_pos hvalid]
  · cases h

theorem read_of_reload {loaded : LoadedPlatform} {contents : Contents}
    (h : (PlatformCredentials.reload loaded contents).error.isNone = true) :
    PlatformCredentials.read loaded contents = some (PlatformCredentials.reload loaded contents) := by
  unfold PlatformCredentials.reload at h ⊢
  cases hread : PlatformCredentials.read loaded contents with
  | none =>
    rw [hread] at h
    cases h
  | some staged => rfl

/-- After a refresh that succeeded, what was read is in force and no token has two roles. -/
theorem refresh_disjoint {mode : Mode} {s : CredentialState} {m : Reading}
    (h : (mode.refresh (fun t => digest (encode t)) s force m).1 = true) :
    (mode.refresh (fun t => digest (encode t)) s force m).2.staged = mode.read m ∧
      RolesDisjoint (mode.read m) := by
  cases mode with
  | staged loaded =>
    unfold Mode.refresh CredentialState.refreshCredentials at h ⊢
    rw [Bool.and_eq_true] at h
    obtain ⟨hvalid, herror⟩ := h
    have hlisted := read_listed (read_of_reload herror)
    rw [report_staged]
    have hchecked := reload_valid hvalid
    rw [hchecked] at hvalid ⊢
    obtain ⟨hsame, hcoherent⟩ := check_coherent hvalid
    exact ⟨hsame, rolesDisjoint_of_coherent hlisted hcoherent⟩
  | direct observationToken =>
    unfold Mode.refresh refreshDirect at h ⊢
    dsimp only at h ⊢
    have hlisted : Listed observationToken (m.policy.held observationToken) := by
      constructor
      · intro t ht _
        exact .inl (mem_singleton.1 ht)
      · intro p hp t ht
        obtain ⟨q, -, rfl⟩ := mem_map.1 hp
        exact .inl (mem_singleton.1 ht)
    rw [report_staged]
    have hchecked := reload_valid h
    rw [hchecked] at h ⊢
    obtain ⟨hsame, hcoherent⟩ := check_coherent h
    exact ⟨hsame, rolesDisjoint_of_coherent hlisted hcoherent⟩

end registry

end GraphX.CredentialModes
