/-
  The collector's credentials when they are staged (`PlatformCredentials` of
  `apps/telemetry/platform-config.mjs`, `CredentialRegistry` of `control.mjs`, and
  `refreshCredentials` and `controlPrincipal` of `collector.mjs`).

  A refresh reads the staged credentials, publishes them, and lets the registry
  check them against each other; the registry withdraws them if they collide, and
  does not look again for a second.

  * **`credentials_fail_closed_iff`**: a run fails closed if and only if no refresh
    of it is unguarded.
-/
import GraphX.ControlPlane
import GraphX.Lib.Runs

namespace GraphX

open Ecma List

/-! ## Staged credentials -/

/-- The bytes of a reference, by their member, and those they replaced. -/
structure Bundle where
  members : String → Option Bytes
  previous : String → Option Bytes

/-- What the reader finds under a reference; it throws if there is nothing. -/
abbrev Contents := Text → Option Bundle

/-- `.replace(/\r?\n$/, '')` -/
def dropNewline (s : Text) : Text :=
  if (text "\r\n").isSuffixOf s then s.take (s.length - 2)
  else if (text "\n").isSuffixOf s then s.take (s.length - 1)
  else s

def textSecret (bytes : Option Bytes) : Option Text :=
  let token := dropNewline (bytes.elim [] decode)
  if (encode token).length < 32 || (encode token).length > 4096 then none else some token

/-- A credential with its role. -/
structure CredentialEntry where
  role : Text
  key : Text
  value : Text

structure Grant where
  credential : Text
  actions : List Text
  nodes : List Text

structure Principal where
  id : Text
  token : Text
  tokens : List Text
  grants : List Grant
  permissions : List Text
  nodes : List Text

/-- The parts of the platform's configuration that are read here. -/
structure LoadedPlatform where
  /-- The nodes with a telemetry credential, and the reference. -/
  runtimeNodes : List (Text × Text)
  controlEnabled : Bool
  grants : List Grant

structure PlatformCredentials where
  observation : List Text
  runtimeTokens : List (Text × List Text)
  /-- `this.runtime.identities` -/
  identities : List (Text × Text)
  /-- `this.control.principals` -/
  principals : List Principal
  previousEntries : List CredentialEntry
  error : Option Text

/-- The tokens of a reference, the current one first, and the entry of the old
    one. -/
def readTokens (contents : Contents) (ref : Text) (member : String) (key : Text) :
    Option (List Text × List CredentialEntry) := do
  let bundle ← contents ref
  let current ← textSecret (bundle.members member)
  match bundle.previous member with
  | none => return ([current], [])
  | some bytes =>
    let old ← textSecret (some bytes)
    return ([current, old], [⟨key, key, old⟩])

def keyOf (kind : String) (id : Text) : Text := text kind ++ unit ':' :: id

/-- A grant joins the principal with the same credential. -/
def addGrant (principals : List Principal) (grant : Grant) (tokens : List Text) : List Principal :=
  if principals.any (·.id = grant.credential) then
    principals.map fun p =>
      if p.id = grant.credential then
        { p with
          grants := p.grants ++ [grant]
          permissions := p.permissions ++ grant.actions
          nodes := p.nodes ++ grant.nodes }
      else p
  else
    principals ++ [⟨grant.credential, tokens.headD [], tokens, [grant], grant.actions, grant.nodes⟩]

def readRuntimes (contents : Contents) :
    List (Text × Text) → Option (List (Text × List Text) × List CredentialEntry)
  | [] => some ([], [])
  | (node, credential) :: nodes => do
    let (tokens, old) ← readTokens contents credential "hmac" (keyOf "runtime_identity" node)
    let (rest, entries) ← readRuntimes contents nodes
    return ((node, tokens) :: rest, old ++ entries)

def readGrants (contents : Contents) :
    List Principal → List Grant → Option (List Principal × List CredentialEntry)
  | principals, [] => some (principals, [])
  | principals, grant :: grants => do
    let (tokens, old) ←
      readTokens contents grant.credential "token" (keyOf "control_principal" grant.credential)
    let (principals, entries) ← readGrants contents (addGrant principals grant tokens) grants
    return (principals, old ++ entries)

namespace PlatformCredentials

/-- Everything that is staged, if it can be read. -/
def read (loaded : LoadedPlatform) (contents : Contents) : Option PlatformCredentials := do
  let (observation, old) ←
    readTokens contents (text "observer") "token" (keyOf "observation" (text "observation"))
  let (runtimeTokens, old') ← readRuntimes contents loaded.runtimeNodes
  let (principals, old'') ←
    readGrants contents [] (if loaded.controlEnabled then loaded.grants else [])
  return {
    observation
    runtimeTokens
    identities := runtimeTokens.map fun (id, tokens) => (id, tokens.headD [])
    principals
    previousEntries := old ++ old' ++ old''
    error := none }

/-- Nothing. -/
def withdrawn (error : Option Text) : PlatformCredentials := ⟨[], [], [], [], [], error⟩

def reload (loaded : LoadedPlatform) (contents : Contents) : PlatformCredentials :=
  (read loaded contents).getD (withdrawn (some (text "staged credential configuration is invalid")))

/-- What `invalidate` of the three parts takes away. -/
def invalidate (staged : PlatformCredentials) : PlatformCredentials :=
  { staged with identities := [], principals := [], previousEntries := [] }

def secretFor (staged : PlatformCredentials) (nodeId : Text) : Text :=
  (staged.identities.lookup nodeId).getD []

end PlatformCredentials

def tokenMatches (expected authorization : Text) : Bool :=
  expected ≠ [] && (text "Bearer ").isPrefixOf authorization &&
    encode (authorization.drop 7) = encode expected

def authenticate (principals : List Principal) (authorization : Text) : Option Principal :=
  principals.find? fun p => p.tokens.any (tokenMatches · authorization)

/-! ## The registry -/

/-- Which of the three stores are valid after they have been reloaded. -/
structure StoresValid where
  control : Bool
  runtime : Bool
  previous : Bool

namespace StoresValid

/-- The stores of staged credentials are valid together. -/
def together (valid : Bool) : StoresValid := ⟨valid, valid, valid⟩

def all (valid : StoresValid) : Bool := valid.control && valid.runtime && valid.previous

def invalidRoles (valid : StoresValid) : List Text :=
  (if valid.control then [] else [text "control policy"]) ++
    (if valid.runtime then [] else [text "runtime identity manifest"]) ++
    if valid.previous then [] else [text "previous credential manifest"]

@[simp] theorem all_together (valid : Bool) : (together valid).all = valid := by cases valid <;> rfl

end StoresValid

structure CredentialRegistry where
  observationToken : Text
  telemetrySecret : Text
  lastError : Option Text
  nextReloadAt : ℤ
  redactionOverlapMs : ℤ
  maxRetiredCredentials : ℕ
  activeCredentials : List Text
  /-- The fingerprint, the value, and when it is forgotten. -/
  retiredCredentials : List (Text × Text × ℤ)

/-- What the clock says during a refresh, and what is staged. -/
structure RefreshMoment where
  contents : Contents
  now : ℤ
  /-- The clock, when the credentials are withdrawn. -/
  invalidatedAt : ℤ

namespace CredentialRegistry

def activeEntries (registry : CredentialRegistry) (staged : PlatformCredentials) :
    List CredentialEntry :=
  (if registry.observationToken = [] then []
    else [⟨text "observation token", keyOf "observation" (text "observation"),
      registry.observationToken⟩]) ++
  (if registry.telemetrySecret = [] then []
    else [⟨text "shared telemetry HMAC", keyOf "shared_telemetry" (text "shared"),
      registry.telemetrySecret⟩]) ++
  staged.principals.map (fun p => ⟨text "control principal '" ++ p.id ++ text "'",
    keyOf "control_principal" p.id, p.token⟩) ++
  staged.identities.map fun (id, value) => ⟨text "runtime identity '" ++ id ++ text "'",
    keyOf "runtime_identity" id, value⟩

/-- The error about two credentials with one value. -/
def collision (e e' : CredentialEntry) : Text :=
  text "credential collision between " ++ e.role ++ text " and " ++ e'.role

/-- The fingerprints of the active entries, or the first two that collide. -/
def checkActive (fingerprint : Text → Text) :
    List (Text × CredentialEntry) → List CredentialEntry → Except Text (List (Text × CredentialEntry))
  | seen, [] => .ok seen
  | seen, e :: entries =>
    match seen.lookup (fingerprint e.value) with
    | some e' => .error (collision e' e)
    | none => checkActive fingerprint (seen ++ [(fingerprint e.value, e)]) entries

/-- An old credential may be the same as the current one of its own role. -/
def checkPrevious (fingerprint : Text → Text) :
    List (Text × CredentialEntry) → List CredentialEntry → Except Text (List (Text × CredentialEntry))
  | seen, [] => .ok seen
  | seen, e :: entries =>
    match seen.lookup (fingerprint e.value) with
    | some e' =>
      if e'.key ≠ e.key then .error (collision e' e) else checkPrevious fingerprint seen entries
    | none => checkPrevious fingerprint (seen ++ [(fingerprint e.value, e)]) entries

def pruneRetired (registry : CredentialRegistry) (now : ℤ) : CredentialRegistry :=
  { registry with retiredCredentials :=
      registry.retiredCredentials.filter fun entry => !decide (now ≥ entry.2.2) }

/-- `this.retiredCredentials.set(fingerprint, …)` for the values that are no longer
    active. -/
def retire (fingerprint : Text → Text) (registry : CredentialRegistry) (next : List Text) (now : ℤ) :
    List (Text × Text × ℤ) :=
  registry.activeCredentials.foldl (fun retired value =>
    if (next.map fingerprint).contains (fingerprint value) then retired
    else
      retired.filter (·.1 ≠ fingerprint value) ++
        [(fingerprint value, value, now + registry.redactionOverlapMs)])
    registry.retiredCredentials

/-- The fingerprints that are kept only to redact them. -/
def redactionFingerprints (fingerprint : Text → Text) (retired : List (Text × Text × ℤ))
    (active previous : List CredentialEntry) : List Text :=
  ((retired.map (·.1)) ++ previous.map (fingerprint ·.value)).eraseDups.filter fun f =>
    !(active.map (fingerprint ·.value)).contains f

/-- `#invalidate` -/
def fail (registry : CredentialRegistry) (staged : PlatformCredentials) (message : Text) (at_ : ℤ) :
    Bool × CredentialRegistry × PlatformCredentials :=
  (false, { registry with lastError := some (message.take 256), nextReloadAt := at_ + 1000 },
    staged.invalidate)

/-- The checks of `reload` and what they publish. -/
def check (fingerprint : Text → Text) (registry : CredentialRegistry) (staged : PlatformCredentials)
    (m : RefreshMoment) : Bool × CredentialRegistry × PlatformCredentials :=
  let active := registry.activeEntries staged
  let next := active.map (·.value)
  match checkActive fingerprint [] active >>= fun seen =>
      checkPrevious fingerprint seen staged.previousEntries with
  | .error message => registry.fail staged message m.invalidatedAt
  | .ok _ =>
    let registry :=
      { registry with retiredCredentials := retire fingerprint registry next m.now }
    if (redactionFingerprints fingerprint registry.retiredCredentials active
        staged.previousEntries).length > registry.maxRetiredCredentials then
      registry.fail staged (text "credential redaction overlap capacity exceeded") m.invalidatedAt
    else
      (true, { registry with activeCredentials := next, lastError := none, nextReloadAt := 0 }, staged)

/-- The registry does not look again so soon after an error. -/
def throttled (registry : CredentialRegistry) (force : Bool) (now : ℤ) : Bool :=
  !force && registry.lastError.isSome && decide (now < registry.nextReloadAt)

/-- The stores hold `before` until they are reloaded, and `held` then. -/
def reload (fingerprint : Text → Text) (registry : CredentialRegistry)
    (before held : PlatformCredentials) (valid : StoresValid) (force : Bool) (m : RefreshMoment) :
    Bool × CredentialRegistry × PlatformCredentials :=
  let registry := registry.pruneRetired m.now
  if registry.throttled force m.now then (false, registry, before)
  else if valid.all then registry.check fingerprint held m
  else registry.fail held
    (text "invalid " ++ (text " and ").intercalate valid.invalidRoles) m.invalidatedAt

end CredentialRegistry

/-! ## The collector -/

/-- The part of the collector that depends on the credentials. -/
structure CredentialState where
  staged : PlatformCredentials
  registry : CredentialRegistry
  reportedCredentialError : Option Text
  controlEndpoints : List (Text × ControlEndpoint)
  controlStates : List (Text × Text)

namespace CredentialState

/-- The error is reported, and the endpoints are forgotten. -/
def report (s : CredentialState) : CredentialState :=
  if s.registry.lastError = s.reportedCredentialError then s
  else if s.registry.lastError.isSome then
    { s with controlEndpoints := [], controlStates := [], reportedCredentialError := s.registry.lastError }
  else { s with reportedCredentialError := s.registry.lastError }

def refreshCredentials (fingerprint : Text → Text) (loaded : LoadedPlatform) (s : CredentialState)
    (force : Bool) (m : RefreshMoment) : Bool × CredentialState :=
  let staged := PlatformCredentials.reload loaded m.contents
  let registry := { s.registry with observationToken := staged.observation.headD [] }
  let (valid, registry, staged') :=
    registry.reload fingerprint staged staged (.together staged.error.isNone) force m
  (valid && staged.error.isNone, { s with registry, staged := staged' }.report)

/-- The refresh of `controlPrincipal`, and whom it finds. -/
def controlPrincipal (fingerprint : Text → Text) (loaded : LoadedPlatform) (s : CredentialState)
    (m : RefreshMoment) (authorization : Text) : Option Principal × CredentialState :=
  let (_, s) := s.refreshCredentials fingerprint loaded false m
  (authenticate s.staged.principals authorization, s)

end CredentialState

/-! ## Requests -/

/-- The requests that rely on `controlPrincipal`. -/
inductive ControlRoute where
  | commands
  | command (actor : Text)
  | auditHistory
  | audit
  | serial (node : Text)

def permits (p : Principal) (action : Text) (targets : List Text) : Bool :=
  targets.all fun node => p.grants.any fun grant =>
    grant.actions.contains action && grant.nodes.contains node

/-- Whether the route has anything for the principal. -/
def ControlRoute.grants : ControlRoute → Option Principal → Bool
  | _, none => false
  | commands, some _ => true
  | command actor, some p => actor = p.id || p.permissions.contains (text "commands:read:any")
  | auditHistory, some p | audit, some p => p.permissions.contains (text "audit:read")
  | serial node, some p => permits p (text "serial") [node]

/-- Something that refreshes the credentials: by itself, or for a request with an
    authorization. -/
inductive CredentialCall where
  | refresh (force : Bool) (m : RefreshMoment)
  | request (route : ControlRoute) (authorization : Text) (m : RefreshMoment)

namespace CredentialCall

def force : CredentialCall → Bool
  | refresh force _ => force
  | request .. => false

def moment : CredentialCall → RefreshMoment
  | refresh _ m | request _ _ m => m

/-- What the refresh of the call returned, and the state after it. -/
def step (fingerprint : Text → Text) (loaded : LoadedPlatform) (s : CredentialState)
    (call : CredentialCall) : Bool × CredentialState :=
  s.refreshCredentials fingerprint loaded call.force call.moment

def granted (fingerprint : Text → Text) (loaded : LoadedPlatform) (s : CredentialState) :
    CredentialCall → Bool
  | refresh .. => false
  | request route authorization m =>
    route.grants (s.controlPrincipal fingerprint loaded m authorization).1

end CredentialCall

/-! ## What is published -/

/-- No token authenticates, and no runtime has a secret. -/
def PlatformCredentials.Closed (staged : PlatformCredentials) : Prop :=
  (∀ authorization, authenticate staged.principals authorization = none) ∧
    ∀ node, staged.secretFor node = []

/-- The platform has someone to let in. -/
def LoadedPlatform.Grants (loaded : LoadedPlatform) : Prop :=
  loaded.runtimeNodes ≠ [] ∨ (loaded.controlEnabled = true ∧ loaded.grants ≠ [])

theorem closed_of_nil {staged : PlatformCredentials} (hp : staged.principals = [])
    (hi : staged.identities = []) : staged.Closed := by
  constructor
  · intro authorization
    rw [hp]
    rfl
  · intro node
    rw [PlatformCredentials.secretFor, hi]
    rfl

theorem textSecret_ne_nil {bytes : Option Bytes} {t : Text} (h : textSecret bytes = some t) : t ≠ [] := by
  unfold textSecret at h
  simp only at h
  split_ifs at h with hlength
  obtain rfl := Option.some.inj h
  intro hnil
  rw [hnil] at hlength
  exact hlength rfl

variable {contents : Contents} {old : List CredentialEntry}

theorem readTokens_head {ref : Text} {member : String} {key : Text} {tokens : List Text}
    (h : readTokens contents ref member key = some (tokens, old)) :
    tokens.headD [] ≠ [] ∧ tokens.headD [] ∈ tokens := by
  simp only [readTokens, Option.bind_eq_bind, Option.bind_eq_some_iff] at h
  obtain ⟨bundle, -, current, hcurrent, h⟩ := h
  have hne := textSecret_ne_nil hcurrent
  cases hprevious : bundle.previous member with
  | none =>
    simp only [hprevious] at h
    obtain ⟨rfl, -⟩ := h
    exact ⟨hne, mem_cons_self ..⟩
  | some bytes =>
    simp only [hprevious, Option.bind_eq_some_iff] at h
    obtain ⟨-, -, rfl, -⟩ := h
    exact ⟨hne, mem_cons_self ..⟩

theorem tokenMatches_bearer {token : Text} (h : token ≠ []) :
    tokenMatches token (text "Bearer " ++ token) = true := by
  have hleads : (text "Bearer ").isPrefixOf (text "Bearer " ++ token) = true :=
    isPrefixOf_iff_prefix.2 (prefix_append _ _)
  have hdrop : (text "Bearer " ++ token).drop 7 = token := drop_left' rfl
  rw [tokenMatches, hdrop]
  simp [h]

/-- A principal that someone can authenticate as. -/
def Principal.Usable (p : Principal) : Prop := ∃ token ∈ p.tokens, token ≠ []

theorem readGrants_usable {principals result : List Principal} {grants : List Grant}
    (h : readGrants contents principals grants = some (result, old))
    (husable : ∀ p ∈ principals, p.Usable) :
    (∀ p ∈ result, p.Usable) ∧ (result = [] ↔ principals = [] ∧ grants = []) := by
  induction grants generalizing principals old with
  | nil =>
    obtain ⟨rfl, -⟩ := h
    exact ⟨husable, by simp⟩
  | cons grant grants ih =>
    simp only [readGrants, Option.bind_eq_bind, Option.bind_eq_some_iff, Prod.exists] at h
    obtain ⟨tokens, old₁, htokens, result', old₂, hrest, heq⟩ := h
    obtain ⟨rfl, -⟩ := heq
    obtain ⟨hne, hmem⟩ := readTokens_head htokens
    have hadded : ∀ p ∈ addGrant principals grant tokens, p.Usable := by
      intro p hp
      unfold addGrant at hp
      split_ifs at hp
      · obtain ⟨q, hq, rfl⟩ := mem_map.1 hp
        split_ifs
        · exact husable q hq
        · exact husable q hq
      · rcases mem_append.1 hp with hp | hp
        · exact husable p hp
        · rw [mem_singleton.1 hp]
          exact ⟨_, hmem, hne⟩
    have hnonempty : addGrant principals grant tokens ≠ [] := by
      unfold addGrant
      split_ifs with hany
      · cases principals with
        | nil => cases hany
        | cons => simp
      · simp
    obtain ⟨hresult, hnil⟩ := ih hrest hadded
    refine ⟨hresult, ?_⟩
    rw [hnil]
    simp [hnonempty]

theorem readRuntimes_head {nodes : List (Text × Text)} {result : List (Text × List Text)}
    (h : readRuntimes contents nodes = some (result, old)) :
    (result = [] ↔ nodes = []) ∧ ∀ r ∈ result, r.2.headD [] ≠ [] := by
  induction nodes generalizing result old with
  | nil =>
    obtain ⟨rfl, -⟩ := h
    simp
  | cons node nodes ih =>
    simp only [readRuntimes, Option.bind_eq_bind, Option.bind_eq_some_iff, Prod.exists] at h
    obtain ⟨tokens, old₁, htokens, result', old₂, hrest, heq⟩ := h
    obtain ⟨rfl, -⟩ := heq
    refine ⟨by simp, forall_mem_cons.2 ⟨(readTokens_head htokens).1, (ih hrest).2⟩⟩

/-- **What has been read lets someone in**, if the platform has anyone. -/
theorem read_closed_iff {loaded : LoadedPlatform} {staged : PlatformCredentials}
    (h : PlatformCredentials.read loaded contents = some staged) :
    staged.Closed ↔ ¬loaded.Grants := by
  simp only [PlatformCredentials.read, Option.bind_eq_bind, Option.bind_eq_some_iff, Prod.exists] at h
  obtain ⟨observation, old, -, runtimes, old', hruntimes, principals, old'', hprincipals, heq⟩ := h
  simp only [Option.pure_def, Option.some.injEq] at heq
  subst heq
  obtain ⟨hnone, hheads⟩ := readRuntimes_head hruntimes
  obtain ⟨husable, hnil⟩ := readGrants_usable hprincipals (by simp)
  have hgrants : principals = [] ↔ ¬(loaded.controlEnabled = true ∧ loaded.grants ≠ []) := by
    rw [hnil]
    cases loaded.controlEnabled <;> simp
  rw [LoadedPlatform.Grants, not_or, not_not, ← hnone, ← hgrants]
  constructor
  · rintro ⟨hauthenticate, hsecret⟩
    constructor
    · cases runtimes with
      | nil => rfl
      | cons r runtimes =>
        have hempty := hsecret r.1
        simp only [PlatformCredentials.secretFor, map_cons, lookup_cons_self] at hempty
        exact absurd hempty (hheads r (mem_cons_self ..))
    · cases principals with
      | nil => rfl
      | cons p principals =>
        obtain ⟨token, hmem, hne⟩ := husable p (mem_cons_self ..)
        have hnot := find?_eq_none.1 (hauthenticate (text "Bearer " ++ token)) p
          (mem_cons_self ..)
        exact absurd (any_eq_true.2 ⟨token, hmem, tokenMatches_bearer hne⟩) hnot
  · rintro ⟨rfl, rfl⟩
    exact closed_of_nil rfl rfl

/-! ## Failing closed -/

/-- The refresh is throttled, but the staged credentials can be read and are
    published by it. -/
def Unguarded (loaded : LoadedPlatform) (s : CredentialState) (call : CredentialCall) : Prop :=
  s.registry.throttled call.force call.moment.now = true ∧
    (PlatformCredentials.read loaded call.moment.contents).isSome ∧ loaded.Grants

section refresh

variable {fingerprint : Text → Text} {loaded : LoadedPlatform} {s : CredentialState}
  {call : CredentialCall}

theorem report_staged (s : CredentialState) : s.report.staged = s.staged := by
  unfold CredentialState.report
  split_ifs <;> rfl

theorem check_closed (registry : CredentialRegistry) (staged : PlatformCredentials) (m : RefreshMoment)
    (h : (registry.check fingerprint staged m).1 = false) :
    (registry.check fingerprint staged m).2.2.Closed := by
  unfold CredentialRegistry.check at h ⊢
  simp only at h ⊢
  split at h
  · exact closed_of_nil rfl rfl
  · split_ifs at h ⊢
    exact closed_of_nil rfl rfl

/-- **A refresh that returns `false` closes**, unless it was unguarded. -/
theorem closed_iff_guarded (h : (call.step fingerprint loaded s).1 = false) :
    (call.step fingerprint loaded s).2.staged.Closed ↔ ¬Unguarded loaded s call := by
  have hthrottled : ∀ registry : CredentialRegistry, ∀ token : Text,
      (CredentialRegistry.pruneRetired { registry with observationToken := token }
        call.moment.now).throttled call.force call.moment.now =
      registry.throttled call.force call.moment.now := fun _ _ => rfl
  unfold CredentialCall.step CredentialState.refreshCredentials at h ⊢
  simp only [report_staged] at h ⊢
  unfold CredentialRegistry.reload at h ⊢
  simp only [hthrottled, StoresValid.all_together] at h ⊢
  cases hread : PlatformCredentials.read loaded call.moment.contents with
  | none =>
    -- nothing is published, by whichever way the registry goes
    have hreload : PlatformCredentials.reload loaded call.moment.contents =
        .withdrawn (some (text "staged credential configuration is invalid")) := by
      rw [PlatformCredentials.reload, hread, Option.getD_none]
    have herror : (PlatformCredentials.withdrawn
        (some (text "staged credential configuration is invalid"))).error.isNone = false := rfl
    simp only [hreload, herror, Unguarded, hread, Option.isSome_none, Bool.false_eq_true, if_false,
      false_and, and_false, not_false_iff, iff_true]
    split_ifs
    all_goals exact closed_of_nil rfl rfl
  | some staged =>
    have hreload : PlatformCredentials.reload loaded call.moment.contents = staged := by
      rw [PlatformCredentials.reload, hread, Option.getD_some]
    have herror : staged.error = none := by
      simp only [PlatformCredentials.read, Option.bind_eq_bind, Option.bind_eq_some_iff,
        Prod.exists] at hread
      obtain ⟨_, _, -, _, _, -, _, _, -, heq⟩ := hread
      obtain rfl := Option.some.inj heq
      rfl
    simp only [hreload, herror, Option.isNone_none, Bool.and_true, if_true] at h ⊢
    by_cases hthrottle : s.registry.throttled call.force call.moment.now = true
    · simp only [Unguarded, hthrottle, hread, Option.isSome_some, true_and]
      exact read_closed_iff hread
    · simp only [if_neg hthrottle] at h ⊢
      exact iff_of_true (check_closed _ _ _ h) fun hunguarded => hthrottle hunguarded.1

theorem Unguarded.refused (h : Unguarded loaded s call) (fingerprint : Text → Text) :
    (call.step fingerprint loaded s).1 = false := by
  have hthrottled : (CredentialRegistry.pruneRetired { s.registry with observationToken :=
      (PlatformCredentials.reload loaded call.moment.contents).observation.headD [] }
      call.moment.now).throttled call.force call.moment.now = true := h.1
  unfold CredentialCall.step CredentialState.refreshCredentials CredentialRegistry.reload
  simp only [if_pos hthrottled, Bool.false_and]

/-- Nothing is granted where nothing authenticates. -/
theorem granted_of_closed (h : (call.step fingerprint loaded s).2.staged.Closed) :
    call.granted fingerprint loaded s = false := by
  cases call with
  | refresh => rfl
  | request route authorization m =>
    have hnone : (s.controlPrincipal fingerprint loaded m authorization).1 = none := h.1 authorization
    rw [CredentialCall.granted, hnone]
    cases route <;> rfl

end refresh

/-- Whenever a refresh returns `false`, nobody is let in, and the request it was
    for gets nothing. -/
def FailsClosed (fingerprint : Text → Text) (loaded : LoadedPlatform) :
    CredentialState → List CredentialCall → Prop :=
  Runs.Along (fun s call => (call.step fingerprint loaded s).2) fun s call =>
    (call.step fingerprint loaded s).1 = false →
      (call.step fingerprint loaded s).2.staged.Closed ∧ call.granted fingerprint loaded s = false

/-- No refresh of the run is unguarded. -/
def Guarded (fingerprint : Text → Text) (loaded : LoadedPlatform) :
    CredentialState → List CredentialCall → Prop :=
  Runs.Along (fun s call => (call.step fingerprint loaded s).2) fun s call =>
    ¬Unguarded loaded s call

/-- **A run fails closed if and only if no refresh of it is unguarded.** -/
theorem credentials_fail_closed_iff (fingerprint : Text → Text) (loaded : LoadedPlatform)
    (s : CredentialState) (calls : List CredentialCall) :
    FailsClosed fingerprint loaded s calls ↔ Guarded fingerprint loaded s calls := by
  refine Runs.along_congr fun s call => ?_
  constructor
  · intro hclosed hunguarded
    have hrefused := hunguarded.refused fingerprint
    exact (closed_iff_guarded hrefused).1 (hclosed hrefused).1 hunguarded
  · intro hguarded hrefused
    have hclosed := (closed_iff_guarded hrefused).2 hguarded
    exact ⟨hclosed, granted_of_closed hclosed⟩

/-! A control token that is also the observer's. -/

def sampleToken : Bytes := List.replicate 32 (ascii 'a')

def sampleLoaded : LoadedPlatform :=
  ⟨[], true, [⟨text "operator", [text "audit:read"], [text "generator"]⟩]⟩

/-- Every reference holds the same token. -/
def sampleContents : Contents := fun _ => some ⟨fun _ => some sampleToken, fun _ => none⟩

def sampleCredentials : CredentialState where
  staged := .reload sampleLoaded sampleContents
  registry := ⟨[], [], none, 0, 60000, 4096, [], []⟩
  reportedCredentialError := none
  controlEndpoints := []
  controlStates := []

def sampleAuthorization : Text := text "Bearer " ++ widen sampleToken

/-- The first refresh finds the collision and withdraws the token.  A millisecond
    later the refresh of a request publishes it again, returns `false`, and the
    request is granted. -/
theorem credentials_open_sample :
    let s := sampleCredentials
    let first : CredentialCall := .refresh true ⟨sampleContents, 0, 0⟩
    let second : CredentialCall := .request .audit sampleAuthorization ⟨sampleContents, 1, 1⟩
    let s' := (first.step id sampleLoaded s).2
    (first.step id sampleLoaded s).1 = false ∧ s'.staged.principals.length = 0 ∧
      (second.step id sampleLoaded s').1 = false ∧ second.granted id sampleLoaded s' = true := by
  decide

end GraphX
