/-
  Sessions of the console (`apps/telemetry/console-session.mjs`, and `refreshCredentials`
  and `controlPrincipal` of `collector.mjs`).

  A handoff code stands for an observation token and perhaps a control token; it is
  exchanged for a session, whose cookie a browser then sends.  `attach` gives a request
  with such a cookie the token that it needs, and a control token only to one that also
  knows the session's CSRF token.  It decides on the text of the request target, while
  requests are routed by the parsed one, so a request may come to a control endpoint with
  the observation token: it must not pass for a control token.

  Every look at the credentials reads them again.  An `Env` gives what is read and the
  clock at each of these moments, whatever it is; its random texts never repeat.  The
  `minted` codes and the exchanges of a console are not in the source.

  * **`console_sessions_safe`**: a code is exchanged once, from its own origin; a request
    that relies on a cookie is a control principal only with the CSRF token and the origin,
    unless the observation token it was given became a control token meanwhile.
-/
import GraphX.CredentialModes
import GraphX.Lib.Triple
import GraphX.Lib.Runs
import GraphX.Lib.Keyed

namespace GraphX.ConsoleSessions

open CredentialModes Ecma Imperative Imperative.Act List

/-! ## The console -/

/-- What a handoff code stands for. -/
structure Entry where
  observation : Text
  control : Option Text
  origin : Text
  expires : ℤ

structure Session extends Entry where
  csrf : Text

/-- A code that was exchanged, from where, and the session that it was exchanged for. -/
structure Exchange where
  code : Text
  origin : Text
  session : Text

structure Console where
  credentials : CredentialState
  handoffs : List (Text × Entry)
  sessions : List (Text × Session)
  /-- How often the credentials, the clock and the random source were read. -/
  readings : ℕ
  ticks : ℕ
  drawn : ℕ
  /-- The codes that were minted, with their origins. -/
  minted : List (Text × Text)
  exchanged : List Exchange

/-- What the console reads. -/
structure Env where
  mode : Mode
  /-- `createHash('sha256')`, in hexadecimal digits -/
  digest : Bytes → Text
  cookieName : Text
  moment : ℕ → Reading
  clock : ℕ → ℤ
  /-- `randomBytes(32).toString('base64url')` -/
  random : ℕ → Text
  random_injective : Function.Injective random

/-- What is read of a request; the names of headers are in lower case. -/
structure Request where
  url : Text
  method : Text
  authorization : Option Text
  cookie : Option Text
  origin : Option Text
  secFetchSite : Option Text
  csrf : Option Text
  contentType : Option Text

/-- A header that is there and not empty. -/
def given (header : Option Text) : Bool := header.any (· ≠ [])

def capacity : ℕ := 128

def handoffMs : ℤ := 60000

def sessionMs : ℤ := 8 * 60 * 60000

def bearer (token : Text) : Text := text "Bearer " ++ token

abbrev Task := Act Console Text

section tasks
variable (env : Env)

def now : Task ℤ := do
  let c ← get
  modify ({ · with ticks := c.ticks + 1 })
  return env.clock c.ticks

/-- `opaque` -/
def draw : Task Text := do
  let c ← get
  modify ({ · with drawn := c.drawn + 1 })
  return env.random c.drawn

def fingerprint (t : Text) : Text := env.digest (encode t)

/-- The result of the next refresh. -/
def Console.refreshed (c : Console) (force : Bool) : Bool × CredentialState :=
  env.mode.refresh (fingerprint env) c.credentials force (env.moment c.readings)

def refreshCredentials (force : Bool) : Task Bool := do
  let c ← get
  modify ({ · with credentials := (c.refreshed env force).2, readings := c.readings + 1 })
  return (c.refreshed env force).1

/-- The argument `observe` of `createConsoleSessions`. -/
def observe (token : Text) : Task Bool := do
  if ← refreshCredentials env true then
    let c ← get
    return c.credentials.staged.observation.any (tokenMatches · (bearer token))
  else return false

/-- The argument `control` of `createConsoleSessions`. -/
def control (token : Text) : Task Bool := do
  if ← refreshCredentials env true then
    let c ← get
    return (authenticate c.credentials.staged.principals (bearer token)).isSome
  else return false

def valid (entry : Entry) : Task Bool := do
  let time ← now env
  if entry.expires > time then
    if ← observe env entry.observation then
      match entry.control with
      | none => return true
      | some token => control env token
    else return false
  else return false

/-- The entries of a store that are valid. -/
def keepValid {α : Type} (entry : α → Entry) : List (Text × α) → Task (List (Text × α))
  | [] => return []
  | item :: rest => do
    let keep ← valid env (entry item.2)
    let kept ← keepValid entry rest
    return if keep then item :: kept else kept

def prune : Task Unit := do
  let c ← get
  let handoffs ← keepValid env id c.handoffs
  modify ({ · with handoffs := handoffs })
  let sessions ← keepValid env Session.toEntry c.sessions
  modify ({ · with sessions := sessions })

/-! ### Cookies -/

/-- White space and line terminators of ECMAScript. -/
def isSpace (u : UInt16) : Bool :=
  (9 ≤ u && u ≤ 13) || u = 0x20 || u = 0xA0 || u = 0x1680 || (0x2000 ≤ u && u ≤ 0x200A) ||
    u = 0x2028 || u = 0x2029 || u = 0x202F || u = 0x205F || u = 0x3000 || u = 0xFEFF

def trim (s : Text) : Text := ((s.dropWhile isSpace).reverse.dropWhile isSpace).reverse

/-- The session that the cookies of a request name; none if there are two cookies. -/
def cookieSession (request : Request) : Option Text :=
  let cookies := ((request.cookie.getD []).splitOn (unit ';')).map trim
  match cookies.filter (env.cookieName ++ text "=").isPrefixOf with
  | [value] => some (value.drop (env.cookieName.length + 1))
  | _ => none

def session (request : Request) : Task (Option Session) := do
  prune env
  let c ← get
  return ((cookieSession env request).bind fun id => c.sessions.lookup id).filter fun entry =>
    !(given request.origin && request.origin ≠ some entry.origin) &&
      request.secFetchSite ≠ some (text "cross-site")

/-! ### Handoffs -/

/-- `text` -/
def isText (s : Text) : Bool := s ≠ [] && s.length ≤ 8192

/-- `operator`: absent, or a text that authenticates; `none` if it is neither. -/
def operatorText : Option Json → Option (Option Text)
  | none | some .null => some none
  | some (.str s) => if isText s then some (some s) else none
  | some _ => none

def checkOperator (operator : Option Json) : Task (Option Text) := do
  match operatorText operator with
  | none => throw (text "invalid console credentials")
  | some none => return none
  | some (some token) =>
    if ← control env token then return some token
    else throw (text "invalid console credentials")

def checkObservation (observation : Text) : Task Bool := do
  if isText observation then observe env observation else return false

def mint (observation : Text) (operator : Option Json) (origin : Text) : Task Text := do
  prune env
  if ← checkObservation env observation then
    let token ← checkOperator env operator
    let c ← get
    if c.handoffs.length ≥ capacity then throw (text "console handoff capacity exceeded")
    else
      let code ← draw env
      let time ← now env
      modify fun c => { c with
        handoffs := c.handoffs.filter (·.1 ≠ code) ++ [(code, ⟨observation, token, origin, time + handoffMs⟩)]
        minted := (code, origin) :: c.minted }
      return code
  else throw (text "invalid console credentials")

def exchange (code origin : Text) : Task (Text × Session) := do
  prune env
  let c ← get
  match (c.handoffs.lookup code).filter (·.origin = origin) with
  | none => throw (text "console login expired or invalid; reopen with graphx example open")
  | some entry => do
    modify ({ · with handoffs := c.handoffs.filter (·.1 ≠ code) })
    if c.sessions.length ≥ capacity then throw (text "console session capacity exceeded")
    else
      let id ← draw env
      let time ← now env
      let csrf ← draw env
      let session : Session := { entry with expires := time + sessionMs, csrf := csrf }
      modify fun c => { c with
        sessions := c.sessions.filter (·.1 ≠ id) ++ [(id, session)]
        exchanged := ⟨code, origin, id⟩ :: c.exchanged }
      return (id, session)

/-! ### Requests -/

/-- What `attach` gives a request. -/
structure Attachment where
  consoleExpires : ℤ
  authorization : Text

def controlling (request : Request) : Bool := (text "/api/control/").isPrefixOf request.url

/-- The token that a request with a session is given. -/
def attached (request : Request) (entry : Session) : Option Attachment :=
  if controlling request && (request.csrf ≠ some entry.csrf ||
      (request.method ≠ text "GET" && request.origin ≠ some entry.origin)) then none
  else (if controlling request then entry.control else some entry.observation).map fun token =>
    ⟨entry.expires, bearer token⟩

def attach (request : Request) (websocket : Bool) : Task (Option Attachment) := do
  if given request.authorization then return none
  else
    let entry ← session env request
    return entry.bind fun entry =>
      if websocket && request.origin ≠ some entry.origin then none else attached request entry

/-- Whether the refresh succeeded, and who the request is from. -/
def controlPrincipal (authorization : Option Text) : Task (Bool × Option Principal) := do
  let fresh ← refreshCredentials env false
  let c ← get
  return (fresh, authenticate c.credentials.staged.principals (authorization.getD []))

inductive Path where
  | handoff
  | session
  deriving DecidableEq

/-- What `handle` answers. -/
inductive Reply where
  | status (code : ℕ)
  | handoff (code : Text)
  | session (cookie : Option Text) (session : Session)

/-- What comes of reading the body of a request. -/
inductive Body where
  | tooLarge
  | invalid
  | document (value : Json)

/-- The part of `handle` after the body was read. -/
def login (path : Path) (request : Request) (origin : Text) (body : Body) : Task Reply := do
  match path, body with
  | _, .tooLarge => return .status 413
  | .handoff, .document (.obj members) =>
    let authorization := request.authorization.getD []
    if members.any (·.1 ≠ text "control_token") then throw (text "invalid console request")
    else if !(text "Bearer ").isPrefixOf authorization then throw (text "invalid console credentials")
    else
      let code ← mint env (authorization.drop 7) (members.lookup (text "control_token")) origin
      return .handoff code
  | .session, .document (.obj [(key, .str code)]) =>
    if key = text "code" && isText code then
      let (id, session) ← exchange env code origin
      return .session (some id) session
    else throw (text "invalid console request")
  | _, _ => throw (text "invalid console request")

def handle (path : Path) (request : Request) (originAllowed : Bool) (body : Body) :
    Task Reply := do
  if path = .session && request.method = text "GET" then
    return (← session env request).elim (.status 401) (.session none)
  else if request.method ≠ text "POST" then return .status 405
  else match request.origin with
    | none => return .status 403
    | some origin =>
      if origin = [] || !originAllowed ||
          request.contentType.map (fun t => t.takeWhile (· ≠ unit ';')) ≠
            some (text "application/json") then return .status 403
      else tryCatch (login env path request origin body) fun _ => return .status 401

/-! ### Histories -/

inductive Event where
  | handle (path : Path) (request : Request) (originAllowed : Bool) (body : Body)
  | attach (request : Request) (websocket : Bool)
  | control (authorization : Option Text)
  | refresh (force : Bool)

def Console.step (c : Console) : Event → Console
  | .handle path request originAllowed body => ((handle env path request originAllowed body).run c).world
  | .attach request websocket => ((attach env request websocket).run c).world
  | .control authorization => ((controlPrincipal env authorization).run c).world
  | .refresh force => ((refreshCredentials env force).run c).world

end tasks

def Console.start (credentials : CredentialState) : Console := ⟨credentials, [], [], 0, 0, 0, [], []⟩

/-! ## Which token a request is given -/

section attach
variable {env : Env} {c c' : Console} {token : Text}

/-- The token is an observation token in what was read at a moment. -/
def Observes (env : Env) (i : ℕ) (token : Text) : Prop :=
  (env.mode.read (env.moment i)).observation.any (tokenMatches · (bearer token)) = true

def Controls (env : Env) (i : ℕ) (token : Text) : Prop :=
  (authenticate (env.mode.read (env.moment i)).principals (bearer token)).isSome = true

/-- Only the credentials, the clock and the random source were read. -/
structure Reads (c c' : Console) : Prop where
  handoffs : c'.handoffs = c.handoffs
  sessions : c'.sessions = c.sessions
  drawn : c.drawn ≤ c'.drawn
  minted : c'.minted = c.minted
  exchanged : c'.exchanged = c.exchanged
  readings : c.readings ≤ c'.readings

theorem Reads.refl (c : Console) : Reads c c := ⟨rfl, rfl, le_rfl, rfl, rfl, le_rfl⟩

theorem Reads.trans {c'' : Console} (h : Reads c c') (h' : Reads c' c'') : Reads c c'' :=
  ⟨h'.handoffs.trans h.handoffs, h'.sessions.trans h.sessions, h.drawn.trans h'.drawn,
    h'.minted.trans h.minted, h'.exchanged.trans h.exchanged, h.readings.trans h'.readings⟩

/-- A token that was found to be an observation token between two states. -/
def Observed (env : Env) (c c' : Console) (token : Text) : Prop :=
  ∃ i, c.readings ≤ i ∧ i < c'.readings ∧ Observes env i token

theorem Observed.widen {c₀ c₁ : Console} (h : Observed env c c' token)
    (h₀ : c₀.readings ≤ c.readings) (h₁ : c'.readings ≤ c₁.readings) : Observed env c₀ c₁ token := by
  obtain ⟨i, hi, hi', hobserves⟩ := h
  exact ⟨i, h₀.trans hi, hi'.trans_le h₁, hobserves⟩

/-- The call returns, and `P` relates its result and the consoles. -/
def Ensures {α : Type} (x : Task α) (c : Console) (P : α → Console → Prop) : Prop :=
  x.wp c ⟨P, fun _ _ => False, fun _ => False⟩

theorem Ensures.bind {α β : Type} {x : Task α} {f : α → Task β} {P : α → Console → Prop}
    {Q : β → Console → Prop} (hx : Ensures x c P) (hf : ∀ a c', P a c' → Ensures (f a) c' Q) :
    Ensures (x >>= f) c Q :=
  wp_bind_of hx hf (fun _ _ => False.elim) fun _ => False.elim

theorem Ensures.mono {α : Type} {x : Task α} {P Q : α → Console → Prop} (hx : Ensures x c P)
    (h : ∀ a c', P a c' → Q a c') : Ensures x c Q :=
  wp_mono hx h (fun _ _ => id) fun _ => id

theorem now_spec : Ensures (now env) c fun _ c' => Reads c c' := ⟨rfl, rfl, le_rfl, rfl, rfl, le_rfl⟩

theorem refresh_spec (force : Bool) : Ensures (refreshCredentials env force) c fun fresh c' =>
    Reads c c' ∧ c'.readings = c.readings + 1 ∧ (fresh = true →
      c'.credentials.staged = env.mode.read (env.moment c.readings) ∧
        RolesDisjoint (env.mode.read (env.moment c.readings))) :=
  ⟨⟨rfl, rfl, le_rfl, rfl, rfl, Nat.le_succ _⟩, rfl, refresh_disjoint⟩

theorem observe_spec : Ensures (observe env token) c fun ok c' =>
    Reads c c' ∧ (ok = true → Observed env c c' token) := by
  refine (refresh_spec true).bind ?_
  rintro fresh c' ⟨hreads, hreadings, hfresh⟩
  split_ifs with hok
  · refine ⟨hreads, fun hmatches => ⟨c.readings, le_rfl, by omega, ?_⟩⟩
    rw [(hfresh hok).1] at hmatches
    exact hmatches
  · exact ⟨hreads, fun h => by cases h⟩

theorem control_spec : Ensures (control env token) c fun _ c' => Reads c c' := by
  refine (refresh_spec true).bind ?_
  rintro fresh c' ⟨hreads, -, -⟩
  split_ifs <;> exact hreads

theorem valid_spec (entry : Entry) : Ensures (valid env entry) c fun ok c' =>
    Reads c c' ∧ (ok = true → Observed env c c' entry.observation) := by
  refine now_spec.bind fun time c₁ h₁ => ?_
  split_ifs
  · refine observe_spec.bind ?_
    rintro ok c₂ ⟨h₂, hobserved⟩
    have hreads := h₁.trans h₂
    split_ifs with hok
    · have hobserved := (hobserved hok).widen h₁.readings (le_refl c₂.readings)
      cases entry.control with
      | none => exact ⟨hreads, fun _ => hobserved⟩
      | some token =>
        refine control_spec.mono fun _ c₃ h₃ => ⟨hreads.trans h₃, fun _ => ?_⟩
        exact hobserved.widen le_rfl h₃.readings
    · exact ⟨hreads, fun h => by cases h⟩
  · exact ⟨h₁, fun h => by cases h⟩

theorem keepValid_spec {α : Type} (entry : α → Entry) (l : List (Text × α)) :
    Ensures (keepValid env entry l) c fun kept c' => Reads c c' ∧ kept.Sublist l ∧
      ∀ item ∈ kept, Observed env c c' (entry item.2).observation := by
  induction l generalizing c with
  | nil => exact ⟨.refl c, .slnil, by simp⟩
  | cons item rest ih =>
    refine (valid_spec (entry item.2)).bind ?_
    rintro keep c₁ ⟨h₁, hvalid⟩
    refine ih.bind ?_
    rintro kept c₂ ⟨h₂, hsub, hkept⟩
    refine ⟨h₁.trans h₂, ?_, ?_⟩
    · split_ifs
      · exact hsub.cons_cons item
      · exact hsub.cons item
    · intro item' hitem'
      have hrest : ∀ item ∈ kept, Observed env c c₂ (entry item.2).observation :=
        fun item hitem => (hkept item hitem).widen h₁.readings le_rfl
      split_ifs at hitem' with hkeep
      · rcases mem_cons.1 hitem' with rfl | hitem'
        · exact (hvalid hkeep).widen le_rfl h₂.readings
        · exact hrest item' hitem'
      · exact hrest item' hitem'

/-- Entries may have been dropped, and nothing else was changed. -/
structure Drops (c c' : Console) : Prop where
  handoffs : c'.handoffs.Sublist c.handoffs
  sessions : c'.sessions.Sublist c.sessions
  drawn : c.drawn ≤ c'.drawn
  minted : c'.minted = c.minted
  exchanged : c'.exchanged = c.exchanged

theorem Reads.drops (h : Reads c c') : Drops c c' :=
  ⟨h.handoffs ▸ .refl _, h.sessions ▸ .refl _, h.drawn, h.minted, h.exchanged⟩

/-- The stores were pruned. -/
structure Pruned (env : Env) (c c' : Console) : Prop extends Drops c c' where
  observed : ∀ item ∈ c'.sessions, Observed env c c' item.2.observation

theorem prune_spec : Ensures (prune env) c fun _ c' => Pruned env c c' := by
  refine wp_get_bind.2 ((keepValid_spec id c.handoffs).bind ?_)
  rintro handoffs c₁ ⟨h₁, hhandoffs, -⟩
  refine wp_modify_bind.2 ((keepValid_spec Session.toEntry c.sessions).bind ?_)
  rintro sessions c₂ ⟨h₂, hsessions, hobserved⟩
  refine ⟨⟨h₂.handoffs ▸ hhandoffs, hsessions, h₁.drawn.trans h₂.drawn, h₂.minted.trans h₁.minted,
    h₂.exchanged.trans h₁.exchanged⟩, fun item hitem => ?_⟩
  exact (hobserved item hitem).widen h₁.readings le_rfl

structure ReliesOn (env : Env) (c c' : Console) (request : Request) (entry : Session) : Prop where
  cookie : ∃ id, cookieSession env request = some id ∧ c'.sessions.lookup id = some entry
  observed : Observed env c c' entry.observation

theorem session_spec (request : Request) : Ensures (session env request) c fun found c' =>
    Pruned env c c' ∧ ∀ entry, found = some entry → ReliesOn env c c' request entry := by
  refine prune_spec.bind fun _ c' hpruned => ⟨hpruned, fun entry hentry => ?_⟩
  obtain ⟨hfound, -⟩ := Option.filter_eq_some_iff.1 hentry
  obtain ⟨id, hid, hlookup⟩ := Option.bind_eq_some_iff.1 hfound
  exact ⟨⟨id, hid, hlookup⟩, hpruned.observed _ (Keyed.mem_of_lookup hlookup)⟩

theorem attach_spec (request : Request) (websocket : Bool) :
    Ensures (attach env request websocket) c fun result c' => ∀ attachment, result = some attachment →
      ∃ entry, ReliesOn env c c' request entry ∧ attached request entry = some attachment := by
  unfold attach
  split_ifs
  · exact fun _ h => by cases h
  · refine (session_spec request).bind ?_
    rintro found c' ⟨-, hfound⟩ attachment hattachment
    obtain ⟨entry, hentry, hattached⟩ := Option.bind_eq_some_iff.1 hattachment
    split_ifs at hattached
    exact ⟨entry, hfound entry hentry, hattached⟩

/-- The request shows that it knows the session. -/
def Presents (request : Request) (entry : Session) : Prop :=
  request.csrf = some entry.csrf ∧
    (request.method = text "GET" ∨ request.origin = some entry.origin)

/-- A control token goes only to a request that shows that it knows the session; any other
    request with a session gets the observation token. -/
theorem attached_cases {request : Request} {entry : Session} {attachment : Attachment}
    (h : attached request entry = some attachment) :
    Presents request entry ∨ attachment.authorization = bearer entry.observation := by
  unfold attached at h
  split_ifs at h with hrefused hcontrolling
  · simp only [hcontrolling, Bool.true_and, Bool.or_eq_true, Bool.and_eq_true, decide_eq_true_eq,
      not_or, not_and_or, not_not] at hrefused
    exact .inl hrefused
  · obtain ⟨token, htoken, rfl⟩ := Option.map_eq_some_iff.1 h
    cases htoken
    exact .inr rfl

/-- A token that passes for another has the same bytes. -/
theorem encode_eq_of_tokenMatches {expected : Text} (h : tokenMatches expected (bearer token) = true) :
    expected ≠ [] ∧ encode token = encode expected := by
  unfold tokenMatches at h
  simp only [Bool.and_eq_true, decide_eq_true_eq] at h
  have hdrop : (bearer token).drop 7 = token := drop_left' rfl
  exact ⟨h.1.1, h.2⟩

theorem not_observes_of_controls {i : ℕ} (h : RolesDisjoint (env.mode.read (env.moment i)))
    (hcontrols : Controls env i token) : ¬Observes env i token := by
  intro hobserves
  obtain ⟨t, ht, hmatches⟩ := any_eq_true.1 hobserves
  obtain ⟨p, hp⟩ := Option.isSome_iff_exists.1 hcontrols
  have hany := find?_some hp
  obtain ⟨t', ht', hmatches'⟩ := any_eq_true.1 hany
  obtain ⟨hne, heq⟩ := encode_eq_of_tokenMatches hmatches
  obtain ⟨-, heq'⟩ := encode_eq_of_tokenMatches hmatches'
  exact h t ht hne p (mem_of_find?_eq_some hp) t' ht' (heq.symm.trans heq')

theorem authenticate_nil (principals : List Principal) : authenticate principals [] = none := by
  refine find?_eq_none.2 fun p _ => ?_
  have hnot : ∀ t : Text, tokenMatches t [] = false := by
    intro t
    unfold tokenMatches
    rw [show (text "Bearer ").isPrefixOf [] = false from rfl, Bool.and_false, Bool.false_and]
  simp [hnot]

/-- The header that a request has after `attach`. -/
def header (request : Request) (result : Option Attachment) : Option Text :=
  result.elim request.authorization fun attachment => some attachment.authorization

/-- An observation token, read before, that is a control token and no longer an
    observation token in what `c₂` reads next. -/
structure RoleChanged (env : Env) (c c₁ c₂ : Console) (token : Text) : Prop where
  observed : Observed env c c₁ token
  control : Controls env c₂.readings token
  withdrawn : ¬Observes env c₂.readings token

/-- Whoever `controlPrincipal` finds after a refresh that succeeded is in what it read. -/
theorem controlPrincipal_spec (authorization : Option Text) :
    Ensures (controlPrincipal env authorization) c fun result _ => ∀ p, result = (true, some p) →
      authenticate (env.mode.read (env.moment c.readings)).principals (authorization.getD []) = some p ∧
        RolesDisjoint (env.mode.read (env.moment c.readings)) := by
  refine (refresh_spec false).bind ?_
  rintro fresh c' ⟨-, -, hfresh⟩ p hp
  obtain ⟨rfl, hfound⟩ := Prod.mk.inj hp
  obtain ⟨hstaged, hdisjoint⟩ := hfresh rfl
  rw [hstaged] at hfound
  exact ⟨hfound, hdisjoint⟩

/-- A request without an authorization of its own is from a control principal only if it
    shows that it knows its session. -/
theorem presents_of_principal {request : Request} {websocket : Bool} {result : Option Attachment}
    {c₁ c₂ c₃ : Console} {p : Principal} (hown : given request.authorization = false)
    (hattach : (attach env request websocket).run c = .returned result c₁)
    (hcontrol : (controlPrincipal env (header request result)).run c₂ = .returned (true, some p) c₃) :
    ∃ entry, ReliesOn env c c₁ request entry ∧
      (Presents request entry ∨ RoleChanged env c c₁ c₂ entry.observation) := by
  obtain ⟨hp, hdisjoint⟩ := of_returned (controlPrincipal_spec _) hcontrol p rfl
  cases result with
  | none =>
    -- without a token nobody authenticates
    have hnone : (header request none).getD [] = [] := by
      unfold header given at *
      cases hauthorization : request.authorization with
      | none => rfl
      | some t => simpa [hauthorization] using hown
    rw [hnone, authenticate_nil] at hp
    cases hp
  | some attachment =>
    obtain ⟨entry, hrelies, hattached⟩ := of_returned (attach_spec request websocket) hattach _ rfl
    refine ⟨entry, hrelies, (attached_cases hattached).imp_right fun hbearer => ?_⟩
    have hcontrols : Controls env c₂.readings entry.observation := by
      rw [Controls, ← hbearer]
      exact Option.isSome_iff_exists.2 ⟨p, hp⟩
    exact ⟨hrelies.observed, hcontrols, not_observes_of_controls hdisjoint hcontrols⟩

end attach

/-! ## Codes are exchanged once -/

section codes
variable {env : Env} {c c' : Console} {code origin : Text}

structure Inv (env : Env) (c : Console) : Prop where
  minted : ∀ m ∈ c.minted, ∃ k < c.drawn, env.random k = m.1
  mintedOnce : (c.minted.map Prod.fst).Nodup
  handoffs : ∀ h ∈ c.handoffs, (h.1, h.2.origin) ∈ c.minted
  exchanged : ∀ e ∈ c.exchanged, (e.code, e.origin) ∈ c.minted
  spent : ∀ e ∈ c.exchanged, ∀ h ∈ c.handoffs, h.1 ≠ e.code
  once : (c.exchanged.map Exchange.code).Nodup
  sessions : ∀ s ∈ c.sessions, ∃ e ∈ c.exchanged, e.session = s.1 ∧ e.origin = s.2.origin

theorem Inv.drops (h : Inv env c) (hdrops : Drops c c') : Inv env c' where
  minted m hm := by
    rw [hdrops.minted] at hm
    obtain ⟨k, hk, hcode⟩ := h.minted m hm
    exact ⟨k, hk.trans_le hdrops.drawn, hcode⟩
  mintedOnce := hdrops.minted ▸ h.mintedOnce
  handoffs x hx := hdrops.minted ▸ h.handoffs x (hdrops.handoffs.subset hx)
  exchanged := hdrops.minted ▸ hdrops.exchanged ▸ h.exchanged
  spent e he x hx := h.spent e (hdrops.exchanged ▸ he) x (hdrops.handoffs.subset hx)
  once := hdrops.exchanged ▸ h.once
  sessions x hx := hdrops.exchanged ▸ h.sessions x (hdrops.sessions.subset hx)

theorem Inv.reads (h : Inv env c) (hreads : Reads c c') : Inv env c' := h.drops hreads.drops

/-- A code that was drawn and not minted. -/
structure Unminted (env : Env) (c : Console) (code : Text) : Prop where
  drawn : ∃ k < c.drawn, env.random k = code
  unminted : code ∉ c.minted.map Prod.fst

theorem draw_spec : Ensures (draw env) c fun code c' =>
    Reads c c' ∧ (Inv env c → Unminted env c' code) := by
  refine ⟨⟨rfl, rfl, Nat.le_succ _, rfl, rfl, le_rfl⟩, fun h => ⟨⟨c.drawn, Nat.lt_succ_self _, rfl⟩, ?_⟩⟩
  intro hmem
  obtain ⟨m, hm, heq⟩ := mem_map.1 hmem
  obtain ⟨k, hk, hcode⟩ := h.minted m hm
  exact hk.ne (env.random_injective (hcode.trans heq))

theorem Unminted.reads (h : Unminted env c code) (hreads : Reads c c') : Unminted env c' code := by
  obtain ⟨⟨k, hk, hcode⟩, hunminted⟩ := h
  exact ⟨⟨k, hk.trans_le hreads.drawn, hcode⟩, hreads.minted ▸ hunminted⟩

theorem Inv.mint (h : Inv env c) (hcode : Unminted env c code) (entry : Entry) :
    Inv env { c with
      handoffs := c.handoffs.filter (·.1 ≠ code) ++ [(code, entry)]
      minted := (code, entry.origin) :: c.minted } := by
  constructor
  case minted =>
    rintro m (_ | ⟨_, hm⟩)
    · exact hcode.drawn
    · exact h.minted m hm
  case mintedOnce => exact nodup_cons.2 ⟨hcode.unminted, h.mintedOnce⟩
  case handoffs =>
    intro x hx
    rcases mem_append.1 hx with hx | hx
    · exact mem_cons_of_mem _ (h.handoffs x (mem_of_mem_filter hx))
    · cases mem_singleton.1 hx
      exact mem_cons_self
  case exchanged => exact fun e he => mem_cons_of_mem _ (h.exchanged e he)
  case spent =>
    intro e he x hx
    rcases mem_append.1 hx with hx | hx
    · exact h.spent e he x (mem_of_mem_filter hx)
    · cases mem_singleton.1 hx
      rintro rfl
      exact hcode.unminted (mem_map_of_mem (h.exchanged e he))
  case once => exact h.once
  case sessions => exact h.sessions

/-- A code that was taken out of the store to exchange it. -/
structure Taken (c : Console) (code origin : Text) : Prop where
  minted : (code, origin) ∈ c.minted
  gone : ∀ x ∈ c.handoffs, x.1 ≠ code
  unspent : code ∉ c.exchanged.map Exchange.code

theorem Taken.reads (h : Taken c code origin) (hreads : Reads c c') : Taken c' code origin :=
  ⟨hreads.minted ▸ h.minted, hreads.handoffs ▸ h.gone, hreads.exchanged ▸ h.unspent⟩

theorem Inv.take (h : Inv env c) {entry : Entry} (hentry : c.handoffs.lookup code = some entry) :
    Inv env { c with handoffs := c.handoffs.filter (·.1 ≠ code) } ∧
      Taken { c with handoffs := c.handoffs.filter (·.1 ≠ code) } code entry.origin := by
  have hmem := Keyed.mem_of_lookup hentry
  constructor
  · exact { h with
      handoffs := fun x hx => h.handoffs x (mem_of_mem_filter hx)
      spent := fun e he x hx => h.spent e he x (mem_of_mem_filter hx) }
  · refine ⟨h.handoffs _ hmem, fun x hx => by simpa using (mem_filter.1 hx).2, fun hspent => ?_⟩
    obtain ⟨e, he, heq⟩ := mem_map.1 hspent
    exact h.spent e he _ hmem heq.symm

theorem Inv.exchange (h : Inv env c) (htaken : Taken c code origin) (id : Text) {session : Session}
    (horigin : session.origin = origin) :
    Inv env { c with
      sessions := c.sessions.filter (·.1 ≠ id) ++ [(id, session)]
      exchanged := ⟨code, origin, id⟩ :: c.exchanged } := by
  refine { h with exchanged := ?_, spent := ?_, once := ?_, sessions := ?_ }
  · rintro e (_ | ⟨_, he⟩)
    · exact htaken.minted
    · exact h.exchanged e he
  · rintro e (_ | ⟨_, he⟩) x hx
    · exact htaken.gone x hx
    · exact h.spent e he x hx
  · exact nodup_cons.2 ⟨htaken.unspent, h.once⟩
  · intro x hx
    rcases mem_append.1 hx with hx | hx
    · obtain ⟨e, he, hsame⟩ := h.sessions x (mem_of_mem_filter hx)
      exact ⟨e, mem_cons_of_mem _ he, hsame⟩
    · cases mem_singleton.1 hx
      exact ⟨_, mem_cons_self, rfl, horigin.symm⟩

/-! ### Every request keeps the invariant -/

theorem Ensures.always {α : Type} {x : Task α} {P : α → Console → Prop} (hx : Ensures x c P)
    (h : ∀ a c', P a c' → Inv env c') : x.wp c (.always (Inv env)) :=
  wp_mono hx h (fun _ _ => False.elim) fun _ => False.elim

theorem Ensures.bind_always {α β : Type} {x : Task α} {f : α → Task β} {P : α → Console → Prop}
    (hx : Ensures x c P) (hf : ∀ a c', P a c' → (f a).wp c' (.always (Inv env))) :
    (x >>= f).wp c (.always (Inv env)) :=
  wp_bind_of hx hf (fun _ _ => False.elim) fun _ => False.elim

theorem checkOperator_keeps (operator : Option Json) (h : Inv env c) :
    (checkOperator env operator).wp c (.always (Inv env)) := by
  unfold checkOperator
  cases operatorText operator with
  | none => exact h
  | some found =>
    cases found with
    | none => exact h
    | some token =>
      refine control_spec.bind_always fun ok c' hreads => ?_
      split_ifs <;> exact h.reads hreads

theorem mint_keeps (observation origin : Text) (operator : Option Json) (h : Inv env c) :
    (mint env observation operator origin).wp c (.always (Inv env)) := by
  refine prune_spec.bind_always fun _ c₁ hpruned => ?_
  have h := h.drops hpruned.toDrops
  have hobserve : Ensures (checkObservation env observation) c₁ fun _ c' => Reads c₁ c' := by
    unfold checkObservation
    split_ifs
    · exact observe_spec.mono fun _ _ hobserved => hobserved.1
    · exact .refl c₁
  refine hobserve.bind_always fun observed c₂ h₂ => ?_
  split_ifs
  · refine wp_always_bind (checkOperator_keeps operator (h.reads h₂)) fun token c₃ h => ?_
    refine wp_get_bind.2 ?_
    split_ifs
    · exact h
    · refine draw_spec.bind_always ?_
      rintro code c₄ ⟨h₄, hcode⟩
      refine now_spec.bind_always fun time c₅ h₅ => ?_
      exact ((h.reads h₄).reads h₅).mint ((hcode h).reads h₅) ⟨observation, token, origin, _⟩
  · exact h.reads h₂

theorem exchange_keeps (code origin : Text) (h : Inv env c) :
    (exchange env code origin).wp c (.always (Inv env)) := by
  refine prune_spec.bind_always fun _ c₁ hpruned => wp_get_bind.2 ?_
  have h := h.drops hpruned.toDrops
  cases hfound : (c₁.handoffs.lookup code).filter (·.origin = origin) with
  | none => exact h
  | some entry =>
    obtain ⟨hlookup, horigin⟩ := Option.filter_eq_some_iff.1 hfound
    have horigin : entry.origin = origin := of_decide_eq_true horigin
    obtain ⟨h, htaken⟩ := h.take hlookup
    rw [horigin] at htaken
    refine wp_modify_bind.2 ?_
    split_ifs
    · exact h
    · refine draw_spec.bind_always fun id c₂ h₂ => now_spec.bind_always fun time c₃ h₃ =>
        draw_spec.bind_always fun csrf c₄ h₄ => ?_
      have hreads := (h₂.1.trans h₃).trans h₄.1
      exact (h.reads hreads).exchange (htaken.reads hreads) id horigin

theorem login_keeps (path : Path) (request : Request) (origin : Text) (body : Body)
    (h : Inv env c) : (login env path request origin body).wp c (.always (Inv env)) := by
  unfold login
  split
  · exact h
  · dsimp only
    split_ifs
    · exact h
    · exact h
    · exact wp_always_bind (mint_keeps _ _ _ h) fun _ _ h' => h'
  · split_ifs
    · exact wp_always_bind (exchange_keeps _ _ h) fun _ _ h' => h'
    · exact h
  · exact h

theorem handle_keeps (path : Path) (request : Request) (originAllowed : Bool) (body : Body)
    (h : Inv env c) : (handle env path request originAllowed body).wp c (.always (Inv env)) := by
  unfold handle
  split_ifs
  · exact (session_spec request).bind_always fun _ _ hsession => h.drops hsession.1.toDrops
  · exact h
  · cases request.origin with
    | none => exact h
    | some origin =>
      dsimp only
      split_ifs
      · exact h
      · exact wp_catch.2 (login_keeps path request origin body h)

theorem Inv.step (h : Inv env c) (event : Event) : Inv env (c.step env event) := by
  cases event with
  | handle path request originAllowed body =>
    exact wp_always_world (handle_keeps path request originAllowed body h)
  | attach request websocket =>
    refine wp_always_world (?_ : (ConsoleSessions.attach env request websocket).wp c _)
    unfold ConsoleSessions.attach
    split_ifs
    · exact h
    · exact (session_spec request).bind_always fun _ _ hsession => h.drops hsession.1.toDrops
  | control authorization =>
    refine wp_always_world (?_ : (controlPrincipal env authorization).wp c _)
    exact (refresh_spec false).bind_always fun _ _ hreads => h.reads hreads.1
  | refresh force => exact wp_always_world ((refresh_spec force).always fun _ _ hreads => h.reads hreads.1)

theorem Inv.start (credentials : CredentialState) : Inv env (.start credentials) := by
  constructor <;> simp [Console.start]

end codes

/-! ## Safety -/

/-- What holds in every state of a console. -/
structure SessionsSafe (env : Env) (c : Console) : Prop where
  /-- No code was exchanged twice. -/
  once : (c.exchanged.map Exchange.code).Nodup
  /-- A code was exchanged from the origin that it was minted for, which is only one. -/
  origin : ∀ e ∈ c.exchanged, ∀ origin, (e.code, origin) ∈ c.minted ↔ e.origin = origin
  sessions : ∀ s ∈ c.sessions, ∃ e ∈ c.exchanged, e.session = s.1 ∧ e.origin = s.2.origin
  /-- A request without an authorization of its own, which is given what its session is
      good for and is asked for a control principal later on. -/
  csrf : ∀ request websocket result c₁ later p c₃, given request.authorization = false →
    (attach env request websocket).run c = .returned result c₁ →
    (controlPrincipal env (header request result)).run (List.foldl (Console.step env) c₁ later) =
      .returned (true, some p) c₃ →
    ∃ entry, ReliesOn env c c₁ request entry ∧ (Presents request entry ∨
      RoleChanged env c c₁ (List.foldl (Console.step env) c₁ later) entry.observation)

theorem Inv.safe {env : Env} {c : Console} (h : Inv env c) : SessionsSafe env c where
  once := h.once
  origin e he origin := by
    constructor
    · intro hminted
      have hlookup := Keyed.lookup_of_mem h.mintedOnce (h.exchanged e he)
      rw [Keyed.lookup_of_mem h.mintedOnce hminted] at hlookup
      exact (Option.some.inj hlookup).symm
    · rintro rfl
      exact h.exchanged e he
  sessions := h.sessions
  csrf _ _ _ _ _ _ _ hown hattach hcontrol := presents_of_principal hown hattach hcontrol

/-- Whatever is asked of a console, a code is exchanged for at most one session, from the
    origin that it was minted for, and a request is from a control principal by its cookie
    only if it also has the CSRF token and, unless it is a `GET`, the origin of its session,
    or if its observation token has become a control token since `attach`. -/
theorem console_sessions_safe (env : Env) (credentials : CredentialState) (events : List Event) :
    ∀ c ∈ Runs.states (Console.step env) (.start credentials) events, SessionsSafe env c := by
  intro c hc
  have hinv : Inv env c :=
    Runs.forall_states (fun _ event h => h.step event) (Inv.start credentials) c hc
  exact hinv.safe

/-! A token that is the operator's after it was the observer's. -/

namespace Sample

def secret (c : Char) : Bytes := List.replicate 32 (ascii c)

def contents (observer operator : Char) : Contents := fun ref =>
  some ⟨fun _ => some (secret (if ref = text "observer" then observer else operator)), fun _ => none⟩

def policy : Policy := ⟨.together true, [], [], []⟩

def random (k : ℕ) : Text := List.replicate (k + 1) (unit 'x')

theorem random_injective : Function.Injective random := by
  intro k k' h
  have hlength := congrArg length h
  simpa [random] using hlength

/-- The tokens are replaced before the fourth reading. -/
def env : Env where
  mode := .staged sampleLoaded
  digest := widen
  cookieName := text "graphx_session"
  moment i := ⟨⟨if i < 3 then contents 'a' 'b' else contents 'c' 'a', 0, 0⟩, policy⟩
  clock _ := 0
  random := random
  random_injective := random_injective

def request (method url : String) : Request where
  url := text url
  method := text method
  authorization := none
  cookie := none
  origin := some (text "http://localhost")
  secFetchSite := none
  csrf := none
  contentType := some (text "application/json")

/-- An observer logs in. -/
def events : List Event := [
  .handle .handoff { request "POST" "/api/console/handoff" with
    authorization := some (bearer (widen (secret 'a'))) } true (.document (.obj [])),
  .handle .session (request "POST" "/api/console/session") true
    (.document (.obj [(text "code", .str (random 0))]))]

def credentials : CredentialState := { sampleCredentials with staged := .withdrawn none }

/-- The target is parsed as `/api/control/commands`. -/
def command : Request :=
  { request "POST" "/api/./control/commands" with cookie := some (text "graphx_session=xx") }

end Sample

theorem console_sessions_safe_login : SessionsSafe Sample.env
    (foldl (Console.step Sample.env) (.start Sample.credentials) Sample.events) :=
  console_sessions_safe Sample.env Sample.credentials Sample.events _ (.tail _ (.tail _ (.head _)))

/-- A command without a CSRF token: `attach` gives it the observer's token, which the next
    reading of the credentials finds to be the operator's.  With the target as it is parsed
    the same command is refused. -/
theorem command_without_csrf :
    Sample.command.authorization = none ∧ Sample.command.csrf = none ∧
    (∃ attachment c₁ p c₃,
      (attach Sample.env Sample.command false).run
        (List.foldl (Console.step Sample.env) (.start Sample.credentials) Sample.events) =
          .returned (some attachment) c₁ ∧
      (controlPrincipal Sample.env (header Sample.command (some attachment))).run c₁ =
        .returned (true, some p) c₃) ∧
    ∃ c₁ c₃,
      (attach Sample.env { Sample.command with url := text "/api/control/commands" } false).run
        (List.foldl (Console.step Sample.env) (.start Sample.credentials) Sample.events) =
          .returned none c₁ ∧
      (controlPrincipal Sample.env (header Sample.command none)).run c₁ =
        .returned (true, none) c₃ :=
  ⟨rfl, rfl, ⟨_, _, _, _, rfl, rfl⟩, _, _, rfl, rfl⟩

end GraphX.ConsoleSessions
