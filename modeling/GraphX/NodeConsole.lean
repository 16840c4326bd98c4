/-
  Serial consoles of guests (`apps/telemetry/node-console.mjs`).

  A `NodeConsole` keeps a session for the serial socket of each guest that is looked at,
  and in the session the lease of the only writer.  Commands, views, sweeps and the events
  of the sockets come in any order.  What is read of the snapshot file and of the socket
  file is given with each call, whatever it is; so is every reading of the clock, and
  nothing relates one reading to another.

  The `trail` of a console is not in the source: it says which leases were granted, used
  and released, and what was written, with the readings of the sweep made just before.
  The bytes that come from a guest are left out.

  * **`writes_leased`**: what is written is written for the holder of the lease.
-/
import GraphX.Security
import GraphX.Lib.Triple
import GraphX.Lib.Lease
import GraphX.Lib.Runs
import Mathlib.Data.List.AList

namespace GraphX.NodeConsole

open Ecma Imperative Imperative.Act Lease

/-! ## Snapshots and sessions -/

structure Failure where
  /-- The status of the response, if it was given one. -/
  status : Option ℕ
  message : String
  deriving DecidableEq, Repr

inductive Status where
  | running
  | stopped
  | unavailable
  deriving DecidableEq, Repr

/-- What `read` returns of a snapshot. -/
structure Snapshot where
  generation : Text
  runtime : Text
  status : Status
  stale : Bool
  serialIdentity : Option Text

def Snapshot.guest (v : Snapshot) : Text := v.generation ++ text ":" ++ v.runtime

/-- What `endpointStat` returns. -/
structure Endpoint where
  isSocket : Bool
  uid : ℕ
  identity : Text

/-- What is seen of a node: the results of `read` and of `endpointStat`, or what they throw. -/
structure Sight where
  read : Except Failure Snapshot
  endpoint : Except Failure Endpoint

def Endpoint.matches (e : Endpoint) (v : Snapshot) : Bool :=
  e.isSocket && e.uid = 65532 && some e.identity = v.serialIdentity

structure Writer where
  lease : Text
  actor : Text
  credential : Text
  expires : ℤ
  deadline : ℤ

structure Session where
  socket : ℕ
  generation : Text
  connected : Bool
  last : ℤ
  writer : Option Writer

/-- A lease as it was granted. -/
structure Grant where
  generation : Text
  lease : Text
  actor : Text
  credential : Text
  /-- The clock when the deadline was set. -/
  since : ℤ

/-- Bytes written to a socket, and on whose behalf. -/
structure Write where
  socket : ℕ
  bytes : Bytes
  generation : Text
  lease : Text
  actor : Text
  credential : Text
  /-- The clock when the sweep of this call compared `expires`. -/
  expiresSwept : ℤ
  /-- The clock when the sweep of this call compared `deadline`. -/
  deadlineSwept : ℤ
  /-- The answer of `validWriter` in the sweep of this call. -/
  valid : Bool
  /-- The sweep of this call saw a running guest of the generation. -/
  confirmed : Bool

structure Console where
  sessions : AList fun _ : Text => Session
  /-- The number of sockets that were opened. -/
  sockets : ℕ
  trail : Trail Text Grant Write

def start : Console := ⟨∅, 0, []⟩

/-! ## Readings -/

structure SweepReading where
  idle : ℤ
  expires : ℤ
  deadline : ℤ
  validWriter : Text → Bool
  sight : Sight

abbrev SweepMoment := Text → SweepReading

/-- What `serial` reads. -/
structure SerialMoment where
  sight : Sight
  last : ℤ

/-- What a command reads, and what it draws from `randomBytes`. -/
structure CommandMoment where
  sweep : SweepMoment
  serial : SerialMoment
  lease : Text
  expires : ℤ
  deadline : ℤ
  writableLength : ℕ

/-! ## Sessions -/

/-- The trail after the writer of a session is released. -/
def releaseTrail (node : Text) (s : Session) (trail : Trail Text Grant Write) :
    Trail Text Grant Write :=
  if s.writer.isSome then .released node :: trail else trail

def put (node : Text) (s : Session) (c : Console) : Console :=
  { c with sessions := c.sessions.insert node s }

/-- One more step on the trail. -/
def note (r : Record Text Grant Write) (c : Console) : Console := { c with trail := r :: c.trail }

def release (node : Text) (s : Session) (c : Console) : Console :=
  { put node { s with writer := none } c with trail := releaseTrail node s c.trail }

def drop (node : Text) (c : Console) : Console :=
  match c.sessions.lookup node with
  | none => c
  | some s => { c with sessions := c.sessions.erase node, trail := releaseTrail node s c.trail }

/-- The snapshot and the socket are those of a running guest of this generation. -/
def Sight.confirms (sight : Sight) (generation : Text) : Bool :=
  match sight.read, sight.endpoint with
  | .ok v, .ok e => e.matches v && !v.stale && v.status = .running && v.guest = generation
  | _, _ => false

/-- The writer is too late, or revoked. -/
def SweepReading.expired (r : SweepReading) (w : Writer) : Bool :=
  w.expires < r.expires || w.deadline < r.deadline || !r.validWriter w.credential

/-- One turn of the loop of `sweep`. -/
def sweepNode (m : SweepMoment) (c : Console) (node : Text) : Console :=
  match c.sessions.lookup node with
  | none => c
  | some s =>
    if s.last + 30000 < (m node).idle then drop node c
    else
      let c := if s.writer.any (m node).expired then release node s c else c
      if (m node).sight.confirms s.generation then c else drop node c

def sweep (m : SweepMoment) (c : Console) : Console := c.sessions.keys.foldl (sweepNode m) c

abbrev Serial := Act Console Failure

/-- Go on only under a condition. -/
def demand (b : Bool) (status : ℕ) (message : String) : Serial Unit :=
  if b then pure () else throw ⟨some status, message⟩

def ofExcept {α : Type} : Except Failure α → Serial α
  | .ok a => pure a
  | .error e => throw e

def openSession (m : SerialMoment) (node : Text) (log : Snapshot) : Serial Session := do
  let c ← get
  demand (decide (c.sessions.keys.length < 64)) 429 "serial connection capacity reached"
  let stat ← ofExcept m.sight.endpoint
  demand (stat.matches log) 503 "serial endpoint unavailable"
  let session : Session := ⟨c.sockets, log.guest, false, m.last, none⟩
  modify fun c => { put node session c with sockets := c.sockets + 1 }
  return session

def serial (kind : Text → Option Text) (m : SerialMoment) (node : Text) : Serial Session := do
  demand (decide (kind node = some (text "qemu"))) 400 "serial access requires a QEMU node"
  let log ← ofExcept m.sight.read
  demand (!log.stale && log.status = .running) 503 "guest is not available"
  let c ← get
  onlyIf ((c.sessions.lookup node).any fun s => s.generation ≠ log.guest) (modify (drop node))
  let c ← get
  match c.sessions.lookup node with
  | some session =>
    modify (put node { session with last := m.last })
    return { session with last := m.last }
  | none => openSession m node log

/-! ## Commands -/

inductive SerialAction where
  | acquire
  | renew
  | input
  | release
  deriving DecidableEq, Repr

def bodyKeys : List Text := [text "action", text "generation", text "lease", text "hex"]

/-- The body is an object with no other keys; a number has none. -/
def validBody (body : Json) : Bool :=
  truthy (some body) && match body with
    | .arr _ | .str _ => false
    | .obj members => members.all fun m => bodyKeys.contains m.1
    | _ => true

def serialAction (body : Json) : Option SerialAction :=
  match body.get (text "action") with
  | some (.str s) =>
    if s = text "acquire" then some .acquire
    else if s = text "renew" then some .renew
    else if s = text "input" then some .input
    else if s = text "release" then some .release
    else none
  | _ => none

/-- A member of the body that is a string. -/
def bodyText (body : Json) (key : Text) : Option Text :=
  match body.get key with
  | some (.str s) => some s
  | _ => none

/-- `/^(?:[a-f0-9]\x7b2\x7d)\x7b1,4096\x7d$/` -/
def validInput (hex : Text) : Bool :=
  hex.all isLowerHex && hex.length % 2 = 0 && 0 < hex.length && hex.length ≤ 8192

inductive Reply where
  | acquired (lease generation : Text) (expires : ℤ)
  | released
  | accepted (expires : ℤ)

/-- The lease of a new writer, and when it ends. -/
def acquire (m : CommandMoment) (node : Text) (s : Session) (principal credential : Text)
    (sessionExpires : Option ℤ) : Serial Reply := do
  demand s.writer.isNone 409 "serial writer already held"
  let deadline := (sessionExpires.map (min (m.deadline + 900000))).getD (m.deadline + 900000)
  let writer : Writer := ⟨m.lease, principal, credential, m.expires + 10000, deadline⟩
  let grant : Grant := ⟨s.generation, m.lease, principal, credential, m.deadline⟩
  modify fun c =>
    note (.used node m.expires) (note (.granted node grant) (put node { s with writer := some writer } c))
  return .acquired m.lease s.generation writer.expires

/-- The bytes of an `input`. -/
def writeInput (m : CommandMoment) (node : Text) (s : Session) (body : Json)
    (principal credential : Text) : Serial Unit := do
  let hex := (bodyText body (text "hex")).getD []
  demand (validInput hex) 400 "invalid serial input"
  demand (decide (m.writableLength ≤ 8192)) 429 "serial input backpressure"
  let write : Write :=
    { socket := s.socket, bytes := hexBuffer hex, generation := s.generation,
      lease := (bodyText body (text "lease")).getD [], actor := principal, credential,
      expiresSwept := (m.sweep node).expires, deadlineSwept := (m.sweep node).deadline,
      valid := (m.sweep node).validWriter credential,
      confirmed := (m.sweep node).sight.confirms s.generation }
  modify (note (.exercised node write))

def commandWriter (m : CommandMoment) (node : Text) (s : Session) (writer : Writer) (body : Json)
    (action : SerialAction) (principal credential : Text) : Serial Reply := do
  demand (decide (writer.actor = principal ∧ bodyText body (text "lease") = some writer.lease ∧
    credential = writer.credential)) 403 "serial writer lease required"
  if action = .release then
    modify (release node s)
    return .released
  else
    onlyIf (action = .input) (writeInput m node s body principal credential)
    let renewed : Writer := { writer with expires := m.expires + 10000 }
    modify fun c => note (.used node m.expires) (put node { s with writer := some renewed } c)
    return .accepted renewed.expires

def command (kind : Text → Option Text) (m : CommandMoment) (node : Text) (body : Json)
    (principal credential : Text) (sessionExpires : Option ℤ) : Serial Reply := do
  demand (validBody body) 400 "invalid serial request"
  match serialAction body with
  | none => throw ⟨some 400, "unknown serial operation"⟩
  | some action =>
    modify (sweep m.sweep)
    let s ← serial kind m.serial node
    demand (decide (bodyText body (text "generation") = some s.generation)) 409
      "guest generation changed"
    demand s.connected 503 "serial connection is not ready"
    if action = .acquire then acquire m node s principal credential sessionExpires
    else
      match s.writer with
      | none => throw ⟨some 403, "serial writer lease required"⟩
      | some writer => commandWriter m node s writer body action principal credential

/-! ## Events -/

inductive Event where
  | command (m : CommandMoment) (node : Text) (body : Json) (principal credential : Text)
      (sessionExpires : Option ℤ)
  | view (m : SerialMoment) (node : Text)
  | sweep (m : SweepMoment)
  /-- The socket of a session of the node is connected. -/
  | connect (node : Text) (socket : ℕ)
  /-- A socket that was opened for the node failed. -/
  | error (node : Text)
  | close (node : Text) (socket : ℕ)
  /-- `close()` of the console. -/
  | shutdown

def current (c : Console) (node : Text) (socket : ℕ) : Option Session :=
  (c.sessions.lookup node).filter (·.socket = socket)

def step (kind : Text → Option Text) (c : Console) : Event → Console
  | .command m node body principal credential sessionExpires =>
    ((command kind m node body principal credential sessionExpires).run c).world
  | .view m node => ((serial kind m node).run c).world
  | .sweep m => sweep m c
  | .connect node socket =>
    match current c node socket with
    | some s => put node { s with connected := true } c
    | none => c
  | .error node => drop node c
  | .close node socket => if (current c node socket).isSome then drop node c else c
  | .shutdown => c.sessions.keys.foldl (fun c node => drop node c) c

/-! ## Who holds the lease of a node -/

def lease (c : Console) (node : Text) : Option (Text × Writer) :=
  (c.sessions.lookup node).bind fun s => s.writer.map (s.generation, ·)

/-- The trail knows the grant of this lease, and its last use. -/
structure Holds (trail : Trail Text Grant Write) (node generation : Text) (w : Writer) : Prop where
  grant : ∃ g, holder trail node = some g ∧ g.generation = generation ∧ g.lease = w.lease ∧
    g.actor = w.actor ∧ g.credential = w.credential ∧ w.deadline ≤ g.since + 900000
  use : ∃ t, lastUse trail node = some t ∧ w.expires = t + 10000

/-- What is written is written for the holder of the lease of the node: the caller and the
    credential to whom it was granted, for the same generation, not more than 15 minutes
    before the last sweep, and used not more than 10 seconds before it. -/
structure Leased (trail : Trail Text Grant Write) (node : Text) (w : Write) : Prop where
  grant : ∃ g, holder trail node = some g ∧ g.generation = w.generation ∧ g.lease = w.lease ∧
    g.actor = w.actor ∧ g.credential = w.credential ∧ w.deadlineSwept ≤ g.since + 900000
  use : ∃ t, lastUse trail node = some t ∧ w.expiresSwept ≤ t + 10000
  valid : w.valid = true
  confirmed : w.confirmed = true

/-- The trail and the session agree on the lease. -/
def Agrees (trail : Trail Text Grant Write) (node : Text) : Option (Text × Writer) → Prop
  | none => holder trail node = none
  | some (generation, w) => Holds trail node generation w

structure Inv (c : Console) : Prop where
  agrees : ∀ node, Agrees c.trail node (lease c node)
  leased : Each Leased c.trail

section sessions

variable {c c' : Console} {node n : Text} {s : Session} {trail : Trail Text Grant Write}
  {r : Record Text Grant Write} {l : Option (Text × Writer)} {w : Writer}

@[simp] theorem lease_note : lease (note r c) node = lease c node := rfl

@[simp] theorem lookup_put : (put n s c).sessions.lookup n = some s := AList.lookup_insert _

theorem lookup_put_ne (h : node ≠ n) : (put n s c).sessions.lookup node = c.sessions.lookup node :=
  AList.lookup_insert_ne h

@[simp] theorem lookup_drop : (drop n c).sessions.lookup n = none := by
  unfold drop
  split
  · assumption
  · exact AList.lookup_erase _ _

theorem lookup_drop_ne (h : node ≠ n) : (drop n c).sessions.lookup node = c.sessions.lookup node := by
  unfold drop
  split
  · rfl
  · exact AList.lookup_erase_ne h

theorem lease_eq (h : c.sessions.lookup n = some s) : lease c n = s.writer.map (s.generation, ·) := by
  rw [lease, h, Option.bind_some]

theorem Agrees.cons_of_ne (h : Agrees trail node l) (hne : r.key ≠ node) :
    Agrees (r :: trail) node l := by
  rcases l with _ | ⟨generation, w⟩
  · exact (holder_cons_of_ne hne).trans h
  · obtain ⟨hgrant, huse⟩ := h
    exact ⟨by rwa [holder_cons_of_ne hne], by rwa [lastUse_cons_of_ne hne]⟩

theorem Agrees.releaseTrail_of_ne (h : Agrees trail node l) (hne : n ≠ node) :
    Agrees (releaseTrail n s trail) node l := by
  unfold releaseTrail
  split_ifs
  · exact h.cons_of_ne hne
  · exact h

theorem Agrees.releaseTrail_self (h : Agrees trail n (s.writer.map (s.generation, ·))) :
    Agrees (releaseTrail n s trail) n none := by
  unfold releaseTrail
  rcases hw : s.writer with _ | w
  · rw [hw] at h
    exact h
  · exact holder_released

theorem each_releaseTrail (h : Each Leased trail) : Each Leased (releaseTrail n s trail) := by
  unfold releaseTrail
  split_ifs <;> exact h

theorem Inv.change (h : Inv c) (n : Text)
    (hother : ∀ node, node ≠ n → c'.sessions.lookup node = c.sessions.lookup node)
    (htrail : ∀ node, node ≠ n → ∀ l, Agrees c.trail node l → Agrees c'.trail node l)
    (hself : Agrees c'.trail n (lease c' n)) (hleased : Each Leased c'.trail) : Inv c' := by
  refine ⟨fun node => ?_, hleased⟩
  by_cases hn : node = n
  · rw [hn]
    exact hself
  · have hlease : lease c' node = lease c node := by rw [lease, lease, hother node hn]
    rw [hlease]
    exact htrail node hn _ (h.agrees node)

theorem Inv.drop (h : Inv c) (n : Text) : Inv (drop n c) := by
  rcases hs : c.sessions.lookup n with _ | s
  · rw [NodeConsole.drop, hs]
    exact h
  · have htrail : (NodeConsole.drop n c).trail = releaseTrail n s c.trail := by
      rw [NodeConsole.drop, hs]
    have hagrees := h.agrees n
    rw [lease_eq hs] at hagrees
    refine h.change n (fun node hne => lookup_drop_ne hne) ?_ ?_ ?_
    · intro node hne l hl
      rw [htrail]
      exact hl.releaseTrail_of_ne hne.symm
    · rw [htrail, lease, lookup_drop]
      exact hagrees.releaseTrail_self
    · rw [htrail]
      exact each_releaseTrail h.leased

theorem Inv.release (h : Inv c) (hs : lease c n = s.writer.map (s.generation, ·)) :
    Inv (release n s c) := by
  have hagrees := h.agrees n
  rw [hs] at hagrees
  refine h.change n (fun node hne => lookup_put_ne hne) ?_ ?_ (each_releaseTrail h.leased)
  · intro node hne l hl
    exact hl.releaseTrail_of_ne hne.symm
  · have hnone : lease (NodeConsole.release n s c) n = none := by
      exact (congrArg (Option.bind · _) lookup_put).trans rfl
    rw [hnone]
    exact hagrees.releaseTrail_self

theorem Inv.put (h : Inv c) (hs : s.writer.map (s.generation, ·) = lease c n) : Inv (put n s c) := by
  refine h.change n (fun node hne => lookup_put_ne hne) (fun node _ l hl => hl) ?_ h.leased
  rw [lease_eq lookup_put, hs]
  exact h.agrees n

end sessions

/-! ## Sweeps -/

/-- What a sweep leaves: the guest is confirmed, and the writer is in time. -/
structure Checked (r : SweepReading) (s : Session) : Prop where
  confirmed : r.sight.confirms s.generation = true
  writer : ∀ w, s.writer = some w → r.expired w = false

section sweep

variable {m : SweepMoment} {c : Console} {node n : Text} {s : Session}

/-- **One turn of the sweep**: the node is dropped, or its writer released, or nothing
    changes. -/
theorem sweepNode_cases (m : SweepMoment) (c : Console) (n : Text) :
    (sweepNode m c n = drop n c) ∨
    (∃ s, c.sessions.lookup n = some s ∧ (m n).sight.confirms s.generation = true ∧
      ((sweepNode m c n = release n s c) ∨
        (sweepNode m c n = c ∧ ∀ w, s.writer = some w → (m n).expired w = false))) ∨
    ∃ s, c.sessions.lookup n = some s ∧ sweepNode m c n = drop n (release n s c) := by
  unfold sweepNode
  rcases hs : c.sessions.lookup n with _ | s
  · left
    rw [drop, hs]
  by_cases hidle : s.last + 30000 < (m n).idle
  · left
    simp only [hidle, if_true]
  simp only [hidle, if_false]
  by_cases hexpired : s.writer.any (m n).expired = true
  · rw [if_pos hexpired]
    split_ifs with hconfirms
    · exact Or.inr (Or.inl ⟨s, rfl, hconfirms, Or.inl rfl⟩)
    · exact Or.inr (Or.inr ⟨s, rfl, rfl⟩)
  · rw [if_neg hexpired]
    split_ifs with hconfirms
    · refine Or.inr (Or.inl ⟨s, rfl, hconfirms, Or.inr ⟨rfl, ?_⟩⟩)
      intro w hw
      rw [hw] at hexpired
      exact Bool.eq_false_iff.2 hexpired
    · exact Or.inl rfl

theorem lookup_release : (release n s c).sessions.lookup n = some { s with writer := none } :=
  lookup_put

theorem lookup_release_ne (h : node ≠ n) :
    (release n s c).sessions.lookup node = c.sessions.lookup node := lookup_put_ne h

theorem sweepNode_ne (h : node ≠ n) :
    (sweepNode m c n).sessions.lookup node = c.sessions.lookup node := by
  rcases sweepNode_cases m c n with heq | ⟨s, -, -, heq | ⟨heq, -⟩⟩ | ⟨s, -, heq⟩
  · rw [heq, lookup_drop_ne h]
  · rw [heq, lookup_release_ne h]
  · rw [heq]
  · rw [heq, lookup_drop_ne h, lookup_release_ne h]

theorem sweepNode_checked (h : (sweepNode m c n).sessions.lookup n = some s) : Checked (m n) s := by
  rcases sweepNode_cases m c n with heq | ⟨t, ht, hconfirms, heq | ⟨heq, hwriter⟩⟩ | ⟨t, -, heq⟩
  · rw [heq, lookup_drop] at h
    cases h
  · rw [heq, lookup_release] at h
    cases h
    exact ⟨hconfirms, by simp⟩
  · rw [heq, ht] at h
    cases h
    exact ⟨hconfirms, hwriter⟩
  · rw [heq, lookup_drop] at h
    cases h

theorem Inv.sweepNode (h : Inv c) (m : SweepMoment) (n : Text) : Inv (sweepNode m c n) := by
  have hrelease : ∀ s, c.sessions.lookup n = some s → Inv (NodeConsole.release n s c) :=
    fun s hs => h.release (lease_eq hs)
  rcases sweepNode_cases m c n with heq | ⟨s, hs, -, heq | ⟨heq, -⟩⟩ | ⟨s, hs, heq⟩
  · rw [heq]
    exact h.drop n
  · rw [heq]
    exact hrelease s hs
  · rw [heq]
    exact h
  · rw [heq]
    exact (hrelease s hs).drop n

theorem Inv.sweep (h : Inv c) (m : SweepMoment) : Inv (sweep m c) := by
  unfold NodeConsole.sweep
  generalize c.sessions.keys = nodes
  induction nodes generalizing c with
  | nil => exact h
  | cons n nodes ih => exact ih (h.sweepNode m n)

/-- The nodes of a list are checked by the turns for them; the others are as before. -/
theorem foldl_sweepNode (m : SweepMoment) (nodes : List Text) (c : Console) (node : Text) :
    (node ∈ nodes → ∀ s, (nodes.foldl (sweepNode m) c).sessions.lookup node = some s →
      Checked (m node) s) ∧
    (node ∉ nodes →
      (nodes.foldl (sweepNode m) c).sessions.lookup node = c.sessions.lookup node) := by
  induction nodes generalizing c with
  | nil => exact ⟨by simp, fun _ => rfl⟩
  | cons n nodes ih =>
    rw [List.foldl_cons]
    obtain ⟨hin, hout⟩ := ih (sweepNode m c n)
    constructor
    · intro hmem s hs
      by_cases hrest : node ∈ nodes
      · exact hin hrest s hs
      · obtain rfl := (List.mem_cons.1 hmem).resolve_right hrest
        rw [hout hrest] at hs
        exact sweepNode_checked hs
    · intro hmem
      rw [List.mem_cons, not_or] at hmem
      rw [hout hmem.2, sweepNode_ne hmem.1]

/-- **Every session that a sweep leaves is checked.** -/
theorem sweep_checked (h : (sweep m c).sessions.lookup node = some s) : Checked (m node) s := by
  obtain ⟨hin, hout⟩ := foldl_sweepNode m c.sessions.keys c node
  by_cases hmem : node ∈ c.sessions.keys
  · exact hin hmem s h
  · rw [sweep, hout hmem, AList.lookup_eq_none.2 hmem] at h
    cases h

end sweep

/-! ## Calls -/

section calls

variable {c : Console} {node : Text} {α β : Type} {Q : Post Console Failure β}

theorem wp_demand_bind {b : Bool} {status : ℕ} {message : String} {f : Unit → Serial β}
    (htrue : b = true → (f ()).wp c Q) (hfalse : b = false → ∀ e, Q.threw e c) :
    (demand b status message >>= f).wp c Q := by
  cases b with
  | true => exact htrue rfl
  | false => exact hfalse rfl _

theorem wp_ofExcept_bind {x : Except Failure α} {f : α → Serial β}
    (hok : ∀ a, x = .ok a → (f a).wp c Q) (herror : ∀ e, x = .error e → Q.threw e c) :
    (ofExcept x >>= f).wp c Q := by
  cases x with
  | ok a => exact hok a rfl
  | error e => exact herror e rfl

/-- The session of the node, if there is one, is of this generation. -/
def Current (generation node : Text) (c : Console) : Prop :=
  ∀ s, c.sessions.lookup node = some s → s.generation = generation

theorem current_put {generation : Text} {s : Session} (h : s.generation = generation) :
    Current generation node (put node s c) := by
  intro t ht
  rw [lookup_put] at ht
  exact Option.some.inj ht ▸ h

/-- `serial` reads the snapshot of a running guest. -/
structure Reads (kind : Text → Option Text) (m : SerialMoment) (node : Text) (log : Snapshot) :
    Prop where
  kind : kind node = some (text "qemu")
  read : m.sight.read = .ok log
  running : (!log.stale && log.status = .running) = true

/-- What `serial` leaves: it has discarded the session of another generation, whether it goes
    on to open a new one or fails. -/
structure Leaves (kind : Text → Option Text) (m : SerialMoment) (node : Text) (c' : Console) :
    Prop where
  inv : Inv c'
  current : ∀ log, Reads kind m node log → Current log.guest node c'

/-- What `serial` returns: the session of the node, of the generation that was read; its
    writer, if there is one, was there before. -/
structure Returns (m : SerialMoment) (node : Text) (c : Console) (s : Session) (c' : Console) :
    Prop where
  inv : Inv c'
  session : c'.sessions.lookup node = some s
  generation : ∃ log, m.sight.read = .ok log ∧ log.guest = s.generation
  writer : ∀ w, s.writer = some w → ∃ t, c.sessions.lookup node = some t ∧ t.writer = some w ∧
    t.generation = s.generation

theorem Returns.guest {kind : Text → Option Text} {m : SerialMoment} {s : Session} {c' : Console}
    (h : Returns m node c s c') {log : Snapshot} (hreads : Reads kind m node log) :
    s.generation = log.guest := by
  obtain ⟨log', hlog', heq⟩ := h.generation
  rw [← heq, Except.ok.inj (hlog'.symm.trans hreads.read)]

theorem Returns.leaves {kind : Text → Option Text} {m : SerialMoment} {s : Session} {c' : Console}
    (h : Returns m node c s c') : Leaves kind m node c' where
  inv := h.inv
  current _ hreads _ ht := Option.some.inj (h.session.symm.trans ht) ▸ h.guest hreads

theorem serial_spec (kind : Text → Option Text) (m : SerialMoment) (node : Text) (h : Inv c) :
    (serial kind m node).wp c ⟨Returns m node c, fun _ => Leaves kind m node, Leaves kind m node⟩ := by
  refine wp_demand_bind (fun _ => ?_) fun hno _ => ⟨h, fun log hr => by simp [hr.kind] at hno⟩
  refine wp_ofExcept_bind (fun log hlog => ?_) fun e he => ⟨h, fun log hr => nomatch he.symm.trans hr.read⟩
  refine wp_demand_bind (fun _ => ?_) fun hno _ => ⟨h, fun log' hr => ?_⟩
  case refine_2 =>
    rw [Except.ok.inj (hlog.symm.trans hr.read), hr.running] at hno
    cases hno
  rw [wp_get_bind]
  have hopen : ∀ c, Inv c → c.sessions.lookup node = none → (openSession m node log).wp c
      ⟨Returns m node c, fun _ => Leaves kind m node, Leaves kind m node⟩ := by
    intro c h hnone
    have hleaves : Leaves kind m node c := ⟨h, fun _ _ s hs => nomatch hnone.symm.trans hs⟩
    unfold openSession
    refine wp_demand_bind (fun _ => ?_) fun _ _ => hleaves
    refine wp_ofExcept_bind (fun stat _ => ?_) fun _ _ => hleaves
    refine wp_demand_bind (fun _ => ?_) fun _ _ => hleaves
    have hput : Inv (NodeConsole.put node ⟨c.sockets, log.guest, false, m.last, none⟩ c) :=
      h.put (by rw [lease, hnone]; rfl)
    exact ⟨⟨hput.agrees, hput.leased⟩, lookup_put, ⟨log, hlog, rfl⟩, by simp⟩
  rcases hs : c.sessions.lookup node with _ | s
  · rw [Option.any_none, onlyIf_false, wp_pure_bind, wp_get_bind, hs]
    exact hopen c h hs
  by_cases hgeneration : s.generation = log.guest
  · have hsame : (some s).any (fun s => decide (s.generation ≠ log.guest)) = false := by
      simp [hgeneration]
    rw [hsame, onlyIf_false, wp_pure_bind, wp_get_bind, hs]
    exact ⟨h.put (lease_eq hs).symm, lookup_put, ⟨log, hlog, hgeneration.symm⟩,
      fun w hw => ⟨s, hs, hw, rfl⟩⟩
  · have hother : (some s).any (fun s => decide (s.generation ≠ log.guest)) = true := by
      simp [hgeneration]
    rw [hother, onlyIf_true, wp_modify_bind, wp_get_bind, lookup_drop]
    refine wp_mono (hopen (drop node c) (h.drop node) lookup_drop) ?_ (fun _ _ => id) fun _ => id
    intro t c' hreturns
    refine ⟨hreturns.inv, hreturns.session, hreturns.generation, fun w hw => ?_⟩
    obtain ⟨t', ht', -⟩ := hreturns.writer w hw
    rw [lookup_drop] at ht'
    cases ht'

/-! ## Commands keep the invariant -/

variable {m : CommandMoment} {s : Session} {principal credential : Text} {body : Json}
  {action : SerialAction} {writer : Writer}

theorem Inv.acquire (h : Inv c) (sessionExpires : Option ℤ) :
    (acquire m node s principal credential sessionExpires).wp c (.always Inv) := by
  refine wp_demand_bind (fun _ => ?_) fun _ _ => h
  refine h.change node (fun n hne => lookup_put_ne hne) ?_ ?_ h.leased
  · intro n hne l hl
    refine Agrees.cons_of_ne ?_ hne.symm
    exact hl.cons_of_ne hne.symm
  · rw [lease_note, lease_note, lease_eq lookup_put]
    refine ⟨⟨_, holder_granted, rfl, rfl, rfl, rfl, ?_⟩, _, lastUse_used, rfl⟩
    cases sessionExpires with
    | none => exact le_rfl
    | some e => exact min_le_left _ _

/-- What the sweep and the session say of the writer of an `input`. -/
theorem Holds.leased (h : Holds c.trail node s.generation writer)
    (hswept : (m.sweep node).expired writer = false)
    (hconfirmed : (m.sweep node).sight.confirms s.generation = true)
    (hcaller : writer.actor = principal ∧ bodyText body (text "lease") = some writer.lease ∧
      credential = writer.credential) (bytes : Bytes) :
    Leased c.trail node ⟨s.socket, bytes, s.generation, (bodyText body (text "lease")).getD [],
      principal, credential, (m.sweep node).expires, (m.sweep node).deadline,
      (m.sweep node).validWriter credential, (m.sweep node).sight.confirms s.generation⟩ := by
  obtain ⟨hactor, hlease, hcredential⟩ := hcaller
  simp only [SweepReading.expired, Bool.or_eq_false_iff, decide_eq_false_iff_not, not_lt,
    Bool.not_eq_false'] at hswept
  obtain ⟨⟨hexpires, hdeadline⟩, hvalid⟩ := hswept
  obtain ⟨g, hg, hgeneration, hglease, hgactor, hgcredential, hsince⟩ := h.grant
  obtain ⟨t, ht, huse⟩ := h.use
  refine ⟨⟨g, hg, hgeneration, ?_, hgactor.trans hactor, hgcredential.trans hcredential.symm, ?_⟩,
    ⟨t, ht, ?_⟩, hcredential ▸ hvalid, hconfirmed⟩
  · rw [hglease, hlease, Option.getD_some]
  · exact hdeadline.trans hsince
  · exact huse ▸ hexpires

theorem Inv.renew (h : Inv c) (hs : c.sessions.lookup node = some s) (hwriter : s.writer = some writer)
    (expires : ℤ) : Inv (note (.used node expires) (NodeConsole.put node
      { s with writer := some { writer with expires := expires + 10000 } } c)) := by
  have hholds := h.agrees node
  rw [lease_eq hs, hwriter] at hholds
  obtain ⟨⟨g, hg, hgrant⟩, -⟩ := hholds
  refine h.change node (fun n hne => lookup_put_ne hne) ?_ ?_ h.leased
  · intro n hne l hl
    exact hl.cons_of_ne hne.symm
  · rw [lease_note, lease_eq lookup_put]
    exact ⟨⟨g, hg, hgrant⟩, _, lastUse_used, rfl⟩

theorem Inv.exercise (h : Inv c) (node : Text) {w : Write} (hw : Leased c.trail node w) :
    Inv (note (.exercised node w) c) := by
  refine ⟨fun n => ?_, hw, h.leased⟩
  have hagrees := h.agrees n
  rw [lease_note]
  rcases hlease : lease c n with _ | ⟨generation, writer⟩
  · rw [hlease] at hagrees
    exact hagrees
  · rw [hlease] at hagrees
    exact ⟨hagrees.grant, hagrees.use⟩

theorem Inv.commandWriter (h : Inv c) (hs : c.sessions.lookup node = some s)
    (hwriter : s.writer = some writer) (hswept : (m.sweep node).expired writer = false)
    (hconfirmed : (m.sweep node).sight.confirms s.generation = true) :
    (commandWriter m node s writer body action principal credential).wp c (.always Inv) := by
  refine wp_demand_bind (fun hcaller => ?_) fun _ _ => h
  split_ifs
  · exact h.release (lease_eq hs)
  cases hinput : decide (action = .input) with
  | false =>
    exact h.renew hs hwriter m.expires
  | true =>
    rw [wp_bind]
    refine wp_demand_bind (fun _ => ?_) fun _ _ => h
    refine wp_demand_bind (fun _ => ?_) fun _ _ => h
    have hholds := h.agrees node
    rw [lease_eq hs, hwriter] at hholds
    -- the bytes are on the trail of the lease before it is renewed
    have hwrote := hholds.leased hswept hconfirmed (of_decide_eq_true hcaller)
      (hexBuffer ((bodyText body (text "hex")).getD []))
    exact (h.exercise node hwrote).renew hs hwriter m.expires

theorem Inv.command (h : Inv c) (kind : Text → Option Text) (m : CommandMoment) (node : Text)
    (body : Json) (principal credential : Text) (sessionExpires : Option ℤ) :
    (command kind m node body principal credential sessionExpires).wp c (.always Inv) := by
  refine wp_demand_bind (fun _ => ?_) fun _ _ => h
  cases serialAction body with
  | none => exact h
  | some action =>
    rw [wp_modify_bind]
    have hsweep := h.sweep m.sweep
    refine wp_bind_of (serial_spec kind m.serial node hsweep) (fun s c' hs => ?_)
      (fun _ _ => Leaves.inv) fun _ => Leaves.inv
    refine wp_demand_bind (fun _ => ?_) fun _ _ => hs.inv
    refine wp_demand_bind (fun _ => ?_) fun _ _ => hs.inv
    split_ifs
    · exact hs.inv.acquire sessionExpires
    rcases hwriter : s.writer with _ | writer
    · exact hs.inv
    · -- the writer was there when the sweep checked the session
      obtain ⟨t, ht, htwriter, hgeneration⟩ := hs.writer writer hwriter
      have hchecked := sweep_checked ht
      exact hs.inv.commandWriter hs.session hwriter (hchecked.writer writer htwriter)
        (hgeneration ▸ hchecked.confirmed)

theorem Inv.command_current (h : Inv c) {kind : Text → Option Text} {log : Snapshot}
    (hreads : Reads kind m.serial node log) (hbody : validBody body = true)
    (haction : (serialAction body).isSome) (principal credential : Text)
    (sessionExpires : Option ℤ) :
    (NodeConsole.command kind m node body principal credential sessionExpires).wp c
      (.always (Current log.guest node)) := by
  obtain ⟨action, haction⟩ := Option.isSome_iff_exists.1 haction
  simp only [NodeConsole.command, demand, hbody, if_true, wp_pure_bind, haction, wp_modify_bind]
  refine wp_bind_of (serial_spec kind m.serial node (h.sweep m.sweep)) (fun s c' hs => ?_)
    (fun _ _ hs => hs.current log hreads) fun _ hs => hs.current log hreads
  have hgeneration := hs.guest hreads
  have hcurrent := hs.leaves.current log hreads
  refine wp_demand_bind (fun _ => ?_) fun _ _ => hcurrent
  refine wp_demand_bind (fun _ => ?_) fun _ _ => hcurrent
  split_ifs
  · exact wp_demand_bind (fun _ => current_put hgeneration) fun _ _ => hcurrent
  rcases s.writer with _ | writer
  · exact hcurrent
  refine wp_demand_bind (fun _ => ?_) fun _ _ => hcurrent
  split_ifs
  · exact current_put hgeneration
  cases decide (action = .input) with
  | false => exact current_put hgeneration
  | true =>
    rw [wp_bind]
    refine wp_demand_bind (fun _ => ?_) fun _ _ => hcurrent
    exact wp_demand_bind (fun _ => current_put hgeneration) fun _ _ => hcurrent

end calls

/-! ## Runs -/

section runs

variable {c : Console} {node : Text}

theorem current_eq_some {socket : ℕ} {s : Session} (h : current c node socket = some s) :
    c.sessions.lookup node = some s := (Option.filter_eq_some_iff.1 h).1

theorem Inv.step (h : Inv c) (kind : Text → Option Text) (e : Event) : Inv (step kind c e) := by
  cases e with
  | command m node body principal credential sessionExpires =>
    exact wp_always_world (h.command kind m node body principal credential sessionExpires)
  | view m node =>
    exact wp_always_world (wp_mono (serial_spec kind m node h) (fun _ _ => Returns.inv)
      (fun _ _ => Leaves.inv) fun _ => Leaves.inv)
  | sweep m => exact h.sweep m
  | connect node socket =>
    rw [NodeConsole.step]
    split
    · rename_i s hs
      exact h.put (lease_eq (current_eq_some hs)).symm
    · exact h
  | error node => exact h.drop node
  | close node socket =>
    rw [NodeConsole.step]
    split_ifs
    · exact h.drop node
    · exact h
  | shutdown =>
    rw [NodeConsole.step]
    generalize c.sessions.keys = nodes
    induction nodes generalizing c with
    | nil => exact h
    | cons n nodes ih => exact ih (h.drop n)

theorem inv_start : Inv start := ⟨fun _ => rfl, trivial⟩

theorem Inv.run (h : Inv c) (kind : Text → Option Text) (events : List Event) :
    Inv (events.foldl (NodeConsole.step kind) c) := by
  induction events generalizing c with
  | nil => exact h
  | cons e events ih => exact ih (h.step kind e)

theorem Inv.holder (h : Inv c) {g : Grant} (hg : holder c.trail node = some g) :
    ∃ s, c.sessions.lookup node = some s ∧ s.generation = g.generation := by
  have hagrees := h.agrees node
  rcases hs : c.sessions.lookup node with _ | s
  · rw [lease, hs] at hagrees
    cases hagrees.symm.trans hg
  rw [lease_eq hs] at hagrees
  rcases hw : s.writer with _ | w
  · rw [hw] at hagrees
    cases hagrees.symm.trans hg
  · rw [hw] at hagrees
    obtain ⟨g', hg', hgeneration, -⟩ := hagrees.grant
    obtain rfl := Option.some.inj (hg.symm.trans hg')
    exact ⟨s, rfl, hgeneration.symm⟩

end runs

/-- **Input is written only for the writer.**  Whatever commands, views, sweeps and socket
    events come, with whatever snapshots and clocks:

    * every write is made for the principal and the credential that hold the lease of the
      node, for the same generation, granted at most 15 minutes and used at most 10 seconds
      before the sweep of the call, where it was valid;
    * the lease of a node is the writer of its only session, of the generation of the
      session, and nobody holds it if there is none;
    * a lease that a sweep leaves is of the generation that is read then, and so is one that
      a view or a command leaves which reads the snapshot of a running guest. -/
theorem writes_leased (kind : Text → Option Text) (events : List Event) :
    let c := events.foldl (step kind) start
    Each Leased c.trail ∧ (∀ node, Agrees c.trail node (lease c node)) ∧
    (∀ m node g, holder (sweep m c).trail node = some g →
      (m node).sight.confirms g.generation = true) ∧
    (∀ m node log g, Reads kind m node log → holder (step kind c (.view m node)).trail node = some g →
      g.generation = log.guest) ∧
    ∀ m node body principal credential sessionExpires log g, Reads kind m.serial node log →
      validBody body = true → (serialAction body).isSome →
      holder (step kind c (.command m node body principal credential sessionExpires)).trail node =
        some g → g.generation = log.guest := by
  intro c
  have hc : Inv c := inv_start.run kind events
  refine ⟨hc.leased, hc.agrees, fun m node g hg => ?_, fun m node log g hreads hg => ?_,
    fun m node body principal credential sessionExpires log g hreads hbody haction hg => ?_⟩
  · obtain ⟨s, hs, hgeneration⟩ := (hc.sweep m).holder hg
    rw [← hgeneration]
    exact (sweep_checked hs).confirmed
  · obtain ⟨s, hs, hgeneration⟩ := (hc.step kind _).holder hg
    rw [← hgeneration]
    have hleaves : (serial kind m node).wp c (.always (Leaves kind m node)) :=
      wp_mono (serial_spec kind m node hc) (fun _ _ => Returns.leaves) (fun _ _ => id) fun _ => id
    exact (wp_always_world hleaves).current log hreads s hs
  · obtain ⟨s, hs, hgeneration⟩ := (hc.step kind _).holder hg
    rw [← hgeneration]
    exact wp_always_world (hc.command_current hreads hbody haction principal credential sessionExpires)
      s hs

/-! ### A session -/

def writtenBytes : Record Text Grant Write → Option Bytes
  | .exercised _ w => some w.bytes
  | _ => none

def guestSight : Sight where
  read := .ok ⟨text "console-0", text "1", .running, false, some (text "8:1")⟩
  endpoint := .ok ⟨true, 65532, text "8:1"⟩

def guestMoment : CommandMoment where
  sweep := fun _ => ⟨0, 0, 0, fun _ => true, guestSight⟩
  serial := ⟨guestSight, 0⟩
  lease := text "lease"
  expires := 0
  deadline := 0
  writableLength := 0

def guestCommand (action : String) : Event :=
  .command guestMoment (text "guest") (.obj [(text "action", .str (text action)),
    (text "generation", .str (text "console-0:1")), (text "lease", .str (text "lease")),
    (text "hex", .str (text "0a"))]) (text "operator") (text "token") none

/-- The console is looked at, the lease acquired, and a line feed sent. -/
def guestEvents : List Event :=
  [.view ⟨guestSight, 0⟩ (text "guest"), .connect (text "guest") 0, guestCommand "acquire",
    guestCommand "input"]

example : (guestEvents.foldl (step fun _ => some (text "qemu")) start).trail.filterMap writtenBytes =
    [[0x0a]] := by decide

end GraphX.NodeConsole
