/-
  Rotation of a staged credential (`rotateCredential` and `atomic` in
  `apps/telemetry/credentials.mjs`).

  The directory of a reference holds the members, those they replaced, and
  `generation.json`.  A rotation replaces these files one after the other, each by an
  atomic rename: it first marks the directory as being published, and writes the new
  generation last.  Rotations exclude each other; one that fails or is killed leaves
  what it has done.  Other programs may read the files between any two steps.

  `editions` is not in the source: it lists what was published, the newest first, with the
  members as they were then.
-/
import GraphX.Envelope
import GraphX.Lib.Stable
import GraphX.Lib.Triple

namespace GraphX.Rotation

open Relation Imperative

/-! ## Files -/

/-- `previous` in `generation.json`. -/
structure Overlap where
  graceMs : ℕ
  expiresAt : ℤ
  members : List (String × String)
  deriving DecidableEq

/-- The generation that `publicGeneration` describes. -/
structure Metadata where
  identity : String
  generation : ℕ
  members : List (String × String)
  previous : Option Overlap
  deriving DecidableEq

/-- The contents of `generation.json`. -/
inductive GenerationFile where
  | publishing
  | published (metadata : Metadata)
  deriving DecidableEq

/-- The directory of a reference. -/
structure Store where
  text : GenerationFile
  member : String → Bytes
  previous : String → Option Bytes

structure Edition where
  metadata : Metadata
  members : String → Bytes
  /-- The clock when `generation.json` was renamed. -/
  publishedAt : ℤ

/-- The reference that is rotated. -/
structure Reference where
  identity : String
  members : List String
  sha256 : Bytes → String

def Reference.digests (r : Reference) (members : String → Bytes) : List (String × String) :=
  r.members.map fun n => (n, r.sha256 (members n))

/-! ## Rotations -/

/-- What the next generation will be, up to its clock. -/
structure Draft where
  identity : String
  generation : ℕ
  members : List (String × String)
  graceSeconds : ℕ
  previous : List (String × String)

/-- The steps of a rotation. -/
inductive Op where
  /-- `generation.json` says that a generation is being published. -/
  | hide
  | keep (name : String) (bytes : Bytes)
  | place (name : String) (bytes : Bytes)
  /-- `expires_at` is computed. -/
  | stamp (draft : Draft)
  | publish (metadata : Metadata)

structure System where
  store : Store
  /-- What the rotation that is going on has to do. -/
  pending : List Op
  clock : ℤ
  editions : List Edition

/-- The files of a member, `previous.` first. -/
def replaceMember (current replacement : String → Bytes) (name : String) : List Op :=
  [.keep name (current name), .place name (replacement name)]

def draft (r : Reference) (m : Metadata) (current replacement : String → Bytes) (graceSeconds : ℕ) :
    Draft where
  identity := r.identity
  generation := m.generation + 1
  members := r.digests replacement
  graceSeconds := graceSeconds
  previous := r.digests current

/-- What `rotateCredential` does after it has read both references. -/
def rotateCredential (r : Reference) (m : Metadata) (current replacement : String → Bytes)
    (graceSeconds : ℕ) : List Op :=
  .hide :: (r.members.flatMap (replaceMember current replacement) ++
    [.stamp (draft r m current replacement graceSeconds)])

def Draft.metadata (d : Draft) (now : ℤ) : Metadata where
  identity := d.identity
  generation := d.generation
  members := d.members
  previous := some ⟨d.graceSeconds * 1000, now + d.graceSeconds * 1000, d.previous⟩

/-- A file is renamed. -/
def Store.write (store : Store) : Op → Store
  | .hide => { store with text := .publishing }
  | .keep name bytes => { store with previous := Function.update store.previous name (some bytes) }
  | .place name bytes => { store with member := Function.update store.member name bytes }
  | .stamp _ => store
  | .publish metadata => { store with text := .published metadata }

/-- A step of the rotation that is going on. -/
def perform (s : System) (op : Op) (rest : List Op) : System :=
  match op with
  | .stamp d => { s with pending := .publish (d.metadata s.clock) :: rest }
  | .publish m => { s with store := s.store.write (.publish m), pending := rest,
                           editions := ⟨m, s.store.member, s.clock⟩ :: s.editions }
  | op => { s with store := s.store.write op, pending := rest }

inductive Step (r : Reference) : System → System → Prop where
  /-- A rotation has read the current generation, and the members that replace it. -/
  | start (s : System) (m : Metadata) (replacement : String → Bytes) (graceSeconds : ℕ)
      (hidle : s.pending = []) (htext : s.store.text = .published m) (hgrace : graceSeconds ≤ 60) :
      Step r s { s with pending := rotateCredential r m s.store.member replacement graceSeconds }
  | perform (s : System) (op : Op) (rest : List Op) (hpending : s.pending = op :: rest) :
      Step r s (perform s op rest)
  /-- The rotation fails or is killed. -/
  | stop (s : System) : Step r s { s with pending := [] }
  | tick (s : System) (now : ℤ) (hnow : s.clock ≤ now) : Step r s { s with clock := now }

/-- What `stageCredentials` leaves. -/
def staged (r : Reference) (members : String → Bytes) (now : ℤ) : System :=
  let metadata : Metadata := ⟨r.identity, 1, r.digests members, none⟩
  { store := ⟨.published metadata, members, fun _ => none⟩
    pending := []
    clock := now
    editions := [⟨metadata, members, now⟩] }

def Reachable (r : Reference) (s : System) : Prop :=
  ∃ members now, ReflTransGen (Step r) (staged r members now) s

/-! ## What is published -/

/-- The edition names the one before as the generation it replaces. -/
structure Succeeds (r : Reference) (e e' : Edition) : Prop where
  generation : e.metadata.generation = e'.metadata.generation + 1
  overlap : ∃ p, e.metadata.previous = some p ∧ p.graceMs ≤ 60000 ∧
    p.expiresAt ≤ e.publishedAt + 60000 ∧ p.members = r.digests e'.members

/-- The files kept by the rotation are those of this edition. -/
def Keeps (r : Reference) (store : Store) (e : Edition) : Prop :=
  ∀ n ∈ r.members, store.previous n = some (e.members n)

/-- The newest edition and the one before. -/
def History (r : Reference) (store : Store) : List Edition → Prop
  | [] => False
  | [e] => e.metadata.generation = 1 ∧ e.metadata.previous = none
  | e :: e' :: _ => Succeeds r e e' ∧ Keeps r store e'

/-- The file operations of a rotation. -/
def Op.isFile : Op → Bool
  | keep _ _ | place _ _ => true
  | _ => false

/-- What is left to do once the directory is marked: the members to replace, the text to
    stamp, or to write. -/
inductive Underway (r : Reference) (store : Store) (clock : ℤ) (e : Edition) : List Op → Prop where
  | none : Underway r store clock e []
  | files (ops : List Op) (d : Draft) (hfiles : ∀ op ∈ ops, op.isFile)
      (hkeeps : Keeps r (ops.foldl Store.write store) e)
      (hgeneration : d.generation = e.metadata.generation + 1) (hgrace : d.graceSeconds ≤ 60)
      (hprevious : d.previous = r.digests e.members) :
      Underway r store clock e (ops ++ [.stamp d])
  | last (m : Metadata) (hkeeps : Keeps r store e)
      (hgeneration : m.generation = e.metadata.generation + 1)
      (hoverlap : ∃ p, m.previous = some p ∧ p.graceMs ≤ 60000 ∧ p.expiresAt ≤ clock + 60000 ∧
        p.members = r.digests e.members) : Underway r store clock e [.publish m]

/-- The newest edition can be read. -/
structure Visible (r : Reference) (s : System) (e : Edition) : Prop where
  text : s.store.text = .published e.metadata
  member : s.store.member = e.members
  history : History r s.store s.editions
  pending : s.pending = [] ∨
    ∃ ops, s.pending = .hide :: ops ∧ Underway r (s.store.write .hide) s.clock e ops

/-- The directory is marked, and the newest edition is being replaced. -/
structure Hidden (r : Reference) (s : System) (e : Edition) : Prop where
  text : s.store.text = .publishing
  pending : Underway r s.store s.clock e s.pending

/-- What holds of every state. -/
def Inv (r : Reference) (s : System) : Prop :=
  ∃ e rest, s.editions = e :: rest ∧ e.metadata.generation = s.editions.length ∧
    (Visible r s e ∨ Hidden r s e)

/-! ## Every step keeps it -/

section steps

variable {r : Reference} {s s' : System} {e : Edition} {store : Store} {clock clock' : ℤ}
  {ops : List Op}

theorem inv_staged (r : Reference) (members : String → Bytes) (now : ℤ) :
    Inv r (staged r members now) :=
  ⟨_, [], rfl, rfl, Or.inl ⟨rfl, rfl, ⟨rfl, rfl⟩, Or.inl rfl⟩⟩

theorem foldl_replaceMember {current replacement : String → Bytes} {names : List String} {n : String}
    (h : n ∈ names ∨ store.previous n = some (current n)) :
    ((names.flatMap (replaceMember current replacement)).foldl Store.write store).previous n =
      some (current n) := by
  induction names generalizing store with
  | nil => exact h.resolve_left (by simp)
  | cons name names ih =>
    refine ih ?_
    by_cases hn : n = name
    · simp [Store.write, hn]
    · refine h.imp (fun hmem => (List.mem_cons.1 hmem).resolve_left hn) fun hkept => ?_
      simpa [Store.write, hn] using hkept

theorem isFile_replaceMember {current replacement : String → Bytes} {names : List String} :
    ∀ op ∈ names.flatMap (replaceMember current replacement), op.isFile = true := by
  intro op hop
  obtain ⟨n, -, hop⟩ := List.mem_flatMap.1 hop
  simp only [replaceMember, List.mem_cons, List.not_mem_nil, or_false] at hop
  rcases hop with rfl | rfl <;> rfl

theorem underway_rotateCredential (hmember : store.member = e.members) {graceSeconds : ℕ}
    (hgrace : graceSeconds ≤ 60) (replacement : String → Bytes) :
    Underway r (store.write .hide) clock e
      (r.members.flatMap (replaceMember store.member replacement) ++
        [.stamp (draft r e.metadata store.member replacement graceSeconds)]) := by
  refine .files _ _ isFile_replaceMember (fun n hn => ?_) rfl hgrace ?_
  · rw [foldl_replaceMember (Or.inl hn), hmember]
  · rw [draft, hmember]

theorem Underway.mono (h : Underway r store clock e ops) (hclock : clock ≤ clock') :
    Underway r store clock' e ops := by
  cases h with
  | none => exact .none
  | files ops d hfiles hkeeps hgeneration hgrace hprevious =>
    exact .files ops d hfiles hkeeps hgeneration hgrace hprevious
  | last m hkeeps hgeneration hoverlap =>
    obtain ⟨p, hp, hgrace, hexpires, hmembers⟩ := hoverlap
    exact .last m hkeeps hgeneration ⟨p, hp, hgrace, by omega, hmembers⟩

/-- **A step while the directory is marked**: a file is replaced, the text is stamped, or a
    new edition is published. -/
theorem Hidden.perform {older : List Edition} (h : Hidden r s e) (heditions : s.editions = e :: older)
    {op : Op} {rest : List Op} (hop : s.pending = op :: rest) :
    (Hidden r (perform s op rest) e ∧ (perform s op rest).editions = s.editions) ∨
    ∃ e', (perform s op rest).editions = e' :: s.editions ∧ Visible r (perform s op rest) e' ∧
      e'.metadata.generation = e.metadata.generation + 1 := by
  have hpending := h.pending
  rw [hop] at hpending
  generalize hall : op :: rest = all at hpending
  cases hpending with
  | none => cases hall
  | files ops d hfiles hkeeps hgeneration hgrace hprevious =>
    left
    cases ops with
    | nil =>
      cases hall
      refine ⟨⟨h.text, .last _ hkeeps hgeneration ⟨_, rfl, ?_, ?_, hprevious⟩⟩, rfl⟩
      · dsimp only
        omega
      · simp only [Rotation.perform]
        omega
    | cons o ops =>
      obtain ⟨rfl, rfl⟩ := List.cons.inj hall
      obtain ⟨hfile, hlater⟩ := List.forall_mem_cons.1 hfiles
      cases op with
      | keep name bytes | place name bytes =>
        exact ⟨⟨h.text, .files ops d hlater hkeeps hgeneration hgrace hprevious⟩, rfl⟩
      | hide | stamp d | publish m => cases hfile
  | last m hkeeps hgeneration hoverlap =>
    right
    cases hall
    refine ⟨⟨m, s.store.member, s.clock⟩, rfl, ⟨rfl, rfl, ?_, Or.inl rfl⟩, hgeneration⟩
    change History r _ (_ :: s.editions)
    rw [heditions]
    exact ⟨⟨hgeneration, hoverlap⟩, hkeeps⟩

theorem Visible.perform (h : Visible r s e) {op : Op} {rest : List Op} (hop : s.pending = op :: rest) :
    op = .hide ∧ Hidden r (perform s op rest) e := by
  rcases h.pending with hidle | ⟨ops, hops, hunderway⟩
  · rw [hidle] at hop
    cases hop
  · rw [hop] at hops
    cases hops
    exact ⟨rfl, rfl, hunderway⟩

theorem Inv.step (h : Inv r s) (hstep : Step r s s') : Inv r s' := by
  obtain ⟨e, older, heditions, hgeneration, hstate⟩ := h
  cases hstep with
  | start m replacement graceSeconds hidle htext hgrace =>
    refine ⟨e, older, heditions, hgeneration, ?_⟩
    rcases hstate with hv | hh
    · left
      obtain rfl : e.metadata = m := by
        have := hv.text.symm.trans htext
        cases this
        rfl
      exact ⟨hv.text, hv.member, hv.history,
        Or.inr ⟨_, rfl, underway_rotateCredential hv.member hgrace replacement⟩⟩
    · rw [hh.text] at htext
      cases htext
  | perform op rest hop =>
    rcases hstate with hv | hh
    · obtain ⟨rfl, hh⟩ := hv.perform hop
      exact ⟨e, older, heditions, hgeneration, Or.inr hh⟩
    · rcases hh.perform heditions hop with ⟨hh', heq⟩ | ⟨e', heq, hv, hnext⟩
      · exact ⟨e, older, by rw [heq, heditions], by rw [heq, hgeneration], Or.inr hh'⟩
      · exact ⟨e', s.editions, heq, by rw [heq, List.length_cons, hnext, hgeneration], Or.inl hv⟩
  | stop =>
    refine ⟨e, older, heditions, hgeneration, ?_⟩
    rcases hstate with hv | hh
    · exact Or.inl ⟨hv.text, hv.member, hv.history, Or.inl rfl⟩
    · exact Or.inr ⟨hh.text, .none⟩
  | tick now hnow =>
    refine ⟨e, older, heditions, hgeneration, ?_⟩
    rcases hstate with hv | hh
    · refine Or.inl ⟨hv.text, hv.member, hv.history, ?_⟩
      rcases hv.pending with hidle | ⟨ops, hops, hunderway⟩
      · exact Or.inl hidle
      · exact Or.inr ⟨ops, hops, hunderway.mono hnow⟩
    · exact Or.inr ⟨hh.text, hh.pending.mono hnow⟩

/-! ## Nothing changes between two reads of one generation -/

/-- What readers see, and what was published. -/
def view (s : System) : Store × List Edition := (s.store, s.editions)

/-- The number of editions, and whether a new one is under way. -/
def rank (s : System) : ℕ := 2 * s.editions.length + if s.store.text = .publishing then 1 else 0

def Published (v : Store × List Edition) : Prop := v.1.text ≠ .publishing

theorem Visible.rank (h : Visible r s e) : rank s = 2 * s.editions.length := by
  rw [Rotation.rank, h.text, if_neg (by simp), add_zero]

theorem Hidden.rank (h : Hidden r s e) : rank s = 2 * s.editions.length + 1 := by
  rw [Rotation.rank, h.text, if_pos rfl]

theorem stamped (r : Reference) :
    Stable.Stamped (Step r) (Inv r) rank view Published where
  inv := Inv.step
  mono := by
    rintro a b ⟨e, older, heditions, hgeneration, hstate⟩ hstep
    cases hstep with
    | start m replacement graceSeconds hidle htext hgrace | stop | tick now hnow => exact le_rfl
    | perform op rest hop =>
      rcases hstate with hv | hh
      · obtain ⟨rfl, hh⟩ := hv.perform hop
        rw [hv.rank]
        exact Nat.le_succ _
      · rcases hh.perform heditions hop with ⟨hh', heq⟩ | ⟨e', heq, hv, -⟩
        · rw [hh.rank, hh'.rank, heq]
        · rw [hh.rank, hv.rank, heq, List.length_cons]
          omega
  keep := by
    rintro a b ⟨e, older, heditions, hgeneration, hstate⟩ hstep hpublished hrank
    cases hstep with
    | start m replacement graceSeconds hidle htext hgrace | stop | tick now hnow => rfl
    | perform op rest hop =>
      rcases hstate with hv | hh
      · obtain ⟨rfl, hh⟩ := hv.perform hop
        rw [hv.rank, hh.rank] at hrank
        have : (perform a .hide rest).editions = a.editions := rfl
        omega
      · exact absurd hh.text hpublished

theorem Reachable.inv (h : Reachable r s) : Inv r s := by
  obtain ⟨members, now, hlater⟩ := h
  exact (stamped r).inv_later (inv_staged r members now) hlater

theorem Reachable.later (h : Reachable r s) (hlater : ReflTransGen (Step r) s s') :
    Reachable r s' := by
  obtain ⟨members, now, hs⟩ := h
  exact ⟨members, now, hs.trans hlater⟩

theorem clock_le (h : ReflTransGen (Step r) s s') : s.clock ≤ s'.clock := by
  induction h with
  | refl => exact le_rfl
  | tail _ hstep ih =>
    refine ih.trans ?_
    cases hstep with
    | start | stop => exact le_rfl
    | tick now hnow => exact hnow
    | perform op rest hop => cases op <;> exact le_rfl

theorem Inv.visible (h : Inv r s) {m : Metadata} (htext : s.store.text = .published m) :
    ∃ e older, s.editions = e :: older ∧ e.metadata = m ∧ m.generation = s.editions.length ∧
      s.store.member = e.members ∧ History r s.store s.editions := by
  obtain ⟨e, older, heditions, hgeneration, hv | hh⟩ := h
  · have := hv.text.symm.trans htext
    cases this
    exact ⟨e, older, heditions, rfl, hgeneration, hv.member, hv.history⟩
  · rw [hh.text] at htext
    cases htext

/-- **Between two reads of the same generation** the files are what they were at the first,
    and nothing was published. -/
theorem frozen {a c b : System} (ha : Reachable r a) (hac : ReflTransGen (Step r) a c)
    (hcb : ReflTransGen (Step r) c b) {m m' : Metadata} (htext : a.store.text = .published m)
    (hagain : b.store.text = .published m') (hsame : m'.generation = m.generation) :
    c.store = a.store ∧ c.editions = a.editions := by
  obtain ⟨-, -, -, -, hga, -, -⟩ := ha.inv.visible htext
  obtain ⟨-, -, -, -, hgb, -, -⟩ := (ha.later (hac.trans hcb)).inv.visible hagain
  have hpublished : Published (view a) := by
    intro h
    rw [show (view a).1.text = .published m from htext] at h
    cases h
  have hrank : rank a = rank b := by
    rw [rank, rank, htext, hagain, ← hga, ← hgb, hsame]
    simp
  have hview := (stamped r).between ha.inv hac hcb hpublished hrank
  exact ⟨congrArg Prod.fst hview, congrArg Prod.snd hview⟩

/-- The next steps of the rotation that is going on. -/
def performs : ℕ → System → System
  | 0, s => s
  | n + 1, s =>
    match s.pending with
    | [] => s
    | op :: rest => performs n (perform s op rest)

theorem later_performs (n : ℕ) (s : System) : ReflTransGen (Step r) s (performs n s) := by
  induction n generalizing s with
  | zero => exact .refl
  | succ n ih =>
    unfold performs
    split
    · exact .refl
    · rename_i op rest hop
      exact .head (.perform s op rest hop) (ih _)

end steps

/-- A digest without collisions: the bytes as a text. -/
def byteText (bytes : Bytes) : String := String.ofList (bytes.map fun b => Char.ofNat b.toNat)

/-! ## Readers -/

/-- The states in which the operations of a reader find the system, one after the other:
    any number of steps lies between two of them. -/
structure Schedule (r : Reference) where
  sys : ℕ → System
  reachable : Reachable r (sys 0)
  later : ∀ i, ReflTransGen (Step r) (sys i) (sys (i + 1))
  /-- The operations that do not fail. -/
  succeeds : ℕ → Bool

namespace Schedule

variable {r : Reference} (σ : Schedule r)

variable {i j : ℕ}

theorem later_of_le (h : i ≤ j) : ReflTransGen (Step r) (σ.sys i) (σ.sys j) := by
  induction h with
  | refl => exact .refl
  | step _ ih => exact ih.trans (σ.later _)

theorem reachable_sys (i : ℕ) : Reachable r (σ.sys i) :=
  σ.reachable.later (σ.later_of_le (Nat.zero_le i))

theorem clock_le_of_le (h : i ≤ j) : (σ.sys i).clock ≤ (σ.sys j).clock :=
  clock_le (σ.later_of_le h)

/-- The same generation before and after: the files in between belong to it. -/
theorem frozen {k : ℕ} (hik : i ≤ k) (hkj : k ≤ j) {m m' : Metadata}
    (htext : (σ.sys i).store.text = .published m) (hagain : (σ.sys j).store.text = .published m')
    (hsame : m'.generation = m.generation) :
    (σ.sys k).store = (σ.sys i).store ∧ (σ.sys k).editions = (σ.sys i).editions :=
  Rotation.frozen (σ.reachable_sys i) (σ.later_of_le hik) (σ.later_of_le hkj) htext hagain hsame

theorem text_unique (hij : i ≤ j) {m m' : Metadata} (htext : (σ.sys i).store.text = .published m)
    (hagain : (σ.sys j).store.text = .published m') (hsame : m'.generation = m.generation) :
    m' = m := by
  have hstore := (σ.frozen hij le_rfl htext hagain hsame).1
  rw [hstore, htext] at hagain
  cases hagain
  rfl

end Schedule

/-- Where a reader is in its schedule, and what it keeps. -/
structure Cursor (κ : Type) where
  pos : ℕ
  state : κ

inductive ReadFailure where
  /-- A file cannot be read. -/
  | unreadable
  | refused (message : String)
  /-- After the credentials were taken. -/
  | handshake (message : String)
  deriving DecidableEq

/-- A program that reads. -/
abbrev Reading (κ : Type) := Act (Cursor κ) ReadFailure

section reading

variable {r : Reference} {κ α β : Type}

def Cursor.next (w : Cursor κ) : Cursor κ := { w with pos := w.pos + 1 }

def look (σ : Schedule r) (f : System → α) : Reading κ α := fun w =>
  if σ.succeeds w.pos then .returned (f (σ.sys w.pos)) w.next else .threw .unreadable w.next

def lookClock (σ : Schedule r) : Reading κ ℤ := fun w => .returned (σ.sys w.pos).clock w.next

def demand (b : Bool) (message : String) : Reading κ Unit :=
  if b then pure () else throw (.refused message)

/-- Some operations later, with nothing new in what the reader keeps. -/
structure Advances (w w' : Cursor κ) : Prop where
  state : w'.state = w.state
  pos : w.pos ≤ w'.pos

variable {w w' w'' : Cursor κ} {Q : Post (Cursor κ) ReadFailure β} {σ : Schedule r}

theorem Advances.refl (w : Cursor κ) : Advances w w := ⟨rfl, le_rfl⟩

theorem Advances.trans (h : Advances w w') (h' : Advances w' w'') : Advances w w'' :=
  ⟨h'.state.trans h.state, h.pos.trans h'.pos⟩

theorem Advances.next (h : Advances w w') : Advances w w'.next :=
  ⟨h.state, h.pos.trans (Nat.le_succ _)⟩

theorem wp_look_bind {f : System → α} {g : α → Reading κ β}
    (hok : (g (f (σ.sys w.pos))).wp w.next Q) (hfail : ∀ e, Q.threw e w.next) :
    (look σ f >>= g).wp w Q := by
  cases h : σ.succeeds w.pos with
  | true =>
    have hrun : (look σ f).run w = .returned (f (σ.sys w.pos)) w.next := if_pos h
    rw [Act.wp, Act.run_bind_returned hrun]
    exact hok
  | false =>
    have hrun : (look σ f).run w = .threw .unreadable w.next := if_neg (by simp [h])
    rw [Act.wp, Act.run_bind_threw hrun]
    exact hfail _

theorem wp_lookClock_bind {g : ℤ → Reading κ β} (h : (g (σ.sys w.pos).clock).wp w.next Q) :
    (lookClock σ >>= g).wp w Q := h

theorem wp_demand_bind {b : Bool} {message : String} {g : Unit → Reading κ β}
    (htrue : b = true → (g ()).wp w Q) (hfalse : ∀ e, Q.threw e w) :
    (demand b message >>= g).wp w Q := by
  cases b with
  | true => exact htrue rfl
  | false => exact hfalse _

end reading

end GraphX.Rotation
