/-
  TLS credentials that are rotated while connections are made
  (`TcpTransport::secure_connection` in `src/tcp_transport.cpp`, with a
  `generation_file`).

  A connection reads `generation.json`, compares the digests of the authority, the
  certificate and the key, and lets OpenSSL load the three files; then it reads
  `generation.json` again, and keeps the context if it is the same text.  So each file is
  read twice.  What OpenSSL says of the contents, and how the handshake ends, is given with
  each attempt.

  * **`tls_adopts_editions`**: over all attempts, the context is that of an edition,
    generations do not go back, and an attempt that fails before the handshake changes
    nothing.
-/
import GraphX.Rotation
import GraphX.Lib.Runs

namespace GraphX.TlsRotation

open Imperative Imperative.Act Rotation

/-! ## Connections -/

/-- What OpenSSL has loaded. -/
structure TlsContext where
  ca : Bytes
  certificate : Bytes
  privateKey : Bytes

/-- What a transport keeps between its connections. -/
structure TlsState where
  context : Option TlsContext
  generation : ℕ
  text : Option GenerationFile

def TlsState.initial : TlsState := ⟨none, 0, none⟩

/-- The names of the files. -/
structure TlsFiles where
  ca : String
  certificate : String
  privateKey : String

/-- What OpenSSL answers in an attempt to connect. -/
structure Attempt where
  /-- The context is created. -/
  prepared : Bool
  loadsCa : Bytes → Bool
  loadsCertificate : Bytes → Bool
  /-- The key is loaded, and it is that of the certificate. -/
  loadsPrivateKey : (certificate privateKey : Bytes) → Bool
  /-- How the handshake fails, if it does. -/
  failure : Option String

abbrev Connecting := Reading TlsState

section connection

variable {r : Reference} (σ : Schedule r)

/-- The digest of a file is that of the generation. -/
def verifyMember (m : Metadata) (name : String) : Connecting Unit := do
  let bytes ← look σ fun s => s.store.member name
  demand (m.members.lookup name = some (r.sha256 bytes)) "TLS credential generation is incomplete"

/-- A new context is loaded, and kept if the generation is still the same. -/
def adopt (f : TlsFiles) (a : Attempt) (text : GenerationFile) (m : Metadata) : Connecting Unit := do
  demand a.prepared "create TLS context"
  let ca ← look σ fun s => s.store.member f.ca
  demand (a.loadsCa ca) "load TLS CA file"
  let certificate ← look σ fun s => s.store.member f.certificate
  demand (a.loadsCertificate certificate) "load TLS certificate"
  let privateKey ← look σ fun s => s.store.member f.privateKey
  demand (a.loadsPrivateKey certificate privateKey) "load TLS private key"
  let again ← look σ fun s => s.store.text
  demand (again = text) "TLS credential generation changed while loading"
  modify fun w => { w with state := ⟨some ⟨ca, certificate, privateKey⟩, m.generation, some text⟩ }

/-- The session and its handshake. -/
def handshake (a : Attempt) : Connecting Unit :=
  match a.failure with
  | none => pure ()
  | some message => throw (.handshake message)

/-- The text is older than the recorded one, or another text of that generation. -/
def staleText (tls : TlsState) (text : GenerationFile) (m : Metadata) : Bool :=
  m.generation < tls.generation || (m.generation = tls.generation && tls.text ≠ some text)

def secureConnection (f : TlsFiles) (a : Attempt) : Connecting Unit := do
  let text ← look σ fun s => s.store.text
  let tls := (← get).state
  match text with
  | .publishing => throw (.refused "missing field generation")
  | .published m =>
    demand (1 ≤ m.generation && !staleText tls text m) "TLS credential generation is invalid or stale"
    verifyMember σ m f.ca
    verifyMember σ m f.certificate
    verifyMember σ m f.privateKey
    onlyIf (tls.context.isNone || tls.text ≠ some text) (adopt σ f a text m)
    handshake a

end connection

/-! ## What is adopted -/

section attempts

variable {r : Reference} {σ : Schedule r} {f : TlsFiles} {a : Attempt} {w w' w'' : Cursor TlsState}
  {m : Metadata}

/-- The file is a member of the edition, and has the digest that its generation lists. -/
structure Loaded (r : Reference) (e : Edition) (name : String) (bytes : Bytes) : Prop where
  member : bytes = e.members name
  listed : e.metadata.members.lookup name = some (r.sha256 bytes)

/-- The context is that of the generation that is recorded. -/
def Adopted (σ : Schedule r) (f : TlsFiles) (tls : TlsState) : Prop :=
  tls = .initial ∨ ∃ i e older context, (σ.sys i).editions = e :: older ∧
    tls = ⟨some context, e.metadata.generation, some (.published e.metadata)⟩ ∧
    1 ≤ e.metadata.generation ∧ Loaded r e f.ca context.ca ∧
    Loaded r e f.certificate context.certificate ∧ Loaded r e f.privateKey context.privateKey

/-- The digest was that of the file at some moment of the check. -/
theorem verifyMember_spec (σ : Schedule r) (m : Metadata) (name : String) (hw : Advances w w') :
    (verifyMember σ m name).wp w' ⟨fun _ w'' => Advances w w'' ∧ ∃ k, w'.pos ≤ k ∧ k < w''.pos ∧
      m.members.lookup name = some (r.sha256 ((σ.sys k).store.member name)),
      fun _ => Advances w, Advances w⟩ := by
  refine wp_look_bind ?_ fun _ => hw.next
  cases hb : decide (m.members.lookup name = some (r.sha256 ((σ.sys w'.pos).store.member name))) with
  | false => exact hw.next
  | true => exact ⟨hw.next, w'.pos, le_rfl, Nat.lt_succ_self _, of_decide_eq_true hb⟩

/-- The context is a new one, of the generation `m`. -/
structure Adopts (σ : Schedule r) (f : TlsFiles) (m : Metadata) (tls : TlsState) : Prop where
  generation : tls.generation = m.generation
  adopted : Adopted σ f tls

/-- **Loading.**  The files that were checked are those that are loaded, since the
    generation is the same before and after. -/
theorem adopt_spec {i : ℕ} (htext : (σ.sys i).store.text = .published m) (hm : 1 ≤ m.generation)
    (hi : i ≤ w'.pos)
    (hca : ∃ k, i ≤ k ∧ k < w'.pos ∧
      m.members.lookup f.ca = some (r.sha256 ((σ.sys k).store.member f.ca)))
    (hcertificate : ∃ k, i ≤ k ∧ k < w'.pos ∧
      m.members.lookup f.certificate = some (r.sha256 ((σ.sys k).store.member f.certificate)))
    (hkey : ∃ k, i ≤ k ∧ k < w'.pos ∧
      m.members.lookup f.privateKey = some (r.sha256 ((σ.sys k).store.member f.privateKey)))
    (hw : Advances w w') :
    (adopt σ f a (.published m) m).wp w' ⟨fun _ w'' => Adopts σ f m w''.state,
      fun _ => Advances w, Advances w⟩ := by
  refine wp_demand_bind (fun _ => ?_) fun _ => hw
  refine wp_look_bind ?_ fun _ => hw.next
  refine wp_demand_bind (fun _ => ?_) fun _ => hw.next
  refine wp_look_bind ?_ fun _ => hw.next.next
  refine wp_demand_bind (fun _ => ?_) fun _ => hw.next.next
  refine wp_look_bind ?_ fun _ => hw.next.next.next
  refine wp_demand_bind (fun _ => ?_) fun _ => hw.next.next.next
  refine wp_look_bind ?_ fun _ => hw.next.next.next.next
  refine wp_demand_bind (fun hagain => ?_) fun _ => hw.next.next.next.next
  have hagain := of_decide_eq_true hagain
  obtain ⟨e, older, heditions, rfl, -, hmember, -⟩ := (σ.reachable_sys i).inv.visible htext
  -- every file read since the first read of the generation is that of the edition
  have hfile : ∀ k, i ≤ k → k ≤ w'.pos + 3 → (σ.sys k).store.member = e.members := by
    intro k hk hk'
    rw [(σ.frozen hk hk' htext hagain rfl).1, hmember]
  have hloaded : ∀ name k, i ≤ k → k ≤ w'.pos + 3 → (∃ k, i ≤ k ∧ k < w'.pos ∧
      e.metadata.members.lookup name = some (r.sha256 ((σ.sys k).store.member name))) →
      Loaded r e name ((σ.sys k).store.member name) := by
    rintro name k hk hk' ⟨k', hik', hk'lt, hdigest⟩
    rw [hfile k' hik' (by omega)] at hdigest
    rw [hfile k hk hk']
    exact ⟨rfl, hdigest⟩
  exact ⟨rfl, Or.inr ⟨i, e, older, _, heditions, rfl, hm,
    hloaded f.ca w'.pos hi (by omega) hca, hloaded f.certificate (w'.pos + 1) (by omega) (by omega)
      hcertificate, hloaded f.privateKey (w'.pos + 2) (by omega) (by omega) hkey⟩⟩

/-- What an attempt leaves: the state as it was, or a context of a later generation. -/
def Renews (σ : Schedule r) (f : TlsFiles) (tls tls' : TlsState) : Prop :=
  tls' = tls ∨ tls.generation < tls'.generation ∧ Adopted σ f tls'

/-- A generation that is not stale and calls for a new context is a later one. -/
theorem lt_of_renewed (h : Adopted σ f w.state) (hm : 1 ≤ m.generation)
    (hstale : staleText w.state (.published m) m = false)
    (hnew : (w.state.context.isNone || w.state.text ≠ some (.published m)) = true) :
    w.state.generation < m.generation := by
  simp only [staleText, Bool.or_eq_false_iff, decide_eq_false_iff_not, not_lt,
    Bool.and_eq_false_iff] at hstale
  obtain ⟨hle, hsame⟩ := hstale
  refine lt_of_le_of_ne hle fun heq => ?_
  have htext := not_not.1 (hsame.resolve_left fun hne => hne heq.symm)
  rcases h with h | ⟨-, e, -, context, -, h, -⟩
  · rw [h] at heq
    exact absurd heq (by simp [TlsState.initial]; omega)
  · rw [h] at hnew htext
    have hne : e.metadata ≠ m := by simpa using hnew
    exact hne (by simpa using htext)

theorem handshake_spec (a : Attempt) {tls : TlsState} (h : Renews σ f tls w.state) :
    (handshake a).wp w ⟨fun _ w' => Renews σ f tls w'.state, fun e w' => Renews σ f tls w'.state ∧
      ∃ message, e = .handshake message, fun _ => False⟩ := by
  unfold handshake
  cases a.failure with
  | none => exact h
  | some message => exact ⟨h, message, rfl⟩

/-- **One attempt.** -/
theorem secureConnection_spec (h : Adopted σ f w.state) : (secureConnection σ f a).wp w
    ⟨fun _ w' => Renews σ f w.state w'.state,
      fun e w' => w'.state = w.state ∨ Renews σ f w.state w'.state ∧ ∃ message, e = .handshake message,
      fun w' => w'.state = w.state⟩ := by
  refine wp_look_bind ?_ fun _ => Or.inl rfl
  rcases htext : (σ.sys w.pos).store.text with _ | m
  · exact Or.inl rfl
  refine wp_demand_bind (fun hvalid => ?_) fun _ => Or.inl rfl
  rw [Bool.and_eq_true, decide_eq_true_eq, Bool.not_eq_true'] at hvalid
  obtain ⟨hm, hstale⟩ := hvalid
  have hw : Advances w w.next := (Advances.refl w).next
  refine wp_bind_of (verifyMember_spec σ m f.ca hw) (fun _ w₁ ⟨hw₁, hca⟩ => ?_)
    (fun _ _ h => Or.inl h.state) fun _ h => h.state
  refine wp_bind_of (verifyMember_spec σ m f.certificate hw₁) (fun _ w₂ ⟨hw₂, hcertificate⟩ => ?_)
    (fun _ _ h => Or.inl h.state) fun _ h => h.state
  refine wp_bind_of (verifyMember_spec σ m f.privateKey hw₂) (fun _ w₃ ⟨hw₃, hkey⟩ => ?_)
    (fun _ _ h => Or.inl h.state) fun _ h => h.state
  obtain ⟨k₁, hk₁, hk₁', hca⟩ := hca
  obtain ⟨k₂, hk₂, hk₂', hcertificate⟩ := hcertificate
  obtain ⟨k₃, hk₃, hk₃', hkey⟩ := hkey
  have hnext : w.next.pos = w.pos + 1 := rfl
  change (onlyIf (w.state.context.isNone || w.state.text ≠ some (.published m)) _ >>= _).wp w₃ _
  cases hnew : (w.state.context.isNone || w.state.text ≠ some (.published m)) with
  | false =>
    rw [onlyIf_false]
    exact wp_mono (handshake_spec a (Or.inl hw₃.state)) (fun _ _ => id) (fun _ _ => Or.inr)
      fun _ => False.elim
  | true =>
    refine wp_bind_of (adopt_spec htext hm (by omega) ⟨k₁, by omega, by omega, hca⟩
      ⟨k₂, by omega, by omega, hcertificate⟩ ⟨k₃, by omega, hk₃', hkey⟩ hw₃) (fun _ w₄ hw₄ => ?_)
      (fun _ _ h => Or.inl h.state) fun _ h => h.state
    have hlt := lt_of_renewed h hm hstale hnew
    rw [← hw₄.generation] at hlt
    exact wp_mono (handshake_spec a (Or.inr ⟨hlt, hw₄.adopted⟩)) (fun _ _ => id)
      (fun _ _ => Or.inr) fun _ => False.elim

end attempts

/-! ## All attempts of a transport -/

section runs

variable {r : Reference} {σ : Schedule r} {f : TlsFiles}

/-- An attempt to connect, however it ends. -/
def connect (σ : Schedule r) (f : TlsFiles) (w : Cursor TlsState) (a : Attempt) : Cursor TlsState :=
  ((secureConnection σ f a).run w).world

theorem connect_renews {w : Cursor TlsState} (h : Adopted σ f w.state) (a : Attempt) :
    Renews σ f w.state (connect σ f w a).state := by
  have hspec := secureConnection_spec (a := a) h
  rw [wp] at hspec
  rw [connect]
  rcases hrun : (secureConnection σ f a).run w with ⟨_, w'⟩ | ⟨e, w'⟩ | w' <;> rw [hrun] at hspec
  · exact hspec
  · exact hspec.elim Or.inl And.left
  · exact Or.inl hspec

theorem Renews.adopted {tls tls' : TlsState} (h : Renews σ f tls tls') (hadopted : Adopted σ f tls) :
    Adopted σ f tls' := by
  rcases h with rfl | ⟨-, h⟩
  · exact hadopted
  · exact h

theorem Renews.trans {tls tls' tls'' : TlsState} (h : Renews σ f tls tls') (h' : Renews σ f tls' tls'') :
    Renews σ f tls tls'' := by
  rcases h with rfl | ⟨hlt, hadopted⟩
  · exact h'
  · rcases h' with rfl | ⟨hlt', hadopted'⟩
    · exact Or.inr ⟨hlt, hadopted⟩
    · exact Or.inr ⟨hlt.trans hlt', hadopted'⟩

theorem states_renew {w : Cursor TlsState} (h : Adopted σ f w.state) (attempts : List Attempt) :
    (∀ w' ∈ Runs.states (connect σ f) w attempts, Renews σ f w.state w'.state) ∧
    (∀ w' ∈ Runs.states (connect σ f) w attempts, Adopted σ f w'.state) ∧
    (Runs.states (connect σ f) w attempts).Pairwise fun v v' => Renews σ f v.state v'.state := by
  induction attempts generalizing w with
  | nil =>
    refine ⟨fun w' hw' => ?_, fun w' hw' => ?_, List.pairwise_singleton _ _⟩
    · rw [List.mem_singleton.1 hw']
      exact Or.inl rfl
    · rw [List.mem_singleton.1 hw']
      exact h
  | cons a attempts ih =>
    have hstep := connect_renews h a
    obtain ⟨hfirst, hall, hpairs⟩ := ih (hstep.adopted h)
    have hlater : ∀ w' ∈ Runs.states (connect σ f) (connect σ f w a) attempts,
        Renews σ f w.state w'.state := fun w' hw' => hstep.trans (hfirst w' hw')
    refine ⟨?_, ?_, List.pairwise_cons.2 ⟨hlater, hpairs⟩⟩
    · exact List.forall_mem_cons.2 ⟨Or.inl rfl, hlater⟩
    · exact List.forall_mem_cons.2 ⟨h, hall⟩

end runs

/-- **Connections during rotations.**  For every history of rotations and every sequence of
    attempts: the context is always that of an edition, with the files whose digests the
    recorded generation lists; the generation never goes back, and while it is the same so
    are the text and the context; an attempt that fails before the handshake changes nothing. -/
theorem tls_adopts_editions {r : Reference} (σ : Schedule r) (f : TlsFiles) (attempts : List Attempt)
    (pos : ℕ) :
    let states := Runs.states (connect σ f) ⟨pos, .initial⟩ attempts
    (∀ w ∈ states, Adopted σ f w.state) ∧
    (states.Pairwise fun w w' => w.state.generation ≤ w'.state.generation ∧
      (w.state.generation = w'.state.generation → w'.state = w.state)) ∧
    ∀ w ∈ states, ∀ a e w', (secureConnection σ f a).run w = .threw e w' →
      w'.state = w.state ∨ ∃ message, e = .handshake message := by
  intro states
  have hinitial : Adopted σ f TlsState.initial := Or.inl rfl
  obtain ⟨-, hall, hpairs⟩ := states_renew (w := ⟨pos, .initial⟩) hinitial attempts
  refine ⟨hall, hpairs.imp fun hrenews => ?_, fun w hw a e w' hrun => ?_⟩
  · rcases hrenews with heq | ⟨hlt, -⟩
    · rw [heq]
      exact ⟨le_rfl, fun _ => rfl⟩
    · exact ⟨hlt.le, fun heq => absurd heq hlt.ne⟩
  · have hspec := secureConnection_spec (a := a) (hall w hw)
    rw [wp, hrun] at hspec
    exact hspec.imp id And.right

/-! ### A handshake that fails -/

/-- The credentials of a lab, before any rotation. -/
def labReference : Reference := ⟨"receiver", ["ca.pem", "cert.pem", "key.pem"], byteText⟩

def labSchedule : Schedule labReference where
  sys := fun _ => staged labReference (fun _ => [1]) 0
  reachable := ⟨fun _ => [1], 0, .refl⟩
  later := fun _ => .refl
  succeeds := fun _ => true

def labFiles : TlsFiles := ⟨"ca.pem", "cert.pem", "key.pem"⟩

def refusedAttempt : Attempt := ⟨true, fun _ => true, fun _ => true, fun _ _ => true, some "TLS connect"⟩

/-- The first attempt fails in its handshake, and records the generation. -/
theorem refused_handshake_recorded : ∃ w', (secureConnection labSchedule labFiles refusedAttempt).run
    ⟨0, .initial⟩ = .threw (.handshake "TLS connect") w' ∧
    w'.state.generation ≠ TlsState.initial.generation :=
  ⟨_, rfl, by decide⟩

end GraphX.TlsRotation
