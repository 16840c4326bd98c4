/-
  Reading a staged credential while it is rotated (`CredentialReader.read` in
  `apps/telemetry/credentials.mjs`).

  A read takes `generation.json`, the members and, for a while after a rotation, the members
  that were replaced, and then `generation.json` once more; if it has changed it starts
  again.  The overlap ends at a time that the rotation published, by the clock on the wall;
  the reader turns it into a deadline of its own clock when it sees the generation for the
  first time.  Both clocks advance equally: `origin` is what they differ by.

  `checked` in a result is not in the source: it is the last time the clock was read.

  * **`reads_proper`**: all results of a reader are proper, and generations do not go back.
-/
import GraphX.Rotation

namespace GraphX.CredentialReader

open Imperative Imperative.Act Rotation

/-! ## Reading -/

/-- What a reader remembers of a reference. -/
structure Known where
  generation : ℕ
  deadline : ℤ
  hash : String

structure Credential where
  members : List (String × Bytes)
  previous : List (String × Bytes)
  generation : ℕ
  checked : ℤ
  deriving DecidableEq

/-- A reader of a reference. -/
structure Reader where
  allowed : Bool
  /-- The monotonic clock when the wall clock was zero. -/
  origin : ℤ
  hash : GenerationFile → String

abbrev Read := Reading (Option Known)

def maxSafeInteger : ℕ := 9007199254740991

/-- `slice().sort().join()`; no name has a comma. -/
def sortNames (names : List String) : List String := names.mergeSort (· ≤ ·)

section read

variable {r : Reference} (σ : Schedule r)

/-- The files of the members, each with the digest it must have. -/
def readFiles (file : String → Store → Option Bytes) (digests : List (String × String))
    (message : String) : List String → Read (List (String × Bytes))
  | [] => return []
  | name :: names => do
    let found ← look σ fun s => file name s.store
    match found with
    | none => throw .unreadable
    | some bytes =>
      demand (digests.lookup name = some (r.sha256 bytes)) message
      let rest ← readFiles file digests message names
      return (name, bytes) :: rest

/-- The text is older than what the reader knows, or another text of that generation. -/
def stale (reader : Reader) (known : Option Known) (text : GenerationFile) (m : Metadata) : Bool :=
  known.any fun k => m.generation < k.generation ||
    (m.generation = k.generation && k.hash ≠ reader.hash text)

def validMetadata (reader : Reader) (known : Option Known) (text : GenerationFile) (m : Metadata) :
    Bool :=
  m.identity = r.identity && 1 ≤ m.generation && m.generation ≤ maxSafeInteger &&
    !stale reader known text m && sortNames (m.members.map Prod.fst) = sortNames r.members

/-- What the reader knows of this generation. -/
def sameGeneration (known : Option Known) (m : Metadata) : Option Known :=
  known.filter (·.generation = m.generation)

def overlapDeadline (reader : Reader) (known : Option Known) (m : Metadata) (p : Overlap) : Read ℤ :=
  match sameGeneration known m with
  | some k => return k.deadline
  | none => do
    let now ← lookClock σ
    let wall ← lookClock σ
    return now + reader.origin + max 0 (min (p.graceMs : ℤ) (p.expiresAt - wall))

/-- The previous members, the deadline, and the clock when it was compared. -/
def readPrevious (reader : Reader) (known : Option Known) (m : Metadata) :
    Read (List (String × Bytes) × ℤ × ℤ) :=
  match m.previous with
  | none => return ([], ((sameGeneration known m).map Known.deadline).getD 0, 0)
  | some p => do
    demand (p.graceMs ≤ 60000 && p.expiresAt.natAbs ≤ maxSafeInteger) "credential overlap is invalid"
    let deadline ← overlapDeadline σ reader known m p
    let now ← lookClock σ
    if now + reader.origin < deadline then
      let previous ← readFiles σ (fun n store => store.previous n) p.members
        "previous credential generation is incomplete" r.members
      return (previous, deadline, now)
    else return ([], deadline, now)

/-- One turn of the loop; nothing if the generation has changed meanwhile. -/
def readAttempt (reader : Reader) : Read (Option Credential) := do
  let before ← look σ fun s => s.store.text
  let known := (← get).state
  match before with
  | .publishing => throw (.refused "credential generation is invalid or stale")
  | .published m =>
    demand (validMetadata (r := r) reader known before m) "credential generation is invalid or stale"
    let members ← readFiles σ (fun n store => some (store.member n)) m.members
      "credential generation is incomplete" r.members
    let (previous, deadline, checked) ← readPrevious σ reader known m
    let after ← look σ fun s => s.store.text
    if after = before then
      modify fun w => { w with state := some ⟨m.generation, deadline, reader.hash before⟩ }
      return some ⟨members, previous, m.generation, checked⟩
    else return none

def readAttempts (reader : Reader) : ℕ → Read Credential
  | 0 => throw (.refused "credential generation changed while reading")
  | n + 1 => do
    let found ← readAttempt σ reader
    match found with
    | some c => return c
    | none => readAttempts reader n

def read (reader : Reader) : Read Credential := do
  demand reader.allowed "credential reference is unavailable to this consumer"
  readAttempts σ reader 3

end read

/-! ## Results -/

/-- The result is that of an edition.  Its previous members are those of the edition before;
    they were taken before the time published for it, and not later than 60 seconds after
    it was published. -/
structure Proper {r : Reference} (σ : Schedule r) (c : Credential) : Prop where
  edition : ∃ i e older, (σ.sys i).editions = e :: older ∧
    c.generation = e.metadata.generation ∧ c.members = r.members.map (fun n => (n, e.members n)) ∧
    (c.previous ≠ [] → ∃ e' rest p, older = e' :: rest ∧
      e.metadata.generation = e'.metadata.generation + 1 ∧
      c.previous = r.members.map (fun n => (n, e'.members n)) ∧ e.metadata.previous = some p ∧
      c.checked < p.expiresAt ∧ c.checked ≤ e.publishedAt + 60000)

/-- The deadline is not after the time that was published, for a clock not before `since`. -/
def Bounds (reader : Reader) (deadline expiresAt since : ℤ) : Prop :=
  ∀ now, since ≤ now → now + reader.origin < deadline → now < expiresAt

def Remembers {r : Reference} (σ : Schedule r) (reader : Reader) (w : Cursor (Option Known)) : Prop :=
  ∀ k, w.state = some k → ∃ i m, i < w.pos ∧ (σ.sys i).store.text = .published m ∧
    m.generation = k.generation ∧ ∀ p, m.previous = some p →
      ∃ since, since ≤ (σ.sys w.pos).clock ∧ Bounds reader k.deadline p.expiresAt since

section results

variable {r : Reference} {σ : Schedule r} {reader : Reader} {w w' w'' : Cursor (Option Known)}
  {m : Metadata}

theorem Remembers.advances (h : Remembers σ reader w) (hw : Advances w w') :
    Remembers σ reader w' := by
  intro k hk
  obtain ⟨i, m, hi, htext, hgeneration, hbounds⟩ := h k (hw.state ▸ hk)
  refine ⟨i, m, hi.trans_le hw.pos, htext, hgeneration, fun p hp => ?_⟩
  obtain ⟨since, hsince, hbound⟩ := hbounds p hp
  exact ⟨since, hsince.trans (σ.clock_le_of_le hw.pos), hbound⟩

/-- **The files that are read**, if the directory stays as it is meanwhile. -/
theorem readFiles_spec (file : String → Store → Option Bytes) (digests : List (String × String))
    (message : String) (names : List String) (w : Cursor (Option Known)) :
    (readFiles σ file digests message names).wp w
      ⟨fun l w' => Advances w w' ∧ ∀ store, (∀ k, w.pos ≤ k → k < w'.pos →
          (σ.sys k).store = store) → l.map (fun x => (x.1, some x.2)) =
            names.map fun n => (n, file n store),
        fun _ => Advances w, Advances w⟩ := by
  induction names generalizing w with
  | nil => exact ⟨.refl w, fun store _ => rfl⟩
  | cons name names ih =>
    refine wp_look_bind ?_ fun _ => (Advances.refl w).next
    rcases hfound : file name (σ.sys w.pos).store with _ | bytes
    · exact (Advances.refl w).next
    refine wp_demand_bind (fun _ => ?_) fun _ => (Advances.refl w).next
    refine wp_bind_of (ih w.next) (fun rest w' hrest => ?_) (fun _ w' h => (Advances.refl w).next.trans h)
      fun w' h => (Advances.refl w).next.trans h
    obtain ⟨hadvances, hrest⟩ := hrest
    refine ⟨(Advances.refl w).next.trans hadvances, fun store hstore => ?_⟩
    have hpos : w.pos < w'.pos := hadvances.pos
    rw [List.map_cons, List.map_cons, hrest store fun k hk => hstore k (by
      have : w.next.pos = w.pos + 1 := rfl
      omega)]
    rw [hstore w.pos le_rfl hpos] at hfound
    rw [hfound]

theorem bounds_overlapDeadline {now wall grace expiresAt : ℤ} (hclock : now ≤ wall) :
    Bounds reader (now + reader.origin + max 0 (min grace (expiresAt - wall))) expiresAt now := by
  intro t ht hlt
  omega

theorem overlapDeadline_spec (h : Remembers σ reader w) {j : ℕ} (hj : w.pos ≤ j)
    (htext : (σ.sys j).store.text = .published m) {p : Overlap} (hp : m.previous = some p)
    (hw : Advances w w') :
    (overlapDeadline σ reader w.state m p).wp w'
      ⟨fun deadline w'' => Advances w' w'' ∧ ∃ since, since ≤ (σ.sys w''.pos).clock ∧
        Bounds reader deadline p.expiresAt since, fun _ => Advances w', Advances w'⟩ := by
  rw [overlapDeadline]
  rcases hknown : sameGeneration w.state m with _ | k
  · have hlater : Advances w' w'.next.next := (Advances.refl w').next.next
    exact ⟨hlater, _, σ.clock_le_of_le hlater.pos,
      bounds_overlapDeadline (σ.clock_le_of_le (Nat.le_succ _))⟩
  · obtain ⟨hk, hsame⟩ := Option.filter_eq_some_iff.1 hknown
    obtain ⟨i, m', hi, htext', hgeneration, hbounds⟩ := h k hk
    -- the generation that was seen before is the one seen now
    obtain rfl := σ.text_unique (hi.le.trans hj) htext' htext
      ((of_decide_eq_true hsame).symm.trans hgeneration.symm)
    obtain ⟨since, hsince, hbound⟩ := hbounds p hp
    exact ⟨.refl w', since, hsince.trans (σ.clock_le_of_le hw.pos), hbound⟩

/-- What is read of the overlap. -/
structure Overlapped (σ : Schedule r) (reader : Reader) (m : Metadata) (w' : Cursor (Option Known))
    (x : List (String × Bytes) × ℤ × ℤ) (w'' : Cursor (Option Known)) : Prop where
  advances : Advances w' w''
  deadline : ∀ p, m.previous = some p → ∃ since, since ≤ (σ.sys w''.pos).clock ∧
    Bounds reader x.2.1 p.expiresAt since
  previous : x.1 ≠ [] → (∃ p, m.previous = some p ∧ x.2.2 < p.expiresAt) ∧
    ∀ store, (∀ k, w'.pos ≤ k → k < w''.pos → (σ.sys k).store = store) →
      x.1.map (fun y => (y.1, some y.2)) = r.members.map fun n => (n, store.previous n)

theorem readPrevious_spec (h : Remembers σ reader w) {j : ℕ} (hj : w.pos ≤ j)
    (htext : (σ.sys j).store.text = .published m) (hw : Advances w w') :
    (readPrevious σ reader w.state m).wp w'
      ⟨Overlapped σ reader m w', fun _ => Advances w', Advances w'⟩ := by
  rw [readPrevious]
  rcases hp : m.previous with _ | p
  · exact ⟨.refl w', by simp [hp], by simp⟩
  refine wp_demand_bind (fun _ => ?_) fun _ => .refl w'
  refine wp_bind_of (overlapDeadline_spec h hj htext hp hw) (fun deadline w₁ hdeadline => ?_)
    (fun _ _ => id) fun _ => id
  obtain ⟨hw₁, since, hsince, hbound⟩ := hdeadline
  refine wp_lookClock_bind ?_
  have hw₂ : Advances w' w₁.next := hw₁.next
  -- the deadline is kept for the reads to come
  have hkept : ∀ w₃, Advances w₁.next w₃ → ∀ p', m.previous = some p' →
      ∃ since, since ≤ (σ.sys w₃.pos).clock ∧ Bounds reader deadline p'.expiresAt since := by
    intro w₃ hw₃ p' hp'
    obtain rfl := Option.some.inj (hp.symm.trans hp')
    exact ⟨since, hsince.trans (σ.clock_le_of_le ((Advances.refl w₁).next.trans hw₃).pos), hbound⟩
  split_ifs with hcheck
  · have hexpires : (σ.sys w₁.pos).clock < p.expiresAt := hbound _ hsince hcheck
    refine wp_bind_of (readFiles_spec _ _ _ _ _) (fun previous w₃ hprevious => ?_)
      (fun _ _ h => hw₂.trans h) fun _ h => hw₂.trans h
    obtain ⟨hw₃, hprevious⟩ := hprevious
    refine ⟨hw₂.trans hw₃, hkept w₃ hw₃, fun _ => ⟨⟨p, hp, hexpires⟩, fun store hstore => ?_⟩⟩
    exact hprevious store fun k hk => hstore k (hw₂.pos.trans hk)
  · exact ⟨hw₂, hkept _ (.refl _), by simp⟩

/-! ## Attempts -/

/-- What an attempt returns. -/
def Attempted (σ : Schedule r) (reader : Reader) (w : Cursor (Option Known)) :
    Option Credential → Cursor (Option Known) → Prop
  | none, w' => Advances w w'
  | some c, w' => w.pos ≤ w'.pos ∧ Remembers σ reader w' ∧ Proper σ c ∧
      (∃ k, w'.state = some k ∧ k.generation = c.generation) ∧
      ∀ k, w.state = some k → k.generation ≤ c.generation

theorem map_some_injective {l l' : List (String × Bytes)}
    (h : l.map (fun x => (x.1, some x.2)) = l'.map fun x => (x.1, some x.2)) : l = l' := by
  refine List.map_injective_iff.2 ?_ h
  rintro ⟨n, b⟩ ⟨n', b'⟩ heq
  simpa using heq

/-- **What was read of a generation belongs to an edition.** -/
theorem proper_of_store {i : ℕ} (htext : (σ.sys i).store.text = .published m)
    {members previous : List (String × Bytes)} {checked : ℤ}
    (hmembers : members.map (fun x => (x.1, some x.2)) =
      r.members.map fun n => (n, some ((σ.sys i).store.member n)))
    (hprevious : previous ≠ [] → (∃ p, m.previous = some p ∧ checked < p.expiresAt) ∧
      previous.map (fun x => (x.1, some x.2)) =
        r.members.map fun n => (n, (σ.sys i).store.previous n)) :
    Proper σ ⟨members, previous, m.generation, checked⟩ := by
  obtain ⟨e, older, heditions, rfl, -, hmember, hhistory⟩ := (σ.reachable_sys i).inv.visible htext
  refine ⟨i, e, older, heditions, rfl, map_some_injective ?_, fun hne => ?_⟩
  · rw [hmembers, hmember, List.map_map]
    rfl
  · obtain ⟨⟨p, hp, hchecked⟩, hfiles⟩ := hprevious hne
    rw [heditions] at hhistory
    cases older with
    | nil =>
      rw [hhistory.2] at hp
      cases hp
    | cons e' rest =>
      obtain ⟨hsucceeds, hkeeps⟩ := hhistory
      obtain ⟨p', hp', -, hexpires, -⟩ := hsucceeds.overlap
      obtain rfl := Option.some.inj (hp.symm.trans hp')
      refine ⟨e', rest, p, rfl, hsucceeds.generation, map_some_injective ?_, hp, hchecked, ?_⟩
      · rw [hfiles, List.map_map]
        exact List.map_congr_left fun n hn => by rw [hkeeps n hn]; rfl
      · dsimp only
        omega

theorem readAttempt_spec (h : Remembers σ reader w) : (readAttempt σ reader).wp w
    ⟨Attempted σ reader w, fun _ => Advances w, Advances w⟩ := by
  refine wp_look_bind ?_ fun _ => (Advances.refl w).next
  rcases htext : (σ.sys w.pos).store.text with _ | m
  · exact (Advances.refl w).next
  refine wp_demand_bind (fun hvalid => ?_) fun _ => (Advances.refl w).next
  refine wp_bind_of (readFiles_spec _ _ _ _ _) (fun members w₁ hmembers => ?_)
    (fun _ _ h => (Advances.refl w).next.trans h) fun _ h => (Advances.refl w).next.trans h
  obtain ⟨hw₁, hmembers⟩ := hmembers
  have hw₁' : Advances w w₁ := (Advances.refl w).next.trans hw₁
  refine wp_bind_of (readPrevious_spec (w := w) h le_rfl htext hw₁') (fun x w₂ hx => ?_)
    (fun _ _ h => hw₁'.trans h) fun _ h => hw₁'.trans h
  have hw₂ : Advances w w₂ := hw₁'.trans hx.advances
  refine wp_look_bind ?_ fun _ => hw₂.next
  split_ifs with hagain
  · -- the generation is the same again: nothing has changed in between
    have hstore : ∀ k, w.pos ≤ k → k < w₂.pos → (σ.sys k).store = (σ.sys w.pos).store :=
      fun k hk hk' => (σ.frozen hk hk'.le htext hagain rfl).1
    have hproper := proper_of_store htext
      (hmembers _ fun k hk hk' => hstore k (by
        have : w.next.pos = w.pos + 1 := rfl
        omega) (hk'.trans_le hx.advances.pos))
      fun hne => ⟨(hx.previous hne).1, (hx.previous hne).2 _ fun k hk hk' =>
        hstore k (hw₁'.pos.trans hk) hk'⟩
    refine ⟨hw₂.pos.trans (Nat.le_succ _), ?_, hproper, ⟨_, rfl, rfl⟩, fun k hk => ?_⟩
    · intro k hk
      obtain rfl := Option.some.inj hk
      refine ⟨w.pos, m, Nat.lt_succ_of_le hw₂.pos, htext, rfl, fun p hp => ?_⟩
      obtain ⟨since, hsince, hbound⟩ := hx.deadline p hp
      exact ⟨since, hsince.trans (σ.clock_le_of_le (Nat.le_succ _)), hbound⟩
    · simp only [validMetadata, stale, Cursor.next, hk, Option.any_some, Bool.and_eq_true,
        Bool.not_eq_true', Bool.or_eq_false_iff, decide_eq_false_iff_not, not_lt] at hvalid
      exact hvalid.1.2.1
  · exact hw₂.next

def ReadReturns (σ : Schedule r) (reader : Reader) (w : Cursor (Option Known)) (c : Credential)
    (w' : Cursor (Option Known)) : Prop := Attempted σ reader w (some c) w'

theorem readAttempts_spec (h : Remembers σ reader w) (n : ℕ) : (readAttempts σ reader n).wp w
    ⟨ReadReturns σ reader w, fun _ => Advances w, Advances w⟩ := by
  induction n generalizing w with
  | zero => exact .refl w
  | succ n ih =>
    refine wp_bind_of (readAttempt_spec h) (fun found w₁ hfound => ?_) (fun _ _ => id) fun _ => id
    cases found with
    | some c => exact hfound
    | none =>
      refine wp_mono (ih (h.advances hfound)) (fun c w₂ hc => ?_) (fun _ _ h => hfound.trans h)
        fun _ h => hfound.trans h
      obtain ⟨hpos, hremembers, hproper, hknown, hle⟩ := hc
      exact ⟨hfound.pos.trans hpos, hremembers, hproper, hknown, fun k hk =>
        hle k (hfound.state.trans hk)⟩

theorem read_spec (h : Remembers σ reader w) : (read σ reader).wp w
    ⟨ReadReturns σ reader w, fun _ => Advances w, Advances w⟩ :=
  wp_demand_bind (fun _ => readAttempts_spec h 3) fun _ => .refl w

end results

/-! ## All reads of a reader -/

def reads {r : Reference} (σ : Schedule r) (reader : Reader) :
    ℕ → Cursor (Option Known) → List (Except ReadFailure Credential)
  | 0, _ => []
  | n + 1, w =>
    match (read σ reader).run w with
    | .returned c w' => .ok c :: reads σ reader n w'
    | .threw e w' => .error e :: reads σ reader n w'
    | .blocked _ => []

/-- A reader that was just created. -/
def created (pos : ℕ) : Cursor (Option Known) := ⟨pos, none⟩

/-- The credentials are proper, of generations that do not go back, not before `known`. -/
structure Ordered {r : Reference} (σ : Schedule r) (known : Option Known)
    (cs : List Credential) : Prop where
  proper : ∀ c ∈ cs, Proper σ c
  generations : cs.Pairwise fun c c' => c.generation ≤ c'.generation
  known : ∀ k, known = some k → ∀ c ∈ cs, k.generation ≤ c.generation

theorem reads_ordered {r : Reference} (σ : Schedule r) (reader : Reader) (n : ℕ)
    {w : Cursor (Option Known)} (h : Remembers σ reader w) :
    Ordered σ w.state ((reads σ reader n w).filterMap Except.toOption) := by
  induction n generalizing w with
  | zero => exact ⟨by simp [reads], by simp [reads], by simp [reads]⟩
  | succ n ih =>
    have hspec := read_spec h
    rw [wp] at hspec
    rw [reads]
    rcases hrun : (read σ reader).run w with ⟨c, w'⟩ | ⟨e, w'⟩ | w'
    · rw [hrun] at hspec
      obtain ⟨-, hremembers, hproper, ⟨k', hk', hgeneration⟩, hle⟩ := hspec
      obtain ⟨hp, hg, hk⟩ := ih hremembers
      -- the later results are of generations that are not before this one
      have hlater := hk k' hk'
      rw [hgeneration] at hlater
      refine ⟨?_, List.pairwise_cons.2 ⟨hlater, hg⟩, fun k hknown => ?_⟩
      · exact List.forall_mem_cons.2 ⟨hproper, hp⟩
      · exact List.forall_mem_cons.2 ⟨hle k hknown, fun c' hc' =>
          (hle k hknown).trans (hlater c' hc')⟩
    · rw [hrun] at hspec
      have hrest := ih (h.advances hspec)
      rwa [show w'.state = w.state from hspec.state] at hrest
    · exact ⟨by simp, by simp, by simp⟩

/-- **Reads during rotations.**  For every reference, every history of rotations and every
    reader that is created at any time: each result has the members of an edition; previous
    members are returned only before the time that was published, at most 60 seconds after
    the edition was, and they are those of the edition before; and the generations that the
    reader returns do not go back. -/
theorem reads_proper {r : Reference} (σ : Schedule r) (reader : Reader) (n pos : ℕ) :
    (∀ c ∈ (reads σ reader n (created pos)).filterMap Except.toOption, Proper σ c) ∧
    ((reads σ reader n (created pos)).filterMap Except.toOption).Pairwise
      fun c c' => c.generation ≤ c'.generation := by
  have hcreated : Remembers σ reader (created pos) := by
    intro k hk
    cases hk
  have hordered := reads_ordered σ reader n hcreated
  exact ⟨hordered.proper, hordered.generations⟩

/-! ### A read during an overlap -/

def tokenReference : Reference := ⟨"observer", ["token"], byteText⟩

/-- The token `[1]` is about to be replaced by `[2]`, with an overlap of a minute. -/
def tokenStarted : System where
  store := (staged tokenReference (fun _ => [1]) 0).store
  pending := rotateCredential tokenReference
    ⟨"observer", 1, tokenReference.digests fun _ => [1], none⟩ (fun _ => [1]) (fun _ => [2]) 60
  clock := 0
  editions := (staged tokenReference (fun _ => [1]) 0).editions

def tokenSchedule : Schedule tokenReference where
  sys _ := performs 5 tokenStarted
  reachable := ⟨fun _ => [1], 0, .head (.start _ _ _ 60 rfl rfl (by decide))
    (later_performs 5 tokenStarted)⟩
  later _ := .refl
  succeeds _ := true

example : reads tokenSchedule ⟨true, 0, fun _ => "hash"⟩ 1 (created 0) =
    [.ok ⟨[("token", [2])], [("token", [1])], 2, 0⟩] := by
  decide +kernel

end GraphX.CredentialReader
