/-
  Replays of control commands (`authenticate_command` and the control thread of
  `src/observability.cpp`): a run of calls that share the nonces of one socket.

  A command is accepted within 30 seconds of its timestamp, and its nonce is kept.
  When 4096 nonces are kept all of them are forgotten at once, with no regard to the
  timestamps they belong to.

  * **`command_unrepeatable_iff`**: this stays so iff the nonces are forgotten only
    when all commands accepted so far are too old.
-/
import GraphX.ControlRoundTrip
import GraphX.Lib.Runs

namespace GraphX

open Ecma Search List

/-! ## What is signed -/

/-- The parts of a command that its signature covers. -/
structure SignedCommand where
  timestamp : ℤ
  nonce : Bytes
  payload : Bytes
  deriving DecidableEq

def SignedCommand.text (s : SignedCommand) : Bytes :=
  integerText s.timestamp ++ chars "." ++ s.nonce ++ chars "." ++ s.payload

/-- The parts as `authenticate_command` finds them. -/
def signedParts (input : Bytes) : Option SignedCommand := do
  let auth ← rfind authMarker input
  let timestamp ← commandTimestamp input auth
  return ⟨timestamp, jsonAuthField (input.drop auth) (chars "nonce") 32,
    substr input payloadMarker.length (auth - payloadMarker.length)⟩

/-- The signature of a command, as it is found. -/
def signatureOf (input : Bytes) : Option Bytes :=
  (rfind authMarker input).map fun auth => jsonAuthField (input.drop auth) (chars "signature") 64

/-- The command carries this signed text, with the signature of `secret`. -/
structure Authentic (H : Hmac) (input secret : Bytes) (s : SignedCommand) : Prop where
  secret_ne : secret ≠ []
  leads : payloadMarker.isPrefixOf input = true
  ends : (chars "\x7d\x7d").isSuffixOf input = true
  parts : signedParts input = some s
  nonce_ne : s.nonce ≠ []
  signature : signatureOf input = some (hmacHex H secret s.text)

/-- The timestamp is at most 30 seconds away from the clock. -/
def Timely (s : SignedCommand) (now : Int64) : Prop :=
  now.toInt - 30000 ≤ s.timestamp ∧ s.timestamp ≤ now.toInt + 30000

theorem hmacHex_ne_nil (H : Hmac) (secret value : Bytes) : hmacHex H secret value ≠ [] := by
  rw [← length_pos_iff, hmacHex, length_hexText, H.length_digest]
  decide

variable {input secret : Bytes}

/-- **What is accepted**: an authentic command in time whose nonce is new. -/
theorem authenticateCommand_iff {H : Hmac} {nonces nonces' : Finset Bytes} {now : Int64} :
    authenticateCommand H input secret nonces now = (true, nonces') ↔
      ∃ s, Authentic H input secret s ∧ Timely s now ∧ s.nonce ∉ nonces ∧
        nonces' = insertNonce nonces s.nonce := by
  rw [authenticateCommand]
  constructor
  · intro h
    split at h
    · cases h
    rename_i auth hauth
    split_ifs at h with hform
    · cases h
    simp only [Bool.or_eq_true, Bool.not_eq_true', not_or, Bool.not_eq_false, List.isEmpty_iff]
      at hform
    split at h
    · cases h
    rename_i timestamp htime
    dsimp only at h
    split_ifs at h with hskew hnonce hsign
    · cases h
    · cases h
    · cases h
    simp only [Bool.or_eq_true, decide_eq_true_eq, not_or, not_lt] at hskew
    simp only [Bool.or_eq_true, List.isEmpty_iff, decide_eq_true_eq, not_or] at hnonce
    obtain ⟨-, rfl⟩ := Prod.mk.injEq .. ▸ h
    refine ⟨⟨timestamp, jsonAuthField (input.drop auth) (chars "nonce") 32,
      substr input payloadMarker.length (auth - payloadMarker.length)⟩,
      ⟨hform.1.1, hform.1.2, hform.2, ?_, hnonce.1.1, ?_⟩, hskew, hnonce.2, rfl⟩
    · simp [signedParts, hauth, htime]
    · rw [signatureOf, hauth]
      exact congrArg some (not_not.1 hsign)
  · rintro ⟨s, hs, ⟨hlow, hhigh⟩, hnew, rfl⟩
    obtain ⟨auth, hauth, hparts⟩ := Option.bind_eq_some_iff.1 hs.parts
    obtain ⟨timestamp, htime, hparts⟩ := Option.bind_eq_some_iff.1 hparts
    cases hparts
    have hsignature := hs.signature
    rw [signatureOf, hauth, Option.map_some, Option.some.injEq] at hsignature
    have hsecret := hs.secret_ne
    have hnonce := hs.nonce_ne
    simp [hauth, htime, hs.leads, hs.ends, hsecret, hnonce, hnew, hsignature, hmacHex_ne_nil,
      not_lt.2 hlow, not_lt.2 hhigh, SignedCommand.text]

theorem authenticateCommand_refused {H : Hmac} {nonces nonces' : Finset Bytes} {now : Int64}
    (h : authenticateCommand H input secret nonces now = (false, nonces')) : nonces' = nonces := by
  rw [authenticateCommand] at h
  split at h
  · cases h; rfl
  split_ifs at h
  · cases h; rfl
  split at h
  · cases h; rfl
  dsimp only at h
  split_ifs at h <;> cases h <;> rfl

/-! ## Calls that share the nonces -/

/-- A call of `authenticate_command`. -/
structure CommandCall where
  input : Bytes
  secret : Bytes
  now : Int64

/-- The nonces of a socket, the time of the last call, and the commands that were
    accepted so far. -/
structure CommandLog where
  nonces : Finset Bytes
  clock : ℤ
  accepted : List SignedCommand

namespace CommandLog

/-- The socket when the control thread starts. -/
def start (clock : ℤ) : CommandLog := ⟨∅, clock, []⟩

def accepts (H : Hmac) (log : CommandLog) (c : CommandCall) : Option SignedCommand :=
  if (authenticateCommand H c.input c.secret log.nonces c.now).1 then signedParts c.input else none

def step (H : Hmac) (log : CommandLog) (c : CommandCall) : CommandLog where
  nonces := (authenticateCommand H c.input c.secret log.nonces c.now).2
  clock := c.now.toInt
  accepted := log.accepted ++ (log.accepts H c).toList

/-- The clock does not go back. -/
def Forward (log : CommandLog) (c : CommandCall) : Prop := log.clock ≤ c.now.toInt

/-- No call accepts a command for a second time. -/
def Unrepeatable (H : Hmac) (log : CommandLog) : Prop :=
  ∀ c, log.Forward c → ∀ s, log.accepts H c = some s → s ∉ log.accepted

/-- If the call accepts a command and the nonces are forgotten, then all commands that
    were accepted are too old to be accepted again. -/
def ForgetsOnlyOld (H : Hmac) (log : CommandLog) (c : CommandCall) : Prop :=
  log.accepts H c ≠ none → 4096 ≤ log.nonces.card →
    ∀ s ∈ log.accepted, s.timestamp < c.now.toInt - 30000

variable {H : Hmac} {log : CommandLog} {c : CommandCall} {s : SignedCommand}

theorem accepts_eq_some : log.accepts H c = some s ↔
    Authentic H c.input c.secret s ∧ Timely s c.now ∧ s.nonce ∉ log.nonces := by
  unfold accepts
  constructor
  · intro h
    split_ifs at h with hacc
    obtain ⟨s', hs', htimely, hnew, -⟩ := authenticateCommand_iff.1 (Prod.ext hacc rfl)
    obtain rfl := Option.some.inj (h.symm.trans hs'.parts)
    exact ⟨hs', htimely, hnew⟩
  · rintro ⟨hs, htimely, hnew⟩
    rw [authenticateCommand_iff.2 ⟨s, hs, htimely, hnew, rfl⟩, if_pos rfl, hs.parts]

/-- **One call** accepts a new command, or changes nothing but the clock. -/
theorem step_cases (H : Hmac) (log : CommandLog) (c : CommandCall) :
    (∃ s, log.accepts H c = some s ∧ log.step H c =
      ⟨insertNonce log.nonces s.nonce, c.now.toInt, log.accepted ++ [s]⟩) ∨
    (log.accepts H c = none ∧ log.step H c = ⟨log.nonces, c.now.toInt, log.accepted⟩) := by
  rcases hacc : log.accepts H c with _ | s
  · right
    have hfalse : authenticateCommand H c.input c.secret log.nonces c.now = (false, log.nonces) := by
      rcases hr : authenticateCommand H c.input c.secret log.nonces c.now with ⟨_ | _, nonces⟩
      · rw [authenticateCommand_refused hr]
      · obtain ⟨s, hs, htimely, hnew, -⟩ := authenticateCommand_iff.1 hr
        rw [accepts_eq_some.2 ⟨hs, htimely, hnew⟩] at hacc
        cases hacc
    simp [step, hacc, hfalse]
  · left
    obtain ⟨hs, htimely, hnew⟩ := accepts_eq_some.1 hacc
    have htrue := authenticateCommand_iff.2 ⟨s, hs, htimely, hnew, rfl⟩
    exact ⟨s, rfl, by simp [step, hacc, htrue]⟩

/-- What the log knows of the commands it accepted: how they were signed, and that a nonce
    that was forgotten is of a command that is too old. -/
structure Inv (H : Hmac) (log : CommandLog) : Prop where
  signed : ∀ s ∈ log.accepted, ∃ input secret, Authentic H input secret s
  recent : ∀ s ∈ log.accepted, s.timestamp ≤ log.clock + 30000
  kept : ∀ s ∈ log.accepted, s.nonce ∈ log.nonces ∨ s.timestamp < log.clock - 30000
  nodup : log.accepted.Nodup

theorem Inv.unrepeatable (h : Inv H log) : Unrepeatable H log := by
  intro c hforward s hacc hmem
  obtain ⟨-, ⟨hlow, -⟩, hnew⟩ := accepts_eq_some.1 hacc
  rw [Forward] at hforward
  rcases h.kept s hmem with hkept | hold
  · exact hnew hkept
  · omega

/-- A call that forgets nothing, or only what is too old, keeps the invariant. -/
theorem Inv.step (h : Inv H log) (hforward : log.Forward c) (hforgets : log.ForgetsOnlyOld H c) :
    Inv H (log.step H c) := by
  have hrepeat := h.unrepeatable c hforward
  rw [Forward] at hforward
  rcases step_cases H log c with ⟨s, hacc, hstep⟩ | ⟨-, hstep⟩
  · obtain ⟨hs, ⟨hlow, hhigh⟩, hnew⟩ := accepts_eq_some.1 hacc
    rw [hstep]
    refine ⟨?_, ?_, ?_, ?_⟩
    · intro t ht
      rcases mem_append.1 ht with ht | ht
      · exact h.signed t ht
      · obtain rfl := mem_singleton.1 ht
        exact ⟨_, _, hs⟩
    · intro t ht
      rcases mem_append.1 ht with ht | ht
      · have := h.recent t ht
        dsimp only
        omega
      · obtain rfl := mem_singleton.1 ht
        exact hhigh
    · intro t ht
      rcases mem_append.1 ht with ht | ht
      · by_cases hfull : 4096 ≤ log.nonces.card
        · right
          exact hforgets (by simp [hacc]) hfull t ht
        · rcases h.kept t ht with hkept | hold
          · left
            rw [insertNonce, if_neg hfull]
            exact Finset.mem_insert_of_mem hkept
          · dsimp only
            omega
      · obtain rfl := mem_singleton.1 ht
        left
        exact Finset.mem_insert_self _ _
    · rw [nodup_append]
      refine ⟨h.nodup, nodup_singleton s, ?_⟩
      intro t ht t' ht'
      obtain rfl := mem_singleton.1 ht'
      rintro rfl
      exact hrepeat t hacc ht
  · rw [hstep]
    refine ⟨h.signed, ?_, ?_, h.nodup⟩
    · intro t ht
      have := h.recent t ht
      dsimp only
      omega
    · intro t ht
      rcases h.kept t ht with hkept | hold
      · exact Or.inl hkept
      · dsimp only
        omega

/-- A call that forgets a command that is not too old makes it repeatable: the datagram
    arrives once more. -/
theorem Inv.forgetsOnlyOld (h : Inv H log) (hforward : log.Forward c)
    (hgood : Unrepeatable H (log.step H c)) : log.ForgetsOnlyOld H c := by
  intro hacc hfull t ht
  by_contra hrecent
  rw [not_lt] at hrecent
  rw [Forward] at hforward
  obtain ⟨s, hacc⟩ := Option.ne_none_iff_exists'.1 hacc
  obtain ⟨-, -, hnew⟩ := accepts_eq_some.1 hacc
  obtain ⟨input, secret, hsigned⟩ := h.signed t ht
  have hlast := h.recent t ht
  have hkept : t.nonce ∈ log.nonces := (h.kept t ht).resolve_right (by omega)
  rcases step_cases H log c with ⟨s', hacc', hstep⟩ | ⟨hnone, -⟩
  · obtain rfl := Option.some.inj (hacc.symm.trans hacc')
    rw [hstep] at hgood
    refine hgood ⟨input, secret, c.now⟩ le_rfl t (accepts_eq_some.2 ⟨hsigned, ⟨hrecent, ?_⟩, ?_⟩)
      (mem_append_left _ ht)
    · dsimp only
      omega
    · intro hmem
      rw [insertNonce, if_pos hfull] at hmem
      obtain heq := Finset.mem_singleton.1 (by simpa using hmem)
      exact hnew (heq ▸ hkept)
  · rw [hacc] at hnone
    cases hnone

end CommandLog

/-! ## What is obeyed -/

theorem Authentic.payload_eq {H : Hmac} {s : SignedCommand} (h : Authentic H input secret s) :
    commandPayload input = s.payload := by
  obtain ⟨auth, hauth, hparts⟩ := Option.bind_eq_some_iff.1 h.parts
  obtain ⟨timestamp, -, hparts⟩ := Option.bind_eq_some_iff.1 hparts
  cases hparts
  simp [commandPayload, hauth, h.leads]

/-- The datagram was not acted on, or it was authentic and its action and its answer are
    those of the signed payload. -/
def Covered (H : Hmac) (sink : UdpJsonTraceSink) (m : ControlMoment) (state : ControlState)
    (datagram : Bytes) : Prop :=
  let r := sink.receiveCommand H m state datagram
  (r.1.paused = state.paused ∧ r.2 = none) ∨
  ∃ secret s action, sink.secret m.received = .ok secret ∧
    Authentic H (datagram.take 2048) secret s ∧ Timely s m.received.now ∧ s.nonce ∉ state.nonces ∧
    sink.commandAction s.payload m.now = some action ∧
    r.1.paused = decide (action = .pause) ∧
    r.2 = some (sink.sign H m.answered (sink.acknowledgementPayload action
      (jsonStringField s.payload (chars "commandId") 36) (decide (action = .pause))))

theorem receiveCommand_covered (H : Hmac) (sink : UdpJsonTraceSink) (m : ControlMoment)
    (state : ControlState) (datagram : Bytes) : Covered H sink m state datagram := by
  unfold Covered UdpJsonTraceSink.receiveCommand
  rcases hsecret : sink.secret m.received with e | secret
  · exact Or.inl ⟨rfl, rfl⟩
  rcases hauth : authenticateCommand H (datagram.take 2048) secret state.nonces m.received.now with
    ⟨_ | _, nonces⟩
  · simp [hauth]
  obtain ⟨s, hs, htimely, hnew, -⟩ := authenticateCommand_iff.1 hauth
  simp only [hauth, hs.payload_eq]
  rcases haction : sink.commandAction s.payload m.now with _ | action
  · exact Or.inl ⟨rfl, rfl⟩
  · exact Or.inr ⟨secret, s, action, rfl, hs, htimely, hnew, haction, rfl, rfl⟩

/-! ## Runs -/

open CommandLog in
/-- **No command is accepted twice** as long as the nonces are forgotten only when all
    commands accepted before are too old; a command that is forgotten earlier can be
    repeated.  What is obeyed is the payload that was signed. -/
theorem command_unrepeatable_iff (H : Hmac) (clock : ℤ) (calls : List CommandCall)
    (hforward : Runs.Along (step H) Forward (start clock) calls) :
    ((∀ log ∈ Runs.states (step H) (start clock) calls,
        log.accepted.Nodup ∧ Unrepeatable H log) ↔
      Runs.Along (step H) (ForgetsOnlyOld H) (start clock) calls) ∧
    ∀ sink m state datagram, Covered H sink m state datagram := by
  have hstart : Inv H (start clock) := ⟨by simp [start], by simp [start], by simp [start],
    nodup_nil⟩
  have hgood : ∀ log, Inv H log → log.accepted.Nodup ∧ Unrepeatable H log :=
    fun log h => ⟨h.nodup, h.unrepeatable⟩
  refine ⟨Runs.forall_states_iff hgood ?_ ?_ hstart hforward,
    fun sink m state datagram => receiveCommand_covered H sink m state datagram⟩
  · intro log c h hforward hforgets
    exact h.step hforward hforgets
  · rintro log c h hforward ⟨-, hgood⟩
    exact h.forgetsOnlyOld hforward hgood

/-! ### 4097 commands in a minute -/

def commandNonce (n : ℕ) : Bytes := hexText (Codec.toBE 16 n)

def commandSecret : Bytes := chars "runtime-control-secret"

/-- The `n`-th command of a sender. -/
def manyCommands (H : Hmac) (n : ℕ) : CommandCall where
  input := signedCommand (chars "\x7b\x7d") 0 (commandNonce n) (hmacHex H commandSecret
    (integerText 0 ++ chars "." ++ commandNonce n ++ chars "." ++ chars "\x7b\x7d"))
  secret := commandSecret
  now := 0

theorem commandNonce_injective {m n : ℕ} (hm : m < 256 ^ 16) (hn : n < 256 ^ 16)
    (h : commandNonce m = commandNonce n) : m = n := by
  have hpack := congrArg packHex h
  rw [commandNonce, commandNonce, hexText, hexText, packHex_flatMap, packHex_flatMap,
    Except.ok.injEq] at hpack
  have hvalue := congrArg Codec.ofBE hpack
  rwa [Codec.ofBE_toBE, Codec.ofBE_toBE, Nat.mod_eq_of_lt hm, Nat.mod_eq_of_lt hn] at hvalue

open CommandLog in
theorem manyCommands_accepted {H : Hmac} {log : CommandLog} {n : ℕ} (hnew : commandNonce n ∉ log.nonces) :
    ∃ s, signedParts (manyCommands H n).input = some s ∧ log.step H (manyCommands H n) =
      ⟨insertNonce log.nonces (commandNonce n), 0, log.accepted ++ [s]⟩ := by
  have hsigned : authenticateCommand H (manyCommands H n).input commandSecret log.nonces 0
      = (true, insertNonce log.nonces (commandNonce n)) :=
    (authenticateCommand_signed (chars "\x7b\x7d") log.nonces (by decide) (by norm_num) (by norm_num)
      (by decide) (bare_hexText _) (by rw [length_hexText, Codec.length_toBE])
      (comma_not_mem_hexText _) hnew rfl (comma_not_mem_hexText _)).1
  obtain ⟨s, hs, htimely, hnonce, -⟩ := authenticateCommand_iff.1 hsigned
  refine ⟨s, hs.parts, ?_⟩
  have hacc : log.accepts H (manyCommands H n) = some s :=
    accepts_eq_some.2 ⟨hs, htimely, hnonce⟩
  have hsecret : (manyCommands H n).secret = commandSecret := rfl
  have hnow : (manyCommands H n).now = 0 := rfl
  simp only [CommandLog.step, hacc, hsecret, hnow, hsigned, Option.toList_some, Int64.toInt_zero]

/-- The log after the first commands: it keeps their nonces. -/
structure AfterMany (H : Hmac) (log : CommandLog) (k : ℕ) : Prop where
  clock : log.clock = 0
  nonces : log.nonces = (Finset.range k).image commandNonce
  first : ∃ s ∈ log.accepted, signedParts (manyCommands H 0).input = some s

theorem commandNonce_ne {m n : ℕ} (hm : m < 256 ^ 16) (hn : n < 256 ^ 16) (h : m ≠ n) :
    commandNonce m ≠ commandNonce n := fun heq => h (commandNonce_injective hm hn heq)

namespace AfterMany

variable {H : Hmac} {log : CommandLog} {k : ℕ}

theorem card (h : AfterMany H log k) (hk : k ≤ 4096) : log.nonces.card = k := by
  rw [h.nonces, Finset.card_image_of_injOn, Finset.card_range]
  intro m hm n hn heq
  simp only [Finset.coe_range, Set.mem_Iio] at hm hn
  exact commandNonce_injective (by omega) (by omega) heq

theorem unused (h : AfterMany H log k) (hk : k ≤ 4096) : commandNonce k ∉ log.nonces := by
  rw [h.nonces, Finset.mem_image]
  rintro ⟨m, hm, heq⟩
  rw [Finset.mem_range] at hm
  exact commandNonce_ne (by omega) (by omega) (by omega) heq

theorem step (h : AfterMany H log k) (hk : k < 4096) :
    AfterMany H (log.step H (manyCommands H k)) (k + 1) := by
  obtain ⟨s, -, hstep⟩ := manyCommands_accepted (h.unused hk.le)
  rw [hstep]
  refine ⟨rfl, ?_, ?_⟩
  · rw [insertNonce, if_neg (by rw [h.card hk.le]; omega), h.nonces, Finset.range_add_one,
      Finset.image_insert]
  · obtain ⟨t, ht, hparts⟩ := h.first
    exact ⟨t, mem_append_left _ ht, hparts⟩

end AfterMany

open CommandLog

theorem forward_of_now {H : Hmac} {calls : List CommandCall} (h : ∀ c ∈ calls, c.now = 0) {log : CommandLog}
    (hclock : log.clock = 0) : Runs.Along (step H) Forward log calls := by
  induction calls generalizing log with
  | nil => trivial
  | cons c calls ih =>
    obtain ⟨hc, hcalls⟩ := forall_mem_cons.1 h
    refine ⟨?_, ih hcalls ?_⟩
    · rw [Forward, hclock, hc]
      rfl
    · rw [step, hc]
      rfl

theorem afterMany_run (H : Hmac) {k : ℕ} (hk : k < 4096) : AfterMany H
    (((range (k + 1)).map (manyCommands H)).foldl (step H) (start 0)) (k + 1) := by
  induction k with
  | zero =>
    have hnew : commandNonce 0 ∉ (start 0).nonces := by simp [start]
    obtain ⟨s, hparts, hstep⟩ := manyCommands_accepted hnew
    have hrange : (range (0 + 1)).map (manyCommands H) = [manyCommands H 0] := rfl
    rw [hrange, foldl_cons, hstep]
    exact ⟨rfl, by simp [start, insertNonce], s, by simp, hparts⟩
  | succ k ih =>
    have hlast := (ih (by omega)).step hk
    rwa [range_succ, map_append, foldl_append]

/-- The first `k + 2` commands, and the first one again. -/
def manyCalls (H : Hmac) (k : ℕ) : List CommandCall :=
  (List.range (k + 1)).map (manyCommands H) ++ [manyCommands H (k + 1), manyCommands H 0]

theorem manyCalls_forward (H : Hmac) (k : ℕ) :
    Runs.Along (step H) Forward (start 0) (manyCalls H k) := by
  refine forward_of_now (fun c hc => ?_) rfl
  simp only [manyCalls, mem_append, mem_map, mem_cons, not_mem_nil, or_false] at hc
  rcases hc with ⟨n, -, rfl⟩ | rfl | rfl <;> rfl

/-- The last command but one clears the full set, and the first one is accepted again. -/
theorem manyCalls_repeat {H : Hmac} {k : ℕ} (hk : k + 1 = 4096) :
    ¬((manyCalls H k).foldl (step H) (start 0)).accepted.Nodup := by
  have hmany := afterMany_run H (k := k) (by omega)
  rw [manyCalls, foldl_append]
  generalize ((range (k + 1)).map (manyCommands H)).foldl (step H) (start 0) = log
    at hmany
  obtain ⟨t, ht, hfirst⟩ := hmany.first
  obtain ⟨s, -, hclear⟩ := manyCommands_accepted (hmany.unused hk.le)
  rw [insertNonce, if_pos (by rw [hmany.card hk.le, hk])] at hclear
  have hnew : commandNonce 0 ∉ (log.step H (manyCommands H (k + 1))).nonces := by
    rw [hclear, insert_empty_eq, Finset.mem_singleton]
    exact commandNonce_ne (by omega) (by omega) (by omega)
  obtain ⟨t', hagain, hstep⟩ := manyCommands_accepted hnew
  obtain rfl := Option.some.inj (hfirst.symm.trans hagain)
  rw [foldl_cons, foldl_cons, foldl_nil, hstep, nodup_append]
  rintro ⟨-, -, hdisjoint⟩
  exact hdisjoint t (mem_append_left _ ht) t (mem_singleton_self t) rfl

/-- 4096 nonces are kept; the next command clears them, and the first one is accepted
    again, whatever the HMAC function. -/
theorem command_accepted_again : ¬∃ H : Hmac, ∀ calls : List CommandCall,
    Runs.Along (step H) Forward (start 0) calls →
      (calls.foldl (step H) (start 0)).accepted.Nodup := by
  rintro ⟨H, hnodup⟩
  obtain ⟨k, hk⟩ : ∃ k, k + 1 = 4096 := ⟨4095, rfl⟩
  exact manyCalls_repeat hk (hnodup (manyCalls H k) (manyCalls_forward H k))

/-- Two different commands. -/
theorem command_unrepeatable_two :
    Runs.Along (step (recognising [])) Forward (start 0)
      ([0, 1].map (manyCommands (recognising []))) ∧
    ((∀ log ∈ Runs.states (step (recognising [])) (start 0)
        ([0, 1].map (manyCommands (recognising []))),
        log.accepted.Nodup ∧ Unrepeatable (recognising []) log) ↔
      Runs.Along (step (recognising [])) (ForgetsOnlyOld (recognising [])) (start 0)
        ([0, 1].map (manyCommands (recognising [])))) ∧
    ∀ sink m state datagram, Covered (recognising []) sink m state datagram :=
  have hforward : Runs.Along (step (recognising [])) Forward (start 0)
      ([0, 1].map (manyCommands (recognising []))) := forward_of_now (by simp [manyCommands]) rfl
  ⟨hforward, command_unrepeatable_iff (recognising []) 0 _ hforward⟩

end GraphX
