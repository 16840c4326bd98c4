/-
  Replays (`ReplayCache` and `verifyEnvelope` in `apps/telemetry/security.mjs`):
  a run of calls that share one cache.

  * **`replay_needs_evictions`**: between two acceptances of one signed text lie
    4096 others.
-/
import GraphX.TelemetryVerification

namespace GraphX

open Ecma List

/-! ## Calls -/

/-- A call of `verifyEnvelope`. -/
structure VerifyCall where
  value : Json
  secret : Text
  now : ℤ

namespace VerifyCall

def run (H : Hmac) (c : VerifyCall) (cache : ReplayCache) : Json × ReplayCache :=
  verifyEnvelope H c.value c.secret cache c.now

/-- The call returns the payload of a signed value. -/
def accepted (H : Hmac) (c : VerifyCall) (cache : ReplayCache) : Bool :=
  c.secret ≠ [] && match (c.run H cache).1 with
    | .null => false
    | _ => true

end VerifyCall

def cacheAfter (H : Hmac) (cache : ReplayCache) (calls : List VerifyCall) : ReplayCache :=
  calls.foldl (fun cache c => (c.run H cache).2) cache

/-- How many of the calls return a signed payload. -/
def acceptedCount (H : Hmac) : ReplayCache → List VerifyCall → ℕ
  | _, [] => 0
  | cache, c :: calls =>
    (if c.accepted H cache then 1 else 0) + acceptedCount H (c.run H cache).2 calls

/-- The text that the signature of a value stands for. -/
def signedTextOf (value : Json) : Option Text := do
  let payload ← value.get (text "payload")
  let auth ← value.get (text "auth")
  let a ← Auth.ofJson auth
  return signedText payload a.timestamp a.nonce

/-! ## What a call does -/

section calls

variable {H : Hmac} {c : VerifyCall} {cache : ReplayCache}

/-- An accepted call: its signed text, and the time it stands for. -/
structure Acceptance (c : VerifyCall) (cache : ReplayCache) (cache' : ReplayCache) where
  payload : Json
  timestamp : Number
  nonce : Text
  time : ℤ
  signed : signedTextOf c.value = some (signedText payload timestamp nonce)
  safe : timestamp.safeInteger = some time
  skew : |c.now - time| ≤ maxClockSkewMs
  length_nonce : nonce.length = 32
  unseen : (cache.fresh c.now).any (·.1 = nonce) = false
  stored : cache' = { cache with
    values := ReplayCache.evict cache.maxEntries (cache.fresh c.now) ++ [(nonce, c.now)] }

theorem Acceptance.values {cache' : ReplayCache} (a : Acceptance c cache cache') :
    cache'.values =
      ReplayCache.evict cache.maxEntries (cache.fresh c.now) ++ [(a.nonce, c.now)] :=
  congrArg ReplayCache.values a.stored

theorem length_of_ofJson {auth : Json} {a : Auth} (h : Auth.ofJson auth = some a) :
    a.nonce.length = 32 := by
  unfold Auth.ofJson at h
  split at h
  · split_ifs at h with hhex
    obtain rfl := Option.some.inj h
    simp only [lowerHex, Bool.and_eq_true, decide_eq_true_eq] at hhex
    exact hhex.1.1
  · cases h

theorem time_of_valid {a : Auth} {payload : Json} {secret : Text} {now : ℤ}
    (h : a.valid H payload secret now = true) :
    ∃ time, a.timestamp.safeInteger = some time ∧ |now - time| ≤ maxClockSkewMs := by
  unfold Auth.valid at h
  split at h
  · cases h
  · rename_i time htime
    simp only [Bool.and_eq_true, Bool.not_eq_true', decide_eq_false_iff_not, not_lt] at h
    exact ⟨time, htime, h.1⟩

/-- **What a call does to the cache**: it accepts a new nonce, or it returns no
    payload and forgets at most what is too old. -/
theorem run_cases (H : Hmac) (c : VerifyCall) (cache : ReplayCache) :
    (c.accepted H cache = true ∧ Nonempty (Acceptance c cache (c.run H cache).2)) ∨
    (c.accepted H cache = false ∧ ((c.run H cache).2 = cache ∨
      (c.run H cache).2 = { cache with values := cache.fresh c.now })) := by
  by_cases hsecret : c.secret = []
  · simp [VerifyCall.accepted, VerifyCall.run, verifyEnvelope, hsecret]
  rcases hp : c.value.get (text "payload") with _ | payload
  · simp [VerifyCall.accepted, VerifyCall.run, verifyEnvelope, hsecret, hp]
  rcases ha : c.value.get (text "auth") with _ | auth
  · simp [VerifyCall.accepted, VerifyCall.run, verifyEnvelope, hsecret, ha]
  rcases ho : Auth.ofJson auth with _ | a
  · simp [VerifyCall.accepted, VerifyCall.run, verifyEnvelope, hsecret, hp, ha, ho]
  by_cases hv : (truthy (some payload) && a.valid H payload c.secret c.now) = true
  swap
  · simp [VerifyCall.accepted, VerifyCall.run, verifyEnvelope, hsecret, hp, ha, ho, hv]
  have hrun : c.run H cache = (if (cache.accept a.nonce c.now).1 then payload else .null,
      (cache.accept a.nonce c.now).2) := by
    simp only [VerifyCall.run, verifyEnvelope, if_neg hsecret, hp, ha, ho, hv, if_true]
  by_cases hseen : (cache.fresh c.now).any (·.1 = a.nonce) = true
  · -- a replay
    have haccept : cache.accept a.nonce c.now = (false, { cache with values := cache.fresh c.now }) := by
      simp only [ReplayCache.accept, if_pos hseen]
    simp [VerifyCall.accepted, hrun, haccept]
  · left
    have haccept : cache.accept a.nonce c.now = (true, { cache with
        values := ReplayCache.evict cache.maxEntries (cache.fresh c.now) ++ [(a.nonce, c.now)] }) := by
      simp only [ReplayCache.accept, if_neg hseen]
    obtain ⟨htruthy, hvalid⟩ := Bool.and_eq_true_iff.1 hv
    obtain ⟨time, hsafe, hskew⟩ := time_of_valid hvalid
    refine ⟨?_, ⟨⟨payload, a.timestamp, a.nonce, time, ?_, hsafe, hskew, length_of_ofJson ho,
      Bool.eq_false_iff.2 hseen, by rw [hrun, haccept]⟩⟩⟩
    · cases payload with
      | null => exact absurd htruthy (by decide)
      | _ => simp [VerifyCall.accepted, hrun, haccept, hsecret]
    · simp [signedTextOf, hp, ha, ho]

end calls

/-! ## One signed text -/

theorem append_point_inj {s t x y : Text} (hs : unit '.' ∉ s) (ht : unit '.' ∉ t)
    (h : s ++ unit '.' :: x = t ++ unit '.' :: y) : s = t ∧ x = y := by
  induction s generalizing t with
  | nil =>
    cases t with
    | nil => exact ⟨rfl, (cons.inj h).2⟩
    | cons u t => exact absurd (cons.inj h).1 fun heq => ht (by simp [heq])
  | cons u s ih =>
    cases t with
    | nil => exact absurd (cons.inj h).1 fun heq => hs (by simp [← heq])
    | cons v t =>
      obtain ⟨rfl, htail⟩ := cons.inj h
      obtain ⟨hst, hxy⟩ := ih (fun hu => hs (mem_cons_of_mem _ hu))
        (fun hu => ht (mem_cons_of_mem _ hu)) htail
      exact ⟨by rw [hst], hxy⟩

theorem point_not_mem_decimalInt (n : ℤ) : unit '.' ∉ decimalInt n := by
  have hdigit : ∀ n : ℕ, unit '.' ∉ decimal n := fun n hmem =>
    absurd (isDigit_decimal n _ hmem) (by decide)
  cases n with
  | ofNat n => exact hdigit n
  | negSucc n => exact fun hmem => (mem_cons.1 hmem).elim (by decide) (hdigit (n + 1))

theorem Acceptance.same_text {c₁ c₂ : VerifyCall} {k₁ k₁' k₂ k₂' : ReplayCache}
    (a₁ : Acceptance c₁ k₁ k₁') (a₂ : Acceptance c₂ k₂ k₂')
    (h : signedTextOf c₁.value = signedTextOf c₂.value) :
    a₁.nonce = a₂.nonce ∧ a₁.time = a₂.time := by
  have htext : signedText a₁.payload a₁.timestamp a₁.nonce =
      signedText a₂.payload a₂.timestamp a₂.nonce := by
    rw [a₁.signed, a₂.signed] at h
    exact Option.some.inj h
  rw [signedText, signedText, print_of_safeInteger a₁.safe, print_of_safeInteger a₂.safe] at htext
  obtain ⟨htime, hrest⟩ := append_point_inj (point_not_mem_decimalInt _)
    (point_not_mem_decimalInt _) htext
  refine ⟨(append_inj hrest ?_).1, decimalInt_injective htime⟩
  rw [a₁.length_nonce, a₂.length_nonce]

/-! ## Remembered nonces -/

/-- The entry is in the cache, with at most `n` newer ones. -/
def Remembers (cache : ReplayCache) (entry : Text × ℤ) (n : ℕ) : Prop :=
  ∃ older newer, cache.values = older ++ entry :: newer ∧ newer.length ≤ n

theorem evict_append {maxEntries : ℕ} {entry : Text × ℤ} {newer : List (Text × ℤ)}
    (h : (entry :: newer).length < maxEntries) (older : List (Text × ℤ)) :
    ∃ older', ReplayCache.evict maxEntries (older ++ entry :: newer) = older' ++ entry :: newer := by
  induction older with
  | nil => exact ⟨[], if_neg (not_le.2 h)⟩
  | cons e older ih =>
    rw [cons_append, ReplayCache.evict]
    split_ifs
    · exact ih
    · exact ⟨e :: older, rfl⟩

section run

variable {H : Hmac} {entry : Text × ℤ}

theorem fresh_append {cache : ReplayCache} {older newer : List (Text × ℤ)} {now : ℤ}
    (h : cache.values = older ++ entry :: newer) (hnow : now - entry.2 ≤ cache.ttlMs) :
    ∃ older' newer', cache.fresh now = older' ++ entry :: newer' ∧ newer'.length ≤ newer.length := by
  let keep (e : Text × ℤ) : Bool := !decide (now - e.2 > cache.ttlMs)
  have hkeep : keep entry = true := by simpa [keep] using hnow
  refine ⟨older.filter keep, newer.filter keep, ?_, length_filter_le keep newer⟩
  change cache.values.filter keep = _
  rw [h, filter_append, filter_cons_of_pos hkeep]

theorem run_bounds (H : Hmac) (c : VerifyCall) (cache : ReplayCache) :
    (c.run H cache).2.maxEntries = cache.maxEntries ∧ (c.run H cache).2.ttlMs = cache.ttlMs := by
  rcases run_cases H c cache with ⟨-, ⟨a⟩⟩ | ⟨-, h | h⟩
  · rw [a.stored]
    exact ⟨rfl, rfl⟩
  all_goals
    rw [h]
    exact ⟨rfl, rfl⟩

/-- One call: an entry that is not too old stays, unless there is no room. -/
theorem Remembers.step {cache : ReplayCache} {n : ℕ} (h : Remembers cache entry n) (c : VerifyCall)
    (hnow : c.now - entry.2 ≤ cache.ttlMs)
    (hroom : c.accepted H cache = true → n + 1 < cache.maxEntries) :
    Remembers (c.run H cache).2 entry (n + if c.accepted H cache then 1 else 0) := by
  obtain ⟨older, newer, hvalues, hlength⟩ := h
  obtain ⟨older', newer', hfresh, hle⟩ := fresh_append hvalues hnow
  rcases run_cases H c cache with ⟨haccepted, ⟨a⟩⟩ | ⟨haccepted, hcache | hcache⟩
  · have hn := hroom haccepted
    have hlt : (entry :: newer').length < cache.maxEntries := by
      simp only [length_cons]
      omega
    obtain ⟨older'', hevict⟩ := evict_append hlt older'
    refine ⟨older'', newer' ++ [(a.nonce, c.now)], ?_, ?_⟩
    · rw [a.values, hfresh, hevict]
      simp
    · rw [if_pos haccepted, length_append, length_singleton]
      omega
  · exact ⟨older, newer, by rw [hcache, hvalues], by rw [haccepted]; simpa using hlength⟩
  · refine ⟨older', newer', by rw [hcache]; exact hfresh, ?_⟩
    rw [haccepted]
    simpa using hle.trans hlength

/-- A run of calls: fewer than `maxEntries` acceptances leave room for the entry. -/
theorem Remembers.run {calls : List VerifyCall} {cache : ReplayCache} {n : ℕ}
    (h : Remembers cache entry n) (hnow : ∀ c ∈ calls, c.now - entry.2 ≤ cache.ttlMs)
    (hroom : n + acceptedCount H cache calls < cache.maxEntries) :
    Remembers (cacheAfter H cache calls) entry (n + acceptedCount H cache calls) := by
  induction calls generalizing cache n with
  | nil => exact h
  | cons c calls ih =>
    obtain ⟨hmax, httl⟩ := run_bounds H c cache
    have hstep := h.step (H := H) c (hnow c (by simp)) (by
      intro haccepted
      rw [acceptedCount, if_pos haccepted] at hroom
      omega)
    have hrest := ih hstep (fun d hd => by rw [httl]; exact hnow d (by simp [hd])) (by
      rw [acceptedCount] at hroom
      omega)
    rw [acceptedCount, ← add_assoc]
    exact hrest

end run

/-! ## Replays -/

/-- The circumstances of a replay: the calls of a run in the order of the clock,
    and two of them that accept the same signed text. -/
structure ReplayRun (H : Hmac) (before middle : List VerifyCall) (a b : VerifyCall) : Prop where
  clock : ((before ++ a :: middle ++ [b]).map VerifyCall.now).Pairwise (· ≤ ·)
  first : a.accepted H (cacheAfter H .new before) = true
  second : b.accepted H (cacheAfter H .new (before ++ a :: middle)) = true
  same : signedTextOf a.value = signedTextOf b.value

theorem cacheAfter_append (H : Hmac) (cache : ReplayCache) (xs ys : List VerifyCall) :
    cacheAfter H cache (xs ++ ys) = cacheAfter H (cacheAfter H cache xs) ys :=
  foldl_append

theorem cacheAfter_bounds (H : Hmac) (cache : ReplayCache) (calls : List VerifyCall) :
    (cacheAfter H cache calls).maxEntries = cache.maxEntries ∧
      (cacheAfter H cache calls).ttlMs = cache.ttlMs := by
  induction calls generalizing cache with
  | nil => exact ⟨rfl, rfl⟩
  | cons c calls ih =>
    obtain ⟨hmax, httl⟩ := run_bounds H c cache
    obtain ⟨hmax', httl'⟩ := ih (c.run H cache).2
    exact ⟨hmax'.trans hmax, httl'.trans httl⟩

/-- **No signed text is accepted twice, unless 4096 others were accepted in
    between.** -/
theorem replay_needs_evictions (H : Hmac) (before middle : List VerifyCall) (a b : VerifyCall)
    (h : ReplayRun H before middle a b) :
    4096 ≤ acceptedCount H (cacheAfter H .new (before ++ [a])) middle := by
  by_contra hfew
  rw [not_le] at hfew
  obtain ⟨hmax, httl⟩ := cacheAfter_bounds H .new (before ++ [a])
  -- what the first acceptance stores
  obtain ⟨-, ⟨x⟩⟩ | ⟨hfalse, -⟩ := run_cases H a (cacheAfter H .new before)
  swap
  · exact absurd h.first (by simp [hfalse])
  obtain ⟨-, ⟨y⟩⟩ | ⟨hfalse, -⟩ := run_cases H b (cacheAfter H .new (before ++ a :: middle))
  swap
  · exact absurd h.second (by simp [hfalse])
  obtain ⟨hnonce, htime⟩ := x.same_text y h.same
  have hstored : Remembers (cacheAfter H .new (before ++ [a])) (x.nonce, a.now) 0 := by
    rw [cacheAfter_append]
    exact ⟨_, [], x.values, le_rfl⟩
  -- both calls are near the time of the text, and the others are not later
  have hnear : b.now - a.now ≤ maxClockSkewMs * 2 := by
    have hx := abs_le.1 x.skew
    have hy := abs_le.1 y.skew
    rw [htime] at hx
    omega
  have horder : ∀ c ∈ middle, c.now ≤ b.now := by
    intro c hc
    have hclock := h.clock
    rw [map_append, pairwise_append] at hclock
    exact hclock.2.2 c.now (mem_map_of_mem (by simp [hc])) b.now (by simp)
  have hyoung : ∀ c ∈ middle, c.now - a.now ≤ (cacheAfter H .new (before ++ [a])).ttlMs := by
    intro c hc
    have := horder c hc
    rw [httl]
    change c.now - a.now ≤ maxClockSkewMs * 2
    omega
  have hkept := hstored.run (H := H) hyoung (by rw [hmax, zero_add]; exact hfew)
  rw [← cacheAfter_append, append_assoc, singleton_append] at hkept
  -- so the second call finds the nonce
  obtain ⟨older, newer, hvalues, -⟩ := hkept
  obtain ⟨-, httl'⟩ := cacheAfter_bounds H .new (before ++ a :: middle)
  have hyoung' : b.now - a.now ≤ (cacheAfter H .new (before ++ a :: middle)).ttlMs := by
    rw [httl']
    exact hnear
  obtain ⟨older', newer', hfresh, -⟩ := fresh_append hvalues hyoung'
  have hunseen := y.unseen
  rw [hfresh, ← hnonce] at hunseen
  simp at hunseen

/-! ## A replay

4096 other datagrams of the same millisecond push the first one out of the cache. -/

def replayTime : ℤ := 1700000000000

/-- The nonce of the `n`-th datagram. -/
def replayEntropy (n : ℕ) : Entropy :=
  ⟨UInt8.ofNat (n % 256) :: UInt8.ofNat (n / 256) :: List.replicate 14 0, rfl⟩

def replayNonce (n : ℕ) : Text := widen (hexText (replayEntropy n).1)

/-- The `n`-th datagram, signed with the sample secret. -/
def replayCall (H : Hmac) (n : ℕ) : VerifyCall where
  value := .obj [(text "payload", .obj []), (text "auth",
    authValue sampleMoment.signedAt (hexText (replayEntropy n).1)
      (hexText (createHmac H sampleSecret
        (signedText (.obj []) (timestampNumber sampleMoment.signedAt) (replayNonce n)))))]
  secret := sampleSecret
  now := replayTime

theorem replayNonce_injective {m n : ℕ} (hm : m < 65536) (hn : n < 65536)
    (h : replayNonce m = replayNonce n) : m = n := by
  have hbytes := congrArg hexBuffer h
  rw [replayNonce, replayNonce, hexBuffer_hexText, hexBuffer_hexText] at hbytes
  obtain ⟨hlow, hrest⟩ := cons.inj hbytes
  have hlow' := congrArg UInt8.toNat hlow
  have hhigh' := congrArg UInt8.toNat (cons.inj hrest).1
  simp only [UInt8.toNat_ofNat'] at hlow' hhigh'
  omega

/-- The cache holds only some of the latest datagrams. -/
structure Holds (cache : ReplayCache) (ns : List ℕ) : Prop where
  maxEntries : cache.maxEntries = 4096
  ttlMs : cache.ttlMs = 60000
  suffix : cache.values <:+ ns.map fun n => (replayNonce n, replayTime)
  length : cache.values.length ≤ 4096

theorem evict_suffix (maxEntries : ℕ) (values : List (Text × ℤ)) :
    ReplayCache.evict maxEntries values <:+ values := by
  induction values with
  | nil => exact suffix_rfl
  | cons e values ih =>
    rw [ReplayCache.evict]
    split_ifs
    · exact ih.trans (suffix_cons e values)
    · exact suffix_rfl

theorem length_evict_lt {maxEntries : ℕ} (h : 0 < maxEntries) (values : List (Text × ℤ)) :
    (ReplayCache.evict maxEntries values).length < maxEntries := by
  induction values with
  | nil => exact h
  | cons e values ih =>
    rw [ReplayCache.evict]
    split_ifs with hlen
    · exact ih
    · exact not_le.1 hlen

variable {H : Hmac} {cache : ReplayCache} {ns : List ℕ}

theorem Holds.unused (h : Holds cache ns) {n : ℕ} (hn : n ∉ ns) (hlt : ∀ k ∈ n :: ns, k < 65536) :
    ∀ entry ∈ cache.values, entry.1 ≠ replayNonce n := by
  intro entry hentry heq
  obtain ⟨k, hk, rfl⟩ := mem_map.1 (h.suffix.subset hentry)
  obtain rfl := replayNonce_injective (hlt k (by simp [hk])) (hlt n (by simp)) heq
  exact hn hk

theorem Holds.step (h : Holds cache ns) {n : ℕ}
    (hunused : ∀ entry ∈ cache.values, entry.1 ≠ replayNonce n) :
    (replayCall H n).accepted H cache = true ∧
      Holds ((replayCall H n).run H cache).2 (ns ++ [n]) := by
  have hsecret : sampleSecret ≠ [] := inTime_sample.secret_ne
  have hrun : (replayCall H n).run H cache =
      (.obj [], (cache.accept (replayNonce n) replayTime).2) := by
    have hdigest : (createHmac H sampleSecret (signedText (.obj [])
        (timestampNumber sampleMoment.signedAt) (replayNonce n))).length = 32 :=
      H.length_digest _ _
    have hverify := verifyEnvelope_signed (H := H) [] hsecret inTime_sample.safe
      inTime_sample.skew hunused hdigest
    exact hverify.trans (if_pos rfl)
  have hfresh : cache.fresh replayTime = cache.values := by
    refine filter_eq_self.2 fun entry hentry => ?_
    obtain ⟨k, -, rfl⟩ := mem_map.1 (h.suffix.subset hentry)
    simp [h.ttlMs]
  have haccept : (cache.accept (replayNonce n) replayTime).2 = { cache with
      values := ReplayCache.evict cache.maxEntries cache.values ++ [(replayNonce n, replayTime)] } := by
    have hany : cache.values.any (·.1 = replayNonce n) = false := by
      rw [any_eq_false]
      intro entry hentry
      simpa using hunused entry hentry
    simp [ReplayCache.accept, hfresh, hany]
  refine ⟨?_, ?_⟩
  · have hcall : (replayCall H n).secret ≠ [] := hsecret
    simp [VerifyCall.accepted, hrun, hcall]
  · rw [hrun]
    rw [haccept]
    refine ⟨h.maxEntries, h.ttlMs, ?_, ?_⟩
    · rw [map_append, map_singleton]
      obtain ⟨front, hfront⟩ := (evict_suffix cache.maxEntries cache.values).trans h.suffix
      exact ⟨front, by rw [← hfront, append_assoc]⟩
    · have := length_evict_lt cache.maxEntries_pos cache.values
      rw [length_append, length_singleton]
      have hmax := h.maxEntries
      omega

theorem Holds.run {ms : List ℕ} (h : Holds cache ns) (hnodup : (ns ++ ms).Nodup)
    (hlt : ∀ k ∈ ns ++ ms, k < 65536) :
    Holds (cacheAfter H cache (ms.map (replayCall H))) (ns ++ ms) := by
  induction ms generalizing cache ns with
  | nil => simpa [cacheAfter] using h
  | cons n ms ih =>
    have hn : n ∉ ns := fun hmem => (nodup_append.1 hnodup).2.2 n hmem n (by simp) rfl
    have hstep := (h.step (H := H) (h.unused hn fun k hk => hlt k (by
      rcases mem_cons.1 hk with rfl | hk
      · simp
      · simp [hk]))).2
    have := ih hstep (by simpa using hnodup) (by simpa using hlt)
    simpa [cacheAfter] using this

theorem replay_run (H : Hmac) {count : ℕ} (hmin : 4096 ≤ count) (hmax : count < 65535) :
    ReplayRun H [] ((range' 1 count).map (replayCall H)) (replayCall H 0)
      (replayCall H 0) := by
  have hnew : Holds .new [] := ⟨rfl, rfl, suffix_rfl, by decide⟩
  have hfirst := hnew.step (H := H) (n := 0) fun _ h => absurd h (by simp [ReplayCache.new])
  have hmiddle : Holds (cacheAfter H .new
      (replayCall H 0 :: (range' 1 count).map (replayCall H))) ([0] ++ range' 1 count) := by
    refine Holds.run hfirst.2 ?_ ?_
    · rw [singleton_append, nodup_cons]
      exact ⟨by simp, nodup_range'⟩
    · intro k hk
      simp only [mem_append, mem_singleton, mem_range'_1] at hk
      omega
  -- the latest datagrams leave no room for the first
  have hlatest : Holds (cacheAfter H .new
      (replayCall H 0 :: (range' 1 count).map (replayCall H))) (range' 1 count) := by
    refine ⟨hmiddle.maxEntries, hmiddle.ttlMs, ?_, hmiddle.length⟩
    refine suffix_of_suffix_length_le hmiddle.suffix ?_ ?_
    · rw [map_append]
      exact suffix_append _ _
    · rw [length_map, length_range']
      exact hmiddle.length.trans hmin
  have hunused := hlatest.unused (n := 0) (by simp) (by
    intro k hk
    simp only [mem_cons, mem_range'_1] at hk
    omega)
  have hnow : ∀ c ∈ [] ++ replayCall H 0 :: (range' 1 count).map (replayCall H) ++ [replayCall H 0],
      c.now = replayTime := by
    intro c hc
    simp only [nil_append, cons_append, mem_cons, mem_append, mem_map,
      not_mem_nil, or_false] at hc
    rcases hc with rfl | ⟨n, -, rfl⟩ | rfl <;> rfl
  refine ⟨?_, hfirst.1, (hlatest.step hunused).1, rfl⟩
  rw [pairwise_map]
  refine pairwise_of_forall_mem_list fun x hx y hy => ?_
  rw [hnow x hx, hnow y hy]

/-- In this run the first signed text is accepted twice, whatever the HMAC function. -/
theorem replay_accepted_twice : ¬∃ H : Hmac, ∀ (before middle : List VerifyCall) (a b : VerifyCall),
    ¬ReplayRun H before middle a b :=
  fun ⟨H, hnone⟩ => hnone _ _ _ _ (replay_run H le_rfl (by decide))

theorem replay_needs_evictions_sample : ¬∃ H : Hmac, acceptedCount H
    (cacheAfter H .new ([] ++ [replayCall H 0])) ((List.range' 1 4096).map (replayCall H)) < 4096 := by
  rintro ⟨H, hfew⟩
  exact absurd (replay_needs_evictions _ _ _ _ _ (replay_run H le_rfl (by decide))) (not_le.2 hfew)

end GraphX
