/-
  The service level objectives (`apps/telemetry/operations.mjs`).

  Counters and latencies are exact numbers, and so is the rank of the percentile.
-/
import GraphX.Lib.Check
import GraphX.Lib.Histogram

namespace GraphX.Operations

open Histogram List

/-! ## The configuration -/

def isSafeInteger (q : ℚ) : Bool := decide (q.den = 1) && decide (|q.num| ≤ 9007199254740991)

/-- `boundedNumber`, of a member that is absent or a number. -/
def boundedNumber (value : Option ℚ) (fallback : ℚ) (minimum maximum : ℕ) (integer : Bool) :
    Except String ℚ :=
  match value with
  | none => .ok fallback
  | some q => do
    Check.ensure (decide ((minimum : ℚ) ≤ q) && decide (q ≤ maximum) && (!integer || isSafeInteger q))
      ("operational value must be " ++ (if integer then "an integer " else "") ++ "between " ++
        toString minimum ++ " and " ++ toString maximum)
    .ok q

structure SloSettings where
  windowSeconds : Option ℚ := none
  minimumWindowSeconds : Option ℚ := none
  availabilityTarget : Option ℚ := none
  maxErrorRatio : Option ℚ := none
  maxDropRatio : Option ℚ := none
  maxP95LatencyUs : Option ℚ := none

structure SloConfig where
  windowSeconds : ℚ
  minimumWindowSeconds : ℚ
  availabilityTarget : ℚ
  maxErrorRatio : ℚ
  maxDropRatio : ℚ
  maxP95LatencyUs : ℚ

def sloConfig (config : SloSettings) : Except String SloConfig := do
  let windowSeconds ← boundedNumber config.windowSeconds 300 10 3600 true
  let minimumWindowSeconds ← boundedNumber config.minimumWindowSeconds 10 1 3600 true
  let availabilityTarget ← boundedNumber config.availabilityTarget (99 / 100) 0 1 false
  let maxErrorRatio ← boundedNumber config.maxErrorRatio (1 / 100) 0 1 false
  let maxDropRatio ← boundedNumber config.maxDropRatio (1 / 100) 0 1 false
  let maxP95LatencyUs ← boundedNumber config.maxP95LatencyUs 10000 1 3600000000 true
  Check.ensure (minimumWindowSeconds ≤ windowSeconds)
    "SLO minimum_window_seconds must not exceed window_seconds"
  .ok
    { windowSeconds, minimumWindowSeconds, availabilityTarget, maxErrorRatio, maxDropRatio
      maxP95LatencyUs }

/-! ## Latency buckets -/

def latencyBoundsUs : List ℕ := [10, 50, 100, 500, 1000, 5000, 10000]

/-- The bucket in which `ingest` of `metric-store.mjs` counts a latency. -/
def bucketOf (latencyUs : ℚ) : ℕ := latencyBoundsUs.findIdx fun bound : ℕ => decide (latencyUs ≤ (bound : ℚ))

/-- The counters of the buckets; the last one is open-ended. -/
structure Buckets where
  counts : List ℕ
  length_eq : counts.length = latencyBoundsUs.length + 1

namespace Buckets

def zero : Buckets := ⟨List.replicate (latencyBoundsUs.length + 1) 0, List.length_replicate⟩

theorem length_zipWith (g : ℕ → ℕ → ℕ) (a b : Buckets) :
    (List.zipWith g a.counts b.counts).length = latencyBoundsUs.length + 1 := by
  rw [List.length_zipWith, a.length_eq, b.length_eq, Nat.min_self]

def zipWith (g : ℕ → ℕ → ℕ) (a b : Buckets) : Buckets :=
  ⟨List.zipWith g a.counts b.counts, length_zipWith g a b⟩

/-- What is counted beyond the last bound. -/
def overflow (b : Buckets) : ℕ := b.counts.getD latencyBoundsUs.length 0

end Buckets

def histogramPercentile (buckets bounds : List ℕ) (percentile : ℚ) : Option ℕ :=
  let count := buckets.sum
  if count = 0 then none
  else
    match rankIndex ⌈(count : ℚ) * percentile⌉₊ 0 buckets with
    | some index => if index < bounds.length then bounds[index]? else bounds.getLast?
    | none => bounds.getLast?

/-! ## The evaluator -/

/-- What the evaluator reads of an edge. -/
structure EdgeCounters where
  sent : ℕ
  received : ℕ
  errors : ℕ
  drops : ℕ
  latencyBuckets : Option Buckets

structure Totals where
  traffic : ℕ
  errors : ℕ
  drops : ℕ
  latency : Buckets

structure Sample where
  timestamp : ℤ
  ready : Bool
  traffic : ℕ
  errors : ℕ
  drops : ℕ
  latency : Buckets

structure SloEvaluator where
  config : SloConfig
  samples : List Sample
  previousTotals : Option Totals

structure Objective where
  value : Option ℚ
  target : ℚ
  met : Bool

inductive SloStatus where
  | warming | met | violated
  deriving DecidableEq

structure SloReport where
  status : SloStatus
  observedSeconds : ℚ
  sampleCount : ℕ
  traffic : ℕ
  availability : Objective
  errorRatio : Objective
  dropRatio : Objective
  p95LatencyUs : Objective

namespace SloEvaluator

def create (settings : SloSettings) : Except String SloEvaluator := do
  let config ← sloConfig settings
  .ok ⟨config, [], none⟩

def maxSamples (e : SloEvaluator) : ℕ := ⌈e.config.windowSeconds⌉₊ + 2

def totalsOf (edges : List EdgeCounters) : Totals where
  traffic := (edges.map fun edge => edge.sent + edge.received).sum
  errors := (edges.map (·.errors)).sum
  drops := (edges.map (·.drops)).sum
  latency := edges.foldl (fun latency edge =>
    edge.latencyBuckets.elim latency (Buckets.zipWith (· + ·) latency)) .zero

/-- The difference of a counter; a counter that is lower than before was reset. -/
def delta (current previous : ℕ) : ℕ := if previous ≤ current then current - previous else current

def sampleOf (timestamp : ℤ) (ready : Bool) (totals : Totals) (previousTotals : Option Totals) : Sample :=
  match previousTotals with
  | none => ⟨timestamp, ready, 0, 0, 0, .zero⟩
  | some previous =>
    { timestamp, ready
      traffic := delta totals.traffic previous.traffic
      errors := delta totals.errors previous.errors
      drops := delta totals.drops previous.drops
      latency := .zipWith delta totals.latency previous.latency }

/-- `while (samples.length > 1 && samples[0].timestamp < cutoff) samples.shift()` -/
def dropOld (cutoff : ℚ) : List Sample → List Sample
  | a :: b :: rest => if (a.timestamp : ℚ) < cutoff then dropOld cutoff (b :: rest) else a :: b :: rest
  | samples => samples

/-- `while (samples.length > maxSamples) samples.shift()` -/
def dropExcess (maximum : ℕ) (samples : List Sample) : List Sample :=
  samples.drop (samples.length - maximum)

/-- The histogram of the window. -/
def windowLatency (e : SloEvaluator) : Buckets :=
  e.samples.foldl (fun latency sample => .zipWith (· + ·) latency sample.latency) .zero

def total (e : SloEvaluator) (key : Sample → ℕ) : ℕ := (e.samples.map key).sum

def observedSeconds (e : SloEvaluator) : ℚ :=
  match e.samples.head?, e.samples.getLast? with
  | some first, some last => max 0 ((last.timestamp - first.timestamp) / 1000)
  | _, _ => 0

def ratio (part whole : ℕ) : ℚ := if whole = 0 then 0 else part / whole

def availabilityObjective (e : SloEvaluator) : Objective :=
  let value := if e.samples.isEmpty then none
    else some (ratio (e.samples.countP (·.ready)) e.samples.length)
  ⟨value, e.config.availabilityTarget, value.any (e.config.availabilityTarget ≤ ·)⟩

def ratioObjective (e : SloEvaluator) (key : Sample → ℕ) (target : ℚ) : Objective :=
  let value := ratio (e.total key) (e.total (·.traffic))
  ⟨some value, target, value ≤ target⟩

def latencyObjective (e : SloEvaluator) : Objective :=
  let value := histogramPercentile e.windowLatency.counts latencyBoundsUs (95 / 100)
  ⟨value.map fun v : ℕ => (v : ℚ), e.config.maxP95LatencyUs,
    value.all fun v : ℕ => (v : ℚ) ≤ e.config.maxP95LatencyUs⟩

def snapshot (e : SloEvaluator) : SloReport :=
  let availability := e.availabilityObjective
  let errorRatio := e.ratioObjective (·.errors) e.config.maxErrorRatio
  let dropRatio := e.ratioObjective (·.drops) e.config.maxDropRatio
  let p95LatencyUs := e.latencyObjective
  let met := availability.met && errorRatio.met && dropRatio.met && p95LatencyUs.met
  { status := if e.observedSeconds < e.config.minimumWindowSeconds then .warming
      else if met then .met else .violated
    observedSeconds := e.observedSeconds
    sampleCount := e.samples.length
    traffic := e.total (·.traffic)
    availability, errorRatio, dropRatio, p95LatencyUs }

/-- One call of `observe`. -/
structure Observation where
  ready : Bool
  edges : List EdgeCounters
  timestamp : ℤ

/-- The evaluator after the call, which then returns a snapshot. -/
def observe (e : SloEvaluator) (o : Observation) : SloEvaluator :=
  let totals := totalsOf o.edges
  let samples := e.samples ++ [sampleOf o.timestamp o.ready totals e.previousTotals]
  let cutoff := o.timestamp - e.config.windowSeconds * 1000
  { e with
    samples := dropExcess e.maxSamples (dropOld cutoff samples)
    previousTotals := some totals }

def run (e : SloEvaluator) (observations : List Observation) : SloEvaluator :=
  observations.foldl observe e

theorem run_config (e : SloEvaluator) (observations : List Observation) :
    (e.run observations).config = e.config :=
  foldlRecOn (motive := fun e' : SloEvaluator => e'.config = e.config) observations observe rfl
    fun _ h _ _ => h

end SloEvaluator

/-! ## The latency objective -/

/-- At least 95 percent of the latencies are no larger than the target. -/
def P95AtMost (target : ℚ) (latencies : List ℚ) : Prop :=
  95 * latencies.length ≤ 100 * latencies.countP (· ≤ target)

section
variable {latencyUs target : ℚ} {latencies : List ℚ} {index bound value : ℕ} {window : Buckets}

theorem bucketOf_le (h : bucketOf latencyUs ≤ index) (hbound : latencyBoundsUs[index]? = some bound) :
    latencyUs ≤ bound := by
  obtain ⟨hlt, hget⟩ := List.getElem?_eq_some_iff.1 hbound
  have hfound : bucketOf latencyUs < latencyBoundsUs.length := h.trans_lt hlt
  have hle : latencyUs ≤ (latencyBoundsUs[bucketOf latencyUs] : ℕ) :=
    of_decide_eq_true (findIdx_getElem (w := hfound))
  have hsorted : latencyBoundsUs.Pairwise (· ≤ ·) := by decide
  rw [← hget]
  rcases h.eq_or_lt with heq | hlt'
  · simpa only [heq] using hle
  · exact hle.trans (by exact_mod_cast pairwise_iff_getElem.1 hsorted _ _ hfound hlt hlt')

theorem bucketOf_bound (h : latencyBoundsUs[index]? = some bound) : bucketOf bound = index := by
  have hall : ∀ entry ∈ latencyBoundsUs.zipIdx, bucketOf entry.1 = entry.2 := by decide
  exact hall (bound, index) (mem_zipIdx_iff_getElem?.2 h)

theorem bucketOf_large (h : 10000 < latencyUs) : bucketOf latencyUs = latencyBoundsUs.length := by
  refine findIdx_eq_length.2 fun bound hbound => decide_eq_false fun hle => ?_
  have hmax : ∀ bound ∈ latencyBoundsUs, bound ≤ 10000 := by decide
  have : (bound : ℚ) ≤ 10000 := by exact_mod_cast hmax bound hbound
  linarith

theorem exists_rank (window : Buckets) :
    ∃ index, rankIndex ⌈(window.counts.sum : ℚ) * (95 / 100)⌉₊ 0 window.counts = some index := by
  have hne : window.counts ≠ [] := by
    intro hnil
    have := window.length_eq
    rw [hnil] at this
    exact absurd this (by decide)
  refine exists_rankIndex hne ?_
  rw [Nat.zero_add]
  refine Nat.ceil_le.2 ?_
  linarith

theorem sum_of_histogramPercentile
    (h : histogramPercentile window.counts latencyBoundsUs (95 / 100) = none) :
    window.counts.sum = 0 := by
  unfold histogramPercentile at h
  dsimp only at h
  split_ifs at h with hzero
  · exact hzero
  · obtain ⟨index, hindex⟩ := exists_rank window
    rw [hindex] at h
    dsimp only at h
    split_ifs at h with hlt
    · exact absurd hlt (not_lt.2 (getElem?_eq_none_iff.1 h))
    · exact absurd h (Option.some_ne_none _)

/-- The percentile is a bound at which the cumulative count reaches the rank, or the
    last one if only the open-ended bucket reaches it. -/
theorem histogramPercentile_cases
    (h : histogramPercentile window.counts latencyBoundsUs (95 / 100) = some value) :
    ∃ index, ⌈(window.counts.sum : ℚ) * (95 / 100)⌉₊ ≤ (window.counts.take (index + 1)).sum ∧
      (latencyBoundsUs[index]? = some value ∨ latencyBoundsUs.length ≤ index ∧ value = 10000) := by
  unfold histogramPercentile at h
  dsimp only at h
  split_ifs at h
  obtain ⟨index, hindex⟩ := exists_rank window
  rw [hindex] at h
  dsimp only at h
  obtain ⟨-, hsum⟩ := rankIndex_spec hindex
  rw [Nat.zero_add] at hsum
  refine ⟨index, hsum, ?_⟩
  split_ifs at h with hlt
  · exact .inl h
  · exact .inr ⟨not_lt.1 hlt, (Option.some.inj h).symm⟩

theorem le_of_histogramPercentile
    (h : histogramPercentile window.counts latencyBoundsUs (95 / 100) = some value) : value ≤ 10000 := by
  obtain ⟨index, -, hvalue | ⟨-, rfl⟩⟩ := histogramPercentile_cases h
  · have hmax : ∀ bound ∈ latencyBoundsUs, bound ≤ 10000 := by decide
    exact hmax value (mem_of_getElem? hvalue)
  · exact le_rfl

theorem p95AtMost_of_percentile (hcounts : Counts bucketOf latencies window.counts)
    (hvalue : histogramPercentile window.counts latencyBoundsUs (95 / 100) = some value)
    (hle : (value : ℚ) ≤ target) (htarget : target < 10000) : P95AtMost target latencies := by
  obtain ⟨index, hrank, hbound | ⟨-, rfl⟩⟩ := histogramPercentile_cases hvalue
  · have hcount : (window.counts.take (index + 1)).sum ≤ latencies.countP (· ≤ target) := by
      rw [← hcounts.countP_lt]
      refine countP_mono_left fun x _ hx => ?_
      exact decide_eq_true ((bucketOf_le (Nat.lt_succ_iff.1 (of_decide_eq_true hx)) hbound).trans hle)
    have hceil := (Nat.le_ceil ((window.counts.sum : ℚ) * (95 / 100))).trans
      (Nat.cast_le.2 (hrank.trans hcount))
    unfold P95AtMost
    rw [hcounts.length_eq]
    have : (95 * window.counts.sum : ℚ) ≤ 100 * latencies.countP (· ≤ target) := by linarith
    exact_mod_cast this
  · exact absurd (hle.trans_lt htarget) (lt_irrefl _)

/-- From the last bound on the target covers the buckets before the open-ended one, and
    nothing is known of the latencies in that one. -/
theorem forall_p95AtMost_iff (htarget : 10000 ≤ target) :
    (∀ latencies, Counts bucketOf latencies window.counts → P95AtMost target latencies) ↔
      20 * window.overflow ≤ window.counts.sum := by
  have hsum : window.counts.sum =
      (window.counts.take latencyBoundsUs.length).sum + window.overflow := by
    rw [Buckets.overflow, ← sum_take_succ, ← window.length_eq, take_length]
  constructor
  · intro h
    let v : ℕ → ℚ := fun i => (latencyBoundsUs[i]?.map fun bound : ℕ => (bound : ℚ)).getD (target + 1)
    have hv : ∀ i < window.counts.length, bucketOf (v i) = i := by
      intro i hi
      rcases lt_or_ge i latencyBoundsUs.length with hlt | hge
      · have hget : latencyBoundsUs[i]? = some latencyBoundsUs[i] := getElem?_eq_getElem hlt
        simp only [v, hget]
        exact bucketOf_bound hget
      · have hlast : i = latencyBoundsUs.length := by
          rw [window.length_eq] at hi
          exact le_antisymm (Nat.lt_succ_iff.1 hi) hge
        simp only [v, getElem?_eq_none hge, Option.map_none, Option.getD_none]
        rw [hlast]
        exact bucketOf_large (by linarith)
    have hcounts := counts_realise hv
    have hp95 := h _ hcounts
    have hcover : (realise v 0 window.counts).countP (· ≤ target) ≤
        (window.counts.take latencyBoundsUs.length).sum := by
      rw [← hcounts.countP_lt]
      refine countP_mono_left fun x hx hle => decide_eq_true ?_
      obtain ⟨i, -, hi, rfl⟩ := mem_realise hx
      rw [hv i (by omega)]
      by_contra hge
      have hlarge : v i = target + 1 := by
        simp [v, getElem?_eq_none (not_lt.1 hge)]
      exact absurd (of_decide_eq_true hle) (by linarith)
    unfold P95AtMost at hp95
    rw [hcounts.length_eq] at hp95
    omega
  · intro h latencies hcounts
    have hcover : (window.counts.take latencyBoundsUs.length).sum ≤
        latencies.countP (· ≤ target) := by
      rw [← hcounts.countP_lt]
      refine countP_mono_left fun x _ hx => decide_eq_true ?_
      have hlast : latencyBoundsUs[latencyBoundsUs.length - 1]? = some 10000 := rfl
      have hbound := bucketOf_le (Nat.le_sub_one_of_lt (of_decide_eq_true hx)) hlast
      exact le_trans (by exact_mod_cast hbound) htarget
    unfold P95AtMost
    rw [hcounts.length_eq]
    omega

end

theorem create_target {settings : SloSettings} {e : SloEvaluator} (h : SloEvaluator.create settings = .ok e) :
    e.config.maxP95LatencyUs = settings.maxP95LatencyUs.getD 10000 := by
  have hbounded : ∀ {value : Option ℚ} {fallback q : ℚ} {minimum maximum : ℕ} {integer : Bool},
      boundedNumber value fallback minimum maximum integer = .ok q → q = value.getD fallback := by
    intro value fallback q minimum maximum integer hq
    cases value with
    | none => exact (Except.ok.inj hq).symm
    | some v =>
      obtain ⟨-, hq⟩ := Check.bind_unit_eq_ok.1 hq
      exact (Except.ok.inj hq).symm
  unfold SloEvaluator.create sloConfig at h
  simp only [Check.bind_eq_ok (α := SloConfig), Check.bind_eq_ok (α := ℚ), Check.bind_unit_eq_ok] at h
  obtain ⟨config, ⟨_, -, _, -, _, -, _, -, _, -, latency, hlatency, -, hconfig⟩, he⟩ := h
  cases he
  cases hconfig
  exact hbounded hlatency

/-- **The latency objective.**  After any observations a latency objective that is reported
    as met is met by every latencies that the window counts, iff the target is below the
    last bound or at most 5 percent are in the open-ended bucket. -/
theorem latency_objective_sound_iff {settings : SloSettings} {e : SloEvaluator}
    (h : SloEvaluator.create settings = .ok e) (observations : List SloEvaluator.Observation) :
    (∀ latencies, Counts bucketOf latencies (e.run observations).windowLatency.counts →
        (e.run observations).snapshot.p95LatencyUs.met = true →
          P95AtMost (settings.maxP95LatencyUs.getD 10000) latencies) ↔
      settings.maxP95LatencyUs.getD 10000 < 10000 ∨
        20 * (e.run observations).windowLatency.overflow ≤
          (e.run observations).windowLatency.counts.sum := by
  have htarget := create_target h
  rw [← SloEvaluator.run_config e observations] at htarget
  generalize e.run observations = e' at htarget ⊢
  rw [← htarget]
  have hmet : e'.snapshot.p95LatencyUs.met = true ↔
      ∀ value, histogramPercentile e'.windowLatency.counts latencyBoundsUs (95 / 100) = some value →
        (value : ℚ) ≤ e'.config.maxP95LatencyUs := by
    simp only [SloEvaluator.snapshot, SloEvaluator.latencyObjective, Option.all_eq_true,
      decide_eq_true_eq]
  rcases lt_or_ge e'.config.maxP95LatencyUs 10000 with hlt | hge
  · refine iff_of_true (fun latencies hcounts hreported => ?_) (.inl hlt)
    cases hvalue : histogramPercentile e'.windowLatency.counts latencyBoundsUs (95 / 100) with
    | none =>
      unfold P95AtMost
      rw [hcounts.length_eq, sum_of_histogramPercentile hvalue]
      exact Nat.zero_le _
    | some value => exact p95AtMost_of_percentile hcounts hvalue (hmet.1 hreported value hvalue) hlt
  · have hreported : e'.snapshot.p95LatencyUs.met = true := hmet.2 fun value hvalue =>
      le_trans (by exact_mod_cast le_of_histogramPercentile hvalue) hge
    simp only [hreported, true_implies, forall_p95AtMost_iff hge, not_lt.2 hge, false_or]

namespace Samples

open SloEvaluator

/-- An evaluator with the defaults. -/
def evaluator : SloEvaluator := ⟨⟨300, 10, 99 / 100, 1 / 100, 1 / 100, 10000⟩, [], none⟩

/-- One latency of at most 10 microseconds. -/
def fast : Buckets := ⟨[1, 0, 0, 0, 0, 0, 0, 0], rfl⟩

/-- One latency of more than 10 milliseconds. -/
def slow : Buckets := ⟨[0, 0, 0, 0, 0, 0, 0, 1], rfl⟩

/-- The latencies are counted between two observations. -/
def observations (buckets : Buckets) : List Observation :=
  [⟨true, [], 0⟩, ⟨true, [⟨0, 0, 0, 0, some buckets⟩], 1000⟩]

theorem dropExcess_of_le {maximum : ℕ} {samples : List Sample} (h : samples.length ≤ maximum) :
    dropExcess maximum samples = samples := by
  rw [dropExcess, Nat.sub_eq_zero_of_le h, drop_zero]

theorem run_samples (buckets : Buckets) :
    (evaluator.run (observations buckets)).samples =
      [sampleOf 0 true (totalsOf []) none,
        sampleOf 1000 true (totalsOf [⟨0, 0, 0, 0, some buckets⟩]) (some (totalsOf []))] := by
  have hmax : ∀ e : SloEvaluator, 2 ≤ e.maxSamples := fun e => Nat.le_add_left 2 _
  have hfirst : evaluator.observe ⟨true, [], 0⟩ =
      ⟨evaluator.config, [sampleOf 0 true (totalsOf []) none], some (totalsOf [])⟩ := by
    simp only [observe]
    rfl
  have hcutoff : ¬ (((sampleOf 0 true (totalsOf []) none).timestamp : ℤ) : ℚ) <
      ((1000 : ℤ) : ℚ) - evaluator.config.windowSeconds * 1000 := by
    norm_num [sampleOf, evaluator]
  rw [SloEvaluator.run, observations, foldl_cons, hfirst, foldl_cons, foldl_nil]
  simp only [observe, singleton_append]
  rw [dropOld, if_neg hcutoff, dropExcess_of_le (hmax _)]

theorem windowLatency_fast : (evaluator.run (observations fast)).windowLatency.counts = fast.counts := by
  rw [windowLatency, run_samples]
  rfl

theorem windowLatency_slow : (evaluator.run (observations slow)).windowLatency.counts = slow.counts := by
  rw [windowLatency, run_samples]
  rfl

theorem counts_slow : Counts bucketOf [20000] slow.counts := by
  intro i
  have hbucket : bucketOf 20000 = latencyBoundsUs.length := bucketOf_large (by norm_num)
  have hsmall : ∀ i < 8, (if latencyBoundsUs.length = i then 1 else 0) = slow.counts.getD i 0 := by decide
  simp only [countP_singleton, decide_eq_true_eq]
  rcases lt_or_ge i 8 with hi | hi
  · exact hsmall i hi
  · rw [getD_eq_default _ _ hi, if_neg]
    rintro rfl
    exact absurd hi (by decide)

end Samples

open Samples in
theorem latency_objective_sound_fast :
    SloEvaluator.create {} = .ok evaluator ∧
      ∀ latencies, Counts bucketOf latencies
          (evaluator.run (observations fast)).windowLatency.counts →
        (evaluator.run (observations fast)).snapshot.p95LatencyUs.met = true →
          P95AtMost 10000 latencies := by
  have hcreate : SloEvaluator.create {} = .ok evaluator := rfl
  refine ⟨hcreate, (latency_objective_sound_iff hcreate _).2 (.inr ?_)⟩
  rw [Buckets.overflow, windowLatency_fast]
  decide

open Samples in
/-- A latency of 20 ms is reported to meet the default target of 10 ms. -/
theorem latency_objective_open_ended :
    SloEvaluator.create {} = .ok evaluator ∧
      (evaluator.run (observations slow)).snapshot.p95LatencyUs.met = true ∧
        Counts bucketOf [20000] (evaluator.run (observations slow)).windowLatency.counts ∧
          ¬ P95AtMost 10000 [20000] := by
  have hlate : ¬ P95AtMost 10000 [20000] := by
    unfold P95AtMost
    norm_num
  refine ⟨rfl, ?_, by rw [windowLatency_slow]; exact counts_slow, hlate⟩
  have hvalue : histogramPercentile slow.counts latencyBoundsUs (95 / 100) = some 10000 := by
    have hrank : ⌈((slow.counts.sum : ℕ) : ℚ) * (95 / 100)⌉₊ = 1 :=
      (Nat.ceil_eq_iff one_ne_zero).2 ⟨by norm_num [slow], by norm_num [slow]⟩
    unfold histogramPercentile
    dsimp only
    rw [hrank]
    rfl
  simp only [SloEvaluator.snapshot, SloEvaluator.latencyObjective, windowLatency_slow, hvalue,
    SloEvaluator.run_config, Option.all_some, decide_eq_true_eq]
  norm_num [evaluator]

end GraphX.Operations
