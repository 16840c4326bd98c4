/-
  The store of the history (`HistoryStore` of `apps/telemetry/history.mjs`).

  Records wait in a queue; a batch of them at a time is posted to the worker and is in
  flight until it is answered.  An error of the worker, or a query that takes too long,
  degrades the store: what is queued or in flight is counted as failed.  A batch that was
  in flight then may still be answered.

  The accepted records are numbered.  `HistoryAccount` has, next to the counters of the
  source, the numbers of the records that each of them counts and those of the batches
  that the worker has not answered; no decision depends on them.

  * **`history_exact_iff`**: the counters are exact in all states of a run iff all of its
    steps are timely.
-/
import GraphX.HistoryWorker
import GraphX.Lib.Runs

namespace GraphX

open Ecma List

namespace History

/-! ## Accounts -/

structure Queued where
  record : HistoryRecord
  bytes : ℕ
  /-- The number of the record among the accepted ones. -/
  number : ℕ

structure HistoryAccount where
  queue : List Queued
  queueBytes : ℕ
  inFlight : Bool
  inFlightCount : ℕ
  written : ℕ
  failed : ℕ
  /-- The number of records that `enqueue` has accepted. -/
  accepted : ℕ
  flight : List ℕ
  writtenNumbers : List ℕ
  failedNumbers : List ℕ
  /-- The batches that the worker has not answered. -/
  posted : List (List ℕ)

namespace HistoryAccount

def empty : HistoryAccount := ⟨[], 0, false, 0, 0, 0, 0, [], [], [], []⟩

variable (a : HistoryAccount)

def push (record : HistoryRecord) (bytes : ℕ) : HistoryAccount :=
  { a with
    queue := a.queue ++ [⟨record, bytes, a.accepted⟩]
    queueBytes := a.queueBytes + bytes
    accepted := a.accepted + 1 }

/-- A batch is taken off the queue and posted. -/
def post (batchSize : ℕ) : HistoryAccount :=
  let records := a.queue.take batchSize
  { a with
    queue := a.queue.drop batchSize
    queueBytes := a.queueBytes - (records.map Queued.bytes).sum
    inFlight := true
    inFlightCount := records.length
    flight := records.map Queued.number
    posted := a.posted ++ [records.map Queued.number] }

/-- The queued records are counted as failed. -/
def discard : HistoryAccount :=
  { a with
    queue := []
    queueBytes := if a.queue.isEmpty then a.queueBytes else 0
    failed := a.failed + a.queue.length
    failedNumbers := a.failedNumbers ++ a.queue.map Queued.number }

/-- What is in flight or queued is counted as failed. -/
def fail : HistoryAccount :=
  discard { a with
    inFlight := false
    inFlightCount := 0
    failed := a.failed + a.inFlightCount
    flight := []
    failedNumbers := a.failedNumbers ++ a.flight }

end HistoryAccount

/-- The answers to a batch: all of its records were written, with or without an error
    after that, or none. -/
inductive Outcome where
  | written (error : Bool)
  | failed

def Outcome.reply (n pruned : ℕ) : Outcome → BatchReply
  | .written error => ⟨n, 0, pruned, error⟩
  | .failed => ⟨0, n, pruned, true⟩

namespace HistoryAccount

variable (a : HistoryAccount)

/-- The answer to the posted batch at the index: its records are counted. -/
def count (index : ℕ) (outcome : Outcome) (pruned : ℕ) : HistoryAccount :=
  match a.posted[index]? with
  | none => a
  | some batch =>
    let reply := outcome.reply batch.length pruned
    let a := { a with
      inFlight := false
      inFlightCount := 0
      written := a.written + reply.written
      failed := a.failed + reply.failed
      flight := []
      posted := a.posted.eraseIdx index }
    match outcome with
    | .written _ => { a with writtenNumbers := a.writtenNumbers ++ batch }
    | .failed => { a with failedNumbers := a.failedNumbers ++ batch }

end HistoryAccount

/-! ## The store -/

/-- The configuration of an enabled history. -/
structure HistoryConfig where
  queueCapacity : ℕ
  maxQueueBytes : ℕ
  batchSize : ℕ
  maxPendingQueries : ℕ
  batchSize_pos : 0 < batchSize

inductive HistoryStatus where
  | starting
  | ready
  | degraded
  | closed
  deriving DecidableEq

inductive RequestType where
  | query
  | close
  deriving DecidableEq

/-- Where a call of `close` is. -/
inductive Closer where
  /-- It waits for the queue and the batch in flight. -/
  | flushing
  /-- It waits for the worker to close. -/
  | requested (id : ℕ)
  /-- It waits for the worker to end. -/
  | terminating
  | settled
  deriving DecidableEq

/-- A request for closing the worker is rejected. -/
def Closer.reject (id : ℕ) : Closer → Closer
  | .requested i => if i = id then .terminating else .requested i
  | c => c

def Closer.rejectAll : Closer → Closer
  | .requested _ => .terminating
  | c => c

/-- The request is answered: the call of `close` that made it ends. -/
def Closer.resolve (id : ℕ) : Closer → Closer
  | .requested i => if i = id then .settled else .requested i
  | c => c

structure HistoryStore extends HistoryAccount where
  workerExited : Bool
  closing : Bool
  requestId : ℕ
  pending : List (ℕ × RequestType)
  status : HistoryStatus
  dropped : ℕ
  pruned : ℕ
  closers : List Closer

def maxHistoryRecordBytes : ℕ := 16 * 1024

namespace HistoryStore

def new : HistoryStore := ⟨.empty, false, false, 0, [], .starting, 0, 0, []⟩

variable (config : HistoryConfig) (s : HistoryStore)

/-- Whether `#drain` posts a batch. -/
def drains (allowClosing : Bool) : Bool :=
  !(s.inFlight || s.queue.isEmpty || s.status ≠ .ready || (s.closing && !allowClosing))

def drain (allowClosing : Bool) : HistoryStore :=
  if s.drains allowClosing then { s with toHistoryAccount := s.post config.batchSize } else s

/-- The result of `enqueue`, and the store after it. -/
def enqueue (record : HistoryRecord) : Bool × HistoryStore :=
  let bytes := (encode record.json).length + 256
  if s.closing then (false, s)
  else if s.status = .degraded || s.status = .closed then (false, { s with dropped := s.dropped + 1 })
  else if maxHistoryRecordBytes < bytes || config.queueCapacity ≤ s.queue.length ||
      config.maxQueueBytes < s.queueBytes + bytes then
    (false, { s with dropped := s.dropped + 1 })
  else
    let s := { s with toHistoryAccount := s.push record bytes }
    (true, if config.batchSize ≤ s.queue.length then s.drain config false else s)

def degrade : HistoryStore :=
  { s with
    toHistoryAccount := s.fail
    status := .degraded
    pending := []
    closers := s.closers.map Closer.rejectAll }

def query : HistoryStore :=
  if s.status ≠ .ready || config.maxPendingQueries ≤ s.pending.length then s
  else
    { s with
      requestId := s.requestId + 1
      pending := s.pending ++ [(s.requestId + 1, .query)] }

/-- The message of a request's result. -/
def response (id : ℕ) (error : Bool) : HistoryStore :=
  let pending := s.pending.filter (·.1 ≠ id)
  match s.pending.lookup id with
  | none => s
  | some .query => { s with pending := pending }
  | some .close =>
    if error then { s with pending := pending, closers := s.closers.map (Closer.reject id) }
    else
      { s with
        pending := pending
        closers := s.closers.map (Closer.resolve id)
        status := .closed }

/-- The deadline of a request. -/
def timeout (id : ℕ) : HistoryStore :=
  let pending := s.pending.filter (·.1 ≠ id)
  match s.pending.lookup id with
  | none => s
  | some .query => { s with pending := pending }.degrade
  | some .close => { s with pending := pending, closers := s.closers.map (Closer.reject id) }

/-- `close` until it waits for the first time. -/
def close : HistoryStore :=
  if s.status = .closed then { s with closers := s.closers ++ [.settled] }
  else if s.status = .degraded && s.workerExited then
    { s with closing := true, closers := s.closers ++ [.terminating] }
  else { s with closing := true, closers := s.closers ++ [.flushing] }

/-- A turn of the loop of `close`, or what follows the loop.  `expired`: its deadline has
    passed; `late`: no time remains for the request. -/
def flush (index : ℕ) (expired late : Bool) : HistoryStore :=
  if s.closers[index]? ≠ some .flushing then s
  else if (!s.queue.isEmpty || s.inFlight) && !expired then s.drain config true
  else
    let closeError := !s.queue.isEmpty || s.inFlight
    let s := { s with toHistoryAccount := s.discard }
    if closeError || late then { s with closers := s.closers.set index .terminating }
    else
      { s with
        requestId := s.requestId + 1
        pending := s.pending ++ [(s.requestId + 1, .close)]
        closers := s.closers.set index (.requested (s.requestId + 1)) }

/-- The worker has ended, or there is no more time to wait for it. -/
def terminated (index : ℕ) : HistoryStore :=
  if s.closers[index]? ≠ some .terminating then s
  else { s with closers := s.closers.set index .settled, status := .closed }

end HistoryStore

/-- What happens to a store. -/
inductive StoreCall where
  | enqueue (record : HistoryRecord)
  | drain
  | query
  | close
  | flush (index : ℕ) (expired late : Bool)
  | terminated (index : ℕ)
  | timeout (id : ℕ)
  | fatal
  | ready (pruned : ℕ)
  | maintenance (pruned : ℕ) (error : Bool)
  | batch (index : ℕ) (outcome : Outcome) (pruned : ℕ)
  | response (id : ℕ) (error : Bool)
  | workerError
  | exit (code : ℤ)

def Outcome.error : Outcome → Bool
  | .written error => error
  | .failed => true

def HistoryStore.step (config : HistoryConfig) (s : HistoryStore) : StoreCall → HistoryStore
  | .enqueue record => (s.enqueue config record).2
  | .drain => s.drain config false
  | .query => s.query config
  | .close => s.close
  | .flush index expired late => s.flush config index expired late
  | .terminated index => s.terminated index
  | .timeout id => s.timeout id
  | .fatal => s.degrade
  | .ready pruned =>
    { s with status := .ready, pruned := s.pruned + pruned }.drain config false
  | .maintenance pruned error =>
    let s := { s with pruned := s.pruned + pruned }
    if error then s.degrade else s
  | .batch index outcome pruned =>
    if s.posted[index]?.isNone then s
    else
      let s := { s with
        toHistoryAccount := s.count index outcome pruned
        pruned := s.pruned + pruned }
      if outcome.error then s.degrade else s.drain config s.closing
  | .response id error => s.response id error
  | .workerError => s.degrade
  | .exit code =>
    let s := { s with workerExited := true }
    if !s.closing && code ≠ 0 && s.status ≠ .degraded then s.degrade else s

/-! ## What the counters should say -/

/-- The counters are exact, and nothing is left once a call of `close` has ended. -/
structure HistoryStore.Exact (s : HistoryStore) : Prop where
  accepted_eq : s.accepted = s.written + s.failed + s.queue.length + s.inFlightCount
  disjoint : s.writtenNumbers.Disjoint s.failedNumbers
  closed : .settled ∈ s.closers → s.queue = [] ∧ s.inFlight = false

/-- The worker sends `ready` before anything else; it does not recover from an error. -/
def HistoryStore.Legal (s : HistoryStore) : StoreCall → Prop
  | .ready _ => s.status ≠ .degraded
  | _ => True

/-- A batch is answered while it is in flight, and no call of `close` ends before that. -/
def HistoryStore.Timely (s : HistoryStore) : StoreCall → Prop
  | .batch index _ _ => index < s.posted.length → s.inFlight = true
  | .terminated index => s.closers[index]? = some .terminating → s.inFlight = false
  | _ => True

/-! ## Accounts that are kept -/

namespace HistoryAccount

/-- The counters count the numbers next to them, every accepted record is in one place, and
    the batch in flight is the only one that is not answered. -/
structure Kept (a : HistoryAccount) : Prop where
  written_eq : a.written = a.writtenNumbers.length
  failed_eq : a.failed = a.failedNumbers.length
  inFlightCount_eq : a.inFlightCount = a.flight.length
  inFlight_iff : a.inFlight = true ↔ a.flight ≠ []
  perm : (List.range a.accepted).Perm
    (a.writtenNumbers ++ (a.failedNumbers ++ (a.flight ++ a.queue.map Queued.number)))
  flying : a.flight ≠ [] → a.posted = [a.flight]
  posted_ne : ∀ batch ∈ a.posted, batch ≠ []

variable {a : HistoryAccount}

theorem kept_empty : empty.Kept :=
  ⟨rfl, rfl, rfl, by simp [empty], .refl _, by simp [empty], by simp [empty]⟩

theorem Kept.push (h : a.Kept) (record : HistoryRecord) (bytes : ℕ) : (a.push record bytes).Kept := by
  refine { h with perm := ?_ }
  simp only [HistoryAccount.push, range_succ, map_append, ← append_assoc]
  refine List.Perm.append_right _ ?_
  simpa using h.perm

theorem Kept.post (h : a.Kept) (hflight : a.flight = []) (hposted : a.posted = [])
    (hqueue : a.queue ≠ []) {batchSize : ℕ} (hpos : 0 < batchSize) : (a.post batchSize).Kept := by
  have hne : (a.queue.take batchSize).map Queued.number ≠ [] := by
    simpa [hqueue] using hpos.ne'
  refine ⟨h.written_eq, h.failed_eq, by simp [HistoryAccount.post], iff_of_true rfl hne, ?_,
    fun _ => by simp [HistoryAccount.post, hposted], ?_⟩
  · have hperm := h.perm
    rw [hflight] at hperm
    simpa [HistoryAccount.post] using hperm
  · intro batch hbatch
    rw [HistoryAccount.post, hposted] at hbatch
    rw [mem_singleton.1 hbatch]
    exact hne

theorem Kept.discard (h : a.Kept) : a.discard.Kept := by
  refine ⟨h.written_eq, by simp [HistoryAccount.discard, h.failed_eq], h.inFlightCount_eq,
    h.inFlight_iff, h.perm.trans ?_, h.flying, h.posted_ne⟩
  simp only [HistoryAccount.discard, map_nil, append_nil, append_assoc]
  exact (perm_append_comm.append_left _).append_left _

theorem Kept.fail (h : a.Kept) : a.fail.Kept := by
  refine Kept.discard ⟨h.written_eq, ?_, rfl, by simp, ?_, by simp, h.posted_ne⟩
  · simp [h.failed_eq, h.inFlightCount_eq]
  · simpa using h.perm

theorem Kept.count (h : a.Kept) (hflight : a.inFlight = true) {index : ℕ}
    (hindex : index < a.posted.length) (outcome : Outcome) (pruned : ℕ) :
    (a.count index outcome pruned).Kept ∧ (a.count index outcome pruned).posted = [] := by
  have hposted := h.flying (h.inFlight_iff.1 hflight)
  obtain rfl : index = 0 := by
    rw [hposted, length_singleton] at hindex
    omega
  have hget : a.posted[0]? = some a.flight := by rw [hposted]; rfl
  have herase : a.posted.eraseIdx 0 = [] := by rw [hposted]; rfl
  have hperm := h.perm
  unfold HistoryAccount.count
  rw [hget]
  cases outcome with
  | written error =>
    refine ⟨⟨?_, h.failed_eq, rfl, by simp, hperm.trans ?_, by simp, by simp [herase]⟩, herase⟩
    · simp [Outcome.reply, h.written_eq]
    · simp only [append_assoc]
      exact (perm_append_comm_assoc _ _ _).append_left _
  | failed =>
    refine ⟨⟨h.written_eq, ?_, rfl, by simp, ?_, by simp, by simp [herase]⟩, herase⟩
    · simp [Outcome.reply, h.failed_eq]
    · simpa using hperm

theorem count_queue (a : HistoryAccount) (index : ℕ) (outcome : Outcome) (pruned : ℕ) :
    (a.count index outcome pruned).queue = a.queue := by
  unfold HistoryAccount.count
  split
  · rfl
  · cases outcome <;> rfl

/-! Where the records are does not matter to their number. -/

/-- The records that are counted, queued or in flight. -/
def total (a : HistoryAccount) : ℕ := a.written + a.failed + a.queue.length + a.inFlightCount

theorem Kept.accepted_eq (h : a.Kept) : a.accepted = a.total := by
  have hlength := h.perm.length_eq
  simp only [length_range, length_append, length_map] at hlength
  rw [total, h.written_eq, h.failed_eq, h.inFlightCount_eq]
  omega

theorem Kept.disjoint (h : a.Kept) : a.writtenNumbers.Disjoint a.failedNumbers := by
  have hnodup := h.perm.nodup_iff.1 nodup_range
  have hdisjoint := (nodup_append'.1 hnodup).2.2
  exact fun n hw hf => hdisjoint hw (mem_append_left _ hf)

theorem total_discard : a.discard.total = a.total := by
  simp only [total, discard, length_nil]
  omega

theorem total_fail : a.fail.total = a.total := by
  rw [fail, total_discard]
  simp only [total]
  omega

theorem total_post (h : a.inFlightCount = 0) (batchSize : ℕ) :
    (a.post batchSize).total = a.total := by
  simp only [total, post, length_take, length_drop]
  omega

theorem total_count {index : ℕ} {batch : List ℕ} (h : a.posted[index]? = some batch)
    (outcome : Outcome) (pruned : ℕ) :
    (a.count index outcome pruned).accepted = a.accepted ∧
      (a.count index outcome pruned).inFlightCount = 0 ∧
      (a.count index outcome pruned).total + a.inFlightCount = a.total + batch.length := by
  unfold count
  rw [h]
  cases outcome with
  | written error | failed =>
    refine ⟨rfl, rfl, ?_⟩
    simp only [total, Outcome.reply]
    omega

end HistoryAccount

/-! ## Stores that are kept -/

/-- What a call of `close` that has come this far has seen to. -/
def Closer.Fits (queue : List Queued) (flight : List ℕ) : Closer → Prop
  | .flushing => True
  | .terminating => queue = []
  | .requested _ | .settled => queue = [] ∧ flight = []

namespace HistoryStore

structure Kept (s : HistoryStore) : Prop where
  account : s.toHistoryAccount.Kept
  /-- If a batch is unanswered that is not in flight, then no other follows. -/
  quiet : s.flight = [] → s.posted ≠ [] → s.queue = [] ∧ (s.status = .degraded ∨ s.closing = true)
  degraded : s.status = .degraded → s.queue = [] ∧ s.flight = []
  closed : s.status = .closed → s.closing = true ∧ s.queue = [] ∧ s.flight = []
  closers : ∀ c ∈ s.closers, s.closing = true ∧ c.Fits s.queue s.flight
  requests : ∀ id, (id, .close) ∈ s.pending → s.closing = true ∧ s.queue = [] ∧ s.flight = []

variable {config : HistoryConfig} {s : HistoryStore}

theorem kept_new : new.Kept :=
  ⟨HistoryAccount.kept_empty, by simp [new, HistoryAccount.empty], by simp [new], by simp [new],
    by simp [new], by simp [new]⟩

theorem Kept.not_inFlight (h : s.Kept) : s.inFlight = false ↔ s.flight = [] := by
  rw [← Bool.not_eq_true, h.account.inFlight_iff, not_not]

theorem Kept.exact (h : s.Kept) : s.Exact := by
  refine ⟨h.account.accepted_eq, h.account.disjoint, fun hsettled => ?_⟩
  obtain ⟨-, hqueue, hflight⟩ := h.closers .settled hsettled
  exact ⟨hqueue, h.not_inFlight.2 hflight⟩

theorem drains_iff {allowClosing : Bool} : s.drains allowClosing = true ↔
    s.inFlight = false ∧ s.queue ≠ [] ∧ s.status = .ready ∧ (s.closing = true → allowClosing = true) := by
  unfold drains
  cases s.inFlight <;> cases s.closing <;> cases allowClosing <;> simp

theorem Kept.drain (h : s.Kept) (allowClosing : Bool) : (s.drain config allowClosing).Kept := by
  unfold HistoryStore.drain
  split_ifs with hdrains
  · obtain ⟨hnot, hqueue, hstatus, -⟩ := drains_iff.1 hdrains
    have hflight := h.not_inFlight.1 hnot
    have hposted : s.posted = [] := by
      by_contra hne
      exact hqueue (h.quiet hflight hne).1
    have hpost := h.account.post hflight hposted hqueue config.batchSize_pos
    have hnone := hpost.inFlight_iff.1 rfl
    refine ⟨hpost, fun hnil => absurd hnil hnone, fun hs => ?_, fun hs => ?_, fun c hc => ?_,
      fun id hid => absurd (h.requests id hid).2.1 hqueue⟩
    · exact absurd (hstatus.symm.trans hs) (by decide)
    · exact absurd (hstatus.symm.trans hs) (by decide)
    · -- only calls that still wait for the queue are left
      obtain ⟨hclosing, hfits⟩ := h.closers c hc
      cases c with
      | flushing => trivial
      | terminating => exact absurd hfits hqueue
      | requested | settled => exact absurd hfits.1 hqueue
  · exact h

theorem Kept.degrade (h : s.Kept) : s.degrade.Kept := by
  refine ⟨h.account.fail, fun _ _ => ⟨rfl, .inl rfl⟩, fun _ => ⟨rfl, rfl⟩, fun hs => ?_, fun c hc => ?_,
    fun id hid => absurd hid not_mem_nil⟩
  · cases hs
  · obtain ⟨c', hc', rfl⟩ := mem_map.1 hc
    refine ⟨(h.closers c' hc').1, ?_⟩
    cases c' with
    | flushing => trivial
    | terminating | requested id => rfl
    | settled => exact ⟨rfl, rfl⟩

theorem Kept.push (h : s.Kept) (hclosing : ¬s.closing = true) (hdegraded : s.status ≠ .degraded)
    (hclosed : s.status ≠ .closed) (record : HistoryRecord) (bytes : ℕ) :
    Kept { s with toHistoryAccount := s.push record bytes } :=
  ⟨h.account.push record bytes,
    fun hflight hposted => absurd (h.quiet hflight hposted).2 (not_or.2 ⟨hdegraded, hclosing⟩),
    fun hs => absurd hs hdegraded, fun hs => absurd hs hclosed,
    fun c hc => absurd (h.closers c hc).1 hclosing,
    fun id hid => absurd (h.requests id hid).1 hclosing⟩

theorem Kept.enqueue (h : s.Kept) (record : HistoryRecord) : (s.enqueue config record).2.Kept := by
  unfold HistoryStore.enqueue
  dsimp only
  split_ifs with hclosing hstatus hfull hbatch
  · exact h
  · exact { h with }
  · exact { h with }
  all_goals
    simp only [Bool.or_eq_true, decide_eq_true_eq, not_or] at hstatus
    have hkept := h.push hclosing hstatus.1 hstatus.2 record ((encode record.json).length + 256)
  · exact hkept.drain false
  · exact hkept

theorem Kept.query (h : s.Kept) : (s.query config).Kept := by
  unfold HistoryStore.query
  split_ifs
  · exact h
  · refine { h with requests := fun id hid => ?_ }
    rcases mem_append.1 hid with hid | hid
    · exact h.requests id hid
    · cases mem_singleton.1 hid

variable {c : Closer}

theorem Closer.Fits.reject {queue : List Queued} {flight : List ℕ} (h : c.Fits queue flight)
    (id : ℕ) : (c.reject id).Fits queue flight := by
  cases c with
  | requested i =>
    simp only [Closer.reject]
    split_ifs
    · exact h.1
    · exact h
  | flushing | terminating | settled => exact h

theorem Closer.Fits.resolve {queue : List Queued} {flight : List ℕ} (h : c.Fits queue flight)
    (id : ℕ) : (c.resolve id).Fits queue flight := by
  cases c with
  | requested i =>
    simp only [Closer.resolve]
    split_ifs
    · exact h
    · exact h
  | flushing | terminating | settled => exact h

section

variable (h : s.Kept)
include h

/-- A request is done with. -/
theorem Kept.forget (id : ℕ) : Kept { s with pending := s.pending.filter (·.1 ≠ id) } :=
  { h with requests := fun i hi => h.requests i (mem_of_mem_filter hi) }

theorem Kept.mapClosers {f : Closer → Closer}
    (hf : ∀ c : Closer, c.Fits s.queue s.flight → (f c).Fits s.queue s.flight) :
    Kept { s with closers := s.closers.map f } := by
  refine { h with closers := fun c hc => ?_ }
  obtain ⟨c', hc', rfl⟩ := mem_map.1 hc
  obtain ⟨hclosing, hfits⟩ := h.closers c' hc'
  exact ⟨hclosing, hf c' hfits⟩

theorem Kept.timeout (id : ℕ) : (s.timeout id).Kept := by
  unfold HistoryStore.timeout
  split
  · exact h
  · exact (h.forget id).degrade
  · exact (h.forget id).mapClosers fun c hc => Closer.Fits.reject hc id

theorem Kept.response (id : ℕ) (error : Bool) : (s.response id error).Kept := by
  unfold HistoryStore.response
  split
  · exact h
  · exact h.forget id
  · next hlookup =>
    have hdone := h.requests id (Keyed.mem_of_lookup hlookup)
    split_ifs
    · exact (h.forget id).mapClosers fun c hc => Closer.Fits.reject hc id
    · have hkept := (h.forget id).mapClosers fun c hc => Closer.Fits.resolve hc id
      exact { hkept with
        quiet := fun _ _ => ⟨hdone.2.1, .inr hdone.1⟩
        degraded := fun hs => nomatch hs
        closed := fun _ => hdone }

theorem Kept.call (hc : c.Fits s.queue s.flight) :
    Kept { s with closing := true, closers := s.closers ++ [c] } := by
  refine ⟨h.account, fun hflight hposted => ⟨(h.quiet hflight hposted).1, .inr rfl⟩, h.degraded,
    fun hs => ⟨rfl, (h.closed hs).2⟩, fun c' hc' => ⟨rfl, ?_⟩,
    fun id hid => ⟨rfl, (h.requests id hid).2⟩⟩
  rcases mem_append.1 hc' with hc' | hc'
  · exact (h.closers c' hc').2
  · rw [mem_singleton.1 hc']
    exact hc

theorem Kept.close : s.close.Kept := by
  unfold HistoryStore.close
  split_ifs with hclosed hdegraded
  · obtain ⟨hclosing, hdone⟩ := h.closed hclosed
    have hcall := h.call (c := .settled) hdone
    rwa [← hclosing] at hcall
  · simp only [Bool.and_eq_true, decide_eq_true_eq] at hdegraded
    exact h.call (c := .terminating) (h.degraded hdegraded.1).1
  · exact h.call (c := .flushing) trivial

theorem Kept.advance (hclosing : s.closing = true) (index : ℕ) (hc : c.Fits s.queue s.flight) :
    Kept { s with closers := s.closers.set index c } := by
  refine { h with closers := fun c' hc' => ⟨hclosing, ?_⟩ }
  rcases mem_or_eq_of_mem_set hc' with hc' | rfl
  · exact (h.closers c' hc').2
  · exact hc

theorem Kept.discard : Kept { s with toHistoryAccount := s.discard } := by
  refine ⟨h.account.discard, fun hflight hposted => ⟨rfl, (h.quiet hflight hposted).2⟩,
    fun hs => ⟨rfl, (h.degraded hs).2⟩, fun hs => ⟨(h.closed hs).1, rfl, (h.closed hs).2.2⟩,
    fun c hc => ?_, fun id hid => ⟨(h.requests id hid).1, rfl, (h.requests id hid).2.2⟩⟩
  obtain ⟨hclosing, hfits⟩ := h.closers c hc
  refine ⟨hclosing, ?_⟩
  cases c with
  | flushing => trivial
  | terminating => rfl
  | requested | settled => exact ⟨rfl, hfits.2⟩

theorem Kept.flush (index : ℕ) (expired late : Bool) :
    (s.flush config index expired late).Kept := by
  unfold HistoryStore.flush
  split_ifs with hindex hwait
  · exact h
  · exact h.drain true
  · have hclosing := (h.closers _ (mem_of_getElem? (not_not.1 hindex))).1
    dsimp only
    split_ifs with herror
    · exact h.discard.advance hclosing index rfl
    · simp only [Bool.or_eq_true, not_or, Bool.not_eq_true] at herror
      have hflight := h.not_inFlight.1 herror.1.2
      have hkept := h.discard.advance hclosing index
        (c := .requested (s.requestId + 1)) ⟨rfl, hflight⟩
      refine { hkept with requests := fun id hid => ?_ }
      rcases mem_append.1 hid with hid | hid
      · exact hkept.requests id hid
      · exact ⟨hclosing, rfl, hflight⟩

end

variable {index : ℕ}

theorem Kept.terminated (h : s.Kept) (htimely : s.Timely (.terminated index)) :
    (s.terminated index).Kept := by
  unfold HistoryStore.terminated
  split_ifs with hindex
  · exact h
  · have hindex := not_not.1 hindex
    obtain ⟨hclosing, hqueue⟩ := h.closers _ (mem_of_getElem? hindex)
    have hflight := h.not_inFlight.1 (htimely hindex)
    have hkept := h.advance hclosing index (c := .settled) ⟨hqueue, hflight⟩
    exact { hkept with
      quiet := fun _ _ => ⟨hqueue, .inr hclosing⟩
      degraded := fun hs => nomatch hs
      closed := fun _ => ⟨hclosing, hqueue, hflight⟩ }

theorem Kept.count (h : s.Kept) (hindex : index < s.posted.length) (hflight : s.inFlight = true)
    (outcome : Outcome) (pruned : ℕ) :
    Kept { s with
      toHistoryAccount := s.count index outcome pruned
      pruned := s.pruned + pruned } := by
  obtain ⟨hcount, hposted⟩ := h.account.count hflight hindex outcome pruned
  have hne := h.account.inFlight_iff.1 hflight
  have hqueue := s.toHistoryAccount.count_queue index outcome pruned
  refine ⟨hcount, fun _ hne' => absurd hposted hne', fun hs => absurd (h.degraded hs).2 hne,
    fun hs => absurd (h.closed hs).2.2 hne, fun c hc => ?_,
    fun id hid => absurd (h.requests id hid).2.2 hne⟩
  obtain ⟨hclosing, hfits⟩ := h.closers c hc
  refine ⟨hclosing, ?_⟩
  cases c with
  | flushing => trivial
  | terminating => exact hqueue.trans hfits
  | requested | settled => exact absurd hfits.2 hne

theorem Kept.step (h : s.Kept) {call : StoreCall} (hlegal : s.Legal call) (htimely : s.Timely call) :
    (s.step config call).Kept := by
  cases call with
  | enqueue record => exact h.enqueue record
  | drain => exact h.drain false
  | query => exact h.query
  | close => exact h.close
  | flush index expired late => exact h.flush index expired late
  | terminated index => exact h.terminated htimely
  | timeout id => exact h.timeout id
  | fatal => exact h.degrade
  | ready pruned =>
    refine Kept.drain ?_ false
    refine ⟨h.account, fun hflight hposted => ?_, fun hs => ?_, fun hs => ?_, h.closers, h.requests⟩
    · obtain ⟨hqueue, hs | hclosing⟩ := h.quiet hflight hposted
      · exact absurd hs hlegal
      · exact ⟨hqueue, .inr hclosing⟩
    · cases hs
    · cases hs
  | maintenance pruned error =>
    have hkept : Kept { s with pruned := s.pruned + pruned } := { h with }
    simp only [HistoryStore.step]
    split_ifs
    · exact hkept.degrade
    · exact hkept
  | batch index outcome pruned =>
    simp only [HistoryStore.step]
    split_ifs with hnone herror
    · exact h
    all_goals
      have hindex : index < s.posted.length := by simpa using hnone
      have hkept := h.count hindex (htimely hindex) outcome pruned
    · exact hkept.degrade
    · exact hkept.drain _
  | response id error => exact h.response id error
  | workerError => exact h.degrade
  | exit code =>
    have hkept : Kept { s with workerExited := true } := { h with }
    simp only [HistoryStore.step]
    split_ifs
    · exact hkept.degrade
    · exact hkept

/-! ## Steps that are not timely -/

theorem total_drain (config : HistoryConfig) (h : s.inFlightCount = 0) (allowClosing : Bool) :
    (s.drain config allowClosing).accepted = s.accepted ∧
      (s.drain config allowClosing).total = s.total := by
  unfold HistoryStore.drain
  split_ifs
  · exact ⟨rfl, HistoryAccount.total_post h _⟩
  · exact ⟨rfl, rfl⟩

theorem Kept.not_exact_batch (h : s.Kept) (hindex : index < s.posted.length)
    (hflight : s.inFlight = false) (outcome : Outcome) (pruned : ℕ) :
    ¬(s.step config (.batch index outcome pruned)).Exact := by
  intro hexact
  have hget : s.posted[index]? = some s.posted[index] := getElem?_eq_getElem hindex
  have hne := length_pos_of_ne_nil (h.account.posted_ne _ (getElem_mem hindex))
  obtain ⟨haccepted, hzero, htotal⟩ := HistoryAccount.total_count hget outcome pruned
  have hcount : s.inFlightCount = 0 := by
    rw [h.account.inFlightCount_eq, h.not_inFlight.1 hflight]
    rfl
  have hbefore := h.account.accepted_eq
  have hafter := hexact.accepted_eq
  have hstep : (s.step config (.batch index outcome pruned)).accepted = s.accepted ∧
      (s.step config (.batch index outcome pruned)).total =
        (s.count index outcome pruned).total := by
    simp only [HistoryStore.step, hget, Option.isNone_some, Bool.false_eq_true, if_false]
    split_ifs
    · exact ⟨haccepted, HistoryAccount.total_fail⟩
    · obtain ⟨hdrain, htotal'⟩ := total_drain config
        (s := { s with
          toHistoryAccount := s.count index outcome pruned
          pruned := s.pruned + pruned }) hzero s.closing
      exact ⟨hdrain.trans haccepted, htotal'⟩
  rw [← HistoryAccount.total] at hafter
  omega

theorem not_exact_terminated (hindex : s.closers[index]? = some .terminating)
    (hflight : s.inFlight = true) : ¬(s.step config (.terminated index)).Exact := by
  intro hexact
  have hlt := (List.getElem?_eq_some_iff.1 hindex).1
  have hstep : s.step config (.terminated index) =
      { s with closers := s.closers.set index .settled, status := .closed } := by
    simp [HistoryStore.step, HistoryStore.terminated, hindex]
  rw [hstep] at hexact
  have hnot := (hexact.closed (mem_set hlt _)).2
  exact Bool.false_ne_true (hnot.symm.trans hflight)

theorem Kept.timely (h : s.Kept) {call : StoreCall} (hexact : (s.step config call).Exact) :
    s.Timely call := by
  cases call with
  | batch index outcome pruned =>
    intro hindex
    by_contra hflight
    exact h.not_exact_batch hindex (Bool.eq_false_iff.2 hflight) outcome pruned hexact
  | terminated index =>
    intro hindex
    by_contra hflight
    exact not_exact_terminated hindex (Bool.not_eq_false _ ▸ hflight) hexact
  | _ => trivial

end HistoryStore

/-- **The counters are exact in every state of a run iff every batch is answered while it is in
    flight, and no call of `close` ends before that.** -/
theorem history_exact_iff {config : HistoryConfig} {calls : List StoreCall}
    (hlegal : Runs.Along (HistoryStore.step config) HistoryStore.Legal .new calls) :
    (∀ s ∈ Runs.states (HistoryStore.step config) .new calls, s.Exact) ↔
      Runs.Along (HistoryStore.step config) HistoryStore.Timely .new calls :=
  Runs.forall_states_iff (fun _ h => h.exact) (fun _ _ h hl ht => h.step hl ht)
    (fun _ _ h _ he => h.timely he) HistoryStore.kept_new hlegal

/-! A round of maintenance fails while a batch is in flight. -/

namespace LateReply

def config : HistoryConfig := ⟨4096, 8388608, 1, 16, Nat.one_pos⟩

def record : HistoryRecord :=
  ⟨text "lab", ⟨0, FarFuture.epoch_le⟩, 0, text "slo", text "evaluation", none, none, text "null"⟩

/-- The first batch has been written. -/
def reply : StoreCall := .batch 0 (.written false) 0

end LateReply

open LateReply in
theorem history_exact_reply :
    Runs.Along (HistoryStore.step config) HistoryStore.Legal .new [.ready 0, .enqueue record, reply] ∧
      ∀ s ∈ Runs.states (HistoryStore.step config) .new [.ready 0, .enqueue record, reply], s.Exact := by
  have hready : HistoryStore.new.Legal (.ready 0) := by
    intro h
    cases h
  have hlegal : Runs.Along (HistoryStore.step config) HistoryStore.Legal .new
      [.ready 0, .enqueue record, reply] := ⟨hready, trivial, trivial, trivial⟩
  exact ⟨hlegal, (history_exact_iff hlegal).2 ⟨trivial, trivial, fun _ => rfl, trivial⟩⟩

open LateReply in
/-- The record is counted as failed when the store is degraded, and as written when the worker
    answers. -/
theorem history_counted_twice :
    let s := [.ready 0, .enqueue record, .maintenance 0 true, reply].foldl
      (HistoryStore.step config) .new
    s.accepted = 1 ∧ s.written = 1 ∧ s.failed = 1 ∧ s.queue = [] ∧
      0 ∈ s.writtenNumbers ∧ 0 ∈ s.failedNumbers := by
  refine ⟨rfl, rfl, rfl, rfl, ?_, ?_⟩
  · exact mem_singleton.2 rfl
  · exact mem_singleton.2 rfl

end History

end GraphX
