/-
  The table of the history (`apps/telemetry/history-worker.mjs`).

  The worker keeps one table of records with increasing ids.  A batch is written in one
  transaction, between two rounds of maintenance that delete what is too old or too much;
  a query selects rows by its filters, the newest first.

  * **`query_returns_iff`**: a query returns normally iff an ECMAScript `Date` can stand for
    the event time of every row that it selects.
-/
import GraphX.History

namespace GraphX

open Ecma List

namespace History

structure WorkerData where
  graphId : Text
  retentionSeconds : ℕ
  maxRecords : ℕ

structure HistoryRow where
  id : ℕ
  record : HistoryRecord

/-- The rows in the order of their ids, and the last id that was given out. -/
structure HistoryTable where
  rows : List HistoryRow
  lastId : ℕ
  ascending : rows.Pairwise (·.id < ·.id)
  le_lastId : ∀ row ∈ rows, row.id ≤ lastId

namespace HistoryTable

theorem empty_le : ∀ row ∈ ([] : List HistoryRow), row.id ≤ 0 :=
  fun _ h => absurd h not_mem_nil

def empty : HistoryTable := ⟨[], 0, .nil, empty_le⟩

variable (table : HistoryTable)

def newRow (record : HistoryRecord) : HistoryRow := ⟨table.lastId + 1, record⟩

theorem insert_ascending (record : HistoryRecord) :
    (table.rows ++ [table.newRow record]).Pairwise (·.id < ·.id) := by
  rw [pairwise_append]
  refine ⟨table.ascending, pairwise_singleton _ _, fun row hrow new hnew => ?_⟩
  rw [mem_singleton.1 hnew]
  exact Nat.lt_succ_of_le (table.le_lastId row hrow)

theorem insert_le (record : HistoryRecord) :
    ∀ row ∈ table.rows ++ [table.newRow record], row.id ≤ table.lastId + 1 := by
  intro row hrow
  rcases mem_append.1 hrow with hrow | hrow
  · exact (table.le_lastId row hrow).trans (Nat.le_succ _)
  · rw [mem_singleton.1 hrow]
    exact le_refl _

/-- `insertRecord` -/
def insert (record : HistoryRecord) : HistoryTable :=
  ⟨table.rows ++ [table.newRow record], table.lastId + 1, table.insert_ascending record,
    table.insert_le record⟩

/-- The rows that are not deleted: none recorded before the retention, and no more than
    the newest `maxRecords`. -/
def keptRows (data : WorkerData) (now : ℤ) : List HistoryRow :=
  let recent := table.rows.filter fun row =>
    now - data.retentionSeconds * 1000 ≤ row.record.recordedAtMs.1
  recent.drop (recent.length - data.maxRecords)

theorem keptRows_sublist (data : WorkerData) (now : ℤ) :
    (table.keptRows data now).Sublist table.rows :=
  (drop_sublist _ _).trans filter_sublist

/-- The transaction of `maintain`. -/
def prune (data : WorkerData) (now : ℤ) : HistoryTable :=
  ⟨table.keptRows data now, table.lastId, table.ascending.sublist (table.keptRows_sublist data now),
    fun row hrow => table.le_lastId row ((table.keptRows_sublist data now).subset hrow)⟩

end HistoryTable

/-- Where an error ends `maintain`: before its transaction is committed, or at a
    checkpoint after that. -/
inductive MaintainFault where
  | early
  | late

/-- The table after `maintain`, and the number of deleted rows unless it throws. -/
def maintain (data : WorkerData) (table : HistoryTable) (now : ℤ) :
    Option MaintainFault → HistoryTable × Option ℕ
  | none => (table.prune data now, some (table.rows.length - (table.keptRows data now).length))
  | some .early => (table, none)
  | some .late => (table.prune data now, none)

/-- What a batch meets: the times of its two rounds of maintenance, and the errors of the
    file system and of the database. -/
structure BatchMoment where
  before : ℤ
  beforeFault : Option MaintainFault
  insertFault : Bool
  after : ℤ
  afterFault : Option MaintainFault

/-- The answer to a batch. -/
structure BatchReply where
  written : ℕ
  failed : ℕ
  pruned : ℕ
  error : Bool

def writeBatch (data : WorkerData) (table : HistoryTable) (records : List HistoryRecord)
    (m : BatchMoment) : HistoryTable × BatchReply :=
  match maintain data table m.before m.beforeFault with
  | (table, none) => (table, ⟨0, records.length, 0, true⟩)
  | (table, some pruned) =>
    -- the transaction of the records is rolled back
    if m.insertFault then (table, ⟨0, records.length, pruned, true⟩)
    else
      match maintain data (records.foldl .insert table) m.after m.afterFault with
      | (table, some more) => (table, ⟨records.length, 0, pruned + more, false⟩)
      -- the records are committed, though reclaiming space failed
      | (table, none) => (table, ⟨records.length, 0, pruned, true⟩)

/-! ## Queries -/

/-- The filters of a query, `now` being the time at which the worker runs it. -/
def HistoryQuery.selects (data : WorkerData) (now : ℤ) (query : HistoryQuery) (row : HistoryRow) :
    Bool :=
  let r := row.record
  r.graphId = data.graphId && now - data.retentionSeconds * 1000 ≤ r.recordedAtMs.1 &&
    query.cursor.all ((row.id : ℤ) < ·) && query.after.all (· ≤ r.recordedAtMs.1) &&
    query.before.all (r.recordedAtMs.1 ≤ ·) && query.node.all (r.nodeId = some ·) &&
    query.edge.all (r.edgeId = some ·) && query.kind.all (r.kind = ·) &&
    !(query.excludeControlAudit && r.kind = text "control_audit") &&
    query.event.all (r.event = ·)

/-- The rows of the statement: the newest first, one more than the limit. -/
def selectedRows (data : WorkerData) (now : ℤ) (query : HistoryQuery) (table : HistoryTable) :
    List HistoryRow :=
  (table.rows.filter (query.selects data now)).reverse.take (query.limit + 1)

inductive QueryError where
  /-- `RangeError: Invalid time value` -/
  | invalidTime
  /-- `SyntaxError` of `JSON.parse` -/
  | invalidJson
  deriving DecidableEq

def trunc (t : ℚ) : ℤ := if t < 0 then ⌈t⌉ else ⌊t⌋

/-- `new Date(t).toISOString()`, as the time that it prints. -/
def toISOString (t : ℚ) : Except QueryError ℤ :=
  if |t| ≤ maxTime then .ok (trunc t) else .error .invalidTime

/-- `JSON.parse(text)` -/
def parseData (json : Text) : Except QueryError Json :=
  match parse json with
  | some v => .ok v
  | none => .error .invalidJson

structure HistoryEntry where
  id : ℕ
  recordedAt : ℤ
  eventAt : ℤ
  kind : Text
  event : Text
  nodeId : Option Text
  edgeId : Option Text
  data : Json

def HistoryRow.entry (row : HistoryRow) : Except QueryError HistoryEntry := do
  let recordedAt ← toISOString row.record.recordedAtMs.1
  let eventAt ← toISOString row.record.eventAtMs
  let data ← parseData row.record.json
  pure ⟨row.id, recordedAt, eventAt, row.record.kind, row.record.event, row.record.nodeId,
    row.record.edgeId, data⟩

structure HistoryPage where
  records : List HistoryEntry
  nextCursor : Option ℕ
  hasMore : Bool

def queryHistory (data : WorkerData) (now : ℤ) (query : HistoryQuery) (table : HistoryTable) :
    Except QueryError HistoryPage := do
  let rows := selectedRows data now query table
  let hasMore : Bool := query.limit < rows.length
  let selected ← (rows.take query.limit).mapM HistoryRow.entry
  let last := selected.getLast?.bind fun entry => if entry.id = 0 then none else some entry.id
  pure ⟨selected, if hasMore then last else none, hasMore⟩

/-! ## Runs of the worker -/

/-- What changes the table: a batch, or a round of maintenance. -/
inductive WorkerStep where
  | batch (records : List HistoryRecord) (m : BatchMoment)
  | maintenance (now : ℤ) (fault : Option MaintainFault)

def WorkerStep.apply (data : WorkerData) (table : HistoryTable) : WorkerStep → HistoryTable
  | .batch records m => (writeBatch data table records m).1
  | .maintenance now fault => (maintain data table now fault).1

def WorkerStep.records : WorkerStep → List HistoryRecord
  | .batch records _ => records
  | .maintenance _ _ => []

def HistoryTable.run (data : WorkerData) (steps : List WorkerStep) : HistoryTable :=
  steps.foldl (WorkerStep.apply data) .empty

theorem maintain_subset (data : WorkerData) (table : HistoryTable) (now : ℤ)
    (fault : Option MaintainFault) : (maintain data table now fault).1.rows ⊆ table.rows := by
  rcases fault with _ | _ | _
  · exact (table.keptRows_sublist data now).subset
  · exact List.Subset.refl _
  · exact (table.keptRows_sublist data now).subset

variable {table : HistoryTable} {row : HistoryRow}

theorem mem_foldl_insert {records : List HistoryRecord}
    (h : row ∈ (records.foldl HistoryTable.insert table).rows) :
    row ∈ table.rows ∨ row.record ∈ records := by
  induction records generalizing table with
  | nil => exact .inl h
  | cons record records ih =>
    rcases ih h with hrow | hrow
    · rcases mem_append.1 hrow with hrow | hrow
      · exact .inl hrow
      · rw [mem_singleton.1 hrow]
        exact .inr mem_cons_self
    · exact .inr (mem_cons_of_mem _ hrow)

/-- A step adds records of its batch and nothing else. -/
theorem WorkerStep.mem_apply {data : WorkerData} {step : WorkerStep}
    (h : row ∈ (step.apply data table).rows) : row ∈ table.rows ∨ row.record ∈ step.records := by
  cases step with
  | maintenance now fault => exact .inl (maintain_subset data table now fault h)
  | batch records m =>
    have hfirst := maintain_subset data table m.before m.beforeFault
    simp only [WorkerStep.apply, writeBatch] at h
    generalize maintain data table m.before m.beforeFault = before at h hfirst
    obtain ⟨table', _ | pruned⟩ := before
    · exact .inl (hfirst h)
    · dsimp only at h
      split_ifs at h
      · exact .inl (hfirst h)
      · have hsecond := maintain_subset data (records.foldl .insert table') m.after m.afterFault
        generalize maintain data (records.foldl .insert table') m.after m.afterFault = after
          at h hsecond
        obtain ⟨table'', _ | more⟩ := after
        all_goals exact (mem_foldl_insert (hsecond h)).imp_left (hfirst ·)

/-- **Every row of a run is a record of one of its batches.** -/
theorem HistoryTable.run_records {data : WorkerData} {steps : List WorkerStep} :
    ∀ row ∈ (HistoryTable.run data steps).rows, ∃ step ∈ steps, row.record ∈ step.records := by
  induction steps using reverseRecOn with
  | nil => exact fun row h => absurd h not_mem_nil
  | append_singleton steps step ih =>
    intro row hrow
    rw [HistoryTable.run, foldl_append] at hrow
    rcases WorkerStep.mem_apply hrow with hrow | hrow
    · obtain ⟨s, hs, hmem⟩ := ih row hrow
      exact ⟨s, mem_append_left _ hs, hmem⟩
    · exact ⟨step, by simp, hrow⟩

/-! ## Queries of stored events -/

/-- The batches of the run hold records of telemetry events. -/
def StoresEvents (steps : List WorkerStep) : Prop :=
  ∀ step ∈ steps, ∀ record ∈ step.records, ∃ event graphId recordedAtMs,
    record = telemetryHistoryRecord event graphId recordedAtMs

theorem toISOString_ok {t : ℚ} : (∃ d, toISOString t = .ok d) ↔ |t| ≤ maxTime := by
  unfold toISOString
  split_ifs with h
  · exact ⟨fun _ => h, fun _ => ⟨_, rfl⟩⟩
  · constructor
    · rintro ⟨d, hd⟩
      cases hd
    · exact fun hle => absurd hle h

/-- An ECMAScript `Date` can stand for the time of the event, if it has one. -/
def Datable (event : Json) : Prop :=
  ∀ q, finiteNumber (event.get (text "timestamp")) = some q → |q| ≤ maxTime

theorem abs_timeValue (t : TimeValue) : |((t.1 : ℤ) : ℚ)| ≤ maxTime := by
  have h : |t.1| ≤ (maxTime : ℤ) := by
    rw [Int.abs_eq_natAbs]
    exact_mod_cast t.2
  exact_mod_cast h

/-- The time that is stored is the event's own, or one that a clock has shown. -/
theorem eventTime_datable {event : Json} {recordedAtMs : TimeValue} :
    |eventTime event recordedAtMs| ≤ maxTime ↔ Datable event := by
  unfold eventTime Datable
  cases finiteNumber (event.get (text "timestamp")) with
  | none => simp [abs_timeValue]
  | some q =>
    dsimp only
    split_ifs with hq
    · subst hq
      simp [abs_timeValue]
    · simp

/-- A row can be shown if its times and its data can be read. -/
theorem entry_iff : (∃ entry, row.entry = .ok entry) ↔
    |row.record.eventAtMs| ≤ maxTime ∧ ∃ v, parse row.record.json = some v := by
  have hdata : ∀ v, parseData row.record.json = .ok v ↔ parse row.record.json = some v := by
    intro v
    unfold parseData
    cases parse row.record.json <;> simp
  obtain ⟨recorded, hrecorded⟩ := toISOString_ok.2 (abs_timeValue row.record.recordedAtMs)
  simp only [HistoryRow.entry, Check.bind_eq_ok, ← toISOString_ok, ← hdata]
  constructor
  · rintro ⟨_, _, _, d, hd, v, hv, _⟩
    exact ⟨⟨d, hd⟩, v, hv⟩
  · rintro ⟨⟨d, hd⟩, v, hv⟩
    exact ⟨_, recorded, hrecorded, d, hd, v, hv, rfl⟩

theorem entry_ok {event : Json} {graphId : Text} {recordedAtMs : TimeValue}
    (h : row.record = telemetryHistoryRecord event graphId recordedAtMs) :
    (∃ entry, row.entry = .ok entry) ↔ Datable event := by
  rw [entry_iff, h, ← @eventTime_datable event recordedAtMs]
  exact and_iff_left (telemetryHistoryRecord_parses event graphId recordedAtMs)

def returnedRows (data : WorkerData) (now : ℤ) (query : HistoryQuery) (table : HistoryTable) :
    List HistoryRow :=
  (selectedRows data now query table).take query.limit

theorem queryHistory_ok {data : WorkerData} {now : ℤ} {query : HistoryQuery} :
    (∃ page, queryHistory data now query table = .ok page) ↔
      ∀ row ∈ returnedRows data now query table, ∃ entry, row.entry = .ok entry := by
  simp only [queryHistory, Check.bind_eq_ok]
  constructor
  · rintro ⟨_, selected, hselected, _⟩ row hrow
    obtain ⟨entry, -, hentry⟩ := Check.exists_of_mapM_eq_ok hselected hrow
    exact ⟨entry, hentry⟩
  · intro h
    obtain ⟨selected, hselected⟩ := Check.exists_mapM_eq_ok h
    exact ⟨_, selected, hselected, rfl⟩

theorem mem_of_mem_returnedRows {data : WorkerData} {now : ℤ} {query : HistoryQuery}
    (h : row ∈ returnedRows data now query table) : row ∈ table.rows :=
  mem_of_mem_filter (mem_reverse.1 (mem_of_mem_take (mem_of_mem_take h)))

/-- **A query returns normally iff the events that it reads have times that a `Date` can
    stand for.** -/
theorem query_returns_iff {data : WorkerData} {steps : List WorkerStep} (h : StoresEvents steps)
    (now : ℤ) (query : HistoryQuery) :
    (∃ page, queryHistory data now query (.run data steps) = .ok page) ↔
      ∀ row ∈ returnedRows data now query (.run data steps), ∀ event graphId recordedAtMs,
        row.record = telemetryHistoryRecord event graphId recordedAtMs → Datable event := by
  rw [queryHistory_ok]
  refine forall₂_congr fun row hrow => ?_
  obtain ⟨step, hstep, hmem⟩ := HistoryTable.run_records row (mem_of_mem_returnedRows hrow)
  obtain ⟨event, graphId, recordedAtMs, hrecord⟩ := h step hstep row.record hmem
  constructor
  · exact fun hentry event' graphId' recordedAtMs' hrecord' => (entry_ok hrecord').1 hentry
  · exact fun hall => (entry_ok hrecord).2 (hall event graphId recordedAtMs hrecord)

/-! Totals of an edge, which the validator admits up to the year 287396. -/

namespace FarFuture

def totals (timestamp : ℚ) : Json :=
  .obj [(text "kind", .str (text "edge_totals")), (text "event", .str (text "totals")),
    (text "nodeId", .str (text "sink")), (text "edgeId", .str (text "link")),
    (text "timestamp", .num (.finite timestamp)),
    (text "sessionId", .str (text "00000000000000000000000000000000")),
    (text "direction", .str (text "sent")), (text "packets", .num (.finite 0)),
    (text "wireBytes", .num (.finite 0))]

def data : WorkerData := ⟨text "lab", 604800, 10⟩

theorem epoch_le : (0 : ℤ).natAbs ≤ maxTime := Nat.zero_le _

/-- The totals are recorded at the epoch. -/
def record (timestamp : ℚ) : HistoryRecord :=
  telemetryHistoryRecord (totals timestamp) (text "lab") ⟨0, epoch_le⟩

def batch (timestamp : ℚ) : WorkerStep := .batch [record timestamp] ⟨0, none, false, 0, none⟩

/-- The query of an address without parameters. -/
def query : HistoryQuery := ⟨none, none, none, 200, none, none, none, none, true⟩

theorem returned (timestamp : ℚ) :
    returnedRows data 0 query (.run data [batch timestamp]) = [⟨1, record timestamp⟩] := by
  rfl

end FarFuture

open FarFuture in
theorem query_epoch : ∃ page, queryHistory data 0 query (.run data [batch 1]) = .ok page := by
  have hstores : StoresEvents [batch 1] := by
    intro step hstep r hr
    obtain rfl := mem_singleton.1 hstep
    exact ⟨_, _, _, mem_singleton.1 hr⟩
  refine (query_returns_iff hstores 0 query).2 fun row hrow event graphId recordedAtMs h => ?_
  rw [returned] at hrow
  obtain rfl := mem_singleton.1 hrow
  have htime : eventTime event recordedAtMs = 1 := (congrArg HistoryRecord.eventAtMs h).symm
  rw [← @eventTime_datable event recordedAtMs, htime]
  norm_num [maxTime]

open FarFuture in
/-- A query without filters fails once such totals are stored. -/
theorem query_far_future :
    validateTelemetryEvent (totals 8640000000000001) [text "sink"] [text "link"] = true ∧
      queryHistory data 0 query (.run data [batch 8640000000000001]) = .error .invalidTime := by
  constructor
  · decide
  · rfl

end History

end GraphX
