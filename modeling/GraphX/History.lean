/-
  The records of the history and the queries for them (`apps/telemetry/history.mjs`).
-/
import GraphX.Redaction

namespace GraphX

open Ecma

namespace History

/-! ## Records -/

/-- The times that an ECMAScript `Date` can stand for, in milliseconds from the epoch. -/
def maxTime : ℕ := 8640000000000000

/-- A time that a clock shows. -/
abbrev TimeValue := {t : ℤ // t.natAbs ≤ maxTime}

/-- A string that is not empty, cut. -/
def boundedText (value : Option Json) (maximum : ℕ) : Option Text :=
  match value with
  | some (.str s) => if s = [] then none else some (s.take maximum)
  | _ => none

def finiteNumber : Option Json → Option ℚ
  | some (.num (.finite q)) => some q
  | _ => none

def safeInteger : Option Json → Option ℤ
  | some (.num n) => n.safeInteger
  | _ => none

/-- A text of the data, `null` if there is none. -/
def textValue : Option Text → Json
  | some s => .str s
  | none => .null

def numberValue : Option ℚ → Json
  | some q => .num (.finite q)
  | none => .null

/-- The data of an event, in the order in which the object is built. -/
def recordData (event : Json) : List (Text × Json) :=
  let get (k : String) := event.get (text k)
  let bounded (k : String) (maximum : ℕ) := (text k, textValue (boundedText (get k) maximum))
  let finite (k : String) := (text k, numberValue (finiteNumber (get k)))
  [bounded "kind" 32, bounded "event" 32, bounded "nodeId" 64, bounded "edgeId" 64,
    (text "sequence", numberValue ((safeInteger (get "sequence")).map fun n => (n : ℚ))),
    bounded "traceId" 128, bounded "spanId" 32, bounded "messageId" 128,
    bounded "parentMessageId" 128, finite "latencyUs", finite "wireBytes", finite "cpuPercent",
    bounded "message" 256] ++
  if hasKind event "edge_totals" then
    [finite "packets", bounded "direction" 8, bounded "sessionId" 32]
  else []

structure HistoryRecord where
  graphId : Text
  recordedAtMs : TimeValue
  eventAtMs : ℚ
  kind : Text
  event : Text
  nodeId : Option Text
  edgeId : Option Text
  json : Text

/-- `finiteNumber(event.timestamp) || recordedAtMs` -/
def eventTime (event : Json) (recordedAtMs : TimeValue) : ℚ :=
  match finiteNumber (event.get (text "timestamp")) with
  | some q => if q = 0 then recordedAtMs.1 else q
  | none => recordedAtMs.1

def telemetryHistoryRecord (event : Json) (graphId : Text) (recordedAtMs : TimeValue) :
    HistoryRecord where
  graphId := graphId
  recordedAtMs := recordedAtMs
  eventAtMs := eventTime event recordedAtMs
  kind := (boundedText (event.get (text "kind")) 32).getD (text "telemetry")
  event := (boundedText (event.get (text "event")) 32).getD (text "unknown")
  nodeId := boundedText (event.get (text "nodeId")) 64
  edgeId := boundedText (event.get (text "edgeId")) 64
  json := stringify (.obj (recordData event))

/-! ## Queries -/

structure HistoryQuery where
  cursor : Option ℤ
  after : Option ℤ
  before : Option ℤ
  limit : ℕ
  node : Option Text
  edge : Option Text
  kind : Option Text
  event : Option Text
  excludeControlAudit : Bool

section queries

open Check

-- the parameters of an address, in order
variable (searchParams : List (Text × Text))

/-- `/^[0-9]\x7b1,16\x7d$/` -/
def isInteger (s : Text) : Bool := 1 ≤ s.length && s.length ≤ 16 && s.all isDigit

def integer (name : String) (minimum : ℤ) : Except Text (Option ℤ) :=
  match searchParams.lookup (text name) with
  | none => .ok none
  | some s =>
    if !isInteger s then .error (text name ++ text " must be a non-negative integer")
    else
      match (Number.ofDecimal false (value s) 0).safeInteger with
      | some parsed =>
        if parsed < minimum then .error (text name ++ text " is out of range") else .ok (some parsed)
      | none => .error (text name ++ text " is out of range")

def identifier (name : String) : Except Text (Option Text) :=
  match searchParams.lookup (text name) with
  | none => .ok none
  | some s => if isIdentifier s then .ok (some s) else .error (text name ++ text " is invalid")

/-- Whether the identifier is one of the topology, or none is known. -/
def configured (ids : List Text) (id : Option Text) : Bool :=
  match id with
  | some id => ids = [] || ids.contains id
  | none => true

def historyQueryKeys : List String :=
  ["cursor", "after", "before", "limit", "node", "edge", "kind", "event"]

/-- The query of the address, to which its route adds whether the control audit is
    excluded. -/
def parseHistoryQuery (queryLimit : ℕ) (nodeIds edgeIds : List Text) (excludeControlAudit : Bool) :
    Except Text HistoryQuery := do
  searchParams.forM fun p => ensure (historyQueryKeys.any (text · = p.1))
    (text "unknown history query parameter '" ++ p.1 ++ text "'")
  let limit := ((← integer searchParams "limit" 1).map Int.toNat).getD queryLimit
  ensure (limit ≤ queryLimit) (text "limit must not exceed " ++ decimal queryLimit)
  let node ← identifier searchParams "node"
  let edge ← identifier searchParams "edge"
  ensure (configured nodeIds node) (text "node is not in the configured topology")
  ensure (configured edgeIds edge) (text "edge is not in the configured topology")
  let kind ← identifier searchParams "kind"
  let event ← identifier searchParams "event"
  let after ← integer searchParams "after" 0
  let before ← integer searchParams "before" 0
  ensure (after.all fun a => before.all fun b => a ≤ b) (text "after must not exceed before")
  let cursor ← integer searchParams "cursor" 1
  pure ⟨cursor, after, before, limit, node, edge, kind, event, excludeControlAudit⟩

end queries

/-! ## The data can be read again -/

theorem reads_textValue (s : Option Text) : ∃ v, Reads (stringify (textValue s)) v := by
  cases s with
  | none => exact ⟨_, reads_null⟩
  | some s => exact ⟨_, reads_quote s⟩

theorem reads_numberValue (q : Option ℚ) : ∃ v, Reads (stringify (numberValue q)) v := by
  cases q with
  | none => exact ⟨_, reads_null⟩
  | some q => exact reads_print (.finite q)

def recordNames : List String :=
  ["kind", "event", "nodeId", "edgeId", "sequence", "traceId", "spanId", "messageId",
    "parentMessageId", "latencyUs", "wireBytes", "cpuPercent", "message", "packets", "direction",
    "sessionId"]

theorem recordData_names (event : Json) :
    ∃ rest, (recordData event).map Prod.fst ++ rest = recordNames.map text := by
  unfold recordData
  split_ifs
  · exact ⟨[], rfl⟩
  · exact ⟨["packets", "direction", "sessionId"].map text, rfl⟩

theorem recordNames_nodup : (recordNames.map text).Nodup := by decide

theorem isName_recordNames : ∀ k ∈ recordNames.map text, IsName k := by decide

theorem recordData_values (event : Json) :
    ∀ m ∈ recordData event, ∃ v, Reads (stringify m.2) v := by
  have hnil : ∀ m ∈ ([] : List (Text × Json)), ∃ v, Reads (stringify m.2) v :=
    fun m hm => absurd hm List.not_mem_nil
  unfold recordData
  simp only [List.forall_mem_append, List.forall_mem_cons]
  refine ⟨⟨reads_textValue _, reads_textValue _, reads_textValue _, reads_textValue _,
    reads_numberValue _, reads_textValue _, reads_textValue _, reads_textValue _,
    reads_textValue _, reads_numberValue _, reads_numberValue _, reads_numberValue _,
    reads_textValue _, hnil⟩, ?_⟩
  split_ifs
  · simp only [List.forall_mem_cons]
    exact ⟨reads_numberValue _, reads_textValue _, reads_textValue _, hnil⟩
  · exact hnil

/-- **What an event leaves in the history can be read again.** -/
theorem telemetryHistoryRecord_parses (event : Json) (graphId : Text) (recordedAtMs : TimeValue) :
    ∃ v, parse (telemetryHistoryRecord event graphId recordedAtMs).json = some v := by
  obtain ⟨rest, hrest⟩ := recordData_names event
  have hnodup : ((recordData event).map Prod.fst).Nodup :=
    (List.nodup_append.1 (hrest ▸ recordNames_nodup)).1
  have hnames : ∀ m ∈ recordData event, IsName m.1 := fun m hm =>
    isName_recordNames _ (hrest ▸ List.mem_append_left _ (List.mem_map_of_mem hm))
  have hne : recordData event ≠ [] := List.cons_ne_nil _ _
  obtain ⟨v, hv⟩ := exists_reads_object hne
    (fun m hm => ⟨hnames m hm, recordData_values event m hm⟩) hnodup
  exact ⟨v, hv.parse⟩

end History

end GraphX
