/-
  Walks over the pages of the history (`apps/telemetry/history-worker.mjs`).

  A reader starts without a cursor and asks again with the cursor of each page until a page
  has none.

  * **`history_walk_iff`**: the walk ends iff each matching row can be shown; its pages then
    hold every matching row once, the newest first.
-/
import GraphX.HistoryWorker

namespace GraphX.History

open Check List

/-! ## The queries of addresses -/

theorem le_of_integer {searchParams : List (Ecma.Text × Ecma.Text)} {name : String} {minimum : ℤ}
    {n : ℤ} (h : integer searchParams name minimum = .ok (some n)) : minimum ≤ n := by
  unfold integer at h
  split at h
  · cases h
  · split_ifs at h
    split at h
    · split_ifs at h with hlt
      cases h
      exact not_lt.1 hlt
    · cases h

/-- The query of an address asks for at least one row. -/
theorem limit_pos {searchParams : List (Ecma.Text × Ecma.Text)} {queryLimit : ℕ}
    {nodeIds edgeIds : List Ecma.Text} {audit : Bool} {query : HistoryQuery}
    (h : parseHistoryQuery searchParams queryLimit nodeIds edgeIds audit = .ok query)
    (hlimit : 0 < queryLimit) : 0 < query.limit := by
  simp only [parseHistoryQuery, bind_eq_ok] at h
  obtain ⟨_, -, limit, hinteger, _, -, _, -, _, -, _, -, _, -, _, -, _, -, _, -, _, -, _, -, _, -,
    h⟩ := h
  cases h
  cases limit with
  | none => exact hlimit
  | some n =>
    have := le_of_integer hinteger
    change 0 < n.toNat
    omega

/-! ## One page -/

section pages

variable {data : WorkerData} {table : HistoryTable}

/-- The rows that match, the newest first. -/
def matching (data : WorkerData) (now : ℤ) (query : HistoryQuery) (table : HistoryTable) :
    List HistoryRow :=
  (table.rows.filter (query.selects data now)).reverse

theorem matching_descending (now : ℤ) (query : HistoryQuery) :
    (matching data now query table).Pairwise (·.id > ·.id) :=
  pairwise_reverse.2 (table.ascending.filter _)

theorem returnedRows_eq (now : ℤ) (query : HistoryQuery) :
    returnedRows data now query table = (matching data now query table).take query.limit := by
  rw [returnedRows, selectedRows, take_take, Nat.min_eq_left (Nat.le_succ _)]
  rfl

theorem entry_id {row : HistoryRow} {entry : HistoryEntry} (h : row.entry = .ok entry) :
    entry.id = row.id := by
  simp only [HistoryRow.entry, bind_eq_ok] at h
  obtain ⟨_, _, _, _, _, _, h⟩ := h
  cases h
  rfl

theorem entries_ids {rows : List HistoryRow} {entries : List HistoryEntry}
    (h : rows.mapM HistoryRow.entry = .ok entries) : entries.map (·.id) = rows.map (·.id) := by
  have hall := mapM_eq_ok h
  clear h
  induction hall with
  | nil => rfl
  | cons hentry _ ih => rw [map_cons, map_cons, entry_id hentry, ih]

/-- The rows below the last one of a page are those that the page leaves. -/
theorem filter_lt_eq_drop {rows : List HistoryRow} (h : rows.Pairwise (·.id > ·.id)) {n : ℕ}
    (hn : n < rows.length) : rows.filter (·.id < rows[n].id) = rows.drop (n + 1) := by
  induction rows generalizing n with
  | nil => cases hn
  | cons row rows ih =>
    obtain ⟨hrow, hrows⟩ := pairwise_cons.1 h
    cases n with
    | zero =>
      rw [filter_cons_of_neg (by simp)]
      exact filter_eq_self.2 fun r hr => decide_eq_true (hrow r hr)
    | succ n =>
      have hn : n < rows.length := Nat.lt_of_succ_lt_succ hn
      have := hrow _ (getElem_mem hn)
      rw [filter_cons_of_neg (by simp; omega)]
      exact ih hrows hn

/-- The retention has deleted no row of the table since the first page. -/
def Retained (data : WorkerData) (now : ℕ → ℤ) (table : HistoryTable) : Prop :=
  ∀ i, ∀ row ∈ table.rows, now i - data.retentionSeconds * 1000 ≤ row.record.recordedAtMs.1 ↔
    now 0 - data.retentionSeconds * 1000 ≤ row.record.recordedAtMs.1

variable {now : ℕ → ℤ}

theorem Retained.matching (h : Retained data now table) (i : ℕ) (query : HistoryQuery) :
    matching data (now i) query table = matching data (now 0) query table := by
  refine congrArg reverse (filter_congr fun row hrow => ?_)
  simp only [HistoryQuery.selects, h i row hrow]

/-- The cursor leaves the rows below it. -/
theorem matching_cursor {now : ℤ} {query : HistoryQuery} {row : HistoryRow}
    (hrow : row ∈ matching data now query table) :
    matching data now { query with cursor := some row.id } table =
      (matching data now query table).filter (·.id < row.id) := by
  have hbelow : ∀ r : HistoryRow, r.id < row.id → query.cursor.all ((r.id : ℤ) < ·) = true := by
    intro r hlt
    have hselects := of_mem_filter (mem_reverse.1 hrow)
    cases hc : query.cursor with
    | none => rfl
    | some c =>
      simp only [HistoryQuery.selects, hc, Bool.and_eq_true, Option.all_some,
        decide_eq_true_eq] at hselects ⊢
      omega
  rw [matching, matching, filter_reverse, filter_filter]
  refine congrArg reverse (filter_congr fun r _ => ?_)
  rw [Bool.eq_iff_iff]
  have := hbelow r
  simp only [HistoryQuery.selects, Bool.and_eq_true, Option.all_some, decide_eq_true_eq,
    Nat.cast_lt] at this ⊢
  tauto

/-- The last row of a page that leaves others behind. -/
theorem last_of_page {rows : List HistoryRow} (h : rows.Pairwise (·.id > ·.id)) {n : ℕ}
    (hpos : 0 < n) (hn : n < rows.length) :
    ∃ row ∈ rows, (rows.take n).getLast? = some row ∧ row.id ≠ 0 ∧
      rows.filter (·.id < row.id) = rows.drop n := by
  obtain ⟨k, rfl⟩ := Nat.exists_eq_succ_of_ne_zero hpos.ne'
  have hk : k < rows.length := by omega
  have hlt := pairwise_iff_getElem.1 h k (k + 1) hk hn (Nat.lt_succ_self k)
  refine ⟨rows[k], getElem_mem hk, ?_, by omega, filter_lt_eq_drop h hk⟩
  rw [getLast?_take, if_neg (Nat.succ_ne_zero k), Nat.succ_sub_one,
    getElem?_eq_getElem hk, Option.some_or]

/-- What a page holds, and what its cursor leaves. -/
theorem page_spec {now : ℤ} {query : HistoryQuery} {page : HistoryPage}
    (h : queryHistory data now query table = .ok page) (hlimit : 0 < query.limit) :
    page.records.map (·.id) = ((matching data now query table).take query.limit).map (·.id) ∧
      ((page.nextCursor = none ∧ (matching data now query table).length ≤ query.limit) ∨
        ∃ id : ℕ, page.nextCursor = some id ∧
          query.limit < (matching data now query table).length ∧
          matching data now { query with cursor := some (id : ℤ) } table =
            (matching data now query table).drop query.limit) := by
  simp only [queryHistory, bind_eq_ok] at h
  obtain ⟨selected, hselected, h⟩ := h
  cases h
  have hids : selected.map (·.id) = (returnedRows data now query table).map (·.id) :=
    entries_ids hselected
  rw [returnedRows_eq] at hids
  have hrows : (selectedRows data now query table).length =
      min (query.limit + 1) (matching data now query table).length := length_take
  refine ⟨hids, ?_⟩
  by_cases hmore : query.limit < (matching data now query table).length
  · obtain ⟨row, hrow, hlast, hne, hdrop⟩ :=
      last_of_page (matching_descending now query) hlimit hmore
    have hentry := congrArg getLast? hids
    rw [getLast?_map, getLast?_map, hlast] at hentry
    obtain ⟨entry, hentry, hid⟩ := Option.map_eq_some_iff.1 hentry
    refine .inr ⟨row.id, ?_, hmore, (matching_cursor hrow).trans hdrop⟩
    simp only [hentry, Option.bind_some, hid, if_neg hne]
    exact if_pos (decide_eq_true (by omega))
  · refine .inl ⟨if_neg ?_, not_lt.1 hmore⟩
    simp only [decide_eq_true_eq]
    omega

/-! ## Walks -/

/-- The pages of a walk, whose queries run at the times `now i`, `now (i + 1)` and so on. -/
inductive Walk (data : WorkerData) (now : ℕ → ℤ) (table : HistoryTable) :
    ℕ → HistoryQuery → List HistoryPage → Prop
  | last {i query page} (h : queryHistory data (now i) query table = .ok page)
      (hcursor : page.nextCursor = none) : Walk data now table i query [page]
  | more {i query page id pages} (h : queryHistory data (now i) query table = .ok page)
      (hcursor : page.nextCursor = some id)
      (hrest : Walk data now table (i + 1) { query with cursor := some (id : ℤ) } pages) :
      Walk data now table i query (page :: pages)

/-- The ids of the records, page by page. -/
def shown (pages : List HistoryPage) : List ℕ := pages.flatMap fun page => page.records.map (·.id)

/-- A walk shows every row that matches, the newest first. -/
theorem Walk.spec (hnow : Retained data now table) {i : ℕ} {query : HistoryQuery}
    {pages : List HistoryPage} (h : Walk data now table i query pages) (hlimit : 0 < query.limit) :
    shown pages = (matching data (now 0) query table).map (·.id) ∧
      (∀ page ∈ pages, page.records.length ≤ query.limit) ∧
      ∀ row ∈ matching data (now 0) query table, ∃ entry, row.entry = .ok entry := by
  induction h with
  | @last i query page h hcursor =>
    have hok := queryHistory_ok.1 ⟨page, h⟩
    obtain ⟨hids, ⟨-, hlength⟩ | ⟨id, hsome, -⟩⟩ := page_spec h hlimit
    · rw [returnedRows_eq, hnow.matching] at hok
      rw [hnow.matching] at hids hlength
      rw [take_of_length_le hlength] at hids hok
      refine ⟨by simpa [shown] using hids, ?_, hok⟩
      intro page' hpage
      rw [mem_singleton.1 hpage, ← length_map (·.id), hids, length_map]
      exact hlength
    · rw [hcursor] at hsome
      cases hsome
  | @more i query page id pages h hcursor _ ih =>
    have hok := queryHistory_ok.1 ⟨page, h⟩
    obtain ⟨hids, ⟨hnone, -⟩ | ⟨id', hsome, -, hdrop⟩⟩ := page_spec h hlimit
    · rw [hcursor] at hnone
      cases hnone
    · rw [hcursor] at hsome
      cases hsome
      rw [returnedRows_eq, hnow.matching] at hok
      rw [hnow.matching] at hids
      rw [hnow.matching i, hnow.matching i] at hdrop
      obtain ⟨hshown, hlengths, hentries⟩ := ih hlimit
      rw [hdrop] at hshown hentries
      refine ⟨?_, ?_, ?_⟩
      · rw [shown, flatMap_cons, hids]
        exact (congrArg _ hshown).trans (by rw [← map_append, take_append_drop])
      · refine forall_mem_cons.2 ⟨?_, hlengths⟩
        rw [← length_map (·.id), hids, length_map]
        exact length_take_le _ _
      · intro row hrow
        rw [← take_append_drop query.limit (matching data (now 0) query table)] at hrow
        rcases mem_append.1 hrow with hrow | hrow
        · exact hok row hrow
        · exact hentries row hrow

/-- The walk ends where each row that matches can be shown, by the number of rows that are
    left. -/
theorem exists_walk (hnow : Retained data now table) {query : HistoryQuery}
    (hlimit : 0 < query.limit)
    (h : ∀ row ∈ matching data (now 0) query table, ∃ entry, row.entry = .ok entry) (i : ℕ) :
    ∃ pages, Walk data now table i query pages := by
  induction hn : (matching data (now 0) query table).length using Nat.strongRecOn
    generalizing query i with
  | ind n ih =>
    obtain ⟨page, hpage⟩ : ∃ page, queryHistory data (now i) query table = .ok page := by
      refine queryHistory_ok.2 fun row hrow => h row ?_
      rw [returnedRows_eq, hnow.matching] at hrow
      exact mem_of_mem_take hrow
    obtain ⟨-, ⟨hcursor, -⟩ | ⟨id, hcursor, hmore, hdrop⟩⟩ := page_spec hpage hlimit
    · exact ⟨[page], .last hpage hcursor⟩
    · rw [hnow.matching i] at hmore
      rw [hnow.matching i, hnow.matching i] at hdrop
      have hlength := congrArg length hdrop
      rw [length_drop] at hlength
      have hrest : ∀ row ∈ matching data (now 0) { query with cursor := some (id : ℤ) } table,
          ∃ entry, row.entry = .ok entry := by
        intro row hrow
        rw [hdrop] at hrow
        exact h row (mem_of_mem_drop hrow)
      have hless : (matching data (now 0) { query with cursor := some (id : ℤ) } table).length < n := by
        omega
      obtain ⟨pages, hpages⟩ := @ih _ hless { query with cursor := some (id : ℤ) } hlimit hrest
        (i + 1) rfl
      exact ⟨page :: pages, .more hpage hcursor hpages⟩

/-- **A walk without writes ends iff each matching row has a time that a `Date` can stand for
    and data that can be parsed; it then shows every one of them once, the newest first.**  The
    time of recording is one that a clock has shown. -/
theorem history_walk_iff {searchParams : List (Ecma.Text × Ecma.Text)} {queryLimit : ℕ}
    {nodeIds edgeIds : List Ecma.Text} {audit : Bool} {query : HistoryQuery}
    (hparse : parseHistoryQuery searchParams queryLimit nodeIds edgeIds audit = .ok query)
    (hlimit : 0 < queryLimit) (hnow : Retained data now table) :
    ((∃ pages, Walk data now table 0 query pages) ↔
      ∀ row ∈ matching data (now 0) query table, |row.record.eventAtMs| ≤ maxTime ∧
        ∃ v, Ecma.parse row.record.json = some v) ∧
    ∀ pages, Walk data now table 0 query pages →
      shown pages = (matching data (now 0) query table).map (·.id) ∧
      (shown pages).Pairwise (· > ·) ∧ ∀ page ∈ pages, page.records.length ≤ query.limit := by
  have hpos := limit_pos hparse hlimit
  simp only [← entry_iff]
  refine ⟨⟨?_, fun h => exists_walk hnow hpos h 0⟩, ?_⟩
  · rintro ⟨pages, h⟩
    exact (h.spec hnow hpos).2.2
  · intro pages h
    obtain ⟨hshown, hlengths, -⟩ := h.spec hnow hpos
    refine ⟨hshown, ?_, hlengths⟩
    rw [hshown]
    exact pairwise_map.2 (matching_descending _ _)

end pages

open FarFuture in
theorem history_walk_epoch :
    ∃ pages, Walk data (fun _ => 0) (.run data [batch 1]) 0 query pages := by
  have hparse : parseHistoryQuery [] 200 [] [] true = .ok query := rfl
  refine (history_walk_iff hparse (by decide) fun _ _ _ => Iff.rfl).1.2 fun row hrow => ?_
  obtain rfl := mem_singleton.1 (mem_of_mem_filter (mem_reverse.1 hrow))
  refine entry_iff.1 ((entry_ok rfl).2 fun q hq => ?_)
  have hq : 1 = q := Option.some.inj hq
  norm_num [← hq, maxTime]

open FarFuture in
/-- The walk over a table with one such row does not end. -/
theorem no_walk_far_future :
    ¬ ∃ pages, Walk data (fun _ => 0) (.run data [batch 8640000000000001]) 0 query pages := by
  rintro ⟨pages, h⟩
  have herror : queryHistory data 0 query (.run data [batch 8640000000000001]) =
      .error .invalidTime := rfl
  cases h with
  | last h _ | more h _ _ =>
    rw [herror] at h
    cases h

end GraphX.History
