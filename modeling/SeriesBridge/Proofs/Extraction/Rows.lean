import SeriesBridge.Extraction.Source
import SeriesBridge.Proofs.Extraction.Arrangement

/-! # Rows of tables that can be extracted

A row that a query gives carries its time in a last cell. When the columns of the table leave that cell
alone, the time that is read is the time of the row, and all that can happen to the row is that it makes
a line or is left out.

* **`TimeTable`** — a table that can be extracted.
* **`TimeTable.GrowsTo`** — a table gains rows, all later than those that it has.
* **`Source.line?`** — the line of a row, if it makes one.
* **`Source.records_eq`** — the records of rows are those of their lines. -/

namespace SeriesBridge

/-- **A table that can be extracted:** no column takes the name under which a query gives the time, the
rows are as wide as the columns, and no time is within a million of the least word. -/
structure TimeTable extends Table where
  unnamed : ∀ c ∈ columns, Text.sameName c.name cursorColumn = false
  wide : ∀ r ∈ rows, r.2.length = columns.length
  late : ∀ r ∈ rows, -0x8000000000000000 + 1000000 ≤ r.1.toInt

namespace TimeTable

/-! ## Growing -/

/-- **A table grows** by rows that are all later than those it has. -/
def GrowsTo (old new : TimeTable) : Prop :=
  new.columns = old.columns ∧
    ∃ more, new.rows = old.rows ++ more ∧ ∀ a ∈ old.rows, ∀ b ∈ more, a.1 < b.1

variable {t₁ t₂ t₃ : TimeTable}

/-- A table grows to itself. -/
theorem GrowsTo.refl (t : TimeTable) : t.GrowsTo t :=
  ⟨rfl, [], by rw [List.append_nil], by simp⟩

/-- A table that grows twice grows. -/
theorem GrowsTo.trans (h₁ : t₁.GrowsTo t₂) (h₂ : t₂.GrowsTo t₃) : t₁.GrowsTo t₃ := by
  obtain ⟨hcolumns, more, hrows, hlater⟩ := h₁
  obtain ⟨hcolumns', more', hrows', hlater'⟩ := h₂
  refine ⟨hcolumns'.trans hcolumns, more ++ more', ?_, ?_⟩
  · rw [hrows', hrows, List.append_assoc]
  · intro a ha b hb
    rcases List.mem_append.1 hb with hb | hb
    · exact hlater a ha b hb
    · refine hlater' a ?_ b hb
      rw [hrows]
      exact List.mem_append_left _ ha

/-- A row stays. -/
theorem GrowsTo.mem (h : t₁.GrowsTo t₂) {r : Row} (hr : r ∈ t₁.rows) : r ∈ t₂.rows := by
  obtain ⟨-, more, hrows, -⟩ := h
  rw [hrows]
  exact List.mem_append_left _ hr

/-- The columns stay, and so does the last one. -/
theorem GrowsTo.columnsWithTime (h : t₁.GrowsTo t₂) :
    t₂.columnsWithTime = t₁.columnsWithTime := by
  rw [Table.columnsWithTime, Table.columnsWithTime, h.1]

/-- **The past does not change:** up to the time of a row that is there, no row is added. -/
theorem GrowsTo.between (h : t₁.GrowsTo t₂) {upto : Int64} {r : Row} (hr : r ∈ t₁.rows)
    (hupto : upto ≤ r.1) (after : Int64) :
    Table.between t₂.rows after upto = Table.between t₁.rows after upto := by
  obtain ⟨-, more, hrows, hlater⟩ := h
  have hnone : Table.between more after upto = [] := by
    rw [Table.between, List.filter_eq_nil_iff]
    intro b hb
    have hlt := Int64.lt_of_le_of_lt hupto (hlater r hr b hb)
    simp only [Bool.and_eq_true, decide_eq_true_eq, not_and]
    intro _
    exact Int64.not_le.2 hlt
  rw [Table.between, hrows, List.filter_append]
  show _ ++ Table.between more after upto = _
  rw [hnone, List.append_nil]
  rfl

/-! ## Times -/

/-- The cell that a query adds is the one that the time is read from. -/
theorem timeIndex?_eq (m : ColumnMapping) (table : TimeTable) {ctx : RowContext}
    (hctx : ctx.columns = table.columnsWithTime) :
    m.timeIndex? ctx = some table.columns.length := by
  have hnone : columnIndex? cursorColumn table.columns = none := by
    rw [columnIndex?, List.findIdx?_eq_none_iff]
    exact table.unnamed
  have hlast : columnIndex? cursorColumn table.columnsWithTime = some table.columns.length := by
    have hsame : Text.sameName "tdc_cursor" cursorColumn = true := by decide
    rw [columnIndex?] at hnone
    rw [columnIndex?, Table.columnsWithTime, List.findIdx?_append, hnone, List.findIdx?_cons,
      if_pos hsame, Option.map_some, Nat.zero_add]
    rfl
  rw [ColumnMapping.timeIndex?, hctx, hlast]
  rfl

/-- **The time that is read is the time of the row.** -/
theorem cursor_withTime (m : ColumnMapping) (table : TimeTable) {ctx : RowContext}
    (hctx : ctx.columns = table.columnsWithTime) {r : Row} (hr : r ∈ table.rows) :
    m.cursor ctx (Table.withTime r) = .ok r.1 := by
  have hcell : (Table.withTime r)[table.columns.length]? =
      some (.number (.integer r.1.toInt)) := by
    rw [Table.withTime, ← table.wide r hr, List.getElem?_append_right (Nat.le_refl _), Nat.sub_self]
    rfl
  have hlt := Int64.toInt_lt r.1
  have hword : (Json.Number.integer r.1.toInt).int64? = some r.1 := by
    rw [Json.Number.int64?, if_pos (by omega), Int64.ofInt_toInt]
  rw [ColumnMapping.cursor, timeIndex?_eq m table hctx]
  simp only [hcell, hword]

/-- The times of rows are read one by one. -/
theorem mapM_cursor_withTime (m : ColumnMapping) (table : TimeTable) {ctx : RowContext}
    (hctx : ctx.columns = table.columnsWithTime) {l : List Row} (hl : ∀ r ∈ l, r ∈ table.rows) :
    (l.map Table.withTime).mapM (m.cursor ctx) = .ok (l.map (·.1)) := by
  induction l with
  | nil => rfl
  | cons r l ih =>
      have hr := cursor_withTime m table hctx (hl r List.mem_cons_self)
      have hrest := ih (fun r' hr' => hl r' (List.mem_cons_of_mem r hr'))
      rw [List.map_cons, List.mapM_cons, hr, hrest]
      rfl

end TimeTable

/-! ## Lines -/

/-- A point that is not encoded is at fault itself. -/
theorem Line.isInvalidData_of_encode {p : Point} {e : Error} (h : Line.encode p = .error e) :
    e.isInvalidData = true := by
  unfold Line.encode at h
  split at h
  · cases h
    rfl
  · cases h

/-- A row whose time can be read makes a point, or is at fault itself. -/
theorem ColumnMapping.isInvalidData_of_point {m : ColumnMapping} {ctx : RowContext}
    {row : List Json} {time : Int64} {e : Error} (htime : m.cursor ctx row = .ok time)
    (h : m.point ctx row = .error e) : e.isInvalidData = true := by
  unfold ColumnMapping.point at h
  rw [htime] at h
  simp only [bind, Except.bind] at h
  split at h
  · cases h
    rfl
  · cases h

namespace Source

/-- **The line of a row** of a table, if the row makes a point and the point a line. -/
def line? (S : DatabaseSettings) (t : TableSource) (table : Table) (r : Row) : Option String :=
  ((ofSettings S).rowLine ((ofSettings S).context t table.columnsWithTime)
    (Table.withTime r)).toOption

/-- The lines of rows; a row that makes none is left out. -/
def linesOf (S : DatabaseSettings) (t : TableSource) (table : Table) (rows : List Row) :
    List String :=
  rows.filterMap (line? S t table)

variable {S : DatabaseSettings} {s : Source} {t : TableSource}

/-- A source that reads by the columns of its settings. -/
structure Maps (S : DatabaseSettings) (s : Source) : Prop where
  settings : s.settings = S
  mapper : s.mapper = (columnMapping S).mapper

/-- **A row of a table makes its line** or is left out as invalid. -/
theorem rowLine_eq (hs : Maps S s) (table : TimeTable) {r : Row} (hr : r ∈ table.rows) :
    (∃ line, line? S t table.toTable r = some line ∧
      s.rowLine (s.context t table.columnsWithTime) (Table.withTime r) = .ok line) ∨
    (line? S t table.toTable r = none ∧ ∃ e, e.isInvalidData = true ∧
      s.rowLine (s.context t table.columnsWithTime) (Table.withTime r) = .error e) := by
  have hsame : s.rowLine (s.context t table.columnsWithTime) (Table.withTime r) =
      (ofSettings S).rowLine ((ofSettings S).context t table.columnsWithTime)
        (Table.withTime r) := by
    rw [rowLine, rowLine, context, context, hs.settings, hs.mapper]
    rfl
  rw [hsame, line?]
  generalize hctx : (ofSettings S).context t table.columnsWithTime = ctx
  have htime : (columnMapping S).cursor ctx (Table.withTime r) = .ok r.1 :=
    TimeTable.cursor_withTime _ table (by rw [← hctx]; rfl) hr
  cases hline : (ofSettings S).rowLine ctx (Table.withTime r) with
  | ok line => exact .inl ⟨line, rfl, rfl⟩
  | error e =>
      refine .inr ⟨rfl, e, ?_, rfl⟩
      unfold rowLine at hline
      cases hpoint : (columnMapping S).point ctx (Table.withTime r) with
      | error e' =>
          have hline' : (Except.error e' : Outcome String) = .error e := by
            rw [← hline]
            show _ = ((columnMapping S).point ctx (Table.withTime r) >>= Line.encode)
            rw [hpoint]
            rfl
          cases hline'
          exact ColumnMapping.isInvalidData_of_point htime hpoint
      | ok point =>
          have hline' : Line.encode point = .error e := by
            rw [← hline]
            show _ = ((columnMapping S).point ctx (Table.withTime r) >>= Line.encode)
            rw [hpoint]
            rfl
          exact Line.isInvalidData_of_encode hline'

/-- **The records of rows** are those of their lines, each with the offset of its row. -/
theorem records_eq (hs : Maps S s) (table : TimeTable) {l : List Row}
    (hl : ∀ r ∈ l, r ∈ table.rows) :
    ∃ skipped, s.records t (s.context t table.columnsWithTime)
        (l.map (fun r => (Table.withTime r, r.1))) =
      .ok (l.filterMap (fun r => (line? S t table.toTable r).map (s.record t r.1)), skipped) := by
  induction l with
  | nil => exact ⟨0, rfl⟩
  | cons r l ih =>
      obtain ⟨skipped, hrest⟩ := ih (fun r' hr' => hl r' (List.mem_cons_of_mem r hr'))
      rw [List.map_cons, records, hrest, List.filterMap_cons]
      rcases rowLine_eq (t := t) hs table (hl r List.mem_cons_self) with
        ⟨line, hline, hrow⟩ | ⟨hline, e, he, hrow⟩
      · rw [hrow, hline]
        exact ⟨skipped, rfl⟩
      · rw [hrow, hline]
        simp only [he, if_true]
        exact ⟨skipped + 1, rfl⟩

end Source

end SeriesBridge
