import SeriesBridge.Database.Result
import SeriesBridge.Json.Printer
import SeriesBridge.Line.Point
import SeriesBridge.Template
import SeriesBridge.Time.Instant

/-! # From rows to points

How a row of a table becomes a point: some columns are its tags, one is its time, all others are its
fields.

* **`RowMapper`** — what turns rows into points.
* **`ColumnMapping`** — which columns are which, with **`ColumnMapping.cursor`** the time of a row
  and **`ColumnMapping.point`** its point. -/

namespace SeriesBridge

/-- The name under which a query gives the time of a row as an integer. -/
def cursorColumn : String := "tdc_cursor"

/-- **What is known about rows:** the table that they are from and its columns. -/
structure RowContext where
  table : String
  partition : String
  columns : List Column
  precision : Precision
  deriving Repr

/-- **What turns rows into points.** -/
structure RowMapper where
  /-- The time of a row, in the unit of the database. -/
  cursor : RowContext → List Json → Outcome Int64
  /-- The point of a row. -/
  point : RowContext → List Json → Outcome Point

/-! ## Cells -/

/-- The types whose cells are integers. -/
def isIntegerType (type : List Char) : Bool :=
  ["TINYINT", "SMALLINT", "INT", "BIGINT", "TINYINT UNSIGNED", "SMALLINT UNSIGNED", "INT UNSIGNED",
    "BIGINT UNSIGNED", "TIMESTAMP"].any (fun w => w.toList == type)

/-- The types whose cells are doubles. -/
def isDoubleType (type : List Char) : Bool := type == "FLOAT".toList || type == "DOUBLE".toList

/-- The value of a cell by its own form. -/
def valueOfForm : Json → Value
  | .bool b => .bool b
  | .number n =>
      match n.int64? with
      | some i => .int i
      | none => .float n.toDouble
  | .string s => .text s
  | v => .text (String.ofList v.compact)

/-- The value of a cell by the type of its column, when the two agree. -/
def valueOfType? (type : List Char) : Json → Option Value
  | .bool b => if type == "BOOL".toList then some (.bool b) else none
  | .number n =>
      if type == "BOOL".toList then n.int64?.map (fun i => .bool (i != 0))
      else if isIntegerType type then n.int64?.map .int
      else if isDoubleType type then some (.float n.toDouble)
      else none
  | _ => none

/-- **The value of a cell.** The type of the column decides where it fits the cell, the form of the
cell everywhere else; an empty cell has no value. -/
def cellValue (column : Column) (cell : Json) : Option Value :=
  if cell.isNull then none
  else some ((valueOfType? (Text.upper column.type.toList) cell).getD (valueOfForm cell))

/-- The time that a cell holds as a text. -/
def readCellTime? (text : String) (p : Precision) : Option Int64 :=
  (Instant.readRfc3339? text.toList).bind (Instant.count? p)

/-! ## Mapping by columns -/

/-- **Which columns are which.** Tag columns are listed; the name of the point is made from a
template. -/
structure ColumnMapping where
  timestampColumn : String
  tagColumns : List String
  measurementTemplate : String
  deriving DecidableEq, Repr

namespace ColumnMapping

/-- Whether a column is listed as a tag. -/
def isTag (m : ColumnMapping) (name : String) : Bool :=
  m.tagColumns.any (fun t => Text.sameName t name)

/-- Whether a column holds the time of its row. -/
def isTime (m : ColumnMapping) (name : String) : Bool :=
  Text.sameName name cursorColumn || Text.sameName name m.timestampColumn

/-- The name of the points of a table; the table itself when the template comes to nothing. -/
def measurement (m : ColumnMapping) (ctx : RowContext) : String :=
  let name := Template.fill (fun key =>
    if key == "table" then some ctx.table
    else if key == "partition" then some ctx.partition
    else none) m.measurementTemplate
  if name.isEmpty then ctx.table else name

/-- The column with the time of a row: the integer that the query adds, or else the time column of
the table. -/
def timeIndex? (m : ColumnMapping) (ctx : RowContext) : Option Nat :=
  (columnIndex? cursorColumn ctx.columns).or (columnIndex? m.timestampColumn ctx.columns)

/-- A cell as an error message shows it. -/
def describeCell : Option Json → String
  | none => "None"
  | some cell => "Some(" ++ String.ofList cell.describe ++ ")"

/-- **The time of a row:** an integer in the unit of the database, or the text of an instant. -/
def cursor (m : ColumnMapping) (ctx : RowContext) (row : List Json) : Outcome Int64 :=
  match m.timeIndex? ctx with
  | none =>
      .error (.configuration ("table '" ++ ctx.table ++ "' has no timestamp column '" ++
        m.timestampColumn ++ "'"))
  | some i =>
      match row[i]? with
      | some (.number n) =>
          match n.int64? with
          | some t => .ok t
          | none =>
              .error (.fatal ("timestamp " ++ String.ofList (Json.spellNumber n) ++ " of '" ++
                ctx.table ++ "' is out of range") none)
      | some (.string s) =>
          match readCellTime? s ctx.precision with
          | some t => .ok t
          | none =>
              .error (.fatal ("unreadable timestamp '" ++ s ++ "' in '" ++ ctx.table ++ "'") none)
      | cell =>
          .error (.fatal ("missing timestamp in row of '" ++ ctx.table ++ "': " ++
            describeCell cell) none)

/-- The pairs of the columns that `choose` picks, in order; a cell without a value makes none. -/
def pairs (choose : String → Bool) (columns : List Column) (row : List Json) : List Pair :=
  (columns.zip row).filterMap (fun (column, cell) =>
    if choose column.name then (cellValue column cell).map (fun v => (column.name, v)) else none)

/-- **The point of a row.** Cells beyond the last column, and columns beyond the last cell, do not
count. -/
def point (m : ColumnMapping) (ctx : RowContext) (row : List Json) : Outcome Point := do
  let time ← m.cursor ctx row
  let point : Point :=
    { measurement := m.measurement ctx
      tags := pairs (fun name => !m.isTime name && m.isTag name) ctx.columns row
      fields := pairs (fun name => !m.isTime name && !m.isTag name) ctx.columns row
      timestamp := some time
      precision := some ctx.precision }
  match point.check with
  | some fault => .error (.format ("row of " ++ ctx.table) fault.message)
  | none => .ok point

/-- Mapping by columns turns rows into points. -/
def mapper (m : ColumnMapping) : RowMapper := ⟨m.cursor, m.point⟩

end ColumnMapping

end SeriesBridge
