import SeriesBridge.Json.Value
import SeriesBridge.Text.Blank

/-! # Results of queries

* **`Column`** — the name of a column and the name of its type.
* **`QueryResult`** — columns, and rows with their cells in the order of the columns.
* **`columnIndex? name cs`** — the first column of a name, in any case of its letters. -/

namespace SeriesBridge

/-- A column of a result. -/
structure Column where
  name : String
  type : String
  deriving DecidableEq, Repr, Inhabited

/-- The place of the first column of a name; the case of ASCII letters does not count. -/
def columnIndex? (name : String) (columns : List Column) : Option Nat :=
  columns.findIdx? (fun c => Text.sameName c.name name)

/-- **The rows that a query found.** A row may be shorter or longer than the columns. -/
structure QueryResult where
  columns : List Column := []
  rows : List (List Json) := []
  deriving Repr, Inhabited

end SeriesBridge
