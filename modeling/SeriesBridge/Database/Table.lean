import SeriesBridge.Database.Result
import SeriesBridge.Error
import SeriesBridge.Text.Integer

/-! # Tables

A table that can be asked like a database: rows with their times, and the statements of an
extraction. With it a bridge can be rehearsed without a database.

* **`Table.rowsAfter`**, **`Table.rowsAt`** — the rows after an instant and the rows of an instant,
  in order of time.
* **`Table.answer tables sql`** — the result of a statement. -/

namespace SeriesBridge

/-- **A table:** its columns, and its rows with their times. -/
structure Table where
  columns : List Column := []
  rows : List (Int64 × List Json) := []
  deriving Repr, Inhabited

namespace Table

/-- Put a row before the first one that is not earlier. -/
def insertRow (row : Int64 × List Json) : List (Int64 × List Json) → List (Int64 × List Json)
  | [] => [row]
  | r :: rest => if row.1 ≤ r.1 then row :: r :: rest else r :: insertRow row rest

/-- Rows in order of time; rows of one instant keep their order. -/
def sorted (rows : List (Int64 × List Json)) : List (Int64 × List Json) := rows.foldr insertRow []

/-- The rows after an instant, in order of time. -/
def rowsAfter (t : Table) (time : Int64) : List (Int64 × List Json) :=
  sorted (t.rows.filter (fun r => time < r.1))

/-- The rows of an instant, in their order. -/
def rowsAt (t : Table) (time : Int64) : List (Int64 × List Json) :=
  t.rows.filter (fun r => r.1 == time)

/-- A row with its time as a last cell. -/
def withTime (row : Int64 × List Json) : List Json := row.2 ++ [.number (.integer row.1.toInt)]

/-- The columns with one more for the time. -/
def columnsWithTime (t : Table) : List Column := t.columns ++ [⟨"tdc_cursor", "BIGINT"⟩]

/-- The word behind a word of a statement. -/
def wordAfter? (word : String) (words : List (List Char)) : Option (List Char) :=
  match words.dropWhile (fun w => w != word.toList) with
  | _ :: next :: _ => some next
  | _ => none

/-- The rows that the words of a statement ask for: those after an instant, those of an instant,
and no more than a limit. -/
def asked (t : Table) (words : List (List Char)) : List (Int64 × List Json) :=
  let afterThis := (wordAfter? ">" words).bind Text.readInt64?
  let atThis := (wordAfter? "=" words).bind Text.readInt64?
  let rows := t.rows.filter (fun r =>
    (afterThis.all (· < r.1)) && (atThis.all (· == r.1)))
  match (wordAfter? "LIMIT" words).bind Text.readNat? with
  | some limit => (sorted rows).take limit
  | none => sorted rows

/-- **The result of a statement.** A statement that reads no table has no rows. -/
def answer (tables : String → Option Table) (sql : String) : Outcome QueryResult :=
  let words := Text.words sql.toList
  if !words.contains "FROM".toList then .ok {}
  else
    let name := String.ofList ((wordAfter? "FROM" words).getD [])
    match tables name with
    | none => .error (.fatal ("Table does not exist: " ++ name) none)
    | some t =>
        .ok { columns := t.columnsWithTime, rows := (t.asked words).map withTime }

end Table

end SeriesBridge
