import SeriesBridge.Extraction.Mapping

/-! # Queries of an extraction

A table is read in order of time, a batch at a time. A batch ends with the last row of an instant,
so that no instant is parted.

* **`rowsAfter`** — the statement for the rows after an instant, up to a limit.
* **`rowsAt`** — the statement for all rows of an instant.
* **`completePrefix limit times`** — how many rows of a batch make whole instants. -/

namespace SeriesBridge.Extraction

/-- The columns that every statement asks for: all, and the time as an integer. -/
def selection (table timeColumn : String) : String :=
  "SELECT *, CAST(" ++ timeColumn ++ " AS BIGINT) AS " ++ cursorColumn ++ " FROM " ++ table ++
    " WHERE " ++ timeColumn

/-- **The rows after an instant,** the first `limit` of them in order of time. -/
def rowsAfter (table timeColumn : String) (after : Int64) (limit : Nat) : String :=
  selection table timeColumn ++ " > " ++ String.ofList (Text.showInt after.toInt) ++ " ORDER BY " ++
    timeColumn ++ " ASC LIMIT " ++ String.ofList (Text.showNat limit)

/-- **The rows of an instant,** all of them. -/
def rowsAt (table timeColumn : String) (time : Int64) : String :=
  selection table timeColumn ++ " = " ++ String.ofList (Text.showInt time.toInt)

/-- **How many rows of a batch make whole instants.** A batch below the limit is whole. A batch at
the limit may be cut within its last instant, so the rows of that instant are left for the next
batch, unless they are all there is. -/
def completePrefix (limit : Nat) (times : List Int64) : Nat :=
  if times.length < limit then times.length
  else
    match times.getLast? with
    | none => 0
    | some last =>
        let whole := (Text.dropEndWhile (· == last) times).length
        if whole = 0 then times.length else whole

end SeriesBridge.Extraction
