import SeriesBridge.Database.Cache
import SeriesBridge.Extraction.Query
import SeriesBridge.Line.Encode
import SeriesBridge.Record.Basic

/-! # Reading tables of a database

A source reads its tables batch by batch in order of time. Each record that it gives out carries the
offset that is reached with it, and the source moves on only when it is told that offsets were
kept.

* **`Source`** — how far each partition has been read, and the session to read on.
* **`Source.prepare`**, **`Source.restore`**, **`Source.poll`**, **`Source.commit`**,
  **`Source.shutdown`** — what is done with it. -/

namespace SeriesBridge

/-- **What a source is between two calls.** -/
structure Source where
  settings : DatabaseSettings
  mapper : RowMapper
  cache : Option Cache := none
  /-- How far each partition has been read. -/
  trackers : List (String × Tracker) := []
  /-- Where partitions start that nothing is known about. -/
  start : Cursor := Cursor.zero
  batchSize : Nat := 1000
  meter : Option Meter := none

namespace Source

/-- The mapping by columns that settings describe. -/
def columnMapping (settings : DatabaseSettings) : ColumnMapping where
  timestampColumn := settings.timestampColumn
  tagColumns := settings.tagColumns
  measurementTemplate := settings.measurementTemplate

/-- A source that maps rows by columns. -/
def ofSettings (settings : DatabaseSettings) : Source :=
  { settings, mapper := (columnMapping settings).mapper }

/-- How far a partition has been read. -/
def position? (s : Source) (partition : String) : Option Cursor :=
  (Keyed.lookup partition s.trackers).map Tracker.current

/-- Set the tracker of a partition. -/
def track (s : Source) (t : Tracker) : Source :=
  { s with trackers := Keyed.insert t.partition t s.trackers }

/-! ## Starting -/

/-- The tables start where an explicit position says, whatever was kept before that position. -/
def startTables (s : Source) : Source :=
  if s.settings.initialTimestamp.isSome then
    s.settings.tables.foldl (fun s t => s.track ⟨t.partition, s.start⟩) s
  else s

/-- Set up the database of the settings, if they name one. -/
def setUp (settings : DatabaseSettings) (cache : Cache) : Dialogue Link (Outcome Unit × Cache) :=
  match settings.target? with
  | some name => cache.setDatabase name
  | none => pure (.ok (), cache)

/-- **Prepare for polls:** check the settings, set up the database on a first session, and find the
position to start from. -/
def prepare (s : Source) (pipeline : PipelineSettings) :
    Dialogue Link (Outcome Unit × Source) := do
  let refused (e : Error) (s : Source) : Dialogue Link (Outcome Unit × Source) :=
    return (.error e, s)
  match s.settings.check with
  | .error e => refused e s
  | .ok () =>
      let s := { s with batchSize := max pipeline.batchSize 1 }
      match s.settings.endpoint, s.settings.policy with
      | .error e, _ => refused e s
      | .ok _, .error e => refused e s
      | .ok endpoint, .ok policy =>
          let credentials := s.settings.credentials endpoint
          let meter : Meter := ⟨pipeline.name, "source"⟩
          let cache : Cache :=
            { provider := { endpoint, credentials, policy }, precision := s.settings.precision
              meter := some meter }
          match ← setUp s.settings cache with
          | (.error e, _) => refused e s
          | (.ok (), cache) =>
              let s := { s with cache := some cache, meter := some meter }
              let now ← Link.now
              match Cursor.readStart? s.settings.initialTimestamp now with
              | .error e => refused e s
              | .ok start => return (.ok (), ({ s with start } : Source).startTables)

/-- Whether a partition belongs to one of the tables. -/
def knows (s : Source) (partition : String) : Bool :=
  s.settings.tables.any (fun t => t.partition == partition)

/-- Take up one offset that was kept. An offset of a partition that nobody reads does not count. -/
def restoreOne (s : Source) (o : Offset) : Source :=
  if s.knows o.partition then
    match Keyed.lookup o.partition s.trackers with
    | some t => s.track (t.restore o)
    | none => s.track ⟨o.partition, Cursor.ofOffset o⟩
  else s

/-- **Take up offsets that were kept.** No partition moves back. -/
def restore (s : Source) (offsets : List Offset) : Source := offsets.foldl restoreOne s

/-! ## Polling -/

/-- The error of a source that was not initialized. -/
def uninitialized : Error := .fatal "source connector is not initialized" none

/-- The topic of the records of a table. -/
def topic (s : Source) (t : TableSource) : String :=
  Template.fill (fun key =>
    if key == "table" then some t.table
    else if key == "partition" then some t.partition
    else if key == "database" then some (s.settings.target?.getD "")
    else none) s.settings.topicTemplate

/-- What is known about rows of a table. -/
def context (s : Source) (t : TableSource) (columns : List Column) : RowContext where
  table := t.table
  partition := t.partition
  columns := columns
  precision := s.settings.precision

/-- The offset of a time in a table. -/
def offsetAt (s : Source) (t : TableSource) (time : Int64) : Offset :=
  (Cursor.ofUnits s.settings.precision time).toOffset t.partition

/-- The record of a line of a table. -/
def record (s : Source) (t : TableSource) (time : Int64) (line : String) : Outgoing :=
  { ((Outgoing.ofText (s.topic t) line).setAttribute "table" t.table).setAttribute "precision"
      s.settings.precision.name with
    key := some t.partition
    offset := some (s.offsetAt t time) }

/-- The line of a row. -/
def rowLine (s : Source) (ctx : RowContext) (row : List Json) : Outcome String := do
  Line.encode (← s.mapper.point ctx row)

/-- **The records of rows,** and how many rows were skipped because they make no point. -/
def records (s : Source) (t : TableSource) (ctx : RowContext) :
    List (List Json × Int64) → Outcome (List Outgoing × Nat)
  | [] => .ok ([], 0)
  | (row, time) :: rest =>
      match s.rowLine ctx row with
      | .ok line => (s.records t ctx rest).map (fun (rs, n) => (s.record t time line :: rs, n))
      | .error e =>
          if e.isInvalidData then (s.records t ctx rest).map (fun (rs, n) => (rs, n + 1))
          else .error e

/-- Let the last record carry the offset of the whole batch. -/
def closeBatch (last : Offset) : List Outgoing → List Outgoing
  | [] => []
  | [r] => [{ r with offset := some last }]
  | r :: rest => r :: closeBatch last rest

/-- Take a reading for every row that was skipped. -/
def noteSkipped (s : Source) : Nat → Dialogue Link Unit
  | 0 => pure ()
  | n + 1 =>
      match s.meter with
      | some meter => do
          Link.note ⟨meter, .skipped⟩
          s.noteSkipped n
      | none => pure ()

/-- Ask for rows. -/
def query (s : Source) (sql : String) : Dialogue Link (Outcome QueryResult × Source) := do
  match s.cache with
  | none => return (.error uninitialized, s)
  | some cache =>
      let (result, cache) ← cache.query sql
      return (result, { s with cache := some cache })

/-- The times of rows. -/
def times (s : Source) (t : TableSource) (result : QueryResult) : Outcome (List Int64) :=
  result.rows.mapM (s.mapper.cursor (s.context t result.columns))

/-- **The rows of a batch that make whole instants,** with their times. When one instant fills the
whole batch, all rows of that instant are asked for. -/
def batch (s : Source) (t : TableSource) (after : Int64) :
    Dialogue Link (Outcome (QueryResult × List Int64) × Source) := do
  let column := s.settings.timestampColumn
  match ← s.query (Extraction.rowsAfter t.table column after s.batchSize) with
  | (.error e, s) => return (.error e, s)
  | (.ok result, s) =>
      if result.rows.isEmpty then return (.ok (result, []), s)
      else
        match s.times t result with
        | .error e => return (.error e, s)
        | .ok times =>
            -- The last instant of a full batch may go on behind it, and is left to the next one.
            let keep := Extraction.completePrefix s.batchSize times
            match times with
            | first :: _ =>
                if keep = times.length && s.batchSize ≤ times.length then
                  -- One instant fills the batch, so its rows are asked for without a limit.
                  match ← s.query (Extraction.rowsAt t.table column first) with
                  | (.error e, s) => return (.error e, s)
                  | (.ok result, s) => return ((s.times t result).map (fun ts => (result, ts)), s)
                else return (.ok (result, times.take keep), s)
            | [] => return (.ok (result, []), s)

/-- **The records of a batch.** The last record carries the offset of the last row, skipped or not;
when every row was skipped the source itself moves past them. -/
def publish (s : Source) (t : TableSource) (result : QueryResult) (times : List Int64) :
    Dialogue Link (Outcome (List Outgoing) × Source) := do
  match times.getLast? with
  | none => return (.ok [], s)
  | some last =>
      match s.records t (s.context t result.columns) (result.rows.zip times) with
      | .error e => return (.error e, s)
      | .ok (records, skipped) =>
          s.noteSkipped skipped
          if records.isEmpty then
            -- No record can carry the offset, and nobody will tell the source to move on.
            let s := match Keyed.lookup t.partition s.trackers with
              | some tracker =>
                  s.track (tracker.advance (Cursor.ofUnits s.settings.precision last))
              | none => s
            return (.ok [], s)
          else return (.ok (closeBatch (s.offsetAt t last) records), s)

/-- **The next records of a table.** -/
def pollTable (s : Source) (t : TableSource) :
    Dialogue Link (Outcome (List Outgoing) × Source) := do
  let tracker := (Keyed.lookup t.partition s.trackers).getD ⟨t.partition, s.start⟩
  -- From now on the partition is one that can be moved on.
  let s := s.track tracker
  match ← s.batch t (tracker.current.toUnits s.settings.precision) with
  | (.error e, s) => return (.error e, s)
  | (.ok (result, times), s) => s.publish t result times

/-- The next records of tables, in their order, until one of them fails. -/
def pollTables (s : Source) : List TableSource → Dialogue Link (Outcome (List Outgoing) × Source)
  | [] => pure (.ok [], s)
  | t :: rest => do
      match ← s.pollTable t with
      | (.error e, s) => return (.error e, s)
      | (.ok records, s) =>
          match ← s.pollTables rest with
          | (.error e, s) => return (.error e, s)
          | (.ok more, s) => return (.ok (records ++ more), s)

/-- **The next records of all tables.** -/
def poll (s : Source) : Dialogue Link (Outcome (List Outgoing) × Source) :=
  s.pollTables s.settings.tables

/-! ## Moving on and stopping -/

/-- Move a partition on to an offset that was kept. -/
def commitOne (s : Source) (o : Offset) : Source :=
  match Keyed.lookup o.partition s.trackers with
  | some t => s.track (t.advance (Cursor.ofOffset o))
  | none => s

/-- **Move on to offsets that were kept.** No partition moves back, and none starts. -/
def commit (s : Source) (offsets : List Offset) : Source := offsets.foldl commitOne s

/-- Stop. -/
def shutdown (s : Source) : Dialogue Link Source := do
  match s.cache with
  | none => return s
  | some cache =>
      let cache ← cache.close
      return { s with cache := some cache }

end Source

end SeriesBridge
