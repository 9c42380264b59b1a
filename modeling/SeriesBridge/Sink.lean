import SeriesBridge.Database.Cache
import SeriesBridge.Json.Tree
import SeriesBridge.Line.Decode
import SeriesBridge.Line.Encode
import SeriesBridge.Record.Basic

/-! # Writing records to a database

A sink takes records apart into lines, keeps the lines until there are enough of them, and writes
them together. Lines of points are read and written anew, so that a line that cannot be read is
refused with its record and does not spoil what is written with it.

* **`Sink.lines settings payload`** — the lines of a payload.
* **`Sink`** — the lines that wait, and the session to write them on.
* **`Sink.prepare`**, **`Sink.process`**, **`Sink.flush`**, **`Sink.shutdown`** — what is done
  with it. -/

namespace SeriesBridge

/-- **What a sink is between two calls.** -/
structure Sink where
  settings : DatabaseSettings
  cache : Option Cache := none
  /-- The lines that wait to be written. -/
  buffer : List String := []
  batchSize : Nat := 1
  deriving DecidableEq, Repr

namespace Sink

/-! ## Lines of a payload -/

/-- The lines of a text that are not blank, without the blanks at their ends. -/
def textLines (payload : String) : List (List Char) :=
  ((Text.lines payload.toList).map Text.trim).filter (fun l => !l.isEmpty)

/-- Handle the lines of a text in order, until one is refused. -/
def eachLine (handle : List Char → Outcome String) : List (List Char) → Outcome (List String)
  | [] => .ok []
  | l :: rest => do
      let line ← handle l
      let lines ← eachLine handle rest
      .ok (line :: lines)

/-- The line of a point, read and written anew. -/
def pointLine (precision : Precision) (l : List Char) : Outcome String := do
  let point ← Line.decode (String.ofList l) (some precision)
  Line.encode point

/-- **A telnet line:** the name of a metric, an integer time, a value, and at least one tag with an
equals sign in it. -/
def telnetLine (l : List Char) : Outcome String :=
  let line := String.ofList l
  match Text.words l with
  | _ :: time :: _ :: tag :: tags =>
      -- The value may be any word.
      if (Text.readInt64? time).isNone then
        .error (.format line "timestamp is not an integer")
      else
        match (tag :: tags).find? (fun t => !t.contains '=') with
        | some t => .error (.format line ("tag '" ++ String.ofList t ++ "' has no '='"))
        | none => .ok line
  | _ => .error (.format line "expected metric, timestamp, value and at least one tag")

/-- A whole document as one line; it has to be JSON. -/
def documentLine (payload : String) : Outcome String :=
  let document := String.ofList (Text.trim payload.toList)
  match Json.read? document.toList with
  | some _ => .ok document
  | none => .error (.format document Json.unreadable)

/-- **The lines of a payload,** in the form that the settings name. -/
def lines (settings : DatabaseSettings) (payload : String) : Outcome (List String) :=
  match settings.protocol with
  | .line => eachLine (pointLine settings.precision) (textLines payload)
  | .telnet => eachLine telnetLine (textLines payload)
  | .json => (documentLine payload).map (fun l => [l])

/-- The lines of a record. -/
def recordLines (settings : DatabaseSettings) (r : Incoming) : Outcome (List String) := do
  lines settings (← r.text)

/-! ## Calls -/

/-- The error of a sink that was not initialized. -/
def uninitialized : Error := .fatal "sink connector is not initialized" none

/-- **Prepare for records:** check the settings, and set up the database on a first session. -/
def prepare (s : Sink) (pipeline : PipelineSettings) : Dialogue Link (Outcome Unit × Sink) := do
  let refused (e : Error) (s : Sink) : Dialogue Link (Outcome Unit × Sink) := return (.error e, s)
  match s.settings.check with
  | .error e => refused e s
  | .ok () =>
      let s := { s with batchSize := max pipeline.batchSize 1 }
      match s.settings.endpoint, s.settings.policy with
      | .error e, _ => refused e s
      | .ok _, .error e => refused e s
      | .ok endpoint, .ok policy =>
          let credentials := s.settings.credentials endpoint
          let cache : Cache :=
            { provider := { endpoint, credentials, policy }, precision := s.settings.precision
              meter := some ⟨pipeline.name, "sink"⟩ }
          match s.settings.target? with
          | none => refused (.configuration "sink mode needs a database") s
          | some name =>
              match ← cache.setDatabase name with
              | (.error e, _) => refused e s
              | (.ok (), cache) => return (.ok (), { s with cache := some cache })

/-- **Write the lines that wait.** When they cannot be written they wait on. -/
def flush (s : Sink) : Dialogue Link (Outcome Unit × Sink) := do
  if s.buffer.isEmpty then return (.ok (), s)
  else
    match s.cache with
    | none => return (.error uninitialized, s)
    | some cache =>
        match ← cache.write s.buffer s.settings.protocol s.settings.precision with
        | (.error e, cache) => return (.error e, { s with cache := some cache })
        | (.ok (), cache) => return (.ok (), { s with cache := some cache, buffer := [] })

/-- Write the lines that wait when there are enough of them. -/
def flushFull (s : Sink) : Dialogue Link (Outcome Unit × Sink) :=
  if s.batchSize ≤ s.buffer.length then s.flush else pure (.ok (), s)

/-- The error for a record that cannot be read, as the settings want it. -/
def refusal (s : Sink) (r : Incoming) (e : Error) : Error :=
  if e.isInvalidData && s.settings.invalidRecords = .fail then
    .fatal ("invalid record at " ++ r.topic ++ ":" ++ toString r.offset) (some e)
  else e

/-- **Take a record.** Lines that wait are written first when there are enough of them, so a record
that is given again after a failure to write was not taken before. -/
def process (s : Sink) (r : Incoming) : Dialogue Link (Outcome Unit × Sink) := do
  match ← s.flushFull with
  | (.error e, s) => return (.error e, s)
  | (.ok (), s) =>
      -- From here on nothing is asked of the database.
      match recordLines s.settings r with
      | .error e => return (.error (s.refusal r e), s)
      | .ok lines => return (.ok (), { s with buffer := s.buffer ++ lines })

/-- **Stop.** Lines that still wait are dropped. -/
def shutdown (s : Sink) : Dialogue Link (Outcome Unit × Sink) := do
  match s.cache with
  | none => return (.ok (), { s with buffer := [] })
  | some cache =>
      let cache ← cache.close
      return (.ok (), { s with buffer := [], cache := some cache })

end Sink

end SeriesBridge
