import SeriesBridge.Database.Endpoint
import SeriesBridge.Offset.Cursor
import SeriesBridge.Settings.Pipeline

/-! # Settings of a database

Which database a bridge writes to or reads from, and how.

* **`DatabaseSettings`** — the settings, with the tables that a source reads.
* **`DatabaseSettings.check s`** — the first reason why settings cannot be used.
* **`DatabaseSettings.ofToml?`**, **`DatabaseSettings.override`**,
  **`DatabaseSettings.ofEnvironment`** — settings from a document and from variables.
* **`checkIdentifier`** — names that may stand in a statement. -/

namespace SeriesBridge

/-! ## Choices -/

/-- The direction of a bridge. -/
inductive Mode where
  /-- Records are written to the database. -/
  | sink
  /-- Tables of the database are read. -/
  | source
  deriving DecidableEq, Repr, Inhabited

namespace Mode

/-- The name of a direction. -/
def name : Mode → String
  | sink => "sink"
  | source => "source"

/-- The direction of a given name. -/
def ofName? (s : List Char) : Option Mode :=
  if s == "sink".toList then some sink else if s == "source".toList then some source else none

/-- The direction that a setting names. -/
def read (s : String) : Outcome Mode :=
  match ofName? (settingName s) with
  | some m => .ok m
  | none =>
      .error (.configuration ("unknown mode '" ++ String.ofList (settingName s) ++
        "', expected sink or source"))

end Mode

/-- What becomes of a record that cannot be read. -/
inductive InvalidRecords where
  | skip
  | fail
  deriving DecidableEq, Repr, Inhabited

namespace InvalidRecords

/-- The name of a choice. -/
def name : InvalidRecords → String
  | skip => "skip"
  | fail => "fail"

/-- The choice of a given name. -/
def ofName? (s : List Char) : Option InvalidRecords :=
  if s == "skip".toList then some skip else if s == "fail".toList then some fail else none

/-- The choice that a setting names. -/
def read (s : String) : Outcome InvalidRecords :=
  match ofName? (settingName s) with
  | some m => .ok m
  | none =>
      .error (.configuration ("unknown on_invalid_record '" ++ String.ofList (settingName s) ++
        "', expected skip or fail"))

end InvalidRecords

/-! ## Tables -/

/-- A table that is read, and the partition that its offsets are kept under. -/
structure TableSource where
  table : String
  /-- The partition, when it is not named like the table. -/
  named : Option String := none
  deriving DecidableEq, Repr, Inhabited

namespace TableSource

/-- The partition of a table. -/
def partition (t : TableSource) : String := t.named.getD t.table

/-- A table, or a table and its partition with a colon between them. -/
def ofEntry (entry : String) : TableSource :=
  match Text.splitFirst [':'] entry.toList with
  | some (table, named) =>
      let named := Text.trim named
      { table := String.ofList (Text.trim table)
        named := if named.isEmpty then none else some (String.ofList named) }
  | none => { table := String.ofList (Text.trim entry.toList) }

/-- A table, from an entry of a document. -/
def ofToml? (v : Toml) : Option TableSource := do
  let fields ← Settings.Fields.ofToml? ["table", "partition"] false v
  let table ← fields.required Settings.text? "table"
  let named ← fields.optional Settings.text? "partition"
  some { table, named }

end TableSource

/-! ## Settings -/

/-- **Which database, and how.** The attempts to connect are `attempts`, `attemptWait` milliseconds
apart; a request may take `requestTimeout` seconds. -/
structure DatabaseSettings where
  mode : Mode := .sink
  url : String
  user : Option String := none
  password : Option String := none
  database : Option String := none
  attempts : Nat := 3
  attemptWait : Nat := 5000
  charset : String := "UTF-8"
  protocol : Protocol := .line
  precision : Precision := .millis
  initialTimestamp : Option String := none
  requestTimeout : Nat := 30
  tables : List TableSource := []
  topicTemplate : String := "tdengine-\x7b\x7btable\x7d\x7d"
  timestampColumn : String := "ts"
  tagColumns : List String := []
  measurementTemplate : String := "\x7b\x7btable\x7d\x7d"
  offsetFile : Option String := none
  invalidRecords : InvalidRecords := .skip
  deriving DecidableEq, Repr

/-- **Names in statements.** A name that stands in a statement has to be a plain identifier. -/
def checkIdentifier (name : String) : Outcome Unit :=
  if Text.isIdentifier name.toList then .ok ()
  else
    .error (.configuration ("invalid identifier '" ++ name ++
      "': expected letters, digits and '_'"))

namespace DatabaseSettings

/-- Where the database is reached. -/
def endpoint (s : DatabaseSettings) : Outcome Endpoint := Endpoint.read s.url

/-- The credentials to present at an endpoint. -/
def credentials (s : DatabaseSettings) (e : Endpoint) : Credentials :=
  Credentials.resolve e s.user s.password

/-- How to connect. -/
def policy (s : DatabaseSettings) : Outcome RetryPolicy := RetryPolicy.make s.attempts s.attemptWait

/-- **The database to work on:** the one that is set, or else the one that the address names. -/
def target? (s : DatabaseSettings) : Option String :=
  match s.database with
  | some name => some name
  | none =>
      match s.endpoint with
      | .ok e => e.database
      | .error _ => none

/-! ### Checking -/

/-- Whether a character set is UTF-8, by any of its names. -/
def isUtf8Name (s : String) : Bool :=
  let name := (Text.upper (Text.trim s.toList)).map (fun c => if c == '_' then '-' else c)
  name == "UTF-8".toList || name == "UTF8".toList

/-- Check every item of a list, in order. -/
def checkAll {α : Type} (check : α → Outcome Unit) : List α → Outcome Unit
  | [] => .ok ()
  | a :: rest =>
      match check a with
      | .ok () => checkAll check rest
      | .error e => .error e

/-- A table has to be an identifier, or several with dots between them, and its partition has to
have a name. -/
def checkTable (t : TableSource) : Outcome Unit := do
  checkAll (fun part => checkIdentifier (String.ofList part))
    (Text.pieces (· == '.') t.table.toList)
  if t.partition.isEmpty then .error (.configuration "partition cannot be empty") else .ok ()

/-- What a source needs: tables under partitions of their own, a time column and a position to
start from. -/
def checkSource (s : DatabaseSettings) : Outcome Unit := do
  if s.tables.isEmpty then
    .error (.configuration "source mode needs at least one entry in tables")
  checkAll checkTable s.tables
  if (s.tables.map TableSource.partition).Nodup then pure ()
  else .error (.configuration "partitions must be unique")
  checkIdentifier s.timestampColumn
  let _ ← Cursor.readStart? s.initialTimestamp ⟨0, 0⟩

/-- **The first reason why settings cannot be used.** -/
def check (s : DatabaseSettings) : Outcome Unit := do
  let e ← s.endpoint
  if !isUtf8Name s.charset then
    .error (.configuration ("unsupported charset '" ++ s.charset ++ "', only UTF-8 is supported"))
  let _ ← s.policy
  match s.database.or e.database with
  | some name => checkIdentifier name
  | none => pure ()
  match s.mode with
  | .sink =>
      if s.database.isNone && e.database.isNone then
        .error (.configuration "sink mode needs a database, set database or add it to the url")
  | .source => s.checkSource
  if s.requestTimeout = 0 then .error (.configuration "request_timeout_secs must be > 0")

/-! ### Documents -/

/-- The names of the settings in their order. -/
def fieldNames : List String :=
  ["mode", "url", "user", "password", "database", "max_connection_attempts",
    "connection_backoff_ms", "charset", "protocol", "precision", "initial_timestamp",
    "request_timeout_secs", "tables", "topic_template", "timestamp_column", "tag_columns",
    "measurement_template", "offset_file", "on_invalid_record"]

/-- The unit that a document names. -/
def documentPrecision? (s : List Char) : Option Precision :=
  if s == "ms".toList then some .millis
  else if s == "us".toList then some .micros
  else if s == "ns".toList then some .nanos
  else none

/-- **The settings in their section of a document.** The address has to be there. -/
def ofToml? (v : Toml) : Option DatabaseSettings := do
  let fields ← Settings.Fields.ofToml? fieldNames false v
  let text := Settings.text?
  let url ← fields.required text "url"
  let s : DatabaseSettings := { url }
  some
    { url
      mode := ← fields.withDefault (Settings.choice? Mode.ofName?) s.mode "mode"
      user := ← fields.optional text "user"
      password := ← fields.optional text "password"
      database := ← fields.optional text "database"
      attempts := ← fields.withDefault (Settings.word? 32) s.attempts "max_connection_attempts"
      attemptWait := ← fields.withDefault (Settings.word? 64) s.attemptWait "connection_backoff_ms"
      charset := ← fields.withDefault text s.charset "charset"
      protocol := ← fields.withDefault (Settings.choice? Protocol.ofName?) s.protocol "protocol"
      precision :=
        ← fields.withDefault (Settings.choice? documentPrecision?) s.precision "precision"
      initialTimestamp := ← fields.optional text "initial_timestamp"
      requestTimeout :=
        ← fields.withDefault (Settings.word? 64) s.requestTimeout "request_timeout_secs"
      tables := ← fields.withDefault (Settings.list? TableSource.ofToml?) s.tables "tables"
      topicTemplate := ← fields.withDefault text s.topicTemplate "topic_template"
      timestampColumn := ← fields.withDefault text s.timestampColumn "timestamp_column"
      tagColumns := ← fields.withDefault (Settings.list? text) s.tagColumns "tag_columns"
      measurementTemplate :=
        ← fields.withDefault text s.measurementTemplate "measurement_template"
      offsetFile := ← fields.optional text "offset_file"
      invalidRecords :=
        ← fields.withDefault (Settings.choice? InvalidRecords.ofName?) s.invalidRecords
          "on_invalid_record" }

/-- A text that may be missing, as a document holds it. -/
def optionalJson : Option String → Json
  | some s => .string s
  | none => .null

/-- The settings as a document. -/
def toJson (s : DatabaseSettings) : Json :=
  let number (n : Nat) : Json := .number (.integer n)
  .object
    [ ("charset", .string s.charset), ("connection_backoff_ms", number s.attemptWait),
      ("database", optionalJson s.database),
      ("initial_timestamp", optionalJson s.initialTimestamp),
      ("max_connection_attempts", number s.attempts),
      ("measurement_template", .string s.measurementTemplate), ("mode", .string s.mode.name),
      ("offset_file", optionalJson s.offsetFile),
      ("on_invalid_record", .string s.invalidRecords.name),
      ("password", optionalJson s.password), ("precision", .string s.precision.name),
      ("protocol", .string s.protocol.name), ("request_timeout_secs", number s.requestTimeout),
      ("tables", .array (s.tables.map (fun t =>
        .object [("partition", optionalJson t.named), ("table", .string t.table)]))),
      ("tag_columns", .array (s.tagColumns.map .string)),
      ("timestamp_column", .string s.timestampColumn),
      ("topic_template", .string s.topicTemplate), ("url", .string s.url),
      ("user", optionalJson s.user) ]

/-! ### Variables -/

/-- **Settings with those in place that variables give.** -/
def override (env : Environment) (s : DatabaseSettings) : DatabaseSettings :=
  let text (name old : String) : String := (env name).getD old
  { mode := (env.parsed? (fun v => (Mode.read v).toOption) "TDENGINE_MODE").getD s.mode
    url := text "TDENGINE_URL" s.url
    user := (env "TDENGINE_USER").or s.user
    password := (env "TDENGINE_PASSWORD").or s.password
    database := (env "TDENGINE_DATABASE").or s.database
    attempts := (env.word? 32 "TDENGINE_MAX_CONNECTION_ATTEMPTS").getD s.attempts
    attemptWait := (env.word? 64 "TDENGINE_CONNECTION_BACKOFF_MS").getD s.attemptWait
    charset := text "TDENGINE_CHARSET" s.charset
    protocol :=
      (env.parsed? (fun v => (Protocol.read v).toOption) "TDENGINE_PROTOCOL").getD s.protocol
    precision :=
      (env.parsed? (fun v => (Precision.read v).toOption) "TDENGINE_PRECISION").getD s.precision
    initialTimestamp := (env "TDENGINE_INITIAL_TIMESTAMP").or s.initialTimestamp
    requestTimeout := (env.word? 64 "TDENGINE_REQUEST_TIMEOUT_SECS").getD s.requestTimeout
    tables :=
      ((env.list? "TDENGINE_TABLES").map (fun entries => entries.map TableSource.ofEntry)).getD
        s.tables
    topicTemplate := text "TDENGINE_TOPIC_TEMPLATE" s.topicTemplate
    timestampColumn := text "TDENGINE_TIMESTAMP_COLUMN" s.timestampColumn
    tagColumns := (env.list? "TDENGINE_TAG_COLUMNS").getD s.tagColumns
    measurementTemplate := text "TDENGINE_MEASUREMENT_TEMPLATE" s.measurementTemplate
    offsetFile := (env "TDENGINE_OFFSET_FILE").or s.offsetFile
    invalidRecords :=
      (env.parsed? (fun v => (InvalidRecords.read v).toOption)
        "TDENGINE_ON_INVALID_RECORD").getD s.invalidRecords }

/-- **The settings that variables give,** of which the address has to be set. -/
def ofEnvironment (env : Environment) : Outcome DatabaseSettings :=
  match env "TDENGINE_URL" with
  | some url => .ok (override env { url })
  | none => .error (.configuration "TDENGINE_URL is required")

end DatabaseSettings

end SeriesBridge
