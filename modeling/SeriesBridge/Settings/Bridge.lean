import SeriesBridge.Files
import SeriesBridge.Settings.Database

/-! # Settings of a bridge

The settings of the pipeline and those of the database together.

* **`BridgeSettings.load env`** — the settings from a document, if a variable names one, and from
  variables.
* **`PipelineSettings.ofFile path`** — the settings of a pipeline alone from a document. -/

namespace SeriesBridge

/-- Stands for the words of a reader of documents, which say where a document is at fault. -/
def Toml.unreadable : String := "<toml error>"

/-- **A document in a file,** as `read?` understands it. -/
def Settings.ofFile {α : Type} (read? : Toml → Option α) (path : String) :
    Dialogue Files (Outcome α) := do
  let unread (text : String) : Outcome α :=
    .error (.configuration ("Failed to read config file " ++ path ++ ": " ++ text))
  match ← Files.read path with
  | .error fault => return unread fault.text
  | .ok bytes =>
      match Text.Utf8.decode bytes with
      | .error _ => return unread "stream did not contain valid UTF-8"
      | .ok s =>
          match (Toml.readDocument? s).bind read? with
          | some settings => return .ok settings
          | none =>
              return .error (.configuration ("Failed to parse config file " ++ path ++ ": " ++
                Toml.unreadable))

/-- The settings of a pipeline in a document of their own. -/
def PipelineSettings.ofFile (path : String) : Dialogue Files (Outcome PipelineSettings) :=
  Settings.ofFile (PipelineSettings.ofToml? false) path

/-- **The settings of a bridge.** -/
structure BridgeSettings where
  pipeline : PipelineSettings
  database : DatabaseSettings
  deriving DecidableEq, Repr

namespace BridgeSettings

/-- **The settings in a document:** those of the pipeline at its root, those of the database in a
section. -/
def ofToml? (document : Toml) : Option BridgeSettings := do
  let fields ← Settings.Fields.ofToml? [] false document
  let database ← fields.required DatabaseSettings.ofToml? "tdengine"
  let pipeline ← PipelineSettings.ofToml? true document
  some { pipeline, database }

/-- The settings in a file. -/
def ofFile (path : String) : Dialogue Files (Outcome BridgeSettings) := Settings.ofFile ofToml? path

/-- The settings that variables give. -/
def ofEnvironment (env : Environment) : Outcome BridgeSettings := do
  let pipeline ← PipelineSettings.ofEnvironment env
  let database ← DatabaseSettings.ofEnvironment env
  .ok { pipeline, database }

/-- Settings with those in place that variables give. -/
def override (env : Environment) (s : BridgeSettings) : BridgeSettings where
  pipeline := s.pipeline.override env
  database := s.database.override env

/-- **Load the settings:** from the file that a variable names, or from variables alone; variables
count more than the file. -/
def load (env : Environment) : Dialogue Files (Outcome BridgeSettings) := do
  let settings ←
    match env "CONFIG_FILE" with
    | some path => ofFile path
    | none => pure (ofEnvironment env)
  return settings.map (override env)

/-- The variables that settings are read from. -/
def variableNames : List String :=
  [ "CONFIG_FILE", "CONNECTOR_NAME", "MAX_RETRIES", "RETRY_BACKOFF_MS", "MAX_BACKOFF_MS",
    "BATCH_SIZE", "BATCH_TIMEOUT_MS", "POLL_INTERVAL_MS", "LOG_LEVEL", "TDENGINE_MODE",
    "TDENGINE_URL", "TDENGINE_USER", "TDENGINE_PASSWORD", "TDENGINE_DATABASE",
    "TDENGINE_MAX_CONNECTION_ATTEMPTS", "TDENGINE_CONNECTION_BACKOFF_MS", "TDENGINE_CHARSET",
    "TDENGINE_PROTOCOL", "TDENGINE_PRECISION", "TDENGINE_INITIAL_TIMESTAMP",
    "TDENGINE_REQUEST_TIMEOUT_SECS", "TDENGINE_TABLES", "TDENGINE_TOPIC_TEMPLATE",
    "TDENGINE_TIMESTAMP_COLUMN", "TDENGINE_TAG_COLUMNS", "TDENGINE_MEASUREMENT_TEMPLATE",
    "TDENGINE_OFFSET_FILE", "TDENGINE_ON_INVALID_RECORD" ]

/-- **The first reason why settings cannot be used.** -/
def check (s : BridgeSettings) : Outcome Unit := do
  s.pipeline.check
  s.database.check

end BridgeSettings

end SeriesBridge
