import SeriesBridge.Json.Value
import SeriesBridge.Retry
import SeriesBridge.Settings.Fields

/-! # Settings of a pipeline

How records pass through a bridge, whatever database stands behind it.

* **`PipelineSettings`** — the name of the bridge, its retries, and the sizes and times of its
  batches.
* **`PipelineSettings.check s`** — the first reason why settings cannot be used.
* **`PipelineSettings.ofToml?`**, **`PipelineSettings.override`**,
  **`PipelineSettings.ofEnvironment`** — settings from a document and from variables. -/

namespace SeriesBridge

/-- **How records pass through a bridge.** Times are in milliseconds. -/
structure PipelineSettings where
  name : String
  backoff : Backoff := {}
  batchSize : Nat := 1000
  batchTimeout : Nat := 1000
  pollInterval : Nat := 1000
  logLevel : String := "info"
  deriving DecidableEq, Repr

namespace PipelineSettings

/-- The settings when nothing is set. -/
def standard : PipelineSettings := { name := "default-connector" }

/-- **The first reason why settings cannot be used:** no name, too many retries, a first wait
beyond the longest one, or empty batches. -/
def check (s : PipelineSettings) : Outcome Unit :=
  if s.name.isEmpty then .error (.configuration "connector_name cannot be empty")
  else if 100 < s.backoff.maxRetries then
    .error (.configuration "max_retries too high (max 100)")
  else if s.backoff.limit < s.backoff.base then
    .error (.configuration "retry_backoff_ms cannot exceed max_backoff_ms")
  else if s.batchSize = 0 then .error (.configuration "batch_size must be > 0")
  else .ok ()

/-! ## Documents -/

/-- The waits between retries, from their section of a document. -/
def readBackoff? (exact : Bool) (v : Toml) : Option Backoff := do
  let fields ← Settings.Fields.ofToml? ["max_retries", "retry_backoff_ms", "max_backoff_ms"] exact v
  let maxRetries ← fields.withDefault (Settings.word? 32) 3 "max_retries"
  let base ← fields.withDefault Settings.millis? 1000 "retry_backoff_ms"
  let limit ← fields.withDefault Settings.millis? 30000 "max_backoff_ms"
  some { maxRetries, base, limit }

/-- The batches, from their section of a document. -/
def readProcessing? (exact : Bool) (name : String) (backoff : Backoff) (v : Toml) :
    Option PipelineSettings := do
  let fields ←
    Settings.Fields.ofToml? ["batch_size", "batch_timeout_ms", "poll_interval_ms", "log_level"]
      exact v
  let batchSize ← fields.withDefault (Settings.word? 64) 1000 "batch_size"
  let batchTimeout ← fields.withDefault (Settings.word? 64) 1000 "batch_timeout_ms"
  let pollInterval ← fields.withDefault (Settings.word? 64) 1000 "poll_interval_ms"
  let logLevel ← fields.withDefault Settings.text? "info" "log_level"
  some { name, backoff, batchSize, batchTimeout, pollInterval, logLevel }

/-- **The settings in a document.** The name has to be there. -/
def ofToml? (exact : Bool) (document : Toml) : Option PipelineSettings := do
  let fields ← Settings.Fields.ofToml? ["connector_name", "retry", "processing"] false document
  let name ← fields.required Settings.text? "connector_name"
  let backoff ← fields.withDefault (readBackoff? exact) {} "retry"
  match fields "processing" with
  | some v => readProcessing? exact name backoff v
  | none => some { name, backoff }

/-- The settings as a document. -/
def toJson (s : PipelineSettings) : Json :=
  let number (n : Nat) : Json := .number (.integer n)
  .object
    [ ("connector_name", .string s.name),
      ("processing", .object
        [ ("batch_size", number s.batchSize), ("batch_timeout_ms", number s.batchTimeout),
          ("log_level", .string s.logLevel), ("poll_interval_ms", number s.pollInterval) ]),
      ("retry", .object
        [ ("max_backoff_ms", number s.backoff.limit.toNat),
          ("max_retries", number s.backoff.maxRetries),
          ("retry_backoff_ms", number s.backoff.base.toNat) ]) ]

/-! ## Variables -/

/-- **Settings with those in place that variables give.** -/
def override (env : Environment) (s : PipelineSettings) : PipelineSettings where
  name := (env "CONNECTOR_NAME").getD s.name
  backoff :=
    { maxRetries := (env.word? 32 "MAX_RETRIES").getD s.backoff.maxRetries
      base := (env.millis? "RETRY_BACKOFF_MS").getD s.backoff.base
      limit := (env.millis? "MAX_BACKOFF_MS").getD s.backoff.limit }
  batchSize := (env.word? 64 "BATCH_SIZE").getD s.batchSize
  batchTimeout := (env.word? 64 "BATCH_TIMEOUT_MS").getD s.batchTimeout
  pollInterval := (env.word? 64 "POLL_INTERVAL_MS").getD s.pollInterval
  logLevel := (env "LOG_LEVEL").getD s.logLevel

/-- **The settings that variables give,** of which the name has to be set. -/
def ofEnvironment (env : Environment) : Outcome PipelineSettings :=
  match env "CONNECTOR_NAME" with
  | some name => .ok (override env { name })
  | none => .error (.configuration "CONNECTOR_NAME is required")

end PipelineSettings

end SeriesBridge
