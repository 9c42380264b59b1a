/-! # Errors

Every operation of the bridge fails with an **`Error`**, which says what went wrong and, where one
error explains another, carries the error beneath it.

* **`Error.message e`** — the words for `e`.
* **`Error.kind e`** — the kind of `e` in one word.
* **`Error.sources e`** — the words for each error beneath `e`, from the nearest down.
* **`Error.isRetryable e`** — the same operation may succeed later.
* **`Error.isInvalidData e`** — the error belongs to one record, not to the bridge. -/

namespace SeriesBridge

/-- **What can go wrong.** -/
inductive Error where
  /-- No connection after the given number of attempts; the last failure lies beneath. -/
  | connection (attempts : Nat) (source : Error)
  /-- A line that does not have the form that it should have. -/
  | format (line reason : String)
  /-- Settings that cannot be used. -/
  | configuration (text : String)
  /-- The database refused the credentials. -/
  | authentication (text : String)
  /-- A statement failed on an open connection. -/
  | statement (sql : String) (source : Error)
  /-- A failure that may pass. -/
  | retryable (text : String) (source : Option Error)
  /-- A failure that will not pass. -/
  | fatal (text : String) (source : Option Error)
  /-- A payload that cannot be understood. -/
  | invalidData (text : String) (payload : List UInt8)
  /-- A document that cannot be written or read. -/
  | serialization (text : String)
  /-- The operating system refused. -/
  | system (text : String)
  /-- An error of a library, known by its words; it only ever lies beneath another error. -/
  | foreign (text : String)
  deriving Repr, Inhabited

/-- The result of an operation that may fail. -/
abbrev Outcome (α : Type) := Except Error α

/-- An outcome without a result is known by whether it succeeded. -/
theorem eq_ok_of_toBool {result : Outcome Unit} (h : result.toBool = true) : result = .ok () := by
  cases result with
  | error e => cases h
  | ok _ => rfl

namespace Error

/-- The words for an error. -/
def message : Error → String
  | connection attempts source =>
      "connection failed after " ++ toString attempts ++ " attempt(s): " ++ source.message
  | format line reason => "invalid line `" ++ line ++ "`: " ++ reason
  | configuration text => "configuration error: " ++ text
  | authentication text => "authentication error: " ++ text
  | statement sql source => "statement failed: " ++ sql ++ ": " ++ source.message
  | retryable text _ => "retryable error: " ++ text
  | fatal text _ => "fatal error: " ++ text
  | invalidData text _ => "invalid data: " ++ text
  | serialization text => "serialization error: " ++ text
  | system text => "io error: " ++ text
  | foreign text => text

/-- The kind of an error in one word. -/
def kind : Error → String
  | connection .. => "Connection"
  | format .. => "Format"
  | configuration _ => "Configuration"
  | authentication _ => "Authentication"
  | statement .. => "Statement"
  | retryable .. => "Retryable"
  | fatal .. => "Fatal"
  | invalidData .. => "InvalidData"
  | serialization _ => "Serialization"
  | system _ => "Io"
  | foreign _ => "Foreign"

/-- The words for every error beneath `e`, from the nearest down. -/
def sources : Error → List String
  | connection _ source => source.message :: source.sources
  | statement _ source => source.message :: source.sources
  | retryable _ (some source) => source.message :: source.sources
  | fatal _ (some source) => source.message :: source.sources
  | system text => [text]
  | _ => []

/-- **Errors that may pass.** A failed statement may pass when the failure beneath it may; a
connection that was given up may not. -/
def isRetryable : Error → Bool
  | retryable _ _ => true
  | system _ => true
  | statement _ source => source.isRetryable
  | _ => false

/-- Errors of a single record. -/
def isInvalidData : Error → Bool
  | invalidData _ _ => true
  | format _ _ => true
  | _ => false

/-- No error is both retryable and the fault of a single record. -/
theorem not_isRetryable_of_isInvalidData {e : Error} (h : e.isInvalidData = true) :
    e.isRetryable = false := by
  cases e <;> simp_all [isInvalidData, isRetryable]

end Error

end SeriesBridge
