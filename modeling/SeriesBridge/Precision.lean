import SeriesBridge.Error
import SeriesBridge.Text.Blank

/-! # Precision and protocol

The unit that a database counts timestamps in, and the form that its schemaless writes take.

* **`Precision`** — milliseconds, microseconds or nanoseconds.
* **`Protocol`** — typed lines, telnet lines or JSON documents.

Both are named in settings; a name is read without the blanks around it and without regard to the
case of its letters. -/

namespace SeriesBridge

/-- A text as a setting's name: without blanks at its ends, in lower case. -/
def settingName (s : String) : List Char := Text.lower (Text.trim s.toList)

/-! ## Precision -/

/-- The unit of an integer timestamp. -/
inductive Precision where
  | millis
  | micros
  | nanos
  deriving DecidableEq, Repr, Inhabited

namespace Precision

/-- The short name of a unit. -/
def name : Precision → String
  | millis => "ms"
  | micros => "us"
  | nanos => "ns"

/-- How many units make a millisecond. -/
def perMilli : Precision → Int
  | millis => 1
  | micros => 1000
  | nanos => 1000000

/-- How many nanoseconds make a unit. -/
def nanosPerUnit : Precision → Int
  | millis => 1000000
  | micros => 1000
  | nanos => 1

/-- A millisecond is a million nanoseconds, whatever unit lies between. -/
theorem perMilli_mul_nanosPerUnit (p : Precision) : p.perMilli * p.nanosPerUnit = 1000000 := by
  cases p <;> rfl

/-- A unit holds at least one nanosecond. -/
theorem nanosPerUnit_pos (p : Precision) : 0 < p.nanosPerUnit := by cases p <;> decide

/-- The unit of a given name; microseconds may be spelt with a micro sign. -/
def ofName? (s : List Char) : Option Precision :=
  if s == "ms".toList then some millis
  else if s == "us".toList || s == "µs".toList then some micros
  else if s == "ns".toList then some nanos
  else none

/-- The unit that a setting names. -/
def read (s : String) : Outcome Precision :=
  match ofName? (settingName s) with
  | some p => .ok p
  | none =>
      .error (.configuration ("unsupported timestamp precision '" ++
        String.ofList (settingName s) ++ "', expected ms, us or ns"))

end Precision

/-! ## Protocol -/

/-- The form of a schemaless write. -/
inductive Protocol where
  | line
  | telnet
  | json
  deriving DecidableEq, Repr, Inhabited

namespace Protocol

/-- The name of a form. -/
def name : Protocol → String
  | line => "line"
  | telnet => "telnet"
  | json => "json"

/-- The form of a given name. -/
def ofName? (s : List Char) : Option Protocol :=
  if s == "line".toList then some line
  else if s == "telnet".toList then some telnet
  else if s == "json".toList then some json
  else none

/-- The form that a setting names. -/
def read (s : String) : Outcome Protocol :=
  match ofName? (settingName s) with
  | some p => .ok p
  | none =>
      .error (.configuration ("unsupported schemaless protocol '" ++
        String.ofList (settingName s) ++ "', expected line, telnet or json"))

end Protocol

end SeriesBridge
