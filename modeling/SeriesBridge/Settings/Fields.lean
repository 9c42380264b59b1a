import SeriesBridge.Precision
import SeriesBridge.Text.Integer
import SeriesBridge.Toml.Document

/-! # Fields of settings

Settings are read from a document and then from variables of the environment. A group of settings
is a table of named fields, or an array of them in their order; fields that nobody knows do not
count. A field of the wrong type, or one that is required and missing, spoils the whole document; a
variable that cannot be read is left out.

* **`Fields.ofToml? names exact v`** — the fields of a value.
* **`Fields.required`**, **`Fields.optional`**, **`Fields.withDefault`** — one field.
* **`Environment`** — the variables that are set. -/

namespace SeriesBridge

/-- **The variables that are set,** with their values. -/
abbrev Environment := String → Option String

namespace Environment

/-- The value of a variable, when it is set and can be read. -/
def parsed? {α : Type} (env : Environment) (read : String → Option α) (name : String) : Option α :=
  (env name).bind read

/-- A whole number below `2 ^ bits`. -/
def word? (env : Environment) (bits : Nat) (name : String) : Option Nat :=
  env.parsed? (fun s => Text.readWord? bits s.toList) name

/-- Milliseconds, as a word. -/
def millis? (env : Environment) (name : String) : Option UInt64 := (env.word? 64 name).map .ofNat

/-- The values of a variable between commas, without blanks around them; empty ones do not
count. -/
def list? (env : Environment) (name : String) : Option (List String) :=
  (env name).map (fun s =>
    ((Text.pieces (· == ',') s.toList).map Text.trim).filterMap (fun v =>
      if v.isEmpty then none else some (String.ofList v)))

end Environment

namespace Settings

/-- **Fields by their names.** -/
abbrev Fields := String → Option Toml

namespace Fields

/-- **The fields of a value.** An array gives them in the order of `names`; when it has to be
`exact`, it may not have more. A date or time has none. -/
def ofToml? (names : List String) (exact : Bool) : Toml → Option Fields
  | .table members => some (fun name => (members.find? (fun m => m.1 == name)).map (·.2))
  | .array items =>
      if exact && names.length < items.length then none
      else some (fun name => ((names.zip items).find? (fun m => m.1 == name)).map (·.2))
  | .time _ => some (fun _ => none)
  | _ => none

/-- A field that has to be there. -/
def required {α : Type} (fields : Fields) (read : Toml → Option α) (name : String) : Option α :=
  (fields name).bind read

/-- A field that may be missing. -/
def optional {α : Type} (fields : Fields) (read : Toml → Option α) (name : String) :
    Option (Option α) :=
  match fields name with
  | some v => (read v).map some
  | none => some none

/-- A field with a value for when it is missing. -/
def withDefault {α : Type} (fields : Fields) (read : Toml → Option α) (default : α)
    (name : String) : Option α :=
  (fields.optional read name).map (·.getD default)

end Fields

/-! ## Types of fields -/

/-- A text. -/
def text? : Toml → Option String
  | .text s => some s
  | _ => none

/-- A whole number below `2 ^ bits`. -/
def word? (bits : Nat) : Toml → Option Nat
  | .integer n => if 0 ≤ n && n < 1 <<< bits then some n.toNat else none
  | _ => none

/-- Milliseconds, as a word. -/
def millis? (v : Toml) : Option UInt64 := (word? 64 v).map .ofNat

/-- A list. -/
def list? {α : Type} (read : Toml → Option α) : Toml → Option (List α)
  | .array items => items.mapM read
  | _ => none

/-- Nothing: an empty table or an empty array. -/
def isNothing : Toml → Bool
  | .table [] => true
  | .array [] => true
  | _ => false

/-- **One of several names:** a text, or a table with the name as its only key and nothing under
it. -/
def choice? {α : Type} (ofName? : List Char → Option α) : Toml → Option α
  | .text s => ofName? s.toList
  | .table [(name, v)] => if isNothing v then ofName? name.toList else none
  | _ => none

end Settings

end SeriesBridge
