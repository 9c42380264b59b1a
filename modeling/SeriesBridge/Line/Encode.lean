import SeriesBridge.Line.Point
import SeriesBridge.Number.Decimal
import SeriesBridge.Text.Escaped

/-! # Writing points as lines

A line is `measurement,tag=value,… field=value,… timestamp`. Values carry their type: `3i64`,
`1.5f64`, `true`, `L"text"`.

* **`Line.spell p`** — the line of a point.
* **`Line.writeFault p`** — why a point has no line: a fault of its own, a line break in one of its
  texts, or a number that is not finite.
* **`Line.encode p`** — the line of a point that has one. -/

namespace SeriesBridge.Line

/-! ## Names and values -/

/-- The characters that separate the parts of a line; a name holds them behind a backslash. -/
def isSeparator (c : Char) : Bool :=
  c == ',' || c == '=' || c == ' ' || c == '\t' || c == '"' || c == '\\'

/-- One character of a name. -/
def spellNameChar (c : Char) : List Char := if isSeparator c then ['\\', c] else [c]

/-- A measurement name or a key. -/
def spellName (s : List Char) : List Char := s.flatMap spellNameChar

/-- The empty name is written as nothing. -/
@[simp] theorem spellName_nil : spellName [] = [] := rfl

/-- Names are written character by character. -/
@[simp] theorem spellName_cons (c : Char) (s : List Char) :
    spellName (c :: s) = spellNameChar c ++ spellName s := rfl

/-- One character of a quoted text. -/
def spellTextChar (c : Char) : List Char := if c == '"' || c == '\\' then ['\\', c] else [c]

/-- The inside of a quoted text. -/
def spellText (s : List Char) : List Char := s.flatMap spellTextChar

/-- The empty text is written as nothing. -/
@[simp] theorem spellText_nil : spellText [] = [] := rfl

/-- Texts are written character by character. -/
@[simp] theorem spellText_cons (c : Char) (s : List Char) :
    spellText (c :: s) = spellTextChar c ++ spellText s := rfl

/-- A value with the mark of its type. -/
def spellValue : Value → List Char
  | .int n => Text.showInt n.toInt ++ ['i', '6', '4']
  | .float d => d.positional ++ ['f', '6', '4']
  | .bool true => ['t', 'r', 'u', 'e']
  | .bool false => ['f', 'a', 'l', 's', 'e']
  | .text s => ['L', '"'] ++ spellText s.toList ++ ['"']

/-- A key, an equals sign and a value. -/
def spellPair (p : Pair) : List Char := spellName p.1.toList ++ '=' :: spellValue p.2

/-- Pairs, each after a comma. -/
def spellTags (tags : List Pair) : List Char := tags.flatMap (fun p => ',' :: spellPair p)

/-- Pairs with a comma between them. -/
def spellFields : List Pair → List Char
  | [] => []
  | p :: rest => spellPair p ++ spellTags rest

/-- A timestamp after a space. -/
def spellTime : Option Int64 → List Char
  | none => []
  | some t => ' ' :: Text.showInt t.toInt

/-- **The line of a point.** -/
def spell (p : Point) : List Char :=
  spellName p.measurement.toList ++ spellTags p.tags ++ ' ' :: spellFields p.fields ++
    spellTime p.timestamp

/-! ## Points without a line -/

/-- Why a point has no line. -/
inductive WriteFault where
  /-- The point itself is at fault. -/
  | point (fault : PointFault)
  /-- A text holds a line break. -/
  | lineBreak (text : String)
  /-- The number of a key is not finite. -/
  | notFinite (key : String)
  deriving DecidableEq, Repr

/-- The words for a fault. -/
def WriteFault.message : WriteFault → String
  | point fault => fault.message
  | lineBreak text =>
      "line breaks are not allowed in '" ++ String.ofList (Text.escaped text.toList) ++ "'"
  | notFinite key => "non-finite float for '" ++ key ++ "'"

/-- Whether a character breaks a line. -/
def isBreak (c : Char) : Bool := c == '\n' || c == '\r'

/-- A text with a line break in it. -/
def breakFault (text : String) : Option WriteFault :=
  if text.toList.any isBreak then some (.lineBreak text) else none

/-- The fault of a value under its key. -/
def valueFault (key : String) : Value → Option WriteFault
  | .float d => if d.isFinite then none else some (.notFinite key)
  | .text s => breakFault s
  | _ => none

/-- The fault of a key, or else of its value. -/
def pairFault (p : Pair) : Option WriteFault :=
  (breakFault p.1).or (valueFault p.1 p.2)

/-- **Why a point has no line.** Its own faults come first, then those of its texts and numbers in
the order in which they would be written. -/
def writeFault (p : Point) : Option WriteFault :=
  match p.check with
  | some fault => some (.point fault)
  | none =>
      ((breakFault p.measurement).or (p.tags.findSome? pairFault)).or
        (p.fields.findSome? pairFault)

/-- **Encoding.** The line of a point, or an error that names the measurement. -/
def encode (p : Point) : Outcome String :=
  match writeFault p with
  | some fault => .error (.format p.measurement fault.message)
  | none => .ok (String.ofList (spell p))

/-- A point is encoded exactly when it has no fault, and then as it is spelt. -/
theorem encode_eq_ok_iff {p : Point} {line : String} :
    encode p = .ok line ↔ writeFault p = none ∧ String.ofList (spell p) = line := by
  unfold encode
  split
  · simp_all
  · simp_all

end SeriesBridge.Line
