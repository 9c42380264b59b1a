import SeriesBridge.Json.Value
import SeriesBridge.Number.Decimal
import SeriesBridge.Text.Escaped

/-! # Writing JSON

* **`Json.compact v`** — a value without white space.
* **`Json.pretty v`** — a value with one member or item to a line, indented by two spaces.
* **`Json.describe v`** — a value as an error message shows it, with its kinds spelt out. -/

namespace SeriesBridge.Json

/-! ## Numbers and strings -/

/-- An exponent with its sign and at least two digits. -/
def spellExponent (e : Int) : List Char :=
  let digits := Text.showNat e.natAbs
  'e' :: (if e < 0 then '-' else '+') :: List.replicate (2 - digits.length) '0' ++ digits

/-- **A finite double as JSON.** Positional when the point falls within the first sixteen places or
at most four zeros follow it, otherwise one digit before the point and an exponent; there is always
a point or an exponent. Of two decimals that are equally near the even one is written. -/
def spellDouble (d : Double) : List Char :=
  let x := d.shortest .even
  let ds := Text.showNat x.digits
  -- The point stands behind this many of the digits.
  let point : Int := ds.length + x.exponent
  let text :=
    if d.magnitude = 0 then "0.0".toList
    else if 0 ≤ x.exponent && point ≤ 16 then
      ds ++ List.replicate x.exponent.toNat '0' ++ ['.', '0']
    else if 0 < point && point ≤ 16 then ds.take point.toNat ++ '.' :: ds.drop point.toNat
    else if -5 < point && point ≤ 0 then
      ['0', '.'] ++ List.replicate (-point).toNat '0' ++ ds
    else
      let mantissa := match ds with
        | [c] => [c]
        | c :: rest => c :: '.' :: rest
        | [] => []
      mantissa ++ spellExponent (point - 1)
  if d.negative then '-' :: text else text

/-- A number. -/
def spellNumber : Number → List Char
  | .integer n => Text.showInt n
  | .real d => spellDouble d

/-- One character of a string. -/
def spellChar (c : Char) : List Char :=
  if c == '"' then ['\\', '"']
  else if c == '\\' then ['\\', '\\']
  else if c == '\x08' then ['\\', 'b']
  else if c == '\x0C' then ['\\', 'f']
  else if c == '\n' then ['\\', 'n']
  else if c == '\r' then ['\\', 'r']
  else if c == '\t' then ['\\', 't']
  else if c.toNat < 0x20 then ['\\', 'u'] ++ Text.showHex 4 c.toNat
  else [c]

/-- A string between quotes. -/
def spellString (s : String) : List Char := '"' :: s.toList.flatMap spellChar ++ ['"']

/-- Pieces with a comma between them. -/
def commaSeparated : List (List Char) → List Char
  | [] => []
  | [p] => p
  | p :: ps => p ++ ',' :: commaSeparated ps

/-! ## Values -/

mutual

/-- **A value without white space.** -/
def compact : Json → List Char
  | .null => "null".toList
  | .bool true => "true".toList
  | .bool false => "false".toList
  | .number n => spellNumber n
  | .string s => spellString s
  | .array items => '[' :: commaSeparated (compactItems items) ++ [']']
  | .object members => '\x7b' :: commaSeparated (compactMembers members) ++ ['\x7d']

/-- The items of an array. -/
def compactItems : List Json → List (List Char)
  | [] => []
  | v :: vs => compact v :: compactItems vs

/-- The members of an object. -/
def compactMembers : List (String × Json) → List (List Char)
  | [] => []
  | (k, v) :: rest => (spellString k ++ ':' :: compact v) :: compactMembers rest

end

/-- A line break and the indentation of a level. -/
def newLine (level : Nat) : List Char := '\n' :: List.replicate (2 * level) ' '

/-- Pieces on lines of their own, between brackets. -/
def block (opening closing : Char) (level : Nat) (parts : List (List Char)) : List Char :=
  if parts.isEmpty then [opening, closing]
  else
    opening :: commaSeparated (parts.map (newLine (level + 1) ++ ·)) ++ newLine level ++ [closing]

mutual

/-- A value that starts on a line of the given level. -/
def prettyAt (level : Nat) : Json → List Char
  | .null => "null".toList
  | .bool true => "true".toList
  | .bool false => "false".toList
  | .number n => spellNumber n
  | .string s => spellString s
  | .array items => block '[' ']' level (prettyItems (level + 1) items)
  | .object members => block '\x7b' '\x7d' level (prettyMembers (level + 1) members)

/-- The items of an array. -/
def prettyItems (level : Nat) : List Json → List (List Char)
  | [] => []
  | v :: vs => prettyAt level v :: prettyItems level vs

/-- The members of an object. -/
def prettyMembers (level : Nat) : List (String × Json) → List (List Char)
  | [] => []
  | (k, v) :: rest =>
      (spellString k ++ ':' :: ' ' :: prettyAt level v) :: prettyMembers level rest

end

/-- **A value with one member or item to a line.** -/
def pretty (v : Json) : List Char := prettyAt 0 v

/-! ## Values in error messages -/

/-- Pieces with a comma and a space between them. -/
def listed : List (List Char) → List Char
  | [] => []
  | [p] => p
  | p :: ps => p ++ ',' :: ' ' :: listed ps

mutual

/-- **A value as an error message shows it.** -/
def describe : Json → List Char
  | .null => "Null".toList
  | .bool b => "Bool(".toList ++ (if b then "true".toList else "false".toList) ++ [')']
  | .number n => "Number(".toList ++ spellNumber n ++ [')']
  | .string s => "String(".toList ++ Text.quoted s.toList ++ [')']
  | .array items => "Array [".toList ++ listed (describeItems items) ++ [']']
  | .object members => "Object \x7b".toList ++ listed (describeMembers members) ++ ['\x7d']

/-- The items of an array. -/
def describeItems : List Json → List (List Char)
  | [] => []
  | v :: vs => describe v :: describeItems vs

/-- The members of an object. -/
def describeMembers : List (String × Json) → List (List Char)
  | [] => []
  | (k, v) :: rest =>
      (Text.quoted k.toList ++ ':' :: ' ' :: describe v) :: describeMembers rest

end

end SeriesBridge.Json
