import SeriesBridge.Json.Value
import SeriesBridge.Text.Integer

/-! # Reading JSON

A document is read in two steps. The first finds its shape alone, a **`Tree`**: numbers stay
digits, members stay in their order and may repeat a key. The second takes from the tree what is
asked for, and only there a number may be too large, a string hold half of a surrogate pair, or the
nesting be too deep. A part of a document that nobody asks for needs its shape only.

* **`Tree.ofText? s`** — the tree of a document.
* **`Tree.value? levels t`** — the value of a tree that nests at most `levels` deep.
* **`Json.read? s`** — the value of a document, nested at most 127 deep. -/

namespace SeriesBridge.Json

/-! ## Trees -/

/-- The digits of a number. -/
structure NumberText where
  negative : Bool
  whole : List Char
  fraction : Option (List Char)
  /-- The sign of the exponent, `true` for minus, and its digits. -/
  exponent : Option (Bool × List Char)
  deriving DecidableEq, Repr

/-- **The shape of a document.** A string that holds half of a surrogate pair has no text. -/
inductive Tree where
  | null
  | bool (b : Bool)
  | number (n : NumberText)
  | string (s : Option (List Char))
  | array (items : List Tree)
  | object (members : List (Option (List Char) × Tree))
  deriving Repr, Inhabited

/-! ### Characters -/

/-- The white space of JSON. -/
def isSpace (c : Char) : Bool := c == ' ' || c == '\t' || c == '\n' || c == '\r'

/-- The text after its leading white space. -/
def skipSpace (s : List Char) : List Char := s.dropWhile isSpace

/-- The value of a digit in base 16. -/
def hexValue? (c : Char) : Option Nat :=
  if c.isDigit then some (c.toNat - '0'.toNat)
  else if 'a' ≤ c && c ≤ 'f' then some (c.toNat - 'a'.toNat + 10)
  else if 'A' ≤ c && c ≤ 'F' then some (c.toNat - 'A'.toNat + 10)
  else none

/-- Four digits in base 16 and the text after them. -/
def readHex4? : List Char → Option (Nat × List Char)
  | a :: b :: c :: d :: s => do
      let a ← hexValue? a
      let b ← hexValue? b
      let c ← hexValue? c
      let d ← hexValue? d
      some (((a * 16 + b) * 16 + c) * 16 + d, s)
  | _ => none

/-- A character that is written with one letter behind a backslash. -/
def simpleEscape? (c : Char) : Option Char :=
  if c == '"' || c == '\\' || c == '/' then some c
  else if c == 'b' then some '\x08'
  else if c == 'f' then some '\x0C'
  else if c == 'n' then some '\n'
  else if c == 'r' then some '\r'
  else if c == 't' then some '\t'
  else none

/-- One written unit of a string. -/
inductive StringUnit where
  /-- A character. -/
  | char (c : Char)
  /-- Sixteen bits of a character, by their number. -/
  | half (n : Nat)
  deriving DecidableEq, Repr

/-- **The units of a string up to its closing quote,** and the text after the quote. Control
characters have to be escaped. -/
def readUnits? : List Char → Option (List StringUnit × List Char)
  | [] => none
  | '"' :: s => some ([], s)
  | '\\' :: 'u' :: a :: b :: c :: d :: s => do
      let (n, _) ← readHex4? [a, b, c, d]
      let (units, rest) ← readUnits? s
      some (.half n :: units, rest)
  | '\\' :: e :: s => do
      let c ← simpleEscape? e
      let (units, rest) ← readUnits? s
      some (.char c :: units, rest)
  | c :: s =>
      if c.toNat < 0x20 || c == '\\' then none
      else do
        let (units, rest) ← readUnits? s
        some (.char c :: units, rest)

/-- **The text of a string's units.** A high half has to be followed by a low half; the two are one
character. -/
def joinUnits : List StringUnit → Option (List Char)
  | [] => some []
  | .char c :: us => (joinUnits us).map (c :: ·)
  | .half n :: us =>
      if 0xD800 ≤ n && n < 0xDC00 then
        -- A high half: ten bits of a character beyond the first 2 ^ 16.
        match us with
        | .half m :: us =>
            if 0xDC00 ≤ m && m < 0xE000 then
              (joinUnits us).map
                (Char.ofNat (0x10000 + (n - 0xD800) * 0x400 + (m - 0xDC00)) :: ·)
            else none
        | _ => none
      else if 0xDC00 ≤ n && n < 0xE000 then none
      else (joinUnits us).map (Char.ofNat n :: ·)

/-! ### Numbers -/

/-- The digits before the point: a zero alone, or a run that does not start with zero. -/
def readWhole? (s : List Char) : Option (List Char × List Char) :=
  match s.takeWhile Char.isDigit, s.dropWhile Char.isDigit with
  | [], _ => none
  | ['0'], rest => some (['0'], rest)
  | '0' :: _, _ => none
  | digits, rest => some (digits, rest)

/-- The digits after a point, if there is one. -/
def readFraction? : List Char → Option (Option (List Char) × List Char)
  | '.' :: s =>
      match s.takeWhile Char.isDigit with
      | [] => none
      | digits => some (some digits, s.dropWhile Char.isDigit)
  | s => some (none, s)

/-- The exponent, if there is one. -/
def readExponent? : List Char → Option (Option (Bool × List Char) × List Char)
  | c :: s =>
      if c == 'e' || c == 'E' then
        let (neg, s) := match s with
          | '-' :: s => (true, s)
          | '+' :: s => (false, s)
          | s => (false, s)
        match s.takeWhile Char.isDigit with
        | [] => none
        | digits => some (some (neg, digits), s.dropWhile Char.isDigit)
      else some (none, c :: s)
  | [] => some (none, [])

/-- A number without its sign. -/
def readNumber? (negative : Bool) (s : List Char) : Option (NumberText × List Char) := do
  let (whole, s) ← readWhole? s
  let (fraction, s) ← readFraction? s
  let (exponent, s) ← readExponent? s
  some (⟨negative, whole, fraction, exponent⟩, s)

/-- The text after `word`, when `s` starts with it. -/
def readWord? (word : String) (s : List Char) : Option (List Char) :=
  if word.toList.isPrefixOf s then some (s.drop word.length) else none

/-! ### Documents -/

mutual

/-- The tree that a text starts with, and the text after it. The first argument bounds the work:
twice the length of the text is enough. -/
def Tree.read? : Nat → List Char → Option (Tree × List Char)
  | 0, _ => none
  | fuel + 1, s =>
      match skipSpace s with
      | '"' :: s => (readUnits? s).map (fun (units, s) => (.string (joinUnits units), s))
      | '[' :: s =>
          match skipSpace s with
          | ']' :: s => some (.array [], s)
          | s => (Tree.readItems? fuel s).map (fun (items, s) => (.array items, s))
      | '\x7b' :: s =>
          match skipSpace s with
          | '\x7d' :: s => some (.object [], s)
          | s => (Tree.readMembers? fuel s).map (fun (members, s) => (.object members, s))
      | '-' :: s => (readNumber? true s).map (fun (n, s) => (.number n, s))
      | 'n' :: s => (readWord? "ull" s).map (.null, ·)
      | 't' :: s => (readWord? "rue" s).map (.bool true, ·)
      | 'f' :: s => (readWord? "alse" s).map (.bool false, ·)
      | s => (readNumber? false s).map (fun (n, s) => (.number n, s))

/-- The items of an array up to its closing bracket; there is at least one. -/
def Tree.readItems? : Nat → List Char → Option (List Tree × List Char)
  | 0, _ => none
  | fuel + 1, s => do
      let (item, s) ← Tree.read? fuel s
      match skipSpace s with
      | ']' :: s => some ([item], s)
      | ',' :: s => (Tree.readItems? fuel s).map (fun (items, s) => (item :: items, s))
      | _ => none

/-- The members of an object up to its closing brace; there is at least one. -/
def Tree.readMembers? : Nat → List Char →
    Option (List (Option (List Char) × Tree) × List Char)
  | 0, _ => none
  | fuel + 1, s =>
      match skipSpace s with
      | '"' :: s => do
          let (units, s) ← readUnits? s
          match skipSpace s with
          | ':' :: s =>
              let (item, s) ← Tree.read? fuel s
              let member := (joinUnits units, item)
              match skipSpace s with
              | '\x7d' :: s => some ([member], s)
              | ',' :: s =>
                  (Tree.readMembers? fuel s).map (fun (members, s) => (member :: members, s))
              | _ => none
          | _ => none
      | _ => none

end

/-- **The tree of a document.** Nothing but white space may follow it. -/
def Tree.ofText? (s : List Char) : Option Tree :=
  match Tree.read? (2 * s.length + 2) s with
  | some (t, rest) => if (skipSpace rest).isEmpty then some t else none
  | none => none

/-! ## Values -/

/-- Add digits to a number while it stays below `2 ^ 64`; the result is the number and how many
digits were left over. -/
def absorb (n : Nat) : List Char → Nat × Nat
  | [] => (n, 0)
  | c :: s =>
      let m := 10 * n + Text.digitValue c
      if m < 0x10000000000000000 then absorb m s else (n, s.length + 1)

/-- Scale a double down by `10 ^ e` in steps that are doubles themselves. -/
def scaleDown : Nat → Double → Nat → Double
  | 0, d, _ => d
  | steps + 1, d, e =>
      if e ≤ 308 then d.overTen e
      else if d.magnitude = 0 then d
      else scaleDown steps (d.overTen 308) (e - 308)

/-- **The double of a significand and a power of ten:** the double nearest to the significand, then
one multiplication or division. A number beyond the doubles is none. -/
def ofParts? (significand : Nat) (exponent : Int) : Option Double :=
  let d := Double.ofInt significand
  if exponent < 0 then some (scaleDown 8 d (-exponent).toNat)
  else if exponent ≤ 308 then
    let d := d.timesTen exponent.toNat
    if d.isFinite then some d else none
  else if significand = 0 then some d
  else none

/-- **The number that digits denote.** Digits without point and exponent are an integer when they
fit a word of 64 bits; a negative zero and all else are doubles. Digits that would carry the
significand past 64 bits count as zeros before the point and as nothing after it. -/
def NumberText.value? (x : NumberText) : Option Number :=
  let signed (d : Double) : Double := if x.negative then d.neg else d
  let (significand, left) := absorb 0 x.whole
  match x.fraction, x.exponent with
  | none, none =>
      if left = 0 && !x.negative then some (.integer significand)
      else if left = 0 && significand ≠ 0 && significand ≤ 0x8000000000000000 then
        some (.integer (-(significand : Int)))
      else (ofParts? significand left).map (fun d => .real (signed d))
  | fraction, exponent =>
      let digits := fraction.getD []
      -- A fraction may still add digits behind a whole part that had too many.
      let (significand, unused) := absorb significand digits
      let shift : Int := (left : Int) - (digits.length - unused : Nat)
      match exponent with
      | none => (ofParts? significand shift).map (fun d => .real (signed d))
      | some (down, e) =>
          let e := Text.natOfDigits 0 e
          -- Beyond 31 bits the exponent alone decides.
          if 0x80000000 ≤ e then
            if significand ≠ 0 && !down then none else some (.real (signed ⟨0⟩))
          else
            (ofParts? significand (if down then shift - e else shift + e)).map
              (fun d => .real (signed d))

mutual

/-- **The value of a tree** that nests at most `levels` deep. In an object the last value of a key
counts. -/
def Tree.value? (levels : Nat) : Tree → Option Json
  | .null => some .null
  | .bool b => some (.bool b)
  | .number n => n.value?.map .number
  | .string s => s.map (fun s => .string (String.ofList s))
  | .array items =>
      if levels = 0 then none else (Tree.values? (levels - 1) items).map .array
  | .object members =>
      if levels = 0 then none else (Tree.members? (levels - 1) [] members).map .object

/-- The values of several trees. -/
def Tree.values? (levels : Nat) : List Tree → Option (List Json)
  | [] => some []
  | t :: ts => do
      let v ← Tree.value? levels t
      let vs ← Tree.values? levels ts
      some (v :: vs)

/-- The members of an object, set one after the other. -/
def Tree.members? (levels : Nat) (done : List (String × Json)) :
    List (Option (List Char) × Tree) → Option (List (String × Json))
  | [] => some done
  | (key, t) :: rest => do
      let key ← key
      let v ← Tree.value? levels t
      Tree.members? levels (Keyed.insert (String.ofList key) v done) rest

end

/-- How deep a document may nest. -/
def maxLevels : Nat := 127

/-- **The value of a document.** -/
def read? (s : List Char) : Option Json := (Tree.ofText? s).bind (Tree.value? maxLevels)

/-- The reason given for a text that is no document of the form wanted. -/
def unreadable : String := "<json error>"

end SeriesBridge.Json
