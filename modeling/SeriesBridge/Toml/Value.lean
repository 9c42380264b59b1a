import SeriesBridge.Number.Decimal
import SeriesBridge.Time.Civil

/-! # TOML values

* **`Toml`** — a value of a settings document.
* **`Toml.readNumber? s`** — the integer or double that a text starts with.
* **`Toml.readTime? s`** — the date, time of day, or both, that a text starts with.
* **`Toml.readText? s`** — the string that a text starts with. -/

namespace SeriesBridge

/-- **A value of a settings document.** Dates and times are kept as they are written. -/
inductive Toml where
  | text (s : String)
  | integer (n : Int)
  | float (d : Double)
  | boolean (b : Bool)
  | time (written : String)
  | array (items : List Toml)
  | table (members : List (String × Toml))
  deriving Repr, Inhabited

namespace Toml

/-! ## Characters -/

/-- Space and tab. -/
def isSpace (c : Char) : Bool := c == ' ' || c == '\t'

/-- The text after its leading spaces and tabs. -/
def skipSpace (s : List Char) : List Char := s.dropWhile isSpace

/-- Characters that may stand in comments and strings: all but controls, and the tab. -/
def isPlain (c : Char) : Bool := c == '\t' || (0x20 ≤ c.toNat && c.toNat ≠ 0x7F)

/-- The text after a line break, when it starts with one. -/
def skipBreak? : List Char → Option (List Char)
  | '\n' :: s => some s
  | '\r' :: '\n' :: s => some s
  | _ => none

/-! ## Numbers -/

/-- A run of digits, with single underscores between them left out. -/
def digitRun (isDigit : Char → Bool) : List Char → Option (List Char × List Char)
  | [] => some ([], [])
  | ['_'] => none
  | '_' :: c :: s =>
      if isDigit c then (digitRun isDigit s).map (fun (ds, rest) => (c :: ds, rest)) else none
  | c :: s =>
      if isDigit c then (digitRun isDigit s).map (fun (ds, rest) => (c :: ds, rest))
      else some ([], c :: s)

/-- A run of digits that starts with one. -/
def digits? (isDigit : Char → Bool) (s : List Char) : Option (List Char × List Char) :=
  match s with
  | c :: _ => if isDigit c then digitRun isDigit s else none
  | [] => none

/-- The digits of a decimal integer; a zero stands alone. -/
def wholeDigits? : List Char → Option (List Char × List Char)
  | '0' :: s => some (['0'], s)
  | s => digits? Char.isDigit s

/-- An integer in a base other than ten. -/
def readInBase? (base : Nat) (s : List Char) : Option (Toml × List Char) := do
  let (ds, rest) ← digits? (Text.isDigitIn base) s
  let n := Text.numberIn base ds
  if n < 0x8000000000000000 then some (.integer n, rest) else none

/-- The digits of an exponent with its sign, and the text behind it, when there is one. -/
def exponentPart? (s : List Char) : Option (List Char × List Char) :=
  match s with
  | c :: r =>
      if c == 'e' || c == 'E' then
        let (sign, r) := match r with
          | '-' :: r => (['-'], r)
          | '+' :: r => ([], r)
          | r => ([], r)
        (digits? Char.isDigit r).map (fun (ds, rest) => ('e' :: sign ++ ds, rest))
      else some ([], s)
  | [] => some ([], [])

/-- The digits behind a point, and the text behind them, when there are any. -/
def fractionPart? : List Char → Option (List Char × List Char)
  | '.' :: s => (digits? Char.isDigit s).map (fun (ds, rest) => ('.' :: ds, rest))
  | s => some ([], s)

/-- **A decimal number** behind its sign: an integer that fits a word of 64 bits, or, with a point
or an exponent, a double that is not beyond the largest one. -/
def readDecimal? (negative : Bool) (s : List Char) : Option (Toml × List Char) := do
  let (whole, s) ← wholeDigits? s
  let (fraction, s) ← fractionPart? s
  let (exponent, s) ← exponentPart? s
  let sign := if negative then ['-'] else []
  if fraction.isEmpty && exponent.isEmpty then
    let n ← Text.readInt? (sign ++ whole)
    if Text.fitsInt64 n then some (.integer n, s) else none
  else
    let d ← Double.read? (sign ++ whole ++ fraction ++ exponent)
    -- A number above the doubles is refused, one below them is negative infinity.
    if d.isFinite || negative then some (.float d, s) else none

/-- The text after `word`, when `s` starts with it. -/
def skipWord? (word : String) (s : List Char) : Option (List Char) :=
  if word.toList.isPrefixOf s then some (s.drop word.length) else none

/-- An infinity, or no number, behind a sign. -/
def readSpecial? (negative : Bool) (s : List Char) : Option (Toml × List Char) :=
  match skipWord? "inf" s with
  | some s => some (.float (.ofParts negative Double.infinityBits), s)
  | none =>
      (skipWord? "nan" s).map (fun s =>
        (.float (.ofParts negative (Double.infinityBits + 0x8000000000000)), s))

/-- The number that a text starts with. -/
def readNumber? (s : List Char) : Option (Toml × List Char) :=
  match s with
  | '0' :: 'x' :: s => readInBase? 16 s
  | '0' :: 'o' :: s => readInBase? 8 s
  | '0' :: 'b' :: s => readInBase? 2 s
  | '-' :: s => (readSpecial? true s).or (readDecimal? true s)
  | '+' :: s => (readSpecial? false s).or (readDecimal? false s)
  | s => (readSpecial? false s).or (readDecimal? false s)

/-! ## Dates and times -/

/-- The number of `n` digits. -/
def readFixed? (n : Nat) (s : List Char) : Option (Nat × List Char) :=
  let ds := s.take n
  if ds.length = n && ds.all Char.isDigit then some (Text.natOfDigits 0 ds, s.drop n) else none

/-- The text after a character, when it comes first. -/
def skipChar? (c : Char) : List Char → Option (List Char)
  | d :: s => if d == c then some s else none
  | [] => none

/-- The text after a date of the calendar. -/
def skipDate? (s : List Char) : Option (List Char) := do
  let (year, s) ← readFixed? 4 s
  let s ← skipChar? '-' s
  let (month, s) ← readFixed? 2 s
  let s ← skipChar? '-' s
  let (day, s) ← readFixed? 2 s
  if Time.isDate year month day then some s else none

/-- The text after a time of day. -/
def skipClock? (s : List Char) : Option (List Char) := do
  let (hour, s) ← readFixed? 2 s
  let s ← skipChar? ':' s
  let (minute, s) ← readFixed? 2 s
  let s ← skipChar? ':' s
  let (second, s) ← readFixed? 2 s
  if 23 < hour || 59 < minute || 60 < second then none
  else
    match s with
    | '.' :: r =>
        if (r.takeWhile Char.isDigit).isEmpty then none else some (r.dropWhile Char.isDigit)
    | s => some s

/-- The text after an offset from UTC. -/
def skipOffset? (s : List Char) : Option (List Char) :=
  match s with
  | 'Z' :: s | 'z' :: s => some s
  | '+' :: s | '-' :: s => do
      let (hour, s) ← readFixed? 2 s
      let s ← skipChar? ':' s
      let (minute, s) ← readFixed? 2 s
      if 23 < hour || 59 < minute then none else some s
  | _ => none

/-- The text after a time of day and perhaps an offset, behind a date. -/
def skipTail? (s : List Char) : Option (List Char) :=
  match s with
  | c :: r =>
      if c == 'T' || c == 't' || c == ' ' then
        (skipClock? r).map (fun r => (skipOffset? r).getD r)
      else none
  | [] => none

/-- The date, the time of day, or both, that a text starts with. -/
def readTime? (s : List Char) : Option (Toml × List Char) :=
  let rest? := match skipDate? s with
    | some rest => some ((skipTail? rest).getD rest)
    | none => skipClock? s
  rest?.map (fun rest => (.time (String.ofList (s.take (s.length - rest.length))), rest))

/-! ## Strings -/

/-- The character of a number in base 16, when it is one. -/
def charOf? (ds : List Char) : Option Char :=
  let n := Text.numberIn 16 ds
  if !ds.all (Text.isDigitIn 16) then none
  else if n < 0xD800 || (0xE000 ≤ n && n ≤ 0x10FFFF) then some (Char.ofNat n)
  else none

/-- A character that is written with one letter behind a backslash. -/
def simpleEscape? (c : Char) : Option Char :=
  if c == '"' || c == '\\' then some c
  else if c == 'b' then some '\x08'
  else if c == 't' then some '\t'
  else if c == 'n' then some '\n'
  else if c == 'f' then some '\x0C'
  else if c == 'r' then some '\r'
  else none

/-- Put a character in front of a text that was read. -/
def prepend? (c : Option Char) (r : Option (List Char × List Char)) :
    Option (List Char × List Char) :=
  match c, r with
  | some c, some (s, rest) => some (c :: s, rest)
  | _, _ => none

/-- The inside of a string of one line, up to its quote. -/
def readBasic? : List Char → Option (List Char × List Char)
  | [] => none
  | '"' :: s => some ([], s)
  | '\\' :: 'u' :: a :: b :: c :: d :: s => prepend? (charOf? [a, b, c, d]) (readBasic? s)
  | '\\' :: 'U' :: a :: b :: c :: d :: e :: f :: g :: h :: s =>
      prepend? (charOf? [a, b, c, d, e, f, g, h]) (readBasic? s)
  | '\\' :: e :: s => prepend? (simpleEscape? e) (readBasic? s)
  | c :: s => if isPlain c && c != '\\' then prepend? (some c) (readBasic? s) else none

/-- Whether only spaces come before a line break. -/
def endsLine (s : List Char) : Bool := (skipBreak? (skipSpace s)).isSome

/-- **The inside of a string of many lines,** up to its three quotes, of which two more may belong
to the string. A backslash at the end of a line drops all white space behind it; `dropping` is
whether that goes on. -/
def readLong? (dropping : Bool) : List Char → Option (List Char × List Char)
  | [] => none
  | '"' :: '"' :: '"' :: '"' :: '"' :: s => some (['"', '"'], s)
  | '"' :: '"' :: '"' :: '"' :: s => some (['"'], s)
  | '"' :: '"' :: '"' :: s => some ([], s)
  | '\\' :: 'u' :: a :: b :: c :: d :: s => prepend? (charOf? [a, b, c, d]) (readLong? false s)
  | '\\' :: 'U' :: a :: b :: c :: d :: e :: f :: g :: h :: s =>
      prepend? (charOf? [a, b, c, d, e, f, g, h]) (readLong? false s)
  | '\r' :: '\n' :: s =>
      if dropping then readLong? true s else prepend? (some '\n') (readLong? false s)
  | '\\' :: e :: s =>
      -- The white space behind the backslash is read again, and dropped.
      if endsLine (e :: s) then readLong? true (e :: s)
      else prepend? (simpleEscape? e) (readLong? false s)
  | c :: s =>
      if dropping && (isSpace c || c == '\n') then readLong? true s
      else if c == '\n' || (isPlain c && c != '\\') then prepend? (some c) (readLong? false s)
      else none

/-- The inside of a string of one line that is taken as it is, up to its quote. -/
def readLiteral? : List Char → Option (List Char × List Char)
  | [] => none
  | '\'' :: s => some ([], s)
  | c :: s => if isPlain c then prepend? (some c) (readLiteral? s) else none

/-- The inside of a string of many lines that is taken as it is, up to its three quotes. -/
def readLongLiteral? : List Char → Option (List Char × List Char)
  | [] => none
  | '\'' :: '\'' :: '\'' :: '\'' :: '\'' :: s => some (['\'', '\''], s)
  | '\'' :: '\'' :: '\'' :: '\'' :: s => some (['\''], s)
  | '\'' :: '\'' :: '\'' :: s => some ([], s)
  | '\r' :: '\n' :: s => prepend? (some '\n') (readLongLiteral? s)
  | c :: s =>
      if isPlain c || c == '\n' then prepend? (some c) (readLongLiteral? s) else none

/-- The text after a line break, if it starts with one. -/
def dropBreak (s : List Char) : List Char := (skipBreak? s).getD s

/-- The string that a text starts with. -/
def readText? : List Char → Option (List Char × List Char)
  | '"' :: '"' :: '"' :: s => readLong? false (dropBreak s)
  | '"' :: s => readBasic? s
  | '\'' :: '\'' :: '\'' :: s => readLongLiteral? (dropBreak s)
  | '\'' :: s => readLiteral? s
  | _ => none

end Toml

end SeriesBridge
