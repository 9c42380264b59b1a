import SeriesBridge.Precision
import SeriesBridge.Text.Integer
import SeriesBridge.Time.Civil

/-! # Instants and their text

* **`Instant`** — whole seconds since 1970, rounded down, and nanoseconds above them; within a leap
  second the nanoseconds go on past one second.
* **`Instant.readRfc3339? s`** — an instant with its offset from UTC, as in
  `2021-07-11T12:33:53.639+08:00`.
* **`Instant.readPlain? s`** — an instant in UTC, as in `2021-07-11 12:33:53.639`.
* **`Instant.count? p t`** — an instant as an integer in the unit `p`. -/

namespace SeriesBridge

/-- **An instant.** Seconds since the start of 1970 in UTC, rounded down, and the nanoseconds above
them, fewer than a second of them but in a leap second, where there are fewer than two. -/
structure Instant where
  seconds : Int
  nanos : Nat
  deriving DecidableEq, Repr

namespace Instant

/-! ## Units -/

/-- Nanoseconds since the start of 1970; a leap second counts as the second after it. -/
def inNanos (t : Instant) : Int := t.seconds * 1000000000 + t.nanos

/-- The whole units of `p` since the start of 1970, rounded down. -/
def inUnits (p : Precision) (t : Instant) : Int :=
  t.seconds * (1000 * p.perMilli) + t.nanos / p.nanosPerUnit

/-- **The instant as a word,** when it fits. -/
def count? (p : Precision) (t : Instant) : Option Int64 :=
  if Text.fitsInt64 (t.inUnits p) then some (Int64.ofInt (t.inUnits p)) else none

/-- The instant of a date and a time of day, that many seconds ahead of UTC. A second of 60 is a
leap second. -/
def ofFields? (year : Int) (month day hour minute second nanos : Nat) (ahead : Int) :
    Option Instant :=
  if Time.isDate year month day && hour ≤ 23 && minute ≤ 59 && second ≤ 60 then
    -- A leap second is the second before it, with more than a second of nanoseconds.
    let (second, nanos) := if second = 60 then (59, nanos + 1000000000) else (second, nanos)
    let clock : Int := (hour * 60 + minute) * 60 + second
    some ⟨Time.daysFromEpoch year month day * 86400 + clock - ahead, nanos⟩
  else none

/-! ## Fields -/

/-- The number that the first digits of `s` denote, at least `least` of them and at most `most`,
and the text after them. -/
def readDigits? (least most : Nat) (s : List Char) : Option (Nat × List Char) :=
  let digits := (s.take most).takeWhile Char.isDigit
  if digits.length < least then none
  else some (Text.natOfDigits 0 digits, s.drop digits.length)

/-- The text after the character `c`, when it comes first. -/
def skipChar? (c : Char) : List Char → Option (List Char)
  | d :: s => if d == c then some s else none
  | [] => none

/-- **A fraction of a second in nanoseconds,** when a point comes first: at least one digit, of
which nine count. -/
def readFraction? : List Char → Option (Nat × List Char)
  | '.' :: s =>
      let digits := s.takeWhile Char.isDigit
      let counted := digits.take 9
      if digits.isEmpty then none
      else
        let nanos := Text.natOfDigits 0 counted * Nat.pow 10 (9 - counted.length)
        some (nanos, s.dropWhile Char.isDigit)
  | s => some (0, s)

/-! ## With an offset -/

/-- The offset from UTC in seconds: `Z`, or a sign, two digits of hours, a colon and two digits of
minutes. The sign may be the minus sign of mathematics. -/
def readOffset? : List Char → Option (Int × List Char)
  | [] => none
  | c :: s =>
      if c == 'Z' || c == 'z' then some (0, s)
      else if c == '+' || c == '-' || c == '−' then do
        let (hours, s) ← readDigits? 2 2 s
        let s ← skipChar? ':' s
        let (minutes, s) ← readDigits? 2 2 s
        if 59 < minutes || 23 < hours then none
        else
          let seconds : Int := (hours * 60 + minutes) * 60
          some (if c == '+' then seconds else -seconds, s)
      else none

/-- **An instant with its offset.** Every field has its full width; date and time are parted by
`T`, `t` or a space. -/
def readRfc3339? (s : List Char) : Option Instant := do
  let (year, s) ← readDigits? 4 4 s
  let s ← skipChar? '-' s
  let (month, s) ← readDigits? 2 2 s
  let s ← skipChar? '-' s
  let (day, s) ← readDigits? 2 2 s
  let s ← match s with
    | c :: s => if c == 'T' || c == 't' || c == ' ' then some s else none
    | [] => none
  let (hour, s) ← readDigits? 2 2 s
  let s ← skipChar? ':' s
  let (minute, s) ← readDigits? 2 2 s
  let s ← skipChar? ':' s
  let (second, s) ← readDigits? 2 2 s
  let (nanos, s) ← readFraction? s
  let (ahead, s) ← readOffset? s
  if s.isEmpty then ofFields? year month day hour minute second nanos ahead else none

/-! ## In UTC -/

/-- The text after its leading blanks. -/
def skipBlanks (s : List Char) : List Char := s.dropWhile Text.isBlank

/-- A number of one or two digits after any blanks. -/
def readField? (s : List Char) : Option (Nat × List Char) := readDigits? 1 2 (skipBlanks s)

/-- A year after any blanks: up to four digits, or a sign and any number of digits. -/
def readYear? (s : List Char) : Option (Int × List Char) :=
  match skipBlanks s with
  | '-' :: s => (readDigits? 1 s.length s).map (fun (y, s) => (-(y : Int), s))
  | '+' :: s => (readDigits? 1 s.length s).map (fun (y, s) => ((y : Int), s))
  | s => (readDigits? 1 4 s).map (fun (y, s) => ((y : Int), s))

/-- The years that dates in UTC may have. -/
def isYear (year : Int) : Bool := -262143 ≤ year && year ≤ 262142

/-- **An instant in UTC.** Fields may have one digit and blanks before them. -/
def readPlain? (s : List Char) : Option Instant := do
  let (year, s) ← readYear? s
  let s ← skipChar? '-' s
  let (month, s) ← readField? s
  let s ← skipChar? '-' s
  let (day, s) ← readField? s
  let (hour, s) ← readField? s
  let s ← skipChar? ':' s
  let (minute, s) ← readField? s
  let s ← skipChar? ':' s
  let (second, s) ← readField? s
  let (nanos, s) ← readFraction? s
  if s.isEmpty && isYear year then ofFields? year month day hour minute second nanos 0 else none

end Instant

end SeriesBridge
