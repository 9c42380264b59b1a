import SeriesBridge.Text.Integer

/-! # Tables of characters

Sets of characters and maps between characters, as ranges of their numbers. The tables of a
character property have up to two thousand ranges, so a table is written as text, one word for each
range, with all numbers in base 16:

* `61` and `61-7A` are one character and the characters from the first to the last;
* `100-12E/2` is every second character of a range;
* `A>B` maps each character of the range `A` to the numbers `B`, which have a plus sign between
  them and move along with the character;
* `A=B` maps all characters of the range `A` to the same numbers `B`.

Main definitions:

* **`CharTable.ofText s`** — the table of a text.
* **`t.holds c`** — whether a range of the table has the character.
* **`t.number? c`** and **`t.chars? c`** — what the table maps the character to, as a number and as
  characters.
* **`t.source? ns`** — the character that is mapped to the given numbers. -/

namespace SeriesBridge.Text

/-- A range of characters, and the numbers that it maps them to. -/
structure CharRange where
  first : Nat
  last : Nat
  step : Nat := 1
  /-- Whether the numbers move along with the character. -/
  moving : Bool := false
  numbers : List Nat := []
  deriving DecidableEq, Repr

namespace CharRange

/-- Whether a range has the character with the number `n`. -/
def holds (r : CharRange) (n : Nat) : Bool :=
  r.first ≤ n && n ≤ r.last && (n - r.first) % r.step == 0

/-- The numbers for the character with the number `n`. -/
def image (r : CharRange) (n : Nat) : List Nat :=
  if r.moving then r.numbers.map (· + (n - r.first)) else r.numbers

/-! ## Reading -/

/-- A number in base 16. -/
def readNumber? (s : List Char) : Option Nat :=
  if s.isEmpty || !s.all (isDigitIn 16) then none else some (numberIn 16 s)

/-- The first character, the last character and the step of a range. -/
def readBounds? (s : List Char) : Option CharRange := do
  let (bounds, step) ← match splitFirst ['/'] s with
    | none => some (s, 1)
    | some (bounds, step) => (readNumber? step).map (fun step => (bounds, step))
  let (first, last) := (splitFirst ['-'] bounds).getD (bounds, bounds)
  some { first := ← readNumber? first, last := ← readNumber? last, step := step }

/-- A range with the numbers that it maps to. -/
def withNumbers? (moving : Bool) (bounds numbers : List Char) : Option CharRange := do
  let range ← readBounds? bounds
  let numbers ← (pieces (· == '+') numbers).mapM readNumber?
  some { range with moving := moving, numbers := numbers }

/-- The range of a word. -/
def ofWord? (w : List Char) : Option CharRange :=
  match splitFirst ['>'] w, splitFirst ['='] w with
  | some (bounds, numbers), _ => withNumbers? true bounds numbers
  | none, some (bounds, numbers) => withNumbers? false bounds numbers
  | none, none => readBounds? w

end CharRange

/-- A table of characters: the first range that has a character decides. -/
abbrev CharTable := List CharRange

namespace CharTable

/-- **The table of a text.** A word that is no range stands for none. -/
def ofText (s : String) : CharTable := (words s.toList).filterMap CharRange.ofWord?

/-- Whether a table has a character. -/
def holds (t : CharTable) (c : Char) : Bool := t.any (·.holds c.toNat)

/-- The numbers that a table maps a character to. -/
def numbers? (t : CharTable) (c : Char) : Option (List Nat) :=
  (t.find? (·.holds c.toNat)).map (·.image c.toNat)

/-- The first number that a table maps a character to. -/
def number? (t : CharTable) (c : Char) : Option Nat := (t.numbers? c).bind List.head?

/-- The characters that a table maps a character to. -/
def chars? (t : CharTable) (c : Char) : Option (List Char) :=
  (t.numbers? c).map (·.map Char.ofNat)

/-- The first character of the range that is written with the given numbers. -/
def source? (t : CharTable) (numbers : List Nat) : Option Char :=
  (t.find? (·.numbers == numbers)).map (fun r => Char.ofNat r.first)

/-- Capitals have their small letters at a fixed distance. -/
example : (ofText "41-5A>61").chars? 'Q' = some ['q'] := by decide +kernel

/-- Of pairs that stand side by side every second letter is a capital. -/
example : ((ofText "100-12E/2>101").chars? 'Ă', (ofText "100-12E/2>101").chars? 'ă') =
    (some ['ă'], none) := by decide +kernel

/-- All fractions of a range may share a numerator. -/
example : (ofText "2153-215F=31+2044").chars? '⅓' = some ['1', '⁄'] := by decide +kernel

end CharTable

end SeriesBridge.Text
