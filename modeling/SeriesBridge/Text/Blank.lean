/-! # White space and pieces of text

Text is taken apart as a list of characters. This module holds the white space of Unicode and of
ASCII, trimming, and the three ways a text is cut: at a separator, into words and into lines.

* **`isBlank c`** — `c` has the Unicode property `White_Space`.
* **`trim s`** — `s` without the blanks at either end.
* **`pieces sep s`** — the parts of `s` between separators, one more than there are separators.
* **`words s`** — the maximal runs of characters that are not blank.
* **`lines s`** — the lines of `s`, each without its line break. -/

namespace SeriesBridge.Text

/-! ## White space -/

/-- **Unicode white space.** The characters with the property `White_Space`; zero-width characters
and the information separators do not have it. -/
def isBlank (c : Char) : Bool :=
  let n := c.toNat
  (0x09 ≤ n && n ≤ 0x0D) || n == 0x20 || n == 0x85 || n == 0xA0 || n == 0x1680 ||
    (0x2000 ≤ n && n ≤ 0x200A) || n == 0x2028 || n == 0x2029 || n == 0x202F || n == 0x205F ||
    n == 0x3000

/-- **ASCII white space of a byte:** tab, line feed, form feed, carriage return and space. -/
def isBlankByte (b : UInt8) : Bool :=
  b == 0x09 || b == 0x0A || b == 0x0C || b == 0x0D || b == 0x20

/-! ## Trimming -/

/-- Drop the longest suffix of `s` whose members satisfy `p`. -/
def dropEndWhile {α : Type} (p : α → Bool) (s : List α) : List α :=
  (s.reverse.dropWhile p).reverse

/-- Nothing is left of the empty list. -/
@[simp] theorem dropEndWhile_nil {α : Type} (p : α → Bool) : dropEndWhile p [] = [] := rfl

/-- A last member that does not satisfy `p` protects the whole list. -/
theorem dropEndWhile_concat_of_not {α : Type} {p : α → Bool} {a : α} (s : List α)
    (h : p a = false) : dropEndWhile p (s ++ [a]) = s ++ [a] := by
  simp [dropEndWhile, h]

/-- Remove the blanks at both ends. -/
def trim (s : List Char) : List Char :=
  dropEndWhile isBlank (s.dropWhile isBlank)

/-- The empty text is trimmed already. -/
@[simp] theorem trim_nil : trim [] = [] := rfl

/-! ## Cutting at a separator -/

/-- **The parts of `s` between separators.** There is always at least one part. -/
def pieces (sep : Char → Bool) : List Char → List (List Char)
  | [] => [[]]
  | c :: s =>
      if sep c then [] :: pieces sep s
      else
        match pieces sep s with
        | [] => [[c]]
        | p :: ps => (c :: p) :: ps

/-- The empty text is one empty part. -/
@[simp] theorem pieces_nil (sep : Char → Bool) : pieces sep [] = [[]] := rfl

/-- There is always a first part. -/
theorem pieces_ne_nil (sep : Char → Bool) (s : List Char) : pieces sep s ≠ [] := by
  induction s with
  | nil => simp
  | cons c s ih =>
      unfold pieces
      split
      · simp
      · split <;> simp

/-- The words of `s`: its parts between blanks that are not empty. -/
def words (s : List Char) : List (List Char) :=
  (pieces isBlank s).filter (fun w => !w.isEmpty)

/-- The text before the first occurrence of `sep` and the text after it. -/
def splitFirst (sep : List Char) : List Char → Option (List Char × List Char)
  | [] => if sep.isEmpty then some ([], []) else none
  | c :: s =>
      if sep.isPrefixOf (c :: s) then some ([], (c :: s).drop sep.length)
      else (splitFirst sep s).map (fun (before, after) => (c :: before, after))

/-! ## Lines -/

/-- Remove one carriage return from the end. -/
def dropReturn (s : List Char) : List Char :=
  match s.getLast? with
  | some '\r' => s.dropLast
  | _ => s

/-- Drop the break of every line but the last, which has none; an empty last line is no line. -/
def closeLines : List (List Char) → List (List Char)
  | [] => []
  | [last] => if last.isEmpty then [] else [last]
  | l :: rest => dropReturn l :: closeLines rest

/-- **The lines of `s`.** A line ends at a line feed, with one carriage return before it
dropped; text after the last line feed is a line if there is any. -/
def lines (s : List Char) : List (List Char) :=
  closeLines (pieces (· == '\n') s)

/-- The empty text has no line. -/
@[simp] theorem lines_nil : lines [] = [] := rfl

/-! ## ASCII letters -/

/-- Lower case of the ASCII letters; every other character stays. -/
def lower (s : List Char) : List Char := s.map Char.toLower

/-- Upper case of the ASCII letters; every other character stays. -/
def upper (s : List Char) : List Char := s.map Char.toUpper

/-- Equality of two names up to the case of ASCII letters. -/
def sameName (a b : String) : Bool := lower a.toList == lower b.toList

/-- **Plain identifiers:** a letter or an underscore, then letters, digits and underscores. -/
def isIdentifier : List Char → Bool
  | [] => false
  | c :: s => (c.isAlpha || c == '_') && s.all (fun d => d.isAlphanum || d == '_')

/-- Letters, digits and underscores, at least one. -/
def isWordName (s : List Char) : Bool :=
  !s.isEmpty && s.all (fun c => c.isAlphanum || c == '_')

end SeriesBridge.Text
