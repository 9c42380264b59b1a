import SeriesBridge.Text.Normal.Class
import SeriesBridge.Text.Normal.Decomposition

/-! # The composed normal form of text

Text with marks can be written in several ways that mean the same: with letters that carry their
marks or with marks behind the letters, and marks of different classes in any order. The normal form
is one of them: letters carry their marks where such letters exist, and the marks that are left
stand in the order of their classes.

* **`orderMarks s`** — `s` with every run of marks in the order of their classes.
* **`composeMarks s`** — `s` with the letters that carry their marks.
* **`normalForm s`** — the normal form of `s`. -/

namespace SeriesBridge.Text

/-! ## The order of marks -/

/-- Put a character in its place behind others, which stand in reverse: a mark comes before the
marks of a higher class. -/
def placeMark (c : Char) : List Char → List Char
  | [] => [c]
  | d :: s =>
      if combiningClass c ≠ 0 && combiningClass c < combiningClass d then d :: placeMark c s
      else c :: d :: s

/-- **Marks in the order of their classes.** Marks of one class keep their order, and no mark moves
past a character without a class. -/
def orderMarks (s : List Char) : List Char := (s.foldl (fun done c => placeMark c done) []).reverse

/-! ## Composition -/

/-- Compose a starter, with marks behind it that it does not carry in reverse, and the text behind
them. A mark reaches the starter if no mark between them has its class or a higher one. -/
def composeFrom (starter : Char) (kept : List Char) : List Char → List Char
  | [] => starter :: kept.reverse
  | c :: s =>
      let reaches := match kept with
        | [] => true
        | d :: _ => combiningClass d < combiningClass c
      match if reaches then compose? starter c else none with
      | some composed => composeFrom composed kept s
      | none =>
          if combiningClass c = 0 then starter :: (kept.reverse ++ composeFrom c [] s)
          else composeFrom starter (c :: kept) s

/-- **Letters that carry their marks.** Marks at the start have no letter to go to. -/
def composeMarks : List Char → List Char
  | [] => []
  | c :: s => if combiningClass c = 0 then composeFrom c [] s else c :: composeMarks s

/-! ## The normal form -/

/-- **The composed normal form of a text.** Text without characters from U+0300 on is its own normal
form. -/
def normalForm (s : List Char) : List Char :=
  if s.all (fun c => c.toNat < 0x300) then s
  else composeMarks (orderMarks (s.flatMap decompose))

end SeriesBridge.Text
