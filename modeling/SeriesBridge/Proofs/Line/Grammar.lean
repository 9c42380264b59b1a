import SeriesBridge.Line.Encode
import SeriesBridge.Line.Token
import SeriesBridge.Proofs.Number.Numeral

/-! # The grammar of lines

What a line is, character by character, without the tokens that it is read by. Each relation pairs a
text with what it stands for, so a derivation of a line spells a point.

* **`Line.Escaped plain s w`** — `s` is the text `w` with backslashes in it.
* **`Line.Name`**, **`Line.Blanks`** — names and what stands between the sections of a line.
* **`Line.Scalar`**, **`Line.ValueText`** — unquoted values by their marks, and all values.
* **`Line.PairText`**, **`Line.PairsText`**, **`Line.TimeText`** — the sections.
* **`Line.LineText precision s p`** — the line `s` spells the point `p`. -/

namespace SeriesBridge.Line

/-! ## Characters -/

/-- A character is plain when it neither separates the parts of a line nor breaks it. -/
def isPlain (c : Char) : Bool := !isSeparator c && !isBreak c

/-- A character that stands for itself between quotes. -/
def isInner (c : Char) : Bool := !(c == '"' || c == '\\') && !isBreak c

/-! ## Names -/

/-- **A text with backslashes:** a plain character stands for itself, and behind a backslash any
character does. -/
inductive Escaped (plain : Char → Bool) : List Char → List Char → Prop
  | nil : Escaped plain [] []
  | plain {c : Char} {s w : List Char} (hc : plain c = true) (rest : Escaped plain s w) :
      Escaped plain (c :: s) (c :: w)
  | behind {c : Char} {s w : List Char} (rest : Escaped plain s w) :
      Escaped plain ('\\' :: c :: s) (c :: w)

/-- **A name:** one unit or more. -/
structure Name (s w : List Char) : Prop where
  units : Escaped isPlain s w
  ne_nil : s ≠ []

/-- **Blanks:** one space or tab or more. -/
structure Blanks (s : List Char) : Prop where
  gaps : ∀ c ∈ s, isGap c = true
  ne_nil : s ≠ []

/-! ## Values -/

/-- The words for a truth value. -/
def truthWords : Bool → List String
  | true => ["true", "True", "TRUE", "t", "T"]
  | false => ["false", "False", "FALSE", "f", "F"]

/-- **An unquoted value,** by the mark behind it: an integer that fits a word, a decimal whose nearest
double is finite, or a truth value. -/
inductive Scalar : List Char → Value → Prop
  | int {digits : List Char} {n : Int64} (hn : Text.Numeral digits n.toInt) :
      Scalar (digits ++ ['i', '6', '4']) (.int n)
  | float {digits : List Char} {neg : Bool} {x : Decimal} (hx : Decimal.Numeral digits neg x)
      (hfinite : (x.toDouble neg).isFinite = true) :
      Scalar (digits ++ ['f', '6', '4']) (.float (x.toDouble neg))
  | bool {w : String} {b : Bool} (hw : w ∈ truthWords b) : Scalar w.toList (.bool b)

/-- **A value:** a name that reads as an unquoted value, or a quoted text directly behind a name that
reads as the mark `L`. -/
inductive ValueText : List Char → Value → Prop
  | scalar {s w : List Char} {v : Value} (hs : Name s w) (hv : Scalar w v) : ValueText s v
  | text {mark s t : List Char} (hmark : Name mark ['L']) (hs : Escaped isInner s t) :
      ValueText (mark ++ '"' :: (s ++ ['"'])) (.text (String.ofList t))

/-! ## Sections -/

/-- **A pair:** a key, an equals sign and a value. -/
inductive PairText : List Char → Pair → Prop
  | mk {k key s : List Char} {v : Value} (hkey : Name k key) (hv : ValueText s v) :
      PairText (k ++ '=' :: s) (String.ofList key, v)

/-- **Pairs, each behind a comma.** -/
inductive PairsText : List Char → List Pair → Prop
  | nil : PairsText [] []
  | cons {s t : List Char} {q : Pair} {qs : List Pair} (first : PairText s q)
      (rest : PairsText t qs) : PairsText (',' :: (s ++ t)) (q :: qs)

/-- **An optional timestamp** behind blanks. -/
inductive TimeText : List Char → Option Int64 → Prop
  | none : TimeText [] none
  | some {g s w : List Char} {t : Int64} (hg : Blanks g) (hs : Name s w)
      (ht : Text.Numeral w t.toInt) : TimeText (g ++ s) (some t)

/-- **A line:** a name, tags, blanks, fields and an optional timestamp, no key twice among the tags and
none among the fields. The unit of the timestamp is the one given; without a timestamp there is
none. -/
inductive LineText (precision : Option Precision) : List Char → Point → Prop
  | mk {n name u g f m k : List Char} {tags more : List Pair} {first : Pair} {time : Option Int64}
      (hname : Name n name) (htags : PairsText u tags) (hgap : Blanks g)
      (hfirst : PairText f first) (hmore : PairsText m more) (htime : TimeText k time)
      (htagKeys : (tags.map Prod.fst).Nodup) (hfieldKeys : ((first :: more).map Prod.fst).Nodup) :
      LineText precision (n ++ (u ++ (g ++ (f ++ (m ++ k)))))
        { measurement := String.ofList name, tags, fields := first :: more, timestamp := time,
          precision := if time.isSome then precision else none }

end SeriesBridge.Line
