import SeriesBridge.Text.Integer
import SeriesBridge.Text.Printable

/-! # Escaped text

How a text is shown so that every character of it can be told: quotes, backslashes and the usual
controls are written with a backslash, characters without a visible form by their number.

* **`escaped s`** — `s` as it is shown inside an error message.
* **`quoted s`** — `s` between double quotes, as it is shown inside a value. -/

namespace SeriesBridge.Text

/-- **What is escaped beyond the common cases.** -/
structure EscapeStyle where
  /-- Whether a single quote takes a backslash. -/
  singleQuote : Bool
  /-- Whether a character that joins the one before it is written by its number. -/
  extending : Bool

/-- A character by its number in base 16. -/
def byNumber (c : Char) : List Char :=
  ['\\', 'u', '\x7b'] ++ showHex 1 c.toNat ++ ['\x7d']

/-- One character, escaped. -/
def escapeChar (style : EscapeStyle) (c : Char) : List Char :=
  if c == '\x00' then ['\\', '0']
  else if c == '\t' then ['\\', 't']
  else if c == '\r' then ['\\', 'r']
  else if c == '\n' then ['\\', 'n']
  else if c == '\\' then ['\\', '\\']
  else if c == '"' then ['\\', '"']
  else if c == '\'' then if style.singleQuote then ['\\', '\''] else [c]
  else if style.extending && isExtending c then byNumber c
  else if isPrintable c then [c]
  else byNumber c

/-- **The text of an error message.** Both quotes are escaped; a joining character is written by
its number only at the start, where it has nothing to join. -/
def escaped : List Char → List Char
  | [] => []
  | c :: s => escapeChar ⟨true, true⟩ c ++ s.flatMap (escapeChar ⟨true, false⟩)

/-- **A text as a value,** between double quotes; single quotes stay, joining characters are
written by their number. -/
def quoted (s : List Char) : List Char :=
  '"' :: s.flatMap (escapeChar ⟨false, true⟩) ++ ['"']

end SeriesBridge.Text
