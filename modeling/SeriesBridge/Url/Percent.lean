import SeriesBridge.Text.Integer
import SeriesBridge.Text.Utf8

/-! # Percent-encoding

Bytes that an address cannot hold as they are stand in it as a percent sign and two digits of
base 16.

* **`escape keep bs`** — the text of `bs`, with every byte that `keep` refuses escaped.
* **`unescape bs`** — the bytes that escaped bytes stand for.
* **`encodeForm s`**, **`decodeForm s`** — the form that names and values take in a query, where a
  plus sign stands for a space.
* **`readForm s`** — the names and values of a query. -/

namespace SeriesBridge.Url

/-! ## Escaping -/

/-- A byte as a percent sign and two digits. -/
def escapeByte (b : UInt8) : List Char :=
  '%' :: Text.upper (Text.showHex 2 b.toNat)

/-- **The text of bytes.** A byte that is kept has to be ASCII. -/
def escape (keep : UInt8 → Bool) (bs : List UInt8) : List Char :=
  bs.flatMap (fun b => if keep b then [Char.ofNat b.toNat] else escapeByte b)

/-- The value of a byte that is a digit of base 16 in ASCII. -/
def hexDigit? (b : UInt8) : Option UInt8 :=
  if 0x30 ≤ b && b ≤ 0x39 then some (b - 0x30)
  else if 0x41 ≤ b && b ≤ 0x46 then some (b - 0x41 + 10)
  else if 0x61 ≤ b && b ≤ 0x66 then some (b - 0x61 + 10)
  else none

/-- **The bytes that escaped bytes stand for.** A percent sign without two digits behind it stands
for itself. -/
def unescape : List UInt8 → List UInt8
  | 0x25 :: a :: b :: rest =>
      match hexDigit? a, hexDigit? b with
      | some x, some y => (x * 16 + y) :: unescape rest
      | _, _ => 0x25 :: unescape (a :: b :: rest)
  | b :: rest => b :: unescape rest
  | [] => []

/-! ## Forms -/

/-- The bytes that a form keeps: letters, digits and four marks. -/
def keptByForm (b : UInt8) : Bool :=
  (0x30 ≤ b && b ≤ 0x39) || (0x41 ≤ b && b ≤ 0x5A) || (0x61 ≤ b && b ≤ 0x7A) ||
    b == 0x2A || b == 0x2D || b == 0x2E || b == 0x5F

/-- A text as a form holds it; a space is a plus sign. -/
def encodeForm (s : List Char) : List Char :=
  (Text.Utf8.encode s).flatMap (fun b => if b == 0x20 then ['+'] else escape keptByForm [b])

/-- **The text that a part of a form stands for.** Bytes that are no UTF-8 are shown as the
replacement character. -/
def decodeForm (s : List Char) : List Char :=
  Text.Utf8.decodeLossy
    (unescape ((Text.Utf8.encode s).map (fun b => if b == 0x2B then 0x20 else b)))

/-- A name and its value; a part without an equals sign is a name without a value. -/
def readFormPair (s : List Char) : List Char × List Char :=
  match Text.splitFirst ['='] s with
  | some (name, value) => (decodeForm name, decodeForm value)
  | none => (decodeForm s, [])

/-- **The names and values of a query,** in order. -/
def readForm (s : List Char) : List (List Char × List Char) :=
  ((Text.pieces (· == '&') s).filter (fun part => !part.isEmpty)).map readFormPair

end SeriesBridge.Url
