import SeriesBridge.Text.Utf8

/-! # Base 64

Bytes as text: three bytes make four of sixty-four digits, and the last group is filled up with
equals signs.

* **`encode bs`** — the text of bytes. -/

namespace SeriesBridge.Text.Base64

/-- The digits in order. -/
def digits : List Char :=
  "ABCDEFGHIJKLMNOPQRSTUVWXYZabcdefghijklmnopqrstuvwxyz0123456789+/".toList

/-- The digit of a value below sixty-four. -/
def digit (n : Nat) : Char := digits.getD n '='

/-- The four digits of twenty-four bits, of which the last ones may be missing. -/
def group (bits kept : Nat) : List Char :=
  ([digit (bits >>> 18), digit (bits >>> 12 % 64), digit (bits >>> 6 % 64),
    digit (bits % 64)].take kept) ++ List.replicate (4 - kept) '='

/-- **The text of bytes.** -/
def encode : List UInt8 → List Char
  | a :: b :: c :: rest => group (a.toNat <<< 16 + b.toNat <<< 8 + c.toNat) 4 ++ encode rest
  | [a, b] => group (a.toNat <<< 16 + b.toNat <<< 8) 3
  | [a] => group (a.toNat <<< 16) 2
  | [] => []

/-- A user and a password. -/
example : encode (Utf8.ofString "root:taosdata") = "cm9vdDp0YW9zZGF0YQ==".toList := by
  decide +kernel

end SeriesBridge.Text.Base64
