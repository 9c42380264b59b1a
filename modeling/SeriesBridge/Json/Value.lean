import SeriesBridge.Keyed
import SeriesBridge.Number.Double

/-! # JSON values

A value of JSON. An object holds its keys in order and each key once.

* **`Json.Number`** — an integer, or a double.
* **`Json`** — a value. -/

namespace SeriesBridge

/-- A number: an integer from `-2 ^ 63` to `2 ^ 64 - 1`, or a double. -/
inductive Json.Number where
  | integer (n : Int)
  | real (d : Double)
  deriving DecidableEq, Repr, Inhabited

namespace Json.Number

/-- The number as a signed 64-bit integer, when it is one. -/
def int64? : Number → Option Int64
  | integer n => if n < 0x8000000000000000 then some (Int64.ofInt n) else none
  | real _ => none

/-- The double nearest to the number. -/
def toDouble : Number → Double
  | integer n => Double.ofInt n
  | real d => d

end Json.Number

/-- **A value of JSON.** -/
inductive Json where
  | null
  | bool (b : Bool)
  | number (n : Json.Number)
  | string (s : String)
  | array (items : List Json)
  | object (members : List (String × Json))
  deriving Repr, Inhabited

namespace Json

/-- Whether a value is `null`. -/
def isNull : Json → Bool
  | null => true
  | _ => false

/-- The text of a string. -/
def text? : Json → Option String
  | string s => some s
  | _ => none

end Json

end SeriesBridge
