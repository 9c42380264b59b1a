import SeriesBridge.Number.Double
import SeriesBridge.Text.Integer

/-! # Decimal text of doubles

Reading a decimal gives the nearest double; writing a double gives the fewest digits that read
back as the same double.

* **`Decimal`** — `digits · 10 ^ exponent`, with **`Decimal.toDouble`** its nearest double.
* **`Double.shortest tie d`** — the shortest decimal that reads back as `d`, the nearest such one.
* **`Double.positional d`** — that decimal in positional notation, whatever its length.
* **`Double.read? s`** — the double that the text of a decimal denotes. -/

namespace SeriesBridge

/-- The non-negative decimal number `digits · 10 ^ exponent`. -/
structure Decimal where
  digits : Nat
  exponent : Int
  deriving DecidableEq, Repr

namespace Decimal

/-- **The nearest double.** A decimal with digits is beyond the doubles when its exponent passes
400, and rounds to zero when it is less than `2 ^ (-1080)`; in between the quotient is exact. -/
def toDouble (neg : Bool) (x : Decimal) : Double :=
  if x.digits = 0 then .ofParts neg 0
  else if 0 ≤ x.exponent then
    if 400 < x.exponent then .ofParts neg Double.infinityBits
    else .ofRatio neg (x.digits * Nat.pow 10 x.exponent.toNat) 1
  else if (x.digits.log2 : Int) + 1 + 3 * x.exponent < -1080 then .ofParts neg 0
  else .ofRatio neg x.digits (Nat.pow 10 (-x.exponent).toNat)

/-- Move trailing zeros of the digits into the exponent, at most `n` of them. -/
def stripZeros : Nat → Decimal → Decimal
  | 0, x => x
  | n + 1, x =>
      if x.digits ≠ 0 ∧ x.digits % 10 = 0 then stripZeros n ⟨x.digits / 10, x.exponent + 1⟩ else x

end Decimal

namespace Double

/-! ## Shortest decimals -/

/-- Whether `10 ^ e ≤ num / den`. -/
def tenPowerFits (e : Int) (num den : Nat) : Bool :=
  if 0 ≤ e then den * Nat.pow 10 e.toNat ≤ num else den ≤ num * Nat.pow 10 (-e).toNat

/-- The greatest `e` with `10 ^ e ≤ num / den`, for a positive quotient: an estimate from the
binary logarithm, mended by one step either way. -/
def floorLog10 (num den : Nat) : Int :=
  -- The decimal logarithm of two is a little less than 30103 / 100000.
  let e := (floorLog2 num den * 30103) / 100000
  if !tenPowerFits e num den then e - 1
  else if tenPowerFits (e + 1) num den then e + 1
  else e

/-- Which of two decimals is taken when both are equally near. -/
inductive Tie where
  /-- The one farther from zero. -/
  | away
  /-- The one whose last digit is even. -/
  | even
  deriving DecidableEq, Repr

/-- Whether the upper neighbour of `num / den` is taken. -/
def Tie.takesAbove (tie : Tie) (num den : Nat) : Bool :=
  den < 2 * (num % den) ||
    (den = 2 * (num % den) && (tie = .away || num / den % 2 = 1))

/-- **The decimal of `n` significant digits that denotes `d`,** if there is one: one of the two
neighbours of `d` on the grid of such decimals, the nearer when both read back. -/
def onGrid (tie : Tie) (d : Double) (n : Nat) : Option Decimal :=
  let (num, den) := d.ratio
  -- Counted in this unit the magnitude has `n` digits before the point.
  let unit := floorLog10 num den - n + 1
  let (num, den) :=
    if 0 ≤ unit then (num, den * Nat.pow 10 unit.toNat) else (num * Nat.pow 10 (-unit).toNat, den)
  let below : Decimal := ⟨num / den, unit⟩
  let above : Decimal := ⟨num / den + 1, unit⟩
  let denotes (x : Decimal) := x.toDouble d.negative == d
  match denotes below, denotes above with
  | true, true => some (if tie.takesAbove num den then above else below)
  | true, false => some below
  | false, true => some above
  | false, false => none

/-- The decimal that is exactly the magnitude of `d`. -/
def exactDecimal (d : Double) : Decimal :=
  if 0 ≤ d.scale then ⟨d.mantissa <<< d.scale.toNat, 0⟩
  else ⟨d.mantissa * Nat.pow 5 (-d.scale).toNat, d.scale⟩

/-- **The shortest decimal that reads back as `d`,** the nearest to `d` of those with the fewest
digits. Seventeen digits are enough; the exact decimal stands behind them. -/
def shortest (tie : Tie) (d : Double) : Decimal :=
  if d.magnitude = 0 then ⟨0, 0⟩
  else
    (((List.range 17).findSome? (fun n => d.onGrid tie (n + 1))).getD d.exactDecimal).stripZeros 400

/-! ## Positional text -/

/-- A decimal in positional notation: zeros fill the places between the digits and the point. -/
def positionalDigits (x : Decimal) : List Char :=
  let ds := Text.showNat x.digits
  if 0 ≤ x.exponent then ds ++ List.replicate x.exponent.toNat '0'
  else
    let places := (-x.exponent).toNat
    if places < ds.length then
      ds.take (ds.length - places) ++ '.' :: ds.drop (ds.length - places)
    else ['0', '.'] ++ List.replicate (places - ds.length) '0' ++ ds

/-- **A finite double in positional notation,** with the fewest digits that read back, a minus
sign before a negative one and before negative zero. Of two decimals that are equally near the one
farther from zero is written. -/
def positional (d : Double) : List Char :=
  (if d.negative then ['-'] else []) ++ positionalDigits (d.shortest .away)

/-! ## Reading -/

/-- Split an optional sign from a text; the sign is `true` when it is a minus. -/
def splitSign : List Char → Bool × List Char
  | '-' :: s => (true, s)
  | '+' :: s => (false, s)
  | s => (false, s)

/-- The exponent part of a decimal: nothing, or `e` and an integer of ASCII digits. -/
def readExponent? : List Char → Option Int
  | [] => some 0
  | c :: s => if c == 'e' || c == 'E' then Text.readInt? s else none

/-- **The double that a decimal denotes:** an optional sign, digits with an optional point, at
least one digit in all, and an optional exponent. The nearest double, infinity when the decimal is
too large. -/
def read? (s : List Char) : Option Double :=
  let (neg, s) := splitSign s
  let whole := s.takeWhile Char.isDigit
  let rest := s.dropWhile Char.isDigit
  let (fraction, rest) :=
    match rest with
    | '.' :: r => (r.takeWhile Char.isDigit, r.dropWhile Char.isDigit)
    | _ => ([], rest)
  if whole.isEmpty && fraction.isEmpty then none
  else
    (readExponent? rest).map (fun e =>
      -- The digits of the fraction move the point to the right.
      Decimal.toDouble neg ⟨Text.natOfDigits 0 (whole ++ fraction), e - fraction.length⟩)

/-- A tenth is written with one digit. -/
example : (Decimal.toDouble false ⟨1, -1⟩).positional = "0.1".toList := by decide +kernel

/-- The least positive double has one significant digit. -/
example : (⟨1⟩ : Double).shortest .away = ⟨5, -324⟩ := by decide +kernel

/-- A double just below a power of ten may have that power as its shortest decimal. -/
example : (Decimal.toDouble true ⟨1, 23⟩).shortest .away = ⟨1, 23⟩ := by decide +kernel

end Double

end SeriesBridge
