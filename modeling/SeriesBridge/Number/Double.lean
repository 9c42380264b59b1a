/-! # Double-precision numbers

A double is its 64 bits: a sign, eleven bits of exponent and 52 bits of fraction. A finite double
has the magnitude `mantissa · 2 ^ scale`; all arithmetic here is exact, in natural numbers.

* **`Double.ofRatio neg num den`** — the double nearest to `num / den`, a tie going to the even
  mantissa, and infinity beyond the largest finite double.
* **`Double.scaleByTen d e`** — `d` times or divided by the double nearest to a power of ten.
* **`Double.ofInt n`** — the double nearest to an integer. -/

namespace SeriesBridge

/-- A double-precision number by its bits, so that equality is equality bit for bit. -/
structure Double where
  bits : UInt64
  deriving DecidableEq, Repr, Inhabited

namespace Double

/-! ## Parts -/

/-- Whether the sign bit is set. -/
def negative (d : Double) : Bool := 0x8000000000000000 ≤ d.bits.toNat

/-- All bits but the sign. -/
def magnitude (d : Double) : Nat := d.bits.toNat % 0x8000000000000000

/-- The eleven bits of the exponent. -/
def exponentField (d : Double) : Nat := d.magnitude / 0x10000000000000

/-- Neither an infinity nor a NaN. -/
def isFinite (d : Double) : Bool := d.exponentField < 2047

/-- The mantissa of a finite double, with its leading bit unless the double is subnormal. -/
def mantissa (d : Double) : Nat :=
  if d.exponentField = 0 then d.magnitude else d.magnitude % 0x10000000000000 + 0x10000000000000

/-- The power of two that the mantissa is counted in. -/
def scale (d : Double) : Int :=
  if d.exponentField = 0 then -1074 else (d.exponentField : Int) - 1075

/-- The magnitude of a finite double as a quotient. -/
def ratio (d : Double) : Nat × Nat :=
  if 0 ≤ d.scale then (d.mantissa <<< d.scale.toNat, 1)
  else (d.mantissa, 1 <<< (-d.scale).toNat)

/-- The double of a sign and the other bits. -/
def ofParts (neg : Bool) (magnitude : Nat) : Double :=
  ⟨UInt64.ofNat (if neg then magnitude + 0x8000000000000000 else magnitude)⟩

/-- The same magnitude with the other sign. -/
def neg (d : Double) : Double := ofParts (!d.negative) d.magnitude

/-! ## Rounding -/

/-- The quotient of `num` and `den` to the nearest integer, a tie going to the even one. -/
def roundHalfEven (num den : Nat) : Nat :=
  let q := num / den
  let twice := 2 * (num % den)
  if twice < den then q
  else if den < twice then q + 1
  else if q % 2 = 0 then q else q + 1

/-- The greatest `e` with `2 ^ e ≤ num / den`, for positive `num` and `den`. -/
def floorLog2 (num den : Nat) : Int :=
  let e : Int := (num.log2 : Int) - den.log2
  let fits := if 0 ≤ e then den <<< e.toNat ≤ num else den ≤ num <<< (-e).toNat
  if fits then e else e - 1

/-- The bits of infinity without the sign. -/
def infinityBits : Nat := 2047 * 0x10000000000000

/-- **The magnitude nearest to a quotient.** The mantissa is the quotient counted in units of
`2 ^ scale` and rounded; as a mantissa that rounds up to `2 ^ 53` carries into the exponent, sum
and carry are one addition. -/
def nearest (num den : Nat) : Nat :=
  if num = 0 then 0
  else
    -- With this scale the quotient has 53 bits before the point, or fewer when it is subnormal.
    let scale := max (floorLog2 num den - 52) (-1074)
    let m :=
      if 0 ≤ scale then roundHalfEven num (den <<< scale.toNat)
      else roundHalfEven (num <<< (-scale).toNat) den
    -- The leading bit of the mantissa adds one to the exponent, which is counted from one less.
    min ((scale + 1074).toNat * 0x10000000000000 + m) infinityBits

/-- The double nearest to `num / den` with the given sign. -/
def ofRatio (neg : Bool) (num den : Nat) : Double := ofParts neg (nearest num den)

/-- The double nearest to an integer. -/
def ofInt (n : Int) : Double := ofRatio (n < 0) n.natAbs 1

/-! ## Powers of ten -/

/-- Multiply a finite double by `10 ^ e`, itself a double, and round once more. -/
def timesTen (d : Double) (e : Nat) : Double :=
  let (a, b) := d.ratio
  let (p, q) := (ofRatio false (Nat.pow 10 e) 1).ratio
  ofRatio d.negative (a * p) (b * q)

/-- Divide a finite double by `10 ^ e`, itself a double, and round once more. -/
def overTen (d : Double) (e : Nat) : Double :=
  let (a, b) := d.ratio
  let (p, q) := (ofRatio false (Nat.pow 10 e) 1).ratio
  ofRatio d.negative (a * q) (b * p)

/-- One is exponent 1023 and no fraction. -/
example : (ofInt 1).bits = 0x3FF0000000000000 := by decide +kernel

/-- The least positive double has the magnitude `2 ^ (-1074)`. -/
example : ofRatio false 1 (1 <<< 1074) = ⟨1⟩ := by decide +kernel

/-- Half of the least positive double is a tie and goes to zero, the even one. -/
example : ofRatio false 1 (1 <<< 1075) = ⟨0⟩ := by decide +kernel

end Double

end SeriesBridge
