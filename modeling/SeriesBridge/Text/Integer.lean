import SeriesBridge.Text.Blank

/-! # Integers in text

Whole numbers as they are written in lines, settings and documents.

* **`readNat? s`** — the value of a non-empty run of ASCII digits.
* **`readInt? s`** — the same with an optional sign.
* **`readInt64? s`**, **`readWord? bits s`** — the signed and the unsigned words among them.
* **`numberIn base s`** — the number that digits denote in a base up to 16.
* **`showNat n`**, **`showInt n`** — the decimal digits of a number.
* **`Int64.saturate n`** — the signed word nearest to `n`. -/

namespace SeriesBridge.Text

/-! ## Reading -/

/-- The value of an ASCII digit. -/
def digitValue (c : Char) : Nat := c.toNat - '0'.toNat

/-- The value of a run of digits read after the number `start`. -/
def natOfDigits (start : Nat) (s : List Char) : Nat :=
  s.foldl (fun n c => 10 * n + digitValue c) start

/-- No digits leave the number as it is. -/
@[simp] theorem natOfDigits_nil (n : Nat) : natOfDigits n [] = n := rfl

/-- One digit more is one decimal place more. -/
@[simp] theorem natOfDigits_cons (n : Nat) (c : Char) (s : List Char) :
    natOfDigits n (c :: s) = natOfDigits (10 * n + digitValue c) s := by
  simp [natOfDigits]

/-- The value of a non-empty run of ASCII digits. -/
def readNat? (s : List Char) : Option Nat :=
  if s.isEmpty || !s.all Char.isDigit then none else some (natOfDigits 0 s)

/-- **An integer with an optional sign.** A sign alone is no integer, and neither is the empty
text. -/
def readInt? : List Char → Option Int
  | '-' :: s => (readNat? s).map (fun n => -(n : Int))
  | '+' :: s => (readNat? s).map (fun n => (n : Int))
  | s => (readNat? s).map (fun n => (n : Int))

/-- The integers that fit a signed 64-bit word. -/
def fitsInt64 (n : Int) : Bool := -0x8000000000000000 ≤ n && n < 0x8000000000000000

/-- An integer in the range of a signed 64-bit word. -/
def readInt64? (s : List Char) : Option Int64 :=
  match readInt? s with
  | some n => if fitsInt64 n then some (Int64.ofInt n) else none
  | none => none

/-- **An unsigned word of the given width.** A plus sign is allowed, a minus sign is not, not even
before zero. -/
def readWord? (bits : Nat) (s : List Char) : Option Nat :=
  let digits := match s with
    | '+' :: r => r
    | _ => s
  match readNat? digits with
  | some n => if n < 1 <<< bits then some n else none
  | none => none

/-! ## Other bases -/

/-- Whether a character is a digit in a base up to 16; letters count in either case. -/
def isDigitIn (base : Nat) (c : Char) : Bool :=
  let n := c.toLower.toNat
  (48 ≤ n && n ≤ 57 && n - 48 < base) || (97 ≤ n && n ≤ 102 && n - 87 < base)

/-- The number that digits denote in a base up to 16. -/
def numberIn (base : Nat) (s : List Char) : Nat :=
  s.foldl (fun n c =>
    let d := c.toLower.toNat
    base * n + (if d ≤ 57 then d - 48 else d - 87)) 0

/-! ## Writing -/

/-- The decimal digits of a natural number. -/
def showNat (n : Nat) : List Char := Nat.toDigits 10 n

/-- The decimal digits of an integer, with a minus sign before a negative one. -/
def showInt : Int → List Char
  | .ofNat n => showNat n
  | .negSucc n => '-' :: showNat (n + 1)

/-- The digits of `n` in base 16, at least `width` of them. -/
def showHex (width n : Nat) : List Char :=
  let digits := Nat.toDigits 16 n
  List.replicate (width - digits.length) '0' ++ digits

end SeriesBridge.Text

namespace Int64

/-- **Saturation.** The signed 64-bit word nearest to an integer: the integer itself when it
fits, else the end of the range that it lies beyond. -/
def saturate (n : Int) : Int64 :=
  if n < -0x8000000000000000 then Int64.minValue
  else if 0x8000000000000000 ≤ n then Int64.maxValue
  else Int64.ofInt n

/-- An integer that fits is kept. -/
theorem toInt_saturate_of_fits {n : Int} (h₁ : -0x8000000000000000 ≤ n)
    (h₂ : n < 0x8000000000000000) :
    (saturate n).toInt = n := by
  rw [saturate, if_neg (by omega), if_neg (by omega)]
  exact Int64.toInt_ofInt_of_le h₁ h₂

end Int64
