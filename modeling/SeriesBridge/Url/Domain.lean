import SeriesBridge.Text.Normal
import SeriesBridge.Url.Domain.Direction
import SeriesBridge.Url.Domain.Folding
import SeriesBridge.Url.Domain.Joining
import SeriesBridge.Url.Punycode

/-! # Domains

The domain of a web address is made of labels with dots between them. It may be written with letters
of any script, and its normal form has ASCII letters alone: every character is folded first, and a
label that still holds others is written in ASCII letters behind the mark `xn--`.

* **`Domain.fold? s`** — a domain with every character folded.
* **`Domain.readLabel? s`** — the label that a folded text stands for, if it is one.
* **`Domain.read? s`** — the normal form of a domain. -/

namespace SeriesBridge.Url.Domain

/-- The characters that no domain of a web address holds. -/
def isForbidden (c : Char) : Bool :=
  c.toNat ≤ 0x20 || c.toNat == 0x7F || "%#/:<>?@[\\]^|".toList.contains c

/-- Whether a text is in ASCII. -/
def isAscii (s : List Char) : Bool := s.all (fun c => c.toNat < 128)

/-! ## Folding -/

/-- **A domain with every character folded,** in the composed normal form. -/
def fold? (s : List Char) : Option (List Char) :=
  match s.mapM foldChar? with
  | some parts =>
      let folded := Text.normalForm parts.flatten
      if folded.any isForbidden then none else some folded
  | none => none

/-! ## Labels -/

/-- What the written form of a label in ASCII starts with. -/
def writtenMark : List Char := "xn--".toList

/-- The most characters that the written form of a label has behind its mark. -/
def maxWritten : Nat := 2000

/-- The most characters that a label beyond ASCII has. -/
def maxLabel : Nat := 1000

/-- **The label of a written form.** It has to be a label that folding keeps. -/
def readWritten? (s : List Char) : Option (List Char) :=
  if s.isEmpty || s.getLast? == some '-' || maxWritten < s.length || !isAscii s then none
  else
    match Punycode.decode? s with
    | some label =>
        if label.all (fun c => isKept c && c ≠ '.') && !label.any isForbidden &&
            Text.normalForm label == label then some label
        else none
    | none => none

/-- Whether a label beyond ASCII may be written: it starts with no mark, its joiners make a
difference, and it is not too long. -/
def isSound (s : List Char) : Bool :=
  !(s.take 1).any Text.isMark && joinersFit s && s.length ≤ maxLabel

/-- **The label that a folded text stands for.** -/
def readLabel? (s : List Char) : Option (List Char) :=
  if writtenMark.isPrefixOf s then (readWritten? (s.drop writtenMark.length)).filter isSound
  else if isAscii s || isSound s then some s
  else none

/-- A label in ASCII letters. -/
def writeLabel (s : List Char) : List Char :=
  if isAscii s then s else writtenMark ++ Punycode.encode s

/-! ## Domains -/

/-- Labels with dots between them. -/
def joinLabels : List (List Char) → List Char
  | [] => []
  | [l] => l
  | l :: ls => l ++ '.' :: joinLabels ls

/-- Whether labels keep the rules for scripts from right to left, if any of them is in one. -/
def areReadable (labels : List (List Char)) : Bool :=
  !labels.any (·.any runsLeft) || labels.all isReadable

/-- **The normal form of a domain,** if the text is one. -/
def read? (s : List Char) : Option (List Char) := do
  let folded ← fold? s
  let labels ← (Text.pieces (· == '.') folded).mapM readLabel?
  if areReadable labels then some (joinLabels (labels.map writeLabel)) else none

/-- Capitals become small letters. -/
example : read? "WWW.Example.COM".toList = some "www.example.com".toList := by decide +kernel

end SeriesBridge.Url.Domain
