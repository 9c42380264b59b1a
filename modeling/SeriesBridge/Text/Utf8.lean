/-! # UTF-8

Bytes and the characters that they encode.

* **`encode s`** — the bytes of a text.
* **`decode bs`** — the text of `bs`, or the **`Fault`** that says where the bytes stop being one.
* **`decodeLossy bs`** — the text of `bs` with every ill-formed part shown as U+FFFD.

An ill-formed part is as long as the longest beginning of a character that it holds, so a fault
names one, two or three bytes, or none when the bytes end inside a character. -/

namespace SeriesBridge.Text.Utf8

/-! ## Encoding -/

/-- The bytes of a text. -/
def encode (s : List Char) : List UInt8 := s.flatMap String.utf8EncodeChar

/-- The empty text has no bytes. -/
@[simp] theorem encode_nil : encode [] = [] := rfl

/-- Character by character. -/
@[simp] theorem encode_cons (c : Char) (s : List Char) :
    encode (c :: s) = String.utf8EncodeChar c ++ encode s := rfl

/-! ## Decoding -/

/-- What a non-empty sequence of bytes starts with. -/
inductive Head where
  /-- A whole character of the given number of bytes. -/
  | char (c : Char) (size : Nat)
  /-- An ill-formed part of the given number of bytes. -/
  | illFormed (size : Nat)
  /-- The beginning of a character that the bytes do not finish. -/
  | unfinished
  deriving Repr, DecidableEq

/-- A byte that continues a character. -/
def isTail (b : UInt8) : Bool := 0x80 ≤ b && b ≤ 0xBF

/-- The low six bits of a continuation byte. -/
def tailBits (b : UInt8) : Nat := b.toNat % 64

/-- **The second byte of a character of three or four bytes.** Its range depends on the first
byte: it shuts out overlong forms, surrogates and numbers beyond U+10FFFF. -/
def isSecond (first second : UInt8) : Bool :=
  if first == 0xE0 then 0xA0 ≤ second && second ≤ 0xBF
  else if first == 0xED then 0x80 ≤ second && second ≤ 0x9F
  else if first == 0xF0 then 0x90 ≤ second && second ≤ 0xBF
  else if first == 0xF4 then 0x80 ≤ second && second ≤ 0x8F
  else isTail second

/-- A character of two bytes after its first one. -/
def headTwo (a : UInt8) : List UInt8 → Head
  | [] => .unfinished
  | b :: _ =>
      if isTail b then .char (Char.ofNat ((a.toNat % 32) * 64 + tailBits b)) 2 else .illFormed 1

/-- A character of three bytes after its first one. -/
def headThree (a : UInt8) : List UInt8 → Head
  | [] => .unfinished
  | b :: rest =>
      if !isSecond a b then .illFormed 1
      else
        match rest with
        | [] => .unfinished
        | c :: _ =>
            if isTail c then
              .char (Char.ofNat (((a.toNat % 16) * 64 + tailBits b) * 64 + tailBits c)) 3
            else .illFormed 2

/-- A character of four bytes after its first one. -/
def headFour (a : UInt8) : List UInt8 → Head
  | [] => .unfinished
  | b :: rest =>
      if !isSecond a b then .illFormed 1
      else
        match rest with
        | [] => .unfinished
        | c :: rest =>
            if !isTail c then .illFormed 2
            else
              match rest with
              | [] => .unfinished
              | d :: _ =>
                  if isTail d then
                    .char (Char.ofNat
                      ((((a.toNat % 8) * 64 + tailBits b) * 64 + tailBits c) * 64 + tailBits d)) 4
                  else .illFormed 3

/-- What the bytes `a :: rest` start with. -/
def head (a : UInt8) (rest : List UInt8) : Head :=
  if a < 0x80 then .char (Char.ofNat a.toNat) 1
  else if 0xC2 ≤ a && a ≤ 0xDF then headTwo a rest
  else if 0xE0 ≤ a && a ≤ 0xEF then headThree a rest
  else if 0xF0 ≤ a && a ≤ 0xF4 then headFour a rest
  else .illFormed 1

/-- **Where bytes stop being a text:** after `validUpTo` bytes comes an ill-formed part of `size`
bytes, or the unfinished beginning of a character when there is no size. -/
structure Fault where
  validUpTo : Nat
  size : Option Nat
  deriving Repr, DecidableEq

/-- The words for a fault. -/
def Fault.message (f : Fault) : String :=
  match f.size with
  | some n =>
      "invalid utf-8 sequence of " ++ toString n ++ " bytes from index " ++ toString f.validUpTo
  | none => "incomplete utf-8 byte sequence from index " ++ toString f.validUpTo

/-- Decode `bs`, which start at byte `at_` of the whole. -/
def decodeFrom (at_ : Nat) : List UInt8 → Except Fault (List Char)
  | [] => .ok []
  | a :: rest =>
      match head a rest with
      | .char c size => (decodeFrom (at_ + size) (rest.drop (size - 1))).map (c :: ·)
      | .illFormed size => .error ⟨at_, some size⟩
      | .unfinished => .error ⟨at_, none⟩
  termination_by bs => bs.length
  decreasing_by simp only [List.length_drop, List.length_cons]; omega

/-- The text that bytes encode. -/
def decode (bs : List UInt8) : Except Fault (List Char) := decodeFrom 0 bs

/-- The replacement character. -/
def replacement : Char := Char.ofNat 0xFFFD

/-- **Decoding that cannot fail.** Each ill-formed part becomes one replacement character, and so
does an unfinished character at the end. -/
def decodeLossy : List UInt8 → List Char
  | [] => []
  | a :: rest =>
      match head a rest with
      | .char c size => c :: decodeLossy (rest.drop (size - 1))
      | .illFormed size => replacement :: decodeLossy (rest.drop (size - 1))
      | .unfinished => [replacement]
  termination_by bs => bs.length
  decreasing_by all_goals (simp only [List.length_drop, List.length_cons]; omega)

/-- The bytes of a string. -/
def ofString (s : String) : List UInt8 := encode s.toList

/-- The string that bytes encode, if they encode one. -/
def toString? (bs : List UInt8) : Option String :=
  match decode bs with
  | .ok s => some (String.ofList s)
  | .error _ => none

end SeriesBridge.Text.Utf8
