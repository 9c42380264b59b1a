import SeriesBridge.Url.Domain
import SeriesBridge.Url.Percent

/-! # Hosts

The host of an address: an address of version 4 or 6 of the internet protocol, or a domain.

* **`Fault`** — what may be wrong with an address, and its words.
* **`readWebHost s`** — the host of a web address in its normal form: lower case, numbers as an
  internet address, letters beyond ASCII as labels in ASCII.
* **`readOpaqueHost s`** — the host of any other address, which is kept as it is. -/

namespace SeriesBridge.Url

/-- What may be wrong with an address. -/
inductive Fault where
  | emptyHost
  | port
  | ipv4
  | ipv6
  | domain
  | domainCharacter
  deriving DecidableEq, Repr

/-- The words for a fault. -/
def Fault.message : Fault → String
  | emptyHost => "empty host"
  | port => "invalid port number"
  | ipv4 => "invalid IPv4 address"
  | ipv6 => "invalid IPv6 address"
  | domain => "invalid international domain name"
  | domainCharacter => "invalid domain character"

/-! ## Version 4 -/

/-- **One number of an address:** in base 16 behind `0x`, in base 8 behind another zero, else in
base 10. -/
def readPart? (s : List Char) : Option Nat :=
  match s with
  | [] => none
  | '0' :: 'x' :: s | '0' :: 'X' :: s =>
      if s.all (Text.isDigitIn 16) then some (Text.numberIn 16 s) else none
  | '0' :: c :: s =>
      if (c :: s).all (Text.isDigitIn 8) then some (Text.numberIn 8 (c :: s)) else none
  | s => if s.all Char.isDigit then some (Text.numberIn 10 s) else none

/-- The parts of a domain; a dot at the end closes the last part. -/
def domainParts (s : List Char) : List (List Char) :=
  let parts := Text.pieces (· == '.') s
  if parts.getLast? == some [] then parts.dropLast else parts

/-- **Whether a domain has to be read as numbers:** its last part is one. -/
def endsInNumber (s : List Char) : Bool :=
  match (domainParts s).getLast? with
  | none => false
  | some last => (!last.isEmpty && last.all Char.isDigit) || (readPart? last).isSome

/-- The bytes of an address, most significant first, when its last number fills what the numbers
before it leave open. -/
def joinParts? (parts : List Nat) : Option Nat :=
  match parts.getLast? with
  | none => none
  | some last =>
      let front := parts.dropLast
      if 3 < front.length || front.any (255 < ·) || Nat.pow 256 (4 - front.length) ≤ last then none
      else some (front.foldl (fun n b => 256 * n + b) 0 * Nat.pow 256 (4 - front.length) + last)

/-- The four bytes of an address with dots between them. -/
def showIpv4 (n : Nat) : List Char :=
  Text.showNat (n >>> 24 % 256) ++ '.' :: Text.showNat (n >>> 16 % 256) ++
    '.' :: Text.showNat (n >>> 8 % 256) ++ '.' :: Text.showNat (n % 256)

/-- An address of version 4 in its normal form. -/
def readIpv4 (s : List Char) : Except Fault (List Char) :=
  match (domainParts s).mapM readPart? with
  | none => .error .ipv4
  | some parts =>
      match joinParts? parts with
      | none => .error .ipv4
      | some n => .ok (showIpv4 n)

/-! ## Version 6 -/

/-- A decimal number up to 255 without leading zeros. -/
def readByte? (s : List Char) : Option Nat :=
  match s with
  | [] => none
  | ['0'] => some 0
  | '0' :: _ => none
  | s =>
      let n := Text.numberIn 10 s
      if s.all Char.isDigit && s.length ≤ 3 && n ≤ 255 then some n else none

/-- One group of an address: up to four digits of base 16. -/
def readGroup? (s : List Char) : Option (List Nat) :=
  if !s.isEmpty && s.length ≤ 4 && s.all (Text.isDigitIn 16) then some [Text.numberIn 16 s]
  else none

/-- The last group of an address; four bytes with dots between them are two groups. -/
def readLastGroup? (s : List Char) : Option (List Nat) :=
  if s.contains '.' then
    match (Text.pieces (· == '.') s).mapM readByte? with
    | some [a, b, c, d] => some [256 * a + b, 256 * c + d]
    | _ => none
  else readGroup? s

/-- Groups between colons. The last one may be bytes when nothing follows the groups. -/
def readGroups? (atEnd : Bool) (s : List Char) : Option (List Nat) :=
  if s.isEmpty then some []
  else
    let parts := Text.pieces (· == ':') s
    let last := parts.getLastD []
    do
      let front ← parts.dropLast.mapM readGroup?
      let last ← if atEnd then readLastGroup? last else readGroup? last
      some (front.flatten ++ last)

/-- **The eight groups of an address.** Two colons stand once for one or more groups of zero. -/
def readIpv6? (s : List Char) : Option (List Nat) :=
  match Text.splitFirst [':', ':'] s with
  | none => do
      let groups ← readGroups? true s
      if groups.length = 8 then some groups else none
  | some (before, after) => do
      -- The groups that the two colons stand for are those that are missing from eight.
      let front ← readGroups? false before
      let back ← readGroups? true after
      if front.length + back.length ≤ 7 then
        some (front ++ List.replicate (8 - front.length - back.length) 0 ++ back)
      else none

/-- How many groups of zero a list starts with. -/
def zeroRun (groups : List Nat) : Nat := (groups.takeWhile (· == 0)).length

/-- The place and the length of the first of the longest runs of zero. -/
def longestRun (at_ : Nat) : List Nat → Nat × Nat
  | [] => (0, 0)
  | g :: groups =>
      let here := zeroRun (g :: groups)
      let (place, length) := longestRun (at_ + 1) groups
      if length ≤ here then (at_, here) else (place, length)

/-- Groups of digits with colons between them. -/
def showGroups : List Nat → List Char
  | [] => []
  | [g] => Text.showHex 1 g
  | g :: groups => Text.showHex 1 g ++ ':' :: showGroups groups

/-- An address with two colons for the longest run of two or more groups of zero. -/
def showIpv6 (groups : List Nat) : List Char :=
  let (place, length) := longestRun 0 groups
  let text :=
    if length < 2 then showGroups groups
    else
      showGroups (groups.take place) ++ ':' :: ':' :: showGroups (groups.drop (place + length))
  '[' :: text ++ [']']

/-- An address of version 6 between brackets, in its normal form. -/
def readIpv6 (s : List Char) : Except Fault (List Char) :=
  match s.reverse with
  | ']' :: inner =>
      match readIpv6? (inner.reverse.drop 1) with
      | some groups => .ok (showIpv6 groups)
      | none => .error .ipv6
  | _ => .error .ipv6

/-! ## Hosts -/

/-- **The host of a web address.** Escaped bytes are read first, and have to be UTF-8. -/
def readWebHost (s : List Char) : Except Fault (List Char) :=
  match s with
  | [] => .error .emptyHost
  | '[' :: _ => readIpv6 s
  | s =>
      match Text.Utf8.decode (unescape (Text.Utf8.encode s)) with
      | .error _ => .error .domain
      | .ok s =>
          match Domain.read? s with
          | none => .error .domain
          | some domain =>
              -- Characters that a domain loses may have been all there were.
              if domain.isEmpty then .error .emptyHost
              else if endsInNumber domain then readIpv4 domain
              else .ok domain

/-- The characters that no host holds. -/
def isForbiddenOpaque (c : Char) : Bool :=
  c == '\x00' || c == '\t' || c == '\n' || c == '\r' || " #/:<>?@[\\]^|".toList.contains c

/-- **The host of another address.** Controls and bytes beyond ASCII are escaped. -/
def readOpaqueHost (s : List Char) : Except Fault (List Char) :=
  match s with
  | '[' :: _ => readIpv6 s
  | s =>
      if s.any isForbiddenOpaque then .error .domainCharacter
      else .ok (escape (fun b => 0x20 ≤ b && b < 0x7F) (Text.Utf8.encode s))

/-- The missing numbers of an address are zero. -/
example : (readWebHost "127.1".toList).toOption = some "127.0.0.1".toList := by decide +kernel

/-- The longest run of zero is left out. -/
example : (readWebHost "[1:0:0:2:0:0:0:3]".toList).toOption = some "[1:0:0:2::3]".toList := by
  decide +kernel

end SeriesBridge.Url
