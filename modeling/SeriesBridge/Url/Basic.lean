import SeriesBridge.Url.Host

/-! # Addresses

The addresses that a bridge connects to: a scheme, a host, perhaps a port, a path and a query. In
the address of a web server a backslash is as good as a slash.

* **`Url.Address`** — the parts of an address that are read.
* **`Url.readAddress web defaultPort s`** — the parts of `s`, the text behind the scheme and its
  two slashes.
* **`Url.joinPath base path`** — the path of a reference against the root of a server. -/

namespace SeriesBridge.Url

/-- **The parts of an address.** The host is in its normal form, or empty; the path is the text
behind the host, with a slash before it unless it is empty. -/
structure Address where
  host : List Char
  port : Option Nat
  path : List Char
  query : Option (List Char)
  deriving DecidableEq, Repr

/-! ## Cutting -/

/-- Blanks and controls at the end, and tabs and line breaks anywhere, are no part of an
address. -/
def clean (s : List Char) : List Char :=
  (Text.dropEndWhile (fun c => c.toNat ≤ 0x20) s).filter
    (fun c => c != '\t' && c != '\n' && c != '\r')

/-- Whether a character ends the part of an address that names the server. -/
def endsAuthority (web : Bool) (c : Char) : Bool :=
  c == '/' || c == '?' || c == '#' || (web && c == '\\')

/-- The text before the last occurrence of `sep` and the text after it. -/
def splitLast (sep : Char) (s : List Char) : Option (List Char × List Char) :=
  if s.contains sep then
    let after := (s.reverse.takeWhile (· != sep)).reverse
    some (s.take (s.length - after.length - 1), after)
  else none

/-- **The text before a host,** up to the last at sign before the path: whether it names a user or
a password, and the text behind it. -/
def splitUser (web : Bool) (s : List Char) : Except Fault (Bool × List Char) :=
  let authority := s.takeWhile (fun c => !endsAuthority web c)
  let rest := s.dropWhile (fun c => !endsAuthority web c)
  match splitLast '@' authority with
  | none => .ok (false, s)
  | some ([], []) => if rest.isEmpty then .ok (false, rest) else .error .emptyHost
  | some (user, host) => .ok (!user.isEmpty && user != [':'], host ++ rest)

/-- A host and the text behind it. Colons inside of brackets belong to the host. -/
def splitHost (web : Bool) (inside : Bool) : List Char → List Char × List Char
  | [] => ([], [])
  | c :: s =>
      if (c == ':' && !inside) || endsAuthority web c then ([], c :: s)
      else
        let inside := if c == '[' then true else if c == ']' then false else inside
        let (host, rest) := splitHost web inside s
        (c :: host, rest)

/-- **The port behind a colon,** and the text behind it. No digits, or the port that the scheme has
anyway, are no port. -/
def readPort (default : Option Nat) (s : List Char) : Except Fault (Option Nat × List Char) :=
  let digits := s.takeWhile Char.isDigit
  let rest := s.dropWhile Char.isDigit
  let port := Text.natOfDigits 0 digits
  if 65535 < port then .error .port
  else
    match rest with
    | c :: _ =>
        if endsAuthority true c then
          .ok (if digits.isEmpty || some port == default then none else some port, rest)
        else .error .port
    | [] => .ok (if digits.isEmpty || some port == default then none else some port, rest)

/-! ## Paths -/

/-- The bytes that a path keeps. -/
def keptByPath (b : UInt8) : Bool :=
  0x20 < b && b < 0x7F &&
    !([0x22, 0x3C, 0x3E, 0x60, 0x23, 0x3F, 0x7B, 0x7D] : List UInt8).contains b

/-- Whether a part of a path stands for its own place. -/
def isHere (s : List Char) : Bool := s == ['.'] || Text.lower s == "%2e".toList

/-- Whether a part of a path stands for the place above. -/
def isAbove (s : List Char) : Bool :=
  [ "..", "%2e.", ".%2e", "%2e%2e" ].any (fun w => w.toList == Text.lower s)

/-- Whether a part of a path names a drive. -/
def isDrive : List Char → Bool
  | [c, d] => c.isAlpha && (d == ':' || d == '|')
  | _ => false

/-- Go up from a place, given by its parts from the last to the first; there is no way up from the
root or from a drive. -/
def goUp : List (List Char) → List (List Char)
  | [] => []
  | s :: above => if isDrive s then s :: above else above

/-- **The parts of a path without the parts that only lead about.** `place` holds the parts that
were passed, the last one first. -/
def resolveParts (place : List (List Char)) : List (List Char) → List (List Char)
  | [] => place.reverse
  | [s] =>
      if isAbove s then (([] : List Char) :: goUp place).reverse
      else if isHere s then (([] : List Char) :: place).reverse
      else (s :: place).reverse
  | s :: rest =>
      if isAbove s then resolveParts (goUp place) rest
      else if isHere s then resolveParts place rest
      else resolveParts (s :: place) rest

/-- A path from the text behind its first slash. -/
def readPath (web : Bool) (s : List Char) : List Char :=
  let isSlash (c : Char) : Bool := c == '/' || (web && c == '\\')
  let parts := (Text.pieces isSlash s).map (fun p => escape keptByPath (Text.Utf8.encode p))
  (resolveParts [] parts).flatMap ('/' :: ·)

/-- The path, the query and the fragment in the text behind a server. -/
def splitPath (s : List Char) : List Char × Option (List Char) :=
  let beforeFragment := s.takeWhile (· != '#')
  match Text.splitFirst ['?'] beforeFragment with
  | some (path, query) => (path, some query)
  | none => (beforeFragment, none)

/-- **A path against the root of a server.** A backslash is as good as a slash. -/
def joinPath (path : List Char) : List Char := readPath true path

/-! ## Addresses -/

/-- **The parts of an address behind its scheme.** A web address may start with any number of
slashes. -/
def readAddress (web : Bool) (defaultPort : Option Nat) (s : List Char) : Except Fault Address := do
  let s := if web then s.dropWhile (fun c => c == '/' || c == '\\') else s
  let (hasUser, s) ← splitUser web s
  let (host, s) := splitHost web false s
  let host ← if web then readWebHost host else readOpaqueHost host
  if host.isEmpty && (s.head? == some ':' || hasUser) then .error .emptyHost
  else do
    let (port, s) ←
      match s with
      | ':' :: s => readPort defaultPort s
      | s => .ok (none, s)
    let (path, query) := splitPath s
    -- A web address has a path even when none is written.
    let path :=
      match path with
      | [] => if web then ['/'] else []
      | '/' :: rest => readPath web rest
      | '\\' :: rest => if web then readPath web rest else readPath web ('\\' :: rest)
      | rest => readPath web rest
    .ok { host, port, path, query }

end SeriesBridge.Url
