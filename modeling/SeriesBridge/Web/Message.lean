import SeriesBridge.Text.Integer
import SeriesBridge.Web.Basic

/-! # Messages on the wire

The bytes of a request, and the reply in the bytes that come back on a connection that carries one
request.

* **`WebRequest.message r`** — the bytes of a request.
* **`WebReply.ofMessage? bs`** — the reply in bytes. The body is as long as its head says, or comes
  in chunks, or goes on to the end of the bytes. -/

namespace SeriesBridge

/-! ## Requests -/

/-- The lines of the head of a request. -/
def WebRequest.head (r : WebRequest) (size : Nat) : List String :=
  let port :=
    if r.endpoint.port = Endpoint.webPort r.endpoint.secure then ""
    else ":" ++ toString r.endpoint.port
  [ "POST " ++ r.target ++ " HTTP/1.1", "host: " ++ r.endpoint.host ++ port,
    "authorization: " ++ r.authorization, "accept: */*", "connection: close",
    "content-length: " ++ toString size ]

/-- **The bytes of a request.** -/
def WebRequest.message (r : WebRequest) : List UInt8 :=
  let body := Text.Utf8.ofString r.body
  Text.Utf8.ofString (String.join ((r.head body.length).map (· ++ "\r\n")) ++ "\r\n") ++ body

/-! ## Replies -/

namespace WebReply

/-- The first line of a text, without the break at its end, and what follows it. -/
def line? (bs : List UInt8) : Option (List UInt8 × List UInt8) :=
  match bs.dropWhile (· != 0x0A) with
  | _ :: rest => some (Text.dropEndWhile (· == 0x0D) (bs.takeWhile (· != 0x0A)), rest)
  | [] => none

/-- A line makes what follows shorter. -/
theorem length_lt_of_line? {bs line rest : List UInt8} (h : line? bs = some (line, rest)) :
    rest.length < bs.length := by
  unfold line? at h
  split at h
  · next r hr =>
      have := (List.dropWhile_suffix (l := bs) (· != 0x0A)).length_le
      simp only [Option.some.injEq, Prod.mk.injEq] at h
      rw [hr, h.2, List.length_cons] at this
      omega
  · simp at h

/-- **The fields of a head** with their names in lower case, up to the empty line behind them, and
what follows it. -/
def fields? (bs : List UInt8) : Option (List (String × String) × List UInt8) :=
  match _h : line? bs with
  | none => none
  | some ([], rest) => some ([], rest)
  | some (line, rest) => do
      let (fields, rest) ← fields? rest
      let text := Text.Utf8.decodeLossy line
      let name := String.ofList (Text.lower (Text.trim (text.takeWhile (· != ':'))))
      let value := String.ofList (Text.trim ((text.dropWhile (· != ':')).drop 1))
      some ((name, value) :: fields, rest)
  termination_by bs.length
  decreasing_by exact length_lt_of_line? _h

/-- The size that stands before a chunk, in base 16. -/
def chunkSize? (line : List UInt8) : Option Nat :=
  let digits := (Text.trim (Text.Utf8.decodeLossy line)).takeWhile (Text.isDigitIn 16)
  if digits.isEmpty then none else some (Text.numberIn 16 digits)

/-- **A body that comes in chunks,** up to the empty chunk. -/
def chunks? (bs : List UInt8) : Option (List UInt8) :=
  match _h : line? bs with
  | none => none
  | some (line, rest) =>
      match chunkSize? line with
      | none => none
      | some 0 => some []
      | some size =>
          if rest.length < size then none
          else
            -- A line break follows the bytes of a chunk.
            match _h' : line? (rest.drop size) with
            | none => none
            | some (_, after) => (chunks? after).map (rest.take size ++ ·)
  termination_by bs.length
  decreasing_by
    have h₁ := length_lt_of_line? _h
    have h₂ := length_lt_of_line? _h'
    simp only [List.length_drop] at h₂
    omega

/-- The status in the first line of a reply. -/
def status? (line : List UInt8) : Option Nat :=
  match Text.words (Text.Utf8.decodeLossy line) with
  | _ :: status :: _ => Text.readNat? status
  | _ => none

/-- **The reply in bytes.** -/
def ofMessage? (bs : List UInt8) : Option WebReply := do
  let (first, rest) ← line? bs
  let status ← status? first
  let (fields, rest) ← fields? rest
  if ((fields.lookup "transfer-encoding").map (Text.sameName "chunked")).getD false then
    let body ← chunks? rest
    some { status, body }
  else
    match (fields.lookup "content-length").bind (fun s => Text.readNat? s.toList) with
    | some size => if rest.length < size then none else some { status, body := rest.take size }
    | none => some { status, body := rest }

/-- Two chunks and the empty one. -/
example : chunks? [0x31, 0x0D, 0x0A, 0x5B, 0x0D, 0x0A, 0x31, 0x0A, 0x5D, 0x0A, 0x30, 0x0A] =
    some [0x5B, 0x5D] := by decide +kernel

end WebReply

end SeriesBridge
