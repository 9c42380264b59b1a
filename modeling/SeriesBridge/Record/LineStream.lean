import SeriesBridge.Record.Basic
import SeriesBridge.Text.Blank

/-! # Streams of lines

Bytes arrive in chunks and are taken apart into lines, each of them a record. Where the chunks are
cut does not matter, and waiting for one may be given up and taken up again.

* **`LineStream`** — what is known of a stream between two records.
* **`Arrivals`** — the chunks that have arrived, and whether more may.
* **`LineStream.next`** — the next record, the end of the stream, or nothing yet. -/

namespace SeriesBridge

/-- **The bytes that have arrived** and were not read yet. -/
structure Arrivals where
  chunks : List (List UInt8) := []
  /-- Whether no more bytes will arrive. -/
  ended : Bool := false
  deriving DecidableEq, Repr, Inhabited

/-- **A stream of lines between two records.** -/
structure LineStream where
  topic : String
  /-- The number of the next record. -/
  position : Nat := 0
  /-- The beginning of a line whose end was not read yet. -/
  begun : List UInt8 := []
  deriving DecidableEq, Repr, Inhabited

namespace LineStream

/-- What asking for a line comes to. -/
inductive Step (α : Type) where
  | ready (a : α)
  | ended
  /-- Not enough bytes have arrived. -/
  | waiting
  deriving DecidableEq, Repr

/-- The byte that ends a line. -/
def lineFeed : UInt8 := 0x0A

/-- The byte that may stand before the end of a line. -/
def carriageReturn : UInt8 := 0x0D

/-- The rest of a chunk, unless nothing is left of it. -/
def putBack (chunk : List UInt8) (chunks : List (List UInt8)) : List (List UInt8) :=
  if chunk.isEmpty then chunks else chunk :: chunks

/-- **The next line in what has arrived,** without its line feed; at the end of the stream, what
is left without one. The first argument is the beginning of the line that was read already; with
the line come the beginning that is kept and the chunks that are left. -/
def nextLine (begun : List UInt8) (ended : Bool) :
    List (List UInt8) → Step (List UInt8) × List UInt8 × List (List UInt8)
  | [] =>
      if ended then
        if begun.isEmpty then (.ended, [], []) else (.ready begun, [], [])
      else (.waiting, begun, [])
  | chunk :: chunks =>
      let front := chunk.takeWhile (· != lineFeed)
      match chunk.dropWhile (· != lineFeed) with
      | _ :: rest => (.ready (begun ++ front), [], putBack rest chunks)
      | [] => nextLine (begun ++ chunk) ended chunks

/-- How many bytes are at hand. -/
def atHand (begun : List UInt8) (chunks : List (List UInt8)) : Nat :=
  begun.length + chunks.flatten.length

/-- Putting a rest back keeps its bytes. -/
@[simp] theorem flatten_putBack (chunk : List UInt8) (chunks : List (List UInt8)) :
    (putBack chunk chunks).flatten = chunk ++ chunks.flatten := by
  unfold putBack
  split
  · next h => simp_all
  · simp

/-- A line leaves fewer bytes at hand than there were. -/
theorem atHand_lt_of_nextLine {begun kept line : List UInt8} {ended : Bool}
    {chunks left : List (List UInt8)}
    (h : nextLine begun ended chunks = (.ready line, kept, left)) :
    atHand kept left < atHand begun chunks := by
  induction chunks generalizing begun with
  | nil =>
      unfold nextLine at h
      split at h
      · split at h
        · simp at h
        · next hb =>
            simp only [Prod.mk.injEq] at h
            obtain ⟨_, rfl, rfl⟩ := h
            simp only [atHand, List.flatten_nil, List.length_nil, Nat.add_zero]
            exact List.length_pos_iff.2 (by simpa using hb)
      · simp at h
  | cons chunk chunks ih =>
      unfold nextLine at h
      have hsplit : chunk.length = (chunk.takeWhile (· != lineFeed)).length +
          (chunk.dropWhile (· != lineFeed)).length := by
        rw [← List.length_append, List.takeWhile_append_dropWhile]
      split at h
      · next rest hr =>
          simp only [Prod.mk.injEq] at h
          obtain ⟨_, rfl, rfl⟩ := h
          rw [hr] at hsplit
          simp only [atHand, flatten_putBack, List.flatten_cons, List.length_append,
            List.length_cons, List.length_nil] at *
          omega
      · have := ih h
        simp only [atHand, List.flatten_cons, List.length_append] at *
        omega

/-- A line as a payload: without the carriage returns at its end. -/
def payloadOf (line : List UInt8) : List UInt8 := Text.dropEndWhile (· == carriageReturn) line

/-- A line that holds a record: one that is not made of white space alone. -/
def holdsRecord (line : List UInt8) : Bool := !(payloadOf line).all Text.isBlankByte

/-- **The next record,** with the stream behind it and what is left of the arrivals. Lines of white
space are passed over and do not count. -/
def next (s : LineStream) (a : Arrivals) : Step Incoming × LineStream × Arrivals :=
  match _h : nextLine s.begun a.ended a.chunks with
  | (.ready line, kept, left) =>
      if holdsRecord line then
        (.ready { topic := s.topic, offset := s.position, payload := payloadOf line },
          { s with position := s.position + 1, begun := kept }, { a with chunks := left })
      else next { s with begun := kept } { a with chunks := left }
  | (.ended, kept, left) => (.ended, { s with begun := kept }, { a with chunks := left })
  | (.waiting, kept, left) => (.waiting, { s with begun := kept }, { a with chunks := left })
  termination_by atHand s.begun a.chunks
  decreasing_by exact atHand_lt_of_nextLine _h

end LineStream

/-- Bytes that arrive behind the others. -/
def Arrivals.feed (a : Arrivals) (bytes : List UInt8) : Arrivals :=
  if bytes.isEmpty then a else { a with chunks := a.chunks ++ [bytes] }

/-- The end of the bytes. -/
def Arrivals.finish (a : Arrivals) : Arrivals := { a with ended := true }

end SeriesBridge
