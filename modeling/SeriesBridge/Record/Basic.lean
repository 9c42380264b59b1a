import SeriesBridge.Error
import SeriesBridge.Offset.Basic
import SeriesBridge.Text.Utf8

/-! # Records

What the bridge takes in and what it gives out.

* **`Incoming`** — a record on its way into the database, with its place in the stream it came from.
* **`Outgoing`** — a record on its way out of the database, with the offset that is reached once it
  was given out.

The payload of a record is bytes; **`Incoming.text`** and **`Outgoing.text`** read them as
UTF-8. -/

namespace SeriesBridge

/-- The words for a payload that is no text. -/
def payloadFault (fault : Text.Utf8.Fault) : String :=
  "Payload is not valid UTF-8: " ++ fault.message

/-! ## Records taken in -/

/-- **A record on its way into the database.** -/
structure Incoming where
  topic : String
  /-- The number of the record in its stream. -/
  offset : Nat
  payload : List UInt8
  attributes : List (String × String) := []
  deriving DecidableEq, Repr, Inhabited

namespace Incoming

/-- **The payload as text.** A payload that is no text is invalid data. -/
def text (r : Incoming) : Outcome String :=
  match Text.Utf8.decode r.payload with
  | .ok s => .ok (String.ofList s)
  | .error fault => .error (.invalidData (payloadFault fault) r.payload)

/-- An attribute, if the record has it. -/
def attribute? (r : Incoming) (key : String) : Option String := Keyed.lookup key r.attributes

/-- Set an attribute. -/
def setAttribute (r : Incoming) (key value : String) : Incoming :=
  { r with attributes := Keyed.insert key value r.attributes }

end Incoming

/-! ## Records given out -/

/-- **A record on its way out of the database.** -/
structure Outgoing where
  topic : String
  payload : List UInt8
  attributes : List (String × String) := []
  key : Option String := none
  /-- How far the partition has been read once this record was given out. -/
  offset : Option Offset := none
  deriving DecidableEq, Repr, Inhabited

namespace Outgoing

/-- A record that holds a text. -/
def ofText (topic text : String) : Outgoing := { topic, payload := Text.Utf8.ofString text }

/-- **The payload as text.** -/
def text (r : Outgoing) : Outcome String :=
  match Text.Utf8.decode r.payload with
  | .ok s => .ok (String.ofList s)
  | .error fault => .error (.serialization (payloadFault fault))

/-- Set an attribute. -/
def setAttribute (r : Outgoing) (key value : String) : Outgoing :=
  { r with attributes := Keyed.insert key value r.attributes }

/-- The payload as a line of an output. -/
def line (r : Outgoing) : List UInt8 := r.payload ++ [0x0A]

/-- The error of giving a record to a receiver that is gone. -/
def receiverGone : Error :=
  .fatal "Record channel closed" (some (.foreign "channel closed"))

/-- **The last offset of every partition** among records, in order of first occurrence. -/
def offsets (records : List Outgoing) : List Offset := Offset.latest (records.filterMap offset)

end Outgoing

end SeriesBridge
