import SeriesBridge.Files
import SeriesBridge.Metrics
import SeriesBridge.Time.Instant
import SeriesBridge.Web.Basic

/-! # The machine that a bridge runs on

All that a running bridge asks of its surroundings: files, a network, the bytes that come in and
those that go out, clocks, and whether it is wanted any longer.

* **`MachineCall`** — what is asked.
* **`Machine`** — the interface. -/

namespace SeriesBridge

/-- **What comes of waiting for bytes.** -/
inductive Supply where
  | bytes (chunk : List UInt8)
  /-- No more bytes will come. -/
  | ended
  /-- The bytes cannot be read, for the given reason. -/
  | failed (reason : String)
  /-- Nothing has come before the deadline, or the bridge is no longer wanted. -/
  | nothing
  deriving DecidableEq, Repr

/-- **What a running bridge asks.** Times are in milliseconds. -/
inductive MachineCall where
  | file (call : FileCall)
  | web (request : WebRequest)
  /-- The bytes that come in next, if they come before the deadline. -/
  | input (deadline : Nat)
  /-- Put bytes out. -/
  | output (bytes : List UInt8)
  /-- Make sure that all bytes are out. -/
  | flush
  /-- Whether the run has to stop. -/
  | stopping
  /-- The time that has passed. -/
  | clock
  /-- The time of day. -/
  | now
  | pause (millis : Nat)
  /-- A random number up to `most`. The bridge breaks off at one beyond `room`, which is no
  answer. -/
  | draw (most room : Nat)
  | note (reading : Reading)
  deriving Repr

/-- What comes of asking. -/
def MachineCall.Answer : MachineCall → Type
  | file call => call.Answer
  | web _ => Except String WebReply
  | input _ => Supply
  | output _ => Except String Unit
  | flush => Except String Unit
  | stopping => Bool
  | clock => Nat
  | now => Instant
  | pause _ => Unit
  | draw most room => Fin (min most room + 1)
  | note _ => Unit

/-- **The machine that a bridge runs on.** -/
def Machine : Interface := ⟨MachineCall, MachineCall.Answer⟩

namespace Machine

/-- Ask the machine. -/
def ask (call : MachineCall) : Dialogue Machine call.Answer := .ask (I := Machine) call

/-- Files are files of the machine. -/
def overFiles {α : Type} (d : Dialogue Files α) : Dialogue Machine α :=
  d.run (I := Files) (fun call => ask (.file call))

/-- Requests over the web pass through the network of the machine. -/
def overWeb {α : Type} (d : Dialogue Web α) : Dialogue Machine α :=
  d.run (I := Web) (fun request => ask (.web request))

end Machine

end SeriesBridge
