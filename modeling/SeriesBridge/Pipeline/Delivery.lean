import SeriesBridge.Dialogue.Basic
import SeriesBridge.Metrics
import SeriesBridge.Record.Basic
import SeriesBridge.Settings.Pipeline

/-! # Delivering records

Records arrive on a stream and are given to a sink, one after the other. A record that fails for a
while is tried again, one that cannot be read is skipped, and the sink is flushed at intervals and
at the end.

* **`Sinking`** — what is asked of a sink.
* **`Intake`** — what is asked of the stream of records and of the machine.
* **`Delivery.start`**, **`Delivery.round`** — the beginning of a run, and one round of its loop.
* **`Delivery.run d n`** — a run of at most `n` rounds. -/

namespace SeriesBridge

/-! ## Interfaces -/

/-- A call on a sink. -/
inductive SinkCall where
  | prepare (settings : PipelineSettings)
  | process (record : Incoming)
  | flush
  | shutdown
  deriving Repr

/-- **A sink,** as its callers see it: every call succeeds or fails. -/
def Sinking : Interface := ⟨SinkCall, fun _ => Outcome Unit⟩

/-- Give records to a sink in their order, until one fails. -/
def Sinking.processAll : List Incoming → Dialogue Sinking (Outcome Unit)
  | [] => pure (.ok ())
  | r :: rest => do
      match ← Dialogue.ask (I := Sinking) (.process r) with
      | .error e => return .error e
      | .ok () => processAll rest

/-- What comes of waiting for a record until a deadline. -/
inductive Arrival where
  | record (r : Incoming)
  /-- The stream has ended. -/
  | ended
  /-- The stream has failed. -/
  | failed (e : Error)
  /-- No record has come before the deadline. -/
  | overdue
  deriving Repr

/-- What is asked of the stream of records and of the machine. Times are in milliseconds. -/
inductive IntakeCall where
  /-- The next record, if one comes before the deadline. -/
  | next (deadline : Nat)
  /-- Whether the run has to stop. -/
  | stopping
  /-- The time that has passed. -/
  | clock
  | pause (millis : Nat)
  /-- A random number up to `most`. The run breaks off at one beyond `room`, which is no answer. -/
  | draw (most room : Nat)
  | note (reading : Reading)
  deriving Repr

/-- What comes of asking. -/
def IntakeCall.Answer : IntakeCall → Type
  | next _ => Arrival
  | stopping => Bool
  | clock => Nat
  | pause _ => Unit
  | draw most room => Fin (min most room + 1)
  | note _ => Unit

/-- **The stream of records and the machine.** -/
def Intake : Interface := ⟨IntakeCall, IntakeCall.Answer⟩

/-- A sink, a stream and a machine. -/
abbrev DeliveryHost : Interface := Interface.sum Sinking Intake

namespace Delivery

/-- Call the sink. -/
def call (c : SinkCall) : Dialogue DeliveryHost (Outcome Unit) := .ask (I := DeliveryHost) (.inl c)

/-- Wait for a record. -/
def next (deadline : Nat) : Dialogue DeliveryHost Arrival :=
  .ask (I := DeliveryHost) (.inr (.next deadline))

/-- Whether the run has to stop. -/
def stopping : Dialogue DeliveryHost Bool := .ask (I := DeliveryHost) (.inr .stopping)

/-- The time that has passed. -/
def clock : Dialogue DeliveryHost Nat := .ask (I := DeliveryHost) (.inr .clock)

/-- Wait. -/
def pause (millis : Nat) : Dialogue DeliveryHost Unit :=
  .ask (I := DeliveryHost) (.inr (.pause millis))

/-- A random number. -/
def draw (most room : Nat) : Dialogue DeliveryHost (Fin (min most room + 1)) :=
  .ask (I := DeliveryHost) (.inr (.draw most room))

/-- Take a reading. -/
def note (settings : PipelineSettings) (o : Observation) : Dialogue DeliveryHost Unit :=
  .ask (I := DeliveryHost) (.inr (.note ⟨⟨settings.name, "sink"⟩, o⟩))

end Delivery

/-! ## Runs -/

/-- **How records are delivered.** -/
structure Delivery where
  settings : PipelineSettings
  deriving DecidableEq, Repr

/-- Where a run stands. -/
inductive Delivery.Progress where
  /-- It goes on; the sink was flushed last at the given time. -/
  | going (lastFlush : Nat)
  /-- It is over. -/
  | over (result : Outcome Unit)
  deriving Repr

namespace Delivery

/-- Settings have to be checked first. -/
def make (settings : PipelineSettings) : Outcome Delivery := do
  settings.check
  .ok ⟨settings⟩

/-- The milliseconds between two flushes. -/
def flushInterval (d : Delivery) : Nat := max d.settings.batchTimeout 1

/-! ### Trying again -/

/-- **Wait before the retry with the given number.** A draw that cannot be added to the wait breaks
the run off, so there is a wait for every answer. -/
def backOff (d : Delivery) (retry : Nat) : Dialogue DeliveryHost Unit := do
  let b := d.settings.backoff
  note d.settings .retried
  let n ← draw (b.draws retry) (b.room retry)
  have hroom : n.val ≤ b.room retry := Nat.le_trans (Nat.le_of_lt_succ n.2) (Nat.min_le_right _ _)
  pause ((b.wait? retry n).get (Backoff.isSome_wait? hroom))

/-- **Call the sink, and again while the failure may pass.** The first number counts the retries
that were made, the second those that are left. -/
def callWithRetries (d : Delivery) (c : SinkCall) (made : Nat) :
    Nat → Dialogue DeliveryHost (Outcome Unit)
  | 0 => call c
  | left + 1 => do
      match ← call c with
      | .ok () => return .ok ()
      | .error e =>
          if e.isRetryable then do
            -- Retries are counted from one.
            d.backOff (made + 1)
            callWithRetries d c (made + 1) left
          else return .error e

/-- **Process a record.** A record that cannot be read counts as skipped, and is no failure. -/
def process (d : Delivery) (r : Incoming) : Dialogue DeliveryHost (Outcome Unit) := do
  match ← d.callWithRetries (.process r) 0 d.settings.backoff.maxRetries with
  | .ok () => do
      note d.settings .timed
      return .ok ()
  | .error e =>
      if e.isInvalidData then do
        note d.settings .skipped
        return .ok ()
      else return .error e

/-- Flush the sink. -/
def flush (d : Delivery) : Dialogue DeliveryHost (Outcome Unit) :=
  d.callWithRetries .flush 0 d.settings.backoff.maxRetries

/-! ### Rounds -/

/-- **Stop with a result.** A failure that came before counts more than one of stopping. -/
def stopWith (d : Delivery) (result : Outcome Unit) : Dialogue DeliveryHost Progress := do
  let stopped ← call .shutdown
  note d.settings (.health false)
  match result with
  | .ok () => return .over stopped
  | .error e => return .over (.error e)

/-- Flush once more and stop. -/
def finish (d : Delivery) : Dialogue DeliveryHost Progress := do
  let flushed ← d.flush
  d.stopWith flushed

/-- Stop with a failure, which is counted. -/
def fail (d : Delivery) (kind : String) (e : Error) : Dialogue DeliveryHost Progress := do
  note d.settings (.failed kind)
  d.stopWith (.error e)

/-- Flush when it is time to. -/
def flushIfDue (d : Delivery) (lastFlush : Nat) : Dialogue DeliveryHost Progress := do
  if (← clock) < lastFlush + d.flushInterval then return .going lastFlush
  else
    match ← d.flush with
    | .error e => d.fail "flush" e
    | .ok () => return .going (← clock)

/-- **One round:** wait for a record or for the time to flush, and do what there is to do. -/
def round (d : Delivery) (lastFlush : Nat) : Dialogue DeliveryHost Progress := do
  if ← stopping then d.finish
  else
    match ← next (lastFlush + d.flushInterval) with
    | .ended => d.finish
    | .failed e => d.fail "stream" e
    | .overdue => d.flushIfDue lastFlush
    | .record r => do
        note d.settings .received
        match ← d.process r with
        | .error e => d.fail "process" e
        | .ok () => do
            note d.settings .processed
            d.flushIfDue lastFlush

/-- **The beginning of a run.** A sink that cannot be prepared is not stopped either. -/
def start (d : Delivery) : Dialogue DeliveryHost Progress := do
  note d.settings (.health true)
  match ← call (.prepare d.settings) with
  | .error e => return .over (.error e)
  | .ok () => return .going (← clock)

/-- At most `n` more rounds. -/
def rounds (d : Delivery) : Nat → Progress → Dialogue DeliveryHost Progress
  | n + 1, .going lastFlush => do
      let p ← d.round lastFlush
      rounds d n p
  | _, p => pure p

/-- **A run of at most `n` rounds.** -/
def run (d : Delivery) (n : Nat) : Dialogue DeliveryHost Progress := do
  let p ← d.start
  d.rounds n p

end Delivery

end SeriesBridge
