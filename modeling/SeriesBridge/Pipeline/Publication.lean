import SeriesBridge.Dialogue.Basic
import SeriesBridge.Metrics
import SeriesBridge.Record.Basic
import SeriesBridge.Settings.Pipeline

/-! # Publishing records

A source is polled for records, which are given out one after the other. When all of a batch are
out, their offsets are kept, and only then the source is told to move on; when anything fails before
that, the batch will be polled again.

* **`Sourcing`** — what is asked of a source.
* **`Outlet`** — what is asked of the receiver of records, the store of offsets and the machine.
* **`Publication.start`**, **`Publication.round`** — the beginning of a run, and one round of its
  loop.
* **`Publication.run p n`** — a run of at most `n` rounds. -/

namespace SeriesBridge

/-! ## Interfaces -/

/-- A call on a source. -/
inductive SourceCall where
  | prepare (settings : PipelineSettings)
  | restore (offsets : List Offset)
  | poll
  | commit (offsets : List Offset)
  | shutdown
  deriving Repr

/-- What comes of a call. -/
def SourceCall.Answer : SourceCall → Type
  | poll => Outcome (List Outgoing)
  | _ => Outcome Unit

/-- **A source,** as its callers see it. -/
def Sourcing : Interface := ⟨SourceCall, SourceCall.Answer⟩

/-- What is asked of the receiver of records, the store of offsets and the machine. -/
inductive OutletCall where
  /-- The offsets that are kept. -/
  | load
  /-- Keep offsets. -/
  | store (offsets : List Offset)
  /-- Give a record out. -/
  | emit (record : Outgoing)
  /-- Make sure that all records are out. -/
  | flush
  /-- Whether the run has to stop. -/
  | stopping
  | pause (millis : Nat)
  | note (reading : Reading)
  deriving Repr

/-- What comes of asking. -/
def OutletCall.Answer : OutletCall → Type
  | load => Outcome (List Offset)
  | store _ => Outcome Unit
  | emit _ => Outcome Unit
  | flush => Outcome Unit
  | stopping => Bool
  | pause _ => Unit
  | note _ => Unit

/-- **The receiver of records, the store of offsets and the machine.** -/
def Outlet : Interface := ⟨OutletCall, OutletCall.Answer⟩

/-- A source, a receiver, a store and a machine. -/
abbrev PublicationHost : Interface := Interface.sum Sourcing Outlet

namespace Publication

/-- Prepare the source. -/
def prepare (settings : PipelineSettings) : Dialogue PublicationHost (Outcome Unit) :=
  .ask (I := PublicationHost) (.inl (.prepare settings))

/-- Let the source take up offsets. -/
def restore (offsets : List Offset) : Dialogue PublicationHost (Outcome Unit) :=
  .ask (I := PublicationHost) (.inl (.restore offsets))

/-- The next records of the source. -/
def poll : Dialogue PublicationHost (Outcome (List Outgoing)) :=
  .ask (I := PublicationHost) (.inl .poll)

/-- Let the source move on. -/
def commit (offsets : List Offset) : Dialogue PublicationHost (Outcome Unit) :=
  .ask (I := PublicationHost) (.inl (.commit offsets))

/-- Stop the source. -/
def shutdown : Dialogue PublicationHost (Outcome Unit) :=
  .ask (I := PublicationHost) (.inl .shutdown)

/-- The offsets that are kept. -/
def load : Dialogue PublicationHost (Outcome (List Offset)) :=
  .ask (I := PublicationHost) (.inr .load)

/-- Keep offsets. -/
def store (offsets : List Offset) : Dialogue PublicationHost (Outcome Unit) :=
  .ask (I := PublicationHost) (.inr (.store offsets))

/-- Give a record out. -/
def emit (record : Outgoing) : Dialogue PublicationHost (Outcome Unit) :=
  .ask (I := PublicationHost) (.inr (.emit record))

/-- Make sure that all records are out. -/
def flush : Dialogue PublicationHost (Outcome Unit) := .ask (I := PublicationHost) (.inr .flush)

/-- Whether the run has to stop. -/
def stopping : Dialogue PublicationHost Bool := .ask (I := PublicationHost) (.inr .stopping)

/-- Wait. -/
def pause (millis : Nat) : Dialogue PublicationHost Unit :=
  .ask (I := PublicationHost) (.inr (.pause millis))

/-- Take a reading. -/
def note (settings : PipelineSettings) (o : Observation) : Dialogue PublicationHost Unit :=
  .ask (I := PublicationHost) (.inr (.note ⟨⟨settings.name, "source"⟩, o⟩))

end Publication

/-! ## Runs -/

/-- **How records are published.** -/
structure Publication where
  settings : PipelineSettings
  deriving DecidableEq, Repr

/-- Where a run stands. -/
inductive Publication.Progress where
  | going
  /-- It is over. -/
  | over (result : Outcome Unit)
  deriving Repr

namespace Publication

/-- Settings have to be checked first. -/
def make (settings : PipelineSettings) : Outcome Publication := do
  settings.check
  .ok ⟨settings⟩

/-- Give records out in their order, until one fails. -/
def emitAll (p : Publication) : List Outgoing → Dialogue PublicationHost (Outcome Unit)
  | [] => pure (.ok ())
  | r :: rest => do
      match ← emit r with
      | .error e => return .error e
      | .ok () => do
          note p.settings .timed
          note p.settings .processed
          emitAll p rest

/-- **Give out a batch, keep its offsets, and let the source move on,** in this order; after a
failure nothing of it follows. A batch without offsets only has to be given out. -/
def publish (p : Publication) (records : List Outgoing) :
    Dialogue PublicationHost (Outcome Unit) := do
  match ← p.emitAll records with
  | .error e => return .error e
  | .ok () =>
      match ← flush with
      | .error e => return .error e
      | .ok () =>
          let offsets := Outgoing.offsets records
          if offsets.isEmpty then return .ok ()
          else
            -- The source hears of offsets only once they are kept.
            match ← store offsets with
            | .error e => return .error e
            | .ok () => commit offsets

/-- Wait until the next poll, after a failure of the given kind, if there was one. -/
def rest (p : Publication) (failure : Option String) : Dialogue PublicationHost Progress := do
  match failure with
  | some kind => note p.settings (.failed kind)
  | none => pure ()
  pause p.settings.pollInterval
  return .going

/-- **One round:** poll the source and publish what it gives. No failure ends the run. -/
def round (p : Publication) : Dialogue PublicationHost Progress := do
  if ← stopping then
    match ← shutdown with
    | .error e => return .over (.error e)
    | .ok () => do
        note p.settings (.health false)
        return .over (.ok ())
  else
    match ← poll with
    | .error _ => p.rest (some "poll")
    | .ok [] => p.rest none
    | .ok records => do
        note p.settings (.batch records.length)
        match ← p.publish records with
        | .error _ => p.rest (some "publish")
        | .ok () => return .going

/-- **The beginning of a run:** prepare the source and let it take up the offsets that are kept. -/
def start (p : Publication) : Dialogue PublicationHost Progress := do
  note p.settings (.health true)
  match ← prepare p.settings with
  | .error e => return .over (.error e)
  | .ok () =>
      match ← load with
      | .error e => return .over (.error e)
      | .ok offsets =>
          match ← restore offsets with
          | .error e => return .over (.error e)
          | .ok () => return .going

/-- At most `n` more rounds. -/
def rounds (p : Publication) : Nat → Progress → Dialogue PublicationHost Progress
  | n + 1, .going => do
      let progress ← p.round
      rounds p n progress
  | _, progress => pure progress

/-- **A run of at most `n` rounds.** -/
def run (p : Publication) (n : Nat) : Dialogue PublicationHost Progress := do
  let progress ← p.start
  p.rounds n progress

end Publication

end SeriesBridge
