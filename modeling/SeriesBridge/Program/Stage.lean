import SeriesBridge.Database.Session
import SeriesBridge.Offset.Store
import SeriesBridge.Pipeline.Assembly
import SeriesBridge.Program.Failure
import SeriesBridge.Program.Machine
import SeriesBridge.Record.LineStream
import SeriesBridge.Settings.Bridge

/-! # The program

A bridge as a program of its own: it loads its settings from variables and files, and then writes
the lines that come in to a database, or puts lines of tables out.

* **`Stage`** — where the program stands.
* **`Stage.begin env`** — the program up to its first round.
* **`Stage.advance s`** — one round more. -/

namespace SeriesBridge

/-! ## Records that come in -/

/-- **The bytes that come in,** as a stream of lines. -/
structure Reader where
  stream : LineStream
  arrivals : Arrivals := {}
  deriving DecidableEq, Repr

namespace Reader

/-- The record that is at hand, or nothing. -/
def take (r : Reader) : Arrival × Reader :=
  match r.stream.next r.arrivals with
  | (.ready record, stream, arrivals) => (.record record, { stream, arrivals })
  | (.ended, stream, arrivals) => (.ended, { stream, arrivals })
  | (.waiting, stream, arrivals) => (.overdue, { stream, arrivals })

/-- **Wait for a record,** once: bytes that come in without the end of a line leave the record
overdue even before the deadline. -/
def next (r : Reader) (deadline : Nat) : Dialogue Machine (Arrival × Reader) := do
  match r.take with
  | (.overdue, r) =>
      match ← Machine.ask (.input deadline) with
      | .bytes chunk => return ({ r with arrivals := r.arrivals.feed chunk } : Reader).take
      | .ended => return ({ r with arrivals := r.arrivals.finish } : Reader).take
      | .failed reason => return (.failed (.system reason), r)
      | .nothing => return (.overdue, r)
  | taken => return taken

/-- A stream of lines answers as the stream of records of a delivery. -/
def answer : Server Intake Machine Reader
  | .next deadline, r => r.next deadline
  | .stopping, r => do return (← Machine.ask .stopping, r)
  | .clock, r => do return (← Machine.ask .clock, r)
  | .pause millis, r => do return (← Machine.ask (.pause millis), r)
  | .draw most room, r => do return (← Machine.ask (.draw most room), r)
  | .note reading, r => do return (← Machine.ask (.note reading), r)

end Reader

/-! ## Records that go out -/

/-- The result of putting bytes out. -/
def outputResult : Except String Unit → Outcome Unit
  | .ok () => .ok ()
  | .error reason => .error (.system reason)

/-- A store of offsets answers for the receiver of a publication; the records go out as lines. -/
def OffsetStore.answer : Server Outlet Machine OffsetStore
  | .load, s => pure (.ok s.load, s)
  | .store offsets, s => Machine.overFiles (s.commit offsets)
  | .emit record, s => do return (outputResult (← Machine.ask (.output record.line)), s)
  | .flush, s => do return (outputResult (← Machine.ask .flush), s)
  | .stopping, s => do return (← Machine.ask .stopping, s)
  | .pause millis, s => do return (← Machine.ask (.pause millis), s)
  | .note reading, s => do return (← Machine.ask (.note reading), s)

/-- Sessions over the web answer for a link. -/
def Sessions.answerLink (timeout : Nat) : Server Link Machine Sessions
  | .database call, s => Machine.overWeb (Sessions.answer timeout call s)
  | .pause millis, s => do return (← Machine.ask (.pause millis), s)
  | .note reading, s => do return (← Machine.ask (.note reading), s)
  | .now, s => do return (← Machine.ask .now, s)

/-! ## Stages -/

/-- **Where the program stands.** -/
inductive Stage where
  | over (result : Except Failure Unit)
  /-- Records are written to the database; they were flushed last at the given time. -/
  | delivering (d : Delivery) (lastFlush : Nat) (sink : Sink) (sessions : Sessions)
      (reader : Reader)
  /-- Tables of the database are read. -/
  | publishing (p : Publication) (source : Source) (sessions : Sessions) (store : OffsetStore)

namespace Stage

/-- The program is over with a failure. -/
def failed (context : String) (error : Error) : Stage := .over (.error ⟨context, error⟩)

/-- The program is over with the result of a run. -/
def ended (context : String) : Outcome Unit → Stage
  | .ok () => .over (.ok ())
  | .error e => failed context e

/-- Carry out a part of a delivery. -/
def deliver (d : Delivery) (sink : Sink) (sessions : Sessions) (reader : Reader)
    (part : Dialogue DeliveryHost Delivery.Progress) : Dialogue Machine Stage := do
  -- The sink answers the calls of the delivery, sessions and reader answer what is left.
  let ((progress, sink), sessions, reader) ←
    (part.serve Sink.answer sink).serveBoth (Sessions.answerLink sink.settings.requestTimeout)
      Reader.answer sessions reader
  match progress with
  | .going lastFlush => return .delivering d lastFlush sink sessions reader
  | .over result => return ended "sink stopped with an error" result

/-- Carry out a part of a publication. -/
def publish (p : Publication) (source : Source) (sessions : Sessions) (store : OffsetStore)
    (part : Dialogue PublicationHost Publication.Progress) : Dialogue Machine Stage := do
  let ((progress, source), sessions, store) ←
    (part.serve Source.answer source).serveBoth
      (Sessions.answerLink source.settings.requestTimeout) OffsetStore.answer sessions store
  match progress with
  | .going => return .publishing p source sessions store
  | .over result => return ended "source stopped with an error" result

/-- Begin to write records. The name of the bridge is the topic of the records. -/
def beginSink (s : BridgeSettings) : Dialogue Machine Stage :=
  match Delivery.make s.pipeline with
  | .error e => pure (failed "invalid configuration" e)
  | .ok d =>
      deliver d { settings := s.database } [] { stream := { topic := s.pipeline.name } } d.start

/-- Begin to read tables. -/
def beginSource (s : BridgeSettings) : Dialogue Machine Stage := do
  match ← Machine.overFiles (OffsetStore.openAt? s.database.offsetFile) with
  | .error e => return failed ("failed to open offset file " ++ s.database.offsetFile.getD "") e
  | .ok store =>
      match Publication.make s.pipeline with
      | .error e => return failed "invalid configuration" e
      | .ok p => publish p (Source.ofSettings s.database) [] store p.start

/-- **The program up to its first round:** load the settings, check them, and prepare. -/
def begin (env : Environment) : Dialogue Machine Stage := do
  match ← Machine.overFiles (BridgeSettings.load env) with
  | .error e => return failed "failed to load configuration" e
  | .ok settings =>
      match settings.check with
      | .error e => return failed "invalid configuration" e
      | .ok () =>
          match settings.database.mode with
          | .sink => beginSink settings
          | .source => beginSource settings

/-- **One round more.** -/
def advance : Stage → Dialogue Machine Stage
  | .over result => pure (.over result)
  | .delivering d lastFlush sink sessions reader =>
      deliver d sink sessions reader (d.round lastFlush)
  | .publishing p source sessions store => publish p source sessions store p.round

end Stage

end SeriesBridge
