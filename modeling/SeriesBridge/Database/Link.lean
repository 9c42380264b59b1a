import SeriesBridge.Database.Endpoint
import SeriesBridge.Database.Result
import SeriesBridge.Dialogue.Basic
import SeriesBridge.Metrics
import SeriesBridge.Precision
import SeriesBridge.Time.Instant

/-! # The link to a database

What a bridge asks of a database, and of the machine that it runs on while it does so. Sessions with
the database are numbered by the one who opens them.

* **`DatabaseCall`** — a call on a session.
* **`Link`** — the interface: calls on sessions, waits, readings and the time of day. -/

namespace SeriesBridge

/-- **A call on a session** with a database. -/
inductive DatabaseCall where
  /-- Open a session. -/
  | connect (session : Nat) (endpoint : Endpoint) (credentials : Credentials)
  /-- Run a statement; the answer is whether it has a result. -/
  | execute (session : Nat) (sql : String)
  /-- Run a statement for its result. -/
  | query (session : Nat) (sql : String)
  /-- Work on a database from now on. -/
  | select (session : Nat) (name : String)
  /-- Write lines without a schema. -/
  | write (session : Nat) (lines : List String) (protocol : Protocol) (precision : Precision)
  /-- Close a session. -/
  | close (session : Nat)
  deriving Repr

namespace DatabaseCall

/-- What comes of a call. -/
def Answer : DatabaseCall → Type
  | connect .. => Outcome Unit
  | execute .. => Outcome Bool
  | query .. => Outcome QueryResult
  | select .. => Outcome Unit
  | write .. => Outcome Unit
  | close _ => Outcome Unit

/-- The session of a call. -/
def session : DatabaseCall → Nat
  | connect s _ _ => s
  | execute s _ => s
  | query s _ => s
  | select s _ => s
  | write s _ _ _ => s
  | close s => s

end DatabaseCall

/-- What is asked over a link. -/
inductive LinkCall where
  | database (call : DatabaseCall)
  /-- Wait a number of milliseconds. -/
  | pause (millis : Nat)
  /-- Take a reading. -/
  | note (reading : Reading)
  /-- The time of day. -/
  | now
  deriving Repr

/-- What comes of asking. -/
def LinkCall.Answer : LinkCall → Type
  | database call => call.Answer
  | pause _ => Unit
  | note _ => Unit
  | now => Instant

/-- **The link to a database.** -/
def Link : Interface := ⟨LinkCall, LinkCall.Answer⟩

namespace Link

/-- Open a session. -/
def connect (session : Nat) (endpoint : Endpoint) (credentials : Credentials) :
    Dialogue Link (Outcome Unit) :=
  .ask (I := Link) (.database (.connect session endpoint credentials))

/-- Run a statement. -/
def execute (session : Nat) (sql : String) : Dialogue Link (Outcome Bool) :=
  .ask (I := Link) (.database (.execute session sql))

/-- Run a statement for its result. -/
def query (session : Nat) (sql : String) : Dialogue Link (Outcome QueryResult) :=
  .ask (I := Link) (.database (.query session sql))

/-- Work on a database from now on. -/
def select (session : Nat) (name : String) : Dialogue Link (Outcome Unit) :=
  .ask (I := Link) (.database (.select session name))

/-- Write lines. -/
def write (session : Nat) (lines : List String) (protocol : Protocol) (precision : Precision) :
    Dialogue Link (Outcome Unit) :=
  .ask (I := Link) (.database (.write session lines protocol precision))

/-- Close a session. -/
def close (session : Nat) : Dialogue Link (Outcome Unit) :=
  .ask (I := Link) (.database (.close session))

/-- Wait. -/
def pause (millis : Nat) : Dialogue Link Unit := .ask (I := Link) (.pause millis)

/-- Take a reading. -/
def note (reading : Reading) : Dialogue Link Unit := .ask (I := Link) (.note reading)

/-- The time of day. -/
def now : Dialogue Link Instant := .ask (I := Link) .now

end Link

end SeriesBridge
