import SeriesBridge.Database.Provider
import SeriesBridge.Settings.Database

/-! # Holding a session

At most one session is held. It is opened when it is first needed, tried with a small query each
time before it is used, and replaced when that query fails. The database to work on is remembered
and set up again on every new session.

* **`Cache`** — the session that is held, and what is remembered.
* **`Cache.validated`** — the session, tried or new.
* **`Cache.setDatabase`**, **`Cache.execute`**, **`Cache.query`**, **`Cache.write`**,
  **`Cache.close`** — what is done with it. -/

namespace SeriesBridge

/-- What became of the last session. -/
inductive SessionState where
  | disconnected
  | connecting
  | connected
  /-- No session could be opened; the next use tries again. -/
  | failed
  deriving DecidableEq, Repr, Inhabited

/-- The name of a state. -/
def SessionState.name : SessionState → String
  | disconnected => "Disconnected"
  | connecting => "Connecting"
  | connected => "Connected"
  | failed => "Failed"

/-- **At most one session,** and what is remembered from one to the next. -/
structure Cache where
  provider : Provider
  /-- The unit of a database that has to be created. -/
  precision : Precision
  /-- Where readings are taken, if they are. -/
  meter : Option Meter := none
  held : Option Nat := none
  state : SessionState := .disconnected
  database : Option String := none
  /-- How many sessions were opened. -/
  opened : Nat := 0
  deriving DecidableEq, Repr

namespace Cache

/-- The query that tells whether a session can be used. -/
def probe : String := "SELECT SERVER_VERSION()"

/-- The statement that creates a database. -/
def creation (name : String) (precision : Precision) : String :=
  "CREATE DATABASE IF NOT EXISTS " ++ name ++ " PRECISION '" ++ precision.name ++ "'"

/-- **Set up a database on a session:** create it unless it exists, and work on it. -/
def setUp (session : Nat) (name : String) (precision : Precision) :
    Dialogue Link (Outcome Unit) := do
  match ← Link.execute session (creation name precision) with
  | .error e => return .error (.statement (creation name precision) e)
  | .ok _ =>
      match ← Link.select session name with
      | .error e => return .error (.statement ("USE " ++ name) e)
      | .ok () => return .ok ()

/-- **Give the session up.** A session that cannot be closed is given up all the same. -/
def close (c : Cache) : Dialogue Link Cache := do
  match c.held with
  | none => return { c with state := .disconnected }
  | some session =>
      -- Whether the session could be closed makes no difference.
      let _ ← Link.close session
      return { c with held := none, state := .disconnected }

/-- Take a reading when a session was replaced. -/
def noteReplaced (c : Cache) (replacing : Bool) : Dialogue Link Unit :=
  match c.meter with
  | some meter => if replacing then Link.note ⟨meter, .reconnected⟩ else pure ()
  | none => pure ()

/-- **Open a new session in the place of the old one,** with the database of the old one. A session
whose database cannot be set up is closed again. -/
def reconnect (c : Cache) : Dialogue Link (Outcome Unit × Cache) := do
  let replacing := c.held.isSome
  let c ← c.close
  let c := { c with state := .connecting }
  let session := c.opened
  match ← c.provider.connect session with
  | .error e => return (.error e, { c with state := .failed })
  | .ok () =>
      let c := { c with opened := session + 1 }
      match ← (match c.database with
        | some name => setUp session name c.precision
        | none => pure (.ok ())) with
      | .error e =>
          -- The session is of no use, but its number is spent.
          let _ ← Link.close session
          return (.error e, { c with state := .failed })
      | .ok () =>
          c.noteReplaced replacing
          return (.ok (), { c with held := some session, state := .connected })

/-- Whether the session that is held, if any, answers the probe. -/
def answersProbe (c : Cache) : Dialogue Link Bool := do
  match c.held with
  | none => return false
  | some session =>
      match ← Link.query session probe with
      | .ok _ => return true
      | .error _ => return false

/-- **The session to use:** the one that is held, if it answers the probe, or a new one. -/
def validated (c : Cache) : Dialogue Link (Outcome Nat × Cache) := do
  let (result, c) ←
    if ← c.answersProbe then pure (.ok (), c)
    else c.reconnect
  match result, c.held with
  | .error e, _ => return (.error e, c)
  | .ok (), some session => return (.ok session, c)
  | .ok (), none => return (.error (.fatal "no connection after reconnect" none), c)

/-- **Work on a database,** now and on every session to come. -/
def setDatabase (c : Cache) (name : String) : Dialogue Link (Outcome Unit × Cache) := do
  match checkIdentifier name with
  | .error e => return (.error e, c)
  | .ok () =>
      let (session, c) ← c.validated
      match session with
      | .error e => return (.error e, c)
      | .ok session =>
          match ← setUp session name c.precision with
          | .error e => return (.error e, c)
          -- Only a database that could be set up is remembered.
          | .ok () => return (.ok (), { c with database := some name })

/-- **Use the session** for a call. A failure of the call is the failure of the statement that it
stands for. -/
def use {α : Type} (c : Cache) (sql : String) (call : Nat → Dialogue Link (Outcome α)) :
    Dialogue Link (Outcome α × Cache) := do
  let (session, c) ← c.validated
  match session with
  | .error e => return (.error e, c)
  | .ok session =>
      match ← call session with
      | .error e => return (.error (.statement sql e), c)
      | .ok a => return (.ok a, c)

/-- Run a statement. -/
def execute (c : Cache) (sql : String) : Dialogue Link (Outcome Bool × Cache) :=
  c.use sql (fun session => Link.execute session sql)

/-- Run a statement for its result. -/
def query (c : Cache) (sql : String) : Dialogue Link (Outcome QueryResult × Cache) :=
  c.use sql (fun session => Link.query session sql)

/-- The words for a write that starts with a line. -/
def writing (first : String) (count : Nat) : String :=
  "schemaless write of " ++ toString count ++ " line(s) starting with `" ++ first ++ "`"

/-- **Write lines.** Without lines there is nothing to do. -/
def write (c : Cache) (lines : List String) (protocol : Protocol) (precision : Precision) :
    Dialogue Link (Outcome Unit × Cache) :=
  match lines with
  | [] => pure (.ok (), c)
  | first :: _ =>
      c.use (writing first lines.length)
        (fun session => Link.write session lines protocol precision)

/-! ## As it is shown -/

/-- The name of a unit as it is shown in a value. -/
def describePrecision : Precision → String
  | .millis => "Millis"
  | .micros => "Micros"
  | .nanos => "Nanos"

/-- A cache as it is shown. -/
def describe (c : Cache) : String :=
  let database := match c.database with
    | some name => "Some(" ++ String.ofList (Text.quoted name.toList) ++ ")"
    | none => "None"
  "ConnectionCache \x7b provider: " ++ c.provider.describe ++ ", state: " ++ c.state.name ++
    ", database: " ++ database ++ ", precision: " ++ describePrecision c.precision ++ " \x7d"

end Cache

end SeriesBridge
