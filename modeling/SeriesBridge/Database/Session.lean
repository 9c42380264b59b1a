import SeriesBridge.Database.Cache
import SeriesBridge.Database.Report

/-! # Sessions over the web

The web interface of a database keeps no sessions. A session is what is remembered on this side: the
endpoint, the credentials, and the database to work on.

* **`Session`** — what is remembered.
* **`Session.post`**, **`Session.select`**, **`Session.write`** — the calls on a session.
* **`Sessions.answer`** — answers the calls of a link by requests over the web. -/

namespace SeriesBridge

/-- **A session over the web.** -/
structure Session where
  endpoint : Endpoint
  credentials : Credentials
  database : Option String
  /-- The seconds after which a request fails. -/
  timeout : Nat
  deriving DecidableEq, Repr

namespace Session

/-- The error of a request without a reply. -/
def unanswered (why : String) : Error :=
  .retryable "request to taosAdapter failed" (some (.foreign why))

/-- The error of a call on a session that is closed. -/
def closed : Error := .retryable "connection is closed" none

/-- Post a text to a path of the server. -/
def post (s : Session) (target body : String) : Dialogue Web (Outcome WebReply) := do
  match ← Web.post
      { endpoint := s.endpoint, target, authorization := s.credentials.authorization, body
        timeout := s.timeout } with
  | .ok reply => return .ok reply
  | .error why => return .error (unanswered why)

/-! ## Statements -/

/-- A path against the root of the server. -/
def path (s : String) : String := String.ofList (Url.joinPath s.toList)

/-- Where statements are posted to. -/
def statementTarget (s : Session) : String :=
  match s.database with
  | some name => path ("rest/sql/" ++ name)
  | none => path "rest/sql"

/-- **Run a statement.** -/
def run (s : Session) (sql : String) : Dialogue Web (Outcome Report) := do
  return (← s.post s.statementTarget sql).bind Report.ofReply

/-! ## Databases -/

/-- **Work on a database** from now on. Its name is made of letters, digits and underscores. -/
def select (s : Session) (name : String) : Outcome Session :=
  if Text.isWordName name.toList then .ok { s with database := some name }
  else .error (.configuration ("invalid database name '" ++ name ++ "'"))

/-! ## Writes -/

/-- The name of a unit of time where lines are written. -/
def unitName : Precision → String
  | .millis => "ms"
  | .micros => "u"
  | .nanos => "ns"

/-- A name and a value in a query. -/
def pair (name value : String) : String :=
  name ++ "=" ++ String.ofList (Url.encodeForm value.toList)

/-- Where lines are posted to. -/
def writeTarget (database : String) (precision : Precision) : Protocol → String
  | .line =>
      path "influxdb/v1/write" ++ "?" ++ pair "db" database ++ "&" ++
        pair "precision" (unitName precision)
  | .telnet => path ("opentsdb/v1/put/telnet/" ++ database)
  | .json => path ("opentsdb/v1/put/json/" ++ database)

/-- The values of a document: those of an array one by one. -/
def documentItems (line : String) : Outcome (List Json) :=
  match Json.read? line.toList with
  | some (.array items) => .ok items
  | some v => .ok [v]
  | none => .error (.format line Json.unreadable)

/-- **Documents as one array.** -/
def mergeDocuments (lines : List String) : Outcome String := do
  let items ← lines.mapM documentItems
  .ok (String.ofList (Json.array items.flatten).compact)

/-- **The body that lines are posted in:** one array of documents, or lines with breaks between
them. -/
def writeBody (lines : List String) : Protocol → Outcome String
  | .json => mergeDocuments lines
  | _ => .ok ("\n".intercalate lines)

/-- **Write lines.** Without lines nothing is posted. -/
def write (s : Session) (lines : List String) (protocol : Protocol) (precision : Precision) :
    Dialogue Web (Outcome Unit) := do
  if lines.isEmpty then return .ok ()
  else
    match s.database with
    | none => return .error (.configuration "no database selected for schemaless write")
    | some database =>
        match writeBody lines protocol with
        | .error e => return .error e
        | .ok body =>
            match ← s.post (writeTarget database precision protocol) body with
            | .error e => return .error e
            | .ok reply =>
                if Status.isSuccess reply.status then return .ok ()
                else return .error (Report.statusError reply.status reply.text)

end Session

/-! ## Many sessions -/

/-- **The sessions that are open,** by their numbers. -/
abbrev Sessions := List (Nat × Session)

namespace Sessions

/-- Use an open session. -/
def use {α : Type} (sessions : Sessions) (number : Nat)
    (call : Session → Dialogue Web (Outcome α)) : Dialogue Web (Outcome α × Sessions) :=
  match sessions.lookup number with
  | some s => do return (← call s, sessions)
  | none => pure (.error Session.closed, sessions)

/-- The sessions without one. -/
def drop (sessions : Sessions) (number : Nat) : Sessions :=
  sessions.filter (fun s => s.1 != number)

/-- **Answer a call.** A session is open once a first statement has run on it. -/
def answer (timeout : Nat) :
    (call : DatabaseCall) → Sessions → Dialogue Web (call.Answer × Sessions)
  | .connect number endpoint credentials, sessions => do
      let s : Session := { endpoint, credentials, database := endpoint.database, timeout }
      -- There is nothing to connect to, so a statement shows whether the server can be used.
      match ← s.run Cache.probe with
      | .error e => return (.error e, sessions)
      | .ok _ => return (.ok (), (number, s) :: sessions.drop number)
  | .execute number sql, sessions =>
      sessions.use number (fun s => do return (← s.run sql).map Report.hasResult)
  | .query number sql, sessions =>
      sessions.use number (fun s => do return (← s.run sql).map Report.result)
  | .select number name, sessions =>
      match sessions.lookup number with
      | none => pure (.error Session.closed, sessions)
      | some s =>
          match s.select name with
          | .error e => pure (.error e, sessions)
          | .ok s => pure (.ok (), (number, s) :: sessions.drop number)
  | .write number lines protocol precision, sessions =>
      sessions.use number (fun s => s.write lines protocol precision)
  | .close number, sessions => pure (.ok (), sessions.drop number)

end Sessions

end SeriesBridge
