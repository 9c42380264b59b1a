import SeriesBridge.Database.Result
import SeriesBridge.Error
import SeriesBridge.Json.Printer
import SeriesBridge.Json.Tree
import SeriesBridge.Web.Basic

/-! # Reports on statements

The web interface of a database reports on a statement with a document: a code that is zero for
success, a description of what went wrong, and the columns and rows of the result.

* **`Report.ofTree? t`** — the report in a document.
* **`Report.ofReply r`** — the report in a reply, or the error that the reply stands for.
* **`Report.result`**, **`Report.hasResult`** — what a report says about a result. -/

namespace SeriesBridge

/-- **A report on a statement.** -/
structure Report where
  code : Int64
  description : Option String := none
  /-- For each column its name, its type and more. -/
  columns : List (List Json) := []
  rows : List (List Json) := []
  deriving Repr

namespace Report

/-! ## Documents -/

/-- How deep a cell may nest: the report and two lists are around it. -/
def cellLevels : Nat := Json.maxLevels - 3

/-- A whole number of 64 bits. -/
def readCode? : Json.Tree → Option Int64
  | .number n => n.value?.bind Json.Number.int64?
  | _ => none

/-- A text, or nothing. -/
def readDescription? : Json.Tree → Option (Option String)
  | .null => some none
  | .string s => s.map (fun s => some (String.ofList s))
  | _ => none

/-- The values of a row. -/
def readRow? : Json.Tree → Option (List Json)
  | .array cells => Json.Tree.values? cellLevels cells
  | _ => none

/-- Rows of values. -/
def readRows? : Json.Tree → Option (List (List Json))
  | .array rows => rows.mapM readRow?
  | _ => none

/-- The names of the parts of a report, in order. -/
def fieldNames : List String := ["code", "desc", "column_meta", "data"]

/-- The parts of a report by their names. Other parts do not count, but no part may be there
twice. -/
def fields? (members : List (Option (List Char) × Json.Tree)) :
    Option (List (String × Json.Tree)) :=
  members.foldlM
    (fun fields (key, t) => do
      let key ← key
      let key := String.ofList key
      if !fieldNames.contains key then some fields
      else if (fields.lookup key).isSome then none
      else some (fields ++ [(key, t)])) []

/-- The report of parts by their names. The code has to be there. -/
def ofFields? (fields : List (String × Json.Tree)) : Option Report := do
  let code ← (fields.lookup "code").bind readCode?
  let description ← ((fields.lookup "desc").map readDescription?).getD (some none)
  let columns ← ((fields.lookup "column_meta").map readRows?).getD (some [])
  let rows ← ((fields.lookup "data").map readRows?).getD (some [])
  some { code, description, columns, rows }

/-- **The report in a document:** its parts by their names, or in a list by their order. -/
def ofTree? : Json.Tree → Option Report
  | .object members => (fields? members).bind ofFields?
  -- A list may leave out parts at its end.
  | .array items =>
      if items.length ≤ fieldNames.length then ofFields? (fieldNames.zip items) else none
  | _ => none

/-- The report in a text. -/
def ofText? (s : String) : Option Report := (Json.Tree.ofText? s.toList).bind ofTree?

/-! ## Results -/

/-- Whether a statement has a result. One that has none reports a single column for the number of
rows that it changed. -/
def hasResult (r : Report) : Bool :=
  match r.columns with
  | [.string name :: _] => name != "affected_rows"
  | _ => true

/-- A column. The type is a name, or whatever stands in its place. -/
def column (parts : List Json) : Column where
  name := (parts.head?.bind Json.text?).getD ""
  type :=
    match parts with
    | _ :: .string name :: _ => name
    | _ :: other :: _ => String.ofList other.compact
    | _ => ""

/-- The result of a statement. -/
def result (r : Report) : QueryResult := { columns := r.columns.map column, rows := r.rows }

/-! ## Errors -/

/-- **The error of a reply that holds no report.** -/
def statusError (status : Nat) (body : String) : Error :=
  let body := String.ofList (Text.trim body.toList)
  if Status.isRefusal status then .authentication (Status.describe status ++ ": " ++ body)
  else
    let text := "taosAdapter returned " ++ Status.describe status ++ ": " ++ body
    if Status.isServerFault status || Status.isTooMany status then .retryable text none
    else .fatal text none

/-- Whether a description tells that the credentials were refused. -/
def refusesCredentials (description : String) : Bool :=
  (Text.splitFirst "authentication failure".toList (Text.lower description.toList)).isSome

/-- The words for a report of a failure: its code in base 16, as a word of 64 bits, and its
description. -/
def failureText (r : Report) : String :=
  "[0x" ++ String.ofList (Text.showHex 4 r.code.toUInt64.toNat) ++ "] " ++
    r.description.getD "unknown error"

/-- The error that a report of a failure stands for. -/
def failure (status : Nat) (r : Report) : Error :=
  if Status.isRefusal status || refusesCredentials (r.description.getD "unknown error") then
    .authentication r.failureText
  else if Status.isServerFault status then .retryable r.failureText none
  else .fatal r.failureText none

/-- **The report in a reply,** or the error that the reply stands for. -/
def ofReply (reply : WebReply) : Outcome Report :=
  match ofText? reply.text with
  | some r => if r.code = 0 then .ok r else .error (r.failure reply.status)
  | none =>
      if Status.isSuccess reply.status then
        .error (.serialization ("unexpected taosAdapter response: " ++ Json.unreadable))
      else .error (statusError reply.status reply.text)

end Report

end SeriesBridge
