import SeriesBridge.Error
import SeriesBridge.Text.Blank

/-! # Reports of failures

A program that fails tells what it was doing and what went wrong, from the nearest cause down.

* **`Failure`** — what was done, and the error.
* **`Failure.render f`** — the report. -/

namespace SeriesBridge

/-- **Why a program failed.** -/
structure Failure where
  /-- What the program was doing. -/
  context : String
  error : Error
  deriving Repr

namespace Failure

/-- The causes, from the nearest down. -/
def causes (f : Failure) : List String := f.error.message :: f.error.sources

/-- A text behind a lead; its further lines stand as far in as the lead does. -/
def indented (lead : String) (text : String) : String :=
  let margin := String.ofList (List.replicate lead.length ' ')
  lead ++ ("\n" ++ margin).intercalate ((Text.pieces (· == '\n') text.toList).map String.ofList)

/-- The lead of a cause with a number. -/
def numbered (n : Nat) : String :=
  let digits := toString n
  String.ofList (List.replicate (5 - digits.length) ' ') ++ digits ++ ": "

/-- The causes as paragraphs. Several of them are numbered from zero. -/
def paragraphs : List String → List String
  | [cause] => [indented "    " cause]
  | causes => causes.zipIdx.map (fun (cause, n) => indented (numbered n) cause)

/-- **The report of a failure.** -/
def render (f : Failure) : String :=
  "Error: " ++ f.context ++ "\n\nCaused by:\n" ++ "\n".intercalate (paragraphs f.causes) ++ "\n"

/-- A single cause has no number. -/
example : render ⟨"invalid configuration", .configuration "name is empty"⟩ =
    "Error: invalid configuration\n\nCaused by:\n    configuration error: name is empty\n" := by
  decide +kernel

end Failure

end SeriesBridge
