import SeriesBridge.Dialogue.Basic
import SeriesBridge.Text.Utf8

/-! # Files

What the bridge does with files: it reads one, writes one, and puts one in the place of another.

* **`Files`** — the interface of these requests.
* **`FileFault`** — why one of them failed.
* **`besidePath path extension`** — the path of a file beside another one. -/

namespace SeriesBridge

/-- **Why a request for a file failed,** in the words of the system. -/
structure FileFault where
  text : String
  /-- Whether it failed because there is no such file. -/
  missing : Bool := false
  deriving DecidableEq, Repr, Inhabited

/-- A request for a file. -/
inductive FileCall where
  | read (path : String)
  | write (path : String) (bytes : List UInt8)
  /-- Put one file in the place of another, in one step. -/
  | rename (path target : String)
  deriving DecidableEq, Repr

/-- What comes of a request for a file. -/
def FileCall.Answer : FileCall → Type
  | read _ => Except FileFault (List UInt8)
  | write _ _ => Except FileFault Unit
  | rename _ _ => Except FileFault Unit

/-- **The files of a system.** -/
def Files : Interface := ⟨FileCall, FileCall.Answer⟩

namespace Files

/-- Read a file. -/
def read (path : String) : Dialogue Files (Except FileFault (List UInt8)) :=
  .ask (I := Files) (.read path)

/-- Write a file. -/
def write (path : String) (bytes : List UInt8) : Dialogue Files (Except FileFault Unit) :=
  .ask (I := Files) (.write path bytes)

/-- Put one file in the place of another. -/
def rename (path target : String) : Dialogue Files (Except FileFault Unit) :=
  .ask (I := Files) (.rename path target)

end Files

/-- A name without its extension: the text before the last dot, unless that dot is the first
character. -/
def dropExtension (name : List Char) : List Char :=
  let extension := (name.reverse.takeWhile (· != '.')).reverse
  let stem := name.take (name.length - extension.length - 1)
  if stem.isEmpty then name else stem

/-- A reversed path without the slashes, and the dots between slashes, that it starts with. -/
def dropTrail : List Char → List Char
  | '/' :: s => dropTrail s
  | '.' :: '/' :: s => dropTrail ('/' :: s)
  | s => s

/-- **The path of a file beside another one,** with another extension. A path that ends in no name
is kept. -/
def besidePath (path extension : String) : String :=
  let reversed := dropTrail path.toList.reverse
  let name := (reversed.takeWhile (· != '/')).reverse
  if name == ['.', '.'] || name == ['.'] || name.isEmpty then path
  else
    String.ofList ((reversed.dropWhile (· != '/')).reverse ++ dropExtension name ++
      '.' :: extension.toList)

/-- The extension is replaced. -/
example : besidePath "/run/offsets.json" "tmp" = "/run/offsets.tmp" := by decide +kernel

/-- A name that starts with its only dot has no extension. -/
example : besidePath ".offsets" "tmp" = ".offsets.tmp" := by decide +kernel

end SeriesBridge
