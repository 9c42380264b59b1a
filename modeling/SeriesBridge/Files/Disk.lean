import SeriesBridge.Files
import SeriesBridge.Keyed

/-! # Disks

Files in memory, by their paths. A disk answers the requests for files, so that what a bridge does
to files can be followed step by step.

* **`Disk`** — what stands at each path.
* **`Disk.answer`** — answers a request. -/

namespace SeriesBridge

/-- What stands at a path. -/
inductive DiskEntry where
  | file (bytes : List UInt8)
  | folder
  deriving DecidableEq, Repr, Inhabited

/-- **Files and folders by their paths,** in order. -/
structure Disk where
  entries : List (String × DiskEntry) := []
  deriving DecidableEq, Repr, Inhabited

namespace Disk

/-- The fault of a path at which there is nothing. -/
def absent : FileFault := ⟨"No such file or directory (os error 2)", true⟩

/-- The fault of a path at which there is a folder. -/
def isFolder : FileFault := ⟨"Is a directory (os error 21)", false⟩

/-- What stands at a path. -/
def entry? (d : Disk) (path : String) : Option DiskEntry := Keyed.lookup path d.entries

/-- The bytes of a file. -/
def bytes? (d : Disk) (path : String) : Option (List UInt8) :=
  match d.entry? path with
  | some (.file bytes) => some bytes
  | _ => none

/-- Let a file stand at a path. -/
def put (d : Disk) (path : String) (bytes : List UInt8) : Disk :=
  { entries := Keyed.insert path (.file bytes) d.entries }

/-- The folder that a path lies in. -/
def folderOf (path : String) : String :=
  String.ofList ((path.toList.reverse.dropWhile (· != '/')).drop 1).reverse

/-- Whether a file can be made at a path. -/
def hasFolder (d : Disk) (path : String) : Bool :=
  folderOf path == "" || d.entry? (folderOf path) == some .folder

/-- Put what stands at a path in the place of what stands at another. -/
def move (d : Disk) (path target : String) (entry : DiskEntry) : Disk :=
  if path = target then d
  else { entries := Keyed.insert target entry (d.entries.filter (fun e => e.1 != path)) }

/-- **Answer a request.** -/
def answer : (call : FileCall) → Disk → call.Answer × Disk
  | .read path, d =>
      match d.entry? path with
      | some (.file bytes) => (.ok bytes, d)
      | some .folder => (.error isFolder, d)
      | none => (.error absent, d)
  | .write path bytes, d =>
      if d.entry? path == some .folder then (.error isFolder, d)
      else if d.hasFolder path then (.ok (), d.put path bytes)
      else (.error absent, d)
  | .rename path target, d =>
      match d.entry? path, d.entry? target with
      | none, _ => (.error absent, d)
      | some (.file _), some .folder => (.error isFolder, d)
      | some entry, _ => (.ok (), d.move path target entry)

end Disk

end SeriesBridge
