import SeriesBridge.Error
import SeriesBridge.Files
import SeriesBridge.Json.Printer
import SeriesBridge.Json.Tree
import SeriesBridge.Offset.Basic

/-! # Stores of offsets

Where offsets are kept from one run to the next.

* **`MemoryStore`** — offsets that are lost with the run.
* **`FileStore`** — offsets in a document of their own, which is replaced as a whole.
* **`Positions`** — the document: partitions in order, each with its components in order.
* **`OffsetStore`** — either of the two stores. -/

namespace SeriesBridge

/-! ## In memory -/

/-- **Offsets in memory,** in order of their partitions. -/
structure MemoryStore where
  saved : List (String × Offset) := []
  deriving DecidableEq, Repr, Inhabited

namespace MemoryStore

/-- The offsets that are kept. -/
def load (s : MemoryStore) : List Offset := s.saved.map (·.2)

/-- Keep offsets, each in the place of the one that its partition had. -/
def commit (s : MemoryStore) (offsets : List Offset) : MemoryStore :=
  { saved := offsets.foldl (fun m o => Keyed.insert o.partition o m) s.saved }

/-- The offset of a partition. -/
def get? (s : MemoryStore) (partition : String) : Option Offset :=
  Keyed.lookup partition s.saved

end MemoryStore

/-! ## Documents -/

/-- Partitions and their positions, both in order. -/
abbrev Positions := List (String × List (String × Int64))

namespace Positions

/-- Set the positions of offsets, one after the other. -/
def insertAll (offsets : List Offset) (p : Positions) : Positions :=
  offsets.foldl (fun m o => Keyed.insert o.partition o.position m) p

/-- Positions as offsets. -/
def toOffsets (p : Positions) : List Offset :=
  p.map (fun (partition, position) => { partition, position })

/-- The document of positions. -/
def toJson (p : Positions) : Json :=
  .object (p.map (fun (partition, position) =>
    (partition, .object (position.map (fun (key, n) => (key, .number (.integer n.toInt)))))))

/-- A component of a position: an integer that fits a word. -/
def readComponent? : Json.Tree → Option Int64
  | .number n =>
      match n.value? with
      | some n => n.int64?
      | none => none
  | _ => none

/-- The members of an object, each read; of two members of a key the later counts. -/
def readMembers? {α : Type} (read : Json.Tree → Option α)
    (members : List (Option (List Char) × Json.Tree)) : Option (List (String × α)) :=
  members.foldlM
    (fun m (key, v) => do
      let key ← key
      let v ← read v
      some (Keyed.insert (String.ofList key) v m)) []

/-- The position of a partition. -/
def readPosition? : Json.Tree → Option (List (String × Int64))
  | .object members => readMembers? readComponent? members
  | _ => none

/-- **The positions of a document.** -/
def ofTree? : Json.Tree → Option Positions
  | .object members => readMembers? readPosition? members
  | _ => none

/-- The positions that the bytes of a file hold. -/
def ofBytes? (bytes : List UInt8) : Option Positions :=
  match Text.Utf8.decode bytes with
  | .ok s => (Json.Tree.ofText? s).bind ofTree?
  | .error _ => none

/-- The bytes of a file that holds positions. -/
def toBytes (p : Positions) : List UInt8 := Text.Utf8.encode p.toJson.pretty

end Positions

/-! ## In a file -/

/-- **Offsets in a file.** What is kept is held in memory too. -/
structure FileStore where
  path : String
  saved : Positions := []
  deriving DecidableEq, Repr, Inhabited

namespace FileStore

/-- An error of the system. -/
def systemError (fault : FileFault) : Error := .system fault.text

/-- **Open a store.** A file that does not exist holds no offsets. -/
def openAt (path : String) : Dialogue Files (Outcome FileStore) := do
  match ← Files.read path with
  | .ok bytes =>
      match Positions.ofBytes? bytes with
      | some saved => return .ok { path, saved }
      | none =>
          return .error (.serialization ("Failed to parse offset file " ++ path ++ ": " ++
            Json.unreadable))
  | .error fault =>
      if fault.missing then return .ok { path } else return .error (systemError fault)

/-- The offsets that are kept. -/
def load (s : FileStore) : List Offset := s.saved.toOffsets

/-- The file that a new document is written to before it takes the place of the old one. -/
def draftPath (s : FileStore) : String := besidePath s.path "tmp"

/-- **Keep offsets,** each in the place of the one that its partition had. The new document is
written beside the old one and then put in its place. The offsets in memory are set before. -/
def commit (s : FileStore) (offsets : List Offset) : Dialogue Files (Outcome Unit × FileStore) := do
  let s := { s with saved := s.saved.insertAll offsets }
  match ← Files.write s.draftPath s.saved.toBytes with
  | .error fault => return (.error (systemError fault), s)
  | .ok () =>
      match ← Files.rename s.draftPath s.path with
      | .error fault => return (.error (systemError fault), s)
      | .ok () => return (.ok (), s)

end FileStore

/-! ## Either -/

/-- **A store of offsets.** -/
inductive OffsetStore where
  | memory (store : MemoryStore)
  | file (store : FileStore)
  deriving Repr

namespace OffsetStore

/-- Open the store in a file, if there is to be a file. -/
def openAt? : Option String → Dialogue Files (Outcome OffsetStore)
  | some path => do return (← FileStore.openAt path).map .file
  | none => pure (.ok (.memory {}))

/-- The offsets that are kept. -/
def load : OffsetStore → List Offset
  | memory store => store.load
  | file store => store.load

/-- Keep offsets. -/
def commit (offsets : List Offset) : OffsetStore → Dialogue Files (Outcome Unit × OffsetStore)
  | memory store => pure (.ok (), .memory (store.commit offsets))
  | file store => do
      let (result, store) ← store.commit offsets
      return (result, .file store)

end OffsetStore

end SeriesBridge
