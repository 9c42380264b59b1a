import SeriesBridge.Keyed

/-! # Offsets

An offset says how far a partition of a source has been read. What its components mean is known
to the source alone; everyone else keeps them as they are.

* **`Offset`** — a partition and its named components.
* **`latest offsets`** — the last offset of every partition, in order of first occurrence. -/

namespace SeriesBridge

/-- **How far a partition has been read.** The components are in order of their names. -/
structure Offset where
  partition : String
  position : List (String × Int64) := []
  deriving DecidableEq, Repr, Inhabited

namespace Offset

/-- A component of an offset. -/
def component? (o : Offset) (key : String) : Option Int64 := Keyed.lookup key o.position

/-- Set a component of an offset. -/
def set (o : Offset) (key : String) (value : Int64) : Offset :=
  { o with position := Keyed.insert key value o.position }

/-- A component that was set is there. -/
@[simp] theorem component?_set_self (o : Offset) (key : String) (value : Int64) :
    (o.set key value).component? key = some value :=
  Keyed.lookup_insert_self key value o.position

/-- Take a newer offset into a list with one offset to a partition: in place of the older one, or
at the end. -/
def update (o : Offset) : List Offset → List Offset
  | [] => [o]
  | other :: rest => if other.partition = o.partition then o :: rest else other :: update o rest

/-- **The last offset of every partition,** the partitions in order of first occurrence. -/
def latest (offsets : List Offset) : List Offset :=
  offsets.foldl (fun known o => update o known) []

/-- No offsets, no latest ones. -/
@[simp] theorem latest_nil : latest [] = [] := rfl

/-- One offset more takes the place of the older one. -/
theorem latest_concat (offsets : List Offset) (o : Offset) :
    latest (offsets ++ [o]) = update o (latest offsets) := by
  simp [latest]

end Offset

end SeriesBridge
