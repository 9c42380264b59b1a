import SeriesBridge.Number.Double
import SeriesBridge.Precision

/-! # Measurement points

A point is one measurement at one time: a name, tags that say where it was taken, fields that say
what was measured, and a timestamp.

* **`Value`** — a typed tag or field value.
* **`Point`** — the point; the order of its tags and fields is kept.
* **`Point.check p`** — the first **`PointFault`** of `p`, if it has one. -/

namespace SeriesBridge

/-- A typed value of a tag or a field. -/
inductive Value where
  | int (n : Int64)
  | float (d : Double)
  | bool (b : Bool)
  | text (s : String)
  deriving DecidableEq, Repr, Inhabited

/-- A name and its value. -/
abbrev Pair := String × Value

/-- **One measurement point.** The precision is the unit of the timestamp. -/
structure Point where
  measurement : String
  tags : List Pair := []
  fields : List Pair := []
  timestamp : Option Int64 := none
  precision : Option Precision := none
  deriving DecidableEq, Repr, Inhabited

/-- The two kinds of pairs in a point. -/
inductive PairKind where
  | tag
  | field
  deriving DecidableEq, Repr

/-- The name of a kind. -/
def PairKind.name : PairKind → String
  | tag => "tag"
  | field => "field"

/-- What may be wrong with a point. -/
inductive PointFault where
  | missingMeasurement
  | missingFields
  | emptyKey (kind : PairKind)
  | duplicateKey (kind : PairKind) (key : String)
  deriving DecidableEq, Repr

/-- The words for a fault. -/
def PointFault.message : PointFault → String
  | missingMeasurement => "measurement name is required"
  | missingFields => "at least one field is required"
  | emptyKey kind => "empty " ++ kind.name ++ " key"
  | duplicateKey kind key => "duplicate " ++ kind.name ++ " key '" ++ key ++ "'"

namespace Point

/-- The first key of `pairs` that is empty or that stands in `seen` or before it. -/
def keyFault (kind : PairKind) (seen : List String) : List Pair → Option PointFault
  | [] => none
  | (key, _) :: rest =>
      if key.isEmpty then some (.emptyKey kind)
      else if seen.contains key then some (.duplicateKey kind key)
      else keyFault kind (key :: seen) rest

/-- No pairs have no fault. -/
@[simp] theorem keyFault_nil (kind : PairKind) (seen : List String) :
    keyFault kind seen [] = none := rfl

/-- **The first fault of a point:** no name, no field, then the keys of the tags and the keys of
the fields, each in order. -/
def check (p : Point) : Option PointFault :=
  if p.measurement.isEmpty then some .missingMeasurement
  else if p.fields.isEmpty then some .missingFields
  else
    match keyFault .tag [] p.tags with
    | some fault => some fault
    | none => keyFault .field [] p.fields

end Point

end SeriesBridge
