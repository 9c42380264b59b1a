import SeriesBridge.Offset.Store
import SeriesBridge.Proofs.Json.Reading
import SeriesBridge.Proofs.Keyed
import SeriesBridge.Proofs.Text.Utf8

/-! # Documents of positions read back

* **`Positions.InOrder p`** — partitions are in order, and so are the components of each.
* **`Positions.ofBytes?_toBytes`** — then the bytes of a file hold what was written. -/

namespace SeriesBridge.Positions

open Json

/-- **Partitions in order, each with its components in order.** -/
structure InOrder (p : Positions) : Prop where
  partitions : Keyed.InOrder p
  components : ∀ q ∈ p, Keyed.InOrder q.2

/-! ## The tree of a document -/

/-- A component as it is written. -/
def componentJson (n : Int64) : Json := .number (.integer n.toInt)

/-- A position as it is written. -/
def positionJson (position : List (String × Int64)) : Json :=
  .object (membersOf componentJson position)

/-- The document is an object of positions. -/
theorem toJson_eq (p : Positions) : p.toJson = .object (membersOf positionJson p) := rfl

/-- The tree of a component. -/
def componentTree (n : Int64) : Tree := .number (integerText n.toInt)

/-- The tree of a position. -/
def positionTree (position : List (String × Int64)) : Tree := .object (treesOf componentTree position)

/-- **The tree of the document of positions.** -/
def toTree (p : Positions) : Tree := .object (treesOf positionTree p)

/-- A component is read as its tree. -/
theorem readAs_component (level : Nat) (n : Int64) :
    ReadAs (prettyAt level (componentJson n)) (componentTree n) := readAs_integer n.toInt

/-- A position is read as its tree. -/
theorem readAs_position (level : Nat) (position : List (String × Int64)) :
    ReadAs (prettyAt level (positionJson position)) (positionTree position) :=
  readAs_object (fun p _ => readAs_component (level + 1) p.2)

/-- **The document is read as its tree.** -/
theorem readAs_pretty (p : Positions) : ReadAs p.toJson.pretty p.toTree := by
  rw [toJson_eq]
  exact readAs_object (fun q _ => readAs_position 1 q.2)

/-! ## The positions of a tree -/

/-- A component is read back. -/
theorem readComponent?_componentTree (n : Int64) : readComponent? (componentTree n) = some n := by
  have hlow := Int64.le_toInt n
  have hhigh := Int64.toInt_lt n
  have hvalue := value?_integerText (n := n.toInt) (by omega) (by omega)
  simp only [readComponent?, componentTree, hvalue, Number.int64?]
  rw [if_pos (by omega), Int64.ofInt_toInt]

/-- **Members are set one after the other** when each of them is read back. -/
theorem readMembers?_treesOf {α : Type} {read : Tree → Option α} {tree : α → Tree}
    {m : List (String × α)} (h : ∀ p ∈ m, read (tree p.2) = some p.2) :
    readMembers? read (treesOf tree m) = some (Keyed.ofList m) := by
  unfold readMembers? Keyed.ofList
  generalize ([] : List (String × α)) = start
  induction m generalizing start with
  | nil => rfl
  | cons p m ih =>
      have hrest := ih (fun q hq => h q (List.mem_cons_of_mem _ hq)) (Keyed.insert p.1 p.2 start)
      rw [treesOf, List.map_cons, List.foldlM_cons]
      simp only [h p List.mem_cons_self, Option.bind_eq_bind, Option.bind_some, String.ofList_toList]
      exact hrest

/-- A position is read back. -/
theorem readPosition?_positionTree {position : List (String × Int64)} (h : Keyed.InOrder position) :
    readPosition? (positionTree position) = some position :=
  (readMembers?_treesOf (fun p _ => readComponent?_componentTree p.2)).trans (congrArg some h.ofList_eq)

/-- **Positions are read back.** -/
theorem ofTree?_toTree {p : Positions} (h : p.InOrder) : ofTree? p.toTree = some p :=
  (readMembers?_treesOf (fun q hq => readPosition?_positionTree (h.components q hq))).trans
    (congrArg some h.partitions.ofList_eq)

/-- **The bytes of a file hold what was written.** -/
theorem ofBytes?_toBytes {p : Positions} (h : p.InOrder) : ofBytes? p.toBytes = some p := by
  unfold ofBytes? toBytes
  rw [Text.Utf8.decode_encode]
  dsimp only
  rw [(readAs_pretty p).ofText?_eq]
  exact ofTree?_toTree h

end SeriesBridge.Positions
