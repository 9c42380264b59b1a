import SeriesBridge.Extraction.Mapping
import SeriesBridge.Proofs.Line.Faults
import SeriesBridge.Proofs.Number.Whole

/-! # Integers in cells

What becomes of the integer in a cell when its row becomes a point. A signed word is kept as it is; a word
beyond them is kept as a double, and only every 2048th of these words is one.

* **`Point.Holds p kind name v`** — what a point has under a name.
* **`ColumnMapping.holds_of_point`** — a point holds the value of every cell that has one.
* **`Value.number?`** — the number that a value is.
* **`ColumnMapping.nearest_of_point`** — a point holds the number nearest to an integer, and which
  integers are kept. -/

namespace SeriesBridge

/-! ## What a point holds -/

namespace Point

/-- The pairs of a kind. -/
def pairs (p : Point) : PairKind → List Pair
  | .tag => p.tags
  | .field => p.fields

/-- **What a point has under a name:** this value, once, among the pairs of this kind, and nothing
among the others. -/
def Holds (p : Point) (kind : PairKind) (name : String) (v : Value) : Prop :=
  ∀ k, (p.pairs k).filter (fun q => q.1 == name) = if k = kind then [(name, v)] else []

/-- A point has one value under a name. -/
theorem Holds.unique {p : Point} {kind kind' : PairKind} {name : String} {v v' : Value}
    (h : p.Holds kind name v) (h' : p.Holds kind' name v') : kind = kind' ∧ v = v' := by
  have hv := (h kind).symm.trans (h' kind)
  rw [if_pos rfl] at hv
  by_cases hkind : kind = kind'
  · rw [if_pos hkind, List.cons.injEq, Prod.mk.injEq] at hv
    exact ⟨hkind, hv.1.2⟩
  · rw [if_neg hkind] at hv
    cases hv

end Point

/-- **The only pair of its key.** -/
theorem filter_key_eq_singleton {pairs : List Pair} {name : String} {v : Value}
    (hnodup : (pairs.map Prod.fst).Nodup) (hmem : (name, v) ∈ pairs) :
    pairs.filter (fun q => q.1 == name) = [(name, v)] := by
  induction pairs with
  | nil => cases hmem
  | cons q pairs ih =>
      rw [List.map_cons, List.nodup_cons] at hnodup
      rcases List.mem_cons.1 hmem with rfl | hmem
      · have hnone : pairs.filter (fun q => q.1 == name) = [] := by
          rw [List.filter_eq_nil_iff]
          intro r hr hkey
          exact hnodup.1 (List.mem_map.2 ⟨r, hr, eq_of_beq hkey⟩)
        rw [List.filter_cons, if_pos (beq_self_eq_true name), hnone]
      · have hq : ¬ (q.1 == name) = true := by
          intro hkey
          exact hnodup.1 (List.mem_map.2 ⟨_, hmem, (eq_of_beq hkey).symm⟩)
        rw [List.filter_cons, if_neg hq, ih hnodup.2 hmem]

namespace ColumnMapping

variable {m : ColumnMapping} {ctx : RowContext} {row : List Json} {p : Point}

/-- **The point of a row** has its pairs from the columns, and no fault. -/
theorem point_eq_ok (h : m.point ctx row = .ok p) :
    p.check = none ∧
      p.tags = pairs (fun name => !m.isTime name && m.isTag name) ctx.columns row ∧
      p.fields = pairs (fun name => !m.isTime name && !m.isTag name) ctx.columns row := by
  unfold point at h
  cases htime : m.cursor ctx row with
  | error e =>
      rw [htime] at h
      cases h
  | ok time =>
      rw [htime] at h
      simp only [bind, Except.bind] at h
      split at h
      · cases h
      · next hcheck =>
          cases h
          exact ⟨hcheck, rfl, rfl⟩

/-- A cell makes a pair when its column is chosen. -/
theorem mem_pairs {choose : String → Bool} {columns : List Column} {i : Nat} {column : Column}
    {cell : Json} {v : Value} (hcolumn : columns[i]? = some column) (hcell : row[i]? = some cell)
    (hchoose : choose column.name = true) (hv : cellValue column cell = some v) :
    (column.name, v) ∈ pairs choose columns row := by
  refine List.mem_filterMap.2 ⟨(column, cell), ?_, ?_⟩
  · refine List.mem_of_getElem? (i := i) ?_
    rw [List.getElem?_zip_eq_some]
    exact ⟨hcolumn, hcell⟩
  · simp [hchoose, hv]

/-- Columns that are not chosen make no pair. -/
theorem filter_pairs_eq_nil {choose : String → Bool} {columns : List Column} {name : String}
    (h : choose name = false) : (pairs choose columns row).filter (fun q => q.1 == name) = [] := by
  rw [List.filter_eq_nil_iff]
  intro q hq hkey
  obtain ⟨⟨column, cell⟩, -, hpair⟩ := List.mem_filterMap.1 hq
  dsimp only at hpair
  split at hpair
  · next hchoose =>
      obtain ⟨v, -, rfl⟩ := Option.map_eq_some_iff.1 hpair
      have hname : column.name = name := eq_of_beq hkey
      rw [hname, h] at hchoose
      cases hchoose
  · cases hpair

/-- **A point holds the value of every cell that has one:** among the tags when its column is listed as
a tag, else among the fields. -/
theorem holds_of_point (h : m.point ctx row = .ok p) {i : Nat} {column : Column} {cell : Json}
    {v : Value} (hcolumn : ctx.columns[i]? = some column) (hcell : row[i]? = some cell)
    (htime : m.isTime column.name = false) (hv : cellValue column cell = some v) :
    p.Holds (if m.isTag column.name then .tag else .field) column.name v := by
  obtain ⟨hcheck, htags, hfields⟩ := point_eq_ok h
  obtain ⟨-, -, ⟨-, htagKeys⟩, -, hfieldKeys⟩ := Point.check_eq_none_iff.1 hcheck
  -- Of the two kinds the column is chosen for one, where no other column has its name.
  intro kind
  cases htag : m.isTag column.name with
  | true =>
      cases kind with
      | tag =>
          refine filter_key_eq_singleton htagKeys ?_
          show _ ∈ p.tags
          rw [htags]
          exact mem_pairs hcolumn hcell (by simp [htime, htag]) hv
      | field =>
          show p.fields.filter _ = []
          rw [hfields]
          exact filter_pairs_eq_nil (by simp [htag])
  | false =>
      cases kind with
      | tag =>
          show p.tags.filter _ = []
          rw [htags]
          exact filter_pairs_eq_nil (by simp [htag])
      | field =>
          refine filter_key_eq_singleton hfieldKeys ?_
          show _ ∈ p.fields
          rw [hfields]
          exact mem_pairs hcolumn hcell (by simp [htime, htag]) hv

end ColumnMapping

/-! ## Numbers -/

/-- **The number that a value is,** if it is one. -/
def Value.number? : Value → Option ℚ
  | .int n => some n.toInt
  | .float d => if d.isFinite then some d.value else none
  | .bool _ => none
  | .text _ => none

/-- The types of columns whose cells are integers, but for times. -/
def integerTypes : List String :=
  ["TINYINT", "SMALLINT", "INT", "BIGINT", "TINYINT UNSIGNED", "SMALLINT UNSIGNED", "INT UNSIGNED",
    "BIGINT UNSIGNED"]

/-- **A column of integers:** its type is one of these, in any case of its letters. -/
def Column.HoldsIntegers (column : Column) : Prop :=
  ∃ type ∈ integerTypes, Text.upper column.type.toList = type.toList

/-- These types are types of integers, and none of them is the type of truth values. -/
theorem isIntegerType_of_mem {type : String} (h : type ∈ integerTypes) :
    (type.toList == "BOOL".toList) = false ∧ isIntegerType type.toList = true := by
  have hall : ∀ t ∈ integerTypes, (t.toList == "BOOL".toList) = false ∧ isIntegerType t.toList = true := by
    decide +kernel
  exact hall type h

/-- **An integer in a column of integers** is a signed word or else a double. -/
theorem cellValue_integer {column : Column} (h : column.HoldsIntegers) (n : Int) :
    cellValue column (.number (.integer n)) =
      some (if n < 2 ^ 63 then .int (Int64.ofInt n) else .float (Double.ofInt n)) := by
  obtain ⟨type, htype, hupper⟩ := h
  obtain ⟨hbool, hinteger⟩ := isIntegerType_of_mem htype
  have hword : (Json.Number.integer n).int64? = if n < 2 ^ 63 then some (Int64.ofInt n) else none := rfl
  have hofType : valueOfType? type.toList (.number (.integer n)) =
      (Json.Number.integer n).int64?.map .int := by
    rw [valueOfType?, hbool, if_neg Bool.false_ne_true, if_pos hinteger]
  have hnull : ¬ (Json.number (.integer n)).isNull = true := Bool.false_ne_true
  rw [cellValue, if_neg hnull, hupper, hofType, hword]
  split
  · rfl
  · next hlarge =>
      -- The type does not fit the cell, so its form decides.
      rw [Option.map_none, Option.getD_none, valueOfForm, hword, if_neg hlarge]
      rfl

/-- **The number nearest to an integer:** the integer itself when it is a signed word or a double, else a
finite double that no other is nearer than. -/
theorem exists_number_of_integer {n : Int} (h : -2 ^ 63 ≤ n ∧ n < 2 ^ 64) :
    ∃ q, Value.number? (if n < 2 ^ 63 then .int (Int64.ofInt n) else .float (Double.ofInt n)) = some q ∧
      (q = n ↔ n < 2 ^ 63 ∨ 2048 ∣ n) ∧
      ∀ d : Double, d.isFinite = true → |q - n| ≤ |d.value - n| := by
  by_cases hword : n < 2 ^ 63
  · refine ⟨n, ?_, iff_of_true rfl (.inl hword), ?_⟩
    · rw [if_pos hword, Value.number?, Int64.toInt_ofInt_of_le (by omega) (by omega)]
    · intro d _
      rw [sub_self, abs_zero]
      exact abs_nonneg _
  · have hlarge : 2 ^ 63 ≤ n ∧ n < 2 ^ 64 := by omega
    refine ⟨(Double.ofInt n).value, ?_, ?_, fun d _ => Double.abs_value_ofInt_sub_le hlarge d⟩
    · rw [if_neg hword, Value.number?, if_pos (Double.value_ofInt hlarge).1]
    · rw [Double.value_ofInt_eq_iff hlarge, or_iff_right hword]

namespace ColumnMapping

/-- **A point holds the number nearest to an integer.** A cell with a 64-bit integer, signed or not, in a
column of integers is a number under the name of the column, among the tags when the column is listed
as one. The number is the integer itself exactly when that is below `2 ^ 63` or a multiple of 2048, and
no finite double is nearer to it in any case. -/
theorem nearest_of_point {m : ColumnMapping} {ctx : RowContext} {row : List Json} {p : Point}
    (h : m.point ctx row = .ok p) {i : Nat} {column : Column} {n : Int}
    (hcolumn : ctx.columns[i]? = some column) (hcell : row[i]? = some (.number (.integer n)))
    (htime : m.isTime column.name = false) (htype : column.HoldsIntegers)
    (hrange : -2 ^ 63 ≤ n ∧ n < 2 ^ 64) :
    ∃ v q, p.Holds (if m.isTag column.name then .tag else .field) column.name v ∧
      v.number? = some q ∧ (q = n ↔ n < 2 ^ 63 ∨ 2048 ∣ n) ∧
      ∀ d : Double, d.isFinite = true → |q - n| ≤ |d.value - n| := by
  have hheld := holds_of_point h hcolumn hcell htime (cellValue_integer htype n)
  obtain ⟨q, hq⟩ := exists_number_of_integer hrange
  exact ⟨_, q, hheld, hq⟩

section Totals

/-- A table with an unsigned total. -/
def totals : RowContext :=
  { table := "meters"
    partition := "meters"
    columns := [⟨cursorColumn, "BIGINT"⟩, ⟨"total", "bigint unsigned"⟩]
    precision := .millis }

/-- The rows of totals, without tags. -/
def ofTotals : ColumnMapping := ⟨"ts", [], "\x7b\x7btable\x7d\x7d"⟩

/-- The row with the largest total. -/
def largestRow : List Json := [.number (.integer 1), .number (.integer 0xFFFFFFFFFFFFFFFF)]

/-- The point with the largest total, as the double `2 ^ 64`. -/
def largestPoint : Point :=
  { measurement := "meters"
    tags := []
    fields := [("total", .float ⟨0x43F0000000000000⟩)]
    timestamp := some 1
    precision := some .millis }

/-- The largest total makes a point. -/
theorem point_largestRow : ofTotals.point totals largestRow = .ok largestPoint := by
  have h : (ofTotals.point totals largestRow).toOption = some largestPoint := by decide +kernel
  cases hpoint : ofTotals.point totals largestRow with
  | error e =>
      rw [hpoint] at h
      cases h
  | ok p =>
      rw [hpoint] at h
      cases h
      rfl

/-- The totals are integers. -/
theorem holdsIntegers_totals : (Column.mk "total" "bigint unsigned").HoldsIntegers :=
  ⟨"BIGINT UNSIGNED", by simp [integerTypes], by decide⟩

/-- The point with the largest total holds a number that no finite double is nearer than. -/
theorem nearest_of_point_largestRow :
    ofTotals.point totals largestRow = .ok largestPoint ∧
      ∃ v q, largestPoint.Holds .field "total" v ∧ v.number? = some q ∧
        (q = (0xFFFFFFFFFFFFFFFF : Int) ↔
          (0xFFFFFFFFFFFFFFFF : Int) < 2 ^ 63 ∨ (2048 : Int) ∣ 0xFFFFFFFFFFFFFFFF) ∧
        ∀ d : Double, d.isFinite = true →
          |q - (0xFFFFFFFFFFFFFFFF : Int)| ≤ |d.value - (0xFFFFFFFFFFFFFFFF : Int)| :=
  ⟨point_largestRow, nearest_of_point (i := 1) point_largestRow rfl rfl (by decide)
    holdsIntegers_totals (by decide)⟩

/-- **The largest total is lost:** its row makes a point, and no number of the point is the total. -/
theorem not_holds_largestRow :
    ofTotals.point totals largestRow = .ok largestPoint ∧
      ¬ ∃ kind v, largestPoint.Holds kind "total" v ∧ v.number? = some (0xFFFFFFFFFFFFFFFF : Int) := by
  refine ⟨point_largestRow, ?_⟩
  rintro ⟨kind, v, hheld, hnumber⟩
  have hpoint := holds_of_point (i := 1) point_largestRow rfl rfl (by decide)
    (cellValue_integer holdsIntegers_totals 0xFFFFFFFFFFFFFFFF)
  obtain ⟨-, rfl⟩ := hheld.unique hpoint
  obtain ⟨q, hq, hexact, -⟩ := exists_number_of_integer (n := 0xFFFFFFFFFFFFFFFF) (by decide)
  have hkept : q = (0xFFFFFFFFFFFFFFFF : Int) := Option.some.inj (hq.symm.trans hnumber)
  exact absurd (hexact.1 hkept) (by decide)

end Totals

end ColumnMapping

end SeriesBridge
