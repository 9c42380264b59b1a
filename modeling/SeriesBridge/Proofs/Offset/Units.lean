import SeriesBridge.Database.Table
import SeriesBridge.Proofs.Offset.Cursor

/-! # Cursors and timestamps in one order

Rows carry timestamps in the unit of their database, a cursor is finer. Both are nanoseconds since 1970
in the end, and that decides what a query bound by the timestamp of a cursor selects.

* **`Cursor.before_ofUnits_iff`** — positions are in the order of their timestamps.
* **`Cursor.toInt_toUnits_of_le`** — the timestamp of a position: its nanoseconds in units, rounded down,
  and cut at the greatest word.
* **`Cursor.lt_iff_before_ofUnits`** — a row is beyond the timestamp of a position if and only if it is
  beyond the position.
* **`Cursor.toUnits_ofUnits_eq_iff`** — a timestamp comes back from its position if and only if its
  millisecond begins in the range of words. -/

namespace SeriesBridge

namespace Cursor

variable {c : Cursor} {p : Precision} {v w : Int64}

/-! ## Positions of timestamps -/

/-- The nanoseconds of a timestamp are those of its units. -/
theorem inNanos_ofUnits (p : Precision) (v : Int64) :
    (ofUnits p v).inNanos = v.toInt * p.nanosPerUnit := by
  have hlt := Int64.toInt_lt v
  have hge := Int64.le_toInt v
  show (Int64.saturate (v.toInt / p.perMilli)).toInt * 1000000 +
    ((v.toInt % p.perMilli * p.nanosPerUnit).toNat : Int) = _
  -- The millisecond of a word is no farther from nought than the word, so nothing is cut off.
  rw [Int64.toInt_saturate]
  cases p <;> simp only [Precision.perMilli, Precision.nanosPerUnit] <;> omega

/-- **Positions are in the order of their timestamps.** -/
theorem before_ofUnits_iff : (ofUnits p v).before (ofUnits p w) = true ↔ v < w := by
  rw [before_iff_inNanos_lt, inNanos_ofUnits, inNanos_ofUnits, Int64.lt_iff_toInt_lt]
  exact Int.mul_lt_mul_right p.nanosPerUnit_pos

/-! ## Bounds of queries -/

/-- **The timestamp of a position** whose millisecond does not begin below the range of words: its
nanoseconds in units, rounded down, as far as the greatest word. -/
theorem toInt_toUnits_of_le (hlow : -0x8000000000000000 ≤ c.millis.toInt * p.perMilli) :
    (c.toUnits p).toInt = min 0x7FFFFFFFFFFFFFFF (c.inNanos / p.nanosPerUnit) := by
  have hnanos := nanos_ediv_lt p c
  rw [toInt_toUnits, inNanos_ediv]
  omega

/-- **A timestamp is later than that of a position if and only if its position is later.** What the
timestamp of the position leaves out is less than a unit. -/
theorem toUnits_lt_iff (hlow : -0x8000000000000000 ≤ c.millis.toInt * p.perMilli) :
    c.toUnits p < v ↔ c.before (ofUnits p v) = true := by
  -- No word is beyond the greatest one, at which the timestamp may be cut.
  have hword := Int64.toInt_lt v
  have hunits : c.inNanos / p.nanosPerUnit < v.toInt ↔ c.inNanos < v.toInt * p.nanosPerUnit :=
    Int.ediv_lt_iff_lt_mul p.nanosPerUnit_pos
  rw [before_iff_inNanos_lt, inNanos_ofUnits, ← hunits, Int64.lt_iff_toInt_lt,
    toInt_toUnits_of_le hlow]
  omega

/-- The rows after the timestamp of a position are those beyond the position. -/
theorem rowsAfter_toUnits (hlow : -0x8000000000000000 ≤ c.millis.toInt * p.perMilli) (t : Table) :
    t.rowsAfter (c.toUnits p) =
      Table.sorted (t.rows.filter (fun row => c.before (ofUnits p row.1))) := by
  have hrows : t.rows.filter (fun row => c.toUnits p < row.1) =
      t.rows.filter (fun row => c.before (ofUnits p row.1)) := by
    refine List.filter_congr (fun row _ => ?_)
    rw [Bool.eq_iff_iff, decide_eq_true_iff]
    exact toUnits_lt_iff hlow
  rw [Table.rowsAfter, hrows]

/-- **The bound of a query selects the rows beyond a position,** all of them and no others: positions are
in the order of their timestamps, and a timestamp is beyond that of a position, which may be finer than
the unit and later than all words, if and only if it is beyond the position. -/
theorem lt_iff_before_ofUnits (p : Precision) :
    (∀ v w : Int64, v < w ↔ (ofUnits p v).before (ofUnits p w) = true) ∧
      ∀ c : Cursor, -0x8000000000000000 ≤ c.millis.toInt * p.perMilli →
        (∀ v : Int64, c.toUnits p < v ↔ c.before (ofUnits p v) = true) ∧
          ∀ t : Table, t.rowsAfter (c.toUnits p) =
            Table.sorted (t.rows.filter (fun row => c.before (ofUnits p row.1))) := by
  refine ⟨fun v w => before_ofUnits_iff.symm, fun c hlow => ⟨?_, ?_⟩⟩
  · exact fun v => toUnits_lt_iff hlow
  · exact fun t => rowsAfter_toUnits hlow t

/-- Half a microsecond beyond the second millisecond before 1970. -/
def halfMicro : Cursor := ⟨-2, 500, by decide⟩

/-- Of the rows of two microseconds the later one is beyond it. -/
theorem lt_iff_before_ofUnits_halfMicro :
    -0x8000000000000000 ≤ halfMicro.millis.toInt * Precision.micros.perMilli ∧
      ({ rows := [(-1999, []), (-2000, [])] } : Table).rowsAfter (halfMicro.toUnits .micros) =
        [(-1999, [])] := by
  have hlow : -0x8000000000000000 ≤ halfMicro.millis.toInt * Precision.micros.perMilli := by decide
  have hrows := ((lt_iff_before_ofUnits .micros).2 halfMicro hlow).2
    { rows := [(-1999, []), (-2000, [])] }
  exact ⟨hlow, hrows.trans rfl⟩

/-! ## Timestamps that come back -/

/-- **A timestamp comes back from its position if and only if its millisecond begins in the range of
words.** -/
theorem toUnits_ofUnits_eq_iff (p : Precision) (v : Int64) : (ofUnits p v).toUnits p = v ↔
    -0x8000000000000000 ≤ v.toInt / p.perMilli * p.perMilli := by
  rw [← Int64.toInt_inj, toInt_toUnits_ofUnits]
  omega

/-- The least number of microseconds does not come back: its millisecond begins 192 microseconds below the
range of words. -/
theorem toUnits_ofUnits_minValue :
    (ofUnits .micros Int64.minValue).toUnits .micros ≠ Int64.minValue := by
  decide

end Cursor

end SeriesBridge
