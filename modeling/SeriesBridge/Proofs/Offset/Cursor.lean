import SeriesBridge.Offset.Cursor

/-! # What cursors keep

A cursor is taken to a timestamp to ask for rows, from a timestamp to note how far they were read, and
through an offset that is stored. This file says what survives.

* **`Cursor.inNanos c`** — the nanoseconds of a position, which are in the order of positions.
* **`Cursor.toUnits_le_of_not_before`** — a later position has no earlier timestamp.
* **`Cursor.before_ofUnits`** — a position is before those of later timestamps.
* **`Cursor.toInt_toUnits_ofUnits`** — what comes back of a timestamp from its position.
* **`Cursor.toUnits_ofUnits`** — a timestamp comes back, unless it is within a millisecond of the least.
* **`Cursor.ofOffset_toOffset`** — a position comes back from the offset that holds it. -/

namespace Int64

/-- **Saturation cuts at both ends** of the range of words. -/
theorem toInt_saturate (n : Int) :
    (Int64.saturate n).toInt = max (-0x8000000000000000) (min 0x7FFFFFFFFFFFFFFF n) := by
  by_cases hlow : n < -0x8000000000000000
  · rw [Int64.saturate, if_pos hlow]
    have : Int64.minValue.toInt = -0x8000000000000000 := by decide
    omega
  · by_cases hhigh : 0x8000000000000000 ≤ n
    · rw [Int64.saturate, if_neg hlow, if_pos hhigh]
      have : Int64.maxValue.toInt = 0x7FFFFFFFFFFFFFFF := by decide
      omega
    · rw [Int64.toInt_saturate_of_fits (by omega) (by omega)]
      omega

end Int64

namespace SeriesBridge

namespace Cursor

variable {a b c : Cursor} {p : Precision}

/-- One position comes before another by its milliseconds, or else by its nanoseconds. -/
theorem before_iff : a.before b = true ↔ a.millis.toInt < b.millis.toInt ∨
    (a.millis.toInt = b.millis.toInt ∧ a.nanos < b.nanos) := by
  unfold before
  simp only [Bool.or_eq_true, Bool.and_eq_true, decide_eq_true_eq, beq_iff_eq,
    Int64.lt_iff_toInt_lt, Int64.toInt_inj]

/-- No position comes before itself. -/
theorem not_before_self (c : Cursor) : c.before c = false := by
  rw [Bool.eq_false_iff, Ne, before_iff]
  omega

/-- A position that does not come after another is the other or before it. -/
theorem later_eq_right (h : a.before b = true) : a.later b = b := by
  rw [later, if_pos h]

/-- The later of a position and itself. -/
@[simp] theorem later_self (c : Cursor) : c.later c = c := by
  rw [later, ite_self]

/-- The later of two positions does not come before the first. -/
theorem not_before_later (a b : Cursor) : (a.later b).before a = false := by
  unfold later
  by_cases h : a.before b = true
  · rw [if_pos h, Bool.eq_false_iff, Ne, before_iff]
    rw [before_iff] at h
    omega
  · rw [if_neg h]
    exact not_before_self a

/-- Not to come before is transitive. -/
theorem not_before_trans (hab : a.before b = false) (hbc : b.before c = false) :
    a.before c = false := by
  rw [Bool.eq_false_iff, Ne, before_iff] at *
  omega

/-! ## Nanoseconds -/

/-- **The nanoseconds of a position** since 1970. -/
def inNanos (c : Cursor) : Int := c.millis.toInt * 1000000 + c.nanos

/-- Positions are in the order of their nanoseconds. -/
theorem before_iff_inNanos_lt : a.before b = true ↔ a.inNanos < b.inNanos := by
  have ha := a.nanos_lt
  have hb := b.nanos_lt
  rw [before_iff, inNanos, inNanos]
  omega

/-- The nanoseconds of a position in units, rounded down. -/
theorem inNanos_ediv (p : Precision) (c : Cursor) :
    c.inNanos / p.nanosPerUnit = c.millis.toInt * p.perMilli + (c.nanos : Int) / p.nanosPerUnit := by
  rw [inNanos, ← p.perMilli_mul_nanosPerUnit, ← Int.mul_assoc, Int.add_comm,
    Int.add_mul_ediv_right _ _ (Int.ne_of_gt p.nanosPerUnit_pos), Int.add_comm]

/-! ## Timestamps -/

/-- The timestamp of a position as an integer. -/
theorem toInt_toUnits (p : Precision) (c : Cursor) : (c.toUnits p).toInt =
    max (-0x8000000000000000) (min 0x7FFFFFFFFFFFFFFF
      (max (-0x8000000000000000) (min 0x7FFFFFFFFFFFFFFF (c.millis.toInt * p.perMilli)) +
        (c.nanos : Int) / p.nanosPerUnit)) := by
  rw [toUnits, Int64.toInt_saturate, Int64.toInt_saturate]

/-- The units of a position within its millisecond are fewer than make a millisecond. -/
theorem nanos_ediv_lt (p : Precision) (c : Cursor) :
    0 ≤ (c.nanos : Int) / p.nanosPerUnit ∧ (c.nanos : Int) / p.nanosPerUnit < p.perMilli := by
  have hlt := c.nanos_lt
  cases p <;> simp only [Precision.nanosPerUnit, Precision.perMilli] <;> omega

/-- **A position that is not before another has no earlier timestamp,** as long as the other is not
below the range of words. -/
theorem toUnits_le_of_not_before (hlow : -0x8000000000000000 ≤ a.millis.toInt * p.perMilli)
    (h : b.before a = false) : a.toUnits p ≤ b.toUnits p := by
  rw [Bool.eq_false_iff, Ne, before_iff_inNanos_lt, Int.not_lt] at h
  have hunits : a.inNanos / p.nanosPerUnit ≤ b.inNanos / p.nanosPerUnit :=
    Int.ediv_le_ediv p.nanosPerUnit_pos h
  rw [inNanos_ediv, inNanos_ediv] at hunits
  have ha := nanos_ediv_lt p a
  have hb := nanos_ediv_lt p b
  rw [Int64.le_iff_toInt_le, toInt_toUnits, toInt_toUnits]
  omega

/-- **The timestamp of the position of a timestamp** is later by what the beginning of its millisecond
lies below the range of words. -/
theorem toInt_toUnits_ofUnits (p : Precision) (v : Int64) : ((ofUnits p v).toUnits p).toInt =
    v.toInt + max 0 (-0x8000000000000000 - v.toInt / p.perMilli * p.perMilli) := by
  have hlt := Int64.toInt_lt v
  have hge := Int64.le_toInt v
  rw [toInt_toUnits]
  show max _ (min _ (max _ (min _ ((Int64.saturate (v.toInt / p.perMilli)).toInt * p.perMilli)) +
    ((v.toInt % p.perMilli * p.nanosPerUnit).toNat : Int) / p.nanosPerUnit)) = _
  rw [Int64.toInt_saturate]
  cases p <;> simp only [Precision.nanosPerUnit, Precision.perMilli] <;> omega

/-- **A timestamp comes back from its position,** unless it is within a million of the least word. -/
theorem toUnits_ofUnits (p : Precision) {v : Int64}
    (h : -0x8000000000000000 + 1000000 ≤ v.toInt) : (ofUnits p v).toUnits p = v := by
  rw [← Int64.toInt_inj, toInt_toUnits_ofUnits]
  cases p <;> simp only [Precision.perMilli] <;> omega

/-- A position comes before that of any later timestamp. -/
theorem before_ofUnits {v : Int64} (h : -0x8000000000000000 + 1000000 ≤ v.toInt)
    (hlt : c.toUnits p < v) : c.before (ofUnits p v) = true := by
  refine Bool.of_not_eq_false (fun hnot => ?_)
  have hlow : -0x8000000000000000 ≤ (ofUnits p v).millis.toInt * p.perMilli := by
    show _ ≤ (Int64.saturate (v.toInt / p.perMilli)).toInt * p.perMilli
    rw [Int64.toInt_saturate]
    cases p <;> simp only [Precision.perMilli] <;> omega
  have hle := toUnits_le_of_not_before hlow hnot
  rw [toUnits_ofUnits p h, Int64.le_iff_toInt_le] at hle
  rw [Int64.lt_iff_toInt_lt] at hlt
  omega

/-! ## Stored offsets -/

/-- **A position comes back from the offset that holds it.** -/
@[simp] theorem ofOffset_toOffset (partition : String) (c : Cursor) :
    ofOffset (c.toOffset partition) = c := by
  have hnanos : (c.toOffset partition).component? nanosKey = some (Int64.ofInt c.nanos) :=
    Offset.component?_set_self _ _ _
  have hmillis : (c.toOffset partition).component? millisKey = some c.millis := by
    have hne : millisKey ≠ nanosKey := by decide
    exact (Keyed.lookup_insert_of_ne _ _ hne).trans (Offset.component?_set_self _ _ _)
  have hlt := c.nanos_lt
  have hword : (Int64.ofInt c.nanos).toInt = c.nanos :=
    Int64.toInt_ofInt_of_le (by omega) (by omega)
  have hlt' := Int64.toInt_lt c.millis
  have hge := Int64.le_toInt c.millis
  rw [ofOffset, hmillis, hnanos]
  obtain ⟨millis, nanos, _⟩ := c
  simp only [Option.getD_some, make, mk.injEq] at *
  refine ⟨?_, ?_⟩
  · rw [← Int64.toInt_inj, Int64.toInt_saturate, hword]
    omega
  · rw [hword]
    omega

end Cursor

end SeriesBridge
