import SeriesBridge.Extraction.Mapping
import SeriesBridge.Proofs.Offset.Units
import SeriesBridge.Proofs.Time.Reading

/-! # Where reading starts, and where rows are

The position to start from is read to the nanosecond, the time of a row in the unit of its database. Both
come from the same instant, rounded down, so a row that is written like the start is at the start.

* **`Cursor.floorTo p c`** — a position rounded down to a unit.
* **`Cursor.inNanos_ofInstant`** — the position of an instant is the instant, while it is in range.
* **`Cursor.readStart?_of_readRfc3339?`** — the start that is read from an instant with its offset.
* **`Cursor.ofUnits_eq_floorTo`** — the time of a row is the start, rounded down. -/

namespace SeriesBridge

/-- **The word of an instant** is its number of units. -/
theorem Instant.toInt_of_count? {p : Precision} {t : Instant} {v : Int64}
    (h : t.count? p = some v) : v.toInt = t.inUnits p := by
  unfold Instant.count? at h
  split at h
  · next hfits =>
      simp only [Text.fitsInt64, Bool.and_eq_true, decide_eq_true_eq] at hfits
      rw [← Option.some.inj h, Int64.toInt_ofInt_of_le hfits.1 hfits.2]
  · cases h

namespace Cursor

variable {a b c : Cursor} {p : Precision} {t : Instant} {v : Int64}

/-- A position is known by its nanoseconds. -/
theorem eq_of_inNanos_eq (h : a.inNanos = b.inNanos) : a = b := by
  obtain ⟨millis, nanos, hlt⟩ := a
  obtain ⟨millis', nanos', hlt'⟩ := b
  simp only [inNanos] at h
  obtain rfl : millis = millis' := Int64.toInt_inj.1 (by omega)
  obtain rfl : nanos = nanos' := by omega
  rfl

/-! ## Rounding down -/

/-- What is left of the nanoseconds of a position stays within its millisecond. -/
theorem nanos_floorTo_lt (p : Precision) (c : Cursor) :
    ((c.nanos : Int) / p.nanosPerUnit * p.nanosPerUnit).toNat < 1000000 := by
  have hlt := c.nanos_lt
  have hle := Int.ediv_mul_le (c.nanos : Int) (Int.ne_of_gt p.nanosPerUnit_pos)
  omega

/-- **A position rounded down** to whole units. -/
def floorTo (p : Precision) (c : Cursor) : Cursor :=
  ⟨c.millis, ((c.nanos : Int) / p.nanosPerUnit * p.nanosPerUnit).toNat, nanos_floorTo_lt p c⟩

/-- The nanoseconds of a position rounded down are its own, rounded down. -/
theorem inNanos_floorTo (p : Precision) (c : Cursor) :
    (c.floorTo p).inNanos = c.inNanos / p.nanosPerUnit * p.nanosPerUnit := by
  have hunits : 0 ≤ (c.nanos : Int) / p.nanosPerUnit := (nanos_ediv_lt p c).1
  have hnanos : (((c.nanos : Int) / p.nanosPerUnit * p.nanosPerUnit).toNat : Int) =
      (c.nanos : Int) / p.nanosPerUnit * p.nanosPerUnit :=
    Int.toNat_of_nonneg (Int.mul_nonneg hunits (Int.le_of_lt p.nanosPerUnit_pos))
  rw [inNanos_ediv, Int.add_mul, Int.mul_assoc, p.perMilli_mul_nanosPerUnit, ← hnanos]
  rfl

/-! ## Instants -/

/-- **The position of an instant** is the instant, while its milliseconds are in the range of words. -/
theorem inNanos_ofInstant (hlow : -0x8000000000000000 ≤ t.inUnits .millis)
    (hhigh : t.inUnits .millis < 0x8000000000000000) : (ofInstant t).inNanos = t.inNanos := by
  have hmillis : (Int64.saturate (t.inUnits .millis)).toInt = t.inUnits .millis :=
    Int64.toInt_saturate_of_fits hlow hhigh
  have hnanos : (Int64.ofInt (t.nanos % 1000000 : Nat)).toInt = (t.nanos % 1000000 : Nat) :=
    Int64.toInt_ofInt_of_le (by omega) (by omega)
  show (Int64.saturate ((Int64.saturate (t.inUnits .millis)).toInt +
      (Int64.ofInt (t.nanos % 1000000 : Nat)).toInt / 1000000)).toInt * 1000000 +
    (((Int64.ofInt (t.nanos % 1000000 : Nat)).toInt % 1000000).toNat : Int) = t.inNanos
  -- Nothing is carried: the nanoseconds are those within the millisecond already.
  rw [hmillis, hnanos, Int64.toInt_saturate_of_fits (by omega) (by omega)]
  simp only [Instant.inUnits, Instant.inNanos, Precision.perMilli, Precision.nanosPerUnit]
  omega

/-- The milliseconds of an instant are in the range of words when its units are. -/
theorem inUnits_millis_of_count? (h : t.count? p = some v) :
    -0x8000000000000000 ≤ t.inUnits .millis ∧ t.inUnits .millis < 0x8000000000000000 := by
  have hunits := Instant.toInt_of_count? h
  have hlow := Int64.le_toInt v
  have hhigh := Int64.toInt_lt v
  rw [Instant.inUnits_eq] at hunits ⊢
  cases p <;> simp only [Precision.nanosPerUnit] at hunits ⊢ <;> omega

/-- **The start that is read** from an instant with its offset is that instant, whatever the time is. -/
theorem readStart?_of_readRfc3339? {text : String}
    (h : Instant.readRfc3339? text.toList = some t) (now : Instant) :
    readStart? (some text) now = .ok (ofInstant t) := by
  obtain ⟨hwritten, -⟩ := Instant.written_of_readRfc3339? h
  have hsome : text.toList.isEmpty = false := by
    obtain ⟨c, s', hs, -⟩ := hwritten.begins
    rw [hs]
    rfl
  unfold readStart?
  simp only [Option.getD_some, hwritten.trim_eq, hsome, Bool.false_eq_true, if_false,
    hwritten.readInt64?_eq_none, h, Option.some_or]

/-- **The time of a row and the start agree.** A text that is read as the time of a row is read as a start
as well, and the time of the row is the start rounded down to the unit of its database: the start is the
instant of the text, and the time of the row is that instant rounded down. -/
theorem ofUnits_eq_floorTo {text : String} (h : readCellTime? text p = some v)
    (now : Instant) : ∃ t c, Instant.readRfc3339? text.toList = some t ∧ t.nanos < 2000000000 ∧
      readStart? (some text) now = .ok c ∧ ofUnits p v = c.floorTo p ∧ c.inNanos = t.inNanos ∧
      (ofUnits p v).inNanos = t.inNanos / p.nanosPerUnit * p.nanosPerUnit := by
  obtain ⟨t, hread, hcount⟩ := Option.bind_eq_some_iff.1 h
  obtain ⟨hlow, hhigh⟩ := inUnits_millis_of_count? hcount
  have hstart : (ofInstant t).inNanos = t.inNanos := inNanos_ofInstant hlow hhigh
  have hrow : (ofUnits p v).inNanos = t.inNanos / p.nanosPerUnit * p.nanosPerUnit := by
    rw [inNanos_ofUnits, Instant.toInt_of_count? hcount, Instant.inUnits_eq]
  have hfloor : ofUnits p v = (ofInstant t).floorTo p :=
    eq_of_inNanos_eq (by rw [hrow, inNanos_floorTo, hstart])
  exact ⟨t, ofInstant t, hread, (Instant.written_of_readRfc3339? hread).2,
    readStart?_of_readRfc3339? hread now, hfloor, hstart, hrow⟩

/-- A text from a leap second before 1970, in a zone behind UTC, with more digits than count. -/
def leapText : String := "1969-12-31T20:59:60.9876543219-02:30"

/-- Its time in microseconds is its start without the last three digits. -/
theorem ofUnits_eq_floorTo_leap : readCellTime? leapText .micros = some (-1799012346) ∧
    readStart? (some leapText) ⟨0, 0⟩ = .ok ⟨-1799013, 654321, by decide⟩ ∧
      ofUnits .micros (-1799012346) = ⟨-1799013, 654000, by decide⟩ := by
  have hread : readCellTime? leapText .micros = some (-1799012346) := by decide +kernel
  obtain ⟨t, c, -, -, hstart, hrow, -, -⟩ := ofUnits_eq_floorTo hread ⟨0, 0⟩
  have hoption : (readStart? (some leapText) ⟨0, 0⟩).toOption =
      some ⟨-1799013, 654321, by decide⟩ := by decide +kernel
  rw [hstart] at hoption
  obtain rfl := Option.some.inj hoption
  exact ⟨hread, hstart, hrow.trans (by decide)⟩

end Cursor

end SeriesBridge
