import SeriesBridge.Offset.Basic
import SeriesBridge.Time.Instant

/-! # Cursors

A cursor is a position in a table that is read in order of time: milliseconds, and nanoseconds
within the millisecond, so that one form serves every precision.

* **`Cursor`** — the position, ordered by milliseconds and then nanoseconds.
* **`Cursor.make ms ns`** — the position of milliseconds and any number of nanoseconds.
* **`Cursor.ofUnits p v`**, **`Cursor.toUnits p c`** — from and to timestamps in a unit.
* **`Cursor.ofOffset o`**, **`Cursor.toOffset part c`** — from and to the offsets that are stored.
* **`Cursor.readStart? text now`** — the position that a setting names.
* **`Tracker`** — the position that a partition has reached; it never moves back. -/

namespace SeriesBridge

/-- **A position in a table ordered by time.** -/
structure Cursor where
  millis : Int64
  /-- Nanoseconds within the millisecond. -/
  nanos : Nat
  nanos_lt : nanos < 1000000 := by decide
  deriving DecidableEq, Repr

namespace Cursor

/-- The start of 1970. -/
def zero : Cursor := ⟨0, 0, by decide⟩

instance : Inhabited Cursor := ⟨zero⟩

/-- The start of a millisecond. -/
def ofMillis (ms : Int64) : Cursor := ⟨ms, 0, by decide⟩

/-- A remainder by a million is below it. -/
theorem toNat_emod_lt (n : Int) : (n % 1000000).toNat < 1000000 := by omega

/-- **The position of any milliseconds and nanoseconds.** Nanoseconds outside of a millisecond are
carried, at the ends of the range as far as it goes. -/
def make (ms ns : Int64) : Cursor :=
  ⟨Int64.saturate (ms.toInt + ns.toInt / 1000000), (ns.toInt % 1000000).toNat,
    toNat_emod_lt ns.toInt⟩

/-! ## Order -/

/-- Whether one position comes before another. -/
def before (a b : Cursor) : Bool :=
  a.millis < b.millis || (a.millis == b.millis && a.nanos < b.nanos)

/-- The later of two positions. -/
def later (a b : Cursor) : Cursor := if a.before b then b else a

/-- The order of two positions. -/
def compare (a b : Cursor) : Ordering :=
  if a.before b then .lt else if b.before a then .gt else .eq

/-! ## Timestamps -/

/-- The nanoseconds of less than a millisecond in a unit are less than a million. -/
theorem nanos_ofUnits_lt (p : Precision) (v : Int) :
    (v % p.perMilli * p.nanosPerUnit).toNat < 1000000 := by
  cases p <;> simp only [Precision.perMilli, Precision.nanosPerUnit] <;> omega

/-- **The position of a timestamp** in the unit `p`. -/
def ofUnits (p : Precision) (v : Int64) : Cursor :=
  ⟨Int64.saturate (v.toInt / p.perMilli), (v.toInt % p.perMilli * p.nanosPerUnit).toNat,
    nanos_ofUnits_lt p v.toInt⟩

/-- **The timestamp of a position** in the unit `p`, cut to the unit and to the range of words. -/
def toUnits (p : Precision) (c : Cursor) : Int64 :=
  Int64.saturate ((Int64.saturate (c.millis.toInt * p.perMilli)).toInt +
    (c.nanos : Int) / p.nanosPerUnit)

/-! ## Stored offsets -/

/-- The name of the milliseconds in a stored offset. -/
def millisKey : String := "timestamp_ms"

/-- The name of the nanoseconds in a stored offset. -/
def nanosKey : String := "timestamp_ns"

/-- The position that an offset holds; a component that is missing is zero. -/
def ofOffset (o : Offset) : Cursor :=
  make ((o.component? millisKey).getD 0) ((o.component? nanosKey).getD 0)

/-- The offset that holds a position. -/
def toOffset (partition : String) (c : Cursor) : Offset :=
  (({ partition } : Offset).set millisKey c.millis).set nanosKey (Int64.ofInt c.nanos)

/-! ## Start positions -/

/-- The position of an instant. Within a leap second the milliseconds go on into the second after
it. -/
def ofInstant (t : Instant) : Cursor :=
  make (Int64.saturate (t.inUnits .millis)) (Int64.ofInt (t.nanos % 1000000 : Nat))

/-- **The position that a setting names:** milliseconds since 1970, an instant with its offset, or
a date and time in UTC. No text, or a blank one, names the present instant. -/
def readStart? (text : Option String) (now : Instant) : Outcome Cursor :=
  let raw := Text.trim ((text.getD "").toList)
  if raw.isEmpty then .ok (ofInstant now)
  else
    -- A number alone is never taken for the start of a date.
    match Text.readInt64? raw with
    | some ms => .ok (ofMillis ms)
    | none =>
        match (Instant.readRfc3339? raw).or (Instant.readPlain? raw) with
        | some t => .ok (ofInstant t)
        | none =>
            .error (.configuration ("invalid initial_timestamp '" ++ String.ofList raw ++
              "': expected epoch milliseconds, RFC 3339 or 'YYYY-MM-DD HH:MM:SS'"))

end Cursor

/-! ## Trackers -/

/-- **The position that a partition has reached.** -/
structure Tracker where
  partition : String
  current : Cursor
  deriving DecidableEq, Repr

namespace Tracker

/-- Move to a position that comes after the present one; stay where an older one is given. -/
def advance (t : Tracker) (newer : Cursor) : Tracker :=
  { t with current := t.current.later newer }

/-- Move to the position of a stored offset, unless it is older. -/
def restore (t : Tracker) (stored : Offset) : Tracker := t.advance (Cursor.ofOffset stored)

/-- The offset to store. -/
def toOffset (t : Tracker) : Offset := t.current.toOffset t.partition

/-- A tracker keeps its partition. -/
@[simp] theorem partition_advance (t : Tracker) (c : Cursor) :
    (t.advance c).partition = t.partition := rfl

/-- A tracker is at the later of its position and the one given. -/
@[simp] theorem current_advance (t : Tracker) (c : Cursor) :
    (t.advance c).current = t.current.later c := rfl

end Tracker

end SeriesBridge
