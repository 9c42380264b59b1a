import Mathlib.Data.List.Induction
import Mathlib.Data.Prod.Lex
import Mathlib.Order.Bounds.Basic
import SeriesBridge.Proofs.Offset.Cursor

/-! # How far a tracker is

Positions are in order by milliseconds and then nanoseconds, which is an order because the nanoseconds
of a position stay within its millisecond. A tracker is at the greatest position that it was given,
however it came by it.

* **`Cursor.key c`** — a position as a pair, in lexicographic order; positions are ordered by it.
* **`Cursor.later_eq_max`** — the later of two positions is the greater one.
* **`Cursor.inNanos_make`**, **`Cursor.make_of_lt`**, **`Cursor.make_of_ge`** — what becomes of the
  nanoseconds that are carried.
* **`Tracker.Call`**, **`Tracker.takeAll t calls`** — what a tracker is given, one after the other.
* **`Tracker.isGreatest_takeAll`** — where it is then, and **`Tracker.current_restore_toOffset`** — where
  the offset that it stores takes another one. -/

namespace SeriesBridge

namespace Cursor

variable {a b c : Cursor} {ms ns : Int64}

/-! ## The order of positions -/

/-- A position as milliseconds and nanoseconds, **in lexicographic order.** -/
def key (c : Cursor) : ℤ ×ₗ ℕ := toLex (c.millis.toInt, c.nanos)

/-- A position is known by its milliseconds and nanoseconds. -/
theorem key_injective : Function.Injective key := by
  intro a b h
  obtain ⟨millis, nanos, _⟩ := a
  obtain ⟨millis', nanos', _⟩ := b
  have hpair : (millis.toInt, nanos) = (millis'.toInt, nanos') := toLex.injective h
  obtain ⟨hmillis, rfl⟩ := Prod.mk.inj hpair
  obtain rfl := Int64.toInt_inj.1 hmillis
  rfl

instance : LinearOrder Cursor := LinearOrder.lift' key key_injective

/-- What comes before is less. -/
theorem before_iff_lt : a.before b = true ↔ a < b := by
  have hkey : a < b ↔ a.key < b.key := Iff.rfl
  rw [before_iff, hkey, key, key, Prod.Lex.toLex_lt_toLex]

/-- **The later of two positions** is the greater one. -/
theorem later_eq_max (a b : Cursor) : a.later b = max a b := by
  unfold later
  by_cases h : a.before b = true
  · rw [if_pos h, max_eq_right (before_iff_lt.1 h).le]
  · rw [if_neg h, max_eq_left (not_lt.1 (mt before_iff_lt.2 h))]

/-! ## Nanoseconds that are carried -/

/-- The nanoseconds that are left are what a millisecond does not take up. -/
theorem nanos_make (ms ns : Int64) : ((make ms ns).nanos : ℤ) = ns.toInt % 1000000 :=
  Int.toNat_of_nonneg (Int.emod_nonneg _ (by decide))

/-- The milliseconds with those that are carried, cut at the ends of the range. -/
theorem toInt_millis_make (ms ns : Int64) : (make ms ns).millis.toInt =
    max (-0x8000000000000000) (min 0x7FFFFFFFFFFFFFFF (ms.toInt + ns.toInt / 1000000)) :=
  Int64.toInt_saturate _

/-- **Carrying keeps the instant** as long as the milliseconds stay in the range of words. -/
theorem inNanos_make (hlow : -0x8000000000000000 ≤ ms.toInt + ns.toInt / 1000000)
    (hhigh : ms.toInt + ns.toInt / 1000000 < 0x8000000000000000) :
    (make ms ns).inNanos = ms.toInt * 1000000 + ns.toInt := by
  have hdivmod := Int.mul_ediv_add_emod ns.toInt 1000000
  rw [inNanos, nanos_make, toInt_millis_make]
  omega

/-- Milliseconds that would fall below the range stop at its lower end. -/
theorem make_of_lt (h : ms.toInt + ns.toInt / 1000000 < -0x8000000000000000) :
    (make ms ns).millis = Int64.minValue := by
  have hmin : Int64.minValue.toInt = -0x8000000000000000 := by decide
  rw [← Int64.toInt_inj, toInt_millis_make, hmin]
  omega

/-- Milliseconds that would rise above the range stop at its upper end. -/
theorem make_of_ge (h : 0x8000000000000000 ≤ ms.toInt + ns.toInt / 1000000) :
    (make ms ns).millis = Int64.maxValue := by
  have hmax : Int64.maxValue.toInt = 0x7FFFFFFFFFFFFFFF := by decide
  rw [← Int64.toInt_inj, toInt_millis_make, hmax]
  omega

end Cursor

/-! ## Trackers -/

namespace Tracker

/-- **What a tracker is given:** a position, or an offset that was stored. -/
inductive Call where
  | advance (newer : Cursor)
  | restore (stored : Offset)

/-- The position that it is given. An offset may hold any words, and each of them may be missing. -/
def Call.position : Call → Cursor
  | advance newer => newer
  | restore stored => Cursor.ofOffset stored

/-- Take what is given. -/
def take (t : Tracker) : Call → Tracker
  | .advance newer => t.advance newer
  | .restore stored => t.restore stored

/-- **Take one thing after the other.** -/
def takeAll (t : Tracker) (calls : List Call) : Tracker := calls.foldl take t

variable {t : Tracker} {calls calls' : List Call}

/-- A tracker stays where it is, or moves on to a greater position. -/
theorem current_take (t : Tracker) (call : Call) :
    (t.take call).current = max t.current call.position := by
  cases call with
  | advance newer => exact Cursor.later_eq_max _ _
  | restore stored => exact Cursor.later_eq_max _ _

/-- One thing more is taken last. -/
theorem takeAll_concat (t : Tracker) (calls : List Call) (call : Call) :
    t.takeAll (calls ++ [call]) = (t.takeAll calls).take call := by
  simp only [takeAll, List.foldl_append, List.foldl_cons, List.foldl_nil]

/-- **A tracker is at the greatest position** among its start and all that it was given. -/
theorem isGreatest_takeAll (t : Tracker) (calls : List Call) :
    IsGreatest (insert t.current {c | c ∈ calls.map Call.position}) (t.takeAll calls).current := by
  induction calls using List.reverseRecOn with
  | nil => simp [takeAll]
  | append_singleton calls call ih =>
      have hset : insert t.current {c | c ∈ (calls ++ [call]).map Call.position} =
          insert call.position (insert t.current {c | c ∈ calls.map Call.position}) := by
        refine Set.ext fun c => ?_
        show c = t.current ∨ c ∈ (calls ++ [call]).map Call.position ↔
          c = call.position ∨ c = t.current ∨ c ∈ calls.map Call.position
        rw [List.map_append, List.map_singleton, List.mem_append, List.mem_singleton]
        tauto
      rw [takeAll_concat, current_take, hset, max_comm]
      exact ih.insert _

/-- **Neither order nor repetition matters:** a tracker that was given the same positions is where the
other one is. -/
theorem current_takeAll_congr (h : ∀ c, c ∈ calls.map Call.position ↔ c ∈ calls'.map Call.position) :
    (t.takeAll calls').current = (t.takeAll calls).current := by
  have hset : {c | c ∈ calls'.map Call.position} = {c | c ∈ calls.map Call.position} :=
    Set.ext fun c => (h c).symm
  have hgreatest := isGreatest_takeAll t calls'
  rw [hset] at hgreatest
  exact hgreatest.unique (isGreatest_takeAll t calls)

/-- **A tracker that starts no later** is taken to the position that another one stored. -/
theorem current_restore_toOffset {other : Tracker} (h : other.current ≤ t.current) :
    (other.restore t.toOffset).current = t.current := by
  rw [restore, current_advance, toOffset, Cursor.ofOffset_toOffset, Cursor.later_eq_max]
  exact max_eq_right h

/-- **Where a tracker is.** After any calls it is at the greatest position among its start and those
that it was given, whatever their order and however often; its nanoseconds stay within the millisecond.
The position of any words is their instant, unless its milliseconds stop at an end of their range. The
offset that it stores takes every tracker that starts no later to where it is. -/
theorem current_of_calls (t : Tracker) (calls : List Call) :
    IsGreatest (insert t.current {c | c ∈ calls.map Call.position}) (t.takeAll calls).current ∧
    (∀ calls' : List Call, (∀ c, c ∈ calls.map Call.position ↔ c ∈ calls'.map Call.position) →
      (t.takeAll calls').current = (t.takeAll calls).current) ∧
    (t.takeAll calls).current.nanos < 1000000 ∧
    (∀ ms ns : Int64, ((Cursor.make ms ns).nanos : ℤ) = ns.toInt % 1000000 ∧
      (-0x8000000000000000 ≤ ms.toInt + ns.toInt / 1000000 →
        ms.toInt + ns.toInt / 1000000 < 0x8000000000000000 →
        (Cursor.make ms ns).inNanos = ms.toInt * 1000000 + ns.toInt) ∧
      (ms.toInt + ns.toInt / 1000000 < -0x8000000000000000 →
        (Cursor.make ms ns).millis = Int64.minValue) ∧
      (0x8000000000000000 ≤ ms.toInt + ns.toInt / 1000000 →
        (Cursor.make ms ns).millis = Int64.maxValue)) ∧
    ∀ other : Tracker, other.current ≤ (t.takeAll calls).current →
      (other.restore (t.takeAll calls).toOffset).current = (t.takeAll calls).current := by
  refine ⟨isGreatest_takeAll t calls, fun _ h => current_takeAll_congr h,
    (t.takeAll calls).current.nanos_lt, fun ms ns => ?_, fun _ h => current_restore_toOffset h⟩
  exact ⟨Cursor.nanos_make ms ns, Cursor.inNanos_make, Cursor.make_of_lt, Cursor.make_of_ge⟩

/-- A tracker halfway through a second. -/
def halfway : Tracker := ⟨"meters", Cursor.ofMillis 500⟩

/-- Offsets that lack a component or carry too many nanoseconds, and a position between them: a later
position comes before earlier ones, and one of them comes twice. -/
def mixedCalls : List Call :=
  [.restore ⟨"meters", [("timestamp_ms", 600), ("timestamp_ns", -1)]⟩,
    .advance ⟨599, 999998, by decide⟩, .restore ⟨"meters", [("timestamp_ms", -7)]⟩,
    .restore ⟨"sensors", [("timestamp_ns", 400000000)]⟩, .advance ⟨599, 999998, by decide⟩]

/-- They take it to the last nanosecond before the six hundredth millisecond, and the offset that it
stores takes another tracker there. -/
theorem current_of_calls_mixed :
    IsGreatest (insert halfway.current {c | c ∈ mixedCalls.map Call.position})
        (halfway.takeAll mixedCalls).current ∧
      (halfway.takeAll mixedCalls).current = ⟨599, 999999, by decide⟩ ∧
      (halfway.takeAll mixedCalls.reverse).current = ⟨599, 999999, by decide⟩ ∧
      (halfway.restore (halfway.takeAll mixedCalls).toOffset).current =
        ⟨599, 999999, by decide⟩ := by
  have hcurrent : (halfway.takeAll mixedCalls).current = ⟨599, 999999, by decide⟩ := by
    decide +kernel
  obtain ⟨hgreatest, hcongr, -, -, hrestore⟩ := current_of_calls halfway mixedCalls
  have hstart : halfway.current ≤ (halfway.takeAll mixedCalls).current :=
    hgreatest.2 (Set.mem_insert _ _)
  have hreverse := hcongr mixedCalls.reverse fun c => by rw [List.map_reverse, List.mem_reverse]
  exact ⟨hgreatest, hcurrent, hreverse.trans hcurrent, (hrestore halfway hstart).trans hcurrent⟩

end Tracker

end SeriesBridge
