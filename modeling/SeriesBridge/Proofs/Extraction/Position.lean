import Mathlib.Data.List.Induction
import SeriesBridge.Proofs.Extraction.Rows
import SeriesBridge.Proofs.Offset.Cursor

/-! # Positions of a source

How far the tables of a source have been read, and what moves them: taking up offsets that were kept,
and moving on to offsets that are kept now.

* **`Source.Tracked`** — a source that keeps every tracker under its partition.
* **`Source.Shifts`** — two sources that differ in their trackers alone, as before and after moving.
* **`Source.Ready`** — a source that was prepared.
* **`Source.position`** — how far a table has been read.
* **`Offset.filter_latest`** — of the offsets of a partition the last one counts.
* **`Source.position?_commit`** — where a partition is after moving on.
* **`Source.position?_restoreOne`** — where a partition is after taking an offset up. -/

namespace SeriesBridge

/-! ## The last offset of a partition -/

namespace Offset

/-- A newer offset leaves those of other partitions as they are. -/
theorem filter_update_of_ne {o : Offset} {key : String} (h : o.partition ≠ key)
    (known : List Offset) :
    (update o known).filter (fun x => x.partition == key) =
      known.filter (fun x => x.partition == key) := by
  induction known with
  | nil => simp [update, h]
  | cons other rest ih =>
      unfold update
      by_cases hother : other.partition = o.partition
      · rw [if_pos hother, List.filter_cons_of_neg (by simpa using h),
          List.filter_cons_of_neg (by rw [hother]; simpa using h)]
      · rw [if_neg hother, List.filter_cons, List.filter_cons, ih]

/-- A newer offset takes the place of the one that its partition had. -/
theorem filter_update_self {o : Offset} {known : List Offset}
    (h : (known.filter (fun x => x.partition == o.partition)).length ≤ 1) :
    (update o known).filter (fun x => x.partition == o.partition) = [o] := by
  induction known with
  | nil => simp [update]
  | cons other rest ih =>
      unfold update
      by_cases hother : other.partition = o.partition
      · have hrest : rest.filter (fun x => x.partition == o.partition) = [] := by
          rw [List.filter_cons_of_pos (by simpa using hother), List.length_cons] at h
          exact List.length_eq_zero_iff.1 (by omega)
        rw [if_pos hother, List.filter_cons_of_pos (by simp), hrest]
      · have hneg : ¬ (other.partition == o.partition) = true := by simpa using hother
        rw [List.filter_cons, if_neg hneg] at h
        rw [if_neg hother, List.filter_cons, if_neg hneg, ih h]

/-- **Of the offsets of a partition the last one counts.** -/
theorem filter_latest (offsets : List Offset) (key : String) :
    (latest offsets).filter (fun o => o.partition == key) =
      (offsets.filter (fun o => o.partition == key)).getLast?.toList := by
  induction offsets using List.reverseRecOn with
  | nil => rfl
  | append_singleton offsets o ih =>
      rw [latest_concat, List.filter_append]
      by_cases ho : o.partition = key
      · subst ho
        rw [filter_update_self, List.filter_cons_of_pos (by simp), List.filter_nil,
          List.getLast?_concat, Option.toList_some]
        rw [ih]
        cases (offsets.filter (fun x => x.partition == o.partition)).getLast? <;> simp
      · have hneg : ¬ (o.partition == key) = true := by simpa using ho
        rw [filter_update_of_ne ho, ih, List.filter_cons, if_neg hneg, List.filter_nil,
          List.append_nil]

end Offset

namespace Source

/-- **Every tracker is kept under its partition.** -/
def Tracked (s : Source) : Prop :=
  ∀ key tracker, Keyed.lookup key s.trackers = some tracker → tracker.partition = key

/-- **A source that was prepared:** it reads by the columns of its settings, has a session to hold, takes
at least one row at a time, and keeps every tracker under its partition. -/
structure Ready (S : DatabaseSettings) (s : Source) : Prop extends Maps S s where
  cached : s.cache.isSome
  batch : 1 ≤ s.batchSize
  tracked : ∀ key tracker, Keyed.lookup key s.trackers = some tracker → tracker.partition = key

/-- **How far a table has been read;** where nothing is known, to the start. -/
def position (s : Source) (t : TableSource) : Cursor := (s.position? t.partition).getD s.start

variable {S : DatabaseSettings} {s s' s'' : Source} {t : TableSource}

/-! ## Trackers alone -/

/-- **Two sources that differ in their trackers alone.** They read and map rows alike, on the same
session. -/
def Shifts (s s' : Source) : Prop := ∃ trackers, s' = { s with trackers }

/-- A source that stays shifts. -/
theorem Shifts.refl (s : Source) : Shifts s s := ⟨s.trackers, rfl⟩

/-- Two shifts in a row. -/
theorem Shifts.trans (h : Shifts s s') (h' : Shifts s' s'') : Shifts s s'' := by
  obtain ⟨trackers, rfl⟩ := h
  obtain ⟨trackers', rfl⟩ := h'
  exact ⟨trackers', rfl⟩

/-- Tracking a partition is a shift. -/
theorem shifts_track (s : Source) (tracker : Tracker) : Shifts s (s.track tracker) := ⟨_, rfl⟩

/-- Taking an offset up is a shift. -/
theorem shifts_restoreOne (s : Source) (o : Offset) : Shifts s (s.restoreOne o) := by
  unfold restoreOne
  by_cases hknows : s.knows o.partition
  · rw [if_pos hknows]
    cases Keyed.lookup o.partition s.trackers with
    | none => exact shifts_track s _
    | some tracker => exact shifts_track s _
  · rw [if_neg hknows]
    exact .refl s

/-- Moving on to an offset is a shift. -/
theorem shifts_commitOne (s : Source) (o : Offset) : Shifts s (s.commitOne o) := by
  unfold commitOne
  cases Keyed.lookup o.partition s.trackers with
  | none => exact .refl s
  | some tracker => exact shifts_track s _

/-- A source that shifts keeps its settings. -/
theorem Shifts.settings (h : Shifts s s') : s'.settings = s.settings := by
  obtain ⟨trackers, rfl⟩ := h
  rfl

/-- A source that shifts keeps its start. -/
theorem Shifts.start (h : Shifts s s') : s'.start = s.start := by
  obtain ⟨trackers, rfl⟩ := h
  rfl

/-- Shifts in a row make one. -/
theorem shifts_foldl {α : Type} {step : Source → α → Source} (h : ∀ s a, Shifts s (step s a))
    (s : Source) (as : List α) : Shifts s (as.foldl step s) := by
  induction as generalizing s with
  | nil => exact .refl s
  | cons a as ih => exact (h s a).trans (ih (step s a))

/-- **Taking offsets up is a shift.** -/
theorem shifts_restore (s : Source) (offsets : List Offset) : Shifts s (s.restore offsets) :=
  shifts_foldl shifts_restoreOne s offsets

/-- **Moving on to offsets is a shift.** -/
theorem shifts_commit (s : Source) (offsets : List Offset) : Shifts s (s.commit offsets) :=
  shifts_foldl shifts_commitOne s offsets

/-- **Putting the tables at the start is a shift.** -/
theorem shifts_startTables (s : Source) : Shifts s s.startTables := by
  unfold startTables
  by_cases hnamed : s.settings.initialTimestamp.isSome
  · rw [if_pos hnamed]
    exact shifts_foldl (fun s t => shifts_track s ⟨t.partition, s.start⟩) s s.settings.tables
  · rw [if_neg hnamed]
    exact .refl s

/-! ## Tracking -/

/-- A partition that is tracked is where its tracker is. -/
@[simp] theorem position?_track_self (s : Source) (tracker : Tracker) :
    (s.track tracker).position? tracker.partition = some tracker.current := by
  rw [position?, track, Keyed.lookup_insert_self]
  rfl

/-- Tracking a partition leaves the others where they are. -/
theorem position?_track_of_ne {tracker : Tracker} {key : String} (h : key ≠ tracker.partition) :
    (s.track tracker).position? key = s.position? key := by
  rw [position?, track, Keyed.lookup_insert_of_ne _ _ h]
  rfl

/-- Tracking a partition keeps its tracker under it. -/
theorem Tracked.track (h : Tracked s) (tracker : Tracker) : Tracked (s.track tracker) := by
  intro key other hother
  by_cases hkey : key = tracker.partition
  · subst hkey
    rw [Source.track, Keyed.lookup_insert_self] at hother
    cases hother
    rfl
  · rw [Source.track, Keyed.lookup_insert_of_ne _ _ hkey] at hother
    exact h key other hother

/-- A source stays ready when its session changes. -/
theorem Ready.withCache (h : Ready S s) (cache : Cache) :
    Ready S { s with cache := some cache } :=
  ⟨⟨h.settings, h.mapper⟩, rfl, h.batch, h.tracked⟩

/-- A source stays ready when its trackers change and are kept under their partitions. -/
theorem Ready.of_shifts (h : Ready S s) (hs : Shifts s s') (htracked : Tracked s') : Ready S s' := by
  obtain ⟨trackers, rfl⟩ := hs
  exact ⟨⟨h.settings, h.mapper⟩, h.cached, h.batch, htracked⟩

/-- A source stays ready when it tracks a partition. -/
theorem Ready.track (h : Ready S s) (tracker : Tracker) : Ready S (s.track tracker) :=
  h.of_shifts (shifts_track s tracker) (Tracked.track h.tracked tracker)

/-! ## Moving on -/

/-- Moving on to an offset moves its partition, if it is tracked, and no other. -/
theorem position?_commitOne (h : Tracked s) (o : Offset) (key : String) :
    (s.commitOne o).position? key =
      if o.partition = key then (s.position? key).map (·.later (Cursor.ofOffset o))
      else s.position? key := by
  unfold commitOne
  cases hlookup : Keyed.lookup o.partition s.trackers with
  | none =>
      by_cases hkey : o.partition = key
      · subst hkey
        rw [if_pos rfl, position?, hlookup]
        rfl
      · rw [if_neg hkey]
  | some tracker =>
      have hpartition : tracker.partition = o.partition := h _ _ hlookup
      by_cases hkey : o.partition = key
      · subst hkey
        have hself := position?_track_self s (tracker.advance (Cursor.ofOffset o))
        rw [Tracker.partition_advance, hpartition, Tracker.current_advance] at hself
        dsimp only
        rw [if_pos rfl, hself, position?, hlookup]
        rfl
      · rw [if_neg hkey]
        refine position?_track_of_ne ?_
        rw [Tracker.partition_advance, hpartition]
        exact fun heq => hkey heq.symm

/-- Moving on to an offset keeps every tracker under its partition. -/
theorem Tracked.commitOne (h : Tracked s) (o : Offset) : Tracked (s.commitOne o) := by
  unfold Source.commitOne
  cases Keyed.lookup o.partition s.trackers with
  | none => exact h
  | some tracker => exact h.track _

/-- A source stays ready when it moves on to an offset. -/
theorem Ready.commitOne (h : Ready S s) (o : Offset) : Ready S (s.commitOne o) :=
  h.of_shifts (shifts_commitOne s o) (Tracked.commitOne h.tracked o)

/-- A source stays ready when it moves on. -/
theorem Ready.commit (h : Ready S s) (offsets : List Offset) : Ready S (s.commit offsets) := by
  induction offsets generalizing s with
  | nil => exact h
  | cons o offsets ih => exact ih (h.commitOne o)

/-- **Where a partition is after moving on:** at the latest of where it was and its offsets. -/
theorem position?_commit (h : Tracked s) (offsets : List Offset) (key : String) :
    (s.commit offsets).position? key = (s.position? key).map (fun c =>
      (offsets.filter (fun o => o.partition == key)).foldl (fun c o => c.later (.ofOffset o)) c) := by
  induction offsets generalizing s with
  | nil => simp [commit]
  | cons o offsets ih =>
      have hstep := ih (h.commitOne o)
      rw [position?_commitOne h] at hstep
      show ((s.commitOne o).commit offsets).position? key = _
      rw [hstep]
      by_cases hkey : o.partition = key
      · rw [if_pos hkey, List.filter_cons_of_pos (by simpa using hkey), Option.map_map]
        rfl
      · rw [if_neg hkey, List.filter_cons_of_neg (by simpa using hkey)]

/-! ## Taking up -/

/-- Taking up an offset keeps every tracker under its partition. -/
theorem Tracked.restoreOne (h : Tracked s) (o : Offset) : Tracked (s.restoreOne o) := by
  unfold Source.restoreOne
  by_cases hknows : s.knows o.partition
  · rw [if_pos hknows]
    cases Keyed.lookup o.partition s.trackers with
    | none => exact h.track _
    | some tracker => exact h.track _
  · rw [if_neg hknows]
    exact h

/-- **Where a partition is after taking an offset up:** at the offset if it was not tracked, and
otherwise at the later of where it was and the offset. An offset of a partition that nobody reads
moves nothing. -/
theorem position?_restoreOne (h : Tracked s) (o : Offset) (key : String) :
    (s.restoreOne o).position? key =
      if o.partition = key ∧ s.knows key then
        some (((s.position? key).map (·.later (Cursor.ofOffset o))).getD (Cursor.ofOffset o))
      else s.position? key := by
  unfold restoreOne
  by_cases hknows : s.knows o.partition
  · rw [if_pos hknows]
    by_cases hkey : o.partition = key
    · subst hkey
      rw [if_pos ⟨rfl, hknows⟩]
      cases hlookup : Keyed.lookup o.partition s.trackers with
      | none =>
          have hhere : s.position? o.partition = none := by
            rw [position?, hlookup]
            rfl
          rw [hhere]
          exact position?_track_self s ⟨o.partition, Cursor.ofOffset o⟩
      | some tracker =>
          have hhere : s.position? o.partition = some tracker.current := by
            rw [position?, hlookup]
            rfl
          have hself := position?_track_self s (tracker.restore o)
          have hpartition : tracker.partition = o.partition := h _ _ hlookup
          rw [Tracker.restore, Tracker.partition_advance, hpartition] at hself
          rw [hhere]
          exact hself
    · rw [if_neg (fun hboth => hkey hboth.1)]
      cases hlookup : Keyed.lookup o.partition s.trackers with
      | none => exact position?_track_of_ne (fun heq => hkey heq.symm)
      | some tracker =>
          have hpartition : tracker.partition = o.partition := h _ _ hlookup
          refine position?_track_of_ne ?_
          rw [Tracker.restore, Tracker.partition_advance, hpartition]
          exact fun heq => hkey heq.symm
  · rw [if_neg hknows]
    by_cases hkey : o.partition = key
    · subst hkey
      rw [if_neg (fun hboth => hknows hboth.2)]
    · rw [if_neg (fun hboth => hkey hboth.1)]

/-- A source stays ready when it takes up an offset. -/
theorem Ready.restoreOne (h : Ready S s) (o : Offset) : Ready S (s.restoreOne o) :=
  h.of_shifts (shifts_restoreOne s o) (Tracked.restoreOne h.tracked o)

/-- The later of two positions is one of them. -/
theorem later_of {P : Cursor → Prop} {a b : Cursor} (ha : P a) (hb : P b) : P (a.later b) := by
  unfold Cursor.later
  by_cases h : a.before b
  · rwa [if_pos h]
  · rwa [if_neg h]

/-- What holds of where a table is and of an offset holds of where it is after taking the offset up. -/
theorem position_restoreOne {P : Cursor → Prop} (h : Ready S s) (o : Offset)
    (hs : P (s.position t)) (ho : o.partition = t.partition → P (.ofOffset o)) :
    P ((s.restoreOne o).position t) := by
  unfold restoreOne
  by_cases hknows : s.knows o.partition
  · rw [if_pos hknows]
    cases hlookup : Keyed.lookup o.partition s.trackers with
    | none =>
        by_cases hkey : t.partition = o.partition
        · have := position?_track_self s ⟨o.partition, Cursor.ofOffset o⟩
          rw [position, hkey]
          dsimp only at this ⊢
          rw [this]
          exact ho hkey.symm
        · rw [position, position?_track_of_ne hkey]
          exact hs
    | some tracker =>
        have hpartition : tracker.partition = o.partition := h.tracked _ _ hlookup
        by_cases hkey : t.partition = o.partition
        · have hself := position?_track_self s (tracker.restore o)
          have hsame : (tracker.restore o).partition = t.partition := hpartition.trans hkey.symm
          rw [hsame] at hself
          dsimp only
          rw [position, hself]
          rw [position, position?, hkey, hlookup] at hs
          exact later_of hs (ho hkey.symm)
        · have hne : t.partition ≠ (tracker.restore o).partition := fun heq =>
            hkey (heq.trans hpartition)
          dsimp only
          rw [position, position?_track_of_ne hne]
          exact hs
  · rw [if_neg hknows]
    exact hs

/-- A source stays ready when it takes up offsets. -/
theorem Ready.restore (h : Ready S s) (offsets : List Offset) : Ready S (s.restore offsets) := by
  induction offsets generalizing s with
  | nil => exact h
  | cons o offsets ih => exact ih (h.restoreOne o)

/-- **What holds of where a table is and of its offsets** holds of where it is after taking them up. -/
theorem position_restore {P : Cursor → Prop} (h : Ready S s) (offsets : List Offset)
    (hs : P (s.position t)) (ho : ∀ o ∈ offsets, o.partition = t.partition → P (.ofOffset o)) :
    P ((s.restore offsets).position t) := by
  induction offsets generalizing s with
  | nil => exact hs
  | cons o offsets ih =>
      exact ih (h.restoreOne o) (position_restoreOne h o hs (ho o List.mem_cons_self))
        (fun o' ho' => ho o' (List.mem_cons_of_mem o ho'))

end Source

end SeriesBridge
