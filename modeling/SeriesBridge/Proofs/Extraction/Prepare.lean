import SeriesBridge.Proofs.Database.Session
import SeriesBridge.Proofs.Extraction.Position

/-! # Preparing and stopping a source

* **`DatabaseSettings.Starts S c`** — the settings name the position `c` to start from.
* **`Source.position?_startTables`** — where partitions are when the tables were put at the start.
* **`Source.ensures_prepare`** — a source that was prepared is ready, with every table at the start.
* **`Source.ensures_shutdown`** — stopping closes the session, if there is one. -/

namespace SeriesBridge

open Dialogue

/-! ## Starts -/

/-- **The settings name a position to start from,** and not just the present. -/
def DatabaseSettings.Starts (S : DatabaseSettings) (c : Cursor) : Prop :=
  ∃ text, S.initialTimestamp = some text ∧ (Text.trim text.toList).isEmpty = false ∧
    Cursor.readStart? (some text) ⟨0, 0⟩ = .ok c

/-- A position that is named does not depend on the time of day. -/
theorem DatabaseSettings.Starts.readStart? {S : DatabaseSettings} {c : Cursor} (h : S.Starts c)
    (now : Instant) : Cursor.readStart? S.initialTimestamp now = .ok c := by
  obtain ⟨text, htext, hnot, hstart⟩ := h
  have hneg : ¬ (Text.trim ((some text).getD "").toList).isEmpty = true := by
    rw [Option.getD_some, hnot]
    exact Bool.false_ne_true
  rw [← hstart, htext, Cursor.readStart?, Cursor.readStart?, if_neg hneg, if_neg hneg]

namespace DatabaseSettings

/-- The settings of a source that are accepted have what a source needs. -/
theorem checkSource_of_check {S : DatabaseSettings} (h : S.check = .ok ())
    (hmode : S.mode = .source) : S.checkSource = .ok () := by
  cases hsource : S.checkSource with
  | ok _ => rfl
  | error e =>
      -- Every way through the checks meets the failure.
      unfold check at h
      simp only [hmode, hsource, bind, Except.bind] at h
      repeat' split at h
      all_goals cases h

/-- Accepted tables are under partitions of their own. -/
theorem nodup_of_checkSource {S : DatabaseSettings} (h : S.checkSource = .ok ()) :
    (S.tables.map TableSource.partition).Nodup := by
  by_cases hnodup : (S.tables.map TableSource.partition).Nodup
  · exact hnodup
  · unfold checkSource at h
    simp only [if_neg hnodup, bind, Except.bind] at h
    repeat' split at h
    all_goals cases h

end DatabaseSettings

namespace Source

variable {W : Type} {B : Behaviour Link W} {safe : W → Prop} {R : W → W → Prop} {E : Error → Prop}
  {S : DatabaseSettings} {s : Source} {w : W}

/-- Tables that are put at the start are there, and the others where they were. -/
theorem position?_foldl_track (s : Source) (ts : List TableSource) (key : String) :
    (ts.foldl (fun s t => s.track ⟨t.partition, s.start⟩) s).position? key =
      if key ∈ ts.map TableSource.partition then some s.start else s.position? key := by
  induction ts generalizing s with
  | nil => rfl
  | cons t ts ih =>
      rw [List.foldl_cons, ih, List.map_cons]
      by_cases hrest : key ∈ ts.map TableSource.partition
      · rw [if_pos hrest, if_pos (List.mem_cons_of_mem _ hrest)]
        rfl
      · rw [if_neg hrest]
        by_cases hkey : key = t.partition
        · subst hkey
          rw [if_pos List.mem_cons_self]
          exact position?_track_self s ⟨t.partition, s.start⟩
        · rw [if_neg (fun hmem => (List.mem_cons.1 hmem).elim hkey hrest)]
          exact position?_track_of_ne hkey

/-- **Where a partition is after the tables were put at the start:** there, if the settings name a
start and it is that of a table. -/
theorem position?_startTables (s : Source) (key : String) :
    s.startTables.position? key =
      if s.settings.initialTimestamp.isSome ∧ key ∈ s.settings.tables.map TableSource.partition then
        some s.start
      else s.position? key := by
  unfold startTables
  by_cases hnamed : s.settings.initialTimestamp.isSome
  · rw [if_pos hnamed, position?_foldl_track]
    simp only [hnamed, true_and]
  · rw [if_neg hnamed, if_neg (fun hboth => hnamed hboth.1)]

/-- Putting the tables at the start keeps every tracker under its partition. -/
theorem Tracked.startTables (h : Tracked s) : Tracked s.startTables := by
  have hall : ∀ (ts : List TableSource) {s : Source}, Tracked s →
      Tracked (ts.foldl (fun s t => s.track ⟨t.partition, s.start⟩) s) := by
    intro ts
    induction ts with
    | nil => exact fun h => h
    | cons t ts ih => exact fun h => ih (h.track ⟨t.partition, _⟩)
  unfold Source.startTables
  by_cases hnamed : s.settings.initialTimestamp.isSome
  · rw [if_pos hnamed]
    exact hall s.settings.tables h
  · rw [if_neg hnamed]
    exact h

/-- When nothing is tracked, tables start at the start, whether it is named or not. -/
theorem position_startTables (h : Ready S s) (hempty : s.trackers = []) :
    Ready S s.startTables ∧ s.startTables.start = s.start ∧
      ∀ t, s.startTables.position t = s.start := by
  have hstart : s.startTables.start = s.start := (shifts_startTables s).start
  refine ⟨h.of_shifts (shifts_startTables s) (Tracked.startTables h.tracked), hstart, ?_⟩
  intro t
  have hnone : s.position? t.partition = none := by
    rw [position?, hempty]
    rfl
  rw [position, position?_startTables, hnone, hstart]
  split <;> rfl

/-- **Preparing** makes a new source ready, with every table at the start, or fails. -/
theorem ensures_prepare (h : Steady B safe R E) (S : DatabaseSettings)
    (pipeline : PipelineSettings) (hw : safe w) :
    ((ofSettings S).prepare pipeline).Ensures B safe w (fun w' x => safe w' ∧ R w w' ∧
      (x.1 = .ok () → Ready S x.2 ∧
        (∃ now, Cursor.readStart? S.initialTimestamp now = .ok x.2.start) ∧
        ∀ t, x.2.position t = x.2.start)) := by
  unfold prepare
  cases hcheck : (ofSettings S).settings.check with
  | error e => exact ensures_done.2 ⟨hw, h.refl w, by simp⟩
  | ok _ =>
      dsimp only
      cases (ofSettings S).settings.endpoint with
      | error e => exact ensures_done.2 ⟨hw, h.refl w, by simp⟩
      | ok endpoint =>
          cases (ofSettings S).settings.policy with
          | error e => exact ensures_done.2 ⟨hw, h.refl w, by simp⟩
          | ok policy =>
              dsimp only
              refine Ensures.bind (m := fun w' _ => safe w' ∧ R w w') ?_ ?_
              · unfold setUp
                cases (ofSettings S).settings.target? with
                | none => exact ensures_done.2 ⟨hw, h.refl w⟩
                | some name => exact h.ensures_setDatabase _ name hw
              · rintro w₁ ⟨e | _, cache⟩ ⟨hsafe₁, hR₁⟩
                · exact ensures_done.2 ⟨hsafe₁, hR₁, by simp⟩
                · refine (h.ensures_ask rfl hsafe₁).bind ?_
                  rintro w₂ now ⟨hsafe₂, hR₂, -⟩
                  have hR : R w w₂ := h.trans hR₁ hR₂
                  cases hstart : Cursor.readStart? S.initialTimestamp now with
                  | error e =>
                      simp only [ofSettings, hstart]
                      exact ensures_done.2 ⟨hsafe₂, hR, by simp⟩
                  | ok start =>
                      simp only [ofSettings, hstart]
                      have hready := position_startTables (S := S)
                        (s := { settings := S, mapper := (columnMapping S).mapper,
                                cache := some cache, start, batchSize := max pipeline.batchSize 1,
                                meter := some ⟨pipeline.name, "source"⟩ })
                        ⟨⟨rfl, rfl⟩, rfl, Nat.le_max_right _ _, by simp⟩ rfl
                      refine ensures_done.2 ⟨hsafe₂, hR, fun _ => ⟨hready.1, ⟨now, ?_⟩, ?_⟩⟩
                      · rw [hready.2.1]
                        exact hstart
                      · intro t
                        rw [hready.2.1]
                        exact hready.2.2 t

/-- **Stopping** closes the session. -/
theorem ensures_shutdown (h : Steady B safe R E) (s : Source) (hw : safe w) :
    s.shutdown.Ensures B safe w (fun w' _ => safe w' ∧ R w w') := by
  unfold shutdown
  cases s.cache with
  | none => exact ensures_done.2 ⟨hw, h.refl w⟩
  | some cache =>
      refine (h.ensures_close cache hw).bind ?_
      rintro w₁ _ ⟨hsafe₁, hR₁⟩
      exact ensures_done.2 ⟨hsafe₁, hR₁⟩

end Source

end SeriesBridge
