import SeriesBridge.Proofs.Database.Acquisition
import SeriesBridge.Proofs.Extraction.Position

/-! # Passing over rows

Of the rows that a query gives, a poll keeps those that make whole instants. A table moves within a
poll only when every row that was kept of it is refused as invalid, and then it passes over them. All
of this holds whatever a database answers, also for answers that no table could give.

* **`Source.Moves s s'`** — two sources that differ in their sessions and trackers alone.
* **`Source.Keeps s t after u result times`** — what a poll keeps of the rows of a table.
* **`Source.PassesOver s t after u last`** — every row that it keeps is refused.
* **`Source.batched_of_batch`**, **`Source.publish_cases`** — what a batch comes to, and what is made of
  its rows.
* **`Source.Comes s t u x`** — what becomes of a table in a poll.
* **`Source.turn_of_pollTables`** — what polling tables comes to. -/

namespace SeriesBridge

open Dialogue

namespace Source

variable {s s' s'' : Source} {t : TableSource} {u v : List (Exchange Link)} {after last : Int64}

/-! ## Sources that move -/

/-- **Two sources that differ in their sessions and trackers alone.** They read and map rows alike. -/
def Moves (s s' : Source) : Prop := ∃ cache trackers, s' = { s with cache, trackers }

/-- A source that stays moves. -/
theorem Moves.refl (s : Source) : Moves s s := ⟨s.cache, s.trackers, rfl⟩

/-- Two moves in a row. -/
theorem Moves.trans (h : Moves s s') (h' : Moves s' s'') : Moves s s'' := by
  obtain ⟨cache, trackers, rfl⟩ := h
  obtain ⟨cache', trackers', rfl⟩ := h'
  exact ⟨cache', trackers', rfl⟩

/-- A shift is a move. -/
theorem Shifts.moves (h : Shifts s s') : Moves s s' := by
  obtain ⟨trackers, rfl⟩ := h
  exact ⟨s.cache, trackers, rfl⟩

/-- A source that moves keeps its settings. -/
theorem Moves.settings (h : Moves s s') : s'.settings = s.settings := by
  obtain ⟨cache, trackers, rfl⟩ := h
  rfl

/-- A source that moves keeps its start. -/
theorem Moves.start (h : Moves s s') : s'.start = s.start := by
  obtain ⟨cache, trackers, rfl⟩ := h
  rfl

/-! ## Rows that are kept -/

/-- **The answer to a query** in a course. -/
def Answered (u : List (Exchange Link)) (sql : String) (result : QueryResult) : Prop :=
  ∃ session, (⟨.database (.query session sql), .ok result⟩ : Exchange Link) ∈ u

/-- An answer stays one in a course that goes on. -/
theorem Answered.of_subset {sql : String} {result : QueryResult} (h : Answered u sql result)
    (huv : u ⊆ v) : Answered v sql result := by
  obtain ⟨session, hmem⟩ := h
  exact ⟨session, huv hmem⟩

/-- The answers to a query in a course. -/
def answers (u : List (Exchange Link)) (sql : String) : List QueryResult :=
  u.filterMap (fun
    | ⟨.database (.query _ asked), .ok result⟩ => if asked = sql then some result else none
    | _ => none)

/-- They are what was answered. -/
theorem answered_of_mem_answers {sql : String} {result : QueryResult}
    (h : result ∈ answers u sql) : Answered u sql result := by
  obtain ⟨e, he, hresult⟩ := List.mem_filterMap.1 h
  split at hresult
  · split at hresult
    · rename_i heq
      cases hresult
      cases heq
      exact ⟨_, he⟩
    · cases hresult
  · cases hresult

/-- **What a poll keeps of the rows of a table,** with their times: of a batch the rows of whole
instants, and of an instant that fills a batch all rows, asked for anew. -/
inductive Keeps (s : Source) (t : TableSource) (after : Int64) (u : List (Exchange Link)) :
    QueryResult → List Int64 → Prop where
  /-- There was nothing to keep. -/
  | nothing (result : QueryResult) : Keeps s t after u result []
  | whole {result : QueryResult} {times : List Int64}
      (asked : Answered u
        (Extraction.rowsAfter t.table s.settings.timestampColumn after s.batchSize) result)
      (read : s.times t result = .ok times)
      (part : ¬ (Extraction.completePrefix s.batchSize times = times.length ∧
        s.batchSize ≤ times.length)) :
      Keeps s t after u result (times.take (Extraction.completePrefix s.batchSize times))
  | instant {batch result : QueryResult} {first : Int64} {rest times : List Int64}
      (asked : Answered u
        (Extraction.rowsAfter t.table s.settings.timestampColumn after s.batchSize) batch)
      (read : s.times t batch = .ok (first :: rest))
      (full : Extraction.completePrefix s.batchSize (first :: rest) = (first :: rest).length ∧
        s.batchSize ≤ (first :: rest).length)
      (again : Answered u (Extraction.rowsAt t.table s.settings.timestampColumn first) result)
      (reread : s.times t result = .ok times) : Keeps s t after u result times

/-- What is kept in a course is kept in one that goes on, by any source that moves. -/
theorem Keeps.of_moves {result : QueryResult} {times : List Int64}
    (h : Keeps s' t after u result times) (hs : Moves s s') (huv : u ⊆ v) :
    Keeps s t after v result times := by
  obtain ⟨cache, trackers, rfl⟩ := hs
  cases h with
  | nothing => exact .nothing result
  | whole asked read part => exact .whole (asked.of_subset huv) read part
  | instant asked read full again reread =>
      exact .instant (asked.of_subset huv) read full (again.of_subset huv) reread

/-- **A query** changes the session alone, and what it gives was answered. -/
theorem query_cases {sql : String} {x : Outcome QueryResult × Source} (h : Runs (s.query sql) u x) :
    (∃ cache, x.2 = { s with cache }) ∧ ∀ result, x.1 = .ok result → Answered u sql result := by
  unfold query at h
  cases hcache : s.cache with
  | none =>
      rw [hcache] at h
      obtain ⟨rfl, rfl⟩ := runs_done_iff.1 h
      exact ⟨⟨s.cache, rfl⟩, by simp⟩
  | some c =>
      rw [hcache] at h
      obtain ⟨v, w, ⟨result, c'⟩, rfl, hquery, hlast⟩ := runs_bind_iff.1 h
      obtain ⟨rfl, rfl⟩ := runs_done_iff.1 hlast
      rw [List.append_nil]
      refine ⟨⟨some c', rfl⟩, ?_⟩
      rintro _ rfl
      rcases Cache.use_cases hquery with ⟨e, -, he⟩ | ⟨v₁, v₂, session, answer, rfl, -, hcall, hok⟩
      · cases he
      · -- The answer to the query is the last of the course.
        rw [runs_ask_iff.1 hcall]
        cases answer with
        | error e => cases hok
        | ok found =>
            cases hok
            exact ⟨session, List.mem_append_right v₁ (List.mem_singleton_self _)⟩

/-- **What a batch comes to:** the session alone changes, and what it gives was kept. -/
structure Batched (s : Source) (t : TableSource) (after : Int64) (u : List (Exchange Link))
    (x : Outcome (QueryResult × List Int64) × Source) : Prop where
  session : ∃ cache, x.2 = { s with cache }
  keeps : ∀ result times, x.1 = .ok (result, times) → Keeps s t after u result times

/-- A batch that fails gives nothing. -/
theorem Batched.error (cache : Option Cache) (e : Error) :
    Batched s t after u (.error e, { s with cache }) :=
  ⟨⟨cache, rfl⟩, by simp⟩

/-- A batch that gives what was kept. -/
theorem Batched.ok (cache : Option Cache) {result : QueryResult} {times : List Int64}
    (h : Keeps s t after u result times) :
    Batched s t after u (.ok (result, times), { s with cache }) := by
  refine ⟨⟨cache, rfl⟩, ?_⟩
  rintro _ _ heq
  cases heq
  exact h

/-- **A batch** changes the session alone, and what it gives was kept. -/
theorem batched_of_batch {x : Outcome (QueryResult × List Int64) × Source}
    (h : Runs (s.batch t after) u x) : Batched s t after u x := by
  unfold batch at h
  obtain ⟨v, w, ⟨answer, s₁⟩, rfl, hquery, h₁⟩ := runs_bind_iff.1 h
  obtain ⟨⟨cache₁, hs₁⟩, hanswered⟩ := query_cases hquery
  dsimp only at hs₁
  subst hs₁
  cases answer with
  | error e =>
      obtain ⟨rfl, rfl⟩ := runs_done_iff.1 h₁
      exact .error cache₁ e
  | ok found =>
      have hasked := (hanswered found rfl).of_subset (List.subset_append_left v w)
      dsimp only at h₁
      by_cases hempty : found.rows.isEmpty
      · rw [if_pos hempty] at h₁
        obtain ⟨rfl, rfl⟩ := runs_done_iff.1 h₁
        exact .ok cache₁ (.nothing found)
      · rw [if_neg hempty] at h₁
        -- The times do not depend on the session.
        have hsame : ({ s with cache := cache₁ } : Source).times t found = s.times t found := rfl
        rw [hsame] at h₁
        cases htimes : s.times t found with
        | error e =>
            rw [htimes] at h₁
            obtain ⟨rfl, rfl⟩ := runs_done_iff.1 h₁
            exact .error cache₁ e
        | ok times =>
            rw [htimes] at h₁
            dsimp only at h₁
            cases times with
            | nil =>
                obtain ⟨rfl, rfl⟩ := runs_done_iff.1 h₁
                exact .ok cache₁ (.nothing found)
            | cons first rest =>
                dsimp only at h₁
                by_cases hfull : Extraction.completePrefix s.batchSize (first :: rest) =
                    (first :: rest).length ∧ s.batchSize ≤ (first :: rest).length
                · -- One instant fills the batch: its rows are asked for anew, and all of them are kept.
                  rw [if_pos (by simpa using hfull)] at h₁
                  obtain ⟨v₂, w₂, ⟨answer₂, s₂⟩, rfl, hquery₂, h₂⟩ := runs_bind_iff.1 h₁
                  obtain ⟨⟨cache₂, hs₂⟩, hanswered₂⟩ := query_cases hquery₂
                  dsimp only at hs₂
                  subst hs₂
                  cases answer₂ with
                  | error e =>
                      obtain ⟨rfl, rfl⟩ := runs_done_iff.1 h₂
                      exact .error cache₂ e
                  | ok again =>
                      have hagain := (hanswered₂ again rfl).of_subset
                        (List.subset_append_of_subset_right v (List.subset_append_left v₂ w₂))
                      obtain ⟨rfl, rfl⟩ := runs_done_iff.1 h₂
                      have hsame₂ : ({ s with cache := cache₂ } : Source).times t again =
                        s.times t again := rfl
                      rw [hsame₂]
                      cases hreread : s.times t again with
                      | error e => exact .error cache₂ e
                      | ok ts => exact .ok cache₂ (.instant hasked htimes hfull hagain hreread)
                · -- The last instant of a full batch may go on behind it, and is not kept.
                  rw [if_neg (by simpa using hfull)] at h₁
                  obtain ⟨rfl, rfl⟩ := runs_done_iff.1 h₁
                  exact .ok cache₁ (.whole hasked htimes hfull)

/-! ## Rows that are refused -/

/-- **A row that is refused** as invalid. -/
def Refuses (s : Source) (t : TableSource) (columns : List Column) (row : List Json) : Prop :=
  ∃ e, s.rowLine (s.context t columns) row = .error e ∧ e.isInvalidData = true

/-- **The records of rows, row by row:** a row makes the next record, or is refused and skipped. -/
theorem records_cons_cases {ctx : RowContext} {row : List Json} {time : Int64}
    {rows : List (List Json × Int64)} {made : List Outgoing} {skipped : Nat}
    (h : s.records t ctx ((row, time) :: rows) = .ok (made, skipped)) :
    (∃ line rest, s.rowLine ctx row = .ok line ∧ s.records t ctx rows = .ok (rest, skipped) ∧
      made = s.record t time line :: rest) ∨
    (∃ e n, s.rowLine ctx row = .error e ∧ e.isInvalidData = true ∧
      s.records t ctx rows = .ok (made, n)) := by
  rw [records] at h
  cases hline : s.rowLine ctx row with
  | ok line =>
      rw [hline] at h
      dsimp only at h
      cases hrest : s.records t ctx rows with
      | error e =>
          rw [hrest] at h
          cases h
      | ok found =>
          rw [hrest] at h
          cases h
          exact .inl ⟨line, found.1, rfl, rfl, rfl⟩
  | error e =>
      rw [hline] at h
      dsimp only at h
      by_cases he : e.isInvalidData = true
      · rw [if_pos he] at h
        cases hrest : s.records t ctx rows with
        | error e' =>
            rw [hrest] at h
            cases h
        | ok found =>
            rw [hrest] at h
            cases h
            exact .inr ⟨e, found.2, rfl, he, rfl⟩
      · rw [if_neg he] at h
        cases h

/-- **When no record is made, every row is refused.** -/
theorem refuses_of_records_nil {columns : List Column} {rows : List (List Json × Int64)}
    {skipped : Nat} (h : s.records t (s.context t columns) rows = .ok ([], skipped)) :
    ∀ row ∈ rows, s.Refuses t columns row.1 := by
  induction rows generalizing skipped with
  | nil => simp
  | cons row rows ih =>
      rcases records_cons_cases h with ⟨line, rest, -, -, hmade⟩ | ⟨e, n, hline, he, hrest⟩
      · cases hmade
      · exact List.forall_mem_cons.2 ⟨⟨e, hline, he⟩, ih hrest⟩

/-- The records of a table are under its partition. -/
theorem key_of_mem_records {ctx : RowContext} {rows : List (List Json × Int64)}
    {made : List Outgoing} {skipped : Nat} (h : s.records t ctx rows = .ok (made, skipped)) :
    ∀ r ∈ made, r.key = some t.partition := by
  induction rows generalizing made skipped with
  | nil =>
      cases h
      simp
  | cons row rows ih =>
      rcases records_cons_cases h with ⟨line, rest, -, hrest, rfl⟩ | ⟨e, n, -, -, hrest⟩
      · exact List.forall_mem_cons.2 ⟨rfl, ih hrest⟩
      · exact ih hrest

/-- The offset of a batch leaves its records under their partition. -/
theorem key_of_mem_closeBatch {o : Offset} {records : List Outgoing} {key : Option String}
    (h : ∀ r ∈ records, r.key = key) : ∀ r ∈ closeBatch o records, r.key = key := by
  induction records with
  | nil => simp [closeBatch]
  | cons r rest ih =>
      obtain ⟨hr, hrest⟩ := List.forall_mem_cons.1 h
      cases rest with
      | nil => exact List.forall_mem_singleton.2 hr
      | cons r' rest' => exact List.forall_mem_cons.2 ⟨hr, ih hrest⟩

/-- **A table passes over rows** when every row that was kept of it is refused. -/
def PassesOver (s : Source) (t : TableSource) (after : Int64) (u : List (Exchange Link))
    (last : Int64) : Prop :=
  ∃ result times, Keeps s t after u result times ∧ times.getLast? = some last ∧
    ∀ row ∈ result.rows.zip times, s.Refuses t result.columns row.1

/-- **What is made of rows:** records, and the source stays; or none since all rows are refused, and
then its tracker moves to the last of them. -/
theorem publish_cases {result : QueryResult} {times : List Int64}
    {x : Outcome (List Outgoing) × Source} (h : Runs (s.publish t result times) u x) :
    (x.2 = s ∧ ∀ records, x.1 = .ok records → ∀ r ∈ records, r.key = some t.partition) ∨
    (x.1 = .ok [] ∧ ∃ last tracker, times.getLast? = some last ∧
      Keyed.lookup t.partition s.trackers = some tracker ∧
      (∀ row ∈ result.rows.zip times, s.Refuses t result.columns row.1) ∧
      x.2 = s.track (tracker.advance (Cursor.ofUnits s.settings.precision last))) := by
  unfold publish at h
  cases hlast : times.getLast? with
  | none =>
      rw [hlast] at h
      obtain ⟨rfl, rfl⟩ := runs_done_iff.1 h
      refine .inl ⟨rfl, ?_⟩
      rintro records heq
      cases heq
      simp
  | some last =>
      rw [hlast] at h
      dsimp only at h
      cases hmade : s.records t (s.context t result.columns) (result.rows.zip times) with
      | error e =>
          rw [hmade] at h
          obtain ⟨rfl, rfl⟩ := runs_done_iff.1 h
          exact .inl ⟨rfl, by simp⟩
      | ok made =>
          obtain ⟨records, skipped⟩ := made
          rw [hmade] at h
          dsimp only at h
          obtain ⟨v, w, _, rfl, -, hlast'⟩ := runs_bind_iff.1 h
          cases records with
          | nil =>
              -- No record can carry the offset, so the source itself moves past the rows.
              have hrefused := refuses_of_records_nil hmade
              simp only [List.isEmpty_nil, if_true] at hlast'
              obtain ⟨rfl, rfl⟩ := runs_done_iff.1 hlast'
              cases hlookup : Keyed.lookup t.partition s.trackers with
              | none =>
                  refine .inl ⟨rfl, ?_⟩
                  rintro records heq
                  cases heq
                  simp
              | some tracker => exact .inr ⟨rfl, last, tracker, rfl, rfl, hrefused, rfl⟩
          | cons r rest =>
              simp only [List.isEmpty_cons, Bool.false_eq_true, if_false] at hlast'
              obtain ⟨rfl, rfl⟩ := runs_done_iff.1 hlast'
              refine .inl ⟨rfl, ?_⟩
              rintro records heq
              cases heq
              exact key_of_mem_closeBatch (key_of_mem_records hmade)

/-! ## Tables that are polled -/

/-- **What becomes of a table** in a poll: it stays where it is, or it passes over rows to the time of
the last of them. A table that is not known is put at the start first. -/
inductive Comes (s : Source) (t : TableSource) (u : List (Exchange Link))
    (x : Outcome (List Outgoing) × Source) : Prop where
  /-- The poll broke off before it came to the table. -/
  | untouched (here : x.2.position? t.partition = s.position? t.partition)
  | stays (here : x.2.position? t.partition = some (s.position t))
  | passes {last : Int64}
      (past : s.PassesOver t ((s.position t).toUnits s.settings.precision) u last)
      (here : x.2.position? t.partition =
        some ((s.position t).later (Cursor.ofUnits s.settings.precision last)))
      (silent : ∀ records, x.1 = .ok records → ∀ r ∈ records, r.key ≠ some t.partition)

/-- **What polling tables comes to:** the others stay where they are, every record is one of the
tables, and each of them stays or passes over rows. -/
structure Turn (ts : List TableSource) (s : Source) (u : List (Exchange Link))
    (x : Outcome (List Outgoing) × Source) : Prop where
  moves : Moves s x.2
  tracked : Tracked x.2
  others : ∀ key, key ∉ ts.map TableSource.partition → x.2.position? key = s.position? key
  keys : ∀ records, x.1 = .ok records → ∀ r ∈ records, ∃ t ∈ ts, r.key = some t.partition
  comes : ∀ t ∈ ts, Comes s t u x

/-- What polling one table comes to, from what becomes of it and of the others. -/
theorem turn_singleton {x : Outcome (List Outgoing) × Source} (hmoves : Moves s x.2)
    (htracked : Tracked x.2)
    (hothers : ∀ key, key ≠ t.partition → x.2.position? key = s.position? key)
    (hkeys : ∀ records, x.1 = .ok records → ∀ r ∈ records, r.key = some t.partition)
    (hcomes : Comes s t u x) : Turn [t] s u x := by
  refine ⟨hmoves, htracked, ?_, ?_, ?_⟩
  · intro key hkey
    exact hothers key (fun heq => hkey (List.mem_singleton.2 heq))
  · intro records hok r hr
    exact ⟨t, List.mem_singleton_self t, hkeys records hok r hr⟩
  · intro t' ht'
    obtain rfl := List.mem_singleton.1 ht'
    exact hcomes

/-- The tracker of a table, where it was or at the start. -/
theorem exists_tracker (htracked : Tracked s) (t : TableSource) :
    ∃ tracker, (Keyed.lookup t.partition s.trackers).getD ⟨t.partition, s.start⟩ = tracker ∧
      tracker.partition = t.partition ∧ tracker.current = s.position t := by
  refine ⟨_, rfl, ?_, ?_⟩
  · cases hlookup : Keyed.lookup t.partition s.trackers with
    | none => rfl
    | some known => exact htracked _ _ hlookup
  · rw [position, position?]
    cases Keyed.lookup t.partition s.trackers <;> rfl

/-- **Polling a table** moves no other one. -/
theorem turn_of_pollTable (htracked : Tracked s) {x : Outcome (List Outgoing) × Source}
    (h : Runs (s.pollTable t) u x) : Turn [t] s u x := by
  obtain ⟨tracker, htracker, hpartition, hcurrent⟩ := exists_tracker htracked t
  unfold pollTable at h
  rw [htracker] at h
  dsimp only at h
  obtain ⟨v, w, ⟨answer, s₁⟩, rfl, hbatch, hpublish⟩ := runs_bind_iff.1 h
  obtain ⟨⟨cache, hs₁⟩, hkept⟩ := batched_of_batch hbatch
  dsimp only at hs₁
  subst hs₁
  -- From here on the table is tracked, and the batch has changed the session alone.
  have hmoves : Moves s { s.track tracker with cache } := ⟨cache, _, rfl⟩
  have htracked₁ : Tracked { s.track tracker with cache } := htracked.track tracker
  have hhere : (s.track tracker).position? t.partition = some (s.position t) := by
    rw [← hpartition, position?_track_self, hcurrent]
  have hother : ∀ key, key ≠ t.partition → (s.track tracker).position? key = s.position? key := by
    intro key hkey
    rw [← hpartition] at hkey
    exact position?_track_of_ne hkey
  have hstays : x.2 = { s.track tracker with cache } →
      (∀ records, x.1 = .ok records → ∀ r ∈ records, r.key = some t.partition) →
      Turn [t] s (v ++ w) x := by
    intro hx hkeys
    refine turn_singleton ?_ ?_ ?_ hkeys (.stays ?_) <;> rw [hx]
    · exact hmoves
    · exact htracked₁
    · exact hother
    · exact hhere
  cases answer with
  | error e =>
      obtain ⟨rfl, rfl⟩ := runs_done_iff.1 hpublish
      exact hstays rfl (by simp)
  | ok found =>
      obtain ⟨result, times⟩ := found
      rcases publish_cases hpublish with ⟨hx, hkeys⟩ |
        ⟨hok, last, tracker', hlast, hlookup, hrefused, hx⟩
      · exact hstays hx hkeys
      · -- The tracker that moves is the one that the table was put under.
        have hself : Keyed.lookup t.partition (s.track tracker).trackers = some tracker := by
          rw [← hpartition]
          exact Keyed.lookup_insert_self _ _ _
        obtain rfl : tracker = tracker' := Option.some.inj (hself.symm.trans hlookup)
        have hkeeps := (hkept result times rfl).of_moves (shifts_track s tracker).moves
          (List.subset_append_left v w)
        rw [hcurrent] at hkeeps
        have hnew := position?_track_self { s.track tracker with cache }
          (tracker.advance (Cursor.ofUnits s.settings.precision last))
        rw [Tracker.partition_advance, hpartition, Tracker.current_advance, hcurrent] at hnew
        have hsilent : ∀ {P : Outgoing → Prop} records, x.1 = .ok records → ∀ r ∈ records, P r := by
          intro P records hrecords r hr
          rw [hok] at hrecords
          cases hrecords
          cases hr
        have hpast : s.PassesOver t ((s.position t).toUnits s.settings.precision) (v ++ w) last :=
          ⟨result, times, hkeeps, hlast, hrefused⟩
        refine turn_singleton (hx ▸ hmoves.trans (shifts_track _ _).moves) (hx ▸ htracked₁.track _) ?_
          hsilent (.passes hpast ?_ hsilent)
        · intro key hkey
          rw [hx, ← hother key hkey]
          refine position?_track_of_ne ?_
          rw [Tracker.partition_advance, hpartition]
          exact hkey
        · rw [hx]
          exact hnew

/-- A table passes over rows in a course that goes on, too. -/
theorem PassesOver.of_moves (h : PassesOver s' t after u last) (hs : Moves s s') (huv : u ⊆ v) :
    PassesOver s t after v last := by
  obtain ⟨result, times, hkeeps, hlast, hrefused⟩ := h
  obtain ⟨cache, trackers, rfl⟩ := id hs
  exact ⟨result, times, hkeeps.of_moves hs huv, hlast, hrefused⟩

/-- **A table that fails** ends the turn: those after it are not touched. -/
theorem Turn.cons_error {ts : List TableSource} {e : Error}
    (hnodup : ((t :: ts).map TableSource.partition).Nodup) (h : Turn [t] s u (.error e, s')) :
    Turn (t :: ts) s u (.error e, s') := by
  have hfresh : t.partition ∉ ts.map TableSource.partition := (List.nodup_cons.1 hnodup).1
  refine ⟨h.moves, h.tracked, ?_, by simp, ?_⟩
  · intro key hkey
    refine h.others key (fun hmem => hkey ?_)
    rw [List.mem_singleton.1 hmem]
    exact List.mem_cons_self
  · intro t' ht'
    rcases List.mem_cons.1 ht' with rfl | ht'
    · exact h.comes t' (List.mem_singleton_self t')
    · refine .untouched (h.others t'.partition (fun hmem => hfresh ?_))
      rw [← show t'.partition = t.partition from List.mem_singleton.1 hmem]
      exact List.mem_map_of_mem ht'

/-- What holds of records and of those that come after them holds of all. -/
theorem forall_mem_of_map_append {P : Outgoing → Prop} {records : List Outgoing}
    {rest : Outcome (List Outgoing)} (h : ∀ r ∈ records, P r)
    (hrest : ∀ more, rest = .ok more → ∀ r ∈ more, P r) :
    ∀ all, rest.map (records ++ ·) = .ok all → ∀ r ∈ all, P r := by
  intro all hall r hr
  cases rest with
  | error e => cases hall
  | ok more =>
      cases hall
      rcases List.mem_append.1 hr with hr | hr
      · exact h r hr
      · exact hrest more rfl r hr

/-- What becomes of a table is not changed by polling others after it. -/
theorem Comes.followed {ts : List TableSource} {records : List Outgoing}
    {y : Outcome (List Outgoing) × Source} (hfresh : t.partition ∉ ts.map TableSource.partition)
    (h : Comes s t u (.ok records, s')) (h' : Turn ts s' v y) :
    Comes s t (u ++ v) (y.1.map (records ++ ·), y.2) := by
  have hsame : y.2.position? t.partition = s'.position? t.partition := h'.others _ hfresh
  cases h with
  | untouched here => exact .untouched (hsame.trans here)
  | stays here => exact .stays (hsame.trans here)
  | passes past here silent =>
      refine .passes (past.of_moves (.refl s) (List.subset_append_left u v)) (hsame.trans here)
        (forall_mem_of_map_append (silent records rfl) ?_)
      -- The other records are those of other tables.
      intro more hmore r hr heq
      obtain ⟨t', ht', hkey⟩ := h'.keys more hmore r hr
      have hpartition : t'.partition = t.partition := Option.some.inj (hkey.symm.trans heq)
      exact hfresh (hpartition ▸ List.mem_map_of_mem ht')

/-- What becomes of a table is not changed by polling another one before it. -/
theorem Comes.preceded {t' : TableSource} {records : List Outgoing}
    {y : Outcome (List Outgoing) × Source} (hne : t'.partition ≠ t.partition)
    (h : Turn [t] s u (.ok records, s')) (h' : Comes s' t' v y) :
    Comes s t' (u ++ v) (y.1.map (records ++ ·), y.2) := by
  have hsame : s'.position? t'.partition = s.position? t'.partition :=
    h.others _ (fun hmem => hne (List.mem_singleton.1 hmem))
  have hposition : s'.position t' = s.position t' := by
    rw [position, position, hsame, h.moves.start]
  cases h' with
  | untouched here => exact .untouched (here.trans hsame)
  | stays here => exact .stays (hposition ▸ here)
  | passes past here silent =>
      -- It passed over rows from where it was before the other one was polled, too.
      rw [hposition, h.moves.settings] at past here
      refine .passes (past.of_moves h.moves (List.subset_append_right u v)) here
        (forall_mem_of_map_append ?_ silent)
      intro r hr heq
      obtain ⟨t'', ht'', hkey⟩ := h.keys records rfl r hr
      obtain rfl := List.mem_singleton.1 ht''
      exact hne (Option.some.inj (hkey.symm.trans heq)).symm

/-- **A table before other ones.** -/
theorem Turn.cons {ts : List TableSource} {records : List Outgoing}
    {y : Outcome (List Outgoing) × Source} (hnodup : ((t :: ts).map TableSource.partition).Nodup)
    (h : Turn [t] s u (.ok records, s')) (h' : Turn ts s' v y) :
    Turn (t :: ts) s (u ++ v) (y.1.map (records ++ ·), y.2) := by
  have hfresh : t.partition ∉ ts.map TableSource.partition := (List.nodup_cons.1 hnodup).1
  refine ⟨h.moves.trans h'.moves, h'.tracked, ?_, ?_, ?_⟩
  · intro key hkey
    rw [List.map_cons, List.mem_cons, not_or] at hkey
    rw [h'.others key hkey.2]
    exact h.others key (fun hmem => hkey.1 (List.mem_singleton.1 hmem))
  · refine forall_mem_of_map_append ?_ ?_
    · intro r hr
      obtain ⟨t', ht', hkey⟩ := h.keys records rfl r hr
      obtain rfl := List.mem_singleton.1 ht'
      exact ⟨t', List.mem_cons_self, hkey⟩
    · intro more hmore r hr
      obtain ⟨t', ht', hkey⟩ := h'.keys more hmore r hr
      exact ⟨t', List.mem_cons_of_mem t ht', hkey⟩
  · intro t' ht'
    rcases List.mem_cons.1 ht' with rfl | ht'
    · exact (h.comes t' (List.mem_singleton_self t')).followed hfresh h'
    · refine Comes.preceded (fun heq => hfresh ?_) h (h'.comes t' ht')
      rw [← heq]
      exact List.mem_map_of_mem ht'

/-- **Polling tables** one after another, until one of them fails. -/
theorem turn_of_pollTables {ts : List TableSource}
    (hnodup : (ts.map TableSource.partition).Nodup) (htracked : Tracked s)
    {x : Outcome (List Outgoing) × Source} (h : Runs (s.pollTables ts) u x) : Turn ts s u x := by
  induction ts generalizing s u x with
  | nil =>
      obtain ⟨rfl, rfl⟩ := runs_done_iff.1 h
      exact ⟨.refl s, htracked, fun _ _ => rfl, by simp, by simp⟩
  | cons t ts ih =>
      obtain ⟨v, w, ⟨answer, s₁⟩, rfl, hfirst, h₁⟩ := runs_bind_iff.1 h
      have hturn := turn_of_pollTable htracked hfirst
      -- The tables after it are polled only when it gave records.
      cases answer with
      | error e =>
          obtain ⟨rfl, rfl⟩ := runs_done_iff.1 h₁
          rw [List.append_nil]
          exact hturn.cons_error hnodup
      | ok records =>
          obtain ⟨w₁, w₂, y, rfl, hrest, h₂⟩ := runs_bind_iff.1 h₁
          have hrest := hturn.cons hnodup (ih (List.nodup_cons.1 hnodup).2 hturn.tracked hrest)
          obtain ⟨result, s₂⟩ := y
          cases result with
          | error e =>
              obtain ⟨rfl, rfl⟩ := runs_done_iff.1 h₂
              rw [List.append_nil]
              exact hrest
          | ok more =>
              obtain ⟨rfl, rfl⟩ := runs_done_iff.1 h₂
              rw [List.append_nil]
              exact hrest

end Source

end SeriesBridge
