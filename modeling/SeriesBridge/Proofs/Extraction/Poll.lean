import SeriesBridge.Proofs.Database.Session
import SeriesBridge.Proofs.Extraction.Batch
import SeriesBridge.Proofs.Extraction.Position

/-! # What a poll extracts

A poll asks every table for the rows after its position and takes as many of them as make whole
instants. When the database answers as it should, or fails, what comes of it is a stretch of rows from
the old position to the one that the last record carries: all of them, each once, but for those that
make no line.

* **`Extracts`** — a behaviour towards a source whose queries are answered as they should be.
* **`Source.ensures_batch`** — the rows of a batch are whole instants.
* **`Source.Polled`** — what the records of a table are.
* **`Source.ensures_poll`** — what a poll of all tables comes to. -/

namespace SeriesBridge

open Dialogue

/-! ## Answers of a database -/

namespace Table

/-- **The answer to a query for the rows after an instant:** the first of them in order of time. -/
def AnswersAfter (A : List Row → List Row → Prop) (table : Table) (after : Int64) (limit : Nat)
    (result : QueryResult) : Prop :=
  ∃ l, A l (table.rows.filter (fun r => after < r.1)) ∧ InOrder l ∧
    result = ⟨table.columnsWithTime, (l.take limit).map withTime⟩

/-- **The answer to a query for the rows of an instant:** all of them. -/
def AnswersAt (A : List Row → List Row → Prop) (table : Table) (time : Int64)
    (result : QueryResult) : Prop :=
  ∃ l, A l (table.rows.filter (fun r => r.1 == time)) ∧
    result = ⟨table.columnsWithTime, l.map withTime⟩

end Table

variable {W : Type}

/-- **A behaviour towards a source:** tables only grow, and a query is answered as it should be, from
the table as it is then, or fails with a failure among `E`. -/
structure Extracts (A : List Row → List Row → Prop) (S : DatabaseSettings)
    (tables : W → String → TimeTable) (B : Behaviour Link W) (safe : W → Prop)
    (R : W → W → Prop) (E : Error → Prop) : Prop extends Steady B safe R E where
  arrangement : Arrangement A
  grows : ∀ {w w'}, R w w' → ∀ name, (tables w name).GrowsTo (tables w' name)
  asked : ∀ {w w' : W} {session : Nat} {sql : String} {r : Outcome QueryResult}, safe w →
    B w (.database (.query session sql)) r w' → safe w' ∧ R w w'
  failed : ∀ {w w' : W} {session : Nat} {sql : String} {e : Error},
    B w (.database (.query session sql)) (Except.error e) w' → E (.statement sql e)
  after : ∀ {w w' : W} {session : Nat} {t : TableSource} {time : Int64} {limit : Nat}
    {result : QueryResult}, t ∈ S.tables →
    B w (.database (.query session (Extraction.rowsAfter t.table S.timestampColumn time limit)))
      (Except.ok result) w' → (tables w' t.table).AnswersAfter A time limit result
  instant : ∀ {w w' : W} {session : Nat} {t : TableSource} {time : Int64} {result : QueryResult},
    t ∈ S.tables →
    B w (.database (.query session (Extraction.rowsAt t.table S.timestampColumn time)))
      (Except.ok result) w' → (tables w' t.table).AnswersAt A time result

namespace Source

variable {A : List Row → List Row → Prop} {S : DatabaseSettings} {tables : W → String → TimeTable}
  {B : Behaviour Link W} {safe : W → Prop} {R : W → W → Prop} {E : Error → Prop} {s : Source}
  {t : TableSource} {w w' : W}

/-! ## Batches -/

/-- **The rows of a batch** after an instant: when there are none, the table had none; otherwise they are
all rows up to the last of them. -/
structure IsBatch (A : List Row → List Row → Prop) (old new : TimeTable) (after : Int64)
    (b : List Row) : Prop where
  none : b = [] → ∀ r ∈ old.rows, r.1 ≤ after
  all : ∀ last, b.getLast? = some last → last ∈ new.rows ∧ after < last.1 ∧
    A b (Table.between new.rows after last.1)

/-- A result holds the rows of a batch, with their times. -/
def Holds (table : TimeTable) (b : List Row) (result : QueryResult) (times : List Int64) : Prop :=
  times = b.map (·.1) ∧ (b ≠ [] → result.columns = table.columnsWithTime ∧
    result.rows.zip times = b.map (fun r => (Table.withTime r, r.1)))

/-- **A query** is answered, or fails, and only the session of the source changes. -/
theorem ensures_query (h : Extracts A S tables B safe R E) (hs : Ready S s) (sql : String)
    (hw : safe w) :
    (s.query sql).Ensures B safe w (fun w' x => safe w' ∧ R w w' ∧
      (∃ cache, x.2 = { s with cache := some cache }) ∧ FailsWith E x.1 ∧
      ∀ result, x.1 = .ok result → ∃ w₁ session,
        B w₁ (.database (.query session sql)) (Except.ok result) w') := by
  obtain ⟨cache, hcache⟩ := Option.isSome_iff_exists.1 hs.cached
  unfold query
  simp only [hcache]
  refine Ensures.bind (m := fun w' x => safe w' ∧ R w w' ∧ FailsWith E x.1 ∧
    ∀ result, x.1 = .ok result → ∃ w₁ session,
      B w₁ (.database (.query session sql)) (Except.ok result) w') ?_ ?_
  · refine h.ensures_use cache sql _ hw ?_ ?_
    · intro w₁ c e hsafe hR he
      exact ⟨hsafe, hR, failsWith_error.2 he, by simp⟩
    · intro w₁ c session hsafe hR
      refine ensures_ask.2 ?_
      intro r w₂ hB
      obtain ⟨hsafe', hR'⟩ := h.asked hsafe hB
      refine ⟨hsafe', hsafe', h.trans hR hR', ?_, ?_⟩
      · rcases r with e | result
        · exact failsWith_error.2 (h.failed hB)
        · exact failsWith_ok
      · intro result hresult
        rcases r with e | result'
        · cases hresult
        · cases hresult
          exact ⟨w₁, session, hB⟩
  · rintro w₁ ⟨result, c⟩ ⟨hsafe, hR, hfail, hanswer⟩
    exact ensures_done.2 ⟨hsafe, hR, ⟨c, rfl⟩, hfail, hanswer⟩

/-- **The query for the rows after an instant** is answered as it should be. -/
theorem ensures_queryAfter (h : Extracts A S tables B safe R E) (hs : Ready S s)
    (ht : t ∈ S.tables) (time : Int64) (limit : Nat) (hw : safe w) :
    (s.query (Extraction.rowsAfter t.table s.settings.timestampColumn time limit)).Ensures B safe w
      (fun w' x => safe w' ∧ R w w' ∧ (∃ cache, x.2 = { s with cache := some cache }) ∧
        FailsWith E x.1 ∧
        ∀ result, x.1 = .ok result → (tables w' t.table).AnswersAfter A time limit result) := by
  refine (ensures_query h hs _ hw).mono ?_
  rintro w₁ x ⟨hsafe, hR, hcache, hfail, hanswer⟩
  refine ⟨hsafe, hR, hcache, hfail, ?_⟩
  intro result hresult
  obtain ⟨w₀, session, hB⟩ := hanswer result hresult
  rw [hs.settings] at hB
  exact h.after ht hB

/-- **The query for the rows of an instant** is answered as it should be. -/
theorem ensures_queryAt (h : Extracts A S tables B safe R E) (hs : Ready S s)
    (ht : t ∈ S.tables) (time : Int64) (hw : safe w) :
    (s.query (Extraction.rowsAt t.table s.settings.timestampColumn time)).Ensures B safe w
      (fun w' x => safe w' ∧ R w w' ∧ (∃ cache, x.2 = { s with cache := some cache }) ∧
        FailsWith E x.1 ∧
        ∀ result, x.1 = .ok result → (tables w' t.table).AnswersAt A time result) := by
  refine (ensures_query h hs _ hw).mono ?_
  rintro w₁ x ⟨hsafe, hR, hcache, hfail, hanswer⟩
  refine ⟨hsafe, hR, hcache, hfail, ?_⟩
  intro result hresult
  obtain ⟨w₀, session, hB⟩ := hanswer result hresult
  rw [hs.settings] at hB
  exact h.instant ht hB

/-- The times of rows of a table are read from a result. -/
theorem times_eq (hs : Maps S s) (table : TimeTable) {l : List Row}
    (hl : ∀ r ∈ l, r ∈ table.rows) :
    s.times t ⟨table.columnsWithTime, l.map Table.withTime⟩ = .ok (l.map (·.1)) := by
  rw [times, hs.mapper]
  exact TimeTable.mapM_cursor_withTime _ table rfl hl

/-- Rows that are cut from a result together with their times. -/
theorem zip_map_take (l : List Row) (n : Nat) :
    (l.map Table.withTime).zip ((l.map (·.1)).take n) =
      (l.take n).map (fun r => (Table.withTime r, r.1)) := by
  rw [← List.map_take]
  induction l generalizing n with
  | nil => simp
  | cons r l ih =>
      cases n with
      | zero => simp
      | succ n =>
          rw [List.take_succ_cons, List.map_cons, List.map_cons, List.map_cons, List.zip_cons_cons,
            ih n]

/-- A batch that is cut between two instants, or is all there is. -/
theorem isBatch_take (hA : Arrangement A) {old new : TimeTable} {after : Int64}
    {limit : Nat} {l : List Row} (hl : A l (new.rows.filter (fun r => after < r.1)))
    (horder : Table.InOrder l) (hne : l.take limit ≠ [])
    (hcut : ¬ (Extraction.completePrefix limit ((l.take limit).map (·.1)) =
      ((l.take limit).map (·.1)).length ∧ limit ≤ ((l.take limit).map (·.1)).length)) :
    IsBatch A old new after
      ((l.take limit).take (Extraction.completePrefix limit ((l.take limit).map (·.1)))) := by
  obtain ⟨last, hlast, hwhole⟩ := Extraction.take_completePrefix Prod.fst horder rfl hne hcut
  generalize (l.take limit).take _ = b at hlast hwhole
  have hmem : last ∈ new.rows.filter (fun r => after < r.1) := by
    have hb : last ∈ l.filter (fun r => r.1 ≤ last.1) := by
      rw [← hwhole]
      exact List.mem_of_getLast? hlast
    exact (hA.perm hl).mem_iff.1 (List.mem_filter.1 hb).1
  obtain ⟨hnew, hafter⟩ := List.mem_filter.1 hmem
  rw [decide_eq_true_eq] at hafter
  refine ⟨?_, ?_⟩
  · rintro rfl
    cases hlast
  · intro last' hlast'
    rw [hlast] at hlast'
    cases hlast'
    refine ⟨hnew, hafter, ?_⟩
    rw [hwhole]
    have := hA.filter (fun r => r.1 ≤ last.1) hl
    rw [List.filter_filter] at this
    have hsame : Table.between new.rows after last.1 =
        new.rows.filter (fun r => decide (r.1 ≤ last.1) && decide (after < r.1)) :=
      List.filter_congr (fun r _ => Bool.and_comm _ _)
    rwa [hsame]

/-- A batch of one instant, asked for anew. -/
theorem isBatch_instant (hA : Arrangement A) {old mid new : TimeTable} (hgrows : mid.GrowsTo new)
    {after : Int64} {l l' : List Row} {first : Row}
    (hl : A l (mid.rows.filter (fun r => after < r.1))) (horder : Table.InOrder l)
    (hfirst : l.head? = some first)
    (hl' : A l' (new.rows.filter (fun r => r.1 == first.1))) : IsBatch A old new after l' := by
  have hmem : ∀ r, r ∈ l ↔ r ∈ mid.rows ∧ after < r.1 := by
    intro r
    rw [(hA.perm hl).mem_iff, List.mem_filter, decide_eq_true_eq]
  have hmem' : ∀ r, r ∈ l' ↔ r ∈ new.rows ∧ r.1 = first.1 := by
    intro r
    rw [(hA.perm hl').mem_iff, List.mem_filter, beq_iff_eq]
  obtain ⟨hmid, hafter⟩ := (hmem first).1 (List.mem_of_head? hfirst)
  -- The first row is the earliest of those after the instant, also among those that came since.
  have hleast : ∀ r ∈ new.rows, after < r.1 → first.1 ≤ r.1 := by
    intro r hr hlt
    obtain ⟨-, more, hrows, hlater⟩ := hgrows
    rw [hrows] at hr
    rcases List.mem_append.1 hr with hr | hr
    · obtain ⟨rest, rfl⟩ := List.head?_eq_some_iff.1 hfirst
      rcases List.mem_cons.1 ((hmem r).2 ⟨hr, hlt⟩) with rfl | hr
      · exact Int64.le_refl _
      · exact (List.pairwise_cons.1 horder).1 r hr
    · exact Int64.le_of_lt (hlater first hmid r hr)
  have hsame : Table.between new.rows after first.1 =
      new.rows.filter (fun r => r.1 == first.1) := by
    refine List.filter_congr (fun r hr => ?_)
    rw [Bool.eq_iff_iff, Bool.and_eq_true, decide_eq_true_eq, decide_eq_true_eq, beq_iff_eq]
    constructor
    · rintro ⟨hlt, hle⟩
      exact Int64.le_antisymm hle (hleast r hr hlt)
    · intro htime
      rw [htime]
      exact ⟨hafter, Int64.le_refl _⟩
  refine ⟨?_, ?_⟩
  · rintro rfl
    exact absurd ((hmem' first).2 ⟨hgrows.mem hmid, rfl⟩) (by simp)
  · intro last hlast
    obtain ⟨hnew, htime⟩ := (hmem' last).1 (List.mem_of_getLast? hlast)
    rw [htime, hsame]
    exact ⟨hnew, hafter, hl'⟩

/-- No rows are a batch of a table that has none left. -/
theorem isBatch_nil (hA : Arrangement A) {old new : TimeTable} (hgrows : old.GrowsTo new)
    {after : Int64} (h : A [] (new.rows.filter (fun r => after < r.1))) :
    IsBatch A old new after [] := by
  refine ⟨?_, by simp⟩
  intro _ r hr
  have hnil := List.nil_perm.1 (hA.perm h)
  rw [List.filter_eq_nil_iff] at hnil
  have := hnil r (hgrows.mem hr)
  rw [decide_eq_true_eq] at this
  exact Int64.not_lt.1 this

/-- The first of the rows that were taken is the first of all. -/
theorem head?_of_take {l : List Row} {n : Nat} {first : Row} {rest : List Row}
    (h : l.take n = first :: rest) : l.head? = some first := by
  have := congrArg List.head? h
  rw [List.head?_take] at this
  split at this
  · cases this
  · exact this

/-- Rows of an instant, with their times, are held by the result that gives them. -/
theorem holds_map_withTime (table : TimeTable) (l : List Row) :
    Holds table l ⟨table.columnsWithTime, l.map Table.withTime⟩ (l.map (·.1)) := by
  refine ⟨rfl, fun _ => ⟨rfl, ?_⟩⟩
  have := zip_map_take l l.length
  rwa [← List.map_take, List.take_length] at this

/-- The first rows of a result are held by it, with their times. -/
theorem holds_take (table : TimeTable) (l : List Row) (n : Nat) :
    Holds table (l.take n) ⟨table.columnsWithTime, l.map Table.withTime⟩
      ((l.map (·.1)).take n) :=
  ⟨List.map_take.symm, fun _ => ⟨rfl, zip_map_take l n⟩⟩

/-- **A batch** holds whole instants, or the query for it failed. -/
theorem ensures_batch (h : Extracts A S tables B safe R E) (hs : Ready S s) (ht : t ∈ S.tables)
    (after : Int64) (hw : safe w) :
    (s.batch t after).Ensures B safe w (fun w' x => safe w' ∧ R w w' ∧
      (∃ cache, x.2 = { s with cache := some cache }) ∧ FailsWith E x.1 ∧
      ∀ result times, x.1 = .ok (result, times) → ∃ b, (∀ r ∈ b, r ∈ (tables w' t.table).rows) ∧
        IsBatch A (tables w t.table) (tables w' t.table) after b ∧
        Holds (tables w' t.table) b result times) := by
  unfold batch
  refine (ensures_queryAfter h hs ht after s.batchSize hw).bind ?_
  rintro w₁ ⟨answer, s₁⟩ ⟨hsafe₁, hR₁, ⟨cache₁, rfl⟩, hfail₁, hanswer₁⟩
  rcases answer with e | result
  · exact ensures_done.2 ⟨hsafe₁, hR₁, ⟨cache₁, rfl⟩, failsWith_error.2 (failsWith_error.1 hfail₁),
      by simp⟩
  obtain ⟨l, hl, horder, rfl⟩ := hanswer₁ result rfl
  have hmem : ∀ r ∈ l.take s.batchSize, r ∈ (tables w₁ t.table).rows := fun r hr =>
    (List.mem_filter.1 ((h.arrangement.perm hl).mem_iff.1 (List.mem_of_mem_take hr))).1
  have hs₁ : Ready S { s with cache := some cache₁ } := hs.withCache cache₁
  dsimp only
  cases hgot : l.take s.batchSize with
  | nil =>
      -- The limit is at least one, so no rows were given because there are none.
      have hnil : l = [] := by
        have hbatch := hs.batch
        rcases List.take_eq_nil_iff.1 hgot with hzero | hnil
        · omega
        · exact hnil
      rw [hnil] at hl
      rw [if_pos (by simp)]
      refine ensures_done.2 ⟨hsafe₁, hR₁, ⟨cache₁, rfl⟩, failsWith_ok, ?_⟩
      rintro result times heq
      cases heq
      exact ⟨[], by simp, isBatch_nil h.arrangement (h.grows hR₁ t.table) hl, rfl, by simp⟩
  | cons first rest =>
      have htimes : (l.take s.batchSize).map (·.1) = first.1 :: rest.map (·.1) := by
        rw [hgot, List.map_cons]
      rw [if_neg (by simp), ← hgot, times_eq hs₁.toMaps _ hmem, htimes]
      dsimp only
      by_cases hcut : Extraction.completePrefix s.batchSize (first.1 :: rest.map (·.1)) =
          (first.1 :: rest.map (·.1)).length ∧
          s.batchSize ≤ (first.1 :: rest.map (·.1)).length
      · rw [if_pos (by simpa using hcut)]
        refine (ensures_queryAt h hs₁ ht first.1 hsafe₁).bind ?_
        rintro w₂ ⟨answer, s₂⟩ ⟨hsafe₂, hR₂, ⟨cache₂, rfl⟩, hfail₂, hanswer₂⟩
        have hR : R w w₂ := h.trans hR₁ hR₂
        rcases answer with e | result
        · exact ensures_done.2 ⟨hsafe₂, hR, ⟨cache₂, rfl⟩,
            failsWith_error.2 (failsWith_error.1 hfail₂), by simp⟩
        obtain ⟨l', hl', rfl⟩ := hanswer₂ result rfl
        have hmem' : ∀ r ∈ l', r ∈ (tables w₂ t.table).rows := fun r hr =>
          (List.mem_filter.1 ((h.arrangement.perm hl').mem_iff.1 hr)).1
        dsimp only
        rw [times_eq (hs.withCache cache₂).toMaps _ hmem']
        refine ensures_done.2 ⟨hsafe₂, hR, ⟨cache₂, rfl⟩, failsWith_ok, ?_⟩
        rintro result times heq
        cases heq
        have hfirst : l.head? = some first := head?_of_take hgot
        exact ⟨l', hmem', isBatch_instant h.arrangement (h.grows hR₂ t.table) hl horder hfirst hl',
          holds_map_withTime _ l'⟩
      · rw [if_neg (by simpa using hcut)]
        refine ensures_done.2 ⟨hsafe₁, hR₁, ⟨cache₁, rfl⟩, failsWith_ok, ?_⟩
        rintro result times heq
        cases heq
        rw [← htimes] at hcut ⊢
        exact ⟨_, fun r hr => hmem r (List.mem_of_mem_take hr),
          isBatch_take h.arrangement hl horder (by rw [hgot]; simp) hcut, holds_take _ _ _⟩

/-! ## Records -/

/-- Giving the last record another offset changes its offset alone. -/
theorem closeBatch_concat (last : Offset) (records : List Outgoing) (r : Outgoing) :
    closeBatch last (records ++ [r]) = records ++ [{ r with offset := some last }] := by
  induction records with
  | nil => rfl
  | cons r' records ih =>
      obtain ⟨next, rest, hcons⟩ := List.exists_cons_of_ne_nil
        (show records ++ [r] ≠ [] from by simp)
      rw [List.cons_append, hcons, closeBatch, ← hcons, ih, List.cons_append]
      exact fun h => by cases h

/-- **What the records of a table are,** when it has been read from one position to another: the lines of
its rows in between, under its partition, the last with the offset of the new position. -/
structure Polled (A : List Row → List Row → Prop) (S : DatabaseSettings) (t : TableSource)
    (old new : TimeTable) (start reached : Cursor) (records : List Outgoing) : Prop where
  rows : ∃ b, A b (Table.between new.rows (start.toUnits S.precision)
      (reached.toUnits S.precision)) ∧
    records.map Outgoing.payload = (linesOf S t new.toTable b).map Text.Utf8.ofString
  moved : reached = start ∨ (start.before reached ∧
    start.toUnits S.precision ≤ reached.toUnits S.precision ∧
    ∃ r ∈ new.rows, reached.toUnits S.precision = r.1)
  unmoved : reached = start → ∀ r ∈ old.rows, r.1 ≤ start.toUnits S.precision
  keyed : ∀ r ∈ records, r.key = some t.partition ∧
    ∃ o, r.offset = some o ∧ o.partition = t.partition
  last : ∀ r, records.getLast? = some r → r.offset = some (reached.toOffset t.partition)

/-- A source with one partition at a position, and all else as it was. -/
structure Moved (S : DatabaseSettings) (s s' : Source) (t : TableSource) (c : Cursor) : Prop where
  ready : Ready S s'
  start : s'.start = s.start
  here : s'.position? t.partition = some c
  elsewhere : ∀ key, key ≠ t.partition → s'.position? key = s.position? key

/-- A source that moves past rows of which none made a line. -/
theorem moved_advance (hs : Ready S s) {c c' : Cursor} (hc : s.position? t.partition = some c)
    (hbefore : c.before c' = true) :
    Moved S s (match Keyed.lookup t.partition s.trackers with
      | some tracker => s.track (tracker.advance c')
      | none => s) t c' := by
  cases hlookup : Keyed.lookup t.partition s.trackers with
  | none =>
      rw [position?, hlookup] at hc
      cases hc
  | some tracker =>
      have hpartition : (tracker.advance c').partition = t.partition :=
        hs.tracked t.partition tracker hlookup
      rw [position?, hlookup] at hc
      obtain rfl : tracker.current = c := Option.some.inj hc
      have hself := position?_track_self s (tracker.advance c')
      rw [hpartition, Tracker.current_advance, Cursor.later_eq_right hbefore] at hself
      refine ⟨hs.track _, rfl, hself, ?_⟩
      intro key hkey
      refine position?_track_of_ne ?_
      rw [hpartition]
      exact hkey

/-- Taking readings for the rows that were skipped changes nothing. -/
theorem ensures_noteSkipped (h : Extracts A S tables B safe R E) (s : Source) (n : Nat)
    (hw : safe w) :
    (s.noteSkipped n).Ensures B safe w (fun w' _ => safe w' ∧ R w w') := by
  induction n generalizing w with
  | zero => exact ensures_done.2 ⟨hw, h.refl w⟩
  | succ n ih =>
      unfold noteSkipped
      cases s.meter with
      | none => exact ensures_done.2 ⟨hw, h.refl w⟩
      | some meter =>
          refine (h.ensures_ask rfl hw).bind ?_
          rintro w₁ _ ⟨hsafe₁, hR₁, -⟩
          refine (ih hsafe₁).mono ?_
          rintro w₂ _ ⟨hsafe₂, hR₂⟩
          exact ⟨hsafe₂, h.trans hR₁ hR₂⟩

/-- The records of rows of a table, before the last one takes the offset of the batch. -/
def rowRecords (s : Source) (t : TableSource) (table : Table) (b : List Row) : List Outgoing :=
  b.filterMap (fun r => (line? s.settings t table r).map (s.record t r.1))

/-- The records of rows hold their lines. -/
theorem payload_rowRecords (s : Source) (t : TableSource) (table : Table) (b : List Row) :
    (s.rowRecords t table b).map Outgoing.payload =
      (linesOf s.settings t table b).map Text.Utf8.ofString := by
  rw [rowRecords, linesOf, List.map_filterMap, List.map_filterMap]
  congr 1
  funext r
  rw [Option.map_map]
  rfl

/-- The records of rows of a table are under its partition. -/
theorem keyed_rowRecords (s : Source) (t : TableSource) (table : Table) (b : List Row) :
    ∀ r ∈ s.rowRecords t table b, r.key = some t.partition ∧
      ∃ o, r.offset = some o ∧ o.partition = t.partition := by
  intro r hr
  obtain ⟨row, -, hrow⟩ := List.mem_filterMap.1 hr
  obtain ⟨line, -, rfl⟩ := Option.map_eq_some_iff.1 hrow
  exact ⟨rfl, s.offsetAt t row.1, rfl, rfl⟩

/-- **The records of a batch** are those of a table that was read up to the last row. -/
theorem polled_closeBatch {old new : TimeTable} {c : Cursor} {b : List Row} {last : Row}
    (hb : IsBatch A old new (c.toUnits s.settings.precision) b) (hlast : b.getLast? = some last) :
    Polled A s.settings t old new c (.ofUnits s.settings.precision last.1)
      (closeBatch (s.offsetAt t last.1) (s.rowRecords t new.toTable b)) := by
  obtain ⟨hnew, hafter, harranged⟩ := hb.all last hlast
  have hunits : (Cursor.ofUnits s.settings.precision last.1).toUnits s.settings.precision = last.1 :=
    Cursor.toUnits_ofUnits _ (new.late last hnew)
  have hbefore := Cursor.before_ofUnits (new.late last hnew) hafter
  have hpayload := payload_rowRecords s t new.toTable b
  have hkeyed := keyed_rowRecords s t new.toTable b
  refine ⟨⟨b, by rwa [hunits], ?_⟩, .inr ⟨hbefore, ?_, last, hnew, hunits⟩, ?_, ?_, ?_⟩
  · rw [← hpayload]
    rcases List.eq_nil_or_concat (s.rowRecords t new.toTable b) with hnil | ⟨rs, r, hrs⟩
    · rw [hnil]
      rfl
    · rw [hrs, List.concat_eq_append, closeBatch_concat, List.map_append, List.map_append]
      rfl
  · rw [hunits]
    exact Int64.le_of_lt hafter
  · -- The new position is beyond the old one, so it is not the same.
    intro heq
    rw [heq, Cursor.not_before_self] at hbefore
    cases hbefore
  · rcases List.eq_nil_or_concat (s.rowRecords t new.toTable b) with hnil | ⟨rs, r, hrs⟩
    · rw [hnil]
      simp [closeBatch]
    · rw [hrs, List.concat_eq_append] at hkeyed
      rw [hrs, List.concat_eq_append, closeBatch_concat]
      intro r' hr'
      rcases List.mem_append.1 hr' with hr' | hr'
      · exact hkeyed r' (List.mem_append_left _ hr')
      · rw [List.mem_singleton.1 hr']
        exact ⟨(hkeyed r (by simp)).1, s.offsetAt t last.1, rfl, rfl⟩
  · rcases List.eq_nil_or_concat (s.rowRecords t new.toTable b) with hnil | ⟨rs, r, hrs⟩
    · rw [hnil]
      simp [closeBatch]
    · rw [hrs, List.concat_eq_append, closeBatch_concat]
      intro r' hr'
      rw [List.getLast?_concat] at hr'
      cases hr'
      rfl

/-- A table that has no rows left has no records, and stays where it is. -/
theorem polled_nil (hA : Arrangement A) {old new : TimeTable} {c : Cursor}
    (h : ∀ r ∈ old.rows, r.1 ≤ c.toUnits S.precision) : Polled A S t old new c c [] :=
  ⟨⟨[], by rw [Table.between_self]; exact hA.nil, rfl⟩, .inl rfl, fun _ => h, by simp, by simp⟩

/-- **The records of a batch are published,** or the source moves past the rows of which none made a
line. -/
theorem ensures_publish (h : Extracts A S tables B safe R E) (hs : Ready S s) {c : Cursor}
    (hc : s.position? t.partition = some c) {old : TimeTable} {b : List Row} {result : QueryResult}
    {times : List Int64} (hmem : ∀ r ∈ b, r ∈ (tables w t.table).rows)
    (hb : IsBatch A old (tables w t.table) (c.toUnits S.precision) b)
    (hresult : Holds (tables w t.table) b result times) (hw : safe w) :
    (s.publish t result times).Ensures B safe w (fun w' x => safe w' ∧ R w w' ∧
      ∃ records reached, x.1 = .ok records ∧
        Polled A S t old (tables w t.table) c reached records ∧
        Moved S s x.2 t (if records.isEmpty then reached else c)) := by
  obtain ⟨rfl, hzip⟩ := hresult
  have hstay : Moved S s s t c := ⟨hs, rfl, hc, fun _ _ => rfl⟩
  unfold publish
  rw [List.getLast?_map]
  cases hlast : b.getLast? with
  | none =>
      have hnil : b = [] := List.getLast?_eq_none_iff.1 hlast
      exact ensures_done.2 ⟨hw, h.refl w, [], c, rfl, polled_nil h.arrangement (hb.none hnil), hstay⟩
  | some last =>
      have hne : b ≠ [] := by
        rintro rfl
        cases hlast
      obtain ⟨hcolumns, hrows⟩ := hzip hne
      obtain ⟨skipped, hrecords⟩ := records_eq (t := t) hs.toMaps (tables w t.table) hmem
      have hb' : IsBatch A old (tables w t.table) (c.toUnits s.settings.precision) b := by
        rw [hs.settings]
        exact hb
      have hpolled := polled_closeBatch (s := s) (t := t) hb' hlast
      rw [hs.settings] at hpolled
      have hrowRecords : b.filterMap (fun r => (line? S t (tables w t.table).toTable r).map
          (s.record t r.1)) = s.rowRecords t (tables w t.table).toTable b := by
        rw [rowRecords, hs.settings]
      rw [hrowRecords] at hrecords
      simp only [Option.map_some]
      rw [hrows, hcolumns, hrecords]
      refine (ensures_noteSkipped h s skipped hw).bind ?_
      rintro w₁ _ ⟨hsafe, hR⟩
      generalize hrs : s.rowRecords t (tables w t.table).toTable b = rs at hpolled
      cases rs with
      | nil =>
          -- No record can tell how far the table was read, so the source moves itself.
          rw [if_pos (by rfl)]
          refine ensures_done.2 ⟨hsafe, hR, [], _, rfl, hpolled, ?_⟩
          rw [hs.settings]
          obtain ⟨-, hafter, -⟩ := hb.all last hlast
          exact moved_advance hs hc
            (Cursor.before_ofUnits ((tables w t.table).late last (hmem last
              (List.mem_of_getLast? hlast))) hafter)
      | cons r rs =>
          rw [if_neg (by simp)]
          refine ensures_done.2 ⟨hsafe, hR, _, _, rfl, hpolled, ?_⟩
          have hnot : (closeBatch (s.offsetAt t last.1) (r :: rs)).isEmpty = false := by
            cases rs <;> rfl
          rw [hnot]
          exact hstay

/-! ## Tables -/

/-- What was extracted stays what it is when the table grows. -/
theorem Polled.grow {old mid new : TimeTable} {c reached : Cursor} {records : List Outgoing}
    (h : Polled A S t old mid c reached records) (hgrows : mid.GrowsTo new) :
    Polled A S t old new c reached records := by
  obtain ⟨⟨b, hb, hpayload⟩, hmoved, hunmoved, hkeyed, hlast⟩ := h
  have hlines : linesOf S t new.toTable b = linesOf S t mid.toTable b := by
    unfold linesOf line?
    rw [hgrows.columnsWithTime]
  have hbetween : Table.between new.rows (c.toUnits S.precision) (reached.toUnits S.precision) =
      Table.between mid.rows (c.toUnits S.precision) (reached.toUnits S.precision) := by
    rcases hmoved with rfl | ⟨-, -, r, hr, hreached⟩
    · rw [Table.between_self, Table.between_self]
    · exact hgrows.between hr (by rw [hreached]; exact Int64.le_refl _) _
  refine ⟨⟨b, by rwa [hbetween], by rwa [hlines]⟩, ?_, hunmoved, hkeyed, hlast⟩
  rcases hmoved with hsame | ⟨hbefore, hle, r, hr, hreached⟩
  · exact .inl hsame
  · exact .inr ⟨hbefore, hle, r, hgrows.mem hr, hreached⟩

/-- A table that was all extracted had no more rows before either. -/
theorem Polled.shrink {older old new : TimeTable} {c reached : Cursor} {records : List Outgoing}
    (h : Polled A S t old new c reached records) (hgrows : older.GrowsTo old) :
    Polled A S t older new c reached records :=
  { h with unmoved := fun heq r hr => h.unmoved heq r (hgrows.mem hr) }

/-- **A poll of one table** gives the records of a stretch of it, or fails with the source where it
was. -/
theorem ensures_pollTable (h : Extracts A S tables B safe R E) (hs : Ready S s) (ht : t ∈ S.tables)
    (hw : safe w) :
    (s.pollTable t).Ensures B safe w (fun w' x => safe w' ∧ R w w' ∧
      (∀ e, x.1 = .error e → E e ∧ Moved S s x.2 t (s.position t)) ∧
      ∀ records, x.1 = .ok records → ∃ reached,
        Polled A S t (tables w t.table) (tables w' t.table) (s.position t) reached records ∧
        Moved S s x.2 t (if records.isEmpty then reached else s.position t)) := by
  unfold pollTable
  generalize htracker : (Keyed.lookup t.partition s.trackers).getD ⟨t.partition, s.start⟩ = tracker
  have hpartition : tracker.partition = t.partition := by
    rw [← htracker]
    cases hlookup : Keyed.lookup t.partition s.trackers with
    | none => rfl
    | some tracker => exact hs.tracked _ _ hlookup
  have hcurrent : tracker.current = s.position t := by
    rw [← htracker, position, position?]
    cases Keyed.lookup t.partition s.trackers <;> rfl
  -- Whatever becomes of the session, the partition is tracked from now on, where it was.
  have hmoved : ∀ cache, Moved S s { s.track tracker with cache := some cache } t (s.position t) := by
    intro cache
    refine ⟨(hs.track tracker).withCache cache, rfl, ?_, ?_⟩
    · have := position?_track_self s tracker
      rw [hpartition, hcurrent] at this
      exact this
    · intro key hkey
      exact position?_track_of_ne (by rw [hpartition]; exact hkey)
  dsimp only
  rw [hcurrent, show (s.track tracker).settings = S from hs.settings]
  refine (ensures_batch h (hs.track tracker) ht _ hw).bind ?_
  rintro w₁ ⟨answer, s₁⟩ ⟨hsafe₁, hR₁, ⟨cache, rfl⟩, hfail, hbatch⟩
  rcases answer with e | ⟨result, times⟩
  · refine ensures_done.2 ⟨hsafe₁, hR₁, ?_, by simp⟩
    intro e' he'
    cases he'
    exact ⟨failsWith_error.1 hfail, hmoved cache⟩
  · obtain ⟨b, hmem, hb, hholds⟩ := hbatch result times rfl
    have hmoved' := hmoved cache
    refine (ensures_publish h hmoved'.ready hmoved'.here hmem hb hholds hsafe₁).mono ?_
    rintro w₂ ⟨answer, s₂⟩ ⟨hsafe₂, hR₂, records, reached, hanswer, hpolled, hmoved₂⟩
    dsimp only at hanswer hmoved₂
    subst hanswer
    refine ⟨hsafe₂, h.trans hR₁ hR₂, by simp, ?_⟩
    rintro records' heq
    cases heq
    refine ⟨reached, hpolled.grow (h.grows hR₂ t.table), hmoved₂.ready,
      hmoved₂.start, hmoved₂.here, ?_⟩
    intro key hkey
    exact (hmoved₂.elsewhere key hkey).trans (hmoved'.elsewhere key hkey)

/-! ## All tables -/

/-- The records of a table among others. -/
def ofTable (t : TableSource) (records : List Outgoing) : List Outgoing :=
  records.filter (fun r => r.key == some t.partition)

/-- The records of a table are all its own. -/
theorem ofTable_self {records : List Outgoing} (h : ∀ r ∈ records, r.key = some t.partition) :
    ofTable t records = records := by
  rw [ofTable, List.filter_eq_self]
  intro r hr
  rw [h r hr, beq_self_eq_true]

/-- Records of other tables are none of its own. -/
theorem ofTable_eq_nil {records : List Outgoing}
    (h : ∀ r ∈ records, ∃ t' : TableSource, t'.partition ≠ t.partition ∧ r.key = some t'.partition) :
    ofTable t records = [] := by
  rw [ofTable, List.filter_eq_nil_iff]
  intro r hr
  obtain ⟨t', hne, hkey⟩ := h r hr
  rw [hkey, beq_iff_eq, Option.some.injEq]
  exact hne

/-- The records of a table among those of two polls. -/
theorem ofTable_append (t : TableSource) (records more : List Outgoing) :
    ofTable t (records ++ more) = ofTable t records ++ ofTable t more :=
  List.filter_append ..

/-- **A table has given records,** and the source is past them already when there are none. -/
def Gave (A : List Row → List Row → Prop) (S : DatabaseSettings) (old new : TimeTable)
    (s s' : Source) (t : TableSource) (records : List Outgoing) : Prop :=
  ∃ reached, Polled A S t old new (s.position t) reached records ∧
    s'.position? t.partition = some (if records.isEmpty then reached else s.position t)

/-- **A table has given nothing away:** the source is where it was, or past rows that make no line. -/
def Quiet (A : List Row → List Row → Prop) (S : DatabaseSettings) (old new : TimeTable)
    (s s' : Source) (t : TableSource) : Prop :=
  s'.position t = s.position t ∨
    ∃ reached, Polled A S t old new (s.position t) reached [] ∧ s'.position t = reached

/-- What a poll of some tables leaves as it was. -/
structure Kept (S : DatabaseSettings) (ts : List TableSource) (s s' : Source) : Prop where
  ready : Ready S s'
  start : s'.start = s.start
  elsewhere : ∀ key, key ∉ ts.map TableSource.partition → s'.position? key = s.position? key

/-- A table that is tracked where it was is where it was. -/
theorem position_eq_of_position? {s' : Source} (hstart : s'.start = s.start)
    (h : s'.position? t.partition = s.position? t.partition) : s'.position t = s.position t := by
  rw [position, position, h, hstart]

/-- A table is where it is tracked. -/
theorem position_of_eq_some {c : Cursor} (h : s.position? t.partition = some c) :
    s.position t = c := by
  rw [position, h]
  rfl

/-- **One more table was polled first,** and what the poll of the others leaves it leaves as well. -/
theorem Kept.cons {s₁ s₂ : Source} {ts : List TableSource} {c : Cursor}
    (hmoved : Moved S s s₁ t c) (hkept : Kept S ts s₁ s₂) : Kept S (t :: ts) s s₂ := by
  refine ⟨hkept.ready, hkept.start.trans hmoved.start, ?_⟩
  intro key hkey
  rw [List.map_cons, List.mem_cons, not_or] at hkey
  exact (hkept.elsewhere key hkey.2).trans (hmoved.elsewhere key hkey.1)

/-- A table that gave nothing away gave nothing away before, when it was there already. -/
theorem Quiet.shrink {older old new : TimeTable} {s₁ s₂ : Source} (h : Quiet A S old new s₁ s₂ t)
    (hsame : s₁.position t = s.position t) (hgrows : older.GrowsTo old) :
    Quiet A S older new s s₂ t := by
  rcases h with hstay | ⟨reached, hpolled, hreached⟩
  · exact .inl (hstay.trans hsame)
  · rw [hsame] at hpolled
    exact .inr ⟨reached, hpolled.shrink hgrows, hreached⟩

/-- Records that a table gave are those of an earlier table, when it was there already. -/
theorem Gave.shrink {older old new : TimeTable} {s₁ s₂ : Source} {records : List Outgoing}
    (h : Gave A S old new s₁ s₂ t records) (hsame : s₁.position t = s.position t)
    (hgrows : older.GrowsTo old) : Gave A S older new s s₂ t records := by
  obtain ⟨reached, hpolled, hreached⟩ := h
  rw [hsame] at hpolled hreached
  exact ⟨reached, hpolled.shrink hgrows, hreached⟩

/-- A table that gave records gave nothing away when they are taken back. -/
theorem Gave.quiet {old new : TimeTable} {s' : Source} {records : List Outgoing}
    (h : Gave A S old new s s' t records) : Quiet A S old new s s' t := by
  obtain ⟨reached, hpolled, hhere⟩ := h
  cases records with
  | nil => exact .inr ⟨reached, hpolled, position_of_eq_some hhere⟩
  | cons r records => exact .inl (position_of_eq_some hhere)

/-- **A poll of tables** gives the records of a stretch of each, or fails with nothing given away. -/
theorem ensures_pollTables (h : Extracts A S tables B safe R E) (hs : Ready S s)
    {ts : List TableSource} (hts : ∀ t ∈ ts, t ∈ S.tables)
    (hnodup : (ts.map TableSource.partition).Nodup) (hw : safe w) :
    (s.pollTables ts).Ensures B safe w (fun w' x => safe w' ∧ R w w' ∧ Kept S ts s x.2 ∧
      (∀ e, x.1 = .error e → E e ∧
        ∀ t ∈ ts, Quiet A S (tables w t.table) (tables w' t.table) s x.2 t) ∧
      ∀ records, x.1 = .ok records →
        (∀ r ∈ records, ∃ t ∈ ts, r.key = some t.partition) ∧
        ∀ t ∈ ts, Gave A S (tables w t.table) (tables w' t.table) s x.2 t (ofTable t records)) := by
  induction ts generalizing s w with
  | nil =>
      refine ensures_done.2 ⟨hw, h.refl w, ⟨hs, rfl, fun _ _ => rfl⟩, by simp, ?_⟩
      rintro records heq
      cases heq
      exact ⟨by simp, by simp⟩
  | cons t ts ih =>
      obtain ⟨hfresh, hnodup'⟩ := List.nodup_cons.1 hnodup
      have hts' : ∀ t' ∈ ts, t' ∈ S.tables := fun t' ht' => hts t' (List.mem_cons_of_mem t ht')
      have hne : ∀ t' ∈ ts, t'.partition ≠ t.partition := by
        intro t' ht' heq
        exact hfresh (List.mem_map.2 ⟨t', ht', heq⟩)
      unfold pollTables
      refine (ensures_pollTable h hs (hts t List.mem_cons_self) hw).bind ?_
      rintro w₁ ⟨answer, s₁⟩ ⟨hsafe₁, hR₁, herror, hok⟩
      rcases answer with e | records
      · obtain ⟨he, hmoved⟩ := herror e rfl
        refine ensures_done.2 ⟨hsafe₁, hR₁, ⟨hmoved.ready, hmoved.start, ?_⟩, ?_, by simp⟩
        · intro key hkey
          rw [List.map_cons, List.mem_cons, not_or] at hkey
          exact hmoved.elsewhere key hkey.1
        · intro e' he'
          cases he'
          refine ⟨he, fun t' ht' => .inl ?_⟩
          rcases List.mem_cons.1 ht' with rfl | ht'
          · exact position_of_eq_some hmoved.here
          · exact position_eq_of_position? hmoved.start (hmoved.elsewhere _ (hne t' ht'))
      · obtain ⟨reached, hpolled, hmoved⟩ := hok records rfl
        have hsame : ∀ t' ∈ ts, s₁.position t' = s.position t' := fun t' ht' =>
          position_eq_of_position? hmoved.start (hmoved.elsewhere _ (hne t' ht'))
        refine (ih hmoved.ready hts' hnodup' hsafe₁).bind ?_
        rintro w₂ ⟨answer, s₂⟩ ⟨hsafe₂, hR₂, hkept, herror₂, hok₂⟩
        have hR : R w w₂ := h.trans hR₁ hR₂
        -- The table that was polled first is not touched again.
        have hgave₁ : Gave A S (tables w t.table) (tables w₂ t.table) s s₂ t records :=
          ⟨reached, hpolled.grow (h.grows hR₂ t.table),
            (hkept.elsewhere _ hfresh).trans hmoved.here⟩
        rcases answer with e | more
        · obtain ⟨he, hquiet⟩ := herror₂ e rfl
          refine ensures_done.2 ⟨hsafe₂, hR, hkept.cons hmoved, ?_, by simp⟩
          intro e' he'
          cases he'
          refine ⟨he, fun t' ht' => ?_⟩
          rcases List.mem_cons.1 ht' with rfl | ht'
          · exact hgave₁.quiet
          · exact (hquiet t' ht').shrink (hsame t' ht') (h.grows hR₁ t'.table)
        · obtain ⟨hmore, hgave⟩ := hok₂ more rfl
          refine ensures_done.2 ⟨hsafe₂, hR, hkept.cons hmoved, by simp, ?_⟩
          rintro records' heq
          cases heq
          refine ⟨?_, fun t' ht' => ?_⟩
          · intro r hr
            rcases List.mem_append.1 hr with hr | hr
            · exact ⟨t, List.mem_cons_self, (hpolled.keyed r hr).1⟩
            · obtain ⟨t', ht', hkey⟩ := hmore r hr
              exact ⟨t', List.mem_cons_of_mem t ht', hkey⟩
          · show Gave A S _ _ s s₂ t' (ofTable t' (records ++ more))
            rw [ofTable_append]
            rcases List.mem_cons.1 ht' with rfl | ht'
            · have hothers : ofTable t' more = [] := by
                refine ofTable_eq_nil ?_
                intro r hr
                obtain ⟨t'', ht'', hkey⟩ := hmore r hr
                exact ⟨t'', hne t'' ht'', hkey⟩
              rw [ofTable_self (fun r hr => (hpolled.keyed r hr).1), hothers, List.append_nil]
              exact hgave₁
            · have hothers : ofTable t' records = [] := by
                refine ofTable_eq_nil ?_
                intro r hr
                exact ⟨t, fun heq => hne t' ht' heq.symm, (hpolled.keyed r hr).1⟩
              rw [hothers, List.nil_append]
              exact (hgave t' ht').shrink (hsame t' ht') (h.grows hR₁ t'.table)

/-- **A poll** gives the records of a stretch of each table, or fails with nothing given away. -/
theorem ensures_poll (h : Extracts A S tables B safe R E) (hs : Ready S s)
    (hnodup : (S.tables.map TableSource.partition).Nodup) (hw : safe w) :
    s.poll.Ensures B safe w (fun w' x => safe w' ∧ R w w' ∧ Kept S S.tables s x.2 ∧
      (∀ e, x.1 = .error e → E e ∧
        ∀ t ∈ S.tables, Quiet A S (tables w t.table) (tables w' t.table) s x.2 t) ∧
      ∀ records, x.1 = .ok records →
        (∀ r ∈ records, ∃ t ∈ S.tables, r.key = some t.partition) ∧
        ∀ t ∈ S.tables,
          Gave A S (tables w t.table) (tables w' t.table) s x.2 t (ofTable t records)) := by
  unfold poll
  rw [hs.settings]
  exact ensures_pollTables h hs (fun _ ht => ht) hnodup hw

end Source

end SeriesBridge
