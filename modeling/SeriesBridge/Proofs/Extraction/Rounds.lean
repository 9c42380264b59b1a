import SeriesBridge.Proofs.Database.Table
import SeriesBridge.Proofs.Dialogue.Recording
import SeriesBridge.Proofs.Extraction.Poll

/-! # Rounds of an extraction

A round polls all tables and moves on to the offsets of what was polled. Stretch follows stretch, so
after any number of rounds the records of a table are the lines of its rows from the start to where the
source is, each once and in order, and a table that does not move on has no rows left.

* **`Source.Stretch`** — records that are the lines of a stretch of a table.
* **`Source.position?_commit_offsets`** — after moving on a table is where its poll reached.
* **`Source.round`**, **`Source.rounds`** — polls, each followed by moving on.
* **`Source.rounds_extract`** — what rounds without failures extract. -/

namespace SeriesBridge

open Dialogue

namespace Source

variable {A : List Row → List Row → Prop} {S : DatabaseSettings} {t : TableSource}

/-! ## Stretches -/

/-- **The records of a stretch** of a table, from one position to another: the lines of its rows in
between. The end is the start or not beyond the last row. -/
structure Stretch (A : List Row → List Row → Prop) (S : DatabaseSettings) (t : TableSource)
    (table : TimeTable) (start c : Cursor) (records : List Outgoing) : Prop where
  rows : ∃ b, A b (Table.between table.rows (start.toUnits S.precision) (c.toUnits S.precision)) ∧
    records.map Outgoing.payload = (linesOf S t table.toTable b).map Text.Utf8.ofString
  ahead : start.toUnits S.precision ≤ c.toUnits S.precision
  grounded : c = start ∨ ∃ r ∈ table.rows, c.toUnits S.precision = r.1

/-- From a position to itself there is nothing. -/
theorem stretch_nil (hA : Arrangement A) (t : TableSource) (table : TimeTable) (c : Cursor) :
    Stretch A S t table c c [] :=
  ⟨⟨[], by rw [Table.between_self]; exact hA.nil, rfl⟩, Int64.le_refl _, .inl rfl⟩

/-- The columns of a table that grows stay, and so do the lines of its rows. -/
theorem linesOf_of_grows {old new : TimeTable} (h : old.GrowsTo new) (b : List Row) :
    linesOf S t new.toTable b = linesOf S t old.toTable b := by
  unfold linesOf line?
  rw [h.columnsWithTime]

/-- A stretch stays what it is when the table grows. -/
theorem Stretch.grow {old new : TimeTable} {start c : Cursor} {records : List Outgoing}
    (h : Stretch A S t old start c records) (hgrows : old.GrowsTo new) :
    Stretch A S t new start c records := by
  obtain ⟨⟨b, hb, hpayload⟩, hahead, hgrounded⟩ := h
  have hbetween : Table.between new.rows (start.toUnits S.precision) (c.toUnits S.precision) =
      Table.between old.rows (start.toUnits S.precision) (c.toUnits S.precision) := by
    rcases hgrounded with rfl | ⟨r, hr, hc⟩
    · rw [Table.between_self, Table.between_self]
    · exact hgrows.between hr (by rw [hc]; exact Int64.le_refl _) _
  refine ⟨⟨b, by rwa [hbetween], by rwa [linesOf_of_grows hgrows]⟩, hahead, ?_⟩
  rcases hgrounded with hsame | ⟨r, hr, hc⟩
  · exact .inl hsame
  · exact .inr ⟨r, hgrows.mem hr, hc⟩

/-- **A stretch goes on** with what a poll gives. -/
theorem Stretch.append (hA : Arrangement A) {old table : TimeTable} {start c reached : Cursor}
    {records more : List Outgoing} (h : Stretch A S t table start c records)
    (hpolled : Polled A S t old table c reached more) :
    Stretch A S t table start reached (records ++ more) := by
  obtain ⟨⟨b, hb, hpayload⟩, hahead, hgrounded⟩ := h
  obtain ⟨⟨b', hb', hpayload'⟩, hmoved, -, -, -⟩ := hpolled
  have hle : c.toUnits S.precision ≤ reached.toUnits S.precision := by
    rcases hmoved with rfl | ⟨-, hle, -⟩
    · exact Int64.le_refl _
    · exact hle
  refine ⟨⟨b ++ b', hA.append_between hahead hle hb hb', ?_⟩, Int64.le_trans hahead hle, ?_⟩
  · rw [List.map_append, hpayload, hpayload', ← List.map_append]
    unfold linesOf
    rw [← List.filterMap_append]
  · rcases hmoved with rfl | ⟨-, -, hrow⟩
    · exact hgrounded
    · exact .inr hrow

/-! ## Moving on -/

/-- The offsets of one partition are those of the records under it. -/
theorem filter_offsets {records : List Outgoing}
    (h : ∀ r ∈ records, ∃ o, r.offset = some o ∧ r.key = some o.partition) (t : TableSource) :
    (records.filterMap Outgoing.offset).filter (fun o => o.partition == t.partition) =
      (ofTable t records).filterMap Outgoing.offset := by
  induction records with
  | nil => rfl
  | cons r records ih =>
      obtain ⟨o, hoffset, hkey⟩ := h r List.mem_cons_self
      have hrest := ih (fun r' hr' => h r' (List.mem_cons_of_mem r hr'))
      unfold ofTable at hrest ⊢
      rw [List.filterMap_cons, hoffset, List.filter_cons, List.filter_cons, hkey, hrest]
      by_cases hpartition : o.partition = t.partition
      · rw [if_pos (by simpa using hpartition), if_pos (by simpa using hpartition),
          List.filterMap_cons, hoffset]
      · rw [if_neg (by simpa using hpartition), if_neg (by simpa using hpartition)]

/-- The last offset of records that all have one is that of the last record. -/
theorem getLast?_filterMap_offset {records : List Outgoing}
    (h : ∀ r ∈ records, r.offset.isSome) :
    (records.filterMap Outgoing.offset).getLast? = records.getLast?.bind Outgoing.offset := by
  rcases List.eq_nil_or_concat records with rfl | ⟨rs, r, rfl⟩
  · rfl
  · obtain ⟨o, ho⟩ := Option.isSome_iff_exists.1 (h r (by simp))
    rw [List.concat_eq_append, List.filterMap_append, List.getLast?_concat, Option.bind_some, ho,
      List.filterMap_cons, ho, List.filterMap_nil, List.getLast?_concat]

/-- The records of a poll are under the partitions of their offsets. -/
theorem keyed_of_gave {records : List Outgoing} {old new : String → TimeTable} {s s' : Source}
    (hfrom : ∀ r ∈ records, ∃ t ∈ S.tables, r.key = some t.partition)
    (hgave : ∀ t ∈ S.tables, Gave A S (old t.table) (new t.table) s s' t (ofTable t records)) :
    ∀ r ∈ records, ∃ o, r.offset = some o ∧ r.key = some o.partition := by
  intro r hr
  obtain ⟨t, ht, hkey⟩ := hfrom r hr
  obtain ⟨reached, hpolled, -⟩ := hgave t ht
  have hmem : r ∈ ofTable t records := by
    rw [ofTable, List.mem_filter, hkey]
    exact ⟨hr, by simp⟩
  obtain ⟨-, o, hoffset, hpartition⟩ := hpolled.keyed r hmem
  exact ⟨o, hoffset, by rw [hkey, hpartition]⟩

/-- **The offset that is kept for a table** is the position that its poll reached, if it gave records. -/
theorem filter_offsets_of_polled {old new : TimeTable} {c reached : Cursor} {records : List Outgoing}
    (hkeyed : ∀ r ∈ records, ∃ o, r.offset = some o ∧ r.key = some o.partition)
    (hpolled : Polled A S t old new c reached (ofTable t records)) :
    (Outgoing.offsets records).filter (fun o => o.partition == t.partition) =
      if (ofTable t records).isEmpty then [] else [reached.toOffset t.partition] := by
  rw [Outgoing.offsets, Offset.filter_latest, filter_offsets hkeyed, getLast?_filterMap_offset ?_]
  · rcases List.eq_nil_or_concat (ofTable t records) with hnil | ⟨rs, r, hrs⟩
    · rw [hnil]
      rfl
    · rw [List.concat_eq_append] at hrs
      have hlast := hpolled.last r (by rw [hrs, List.getLast?_concat])
      rw [hrs, List.getLast?_concat, Option.bind_some, hlast, if_neg (by simp), Option.toList_some]
  · intro r hr
    obtain ⟨-, o, ho, -⟩ := hpolled.keyed r hr
    rw [ho]
    rfl

/-- **After moving on a table is where its poll reached.** -/
theorem position?_commit_offsets {old new : TimeTable} {s s' : Source} {records : List Outgoing}
    (hs' : Ready S s') (hkeyed : ∀ r ∈ records, ∃ o, r.offset = some o ∧ r.key = some o.partition)
    {reached : Cursor} (hpolled : Polled A S t old new (s.position t) reached (ofTable t records))
    (hhere : s'.position? t.partition =
      some (if (ofTable t records).isEmpty then reached else s.position t)) :
    (s'.commit (Outgoing.offsets records)).position? t.partition = some reached := by
  rw [position?_commit hs'.tracked, filter_offsets_of_polled hkeyed hpolled, hhere, Option.map_some]
  by_cases hempty : (ofTable t records).isEmpty
  · rw [if_pos hempty, if_pos hempty]
    rfl
  · rw [if_neg hempty, if_neg hempty, List.foldl_cons, List.foldl_nil, Cursor.ofOffset_toOffset]
    rcases hpolled.moved with hsame | ⟨hbefore, -, -⟩
    · rw [hsame, Cursor.later_self]
    · rw [Cursor.later_eq_right hbefore]

/-! ## Rounds -/

/-- **A round:** a poll, and then moving on to the offsets of its records. -/
def round (s : Source) : Dialogue Link (Outcome (List Outgoing) × Source) := do
  match ← s.poll with
  | (.error e, s) => return (.error e, s)
  | (.ok records, s) => return (.ok records, s.commit (Outgoing.offsets records))

/-- **Rounds in a row,** until one of them fails. -/
def rounds : Nat → Source → Dialogue Link (Outcome (List Outgoing) × Source)
  | 0, s => pure (.ok [], s)
  | n + 1, s => do
      match ← s.round with
      | (.error e, s) => return (.error e, s)
      | (.ok records, s) =>
          match ← rounds n s with
          | (.error e, s) => return (.error e, s)
          | (.ok others, s) => return (.ok (records ++ others), s)

variable {W : Type} {tables : W → String → TimeTable} {B : Behaviour Link W} {safe : W → Prop}
  {R : W → W → Prop} {E : Error → Prop} {s : Source} {w : W}

/-- **A round** gives the records of a stretch of each table and moves past them, or fails. -/
theorem ensures_round (h : Extracts A S tables B safe R E) (hs : Ready S s)
    (hnodup : (S.tables.map TableSource.partition).Nodup) (hw : safe w) :
    s.round.Ensures B safe w (fun w' x => safe w' ∧ R w w' ∧ FailsWith E x.1 ∧ Ready S x.2 ∧
      ∀ records, x.1 = .ok records → ∀ t ∈ S.tables,
        Polled A S t (tables w t.table) (tables w' t.table) (s.position t) (x.2.position t)
          (ofTable t records)) := by
  unfold round
  refine (ensures_poll h hs hnodup hw).bind ?_
  rintro w₁ ⟨answer, s₁⟩ ⟨hsafe, hR, hkept, herror, hok⟩
  rcases answer with e | records
  · exact ensures_done.2 ⟨hsafe, hR, failsWith_error.2 (herror e rfl).1, hkept.ready, by simp⟩
  · obtain ⟨hfrom, hgave⟩ := hok records rfl
    have hkeyed := keyed_of_gave hfrom hgave
    refine ensures_done.2 ⟨hsafe, hR, failsWith_ok, hkept.ready.commit _, ?_⟩
    rintro records' heq t ht
    cases heq
    obtain ⟨reached, hpolled, hhere⟩ := hgave t ht
    have hreached := position?_commit_offsets hkept.ready hkeyed hpolled hhere
    rw [position_of_eq_some hreached]
    exact hpolled

/-- **Rounds in a row** give the records of one stretch of each table, or fail. -/
theorem ensures_rounds (h : Extracts A S tables B safe R E) (hs : Ready S s)
    (hnodup : (S.tables.map TableSource.partition).Nodup) (n : Nat) (hw : safe w) :
    (rounds n s).Ensures B safe w (fun w' x => safe w' ∧ R w w' ∧ FailsWith E x.1 ∧ Ready S x.2 ∧
      ∀ records, x.1 = .ok records → ∀ t ∈ S.tables,
        ∀ start before, Stretch A S t (tables w t.table) start (s.position t) before →
          Stretch A S t (tables w' t.table) start (x.2.position t)
            (before ++ ofTable t records)) := by
  induction n generalizing s w with
  | zero =>
      refine ensures_done.2 ⟨hw, h.refl w, failsWith_ok, hs, ?_⟩
      rintro records heq t _ start before hbefore
      cases heq
      rw [ofTable, List.filter_nil, List.append_nil]
      exact hbefore
  | succ n ih =>
      unfold rounds
      refine (ensures_round h hs hnodup hw).bind ?_
      rintro w₁ ⟨answer, s₁⟩ ⟨hsafe₁, hR₁, hfail₁, hs₁, hpolled⟩
      rcases answer with e | records
      · exact ensures_done.2 ⟨hsafe₁, hR₁, failsWith_error.2 (failsWith_error.1 hfail₁), hs₁, by simp⟩
      · refine (ih hs₁ hsafe₁).bind ?_
        rintro w₂ ⟨answer, s₂⟩ ⟨hsafe₂, hR₂, hfail₂, hs₂, hstretch⟩
        have hR : R w w₂ := h.trans hR₁ hR₂
        rcases answer with e | others
        · exact ensures_done.2 ⟨hsafe₂, hR, failsWith_error.2 (failsWith_error.1 hfail₂), hs₂, by simp⟩
        · refine ensures_done.2 ⟨hsafe₂, hR, failsWith_ok, hs₂, ?_⟩
          rintro records' heq t ht start before hbefore
          cases heq
          -- What came before the rounds goes on with the first of them, and then with the others.
          have hfirst := (hbefore.grow (h.grows hR₁ t.table)).append h.arrangement
            (hpolled records rfl t ht)
          have hall := hstretch others rfl t ht start _ hfirst
          rwa [List.append_assoc, ← ofTable_append] at hall

end Source

/-! ## Without failures -/

/-- **An answer as it should be** from tables that do not change: nothing fails, and a query gives the
rows that it asks for in order of time, those of one instant in the order of the table. -/
def LinkCall.Faithful (S : DatabaseSettings) (tables : String → TimeTable) :
    (q : LinkCall) → q.Answer → Prop
  | .database (.query _ sql), r => ∃ result, r = .ok result ∧
      (∀ t ∈ S.tables, ∀ time limit,
        sql = Extraction.rowsAfter t.table S.timestampColumn time limit →
        (tables t.table).AnswersAfter (fun l rows => l = Table.sorted rows) time limit result) ∧
      (∀ t ∈ S.tables, ∀ time, sql = Extraction.rowsAt t.table S.timestampColumn time →
        (tables t.table).AnswersAt (fun l rows => l = Table.sorted rows) time result)
  | .database (.connect ..), r => r = .ok ()
  | .database (.execute ..), r => ∃ answer, r = .ok answer
  | .database (.select ..), r => r = .ok ()
  | .database (.write ..), r => r = .ok ()
  | .database (.close _), r => r = .ok ()
  | _, _ => True

/-- **A database that holds tables** and never fails. -/
def LinkCall.rehearse (tables : String → Option Table) : (q : LinkCall) → q.Answer
  | .database (.connect ..) => .ok ()
  | .database (.execute ..) => .ok false
  | .database (.query _ sql) => .ok ((Table.answer tables sql).toOption.getD {})
  | .database (.select ..) => .ok ()
  | .database (.write ..) => .ok ()
  | .database (.close _) => .ok ()
  | .pause _ => ()
  | .note _ => ()
  | .now => ⟨0, 0⟩

/-- What a table answers to a query for the rows after an instant. -/
theorem LinkCall.answersAfter_rehearse (tables : String → Option Table) {name column : String}
    {t : Table} (htable : Table.Plain name) (hcolumn : Table.Plain column)
    (ht : tables name = some t) (time : Int64) (limit : Nat) :
    t.AnswersAfter (fun l rows => l = Table.sorted rows) time limit
      ((Table.answer tables (Extraction.rowsAfter name column time limit)).toOption.getD {}) := by
  rw [Table.answer_rowsAfter htable hcolumn ht]
  exact ⟨_, rfl, Table.inOrder_sorted _, rfl⟩

/-- What a table answers to a query for the rows of an instant. -/
theorem LinkCall.answersAt_rehearse (tables : String → Option Table) {name column : String}
    {t : Table} (htable : Table.Plain name) (hcolumn : Table.Plain column)
    (ht : tables name = some t) (time : Int64) :
    t.AnswersAt (fun l rows => l = Table.sorted rows) time
      ((Table.answer tables (Extraction.rowsAt name column time)).toOption.getD {}) := by
  rw [Table.answer_rowsAt htable hcolumn ht]
  exact ⟨_, rfl, rfl⟩

/-- **A rehearsal is answered as it should be.** -/
theorem LinkCall.faithful_rehearse {S : DatabaseSettings} {tables : String → TimeTable}
    {lookup : String → Option Table} (hcolumn : Table.Plain S.timestampColumn)
    (htables : ∀ t ∈ S.tables, Table.Plain t.table ∧ lookup t.table = some (tables t.table).toTable)
    (q : LinkCall) : q.Faithful S tables (q.rehearse lookup) := by
  cases q with
  | database call =>
      cases call with
      | query session sql =>
          refine ⟨_, rfl, ?_, ?_⟩
          · rintro t ht time limit rfl
            exact answersAfter_rehearse lookup (htables t ht).1 hcolumn (htables t ht).2 time limit
          · rintro t ht time rfl
            exact answersAt_rehearse lookup (htables t ht).1 hcolumn (htables t ht).2 time
      | execute session sql => exact ⟨false, rfl⟩
      | _ => rfl
  | _ => trivial

namespace Source

/-- A database without failures is one to extract from. -/
theorem extracts_faithful (S : DatabaseSettings) (tables : String → TimeTable) :
    Extracts (fun l rows => l = Table.sorted rows) S (fun _ => tables)
      (.recording (fun e => e.request.Faithful S tables e.answer)) (fun _ => True)
      (fun _ _ => True) (fun _ => False) where
  refl _ := trivial
  trans _ _ := trivial
  step _ _ _ := ⟨trivial, trivial⟩
  connect := by
    rintro w w' session endpoint credentials e ⟨h, -⟩
    cases h
  execute := by
    rintro w w' session sql e ⟨⟨answer, h⟩, -⟩
    cases h
  select := by
    rintro w w' session name e ⟨h, -⟩
    cases h
  arrangement := arrangement_sorted
  grows _ name := .refl _
  asked _ _ := ⟨trivial, trivial⟩
  failed := by
    rintro w w' session sql e ⟨⟨result, h, -⟩, -⟩
    cases h
  after := by
    rintro w w' session t time limit result ht ⟨⟨result', h, hafter, -⟩, -⟩
    cases h
    exact hafter t ht time limit rfl
  instant := by
    rintro w w' session t time result ht ⟨⟨result', h, -, hat⟩, -⟩
    cases h
    exact hat t ht time rfl

/-- **Rounds without failures extract every row once.** The records of each table are, in order, the
lines of its rows from where the source was to where it is, but for those that make no line; and another
round leaves a table where it is only when no row is beyond. -/
theorem rounds_extract {S : DatabaseSettings} (hnodup : (S.tables.map TableSource.partition).Nodup)
    (tables : String → TimeTable) {s s' : Source} (hs : Ready S s) (n : Nat)
    {course : List (Exchange Link)} {result : Outcome (List Outgoing)}
    (hrun : Runs (rounds n s) course (result, s'))
    (faithful : ∀ e ∈ course, e.request.Faithful S tables e.answer) :
    ∃ records, result = .ok records ∧
      (∀ t ∈ S.tables, (ofTable t records).map Outgoing.payload =
        (linesOf S t (tables t.table).toTable (Table.sorted (Table.between (tables t.table).rows
          ((s.position t).toUnits S.precision) ((s'.position t).toUnits S.precision)))).map
          Text.Utf8.ofString) ∧
      ∀ {course' result' s''}, Runs s'.round course' (result', s'') →
        (∀ e ∈ course', e.request.Faithful S tables e.answer) →
        ∀ t ∈ S.tables, s''.position t = s'.position t →
          ∀ r ∈ (tables t.table).rows, r.1 ≤ (s'.position t).toUnits S.precision := by
  have hextracts := extracts_faithful S tables
  have hfollows := Behaviour.follows_recording [] faithful
  obtain ⟨-, -, hfail, hs', hstretch⟩ :=
    (ensures_rounds hextracts hs hnodup n trivial).of_runs hrun hfollows
  cases result with
  | error e => exact (failsWith_error.1 hfail).elim
  | ok records =>
      refine ⟨records, rfl, ?_, ?_⟩
      · intro t ht
        have hall := hstretch records rfl t ht _ [] (stretch_nil arrangement_sorted t _ _)
        obtain ⟨b, rfl, hpayload⟩ := hall.rows
        exact hpayload
      · intro course' result' s'' hrun' faithful' t ht hsame
        have hfollows' := Behaviour.follows_recording [] faithful'
        obtain ⟨-, -, hfail', -, hpolled⟩ :=
          (ensures_round hextracts hs' hnodup trivial).of_runs hrun' hfollows'
        cases result' with
        | error e => exact (failsWith_error.1 hfail').elim
        | ok records' => exact (hpolled records' rfl t ht).unmoved hsame

/-- A table with two rows of an instant, a row without a value among them. -/
def meters : TimeTable where
  columns := [⟨"ts", "TIMESTAMP"⟩, ⟨"v", "INT"⟩]
  rows :=
    [(3, [.null, .number (.integer 30)]), (1, [.null, .number (.integer 10)]),
      (2, [.null, .number (.integer 20)]), (2, [.null, .null]),
      (2, [.null, .number (.integer 22)])]
  unnamed := by decide
  wide := by decide
  late := by decide

/-- The settings of a source that reads it. -/
def metersSettings : DatabaseSettings :=
  { mode := .source, url := "taos://h/d", initialTimestamp := some "0", tables := [⟨"meters", none⟩] }

/-- A source that reads it in batches of two rows. -/
def metersSource : Source :=
  { ofSettings metersSettings with
    batchSize := 2
    cache := some
      { provider := { endpoint := ⟨false, "h", 6041, none, none, none⟩, credentials := {}, policy := .once }
        precision := .millis } }

/-- It is ready. -/
theorem ready_metersSource : Ready metersSettings metersSource :=
  ⟨⟨rfl, rfl⟩, rfl, by decide, by simp [metersSource, ofSettings]⟩

/-- The answers of a database that holds it. -/
def answerMeters (_ : Unit) (q : LinkCall) : q.Answer × Unit :=
  (q.rehearse (fun name => if name = "meters" then some meters.toTable else none), ())

/-- They are as they should be. -/
theorem faithful_answerMeters (s : Unit) (q : LinkCall) :
    q.Faithful metersSettings (fun _ => meters) (answerMeters s q).1 := by
  refine LinkCall.faithful_rehearse (by decide) ?_ q
  intro t ht
  obtain rfl := List.mem_singleton.1 ht
  exact ⟨by decide, rfl⟩

/-- The course of three rounds, and what comes of them. -/
def metersRounds : List (Exchange Link) × Outcome (List Outgoing) × Source :=
  (rounds 3 metersSource).courseWith answerMeters ()

/-- It is one that three rounds can take. -/
theorem runs_metersRounds : Runs (rounds 3 metersSource) metersRounds.1 metersRounds.2 :=
  runs_courseWith (I := Link) answerMeters (rounds 3 metersSource) ()

/-- Nothing fails in it. -/
theorem faithful_metersRounds :
    ∀ e ∈ metersRounds.1, e.request.Faithful metersSettings (fun _ => meters) e.answer :=
  forall_courseWith (I := Link) faithful_answerMeters (rounds 3 metersSource) ()

/-- Three rounds extract all lines of the table, in order, and no row is left. -/
theorem rounds_extract_meters :
    ∃ records, metersRounds.2.1 = .ok records ∧
      (ofTable ⟨"meters", none⟩ records).map Outgoing.payload =
        ["meters v=10i64 1", "meters v=20i64 2", "meters v=22i64 2", "meters v=30i64 3"].map
          Text.Utf8.ofString ∧
      ∀ r ∈ meters.rows, r.1 ≤ (metersRounds.2.2.position ⟨"meters", none⟩).toUnits .millis := by
  obtain ⟨records, hok, hrecords, hunmoved⟩ := rounds_extract (S := metersSettings) (by decide)
    (fun _ => meters) ready_metersSource 3 runs_metersRounds.pair faithful_metersRounds
  have hmeters : (⟨"meters", none⟩ : TableSource) ∈ metersSettings.tables := List.mem_singleton_self _
  refine ⟨records, hok, ?_, ?_⟩
  · refine (hrecords _ hmeters).trans ?_
    decide +kernel
  · exact hunmoved (runs_courseWith (I := Link) answerMeters _ ()).pair
      (forall_courseWith (I := Link) faithful_answerMeters _ ()) _ hmeters (by decide +kernel)

end Source

end SeriesBridge
