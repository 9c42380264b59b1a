import SeriesBridge.Proofs.Dialogue.Turns
import SeriesBridge.Proofs.Extraction.Passing
import SeriesBridge.Proofs.Extraction.Prepare
import SeriesBridge.Proofs.Extraction.Rounds

/-! # Positions only move on

Partitions are put somewhere by preparing, by taking offsets up and by polling, and they are moved by
taking offsets up, by passing over rows and by moving on to offsets. Whatever is asked of a source and
whatever a database answers, none of this moves a partition back.

* **`Source.Advances s s'`** — no partition has moved back.
* **`Source.Progress s touched s'`** — what a call may do to partitions.
* **`Source.progress_restore`**, **`Source.progress_commit`**, **`Source.progress_poll`** — what each
  call does to them.
* **`Source.prepare_cases`** — where a source is after it was prepared.
* **`Source.Standing S s`** — a source between two calls, which every call keeps.
* **`Source.advances_of_turns`** — where partitions are after any calls, and why a poll moves one. -/

namespace SeriesBridge

open Dialogue

namespace Source

variable {s s' s'' : Source} {u : List (Exchange Link)}

/-! ## No way back -/

/-- **No partition has moved back,** and none was given up. -/
def Advances (s s' : Source) : Prop :=
  ∀ key c, s.position? key = some c → ∃ c', s'.position? key = some c' ∧ c'.before c = false

/-- A source that stays advances. -/
theorem Advances.refl (s : Source) : Advances s s :=
  fun _ c h => ⟨c, h, Cursor.not_before_self c⟩

/-- Two advances in a row. -/
theorem Advances.trans (h : Advances s s') (h' : Advances s' s'') : Advances s s'' := by
  intro key c hc
  obtain ⟨c', hc', hnot⟩ := h key c hc
  obtain ⟨c'', hc'', hnot'⟩ := h' key c' hc'
  exact ⟨c'', hc'', Cursor.not_before_trans hnot' hnot⟩

/-- **What a call may do to partitions:** it touches some of them, moves none of them back, and puts
none anywhere that no table is read under. -/
structure Progress (s : Source) (touched : String → Prop) (s' : Source) : Prop where
  moves : Moves s s'
  tracked : Tracked s'
  advances : Advances s s'
  others : ∀ key, ¬ touched key → s'.position? key = s.position? key
  known : ∀ key c, s'.position? key = some c →
    (∃ c, s.position? key = some c) ∨ ∃ t ∈ s.settings.tables, t.partition = key

variable {touched touched' : String → Prop}

/-- A call that does nothing. -/
theorem Progress.refl (htracked : Tracked s) : Progress s touched s :=
  ⟨.refl s, htracked, .refl s, fun _ _ => rfl, fun _ c hc => .inl ⟨c, hc⟩⟩

/-- Two calls in a row. -/
theorem Progress.trans (h : Progress s touched s') (h' : Progress s' touched s'') :
    Progress s touched s'' := by
  refine ⟨h.moves.trans h'.moves, h'.tracked, h.advances.trans h'.advances, ?_, ?_⟩
  · intro key hkey
    rw [h'.others key hkey, h.others key hkey]
  · intro key c hc
    rcases h'.known key c hc with ⟨c', hc'⟩ | ⟨t, ht, hkey⟩
    · exact h.known key c' hc'
    · rw [h.moves.settings] at ht
      exact .inr ⟨t, ht, hkey⟩

/-- A call that touches fewer partitions. -/
theorem Progress.mono (h : Progress s touched s') (hsub : ∀ key, touched key → touched' key) :
    Progress s touched' s' :=
  ⟨h.moves, h.tracked, h.advances, fun key hkey => h.others key (fun hk => hkey (hsub key hk)),
    h.known⟩

/-! ## Taking up and moving on -/

/-- **Taking an offset up** touches its partition alone. -/
theorem progress_restoreOne (htracked : Tracked s) (o : Offset) :
    Progress s (o.partition = ·) (s.restoreOne o) := by
  refine ⟨(shifts_restoreOne s o).moves, htracked.restoreOne o, ?_, ?_, ?_⟩
  · intro key c hc
    rw [position?_restoreOne htracked, hc]
    by_cases htaken : o.partition = key ∧ s.knows key = true
    · rw [if_pos htaken]
      exact ⟨_, rfl, Cursor.not_before_later c _⟩
    · rw [if_neg htaken]
      exact ⟨c, rfl, Cursor.not_before_self c⟩
  · intro key hkey
    rw [position?_restoreOne htracked, if_neg (fun htaken => hkey htaken.1)]
  · intro key c hc
    rw [position?_restoreOne htracked] at hc
    by_cases htaken : o.partition = key ∧ s.knows key = true
    · obtain ⟨t, ht, hkey⟩ := List.any_eq_true.1 htaken.2
      exact .inr ⟨t, ht, eq_of_beq hkey⟩
    · rw [if_neg htaken] at hc
      exact .inl ⟨c, hc⟩

/-- **Moving on to an offset** touches its partition alone. -/
theorem progress_commitOne (htracked : Tracked s) (o : Offset) :
    Progress s (o.partition = ·) (s.commitOne o) := by
  refine ⟨(shifts_commitOne s o).moves, htracked.commitOne o, ?_, ?_, ?_⟩
  · intro key c hc
    rw [position?_commitOne htracked, hc]
    by_cases hkey : o.partition = key
    · rw [if_pos hkey]
      exact ⟨_, rfl, Cursor.not_before_later c _⟩
    · rw [if_neg hkey]
      exact ⟨c, rfl, Cursor.not_before_self c⟩
  · intro key hkey
    rw [position?_commitOne htracked, if_neg hkey]
  · intro key c hc
    rw [position?_commitOne htracked] at hc
    cases hold : s.position? key with
    | none =>
        rw [hold] at hc
        split at hc <;> cases hc
    | some c' => exact .inl ⟨c', rfl⟩

/-- What each offset does, all of them do in turn. -/
theorem progress_foldl {step : Source → Offset → Source}
    (hstep : ∀ {s}, Tracked s → ∀ o, Progress s (o.partition = ·) (step s o))
    (htracked : Tracked s) (offsets : List Offset) :
    Progress s (fun key => ∃ o ∈ offsets, o.partition = key) (offsets.foldl step s) := by
  induction offsets generalizing s with
  | nil => exact .refl htracked
  | cons o offsets ih =>
      have hfirst := hstep htracked o
      refine (hfirst.mono ?_).trans ((ih hfirst.tracked).mono ?_)
      · intro key hkey
        exact ⟨o, List.mem_cons_self, hkey⟩
      · rintro key ⟨o', ho', hkey⟩
        exact ⟨o', List.mem_cons_of_mem o ho', hkey⟩

/-- **Taking offsets up** touches their partitions alone. -/
theorem progress_restore (htracked : Tracked s) (offsets : List Offset) :
    Progress s (fun key => ∃ o ∈ offsets, o.partition = key) (s.restore offsets) :=
  progress_foldl progress_restoreOne htracked offsets

/-- **Moving on to offsets** touches their partitions alone. -/
theorem progress_commit (htracked : Tracked s) (offsets : List Offset) :
    Progress s (fun key => ∃ o ∈ offsets, o.partition = key) (s.commit offsets) :=
  progress_foldl progress_commitOne htracked offsets

/-! ## Polling -/

/-- **A poll** touches the partitions of its tables alone. -/
theorem progress_poll {x : Outcome (List Outgoing) × Source}
    (h : Turn s.settings.tables s u x) :
    Progress s (· ∈ s.settings.tables.map TableSource.partition) x.2 := by
  refine ⟨h.moves, h.tracked, ?_, h.others, ?_⟩
  · intro key c hc
    by_cases hkey : key ∈ s.settings.tables.map TableSource.partition
    · obtain ⟨t, ht, rfl⟩ := List.mem_map.1 hkey
      have hposition : s.position t = c := by
        rw [position, hc, Option.getD_some]
      -- It stays where it is, or it is at the later of there and where the rows end.
      cases h.comes t ht with
      | untouched here => exact ⟨c, here.trans hc, Cursor.not_before_self c⟩
      | stays here => exact ⟨c, hposition ▸ here, Cursor.not_before_self c⟩
      | passes past here silent =>
          rw [hposition] at here
          exact ⟨_, here, Cursor.not_before_later c _⟩
    · exact ⟨c, (h.others key hkey).trans hc, Cursor.not_before_self c⟩
  · intro key c hc
    by_cases hkey : key ∈ s.settings.tables.map TableSource.partition
    · obtain ⟨t, ht, hpartition⟩ := List.mem_map.1 hkey
      exact .inr ⟨t, ht, hpartition⟩
    · exact .inl ⟨c, (h.others key hkey).symm.trans hc⟩

/-- **A partition that a poll moves** is that of a table all of whose kept rows were refused. -/
theorem passesOver_of_moved {x : Outcome (List Outgoing) × Source} {key : String} {c c' : Cursor}
    (h : Turn s.settings.tables s u x) (hc : s.position? key = some c)
    (hc' : x.2.position? key = some c') (hmoved : c' ≠ c) :
    ∃ t ∈ s.settings.tables, t.partition = key ∧
      ∃ last, s.PassesOver t (c.toUnits s.settings.precision) u last ∧
        c' = Cursor.ofUnits s.settings.precision last ∧
        ∀ records, x.1 = .ok records → ∀ r ∈ records, r.key ≠ some key := by
  by_cases hkey : key ∈ s.settings.tables.map TableSource.partition
  · obtain ⟨t, ht, rfl⟩ := List.mem_map.1 hkey
    have hposition : s.position t = c := by
      rw [position, hc, Option.getD_some]
    cases h.comes t ht with
    | untouched here =>
        rw [hc'] at here
        exact absurd (Option.some.inj (here.trans hc)) hmoved
    | stays here =>
        rw [hc', hposition] at here
        exact absurd (Option.some.inj here) hmoved
    | @passes last past here silent =>
        rw [hposition] at past here
        rw [hc'] at here
        -- It is not where it was, so the later of the two is where the rows end.
        refine ⟨t, ht, rfl, last, past, ?_, silent⟩
        rw [Option.some.inj here, Cursor.later] at hmoved ⊢
        by_cases hbefore : c.before (Cursor.ofUnits s.settings.precision last)
        · rw [if_pos hbefore]
        · rw [if_neg hbefore] at hmoved
          exact absurd rfl hmoved
  · have hsame := h.others key hkey
    rw [hc', hc] at hsame
    exact absurd (Option.some.inj hsame) hmoved

/-! ## Preparing -/

/-- **Where a source is after it was prepared:** its tables are put at the start that the settings name
at that time, if they name one. -/
theorem prepare_cases {pipeline : PipelineSettings} (h : Runs (s.prepare pipeline) u (.ok (), s')) :
    s.settings.check = .ok () ∧ ∃ now start cache meter,
      (⟨.now, now⟩ : Exchange Link) ∈ u ∧
      Cursor.readStart? s.settings.initialTimestamp now = .ok start ∧
      s' = ({ s with batchSize := max pipeline.batchSize 1, cache, start, meter } :
        Source).startTables := by
  -- A refusal is no success.
  have hrefused : ∀ {v : List (Exchange Link)} {e : Error} {s₁ : Source},
      ¬ Runs (pure (.error e, s₁) : Dialogue Link (Outcome Unit × Source)) v (.ok (), s') := by
    intro v e s₁ hrun
    obtain ⟨-, heq⟩ := runs_done_iff.1 hrun
    cases heq
  unfold prepare at h
  cases hcheck : s.settings.check with
  | error e =>
      rw [hcheck] at h
      exact absurd h hrefused
  | ok _ =>
      rw [hcheck] at h
      dsimp only at h
      cases hendpoint : s.settings.endpoint with
      | error e =>
          rw [hendpoint] at h
          exact absurd h hrefused
      | ok endpoint =>
          cases hpolicy : s.settings.policy with
          | error e =>
              rw [hendpoint, hpolicy] at h
              exact absurd h hrefused
          | ok policy =>
              rw [hendpoint, hpolicy] at h
              dsimp only at h
              obtain ⟨v, w, ⟨set, cache⟩, rfl, -, h₁⟩ := runs_bind_iff.1 h
              cases set with
              | error e => exact absurd h₁ hrefused
              | ok _ =>
                  obtain ⟨asked, w', now, rfl, hask, h₂⟩ := runs_bind_iff.1 h₁
                  obtain rfl := runs_ask_iff.1 hask
                  have hnow : (⟨.now, now⟩ : Exchange Link) ∈ v ++ ([⟨.now, now⟩] ++ w') :=
                    List.mem_append_right v List.mem_cons_self
                  cases hstart : Cursor.readStart? s.settings.initialTimestamp now with
                  | error e =>
                      rw [hstart] at h₂
                      exact absurd h₂ hrefused
                  | ok start =>
                      rw [hstart] at h₂
                      obtain ⟨-, heq⟩ := runs_done_iff.1 h₂
                      cases heq
                      exact ⟨rfl, now, start, some cache, _, hnow, hstart, rfl⟩

/-! ## One call after another -/

/-- **What is asked of a source** once it is prepared, until it is stopped. -/
inductive Call where
  | restore (offsets : List Offset)
  | poll
  | commit (offsets : List Offset)

/-- Carry out a call. -/
def take (s : Source) : Call → Dialogue Link (Outcome (List Outgoing) × Source)
  | .restore offsets => pure (.ok [], s.restore offsets)
  | .poll => s.poll
  | .commit offsets => pure (.ok [], s.commit offsets)

/-- The partitions that a call may touch. -/
def Call.Touches (s : Source) (key : String) : Call → Prop
  | .restore offsets => ∃ o ∈ offsets, o.partition = key
  | .poll => key ∈ s.settings.tables.map TableSource.partition
  | .commit offsets => ∃ o ∈ offsets, o.partition = key

variable {S : DatabaseSettings}

/-- **A source between two calls:** its settings are those that were accepted, and every partition that
is somewhere is that of a table. -/
structure Standing (S : DatabaseSettings) (s : Source) : Prop where
  settings : s.settings = S
  unique : (S.tables.map TableSource.partition).Nodup
  tracked : Tracked s
  known : ∀ key c, s.position? key = some c → ∃ t ∈ S.tables, t.partition = key

/-- **Every call** touches some partitions, and moves none back. -/
theorem Standing.progress_take (h : Standing S s) {call : Call}
    {x : Outcome (List Outgoing) × Source} (hrun : Runs (s.take call) u x) :
    Progress s (fun key => call.Touches s key) x.2 := by
  cases call with
  | restore offsets =>
      obtain ⟨-, rfl⟩ := runs_done_iff.1 hrun
      exact progress_restore h.tracked offsets
  | poll =>
      have hnodup : (s.settings.tables.map TableSource.partition).Nodup := by
        rw [h.settings]
        exact h.unique
      exact progress_poll (turn_of_pollTables hnodup h.tracked hrun)
  | commit offsets =>
      obtain ⟨-, rfl⟩ := runs_done_iff.1 hrun
      exact progress_commit h.tracked offsets

/-- A source stands after a call that makes progress. -/
theorem Standing.of_progress (h : Standing S s) (hprogress : Progress s touched s') :
    Standing S s' := by
  refine ⟨hprogress.moves.settings.trans h.settings, h.unique, hprogress.tracked, ?_⟩
  intro key c hc
  rcases hprogress.known key c hc with ⟨c', hc'⟩ | ⟨t, ht, hkey⟩
  · exact h.known key c' hc'
  · rw [h.settings] at ht
    exact ⟨t, ht, hkey⟩

/-- **Any calls** keep a source standing, and move no partition back. -/
theorem Standing.of_turns (h : Standing S s) {calls : List Call}
    {done : List (Call × Outcome (List Outgoing))} (hruns : Runs (turns take s calls) u (done, s')) :
    Standing S s' ∧ Advances s s' := by
  refine Runs.turns_invariant (fun s' => Standing S s' ∧ Advances s s') ?_ ⟨h, .refl s⟩ hruns
  intro s₁ call v result s₂ hs₁ hrun
  have hprogress := hs₁.1.progress_take hrun
  exact ⟨hs₁.1.of_progress hprogress, hs₁.2.trans hprogress.advances⟩

/-- A source stands when it puts the tables at the start. -/
theorem Standing.startTables (h : Standing S s) : Standing S s.startTables := by
  refine ⟨(shifts_startTables s).settings.trans h.settings, h.unique, h.tracked.startTables, ?_⟩
  intro key c hc
  rw [position?_startTables] at hc
  by_cases hput : s.settings.initialTimestamp.isSome ∧
      key ∈ s.settings.tables.map TableSource.partition
  · obtain ⟨t, ht, hkey⟩ := List.mem_map.1 hput.2
    rw [h.settings] at ht
    exact ⟨t, ht, hkey⟩
  · rw [if_neg hput] at hc
    exact h.known key c hc

/-- **A source that was prepared stands,** and the tables are at the start that the settings name, if
they name one. -/
theorem standing_of_prepare (hmode : S.mode = .source) {mapper : RowMapper}
    {pipeline : PipelineSettings}
    (h : Runs (({ settings := S, mapper } : Source).prepare pipeline) u (.ok (), s)) :
    Standing S s ∧ (S.initialTimestamp.isSome → ∃ now start,
      (⟨.now, now⟩ : Exchange Link) ∈ u ∧ Cursor.readStart? S.initialTimestamp now = .ok start ∧
      ∀ t ∈ S.tables, s.position? t.partition = some start) := by
  obtain ⟨hcheck, now, start, cache, meter, hnow, hstart, rfl⟩ := prepare_cases h
  have hnodup := DatabaseSettings.nodup_of_checkSource
    (DatabaseSettings.checkSource_of_check hcheck hmode)
  refine ⟨Standing.startTables ⟨rfl, hnodup, ?_, ?_⟩, ?_⟩
  · rintro key tracker ⟨⟩
  · rintro key c ⟨⟩
  · intro hnamed
    refine ⟨now, start, hnow, hstart, ?_⟩
    intro t ht
    rw [position?_startTables, if_pos ⟨hnamed, List.mem_map_of_mem ht⟩]

/-- **Positions only move on, and for a reason.** Of a source that was prepared with accepted settings,
after any calls and whatever the database answered:

* no call from here on moves a partition back;
* only partitions of tables are anywhere;
* none is before the start that the settings name, if they name one;
* taking offsets up and moving on to them touch the partitions of these offsets alone;
* a poll, whether it fails or not, moves a partition only past rows of its table that were all refused,
  and then gives no record of it. -/
theorem advances_of_turns (hmode : S.mode = .source) {mapper : RowMapper}
    {pipeline : PipelineSettings} {t₀ t : List (Exchange Link)} {s₀ s : Source} {calls : List Call}
    {done : List (Call × Outcome (List Outgoing))}
    (hprepare : Runs (({ settings := S, mapper } : Source).prepare pipeline) t₀ (.ok (), s₀))
    (hcalls : Runs (turns take s₀ calls) t (done, s)) :
    (∀ {calls' t' done' s'}, Runs (turns take s calls') t' (done', s') → Advances s s') ∧
    (∀ key c, s.position? key = some c → ∃ t ∈ S.tables, t.partition = key) ∧
    (S.initialTimestamp.isSome → ∃ now start, (⟨.now, now⟩ : Exchange Link) ∈ t₀ ∧
      Cursor.readStart? S.initialTimestamp now = .ok start ∧
      ∀ key c, s.position? key = some c → c.before start = false) ∧
    (∀ offsets key, (∀ o ∈ offsets, o.partition ≠ key) →
      (s.restore offsets).position? key = s.position? key ∧
      (s.commit offsets).position? key = s.position? key) ∧
    ∀ {u result s'}, Runs s.poll u (result, s') → ∀ {key c c'}, s.position? key = some c →
      s'.position? key = some c' → c' ≠ c → ∃ t ∈ S.tables, t.partition = key ∧
        ∃ last, s.PassesOver t (c.toUnits S.precision) u last ∧
          c' = Cursor.ofUnits S.precision last ∧
          ∀ records, result = .ok records → ∀ r ∈ records, r.key ≠ some key := by
  obtain ⟨hstanding₀, hstart⟩ := standing_of_prepare hmode hprepare
  obtain ⟨hstanding, hadvances⟩ := hstanding₀.of_turns hcalls
  refine ⟨fun hmore => (hstanding.of_turns hmore).2, hstanding.known, ?_, ?_, ?_⟩
  · intro hnamed
    obtain ⟨now, start, hnow, hread, hput⟩ := hstart hnamed
    refine ⟨now, start, hnow, hread, ?_⟩
    intro key c hc
    -- A table was at the start at first, and no call has moved it back.
    obtain ⟨t, ht, rfl⟩ := hstanding.known key c hc
    obtain ⟨c', hc', hnot⟩ := hadvances t.partition start (hput t ht)
    obtain rfl : c' = c := Option.some.inj (hc'.symm.trans hc)
    exact hnot
  · intro offsets key hnone
    have huntouched : ¬ ∃ o ∈ offsets, o.partition = key := by
      rintro ⟨o, ho, hkey⟩
      exact hnone o ho hkey
    exact ⟨(progress_restore hstanding.tracked offsets).others key huntouched,
      (progress_commit hstanding.tracked offsets).others key huntouched⟩
  · intro u result s' hpoll key c c' hc hc' hmoved
    have hnodup : (s.settings.tables.map TableSource.partition).Nodup := by
      rw [hstanding.settings]
      exact hstanding.unique
    have hturn := turn_of_pollTables hnodup hstanding.tracked hpoll
    have := passesOver_of_moved hturn hc hc' hmoved
    rwa [hstanding.settings] at this

/-! ## A row that is left -/

/-- A table with a row without a value before a row with one. -/
def faint : Table where
  columns := [⟨"ts", "TIMESTAMP"⟩, ⟨"v", "INT"⟩]
  rows := [(1, [.null, .null]), (2, [.null, .number (.integer 20)])]

/-- The answers of a database that holds it. -/
def answerFaint (_ : Unit) (q : LinkCall) : q.Answer × Unit :=
  (q.rehearse (fun name => if name = "meters" then some faint else none), ())

/-- A source of it is prepared to read two rows at a time. -/
def faintPrepared : List (Exchange Link) × Outcome Unit × Source :=
  ((ofSettings metersSettings).prepare { name := "c", batchSize := 2 }).courseWith answerFaint ()

/-- An offset before the start, and one of a partition that nobody reads. -/
def faintCalls : List Call :=
  [.restore [Cursor.toOffset "meters" (.ofMillis (-5)), Cursor.toOffset "other" (.ofMillis 7)],
    .commit [Cursor.toOffset "other" (.ofMillis 7)]]

/-- The source takes them up. -/
def faintTurns : List (Exchange Link) × List (Call × Outcome (List Outgoing)) × Source :=
  (turns take faintPrepared.2.2 faintCalls).courseWith answerFaint ()

/-- Then it polls. -/
def faintPoll : List (Exchange Link) × Outcome (List Outgoing) × Source :=
  faintTurns.2.2.poll.courseWith answerFaint ()

/-- The source is prepared. -/
theorem runs_faintPrepared :
    Runs (({ settings := metersSettings, mapper := (columnMapping metersSettings).mapper } :
      Source).prepare { name := "c", batchSize := 2 }) faintPrepared.1
      (.ok (), faintPrepared.2.2) := by
  have hok : faintPrepared.2.1 = .ok () := eq_ok_of_toBool (by decide +kernel)
  rw [← hok]
  exact runs_courseWith (I := Link) answerFaint
    ((ofSettings metersSettings).prepare { name := "c", batchSize := 2 }) ()

/-- It takes the calls. -/
theorem runs_faintTurns :
    Runs (turns take faintPrepared.2.2 faintCalls) faintTurns.1 (faintTurns.2.1, faintTurns.2.2) :=
  runs_courseWith (I := Link) answerFaint _ ()

/-- It polls. -/
theorem runs_faintPoll : Runs faintTurns.2.2.poll faintPoll.1 (faintPoll.2.1, faintPoll.2.2) :=
  runs_courseWith (I := Link) answerFaint _ ()

/-- The offsets leave the table at the start, and the poll moves it on. -/
theorem position_faint : faintTurns.2.2.position? "meters" = some (.ofMillis 0) ∧
    faintTurns.2.2.position? "other" = none ∧
    faintPoll.2.2.position? "meters" = some (.ofMillis 1) := by
  decide +kernel

/-- **The poll moves the table past the row that it kept,** and this row was refused. -/
theorem advances_of_turns_faint :
    (∀ key c, faintTurns.2.2.position? key = some c → c.before (.ofMillis 0) = false) ∧
    ∃ last, faintTurns.2.2.PassesOver ⟨"meters", none⟩ 0 faintPoll.1 last ∧
      Cursor.ofMillis 1 = Cursor.ofUnits .millis last := by
  obtain ⟨hzero, -, hone⟩ := position_faint
  obtain ⟨-, -, hstart, -, hpoll⟩ := advances_of_turns rfl runs_faintPrepared runs_faintTurns
  refine ⟨?_, ?_⟩
  · obtain ⟨now, start, -, hread, hnot⟩ := hstart rfl
    obtain rfl : Cursor.ofMillis 0 = start := Except.ok.inj hread
    exact hnot
  · obtain ⟨t, ht, -, last, hover, hlast, -⟩ := hpoll runs_faintPoll hzero hone (by decide)
    obtain rfl := List.mem_singleton.1 ht
    exact ⟨last, hover, hlast⟩

/-- **A row that was fetched is left.** The poll moves the table on although it fetched a row that makes
a line: the batch is full, so its last instant may go on behind it. -/
theorem moved_past_faint :
    Runs (({ settings := metersSettings, mapper := (columnMapping metersSettings).mapper } :
      Source).prepare { name := "c", batchSize := 2 }) faintPrepared.1 (.ok (), faintPrepared.2.2) ∧
    Runs (turns take faintPrepared.2.2 faintCalls) faintTurns.1 (faintTurns.2.1, faintTurns.2.2) ∧
    Runs faintTurns.2.2.poll faintPoll.1 (faintPoll.2.1, faintPoll.2.2) ∧
    faintTurns.2.2.position? "meters" = some (.ofMillis 0) ∧
    faintPoll.2.2.position? "meters" = some (.ofMillis 1) ∧
    ∃ result row line, Answered faintPoll.1 (Extraction.rowsAfter "meters" "ts" 0 2) result ∧
      row ∈ result.rows ∧
      faintTurns.2.2.rowLine (faintTurns.2.2.context ⟨"meters", none⟩ result.columns) row =
        .ok line := by
  have hleft : ∃ result ∈ answers faintPoll.1 (Extraction.rowsAfter "meters" "ts" 0 2),
      ∃ row ∈ result.rows, (faintTurns.2.2.rowLine
        (faintTurns.2.2.context ⟨"meters", none⟩ result.columns) row).toBool = true := by
    decide +kernel
  obtain ⟨result, hresult, row, hrow, hline⟩ := hleft
  cases hmade : faintTurns.2.2.rowLine
      (faintTurns.2.2.context ⟨"meters", none⟩ result.columns) row with
  | error e =>
      rw [hmade] at hline
      cases hline
  | ok line =>
      exact ⟨runs_faintPrepared, runs_faintTurns, runs_faintPoll, position_faint.1,
        position_faint.2.2, result, row, line, answered_of_mem_answers hresult, hrow, hmade⟩

end Source

end SeriesBridge
