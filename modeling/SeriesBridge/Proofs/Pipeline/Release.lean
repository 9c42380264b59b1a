import SeriesBridge.Pipeline.Assembly
import SeriesBridge.Proofs.Database.Release
import SeriesBridge.Proofs.Dialogue.Beside
import SeriesBridge.Proofs.Extraction.Position

/-! # What a run leaves open

A run that stops closes the session that is held, after whatever failure. A run that cannot begin does
not stop, though: it ends as soon as the preparations fail, and a session that was opened by then
stays open.

* **`Sink.ensures_process_stands`**, **`Source.ensures_poll_stands`** — between the first and the last
  call the cache stands as its course says.
* **`Delivery.Leaves`**, **`Publication.Leaves`** — what a run has left open.
* **`Course.releases_iff_of_over`** — a run that is over has released every session, each once, exactly
  if its loop was entered or nothing was opened. -/

namespace SeriesBridge

open Dialogue Course

variable {t : List (Exchange Link)}

/-! ## Sinks -/

namespace Sink

variable {s : Sink}

/-- **Preparing** closes nothing, and a sink that is prepared has a cache. -/
theorem ensures_prepare_stands (s : Sink) (pipeline : PipelineSettings) :
    (s.prepare pipeline).Ensures world Orderly []
      (fun t' x => closed t' = [] ∧ (x.1 = .ok () → Cache.Stands t' x.2.cache)) := by
  unfold prepare
  cases s.settings.check with
  | error e => exact ensures_done.2 ⟨rfl, nofun⟩
  | ok _ =>
      dsimp only
      cases s.settings.endpoint with
      | error e => exact ensures_done.2 ⟨rfl, nofun⟩
      | ok endpoint =>
          cases s.settings.policy with
          | error e => exact ensures_done.2 ⟨rfl, nofun⟩
          | ok policy =>
              dsimp only
              cases s.settings.target? with
              | none => exact ensures_done.2 ⟨rfl, nofun⟩
              | some name =>
                  have hnew := Cache.standing_new
                    { endpoint, credentials := s.settings.credentials endpoint, policy }
                    s.settings.precision (some ⟨pipeline.name, "sink"⟩)
                  refine (Cache.ensures_setDatabase_nil hnew rfl name).bind ?_
                  rintro t₁ ⟨e | _, c⟩ ⟨hclosed, hc⟩
                  · exact ensures_done.2 ⟨hclosed, nofun⟩
                  · exact ensures_done.2 ⟨hclosed, fun _ => ⟨c, rfl, hc⟩⟩

/-- Writing the lines that wait keeps the standing. -/
theorem ensures_flush_stands (h : Cache.Stands t s.cache) :
    s.flush.Ensures world Orderly t (fun t' x => Cache.Stands t' x.2.cache) := by
  obtain ⟨c, hcache, hc⟩ := h
  unfold flush
  by_cases hempty : s.buffer.isEmpty
  · rw [if_pos hempty]
    exact ensures_done.2 ⟨c, hcache, hc⟩
  · rw [if_neg hempty, hcache]
    refine (hc.ensures_write s.buffer s.settings.protocol s.settings.precision).bind ?_
    rintro t₁ ⟨e | _, c₁⟩ hc₁
    · exact ensures_done.2 ⟨c₁, rfl, hc₁⟩
    · exact ensures_done.2 ⟨c₁, rfl, hc₁⟩

/-- **Taking a record** keeps the standing. -/
theorem ensures_process_stands (h : Cache.Stands t s.cache) (r : Incoming) :
    (s.process r).Ensures world Orderly t (fun t' x => Cache.Stands t' x.2.cache) := by
  unfold process
  refine Ensures.bind (m := fun t' (x : Outcome Unit × Sink) => Cache.Stands t' x.2.cache) ?_ ?_
  · unfold flushFull
    by_cases hfull : s.batchSize ≤ s.buffer.length
    · rw [if_pos hfull]
      exact ensures_flush_stands h
    · rw [if_neg hfull]
      exact ensures_done.2 h
  · rintro t₁ ⟨e | _, s₁⟩ h₁
    · exact ensures_done.2 h₁
    · cases hlines : recordLines s₁.settings r with
      | error e =>
          simp only [hlines]
          exact ensures_done.2 h₁
      | ok lines =>
          simp only [hlines]
          exact ensures_done.2 h₁

/-- **Stopping releases every session.** -/
theorem ensures_shutdown_releases (h : Cache.Stands t s.cache) :
    s.shutdown.Ensures world Orderly t (fun t' _ => Orderly t' ∧ Releases t') := by
  obtain ⟨c, hcache, hc⟩ := h
  unfold shutdown
  rw [hcache]
  exact hc.ensures_close_releases.bind (fun _ _ hall => ensures_done.2 hall)

end Sink

/-! ## Sources -/

namespace Source

variable {s : Source}

/-- Where partitions are is all the same to the cache. -/
theorem Shifts.cache {s' : Source} (h : Shifts s s') : s'.cache = s.cache := by
  obtain ⟨trackers, rfl⟩ := h
  rfl

/-- **Preparing** closes nothing, and a source that is prepared has a cache. -/
theorem ensures_prepare_stands (s : Source) (pipeline : PipelineSettings) :
    (s.prepare pipeline).Ensures world Orderly []
      (fun t' x => closed t' = [] ∧ (x.1 = .ok () → Cache.Stands t' x.2.cache)) := by
  unfold prepare
  cases s.settings.check with
  | error e => exact ensures_done.2 ⟨rfl, nofun⟩
  | ok _ =>
      dsimp only
      cases s.settings.endpoint with
      | error e => exact ensures_done.2 ⟨rfl, nofun⟩
      | ok endpoint =>
          cases s.settings.policy with
          | error e => exact ensures_done.2 ⟨rfl, nofun⟩
          | ok policy =>
              dsimp only
              have hnew := Cache.standing_new
                { endpoint, credentials := s.settings.credentials endpoint, policy }
                s.settings.precision (some ⟨pipeline.name, "source"⟩)
              refine Ensures.bind (m := fun t' (x : Outcome Unit × Cache) => closed t' = [] ∧
                Cache.Standing t' x.2) ?_ ?_
              · unfold setUp
                cases s.settings.target? with
                | none => exact ensures_done.2 ⟨rfl, hnew⟩
                | some name => exact Cache.ensures_setDatabase_nil hnew rfl name
              · rintro t₁ ⟨e | _, c⟩ ⟨hclosed, hc⟩
                · exact ensures_done.2 ⟨hclosed, nofun⟩
                · refine (hc.ensures_ask (q := .now) (fun _ => rfl) (fun _ => rfl)
                    (fun _ => rfl)).bind ?_
                  rintro t₂ now ⟨hc₂, hsame⟩
                  have hclosed₂ : closed t₂ = [] := hsame.trans hclosed
                  cases Cursor.readStart? s.settings.initialTimestamp now with
                  | error e => exact ensures_done.2 ⟨hclosed₂, nofun⟩
                  | ok start =>
                      refine ensures_done.2 ⟨hclosed₂, fun _ => ⟨c, ?_, hc₂⟩⟩
                      exact (shifts_startTables _).cache

/-- A query keeps the standing. -/
theorem ensures_query_stands (h : Cache.Stands t s.cache) (sql : String) :
    (s.query sql).Ensures world Orderly t (fun t' x => Cache.Stands t' x.2.cache) := by
  obtain ⟨c, hcache, hc⟩ := h
  unfold query
  rw [hcache]
  refine (hc.ensures_query sql).bind ?_
  rintro t₁ ⟨result, c₁⟩ hc₁
  exact ensures_done.2 ⟨c₁, rfl, hc₁⟩

/-- Both queries for a batch keep the standing. -/
theorem ensures_batch_stands (h : Cache.Stands t s.cache) (table : TableSource) (after : Int64) :
    (s.batch table after).Ensures world Orderly t (fun t' x => Cache.Stands t' x.2.cache) := by
  unfold batch
  refine (ensures_query_stands h _).bind ?_
  rintro t₁ ⟨e | result, s₁⟩ h₁
  · exact ensures_done.2 h₁
  · dsimp only
    by_cases hempty : result.rows.isEmpty
    · rw [if_pos hempty]
      exact ensures_done.2 h₁
    · rw [if_neg hempty]
      cases s₁.times table result with
      | error e => exact ensures_done.2 h₁
      | ok times =>
          dsimp only
          cases times with
          | nil => exact ensures_done.2 h₁
          | cons first rest =>
              dsimp only
              by_cases hfull : Extraction.completePrefix s₁.batchSize (first :: rest) =
                  (first :: rest).length && s₁.batchSize ≤ (first :: rest).length
              · rw [if_pos hfull]
                refine (ensures_query_stands h₁ _).bind ?_
                rintro t₂ ⟨e | result, s₂⟩ h₂
                · exact ensures_done.2 h₂
                · exact ensures_done.2 h₂
              · rw [if_neg hfull]
                exact ensures_done.2 h₁

/-- Readings of skipped rows keep the standing. -/
theorem ensures_noteSkipped_stands (s : Source) (n : Nat) {cache : Option Cache}
    (h : Cache.Stands t cache) :
    (s.noteSkipped n).Ensures world Orderly t (fun t' _ => Cache.Stands t' cache) := by
  induction n generalizing t with
  | zero => exact ensures_done.2 h
  | succ n ih =>
      unfold noteSkipped
      cases s.meter with
      | none => exact ensures_done.2 h
      | some meter =>
          obtain ⟨c, hcache, hc⟩ := h
          refine (hc.ensures_ask (q := .note ⟨meter, .skipped⟩) (fun _ => rfl) (fun _ => rfl)
            (fun _ => rfl)).bind ?_
          rintro t₁ _ ⟨hc₁, -⟩
          exact ih ⟨c, hcache, hc₁⟩

/-- Making records keeps the standing. -/
theorem ensures_publish_stands (h : Cache.Stands t s.cache) (table : TableSource)
    (result : QueryResult) (times : List Int64) :
    (s.publish table result times).Ensures world Orderly t
      (fun t' x => Cache.Stands t' x.2.cache) := by
  unfold publish
  cases times.getLast? with
  | none => exact ensures_done.2 h
  | some last =>
      dsimp only
      cases s.records table (s.context table result.columns) (result.rows.zip times) with
      | error e => exact ensures_done.2 h
      | ok made =>
          obtain ⟨records, skipped⟩ := made
          dsimp only
          refine (s.ensures_noteSkipped_stands skipped h).bind ?_
          rintro t₁ _ h₁
          by_cases hnone : records.isEmpty
          · rw [if_pos hnone]
            cases Keyed.lookup table.partition s.trackers with
            | none => exact ensures_done.2 h₁
            | some tracker => exact ensures_done.2 h₁
          · rw [if_neg hnone]
            exact ensures_done.2 h₁

/-- Polling a table keeps the standing. -/
theorem ensures_pollTable_stands (h : Cache.Stands t s.cache) (table : TableSource) :
    (s.pollTable table).Ensures world Orderly t (fun t' x => Cache.Stands t' x.2.cache) := by
  unfold pollTable
  dsimp only
  refine (ensures_batch_stands (s := s.track _) h table _).bind ?_
  rintro t₁ ⟨e | ⟨result, times⟩, s₁⟩ h₁
  · exact ensures_done.2 h₁
  · exact ensures_publish_stands h₁ table result times

/-- **Polling** keeps the standing. -/
theorem ensures_poll_stands (h : Cache.Stands t s.cache) :
    s.poll.Ensures world Orderly t (fun t' x => Cache.Stands t' x.2.cache) := by
  have hall : ∀ (tables : List TableSource) {t : List (Exchange Link)} {s : Source},
      Cache.Stands t s.cache → (s.pollTables tables).Ensures world Orderly t
        (fun t' x => Cache.Stands t' x.2.cache) := by
    intro tables
    induction tables with
    | nil => exact fun h => ensures_done.2 h
    | cons table tables ih =>
        intro t s h
        refine (ensures_pollTable_stands h table).bind ?_
        rintro t₁ ⟨e | records, s₁⟩ h₁
        · exact ensures_done.2 h₁
        · refine (ih h₁).bind ?_
          rintro t₂ ⟨e | more, s₂⟩ h₂
          · exact ensures_done.2 h₂
          · exact ensures_done.2 h₂
  exact hall s.settings.tables h

/-- **Stopping releases every session.** -/
theorem ensures_shutdown_releases (h : Cache.Stands t s.cache) :
    s.shutdown.Ensures world Orderly t (fun t' _ => Orderly t' ∧ Releases t') := by
  obtain ⟨c, hcache, hc⟩ := h
  unfold shutdown
  rw [hcache]
  exact hc.ensures_close_releases.bind (fun _ _ hall => ensures_done.2 hall)

end Source

/-! ## Deliveries -/

/-- **Where the loop was not entered** nothing was closed, and all is released only if nothing was
opened. -/
theorem Course.releases_iff_of_not_entered (h : closed t = []) :
    Releases t ↔ false = true ∨ opened t = [] := by
  rw [releases_iff_of_closed h]
  simp

/-- Whether a request begins a round of a delivery. -/
def IntakeCall.beginsRound : IntakeCall → Bool
  | stopping => true
  | _ => false

namespace Delivery

/-- The world of a sink, which notes whether the loop was entered. -/
abbrev besideWorld : Behaviour (Link.sum Intake) (List (Exchange Link) × Bool) :=
  Course.world.beside IntakeCall.beginsRound

/-- **What a run leaves open.** While it goes on, the cache stands as its course says. When it is over,
every session is released if the loop was entered, and otherwise only if there is none. -/
def Leaves (w : List (Exchange Link) × Bool) (s : Sink) : Progress → Prop
  | .going _ => Cache.Stands w.1 s.cache
  | .over _ => Releases w.1 ↔ w.2 = true ∨ opened w.1 = []

variable {s : Sink} {d : Delivery} {b : Bool}

/-- **A call between the first and the last** keeps the standing, however often it is tried. -/
theorem ensures_callWithRetries_stands {c : SinkCall}
    (hcall : ∀ t s, Cache.Stands t s.cache →
      (Sink.answer c s).Ensures world Orderly t (fun t' x => Cache.Stands t' x.2.cache))
    (made left : Nat) (h : Cache.Stands t s.cache) :
    ((d.callWithRetries c made left).serve Sink.answer s).Ensures besideWorld (fun w => Orderly w.1)
      (t, true) (fun w x => Cache.Stands w.1 x.2.cache ∧ w.2 = true) := by
  induction left generalizing made t s with
  | zero => exact ensures_serve_inl.2 (hcall t s h).beside
  | succ left ih =>
      unfold callWithRetries
      refine ensures_served_call (hcall t s h) ?_
      rintro t₁ (e | _) s₁ h₁
      · have horderly := h₁.orderly
        by_cases he : e.isRetryable
        · simp only [if_pos he]
          refine ensures_served_other horderly (fun _ => ?_)
          refine ensures_served_other horderly (fun _ => ?_)
          refine ensures_served_other horderly (fun _ => ?_)
          exact ih (made + 1) h₁
        · simp only [if_neg he]
          exact ensures_done.2 ⟨h₁, rfl⟩
      · exact ensures_done.2 ⟨h₁, rfl⟩

/-- **Processing a record** keeps the standing. -/
theorem ensures_process_stands (h : Cache.Stands t s.cache) (r : Incoming) :
    ((d.process r).serve Sink.answer s).Ensures besideWorld (fun w => Orderly w.1) (t, true)
      (fun w x => Cache.Stands w.1 x.2.cache ∧ w.2 = true) := by
  unfold process
  refine ensures_serve_bind.2 ((ensures_callWithRetries_stands (c := .process r)
    (fun t s h => Sink.ensures_process_stands h r) 0 _ h).mono ?_)
  rintro ⟨t₁, _⟩ ⟨e | _, s₁⟩ ⟨h₁, rfl⟩
  · by_cases he : e.isInvalidData
    · simp only [if_pos he]
      refine ensures_served_other h₁.orderly ?_
      exact fun _ => ensures_done.2 ⟨h₁, rfl⟩
    · simp only [if_neg he]
      exact ensures_done.2 ⟨h₁, rfl⟩
  · refine ensures_served_other h₁.orderly ?_
    exact fun _ => ensures_done.2 ⟨h₁, rfl⟩

/-- A flush keeps the standing. -/
theorem ensures_flush_stands (h : Cache.Stands t s.cache) :
    (d.flush.serve Sink.answer s).Ensures besideWorld (fun w => Orderly w.1) (t, true)
      (fun w x => Cache.Stands w.1 x.2.cache ∧ w.2 = true) :=
  ensures_callWithRetries_stands (c := .flush) (fun _ _ h => Sink.ensures_flush_stands h) 0 _ h

/-- **Stopping releases every session,** with whatever result the run ends. -/
theorem ensures_stopWith_leaves (h : Cache.Stands t s.cache) (result : Outcome Unit) :
    ((d.stopWith result).serve Sink.answer s).Ensures besideWorld (fun w => Orderly w.1) (t, true)
      (fun w x => Leaves w x.2 x.1) := by
  unfold stopWith
  refine ensures_served_call (Sink.ensures_shutdown_releases h) ?_
  rintro t₁ stopped s₁ ⟨horderly, hall⟩
  refine ensures_served_other horderly (fun _ => ?_)
  cases result with
  | ok _ => exact ensures_done.2 (iff_of_true hall (.inl rfl))
  | error e => exact ensures_done.2 (iff_of_true hall (.inl rfl))

/-- The last flush and the end release every session. -/
theorem ensures_finish_leaves (h : Cache.Stands t s.cache) :
    (d.finish.serve Sink.answer s).Ensures besideWorld (fun w => Orderly w.1) (t, true)
      (fun w x => Leaves w x.2 x.1) := by
  unfold finish
  refine ensures_serve_bind.2 ((ensures_flush_stands h).mono ?_)
  rintro ⟨t₁, _⟩ ⟨flushed, s₁⟩ ⟨h₁, rfl⟩
  exact ensures_stopWith_leaves h₁ flushed

/-- The end after a failure releases every session. -/
theorem ensures_fail_leaves (h : Cache.Stands t s.cache) (kind : String) (e : Error) :
    ((d.fail kind e).serve Sink.answer s).Ensures besideWorld (fun w => Orderly w.1) (t, true)
      (fun w x => Leaves w x.2 x.1) :=
  ensures_served_other h.orderly (fun _ => ensures_stopWith_leaves h _)

/-- A flush when it is time to keeps the standing, or ends the run. -/
theorem ensures_flushIfDue_leaves (h : Cache.Stands t s.cache) (lastFlush : Nat) :
    ((d.flushIfDue lastFlush).serve Sink.answer s).Ensures besideWorld (fun w => Orderly w.1)
      (t, true) (fun w x => Leaves w x.2 x.1) := by
  unfold flushIfDue
  refine ensures_served_other h.orderly ?_
  intro (time : Nat)
  by_cases hearly : time < lastFlush + d.flushInterval
  · rw [if_pos hearly]
    exact ensures_done.2 h
  · rw [if_neg hearly]
    refine ensures_serve_bind.2 ((ensures_flush_stands h).mono ?_)
    rintro ⟨t₁, _⟩ ⟨e | _, s₁⟩ ⟨h₁, rfl⟩
    · exact ensures_fail_leaves h₁ "flush" e
    · refine ensures_served_other h₁.orderly ?_
      exact fun _ => ensures_done.2 h₁

/-- **A round** keeps the standing, or ends the run with every session released. -/
theorem ensures_round_leaves (h : Cache.Stands t s.cache) (lastFlush : Nat) :
    ((d.round lastFlush).serve Sink.answer s).Ensures besideWorld (fun w => Orderly w.1) (t, b)
      (fun w x => Leaves w x.2 x.1) := by
  unfold round
  refine ensures_served_other h.orderly ?_
  intro (stops : Bool)
  have hentered : (b || IntakeCall.beginsRound .stopping) = true := Bool.or_true b
  rw [hentered]
  cases stops with
  | true => exact ensures_finish_leaves h
  | false =>
      refine ensures_served_other h.orderly ?_
      intro (arrival : Arrival)
      cases arrival with
      | ended => exact ensures_finish_leaves h
      | failed e => exact ensures_fail_leaves h "stream" e
      | overdue => exact ensures_flushIfDue_leaves h lastFlush
      | record r =>
          refine ensures_served_other h.orderly (fun _ => ?_)
          refine ensures_serve_bind.2 ((ensures_process_stands h r).mono ?_)
          rintro ⟨t₁, _⟩ ⟨e | _, s₁⟩ ⟨h₁, rfl⟩
          · exact ensures_fail_leaves h₁ "process" e
          · exact ensures_served_other h₁.orderly (fun _ => ensures_flushIfDue_leaves h₁ lastFlush)

/-- **Rounds** keep the standing until the run is over. -/
theorem ensures_rounds_leaves (n : Nat) {p : Progress} {w : List (Exchange Link) × Bool}
    (h : Leaves w s p) :
    ((d.rounds n p).serve Sink.answer s).Ensures besideWorld (fun w => Orderly w.1) w
      (fun w x => Leaves w x.2 x.1) := by
  induction n generalizing w s p with
  | zero => exact ensures_done.2 h
  | succ n ih =>
      rcases p with lastFlush | result
      · unfold rounds
        refine ensures_serve_bind.2 ((ensures_round_leaves (b := w.2) h lastFlush).mono ?_)
        intro w₁ x hx
        exact ih hx
      · exact ensures_done.2 h

/-- **The beginning** closes nothing, so what was opened is released only if it goes on. -/
theorem ensures_start_leaves (d : Delivery) (s : Sink) :
    (d.start.serve Sink.answer s).Ensures besideWorld (fun w => Orderly w.1) ([], false)
      (fun w x => Leaves w x.2 x.1) := by
  unfold start
  refine ensures_served_other books_nil.orderly (fun _ => ?_)
  refine ensures_served_call (s.ensures_prepare_stands d.settings) ?_
  rintro t₁ (e | _) s₁ ⟨hclosed, hok⟩
  · exact ensures_done.2 (releases_iff_of_not_entered hclosed)
  · have h₁ := hok rfl
    refine ensures_served_other h₁.orderly ?_
    exact fun _ => ensures_done.2 h₁

/-- **A whole run** keeps the standing until it is over. -/
theorem ensures_runInto_leaves (d : Delivery) (s : Sink) (n : Nat) :
    (d.runInto s n).Ensures besideWorld (fun w => Orderly w.1) ([], false)
      (fun w x => Leaves w x.2 x.1) := by
  unfold runInto run
  refine ensures_serve_bind.2 ((d.ensures_start_leaves s).mono ?_)
  intro w x hx
  exact ensures_rounds_leaves n hx

end Delivery

/-! ## Publications -/

/-- Whether a request begins a round of a publication. -/
def OutletCall.beginsRound : OutletCall → Bool
  | stopping => true
  | _ => false

namespace Publication

/-- The world of a source, which notes whether the loop was entered. -/
abbrev besideWorld : Behaviour (Link.sum Outlet) (List (Exchange Link) × Bool) :=
  Course.world.beside OutletCall.beginsRound

/-- **What a run leaves open.** While it goes on, the cache stands as its course says. When it is over,
every session is released if the loop was entered, and otherwise only if there is none. -/
def Leaves (w : List (Exchange Link) × Bool) (s : Source) : Progress → Prop
  | .going => Cache.Stands w.1 s.cache
  | .over _ => Releases w.1 ↔ w.2 = true ∨ opened w.1 = []

variable {s : Source} {p : Publication} {b : Bool}

/-- Giving records out keeps the standing. -/
theorem ensures_emitAll_stands (records : List Outgoing) (h : Cache.Stands t s.cache) :
    ((p.emitAll records).serve Source.answer s).Ensures besideWorld (fun w => Orderly w.1) (t, true)
      (fun w x => Cache.Stands w.1 x.2.cache ∧ w.2 = true) := by
  induction records with
  | nil => exact ensures_done.2 ⟨h, rfl⟩
  | cons r records ih =>
      unfold emitAll
      refine ensures_served_other h.orderly ?_
      rintro (e | _)
      · exact ensures_done.2 ⟨h, rfl⟩
      · refine ensures_served_other h.orderly (fun _ => ?_)
        refine ensures_served_other h.orderly (fun _ => ?_)
        exact ih

/-- **Publishing** keeps the standing. -/
theorem ensures_publish_stands (records : List Outgoing) (h : Cache.Stands t s.cache) :
    ((p.publish records).serve Source.answer s).Ensures besideWorld (fun w => Orderly w.1) (t, true)
      (fun w x => Cache.Stands w.1 x.2.cache ∧ w.2 = true) := by
  unfold publish
  refine ensures_serve_bind.2 ((ensures_emitAll_stands records h).mono ?_)
  rintro ⟨t₁, _⟩ ⟨e | _, s₁⟩ ⟨h₁, rfl⟩
  · exact ensures_done.2 ⟨h₁, rfl⟩
  · refine ensures_served_other h₁.orderly ?_
    rintro (e | _)
    · exact ensures_done.2 ⟨h₁, rfl⟩
    · dsimp only
      by_cases hempty : (Outgoing.offsets records).isEmpty
      · rw [if_pos hempty]
        exact ensures_done.2 ⟨h₁, rfl⟩
      · rw [if_neg hempty]
        refine ensures_served_other h₁.orderly ?_
        rintro (e | _)
        · exact ensures_done.2 ⟨h₁, rfl⟩
        · have hcommit : (Source.answer (.commit (Outgoing.offsets records)) s₁).Ensures Course.world
              Orderly t₁ (fun t' x => Cache.Stands t' x.2.cache) := by
            refine ensures_done.2 ?_
            rw [(Source.shifts_commit s₁ _).cache]
            exact h₁
          exact ensures_serve_inl.2 hcommit.beside

/-- Resting keeps the standing. -/
theorem ensures_rest_leaves (h : Cache.Stands t s.cache) (failure : Option String) :
    ((p.rest failure).serve Source.answer s).Ensures besideWorld (fun w => Orderly w.1) (t, true)
      (fun w x => Leaves w x.2 x.1) := by
  unfold rest
  cases failure with
  | none =>
      refine ensures_served_other h.orderly ?_
      exact fun _ => ensures_done.2 h
  | some kind =>
      refine ensures_served_other h.orderly (fun _ => ?_)
      refine ensures_served_other h.orderly ?_
      exact fun _ => ensures_done.2 h

/-- **A round** keeps the standing, or ends the run with every session released. -/
theorem ensures_round_leaves (h : Cache.Stands t s.cache) :
    (p.round.serve Source.answer s).Ensures besideWorld (fun w => Orderly w.1) (t, b)
      (fun w x => Leaves w x.2 x.1) := by
  unfold round
  refine ensures_served_other h.orderly ?_
  intro (stops : Bool)
  have hentered : (b || OutletCall.beginsRound .stopping) = true := Bool.or_true b
  rw [hentered]
  cases stops with
  | true =>
      have hshutdown : (Source.answer .shutdown s).Ensures Course.world Orderly t
          (fun t' _ => Orderly t' ∧ Releases t') :=
        (Source.ensures_shutdown_releases h).bind (fun _ _ hall => ensures_done.2 hall)
      refine ensures_served_call hshutdown ?_
      rintro t₁ (e | _) s₁ ⟨horderly, hall⟩
      · exact ensures_done.2 (iff_of_true hall (.inl rfl))
      · refine ensures_served_other horderly ?_
        exact fun _ => ensures_done.2 (iff_of_true hall (.inl rfl))
  | false =>
      refine ensures_served_call (Source.ensures_poll_stands h) ?_
      rintro t₁ (e | records) s₁ h₁
      · exact ensures_rest_leaves h₁ _
      · cases records with
        | nil => exact ensures_rest_leaves h₁ _
        | cons r records =>
            refine ensures_served_other h₁.orderly (fun _ => ?_)
            refine ensures_serve_bind.2 ((ensures_publish_stands (r :: records) h₁).mono ?_)
            rintro ⟨t₂, _⟩ ⟨e | _, s₂⟩ ⟨h₂, rfl⟩
            · exact ensures_rest_leaves h₂ _
            · exact ensures_done.2 h₂

/-- **Rounds** keep the standing until the run is over. -/
theorem ensures_rounds_leaves (n : Nat) {progress : Progress} {w : List (Exchange Link) × Bool}
    (h : Leaves w s progress) :
    ((p.rounds n progress).serve Source.answer s).Ensures besideWorld (fun w => Orderly w.1) w
      (fun w x => Leaves w x.2 x.1) := by
  induction n generalizing w s progress with
  | zero => exact ensures_done.2 h
  | succ n ih =>
      rcases progress with _ | result
      · unfold rounds
        refine ensures_serve_bind.2 ((ensures_round_leaves (b := w.2) h).mono ?_)
        intro w₁ x hx
        exact ih hx
      · exact ensures_done.2 h

/-- **The beginning** closes nothing, so what was opened is released only if it goes on. -/
theorem ensures_start_leaves (p : Publication) (s : Source) :
    (p.start.serve Source.answer s).Ensures besideWorld (fun w => Orderly w.1) ([], false)
      (fun w x => Leaves w x.2 x.1) := by
  unfold start
  refine ensures_served_other books_nil.orderly (fun _ => ?_)
  refine ensures_served_call (s.ensures_prepare_stands p.settings) ?_
  rintro t₁ (e | _) s₁ ⟨hclosed, hok⟩
  · exact ensures_done.2 (releases_iff_of_not_entered hclosed)
  · have h₁ := hok rfl
    refine ensures_served_other h₁.orderly ?_
    rintro (e | offsets)
    · exact ensures_done.2 (releases_iff_of_not_entered hclosed)
    · have hrestore : (Source.answer (.restore offsets) s₁).Ensures Course.world Orderly t₁
          (fun t' x => closed t' = [] ∧ Cache.Stands t' x.2.cache) := by
        refine ensures_done.2 ⟨hclosed, ?_⟩
        rw [(Source.shifts_restore s₁ offsets).cache]
        exact h₁
      refine ensures_served_call hrestore ?_
      rintro t₂ (e | _) s₂ ⟨hclosed₂, h₂⟩
      · exact ensures_done.2 (releases_iff_of_not_entered hclosed₂)
      · exact ensures_done.2 h₂

/-- **A whole run** keeps the standing until it is over. -/
theorem ensures_runFrom_leaves (p : Publication) (s : Source) (n : Nat) :
    (p.runFrom s n).Ensures besideWorld (fun w => Orderly w.1) ([], false)
      (fun w x => Leaves w x.2 x.1) := by
  unfold runFrom run
  refine ensures_serve_bind.2 ((p.ensures_start_leaves s).mono ?_)
  intro w x hx
  exact ensures_rounds_leaves n hx

end Publication

/-! ## Runs that are over -/

/-- Whether a delivery is over. -/
def Delivery.Progress.isOver : Delivery.Progress → Bool
  | .over _ => true
  | .going _ => false

/-- A delivery that is over has a result. -/
theorem Delivery.Progress.isOver_iff {p : Delivery.Progress} :
    p.isOver = true ↔ ∃ result, p = .over result := by
  cases p <;> simp [isOver]

/-- Whether a publication is over. -/
def Publication.Progress.isOver : Publication.Progress → Bool
  | .over _ => true
  | .going => false

/-- A publication that is over has a result. -/
theorem Publication.Progress.isOver_iff {p : Publication.Progress} :
    p.isOver = true ↔ ∃ result, p = .over result := by
  cases p <;> simp [isOver]

namespace Course

open Exchange

/-- **What a run that is over has released.** However its requests were answered, sessions were opened,
used and closed in order. All of them were released, each once, exactly if the loop of the run was
entered or nothing was opened. -/
theorem releases_iff_of_over (S : DatabaseSettings) (n : Nat) :
    (∀ (d : Delivery) {t : List (Exchange (Link.sum Intake))} {result : Outcome Unit} {s : Sink},
      Runs (d.runInto { settings := S } n) t (.over result, s) → Orderly (lefts t) ∧
        (Releases (lefts t) ↔ marked IntakeCall.beginsRound t = true ∨ opened (lefts t) = [])) ∧
    ∀ (p : Publication) (mapper : RowMapper) {t : List (Exchange (Link.sum Outlet))}
      {result : Outcome Unit} {s : Source},
      Runs (p.runFrom { settings := S, mapper } n) t (.over result, s) → Orderly (lefts t) ∧
        (Releases (lefts t) ↔ marked OutletCall.beginsRound t = true ∨ opened (lefts t) = []) := by
  have hfollows : ∀ t, Course.world.Follows [] t t := fun t =>
    Behaviour.follows_recording [] (fun _ _ => trivial)
  constructor
  · intro d t result s hrun
    have hensures := d.ensures_runInto_leaves { settings := S } n
    have hbeside : Delivery.besideWorld.Follows ([], false) t
      (lefts t, marked IntakeCall.beginsRound t) := (hfollows (lefts t)).beside false
    exact ⟨hensures.of_reaches books_nil.orderly hrun.reaches hbeside, hensures.of_runs hrun hbeside⟩
  · intro p mapper t result s hrun
    have hensures := p.ensures_runFrom_leaves { settings := S, mapper } n
    have hbeside : Publication.besideWorld.Follows ([], false) t
      (lefts t, marked OutletCall.beginsRound t) := (hfollows (lefts t)).beside false
    exact ⟨hensures.of_reaches books_nil.orderly hrun.reaches hbeside, hensures.of_runs hrun hbeside⟩

/-! ### Broken runs -/

/-- A database that fails at given calls, and a stream that fails after some records. -/
def answerIntake (failing : List Nat) (s : Nat × List Incoming) :
    (q : (Link.sum Intake).Request) → (Link.sum Intake).Answer q × Nat × List Incoming
  | .inl q =>
      let (r, number) := Cache.answerFailing failing s.1 q
      (r, number, s.2)
  | .inr (.next _) =>
      match s.2 with
      | [] => (.failed (.retryable "broken pipe" none), s)
      | r :: records => (.record r, s.1, records)
  | .inr .stopping => (false, s)
  | .inr .clock => ((0 : Nat), s)
  | .inr (.pause _) => ((), s)
  | .inr (.draw _ _) => (Fin.last _, s)
  | .inr (.note _) => ((), s)

/-- A database that fails at given calls, and a store that cannot be read. -/
def answerOutlet (failing : List Nat) (number : Nat) :
    (q : (Link.sum Outlet).Request) → (Link.sum Outlet).Answer q × Nat
  | .inl q => Cache.answerFailing failing number q
  | .inr .load => (.error (.fatal "unreadable" none), number)
  | .inr (.store _) => (.ok (), number)
  | .inr (.emit _) => (.ok (), number)
  | .inr .flush => (.ok (), number)
  | .inr .stopping => (true, number)
  | .inr (.pause _) => ((), number)
  | .inr (.note _) => ((), number)

/-- A database that takes telnet lines. -/
def plainSettings : DatabaseSettings := { url := "taos://h/power", protocol := .telnet }

/-- A table of it to be read. -/
def tableSettings : DatabaseSettings :=
  { plainSettings with mode := .source, tables := [⟨"meters", none⟩] }

/-- A delivery of records one by one. -/
def oneByOne : Delivery := ⟨{ name := "c", batchSize := 1 }⟩

/-- **A delivery of two records when given calls of the database fail,** with its result. -/
def brokenDelivery (failing : List Nat) :
    List (Exchange (Link.sum Intake)) × Delivery.Progress × Sink :=
  (oneByOne.runInto { settings := plainSettings } 5).courseWith (answerIntake failing)
    (0, [{ topic := "t", offset := 0, payload := Text.Utf8.ofString "a 1 2 k=v" },
      { topic := "t", offset := 1, payload := Text.Utf8.ofString "b 1 2 k=v" }])

/-- It is a course of the delivery. -/
theorem runs_brokenDelivery {failing : List Nat} (hover : (brokenDelivery failing).2.1.isOver) :
    ∃ result, Runs (oneByOne.runInto { settings := plainSettings } 5) (brokenDelivery failing).1
      (.over result, (brokenDelivery failing).2.2) := by
  obtain ⟨result, hresult⟩ := Delivery.Progress.isOver_iff.1 hover
  refine ⟨result, ?_⟩
  rw [← hresult]
  exact runs_courseWith (I := Link.sum Intake) (answerIntake failing) _ _

/-- A publication. -/
def byTable : Publication := ⟨{ name := "c" }⟩

/-- **A publication whose offsets cannot be read,** with its result. -/
def brokenPublication : List (Exchange (Link.sum Outlet)) × Publication.Progress × Source :=
  (byTable.runFrom (.ofSettings tableSettings) 5).courseWith (answerOutlet []) 0

/-- It is a course of the publication. -/
theorem runs_brokenPublication :
    ∃ result, Runs (byTable.runFrom (.ofSettings tableSettings) 5) brokenPublication.1
      (.over result, brokenPublication.2.2) := by
  obtain ⟨result, hresult⟩ := Publication.Progress.isOver_iff.1
    (show brokenPublication.2.1.isOver by decide +kernel)
  refine ⟨result, ?_⟩
  rw [← hresult]
  exact runs_courseWith (I := Link.sum Outlet) (answerOutlet []) _ _

/-- A session that is lost and cannot be closed, and one whose stream fails: both are released. A
session whose offsets cannot be read stays open. -/
theorem releases_brokenDelivery :
    opened (lefts (brokenDelivery [3, 4]).1) = [0, 1] ∧ Releases (lefts (brokenDelivery [3, 4]).1) ∧
      opened (lefts brokenPublication.1) = [0] ∧ ¬ Releases (lefts brokenPublication.1) := by
  have hover : (brokenDelivery [3, 4]).2.1.isOver := by decide +kernel
  obtain ⟨result, hruns⟩ := runs_brokenDelivery hover
  have hdelivery := (releases_iff_of_over plainSettings 5).1 oneByOne hruns
  obtain ⟨result', hruns'⟩ := runs_brokenPublication
  have hpublication := (releases_iff_of_over tableSettings 5).2 byTable _ hruns'
  have hopened : opened (lefts brokenPublication.1) = [0] := by decide +kernel
  refine ⟨by decide +kernel, hdelivery.2.2 (.inl (by decide +kernel)), hopened, ?_⟩
  rw [hpublication.2, hopened]
  decide +kernel

/-- **A session may stay open.** When the database cannot be created on the first session, a run that
was given good settings is over, and the session is not closed. -/
theorem not_releases_brokenDelivery :
    plainSettings.check.toBool ∧ oneByOne.settings.check.toBool ∧
      (∃ result, Runs (oneByOne.runInto { settings := plainSettings } 5) (brokenDelivery [1]).1
        (.over result, (brokenDelivery [1]).2.2)) ∧
      ¬ Releases (lefts (brokenDelivery [1]).1) := by
  have hopened : 0 ∈ opened (lefts (brokenDelivery [1]).1) := by decide +kernel
  have hclosed : (closed (lefts (brokenDelivery [1]).1)).count 0 = 0 := by decide +kernel
  refine ⟨by decide +kernel, by decide +kernel, runs_brokenDelivery (by decide +kernel), ?_⟩
  intro hall
  rw [hall 0 hopened] at hclosed
  cases hclosed

end Course

end SeriesBridge
