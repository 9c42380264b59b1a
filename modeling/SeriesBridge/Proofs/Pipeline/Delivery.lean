import SeriesBridge.Proofs.Sink

/-! # What a delivery delivers

A delivery into a database, from its beginning to the end of its run. Between two rounds the books of
the sink are right, with the lines of all valid records due that have arrived. So whatever is tried
again, skipped, cut short by a flush or given up, the lines that reach the database are the first of
those lines, and after a success they are all of them.

* **`Delivery.Stands`** — where a run stands between two rounds.
* **`Delivery.ensures_round`**, **`Delivery.ensures_runInto`** — every round keeps it so.
* **`Delivery.written_of_runInto`** — the lines that a whole run writes. -/

namespace SeriesBridge

open Dialogue Sink

namespace Delivery

/-- The lines that are due when records have arrived: those of the valid ones, in their order. -/
def linesDue (S : DatabaseSettings) (records : List Incoming) : List String :=
  records.flatMap (validLines S)

/-- **Where a run stands.** While it goes on, the books are right. When it is over, the first of the
lines were written, and after a success all of them. -/
def Stands (S : DatabaseSettings) (w : List (Exchange (Link.sum Intake))) (s : Sink) :
    Progress → Prop
  | .going _ => Books S (arrived w) (linesDue S (arrived w)) w s
  | .over result => written w <+: linesDue S (arrived w) ∧
      (result = .ok () → written w = linesDue S (arrived w))

variable {S : DatabaseSettings} {records : List Incoming} {due : List String}
  {w w' : List (Exchange (Link.sum Intake))} {s : Sink} {d : Delivery}

/-! ## Requests -/

/-- **A call on the sink** ensures what the sink ensures. -/
theorem ensures_call {c : SinkCall} {post : List (Exchange (Link.sum Intake)) → Outcome Unit × Sink → Prop}
    (h : (Sink.answer c s).Ensures world.left (fun _ => True) w post) :
    ((call c).serve Sink.answer s).Ensures world (fun _ => True) w post :=
  ensures_serve_inl.2 h

/-- **A request other than for a record** leaves the books as they are, for what comes after it. -/
theorem ensures_quiet {α : Type} {q : IntakeCall} {f : DeliveryHost.Answer (.inr q) → Dialogue DeliveryHost α}
    {post : List (Exchange (Link.sum Intake)) → α × Sink → Prop}
    (hq : ∀ r, Exchange.arrived? ⟨.inr q, r⟩ = none)
    (h : ∀ r w', SameBooks w w' →
      ((f r).serve Sink.answer s).Ensures world (fun _ => True) w' post) :
    ((ask (I := DeliveryHost) (.inr q) >>= f).serve Sink.answer s).Ensures world (fun _ => True) w
      post := by
  refine ensures_serve_bind.2 (ensures_serve_inr.2 ?_)
  rintro r w' ⟨-, rfl⟩
  refine ⟨trivial, h r _ ⟨?_, ?_⟩⟩
  · rw [written_append_singleton]
    exact List.append_nil _
  · rw [arrived_append_singleton, hq r, Option.toList_none, List.append_nil]

/-- Two courses that tell the same as a third between them. -/
theorem SameBooks.trans {w₁ w₂ w₃ : List (Exchange (Link.sum Intake))} (h₁ : SameBooks w₁ w₂)
    (h₂ : SameBooks w₂ w₃) : SameBooks w₁ w₃ :=
  steady_world.trans h₁ h₂

/-- Waiting before a retry leaves the books as they are. -/
theorem ensures_backOff (retry : Nat) :
    ((d.backOff retry).serve Sink.answer s).Ensures world (fun _ => True) w
      (fun w' x => SameBooks w w' ∧ x.2 = s) := by
  refine ensures_quiet (fun _ => rfl) ?_
  intro _ w₁ hw₁
  refine ensures_quiet (fun _ => rfl) ?_
  intro n w₂ hw₂
  refine ensures_quiet (f := .done) (fun _ => rfl) ?_
  intro _ w₃ hw₃
  exact ensures_done.2 ⟨hw₁.trans (hw₂.trans hw₃), rfl⟩

/-! ## Trying again -/

/-- **A call that is tried again.** When every failure of a call leaves what held before it, so do all
its failures together, and its first success is a success. -/
theorem ensures_callWithRetries {c : SinkCall} {P Q : List (Exchange (Link.sum Intake)) → Sink → Prop}
    {F : Error → Prop} (hP : ∀ {w w' s}, SameBooks w w' → P w s → P w' s)
    (hcall : ∀ w s, P w s → (Sink.answer c s).Ensures world.left (fun _ => True) w (fun w' x =>
      (x.1 = .ok () → Q w' x.2) ∧ (∀ e, x.1 = .error e → P w' x.2 ∧ F e)))
    (made left : Nat) (h : P w s) :
    ((d.callWithRetries c made left).serve Sink.answer s).Ensures world (fun _ => True) w
      (fun w' x => (x.1 = .ok () → Q w' x.2) ∧ (∀ e, x.1 = .error e → P w' x.2 ∧ F e)) := by
  induction left generalizing made w s with
  | zero => exact ensures_call (hcall w s h)
  | succ left ih =>
      unfold callWithRetries
      rw [ensures_serve_bind]
      refine (ensures_call (hcall w s h)).mono ?_
      rintro w₁ ⟨e | _, s₁⟩ ⟨hok, herror⟩
      · obtain ⟨hP₁, hF⟩ := herror e rfl
        by_cases he : e.isRetryable
        · simp only [if_pos he]
          rw [ensures_serve_bind]
          refine (ensures_backOff (made + 1)).mono ?_
          rintro w₂ ⟨_, s₂⟩ ⟨hw₂, rfl⟩
          exact ih (made + 1) (hP hw₂ hP₁)
        · simp only [if_neg he]
          refine ensures_done.2 ⟨by simp, ?_⟩
          intro e' he'
          cases he'
          exact ⟨hP₁, hF⟩
      · exact ensures_done.2 ⟨fun _ => hok rfl, by simp⟩

/-- The books of a sink do not depend on what else the world was asked. -/
theorem books_of_sameBooks (hw : SameBooks w w') (h : Books S records due w s) :
    Books S records due w' s :=
  h.withCache hw s.cache

/-- **A record that was processed,** skipped or not, has made its lines due. -/
theorem ensures_processed (h : Books S records due w s) (r : Incoming) :
    ((d.process r).serve Sink.answer s).Ensures world (fun _ => True) w (fun w' x =>
      (x.1 = .ok () → Books S records (due ++ validLines S r) w' x.2) ∧
      (∀ e, x.1 = .error e → Books S records due w' x.2)) := by
  unfold process
  rw [ensures_serve_bind]
  refine (ensures_callWithRetries (c := .process r) (P := Books S records due)
    (Q := Books S records (due ++ validLines S r))
    (F := fun e => e.isInvalidData → validLines S r = []) books_of_sameBooks
    (fun w s h => ensures_process h r) 0 _ h).mono ?_
  rintro w₁ ⟨e | _, s₁⟩ ⟨hok, herror⟩
  · obtain ⟨hbooks, hinvalid⟩ := herror e rfl
    by_cases he : e.isInvalidData
    · simp only [if_pos he]
      refine ensures_quiet (fun _ => rfl) ?_
      intro _ w₂ hw₂
      refine ensures_done.2 ⟨fun _ => ?_, by simp⟩
      rw [hinvalid he, List.append_nil]
      exact books_of_sameBooks hw₂ hbooks
    · simp only [if_neg he]
      exact ensures_done.2 ⟨by simp, fun _ _ => hbooks⟩
  · refine ensures_quiet (fun _ => rfl) ?_
    intro _ w₂ hw₂
    exact ensures_done.2 ⟨fun _ => books_of_sameBooks hw₂ (hok rfl), by simp⟩

/-- **A flush** keeps the books right, and after a success no lines wait. -/
theorem ensures_flushed (h : Books S records due w s) :
    (d.flush.serve Sink.answer s).Ensures world (fun _ => True) w (fun w' x =>
      Books S records due w' x.2 ∧ (x.1 = .ok () → x.2.buffer = [])) := by
  refine (ensures_callWithRetries (P := Books S records due)
    (Q := fun w s => Books S records due w s ∧ s.buffer = []) (F := fun _ => True)
    books_of_sameBooks ?_ 0 _ h).mono ?_
  · intro w s h
    refine (ensures_flush h).mono ?_
    rintro w' x ⟨hbooks, -, hempty⟩
    exact ⟨fun hx => ⟨hbooks, hempty hx⟩, fun _ _ => ⟨hbooks, trivial⟩⟩
  · rintro w' ⟨e | _, s'⟩ ⟨hok, herror⟩
    · exact ⟨(herror e rfl).1, by simp⟩
    · exact ⟨(hok rfl).1, fun _ => (hok rfl).2⟩

/-! ## Rounds -/

/-- Books that are right for the records that have arrived. -/
theorem Books.stands (h : Books S records (linesDue S records) w s) (lastFlush : Nat) :
    Stands S w s (.going lastFlush) := by
  show Books S (arrived w) (linesDue S (arrived w)) w s
  rw [h.arrived]
  exact h

/-- **Stopping** ends a run with the result that it is given, or with its own failure. -/
theorem ensures_stopWith {result : Outcome Unit} (h : Books S records due w s)
    (hdue : due <+: linesDue S records)
    (hok : result = .ok () → s.buffer = [] ∧ due = linesDue S records) :
    ((d.stopWith result).serve Sink.answer s).Ensures world (fun _ => True) w
      (fun w' x => Stands S w' x.2 x.1) := by
  unfold stopWith
  rw [ensures_serve_bind]
  refine (ensures_call (c := .shutdown) (ensures_shutdown s w)).mono ?_
  rintro w₁ ⟨stopped, s₁⟩ hw₁
  refine ensures_quiet (fun _ => rfl) ?_
  intro _ w₂ hw₂
  have hw : SameBooks w w₂ := hw₁.trans hw₂
  have harrived : arrived w₂ = records := hw.2.trans h.arrived
  have hfirst : written w₂ <+: linesDue S (arrived w₂) := by
    rw [hw.1, harrived]
    exact h.written_prefix.trans hdue
  cases result with
  | error e => exact ensures_done.2 ⟨hfirst, by simp⟩
  | ok _ =>
      obtain ⟨hempty, hall⟩ := hok rfl
      refine ensures_done.2 ⟨hfirst, fun _ => ?_⟩
      rw [hw.1, harrived, ← hall, ← h.lines, hempty, List.append_nil]

/-- The last flush, and the end. -/
theorem ensures_finish (h : Books S records (linesDue S records) w s) :
    (d.finish.serve Sink.answer s).Ensures world (fun _ => True) w
      (fun w' x => Stands S w' x.2 x.1) := by
  unfold finish
  rw [ensures_serve_bind]
  refine (ensures_flushed h).mono ?_
  rintro w₁ ⟨flushed, s₁⟩ ⟨hbooks, hempty⟩
  exact ensures_stopWith hbooks (List.prefix_refl _) (fun hx => ⟨hempty hx, rfl⟩)

/-- The end after a failure. -/
theorem ensures_fail (h : Books S records due w s) (hdue : due <+: linesDue S records)
    (kind : String) (e : Error) :
    ((d.fail kind e).serve Sink.answer s).Ensures world (fun _ => True) w
      (fun w' x => Stands S w' x.2 x.1) := by
  refine ensures_quiet (fun _ => rfl) ?_
  intro _ w' hw
  exact ensures_stopWith (books_of_sameBooks hw h) hdue (by simp)

/-- A flush when it is time to. -/
theorem ensures_flushIfDue (h : Books S records (linesDue S records) w s) (lastFlush : Nat) :
    ((d.flushIfDue lastFlush).serve Sink.answer s).Ensures world (fun _ => True) w
      (fun w' x => Stands S w' x.2 x.1) := by
  refine ensures_quiet (fun _ => rfl) ?_
  intro (time : Nat) w₁ hw₁
  have h₁ := books_of_sameBooks hw₁ h
  by_cases hearly : time < lastFlush + d.flushInterval
  · rw [if_pos hearly]
    exact ensures_done.2 (Books.stands h₁ lastFlush)
  · rw [if_neg hearly, ensures_serve_bind]
    refine (ensures_flushed h₁).mono ?_
    rintro w₂ ⟨e | _, s₂⟩ ⟨hbooks, -⟩
    · exact ensures_fail hbooks (List.prefix_refl _) "flush" e
    · refine ensures_quiet (fun _ => rfl) ?_
      intro time' w₃ hw₃
      exact ensures_done.2 (Books.stands (books_of_sameBooks hw₃ hbooks) time')

/-- The books after waiting for a record: what has arrived has not made its lines due yet. -/
theorem books_of_arrival {arrival : Arrival} {deadline : Nat} {records' : List Incoming}
    (h : Books S records due w s)
    (hnew : records ++ (Exchange.arrived? ⟨.inr (.next deadline), arrival⟩).toList = records') :
    Books S records' due (w ++ [⟨.inr (.next deadline), arrival⟩]) s := by
  refine ⟨h.settings, ?_, ?_⟩
  · rw [arrived_append_singleton, h.arrived]
    exact hnew
  · have hwritten : Exchange.written ⟨.inr (.next deadline), arrival⟩ = [] := rfl
    rw [written_append_singleton, hwritten, List.append_nil]
    exact h.lines

/-- A record that has arrived makes its lines due after those before it. -/
theorem linesDue_append_singleton (S : DatabaseSettings) (records : List Incoming) (r : Incoming) :
    linesDue S (records ++ [r]) = linesDue S records ++ validLines S r := by
  simp [linesDue]

/-- More records make no line due before those of the first. -/
theorem linesDue_prefix_append (records : List Incoming) (r : Incoming) :
    linesDue S records <+: linesDue S (records ++ [r]) := by
  rw [linesDue_append_singleton]
  exact List.prefix_append _ _

/-- **A round keeps the books right,** or ends the run. -/
theorem ensures_round {lastFlush : Nat} (h : Stands S w s (.going lastFlush)) :
    ((d.round lastFlush).serve Sink.answer s).Ensures world (fun _ => True) w
      (fun w' x => Stands S w' x.2 x.1) := by
  refine ensures_quiet (fun _ => rfl) ?_
  intro stop w₁ hw₁
  have h₁ : Books S (arrived w) (linesDue S (arrived w)) w₁ s := books_of_sameBooks hw₁ h
  cases stop with
  | true => exact ensures_finish h₁
  | false =>
      refine ensures_serve_bind.2 (ensures_serve_inr.2 ?_)
      rintro arrival w₂ ⟨-, rfl⟩
      refine ⟨trivial, ?_⟩
      cases arrival with
      | ended => exact ensures_finish (books_of_arrival h₁ (List.append_nil _))
      | failed e =>
          exact ensures_fail (books_of_arrival h₁ (List.append_nil _)) (List.prefix_refl _) "stream" e
      | overdue => exact ensures_flushIfDue (books_of_arrival h₁ (List.append_nil _)) lastFlush
      | record r =>
          have h₂ : Books S (arrived w ++ [r]) _
              (_ ++ [⟨.inr (.next (lastFlush + d.flushInterval)), .record r⟩]) s :=
            books_of_arrival h₁ rfl
          refine ensures_quiet (fun _ => rfl) ?_
          intro _ w₃ hw₃
          have h₃ := books_of_sameBooks hw₃ h₂
          rw [ensures_serve_bind]
          refine (ensures_processed h₃ r).mono ?_
          rintro w₄ ⟨e | _, s₄⟩ ⟨hok, herror⟩
          · -- The lines of the record are lost with the run.
            exact ensures_fail (herror e rfl) (linesDue_prefix_append _ _) "process" e
          · have h₄ : Books S (arrived w ++ [r]) (linesDue S (arrived w ++ [r])) w₄ s₄ := by
              rw [linesDue_append_singleton]
              exact hok rfl
            refine ensures_quiet (fun _ => rfl) ?_
            intro _ w₅ hw₅
            exact ensures_flushIfDue (books_of_sameBooks hw₅ h₄) lastFlush

/-- **A run of rounds** keeps the books right until it is over. -/
theorem ensures_rounds (n : Nat) {p : Progress} (h : Stands S w s p) :
    ((d.rounds n p).serve Sink.answer s).Ensures world (fun _ => True) w
      (fun w' x => Stands S w' x.2 x.1) := by
  induction n generalizing w s p with
  | zero => exact ensures_done.2 h
  | succ n ih =>
      rcases p with lastFlush | result
      · unfold rounds
        rw [ensures_serve_bind]
        refine (ensures_round h).mono ?_
        intro w' x hx
        exact ih hx
      · exact ensures_done.2 h

/-- **The beginning** opens the books. A run that cannot begin has written nothing. -/
theorem ensures_start (h : Books S [] (linesDue S []) w s) :
    (d.start.serve Sink.answer s).Ensures world (fun _ => True) w
      (fun w' x => Stands S w' x.2 x.1) := by
  refine ensures_quiet (fun _ => rfl) ?_
  intro _ w₁ hw₁
  rw [ensures_serve_bind]
  refine (ensures_call (c := .prepare d.settings) (s := s)
    (ensures_prepare (books_of_sameBooks hw₁ h) d.settings)).mono ?_
  rintro w₂ ⟨e | _, s₂⟩ hbooks
  · have hnothing : written w₂ = [] := List.prefix_nil.1 hbooks.written_prefix
    refine ensures_done.2 ⟨?_, by simp⟩
    rw [hnothing]
    exact List.nil_prefix
  · refine ensures_quiet (fun _ => rfl) ?_
    intro time w₃ hw₃
    exact ensures_done.2 (Books.stands (books_of_sameBooks hw₃ hbooks) time)

/-- **A whole run** keeps the books right. -/
theorem ensures_runInto (d : Delivery) (n : Nat) (h : Books S [] (linesDue S []) w s) :
    (d.runInto s n).Ensures world (fun _ => True) w (fun w' x => Stands S w' x.2 x.1) := by
  unfold runInto run
  rw [ensures_serve_bind]
  refine (ensures_start h).mono ?_
  intro w x hx
  exact ensures_rounds n hx

/-! ## Answers that are given in advance -/

/-- Whether a run is over and has succeeded. -/
def Progress.succeeded : Progress → Bool
  | .over (.ok ()) => true
  | _ => false

/-- A run has succeeded when its result is a success. -/
theorem Progress.succeeded_iff {p : Progress} : p.succeeded = true ↔ p = .over (.ok ()) := by
  constructor
  · intro h
    rcases p with lastFlush | e | _
    · cases h
    · cases h
    · rfl
  · rintro rfl
    rfl

/-- **Answers that are given in advance.** What is not given is answered as when all is well: sessions
open, statements succeed, and the stream ends. -/
structure Script where
  records : List Incoming
  connects : List (Outcome Unit) := []
  probes : List (Outcome QueryResult) := []
  writes : List (Outcome Unit) := []

/-- The first of some answers, if one is left, and the others. -/
def Script.take {α : Type} (otherwise : α) : List α → α × List α
  | [] => (otherwise, [])
  | a :: rest => (a, rest)

/-- **Answer as a script says.** -/
def Script.answer (s : Script) :
    (q : (Link.sum Intake).Request) → (Link.sum Intake).Answer q × Script
  | .inl (.database (.connect ..)) =>
      let (r, connects) := take (.ok ()) s.connects
      (r, { s with connects })
  | .inl (.database (.query ..)) =>
      let (r, probes) := take (.ok ⟨[], []⟩) s.probes
      (r, { s with probes })
  | .inl (.database (.write ..)) =>
      let (r, writes) := take (.ok ()) s.writes
      (r, { s with writes })
  | .inl (.database (.execute ..)) => (.ok false, s)
  | .inl (.database (.select ..)) => (.ok (), s)
  | .inl (.database (.close _)) => (.ok (), s)
  | .inl (.pause _) => ((), s)
  | .inl (.note _) => ((), s)
  | .inl .now => (⟨0, 0⟩, s)
  | .inr (.next _) =>
      match s.records with
      | [] => (.ended, s)
      | r :: records => (.record r, { s with records })
  | .inr .stopping => (false, s)
  | .inr .clock => ((0 : Nat), s)
  | .inr (.pause _) => ((), s)
  | .inr (.draw _ _) => ((0 : Fin _), s)
  | .inr (.note _) => ((), s)

/-- A delivery of batches of one line. -/
def single : Delivery := ⟨{ name := "c", batchSize := 1 }⟩

/-- A database that takes telnet lines. -/
def telnetSettings : DatabaseSettings := { url := "taos://h/d", protocol := .telnet }

/-- The course that a delivery of single lines takes by a script, and its result. -/
def Script.course (s : Script) (n : Nat) :
    List (Exchange (Link.sum Intake)) × (Progress × Sink) :=
  (single.runInto { settings := telnetSettings } n).courseWith Script.answer s

/-- A course by a script is one that the delivery can take. -/
theorem Script.runs_of_succeeded {s : Script} {n : Nat} (h : (s.course n).2.1.succeeded = true) :
    Runs (single.runInto { settings := telnetSettings } n) (s.course n).1
      (.over (.ok ()), (s.course n).2.2) := by
  have hruns := runs_courseWith Script.answer (single.runInto { settings := telnetSettings } n) s
  rw [← Progress.succeeded_iff.1 h]
  exact hruns

/-- A record of a text. -/
def textRecord (offset : Nat) (text : String) : Incoming :=
  { topic := "t", offset, payload := Text.Utf8.ofString text }

/-! ## What a run writes -/

/-- **What is written is what was due.** When a run is over, the lines that were written are the first
of the lines of the valid records that arrived, in their order, and after a success all of them, as
long as no failure to open a session passes for the failure of a record. -/
theorem written_of_runInto (d : Delivery) (S : DatabaseSettings) (n : Nat)
    {t : List (Exchange (Link.sum Intake))} {result : Outcome Unit} {s : Sink}
    (hrun : Runs (d.runInto { settings := S } n) t (.over result, s))
    (honest : ∀ e ∈ t, e.Honest) :
    written t <+: linesDue S (arrived t) ∧
      (result = .ok () → written t = linesDue S (arrived t)) := by
  have hbooks : Books S [] (linesDue S []) [] { settings := S } := ⟨rfl, rfl, rfl⟩
  have hfollows : world.Follows [] t t := Behaviour.follows_recording [] honest
  exact (ensures_runInto d n hbooks).of_runs hrun hfollows

/-- Two good records with a bad one between them, and a write that fails at first. -/
def bumpy : Script where
  records := [textRecord 0 "a 1 2 k=v", textRecord 1 "a", textRecord 2 "b 1 2 k=v"]
  writes := [.error (.retryable "busy" none)]

/-- A bad record and a failed write on the way: both good records are written, once each. -/
theorem written_bumpy :
    written (bumpy.course 5).1 = linesDue telnetSettings (arrived (bumpy.course 5).1) ∧
      written (bumpy.course 5).1 = ["a 1 2 k=v", "b 1 2 k=v"] :=
  ⟨(written_of_runInto single telnetSettings 5 (Script.runs_of_succeeded (by decide +kernel))
    (by decide +kernel)).2 rfl, by decide +kernel⟩

/-- Two good records, and a session that is lost between them and cannot be opened anew, for a reason
that passes for the fault of a record. -/
def misattributed : Script where
  records := [textRecord 0 "a 1 2 k=v", textRecord 1 "b 1 2 k=v"]
  connects := [.ok (), .error (.invalidData "no" [])]
  probes := [.error (.retryable "gone" none)]

/-- **A failure to open a session may cost a record.** When it passes for the fault of the record that
was to be taken, the record is skipped, and the run succeeds without it. -/
theorem written_misattributed :
    single.settings.check.toBool ∧ telnetSettings.check.toBool ∧
      Runs (single.runInto { settings := telnetSettings } 5) (misattributed.course 5).1
        (.over (.ok ()), (misattributed.course 5).2.2) ∧
      written (misattributed.course 5).1 ≠
        linesDue telnetSettings (arrived (misattributed.course 5).1) := by
  exact ⟨by decide +kernel, by decide +kernel, Script.runs_of_succeeded (by decide +kernel),
    by decide +kernel⟩

end Delivery

end SeriesBridge
