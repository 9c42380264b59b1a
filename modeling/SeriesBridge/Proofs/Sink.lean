import SeriesBridge.Pipeline.Assembly
import SeriesBridge.Proofs.Database.Session
import SeriesBridge.Proofs.Dialogue.Recording

/-! # The books of a sink

Every line that a sink takes is written in the end or waits. The **books** of a sink say so: the lines
that were written, with those that wait after them, are the lines that are due.

* **`Delivery.written t`**, **`Delivery.arrived t`** — the lines that were written and the records
  that arrived in a course.
* **`Sink.Books`** — the books of a sink are right.
* **`Sink.ensures_flush`**, **`Sink.ensures_process`** — they stay right, whatever fails. -/

namespace SeriesBridge

open Dialogue

/-! ## What a course tells -/

/-- The lines that an exchange wrote; a write that fails stores none. -/
def Exchange.written : Exchange (Link.sum Intake) → List String
  | ⟨.inl (.database (.write _ lines _ _)), .ok ()⟩ => lines
  | _ => []

/-- The record that arrived in an exchange. -/
def Exchange.arrived? : Exchange (Link.sum Intake) → Option Incoming
  | ⟨.inr (.next _), .record r⟩ => some r
  | _ => none

/-- The failure to open a session, if the exchange is one. -/
def Exchange.refusal? : Exchange (Link.sum Intake) → Option Error
  | ⟨.inl (.database (.connect ..)), .error e⟩ => some e
  | _ => none

/-- **A failure to open a session does not pass for that of a record.** -/
def Exchange.Honest (e : Exchange (Link.sum Intake)) : Prop :=
  ∀ failure, e.refusal? = some failure → failure.isInvalidData = false

/-- Honesty is decided by looking. -/
instance : DecidablePred Exchange.Honest := fun e =>
  decidable_of_iff (e.refusal?.all (fun failure => !failure.isInvalidData) = true) (by
    cases h : e.refusal? <;> simp [Exchange.Honest, h])

namespace Delivery

/-- **The lines that were written** in a course, in the order of the writes. -/
def written (t : List (Exchange (Link.sum Intake))) : List String := t.flatMap Exchange.written

/-- **The records that arrived** in a course. -/
def arrived (t : List (Exchange (Link.sum Intake))) : List Incoming :=
  t.filterMap Exchange.arrived?

/-- One exchange more adds what it wrote. -/
@[simp] theorem written_append_singleton (t : List (Exchange (Link.sum Intake)))
    (e : Exchange (Link.sum Intake)) : written (t ++ [e]) = written t ++ e.written := by
  simp [written]

/-- One exchange more adds the record that arrived in it. -/
@[simp] theorem arrived_append_singleton (t : List (Exchange (Link.sum Intake)))
    (e : Exchange (Link.sum Intake)) : arrived (t ++ [e]) = arrived t ++ e.arrived?.toList := by
  unfold arrived
  rw [List.filterMap_append]
  cases h : e.arrived? <;> simp [h]

/-- **The world of a delivery:** it remembers its course, and its failures are honest. -/
def world : Behaviour (Link.sum Intake) (List (Exchange (Link.sum Intake))) :=
  .recording Exchange.Honest

/-- Two courses that tell the same of lines and records. -/
def SameBooks (w w' : List (Exchange (Link.sum Intake))) : Prop :=
  written w' = written w ∧ arrived w' = arrived w

/-- A call that keeps a session ready leaves the books as they are. -/
theorem sameBooks_of_keepsSession {w w' : List (Exchange (Link.sum Intake))} {q : LinkCall}
    {r : q.Answer} (hq : q.keepsSession) (h : world.left w q r w') : SameBooks w w' := by
  obtain ⟨-, rfl⟩ := h
  have hwritten : Exchange.written ⟨.inl q, r⟩ = [] := by
    cases q with
    | database call =>
        cases call with
        | write session lines protocol precision => exact absurd hq (by simp [LinkCall.keepsSession])
        | _ => rfl
    | _ => rfl
  have harrived : Exchange.arrived? ⟨.inl q, r⟩ = none := rfl
  constructor
  · rw [written_append_singleton, hwritten, List.append_nil]
  · rw [arrived_append_singleton, harrived, Option.toList_none, List.append_nil]

/-- **Keeping a session ready leaves the books as they are,** and fails honestly. -/
theorem steady_world : Steady world.left (fun _ => True) SameBooks
    (fun e => e.isInvalidData = false) where
  refl _ := ⟨rfl, rfl⟩
  trans h₁ h₂ := ⟨h₂.1.trans h₁.1, h₂.2.trans h₁.2⟩
  step hq _ h := ⟨trivial, sameBooks_of_keepsSession hq h⟩
  connect := by
    intro w w' session endpoint credentials e h
    exact ⟨h.1 e rfl, fun _ => rfl⟩
  execute _ _ := rfl
  select _ _ := rfl

end Delivery

/-! ## The books -/

namespace Sink

open Delivery

/-- **The lines of a valid record;** one that is refused has none. -/
def validLines (S : DatabaseSettings) (r : Incoming) : List String :=
  match recordLines S r with
  | .ok lines => lines
  | .error _ => []

/-- **The books of a sink:** the records are those that arrived, and the lines that are due were
written or wait. -/
structure Books (S : DatabaseSettings) (records : List Incoming) (due : List String)
    (w : List (Exchange (Link.sum Intake))) (s : Sink) : Prop where
  settings : s.settings = S
  arrived : arrived w = records
  lines : written w ++ s.buffer = due

variable {S : DatabaseSettings} {records : List Incoming} {due : List String}
  {w w' : List (Exchange (Link.sum Intake))} {s : Sink}

/-- The books of a sink do not depend on its session. -/
theorem Books.withCache (h : Books S records due w s) (hw : SameBooks w w') (cache : Option Cache) :
    Books S records due w' { s with cache } :=
  ⟨h.settings, hw.2.trans h.arrived, by rw [hw.1]; exact h.lines⟩

/-- What was written begins what is due. -/
theorem Books.written_prefix (h : Books S records due w s) : written w <+: due :=
  ⟨s.buffer, h.lines⟩

/-- **Flushing keeps the books right.** Lines are written all together or wait on, and after a
success none wait. -/
theorem ensures_flush (h : Books S records due w s) :
    s.flush.Ensures world.left (fun _ => True) w (fun w' x =>
      Books S records due w' x.2 ∧ FailsWith (fun e => e.isInvalidData = false) x.1 ∧
        (x.1 = .ok () → x.2.buffer = [])) := by
  unfold flush
  by_cases hempty : s.buffer.isEmpty
  · rw [if_pos hempty]
    exact ensures_done.2 ⟨h, failsWith_ok, fun _ => List.isEmpty_iff.1 hempty⟩
  · rw [if_neg hempty]
    cases hcache : s.cache with
    | none => exact ensures_done.2 ⟨h, failsWith_error.2 rfl, by simp⟩
    | some cache =>
        obtain ⟨first, rest, hbuffer⟩ := List.exists_cons_of_ne_nil (mt List.isEmpty_iff.2 hempty)
        refine Ensures.bind (m := fun w' x =>
          FailsWith (fun e => e.isInvalidData = false) x.1 ∧ arrived w' = arrived w ∧
            written w' = written w ++ (match x.1 with | .ok _ => s.buffer | .error _ => [])) ?_ ?_
        · rw [hbuffer]
          refine steady_world.ensures_use cache _ _ trivial ?_ ?_
          · intro w' c' e _ hw he
            exact ⟨failsWith_error.2 he, hw.2, by rw [hw.1, List.append_nil]⟩
          · -- The write itself: its answer alone says whether the lines were stored.
            intro w' c' session _ hw
            refine ensures_ask.2 ?_
            rintro (e | _) w'' ⟨-, rfl⟩
            · refine ⟨trivial, failsWith_error.2 rfl, ?_, ?_⟩
              · rw [arrived_append_singleton]
                exact (List.append_nil _).trans hw.2
              · rw [written_append_singleton, hw.1]
                rfl
            · refine ⟨trivial, failsWith_ok, ?_, ?_⟩
              · rw [arrived_append_singleton]
                exact (List.append_nil _).trans hw.2
              · rw [written_append_singleton, hw.1]
                rfl
        · rintro w' ⟨e | _, cache'⟩ ⟨hfail, harrived, hwritten⟩
          · refine ensures_done.2 ⟨⟨h.settings, harrived.trans h.arrived, ?_⟩, hfail, by simp⟩
            rw [hwritten, List.append_nil]
            exact h.lines
          · refine ensures_done.2 ⟨⟨h.settings, harrived.trans h.arrived, ?_⟩, failsWith_ok, fun _ => rfl⟩
            show written w' ++ [] = due
            rw [hwritten, List.append_nil]
            exact h.lines

/-- **Taking a record keeps the books right.** Its lines are due once it is taken; a record that is
not taken adds none, and has none when it is refused for what it is. -/
theorem ensures_process (h : Books S records due w s) (r : Incoming) :
    (s.process r).Ensures world.left (fun _ => True) w (fun w' x =>
      (x.1 = .ok () → Books S records (due ++ validLines S r) w' x.2) ∧
      (∀ e, x.1 = .error e → Books S records due w' x.2 ∧
        (e.isInvalidData → validLines S r = []))) := by
  unfold process
  refine Ensures.bind (m := fun w' x => Books S records due w' x.2 ∧
    FailsWith (fun e => e.isInvalidData = false) x.1) ?_ ?_
  · unfold flushFull
    by_cases hfull : s.batchSize ≤ s.buffer.length
    · rw [if_pos hfull]
      exact (ensures_flush h).mono (fun _ _ hx => ⟨hx.1, hx.2.1⟩)
    · rw [if_neg hfull]
      exact ensures_done.2 ⟨h, failsWith_ok⟩
  · rintro w' ⟨e | _, s'⟩ ⟨hbooks, hfail⟩
    · refine ensures_done.2 ⟨by simp, ?_⟩
      rintro e' he
      cases he
      exact ⟨hbooks, fun hinvalid => absurd hinvalid (by rw [failsWith_error.1 hfail]; simp)⟩
    · have hS : recordLines s'.settings r = recordLines S r := by rw [hbooks.settings]
      cases hlines : recordLines S r with
      | error e =>
          simp only [hS, hlines]
          refine ensures_done.2 ⟨by simp, ?_⟩
          intro e' _
          exact ⟨hbooks, fun _ => by simp [validLines, hlines]⟩
      | ok lines =>
          simp only [hS, hlines]
          refine ensures_done.2 ⟨fun _ => ⟨hbooks.settings, hbooks.arrived, ?_⟩, by simp⟩
          rw [← hbooks.lines, validLines, hlines, List.append_assoc]

/-- **Preparing** opens the books: nothing is written and nothing waits. -/
theorem ensures_prepare (h : Books S records due w s) (pipeline : PipelineSettings) :
    (s.prepare pipeline).Ensures world.left (fun _ => True) w (fun w' x =>
      Books S records due w' x.2) := by
  unfold prepare
  cases s.settings.check with
  | error e => exact ensures_done.2 h
  | ok _ =>
      have hbatch : Books S records due w { s with batchSize := max pipeline.batchSize 1 } :=
        ⟨h.settings, h.arrived, h.lines⟩
      dsimp only
      cases s.settings.endpoint with
      | error e => exact ensures_done.2 hbatch
      | ok endpoint =>
          cases s.settings.policy with
          | error e => exact ensures_done.2 hbatch
          | ok policy =>
              dsimp only
              cases s.settings.target? with
              | none => exact ensures_done.2 hbatch
              | some name =>
                  refine (steady_world.ensures_setDatabase _ name trivial).bind ?_
                  rintro w' ⟨e | _, cache⟩ ⟨-, hw⟩
                  · exact ensures_done.2 (hbatch.withCache hw s.cache)
                  · exact ensures_done.2 (hbatch.withCache hw (some cache))

/-- **Stopping** writes nothing more. -/
theorem ensures_shutdown (s : Sink) (w : List (Exchange (Link.sum Intake))) :
    s.shutdown.Ensures world.left (fun _ => True) w (fun w' _ => SameBooks w w') := by
  unfold shutdown
  cases s.cache with
  | none => exact ensures_done.2 ⟨rfl, rfl⟩
  | some cache =>
      refine (steady_world.ensures_close cache trivial).bind ?_
      rintro w' _ ⟨-, hw⟩
      exact ensures_done.2 hw

end Sink

end SeriesBridge
