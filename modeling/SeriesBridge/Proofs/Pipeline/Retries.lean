import SeriesBridge.Pipeline.Delivery
import SeriesBridge.Proofs.Dialogue.Again

/-! # Calls on a sink that are tried again

A record is given to the sink, and again while it fails in a way that may pass; so is a flush. This file
says, for any sink, how often that happens, how long is waited in between and what comes of it.

* **`Exchange.called? e`** — what the sink answered.
* **`Delivery.Waited d retry u`** — a course that waits for the retry with a given number.
* **`Delivery.callWithRetries_eq`** — calling the sink with retries is a call that is made again.
* **`Delivery.settled`**, **`Delivery.noted`** — what becomes of the last answer for a record, and the
  readings that are taken then.
* **`Delivery.runs_process_flush_iff`** — the courses of a record and of a flush, for every sequence of
  answers of the sink. -/

namespace SeriesBridge

open Dialogue Exchange

/-- What the sink answered, if it was called. -/
def Exchange.called? : Exchange DeliveryHost → Option (Outcome Unit)
  | ⟨.inl _, r⟩ => some r
  | ⟨.inr _, _⟩ => none

namespace Delivery

variable {d : Delivery} {c : SinkCall} {u t : List (Exchange DeliveryHost)} {outcomes : ℕ → Outcome Unit}

/-- A call on the sink, with what it answered. -/
def answered (c : SinkCall) (r : Outcome Unit) : Exchange DeliveryHost := ⟨.inl c, r⟩

/-- A reading, as an exchange. -/
def noting (d : Delivery) (o : Observation) : Exchange DeliveryHost :=
  ⟨.inr (.note ⟨⟨d.settings.name, "sink"⟩, o⟩), ()⟩

/-- A pause, as an exchange. -/
def pausing (millis : ℕ) : Exchange DeliveryHost := ⟨.inr (.pause millis), ()⟩

/-- **A course that waits for a retry:** the retry is noted, its jitter is drawn, and the pause is the wait
before the retry with that number for that draw. -/
def Waited (d : Delivery) (retry : ℕ) (u : List (Exchange DeliveryHost)) : Prop :=
  let b := d.settings.backoff
  ∃ (draw : Fin (min (b.draws retry) (b.room retry) + 1)) (wait : ℕ), b.wait? retry draw = some wait ∧
    u = [d.noting .retried, ⟨.inr (.draw (b.draws retry) (b.room retry)), draw⟩, pausing wait]

/-- Backing off before a retry is to wait for it. -/
theorem runs_backOff_iff {retry : ℕ} : Runs (d.backOff retry) u () ↔ d.Waited retry u := by
  constructor
  · intro h
    obtain ⟨_, u₁, rfl, h₁⟩ := runs_more_iff.1 h
    obtain ⟨draw, u₂, rfl, h₂⟩ := runs_more_iff.1 h₁
    exact ⟨draw, _, (Option.some_get _).symm, by rw [runs_ask_iff.1 h₂]; rfl⟩
  · rintro ⟨draw, wait, hwait, rfl⟩
    refine runs_more_iff.2 ⟨(), _, rfl, runs_more_iff.2 ⟨draw, _, rfl, runs_ask_iff.2 ?_⟩⟩
    exact congrArg (fun millis => [pausing millis]) (Option.get_of_eq_some _ hwait).symm

/-- The sink is not called in a wait. -/
theorem Waited.called?_eq_none {retry : ℕ} (h : d.Waited retry u) : ∀ e ∈ u, called? e = none := by
  obtain ⟨draw, wait, -, rfl⟩ := h
  simp only [List.forall_mem_cons]
  exact ⟨rfl, rfl, rfl, List.forall_mem_nil _⟩

/-- **Calling the sink with retries** is a call that is made again. -/
theorem callWithRetries_eq (d : Delivery) (c : SinkCall) (made left : ℕ) :
    d.callWithRetries c made left = again (call c) d.backOff made left := by
  induction left generalizing made with
  | zero => rfl
  | succ left ih =>
      refine congrArg (call c >>= ·) (funext fun r => ?_)
      rcases r with e | _
      · dsimp only
        rw [ih]
        rfl
      · rfl

/-- **The courses of calling the sink with retries.** -/
theorem runs_callWithRetries_iff (c : SinkCall) (left : ℕ) {r : Outcome Unit} :
    Runs (d.callWithRetries c 0 left) t r ∧ Answers called? outcomes t ↔
      ∃ waits : ℕ → List (Exchange DeliveryHost),
        (∀ i < repetitions outcomes left, d.Waited (i + 1) (waits i)) ∧
        t = repeated (fun i => answered c (outcomes i)) waits (repetitions outcomes left) ∧
        r = outcomes (repetitions outcomes left) := by
  have hcall : ∀ {u : List (Exchange DeliveryHost)} {r : Outcome Unit},
      Runs (call c) u r ↔ u = [answered c r] := runs_ask_iff
  rw [callWithRetries_eq, runs_again_iff outcomes hcall (fun _ => rfl)
    (fun h => (runs_backOff_iff.1 h).called?_eq_none)]
  simp only [runs_backOff_iff, Nat.zero_add]

/-! ## Records -/

/-- **What becomes of the last answer for a record:** a record that cannot be read is no failure. -/
def settled : Outcome Unit → Outcome Unit
  | .ok () => .ok ()
  | .error e => if e.isInvalidData then .ok () else .error e

/-- The readings that are taken after the last answer for a record. -/
def noted (d : Delivery) : Outcome Unit → List (Exchange DeliveryHost)
  | .ok () => [d.noting .timed]
  | .error e => if e.isInvalidData then [d.noting .skipped] else []

/-- The sink is not called for a reading. -/
theorem called?_of_mem_noted (r : Outcome Unit) : ∀ e ∈ d.noted r, called? e = none := by
  intro e he
  rcases r with e' | _
  · unfold noted at he
    dsimp only at he
    split_ifs at he
    · rw [List.mem_singleton.1 he]
      rfl
    · cases he
  · rw [List.mem_singleton.1 he]
    rfl

/-- What is done with the last answer for a record. -/
def settle (d : Delivery) : Outcome Unit → Dialogue DeliveryHost (Outcome Unit)
  | .ok () => do
      note d.settings .timed
      return .ok ()
  | .error e =>
      if e.isInvalidData then do
        note d.settings .skipped
        return .ok ()
      else return .error e

/-- A reading at the end of a course. -/
theorem runs_note_done_iff {o : Observation} {last result : Outcome Unit} :
    Runs (note d.settings o >>= fun _ => .done last) t result ↔ t = [d.noting o] ∧ result = last := by
  rw [runs_bind_done_iff]
  constructor
  · rintro ⟨_, ht, rfl⟩
    exact ⟨runs_ask_iff.1 ht, rfl⟩
  · rintro ⟨rfl, rfl⟩
    exact ⟨(), runs_ask_iff.2 rfl, rfl⟩

/-- The last answer for a record is followed by readings, and comes out as what becomes of it. -/
theorem runs_settle_iff {last result : Outcome Unit} :
    Runs (d.settle last) t result ↔ t = d.noted last ∧ result = settled last := by
  rcases last with e | _
  · by_cases he : e.isInvalidData
    · simp only [settle, noted, settled, if_pos he]
      exact runs_note_done_iff
    · simp only [settle, noted, settled, if_neg he, pure_eq_done, runs_done_iff]
      exact and_congr_right' eq_comm
  · exact runs_note_done_iff

/-- Processing a record is to call the sink with retries, and to take readings after the last answer. -/
theorem runs_process_iff {r : Incoming} {result : Outcome Unit} :
    Runs (d.process r) t result ↔ ∃ s last,
      Runs (d.callWithRetries (.process r) 0 d.settings.backoff.maxRetries) s last ∧
      t = s ++ d.noted last ∧ result = settled last := by
  have hprocess : d.process r =
      d.callWithRetries (.process r) 0 d.settings.backoff.maxRetries >>= d.settle := rfl
  simp only [hprocess, runs_bind_iff, runs_settle_iff]
  constructor
  · rintro ⟨s, _, last, rfl, hs, rfl, rfl⟩
    exact ⟨s, last, hs, rfl, rfl⟩
  · rintro ⟨s, last, hs, rfl, rfl⟩
    exact ⟨s, _, last, rfl, hs, rfl, rfl⟩

/-- **How often and for how long.** Let the answers of the sink come from a sequence. A record is given to
it, and a flush asked of it, once and then once more for every failure that may pass at the beginning of the
sequence, as long as retries are left, always in the same way, and after the wait before the retry with that
number, counted from one. The last answer comes out as it is, but for a record that cannot be read, which
is no failure; and such a record is not tried again. -/
theorem runs_process_flush_iff (d : Delivery) (outcomes : ℕ → Outcome Unit) :
    ∃ n : ℕ, (n : ℕ∞) = min (leading outcomes) d.settings.backoff.maxRetries ∧
      (∀ i < n, ∃ e, outcomes i = .error e ∧ e.isRetryable = true ∧ e.isInvalidData = false) ∧
      (∀ r t result, Runs (d.process r) t result ∧ Answers called? outcomes t ↔
        ∃ waits : ℕ → List (Exchange DeliveryHost), (∀ i < n, d.Waited (i + 1) (waits i)) ∧
          t = repeated (fun i => answered (.process r) (outcomes i)) waits n ++ d.noted (outcomes n) ∧
          result = settled (outcomes n)) ∧
      ∀ t result, Runs d.flush t result ∧ Answers called? outcomes t ↔
        ∃ waits : ℕ → List (Exchange DeliveryHost), (∀ i < n, d.Waited (i + 1) (waits i)) ∧
          t = repeated (fun i => answered .flush (outcomes i)) waits n ∧ result = outcomes n := by
  refine ⟨repetitions outcomes d.settings.backoff.maxRetries, natCast_repetitions _ _, ?_, ?_,
    fun t result => runs_callWithRetries_iff .flush _⟩
  · intro i hi
    obtain ⟨e, he, hretryable⟩ := mayPass_iff.1 (mayPass_of_lt_repetitions hi)
    refine ⟨e, he, hretryable, Bool.eq_false_of_not_eq_true fun hinvalid => ?_⟩
    rw [Error.not_isRetryable_of_isInvalidData hinvalid] at hretryable
    cases hretryable
  · intro r t result
    rw [runs_process_iff]
    constructor
    · rintro ⟨⟨s, last, hs, rfl, rfl⟩, hanswers⟩
      rw [answers_append_right (called?_of_mem_noted last)] at hanswers
      obtain ⟨waits, hwaits, rfl, rfl⟩ := (runs_callWithRetries_iff _ _).1 ⟨hs, hanswers⟩
      exact ⟨waits, hwaits, rfl, rfl⟩
    · rintro ⟨waits, hwaits, rfl, rfl⟩
      obtain ⟨hs, hanswers⟩ := (runs_callWithRetries_iff (.process r) _).2 ⟨waits, hwaits, rfl, rfl⟩
      exact ⟨⟨_, _, hs, rfl, rfl⟩, (answers_append_right (called?_of_mem_noted _)).2 hanswers⟩

end Delivery

end SeriesBridge
