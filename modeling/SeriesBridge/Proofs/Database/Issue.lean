import SeriesBridge.Proofs.Database.Acquisition
import SeriesBridge.Proofs.Database.Readiness

/-! # Statements that are issued

A cache issues a statement on a session that was tried or opened for it, and on no other.

* **`Cache.Ready.upkeep`**, **`Cache.Unready.upkeep`** — what is asked before is upkeep alone.
* **`Cache.Issues c sql statement u r c'`** — a course with one statement behind it, or none.
* **`Cache.runs_execute_query_write_iff`** — running a statement and writing lines take these courses. -/

namespace SeriesBridge

open Dialogue

namespace Cache

variable {c c' : Cache} {u v : List (Exchange Link)} {session : Nat} {e : Error}

/-- A course after which a session is fit for use is upkeep alone. -/
theorem Ready.upkeep (h : Ready c u session c') : ∀ x ∈ u, c.Upkeep x.request :=
  c.asks_validated.of_reaches (runs_validated_ok_iff.2 h).reaches

/-- A course after which there is none is upkeep alone. -/
theorem Unready.upkeep (h : Unready c u e c') : ∀ x ∈ u, c.Upkeep x.request :=
  c.asks_validated.of_reaches (runs_validated_error_iff.2 h).reaches

/-- **No session is fit for use on the way** to having none. -/
theorem Unready.not_ready {c'' : Cache} (h : Unready c u e c') (hready : Ready c v session c'') :
    ¬ v <+: u := by
  rintro ⟨s, hs⟩
  have hu := runs_validated_error_iff.2 h
  have hv := runs_validated_ok_iff.2 hready
  -- The two courses are one, and end in two ways.
  obtain ⟨-, -, hresult⟩ := hv.append_inj hu (hs.trans (List.append_nil u).symm)
  cases hresult

/-! ## Calls -/

/-- **A call on a cache:** the statement that stands for it is issued once, at the end, on a session that is
fit for use, and what comes of it comes out; or it is not issued, since there is no such session. -/
inductive Issues (c : Cache) (sql : String) {α : Type} (statement : Nat → Outcome α → Exchange Link) :
    List (Exchange Link) → Outcome α → Cache → Prop where
  | none {u : List (Exchange Link)} {e : Error} {c' : Cache} (unready : Unready c u e c') :
      Issues c sql statement u (.error e) c'
  | once {v : List (Exchange Link)} {session : Nat} {c' : Cache} (ready : Ready c v session c')
      (answer : Outcome α) :
      Issues c sql statement (v ++ [statement session answer]) (answer.mapError (.statement sql)) c'

/-- A call on a session that is one exchange is issued. -/
theorem runs_use_iff {α : Type} {sql : String} {call : Nat → Dialogue Link (Outcome α)}
    {statement : Nat → Outcome α → Exchange Link} {result : Outcome α}
    (hcall : ∀ session s answer, Runs (call session) s answer ↔ s = [statement session answer]) :
    Runs (c.use sql call) u (result, c') ↔ Issues c sql statement u result c' := by
  constructor
  · intro h
    obtain ⟨e, hvalidated, hresult⟩ | ⟨v, w, session, answer, rfl, hvalidated, hw, hresult⟩ := use_cases h
    · obtain rfl : result = .error e := hresult
      exact .none (runs_validated_error_iff.1 hvalidated)
    · obtain rfl : result = answer.mapError (.statement sql) := hresult
      rw [(hcall session w answer).1 hw]
      exact .once (runs_validated_ok_iff.1 hvalidated) answer
  · rintro (unready | ⟨ready, answer⟩)
    · exact runs_bind_iff.2 ⟨u, [], _, (List.append_nil u).symm, runs_validated_error_iff.2 unready, .done _⟩
    · refine runs_bind_iff.2 ⟨_, _, _, rfl, runs_validated_ok_iff.2 ready, ?_⟩
      refine runs_bind_iff.2 ⟨_, [], answer, (List.append_nil _).symm, (hcall _ _ answer).2 rfl, ?_⟩
      rcases answer with e | a <;> exact .done _

/-- **A statement is issued at most once, and on a session that is fit for use.** Running a statement, and
writing lines, issues it exactly once if a session is fit for use, and not at all otherwise; all that is
asked before is upkeep. What comes out is what came of the statement, with an error told as that of the
statement, or else the error with which no session could be opened or set up. -/
theorem runs_execute_query_write_iff (c : Cache) :
    (∀ sql u result c', Runs (c.execute sql) u (result, c') ↔
      Issues c sql (fun session answer => ⟨.database (.execute session sql), answer⟩) u result c') ∧
    (∀ sql u result c', Runs (c.query sql) u (result, c') ↔
      Issues c sql (fun session answer => ⟨.database (.query session sql), answer⟩) u result c') ∧
    (∀ first rest protocol precision u result c',
      Runs (c.write (first :: rest) protocol precision) u (result, c') ↔
      Issues c (writing first (rest.length + 1))
        (fun session answer => ⟨.database (.write session (first :: rest) protocol precision), answer⟩)
        u result c') ∧
    (∀ v session c', Ready c v session c' → ∀ x ∈ v, c.Upkeep x.request) ∧
    ∀ u e c', Unready c u e c' → (∀ x ∈ u, c.Upkeep x.request) ∧
      ∀ v session c'', Ready c v session c'' → ¬ v <+: u := by
  refine ⟨?_, ?_, ?_, fun v session c' => Ready.upkeep, ?_⟩
  · intro sql u result c'
    exact runs_use_iff fun _ _ _ => runs_ask_iff
  · intro sql u result c'
    exact runs_use_iff fun _ _ _ => runs_ask_iff
  · intro first rest protocol precision u result c'
    exact runs_use_iff fun _ _ _ => runs_ask_iff
  · intro u e c' h
    exact ⟨h.upkeep, fun v session c'' => h.not_ready⟩

end Cache

end SeriesBridge
