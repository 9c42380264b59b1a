import SeriesBridge.Database.Provider
import SeriesBridge.Proofs.Dialogue.Again

/-! # Attempts to open a session

How many attempts it takes to open a session depends on what comes of them: the first that succeeds or
fails for good is the last one, and so is the last one that is allowed.

* **`Exchange.connected? e`** — what came of an attempt.
* **`Provider.attempted p session r`**, **`Provider.rested p`** — an attempt and a wait, as exchanges.
* **`Provider.connect_eq`** — opening a session is a call that is made again.
* **`Provider.runs_connect_iff`** — the course of the attempts and what comes of them, for every sequence
  of outcomes. -/

namespace SeriesBridge

open Dialogue Exchange

/-- What came of an attempt to open a session, if the exchange is one. -/
def Exchange.connected? : Exchange Link → Option (Outcome Unit)
  | ⟨.database (.connect ..), r⟩ => some r
  | _ => none

namespace Provider

/-- An attempt to open a session, with what came of it. -/
def attempted (p : Provider) (session : ℕ) (r : Outcome Unit) : Exchange Link :=
  ⟨.database (.connect session p.endpoint p.credentials), r⟩

/-- The wait between two attempts. -/
def rested (p : Provider) : Exchange Link := ⟨.pause p.policy.wait, ()⟩

/-- What is made of the last outcome of so many attempts: a failure that may pass is given up. -/
def giveUp (attempts : ℕ) (r : Outcome Unit) : Outcome Unit :=
  if mayPass r then r.mapError (.connection attempts) else r

/-- **The attempts from one on** are a call that is made again, and what comes of the last one is told with
its number. -/
theorem connectFrom_eq (p : Provider) (session attempt made left : ℕ) :
    p.connectFrom session attempt left =
      again (Link.connect session p.endpoint p.credentials) (fun _ => Link.pause p.policy.wait) made left
        >>= fun r => .done (giveUp (attempt + left) r) := by
  induction left generalizing attempt made with
  | zero =>
      refine congrArg (Link.connect session p.endpoint p.credentials >>= ·) (funext fun r => ?_)
      rcases r with e | _
      · by_cases he : e.isRetryable
        · simp [giveUp, he, Except.mapError]
        · simp [giveUp, he]
      · rfl
  | succ left ih =>
      rw [again, bind_bind]
      refine congrArg (Link.connect session p.endpoint p.credentials >>= ·) (funext fun r => ?_)
      rcases r with e | _
      · by_cases he : e.isRetryable
        · have hpass : mayPass (.error e : Outcome Unit) = true := he
          -- The next attempt has the next number, and one less is left after it.
          simp only [if_pos he, if_pos hpass, bind_bind, ih (attempt + 1) (made + 1),
            Nat.add_right_comm attempt 1 left, Nat.add_assoc]
        · simp [giveUp, he]
      · rfl

/-- **Opening a session** is a call that is made again. -/
theorem connect_eq (p : Provider) (session : ℕ) :
    p.connect session =
      again (Link.connect session p.endpoint p.credentials) (fun _ => Link.pause p.policy.wait) 0
        (p.policy.maxAttempts - 1) >>= fun r => .done (giveUp p.policy.maxAttempts r) := by
  have hmost : 1 + (p.policy.maxAttempts - 1) = p.policy.maxAttempts :=
    Nat.add_sub_cancel' p.policy.one_le
  rw [connect, connectFrom_eq p session 1 0, hmost]

/-- An attempt is one exchange. -/
theorem runs_attempt_iff (p : Provider) (session : ℕ) {u : List (Exchange Link)} {r : Outcome Unit} :
    Runs (Link.connect session p.endpoint p.credentials) u r ↔ u = [p.attempted session r] :=
  runs_ask_iff

/-- Nothing is attempted in a wait. -/
theorem connected?_of_rest (p : Provider) {u : List (Exchange Link)}
    (h : Runs (Link.pause p.policy.wait) u ()) : ∀ e ∈ u, connected? e = none := by
  rw [runs_ask_iff.1 h]
  exact List.forall_mem_singleton.2 rfl

/-- What is made of the last outcome: it is given up if no attempt was left for it. -/
theorem giveUp_repetitions (attempts left : ℕ) (outcomes : ℕ → Outcome Unit) :
    giveUp attempts (outcomes (repetitions outcomes left)) =
      if leading outcomes + 1 ≤ (left + 1 : ℕ) then outcomes (repetitions outcomes left)
      else (outcomes (repetitions outcomes left)).mapError (.connection attempts) := by
  have hleft : leading outcomes + 1 ≤ (left + 1 : ℕ) ↔
      ¬ mayPass (outcomes (repetitions outcomes left)) = true := by
    rw [mayPass_repetitions_iff, not_lt, Nat.cast_succ, ENat.add_le_add_iff_right ENat.one_ne_top]
  rw [giveUp, ← ite_not]
  exact if_congr hleft.symm rfl rfl

/-- **As many attempts as it takes.** Let the outcomes of the attempts come from a sequence, in which the
first success or failure for good stands in the place `leading outcomes + 1`, or nowhere. Then a course
makes the attempts up to that place, or all that are allowed if these are fewer, and waits between two of
them and nowhere else. What stands in that place comes out as it is; otherwise the last failure comes out,
with how many attempts there were. -/
theorem runs_connect_iff (p : Provider) (session : ℕ) (outcomes : ℕ → Outcome Unit) :
    ∃ n : ℕ, (n : ℕ∞) + 1 = min (leading outcomes + 1) p.policy.maxAttempts ∧
      ∀ t result, Runs (p.connect session) t result ∧ Answers connected? outcomes t ↔
        t = repeated (fun i => p.attempted session (outcomes i)) (fun _ => [p.rested]) n ∧
        result = if leading outcomes + 1 ≤ p.policy.maxAttempts then outcomes n
          else (outcomes n).mapError (.connection p.policy.maxAttempts) := by
  obtain ⟨left, hmost⟩ := Nat.exists_eq_add_of_le' p.policy.one_le
  refine ⟨repetitions outcomes left, ?_, fun t result => ?_⟩
  · rw [natCast_repetitions, hmost, Nat.cast_succ, min_add_add_right]
  · rw [connect_eq, hmost, Nat.add_sub_cancel, runs_bind_done_iff, ← giveUp_repetitions]
    have hcourses := fun r => runs_again_iff (t := t) (r := r) outcomes
      (p.runs_attempt_iff session) (fun _ => rfl) p.connected?_of_rest 0 left
    constructor
    · rintro ⟨⟨r, hruns, rfl⟩, hanswers⟩
      obtain ⟨waits, hwaits, rfl, rfl⟩ := (hcourses r).1 ⟨hruns, hanswers⟩
      exact ⟨repeated_congr fun i hi => runs_ask_iff.1 (hwaits i hi), rfl⟩
    · rintro ⟨rfl, rfl⟩
      obtain ⟨hruns, hanswers⟩ := (hcourses _).2 ⟨_, fun _ _ => runs_ask_iff.2 rfl, rfl, rfl⟩
      exact ⟨⟨_, hruns, rfl⟩, hanswers⟩

end Provider

end SeriesBridge
