import SeriesBridge.Proofs.Dialogue.Ensures

/-! # Recorded and computed courses

* **`Behaviour.recording P`** — the world that remembers what was asked and answered, and gives only
  the answers that `P` allows.
* **`Behaviour.follows_recording`** — its courses are those whose exchanges are all allowed.
* **`Dialogue.courseWith answer d s`**, **`Dialogue.stateWith answer d s`** — the course that a dialogue
  takes when a function of a state answers it, and the state at its end, for runs on given inputs. -/

namespace SeriesBridge

variable {I : Interface} {S W α β : Type}

/-- **The world that remembers its course** and answers as `P` allows. -/
def Behaviour.recording (P : Exchange I → Prop) : Behaviour I (List (Exchange I)) :=
  fun w q r w' => P ⟨q, r⟩ ∧ w' = w ++ [⟨q, r⟩]

/-- **A course that is allowed throughout is one that the recording world can take.** -/
theorem Behaviour.follows_recording {P : Exchange I → Prop} (w : List (Exchange I))
    {t : List (Exchange I)} (h : ∀ e ∈ t, P e) : (recording P).Follows w t (w ++ t) := by
  induction t generalizing w with
  | nil =>
      rw [List.append_nil]
      exact .nil w
  | cons e t ih =>
      have hfirst : P e := h e List.mem_cons_self
      have hrest := ih (w ++ [e]) (fun e' he' => h e' (List.mem_cons_of_mem e he'))
      rw [List.append_assoc, List.singleton_append] at hrest
      exact .cons ⟨hfirst, rfl⟩ hrest

namespace Dialogue

/-- **The course of a dialogue that is answered by a function of a state,** and its result. -/
def courseWith (answer : S → (q : I.Request) → I.Answer q × S) :
    Dialogue I α → S → List (Exchange I) × α
  | .done a, _ => ([], a)
  | .more q next, s =>
      let (r, s') := answer s q
      let (t, a) := (next r).courseWith answer s'
      (⟨q, r⟩ :: t, a)

/-- The computed course is a course of the dialogue, with the computed result. -/
theorem runs_courseWith (answer : S → (q : I.Request) → I.Answer q × S) (d : Dialogue I α)
    (s : S) : Runs d (d.courseWith answer s).1 (d.courseWith answer s).2 := by
  induction d generalizing s with
  | done a => exact .done a
  | more q next ih => exact .more (answer s q).1 (ih (answer s q).1 (answer s q).2)

/-- A dialogue with two results ends with the first and the second. -/
theorem Runs.pair {d : Dialogue I (α × β)} {t : List (Exchange I)} {x : α × β} (h : Runs d t x) :
    Runs d t (x.1, x.2) := h

/-- **The state at the end** of the computed course. -/
def stateWith (answer : S → (q : I.Request) → I.Answer q × S) : Dialogue I α → S → S
  | .done _, s => s
  | .more q next, s => (next (answer s q).1).stateWith answer (answer s q).2

/-- What holds of all answers holds throughout the computed course. -/
theorem forall_courseWith {answer : S → (q : I.Request) → I.Answer q × S} {P : Exchange I → Prop}
    (h : ∀ s q, P ⟨q, (answer s q).1⟩) (d : Dialogue I α) (s : S) :
    ∀ e ∈ (d.courseWith answer s).1, P e := by
  induction d generalizing s with
  | done a => simp [courseWith]
  | more q next ih =>
      intro e he
      rcases List.mem_cons.1 he with rfl | he
      · exact h s q
      · exact ih (answer s q).1 (answer s q).2 e he

/-- **A world can take the computed course** when every answer is one of its own. -/
theorem follows_courseWith {B : Behaviour I W} {view : S → W}
    {answer : S → (q : I.Request) → I.Answer q × S}
    (h : ∀ s q, B (view s) q (answer s q).1 (view (answer s q).2)) (d : Dialogue I α) (s : S) :
    B.Follows (view s) (d.courseWith answer s).1 (view (d.stateWith answer s)) := by
  induction d generalizing s with
  | done a => exact .nil _
  | more q next ih => exact .cons (h s q) (ih (answer s q).1 (answer s q).2)

end Dialogue

end SeriesBridge
