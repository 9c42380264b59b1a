import SeriesBridge.Proofs.Dialogue.Asks
import SeriesBridge.Proofs.Dialogue.Ensures

/-! # Requests in turn

A part that has a state is asked for one thing after another, and what comes of each request is kept.

* **`Dialogue.turns step s requests`** — the requests in turn, from the state `s` on.
* **`Dialogue.Runs.turns_induction`** — what every turn preserves holds after all of them, and
  **`Dialogue.Runs.turns_invariant`** where it speaks of the state alone.
* **`Dialogue.Asks.turns`** — what is asked in every turn is asked in all of them.
* **`Dialogue.Ensures.turns`** — the same in a world. -/

namespace SeriesBridge.Dialogue

variable {I : Interface} {S Q A : Type} {step : S → Q → Dialogue I (A × S)}

/-- **Take requests in turn,** each from the state that the one before it left, and keep what came of
each. -/
def turns (step : S → Q → Dialogue I (A × S)) (s : S) : List Q → Dialogue I (List (Q × A) × S)
  | [] => pure ([], s)
  | q :: requests => do
      let (a, s) ← step s q
      let (taken, s) ← turns step s requests
      return ((q, a) :: taken, s)

/-- The course of several turns is that of the first one and that of the others. -/
theorem runs_turns_cons_iff {s : S} {q : Q} {requests : List Q} {t : List (Exchange I)}
    {x : List (Q × A) × S} :
    Runs (turns step s (q :: requests)) t x ↔ ∃ u v a s' taken s'', t = u ++ v ∧
      Runs (step s q) u (a, s') ∧ Runs (turns step s' requests) v (taken, s'') ∧
      x = ((q, a) :: taken, s'') := by
  rw [turns, runs_bind_iff]
  constructor
  · rintro ⟨u, v, ⟨a, s'⟩, rfl, hfirst, h⟩
    obtain ⟨v', w, ⟨taken, s''⟩, rfl, hrest, hlast⟩ := runs_bind_iff.1 h
    obtain ⟨rfl, rfl⟩ := runs_done_iff.1 hlast
    exact ⟨u, v', a, s', taken, s'', by rw [List.append_nil], hfirst, hrest, rfl⟩
  · rintro ⟨u, v, a, s', taken, s'', rfl, hfirst, hrest, rfl⟩
    exact ⟨u, v, (a, s'), rfl, hfirst, runs_bind_iff.2
      ⟨v, [], (taken, s''), (List.append_nil v).symm, hrest, .done _⟩⟩

/-- **What every turn preserves holds after all of them.** It may speak of the course so far and of
what came of the requests so far. -/
theorem Runs.turns_induction (inv : List (Exchange I) → List (Q × A) → S → Prop)
    (hstep : ∀ {t taken s q u a s'}, inv t taken s → Runs (step s q) u (a, s') →
      inv (t ++ u) (taken ++ [(q, a)]) s')
    {s s' : S} {requests : List Q} {t u : List (Exchange I)} {taken taken' : List (Q × A)}
    (h : inv t taken s) (hruns : Runs (turns step s requests) u (taken', s')) :
    inv (t ++ u) (taken ++ taken') s' := by
  induction requests generalizing t u taken taken' s with
  | nil =>
      obtain ⟨rfl, hx⟩ := runs_done_iff.1 hruns
      cases hx
      rwa [List.append_nil, List.append_nil]
  | cons q requests ih =>
      obtain ⟨v, w, a, s₁, rest, s₂, rfl, hfirst, hrest, hx⟩ := runs_turns_cons_iff.1 hruns
      cases hx
      have := ih (hstep h hfirst) hrest
      rwa [List.append_assoc, List.append_assoc, List.singleton_append] at this

/-- **What every turn preserves of the state** holds of the state after all of them. -/
theorem Runs.turns_invariant (inv : S → Prop)
    (hstep : ∀ {s q u a s'}, inv s → Runs (step s q) u (a, s') → inv s') {s s' : S}
    {requests : List Q} {t : List (Exchange I)} {taken : List (Q × A)} (h : inv s)
    (hruns : Runs (turns step s requests) t (taken, s')) : inv s' :=
  @turns_induction I S Q A step (fun _ _ s => inv s) hstep s s' requests [] t [] taken h hruns

/-- **What every turn asks is asked by all of them,** from states that every turn keeps. -/
theorem Asks.turns {P : I.Request → Prop} (inv : S → Prop)
    (hstep : ∀ s q, inv s → (step s q).Asks P (fun x => inv x.2)) {s : S} (h : inv s)
    (requests : List Q) : (turns step s requests).Asks P (fun x => inv x.2) := by
  induction requests generalizing s with
  | nil => exact asks_done.2 h
  | cons q requests ih =>
      refine (hstep s q h).bind ?_
      rintro ⟨a, s₁⟩ h₁
      refine (ih h₁).bind ?_
      rintro ⟨taken, s₂⟩ h₂
      exact asks_done.2 h₂

/-! ## In a world -/

/-- **What every turn ensures is ensured by all of them.** It may speak of the world and of what came of
the requests so far. -/
theorem Ensures.turns {W : Type} {B : Behaviour I W} {safe : W → Prop} {requests : List Q}
    (inv : W → List (Q × A) → S → Prop)
    (hstep : ∀ {w taken s} {q : Q}, q ∈ requests → inv w taken s →
      (step s q).Ensures B safe w (fun w' x => inv w' (taken ++ [(q, x.1)]) x.2))
    {w : W} {taken : List (Q × A)} {s : S} (h : inv w taken s) :
    (turns step s requests).Ensures B safe w (fun w' x => inv w' (taken ++ x.1) x.2) := by
  induction requests generalizing w taken s with
  | nil =>
      refine ensures_done.2 ?_
      rwa [List.append_nil]
  | cons q requests ih =>
      refine (hstep List.mem_cons_self h).bind fun w' x hx => ?_
      refine (ih (fun hq => hstep (List.mem_cons_of_mem _ hq)) hx).bind fun w'' y hy => ?_
      refine ensures_done.2 ?_
      rwa [List.append_assoc, List.singleton_append] at hy

end SeriesBridge.Dialogue
