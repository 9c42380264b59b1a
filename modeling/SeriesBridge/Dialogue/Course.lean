import SeriesBridge.Dialogue.Basic

/-! # The courses of a dialogue

A dialogue may take many courses: one for every way in which its requests can be answered. A course
is the list of requests with their answers.

* **`Dialogue.Runs d t a`** — `d` may take the course `t` and end with `a`.
* **`Dialogue.Reaches d t`** — `d` may have taken the course `t` so far, done or not.
* **`Dialogue.runs_bind_iff`** — the courses of two dialogues in a row.
* **`Dialogue.Runs.append_inj`** — a course tells where it ends. -/

namespace SeriesBridge

/-- A request and its answer. -/
structure Exchange (I : Interface) where
  request : I.Request
  answer : I.Answer request

namespace Dialogue

variable {I : Interface} {α β : Type}

/-- **A whole course of a dialogue and the result at its end.** -/
inductive Runs : Dialogue I α → List (Exchange I) → α → Prop where
  | done (a : α) : Runs (.done a) [] a
  | more {q : I.Request} {next : I.Answer q → Dialogue I α} (r : I.Answer q)
      {t : List (Exchange I)} {a : α} (rest : Runs (next r) t a) :
      Runs (.more q next) (⟨q, r⟩ :: t) a

/-- **The beginning of a course:** what may have been asked and answered when the dialogue is
broken off. -/
inductive Reaches : Dialogue I α → List (Exchange I) → Prop where
  | here (d : Dialogue I α) : Reaches d []
  | more {q : I.Request} {next : I.Answer q → Dialogue I α} (r : I.Answer q)
      {t : List (Exchange I)} (rest : Reaches (next r) t) :
      Reaches (.more q next) (⟨q, r⟩ :: t)

/-- A dialogue that is done has the empty course alone. -/
@[simp] theorem runs_done_iff {a b : α} {t : List (Exchange I)} :
    Runs (.done a) t b ↔ t = [] ∧ a = b := by
  constructor
  · intro h; cases h; exact ⟨rfl, rfl⟩
  · rintro ⟨rfl, rfl⟩; exact .done a

/-- A dialogue that asks takes the course of some answer. -/
theorem runs_more_iff {q : I.Request} {next : I.Answer q → Dialogue I α} {t : List (Exchange I)}
    {a : α} : Runs (.more q next) t a ↔ ∃ r s, t = ⟨q, r⟩ :: s ∧ Runs (next r) s a := by
  constructor
  · intro h; cases h with
    | more r rest => exact ⟨r, _, rfl, rest⟩
  · rintro ⟨r, s, rfl, h⟩; exact .more r h

/-- One request takes one exchange, and its answer is the result. -/
theorem runs_ask_iff {q : I.Request} {t : List (Exchange I)} {r : I.Answer q} :
    Runs (ask q) t r ↔ t = [⟨q, r⟩] := by
  rw [ask, runs_more_iff]
  constructor
  · rintro ⟨r', s, rfl, h⟩
    obtain ⟨rfl, rfl⟩ := runs_done_iff.1 h
    rfl
  · rintro rfl
    exact ⟨r, [], rfl, .done r⟩

/-- **The courses of two dialogues in a row** are the courses of the first followed by those of the
second. -/
theorem runs_bind_iff {d : Dialogue I α} {f : α → Dialogue I β} {t : List (Exchange I)} {b : β} :
    Runs (d >>= f) t b ↔ ∃ s u a, t = s ++ u ∧ Runs d s a ∧ Runs (f a) u b := by
  induction d generalizing t with
  | done a =>
      simp only [done_bind, runs_done_iff]
      constructor
      · intro h; exact ⟨[], t, a, rfl, ⟨rfl, rfl⟩, h⟩
      · rintro ⟨s, u, c, rfl, ⟨rfl, rfl⟩, h⟩; exact h
  | more q next ih =>
      simp only [more_bind, runs_more_iff]
      constructor
      · rintro ⟨r, s, rfl, h⟩
        obtain ⟨s', u, a, rfl, h₁, h₂⟩ := ih r |>.1 h
        exact ⟨⟨q, r⟩ :: s', u, a, rfl, ⟨r, s', rfl, h₁⟩, h₂⟩
      · rintro ⟨_, u, a, rfl, ⟨r, s, rfl, h₁⟩, h₂⟩
        exact ⟨r, s ++ u, rfl, ih r |>.2 ⟨s, u, a, rfl, h₁, h₂⟩⟩

/-- A dialogue whose result is only looked at in the end has the same courses. -/
theorem runs_bind_done_iff {d : Dialogue I α} {f : α → β} {t : List (Exchange I)} {b : β} :
    Runs (d >>= fun a => .done (f a)) t b ↔ ∃ a, Runs d t a ∧ b = f a := by
  rw [runs_bind_iff]
  constructor
  · rintro ⟨s, u, a, rfl, hs, hu⟩
    obtain ⟨rfl, rfl⟩ := runs_done_iff.1 hu
    rw [List.append_nil]
    exact ⟨a, hs, rfl⟩
  · rintro ⟨a, ht, rfl⟩
    exact ⟨t, [], a, (List.append_nil t).symm, ht, .done _⟩

/-- **Where a course ends is told by the course:** none is the beginning of another one. -/
theorem Runs.append_inj {d : Dialogue I α} {s s' t t' : List (Exchange I)} {a a' : α}
    (h : Runs d t a) (h' : Runs d t' a') (happend : t ++ s = t' ++ s') :
    t = t' ∧ s = s' ∧ a = a' := by
  induction h generalizing t' with
  | done a =>
      obtain ⟨rfl, rfl⟩ := runs_done_iff.1 h'
      exact ⟨rfl, happend, rfl⟩
  | more r _ ih =>
      obtain ⟨r', u, rfl, hrest⟩ := runs_more_iff.1 h'
      rw [List.cons_append, List.cons_append, List.cons.injEq] at happend
      obtain ⟨hexchange, happend⟩ := happend
      cases hexchange
      obtain ⟨rfl, hs, ha⟩ := ih hrest happend
      exact ⟨rfl, hs, ha⟩

/-- A whole course is a beginning too. -/
theorem Runs.reaches {d : Dialogue I α} {t : List (Exchange I)} {a : α} (h : Runs d t a) :
    Reaches d t := by
  induction h with
  | done a => exact .here _
  | more r _ ih => exact .more r ih

end Dialogue

end SeriesBridge
