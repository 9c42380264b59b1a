import Mathlib.Data.ENat.Lattice
import SeriesBridge.Dialogue.Course
import SeriesBridge.Error

/-! # Calls that are made again

A call whose failure may pass is made again, as often as is allowed, and something is done before every
repetition. If it were made for ever, what comes of it would be a sequence of outcomes; how often it is
made, and what comes of all of it, depends on how many outcomes at the beginning of that sequence are
failures that may pass.

* **`mayPass r`**, **`leading outcomes`** — a failure that may pass, and how many of them come first.
* **`repetitions outcomes most`** — how many of them are answered by a repetition.
* **`Exchange.Answers pick outcomes t`** — the answers of a kind in a course come in turn from a sequence.
* **`Exchange.repeated call waits n`** — a course of one call, and `n` more with waits before them.
* **`Dialogue.again call wait made left`** — make a call, and again while its failure may pass.
* **`Dialogue.runs_again_iff`** — its courses when the calls are answered from a sequence. -/

namespace SeriesBridge

variable {I : Interface} {α β : Type}

/-! ## Outcomes that come in turn -/

/-- Whether an outcome is a failure that may pass. -/
def mayPass : Outcome α → Bool
  | .error e => e.isRetryable
  | .ok _ => false

/-- A failure may pass when its error is of that kind. -/
@[simp] theorem mayPass_error (e : Error) : mayPass (.error e : Outcome α) = e.isRetryable := rfl

/-- A success is no failure. -/
@[simp] theorem mayPass_ok (a : α) : mayPass (.ok a : Outcome α) = false := rfl

/-- An outcome that may pass is a failure. -/
theorem mayPass_iff {r : Outcome α} :
    mayPass r = true ↔ ∃ e, r = .error e ∧ e.isRetryable = true := by
  cases r with
  | error e => simp
  | ok a => simp

/-- **How many failures that may pass come first** in a sequence of outcomes; all of them may. -/
noncomputable def leading (outcomes : ℕ → Outcome α) : ℕ∞ :=
  ⨅ (i : ℕ) (_ : mayPass (outcomes i) = false), (i : ℕ∞)

variable {outcomes : ℕ → Outcome α} {left n : ℕ}

/-- At least so many come first when each of the first so many may pass. -/
theorem natCast_le_leading_iff : (n : ℕ∞) ≤ leading outcomes ↔
    ∀ i < n, mayPass (outcomes i) = true := by
  unfold leading
  rw [le_iInf₂_iff]
  constructor
  · intro h i hi
    by_contra hfinal
    exact absurd (Nat.cast_le.1 (h i (Bool.eq_false_of_not_eq_true hfinal))) (Nat.not_le.2 hi)
  · intro h i hfinal
    refine Nat.cast_le.2 (Nat.le_of_not_lt fun hi => ?_)
    rw [h i hi] at hfinal
    cases hfinal

/-- None comes first when the first outcome is a success or a failure that will not pass. -/
theorem leading_eq_zero (h : mayPass (outcomes 0) = false) : leading outcomes = 0 :=
  nonpos_iff_eq_zero.1 ((iInf₂_le 0 h).trans_eq Nat.cast_zero)

/-- A failure that may pass comes before those after it. -/
theorem leading_eq_add_one (h : mayPass (outcomes 0) = true) :
    leading outcomes = leading (fun i => outcomes (i + 1)) + 1 := by
  refine ENat.eq_of_forall_natCast_le_iff fun n => ?_
  cases n with
  | zero => simp
  | succ n =>
      rw [natCast_le_leading_iff, Nat.forall_lt_succ_left, and_iff_right h, Nat.cast_succ,
        ENat.add_le_add_iff_right ENat.one_ne_top, natCast_le_leading_iff]

/-- **How often a call is repeated** when it may be repeated so often: once for every failure that may
pass, as long as repetitions are left. -/
noncomputable def repetitions (outcomes : ℕ → Outcome α) (left : ℕ) : ℕ :=
  (min (leading outcomes) left).toNat

/-- The number of repetitions is the smaller of the two. -/
theorem natCast_repetitions (outcomes : ℕ → Outcome α) (left : ℕ) :
    (repetitions outcomes left : ℕ∞) = min (leading outcomes) left :=
  ENat.natCast_toNat (ne_top_of_le_ne_top (ENat.natCast_ne_top left) (min_le_right _ _))

/-- Without repetitions left there is none. -/
@[simp] theorem repetitions_zero (outcomes : ℕ → Outcome α) : repetitions outcomes 0 = 0 := by
  simp [repetitions]

/-- There is none when the first outcome is a success or a failure that will not pass. -/
theorem repetitions_eq_zero (h : mayPass (outcomes 0) = false) : repetitions outcomes left = 0 := by
  simp [repetitions, leading_eq_zero h]

/-- A failure that may pass takes one of them, and the outcomes after it take the others. -/
theorem repetitions_succ (h : mayPass (outcomes 0) = true) :
    repetitions outcomes (left + 1) = repetitions (fun i => outcomes (i + 1)) left + 1 := by
  refine Nat.cast_injective (R := ℕ∞) ?_
  rw [Nat.cast_succ, natCast_repetitions, natCast_repetitions, leading_eq_add_one h, Nat.cast_succ,
    min_add_add_right]

/-- **Every call that is repeated** has failed in a way that may pass. -/
theorem mayPass_of_lt_repetitions {i : ℕ} (h : i < repetitions outcomes left) :
    mayPass (outcomes i) = true := by
  have hle : (repetitions outcomes left : ℕ∞) ≤ leading outcomes :=
    (natCast_repetitions outcomes left).trans_le (min_le_left _ _)
  exact natCast_le_leading_iff.1 hle i h

/-- The last call has failed in that way too if and only if no repetition was left for it. -/
theorem mayPass_repetitions_iff : mayPass (outcomes (repetitions outcomes left)) = true ↔
    (left : ℕ∞) < leading outcomes := by
  have hcount := natCast_repetitions outcomes left
  constructor
  · intro hlast
    have hmore : ((repetitions outcomes left + 1 : ℕ) : ℕ∞) ≤ leading outcomes := by
      refine natCast_le_leading_iff.2 (Nat.forall_lt_succ_right.2 ⟨?_, hlast⟩)
      exact fun i hi => mayPass_of_lt_repetitions hi
    by_contra hle
    rw [min_eq_left (not_lt.1 hle)] at hcount
    rw [← hcount] at hmore
    exact absurd (Nat.cast_le.1 hmore) (Nat.not_succ_le_self _)
  · intro hlt
    rw [min_eq_right hlt.le, Nat.cast_inj] at hcount
    rw [hcount]
    refine natCast_le_leading_iff.1 ?_ left (Nat.lt_succ_self left)
    exact (Nat.cast_succ left).trans_le (Order.add_one_le_of_lt hlt)

/-! ## Courses with repetitions -/

namespace Exchange

/-- **The answers of a kind come in turn from a sequence.** Of the exchanges of a course, `pick` tells the
answer of those of the kind. -/
def Answers (pick : Exchange I → Option β) (answers : ℕ → β) (t : List (Exchange I)) : Prop :=
  ∀ i r, (t.filterMap pick)[i]? = some r → r = answers i

variable {pick : Exchange I → Option β} {answers : ℕ → β} {s t : List (Exchange I)} {e : Exchange I}

/-- The first answer is the first of the sequence, and the other answers are the others. -/
theorem answers_cons {r : β} (h : pick e = some r) :
    Answers pick answers (e :: t) ↔ r = answers 0 ∧ Answers pick (fun i => answers (i + 1)) t := by
  unfold Answers
  rw [List.filterMap_cons_some h]
  constructor
  · intro hall
    exact ⟨hall 0 r rfl, fun i => hall (i + 1)⟩
  · rintro ⟨rfl, hall⟩ i r' hr'
    cases i with
    | zero =>
        cases hr'
        rfl
    | succ i => exact hall i r' hr'

/-- Exchanges of other kinds count for nothing before the others. -/
theorem answers_append_left (h : ∀ e ∈ s, pick e = none) :
    Answers pick answers (s ++ t) ↔ Answers pick answers t := by
  unfold Answers
  rw [List.filterMap_append, List.filterMap_eq_nil_iff.2 h, List.nil_append]

/-- Exchanges of other kinds count for nothing behind the others. -/
theorem answers_append_right (h : ∀ e ∈ s, pick e = none) :
    Answers pick answers (t ++ s) ↔ Answers pick answers t := by
  unfold Answers
  rw [List.filterMap_append, List.filterMap_eq_nil_iff.2 h, List.append_nil]

/-- **A course of one call, and `n` more** with a wait before each of them. -/
def repeated (call : ℕ → Exchange I) (waits : ℕ → List (Exchange I)) (n : ℕ) : List (Exchange I) :=
  call 0 :: (List.range n).flatMap fun i => waits i ++ [call (i + 1)]

/-- Without repetitions there is one call. -/
@[simp] theorem repeated_zero (call : ℕ → Exchange I) (waits : ℕ → List (Exchange I)) :
    repeated call waits 0 = [call 0] := rfl

/-- After the first call and the first wait the others follow in the same way. -/
theorem repeated_succ (call : ℕ → Exchange I) (waits : ℕ → List (Exchange I)) (n : ℕ) :
    repeated call waits (n + 1) =
      call 0 :: (waits 0 ++ repeated (fun i => call (i + 1)) (fun i => waits (i + 1)) n) := by
  unfold repeated
  rw [List.range_succ_eq_map, List.flatMap_cons, List.flatMap_map, List.append_assoc,
    List.singleton_append]

/-- Only the waits before repetitions count. -/
theorem repeated_congr {call : ℕ → Exchange I} {waits waits' : ℕ → List (Exchange I)} {n : ℕ}
    (h : ∀ i < n, waits i = waits' i) : repeated call waits n = repeated call waits' n := by
  unfold repeated
  refine congrArg (call 0 :: ·) (List.flatMap_congr fun i hi => ?_)
  rw [h i (List.mem_range.1 hi)]

end Exchange

/-! ## Dialogues with repetitions -/

namespace Dialogue

open Exchange

/-- **Make a call, and again while its failure may pass.** The first number counts the repetitions that
were made, the second those that are left; before each of them there is a wait, which may depend on its
number, counted from one. -/
def again (call : Dialogue I (Outcome α)) (wait : ℕ → Dialogue I Unit) (made : ℕ) :
    ℕ → Dialogue I (Outcome α)
  | 0 => call
  | left + 1 => do
      let r ← call
      if mayPass r then do
        wait (made + 1)
        again call wait (made + 1) left
      else return r

section Courses

variable {call : Dialogue I (Outcome α)} {wait : ℕ → Dialogue I Unit} {answered : Outcome α → Exchange I}
  {pick : Exchange I → Option (Outcome α)} {t : List (Exchange I)}

/-- A call that is one exchange, before something else: it has the first of the answers. -/
theorem runs_call_bind_iff {γ : Type} (hcall : ∀ {u r}, Runs call u r ↔ u = [answered r])
    (hpick : ∀ r, pick (answered r) = some r) {f : Outcome α → Dialogue I γ} {c : γ} :
    Runs (call >>= f) t c ∧ Answers pick outcomes t ↔ ∃ u, t = answered (outcomes 0) :: u ∧
      Runs (f (outcomes 0)) u c ∧ Answers pick (fun i => outcomes (i + 1)) u := by
  rw [runs_bind_iff]
  constructor
  · rintro ⟨⟨s, u, r, rfl, hs, hu⟩, hanswers⟩
    obtain rfl := hcall.1 hs
    rw [List.singleton_append, answers_cons (hpick r)] at hanswers
    obtain ⟨rfl, hrest⟩ := hanswers
    exact ⟨u, rfl, hu, hrest⟩
  · rintro ⟨u, rfl, hu, hrest⟩
    exact ⟨⟨[_], u, _, rfl, hcall.2 rfl, hu⟩, (answers_cons (hpick _)).2 ⟨rfl, hrest⟩⟩

/-- The last call has nothing behind it. -/
theorem runs_last_call_iff (hcall : ∀ {u r}, Runs call u r ↔ u = [answered r])
    (hpick : ∀ r, pick (answered r) = some r) {f : Outcome α → Dialogue I (Outcome α)}
    (hf : f (outcomes 0) = .done (outcomes 0)) {r : Outcome α} :
    Runs (call >>= f) t r ∧ Answers pick outcomes t ↔
      t = [answered (outcomes 0)] ∧ r = outcomes 0 := by
  rw [runs_call_bind_iff hcall hpick, hf]
  constructor
  · rintro ⟨u, rfl, hu, -⟩
    obtain ⟨rfl, rfl⟩ := runs_done_iff.1 hu
    exact ⟨rfl, rfl⟩
  · rintro ⟨rfl, rfl⟩
    exact ⟨[], rfl, .done _, by simp [Answers]⟩

/-- **The courses of calls that are made again.** When the calls are answered from a sequence, there is one
call, and one more for every failure that may pass at its beginning, as long as repetitions are left, with
the wait of that repetition before it; and the last answer is what comes of it all. -/
theorem runs_again_iff (outcomes : ℕ → Outcome α) (hcall : ∀ {u r}, Runs call u r ↔ u = [answered r])
    (hpick : ∀ r, pick (answered r) = some r)
    (hwait : ∀ {k u}, Runs (wait k) u () → ∀ e ∈ u, pick e = none) (made left : ℕ)
    {r : Outcome α} :
    Runs (again call wait made left) t r ∧ Answers pick outcomes t ↔
      ∃ waits : ℕ → List (Exchange I),
        (∀ i < repetitions outcomes left, Runs (wait (made + i + 1)) (waits i) ()) ∧
        t = repeated (fun i => answered (outcomes i)) waits (repetitions outcomes left) ∧
        r = outcomes (repetitions outcomes left) := by
  induction left generalizing made outcomes t with
  | zero =>
      -- A call is the same as the call before nothing else.
      rw [again, ← bind_done call, runs_last_call_iff hcall hpick rfl, repetitions_zero]
      simp
  | succ left ih =>
      cases hfirst : mayPass (outcomes 0) with
      | false =>
          rw [again, runs_last_call_iff hcall hpick (by simp [hfirst]), repetitions_eq_zero hfirst]
          simp
      | true =>
          rw [again, runs_call_bind_iff hcall hpick, repetitions_succ hfirst]
          simp only [hfirst, if_true, repeated_succ]
          constructor
          · rintro ⟨u, rfl, hu, hrest⟩
            obtain ⟨v, w, _, rfl, hv, hw⟩ := runs_bind_iff.1 hu
            rw [answers_append_left (hwait hv)] at hrest
            obtain ⟨waits, hwaits, rfl, rfl⟩ := (ih _ (made + 1)).1 ⟨hw, hrest⟩
            -- The first wait comes before those of the other repetitions.
            refine ⟨fun | 0 => v | i + 1 => waits i, ?_, rfl, rfl⟩
            intro i hi
            cases i with
            | zero => exact hv
            | succ i =>
                have := hwaits i (Nat.lt_of_succ_lt_succ hi)
                rwa [Nat.add_right_comm made 1 i] at this
          · rintro ⟨waits, hwaits, rfl, rfl⟩
            have hrest := (ih (fun i => outcomes (i + 1)) (made + 1)).2
              ⟨fun i => waits (i + 1), ?_, rfl, rfl⟩
            · refine ⟨_, rfl, runs_bind_iff.2 ⟨_, _, (), rfl, ?_, hrest.1⟩, ?_⟩
              · exact hwaits 0 (Nat.succ_pos _)
              · exact (answers_append_left (hwait (hwaits 0 (Nat.succ_pos _)))).2 hrest.2
            · intro i hi
              have := hwaits (i + 1) (Nat.succ_lt_succ hi)
              rwa [← Nat.add_assoc, Nat.add_right_comm made i 1] at this

end Courses

end Dialogue

end SeriesBridge
