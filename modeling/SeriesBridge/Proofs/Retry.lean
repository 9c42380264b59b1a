import Mathlib.Algebra.Order.Ring.Nat
import Mathlib.Order.Bounds.Defs
import SeriesBridge.Settings.Pipeline

/-! # How long a retry waits

The wait before a retry doubles up to a limit and is moved by its jitter at random. It is computed in
words: the doubling stops at the largest word, and the jitter is taken off no further than zero, but the
draw is added as it is, and a sum that is no word breaks the computation off.

* **`Backoff.ideal b attempt`**, **`Backoff.jittered b attempt draw`** — the wait without jitter and with
  it, in numbers that have no largest one.
* **`Backoff.wait?_eq`** — there is a wait if and only if the sum is a word, and it is the one in such
  numbers.
* **`Backoff.Sound b attempt draw`** — a wait that is computed in words and keeps to its bounds.
* **`Backoff.forall_sound_iff`** — all waits before a retry are sound if and only if the largest sum is a
  word.
* **`Backoff.range?_eq_none_iff`**, **`Backoff.isLeast_range?`**, **`Backoff.isGreatest_range?`** — the
  ends of the range are the shortest and the longest wait. -/

namespace SeriesBridge

namespace Backoff

/-! ## Without a largest number -/

/-- **The wait before a retry without jitter,** in numbers that have no largest one. -/
def ideal (b : Backoff) (attempt : ℕ) : ℕ :=
  min (b.base.toNat * 2 ^ min (max attempt 1 - 1) 20) b.limit.toNat

/-- How far a draw moves the wait at most: by a tenth of it, and by one millisecond at least. -/
def spread (b : Backoff) (attempt : ℕ) : ℕ := max 1 (b.ideal attempt / 10)

/-- **The wait before a retry,** in numbers that have no largest one. -/
def jittered (b : Backoff) (attempt draw : ℕ) : ℕ :=
  if b.ideal attempt = 0 then 0
  else min (b.ideal attempt + draw - b.spread attempt) b.limit.toNat

variable {b : Backoff} {attempt draw : ℕ}

/-- A wait doubles twenty times at most. -/
theorem doublings_eq (attempt : ℕ) : doublings attempt = min (max attempt 1 - 1) 20 := by
  unfold doublings
  omega

/-- The words are the numbers below 2^64. -/
theorem le_largest_iff {n : ℕ} : n ≤ largest ↔ n < 2 ^ 64 := by
  unfold largest
  omega

/-- **Where doubling stops makes no difference:** the limit is a word, so it is reached before. -/
theorem steady_eq_ideal (b : Backoff) (attempt : ℕ) : b.steady attempt = b.ideal attempt := by
  have hlimit : b.limit.toNat ≤ largest := le_largest_iff.2 b.limit.toNat_lt
  rw [steady, ideal, Nat.shiftLeft_eq, doublings_eq, min_assoc, min_eq_right hlimit]

/-- The wait without jitter does not pass the limit. -/
theorem ideal_le_limit (b : Backoff) (attempt : ℕ) : b.ideal attempt ≤ b.limit.toNat :=
  min_le_right _ _

/-- The jitter that is computed moves the wait as far. -/
theorem jitter_ideal (b : Backoff) (attempt : ℕ) : jitter (b.ideal attempt) = b.spread attempt :=
  max_comm _ _

/-- There is nothing to draw for a wait of zero, and twice the jitter otherwise. -/
theorem draws_eq (b : Backoff) (attempt : ℕ) :
    b.draws attempt = if b.ideal attempt = 0 then 0 else 2 * b.spread attempt := by
  rw [draws, steady_eq_ideal, jitter_ideal]

/-- **The wait before a retry,** of a draw there is: none if the sum is no word, and otherwise the one in
numbers that have no largest one. -/
theorem wait?_eq (hdraw : draw ≤ b.draws attempt) : b.wait? attempt draw =
    if b.ideal attempt + draw < 2 ^ 64 then some (b.jittered attempt draw) else none := by
  have hdraws := b.draws_eq attempt
  simp only [wait?, steady_eq_ideal, jitter_ideal, jittered, sum?, le_largest_iff]
  by_cases hzero : b.ideal attempt = 0
  · rw [if_pos hzero] at hdraws
    rw [if_pos hzero, if_pos hzero, if_pos (by omega)]
  · rw [if_neg hzero, if_neg hzero]
    split_ifs <;> rfl

/-- The third wait has doubled twice, and the first draw takes all of the jitter off. -/
example : ({} : Backoff).wait? 3 0 = some 3600 := by decide

/-! ## Sound waits -/

/-- **A sound wait:** nothing that is computed on the way passes the largest word, a wait of zero stays
zero, and another one is moved by its jitter at most and does not pass the limit. -/
structure Sound (b : Backoff) (attempt draw : ℕ) : Prop where
  factor : 2 ^ min (max attempt 1 - 1) 20 < 2 ^ 64
  spread : 2 * b.spread attempt < 2 ^ 64
  sum : b.ideal attempt + draw < 2 ^ 64
  wait : ∃ w, b.wait? attempt draw = some w ∧ (b.ideal attempt = 0 → w = 0) ∧
    b.ideal attempt - b.spread attempt ≤ w ∧
    w ≤ min (b.ideal attempt + b.spread attempt) b.limit.toNat

/-- Twenty doublings make a word. -/
theorem two_pow_lt (attempt : ℕ) : 2 ^ min (max attempt 1 - 1) 20 < 2 ^ 64 :=
  Nat.pow_lt_pow_right (by decide) (by omega)

/-- Twice the jitter of a word is a word. -/
theorem two_mul_spread_lt (b : Backoff) (attempt : ℕ) : 2 * b.spread attempt < 2 ^ 64 := by
  have hword : b.ideal attempt < 2 ^ 64 := (b.ideal_le_limit attempt).trans_lt b.limit.toNat_lt
  unfold Backoff.spread
  omega

/-- **A wait keeps to its bounds,** in numbers that have no largest one. -/
theorem jittered_mem_bounds (hdraw : draw ≤ b.draws attempt) :
    b.ideal attempt - b.spread attempt ≤ b.jittered attempt draw ∧
      b.jittered attempt draw ≤ min (b.ideal attempt + b.spread attempt) b.limit.toNat := by
  have hword : b.ideal attempt ≤ b.limit.toNat := b.ideal_le_limit attempt
  rw [draws_eq] at hdraw
  unfold jittered
  split_ifs at hdraw ⊢ <;> omega

/-- **A wait is sound when the sum is a word.** -/
theorem sound_of_lt (hdraw : draw ≤ b.draws attempt) (hsum : b.ideal attempt + draw < 2 ^ 64) :
    b.Sound attempt draw where
  factor := two_pow_lt attempt
  spread := b.two_mul_spread_lt attempt
  sum := hsum
  wait := ⟨b.jittered attempt draw, by rw [wait?_eq hdraw, if_pos hsum], fun hzero => if_pos hzero,
    jittered_mem_bounds hdraw⟩

/-- **There is no wait when the sum is no word,** and only then. -/
theorem wait?_eq_none_iff (hdraw : draw ≤ b.draws attempt) :
    b.wait? attempt draw = none ↔ 2 ^ 64 ≤ b.ideal attempt + draw := by
  rw [wait?_eq hdraw]
  split_ifs with hsum
  · exact iff_of_false (by simp) (not_le.2 hsum)
  · exact iff_of_true rfl (not_lt.1 hsum)

/-- The largest sum is a word if and only if it is one with twice the jitter. -/
theorem ideal_add_draws_lt_iff : b.ideal attempt + b.draws attempt < 2 ^ 64 ↔
    b.ideal attempt + 2 * b.spread attempt < 2 ^ 64 := by
  have hspread := b.two_mul_spread_lt attempt
  rw [draws_eq]
  split_ifs <;> omega

/-- **Which waits are sound.** All waits before a retry are if and only if the largest sum is a word. Of
single waits those are whose sum is a word, and the others break the computation off. -/
theorem forall_sound_iff (b : Backoff) (attempt : ℕ) :
    ((∀ draw ≤ b.draws attempt, b.Sound attempt draw) ↔
      b.ideal attempt + 2 * b.spread attempt < 2 ^ 64) ∧
    ∀ draw ≤ b.draws attempt,
      (b.Sound attempt draw ↔ b.ideal attempt + draw < 2 ^ 64) ∧
      (b.wait? attempt draw = none ↔ 2 ^ 64 ≤ b.ideal attempt + draw) := by
  refine ⟨?_, fun draw hdraw => ⟨⟨Sound.sum, sound_of_lt hdraw⟩, wait?_eq_none_iff hdraw⟩⟩
  rw [← ideal_add_draws_lt_iff]
  constructor
  · intro hall
    exact (hall _ le_rfl).sum
  · intro hsum draw hdraw
    exact sound_of_lt hdraw (by omega)

/-- Settings with a first wait that is the longest one, and nearly as long as words go. -/
def patient : PipelineSettings where
  name := "c"
  backoff := { base := 16000000000000000000, limit := 16000000000000000000 }

/-- **Not all waits are sound.** These settings can be used, and the largest draw breaks the computation of
the first wait off. -/
theorem not_sound_patient : patient.check = .ok () ∧
    patient.backoff.wait? 1 (patient.backoff.draws 1) = none ∧
    ¬ patient.backoff.Sound 1 (patient.backoff.draws 1) :=
  ⟨rfl, by decide, fun h => absurd h.sum (by decide)⟩

/-! ## The range of waits -/

/-- The waits before a retry. -/
def waits (b : Backoff) (attempt : ℕ) : Set ℕ :=
  {w | ∃ draw ≤ b.draws attempt, b.wait? attempt draw = some w}

/-- **Waits grow with the draw.** -/
theorem jittered_le_jittered {draw' : ℕ} (hle : draw ≤ draw') :
    b.jittered attempt draw ≤ b.jittered attempt draw' := by
  unfold jittered
  split_ifs
  · rfl
  · omega

/-- The ends of the range, if the largest sum is a word. -/
theorem range?_eq (b : Backoff) (attempt : ℕ) : b.range? attempt =
    if b.ideal attempt + b.draws attempt < 2 ^ 64 then
      some (b.jittered attempt 0, b.jittered attempt (b.draws attempt))
    else none := by
  rw [range?, wait?_eq le_rfl]
  split_ifs with hlast
  · rw [wait?_eq (Nat.zero_le _), if_pos (by omega)]
    rfl
  · rfl

/-- **There is no range if some draw breaks the computation off,** and only then. -/
theorem range?_eq_none_iff : b.range? attempt = none ↔
    ∃ draw ≤ b.draws attempt, b.wait? attempt draw = none := by
  rw [range?_eq]
  constructor
  · intro h
    refine ⟨_, le_rfl, (wait?_eq_none_iff le_rfl).2 ?_⟩
    by_contra hsum
    rw [if_pos (not_le.1 hsum)] at h
    cases h
  · rintro ⟨draw, hdraw, hnone⟩
    have hsum := (wait?_eq_none_iff hdraw).1 hnone
    exact if_neg (by omega)

variable {r : ℕ × ℕ}

/-- A wait is the one in numbers that have no largest one. -/
theorem exists_eq_jittered_of_mem_waits {w : ℕ} (hw : w ∈ b.waits attempt) :
    ∃ draw ≤ b.draws attempt, w = b.jittered attempt draw := by
  obtain ⟨draw, hdraw, hsome⟩ := hw
  rw [wait?_eq hdraw] at hsome
  split_ifs at hsome
  cases hsome
  exact ⟨draw, hdraw, rfl⟩

/-- **The first end of the range is the shortest wait.** -/
theorem isLeast_range? (h : b.range? attempt = some r) : IsLeast (b.waits attempt) r.1 := by
  rw [range?_eq] at h
  split_ifs at h with hlast
  cases h
  refine ⟨⟨0, Nat.zero_le _, ?_⟩, ?_⟩
  · rw [wait?_eq (Nat.zero_le _), if_pos (by omega)]
  · intro w hw
    obtain ⟨draw, -, rfl⟩ := exists_eq_jittered_of_mem_waits hw
    exact jittered_le_jittered (Nat.zero_le _)

/-- **The second end of the range is the longest wait.** -/
theorem isGreatest_range? (h : b.range? attempt = some r) : IsGreatest (b.waits attempt) r.2 := by
  rw [range?_eq] at h
  split_ifs at h with hlast
  cases h
  refine ⟨⟨_, le_rfl, ?_⟩, ?_⟩
  · rw [wait?_eq le_rfl, if_pos hlast]
  · intro w hw
    obtain ⟨draw, hdraw, rfl⟩ := exists_eq_jittered_of_mem_waits hw
    exact jittered_le_jittered hdraw

end Backoff

end SeriesBridge
