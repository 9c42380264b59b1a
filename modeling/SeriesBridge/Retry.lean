import SeriesBridge.Error

/-! # Retrying

Two ways to try again: a fixed wait between attempts to connect, and a growing, jittered wait
between attempts to handle a record.

* **`RetryPolicy`** — at least one attempt, and the wait between attempts in milliseconds.
* **`Backoff`** — how often a record is tried again and how the waits grow.
* **`Backoff.wait? b attempt draw`** — the wait before a retry, for a draw of the jitter. -/

namespace SeriesBridge

/-! ## Fixed waits -/

/-- **A bounded number of attempts with a fixed wait between them.** -/
structure RetryPolicy where
  maxAttempts : Nat
  /-- The wait in milliseconds. -/
  wait : Nat
  one_le : 1 ≤ maxAttempts
  deriving DecidableEq, Repr

namespace RetryPolicy

/-- A policy needs at least one attempt. -/
def make (maxAttempts wait : Nat) : Outcome RetryPolicy :=
  if h : 1 ≤ maxAttempts then .ok ⟨maxAttempts, wait, h⟩
  else .error (.configuration "max connection attempts must be >= 1")

/-- One attempt and no wait. -/
def once : RetryPolicy := ⟨1, 0, Nat.le_refl 1⟩

end RetryPolicy

/-! ## Growing waits -/

/-- **Waits that double with every retry** up to a limit, each moved by a tenth either way at
random. Milliseconds are unsigned 64-bit words. -/
structure Backoff where
  maxRetries : Nat := 3
  base : UInt64 := 1000
  limit : UInt64 := 30000
  deriving DecidableEq, Repr, Inhabited

namespace Backoff

/-- The largest number of milliseconds. -/
def largest : Nat := 0xFFFFFFFFFFFFFFFF

/-- The sum of two words, if it is one. -/
def sum? (m n : Nat) : Option Nat := if m + n ≤ largest then some (m + n) else none

/-- Whether another retry is allowed after `attempt` of them. -/
def mayRetry (b : Backoff) (attempt : Nat) : Bool := attempt < b.maxRetries

/-- How often the wait has doubled before a retry, at most twenty times. -/
def doublings (attempt : Nat) : Nat := min (attempt - 1) 20

/-- The wait before a retry without jitter; doubling stops at the largest word. -/
def steady (b : Backoff) (attempt : Nat) : Nat :=
  min (min (b.base.toNat <<< doublings attempt) largest) b.limit.toNat

/-- The greatest jitter around a wait: a tenth of it, and one millisecond at least. -/
def jitter (wait : Nat) : Nat := max (wait / 10) 1

/-- How many draws there are for a retry, counted from zero: `draw ≤ draws`. -/
def draws (b : Backoff) (attempt : Nat) : Nat :=
  if b.steady attempt = 0 then 0 else 2 * jitter (b.steady attempt)

/-- **The wait before a retry.** The draw moves the steady wait by at most its jitter; the result
does not pass the limit. The draw is added before the jitter is taken off, and a sum that is no
word breaks the computation off. A wait of zero stays zero. -/
def wait? (b : Backoff) (attempt draw : Nat) : Option Nat :=
  let steady := b.steady attempt
  if steady = 0 then some 0
  else (sum? steady draw).map (fun sum => min (sum - jitter steady) b.limit.toNat)

/-- The greatest draw that can be added to the steady wait. -/
def room (b : Backoff) (attempt : Nat) : Nat := largest - b.steady attempt

/-- There is a wait for every draw that can be added. -/
theorem isSome_wait? {b : Backoff} {attempt draw : Nat} (h : draw ≤ b.room attempt) :
    (b.wait? attempt draw).isSome := by
  have hsteady : b.steady attempt ≤ largest :=
    Nat.le_trans (Nat.min_le_left _ _) (Nat.min_le_right _ _)
  have hsum : b.steady attempt + draw ≤ largest := by
    unfold room at h
    omega
  simp only [wait?, sum?, if_pos hsum]
  split <;> rfl

/-- The shortest and the longest wait before a retry, if no draw breaks the computation off. Waits
grow with the draw. -/
def range? (b : Backoff) (attempt : Nat) : Option (Nat × Nat) := do
  let longest ← b.wait? attempt (b.draws attempt)
  let shortest ← b.wait? attempt 0
  some (shortest, longest)

end Backoff

end SeriesBridge
