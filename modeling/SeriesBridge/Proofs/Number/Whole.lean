import Mathlib.Algebra.Order.Group.Unbundled.Int
import SeriesBridge.Proofs.Number.Nearest

/-! # Whole numbers as doubles

The words from `2 ^ 63` to `2 ^ 64 - 1` are no signed words, and the doubles among them are the multiples
of 2048. Such a word becomes the nearest of them.

* **`Double.value`** — the rational number that a finite double is.
* **`Double.exists_value_eq_mul`** — large doubles are multiples of 2048.
* **`Double.value_ofInt`** — the double of a large word, as a multiple of 2048.
* **`Double.abs_value_ofInt_sub_le`** — no finite double is nearer to the word. -/

namespace SeriesBridge.Double

/-- The rational number that a finite double is. -/
def value (d : Double) : ℚ := (if d.negative then -1 else 1) * (d.mantissa * 2 ^ d.scale)

/-! ## Parts -/

section Parts

variable {neg : Bool} {m : Nat}

/-- The bits of a double are its sign and its magnitude. -/
theorem toNat_bits_ofParts (h : m < 2 ^ 63) :
    (ofParts neg m).bits.toNat = if neg then m + 2 ^ 63 else m := by
  rw [ofParts, UInt64.toNat_ofNat']
  split <;> omega

/-- A double has the magnitude that it is made of. -/
theorem magnitude_ofParts (h : m < 2 ^ 63) : (ofParts neg m).magnitude = m := by
  rw [magnitude, toNat_bits_ofParts h]
  split <;> omega

/-- A double has the sign that it is made of. -/
theorem negative_ofParts (h : m < 2 ^ 63) : (ofParts neg m).negative = neg := by
  rw [negative, toNat_bits_ofParts h]
  cases neg with
  | false => simpa using h
  | true => simp

end Parts

/-- The mantissa of a double has 53 digits at most. -/
theorem mantissa_lt (d : Double) : d.mantissa < 2 ^ 53 := by
  have hfield : d.exponentField = d.magnitude / 0x10000000000000 := rfl
  unfold mantissa
  split <;> omega

/-- How far a double is from zero. -/
theorem abs_value (d : Double) : |d.value| = d.mantissa * 2 ^ d.scale := by
  have hpos : (0 : ℚ) ≤ d.mantissa * 2 ^ d.scale :=
    mul_nonneg (Nat.cast_nonneg _) (zpow_pos two_pos _).le
  unfold value
  split <;> simp [abs_of_nonneg hpos]

/-- **Large doubles are multiples of 2048:** a mantissa that reaches `2 ^ 63` at a scale needs the scale
for ten digits more than it has. -/
theorem exists_value_eq_mul {d : Double} (h : 2 ^ 63 ≤ |d.value|) : ∃ k : ℤ, d.value = 2048 * k := by
  rw [abs_value] at h
  have hmantissa : (d.mantissa : ℚ) < 2 ^ 53 := by exact_mod_cast d.mantissa_lt
  have hscale : 11 ≤ d.scale := by
    have hlt : (2 : ℚ) ^ (63 : ℤ) < 2 ^ (53 + d.scale) := by
      calc (2 : ℚ) ^ (63 : ℤ) ≤ d.mantissa * 2 ^ d.scale := by exact_mod_cast h
        _ < 2 ^ 53 * 2 ^ d.scale := mul_lt_mul_of_pos_right hmantissa (zpow_pos two_pos _)
        _ = 2 ^ (53 + d.scale) := by rw [zpow_add₀ two_ne_zero]; norm_cast
    have := (zpow_lt_zpow_iff_right₀ (one_lt_two (α := ℚ))).1 hlt
    omega
  obtain ⟨j, hj⟩ := Int.eq_ofNat_of_zero_le (show 0 ≤ d.scale - 11 by omega)
  refine ⟨(if d.negative then -1 else 1) * (d.mantissa * 2 ^ j), ?_⟩
  rw [value, show d.scale = (11 : ℤ) + j by omega, zpow_add₀ two_ne_zero]
  push_cast
  split <;> norm_num <;> ring

/-! ## Rounding -/

/-- **Rounding to a whole number** is off by a half at most. -/
theorem two_mul_abs_roundHalfEven_le (num : Nat) {den : Nat} (hden : 0 < den) :
    2 * |(roundHalfEven num den * den : ℤ) - num| ≤ den := by
  have hlt : num % den < den := Nat.mod_lt num hden
  have hdiv : (num : ℤ) = (num / den : ℕ) * den + (num % den : ℕ) := by
    exact_mod_cast (Nat.div_add_mod' num den).symm
  have hcases : (roundHalfEven num den = num / den ∧ 2 * (num % den) ≤ den) ∨
      (roundHalfEven num den = num / den + 1 ∧ den ≤ 2 * (num % den)) := by
    unfold roundHalfEven
    dsimp only
    split_ifs <;> omega
  rw [hdiv]
  rcases hcases with ⟨hround, hhalf⟩ | ⟨hround, hhalf⟩
  · rw [hround, sub_add_cancel_left, abs_neg, Nat.abs_cast]
    exact_mod_cast hhalf
  · have hover : ((num / den + 1 : ℕ) : ℤ) * den - ((num / den : ℕ) * den + (num % den : ℕ)) =
        den - (num % den : ℕ) := by
      push_cast
      ring
    rw [hround, hover, abs_of_nonneg (by omega)]
    omega

/-- **The nearest multiple** of the denominator: one that is off by a half at most. -/
theorem abs_roundHalfEven_le (num : Nat) {den : Nat} (hden : 0 < den) (k : ℤ) :
    |(roundHalfEven num den * den : ℤ) - num| ≤ |k * den - num| := by
  have hhalf := two_mul_abs_roundHalfEven_le num hden
  by_cases hk : k = roundHalfEven num den
  · rw [hk]
  -- Another multiple is a whole denominator away from this one.
  have hapart : (den : ℤ) ≤ |k * den - roundHalfEven num den * den| := by
    rw [← sub_mul, abs_mul, Nat.abs_cast]
    exact le_mul_of_one_le_left (by omega) (Int.one_le_abs (sub_ne_zero.2 hk))
  have htriangle := abs_sub_le (k * den : ℤ) num (roundHalfEven num den * den)
  rw [abs_sub_comm (num : ℤ)] at htriangle
  omega

/-! ## Large words -/

/-- A large word has 64 digits. -/
theorem floorLog2_of_word {k : Nat} (h : 2 ^ 63 ≤ k ∧ k < 2 ^ 64) : floorLog2 k 1 = 63 := by
  have hk : (0 : ℚ) < (k : ℚ) / (1 : ℕ) := by
    rw [Nat.cast_one, div_one]
    exact_mod_cast (show 0 < k by omega)
  rw [floorLog2_eq_log (by omega) Nat.one_pos]
  apply le_antisymm
  · refine Int.lt_add_one_iff.1 ((Int.lt_zpow_iff_log_lt one_lt_two hk).1 ?_)
    rw [Nat.cast_one, div_one]
    exact_mod_cast h.2
  · refine (Int.zpow_le_iff_le_log one_lt_two hk).1 ?_
    rw [Nat.cast_one, div_one]
    exact_mod_cast h.1

/-- A large word is at most `2 ^ 53` multiples, and at least half as many. -/
theorem roundHalfEven_of_word {k : Nat} (h : 2 ^ 63 ≤ k ∧ k < 2 ^ 64) :
    2 ^ 52 ≤ roundHalfEven k 2048 ∧ roundHalfEven k 2048 ≤ 2 ^ 53 := by
  unfold roundHalfEven
  dsimp only
  split_ifs <;> omega

/-- **The bits of a large word.** When it is rounded up to `2 ^ 64` the mantissa carries into the
exponent. -/
theorem nearest_of_word {k : Nat} (h : 2 ^ 63 ≤ k ∧ k < 2 ^ 64) :
    nearest k 1 = 1085 * 0x10000000000000 + roundHalfEven k 2048 := by
  have hround := roundHalfEven_of_word h
  have hscale : max ((63 : ℤ) - 52) (-1074) = 11 := by decide
  have hne : k ≠ 0 := by omega
  simp only [nearest, if_neg hne, floorLog2_of_word h, hscale]
  show min (1085 * 0x10000000000000 + roundHalfEven k 2048) infinityBits = _
  exact min_eq_left (by unfold infinityBits; omega)

section Words

variable {n : Int}

/-- **The double of a large word** is the multiple of 2048 that the word is rounded to. -/
theorem value_ofInt (h : 2 ^ 63 ≤ n ∧ n < 2 ^ 64) :
    (ofInt n).isFinite = true ∧ (ofInt n).value = 2048 * (roundHalfEven n.natAbs 2048 : ℤ) := by
  have hword : 2 ^ 63 ≤ n.natAbs ∧ n.natAbs < 2 ^ 64 := by omega
  have hround := roundHalfEven_of_word hword
  have hbits : ofInt n = ofParts false (1085 * 0x10000000000000 + roundHalfEven n.natAbs 2048) := by
    rw [ofInt, ofRatio, nearest_of_word hword, decide_eq_false (by omega)]
  generalize roundHalfEven n.natAbs 2048 = m at hround hbits
  have hmagnitude : (ofInt n).magnitude = 1085 * 0x10000000000000 + m := by
    rw [hbits, magnitude_ofParts (by omega)]
  have hnegative : (ofInt n).negative = false := by
    rw [hbits, negative_ofParts (by omega)]
  have hfield : (ofInt n).exponentField = (1085 * 0x10000000000000 + m) / 0x10000000000000 := by
    rw [exponentField, hmagnitude]
  have hmantissa : (ofInt n).mantissa = (ofInt n).magnitude % 0x10000000000000 + 0x10000000000000 :=
    if_neg (by omega)
  have hscale : (ofInt n).scale = (ofInt n).exponentField - 1075 := if_neg (by omega)
  refine ⟨decide_eq_true (show (ofInt n).exponentField < 2047 by omega), ?_⟩
  rw [value, hnegative, if_neg Bool.false_ne_true, one_mul, hscale]
  by_cases hfull : m = 2 ^ 53
  · -- The mantissa begins anew at the next exponent.
    rw [show (ofInt n).mantissa = 2 ^ 52 by omega, show ((ofInt n).exponentField : ℤ) - 1075 = 12 by omega,
      hfull]
    norm_num
  · rw [show (ofInt n).mantissa = m by omega, show ((ofInt n).exponentField : ℤ) - 1075 = 11 by omega]
    norm_num
    ring

/-- **A large word is a double** exactly when it is a multiple of 2048. -/
theorem value_ofInt_eq_iff (h : 2 ^ 63 ≤ n ∧ n < 2 ^ 64) : (ofInt n).value = n ↔ 2048 ∣ n := by
  rw [(value_ofInt h).2]
  constructor
  · intro hexact
    exact ⟨roundHalfEven n.natAbs 2048, by exact_mod_cast hexact.symm⟩
  · rintro ⟨k, rfl⟩
    have hround : roundHalfEven (2048 * k).natAbs 2048 = k.natAbs := by
      rw [show (2048 * k).natAbs = k.natAbs * 2048 by omega]
      exact roundHalfEven_exact (by decide) k.natAbs
    rw [hround, Int.natAbs_of_nonneg (by omega)]
    push_cast
    rfl

/-- **No finite double is nearer** to a large word than its own. -/
theorem abs_value_ofInt_sub_le (h : 2 ^ 63 ≤ n ∧ n < 2 ^ 64) (d : Double) :
    |(ofInt n).value - n| ≤ |d.value - n| := by
  -- Of all multiples of 2048 it is the nearest one.
  have hmultiple (k : ℤ) : |(ofInt n).value - n| ≤ |2048 * (k : ℚ) - n| := by
    have hnearest := abs_roundHalfEven_le n.natAbs (show 0 < 2048 by decide) k
    rw [Int.natAbs_of_nonneg (by omega)] at hnearest
    rw [(value_ofInt h).2, mul_comm, mul_comm (2048 : ℚ)]
    exact_mod_cast hnearest
  by_cases hlarge : 2 ^ 63 ≤ |d.value|
  · obtain ⟨k, hk⟩ := exists_value_eq_mul hlarge
    rw [hk]
    exact hmultiple k
  · -- A smaller double lies below the least large one, which is a multiple itself.
    have hleast := hmultiple (2 ^ 52)
    have hn : (2 : ℚ) ^ 63 ≤ n := by exact_mod_cast h.1
    have hd := (le_abs_self d.value).trans_lt (not_le.1 hlarge)
    rw [abs_of_nonpos (a := 2048 * _ - _) (by push_cast; linarith)] at hleast
    rw [abs_of_nonpos (a := d.value - n) (by linarith)]
    push_cast at hleast
    linarith

end Words

end SeriesBridge.Double
