import Mathlib.Data.Int.Log
import Mathlib.Data.Rat.Floor
import Mathlib.Tactic.FieldSimp
import Mathlib.Tactic.Linarith
import Mathlib.Tactic.Positivity
import Mathlib.Tactic.Ring
import SeriesBridge.Number.Double

/-! # The nearest double

`Double.nearest` works on a numerator and a denominator. Here it is read as a function of their
quotient, a rational number.

* **`Double.floorLog2_eq_log`** — the estimate and its mending are the binary logarithm.
* **`Double.nearest_congr`** — equal quotients have the same nearest double.
* **`Double.nearest_ratio`** — a finite double is the one nearest to its own quotient.
* **`Double.nearest_of_large`**, **`Double.nearest_of_small`** — infinity and zero at the ends. -/

namespace SeriesBridge.Double

/-! ## The binary logarithm -/

/-- **A power of two fits a quotient** when it does after the denominator or the numerator is
shifted by it. -/
theorem shifted_le_iff (num : Nat) {den : Nat} (hden : 0 < den) (e : Int) :
    (if 0 ≤ e then den <<< e.toNat ≤ num else den ≤ num <<< (-e).toNat) ↔
      (2 : ℚ) ^ e ≤ num / den := by
  have hden : (0 : ℚ) < den := by exact_mod_cast hden
  rw [le_div_iff₀ hden]
  by_cases he : 0 ≤ e
  · obtain ⟨k, rfl⟩ := Int.eq_ofNat_of_zero_le he
    rw [if_pos he, Int.toNat_natCast, Nat.shiftLeft_eq, zpow_natCast, mul_comm]
    norm_cast
  · obtain ⟨k, hk⟩ := Int.eq_ofNat_of_zero_le (show 0 ≤ -e by omega)
    obtain rfl : e = -k := by omega
    rw [if_neg he, neg_neg, Int.toNat_natCast, Nat.shiftLeft_eq, zpow_neg, zpow_natCast,
      inv_mul_le_iff₀ (by positivity), mul_comm]
    norm_cast

/-- A positive number lies between two powers of two. -/
theorem pow_log2_le {n : Nat} (h : 0 < n) : (2 : ℚ) ^ (n.log2 : Int) ≤ n := by
  rw [zpow_natCast]
  exact_mod_cast Nat.log2_self_le h.ne'

/-- The power of two after the logarithm is larger. -/
theorem lt_pow_log2_succ (n : Nat) : (n : ℚ) < 2 ^ ((n.log2 : Int) + 1) := by
  have h : n < 2 ^ (n.log2 + 1) := Nat.lt_log2_self
  rw [← Nat.cast_succ, zpow_natCast]
  exact_mod_cast h

/-- **The mended estimate is the binary logarithm** of a positive quotient: the difference of the
two logarithms is it, or one more. -/
theorem floorLog2_eq_log {num den : Nat} (hnum : 0 < num) (hden : 0 < den) :
    floorLog2 num den = Int.log 2 ((num : ℚ) / den) := by
  have hnum' : (0 : ℚ) < num := by exact_mod_cast hnum
  have hden' : (0 : ℚ) < den := by exact_mod_cast hden
  have hpos : (0 : ℚ) < (num : ℚ) / den := div_pos hnum' hden'
  -- The estimate is at most one too large.
  have hlow : (2 : ℚ) ^ ((num.log2 : Int) - den.log2 - 1) ≤ num / den := by
    rw [sub_sub, zpow_sub₀ two_ne_zero]
    exact div_le_div₀ hnum'.le (pow_log2_le hnum) hden' (lt_pow_log2_succ den).le
  have hhigh : (num : ℚ) / den < 2 ^ ((num.log2 : Int) - den.log2 + 1) := by
    rw [sub_add_eq_add_sub, zpow_sub₀ two_ne_zero]
    calc (num : ℚ) / den < 2 ^ ((num.log2 : Int) + 1) / den :=
          div_lt_div_of_pos_right (lt_pow_log2_succ num) hden'
      _ ≤ 2 ^ ((num.log2 : Int) + 1) / 2 ^ (den.log2 : Int) :=
          div_le_div_of_nonneg_left (zpow_pos two_pos _).le (zpow_pos two_pos _) (pow_log2_le hden)
  have hle : (num.log2 : Int) - den.log2 - 1 ≤ Int.log 2 ((num : ℚ) / den) :=
    (Int.zpow_le_iff_le_log one_lt_two hpos).1 (by exact_mod_cast hlow)
  have hlt : Int.log 2 ((num : ℚ) / den) < (num.log2 : Int) - den.log2 + 1 :=
    (Int.lt_zpow_iff_log_lt one_lt_two hpos).1 (by exact_mod_cast hhigh)
  have hmended : floorLog2 num den =
      if (2 : ℚ) ^ ((num.log2 : Int) - den.log2) ≤ num / den then (num.log2 : Int) - den.log2
      else (num.log2 : Int) - den.log2 - 1 :=
    if_congr (shifted_le_iff num hden _) rfl rfl
  have hlog : (2 : ℚ) ^ ((num.log2 : Int) - den.log2) ≤ num / den ↔
      (num.log2 : Int) - den.log2 ≤ Int.log 2 ((num : ℚ) / den) :=
    Int.zpow_le_iff_le_log (b := 2) one_lt_two hpos
  rw [hmended]
  by_cases h : (2 : ℚ) ^ ((num.log2 : Int) - den.log2) ≤ num / den
  · rw [if_pos h]
    have := hlog.1 h
    omega
  · rw [if_neg h]
    have := mt hlog.2 h
    omega

/-! ## Rounding -/

/-- A common factor leaves a rounded quotient as it is. -/
theorem roundHalfEven_mul {k : Nat} (hk : 0 < k) (num den : Nat) :
    roundHalfEven (k * num) (k * den) = roundHalfEven num den := by
  have hlt (a b : Nat) : 2 * (k * a) < k * b ↔ 2 * a < b := by
    rw [Nat.mul_left_comm]
    exact Nat.mul_lt_mul_left hk
  have hgt (a b : Nat) : k * b < 2 * (k * a) ↔ b < 2 * a := by
    rw [Nat.mul_left_comm]
    exact Nat.mul_lt_mul_left hk
  simp only [roundHalfEven, Nat.mul_div_mul_left _ _ hk, Nat.mul_mod_mul_left, hlt, hgt]

/-- A whole quotient is not rounded. -/
theorem roundHalfEven_exact {den : Nat} (hden : 0 < den) (m : Nat) :
    roundHalfEven (m * den) den = m := by
  simp [roundHalfEven, Nat.mul_div_cancel _ hden, hden]

/-- Less than a half is rounded to zero. -/
theorem roundHalfEven_of_lt_half {num den : Nat} (h : 2 * num < den) :
    roundHalfEven num den = 0 := by
  have hlt : num < den := by omega
  simp [roundHalfEven, Nat.mod_eq_of_lt hlt, Nat.div_eq_of_lt hlt, h]

/-! ## Functions of the quotient -/

/-- Nothing is nearest to nothing. -/
@[simp] theorem nearest_zero (den : Nat) : nearest 0 den = 0 := rfl

/-- A common factor leaves the nearest double as it is. -/
theorem nearest_mul {k den : Nat} (hk : 0 < k) (hden : 0 < den) (num : Nat) :
    nearest (k * num) (k * den) = nearest num den := by
  rcases Nat.eq_zero_or_pos num with rfl | hnum
  · rw [Nat.mul_zero, nearest_zero, nearest_zero]
  have hk' : (k : ℚ) ≠ 0 := by exact_mod_cast hk.ne'
  have hlog : floorLog2 (k * num) (k * den) = floorLog2 num den := by
    rw [floorLog2_eq_log (Nat.mul_pos hk hnum) (Nat.mul_pos hk hden),
      floorLog2_eq_log hnum hden, Nat.cast_mul, Nat.cast_mul, mul_div_mul_left _ _ hk']
  have hne : k * num ≠ 0 := (Nat.mul_pos hk hnum).ne'
  simp only [nearest, if_neg hne, if_neg hnum.ne', hlog, Nat.shiftLeft_eq, Nat.mul_assoc,
    roundHalfEven_mul hk]

/-- **The nearest double is a function of the quotient.** -/
theorem nearest_congr {a b c d : Nat} (hb : 0 < b) (hd : 0 < d)
    (h : (a : ℚ) / b = (c : ℚ) / d) : nearest a b = nearest c d := by
  have hb' : (b : ℚ) ≠ 0 := by exact_mod_cast hb.ne'
  have hd' : (d : ℚ) ≠ 0 := by exact_mod_cast hd.ne'
  have hcross : a * d = c * b := by
    rw [div_eq_div_iff hb' hd'] at h
    exact_mod_cast h
  calc nearest a b = nearest (d * a) (d * b) := (nearest_mul hd hb a).symm
    _ = nearest (b * c) (b * d) := by rw [Nat.mul_comm d a, hcross, Nat.mul_comm c b,
          Nat.mul_comm d b]
    _ = nearest c d := nearest_mul hb hd c

section Scale

variable {num den m : Nat} {s : Int}

/-- **The scale of a mantissa.** A quotient that is a mantissa at a scale is counted at that scale,
when the mantissa has 53 digits or the scale is the least one. -/
theorem scale_eq (hnum : 0 < num) (hden : 0 < den) (hm : 0 < m) (hs : -1074 ≤ s)
    (hlt : m < 2 ^ 53) (hdigits : 2 ^ 52 ≤ m ∨ s = -1074) (h : (num : ℚ) / den = m * 2 ^ s) :
    max (floorLog2 num den - 52) (-1074) = s := by
  have hpos : (0 : ℚ) < m * 2 ^ s := mul_pos (by exact_mod_cast hm) (zpow_pos two_pos _)
  rw [floorLog2_eq_log hnum hden, h]
  have hupper : Int.log 2 ((m : ℚ) * 2 ^ s) < 53 + s := by
    rw [← Int.lt_zpow_iff_log_lt one_lt_two hpos, Nat.cast_ofNat, zpow_add₀ two_ne_zero]
    exact mul_lt_mul_of_pos_right (by exact_mod_cast hlt) (zpow_pos two_pos _)
  rcases hdigits with hdigits | rfl
  · have hlower : 52 + s ≤ Int.log 2 ((m : ℚ) * 2 ^ s) := by
      rw [← Int.zpow_le_iff_le_log one_lt_two hpos, Nat.cast_ofNat, zpow_add₀ two_ne_zero]
      exact mul_le_mul_of_nonneg_right (by exact_mod_cast hdigits) (zpow_pos two_pos _).le
    omega
  · omega

/-- **A quotient that is whole at a scale** is rounded to what it is there. -/
theorem roundHalfEven_at (hden : 0 < den) (h : (num : ℚ) / den = m * 2 ^ s) :
    (if 0 ≤ s then roundHalfEven num (den <<< s.toNat)
      else roundHalfEven (num <<< (-s).toNat) den) = m := by
  have hden' : (den : ℚ) ≠ 0 := by exact_mod_cast hden.ne'
  rw [div_eq_iff hden'] at h
  by_cases hsign : 0 ≤ s
  · obtain ⟨k, rfl⟩ := Int.eq_ofNat_of_zero_le hsign
    have hwhole : num = m * (den * 2 ^ k) := by
      rw [zpow_natCast, mul_assoc, mul_comm _ (den : ℚ)] at h
      exact_mod_cast h
    rw [if_pos hsign, Int.toNat_natCast, Nat.shiftLeft_eq, hwhole,
      roundHalfEven_exact (Nat.mul_pos hden (Nat.two_pow_pos k))]
  · obtain ⟨k, hk⟩ := Int.eq_ofNat_of_zero_le (show 0 ≤ -s by omega)
    obtain rfl : s = -k := by omega
    have hwhole : num * 2 ^ k = m * den := by
      rw [zpow_neg, zpow_natCast, mul_assoc, mul_left_comm, mul_comm,
        ← div_eq_iff (inv_ne_zero (by positivity)), div_inv_eq_mul] at h
      exact_mod_cast h
    rw [if_neg hsign, neg_neg, Int.toNat_natCast, Nat.shiftLeft_eq, hwhole,
      roundHalfEven_exact hden]

/-- **A quotient that is a mantissa at a scale** rounds to that mantissa, when it has 53 digits or
the scale is the least one. -/
theorem nearest_of_scale (hden : 0 < den) (hm : 0 < m) (hs : -1074 ≤ s) (hlt : m < 2 ^ 53)
    (hdigits : 2 ^ 52 ≤ m ∨ s = -1074) (h : (num : ℚ) / den = m * 2 ^ s) :
    nearest num den = min ((s + 1074).toNat * 0x10000000000000 + m) infinityBits := by
  have hnum : 0 < num := by
    rcases Nat.eq_zero_or_pos num with rfl | hnum
    · have hpos : (0 : ℚ) < m * 2 ^ s := mul_pos (by exact_mod_cast hm) (zpow_pos two_pos _)
      rw [Nat.cast_zero, zero_div] at h
      exact absurd h hpos.ne
    · exact hnum
  simp only [nearest, if_neg hnum.ne', scale_eq hnum hden hm hs hlt hdigits h,
    roundHalfEven_at hden h]

end Scale

/-! ## Doubles as quotients -/

/-- **The parts make the double:** its sign and its magnitude are all of its bits. -/
@[simp] theorem ofParts_negative_magnitude (d : Double) : ofParts d.negative d.magnitude = d := by
  have hbits : d.bits.toNat < 0x10000000000000000 := d.bits.toNat_lt
  have hsum : (if d.negative then d.magnitude + 0x8000000000000000 else d.magnitude)
      = d.bits.toNat := by
    unfold negative magnitude
    split
    · next h =>
        rw [decide_eq_true_eq] at h
        omega
    · next h =>
        rw [decide_eq_true_eq] at h
        omega
  rw [ofParts, hsum, UInt64.ofNat_toNat]

/-- The quotient of a double has a denominator. -/
theorem ratio_den_pos (d : Double) : 0 < d.ratio.2 := by
  unfold ratio
  split
  · exact Nat.one_pos
  · rw [Nat.shiftLeft_eq, Nat.one_mul]
    exact Nat.two_pow_pos _

/-- **The quotient of a double** is its mantissa at its scale. -/
theorem ratio_eq (d : Double) : (d.ratio.1 : ℚ) / d.ratio.2 = d.mantissa * 2 ^ d.scale := by
  unfold ratio
  split
  · next h =>
      obtain ⟨k, hk⟩ := Int.eq_ofNat_of_zero_le h
      rw [hk, Int.toNat_natCast, Nat.shiftLeft_eq, zpow_natCast]
      push_cast
      rw [div_one]
  · next h =>
      obtain ⟨k, hk⟩ := Int.eq_ofNat_of_zero_le (show 0 ≤ -d.scale by omega)
      have hscale : d.scale = -k := by omega
      rw [hscale, neg_neg, Int.toNat_natCast, Nat.shiftLeft_eq, zpow_neg, zpow_natCast,
        div_eq_mul_inv]
      push_cast
      rw [one_mul]

/-- A double of magnitude zero has the quotient zero. -/
theorem ratio_eq_zero {d : Double} (h : d.magnitude = 0) : d.ratio.1 = 0 := by
  have hmantissa : d.mantissa = 0 := by simp [mantissa, exponentField, h]
  unfold ratio
  split
  · simp [hmantissa]
  · simp [hmantissa]

/-- **A finite double is the one nearest to its own quotient.** Subnormal doubles are their
mantissas, the others carry the leading bit into the exponent. -/
theorem nearest_ratio {d : Double} (h : d.isFinite = true) :
    nearest d.ratio.1 d.ratio.2 = d.magnitude := by
  rcases Nat.eq_zero_or_pos d.magnitude with hzero | hpos
  · rw [ratio_eq_zero hzero, nearest_zero, hzero]
  have hfield : d.exponentField = d.magnitude / 0x10000000000000 := rfl
  have hfinite : d.exponentField < 2047 := of_decide_eq_true h
  have hquotient := d.ratio_eq
  by_cases hsub : d.exponentField = 0
  · -- A subnormal double is counted at the least scale, where its mantissa may be short.
    have hmantissa : d.mantissa = d.magnitude := if_pos hsub
    have hscale : d.scale = -1074 := if_pos hsub
    rw [hmantissa, hscale] at hquotient
    rw [nearest_of_scale d.ratio_den_pos hpos le_rfl (by omega) (.inr rfl) hquotient, infinityBits]
    omega
  · have hmantissa : d.mantissa = d.magnitude % 0x10000000000000 + 0x10000000000000 := if_neg hsub
    have hscale : d.scale = (d.exponentField : Int) - 1075 := if_neg hsub
    rw [hmantissa, hscale] at hquotient
    rw [nearest_of_scale d.ratio_den_pos (by omega) (by omega) (by omega) (.inl (by omega))
      hquotient, infinityBits]
    omega

/-! ## The ends of the range -/

/-- **Infinity.** A quotient that reaches `2 ^ 1200` is beyond the doubles. -/
theorem nearest_of_large {num den : Nat} (hden : 0 < den) (h : (2 : ℚ) ^ (1200 : Int) ≤ num / den) :
    nearest num den = infinityBits := by
  have hpos : (0 : ℚ) < (num : ℚ) / den := (zpow_pos two_pos _).trans_le h
  have hnum : 0 < num := by
    rcases Nat.eq_zero_or_pos num with rfl | hnum
    · simp at hpos
    · exact hnum
  have hlog : 1200 ≤ floorLog2 num den := by
    rw [floorLog2_eq_log hnum hden]
    exact (Int.zpow_le_iff_le_log one_lt_two hpos).1 h
  simp only [nearest, if_neg hnum.ne', infinityBits]
  omega

/-- **Zero.** A quotient below `2 ^ (-1080)` is nearer to zero than to any double. -/
theorem nearest_of_small {num den : Nat} (hden : 0 < den) (h : (num : ℚ) / den < 2 ^ (-1080 : Int)) :
    nearest num den = 0 := by
  rcases Nat.eq_zero_or_pos num with rfl | hnum
  · exact nearest_zero den
  have hnum' : (0 : ℚ) < num := by exact_mod_cast hnum
  have hden' : (0 : ℚ) < den := by exact_mod_cast hden
  have hlog : floorLog2 num den < -1080 := by
    rw [floorLog2_eq_log hnum hden]
    exact (Int.lt_zpow_iff_log_lt one_lt_two (div_pos hnum' hden')).1 h
  have hscale : max (floorLog2 num den - 52) (-1074) = -1074 := by omega
  have hhalf : 2 * (num <<< 1074) < den := by
    rw [Nat.shiftLeft_eq]
    rw [div_lt_iff₀ hden', zpow_neg, ← div_eq_inv_mul, lt_div_iff₀ (zpow_pos two_pos _)] at h
    have h : num * 2 ^ 1080 < den := by exact_mod_cast h
    omega
  simp [nearest, hnum.ne', hscale, roundHalfEven_of_lt_half hhalf]

end SeriesBridge.Double
