import SeriesBridge.Proofs.Number.Nearest
import SeriesBridge.Proofs.Number.Numeral

/-! # Doubles read back

The text of a finite double is read as the same double, bit for bit. Zeros that move between the
digits, the exponent and the text leave the value of a decimal as it is, and the nearest double
depends on the value alone.

* **`Decimal.value`** — the rational number that a decimal is.
* **`Decimal.toDouble_congr`** — decimals of one value have one nearest double.
* **`Double.toDouble_shortest`** — the shortest decimal of a double denotes it.
* **`Double.read?_positional`** — the positional text of a double is read as it. -/

namespace SeriesBridge

/-! ## Values of decimals -/

namespace Decimal

/-- The rational number that a decimal is. -/
def value (x : Decimal) : ℚ := x.digits * 10 ^ x.exponent

/-- **The value as a quotient:** the power of ten multiplies the digits or divides them. -/
theorem quotient_eq_value (x : Decimal) :
    ((x.digits * 10 ^ x.exponent.toNat : Nat) : ℚ) / (10 ^ (-x.exponent).toNat : Nat) =
      x.value := by
  unfold value
  by_cases h : 0 ≤ x.exponent
  · obtain ⟨k, hk⟩ := Int.eq_ofNat_of_zero_le h
    have hneg : (-(k : Int)).toNat = 0 := by omega
    rw [hk, Int.toNat_natCast, hneg, zpow_natCast]
    push_cast
    rw [div_one]
  · obtain ⟨k, hk⟩ := Int.eq_ofNat_of_zero_le (show 0 ≤ -x.exponent by omega)
    have hexponent : x.exponent = -k := by omega
    have hneg : (-(k : Int)).toNat = 0 := by omega
    rw [hexponent, neg_neg, Int.toNat_natCast, hneg, zpow_neg, zpow_natCast, div_eq_mul_inv]
    push_cast
    rw [mul_one]

/-- A decimal whose exponent passes 400 is beyond the doubles. -/
theorem large_value {x : Decimal} (hdigits : 0 < x.digits) (h : 400 < x.exponent) :
    (2 : ℚ) ^ (1200 : Int) ≤ x.value := by
  have hone : (1 : ℚ) ≤ x.digits := by exact_mod_cast hdigits
  have hcube : (2 : ℚ) ^ (1200 : Int) = 8 ^ (400 : Int) := by
    rw [show (8 : ℚ) = 2 ^ (3 : Int) by norm_num, ← zpow_mul]
    rfl
  calc (2 : ℚ) ^ (1200 : Int) = 8 ^ (400 : Int) := hcube
    _ ≤ 10 ^ (400 : Int) := zpow_le_zpow_left₀ (by norm_num) (by norm_num) (by norm_num)
    _ ≤ 10 ^ x.exponent := zpow_le_zpow_right₀ (by norm_num) h.le
    _ ≤ x.digits * 10 ^ x.exponent := le_mul_of_one_le_left (zpow_pos (by norm_num) _).le hone

/-- **A decimal is small** when its digits are few and its exponent is low: a decimal place is
more than three binary ones. -/
theorem small_value {x : Decimal} (hexponent : x.exponent < 0)
    (h : (x.digits.log2 : Int) + 1 + 3 * x.exponent < -1080) : x.value < 2 ^ (-1080 : Int) := by
  obtain ⟨k, hk⟩ := Int.eq_ofNat_of_zero_le (show 0 ≤ -x.exponent by omega)
  have hten : (10 : ℚ) ^ x.exponent ≤ 2 ^ (3 * x.exponent) := by
    rw [show x.exponent = -k by omega, mul_neg, zpow_neg, zpow_neg, zpow_natCast, zpow_mul,
      zpow_natCast]
    exact inv_anti₀ (by positivity) (pow_le_pow_left₀ (by norm_num) (by norm_num) k)
  calc x.value ≤ x.digits * 2 ^ (3 * x.exponent) :=
        mul_le_mul_of_nonneg_left hten (Nat.cast_nonneg _)
    _ < 2 ^ ((x.digits.log2 : Int) + 1) * 2 ^ (3 * x.exponent) :=
        mul_lt_mul_of_pos_right (Double.lt_pow_log2_succ _) (zpow_pos two_pos _)
    _ = 2 ^ ((x.digits.log2 : Int) + 1 + 3 * x.exponent) := (zpow_add₀ two_ne_zero _ _).symm
    _ ≤ 2 ^ (-1080 : Int) := zpow_le_zpow_right₀ one_le_two h.le

/-- **The nearest double of a decimal** is that of any quotient equal to its value; the two
cutoffs only say early what rounding would say. -/
theorem toDouble_eq {x : Decimal} {num den : Nat} (neg : Bool) (hden : 0 < den)
    (h : (num : ℚ) / den = x.value) : x.toDouble neg = .ofRatio neg num den := by
  have hquotient : Double.nearest num den =
      Double.nearest (x.digits * 10 ^ x.exponent.toNat) (10 ^ (-x.exponent).toNat) :=
    Double.nearest_congr hden (Nat.pow_pos (by decide)) (h.trans x.quotient_eq_value.symm)
  rw [Double.ofRatio]
  unfold toDouble
  by_cases hdigits : x.digits = 0
  · rw [if_pos hdigits, hquotient, hdigits, Nat.zero_mul, Double.nearest_zero]
  rw [if_neg hdigits]
  by_cases hsign : 0 ≤ x.exponent
  · rw [if_pos hsign]
    -- Beyond 400 both sides are infinity.
    by_cases hlarge : 400 < x.exponent
    · rw [if_pos hlarge, Double.nearest_of_large hden]
      rw [h]
      exact large_value (Nat.pos_of_ne_zero hdigits) hlarge
    · have hneg : (-x.exponent).toNat = 0 := by omega
      rw [if_neg hlarge, hquotient, hneg]
      rfl
  · rw [if_neg hsign]
    -- Below the cutoff both sides are zero.
    by_cases hsmall : (x.digits.log2 : Int) + 1 + 3 * x.exponent < -1080
    · rw [if_pos hsmall, Double.nearest_of_small hden]
      rw [h]
      exact small_value (by omega) hsmall
    · have hneg : x.exponent.toNat = 0 := by omega
      rw [if_neg hsmall, hquotient, hneg, Nat.pow_zero, Nat.mul_one]
      rfl

/-- **Decimals of one value have one nearest double.** -/
theorem toDouble_congr {x y : Decimal} (neg : Bool) (h : x.value = y.value) :
    x.toDouble neg = y.toDouble neg := by
  have hden : 0 < 10 ^ (-y.exponent).toNat := Nat.pow_pos (by decide)
  rw [toDouble_eq neg hden (y.quotient_eq_value.trans h.symm),
    toDouble_eq neg hden y.quotient_eq_value]

/-- Zeros that move into the exponent leave the value as it is. -/
theorem value_stripZeros (n : Nat) (x : Decimal) : (x.stripZeros n).value = x.value := by
  induction n generalizing x with
  | zero => rfl
  | succ n ih =>
      unfold stripZeros
      split
      · next h =>
          have hten : ((x.digits / 10 : Nat) : ℚ) * 10 = x.digits := by
            exact_mod_cast (show x.digits / 10 * 10 = x.digits by omega)
          rw [ih, value, value, zpow_add_one₀ (by norm_num), ← hten]
          ring
      · rfl

end Decimal

namespace Double

/-! ## Shortest decimals -/

/-- **A decimal that is taken from the grid denotes the double:** it was tried. -/
theorem toDouble_of_onGrid {tie : Tie} {d : Double} {n : Nat} {x : Decimal}
    (h : d.onGrid tie n = some x) : x.toDouble d.negative = d := by
  unfold onGrid at h
  dsimp only at h
  -- Which decimals are tried does not matter, only that each was.
  generalize floorLog10 d.ratio.1 d.ratio.2 - n + 1 = unit at h
  generalize (if 0 ≤ unit then (d.ratio.1, d.ratio.2 * Nat.pow 10 unit.toNat)
    else (d.ratio.1 * Nat.pow 10 (-unit).toNat, d.ratio.2)) = quotient at h
  split at h
  · next hbelow habove =>
      split at h
      · rw [← Option.some.inj h]
        exact eq_of_beq habove
      · rw [← Option.some.inj h]
        exact eq_of_beq hbelow
  · next hbelow _ =>
      rw [← Option.some.inj h]
      exact eq_of_beq hbelow
  · next _ habove =>
      rw [← Option.some.inj h]
      exact eq_of_beq habove
  · exact absurd h (Option.some_ne_none x).symm

/-- **The exact decimal** is the mantissa at its scale: a half is five tenths. -/
theorem value_exactDecimal (d : Double) : d.exactDecimal.value = d.mantissa * 2 ^ d.scale := by
  unfold exactDecimal Decimal.value
  split
  · next h =>
      obtain ⟨k, hk⟩ := Int.eq_ofNat_of_zero_le h
      rw [hk, Int.toNat_natCast, Nat.shiftLeft_eq, zpow_natCast, zpow_zero, mul_one]
      push_cast
      rfl
  · next h =>
      obtain ⟨k, hk⟩ := Int.eq_ofNat_of_zero_le (show 0 ≤ -d.scale by omega)
      have hscale : d.scale = -k := by omega
      simp only [hscale, neg_neg, Int.toNat_natCast, zpow_neg, zpow_natCast, Nat.pow_eq]
      push_cast
      rw [show (10 : ℚ) = 5 * 2 by norm_num, mul_pow, mul_inv, mul_assoc,
        mul_inv_cancel_left₀ (by positivity)]

/-- A finite double is the nearest one of its exact decimal. -/
theorem toDouble_exactDecimal {d : Double} (h : d.isFinite = true) :
    d.exactDecimal.toDouble d.negative = d := by
  have hvalue : (d.ratio.1 : ℚ) / d.ratio.2 = d.exactDecimal.value :=
    d.ratio_eq.trans d.value_exactDecimal.symm
  rw [Decimal.toDouble_eq _ d.ratio_den_pos hvalue, ofRatio, nearest_ratio h,
    ofParts_negative_magnitude]

/-- **The shortest decimal denotes the double.** Whichever grid gives it, and the exact decimal
where none does, its trailing zeros do not count. -/
theorem toDouble_shortest (tie : Tie) {d : Double} (h : d.isFinite = true) :
    (d.shortest tie).toDouble d.negative = d := by
  unfold shortest
  split
  · next hzero =>
      show ofParts d.negative 0 = d
      rw [← hzero, ofParts_negative_magnitude]
  · rw [Decimal.toDouble_congr _ (Decimal.value_stripZeros 400 _)]
    cases hfound : (List.range 17).findSome? (fun n => d.onGrid tie (n + 1)) with
    | none => exact toDouble_exactDecimal h
    | some x =>
        obtain ⟨n, -, hgrid⟩ := List.exists_of_findSome?_eq_some hfound
        exact toDouble_of_onGrid hgrid

/-! ## Positional text -/

/-- Zeros are digits. -/
theorem isDigit_of_mem_zeros {n : Nat} {c : Char} (h : c ∈ List.replicate n '0') :
    c.isDigit = true := by
  rw [List.eq_of_mem_replicate h]
  decide

/-- Zeros and digits are digits. -/
theorem isDigit_of_mem_append {a b : List Char} (ha : ∀ c ∈ a, c.isDigit = true)
    (hb : ∀ c ∈ b, c.isDigit = true) : ∀ c ∈ a ++ b, c.isDigit = true := by
  intro c hc
  exact (List.mem_append.1 hc).elim (ha c) (hb c)

/-- **Positional text of a whole number:** zeros stand for the exponent. -/
theorem positionalDigits_whole (digits exponent : Nat) :
    ∃ whole, positionalDigits ⟨digits, exponent⟩ = whole ∧ whole ≠ [] ∧
      (∀ c ∈ whole, c.isDigit = true) ∧
      Decimal.value ⟨Text.natOfDigits 0 whole, 0⟩ = Decimal.value ⟨digits, exponent⟩ := by
  have htext : positionalDigits ⟨digits, exponent⟩ =
      Text.showNat digits ++ List.replicate exponent '0' := by
    simp only [positionalDigits, if_pos (Int.natCast_nonneg exponent), Int.toNat_natCast]
  refine ⟨_, htext, by simp [Text.showNat_ne_nil], ?_, ?_⟩
  · exact isDigit_of_mem_append (fun c => Text.isDigit_of_mem_showNat)
      (fun c => isDigit_of_mem_zeros)
  · rw [Text.natOfDigits_append, Text.natOfDigits_showNat, Text.natOfDigits_replicate_zero,
      Decimal.value, Decimal.value, zpow_zero, zpow_natCast, mul_one, Nat.pow_eq]
    push_cast
    rfl

/-- **Positional text of a fraction:** the point stands between the digits, or before them with zeros
in between. -/
theorem positionalDigits_fraction (digits : Nat) {places : Nat} (hplaces : 0 < places) :
    ∃ whole fraction, positionalDigits ⟨digits, -places⟩ = whole ++ '.' :: fraction ∧ whole ≠ [] ∧
      (∀ c ∈ whole, c.isDigit = true) ∧ (∀ c ∈ fraction, c.isDigit = true) ∧
      (⟨Text.natOfDigits 0 (whole ++ fraction), -fraction.length⟩ : Decimal) =
        ⟨digits, -places⟩ := by
  have hsign : ¬ 0 ≤ -(places : Int) := by omega
  have hneg : (-(-(places : Int))).toNat = places := by omega
  have hdigits : ∀ c ∈ Text.showNat digits, c.isDigit = true :=
    fun c => Text.isDigit_of_mem_showNat
  simp only [positionalDigits, if_neg hsign, hneg]
  generalize hds : Text.showNat digits = ds at hdigits
  have hvalue : Text.natOfDigits 0 ds = digits := by
    rw [← hds, Text.natOfDigits_showNat]
  by_cases hinside : places < ds.length
  · rw [if_pos hinside]
    refine ⟨ds.take (ds.length - places), ds.drop (ds.length - places), rfl, ?_,
      fun c hc => hdigits c (List.mem_of_mem_take hc),
      fun c hc => hdigits c (List.mem_of_mem_drop hc), ?_⟩
    · rw [ne_eq, List.take_eq_nil_iff, not_or]
      exact ⟨by omega, by rw [← hds]; exact Text.showNat_ne_nil digits⟩
    · rw [List.take_append_drop, hvalue, List.length_drop]
      congr 1
      omega
  · rw [if_neg hinside]
    refine ⟨['0'], List.replicate (places - ds.length) '0' ++ ds, rfl, List.cons_ne_nil _ _,
      fun c => isDigit_of_mem_zeros (n := 1),
      isDigit_of_mem_append (fun c => isDigit_of_mem_zeros) hdigits, ?_⟩
    have hzero : Text.natOfDigits 0 ['0'] = 0 := by decide
    rw [Text.natOfDigits_append, hzero, Text.natOfDigits_append, Text.natOfDigits_replicate_zero,
      Nat.zero_mul, hvalue, List.length_append, List.length_replicate]
    congr 1
    omega

/-- **Positional text is digits, perhaps with a point among them,** and the decimal that is read
from them has the value of the one that was written. -/
theorem positionalDigits_spec (x : Decimal) :
    (∃ whole, positionalDigits x = whole ∧ whole ≠ [] ∧ (∀ c ∈ whole, c.isDigit = true) ∧
        Decimal.value ⟨Text.natOfDigits 0 whole, 0⟩ = x.value) ∨
      ∃ whole fraction, positionalDigits x = whole ++ '.' :: fraction ∧ whole ≠ [] ∧
        (∀ c ∈ whole, c.isDigit = true) ∧ (∀ c ∈ fraction, c.isDigit = true) ∧
        (⟨Text.natOfDigits 0 (whole ++ fraction), -fraction.length⟩ : Decimal) = x := by
  obtain ⟨digits, exponent⟩ := x
  by_cases hsign : 0 ≤ exponent
  · obtain ⟨k, rfl⟩ := Int.eq_ofNat_of_zero_le hsign
    exact .inl (positionalDigits_whole digits k)
  · obtain ⟨places, hplaces⟩ := Int.eq_ofNat_of_zero_le (show 0 ≤ -exponent by omega)
    obtain rfl : exponent = -places := by omega
    exact .inr (positionalDigits_fraction digits (by omega))

/-- **A finite double is read back,** bit for bit, from its positional text. -/
theorem read?_positional {d : Double} (h : d.isFinite = true) : read? d.positional = some d := by
  have hsign : Text.Sign (if d.negative then ['-'] else []) d.negative := by
    cases d.negative with
    | true => exact .minus
    | false => exact .none
  rw [positional]
  rcases positionalDigits_spec (d.shortest .away) with ⟨whole, htext, hne, hwhole, hvalue⟩ |
    ⟨whole, fraction, htext, hne, hwhole, hfraction, hx⟩
  · have hread := read?_of_numeral (.parts hsign hwhole .none (by simpa using hne) .none)
    rw [htext]
    simp only [List.append_nil, List.length_nil, Nat.cast_zero, sub_zero] at hread
    rw [hread, ← Text.natOfDigits_eq, Decimal.toDouble_congr _ hvalue, toDouble_shortest _ h]
  · have hread := read?_of_numeral (.parts hsign hwhole (.point hfraction) (by simp [hne]) .none)
    rw [htext]
    simp only [List.append_nil, zero_sub] at hread
    rw [hread, ← Text.natOfDigits_eq, hx, toDouble_shortest _ h]

/-- The characters of positional text are digits, the point and the minus sign. -/
theorem mem_positional {d : Double} {c : Char} (h : c ∈ d.positional) :
    c = '-' ∨ c = '.' ∨ c.isDigit = true := by
  rcases List.mem_append.1 h with h | h
  · by_cases hd : d.negative = true
    · rw [if_pos hd] at h
      exact .inl (List.mem_singleton.1 h)
    · rw [if_neg hd] at h
      exact absurd h List.not_mem_nil
  · refine .inr ?_
    rcases positionalDigits_spec (d.shortest .away) with ⟨whole, htext, -, hwhole, -⟩ |
      ⟨whole, fraction, htext, -, hwhole, hfraction, -⟩
    · rw [htext] at h
      exact .inr (hwhole c h)
    · rw [htext] at h
      rcases List.mem_append.1 h with h | h
      · exact .inr (hwhole c h)
      · rcases List.mem_cons.1 h with rfl | h
        · exact .inl rfl
        · exact .inr (hfraction c h)

end Double

end SeriesBridge
