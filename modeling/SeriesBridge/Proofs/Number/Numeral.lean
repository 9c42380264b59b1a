import Mathlib.Data.List.TakeWhile
import SeriesBridge.Number.Decimal
import SeriesBridge.Proofs.Text.Integer

/-! # Decimals as they may be written

A decimal may be written in more ways than it is printed in: with zeros in front and behind, with a
point before or behind all digits, with either sign and with an exponent.

* **`Decimal.Numeral s neg x`** — `s` is a way to write the decimal `x` with a sign.
* **`Double.read?_eq_some_iff`** — these texts are read, each as the double nearest to its decimal. -/

namespace SeriesBridge

namespace Decimal

/-- **An optional fraction:** a point and digits, perhaps none. -/
inductive Fraction : List Char → List Char → Prop
  | none : Fraction [] []
  | point {digits : List Char} (hdigits : ∀ c ∈ digits, c.isDigit = true) :
      Fraction ('.' :: digits) digits

/-- **An optional exponent:** a letter `e` and an integer. -/
inductive Exponent : List Char → Int → Prop
  | none : Exponent [] 0
  | mark {mark : Char} {s : List Char} {e : Int} (hmark : mark = 'e' ∨ mark = 'E')
      (he : Text.Numeral s e) : Exponent (mark :: s) e

/-- **A decimal as it may be written:** an optional sign, digits before and behind an optional point,
at least one in all, and an optional exponent. The digits behind the point are decimal places. -/
inductive Numeral : List Char → Bool → Decimal → Prop
  | parts {sign whole point fraction tail : List Char} {neg : Bool} {e : Int}
      (hsign : Text.Sign sign neg) (hwhole : ∀ c ∈ whole, c.isDigit = true)
      (hpoint : Fraction point fraction) (hne : whole ++ fraction ≠ []) (htail : Exponent tail e) :
      Numeral (sign ++ (whole ++ (point ++ tail))) neg
        ⟨Nat.ofDigitChars 10 (whole ++ fraction) 0, e - fraction.length⟩

/-- The characters of a numeral are digits, signs, the point and the letters of an exponent. -/
theorem Numeral.mem {s : List Char} {neg : Bool} {x : Decimal} {c : Char} (h : Numeral s neg x)
    (hc : c ∈ s) : c ∈ ['+', '-', '.', 'e', 'E'] ∨ c.isDigit = true := by
  obtain ⟨hsign, hwhole, hpoint, -, htail⟩ := h
  simp only [List.mem_append] at hc
  rcases hc with hc | hc | hc | hc
  · cases hsign with
    | none => exact absurd hc List.not_mem_nil
    | plus => exact .inl (by simp [List.mem_singleton.1 hc])
    | minus => exact .inl (by simp [List.mem_singleton.1 hc])
  · exact .inr (hwhole c hc)
  · cases hpoint with
    | none => exact absurd hc List.not_mem_nil
    | point hdigits =>
        rcases List.mem_cons.1 hc with rfl | hc
        · exact .inl (by simp)
        · exact .inr (hdigits c hc)
  · cases htail with
    | none => exact absurd hc List.not_mem_nil
    | mark hmark he =>
        rcases List.mem_cons.1 hc with rfl | hc
        · rcases hmark with rfl | rfl
          · exact .inl (by simp)
          · exact .inl (by simp)
        · rcases he.mem hc with rfl | rfl | hdigit
          · exact .inl (by simp)
          · exact .inl (by simp)
          · exact .inr hdigit

end Decimal

namespace Double

/-! ## Signs and digits -/

/-- The sign that is split off is one. -/
theorem exists_sign (s : List Char) :
    ∃ sign, Text.Sign sign (splitSign s).1 ∧ s = sign ++ (splitSign s).2 := by
  unfold splitSign
  split
  · exact ⟨['-'], .minus, rfl⟩
  · exact ⟨['+'], .plus, rfl⟩
  · exact ⟨[], .none, rfl⟩

/-- **A sign is split off** from text that does not begin with another one. -/
theorem splitSign_append {sign s : List Char} {neg : Bool} (hsign : Text.Sign sign neg)
    (hs : ∀ c ∈ s.head?, c ≠ '-' ∧ c ≠ '+') : splitSign (sign ++ s) = (neg, s) := by
  cases hsign with
  | none =>
      rw [List.nil_append]
      unfold splitSign
      split
      · exact absurd rfl (hs '-' rfl).1
      · exact absurd rfl (hs '+' rfl).2
      · rfl
  | plus => rfl
  | minus => rfl

section Span

variable {w s : List Char}

/-- Digits are taken up to where they end. -/
theorem takeWhile_digits (hw : ∀ c ∈ w, c.isDigit = true) (hs : ∀ c ∈ s.head?, c.isDigit = false) :
    (w ++ s).takeWhile Char.isDigit = w := by
  rw [List.takeWhile_append_of_pos hw]
  cases s with
  | nil => exact List.append_nil w
  | cons c s => rw [List.takeWhile_cons_of_neg (by simp [hs c rfl]), List.append_nil]

/-- What stands behind digits is left. -/
theorem dropWhile_digits (hw : ∀ c ∈ w, c.isDigit = true) (hs : ∀ c ∈ s.head?, c.isDigit = false) :
    (w ++ s).dropWhile Char.isDigit = s := by
  rw [List.dropWhile_append_of_pos hw]
  cases s with
  | nil => rfl
  | cons c s => exact List.dropWhile_cons_of_neg (by simp [hs c rfl])

end Span

/-! ## Exponents -/

/-- **The texts that are read as exponents.** -/
theorem readExponent?_eq_some_iff {s : List Char} {e : Int} :
    readExponent? s = some e ↔ Decimal.Exponent s e := by
  constructor
  · intro h
    cases s with
    | nil =>
        obtain rfl := Option.some.inj h
        exact .none
    | cons c s =>
        rw [readExponent?] at h
        by_cases hmark : (c == 'e' || c == 'E') = true
        · rw [if_pos hmark] at h
          exact .mark (by simpa using hmark) (Text.readInt?_eq_some_iff.1 h)
        · rw [if_neg hmark] at h
          exact absurd h (Option.some_ne_none e).symm
  · intro h
    cases h with
    | none => rfl
    | mark hmark he =>
        rw [readExponent?, if_pos (by simpa using hmark)]
        exact Text.readInt?_eq_some_iff.2 he

/-- An exponent begins with its letter. -/
theorem head?_exponent {s : List Char} {e : Int} (h : Decimal.Exponent s e) :
    ∀ c ∈ s.head?, c = 'e' ∨ c = 'E' := by
  cases h with
  | none => simp
  | mark hmark he => simpa using hmark

/-! ## Numerals -/

section Parts

variable {whole fraction point tail : List Char} {e : Int}

/-- A point and an exponent begin with no digit and no sign. -/
theorem head?_point (hpoint : Decimal.Fraction point fraction) (htail : Decimal.Exponent tail e) :
    ∀ c ∈ (point ++ tail).head?, c.isDigit = false ∧ c ≠ '-' ∧ c ≠ '+' := by
  cases hpoint with
  | none =>
      intro c hc
      rcases head?_exponent htail c hc with rfl | rfl
      · decide
      · decide
  | point hdigits =>
      intro c hc
      obtain rfl : '.' = c := Option.some.inj hc
      decide

/-- No digit is a sign. -/
theorem ne_sign_of_isDigit {c : Char} (h : c.isDigit = true) : c ≠ '-' ∧ c ≠ '+' := by
  constructor
  · rintro rfl
    exact absurd h (by decide)
  · rintro rfl
    exact absurd h (by decide)

/-- Digits, a point and an exponent begin with no sign. -/
theorem head?_digits (hwhole : ∀ c ∈ whole, c.isDigit = true)
    (hpoint : Decimal.Fraction point fraction) (htail : Decimal.Exponent tail e) :
    ∀ c ∈ (whole ++ (point ++ tail)).head?, c ≠ '-' ∧ c ≠ '+' := by
  cases whole with
  | nil => exact fun c hc => (head?_point hpoint htail c hc).2
  | cons d whole =>
      intro c hc
      obtain rfl : d = c := Option.some.inj hc
      exact ne_sign_of_isDigit (hwhole d List.mem_cons_self)

end Parts

/-- There is a digit when not both parts are empty. -/
theorem not_isEmpty_and_iff {whole fraction : List Char} :
    ¬ (whole.isEmpty && fraction.isEmpty) = true ↔ whole ++ fraction ≠ [] := by
  simp

/-- **A numeral is read as the nearest double of its decimal.** -/
theorem read?_of_numeral {s : List Char} {neg : Bool} {x : Decimal} (h : Decimal.Numeral s neg x) :
    read? s = some (x.toDouble neg) := by
  obtain @⟨sign, whole, point, fraction, tail, neg, e, hsign, hwhole, hpoint, hne, htail⟩ := h
  have hsigned := splitSign_append hsign (head?_digits hwhole hpoint htail)
  have hstop := fun c hc => (head?_point hpoint htail c hc).1
  have hexponent := readExponent?_eq_some_iff.2 htail
  simp only [read?, hsigned, takeWhile_digits hwhole hstop, dropWhile_digits hwhole hstop]
  cases hpoint with
  | none =>
      have hletter := head?_exponent htail
      rw [List.nil_append]
      split
      · -- An exponent does not begin with a point.
        exact absurd (hletter '.' rfl) (by decide)
      · rw [if_neg (not_isEmpty_and_iff.2 hne), hexponent, Text.natOfDigits_eq]
        rfl
  | point hdigits =>
      have hstop' : ∀ c ∈ tail.head?, c.isDigit = false :=
        fun c hc => (head?_point .none htail c hc).1
      simp only [List.cons_append, takeWhile_digits hdigits hstop', dropWhile_digits hdigits hstop']
      rw [if_neg (not_isEmpty_and_iff.2 hne), hexponent, Text.natOfDigits_eq]
      rfl

/-- **Parts that were read make a numeral,** once there is a digit and the rest is an exponent. -/
theorem numeral_of_parts {sign whole point fraction tail : List Char} {neg : Bool} {d : Double}
    (hsign : Text.Sign sign neg) (hwhole : ∀ c ∈ whole, c.isDigit = true)
    (hpoint : Decimal.Fraction point fraction)
    (h : (if (whole.isEmpty && fraction.isEmpty) = true then none
      else (readExponent? tail).map (fun e =>
        Decimal.toDouble neg ⟨Text.natOfDigits 0 (whole ++ fraction), e - fraction.length⟩)) =
      some d) :
    ∃ x, Decimal.Numeral (sign ++ (whole ++ (point ++ tail))) neg x ∧ x.toDouble neg = d := by
  by_cases hempty : (whole.isEmpty && fraction.isEmpty) = true
  · rw [if_pos hempty] at h
    exact absurd h (Option.some_ne_none d).symm
  · rw [if_neg hempty, Text.natOfDigits_eq] at h
    obtain ⟨e, he, rfl⟩ := Option.map_eq_some_iff.1 h
    have htail := readExponent?_eq_some_iff.1 he
    exact ⟨_, .parts hsign hwhole hpoint (not_isEmpty_and_iff.1 hempty) htail, rfl⟩

/-- **The texts that are read as doubles** are the numerals, each as the nearest double of its
decimal. -/
theorem read?_eq_some_iff {s : List Char} {d : Double} :
    read? s = some d ↔ ∃ neg x, Decimal.Numeral s neg x ∧ x.toDouble neg = d := by
  constructor
  · intro h
    obtain ⟨sign, hsign, hs⟩ := exists_sign s
    simp only [read?] at h
    generalize (splitSign s).2 = unsigned at h hs
    have hwhole : ∀ c ∈ unsigned.takeWhile Char.isDigit, c.isDigit = true :=
      fun c hc => List.mem_takeWhile_imp hc
    have hrest := List.takeWhile_append_dropWhile (p := Char.isDigit) (l := unsigned)
    rw [hs, ← hrest]
    refine ⟨(splitSign s).1, ?_⟩
    -- With a point there may be decimal places behind it, without one there are none.
    split at h
    · next r hpoint =>
        rw [hpoint, ← List.takeWhile_append_dropWhile (p := Char.isDigit) (l := r)]
        exact numeral_of_parts hsign hwhole (.point (fun c hc => List.mem_takeWhile_imp hc)) h
    · exact numeral_of_parts hsign hwhole .none h
  · rintro ⟨neg, x, hnumeral, rfl⟩
    exact read?_of_numeral hnumeral

end Double

end SeriesBridge
