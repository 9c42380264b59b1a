import SeriesBridge.Text.Integer

/-! # Integers read back

An integer that was written is read as itself, and its characters are digits but for a sign. More
texts than are written can be read: a plus sign and zeros in front are allowed too.

* **`Text.natOfDigits_showNat`**, **`Text.readNat?_showNat`** — natural numbers read back.
* **`Text.readInt64?_showInt`** — words read back.
* **`Text.Numeral s n`** — `s` is a way to write the integer `n`, with
  **`Text.readInt?_eq_some_iff`** and **`Text.readInt64?_eq_some_iff`**: these texts are read. -/

namespace SeriesBridge.Text

/-! ## Digits -/

/-- The value of digits is that of the digits in base ten. -/
theorem natOfDigits_eq (start : Nat) (s : List Char) :
    natOfDigits start s = Nat.ofDigitChars 10 s start := by
  induction s generalizing start with
  | nil => rfl
  | cons c s ih =>
      rw [natOfDigits_cons, ih, Nat.ofDigitChars_cons]
      rfl

/-- **Digits are read in their order.** -/
theorem natOfDigits_append (start : Nat) (a b : List Char) :
    natOfDigits start (a ++ b) = natOfDigits (natOfDigits start a) b := List.foldl_append

/-- Zeros behind a number are powers of ten. -/
theorem natOfDigits_replicate_zero (start n : Nat) :
    natOfDigits start (List.replicate n '0') = start * Nat.pow 10 n := by
  rw [natOfDigits_eq, Nat.ofDigitChars_replicate_zero, Nat.mul_comm]
  rfl

/-- **A number has no more places than digits.** -/
theorem natOfDigits_lt {s : List Char} (h : ∀ c ∈ s, c.isDigit = true) (start : Nat) :
    natOfDigits start s < (start + 1) * Nat.pow 10 s.length := by
  induction s generalizing start with
  | nil =>
      have hone : Nat.pow 10 ([] : List Char).length = 1 := rfl
      rw [natOfDigits_nil, hone, Nat.mul_one]
      exact Nat.lt_succ_self start
  | cons c s ih =>
      have hc : c.isDigit = true := h c List.mem_cons_self
      have hdigit : digitValue c ≤ 9 := by
        simp only [Char.isDigit, Bool.and_eq_true, decide_eq_true_eq, ge_iff_le] at hc
        have hhigh : c.val.toNat ≤ 57 := hc.2
        exact Nat.sub_le_of_le_add hhigh
      have hpow : Nat.pow 10 (c :: s).length = 10 * Nat.pow 10 s.length := Nat.mul_comm _ _
      rw [natOfDigits_cons, hpow, ← Nat.mul_assoc]
      refine Nat.lt_of_lt_of_le (ih (fun d hd => h d (List.mem_cons_of_mem c hd)) _) ?_
      exact Nat.mul_le_mul_right _ (by omega)

/-- What is written has the value that was written. -/
@[simp] theorem natOfDigits_showNat (n : Nat) : natOfDigits 0 (showNat n) = n := by
  rw [natOfDigits_eq]
  exact Nat.ofDigitChars_ten_toDigits

/-- What is written is digits. -/
theorem isDigit_of_mem_showNat {n : Nat} {c : Char} (h : c ∈ showNat n) : c.isDigit = true :=
  Nat.isDigit_of_mem_toDigits (by decide) (by decide) h

/-- Something is written. -/
theorem showNat_ne_nil (n : Nat) : showNat n ≠ [] := Nat.toDigits_ne_nil

/-- **A number that was written is read back.** -/
@[simp] theorem readNat?_showNat (n : Nat) : readNat? (showNat n) = some n := by
  have hdigits : (showNat n).all Char.isDigit = true :=
    List.all_eq_true.2 (fun c hc => isDigit_of_mem_showNat hc)
  have hne : (showNat n).isEmpty = false := by simp [showNat_ne_nil]
  rw [readNat?, hdigits, hne, natOfDigits_showNat]
  rfl

/-- Digits begin with no sign. -/
theorem readInt?_of_digits {s : List Char} (h : ∀ c ∈ s, c.isDigit = true) :
    readInt? s = (readNat? s).map (fun n => (n : Int)) := by
  unfold readInt?
  split
  · exact absurd (h '-' List.mem_cons_self) (by decide)
  · exact absurd (h '+' List.mem_cons_self) (by decide)
  · rfl

/-! ## Signs -/

/-- **An integer that was written is read back.** -/
@[simp] theorem readInt?_showInt (n : Int) : readInt? (showInt n) = some n := by
  cases n with
  | ofNat n =>
      show readInt? (showNat n) = some (n : Int)
      rw [readInt?_of_digits (fun c hc => isDigit_of_mem_showNat hc), readNat?_showNat]
      rfl
  | negSucc n =>
      show (readNat? (showNat (n + 1))).map (fun n => -(n : Int)) = some (Int.negSucc n)
      rw [readNat?_showNat]
      rfl

/-- A word fits a word. -/
theorem fitsInt64_toInt (n : Int64) : fitsInt64 n.toInt = true := by
  have hle := Int64.le_toInt n
  have hlt := Int64.toInt_lt n
  rw [fitsInt64, Bool.and_eq_true, decide_eq_true_eq, decide_eq_true_eq]
  omega

/-- **A word that was written is read back.** -/
@[simp] theorem readInt64?_showInt (n : Int64) : readInt64? (showInt n.toInt) = some n := by
  simp only [readInt64?, readInt?_showInt, fitsInt64_toInt, if_true]
  rw [Int64.ofInt_toInt]

/-- What is written of an integer is digits, with a sign before them or without. -/
theorem mem_showInt {n : Int} {c : Char} (h : c ∈ showInt n) : c = '-' ∨ c.isDigit = true := by
  cases n with
  | ofNat n => exact .inr (isDigit_of_mem_showNat h)
  | negSucc n =>
      rcases List.mem_cons.1 h with rfl | h
      · exact .inl rfl
      · exact .inr (isDigit_of_mem_showNat h)

/-- Something is written of an integer. -/
theorem showInt_ne_nil (n : Int) : showInt n ≠ [] := by
  cases n with
  | ofNat n => exact showNat_ne_nil n
  | negSucc n => exact List.cons_ne_nil _ _

/-! ## Numerals -/

/-- **An optional sign;** it is `true` when it is a minus. -/
inductive Sign : List Char → Bool → Prop
  | none : Sign [] false
  | plus : Sign ['+'] false
  | minus : Sign ['-'] true

/-- **An integer as it may be written:** an optional sign, and digits in base ten, at least one. -/
inductive Numeral : List Char → Int → Prop
  | signed {sign digits : List Char} {neg : Bool} (hsign : Sign sign neg) (hne : digits ≠ [])
      (hdigits : ∀ c ∈ digits, c.isDigit = true) :
      Numeral (sign ++ digits)
        (if neg then -(Nat.ofDigitChars 10 digits 0 : Int) else Nat.ofDigitChars 10 digits 0)

/-- Digits are read as their number, and nothing else is. -/
theorem readNat?_eq_some_iff {s : List Char} {n : Nat} :
    readNat? s = some n ↔
      s ≠ [] ∧ (∀ c ∈ s, c.isDigit = true) ∧ Nat.ofDigitChars 10 s 0 = n := by
  unfold readNat?
  by_cases hne : s = []
  · simp [hne]
  by_cases hdigits : ∀ c ∈ s, c.isDigit = true
  · have hall : s.all Char.isDigit = true := List.all_eq_true.2 hdigits
    simp only [hall, List.isEmpty_iff, hne, natOfDigits_eq, Bool.not_true, Bool.or_false, if_false,
      Option.some.injEq, ne_eq, not_false_eq_true, true_and]
    exact ⟨fun h => ⟨hdigits, h⟩, And.right⟩
  · have hall : s.all Char.isDigit = false :=
      Bool.eq_false_iff.2 (fun h => hdigits (List.all_eq_true.1 h))
    simp [hall, hdigits]

/-- What is read behind a sign are the digits of a number. -/
theorem digits_of_readNat? {f : Int → Int} {s : List Char} {n : Int}
    (h : (do let m ← readNat? s; pure (m : Int)).map f = some n) :
    s ≠ [] ∧ (∀ c ∈ s, c.isDigit = true) ∧ f (Nat.ofDigitChars 10 s 0) = n := by
  cases hread : readNat? s with
  | none =>
      rw [hread] at h
      exact absurd h (Option.some_ne_none n).symm
  | some m =>
      rw [hread] at h
      obtain ⟨hne, hdigits, rfl⟩ := readNat?_eq_some_iff.1 hread
      exact ⟨hne, hdigits, Option.some.inj h⟩

/-- **The texts that are read as integers** are the numerals. -/
theorem readInt?_eq_some_iff {s : List Char} {n : Int} :
    readInt? s = some n ↔ Numeral s n := by
  constructor
  · intro h
    unfold readInt? at h
    split at h
    · obtain ⟨hne, hdigits, rfl⟩ := digits_of_readNat? h
      exact .signed .minus hne hdigits
    · obtain ⟨hne, hdigits, rfl⟩ := digits_of_readNat? h
      exact .signed .plus hne hdigits
    · obtain ⟨hne, hdigits, rfl⟩ := digits_of_readNat? h
      exact .signed .none hne hdigits
  · rintro ⟨hsign, hne, hdigits⟩
    have hread := readNat?_eq_some_iff.2 ⟨hne, hdigits, rfl⟩
    cases hsign with
    | none =>
        rw [List.nil_append, readInt?_of_digits hdigits, hread]
        rfl
    | plus =>
        simp only [List.singleton_append, readInt?, hread]
        rfl
    | minus =>
        simp only [List.singleton_append, readInt?, hread]
        rfl

/-- **The texts that are read as words** are the numerals of words. -/
theorem readInt64?_eq_some_iff {s : List Char} {n : Int64} :
    readInt64? s = some n ↔ Numeral s n.toInt := by
  rw [← readInt?_eq_some_iff, readInt64?]
  constructor
  · intro h
    split at h
    · next m hm =>
        split at h
        · next hfits =>
            simp only [fitsInt64, Bool.and_eq_true, decide_eq_true_eq] at hfits
            rw [hm, ← Option.some.inj h, Int64.toInt_ofInt_of_le hfits.1 hfits.2]
        · exact absurd h (Option.some_ne_none n).symm
    · exact absurd h (Option.some_ne_none n).symm
  · intro h
    rw [h]
    simp only [fitsInt64_toInt, if_true, Int64.ofInt_toInt]

/-- The characters of a numeral are digits and signs. -/
theorem Numeral.mem {s : List Char} {n : Int} {c : Char} (h : Numeral s n) (hc : c ∈ s) :
    c = '+' ∨ c = '-' ∨ c.isDigit = true := by
  obtain ⟨hsign, -, hdigits⟩ := h
  rcases List.mem_append.1 hc with hc | hc
  · cases hsign with
    | none => exact absurd hc List.not_mem_nil
    | plus => exact .inl (List.mem_singleton.1 hc)
    | minus => exact .inr (.inl (List.mem_singleton.1 hc))
  · exact .inr (.inr (hdigits c hc))

end SeriesBridge.Text
