import SeriesBridge.Json.Printer
import SeriesBridge.Json.Tree
import SeriesBridge.Proofs.Number.Numeral

/-! # Strings and integers of documents

What stands for a string or an integer in a document is read as it, whatever follows.

* **`Json.exists_readUnits?_spelt`** — a string is read back.
* **`Json.readNumber?_showNat`** — so are the digits of an integer.
* **`Json.integerText n`** — the number that stands for an integer, with
  **`Json.value?_integerText`**: it denotes the integer if that fits a word. -/

namespace SeriesBridge.Json

/-! ## Strings -/

/-- **How a character may be spelt.** -/
inductive Spelt (c : Char) : List Char → Prop where
  /-- By one letter that is short for it. -/
  | escape {e : Char} (short : simpleEscape? e = some c) : Spelt c ['\\', e]
  /-- By its number. -/
  | number (control : c.toNat < 0x20) : Spelt c ('\\' :: 'u' :: Text.showHex 4 c.toNat)
  /-- As it is. -/
  | plain (quote : c ≠ '"') (slash : c ≠ '\\') (control : ¬ c.toNat < 0x20) : Spelt c [c]

/-- Every character is spelt in one of these ways. -/
theorem spelt_spellChar (c : Char) : Spelt c (spellChar c) := by
  unfold spellChar
  split_ifs with hquote hslash hback hfeed hline hreturn htab hcontrol
  · exact .escape (by rw [eq_of_beq hquote]; rfl)
  · exact .escape (by rw [eq_of_beq hslash]; rfl)
  · exact .escape (by rw [eq_of_beq hback]; rfl)
  · exact .escape (by rw [eq_of_beq hfeed]; rfl)
  · exact .escape (by rw [eq_of_beq hline]; rfl)
  · exact .escape (by rw [eq_of_beq hreturn]; rfl)
  · exact .escape (by rw [eq_of_beq htab]; rfl)
  · exact .number hcontrol
  · exact .plain (by simpa using hquote) (by simpa using hslash) hcontrol

/-- The four digits of a control character hold its number. -/
theorem readHex4?_showHex : ∀ n < 0x20, ∃ a b c d,
    Text.showHex 4 n = [a, b, c, d] ∧ readHex4? [a, b, c, d] = some (n, []) := by
  have hdigits : ∀ n < 0x20, (Text.showHex 4 n).length = 4 ∧
      readHex4? (Text.showHex 4 n) = some (n, []) := by decide
  intro n h
  obtain ⟨hlength, hread⟩ := hdigits n h
  generalize Text.showHex 4 n = digits at hlength hread
  match digits, hlength with
  | [a, b, c, d], _ => exact ⟨a, b, c, d, rfl, hread⟩

/-- **A character as it is spelt** is read as one unit, and the unit stands for it. -/
theorem Spelt.exists_unit {c : Char} {spelling : List Char} (h : Spelt c spelling) : ∃ u,
    (∀ s, readUnits? (spelling ++ s) = (readUnits? s).map (fun x => (u :: x.1, x.2))) ∧
      ∀ us, joinUnits (u :: us) = (joinUnits us).map (c :: ·) := by
  cases h with
  | @escape e short =>
      have he : e ≠ 'u' := by
        rintro rfl
        exact Option.some_ne_none c short.symm
      refine ⟨.char c, fun s => ?_, fun us => rfl⟩
      rw [List.cons_append, List.singleton_append, readUnits?, short]
      · cases readUnits? s <;> rfl
      · exact fun _ _ _ _ _ heq _ => he heq
  | number control =>
      obtain ⟨d₁, d₂, d₃, d₄, hdigits, hread⟩ := readHex4?_showHex c.toNat control
      refine ⟨.half c.toNat, fun s => ?_, fun us => ?_⟩
      · rw [hdigits]
        simp only [List.cons_append, List.nil_append]
        rw [readUnits?, hread]
        cases readUnits? s <;> rfl
      · have hhigh : ¬ (0xD800 ≤ c.toNat && c.toNat < 0xDC00) = true := by simp; omega
        have hlow : ¬ (0xDC00 ≤ c.toNat && c.toNat < 0xE000) = true := by simp; omega
        rw [joinUnits.eq_def]
        dsimp only
        rw [if_neg hhigh, if_neg hlow, Char.ofNat_toNat]
  | plain quote slash control =>
      refine ⟨.char c, fun s => ?_, fun us => rfl⟩
      have hplain : ¬ (decide (c.toNat < 0x20) || c == '\\') = true := by simp [control, slash]
      rw [List.singleton_append, readUnits?, if_neg hplain]
      · cases readUnits? s <;> rfl
      · exact quote
      · exact fun _ _ _ _ _ heq _ => slash heq
      · exact fun _ _ heq _ => slash heq

/-- **A string is read back,** up to its closing quote. -/
theorem exists_readUnits?_spelt (s rest : List Char) : ∃ units,
    readUnits? (s.flatMap spellChar ++ '"' :: rest) = some (units, rest) ∧
      joinUnits units = some s := by
  induction s with
  | nil => exact ⟨[], by rw [List.flatMap_nil, List.nil_append, readUnits?], rfl⟩
  | cons c s ih =>
      obtain ⟨units, hread, hjoin⟩ := ih
      obtain ⟨u, hunit, hstands⟩ := (spelt_spellChar c).exists_unit
      refine ⟨u :: units, ?_, ?_⟩
      · rw [List.flatMap_cons, List.append_assoc, hunit, hread]
        rfl
      · rw [hstands, hjoin]
        rfl

/-! ## Integers -/

/-- **What may follow a number:** nothing that would belong to it. -/
def EndsNumber (s : List Char) : Prop :=
  ∀ c ∈ s.head?, c.isDigit = false ∧ c ≠ '.' ∧ c ≠ 'e' ∧ c ≠ 'E'

/-- Nothing may follow. -/
theorem endsNumber_nil : EndsNumber [] := by
  intro c hc
  cases hc

/-- Before the last digit of a number are the digits of its tenth. -/
theorem showNat_of_le {n : Nat} (h : 10 ≤ n) :
    Text.showNat n = Text.showNat (n / 10) ++ [(n % 10).digitChar] := by
  unfold Text.showNat
  rw [Nat.toDigits_eq_if (by decide), if_neg (by omega)]

/-- **A number begins with zero** only if it is zero. -/
theorem eq_nil_of_showNat {n : Nat} {s : List Char} (h : Text.showNat n = '0' :: s) : s = [] := by
  induction n using Nat.strongRecOn generalizing s with
  | ind n ih =>
      by_cases hlt : n < 10
      · have hdigit : Text.showNat n = [n.digitChar] := Nat.toDigits_of_lt_base hlt
        rw [hdigit] at h
        exact (List.cons.inj h).2.symm
      · rw [showNat_of_le (by omega)] at h
        cases htenth : Text.showNat (n / 10) with
        | nil => exact absurd htenth (Text.showNat_ne_nil _)
        | cons c digits =>
            rw [htenth] at h
            obtain ⟨rfl, -⟩ := List.cons.inj h
            -- The digits of the tenth are then a zero alone, and the number was below ten.
            obtain rfl := ih (n / 10) (by omega) htenth
            have hzero : Text.natOfDigits 0 (Text.showNat (n / 10)) = 0 := by rw [htenth]; rfl
            rw [Text.natOfDigits_showNat] at hzero
            omega

/-- The digits before the point are all those of the integer. -/
theorem readWhole?_showNat (n : Nat) {rest : List Char} (h : EndsNumber rest) :
    readWhole? (Text.showNat n ++ rest) = some (Text.showNat n, rest) := by
  have hdigits : ∀ c ∈ Text.showNat n, c.isDigit = true :=
    fun c hc => Text.isDigit_of_mem_showNat hc
  have hends : ∀ c ∈ rest.head?, c.isDigit = false := fun c hc => (h c hc).1
  have hzero : ∀ s, Text.showNat n = '0' :: s → s = [] := fun s => eq_nil_of_showNat
  unfold readWhole?
  rw [Double.takeWhile_digits hdigits hends, Double.dropWhile_digits hdigits hends]
  generalize hshow : Text.showNat n = digits at hzero
  split
  · exact absurd hshow (Text.showNat_ne_nil n)
  · rfl
  · next c s hne => exact absurd (hzero _ rfl) hne
  · rfl

/-- **The digits of an integer** are read up to where they end. -/
theorem readNumber?_showNat (negative : Bool) (n : Nat) {rest : List Char} (h : EndsNumber rest) :
    readNumber? negative (Text.showNat n ++ rest) =
      some (⟨negative, Text.showNat n, none, none⟩, rest) := by
  have hfraction : readFraction? rest = some (none, rest) := by
    unfold readFraction?
    split
    · next s => exact absurd rfl (h '.' rfl).2.1
    · rfl
  have hexponent : readExponent? rest = some (none, rest) := by
    cases rest with
    | nil => rfl
    | cons c s =>
        obtain ⟨-, -, he, hE⟩ := h c rfl
        have hmark : ¬ (c == 'e' || c == 'E') = true := by simp [he, hE]
        exact if_neg hmark
  simp only [readNumber?, readWhole?_showNat n h, hfraction, hexponent, Option.bind_eq_bind,
    Option.bind_some]

/-- More digits make a number no smaller. -/
theorem le_natOfDigits (n : Nat) (s : List Char) : n ≤ Text.natOfDigits n s := by
  induction s generalizing n with
  | nil => exact Nat.le_refl n
  | cons c s ih =>
      have := ih (10 * n + Text.digitValue c)
      rw [Text.natOfDigits_cons]
      omega

/-- **The digits of a number below `2 ^ 64`** are all taken in. -/
theorem absorb_eq {n : Nat} {s : List Char} (h : Text.natOfDigits n s < 0x10000000000000000) :
    absorb n s = (Text.natOfDigits n s, 0) := by
  induction s generalizing n with
  | nil => rfl
  | cons c s ih =>
      rw [Text.natOfDigits_cons] at h ⊢
      have hfits := Nat.lt_of_le_of_lt (le_natOfDigits _ s) h
      rw [absorb, if_pos hfits, ih h]

/-- The digits of an integer below `2 ^ 64` are all taken in. -/
theorem absorb_showNat {n : Nat} (h : n < 0x10000000000000000) :
    absorb 0 (Text.showNat n) = (n, 0) := by
  rw [← Text.natOfDigits_showNat n] at h
  rw [absorb_eq h, Text.natOfDigits_showNat]

/-- **The number that stands for an integer.** -/
def integerText : Int → NumberText
  | .ofNat n => ⟨false, Text.showNat n, none, none⟩
  | .negSucc n => ⟨true, Text.showNat (n + 1), none, none⟩

/-- **An integer that fits a word is denoted** by the number that stands for it. -/
theorem value?_integerText {n : Int} (hlow : -0x8000000000000000 ≤ n)
    (hhigh : n < 0x10000000000000000) : (integerText n).value? = some (.integer n) := by
  cases n with
  | ofNat n =>
      have hword : n < 0x10000000000000000 := Int.ofNat_lt.1 hhigh
      simp only [integerText, NumberText.value?, absorb_showNat hword]
      rfl
  | negSucc n =>
      have hword : n + 1 < 0x10000000000000000 := by omega
      simp only [integerText, NumberText.value?, absorb_showNat hword]
      rw [if_neg (by simp), if_pos (by simp; omega)]
      rfl

end SeriesBridge.Json
