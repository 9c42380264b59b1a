import Mathlib.Data.List.TakeWhile
import SeriesBridge.Proofs.Text.Blank
import SeriesBridge.Time.Instant

/-! # Instants that are read

An instant that is read with its offset from UTC is counted in seconds and the nanoseconds above them,
of which there are fewer than two seconds even in a leap second. The text that it is read from begins and
ends in a character that is not blank, and is no number.

* **`Instant.inUnits_eq`** — the units of an instant are its nanoseconds in units, rounded down.
* **`Instant.Written s`** — what is known of a text that an instant with its offset is read from.
* **`Instant.written_of_readRfc3339?`** — so it is, and the nanoseconds are few. -/

namespace SeriesBridge.Instant

variable {least most n nanos : Nat} {s r : List Char} {t : Instant} {ahead : Int}

/-- **The units of an instant** are its nanoseconds in units, rounded down. -/
theorem inUnits_eq (p : Precision) (t : Instant) : t.inUnits p = t.inNanos / p.nanosPerUnit := by
  cases p <;> simp only [inUnits, inNanos, Precision.perMilli, Precision.nanosPerUnit] <;> omega

/-! ## Fields -/

/-- Digits are read from the beginning of a text. -/
theorem suffix_of_readDigits? (h : readDigits? least most s = some (n, r)) : r <:+ s := by
  dsimp only [readDigits?] at h
  split at h
  · cases h
  · cases h
    exact List.drop_suffix _ _

/-- A text that digits are read from begins with one. -/
theorem isDigit_of_readDigits? (h : readDigits? (least + 1) most s = some (n, r)) :
    ∃ c s', s = c :: s' ∧ c.isDigit = true := by
  dsimp only [readDigits?] at h
  split at h
  · cases h
  · next hlength =>
      cases hdigits : (s.take most).takeWhile Char.isDigit with
      | nil =>
          rw [hdigits] at hlength
          exact absurd (Nat.succ_pos least) hlength
      | cons c w =>
          have hc : c ∈ (s.take most).takeWhile Char.isDigit := hdigits ▸ List.mem_cons_self
          have hprefix : c :: w <+: s :=
            hdigits ▸ (List.takeWhile_prefix _).trans (List.take_prefix most s)
          obtain ⟨s', hs'⟩ := hprefix
          exact ⟨c, w ++ s', hs'.symm, List.mem_takeWhile_imp hc⟩

/-- A text that is read as digits to its end is one word. -/
theorem solid_of_readDigits? (h : readDigits? (least + 1) most s = some (n, [])) : Text.Solid s := by
  obtain ⟨c, s', hs, -⟩ := isDigit_of_readDigits? h
  refine ⟨by rw [hs]; exact List.cons_ne_nil c s', fun d hd => Text.isBlank_of_isDigit ?_⟩
  dsimp only [readDigits?] at h
  split at h
  · cases h
  · simp only [Option.some.injEq, Prod.mk.injEq, List.drop_eq_nil_iff] at h
    have hprefix : (s.take most).takeWhile Char.isDigit <+: s :=
      (List.takeWhile_prefix _).trans (List.take_prefix most s)
    rw [← hprefix.eq_of_length_le h.2] at hd
    exact List.mem_takeWhile_imp hd

/-- A character that is skipped comes first. -/
theorem eq_cons_of_skipChar? {c : Char} (h : skipChar? c s = some r) : s = c :: r := by
  cases s with
  | nil => cases h
  | cons d s =>
      dsimp only [skipChar?] at h
      split at h
      · next hd =>
          rw [beq_iff_eq.1 hd, Option.some.inj h]
      · cases h

/-- What comes after it is the end of the text. -/
theorem suffix_of_skipChar? {c : Char} (h : skipChar? c s = some r) : r <:+ s := by
  rw [eq_cons_of_skipChar? h]
  exact List.suffix_cons c r

/-- A fraction is read from the beginning of a text. -/
theorem suffix_of_readFraction? (h : readFraction? s = some (nanos, r)) : r <:+ s := by
  unfold readFraction? at h
  split at h
  · next s =>
      dsimp only at h
      split at h
      · cases h
      · cases h
        exact (List.dropWhile_suffix _).trans (List.suffix_cons '.' s)
  · cases h
    exact List.suffix_rfl

/-- **A fraction is less than a second.** -/
theorem nanos_lt_of_readFraction? (h : readFraction? s = some (nanos, r)) : nanos < 1000000000 := by
  unfold readFraction? at h
  split at h
  · next s =>
      dsimp only at h
      split at h
      · cases h
      · cases h
        have hdigits : ∀ c ∈ (s.takeWhile Char.isDigit).take 9, c.isDigit = true :=
          fun c hc => List.mem_takeWhile_imp (List.mem_of_mem_take hc)
        have hlength : ((s.takeWhile Char.isDigit).take 9).length ≤ 9 := List.length_take_le 9 _
        have hlt := Text.natOfDigits_lt hdigits 0
        generalize (s.takeWhile Char.isDigit).take 9 = counted at hlt hlength ⊢
        -- The places that are filled with zeros are those that are missing from nine.
        have hnine : Nat.pow 10 counted.length * Nat.pow 10 (9 - counted.length) = 1000000000 := by
          refine (Nat.pow_add 10 _ _).symm.trans ?_
          rw [Nat.add_sub_cancel' hlength]
        rw [Nat.zero_add, Nat.one_mul] at hlt
        rw [← hnine]
        exact Nat.mul_lt_mul_of_pos_right hlt (Nat.pow_pos (by decide))
  · cases h
    decide

/-- **An offset ends in a character that is not blank.** -/
theorem endsSolid_of_readOffset? (h : readOffset? s = some (ahead, [])) : Text.EndsSolid s := by
  cases s with
  | nil => cases h
  | cons c s =>
      dsimp only [readOffset?] at h
      split at h
      · next hz =>
          cases h
          refine ⟨[], c, rfl, ?_⟩
          simp only [Bool.or_eq_true, beq_iff_eq] at hz
          rcases hz with rfl | rfl <;> decide
      · split at h
        · simp only [Option.bind_eq_bind, Option.bind_eq_some_iff, Prod.exists] at h
          obtain ⟨hours, s₁, hhours, s₂, hcolon, minutes, s₃, hminutes, h⟩ := h
          split at h
          · cases h
          · cases h
            have hends := (solid_of_readDigits? hminutes).endsSolid
            obtain ⟨before, rfl⟩ := suffix_of_readDigits? hhours
            rw [eq_cons_of_skipChar? hcolon]
            exact ((hends.cons ':').append_left before).cons c
        · cases h

/-! ## With an offset -/

/-- An instant has the nanoseconds of its fields, and a second more within a leap second. -/
theorem nanos_le_of_ofFields? {year : Int} {month day hour minute second : Nat}
    (h : ofFields? year month day hour minute second nanos ahead = some t) :
    t.nanos ≤ nanos + 1000000000 := by
  unfold ofFields? at h
  split at h
  · by_cases hleap : second = 60
    · simp only [if_pos hleap, Option.some.injEq] at h
      rw [← h]
    · simp only [if_neg hleap, Option.some.injEq] at h
      rw [← h]
      exact Nat.le_add_right _ _
  · cases h

/-- **A text that an instant was read from,** as far as it matters to other readers: neither of its
ends is blank, and there is a colon in it. -/
structure Written (s : List Char) : Prop where
  begins : ∃ c s', s = c :: s' ∧ c.isDigit = true
  ends : Text.EndsSolid s
  colon : ':' ∈ s

/-- **What is read with an offset** was written so, and has fewer nanoseconds than two seconds. -/
theorem written_of_readRfc3339? (h : readRfc3339? s = some t) :
    Written s ∧ t.nanos < 2000000000 := by
  unfold readRfc3339? at h
  obtain ⟨⟨year, s₁⟩, hyear, h⟩ := Option.bind_eq_some_iff.1 h
  obtain ⟨s₂, hdash, h⟩ := Option.bind_eq_some_iff.1 h
  obtain ⟨⟨month, s₃⟩, hmonth, h⟩ := Option.bind_eq_some_iff.1 h
  obtain ⟨s₄, hdash', h⟩ := Option.bind_eq_some_iff.1 h
  obtain ⟨⟨day, s₅⟩, hday, h⟩ := Option.bind_eq_some_iff.1 h
  -- The date and what parts it from the time are read from the beginning.
  have hdate : s₅ <:+ s := by
    refine (suffix_of_readDigits? hday).trans ?_
    have h₄ : s₄ <:+ s₃ := suffix_of_skipChar? hdash'
    have h₂ : s₂ <:+ s₁ := suffix_of_skipChar? hdash
    exact (h₄.trans (suffix_of_readDigits? hmonth)).trans (h₂.trans (suffix_of_readDigits? hyear))
  dsimp only at h
  split at h
  · next c s₆ =>
      split at h
      · obtain ⟨_, ⟨⟩, h⟩ := Option.bind_eq_some_iff.1 h
        obtain ⟨⟨hour, s₇⟩, hhour, h⟩ := Option.bind_eq_some_iff.1 h
        obtain ⟨s₈, hcolon, h⟩ := Option.bind_eq_some_iff.1 h
        obtain ⟨⟨minute, s₉⟩, hminute, h⟩ := Option.bind_eq_some_iff.1 h
        obtain ⟨s₁₀, hcolon', h⟩ := Option.bind_eq_some_iff.1 h
        obtain ⟨⟨second, s₁₁⟩, hsecond, h⟩ := Option.bind_eq_some_iff.1 h
        obtain ⟨⟨nanos, s₁₂⟩, hnanos, h⟩ := Option.bind_eq_some_iff.1 h
        obtain ⟨⟨ahead, s₁₃⟩, hahead, h⟩ := Option.bind_eq_some_iff.1 h
        dsimp only at h
        split at h
        · next hend =>
            rw [List.isEmpty_iff.1 hend] at hahead
            have hclock : s₇ <:+ s :=
              ((suffix_of_readDigits? hhour).trans (List.suffix_cons c s₆)).trans hdate
            have hoffset : s₁₂ <:+ s₇ := by
              have h₈ : s₈ <:+ s₇ := suffix_of_skipChar? hcolon
              have h₁₀ : s₁₀ <:+ s₉ := suffix_of_skipChar? hcolon'
              exact ((suffix_of_readFraction? hnanos).trans (suffix_of_readDigits? hsecond)).trans
                (h₁₀.trans ((suffix_of_readDigits? hminute).trans h₈))
            refine ⟨⟨isDigit_of_readDigits? hyear, ?_, ?_⟩, ?_⟩
            · obtain ⟨before, hbefore⟩ := hoffset.trans hclock
              exact hbefore ▸ (endsSolid_of_readOffset? hahead).append_left before
            · have hskip : s₇ = ':' :: s₈ := eq_cons_of_skipChar? hcolon
              exact hclock.subset (hskip ▸ List.mem_cons_self)
            · have hle := nanos_le_of_ofFields? h
              have hlt := nanos_lt_of_readFraction? hnanos
              omega
        · cases h
      · cases h
  · cases h

namespace Written

/-- **Nothing is trimmed from it.** -/
theorem trim_eq (h : Written s) : Text.trim s = s := by
  obtain ⟨c, s', rfl, hc⟩ := h.begins
  rw [h.ends.trim_eq]
  exact List.dropWhile_cons_of_neg (by simp [Text.isBlank_of_isDigit hc])

/-- **It is no number.** -/
theorem readInt64?_eq_none (h : Written s) : Text.readInt64? s = none := by
  cases hread : Text.readInt64? s with
  | none => rfl
  | some n =>
      rcases (Text.readInt64?_eq_some_iff.1 hread).mem h.colon with hcolon | hcolon | hcolon <;>
        exact absurd hcolon (by decide)

end Written

end SeriesBridge.Instant
