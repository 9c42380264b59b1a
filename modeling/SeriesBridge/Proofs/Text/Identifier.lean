import SeriesBridge.Precision
import SeriesBridge.Proofs.Text.Blank
import SeriesBridge.Proofs.Text.Integer
import SeriesBridge.Text.Blank

/-! # Names and harmless texts

What may be put together to a statement, so that no part of it can end the statement, comment it out
or open a string.

* **`Text.Identifier s`** — a letter or an underscore, and after it letters, digits and underscores.
* **`Text.Dotted s`** — identifiers with dots between them.
* **`Text.dotted_of_pieces`** — a text whose pieces between dots are identifiers is one.
* **`Text.Harmless s`** — a text that is one statement to its end. -/

namespace SeriesBridge.Text

/-! ## Identifiers -/

/-- A letter of the alphabet, in either case. -/
def IsLetter (c : Char) : Prop := ('A' ≤ c ∧ c ≤ 'Z') ∨ ('a' ≤ c ∧ c ≤ 'z')

/-- A decimal digit. -/
def IsDigit (c : Char) : Prop := '0' ≤ c ∧ c ≤ '9'

/-- **An identifier:** a letter or an underscore, and after it letters, digits and underscores. -/
def Identifier (s : String) : Prop :=
  ∃ c rest, s.toList = c :: rest ∧ (IsLetter c ∨ c = '_') ∧
    ∀ d ∈ rest, IsLetter d ∨ IsDigit d ∨ d = '_'

/-- Letters are told by their ranges. -/
theorem isAlpha_iff {c : Char} : c.isAlpha = true ↔ IsLetter c := by
  delta Char.isAlpha Char.isUpper Char.isLower IsLetter
  simp [Char.le_def]

/-- Digits are told by their range. -/
theorem isDigit_iff {c : Char} : c.isDigit = true ↔ IsDigit c := by
  simp [Char.isDigit, IsDigit, Char.le_def]

/-- **The check for identifiers** accepts identifiers and nothing else. -/
theorem isIdentifier_iff {s : String} : isIdentifier s.toList = true ↔ Identifier s := by
  unfold Identifier
  cases s.toList with
  | nil => simp [isIdentifier]
  | cons c rest =>
      simp only [isIdentifier, Char.isAlphanum, Bool.and_eq_true, Bool.or_eq_true, isAlpha_iff,
        isDigit_iff, beq_iff_eq, List.all_eq_true, or_assoc]
      constructor
      · rintro ⟨hc, hrest⟩
        exact ⟨c, rest, rfl, hc, hrest⟩
      · rintro ⟨_, _, ⟨⟩, hc, hrest⟩
        exact ⟨hc, hrest⟩

/-- **The check for words** accepts letters, digits and underscores, at least one. -/
theorem isWordName_iff {s : String} : isWordName s.toList = true ↔
    s ≠ "" ∧ ∀ c ∈ s.toList, IsLetter c ∨ IsDigit c ∨ c = '_' := by
  simp only [isWordName, Char.isAlphanum, Bool.and_eq_true, Bool.not_eq_true', Bool.or_eq_true,
    isAlpha_iff, isDigit_iff, beq_iff_eq, List.all_eq_true, or_assoc, List.isEmpty_eq_false_iff, ne_eq,
    String.toList_eq_nil_iff]

/-- A word is no blank, and neither is a part of it. -/
theorem solid_of_isWordName {w : List Char} (h : isWordName w = true) : Solid w := by
  simp only [isWordName, Bool.and_eq_true, Bool.not_eq_true', List.isEmpty_eq_false_iff,
    List.all_eq_true, Char.isAlphanum, Bool.or_eq_true, isAlpha_iff, beq_iff_eq] at h
  refine ⟨h.1, fun c hc => ?_⟩
  rcases h.2 c hc with (h | h) | rfl
  · have hupper : 'A'.val.toNat = 65 ∧ 'Z'.val.toNat = 90 := ⟨rfl, rfl⟩
    have hlower : 'a'.val.toNat = 97 ∧ 'z'.val.toNat = 122 := ⟨rfl, rfl⟩
    simp only [IsLetter, Char.le_def, UInt32.le_iff_toNat_le] at h
    rw [Bool.eq_false_iff]
    intro hblank
    simp only [isBlank, Char.toNat, Bool.or_eq_true, Bool.and_eq_true, decide_eq_true_eq,
      beq_iff_eq] at hblank
    omega
  · exact isBlank_of_isDigit h
  · decide

/-! ## Dotted names -/

/-- **Identifiers with dots between them,** at least one. -/
def Dotted (s : String) : Prop :=
  ∃ parts : List String, parts ≠ [] ∧ (∀ p ∈ parts, Identifier p) ∧ s = ".".intercalate parts

/-- **Pieces with their separator between them** are the text that they were cut from. -/
theorem intercalate_pieces (sep : Char) (s : List Char) :
    [sep].intercalate (pieces (· == sep) s) = s := by
  induction s with
  | nil => rfl
  | cons c s ih =>
      obtain ⟨p, ps, hp⟩ := List.exists_cons_of_ne_nil (pieces_ne_nil (· == sep) s)
      rw [hp] at ih
      by_cases hc : (c == sep) = true
      · rw [pieces, if_pos hc, hp, List.intercalate_cons_cons, ih, eq_of_beq hc]
        rfl
      · rw [pieces, if_neg hc, hp]
        cases ps with
        | nil =>
            rw [List.intercalate_singleton] at ih ⊢
            rw [ih]
        | cons q qs =>
            rw [List.intercalate_cons_cons] at ih ⊢
            rw [← ih]
            rfl

/-- **A text whose pieces between dots are identifiers** is a dotted name. -/
theorem dotted_of_pieces {s : String}
    (h : ∀ p ∈ pieces (· == '.') s.toList, Identifier (String.ofList p)) : Dotted s := by
  refine ⟨(pieces (· == '.') s.toList).map String.ofList, ?_, ?_, ?_⟩
  · simpa using pieces_ne_nil _ _
  · intro p hp
    obtain ⟨l, hl, rfl⟩ := List.mem_map.1 hp
    exact h l hl
  · apply String.toList_injective
    have hparts : ((pieces (· == '.') s.toList).map String.ofList).map String.toList =
        pieces (· == '.') s.toList := by
      simp
    rw [String.toList_intercalate, hparts]
    exact (intercalate_pieces '.' s.toList).symm

/-! ## Harmless texts -/

/-- **A text that is one statement to its end:** characters that are printed and no others, so no line
breaks; nothing that ends a statement, no comment, and no quotes but one pair around the name of a
unit, after which nothing comes. -/
structure Harmless (s : String) : Prop where
  printed : ∀ c ∈ s.toList, ' ' ≤ c ∧ c ≤ '~'
  unended : ';' ∉ s.toList
  uncommented : '#' ∉ s.toList ∧ ∀ mark ∈ ["--", "/*", "*/"], ¬ mark.toList <:+: s.toList
  unquoted : '\"' ∉ s.toList ∧ '\x60' ∉ s.toList ∧ '\\' ∉ s.toList ∧
    ('\'' ∉ s.toList ∨ ∃ (before : String) (p : Precision),
      s = before ++ "'" ++ p.name ++ "'" ∧ '\'' ∉ before.toList ∧ '\'' ∉ p.name.toList)

/-- The characters of statements, apart from quotes and signs. -/
def isPlain (c : Char) : Bool := c.isAlphanum || "_ *(),.>=".toList.contains c

/-- **A text of plain characters.** -/
def Plain (s : String) : Prop := ∀ c ∈ s.toList, isPlain c = true

/-- Two plain texts in one. -/
theorem Plain.append {s t : String} (hs : Plain s) (ht : Plain t) : Plain (s ++ t) := by
  intro c hc
  rw [String.toList_append, List.mem_append] at hc
  exact hc.elim (hs c) (ht c)

/-- No other character is in a plain text. -/
theorem Plain.not_mem {s : String} {c : Char} (h : Plain s) (hc : isPlain c = false) :
    c ∉ s.toList := by
  intro hmem
  rw [h c hmem] at hc
  cases hc

/-- Whether a text is plain is seen from its characters alone, not from all that there are. -/
instance (s : String) : Decidable (Plain s) :=
  decidable_of_iff (s.toList.all isPlain = true) List.all_eq_true

/-- Letters, digits and underscores are plain. -/
theorem isPlain_of_word {c : Char} (h : IsLetter c ∨ IsDigit c ∨ c = '_') : isPlain c = true := by
  unfold isPlain Char.isAlphanum
  rcases h with h | h | rfl
  · rw [isAlpha_iff.2 h, Bool.true_or, Bool.true_or]
  · rw [isDigit_iff.2 h, Bool.or_true, Bool.true_or]
  · decide

/-- An identifier is plain. -/
theorem Identifier.plain {s : String} (h : Identifier s) : Plain s := by
  obtain ⟨c, rest, hs, hc, hrest⟩ := h
  intro d hd
  rw [hs] at hd
  rcases List.mem_cons.1 hd with rfl | hd
  · exact isPlain_of_word (hc.imp_right .inr)
  · exact isPlain_of_word (hrest d hd)

/-- A dotted name is plain. -/
theorem Dotted.plain {s : String} (h : Dotted s) : Plain s := by
  obtain ⟨parts, -, hparts, rfl⟩ := h
  unfold Plain
  rw [String.toList_intercalate]
  induction parts with
  | nil => simp [List.intercalate]
  | cons p parts ih =>
      have hp : Plain p := (hparts p List.mem_cons_self).plain
      cases parts with
      | nil =>
          rw [List.map_singleton, List.intercalate_singleton]
          exact hp
      | cons q qs =>
          have ih := ih (fun r hr => hparts r (List.mem_cons_of_mem p hr))
          have hdot : Plain "." := by decide +kernel
          rw [List.map_cons, List.map_cons, List.intercalate_cons_cons]
          intro c hc
          rcases List.mem_append.1 hc with hc | hc
          · exact (List.mem_append.1 hc).elim (hp c) (hdot c)
          · exact ih c hc

/-- The digits of a number are plain. -/
theorem plain_showNat (n : Nat) : Plain (String.ofList (showNat n)) := by
  intro c hc
  rw [String.toList_ofList] at hc
  exact isPlain_of_word (.inr (.inl (isDigit_iff.1 (isDigit_of_mem_showNat hc))))

/-- Plain characters are printed. -/
theorem printed_of_isPlain {c : Char} (h : isPlain c = true) : ' ' ≤ c ∧ c ≤ '~' := by
  unfold isPlain at h
  rcases Bool.or_eq_true_iff.1 h with h | h
  · have hfirst : ' '.val.toNat = 32 := rfl
    have hlast : '~'.val.toNat = 126 := rfl
    have hdigits : '0'.val.toNat = 48 ∧ '9'.val.toNat = 57 := ⟨rfl, rfl⟩
    have hupper : 'A'.val.toNat = 65 ∧ 'Z'.val.toNat = 90 := ⟨rfl, rfl⟩
    have hlower : 'a'.val.toNat = 97 ∧ 'z'.val.toNat = 122 := ⟨rfl, rfl⟩
    simp only [Char.isAlphanum, Bool.or_eq_true, isAlpha_iff, isDigit_iff, IsLetter, IsDigit,
      Char.le_def, UInt32.le_iff_toNat_le] at h ⊢
    omega
  · have hall : "_ *(),.>=".toList.all (fun d => ' ' ≤ d && d ≤ '~') = true := by decide +kernel
    have hc := List.all_eq_true.1 hall c (List.contains_iff_mem.1 h)
    rw [Bool.and_eq_true, decide_eq_true_eq, decide_eq_true_eq] at hc
    exact hc

/-- **What is plain but for at most one sign and a pair of quotes is harmless.** -/
theorem harmless_of {s : String} (hchars : ∀ c ∈ s.toList, isPlain c = true ∨ c = '-' ∨ c = '\'')
    (hsign : s.toList.count '-' ≤ 1)
    (hquotes : '\'' ∉ s.toList ∨ ∃ (before : String) (p : Precision),
      s = before ++ "'" ++ p.name ++ "'" ∧ '\'' ∉ before.toList ∧ '\'' ∉ p.name.toList) :
    Harmless s := by
  -- A character of another kind does not occur.
  have hnot : ∀ c, isPlain c = false → c ≠ '-' → c ≠ '\'' → c ∉ s.toList := by
    intro c hplain hminus hquote hc
    rcases hchars c hc with h | h | h
    · rw [hplain] at h
      cases h
    · exact hminus h
    · exact hquote h
  have hslash : '/' ∉ s.toList := hnot _ (by decide) (by decide) (by decide)
  refine ⟨?_, hnot _ (by decide) (by decide) (by decide),
    ⟨hnot _ (by decide) (by decide) (by decide), ?_⟩, hnot _ (by decide) (by decide) (by decide),
    hnot _ (by decide) (by decide) (by decide), hnot _ (by decide) (by decide) (by decide), hquotes⟩
  · intro c hc
    rcases hchars c hc with h | rfl | rfl
    · exact printed_of_isPlain h
    · decide
    · decide
  · intro mark hmark hmark'
    simp only [List.mem_cons, List.not_mem_nil, or_false] at hmark
    rcases hmark with rfl | rfl | rfl
    · have htwo : "--".toList.count '-' ≤ s.toList.count '-' := hmark'.count_le '-'
      have : "--".toList.count '-' = 2 := by decide
      omega
    · exact hslash (hmark'.mem (by decide))
    · exact hslash (hmark'.mem (by decide))

/-- **A plain text is harmless.** -/
theorem Plain.harmless {s : String} (h : Plain s) : Harmless s := by
  refine harmless_of (fun c hc => .inl (h c hc)) ?_ (.inl (h.not_mem (by decide)))
  rw [List.count_eq_zero.2 (h.not_mem (by decide))]
  exact Nat.zero_le 1

/-- A number has at most one sign, before its digits. -/
theorem count_minus_showInt (n : Int) : (showInt n).count '-' ≤ 1 := by
  have hdigits : ∀ m, (showNat m).count '-' = 0 := fun m =>
    List.count_eq_zero.2 fun hc => by cases isDigit_of_mem_showNat hc
  cases n with
  | ofNat n =>
      rw [showInt, hdigits]
      exact Nat.zero_le 1
  | negSucc n =>
      have hone : (showInt (.negSucc n)).count '-' = 1 := by
        rw [showInt, List.count_cons_self, hdigits]
      exact Nat.le_of_eq hone

/-- **A number between plain texts** is harmless. -/
theorem harmless_append_showInt {s t : String} (hs : Plain s) (ht : Plain t) (n : Int) :
    Harmless (s ++ String.ofList (showInt n) ++ t) := by
  refine harmless_of ?_ ?_ (.inl ?_)
  · intro c hc
    simp only [String.toList_append, String.toList_ofList, List.mem_append] at hc
    rcases hc with (hc | hc) | hc
    · exact .inl (hs c hc)
    · rcases mem_showInt hc with rfl | hdigit
      · exact .inr (.inl rfl)
      · exact .inl (isPlain_of_word (.inr (.inl (isDigit_iff.1 hdigit))))
    · exact .inl (ht c hc)
  · simp only [String.toList_append, String.toList_ofList, List.count_append]
    rw [List.count_eq_zero.2 (hs.not_mem (by decide)), List.count_eq_zero.2 (ht.not_mem (by decide)),
      Nat.zero_add, Nat.add_zero]
    exact count_minus_showInt n
  · simp only [String.toList_append, String.toList_ofList, List.mem_append]
    rintro ((hc | hc) | hc)
    · exact hs.not_mem (by decide) hc
    · rcases mem_showInt hc with h | h
      · cases h
      · cases h
    · exact ht.not_mem (by decide) hc

/-- **A unit in quotes after a plain text** is harmless. -/
theorem harmless_quoted {s : String} (hs : Plain s) (p : Precision) :
    Harmless (s ++ "'" ++ p.name ++ "'") := by
  have hname : Plain p.name := by cases p <;> decide
  refine harmless_of ?_ ?_
    (.inr ⟨s, p, rfl, hs.not_mem (by decide), hname.not_mem (by decide)⟩)
  · intro c hc
    simp only [String.toList_append, List.mem_append] at hc
    rcases hc with ((hc | hc) | hc) | hc
    · exact .inl (hs c hc)
    · exact .inr (.inr (List.mem_singleton.1 hc))
    · exact .inl (hname c hc)
    · exact .inr (.inr (List.mem_singleton.1 hc))
  · have hminus : '-' ∉ (s ++ "'" ++ p.name ++ "'").toList := by
      simp only [String.toList_append, List.mem_append]
      rintro (((hc | hc) | hc) | hc)
      · exact hs.not_mem (by decide) hc
      · cases List.mem_singleton.1 hc
      · exact hname.not_mem (by decide) hc
      · cases List.mem_singleton.1 hc
    rw [List.count_eq_zero.2 hminus]
    exact Nat.zero_le 1

end SeriesBridge.Text
