import SeriesBridge.Proofs.Line.Grammar

/-! # How lines are cut

The tokens of a text are those that the text can be derived from, and no others: a word goes on as
long as it can, and so does a gap.

* **`Line.Stops s`** — a word that stands before `s` ends there.
* **`Line.readWord_escaped`**, **`Line.readQuoted_escaped`** — names and quoted texts are read as they
  are derived, with **`Line.escaped_of_readWord`**, **`Line.escaped_of_readQuoted`** the other way.
* **`Line.Lexes s ts`** — the text `s` is made of the pieces `ts`.
* **`Line.tokens_eq_ok_iff`** — these are its tokens. -/

namespace SeriesBridge.Line

/-! ## Results -/

/-- What was computed in two steps was computed in the first. -/
theorem bind_eq_ok {ε α β : Type} {x : Except ε α} {f : α → Except ε β} {b : β}
    (h : x >>= f = .ok b) : ∃ a, x = .ok a ∧ f a = .ok b := by
  cases x with
  | error e => cases h
  | ok a => exact ⟨a, rfl, h⟩

/-- What was computed and changed was computed. -/
theorem map_eq_ok {ε α β : Type} {x : Except ε α} {f : α → β} {b : β} (h : x.map f = .ok b) :
    ∃ a, x = .ok a ∧ f a = b := by
  cases x with
  | error e => cases h
  | ok a => exact ⟨a, rfl, Except.ok.inj h⟩

/-! ## Characters -/

/-- What ends a word is a separator or a break. -/
theorem endsWord_eq_false {c : Char} (hsep : isSeparator c = false) (hbreak : isBreak c = false) :
    endsWord c = false := by
  simp_all [isSeparator, isBreak, endsWord, isGap]

/-- A gap ends a word. -/
theorem isGap_eq_false {c : Char} (h : endsWord c = false) : isGap c = false := by
  simp_all [endsWord, isGap]

/-- **A plain character** ends no word and is no backslash, and there is no other such character. -/
theorem isPlain_iff {c : Char} : isPlain c = true ↔ endsWord c = false ∧ c ≠ '\\' := by
  simp only [isPlain, isSeparator, isBreak, endsWord, isGap, Bool.and_eq_true, Bool.not_eq_true',
    Bool.or_eq_false_iff, beq_eq_false_iff_ne, ne_eq]
  grind

/-- A character that stands for itself between quotes is no quote, no backslash and no break. -/
theorem isInner_iff {c : Char} :
    isInner c = true ↔ c ≠ '"' ∧ c ≠ '\\' ∧ ¬ (c == '\n' || c == '\r') = true := by
  simp [isInner, isBreak, and_assoc]

/-- A digit is plain. -/
theorem isPlain_of_isDigit {c : Char} (h : c.isDigit = true) : isPlain c = true := by
  by_contra hplain
  simp only [isPlain, isSeparator, isBreak, Bool.and_eq_true, Bool.not_eq_true',
    Bool.or_eq_false_iff, beq_eq_false_iff_ne, ne_eq, not_and_or, not_not] at hplain
  rcases hplain with (((((rfl | rfl) | rfl) | rfl) | rfl) | rfl) | rfl | rfl <;>
    exact absurd h (by decide)

/-! ## Words -/

/-- **A word ends before `s`:** there is nothing, or a character that ends words. -/
def Stops : List Char → Prop
  | [] => True
  | c :: _ => endsWord c = true

/-- A word ends where the text does. -/
@[simp] theorem stops_nil : Stops [] := trivial

/-- Nothing is read of a word that ends at once. -/
theorem readWord_of_stops {s : List Char} (h : Stops s) : readWord s = ([], s) := by
  cases s with
  | nil => rfl
  | cons c s =>
      have hc : endsWord c = true := h
      -- A backslash ends no word, so only the last way of reading is left.
      have hne : c ≠ '\\' := by
        rintro rfl
        exact absurd hc (by decide)
      unfold readWord
      split
      · next heq => exact absurd heq (List.cons_ne_nil _ _)
      · next heq => exact absurd (List.cons.inj heq).1 hne
      · next heq => exact absurd (List.cons.inj heq).1 hne
      · next heq =>
          obtain ⟨rfl, rfl⟩ := List.cons.inj heq
          rw [if_pos hc]

/-- A character that neither ends a word nor is a backslash is read as it is. -/
theorem readWord_cons {c : Char} (hends : endsWord c = false) (hne : c ≠ '\\') (s : List Char) :
    readWord (c :: s) = (c :: (readWord s).1, (readWord s).2) := by
  conv => lhs; unfold readWord
  split
  · next heq => exact absurd heq (List.cons_ne_nil _ _)
  · next heq => exact absurd (List.cons.inj heq).1 hne
  · next heq => exact absurd (List.cons.inj heq).1 hne
  · next heq =>
      obtain ⟨rfl, rfl⟩ := List.cons.inj heq
      rw [if_neg (by simp [hends])]

/-- **A word is read as it is derived,** up to where it ends. -/
theorem readWord_escaped {u w s : List Char} (h : Escaped isPlain u w) (hs : Stops s) :
    readWord (u ++ s) = (w, s) := by
  induction h with
  | nil => exact readWord_of_stops hs
  | plain hc rest ih =>
      obtain ⟨hends, hne⟩ := isPlain_iff.1 hc
      rw [List.cons_append, readWord_cons hends hne, ih]
  | @behind c u w rest ih =>
      -- Behind a backslash every character is read as it is.
      show (c :: (readWord (u ++ s)).1, (readWord (u ++ s)).2) = _
      rw [ih]

/-- A backslash at the end of a text stands for itself. -/
theorem readWord_stray {u w : List Char} (h : Escaped isPlain u w) :
    readWord (u ++ ['\\']) = (w ++ ['\\'], []) := by
  induction h with
  | nil => rfl
  | plain hc rest ih =>
      obtain ⟨hends, hne⟩ := isPlain_iff.1 hc
      rw [List.cons_append, readWord_cons hends hne, ih]
      rfl
  | @behind c u w rest ih =>
      show (c :: (readWord (u ++ ['\\'])).1, (readWord (u ++ ['\\'])).2) = _
      rw [ih]
      rfl

/-- **What is read as a word can be derived,** but for a backslash at the end of the text. -/
theorem escaped_of_readWord (s : List Char) :
    (∃ u, s = u ++ (readWord s).2 ∧ Escaped isPlain u (readWord s).1 ∧ Stops (readWord s).2) ∨
      ∃ u w, s = u ++ ['\\'] ∧ Escaped isPlain u w ∧ readWord s = (w ++ ['\\'], []) := by
  -- What is read behind a unit has one of the two forms, and the unit is put before it.
  fun_induction readWord s with
  | case1 => exact .inl ⟨[], rfl, .nil, stops_nil⟩
  | case2 => exact .inr ⟨[], [], rfl, .nil, rfl⟩
  | case3 c s w rest heq ih =>
      rw [heq] at ih
      rcases ih with ⟨u, hs, hu, hstops⟩ | ⟨u, v, hs, hu, hv⟩
      · exact .inl ⟨'\\' :: c :: u, congrArg ('\\' :: c :: ·) hs, .behind hu, hstops⟩
      · obtain ⟨rfl, rfl⟩ := Prod.mk.inj hv
        exact .inr ⟨'\\' :: c :: u, c :: v, congrArg ('\\' :: c :: ·) hs, .behind hu, rfl⟩
  | case4 c s h₁ h₂ hends => exact .inl ⟨[], rfl, .nil, hends⟩
  | case5 c s h₁ h₂ hends w rest heq ih =>
      -- A backslash is either the last character or takes the next one, so this is none.
      have hne : c ≠ '\\' := by
        rintro rfl
        cases s with
        | nil => exact h₁ rfl rfl
        | cons d s => exact h₂ d s rfl rfl
      have hc : isPlain c = true := isPlain_iff.2 ⟨Bool.eq_false_iff.2 hends, hne⟩
      rw [heq] at ih
      rcases ih with ⟨u, hs, hu, hstops⟩ | ⟨u, v, hs, hu, hv⟩
      · exact .inl ⟨c :: u, congrArg (c :: ·) hs, .plain hc hu, hstops⟩
      · obtain ⟨rfl, rfl⟩ := Prod.mk.inj hv
        exact .inr ⟨c :: u, c :: v, congrArg (c :: ·) hs, .plain hc hu, rfl⟩

/-! ## Quoted texts -/

/-- A character that stands for itself between quotes is read as it is. -/
theorem readQuoted_cons {c : Char} (hc : isInner c = true) (s : List Char) :
    readQuoted (c :: s) = (readQuoted s).map (fun (q, rest) => (c :: q, rest)) := by
  obtain ⟨hquote, hbackslash, hbreak⟩ := isInner_iff.1 hc
  conv => lhs; unfold readQuoted
  split
  · next heq => exact absurd heq (List.cons_ne_nil _ _)
  · next heq => exact absurd (List.cons.inj heq).1 hquote
  · next heq => exact absurd (List.cons.inj heq).1 hbackslash
  · next heq => exact absurd (List.cons.inj heq).1 hbackslash
  · next heq =>
      obtain ⟨rfl, rfl⟩ := List.cons.inj heq
      rw [if_neg hbreak]

/-- **A quoted text is read as it is derived,** up to its closing quote. -/
theorem readQuoted_escaped {u t : List Char} (h : Escaped isInner u t) (s : List Char) :
    readQuoted (u ++ '"' :: s) = .ok (t, s) := by
  induction h with
  | nil => rfl
  | plain hc rest ih =>
      rw [List.cons_append, readQuoted_cons hc, ih]
      rfl
  | @behind c u t rest ih =>
      show (readQuoted (u ++ '"' :: s)).map _ = _
      rw [ih]
      rfl

/-- **What is read as a quoted text can be derived.** -/
theorem escaped_of_readQuoted {s t r : List Char} (h : readQuoted s = .ok (t, r)) :
    ∃ u, s = u ++ '"' :: r ∧ Escaped isInner u t := by
  fun_induction readQuoted s generalizing t r with
  | case1 => cases h
  | case2 s =>
      cases h
      exact ⟨[], rfl, .nil⟩
  | case3 => cases h
  | case4 c s ih =>
      obtain ⟨⟨q, rest⟩, hq, heq⟩ := map_eq_ok h
      obtain ⟨rfl, rfl⟩ := Prod.mk.inj heq
      obtain ⟨u, rfl, hu⟩ := ih hq
      exact ⟨'\\' :: c :: u, rfl, .behind hu⟩
  | case5 c s h₁ h₂ h₃ hbreak => cases h
  | case6 c s h₁ h₂ h₃ hbreak ih =>
      -- It is no quote, no backslash, whether the last character or not, and no break.
      have hne : c ≠ '\\' := by
        rintro rfl
        cases s with
        | nil => exact h₂ rfl rfl
        | cons d s => exact h₃ d s rfl rfl
      have hc : isInner c = true := isInner_iff.2 ⟨h₁, hne, hbreak⟩
      obtain ⟨⟨q, rest⟩, hq, heq⟩ := map_eq_ok h
      obtain ⟨rfl, rfl⟩ := Prod.mk.inj heq
      obtain ⟨u, rfl, hu⟩ := ih hq
      exact ⟨c :: u, rfl, .plain hc hu⟩

/-! ## Pieces -/

/-- **A text made of pieces:** names as long as they go, quoted texts, commas, equals signs and gaps
as long as they go. A backslash at the very end stands for itself. -/
inductive Lexes : List Char → List Token → Prop
  | nil : Lexes [] []
  | comma {s : List Char} {ts : List Token} (rest : Lexes s ts) : Lexes (',' :: s) (.comma :: ts)
  | equals {s : List Char} {ts : List Token} (rest : Lexes s ts) : Lexes ('=' :: s) (.equals :: ts)
  | gap {g s : List Char} {ts : List Token} (hg : Blanks g) (hs : s.dropWhile isGap = s)
      (rest : Lexes s ts) : Lexes (g ++ s) (.gap :: ts)
  | quoted {u t s : List Char} {ts : List Token} (hu : Escaped isInner u t) (rest : Lexes s ts) :
      Lexes ('"' :: (u ++ '"' :: s)) (.quoted t :: ts)
  | word {u w s : List Char} {ts : List Token} (hu : Name u w) (hs : Stops s) (rest : Lexes s ts) :
      Lexes (u ++ s) (.word w :: ts)
  | stray {u w : List Char} (hu : Escaped isPlain u w) : Lexes (u ++ ['\\']) [.word (w ++ ['\\'])]

section Pieces

variable {s : List Char} {ts : List Token}

/-- A comma before tokens. -/
theorem tokens_comma (h : tokens s = .ok ts) : tokens (',' :: s) = .ok (.comma :: ts) := by
  rw [tokens, if_pos (by decide), h]
  rfl

/-- An equals sign before tokens. -/
theorem tokens_equals (h : tokens s = .ok ts) : tokens ('=' :: s) = .ok (.equals :: ts) := by
  rw [tokens, if_neg (by decide), if_pos (by decide), h]
  rfl

/-- **Blanks before tokens** are a gap, when no other gap follows them. -/
theorem tokens_blanks {g : List Char} (hg : Blanks g) (hs : s.dropWhile isGap = s)
    (h : tokens s = .ok ts) : tokens (g ++ s) = .ok (.gap :: ts) := by
  obtain ⟨c, g, rfl⟩ := List.exists_cons_of_ne_nil hg.ne_nil
  have hc : isGap c = true := hg.gaps c List.mem_cons_self
  have hrest : (g ++ s).dropWhile isGap = s := by
    rw [List.dropWhile_append_of_pos (fun d hd => hg.gaps d (List.mem_cons_of_mem c hd)), hs]
  -- The first blank is tried as a comma and as an equals sign before.
  have hne : c ≠ ',' ∧ c ≠ '=' := by
    constructor
    · rintro rfl
      exact absurd hc (by decide)
    · rintro rfl
      exact absurd hc (by decide)
  rw [List.cons_append, tokens, if_neg (by simp [hne.1]), if_neg (by simp [hne.2]), if_pos hc,
    hrest, h]
  rfl

/-- **A quoted text before tokens.** -/
theorem tokens_quoted {u t : List Char} (hu : Escaped isInner u t) (h : tokens s = .ok ts) :
    tokens ('"' :: (u ++ '"' :: s)) = .ok (.quoted t :: ts) := by
  rw [tokens, if_neg (by decide), if_neg (by decide), if_neg (by decide), if_pos (by decide)]
  split
  · next fault heq =>
      rw [readQuoted_escaped hu] at heq
      cases heq
  · next q rest heq =>
      rw [readQuoted_escaped hu] at heq
      cases heq
      rw [h]
      rfl

/-- **The tokens of a text that begins with a word** are the word and the tokens after it. -/
theorem tokens_cons {c : Char} (h : endsWord c = false) (s : List Char) :
    tokens (c :: s) =
      (tokens (readWord (c :: s)).2).map (.word (readWord (c :: s)).1 :: ·) := by
  have hends := h
  simp only [endsWord, isGap, Bool.or_eq_false_iff] at hends
  obtain ⟨⟨⟨⟨⟨hcomma, hequals⟩, hgap⟩, hquote⟩, -⟩, -⟩ := hends
  rw [tokens, if_neg (by simp [hcomma]), if_neg (by simp [hequals]),
    if_neg (by simp [isGap, hgap]), if_neg (by simp [hquote]), dif_neg (by simp [h])]

/-- A text of units, or what follows it when there are none, begins with a character that ends no
word. -/
theorem Escaped.exists_cons {u w s : List Char} (h : Escaped isPlain u w)
    (hs : u = [] → ∃ c t, s = c :: t ∧ endsWord c = false) :
    ∃ c t, u ++ s = c :: t ∧ endsWord c = false := by
  cases h with
  | nil => exact hs rfl
  | plain hc rest => exact ⟨_, _, rfl, (isPlain_iff.1 hc).1⟩
  | behind rest => exact ⟨'\\', _, rfl, by decide⟩

/-- A name begins with a character that ends no word. -/
theorem Name.exists_cons {u w : List Char} (h : Name u w) (s : List Char) :
    ∃ c t, u ++ s = c :: t ∧ endsWord c = false :=
  h.units.exists_cons (fun hnil => absurd hnil h.ne_nil)

/-- What a name reads as is not empty. -/
theorem Name.read_ne_nil {u w : List Char} (h : Name u w) : w ≠ [] := by
  obtain ⟨hu, hne⟩ := h
  cases hu with
  | nil => exact absurd rfl hne
  | plain hc rest => exact List.cons_ne_nil _ _
  | behind rest => exact List.cons_ne_nil _ _

/-- Text that begins with a name does not begin with a gap. -/
theorem Name.dropWhile_isGap {u w : List Char} (h : Name u w) (s : List Char) :
    (u ++ s).dropWhile isGap = u ++ s := by
  obtain ⟨c, t, hcons, hc⟩ := h.exists_cons s
  rw [hcons]
  exact List.dropWhile_cons_of_neg (by simp [isGap_eq_false hc])

/-- **A name before tokens.** -/
theorem tokens_name {u w : List Char} (hu : Name u w) (hs : Stops s) (h : tokens s = .ok ts) :
    tokens (u ++ s) = .ok (.word w :: ts) := by
  have hread := readWord_escaped hu.units hs
  obtain ⟨c, t, hcons, hc⟩ := hu.exists_cons s
  rw [hcons] at hread ⊢
  rw [tokens_cons hc, hread, h]
  rfl

/-- A backslash at the end of a text is a word, or the end of one. -/
theorem tokens_stray {u w : List Char} (hu : Escaped isPlain u w) :
    tokens (u ++ ['\\']) = .ok [.word (w ++ ['\\'])] := by
  have hread := readWord_stray hu
  obtain ⟨c, t, hcons, hc⟩ := hu.exists_cons (s := ['\\']) (fun _ => ⟨'\\', [], rfl, by decide⟩)
  rw [hcons] at hread ⊢
  rw [tokens_cons hc, hread, tokens]
  rfl

/-- **A text made of pieces has them as its tokens.** -/
theorem tokens_of_lexes (h : Lexes s ts) : tokens s = .ok ts := by
  induction h with
  | nil => rw [tokens]
  | comma rest ih => exact tokens_comma ih
  | equals rest ih => exact tokens_equals ih
  | gap hg hs rest ih => exact tokens_blanks hg hs ih
  | quoted hu rest ih => exact tokens_quoted hu ih
  | word hu hs rest ih => exact tokens_name hu hs ih
  | stray hu => exact tokens_stray hu

/-- Pieces of nothing are none. -/
theorem eq_nil_of_lexes_nil (h : Lexes [] ts) : ts = [] := by
  have hnil := tokens_of_lexes h
  rw [tokens] at hnil
  exact (Except.ok.inj hnil).symm

/-- A word that is read before pieces is a piece. -/
theorem lexes_readWord {c : Char} (hc : endsWord c = false)
    (h : Lexes (readWord (c :: s)).2 ts) : Lexes (c :: s) (.word (readWord (c :: s)).1 :: ts) := by
  rcases escaped_of_readWord (c :: s) with ⟨u, hs, hu, hstops⟩ | ⟨u, w, hs, hu, hread⟩
  · generalize readWord (c :: s) = read at *
    -- Something was read, for the first character ends no word.
    have hne : u ≠ [] := by
      rintro rfl
      rw [List.nil_append] at hs
      rw [← hs] at hstops
      have hends : endsWord c = true := hstops
      exact absurd hends (by simp [hc])
    rw [hs]
    exact .word ⟨hu, hne⟩ hstops h
  · rw [hread] at h ⊢
    rw [hs, eq_nil_of_lexes_nil h]
    exact .stray hu

/-- **A text is made of its tokens.** -/
theorem lexes_of_tokens (h : tokens s = .ok ts) : Lexes s ts := by
  -- By the piece that the text begins with; a text with a fault has no tokens.
  fun_induction tokens s generalizing ts with
  | case1 =>
      cases h
      exact .nil
  | case2 c s hc ih =>
      obtain ⟨ts, hts, rfl⟩ := map_eq_ok h
      obtain rfl : c = ',' := eq_of_beq hc
      exact .comma (ih hts)
  | case3 c s _ hc ih =>
      obtain ⟨ts, hts, rfl⟩ := map_eq_ok h
      obtain rfl : c = '=' := eq_of_beq hc
      exact .equals (ih hts)
  | case4 c s _ _ hc ih =>
      obtain ⟨ts, hts, rfl⟩ := map_eq_ok h
      have hblanks : Blanks (c :: s.takeWhile isGap) := by
        refine ⟨?_, List.cons_ne_nil _ _⟩
        intro d hd
        rcases List.mem_cons.1 hd with rfl | hd
        · exact hc
        · exact List.mem_takeWhile_imp hd
      have hstop : (s.dropWhile isGap).dropWhile isGap = s.dropWhile isGap :=
        List.dropWhile_eq_self_iff.2 (List.dropWhile_get_zero_not isGap s)
      have hgap := Lexes.gap hblanks hstop (ih hts)
      rwa [List.cons_append, List.takeWhile_append_dropWhile] at hgap
  | case5 => cases h
  | case6 c s _ _ _ hc q rest hread ih =>
      obtain ⟨ts, hts, rfl⟩ := map_eq_ok h
      obtain rfl : c = '"' := eq_of_beq hc
      obtain ⟨u, rfl, hu⟩ := escaped_of_readQuoted hread
      exact .quoted hu (ih hts)
  | case7 => cases h
  | case8 c s _ _ _ _ hends _ ih =>
      obtain ⟨ts, hts, rfl⟩ := map_eq_ok h
      exact lexes_readWord (Bool.eq_false_iff.2 hends) (ih hts)

/-- **The tokens of a text** are the pieces that it is made of. -/
theorem tokens_eq_ok_iff : tokens s = .ok ts ↔ Lexes s ts := ⟨lexes_of_tokens, tokens_of_lexes⟩

end Pieces

end SeriesBridge.Line
