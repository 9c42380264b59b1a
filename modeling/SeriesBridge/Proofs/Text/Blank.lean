import SeriesBridge.Proofs.Text.Integer
import SeriesBridge.Text.Blank

/-! # Blanks at the ends and between words

* **`Text.Solid w`** — a text that is one word.
* **`Text.EndsSolid s`** — a text whose last character is not blank, so that only its beginning is
  trimmed.
* **`Text.isSome_splitFirst_iff`** — where a text can be cut at a separator.
* **`Text.words_spaced`** — words that were put together with spaces are taken apart again. -/

namespace SeriesBridge.Text

/-! ## Words -/

/-- **One word:** characters that are not blank, at least one. -/
def Solid (w : List Char) : Prop := w ≠ [] ∧ ∀ c ∈ w, isBlank c = false

/-- Whether a text is one word is seen from its characters alone, not from all that there are. -/
instance (w : List Char) : Decidable (Solid w) :=
  decidable_of_iff (w ≠ [] ∧ w.all (fun c => !isBlank c) = true) (by simp [Solid])

/-- Two words in one are a word. -/
theorem Solid.append {v w : List Char} (hv : Solid v) (hw : Solid w) : Solid (v ++ w) := by
  refine ⟨by simp [hv.1], ?_⟩
  intro c hc
  rcases List.mem_append.1 hc with hc | hc
  · exact hv.2 c hc
  · exact hw.2 c hc

/-- A digit is not blank. -/
theorem isBlank_of_isDigit {c : Char} (h : c.isDigit = true) : isBlank c = false := by
  rw [Bool.eq_false_iff]
  intro hblank
  simp only [Char.isDigit, Bool.and_eq_true, decide_eq_true_eq, ge_iff_le] at h
  simp only [isBlank, Char.toNat, Bool.or_eq_true, Bool.and_eq_true, decide_eq_true_eq,
    beq_iff_eq] at hblank
  have hlow : 48 ≤ c.val.toNat := h.1
  have hhigh : c.val.toNat ≤ 57 := h.2
  omega

/-- An integer is written as one word. -/
theorem solid_showInt (n : Int) : Solid (showInt n) := by
  refine ⟨showInt_ne_nil n, ?_⟩
  intro c hc
  rcases mem_showInt hc with rfl | hdigit
  · decide
  · exact isBlank_of_isDigit hdigit

/-- A natural number is written as one word. -/
theorem solid_showNat (n : Nat) : Solid (showNat n) := solid_showInt (.ofNat n)

/-! ## Trimming -/

/-- **A text that ends in a character that is not blank.** -/
def EndsSolid (s : List Char) : Prop := ∃ t c, s = t ++ [c] ∧ isBlank c = false

/-- Text before it leaves the end as it is. -/
theorem EndsSolid.append_left {s : List Char} (h : EndsSolid s) (t : List Char) :
    EndsSolid (t ++ s) := by
  obtain ⟨u, c, rfl, hc⟩ := h
  exact ⟨t ++ u, c, (List.append_assoc t u [c]).symm, hc⟩

/-- A character before it leaves the end as it is. -/
theorem EndsSolid.cons {s : List Char} (h : EndsSolid s) (c : Char) : EndsSolid (c :: s) :=
  h.append_left [c]

/-- A word ends so. -/
theorem Solid.endsSolid {w : List Char} (h : Solid w) : EndsSolid w :=
  ⟨w.dropLast, w.getLast h.1, (List.dropLast_concat_getLast h.1).symm,
    h.2 _ (List.getLast_mem h.1)⟩

/-- **Nothing is trimmed from an end that is not blank.** -/
theorem EndsSolid.trim_eq {s : List Char} (h : EndsSolid s) : trim s = s.dropWhile isBlank := by
  obtain ⟨t, c, rfl, hc⟩ := h
  have hlast : [c].dropWhile isBlank = [c] := List.dropWhile_cons_of_neg (by simp [hc])
  rw [trim, List.dropWhile_append, hlast]
  split
  · exact dropEndWhile_concat_of_not [] hc
  · exact dropEndWhile_concat_of_not _ hc

section Dropping

variable {α : Type} {p : α → Bool} {a : α}

/-- A member that does not satisfy `p` ends what is taken from the front. -/
theorem takeWhile_append_cons_of_not (ha : p a = false) (s t : List α) :
    (s ++ a :: t).takeWhile p = s.takeWhile p := by
  induction s with
  | nil => simp [ha]
  | cons b s ih => simp [List.takeWhile_cons, ih]

/-- A member that does not satisfy `p` ends what is dropped from the front. -/
theorem dropWhile_append_cons_of_not (ha : p a = false) (s t : List α) :
    (s ++ a :: t).dropWhile p = s.dropWhile p ++ a :: t := by
  induction s with
  | nil => simp [ha]
  | cons b s ih =>
      rw [List.cons_append, List.dropWhile_cons, List.dropWhile_cons, ih]
      split <;> rfl

/-- A member that does not satisfy `p` ends what is dropped from the end. -/
theorem dropEndWhile_append_cons_of_not (ha : p a = false) (s t : List α) :
    dropEndWhile p (s ++ a :: t) = s ++ a :: dropEndWhile p t := by
  have hreverse : (s ++ a :: t).reverse = t.reverse ++ a :: s.reverse := by simp
  rw [dropEndWhile, hreverse, dropWhile_append_cons_of_not ha]
  simp [dropEndWhile]

end Dropping

/-- **Trimming at either side of a character** that is not blank. -/
theorem trim_append_cons {c : Char} (hc : isBlank c = false) (s t : List Char) :
    trim (s ++ c :: t) = s.dropWhile isBlank ++ c :: dropEndWhile isBlank t := by
  rw [trim, dropWhile_append_cons_of_not hc, dropEndWhile_append_cons_of_not hc]

/-- An end that satisfies `p` throughout is dropped. -/
theorem dropEndWhile_append_of_forall {α : Type} {p : α → Bool} {t : List α}
    (h : ∀ a ∈ t, p a = true) (s : List α) : dropEndWhile p (s ++ t) = dropEndWhile p s := by
  rw [dropEndWhile, List.reverse_append, List.dropWhile_append_of_pos (by simpa using h)]
  rfl

/-- A member that does not satisfy `p` is not dropped from the front. -/
theorem mem_dropWhile_of_not {α : Type} {p : α → Bool} {a : α} {s : List α} (h : a ∈ s)
    (ha : p a = false) : a ∈ s.dropWhile p := by
  rw [← List.takeWhile_append_dropWhile (p := p) (l := s), List.mem_append] at h
  refine h.resolve_left fun hfront => ?_
  cases ha.symm.trans (List.all_eq_true.1 List.all_takeWhile a hfront)

/-- **A character that is not blank is not trimmed.** -/
theorem mem_trim_of_not {c : Char} {s : List Char} (h : c ∈ s) (hc : isBlank c = false) :
    c ∈ trim s :=
  List.mem_reverse.2 (mem_dropWhile_of_not (List.mem_reverse.2 (mem_dropWhile_of_not h hc)) hc)

/-- Trimming adds nothing. -/
theorem mem_of_mem_trim {c : Char} {s : List Char} (h : c ∈ trim s) : c ∈ s :=
  (List.dropWhile_sublist _).mem (List.mem_reverse.1 ((List.dropWhile_sublist _).mem (List.mem_reverse.1 h)))

/-- **A word is what is left of it** between blanks. -/
theorem Solid.trim_eq {w a b : List Char} (h : Solid w) (ha : ∀ c ∈ a, isBlank c = true)
    (hb : ∀ c ∈ b, isBlank c = true) : trim (a ++ w ++ b) = w := by
  obtain ⟨c, w', rfl⟩ := List.exists_cons_of_ne_nil h.1
  obtain ⟨t, d, hlast, hd⟩ := h.endsSolid
  have hfirst : ¬ isBlank c = true := by simp [h.2 c List.mem_cons_self]
  rw [trim, List.append_assoc, List.dropWhile_append_of_pos ha, List.cons_append,
    List.dropWhile_cons_of_neg hfirst, ← List.cons_append, dropEndWhile_append_of_forall hb, hlast,
    dropEndWhile_concat_of_not t hd]

/-! ## Cutting -/

/-- A text without separators is one piece. -/
theorem pieces_of_not {sep : Char → Bool} {s : List Char} (h : ∀ c ∈ s, sep c = false) :
    pieces sep s = [s] := by
  induction s with
  | nil => rfl
  | cons c s ih =>
      have hc : ¬ sep c = true := by simp [h c List.mem_cons_self]
      rw [pieces, if_neg hc, ih (fun c' hc' => h c' (List.mem_cons_of_mem c hc'))]

/-- **A separator parts the pieces** before it from those after it. -/
theorem pieces_append_cons {sep : Char → Bool} {c : Char} (hc : sep c = true) (a b : List Char) :
    pieces sep (a ++ c :: b) = pieces sep a ++ pieces sep b := by
  induction a with
  | nil =>
      show pieces sep (c :: b) = [] :: pieces sep b
      rw [pieces, if_pos hc]
  | cons d a ih =>
      rw [List.cons_append, pieces, pieces, ih]
      by_cases hd : sep d = true
      · rw [if_pos hd, if_pos hd, List.cons_append]
      · obtain ⟨p, ps, hp⟩ := List.exists_cons_of_ne_nil (pieces_ne_nil sep a)
        rw [if_neg hd, if_neg hd, hp]
        rfl

/-- **No piece holds a separator.** -/
theorem eq_false_of_mem_pieces {sep : Char → Bool} {s p : List Char} (h : p ∈ pieces sep s) :
    ∀ c ∈ p, sep c = false := by
  induction s generalizing p with
  | nil =>
      rw [pieces_nil, List.mem_singleton] at h
      simp [h]
  | cons c s ih =>
      rw [pieces] at h
      by_cases hc : sep c = true
      · rw [if_pos hc] at h
        rcases List.mem_cons.1 h with rfl | h
        · simp
        · exact ih h
      · rw [if_neg hc] at h
        obtain ⟨first, rest, hs⟩ := List.exists_cons_of_ne_nil (pieces_ne_nil sep s)
        rw [hs] at h ih
        rcases List.mem_cons.1 h with rfl | h
        · exact List.forall_mem_cons.2 ⟨Bool.eq_false_iff.2 hc, ih List.mem_cons_self⟩
        · exact ih (List.mem_cons_of_mem first h)

/-- A line is part of a piece. -/
theorem subset_of_mem_closeLines {ps : List (List Char)} {l : List Char} (h : l ∈ closeLines ps) :
    ∃ p ∈ ps, l ⊆ p := by
  induction ps with
  | nil => cases h
  | cons p ps ih =>
      cases ps with
      | nil =>
          rw [closeLines] at h
          split at h
          · cases h
          · exact ⟨p, List.mem_cons_self, List.mem_singleton.1 h ▸ List.Subset.refl p⟩
      | cons q ps =>
          rw [closeLines] at h
          · rcases List.mem_cons.1 h with rfl | h
            · refine ⟨p, List.mem_cons_self, ?_⟩
              unfold dropReturn
              split
              · exact List.dropLast_subset p
              · exact List.Subset.refl p
            · obtain ⟨r, hr, hl⟩ := ih h
              exact ⟨r, List.mem_cons_of_mem p hr, hl⟩
          · simp

/-- **No line holds a line feed.** -/
theorem not_mem_of_mem_lines {s l : List Char} (h : l ∈ lines s) : '\n' ∉ l := by
  obtain ⟨p, hp, hl⟩ := subset_of_mem_closeLines h
  intro hfeed
  cases eq_false_of_mem_pieces hp '\n' (hl hfeed)

/-- **A separator is found if and only if it is in the text.** -/
theorem isSome_splitFirst_iff {sep s : List Char} :
    (splitFirst sep s).isSome = true ↔ sep <:+: s := by
  induction s with
  | nil =>
      rw [splitFirst, List.infix_nil, ← List.isEmpty_iff]
      cases sep.isEmpty <;> simp
  | cons c s ih =>
      rw [splitFirst, List.infix_cons_iff, ← ih, ← List.isPrefixOf_iff_prefix]
      cases sep.isPrefixOf (c :: s) <;> simp

/-- **A text is its two parts** with the separator between them. -/
theorem eq_of_splitFirst {sep s before after : List Char}
    (h : splitFirst sep s = some (before, after)) : s = before ++ (sep ++ after) := by
  induction s generalizing before with
  | nil =>
      cases sep with
      | nil => simp_all [splitFirst]
      | cons d sep => simp [splitFirst] at h
  | cons c s ih =>
      rw [splitFirst] at h
      split at h
      · next hpre =>
          obtain ⟨t, ht⟩ := List.isPrefixOf_iff_prefix.1 hpre
          rw [← ht, List.drop_left, Option.some.injEq, Prod.mk.injEq] at h
          obtain ⟨rfl, rfl⟩ := h
          exact ht.symm
      · obtain ⟨⟨before', after'⟩, hs, hpair⟩ := Option.map_eq_some_iff.1 h
        obtain ⟨rfl, rfl⟩ := Prod.mk.inj hpair
        rw [ih hs, List.cons_append]

/-- **The first separator stays the first** when text follows. -/
theorem splitFirst_append {sep s before after : List Char}
    (h : splitFirst sep s = some (before, after)) (t : List Char) :
    splitFirst sep (s ++ t) = some (before, after ++ t) := by
  induction s generalizing before with
  | nil =>
      cases sep with
      | nil =>
          obtain ⟨rfl, rfl⟩ := Prod.mk.inj (Option.some.inj h)
          cases t <;> rfl
      | cons d sep => simp [splitFirst] at h
  | cons c s ih =>
      rw [splitFirst] at h
      rw [List.cons_append, splitFirst]
      by_cases hpre : sep.isPrefixOf (c :: s) = true
      · have hlong : sep <+: c :: s := List.isPrefixOf_iff_prefix.1 hpre
        have hpre' : sep.isPrefixOf (c :: (s ++ t)) = true :=
          List.isPrefixOf_iff_prefix.2 (hlong.trans (List.prefix_append (c :: s) t))
        rw [if_pos hpre, Option.some.injEq, Prod.mk.injEq] at h
        obtain ⟨rfl, rfl⟩ := h
        rw [if_pos hpre', ← List.cons_append, List.drop_append_of_le_length hlong.length_le]
      · rw [if_neg hpre] at h
        obtain ⟨⟨before', after'⟩, hs, hpair⟩ := Option.map_eq_some_iff.1 h
        obtain ⟨rfl, rfl⟩ := Prod.mk.inj hpair
        -- The separator is found in what is left, so it is too short to reach into the other text.
        have hlong : sep.length ≤ (c :: s).length := by
          rw [eq_of_splitFirst hs]
          simp only [List.length_cons, List.length_append]
          omega
        have hpre' : ¬ sep.isPrefixOf (c :: (s ++ t)) = true := by
          rw [List.isPrefixOf_iff_prefix] at hpre ⊢
          exact fun hlonger =>
            hpre (List.prefix_of_prefix_length_le hlonger (List.prefix_append (c :: s) t) hlong)
        rw [if_neg hpre', ih hs]
        rfl

/-- A separator whose first character is nowhere before it. -/
theorem splitFirst_of_not_mem {d : Char} {before : List Char} (h : d ∉ before)
    (sep after : List Char) :
    splitFirst (d :: sep) (before ++ (d :: sep ++ after)) = some (before, after) := by
  induction before with
  | nil =>
      have hpre : (d :: sep).isPrefixOf (d :: (sep ++ after)) = true :=
        List.isPrefixOf_iff_prefix.2 (List.prefix_append (d :: sep) after)
      rw [List.nil_append, List.cons_append, splitFirst, if_pos hpre, ← List.cons_append,
        List.drop_left]
  | cons c before ih =>
      simp only [List.mem_cons, not_or] at h
      have hpre : ¬ (d :: sep).isPrefixOf (c :: (before ++ (d :: sep ++ after))) = true := by
        simp [h.1]
      rw [List.cons_append, splitFirst, if_neg hpre, ih h.2]
      rfl

/-- **A text without the separator** can only be cut behind what follows it: the next character comes
before the separator, unless it is part of it. -/
theorem mem_of_splitFirst_append {sep s t before after : List Char} {c : Char}
    (h : splitFirst sep s = none) (hc : c ∉ sep)
    (happend : splitFirst sep (s ++ c :: t) = some (before, after)) : c ∈ before := by
  have hnone : ¬ sep <:+: s := by simp [← isSome_splitFirst_iff, h]
  rcases List.append_eq_append_iff.1 (eq_of_splitFirst happend) with
    ⟨u, rfl, hu⟩ | ⟨u, rfl, hu⟩
  · -- The separator begins behind the text.
    cases u with
    | nil =>
        cases sep with
        | nil => exact absurd (List.nil_infix) hnone
        | cons d sep => exact absurd (List.cons.inj hu).1 (fun hcd => hc (hcd ▸ List.mem_cons_self))
    | cons d u =>
        obtain ⟨rfl, -⟩ := List.cons.inj hu
        simp
  · -- The separator begins inside the text, so it lies in it or reaches over its end.
    exfalso
    rcases List.append_eq_append_iff.1 hu with ⟨v, rfl, -⟩ | ⟨v, rfl, hv⟩
    · exact hnone ⟨before, v, by simp⟩
    · cases v with
      | nil => exact hnone ⟨before, [], by simp⟩
      | cons d v =>
          obtain ⟨rfl, -⟩ := List.cons.inj hv
          exact hc (by simp)

/-- A word by itself. -/
theorem words_of_solid {w : List Char} (h : Solid w) : words w = [w] := by
  rw [words, pieces_of_not h.2]
  simp [h.1]

/-- A word before a space, and the words after it. -/
theorem words_cons_spaced {w : List Char} (h : Solid w) (s : List Char) :
    words (w ++ ' ' :: s) = w :: words s := by
  rw [words, pieces_append_cons (by decide), List.filter_append]
  show words w ++ words s = _
  rw [words_of_solid h, List.singleton_append]

/-! ## Putting together -/

/-- **Words with a space between them.** -/
def spaced : List (List Char) → List Char
  | [] => []
  | w :: ws => w ++ ws.flatMap (fun v => ' ' :: v)

/-- Words go on with more words. -/
theorem spaced_append {vs : List (List Char)} (h : vs ≠ []) (ws : List (List Char)) :
    spaced (vs ++ ws) = spaced vs ++ ws.flatMap (fun w => ' ' :: w) := by
  cases vs with
  | nil => exact absurd rfl h
  | cons v vs =>
      show v ++ (vs ++ ws).flatMap _ = v ++ vs.flatMap _ ++ ws.flatMap _
      rw [List.flatMap_append, List.append_assoc]

/-- **Words that were put together are taken apart again.** -/
theorem words_spaced {ws : List (List Char)} (h : ∀ w ∈ ws, Solid w) : words (spaced ws) = ws := by
  induction ws with
  | nil => rfl
  | cons w ws ih =>
      have hw := h w List.mem_cons_self
      have hrest := ih (fun w' hw' => h w' (List.mem_cons_of_mem w hw'))
      cases ws with
      | nil =>
          show words (w ++ []) = [w]
          rw [List.append_nil]
          exact words_of_solid hw
      | cons v ws =>
          show words (w ++ ' ' :: spaced (v :: ws)) = _
          rw [words_cons_spaced hw, hrest]

end SeriesBridge.Text
