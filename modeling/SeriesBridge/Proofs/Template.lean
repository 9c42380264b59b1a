import Mathlib.Algebra.Ring.Parity
import SeriesBridge.Proofs.Text.Blank
import SeriesBridge.Proofs.Text.Identifier
import SeriesBridge.Template

/-! # Templates piece by piece

Whether a placeholder is taken is decided by the braces right before it alone. Behind an even number of
opening braces it is taken, whatever stands before them and behind it, and the texts on both sides are
filled as if they stood alone; behind an odd number its braces are text.

* **`Template.openBraces s`** — the opening braces that a text ends in.
* **`Template.written before name behind`** — a placeholder as it stands in a template.
* **`Template.segments_append_brace`** — behind an even number of opening braces the search begins
  anew.
* **`Template.fill_append_written`** — a placeholder between two texts. -/

namespace SeriesBridge.Template

open Text

/-! ## Cutting at braces -/

/-- The closing braces are a separator. -/
theorem splitClosing_eq (s : List Char) : splitClosing s = splitFirst closing s := by
  induction s using splitClosing.induct with
  | case1 => rfl
  | case2 c => simp [splitClosing, splitFirst, closing, List.isPrefixOf]
  | case3 c d s hc =>
      simp only [Bool.and_eq_true, beq_iff_eq] at hc
      obtain ⟨rfl, rfl⟩ := hc
      rfl
  | case4 c d s hc ih =>
      have hpre : closing.isPrefixOf (c :: d :: s) = (c == '\x7d' && d == '\x7d') := by
        rw [BEq.comm (a := c), BEq.comm (a := d)]
        exact congrArg _ (Bool.and_true _)
      rw [splitClosing, if_neg hc, splitFirst, hpre, if_neg hc, ← ih]

variable {s inner rest : List Char}

/-- A character that does not open anything is text. -/
theorem segments_cons {c : Char} (h : c = '\x7b' → s.head? ≠ some '\x7b') :
    segments (c :: s) = .literal c :: segments s := by
  cases s with
  | nil => rw [segments_nil, segments]
  | cons d s =>
      have hne : ¬ (c == '\x7b' && d == '\x7b') = true := by
        simp only [Bool.and_eq_true, beq_iff_eq, not_and]
        rintro rfl rfl
        exact h rfl rfl
      rw [segments, if_neg hne]

/-- **Braces around a name** are a placeholder. -/
theorem segments_name (h : splitFirst closing s = some (inner, rest))
    (hname : isWordName (trim inner) = true) :
    segments ('\x7b' :: '\x7b' :: s) = .placeholder (trim inner) :: segments rest := by
  rw [← splitClosing_eq] at h
  rw [segments, if_pos (by decide)]
  split
  · next inner' rest' h' =>
      obtain ⟨rfl, rfl⟩ := Prod.mk.inj (Option.some.inj (h.symm.trans h'))
      rw [if_pos hname]
  · next h' => cases h.symm.trans h'

/-- **Braces around anything else,** or around nothing, are text. -/
theorem segments_braces
    (h : ∀ inner rest, splitFirst closing s = some (inner, rest) → isWordName (trim inner) = false) :
    segments ('\x7b' :: '\x7b' :: s) = .literal '\x7b' :: .literal '\x7b' :: segments s := by
  rw [segments, if_pos (by decide)]
  split
  · next inner' rest' h' => rw [if_neg (by simp [h inner' rest' (splitClosing_eq s ▸ h')])]
  · rfl

/-- A text without opening braces is text, whatever follows it. -/
theorem segments_append_of_not_mem {u : List Char} (h : '\x7b' ∉ u) (s : List Char) :
    segments (u ++ s) = u.map .literal ++ segments s := by
  induction u with
  | nil => rfl
  | cons c u ih =>
      simp only [List.mem_cons, not_or] at h
      rw [List.cons_append, segments_cons (fun hc => absurd hc.symm h.1), ih h.2]
      rfl

/-- No name has an opening brace in it. -/
theorem not_isWordName_of_mem (h : '\x7b' ∈ inner) : isWordName (trim inner) = false := by
  have htrim : '\x7b' ∈ trim inner := mem_trim_of_not h (by decide)
  simp only [isWordName, Bool.and_eq_false_iff, List.all_eq_false]
  exact .inr ⟨_, htrim, by decide⟩

/-! ## Opening braces -/

/-- **The opening braces that a text ends in.** -/
def openBraces (s : List Char) : Nat := (s.reverse.takeWhile (· == '\x7b')).length

/-- No text ends in no brace. -/
@[simp] theorem openBraces_nil : openBraces [] = 0 := rfl

/-- What stands before another character does not count. -/
theorem openBraces_append_cons {c : Char} (hc : c ≠ '\x7b') (s t : List Char) :
    openBraces (s ++ c :: t) = openBraces t := by
  have hstop : (c :: s.reverse).takeWhile (· == '\x7b') = [] :=
    List.takeWhile_cons_of_neg (by simpa using hc)
  rw [openBraces, openBraces, List.reverse_append, List.reverse_cons, List.append_assoc,
    List.singleton_append, List.takeWhile_append, hstop, List.append_nil]
  split
  · next hall => exact hall.symm
  · rfl

/-- What stands before closing braces does not count. -/
theorem openBraces_closing (s t : List Char) : openBraces (s ++ (closing ++ t)) = openBraces t :=
  (openBraces_append_cons (by decide) s ('\x7d' :: t)).trans
    (openBraces_append_cons (by decide) [] t)

/-- One brace more at the end. -/
theorem openBraces_concat (s : List Char) : openBraces (s ++ ['\x7b']) = openBraces s + 1 := by
  rw [openBraces, List.reverse_append]
  rfl

/-- A text that ends in an odd number of braces has one behind an even number of them. -/
theorem exists_of_odd_openBraces {s : List Char} (h : Odd (openBraces s)) :
    ∃ t, s = t ++ ['\x7b'] ∧ Even (openBraces t) := by
  rcases List.eq_nil_or_concat s with rfl | ⟨t, c, rfl⟩
  · exact absurd h (by decide)
  · rw [List.concat_eq_append] at h ⊢
    by_cases hc : c = '\x7b'
    · subst hc
      rw [openBraces_concat, Nat.odd_add_one, Nat.not_odd_iff_even] at h
      exact ⟨t, rfl, h⟩
    · rw [openBraces_append_cons hc] at h
      exact absurd h (by decide)

/-- Two braces more leave the number even or odd. -/
theorem even_openBraces_braces (s : List Char) :
    Even (openBraces ('\x7b' :: '\x7b' :: s)) ↔ Even (openBraces s) := by
  have hreverse : ('\x7b' :: '\x7b' :: s).reverse = s.reverse ++ opening := by
    simp [opening]
  rw [openBraces, openBraces, hreverse, List.takeWhile_append]
  split
  · -- The text is all braces, so the two go on what it ends in.
    next hall =>
      rw [List.length_append, hall, Nat.even_add]
      exact iff_true_right (by decide)
  · rfl

/-- **Behind an even number of opening braces the search begins anew.** Braces that open in the text before
are closed in it, or not before an opening brace, and then they are text in the whole as they are in the
text by itself. -/
theorem segments_append_brace {a : List Char} (h : Even (openBraces a)) (y : List Char) :
    segments (a ++ '\x7b' :: y) = segments a ++ segments ('\x7b' :: y) := by
  induction a using segments.induct with
  | case1 => rw [segments_nil]; rfl
  | case2 c =>
      have hc : c ≠ '\x7b' := by
        rintro rfl
        exact absurd h (by decide)
      rw [List.singleton_append, segments_cons (absurd · hc), segments_cons (absurd · hc), segments_nil]
      rfl
  | case3 c d s hopen inner rest hsplit hname ih =>
      simp only [Bool.and_eq_true, beq_iff_eq] at hopen
      obtain ⟨rfl, rfl⟩ := hopen
      rw [splitClosing_eq] at hsplit
      have heven : Even (openBraces rest) := by
        rwa [even_openBraces_braces, eq_of_splitFirst hsplit, openBraces_closing] at h
      rw [segments_name hsplit hname, List.cons_append, List.cons_append,
        segments_name (splitFirst_append hsplit _) hname, ih heven]
      rfl
  | case4 c d s hopen inner rest hsplit hname ih =>
      simp only [Bool.and_eq_true, beq_iff_eq] at hopen
      obtain ⟨rfl, rfl⟩ := hopen
      rw [splitClosing_eq] at hsplit
      have hwhole : ∀ t inner' rest', splitFirst closing (s ++ t) = some (inner', rest') →
          isWordName (trim inner') = false := by
        intro t inner' rest' h'
        rw [splitFirst_append hsplit] at h'
        obtain ⟨rfl, -⟩ := Prod.mk.inj (Option.some.inj h')
        exact Bool.eq_false_iff.2 hname
      have halone := hwhole []
      rw [List.append_nil] at halone
      rw [segments_braces halone, List.cons_append, List.cons_append, segments_braces (hwhole _),
        ih ((even_openBraces_braces s).1 h)]
      rfl
  | case5 c d s hopen hsplit ih =>
      simp only [Bool.and_eq_true, beq_iff_eq] at hopen
      obtain ⟨rfl, rfl⟩ := hopen
      rw [splitClosing_eq] at hsplit
      -- In the whole the braces may be closed later on, but behind an opening brace.
      have hwhole : ∀ inner' rest', splitFirst closing (s ++ '\x7b' :: y) = some (inner', rest') →
          isWordName (trim inner') = false := fun inner' rest' h' =>
        not_isWordName_of_mem (mem_of_splitFirst_append hsplit (by decide) h')
      have halone : ∀ inner' rest', splitFirst closing s = some (inner', rest') →
          isWordName (trim inner') = false := by simp [hsplit]
      rw [segments_braces halone, List.cons_append, List.cons_append, segments_braces hwhole,
        ih ((even_openBraces_braces s).1 h)]
      rfl
  | case6 c d s hopen ih =>
      have hfirst (t : List Char) : c = '\x7b' → (d :: s ++ t).head? ≠ some '\x7b' := by
        simpa using hopen
      have heven : Even (openBraces (d :: s)) := by
        by_cases hc : c = '\x7b'
        · -- The brace stands before another character, which keeps it from counting.
          have hd : d ≠ '\x7b' := by simpa using hfirst [] hc
          rw [← List.nil_append (d :: s), openBraces_append_cons hd]
          rwa [← List.singleton_append, openBraces_append_cons hd] at h
        · rwa [← List.nil_append (c :: d :: s), openBraces_append_cons hc] at h
      rw [segments_cons (by simpa using hfirst []), List.cons_append, segments_cons (hfirst _), ih heven]
      rfl

/-! ## Placeholders -/

/-- **A placeholder as it stands in a template,** with blanks before and behind its name. -/
def written (before name behind : String) : String :=
  String.ofList opening ++ before ++ name ++ behind ++ String.ofList closing

section Written

variable {n w₁ w₂ : String}

/-- The characters of a placeholder as it stands in a template. -/
theorem toList_written : (written w₁ n w₂).toList =
    '\x7b' :: '\x7b' :: (w₁.toList ++ n.toList ++ w₂.toList ++ closing) := by
  simp [written, opening]

/-- There are no braces between those of a placeholder. -/
theorem not_mem_of_written (hname : isWordName n.toList = true)
    (hw₁ : ∀ c ∈ w₁.toList, isBlank c = true) (hw₂ : ∀ c ∈ w₂.toList, isBlank c = true) {c : Char}
    (hblank : isBlank c = false) (hword : (c.isAlphanum || c == '_') = false) :
    c ∉ w₁.toList ++ n.toList ++ w₂.toList := by
  simp only [isWordName, Bool.and_eq_true, List.all_eq_true] at hname
  simp only [List.mem_append]
  rintro ((hc | hc) | hc)
  · cases hblank.symm.trans (hw₁ c hc)
  · cases hword.symm.trans (hname.2 c hc)
  · cases hblank.symm.trans (hw₂ c hc)

/-- **At the beginning of a template** a placeholder is taken. -/
theorem segments_written (hname : isWordName n.toList = true)
    (hw₁ : ∀ c ∈ w₁.toList, isBlank c = true) (hw₂ : ∀ c ∈ w₂.toList, isBlank c = true)
    (b : List Char) :
    segments ((written w₁ n w₂).toList ++ b) = .placeholder n.toList :: segments b := by
  have hclose := not_mem_of_written hname hw₁ hw₂ (c := '\x7d') (by decide) (by decide)
  have htrim : trim (w₁.toList ++ n.toList ++ w₂.toList) = n.toList :=
    (solid_of_isWordName hname).trim_eq hw₁ hw₂
  have hsplit : splitFirst closing (w₁.toList ++ n.toList ++ w₂.toList ++ (closing ++ b)) =
      some (w₁.toList ++ n.toList ++ w₂.toList, b) := splitFirst_of_not_mem hclose _ b
  rw [toList_written, List.cons_append, List.cons_append, List.append_assoc,
    segments_name hsplit (by rw [htrim, hname]), htrim]

/-- **Behind one more brace** it is text. -/
theorem segments_brace_written (hname : isWordName n.toList = true)
    (hw₁ : ∀ c ∈ w₁.toList, isBlank c = true) (hw₂ : ∀ c ∈ w₂.toList, isBlank c = true)
    (b : List Char) :
    segments ('\x7b' :: ((written w₁ n w₂).toList ++ b)) =
      .literal '\x7b' :: ((written w₁ n w₂).toList.map .literal ++ segments b) := by
  have hclose := not_mem_of_written hname hw₁ hw₂ (c := '\x7d') (by decide) (by decide)
  have hopen := not_mem_of_written hname hw₁ hw₂ (c := '\x7b') (by decide) (by decide)
  rw [toList_written]
  generalize w₁.toList ++ n.toList ++ w₂.toList = inner at hclose hopen
  have hinner : '\x7b' ∉ inner ++ closing := by simp [hopen, closing]
  have hsplit : splitFirst closing ('\x7b' :: (inner ++ closing ++ b)) = some ('\x7b' :: inner, b) := by
    have hbrace : '\x7d' ∉ '\x7b' :: inner := by simp [hclose]
    rw [List.append_assoc]
    exact splitFirst_of_not_mem hbrace ['\x7d'] b
  -- The first two braces are closed behind a third one, and the third is followed by no other.
  have hbraces : ∀ inner' rest', splitFirst closing ('\x7b' :: (inner ++ closing ++ b)) =
      some (inner', rest') → isWordName (trim inner') = false := by
    intro inner' rest' h'
    obtain ⟨rfl, -⟩ := Prod.mk.inj (Option.some.inj (hsplit.symm.trans h'))
    exact not_isWordName_of_mem List.mem_cons_self
  have hhead : (inner ++ closing ++ b).head? ≠ some '\x7b' := by
    cases inner with
    | nil => simp [closing]
    | cons c inner => simpa [eq_comm] using And.left (not_or.1 (mt List.mem_cons.2 hopen))
  rw [List.cons_append, List.cons_append, segments_braces hbraces, segments_cons (fun _ => hhead),
    segments_append_of_not_mem hinner]
  rfl

/-- **Between two texts** a placeholder is taken behind an even number of opening braces. -/
theorem segments_append_written (hname : isWordName n.toList = true)
    (hw₁ : ∀ c ∈ w₁.toList, isBlank c = true) (hw₂ : ∀ c ∈ w₂.toList, isBlank c = true)
    {a : List Char} (ha : Even (openBraces a)) (b : List Char) :
    segments (a ++ ((written w₁ n w₂).toList ++ b)) =
      segments a ++ .placeholder n.toList :: segments b := by
  have hwritten := segments_written hname hw₁ hw₂ b
  rw [toList_written, List.cons_append] at hwritten ⊢
  rw [segments_append_brace ha, hwritten]

/-- **Behind an odd number** it is text. -/
theorem segments_append_written_of_odd (hname : isWordName n.toList = true)
    (hw₁ : ∀ c ∈ w₁.toList, isBlank c = true) (hw₂ : ∀ c ∈ w₂.toList, isBlank c = true)
    {a : List Char} (ha : Odd (openBraces a)) (b : List Char) :
    segments (a ++ ((written w₁ n w₂).toList ++ b)) =
      segments a ++ ((written w₁ n w₂).toList.map .literal ++ segments b) := by
  -- The last brace of the text goes together with the first one of the placeholder.
  obtain ⟨a, rfl, heven⟩ := exists_of_odd_openBraces ha
  rw [List.append_assoc, List.singleton_append, segments_append_brace heven,
    segments_brace_written hname hw₁ hw₂, segments_append_brace heven,
    segments_cons (by simp), segments_nil, List.append_assoc]
  rfl

end Written

/-- What a template comes to is what its pieces come to. -/
theorem toList_fill (value : String → Option String) (t : String) :
    (fill value t).toList = (segments t.toList).flatMap (fillSegment value) :=
  String.toList_ofList

/-- Text is filled with itself. -/
theorem flatMap_fillSegment_literal (value : String → Option String) (s : List Char) :
    (s.map Segment.literal).flatMap (fillSegment value) = s := by
  induction s with
  | nil => rfl
  | cons c s ih => rw [List.map_cons, List.flatMap_cons, ih]; rfl

/-- **A template is filled piece by piece.** A placeholder between two texts, with any blanks around its
name, is filled with the value of its name as it is, or with nothing, and the texts are filled as if
they stood alone: when the first text ends in an even number of opening braces. Behind an odd number
the placeholder is text, and no name is asked for there. -/
theorem fill_append_written {n w₁ w₂ : String} (hn : n ≠ "")
    (hname : ∀ c ∈ n.toList, IsLetter c ∨ IsDigit c ∨ c = '_')
    (hw₁ : ∀ c ∈ w₁.toList, isBlank c = true) (hw₂ : ∀ c ∈ w₂.toList, isBlank c = true)
    (a b : String) (value : String → Option String) :
    (Even (openBraces a.toList) →
      fill value (a ++ written w₁ n w₂ ++ b) =
        fill value a ++ (value n).getD "" ++ fill value b ∧
      placeholders (a ++ written w₁ n w₂ ++ b) = placeholders a ++ n :: placeholders b) ∧
    (Odd (openBraces a.toList) →
      fill value (a ++ written w₁ n w₂ ++ b) = fill value a ++ written w₁ n w₂ ++ fill value b ∧
      placeholders (a ++ written w₁ n w₂ ++ b) = placeholders a ++ placeholders b) := by
  have hword : isWordName n.toList = true := isWordName_iff.2 ⟨hn, hname⟩
  refine ⟨fun ha => ?_, fun ha => ?_⟩
  · have hsegments := segments_append_written hword hw₁ hw₂ ha b.toList
    rw [← List.append_assoc, ← String.toList_append, ← String.toList_append] at hsegments
    refine ⟨String.toList_injective ?_, ?_⟩
    · rw [toList_fill, hsegments]
      simp [toList_fill, fillSegment]
    · rw [placeholders, hsegments]
      simp [placeholders]
  · have hsegments := segments_append_written_of_odd hword hw₁ hw₂ ha b.toList
    rw [← List.append_assoc, ← String.toList_append, ← String.toList_append] at hsegments
    refine ⟨String.toList_injective ?_, ?_⟩
    · rw [toList_fill, hsegments]
      simp [toList_fill, flatMap_fillSegment_literal]
    · rw [placeholders, hsegments]
      simp [placeholders, List.filterMap_map]

/-- The values of a bridge that reads one table. -/
def metersValue (name : String) : Option String := if name = "table" then some "meters" else none

/-- Behind two braces a name is taken, behind three it is not. -/
theorem fill_append_written_braces :
    fill metersValue ("td-\x7b\x7b" ++ written "" "table" " " ++ "\x7d-\x7b\x7bo") =
      "td-\x7b\x7bmeters\x7d-\x7b\x7bo" ∧
    placeholders ("td-\x7b\x7b\x7b" ++ written "" "table" " " ++ "\x7d-\x7b\x7bo") = [] := by
  have hword := (isWordName_iff.1 (show isWordName "table".toList = true by decide +kernel)).2
  have hmeters := @fill_append_written "table" "" " " (by decide) hword
    (List.all_eq_true.1 (by decide)) (List.all_eq_true.1 (by decide))
  obtain ⟨heven, -⟩ := hmeters "td-\x7b\x7b" "\x7d-\x7b\x7bo" metersValue
  obtain ⟨-, hodd⟩ := hmeters "td-\x7b\x7b\x7b" "\x7d-\x7b\x7bo" metersValue
  exact ⟨(heven (by decide)).1.trans (by decide +kernel), (hodd (by decide)).2.trans (by decide +kernel)⟩

end SeriesBridge.Template
