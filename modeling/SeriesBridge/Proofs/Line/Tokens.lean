import SeriesBridge.Proofs.Line.Faults
import SeriesBridge.Proofs.Line.Lexing
import SeriesBridge.Proofs.Number.ReadBack

/-! # Lines cut as they were put together

The pieces of the line of a point are those that it was written from: names lose their
backslashes, values keep their marks, and each gap is one space.

* **`Line.name_spellName`**, **`Line.escaped_spellText`** — names and texts are written as the grammar
  has them.
* **`Line.tokens_spellValue`** — a value before text where words end.
* **`Line.pointTokens p`** — the pieces of a point.
* **`Line.tokens_spell`** — they are the tokens of its line. -/

namespace SeriesBridge.Line

/-! ## Words -/

/-- **A character of a name is read as itself,** with its backslash or without. -/
theorem readWord_spellNameChar {c : Char} (hbreak : isBreak c = false) (s : List Char) :
    readWord (spellNameChar c ++ s) = (c :: (readWord s).1, (readWord s).2) := by
  unfold spellNameChar
  by_cases hsep : isSeparator c = true
  · -- Behind a backslash every character is read as it is.
    rw [if_pos hsep]
    rfl
  · have hsep : isSeparator c = false := Bool.eq_false_iff.2 hsep
    have hne : c ≠ '\\' := by
      rintro rfl
      exact absurd hsep (by decide)
    rw [if_neg (by simp [hsep])]
    exact readWord_cons (endsWord_eq_false hsep hbreak) hne s

/-- **A name is written so that it is read as it was.** -/
theorem escaped_spellName {w : List Char} (hw : ∀ c ∈ w, isBreak c = false) :
    Escaped isPlain (spellName w) w := by
  induction w with
  | nil => exact .nil
  | cons c w ih =>
      have ih := ih (fun d hd => hw d (List.mem_cons_of_mem c hd))
      rw [spellName_cons, spellNameChar]
      by_cases hsep : isSeparator c = true
      · rw [if_pos hsep]
        exact .behind ih
      · rw [if_neg hsep]
        exact .plain (by simp [isPlain, hsep, hw c List.mem_cons_self]) ih

/-- **A name that is not empty** is written as a name. -/
theorem name_spellName {w : List Char} (hne : w ≠ []) (hw : ∀ c ∈ w, isBreak c = false) :
    Name (spellName w) w := by
  refine ⟨escaped_spellName hw, ?_⟩
  intro hnil
  have h := escaped_spellName hw
  rw [hnil] at h
  cases h
  exact hne rfl

/-- A plain word is a name as it is. -/
theorem name_of_plain {w : List Char} (hne : w ≠ []) (hw : ∀ c ∈ w, isPlain c = true) :
    Name w w := by
  refine ⟨?_, hne⟩
  clear hne
  induction w with
  | nil => exact .nil
  | cons c w ih =>
      exact .plain (hw c List.mem_cons_self) (ih (fun d hd => hw d (List.mem_cons_of_mem c hd)))

/-! ## Quoted texts -/

/-- **A quoted text is written so that it is read as it was.** -/
theorem escaped_spellText {t : List Char} (ht : ∀ c ∈ t, isBreak c = false) :
    Escaped isInner (spellText t) t := by
  induction t with
  | nil => exact .nil
  | cons c t ih =>
      have ih := ih (fun d hd => ht d (List.mem_cons_of_mem c hd))
      rw [spellText_cons, spellTextChar]
      by_cases hquote : (c == '"' || c == '\\') = true
      · rw [if_pos hquote]
        exact .behind ih
      · rw [if_neg hquote]
        exact .plain (by simp [isInner, hquote, ht c List.mem_cons_self]) ih

/-! ## Values -/

section Pieces

variable {s : List Char} {ts : List Token}

/-- The pieces of a value. -/
def valueTokens : Value → List Token
  | .text t => [.word ['L'], .quoted t.toList]
  | v => [.word (spellValue v)]

/-- An integer is written as a plain word. -/
theorem isPlain_of_mem_showInt {n : Int} {c : Char} (h : c ∈ Text.showInt n) :
    isPlain c = true := by
  rcases Text.mem_showInt h with rfl | hdigit
  · decide
  · exact isPlain_of_isDigit hdigit

/-- A double is written as a plain word. -/
theorem isPlain_of_mem_positional {d : Double} {c : Char} (h : c ∈ d.positional) :
    isPlain c = true := by
  rcases Double.mem_positional h with rfl | rfl | hdigit
  · decide
  · decide
  · exact isPlain_of_isDigit hdigit

/-- A plain word with a plain mark behind it, before tokens. -/
theorem tokens_marked {w mark : List Char} (hmark : mark ≠ []) (hplain : mark.all isPlain = true)
    (hw : ∀ c ∈ w, isPlain c = true) (hs : Stops s) (h : tokens s = .ok ts) :
    tokens ((w ++ mark) ++ s) = .ok (.word (w ++ mark) :: ts) := by
  have hne : w ++ mark ≠ [] := fun hnil => hmark (List.append_eq_nil_iff.1 hnil).2
  refine tokens_name (name_of_plain hne ?_) hs h
  intro c hc
  exact (List.mem_append.1 hc).elim (hw c) (List.all_eq_true.1 hplain c)

/-- **A value before tokens.** -/
theorem tokens_spellValue {key : String} {v : Value} (hv : valueFault key v = none)
    (hs : Stops s) (h : tokens s = .ok ts) :
    tokens (spellValue v ++ s) = .ok (valueTokens v ++ ts) := by
  match v with
  | .int n => exact tokens_marked (by simp) (by decide) (fun c => isPlain_of_mem_showInt) hs h
  | .float d => exact tokens_marked (by simp) (by decide) (fun c => isPlain_of_mem_positional) hs h
  | .bool true =>
      exact tokens_name (name_of_plain (w := ['t', 'r', 'u', 'e']) (by simp)
        (List.all_eq_true.1 (by decide))) hs h
  | .bool false =>
      exact tokens_name (name_of_plain (w := ['f', 'a', 'l', 's', 'e']) (by simp)
        (List.all_eq_true.1 (by decide))) hs h
  | .text t =>
      have ht : ∀ c ∈ t.toList, isBreak c = false := by
        simpa [valueFault, breakFault] using hv
      have hquoted := tokens_quoted (escaped_spellText ht) h
      have hmark : Stops ('"' :: (spellText t.toList ++ '"' :: s)) := by
        show endsWord '"' = true
        decide
      have hL : Name ['L'] ['L'] := name_of_plain (by simp) (List.all_eq_true.1 (by decide))
      have := tokens_name hL hmark hquoted
      simpa [spellValue, valueTokens] using this

end Pieces

/-! ## Points with a line -/

/-- **A pair with a spelling:** a key, and neither a break nor a number that is not finite. -/
structure WritablePair (q : Pair) : Prop where
  key : q.1.toList ≠ []
  fault : pairFault q = none

/-- **A point with a line.** -/
structure Writable (p : Point) : Prop where
  name : p.measurement.toList ≠ []
  noBreak : ∀ c ∈ p.measurement.toList, isBreak c = false
  tags : ∀ q ∈ p.tags, WritablePair q
  nonempty : p.fields ≠ []
  fields : ∀ q ∈ p.fields, WritablePair q
  check : p.check = none

/-- A text without a fault holds no break. -/
theorem isBreak_of_breakFault {text : String} (h : breakFault text = none) :
    ∀ c ∈ text.toList, isBreak c = false := by
  simpa [breakFault] using h

/-- The key of a pair with a spelling holds no break. -/
theorem WritablePair.noBreak {q : Pair} (h : WritablePair q) :
    ∀ c ∈ q.1.toList, isBreak c = false :=
  isBreak_of_breakFault (Option.or_eq_none_iff.1 h.fault).1

/-- **A point without a fault has a line.** -/
theorem writable_of_writeFault {p : Point} (h : writeFault p = none) : Writable p := by
  obtain ⟨hcheck, hname, htags, hfields⟩ := writeFault_eq_none_iff.1 h
  obtain ⟨hne, hnonempty, ⟨htagKeys, -⟩, hfieldKeys, -⟩ := Point.check_eq_none_iff.1 hcheck
  exact
    { name := by simpa using hne
      noBreak := isBreak_of_breakFault hname
      tags := fun q hq => ⟨by simpa using htagKeys q hq, htags q hq⟩
      nonempty := hnonempty
      fields := fun q hq => ⟨by simpa using hfieldKeys q hq, hfields q hq⟩
      check := hcheck }

/-! ## Pieces of points -/

/-- The pieces of a pair. -/
def pairTokens (q : Pair) : List Token := .word q.1.toList :: .equals :: valueTokens q.2

/-- The pieces of pairs, each after a comma. -/
def tagTokens (tags : List Pair) : List Token := tags.flatMap (fun q => .comma :: pairTokens q)

/-- The pieces of pairs with a comma between them. -/
def fieldTokens : List Pair → List Token
  | [] => []
  | q :: rest => pairTokens q ++ tagTokens rest

/-- The pieces of a timestamp after a space. -/
def timeTokens : Option Int64 → List Token
  | none => []
  | some t => [.gap, .word (Text.showInt t.toInt)]

/-- **The pieces of a point.** -/
def pointTokens (p : Point) : List Token :=
  .word p.measurement.toList ::
    (tagTokens p.tags ++ .gap :: (fieldTokens p.fields ++ timeTokens p.timestamp))

section Points

variable {s : List Char} {ts : List Token}

/-- **A pair before tokens.** -/
theorem tokens_spellPair {q : Pair} (hq : WritablePair q) (hs : Stops s) (h : tokens s = .ok ts) :
    tokens (spellPair q ++ s) = .ok (pairTokens q ++ ts) := by
  have hvalue := tokens_spellValue (Option.or_eq_none_iff.1 hq.fault).2 hs h
  have hequals : Stops ('=' :: (spellValue q.2 ++ s)) := by
    show endsWord '=' = true
    decide
  have := tokens_name (name_spellName hq.key hq.noBreak) hequals (tokens_equals hvalue)
  rw [spellPair, List.append_assoc]
  exact this

/-- Words end before pairs after commas. -/
theorem stops_spellTags (hs : Stops s) (tags : List Pair) : Stops (spellTags tags ++ s) := by
  cases tags with
  | nil => exact hs
  | cons q tags =>
      show endsWord ',' = true
      decide

/-- **Pairs after commas before tokens.** -/
theorem tokens_spellTags {tags : List Pair} (htags : ∀ q ∈ tags, WritablePair q) (hs : Stops s)
    (h : tokens s = .ok ts) : tokens (spellTags tags ++ s) = .ok (tagTokens tags ++ ts) := by
  induction tags with
  | nil => exact h
  | cons q tags ih =>
      have ih := ih (fun r hr => htags r (List.mem_cons_of_mem q hr))
      have hpair := tokens_spellPair (htags q List.mem_cons_self) (stops_spellTags hs tags) ih
      have := tokens_comma hpair
      simpa [spellTags, tagTokens] using this

/-- A space is a gap. -/
theorem blanks_space : Blanks [' '] := ⟨by simp [isGap], List.cons_ne_nil _ _⟩

/-- Words end before a timestamp, or before nothing. -/
theorem stops_spellTime (t : Option Int64) : Stops (spellTime t) := by
  cases t with
  | none => trivial
  | some t =>
      show endsWord ' ' = true
      decide

/-- The tokens of a timestamp. -/
theorem tokens_spellTime (t : Option Int64) : tokens (spellTime t) = .ok (timeTokens t) := by
  cases t with
  | none =>
      show tokens [] = .ok []
      rw [tokens]
  | some t =>
      have hname : Name (Text.showInt t.toInt) (Text.showInt t.toInt) :=
        name_of_plain (Text.showInt_ne_nil t.toInt) (fun c => isPlain_of_mem_showInt)
      have hnil : tokens [] = .ok [] := by rw [tokens]
      have hword := tokens_name hname stops_nil hnil
      have hstart := hname.dropWhile_isGap []
      rw [List.append_nil] at hword hstart
      exact tokens_blanks blanks_space hstart hword

/-- **The tokens of a line** are the pieces of its point. -/
theorem tokens_spell {p : Point} (hp : Writable p) : tokens (spell p) = .ok (pointTokens p) := by
  obtain ⟨q, rest, hfields⟩ := List.exists_cons_of_ne_nil hp.nonempty
  -- From the last piece to the first, each is put before tokens that are known.
  have hq := hp.fields
  rw [hfields] at hq
  have hfirst := hq q List.mem_cons_self
  have hmore := tokens_spellTags (fun r hr => hq r (List.mem_cons_of_mem q hr))
    (stops_spellTime p.timestamp) (tokens_spellTime p.timestamp)
  have hpairs := tokens_spellPair hfirst (stops_spellTags (stops_spellTime _) rest) hmore
  have hstart : (spellPair q ++ (spellTags rest ++ spellTime p.timestamp)).dropWhile isGap =
      spellPair q ++ (spellTags rest ++ spellTime p.timestamp) := by
    rw [spellPair, List.append_assoc]
    exact (name_spellName hfirst.key hfirst.noBreak).dropWhile_isGap _
  have hgap := tokens_blanks blanks_space hstart hpairs
  have hspace : Stops (' ' :: (spellPair q ++ (spellTags rest ++ spellTime p.timestamp))) := by
    show endsWord ' ' = true
    decide
  have htags := tokens_spellTags hp.tags hspace hgap
  have hline := tokens_name (name_spellName hp.name hp.noBreak) (stops_spellTags hspace p.tags) htags
  simpa [spell, pointTokens, spellFields, fieldTokens, hfields] using hline

end Points

end SeriesBridge.Line
