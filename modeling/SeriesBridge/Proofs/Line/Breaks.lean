import SeriesBridge.Proofs.Line.Reading

/-! # Line breaks behind backslashes

A line that is decoded may hold line breaks, for behind a backslash any character stands for itself.
The point of such a line has no line of its own, and every other point that is decoded has one.

* **`Line.LineText.writeFault_eq_none_iff`** — the points of derived lines that have a line.
* **`Line.encode_of_decode_iff`** — the lines that can be written anew. -/

namespace SeriesBridge.Line

section Breaks

variable {s w : List Char} {v : Value} {q : Pair} {qs : List Pair}

/-! ## Names and values -/

/-- **A text with backslashes breaks** where the text breaks that it is read as. -/
theorem Escaped.any_isBreak {plain : Char → Bool} (h : Escaped plain s w) :
    s.any isBreak = w.any isBreak := by
  induction h with
  | nil => rfl
  | plain hc rest ih => rw [List.any_cons, List.any_cons, ih]
  | behind rest ih =>
      have hbackslash : isBreak '\\' = false := by decide
      rw [List.any_cons, List.any_cons, List.any_cons, ih, hbackslash, Bool.false_or]

/-- A plain text does not break. -/
theorem any_isBreak_of_plain (h : ∀ c ∈ w, isPlain c = true) : w.any isBreak = false := by
  rw [List.any_eq_false]
  intro c hc
  have := h c hc
  simp only [isPlain, Bool.and_eq_true, Bool.not_eq_true'] at this
  simp [this.2]

/-- Blanks do not break. -/
theorem Blanks.any_isBreak (h : Blanks s) : s.any isBreak = false := by
  rw [List.any_eq_false]
  intro c hc
  have := h.gaps c hc
  simp only [isGap, Bool.or_eq_true, beq_iff_eq] at this
  rcases this with rfl | rfl
  · decide
  · decide

/-- A text has no fault when it does not break. -/
theorem breakFault_ofList_eq_none_iff :
    breakFault (String.ofList w) = none ↔ w.any isBreak = false := by
  simp [breakFault]

/-- **A derived value has a fault** when its text breaks, and only then. -/
theorem ValueText.valueFault_eq_none_iff {key : String} (h : ValueText s v) :
    valueFault key v = none ↔ s.any isBreak = false := by
  cases h with
  | scalar hs hv =>
      -- An unquoted value neither breaks nor has a fault.
      rw [hs.units.any_isBreak, any_isBreak_of_plain hv.isPlain]
      cases hv with
      | int hn => simp [valueFault]
      | float hx hfinite => simp [valueFault, hfinite]
      | bool hw => simp [valueFault]
  | @text mark b t hmark hb =>
      have hquote : isBreak '"' = false := by decide
      have hL : ['L'].any isBreak = false := by decide
      rw [valueFault, breakFault_ofList_eq_none_iff, List.any_append, List.any_cons, List.any_append,
        hmark.units.any_isBreak, hL, hb.any_isBreak, hquote]
      simp [hquote]

/-! ## Sections -/

/-- A derived pair has a fault when its text breaks, and only then. -/
theorem PairText.pairFault_eq_none_iff (h : PairText s q) :
    pairFault q = none ↔ s.any isBreak = false := by
  cases h with
  | mk hkey hv =>
      have hequals : isBreak '=' = false := by decide
      rw [pairFault, Option.or_eq_none_iff, breakFault_ofList_eq_none_iff,
        hv.valueFault_eq_none_iff, List.any_append, List.any_cons, hkey.units.any_isBreak, hequals]
      simp

/-- **Derived pairs have a fault** when their text breaks, and only then. -/
theorem PairsText.pairFault_eq_none_iff (h : PairsText s qs) :
    (∀ q ∈ qs, pairFault q = none) ↔ s.any isBreak = false := by
  induction h with
  | nil => simp
  | cons first rest ih =>
      have hcomma : isBreak ',' = false := by decide
      rw [List.forall_mem_cons, first.pairFault_eq_none_iff, ih, List.any_cons, List.any_append,
        hcomma]
      simp

/-- A timestamp does not break. -/
theorem TimeText.any_isBreak {t : Option Int64} (h : TimeText s t) : s.any isBreak = false := by
  cases h with
  | none => rfl
  | some hg hs ht =>
      have hplain := any_isBreak_of_plain (fun c => isPlain_of_mem_numeral ht)
      rw [List.any_append, hg.any_isBreak, hs.units.any_isBreak, hplain]
      rfl

/-! ## Lines -/

/-- **The point of a derived line has a fault** when the line breaks, and only then. -/
theorem LineText.writeFault_eq_none_iff {precision : Option Precision} {p : Point}
    (h : LineText precision s p) : writeFault p = none ↔ s.any isBreak = false := by
  rw [Line.writeFault_eq_none_iff, h.check]
  cases h with
  | mk hname htags hgap hfirst hmore htime htagKeys hfieldKeys =>
      rw [breakFault_ofList_eq_none_iff, htags.pairFault_eq_none_iff, List.forall_mem_cons,
        hfirst.pairFault_eq_none_iff, hmore.pairFault_eq_none_iff]
      simp [hname.units.any_isBreak, hgap.any_isBreak, htime.any_isBreak, -List.any_eq_false]

/-- **Which decoded points can be encoded.** The point of a line that was decoded has a line exactly
when no line break stands in the line, once it is trimmed; such a break stands behind a backslash. -/
theorem encode_of_decode_iff {line : String} {precision : Option Precision} {p : Point}
    (h : decode line precision = .ok p) :
    (∃ out, encode p = .ok out) ↔ ∀ c ∈ Text.trim line.toList, isBreak c = false := by
  -- The line has a derivation, and the point has a line when the derivation holds no break.
  have hline := readPoint_eq_ok_iff.1 (decode_eq_ok_iff.1 h)
  have hfault : (∃ out, encode p = .ok out) ↔ writeFault p = none := by
    simp [encode_eq_ok_iff]
  rw [hfault, hline.writeFault_eq_none_iff, List.any_eq_false]
  simp

/-- A result that is there is the result. -/
theorem eq_ok_of_toOption {ε α : Type} {x : Except ε α} {a : α} (h : x.toOption = some a) :
    x = .ok a := by
  cases x with
  | error e => cases h
  | ok b => exact congrArg Except.ok (Option.some.inj h)

/-- A line that is not written as it would be: with signs, zeros, short truth values and wide gaps. -/
def looseLine : String := "the\\ shed,at=L\"bed \\\"2\\\"\" temp=+021.50f64,ok=T \t 01626006833639"

/-- The point that the line spells. -/
def loosePoint : Point where
  measurement := "the shed"
  tags := [("at", .text "bed \"2\"")]
  fields := [("temp", .float ⟨0x4035800000000000⟩), ("ok", .bool true)]
  timestamp := some 1626006833639
  precision := some .millis

/-- A line that is written loosely is decoded, and can be written anew. -/
theorem encode_of_decode_looseLine :
    decode looseLine (some .millis) = .ok loosePoint ∧ ∃ out, encode loosePoint = .ok out := by
  have hdecode : decode looseLine (some .millis) = .ok loosePoint :=
    eq_ok_of_toOption (by decide +kernel)
  have hbreak : (Text.trim looseLine.toList).any isBreak = false := by decide +kernel
  exact ⟨hdecode, (encode_of_decode_iff hdecode).2 (by simpa using hbreak)⟩

/-- A point whose measurement breaks. -/
def brokenPoint : Point where
  measurement := "a\rb"
  fields := [("f", .int 1)]

/-- **A break behind a backslash is decoded and cannot be written anew.** -/
theorem not_encode_of_decode_break :
    decode "a\\\rb f=1i64" none = .ok brokenPoint ∧ ∀ out, encode brokenPoint ≠ .ok out := by
  refine ⟨eq_ok_of_toOption (by decide +kernel), ?_⟩
  intro out hout
  exact absurd (encode_eq_ok_iff.1 hout).1 (by decide +kernel)

end Breaks

end SeriesBridge.Line
