import SeriesBridge.Line.Decode
import SeriesBridge.Proofs.Line.Faults
import SeriesBridge.Proofs.Line.Lexing

/-! # Lines are read by their grammar

A line is decoded when the grammar derives it, to the point that the derivation spells, and otherwise
it is not. The readers of tokens and the grammar of characters agree section by section: what is
derived is read up to the tokens of what follows, and what is read can be derived up to text that has
the tokens that are left.

* **`Line.scalar?_eq_some_iff`** — the words that are read as unquoted values.
* **`Line.readPair_of_pairText`**, **`Line.pairText_of_readPair`** — pairs, in both directions; values,
  pairs behind commas and timestamps likewise.
* **`Line.decode_eq_ok_iff_lineText`** — the lines that are decoded, and to what. -/

namespace SeriesBridge.Line

/-! ## Unquoted values -/

/-- **What stands before a mark** is what is left without it. -/
theorem stripSuffix?_eq_some_iff {suffix s t : List Char} :
    stripSuffix? suffix s = some t ↔ s = t ++ suffix := by
  unfold stripSuffix?
  by_cases hsuffix : suffix.isSuffixOf s = true
  · obtain ⟨u, rfl⟩ := List.isSuffixOf_iff_suffix.1 hsuffix
    rw [if_pos hsuffix, List.length_append, Nat.add_sub_cancel, List.take_left' rfl,
      Option.some.injEq, List.append_cancel_right_eq]
  · rw [if_neg hsuffix]
    constructor
    · intro h
      exact absurd h (Option.some_ne_none t).symm
    · rintro rfl
      exact absurd (List.isSuffixOf_iff_suffix.2 (List.suffix_append t suffix)) hsuffix

/-- A mark is taken from behind a word. -/
theorem stripSuffix?_append (w mark : List Char) : stripSuffix? mark (w ++ mark) = some w :=
  stripSuffix?_eq_some_iff.2 rfl

/-- A word with the mark of doubles does not have that of integers. -/
theorem stripSuffix?_int_of_float (w : List Char) :
    stripSuffix? ['i', '6', '4'] (w ++ ['f', '6', '4']) = none := by
  refine Option.eq_none_iff_forall_ne_some.2 (fun t h => ?_)
  -- Of two endings of one length of the same word neither is longer, so they would be equal.
  have hends := List.append_inj_right' (stripSuffix?_eq_some_iff.1 h) rfl
  exact absurd hends (by decide)

/-- **The words that are read as truth values.** -/
theorem readBool?_eq_some_iff {s : List Char} {b : Bool} :
    readBool? s = some b ↔ ∃ w ∈ truthWords b, w.toList = s := by
  constructor
  · intro h
    unfold readBool? at h
    split at h
    · next hany =>
        obtain rfl := Option.some.inj h
        obtain ⟨w, hw, heq⟩ := List.any_eq_true.1 hany
        exact ⟨w, hw, eq_of_beq heq⟩
    split at h
    · next hany =>
        obtain rfl := Option.some.inj h
        obtain ⟨w, hw, heq⟩ := List.any_eq_true.1 hany
        exact ⟨w, hw, eq_of_beq heq⟩
    · exact absurd h (Option.some_ne_none b).symm
  · rintro ⟨w, hw, rfl⟩
    have hwords : ∀ b, ∀ w ∈ truthWords b, readBool? w.toList = some b := by decide
    exact hwords b w hw

/-- **The words that are read as unquoted values,** and their values. -/
theorem scalar?_eq_some_iff {w : List Char} {v : Value} : scalar? w = some v ↔ Scalar w v := by
  constructor
  · intro h
    unfold scalar? at h
    split at h
    · next digits hdigits =>
        obtain rfl := stripSuffix?_eq_some_iff.1 hdigits
        obtain ⟨n, hn, rfl⟩ := Option.map_eq_some_iff.1 h
        exact .int (Text.readInt64?_eq_some_iff.1 hn)
    split at h
    · next digits hdigits =>
        obtain rfl := stripSuffix?_eq_some_iff.1 hdigits
        obtain ⟨d, hd, rfl⟩ := Option.map_eq_some_iff.1 h
        obtain ⟨hd, hfinite⟩ := Option.filter_eq_some_iff.1 hd
        obtain ⟨neg, x, hx, rfl⟩ := Double.read?_eq_some_iff.1 hd
        exact .float hx hfinite
    · obtain ⟨b, hb, rfl⟩ := Option.map_eq_some_iff.1 h
      obtain ⟨w, hw, rfl⟩ := readBool?_eq_some_iff.1 hb
      exact .bool hw
  · intro h
    cases h with
    | int hn =>
        simp only [scalar?, stripSuffix?_append, Text.readInt64?_eq_some_iff.2 hn, Option.map_some]
    | float hx hfinite =>
        simp only [scalar?, stripSuffix?_int_of_float, stripSuffix?_append,
          Double.read?_of_numeral hx, Option.filter_some, hfinite, if_true, Option.map_some]
    | bool hw =>
        have hwords : ∀ b, ∀ w ∈ truthWords b, scalar? w.toList = some (.bool b) := by decide
        exact hwords _ _ hw

/-- The characters of a numeral are plain. -/
theorem isPlain_of_mem_numeral {s : List Char} {n : Int} {c : Char} (h : Text.Numeral s n)
    (hc : c ∈ s) : isPlain c = true := by
  rcases h.mem hc with rfl | rfl | hdigit
  · decide
  · decide
  · exact isPlain_of_isDigit hdigit

/-- **An unquoted value is plain:** it needs no backslash. -/
theorem Scalar.isPlain {w : List Char} {v : Value} (h : Scalar w v) :
    ∀ c ∈ w, isPlain c = true := by
  have hmark {mark : List Char} (hmark : mark.all Line.isPlain = true) {digits : List Char}
      (hdigits : ∀ c ∈ digits, Line.isPlain c = true) :
      ∀ c ∈ digits ++ mark, Line.isPlain c = true := by
    intro c hc
    exact (List.mem_append.1 hc).elim (hdigits c) (List.all_eq_true.1 hmark c)
  cases h with
  | int hn => exact hmark (by decide) (fun c => isPlain_of_mem_numeral hn)
  | float hx hfinite =>
      refine hmark (by decide) (fun c hc => ?_)
      rcases hx.mem hc with hc | hdigit
      · have hsigns : ['+', '-', '.', 'e', 'E'].all Line.isPlain = true := by decide
        exact List.all_eq_true.1 hsigns c hc
      · exact isPlain_of_isDigit hdigit
  | @bool w b hw =>
      have hwords : ∀ b, ∀ w ∈ truthWords b, w.toList.all Line.isPlain = true := by decide
      exact List.all_eq_true.1 (hwords b w hw)

/-! ## Words before tokens -/

section Words

variable {s w : List Char} {t : Token} {ts : List Token}

/-- **A word that something follows is a name.** -/
theorem Lexes.exists_name (h : Lexes s (.word w :: t :: ts)) :
    ∃ u r, s = u ++ r ∧ Name u w ∧ Lexes r (t :: ts) := by
  cases h with
  | word hu hs rest => exact ⟨_, _, rfl, hu, rest⟩

/-- **A word of plain characters is a name,** whatever follows it. -/
theorem Lexes.exists_name_of_plain (h : Lexes s (.word w :: ts))
    (hw : ∀ c ∈ w, isPlain c = true) : ∃ u r, s = u ++ r ∧ Name u w ∧ Lexes r ts := by
  cases h with
  | word hu hs rest => exact ⟨_, _, rfl, hu, rest⟩
  | stray hu => exact absurd (hw '\\' (by simp)) (by decide)

end Words

/-! ## Values -/

/-- **A value ends before `s`:** there is nothing, a comma or a gap. -/
def Ends : List Char → Prop
  | [] => True
  | c :: _ => c = ',' ∨ isGap c = true

/-- A value ends where the text does. -/
@[simp] theorem ends_nil : Ends [] := trivial

/-- Where a value ends a word ends. -/
theorem Ends.stops {s : List Char} (h : Ends s) : Stops s := by
  cases s with
  | nil => exact stops_nil
  | cons c s =>
      show endsWord c = true
      rcases h with rfl | hgap
      · decide
      · simp [endsWord, hgap]

/-- Blanks are where a value ends. -/
theorem Blanks.ends {g : List Char} (h : Blanks g) (s : List Char) : Ends (g ++ s) := by
  obtain ⟨c, g, rfl⟩ := List.exists_cons_of_ne_nil h.ne_nil
  exact .inr (h.gaps c List.mem_cons_self)

/-- No quoted text follows. -/
def Parted : List Token → Prop
  | .quoted _ :: _ => False
  | _ => True

/-- No quoted text follows where a value ends. -/
theorem parted_of_lexes {s : List Char} {ts : List Token} (h : Lexes s ts) (hs : Ends s) :
    Parted ts := by
  cases h with
  | quoted hu rest =>
      have hquote : '"' = ',' ∨ isGap '"' = true := hs
      exact absurd hquote (by decide)
  | _ => trivial

section Values

variable {key : String} {u w s : List Char} {v : Value} {ts rest : List Token}

/-- A word is read as its value, when no quoted text follows. -/
theorem readValue_word (hv : scalar? w = some v) (hts : Parted ts) :
    readValue key (.word w :: ts) = .ok (v, ts) := by
  unfold readValue
  split
  · next heq =>
      obtain ⟨-, rfl⟩ := List.cons.inj heq
      exact absurd hts id
  · next heq =>
      obtain ⟨hraw, rfl⟩ := List.cons.inj heq
      cases hraw
      rw [hv]
  · next heq => exact absurd (List.cons.inj heq).1 Token.noConfusion
  · next hnot _ => exact absurd rfl (hnot _ _)

/-- A quoted text behind its mark is read. -/
theorem readValue_text (t : List Char) :
    readValue key (.word ['L'] :: .quoted t :: ts) = .ok (.text (String.ofList t), ts) := by
  simp [readValue]

/-- **A value that is derived is read.** -/
theorem readValue_of_valueText (key : String) (hv : ValueText u v) (hs : Ends s)
    (h : Lexes s ts) :
    ∃ us, Lexes (u ++ s) us ∧ readValue key us = .ok (v, ts) := by
  cases hv with
  | scalar hu hw =>
      exact ⟨_, .word hu hs.stops h, readValue_word (scalar?_eq_some_iff.2 hw) (parted_of_lexes h hs)⟩
  | @text mark b t hmark hb =>
      have hquote : Stops ('"' :: (b ++ '"' :: s)) := by
        show endsWord '"' = true
        decide
      have hlexes := Lexes.word hmark hquote (.quoted hb h)
      refine ⟨_, ?_, readValue_text t⟩
      simpa using hlexes

/-- **A value that is read can be derived.** -/
theorem valueText_of_readValue (h : Lexes s ts) (hv : readValue key ts = .ok (v, rest)) :
    ∃ u r, s = u ++ r ∧ ValueText u v ∧ Lexes r rest := by
  unfold readValue at hv
  split at hv
  · next raw t ts =>
      by_cases hraw : (raw == ['L']) = true
      · -- The quoted text that follows shows that the word is a whole name.
        rw [if_pos hraw] at hv
        cases hv
        obtain rfl : raw = ['L'] := eq_of_beq hraw
        obtain ⟨mark, r, rfl, hmark, hr⟩ := h.exists_name
        cases hr with
        | @quoted b t r ts hb hr =>
            exact ⟨mark ++ '"' :: (b ++ ['"']), r, by simp, .text hmark hb, hr⟩
      · rw [if_neg hraw] at hv
        cases hv
  · next raw ts _ =>
      split at hv
      · next v hscalar =>
          cases hv
          have hw := scalar?_eq_some_iff.1 hscalar
          obtain ⟨u, r, rfl, hu, hr⟩ := h.exists_name_of_plain hw.isPlain
          exact ⟨u, r, rfl, .scalar hu hw, hr⟩
      · cases hv
  · cases hv
  · cases hv

end Values

/-! ## Pairs -/

section Pairs

variable {u s : List Char} {q : Pair} {qs : List Pair} {ts rest : List Token}

/-- **A pair that is derived is read.** -/
theorem readPair_of_pairText (hq : PairText u q) (hs : Ends s) (h : Lexes s ts) :
    ∃ us, Lexes (u ++ s) us ∧ readPair us = .ok (q, ts) := by
  cases hq with
  | @mk k key b v hkey hv =>
      obtain ⟨us, hus, hread⟩ := readValue_of_valueText (String.ofList key) hv hs h
      have hequals : Stops ('=' :: (b ++ s)) := by
        show endsWord '=' = true
        decide
      have hlexes := Lexes.word hkey hequals (.equals hus)
      refine ⟨_, by simpa using hlexes, ?_⟩
      show (readValue _ us).map _ = _
      rw [hread]
      rfl

/-- **A pair that is read can be derived.** -/
theorem pairText_of_readPair (h : Lexes s ts) (hq : readPair ts = .ok (q, rest)) :
    ∃ u r, s = u ++ r ∧ PairText u q ∧ Lexes r rest := by
  unfold readPair at hq
  split at hq
  · next key ts =>
      obtain ⟨⟨v, rest⟩, hv, heq⟩ := map_eq_ok hq
      cases heq
      obtain ⟨k, r, rfl, hkey, hr⟩ := h.exists_name
      cases hr with
      | equals hr =>
          obtain ⟨b, r, rfl, hb, hr⟩ := valueText_of_readValue hr hv
          exact ⟨k ++ '=' :: b, r, by simp, .mk hkey hb, hr⟩
  · cases hq
  · cases hq

/-- A pair begins with a name, so not with a gap. -/
theorem PairText.dropWhile_isGap (h : PairText u q) (s : List Char) :
    (u ++ s).dropWhile isGap = u ++ s := by
  cases h with
  | mk hkey hv =>
      rw [List.append_assoc]
      exact hkey.dropWhile_isGap _

/-- A key is not empty. -/
theorem PairText.key_ne (h : PairText u q) : q.1 ≠ "" := by
  cases h with
  | mk hkey hv => simpa using hkey.read_ne_nil

/-- Values end before pairs behind commas. -/
theorem PairsText.ends (h : PairsText u qs) (hs : Ends s) : Ends (u ++ s) := by
  cases h with
  | nil => exact hs
  | cons first rest => exact .inl rfl

/-- Keys are not empty. -/
theorem PairsText.key_ne (h : PairsText u qs) : ∀ q ∈ qs, q.1 ≠ "" := by
  induction h with
  | nil => exact fun q hq => absurd hq List.not_mem_nil
  | cons first rest ih => exact List.forall_mem_cons.2 ⟨first.key_ne, ih⟩

/-- A pair behind a comma is read before the pairs behind it. -/
theorem readPairs_comma {us : List Token} (hq : readPair ts = .ok (q, us))
    (hqs : readPairs us = .ok (qs, rest)) : readPairs (.comma :: ts) = .ok (q :: qs, rest) := by
  rw [readPairs]
  split
  · next fault heq =>
      rw [hq] at heq
      cases heq
  · next r after heq =>
      rw [hq] at heq
      cases heq
      rw [hqs]
      rfl

/-- **Pairs that are derived are read,** up to tokens that are no such pair. -/
theorem readPairs_of_pairsText (hqs : PairsText u qs) (hs : Ends s) (h : Lexes s ts)
    (hend : readPairs ts = .ok ([], ts)) :
    ∃ us, Lexes (u ++ s) us ∧ readPairs us = .ok (qs, ts) := by
  induction hqs with
  | nil => exact ⟨ts, h, hend⟩
  | @cons a b q qs first rest ih =>
      obtain ⟨us, hus, hread⟩ := ih
      obtain ⟨vs, hvs, hfirst⟩ := readPair_of_pairText first (rest.ends hs) hus
      refine ⟨.comma :: vs, ?_, readPairs_comma hfirst hread⟩
      simpa using Lexes.comma hvs

/-- **Pairs that are read can be derived.** -/
theorem pairsText_of_readPairs (h : Lexes s ts) (hqs : readPairs ts = .ok (qs, rest)) :
    ∃ u r, s = u ++ r ∧ PairsText u qs ∧ Lexes r rest := by
  fun_induction readPairs ts generalizing s qs with
  | case1 ts fault hq => cases hqs
  | case2 ts q us hq ih =>
      obtain ⟨⟨qs, rest⟩, hread, heq⟩ := map_eq_ok hqs
      cases heq
      cases h with
      | comma h =>
          obtain ⟨a, r, rfl, hfirst, hr⟩ := pairText_of_readPair h hq
          obtain ⟨b, r, rfl, hpairs, hr⟩ := ih hr hread
          exact ⟨',' :: (a ++ b), r, by simp, .cons hfirst hpairs, hr⟩
  | case3 ts hnot =>
      cases hqs
      exact ⟨[], s, rfl, .nil, h⟩

end Pairs

/-! ## Sections between and behind pairs -/

section Sections

variable {s u : List Char} {t : Option Int64} {ts rest : List Token}

/-- Values end before a timestamp, or before nothing. -/
theorem TimeText.ends (h : TimeText u t) : Ends u := by
  cases h with
  | none => exact ends_nil
  | some hg hs ht => exact hg.ends _

/-- **A timestamp that is derived is read,** and no pair before it. -/
theorem readTime_of_timeText (ht : TimeText u t) :
    ∃ us, Lexes u us ∧ readTime us = .ok (t, []) ∧ readPairs us = .ok ([], us) := by
  cases ht with
  | none => exact ⟨[], .nil, rfl, by simp [readPairs]⟩
  | @some g b w t hg hb ht =>
      have hword := Lexes.word hb stops_nil .nil
      have hstart := hb.dropWhile_isGap []
      rw [List.append_nil] at hword hstart
      refine ⟨_, .gap hg hstart hword, ?_, by simp [readPairs]⟩
      simp only [readTime, Text.readInt64?_eq_some_iff.2 ht]

/-- **A timestamp that is read can be derived.** -/
theorem timeText_of_readTime (h : Lexes s ts) (ht : readTime ts = .ok (t, rest)) :
    ∃ u r, s = u ++ r ∧ TimeText u t ∧ Lexes r rest := by
  unfold readTime at ht
  split at ht
  · next raw ts =>
      split at ht
      · next n hn =>
          cases ht
          have hw := Text.readInt64?_eq_some_iff.1 hn
          cases h with
          | gap hg hs h =>
              obtain ⟨u, r, rfl, hu, hr⟩ :=
                h.exists_name_of_plain (fun c => isPlain_of_mem_numeral hw)
              exact ⟨_, r, (List.append_assoc _ _ _).symm, .some hg hu hw, hr⟩
      · cases ht
  · cases ht
  · cases ht
    exact ⟨[], s, rfl, .none, h⟩

/-- **Blanks before fields are read.** -/
theorem readGap_of_blanks {g : List Char} {q : Pair} (hg : Blanks g)
    (hs : s.dropWhile isGap = s) (h : Lexes s ts) (hq : readPair ts = .ok (q, rest)) :
    Lexes (g ++ s) (.gap :: ts) ∧ readGap (.gap :: ts) = .ok ts := by
  refine ⟨.gap hg hs h, ?_⟩
  cases ts with
  | nil => cases hq
  | cons t ts => rfl

/-- The gap that is read before fields is blanks. -/
theorem blanks_of_readGap (h : Lexes s ts) (hgap : readGap ts = .ok rest) :
    ∃ g r, s = g ++ r ∧ Blanks g ∧ Lexes r rest := by
  unfold readGap at hgap
  split at hgap
  · cases hgap
  · cases hgap
  · cases hgap
    cases h with
    | gap hg hs h => exact ⟨_, _, rfl, hg, h⟩
  · cases hgap

/-- **The measurement that is read is a name,** when tags and a gap follow it. -/
theorem name_of_readMeasurement {name : List Char} {us vs : List Token} {tags : List Pair}
    (h : Lexes s ts) (hname : readMeasurement ts = .ok (name, us))
    (htags : readPairs us = .ok (tags, vs)) (hgap : readGap vs = .ok rest) :
    ∃ n r, s = n ++ r ∧ Name n name ∧ Lexes r us := by
  unfold readMeasurement at hname
  split at hname
  · cases hname
    cases us with
    | nil =>
        -- A gap is read behind the tags, so there are tokens behind the name.
        rw [readPairs] at htags
        · cases htags
          cases hgap
        · exact fun ts hts => absurd hts.symm (List.cons_ne_nil _ _)
    | cons t us => exact h.exists_name
  · cases hname

end Sections

/-! ## Lines -/

section Lines

variable {precision : Option Precision} {s : List Char} {ts : List Token} {p : Point}

/-- The point of a derived line has no fault of its own. -/
theorem LineText.check (h : LineText precision s p) : p.check = none := by
  cases h with
  | mk hname htags hgap hfirst hmore htime htagKeys hfieldKeys =>
      refine Point.check_eq_none_iff.2 ⟨by simpa using hname.read_ne_nil, List.cons_ne_nil _ _,
        ⟨htags.key_ne, htagKeys⟩, ?_, hfieldKeys⟩
      exact List.forall_mem_cons.2 ⟨hfirst.key_ne, hmore.key_ne⟩

/-- **A line that is derived is read** as the point that it spells. -/
theorem pointOfTokens_of_lineText (h : LineText precision s p) :
    ∃ ts, Lexes s ts ∧ pointOfTokens precision ts = .ok p := by
  have hcheck := h.check
  cases h with
  | mk hname htags hgap hfirst hmore htime htagKeys hfieldKeys =>
      -- Every section is read before what is known of the sections behind it.
      obtain ⟨us₁, h₁, htimeRead, hend⟩ := readTime_of_timeText htime
      obtain ⟨us₂, h₂, hmoreRead⟩ := readPairs_of_pairsText hmore htime.ends h₁ hend
      obtain ⟨us₃, h₃, hfirstRead⟩ := readPair_of_pairText hfirst (hmore.ends htime.ends) h₂
      obtain ⟨h₄, hgapRead⟩ := readGap_of_blanks hgap (hfirst.dropWhile_isGap _) h₃ hfirstRead
      obtain ⟨us₅, h₅, htagsRead⟩ :=
        readPairs_of_pairsText htags (hgap.ends _) h₄ (by simp [readPairs])
      have h₆ := Lexes.word hname (htags.ends (hgap.ends _)).stops h₅
      refine ⟨_, h₆, ?_⟩
      simp only [pointOfTokens, readMeasurement, htagsRead, hgapRead, hfirstRead, hmoreRead,
        htimeRead, hcheck, bind, Except.bind]

/-- **A line that is read can be derived,** and the derivation spells the point. -/
theorem lineText_of_pointOfTokens (h : Lexes s ts) (hp : pointOfTokens precision ts = .ok p) :
    LineText precision s p := by
  unfold pointOfTokens at hp
  obtain ⟨⟨name, us⟩, hname, hp⟩ := bind_eq_ok hp
  obtain ⟨⟨tags, vs⟩, htags, hp⟩ := bind_eq_ok hp
  obtain ⟨ws, hgap, hp⟩ := bind_eq_ok hp
  obtain ⟨⟨first, xs⟩, hfirst, hp⟩ := bind_eq_ok hp
  obtain ⟨⟨more, ys⟩, hmore, hp⟩ := bind_eq_ok hp
  obtain ⟨⟨time, zs⟩, htime, hp⟩ := bind_eq_ok hp
  -- Every reader takes a text that can be derived and leaves one with the tokens that are left.
  obtain ⟨n, r, rfl, hn, h⟩ := name_of_readMeasurement h hname htags hgap
  obtain ⟨u, r, rfl, hu, h⟩ := pairsText_of_readPairs h htags
  obtain ⟨g, r, rfl, hg, h⟩ := blanks_of_readGap h hgap
  obtain ⟨f, r, rfl, hf, h⟩ := pairText_of_readPair h hfirst
  obtain ⟨m, r, rfl, hm, h⟩ := pairsText_of_readPairs h hmore
  obtain ⟨k, r, rfl, hk, h⟩ := timeText_of_readTime h htime
  cases zs with
  | cons z zs => cases hp
  | nil =>
      cases h
      simp only at hp
      split at hp
      · cases hp
      · next hcheck =>
          cases hp
          obtain ⟨-, -, ⟨-, htagKeys⟩, -, hfieldKeys⟩ := Point.check_eq_none_iff.1 hcheck
          rw [List.append_nil]
          exact .mk hn hu hg hf hm hk htagKeys hfieldKeys

/-- **The lines that spell a point** are those that the grammar derives. -/
theorem readPoint_eq_ok_iff : readPoint precision s = .ok p ↔ LineText precision (Text.trim s) p := by
  unfold readPoint
  constructor
  · intro h
    obtain ⟨ts, hts, hp⟩ := bind_eq_ok h
    exact lineText_of_pointOfTokens (tokens_eq_ok_iff.1 hts) hp
  · intro h
    obtain ⟨ts, hts, hp⟩ := pointOfTokens_of_lineText h
    rw [tokens_eq_ok_iff.2 hts]
    exact hp

/-- **The lines that are decoded** are those that the grammar derives, once they are trimmed, and each
is decoded to the point that its derivation spells. -/
theorem decode_eq_ok_iff_lineText {line : String} :
    decode line precision = .ok p ↔ LineText precision (Text.trim line.toList) p :=
  decode_eq_ok_iff.trans readPoint_eq_ok_iff

end Lines

end SeriesBridge.Line
