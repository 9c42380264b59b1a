import SeriesBridge.Proofs.Line.Reading
import SeriesBridge.Proofs.Line.Tokens
import SeriesBridge.Proofs.Text.Blank

/-! # Lines read back

A point that has a line is read back from it, but for one thing: a line is trimmed before it is
read, and no backslash protects a blank that is neither a space nor a tab.

* **`Line.pointOfTokens_pointTokens`** — the pieces of a point spell the point.
* **`Line.BeginsBlank s`** — what is lost at the beginning of a line.
* **`Line.decode_encode_iff`** — a point is read back from its line exactly when its measurement
  does not begin so.
* **`Line.encode_eq_ok_iff_of_encode`** — the points that share a line. -/

namespace SeriesBridge.Line

/-! ## Values -/

/-- **A written number or truth value is read back** from its word. -/
theorem scalar?_spellValue {key : String} {v : Value} (hv : valueFault key v = none)
    (htext : ∀ t, v ≠ .text t) : scalar? (spellValue v) = some v := by
  match v with
  | .int n =>
      simp only [scalar?, spellValue, stripSuffix?_append, Text.readInt64?_showInt, Option.map_some]
  | .float d =>
      have hfinite : d.isFinite = true := by
        by_contra h
        rw [valueFault, if_neg h] at hv
        exact Option.some_ne_none _ hv
      simp only [scalar?, spellValue, stripSuffix?_int_of_float, stripSuffix?_append,
        Double.read?_positional hfinite, Option.filter_some, hfinite, if_true, Option.map_some]
  | .bool true => rfl
  | .bool false => rfl
  | .text t => exact absurd rfl (htext t)

/-- **A value is read back** from its pieces. -/
theorem readValue_valueTokens {key name : String} {v : Value} (hv : valueFault key v = none)
    {ts : List Token} (hts : Parted ts) : readValue name (valueTokens v ++ ts) = .ok (v, ts) := by
  by_cases htext : ∃ t, v = .text t
  · obtain ⟨t, rfl⟩ := htext
    have hread : readValue name (.word ['L'] :: .quoted t.toList :: ts) =
        .ok (.text (String.ofList t.toList), ts) := readValue_text t.toList
    rwa [String.ofList_toList] at hread
  · have hscalar := scalar?_spellValue hv (fun t ht => htext ⟨t, ht⟩)
    have hword : valueTokens v = [.word (spellValue v)] := by
      cases v with
      | text t => exact absurd ⟨t, rfl⟩ htext
      | int n => rfl
      | float d => rfl
      | bool b => rfl
    rw [hword, List.singleton_append]
    exact readValue_word hscalar hts

/-! ## Points -/

/-- **A pair is read back** from its pieces. -/
theorem readPair_pairTokens {q : Pair} (hq : WritablePair q) {ts : List Token} (hts : Parted ts) :
    readPair (pairTokens q ++ ts) = .ok (q, ts) := by
  have hvalue : readValue (String.ofList q.1.toList) (valueTokens q.2 ++ ts) = .ok (q.2, ts) :=
    readValue_valueTokens (Option.or_eq_none_iff.1 hq.fault).2 hts
  show (readValue _ (valueTokens q.2 ++ ts)).map _ = _
  rw [hvalue, String.ofList_toList]
  rfl

/-- No quoted text follows before pairs after commas. -/
theorem parted_tagTokens {ts : List Token} (hts : Parted ts) (tags : List Pair) :
    Parted (tagTokens tags ++ ts) := by
  cases tags with
  | nil => exact hts
  | cons q tags => trivial

/-- **Pairs after commas are read back,** up to tokens that are no such pair. -/
theorem readPairs_tagTokens {tags : List Pair} (htags : ∀ q ∈ tags, WritablePair q)
    {ts : List Token} (hts : Parted ts) (hend : readPairs ts = .ok ([], ts)) :
    readPairs (tagTokens tags ++ ts) = .ok (tags, ts) := by
  induction tags with
  | nil => exact hend
  | cons q tags ih =>
      have ih := ih (fun r hr => htags r (List.mem_cons_of_mem q hr))
      have hpair := readPair_pairTokens (htags q List.mem_cons_self) (parted_tagTokens hts tags)
      have hcons : tagTokens (q :: tags) ++ ts =
          .comma :: (pairTokens q ++ (tagTokens tags ++ ts)) := by
        simp [tagTokens]
      rw [hcons]
      exact readPairs_comma hpair ih

/-- **The timestamp is read back** from its pieces. -/
theorem readTime_timeTokens (t : Option Int64) : readTime (timeTokens t) = .ok (t, []) := by
  cases t with
  | none => rfl
  | some t =>
      simp only [timeTokens, readTime, Text.readInt64?_showInt]

/-- Pairs end before a timestamp, or before nothing. -/
theorem readPairs_timeTokens (t : Option Int64) :
    readPairs (timeTokens t) = .ok ([], timeTokens t) := by
  cases t with
  | none => simp [timeTokens, readPairs]
  | some t => simp [timeTokens, readPairs]

/-- No quoted text stands before a timestamp. -/
theorem parted_timeTokens (t : Option Int64) : Parted (timeTokens t) := by
  cases t with
  | none => trivial
  | some t => trivial

/-- **The pieces of a point spell the point.** -/
theorem pointOfTokens_pointTokens {p : Point} (hp : Writable p)
    (hprecision : p.timestamp = none → p.precision = none) :
    pointOfTokens p.precision (pointTokens p) = .ok p := by
  obtain ⟨measurement, tags, fields, timestamp, precision⟩ := p
  -- Every reader takes the pieces that are its own and leaves the others as they are.
  obtain ⟨q, rest, rfl⟩ := List.exists_cons_of_ne_nil hp.nonempty
  have htags : readPairs (tagTokens tags ++ .gap :: (pairTokens q ++
      (tagTokens rest ++ timeTokens timestamp))) = .ok (tags, _) :=
    readPairs_tagTokens hp.tags trivial (by simp [readPairs])
  have hfirst := readPair_pairTokens (hp.fields q List.mem_cons_self)
    (parted_tagTokens (parted_timeTokens timestamp) rest)
  have hmore := readPairs_tagTokens (fun r hr => hp.fields r (List.mem_cons_of_mem q hr))
    (parted_timeTokens timestamp) (readPairs_timeTokens timestamp)
  have hgap : readGap (.gap :: (pairTokens q ++ (tagTokens rest ++ timeTokens timestamp))) =
      .ok (pairTokens q ++ (tagTokens rest ++ timeTokens timestamp)) := rfl
  -- Without a timestamp the unit is dropped, and there was none.
  have hunit : (if timestamp.isSome then precision else none) = precision := by
    cases timestamp with
    | none => exact (hprecision rfl).symm
    | some t => rfl
  simp only [pointOfTokens, pointTokens, fieldTokens, List.append_assoc, readMeasurement, htags,
    hgap, hfirst, hmore, readTime_timeTokens, hunit, String.ofList_toList, hp.check, bind,
    Except.bind]

/-! ## Ends of lines -/

/-- A written value ends in a character that is not blank. -/
theorem endsSolid_spellValue (v : Value) : Text.EndsSolid (spellValue v) := by
  have hmark (mark : List Char) (h : Text.Solid mark) (w : List Char) :
      Text.EndsSolid (w ++ mark) := h.endsSolid.append_left w
  match v with
  | .int n => exact hmark ['i', '6', '4'] (by decide) _
  | .float d => exact hmark ['f', '6', '4'] (by decide) _
  | .bool true => exact hmark ['t', 'r', 'u', 'e'] (by decide) []
  | .bool false => exact hmark ['f', 'a', 'l', 's', 'e'] (by decide) []
  | .text t => exact hmark ['"'] (by decide) _

/-- A written pair does. -/
theorem endsSolid_spellPair (q : Pair) : Text.EndsSolid (spellPair q) :=
  ((endsSolid_spellValue q.2).cons '=').append_left _

/-- Pairs after commas leave an end that is not blank. -/
theorem endsSolid_append_spellTags {s : List Char} (h : Text.EndsSolid s) (tags : List Pair) :
    Text.EndsSolid (s ++ spellTags tags) := by
  induction tags generalizing s with
  | nil =>
      show Text.EndsSolid (s ++ [])
      rwa [List.append_nil]
  | cons q tags ih =>
      have := ih (((endsSolid_spellPair q).cons ',').append_left s)
      rwa [List.append_assoc] at this

/-- **A line ends in a character that is not blank.** -/
theorem endsSolid_spell {p : Point} (hp : Writable p) : Text.EndsSolid (spell p) := by
  obtain ⟨q, rest, hfields⟩ := List.exists_cons_of_ne_nil hp.nonempty
  have hspellFields : Text.EndsSolid (spellFields p.fields) := by
    rw [hfields]
    exact endsSolid_append_spellTags (endsSolid_spellPair q) rest
  have hhead := (hspellFields.cons ' ').append_left
    (spellName p.measurement.toList ++ spellTags p.tags)
  unfold spell
  cases p.timestamp with
  | none =>
      show Text.EndsSolid (_ ++ [])
      rwa [List.append_nil]
  | some t =>
      exact ((Text.solid_showInt t.toInt).endsSolid.cons ' ').append_left _

/-! ## Beginnings of lines -/

/-- **A name that begins with a blank that no backslash protects:** one that is neither a space
nor a tab. -/
def BeginsBlank : List Char → Prop
  | [] => False
  | c :: _ => Text.isBlank c = true ∧ isSeparator c = false

instance (s : List Char) : Decidable (BeginsBlank s) :=
  match s with
  | [] => inferInstanceAs (Decidable False)
  | _ :: _ => inferInstanceAs (Decidable (_ ∧ _))

/-- What is written with a backslash does not begin with a blank. -/
theorem isBlank_backslash : Text.isBlank '\\' = false := by decide

/-- **A line whose measurement does not begin so is not trimmed.** -/
theorem trim_spell {p : Point} (hp : Writable p) (h : ¬ BeginsBlank p.measurement.toList) :
    Text.trim (spell p) = spell p := by
  rw [(endsSolid_spell hp).trim_eq, spell]
  obtain ⟨c, w, hname⟩ := List.exists_cons_of_ne_nil hp.name
  rw [hname] at h
  rw [hname, spellName_cons, spellNameChar]
  by_cases hsep : isSeparator c = true
  · rw [if_pos hsep]
    exact List.dropWhile_cons_of_neg (by simp [isBlank_backslash])
  · have hblank : ¬ Text.isBlank c = true := fun hblank =>
      h ⟨hblank, Bool.eq_false_iff.2 hsep⟩
    rw [if_neg hsep]
    exact List.dropWhile_cons_of_neg hblank

/-- **Once blanks are trimmed, no word begins with one,** neither from a name nor from what stands
behind the name when all of it is trimmed. -/
theorem not_beginsBlank_readWord {w s : List Char} (hw : ∀ c ∈ w, isBreak c = false)
    (hs : ¬ BeginsBlank (readWord (s.dropWhile Text.isBlank)).1) :
    ¬ BeginsBlank (readWord ((spellName w ++ s).dropWhile Text.isBlank)).1 := by
  induction w with
  | nil => exact hs
  | cons c w ih =>
      have ih := ih (fun d hd => hw d (List.mem_cons_of_mem c hd))
      have hread := readWord_spellNameChar (hw c List.mem_cons_self) (spellName w ++ s)
      rw [spellName_cons, List.append_assoc]
      rw [spellNameChar] at hread ⊢
      -- Trimming goes on behind a blank without a backslash, and stops before all else.
      by_cases hsep : isSeparator c = true
      · rw [if_pos hsep] at hread ⊢
        rw [List.cons_append, List.dropWhile_cons_of_neg (by simp [isBlank_backslash]),
          ← List.cons_append, hread]
        intro h
        exact absurd hsep (by simp [h.2])
      · rw [if_neg hsep] at hread ⊢
        by_cases hblank : Text.isBlank c = true
        · rw [List.cons_append, List.dropWhile_cons_of_pos hblank]
          exact ih
        · rw [List.cons_append, List.dropWhile_cons_of_neg hblank, ← List.cons_append, hread]
          intro h
          exact hblank h.1

/-- **The first word of a trimmed line does not begin with a blank.** -/
theorem not_beginsBlank_trim_spell {p : Point} (hp : Writable p) :
    ¬ BeginsBlank (readWord (Text.trim (spell p))).1 := by
  have hstop {c : Char} (hblank : Text.isBlank c = false) (hends : endsWord c = true)
      (s : List Char) : ¬ BeginsBlank (readWord ((c :: s).dropWhile Text.isBlank)).1 := by
    have hstops : Stops (c :: s) := hends
    rw [List.dropWhile_cons_of_neg (by simp [hblank]), readWord_of_stops hstops]
    exact id
  obtain ⟨q, rest, hfields⟩ := List.exists_cons_of_ne_nil hp.nonempty
  have hq := hp.fields q (by rw [hfields]; exact List.mem_cons_self)
  rw [(endsSolid_spell hp).trim_eq, spell, List.append_assoc, List.append_assoc]
  refine not_beginsBlank_readWord hp.noBreak ?_
  cases p.tags with
  | cons r tags => exact hstop (by decide) (by decide) _
  | nil =>
      -- The gap is trimmed as well, and the next word is that of the first field.
      rw [hfields]
      show ¬ BeginsBlank (readWord ((' ' :: (spellPair q ++ spellTags rest ++
        spellTime p.timestamp)).dropWhile Text.isBlank)).1
      rw [List.dropWhile_cons_of_pos (by decide), spellPair, List.append_assoc, List.append_assoc]
      exact not_beginsBlank_readWord hq.noBreak (hstop (by decide) (by decide) _)

/-! ## Lines read back -/

/-- **A word that comes first among the tokens** is the word that the text begins with. -/
theorem readWord_of_tokens {s w : List Char} {ts : List Token}
    (h : tokens s = .ok (.word w :: ts)) : (readWord s).1 = w := by
  cases lexes_of_tokens h with
  | word hu hs rest => rw [readWord_escaped hu.units hs]
  | stray hu => rw [readWord_stray hu]

/-- **The measurement that tokens spell** is the word that comes first among them. -/
theorem measurement_of_pointOfTokens {precision : Option Precision} {ts : List Token} {p : Point}
    (h : pointOfTokens precision ts = .ok p) :
    ∃ rest, ts = .word p.measurement.toList :: rest := by
  unfold pointOfTokens at h
  obtain ⟨⟨name, rest⟩, hname, h⟩ := bind_eq_ok h
  obtain ⟨⟨tags, _⟩, -, h⟩ := bind_eq_ok h
  obtain ⟨_, -, h⟩ := bind_eq_ok h
  obtain ⟨⟨first, _⟩, -, h⟩ := bind_eq_ok h
  obtain ⟨⟨more, _⟩, -, h⟩ := bind_eq_ok h
  obtain ⟨⟨timestamp, ts'⟩, -, h⟩ := bind_eq_ok h
  have hmeasurement : p.measurement = String.ofList name := by
    cases ts' with
    | cons t ts' => cases h
    | nil =>
        simp only at h
        split at h
        · cases h
        · cases h
          rfl
  refine ⟨rest, ?_⟩
  rw [hmeasurement, String.toList_ofList]
  unfold readMeasurement at hname
  split at hname
  · cases hname
    rfl
  · cases hname

/-- **What is decoded from a line** has the first word of the trimmed line as its measurement. -/
theorem measurement_of_decode {line : String} {precision : Option Precision} {p : Point}
    (h : decode line precision = .ok p) :
    p.measurement.toList = (readWord (Text.trim line.toList)).1 := by
  obtain ⟨ts, hts, hpoint⟩ := bind_eq_ok (decode_eq_ok_iff.1 h)
  obtain ⟨rest, rfl⟩ := measurement_of_pointOfTokens hpoint
  exact (readWord_of_tokens hts).symm

/-- **The round trip and its exact condition.** A point is read back from its line, as it was and
in its order, exactly when its measurement does not begin with a blank other than a space or a
tab: such a blank is written as it is and trimmed before the line is read. -/
theorem decode_encode_iff {p : Point} {line : String} (h : encode p = .ok line)
    (hprecision : p.timestamp = none → p.precision = none) :
    decode line p.precision = .ok p ↔ ¬ BeginsBlank p.measurement.toList := by
  obtain ⟨hfault, rfl⟩ := encode_eq_ok_iff.1 h
  have hp := writable_of_writeFault hfault
  constructor
  · -- Whatever is read, its measurement is the first word of a line that was trimmed.
    intro hdecode
    rw [measurement_of_decode hdecode, String.toList_ofList]
    exact not_beginsBlank_trim_spell hp
  · intro hbegin
    rw [decode_eq_ok_iff, readPoint, String.toList_ofList, trim_spell hp hbegin, tokens_spell hp]
    exact pointOfTokens_pointTokens hp hprecision

/-- A point with a value of every type, and names and a text that need backslashes. -/
def weatherPoint : Point where
  measurement := "weather report"
  tags := [("at, by", .text "San \"Fran\""), ("zone=", .int (-7))]
  fields := [("temp", .float ⟨0x4035800000000000⟩), ("ok", .bool true)]
  timestamp := some 1626006833639
  precision := some .millis

/-- The weather is read back from its line. -/
theorem decode_encode_weather :
    decode (String.ofList (spell weatherPoint)) weatherPoint.precision = .ok weatherPoint :=
  (decode_encode_iff (encode_eq_ok_iff.2 ⟨by decide +kernel, rfl⟩) (by decide)).2 (by decide)

/-- A point whose measurement begins with a no-break space. -/
def blankPoint : Point where
  measurement := "\u00a0m"
  fields := [("f", .int 1)]

/-- **A no-break space before a name is lost:** the point has a line, and its line does not spell
it. -/
theorem decode_encode_blank :
    encode blankPoint = .ok (String.ofList (spell blankPoint)) ∧
      decode (String.ofList (spell blankPoint)) blankPoint.precision ≠ .ok blankPoint := by
  refine ⟨encode_eq_ok_iff.2 ⟨by decide +kernel, rfl⟩, ?_⟩
  intro h
  have hname := measurement_of_decode h
  rw [String.toList_ofList] at hname
  exact absurd hname (by decide +kernel)

/-! ## One line for one point -/

/-- The line of a point with a spelling is made of its pieces alone, so its unit is lost. -/
theorem pointOfTokens_without_precision {p : Point} (h : writeFault p = none) :
    pointOfTokens none (pointTokens p) = .ok { p with precision := none } :=
  pointOfTokens_pointTokens (p := { p with precision := none }) (writable_of_writeFault h)
    (fun _ => rfl)

/-- **Lines tell points apart.** Beside a point with a line, the points with the same line are those
with the same measurement, the same tags and fields in the same order and the same timestamp. Only
the unit of the timestamp is not in the line. -/
theorem encode_eq_ok_iff_of_encode {p q : Point} {line : String} (hp : encode p = .ok line) :
    encode q = .ok line ↔ q.measurement = p.measurement ∧ q.tags = p.tags ∧ q.fields = p.fields ∧
      q.timestamp = p.timestamp := by
  constructor
  · intro hq
    obtain ⟨hpFault, hpLine⟩ := encode_eq_ok_iff.1 hp
    obtain ⟨hqFault, hqLine⟩ := encode_eq_ok_iff.1 hq
    -- One line has one list of pieces, and the pieces spell one point.
    have hspell : spell q = spell p := String.ofList_injective (hqLine.trans hpLine.symm)
    have hpieces : (.ok (pointTokens q) : Except LineFault _) = .ok (pointTokens p) := by
      rw [← tokens_spell (writable_of_writeFault hqFault), hspell,
        tokens_spell (writable_of_writeFault hpFault)]
    have hpoint := pointOfTokens_without_precision hqFault
    rw [Except.ok.inj hpieces, pointOfTokens_without_precision hpFault] at hpoint
    obtain ⟨hname, htags, hfields, htime, -⟩ := Point.mk.inj (Except.ok.inj hpoint)
    exact ⟨hname.symm, htags.symm, hfields.symm, htime.symm⟩
  · obtain ⟨measurement, tags, fields, timestamp, precision⟩ := q
    rintro ⟨rfl, rfl, rfl, rfl⟩
    exact hp

/-- The weather in another unit has the same line, and no weather of another place has it. -/
theorem encode_eq_ok_weather :
    encode { weatherPoint with precision := some .nanos } = .ok (String.ofList (spell weatherPoint)) ∧
      ∀ place, encode { weatherPoint with tags := [("at, by", .text place), ("zone=", .int (-7))] } =
        .ok (String.ofList (spell weatherPoint)) → place = "San \"Fran\"" := by
  have hline : encode weatherPoint = .ok (String.ofList (spell weatherPoint)) :=
    encode_eq_ok_iff.2 ⟨by decide +kernel, rfl⟩
  refine ⟨(encode_eq_ok_iff_of_encode hline).2 ⟨rfl, rfl, rfl, rfl⟩, ?_⟩
  intro place hplace
  obtain ⟨-, htags, -⟩ := (encode_eq_ok_iff_of_encode hline).1 hplace
  simpa [weatherPoint] using htags

end SeriesBridge.Line
