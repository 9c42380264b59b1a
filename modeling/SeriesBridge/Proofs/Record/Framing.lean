import SeriesBridge.Proofs.Line.Breaks
import SeriesBridge.Proofs.Line.RoundTrip
import SeriesBridge.Proofs.Record.Reading
import SeriesBridge.Proofs.Text.Utf8

/-! # Lines from one process to another

Records are given out as lines, one after the other, and taken in as lines. The line of a point comes
through as it is: no break is in it, it is not blank, and it does not end in a carriage return.

* **`LineStream.Whole payload`** — a payload that comes through as one line.
* **`LineStream.payloads_flatMap`** — payloads that were given out are those that are read.
* **`Line.whole_of_encode`** — the line of a point comes through.
* **`LineStream.reads_encoded`** — points that were given out are read as their lines, in their order,
  however the bytes are cut. -/

namespace SeriesBridge

namespace LineStream

/-! ## Payloads that come through -/

/-- **A payload that comes through as one line:** it holds no line feed, it does not end in a carriage
return, and it is not blank. -/
structure Whole (payload : List UInt8) : Prop where
  line : lineFeed ∉ payload
  ends : payloadOf payload = payload
  record : holdsRecord payload = true

/-- **Payloads that were given out** as lines are those that are read. -/
theorem payloads_flatMap {sent : List (List UInt8)} (h : ∀ payload ∈ sent, Whole payload) :
    payloads (sent.flatMap (· ++ [lineFeed])) = sent := by
  induction sent with
  | nil => rfl
  | cons payload sent ih =>
      have hpayload := h payload List.mem_cons_self
      have ih := ih (fun p hp => h p (List.mem_cons_of_mem payload hp))
      rw [payloads] at ih ⊢
      rw [List.flatMap_cons, List.append_assoc, List.singleton_append,
        lines_append_lineFeed hpayload.line, List.filter_cons_of_pos hpayload.record, List.map_cons,
        hpayload.ends, ih]

end LineStream

/-! ## Lines of points -/

namespace Line

open LineStream

/-- A point that has a line is read from it, but for its unit. -/
theorem lineText_spell {p : Point} (h : writeFault p = none) :
    LineText none (spell p) { p with precision := none } :=
  lineText_of_pointOfTokens (lexes_of_tokens (tokens_spell (writable_of_writeFault h)))
    (pointOfTokens_without_precision h)

/-- **A line does not break.** -/
theorem any_isBreak_spell {p : Point} (h : writeFault p = none) : (spell p).any isBreak = false :=
  (lineText_spell h).writeFault_eq_none_iff.1 h

/-- The last byte of a character that is not blank is not blank either. -/
theorem isBlankByte_eq_false {b : UInt8} {c : Char} (hc : Text.isBlank c = false)
    (hb : b.toNat = c.toNat ∨ 0x80 ≤ b.toNat) : Text.isBlankByte b = false := by
  rw [Bool.eq_false_iff]
  intro hblank
  simp only [Text.isBlankByte, Bool.or_eq_true, beq_iff_eq, ← UInt8.toNat_inj,
    UInt8.reduceToNat] at hblank
  simp only [Text.isBlank, Bool.or_eq_false_iff, Bool.and_eq_false_iff, decide_eq_false_iff_not,
    beq_eq_false_iff_ne] at hc
  omega

/-- **The line of a point comes through.** -/
theorem whole_of_encode {p : Point} {line : String} (h : encode p = .ok line) :
    Whole (Text.Utf8.ofString line) := by
  obtain ⟨hfault, rfl⟩ := encode_eq_ok_iff.1 h
  unfold Text.Utf8.ofString
  rw [String.toList_ofList]
  obtain ⟨s, c, hspell, hc⟩ := endsSolid_spell (writable_of_writeFault hfault)
  obtain ⟨bs, b, hbytes, hb⟩ := Text.Utf8.exists_encode_concat s c
  have hblank := isBlankByte_eq_false hc hb
  have hends : payloadOf (bs ++ [b]) = bs ++ [b] := by
    refine Text.dropEndWhile_concat_of_not bs (Bool.eq_false_iff.2 ?_)
    intro hreturn
    rw [eq_of_beq hreturn] at hblank
    cases hblank
  refine ⟨?_, ?_, ?_⟩
  · intro hmem
    obtain ⟨c, hc, hfeed⟩ := (Text.Utf8.mem_encode_iff (by decide)).1 hmem
    have hbreak := List.any_eq_false.1 (any_isBreak_spell hfault) c hc
    have hc : c = '\n' := Char.toNat_inj.1 hfeed
    rw [hc] at hbreak
    exact hbreak rfl
  · rw [hspell, hbytes, hends]
  · rw [hspell, hbytes, holdsRecord, hends]
    simp [hblank]

end Line

namespace LineStream

/-- **Points that were given out are read as they were written.** Whatever else the records hold, whose
payloads are the lines of points, and however the bytes are cut and waited for, the stream gives one
record for each point: its line, in its order, numbered from nought. -/
theorem reads_encoded (topic : String) {points : List Point} {lines : List String}
    {records : List Outgoing} {chunks : List (List UInt8)}
    (hlines : List.Forall₂ (fun p line => Line.encode p = .ok line) points lines)
    (hrecords : records.map Outgoing.payload = lines.map Text.Utf8.ofString)
    (hbytes : chunks.flatten = records.flatMap Outgoing.line) (rs : List Incoming) :
    Reads { topic } {} chunks rs ↔
      rs = lines.mapIdx (fun i line => { topic, offset := i, payload := Text.Utf8.ofString line }) := by
  have hwhole : ∀ payload ∈ lines.map Text.Utf8.ofString, Whole payload := by
    intro payload hpayload
    obtain ⟨line, hline, rfl⟩ := List.mem_map.1 hpayload
    obtain ⟨i, hi, rfl⟩ := List.getElem_of_mem hline
    exact Line.whole_of_encode (hlines.get (hlines.length_eq.symm ▸ hi) hi)
  -- What the receiver gets is the payloads, each with a line feed behind it.
  have hsent : chunks.flatten = (lines.map Text.Utf8.ofString).flatMap (· ++ [lineFeed]) := by
    rw [hbytes, ← hrecords, List.flatMap_map]
    rfl
  have hahead : ahead { topic } {} chunks.flatten =
      lines.mapIdx (fun i line => { topic, offset := i, payload := Text.Utf8.ofString line }) := by
    rw [ahead, List.nil_append, List.flatten_nil, List.nil_append, hsent, payloads_flatMap hwhole,
      number_map]
    simp only [Nat.zero_add]
  rw [reads_iff_ahead List.not_mem_nil (fun hended => by cases hended), hahead]

/-- A point whose name begins with a character of two bytes, and one that needs backslashes. -/
def sentPoints : List Point :=
  [{ measurement := "\u00e9t\u00e9", fields := [("a b", .text "x\\")] }, Line.weatherPoint]

/-- Their lines. -/
def sentLines : List String :=
  ["\u00e9t\u00e9 a\\ b=L\"x\\\\\"", String.ofList (Line.spell Line.weatherPoint)]

/-- What the receiver gets of them. -/
def sentBytes : List UInt8 := (sentLines.map (Outgoing.ofText "out")).flatMap Outgoing.line

/-- Both are read when their bytes are cut inside the first character and inside the second line. -/
theorem reads_encoded_sent :
    Reads { topic := "in" } {} [sentBytes.take 1, (sentBytes.drop 1).take 40, sentBytes.drop 41]
      (sentLines.mapIdx fun i line =>
        { topic := "in", offset := i, payload := Text.Utf8.ofString line }) := by
  have hlines : List.Forall₂ (fun p line => Line.encode p = .ok line) sentPoints sentLines := by
    refine .cons (Line.encode_eq_ok_iff.2 ⟨by decide +kernel, by decide +kernel⟩) (.cons ?_ .nil)
    exact Line.encode_eq_ok_iff.2 ⟨by decide +kernel, rfl⟩
  have hrecords : (sentLines.map (Outgoing.ofText "out")).map Outgoing.payload =
      sentLines.map Text.Utf8.ofString := by
    rw [List.map_map]
    rfl
  exact (reads_encoded "in" hlines hrecords (by decide +kernel) _).2 rfl

end LineStream

end SeriesBridge
