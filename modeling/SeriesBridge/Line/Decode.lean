import SeriesBridge.Line.Token
import SeriesBridge.Number.Decimal

/-! # Reading lines as points

The tokens of a line are read from left to right: a measurement, tags after commas, a gap, fields
between commas, and perhaps a gap and a timestamp.

* **`Line.scalar? raw`** — the value of a word, by the mark of its type.
* **`Line.pointOfTokens precision ts`** — the point that tokens spell.
* **`Line.decode line precision`** — the point of a line, or an error that names the line and the
  first **`LineFault`** in it. -/

namespace SeriesBridge.Line

/-! ## Values -/

/-- The text before `suffix`, when `s` ends in it. -/
def stripSuffix? (suffix s : List Char) : Option (List Char) :=
  if suffix.isSuffixOf s then some (s.take (s.length - suffix.length)) else none

/-- The spellings of the truth values. -/
def readBool? (s : List Char) : Option Bool :=
  if ["true", "True", "TRUE", "t", "T"].any (fun w => w.toList == s) then some true
  else if ["false", "False", "FALSE", "f", "F"].any (fun w => w.toList == s) then some false
  else none

/-- **The value of a word.** A word that ends in the mark of a number is that number or nothing;
a float that is not finite is nothing. -/
def scalar? (raw : List Char) : Option Value :=
  match stripSuffix? ['i', '6', '4'] raw with
  | some digits => (Text.readInt64? digits).map .int
  | none =>
      match stripSuffix? ['f', '6', '4'] raw with
      | some digits => ((Double.read? digits).filter Double.isFinite).map .float
      | none => (readBool? raw).map .bool

/-- The value under a key, and the tokens after it. -/
def readValue (key : String) : List Token → Except LineFault (Value × List Token)
  | .word raw :: .quoted s :: rest =>
      -- Only the mark `L` may stand directly before a quoted text.
      if raw == ['L'] then .ok (.text (String.ofList s), rest)
      else .error (.invalidValue key (String.ofList (raw ++ '"' :: s ++ ['"'])))
  | .word raw :: rest =>
      match scalar? raw with
      | some v => .ok (v, rest)
      | none => .error (.invalidValue key (String.ofList raw))
  | .quoted s :: _ =>
      .error (.invalidValue key
        (String.ofList ('"' :: s ++ "\" (strings need the L prefix)".toList)))
  | _ => .error (.missingValue key)

/-! ## Pairs -/

/-- A key, an equals sign and a value, and the tokens after them. -/
def readPair : List Token → Except LineFault (Pair × List Token)
  | .word key :: .equals :: rest =>
      (readValue (String.ofList key) rest).map (fun (v, rest) => ((String.ofList key, v), rest))
  | .word key :: _ => .error (.missingEquals (String.ofList key))
  | ts => .error (.expectedKey (describeNext ts))

/-- A value takes at least one token. -/
theorem readValue_length_lt {key : String} {ts rest : List Token} {v : Value}
    (h : readValue key ts = .ok (v, rest)) : rest.length < ts.length := by
  unfold readValue at h
  split at h
  · split at h
    · simp at h; obtain ⟨-, rfl⟩ := h; simp only [List.length_cons]; omega
    · simp at h
  · split at h
    · simp at h; simp [h]
    · simp at h
  · simp at h
  · simp at h

/-- A pair takes at least one token. -/
theorem readPair_length_lt {ts rest : List Token} {p : Pair}
    (h : readPair ts = .ok (p, rest)) : rest.length < ts.length := by
  unfold readPair at h
  split at h
  · next key after =>
      cases hv : readValue (String.ofList key) after with
      | error fault => simp [hv, Except.map] at h
      | ok vr =>
          have := @readValue_length_lt _ _ vr.2 vr.1 (by rw [hv])
          simp [hv, Except.map] at h
          simp only [List.length_cons, ← h.2]
          omega
  · simp at h
  · simp at h

/-- **Pairs, each after a comma,** as many as there are, and the tokens after them. -/
def readPairs : List Token → Except LineFault (List Pair × List Token)
  | .comma :: ts =>
      match _h : readPair ts with
      | .error fault => .error fault
      | .ok (p, rest) => (readPairs rest).map (fun (ps, rest) => (p :: ps, rest))
  | ts => .ok ([], ts)
  termination_by ts => ts.length
  decreasing_by exact Nat.lt_succ_of_lt (readPair_length_lt _h)

/-! ## Points -/

/-- The timestamp after a gap, if there is one, and the tokens after it. -/
def readTime : List Token → Except LineFault (Option Int64 × List Token)
  | .gap :: .word raw :: rest =>
      match Text.readInt64? raw with
      | some t => .ok (some t, rest)
      | none => .error (.invalidTimestamp (String.ofList raw))
  | .gap :: rest => .error (.invalidTimestamp (describeNext rest))
  | ts => .ok (none, ts)

/-- The tokens after the gap between tags and fields. -/
def readGap : List Token → Except LineFault (List Token)
  | [] => .error .missingFields
  | [.gap] => .error .missingFields
  | .gap :: rest => .ok rest
  | t :: _ => .error (.unexpected t.describe "the tag set")

/-- A word, as the name of a measurement, and the tokens after it. -/
def readMeasurement : List Token → Except LineFault (List Char × List Token)
  | .word name :: rest => .ok (name, rest)
  | _ => .error .missingMeasurement

/-- **The point that tokens spell.** The unit of the timestamp is the one given; a point without a
timestamp has none. -/
def pointOfTokens (precision : Option Precision) (ts : List Token) : Except LineFault Point := do
  let (name, ts) ← readMeasurement ts
  let (tags, ts) ← readPairs ts
  let ts ← readGap ts
  let (first, ts) ← readPair ts
  let (more, ts) ← readPairs ts
  let (timestamp, ts) ← readTime ts
  match ts with
  | t :: _ => .error (.trailingInput t.describe)
  | [] =>
      let point : Point :=
        { measurement := String.ofList name, tags, fields := first :: more, timestamp,
          precision := if timestamp.isSome then precision else none }
      -- What the tokens spell may still be no point: two keys may be equal.
      match point.check with
      | some fault => .error (.point fault)
      | none => .ok point

/-- The point that the characters of a line spell, without the blanks at its ends. -/
def readPoint (precision : Option Precision) (s : List Char) : Except LineFault Point := do
  pointOfTokens precision (← tokens (Text.trim s))

/-- **Decoding.** The point of a line, or an error that holds the whole line. -/
def decode (line : String) (precision : Option Precision) : Outcome Point :=
  match readPoint precision line.toList with
  | .ok point => .ok point
  | .error fault => .error (.format line fault.message)

/-- A line is decoded exactly when it spells a point, and then to that point. -/
theorem decode_eq_ok_iff {line : String} {precision : Option Precision} {p : Point} :
    decode line precision = .ok p ↔ readPoint precision line.toList = .ok p := by
  unfold decode
  split
  · simp_all
  · simp_all

end SeriesBridge.Line
