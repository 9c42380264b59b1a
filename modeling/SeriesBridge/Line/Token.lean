import SeriesBridge.Line.Point

/-! # Tokens of a line

A line is cut into words, quoted texts, commas, equals signs and gaps. Outside quotes a backslash
takes the next character as it is, inside quotes it does so too; a run of spaces and tabs is one
gap.

* **`Token`** — one piece of a line.
* **`LineFault`** — everything that may be wrong with a line.
* **`tokens s`** — the pieces of `s`, or the first fault among its characters. -/

namespace SeriesBridge.Line

/-- One piece of a line. -/
inductive Token where
  | word (w : List Char)
  | quoted (s : List Char)
  | comma
  | equals
  | gap
  deriving DecidableEq, Repr

/-- How a piece is named in an error. -/
def Token.describe : Token → String
  | word _ => "a word"
  | quoted _ => "a quoted string"
  | comma => "','"
  | equals => "'='"
  | gap => "' '"

/-- How the next piece is named in an error, if there is one. -/
def describeNext : List Token → String
  | [] => "end of line"
  | t :: _ => t.describe

/-- What may be wrong with a line. -/
inductive LineFault where
  | missingMeasurement
  | missingFields
  | expectedKey (found : String)
  | missingEquals (key : String)
  | missingValue (key : String)
  | invalidValue (key raw : String)
  | unterminatedText
  | lineBreak
  | invalidTimestamp (raw : String)
  | trailingInput (found : String)
  | unexpected (found after : String)
  | point (fault : PointFault)
  deriving DecidableEq, Repr

/-- The words for a fault. -/
def LineFault.message : LineFault → String
  | missingMeasurement => "measurement name is missing"
  | missingFields => "field set is missing"
  | expectedKey found => "expected a key, found " ++ found
  | missingEquals key => "key '" ++ key ++ "' has no '='"
  | missingValue key => "key '" ++ key ++ "' has no value"
  | invalidValue key raw => "value of '" ++ key ++ "' does not match a known type: " ++ raw
  | unterminatedText => "string value is not terminated"
  | lineBreak => "line breaks are not allowed inside a line"
  | invalidTimestamp raw => "invalid timestamp '" ++ raw ++ "'"
  | trailingInput found => "unexpected " ++ found ++ " after the end of the line"
  | unexpected found after => "unexpected " ++ found ++ " after " ++ after
  | point fault => fault.message

/-! ## Words and quoted texts -/

/-- A space or a tab. -/
def isGap (c : Char) : Bool := c == ' ' || c == '\t'

/-- The characters that end a word. -/
def endsWord (c : Char) : Bool :=
  c == ',' || c == '=' || isGap c || c == '"' || c == '\n' || c == '\r'

/-- **The word that a text starts with,** without its backslashes, and the text after it. A
backslash at the very end stands for itself. -/
def readWord : List Char → List Char × List Char
  | [] => ([], [])
  | ['\\'] => (['\\'], [])
  | '\\' :: c :: s => let (w, rest) := readWord s; (c :: w, rest)
  | c :: s => if endsWord c then ([], c :: s) else let (w, rest) := readWord s; (c :: w, rest)

/-- What follows a word is no longer than the text. -/
theorem readWord_length_le (s : List Char) : (readWord s).2.length ≤ s.length := by
  induction s using readWord.induct with
  | case1 => simp [readWord]
  | case2 => simp [readWord]
  | case3 c s ih => simp only [readWord, List.length_cons]; omega
  | case4 c s h₁ h₂ h => simp [readWord, h]
  | case5 c s h₁ h₂ h ih => simp only [readWord, h, List.length_cons]; simp; omega

/-- A word whose first character does not end it leaves less than the text. -/
theorem readWord_length_lt {c : Char} (s : List Char) (h : endsWord c = false) :
    (readWord (c :: s)).2.length < (c :: s).length := by
  unfold readWord
  split
  · simp_all
  · simp
  · next heq =>
      injection heq with _ hs
      subst hs
      have := readWord_length_le (by assumption)
      simp only [List.length_cons]
      omega
  · next heq =>
      injection heq with hc hs
      subst hc hs
      have := readWord_length_le s
      simp only [h, List.length_cons]
      simp
      omega

/-- **The quoted text that starts after a quote,** without its backslashes, and what follows the
closing quote. -/
def readQuoted : List Char → Except LineFault (List Char × List Char)
  | [] => .error .unterminatedText
  | '"' :: s => .ok ([], s)
  | ['\\'] => .error .unterminatedText
  | '\\' :: c :: s => (readQuoted s).map (fun (q, rest) => (c :: q, rest))
  | c :: s =>
      if c == '\n' || c == '\r' then .error .lineBreak
      else (readQuoted s).map (fun (q, rest) => (c :: q, rest))

/-- What follows a quoted text is no longer than the text after its opening quote. -/
theorem readQuoted_length_le {s q rest : List Char} (h : readQuoted s = .ok (q, rest)) :
    rest.length ≤ s.length := by
  induction s using readQuoted.induct generalizing q rest with
  | case1 => simp [readQuoted] at h
  | case2 s => simp [readQuoted] at h; simp [h]
  | case3 => simp [readQuoted] at h
  | case4 c s ih =>
      simp only [readQuoted] at h
      cases hs : readQuoted s with
      | error fault => simp [hs, Except.map] at h
      | ok qr =>
          simp only [hs, Except.map, Except.ok.injEq, Prod.mk.injEq] at h
          have := @ih qr.1 qr.2 (by rw [hs])
          simp only [List.length_cons, ← h.2]
          omega
  | case5 c s h₁ h₂ h₃ hb => simp_all [readQuoted]
  | case6 c s h₁ h₂ h₃ hb ih =>
      simp only [readQuoted, hb] at h
      cases hs : readQuoted s with
      | error fault => simp [hs, Except.map] at h
      | ok qr =>
          have := @ih qr.1 qr.2 (by rw [hs])
          simp [hs, Except.map] at h
          simp only [List.length_cons, ← h.2]
          omega

/-! ## The pieces of a line -/

/-- Dropping characters does not lengthen a text. -/
theorem length_dropWhile_le (p : Char → Bool) (s : List Char) :
    (s.dropWhile p).length ≤ s.length :=
  (List.dropWhile_sublist p).length_le

/-- **The pieces of a line,** from left to right. -/
def tokens : List Char → Except LineFault (List Token)
  | [] => .ok []
  | c :: s =>
      if c == ',' then (tokens s).map (.comma :: ·)
      else if c == '=' then (tokens s).map (.equals :: ·)
      else if isGap c then (tokens (s.dropWhile isGap)).map (.gap :: ·)
      else if c == '"' then
        match _h : readQuoted s with
        | .error fault => .error fault
        | .ok (q, rest) => (tokens rest).map (.quoted q :: ·)
      -- Of the characters that end a word only the line breaks are left.
      else if h : endsWord c then .error .lineBreak
      else
        have := readWord_length_lt s (Bool.eq_false_iff.mpr h)
        (tokens (readWord (c :: s)).2).map (.word (readWord (c :: s)).1 :: ·)
  termination_by s => s.length
  decreasing_by
    · simp
    · simp
    · exact Nat.lt_succ_of_le (length_dropWhile_le isGap s)
    · exact Nat.lt_succ_of_le (readQuoted_length_le _h)
    · assumption

end SeriesBridge.Line
