import SeriesBridge.Text.Blank

/-! # Templates

Configured names may hold placeholders between double braces, as in `series-\x7b\x7btable\x7d\x7d`.
A placeholder is a name of letters, digits and underscores with any blanks around it; braces
around anything else are text.

* **`Template.segments s`** — the characters and placeholders of a template, in order.
* **`Template.placeholders t`** — the names that a template asks for.
* **`Template.fill values t`** — the template with values in place of its placeholders. -/

namespace SeriesBridge.Template

/-- One piece of a template. -/
inductive Segment where
  | literal (c : Char)
  | placeholder (name : List Char)
  deriving DecidableEq, Repr

/-- The opening braces of a placeholder. -/
def opening : List Char := ['\x7b', '\x7b']

/-- The closing braces of a placeholder. -/
def closing : List Char := ['\x7d', '\x7d']

/-- The text before the first closing braces and the text after them. -/
def splitClosing : List Char → Option (List Char × List Char)
  | [] => none
  | [_] => none
  | c :: d :: s =>
      if c == '\x7d' && d == '\x7d' then some ([], s)
      else (splitClosing (d :: s)).map (fun (inner, rest) => (c :: inner, rest))

/-- What follows the closing braces is shorter than the text. -/
theorem splitClosing_length_lt {s inner rest : List Char}
    (h : splitClosing s = some (inner, rest)) : rest.length < s.length := by
  induction s using splitClosing.induct generalizing inner rest with
  | case1 => simp [splitClosing] at h
  | case2 => simp [splitClosing] at h
  | case3 c d s hc =>
      simp [splitClosing, hc] at h
      obtain ⟨-, rfl⟩ := h
      simp only [List.length_cons]
      omega
  | case4 c d s hc ih =>
      simp only [splitClosing, hc] at h
      cases hs : splitClosing (d :: s) with
      | none => simp [hs] at h
      | some ir =>
          have := @ih ir.1 ir.2 (by rw [hs])
          simp [hs] at h
          simp only [List.length_cons, ← h.2] at this ⊢
          omega

/-- **The pieces of a template.** Opening braces that are not closed, or that close around
something else than a name, are two characters, and the search goes on right behind them. -/
def segments : List Char → List Segment
  | [] => []
  | [c] => [.literal c]
  | c :: d :: s =>
      if c == '\x7b' && d == '\x7b' then
        match _h : splitClosing s with
        | some (inner, rest) =>
            -- Blanks between the braces and the name are no part of it.
            if Text.isWordName (Text.trim inner) then
              .placeholder (Text.trim inner) :: segments rest
            else .literal c :: .literal d :: segments s
        | none => .literal c :: .literal d :: segments s
      else .literal c :: segments (d :: s)
  termination_by s => s.length
  decreasing_by
    all_goals simp only [List.length_cons]
    · exact Nat.lt_succ_of_lt (Nat.lt_succ_of_lt (splitClosing_length_lt _h))
    all_goals omega

/-- The empty template has no pieces. -/
@[simp] theorem segments_nil : segments [] = [] := by rw [segments]

/-- The names that a template asks for, in order. -/
def placeholders (template : String) : List String :=
  (segments template.toList).filterMap (fun
    | .placeholder name => some (String.ofList name)
    | .literal _ => none)

/-- The text of one piece. -/
def fillSegment (value : String → Option String) : Segment → List Char
  | .literal c => [c]
  | .placeholder name => ((value (String.ofList name)).getD "").toList

/-- **The template with its placeholders filled.** A value is taken as it is, braces and all; a
name without a value becomes nothing. -/
def fill (value : String → Option String) (template : String) : String :=
  String.ofList ((segments template.toList).flatMap (fillSegment value))

end SeriesBridge.Template
