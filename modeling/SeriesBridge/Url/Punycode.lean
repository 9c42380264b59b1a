import SeriesBridge.Text.Blank

/-! # Labels in ASCII

A label of a domain that holds letters beyond ASCII is written in ASCII letters: first the
characters of the label that are ASCII, then, behind a hyphen, where the others stand and what they
are, as numbers of variable length in base 36.

* **`Punycode.encode s`** — the written form of a label.
* **`Punycode.decode? s`** — the label of a written form. -/

namespace SeriesBridge.Url.Punycode

/-- The digit of base 36 with a value: letters first, then numerals. -/
def digit (n : Nat) : Char := Char.ofNat (if n < 26 then 97 + n else 22 + n)

/-- The value of a digit of base 36. -/
def digitValue? (c : Char) : Option Nat :=
  let n := c.toNat
  if 97 ≤ n && n ≤ 122 then some (n - 97)
  else if 65 ≤ n && n ≤ 90 then some (n - 65)
  else if 48 ≤ n && n ≤ 57 then some (n - 22)
  else none

/-- The value from which on a digit at position `k` is not the last, for a given bias. -/
def threshold (bias k : Nat) : Nat := min (max (k - bias) 1) 26

/-- Halve a distance by 35 until it is small, counting in steps of 36. -/
def settle (k delta : Nat) : Nat :=
  if 455 < delta then settle (k + 36) (delta / 35) else k + 36 * delta / (delta + 38)
  termination_by delta
  decreasing_by omega

/-- The bias after a distance was written. -/
def adapt (delta count : Nat) (first : Bool) : Nat :=
  let delta := if first then delta / 700 else delta / 2
  settle 0 (delta + delta / count)

/-- A number in digits of variable length. -/
def writeNumber (bias k n : Nat) : List Char :=
  let t := threshold bias k
  if h : n < t then [digit n]
  else
    digit (t + (n - t) % (36 - t)) :: writeNumber bias (k + 36) ((n - t) / (36 - t))
  termination_by n
  decreasing_by
    have h₁ : 1 ≤ threshold bias k := by unfold threshold; omega
    have h₂ : threshold bias k ≤ 26 := by unfold threshold; omega
    have h₃ : (n - threshold bias k) / (36 - threshold bias k) ≤ n - threshold bias k :=
      Nat.div_le_self _ _
    omega

/-- What is known while the characters beyond ASCII are written, in order of their numbers. -/
structure State where
  delta : Nat := 0
  bias : Nat := 72
  written : Nat
  first : Bool := true
  output : List Char := []

/-- Write the characters of `s` that have the number `n`. -/
def writeAll (n : Nat) : List Char → State → State
  | [], st => st
  | c :: s, st =>
      if c.toNat < n then writeAll n s { st with delta := st.delta + 1 }
      else if c.toNat = n then
        writeAll n s
          { delta := 0, bias := adapt st.delta (st.written + 1) st.first,
            written := st.written + 1, first := false,
            output := st.output ++ writeNumber st.bias 36 st.delta }
      else writeAll n s st

/-- Write the characters with the given numbers, which increase; `at_` is the number reached. -/
def writeFrom (s : List Char) : Nat → List Nat → State → List Char
  | _, [], st => st.output
  | at_, n :: ns, st =>
      -- Every number that is passed over takes up as many counts as there are places so far.
      let st := { st with delta := st.delta + (n - at_) * (st.written + 1) }
      let st := writeAll n s st
      writeFrom s (n + 1) ns { st with delta := st.delta + 1 }

/-- The numbers of the characters beyond ASCII, in order and each once. -/
def numbersBeyond (s : List Char) : List Nat :=
  (((s.map Char.toNat).filter (128 ≤ ·)).mergeSort (· ≤ ·)).eraseDups

/-- **The written form of a label.** -/
def encode (s : List Char) : List Char :=
  let plain := s.filter (fun c => c.toNat < 128)
  (if plain.isEmpty then [] else plain ++ ['-']) ++
    writeFrom s 128 (numbersBeyond s) { written := plain.length }

/-- The least number that is too large for a word. -/
def wordLimit : Nat := 1 <<< 32

/-- Read one number, which is added to `i`, and the text behind it. Neither the sum nor the weight
of a digit may be too large for a word. -/
def readNumber? (bias k weight i : Nat) : List Char → Option (Nat × List Char)
  | [] => none
  | c :: s => do
      let d ← digitValue? c
      let i := i + d * weight
      let t := threshold bias k
      if wordLimit ≤ i then none
      else if d < t then some (i, s)
      else if wordLimit ≤ weight * (36 - t) then none
      else readNumber? bias (k + 36) (weight * (36 - t)) i s

/-- A number takes at least one digit. -/
theorem readNumber?_length_lt {bias k weight i n : Nat} {s rest : List Char}
    (h : readNumber? bias k weight i s = some (n, rest)) : rest.length < s.length := by
  induction s generalizing k weight i with
  | nil => simp [readNumber?] at h
  | cons c s ih =>
      unfold readNumber? at h
      cases hd : digitValue? c with
      | none => simp [hd] at h
      | some d =>
          simp only [hd, Option.bind_eq_bind, Option.bind_some] at h
          split at h
          · exact absurd h (by simp)
          · split at h
            · simp only [Option.some.injEq, Prod.mk.injEq] at h
              simp [← h.2]
            · split at h
              · exact absurd h (by simp)
              · have := ih h
                simp only [List.length_cons]
                omega

/-- Read the places and numbers of the characters beyond ASCII. -/
def readFrom? (n i bias : Nat) (first : Bool) (done : List Char) (s : List Char) :
    Option (List Char) :=
  match s with
  | [] => some done
  | s =>
      match _h : readNumber? bias 36 1 i s with
      | none => none
      | some (place, rest) =>
          let count := done.length + 1
          -- Every number that is passed over takes up as many counts as the label has places.
          let n := n + place / count
          let place' := place % count
          if 0x10FFFF < n || (0xD800 ≤ n && n < 0xE000) then none
          else
            readFrom? n (place' + 1) (adapt (place - i) count first) false
              (done.take place' ++ Char.ofNat n :: done.drop place') rest
  termination_by s.length
  decreasing_by exact readNumber?_length_lt _h

/-- **The label of a written form,** if it is one. The last hyphen ends the characters in ASCII; a
hyphen that nothing stands before does not. -/
def decode? (s : List Char) : Option (List Char) :=
  let beyond := (s.reverse.takeWhile (· != '-')).reverse
  let plain := s.take (s.length - beyond.length - 1)
  if plain.isEmpty then readFrom? 128 0 72 true [] s else readFrom? 128 0 72 true plain beyond

/-- One letter beyond ASCII among others. -/
example : encode "bücher".toList = "bcher-kva".toList := by decide +kernel

/-- The label comes back. -/
example : decode? "bcher-kva".toList = some "bücher".toList := by decide +kernel

end SeriesBridge.Url.Punycode
