import Mathlib.Data.List.DropRight
import SeriesBridge.Proofs.Record.Reading

/-! # Every moment of reading a stream

Between two records a stream has read some lines, keeps the beginning of another one, and leaves the rest
of its chunks unread. Together these are the bytes that arrived, at every moment and whatever requests
were given up, so that in the end the records are those of the bytes read as a whole.

* **`LineStream.recordsIn topic bytes`** — the records of bytes that are read as a whole.
* **`LineStream.Reached topic arrived given s a`** — a moment of reading: what has arrived and what was
  given out.
* **`LineStream.Accounts`** — where the bytes that arrived are at a moment.
* **`LineStream.reads_iff_recordsIn`** — however the bytes are cut and waited for, the records are those
  of the bytes, and no byte is lost or read twice. -/

namespace SeriesBridge

namespace LineStream

/-! ## Bytes read as a whole -/

/-- **The records in bytes,** read as a whole: the bytes are cut at their line feeds, the carriage
returns at the end of each line are dropped, and the lines that are not made of white space alone are
numbered from nought. Bytes behind the last line feed are a line like the others; where there are none,
they are white space alone. -/
def recordsIn (topic : String) (bytes : List UInt8) : List Incoming :=
  (((bytes.splitOn lineFeed).map (List.rdropWhile (· == carriageReturn))).filter
      (fun line => !line.all Text.isBlankByte)).mapIdx
    (fun i payload => { topic, offset := i, payload })

/-- The parts of bytes between line feeds are their lines, and behind a last line feed an empty part. -/
theorem splitOn_eq_lines (bytes : List UInt8) :
    bytes.splitOn lineFeed = lines bytes ∨ bytes.splitOn lineFeed = lines bytes ++ [[]] := by
  unfold List.splitOn
  induction bytes with
  | nil => exact .inr rfl
  | cons b bytes ih =>
      rw [List.splitOnP_cons_eq_if_modifyHead, lines]
      by_cases hb : (b == lineFeed) = true
      · rw [if_pos hb, if_pos hb, List.cons_append]
        exact ih.imp (congrArg _) (congrArg _)
      · rw [if_neg hb, if_neg hb]
        -- A byte that is no line feed goes to the front of the first part.
        rcases ih with ih | ih
        · have hne : lines bytes ≠ [] := ih ▸ List.splitOnP_ne_nil _ bytes
          obtain ⟨line, rest, hlines⟩ := List.exists_cons_of_ne_nil hne
          rw [ih, hlines]
          exact .inl rfl
        · rw [ih]
          cases lines bytes with
          | nil => exact .inl rfl
          | cons line rest => exact .inr rfl

/-- An empty line holds no record. -/
theorem filter_holdsRecord_nil : ([[]] : List (List UInt8)).filter holdsRecord = [] := rfl

/-- The payloads in bytes are those of the parts between line feeds. -/
theorem payloads_eq_splitOn (bytes : List UInt8) :
    payloads bytes = ((bytes.splitOn lineFeed).filter holdsRecord).map payloadOf := by
  rcases splitOn_eq_lines bytes with h | h
  · rw [payloads, h]
  · rw [payloads, h, List.filter_append, filter_holdsRecord_nil, List.append_nil]

/-- **The records in bytes are their payloads,** numbered from nought. -/
theorem recordsIn_eq_number (topic : String) (bytes : List UInt8) :
    recordsIn topic bytes = number topic 0 (payloads bytes) := by
  have hmap := number_map topic 0 id (payloads bytes)
  rw [List.map_id] at hmap
  rw [hmap, payloads_eq_splitOn, recordsIn, List.filter_map]
  simp only [Nat.zero_add]
  rfl

/-! ## Bytes that end with a line -/

/-- **Bytes that end with a line:** none, or a line feed comes last. -/
def Closed (bytes : List UInt8) : Prop := bytes = [] ∨ ∃ front, bytes = front ++ [lineFeed]

/-- Behind a line the payloads go on with those of the next bytes. -/
theorem Closed.payloads_append {bytes : List UInt8} (h : Closed bytes) (more : List UInt8) :
    payloads (bytes ++ more) = payloads bytes ++ payloads more := by
  rcases h with rfl | ⟨front, rfl⟩
  · rfl
  · have hparts (more : List UInt8) : (front ++ lineFeed :: more).splitOn lineFeed =
        front.splitOn lineFeed ++ more.splitOn lineFeed :=
      List.splitOnP_append_cons front more (beq_self_eq_true lineFeed)
    have hempty : ([] : List UInt8).splitOn lineFeed = [[]] := rfl
    rw [List.append_assoc, List.singleton_append, payloads_eq_splitOn, payloads_eq_splitOn (_ ++ _),
      payloads_eq_splitOn more, hparts more, hparts [], hempty, List.filter_append, List.filter_append,
      filter_holdsRecord_nil, List.append_nil, List.map_append]

/-- The payload of a single line, if it holds a record. -/
theorem payloads_of_lines {bytes line : List UInt8} (h : lines bytes = [line]) :
    payloads bytes = if holdsRecord line then [payloadOf line] else [] := by
  rw [payloads, h]
  by_cases hholds : holdsRecord line = true
  · rw [if_pos hholds, List.filter_cons_of_pos hholds]
    rfl
  · rw [if_neg hholds, List.filter_cons_of_neg hholds]
    rfl

/-- More payloads are numbered behind the others. -/
theorem number_append (topic : String) (first : Nat) (sent more : List (List UInt8)) :
    number topic first (sent ++ more) =
      number topic first sent ++ number topic (first + sent.length) more := by
  induction sent generalizing first with
  | nil => rfl
  | cons payload sent ih =>
      rw [List.cons_append, number, ih, number, List.length_cons, Nat.add_comm sent.length 1,
        ← Nat.add_assoc]
      rfl

/-- Every payload has one number. -/
@[simp] theorem length_number (topic : String) (first : Nat) (sent : List (List UInt8)) :
    (number topic first sent).length = sent.length := by
  induction sent generalizing first with
  | nil => rfl
  | cons payload sent ih => rw [number, List.length_cons, ih, List.length_cons]

/-! ## Moments -/

/-- The record that asking came to, if it came to one. -/
def Step.toList {α : Type} : Step α → List α
  | .ready a => [a]
  | .ended => []
  | .waiting => []

/-- **A moment of reading a stream** from its beginning: the bytes that `arrived`, and the records that
were `given` out. A request that has to wait is given up; one that goes on when bytes arrive does what
the next request does, for all that it knows is in the stream. -/
inductive Reached (topic : String) :
    List UInt8 → List Incoming → LineStream → Arrivals → Prop where
  /-- Nothing has arrived. -/
  | start : Reached topic [] [] { topic } {}
  /-- A chunk arrives. -/
  | arrive {arrived : List UInt8} {given : List Incoming} {s : LineStream} {a : Arrivals}
      (before : Reached topic arrived given s a) (opened : a.ended = false) (chunk : List UInt8) :
      Reached topic (arrived ++ chunk) given s (a.feed chunk)
  /-- No more will arrive. -/
  | finish {arrived : List UInt8} {given : List Incoming} {s : LineStream} {a : Arrivals}
      (before : Reached topic arrived given s a) : Reached topic arrived given s a.finish
  /-- A record is asked for. -/
  | ask {arrived : List UInt8} {given : List Incoming} {s : LineStream} {a : Arrivals}
      (before : Reached topic arrived given s a) :
      Reached topic arrived (given ++ (s.next a).1.toList) (s.next a).2.1 (s.next a).2.2

/-- **Where the bytes are at a moment:** those of the lines that were `read`, those of the line that is
begun, and those that are unread. -/
structure Accounts (topic : String) (arrived read : List UInt8) (given : List Incoming)
    (s : LineStream) (a : Arrivals) : Prop where
  /-- No byte is anywhere else, and none is in two places. -/
  split : arrived = read ++ s.begun ++ a.chunks.flatten
  /-- The lines that were read gave the records that were given out. -/
  gave : given = recordsIn topic read
  /-- The last line that was read is whole, or all bytes of the stream were read. -/
  closed : Closed read ∨ (a.ended = true ∧ s.begun ++ a.chunks.flatten = [])
  whole : lineFeed ∉ s.begun
  ofTopic : s.topic = topic
  numbered : s.position = given.length

variable {topic : String} {arrived read : List UInt8} {given : List Incoming} {s : LineStream}
  {a : Arrivals}

/-- Nothing is read at the beginning. -/
theorem accounts_start (topic : String) : Accounts topic [] [] [] { topic } {} where
  split := rfl
  gave := rfl
  closed := .inl (.inl rfl)
  whole := List.not_mem_nil
  ofTopic := rfl
  numbered := rfl

/-- As long as more may arrive, the last line that was read is whole. -/
theorem Accounts.closed_of_opened (h : Accounts topic arrived read given s a)
    (opened : a.ended = false) : Closed read :=
  h.closed.resolve_right (fun hended => by simp [opened] at hended)

/-- A chunk that arrives is unread. -/
theorem Accounts.arrive (h : Accounts topic arrived read given s a) (opened : a.ended = false)
    (chunk : List UInt8) : Accounts topic (arrived ++ chunk) read given s (a.feed chunk) where
  split := by rw [h.split, flatten_feed, List.append_assoc]
  gave := h.gave
  closed := .inl (h.closed_of_opened opened)
  whole := h.whole
  ofTopic := h.ofTopic
  numbered := h.numbered

/-- That no more will arrive changes nothing. -/
theorem Accounts.finish (h : Accounts topic arrived read given s a) :
    Accounts topic arrived read given s a.finish where
  split := h.split
  gave := h.gave
  closed := h.closed.imp_right (fun hended => ⟨rfl, hended.2⟩)
  whole := h.whole
  ofTopic := h.ofTopic
  numbered := h.numbered

/-- The records of further payloads go on from those that were given out. -/
theorem Accounts.given_append_number (h : Accounts topic arrived read given s a)
    (more : List (List UInt8)) :
    given ++ number s.topic s.position more = number topic 0 (payloads read ++ more) := by
  have hgiven := h.gave
  rw [recordsIn_eq_number] at hgiven
  have hposition : s.position = 0 + (payloads read).length := by
    rw [h.numbered, hgiven, length_number, Nat.zero_add]
  rw [number_append, ← hgiven, ← hposition, h.ofTopic]

/-- **The bytes of a line that is taken** go to those that were read, and with them its payload. -/
theorem Accounts.takesLine (h : Accounts topic arrived read given s a) {line kept : List UInt8}
    {left : List (List UInt8)}
    (htakes : TakesLine s.begun a.ended a.chunks.flatten (.ready line, kept, left)) :
    ∃ read', arrived = read' ++ left.flatten ∧
      payloads read' = payloads read ++ (if holdsRecord line then [payloadOf line] else []) ∧
        (Closed read' ∨ (a.ended = true ∧ left.flatten = [])) := by
  have hsplit := h.split
  rw [List.append_assoc] at hsplit
  -- There are bytes left, so the lines before this one are whole.
  have hclosed (hne : s.begun ++ a.chunks.flatten ≠ []) : Closed read :=
    h.closed.resolve_right (fun hended => hne hended.2)
  cases htakes with
  | line whole split =>
      have hlines : lines (line ++ [lineFeed]) = [line] := lines_append_lineFeed whole []
      refine ⟨read ++ (line ++ [lineFeed]), ?_, ?_, .inl (.inr ⟨read ++ line, ?_⟩)⟩
      · rw [hsplit, split]
        simp
      · rw [(hclosed (by simp [split])).payloads_append, payloads_of_lines hlines]
      · rw [List.append_assoc]
  | tail ended whole nonempty split =>
      have hlines : lines line = [line] := lines_of_not_mem whole nonempty
      refine ⟨read ++ line, ?_, ?_, .inr ⟨ended, rfl⟩⟩
      · rw [hsplit, split, List.flatten_nil, List.append_nil]
      · rw [(hclosed (by rwa [split])).payloads_append, payloads_of_lines hlines]

/-- **Asking for a record** keeps account of every byte: what a request passes over was read, and what
it has to wait with is kept. -/
theorem Accounts.ask (h : Accounts topic arrived read given s a) :
    ∃ read', Accounts topic arrived read' (given ++ (s.next a).1.toList) (s.next a).2.1
      (s.next a).2.2 := by
  fun_induction next s a generalizing read with
  | case1 s a line kept left heq hholds =>
      have htakes := takesLine_of_eq h.whole heq
      obtain ⟨read', hsplit, hpayloads, hclosed⟩ := h.takesLine htakes
      obtain rfl := htakes.kept_eq_nil
      rw [if_pos hholds] at hpayloads
      -- The payload has the number of the records that were given out before it.
      exact ⟨read',
        { split := by rw [hsplit, List.append_nil]
          gave := by
            rw [recordsIn_eq_number, hpayloads, ← h.given_append_number]
            rfl
          closed := hclosed
          whole := List.not_mem_nil
          ofTopic := h.ofTopic
          numbered := by rw [h.numbered, List.length_append]; rfl }⟩
  | case2 s a line kept left heq hblank ih =>
      have htakes := takesLine_of_eq h.whole heq
      obtain ⟨read', hsplit, hpayloads, hclosed⟩ := h.takesLine htakes
      obtain rfl := htakes.kept_eq_nil
      rw [if_neg hblank, List.append_nil] at hpayloads
      -- The blank line was read, but nothing is given out for it.
      have hpassed : Accounts topic arrived read' given { s with begun := [] }
          { a with chunks := left } :=
        { split := by rw [hsplit, List.append_nil]
          gave := by rw [h.gave, recordsIn_eq_number, recordsIn_eq_number, hpayloads]
          closed := hclosed
          whole := List.not_mem_nil
          ofTopic := h.ofTopic
          numbered := h.numbered }
      exact ih hpassed
  | case3 s a kept left heq =>
      have htakes := takesLine_of_eq h.whole heq
      cases htakes with
      | ended closed split =>
          -- Nothing was begun and nothing is at hand.
          exact ⟨read,
            { split := by rw [h.split, List.append_assoc, split, List.flatten_nil, List.append_nil,
                List.append_nil]
              gave := (List.append_nil given).trans h.gave
              closed := .inr ⟨closed, rfl⟩
              whole := List.not_mem_nil
              ofTopic := h.ofTopic
              numbered := h.numbered.trans (congrArg List.length (List.append_nil given).symm) }⟩
  | case4 s a kept left heq =>
      have htakes := takesLine_of_eq h.whole heq
      cases htakes with
      | waiting opened whole split =>
          -- All that was at hand is now the beginning of a line.
          exact ⟨read,
            { split := by rw [h.split, List.append_assoc, split, List.flatten_nil, List.append_nil]
              gave := (List.append_nil given).trans h.gave
              closed := .inl (h.closed_of_opened opened)
              whole := whole
              ofTopic := h.ofTopic
              numbered := h.numbered.trans (congrArg List.length (List.append_nil given).symm) }⟩

/-- **At every moment every byte is accounted for.** -/
theorem Reached.accounts (h : Reached topic arrived given s a) :
    ∃ read, Accounts topic arrived read given s a := by
  induction h with
  | start => exact ⟨[], accounts_start topic⟩
  | arrive before opened chunk ih =>
      obtain ⟨read, hread⟩ := ih
      exact ⟨read, hread.arrive opened chunk⟩
  | finish before ih =>
      obtain ⟨read, hread⟩ := ih
      exact ⟨read, hread.finish⟩
  | ask before ih =>
      obtain ⟨read, hread⟩ := ih
      exact hread.ask

/-- **What was given out and what is ahead** are the records in all that arrived and is still to come. -/
theorem Accounts.given_append_ahead (h : Accounts topic arrived read given s a) (later : List UInt8)
    (hlater : a.ended = true → later = []) :
    given ++ ahead s a later = recordsIn topic (arrived ++ later) := by
  have hpayloads : payloads (arrived ++ later) =
      payloads read ++ payloads (s.begun ++ a.chunks.flatten ++ later) := by
    rw [h.split, List.append_assoc read, List.append_assoc read]
    rcases h.closed with hclosed | ⟨hended, hnone⟩
    · exact hclosed.payloads_append _
    · rw [hnone, hlater hended, List.append_nil, List.append_nil]
      exact (List.append_nil _).symm
  rw [recordsIn_eq_number, hpayloads, ← h.given_append_number, ahead]

/-! ## All that is read -/

/-- **Reading depends on nothing but the bytes.** However they are cut into chunks and whatever requests
are given up while they wait, a stream that is read to its end gives the records of the bytes read as a
whole. At every moment on the way each byte that arrived is in a line that was read, in the line that is
begun, or unread, and the lines that were read gave the records that were given out; these are all there
are once a request finds the end. -/
theorem reads_iff_recordsIn (topic : String) :
    (∀ (chunks : List (List UInt8)) (rs : List Incoming),
      Reads { topic } {} chunks rs ↔ rs = recordsIn topic chunks.flatten) ∧
    ∀ (arrived : List UInt8) (given : List Incoming) (s : LineStream) (a : Arrivals),
      Reached topic arrived given s a →
        (∃ read, Accounts topic arrived read given s a) ∧
          ((s.next a).1 = .ended → given = recordsIn topic arrived) := by
  refine ⟨fun chunks rs => ?_, fun arrived given s a h => ⟨h.accounts, fun hended => ?_⟩⟩
  · -- Nothing was given out before the first byte, so all records are ahead.
    have hahead := (accounts_start topic).given_append_ahead chunks.flatten
      (fun hended => by cases hended)
    rw [List.nil_append, List.nil_append] at hahead
    rw [reads_iff_ahead List.not_mem_nil (fun hended => by cases hended), hahead]
  · obtain ⟨read, hread⟩ := h.accounts
    have hahead := hread.given_append_ahead [] (fun _ => rfl)
    have hgives := gives_next hread.whole a
    rcases hnext : s.next a with ⟨step, s', a'⟩
    rw [hnext] at hgives hended
    cases hgives with
    | record whole same first => cases hended
    | ended closed none => rwa [none, List.append_nil, List.append_nil] at hahead
    | waiting opened whole same all => cases hended

/-- `a`, a carriage return and, in a second chunk, a line feed, a blank line and `b`. -/
def cutChunks : List (List UInt8) := [[0x61, 0x0D], [0x0A, 0x20, 0x0A, 0x62]]

/-- The records in them. -/
def cutRecords : List Incoming := recordsIn "in" cutChunks.flatten

/-- A first request is given up in the line `a`, and a third one behind the blank line. -/
theorem reached_cutChunks : Reached "in" cutChunks.flatten (cutRecords.take 1)
    { topic := "in", position := 1, begun := [0x62] } {} := by
  have hfirst : Reached "in" _ _ _ _ := (Reached.start.arrive rfl [0x61, 0x0D]).ask
  have hwaits : next { topic := "in" } (Arrivals.feed {} [0x61, 0x0D]) =
      (.waiting, { topic := "in", begun := [0x61, 0x0D] }, {}) := by decide +kernel
  rw [hwaits] at hfirst
  have hsecond := (hfirst.arrive rfl [0x0A, 0x20, 0x0A, 0x62]).ask
  have hgives : next { topic := "in", begun := [0x61, 0x0D] }
      (Arrivals.feed {} [0x0A, 0x20, 0x0A, 0x62]) =
        (.ready { topic := "in", offset := 0, payload := [0x61] }, { topic := "in", position := 1 },
          { chunks := [[0x20, 0x0A, 0x62]] }) := by decide +kernel
  rw [hgives] at hsecond
  have hthird := hsecond.ask
  have hwaits : next { topic := "in", position := 1 } { chunks := [[0x20, 0x0A, 0x62]] } =
      (.waiting, { topic := "in", position := 1, begun := [0x62] }, {}) := by decide +kernel
  rw [hwaits] at hthird
  exact hthird

/-- Two records are read in the end, and at that moment every byte is accounted for. -/
theorem reads_iff_recordsIn_cutChunks :
    Reads { topic := "in" } {} cutChunks
      [{ topic := "in", offset := 0, payload := [0x61] },
        { topic := "in", offset := 1, payload := [0x62] }] ∧
    Reached "in" cutChunks.flatten (cutRecords.take 1)
        { topic := "in", position := 1, begun := [0x62] } {} ∧
      ∃ read, Accounts "in" cutChunks.flatten read (cutRecords.take 1)
        { topic := "in", position := 1, begun := [0x62] } {} :=
  ⟨((reads_iff_recordsIn "in").1 cutChunks _).2 (by decide), reached_cutChunks,
    ((reads_iff_recordsIn "in").2 _ _ _ _ reached_cutChunks).1⟩

end LineStream

end SeriesBridge
