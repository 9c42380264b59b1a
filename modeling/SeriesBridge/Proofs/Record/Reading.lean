import Mathlib.Data.List.TakeWhile
import SeriesBridge.Record.LineStream

/-! # Reading a stream of lines

Bytes arrive in chunks while records are asked for, and asking may be given up while it waits. What is
read does not depend on any of it, only on the bytes.

* **`LineStream.lines bytes`** — the lines of bytes; **`LineStream.payloads bytes`** — those of them
  that hold records, without carriage returns at their ends.
* **`LineStream.ahead s a later`** — the records that are ahead of a stream.
* **`LineStream.Reads s a coming rs`** — reading `rs` to the end, while the chunks `coming` arrive.
* **`LineStream.reads_iff_ahead`** — what is read is what is ahead. -/

namespace SeriesBridge

namespace LineStream

/-! ## Lines of bytes -/

/-- **The lines of bytes.** A line ends at a line feed; bytes behind the last line feed are a line if
there are any. -/
def lines : List UInt8 → List (List UInt8)
  | [] => []
  | b :: bytes =>
      if b == lineFeed then [] :: lines bytes
      else
        match lines bytes with
        | [] => [[b]]
        | line :: rest => (b :: line) :: rest

/-- No bytes have no lines. -/
@[simp] theorem lines_nil : lines [] = [] := rfl

/-- **A line before a line feed** is the first one. -/
theorem lines_append_lineFeed {line : List UInt8} (h : lineFeed ∉ line) (rest : List UInt8) :
    lines (line ++ lineFeed :: rest) = line :: lines rest := by
  induction line with
  | nil => exact if_pos (beq_self_eq_true lineFeed)
  | cons b line ih =>
      obtain ⟨hb, hline⟩ := List.ne_and_not_mem_of_not_mem_cons h
      have hb : ¬ (b == lineFeed) = true := by simpa using hb.symm
      rw [List.cons_append, lines, if_neg hb, ih hline]

/-- Bytes without a line feed are one line. -/
theorem lines_of_not_mem {line : List UInt8} (h : lineFeed ∉ line) (hne : line ≠ []) :
    lines line = [line] := by
  induction line with
  | nil => exact absurd rfl hne
  | cons b line ih =>
      obtain ⟨hb, hline⟩ := List.ne_and_not_mem_of_not_mem_cons h
      have hb : ¬ (b == lineFeed) = true := by simpa using hb.symm
      rw [lines, if_neg hb]
      cases line with
      | nil => rfl
      | cons b' line => rw [ih hline (List.cons_ne_nil _ _)]

/-- **The payloads in bytes:** the lines that hold records, without the carriage returns at their
ends. -/
def payloads (bytes : List UInt8) : List (List UInt8) :=
  ((lines bytes).filter holdsRecord).map payloadOf

/-! ## One line -/

/-- **What the next line of a stream can be,** when `begun` was read of it and `bytes` are at hand. -/
inductive TakesLine (begun : List UInt8) (ended : Bool) (bytes : List UInt8) :
    Step (List UInt8) × List UInt8 × List (List UInt8) → Prop where
  /-- It ends at a line feed. -/
  | line {line : List UInt8} {left : List (List UInt8)} (whole : lineFeed ∉ line)
      (split : begun ++ bytes = line ++ lineFeed :: left.flatten) :
      TakesLine begun ended bytes (.ready line, [], left)
  /-- It ends with the stream. -/
  | tail {line : List UInt8} (closed : ended = true) (whole : lineFeed ∉ line) (nonempty : line ≠ [])
      (split : begun ++ bytes = line) : TakesLine begun ended bytes (.ready line, [], [])
  /-- There is none. -/
  | ended (closed : ended = true) (split : begun ++ bytes = []) :
      TakesLine begun ended bytes (.ended, [], [])
  /-- More bytes have to arrive. -/
  | waiting {kept : List UInt8} (opened : ended = false) (whole : lineFeed ∉ kept)
      (split : begun ++ bytes = kept) : TakesLine begun ended bytes (.waiting, kept, [])

/-- **The next line** is one that the bytes have, however they are cut. -/
theorem takesLine_nextLine {begun : List UInt8} (h : lineFeed ∉ begun) (ended : Bool)
    (chunks : List (List UInt8)) :
    TakesLine begun ended chunks.flatten (nextLine begun ended chunks) := by
  induction chunks generalizing begun with
  | nil =>
      have hsplit : begun ++ [] = begun := List.append_nil begun
      unfold nextLine
      cases ended with
      | false => exact .waiting rfl h hsplit
      | true =>
          by_cases hempty : begun.isEmpty
          · simp only [if_true, if_pos hempty]
            exact .ended rfl (hsplit.trans (List.isEmpty_iff.1 hempty))
          · simp only [if_true, if_neg hempty]
            exact .tail rfl h (mt List.isEmpty_iff.2 hempty) hsplit
  | cons chunk chunks ih =>
      have hchunk := List.takeWhile_append_dropWhile (p := (· != lineFeed)) (l := chunk)
      have hfront : lineFeed ∉ chunk.takeWhile (· != lineFeed) := by
        intro hmem
        simpa using List.mem_takeWhile_imp hmem
      unfold nextLine
      dsimp only
      generalize chunk.takeWhile (· != lineFeed) = front at hchunk hfront
      cases hrest : chunk.dropWhile (· != lineFeed) with
      | nil =>
          -- The chunk belongs to a line that goes on.
          rw [hrest, List.append_nil] at hchunk
          rw [hchunk] at hfront
          have hbegun : lineFeed ∉ begun ++ chunk := by simp [h, hfront]
          have hbytes : begun ++ (chunk :: chunks).flatten = begun ++ chunk ++ chunks.flatten := by simp
          have htakes := ih hbegun
          generalize nextLine (begun ++ chunk) ended chunks = x at htakes
          cases htakes with
          | line whole split => exact .line whole (hbytes.trans split)
          | tail closed whole nonempty split => exact .tail closed whole nonempty (hbytes.trans split)
          | ended closed split => exact .ended closed (hbytes.trans split)
          | waiting opened whole split => exact .waiting opened whole (hbytes.trans split)
      | cons b rest =>
          have hfeed : b = lineFeed := by
            have := List.head?_dropWhile_not (· != lineFeed) chunk
            rw [hrest] at this
            simpa using this
          refine .line ?_ ?_
          · simp [h, hfront]
          · rw [hrest, hfeed] at hchunk
            rw [flatten_putBack, List.flatten_cons, ← hchunk, List.append_assoc, List.append_assoc,
              List.cons_append]

/-- What the next line came to is one of these. -/
theorem takesLine_of_eq {begun : List UInt8} {ended : Bool} {chunks : List (List UInt8)}
    {x : Step (List UInt8) × List UInt8 × List (List UInt8)} (h : lineFeed ∉ begun)
    (heq : nextLine begun ended chunks = x) : TakesLine begun ended chunks.flatten x :=
  heq ▸ takesLine_nextLine h ended chunks

/-- **A line is taken off the lines of the bytes,** whatever bytes are still to come. -/
theorem TakesLine.lines_eq {begun bytes line kept : List UInt8} {left : List (List UInt8)}
    {ended : Bool} (h : TakesLine begun ended bytes (.ready line, kept, left)) {later : List UInt8}
    (hlater : ended = true → later = []) :
    lines (begun ++ bytes ++ later) = line :: lines (left.flatten ++ later) := by
  cases h with
  | line whole split =>
      rw [split, List.append_assoc, List.cons_append, lines_append_lineFeed whole]
  | tail closed whole nonempty split =>
      rw [split, hlater closed, List.append_nil, lines_of_not_mem whole nonempty]
      rfl

/-- Nothing of a line that is taken is kept. -/
theorem TakesLine.kept_eq_nil {begun bytes line kept : List UInt8} {left : List (List UInt8)}
    {ended : Bool} (h : TakesLine begun ended bytes (.ready line, kept, left)) : kept = [] := by
  cases h with
  | line whole split => rfl
  | tail closed whole nonempty split => rfl

/-! ## One record -/

/-- Payloads as records of a topic, numbered in turn. -/
def number (topic : String) (first : Nat) : List (List UInt8) → List Incoming
  | [] => []
  | payload :: rest => { topic, offset := first, payload } :: number topic (first + 1) rest

/-- Numbered payloads have their places as numbers. -/
theorem number_map {α : Type} (topic : String) (first : Nat) (f : α → List UInt8) (sent : List α) :
    number topic first (sent.map f) =
      sent.mapIdx (fun i a => { topic, offset := first + i, payload := f a }) := by
  induction sent generalizing first with
  | nil => rfl
  | cons a sent ih =>
      rw [List.map_cons, number, ih, List.mapIdx_cons]
      simp only [Nat.add_zero, Nat.add_assoc, Nat.add_comm 1]

/-- **The records that are ahead of a stream:** those of the bytes that were read, are at hand and are
still to come. -/
def ahead (s : LineStream) (a : Arrivals) (later : List UInt8) : List Incoming :=
  number s.topic s.position (payloads (s.begun ++ a.chunks.flatten ++ later))

/-- **What asking for a record can come to,** with the records that are ahead afterwards. The part of a
line that a stream keeps has no line feed. -/
inductive Gives (s : LineStream) (a : Arrivals) : Step Incoming × LineStream × Arrivals → Prop where
  /-- The first record that is ahead. -/
  | record {r : Incoming} {s' : LineStream} {a' : Arrivals} (whole : lineFeed ∉ s'.begun)
      (same : a'.ended = a.ended)
      (first : ∀ later, (a.ended = true → later = []) → ahead s a later = r :: ahead s' a' later) :
      Gives s a (.ready r, s', a')
  /-- No record is ahead. -/
  | ended {s' : LineStream} {a' : Arrivals} (closed : a.ended = true) (none : ahead s a [] = []) :
      Gives s a (.ended, s', a')
  /-- More bytes have to arrive. -/
  | waiting {s' : LineStream} {a' : Arrivals} (opened : a.ended = false) (whole : lineFeed ∉ s'.begun)
      (same : a'.ended = false) (all : ∀ later, ahead s a later = ahead s' a' later) :
      Gives s a (.waiting, s', a')

variable {s s' : LineStream} {a a' : Arrivals}

/-- **The next record** is the first one that is ahead, however the bytes are cut. -/
theorem gives_next (h : lineFeed ∉ s.begun) (a : Arrivals) : Gives s a (s.next a) := by
  fun_induction next s a with
  | case1 s a line kept left heq hholds =>
      have htakes := takesLine_of_eq h heq
      have hkept := htakes.kept_eq_nil
      refine .record (by simp [hkept]) rfl (fun later hlater => ?_)
      rw [ahead, payloads, htakes.lines_eq hlater, List.filter_cons_of_pos hholds, hkept]
      rfl
  | case2 s a line kept left heq hblank ih =>
      have htakes := takesLine_of_eq h heq
      have hkept := htakes.kept_eq_nil
      -- What is ahead behind the line is ahead before it.
      have hpass : ∀ later, (a.ended = true → later = []) → ahead s a later =
          ahead { s with begun := kept } { a with chunks := left } later := by
        intro later hlater
        rw [ahead, payloads, htakes.lines_eq hlater, List.filter_cons_of_neg hblank, hkept]
        rfl
      have hgives := ih (by simp [hkept])
      generalize next { s with begun := kept } { a with chunks := left } = x at hgives
      cases hgives with
      | record whole same first =>
          exact .record whole same (fun later hlater => (hpass later hlater).trans (first later hlater))
      | ended closed none => exact .ended closed ((hpass [] (fun _ => rfl)).trans none)
      | waiting opened whole same all =>
          refine .waiting opened whole same (fun later => (hpass later ?_).trans (all later))
          exact fun hclosed => absurd (opened.symm.trans hclosed) Bool.false_ne_true
  | case3 s a kept left heq =>
      have htakes := takesLine_of_eq h heq
      cases htakes with
      | ended closed split =>
          refine .ended closed ?_
          rw [ahead, split]
          rfl
  | case4 s a kept left heq =>
      have htakes := takesLine_of_eq h heq
      cases htakes with
      | waiting opened whole split =>
          refine .waiting opened whole opened (fun later => ?_)
          rw [ahead, ahead, split, List.flatten_nil, List.append_nil]

/-! ## Reading to the end -/

/-- **Reading a stream to its end,** while chunks arrive in their order. Between two records chunks may
arrive or not, and asking for a record may be given up while it waits. -/
inductive Reads : LineStream → Arrivals → List (List UInt8) → List Incoming → Prop where
  /-- A chunk arrives. -/
  | arrive {s : LineStream} {a : Arrivals} {chunk : List UInt8} {coming : List (List UInt8)}
      {rs : List Incoming} (opened : a.ended = false) (rest : Reads s (a.feed chunk) coming rs) :
      Reads s a (chunk :: coming) rs
  /-- No more will arrive. -/
  | finish {s : LineStream} {a : Arrivals} {rs : List Incoming} (rest : Reads s a.finish [] rs) :
      Reads s a [] rs
  /-- A record is given out. -/
  | record {s s' : LineStream} {a a' : Arrivals} {coming : List (List UInt8)} {r : Incoming}
      {rs : List Incoming} (given : s.next a = (.ready r, s', a')) (rest : Reads s' a' coming rs) :
      Reads s a coming (r :: rs)
  /-- Asking for one is given up. -/
  | waiting {s s' : LineStream} {a a' : Arrivals} {coming : List (List UInt8)} {rs : List Incoming}
      (given : s.next a = (.waiting, s', a')) (rest : Reads s' a' coming rs) : Reads s a coming rs
  /-- There are no more. -/
  | ended {s s' : LineStream} {a a' : Arrivals} (given : s.next a = (.ended, s', a')) : Reads s a [] []

/-- Bytes that arrive are at hand behind the others. -/
@[simp] theorem flatten_feed (a : Arrivals) (bytes : List UInt8) :
    (a.feed bytes).chunks.flatten = a.chunks.flatten ++ bytes := by
  unfold Arrivals.feed
  split
  · next h => simp [List.isEmpty_iff.1 h]
  · simp

/-- Bytes that arrive do not end the stream. -/
@[simp] theorem ended_feed (a : Arrivals) (bytes : List UInt8) : (a.feed bytes).ended = a.ended := by
  unfold Arrivals.feed
  split <;> rfl

/-- Bytes that arrive were still to come. -/
theorem ahead_feed (s : LineStream) (a : Arrivals) (bytes later : List UInt8) :
    ahead s (a.feed bytes) later = ahead s a (bytes ++ later) := by
  rw [ahead, ahead, flatten_feed, ← List.append_assoc, ← List.append_assoc]

variable {coming : List (List UInt8)} {rs : List Incoming}

/-- **What is read is what is ahead.** -/
theorem Reads.eq_ahead (h : Reads s a coming rs) (hwhole : lineFeed ∉ s.begun)
    (hcoming : a.ended = true → coming = []) : rs = ahead s a coming.flatten := by
  induction h with
  | arrive opened rest ih =>
      rw [ih hwhole (fun hclosed => by simp [opened] at hclosed), ahead_feed, List.flatten_cons]
  | finish rest ih => exact ih hwhole (fun _ => rfl)
  | @record s s' a a' coming r rs given rest ih =>
      have hgives := gives_next hwhole a
      rw [given] at hgives
      cases hgives with
      | record whole same first =>
          rw [first _ (fun hclosed => by rw [hcoming hclosed]; rfl)]
          rw [ih whole (fun hclosed => hcoming (same.symm.trans hclosed))]
  | @waiting s s' a a' coming rs given rest ih =>
      have hgives := gives_next hwhole a
      rw [given] at hgives
      cases hgives with
      | waiting opened whole same all =>
          rw [all, ih whole (fun hclosed => by rw [same] at hclosed; cases hclosed)]
  | @ended s s' a a' given =>
      have hgives := gives_next hwhole a
      rw [given] at hgives
      cases hgives with
      | ended closed none => exact none.symm

/-- **A stream that has ended can be read to its end.** -/
theorem reads_of_ended (hwhole : lineFeed ∉ s.begun) (hended : a.ended = true)
    (hahead : ahead s a [] = rs) : Reads s a [] rs := by
  have hgives := gives_next hwhole a
  -- With every record that is given out one less is ahead.
  induction rs generalizing s a with
  | nil =>
      rcases hnext : s.next a with ⟨step, s', a'⟩
      rw [hnext] at hgives
      cases hgives with
      | record whole same first =>
          rw [first [] (fun _ => rfl)] at hahead
          cases hahead
      | ended closed none => exact .ended hnext
      | waiting opened whole same all =>
          rw [opened] at hended
          cases hended
  | cons r rs ih =>
      rcases hnext : s.next a with ⟨step, s', a'⟩
      rw [hnext] at hgives
      cases hgives with
      | record whole same first =>
          rw [first [] (fun _ => rfl)] at hahead
          cases hahead
          exact .record hnext (ih whole (same.trans hended) rfl (gives_next whole a'))
      | ended closed none =>
          rw [none] at hahead
          cases hahead
      | waiting opened whole same all =>
          rw [opened] at hended
          cases hended

/-- **Every stream can be read to its end.** -/
theorem exists_reads (hwhole : lineFeed ∉ s.begun) (hcoming : a.ended = true → coming = []) :
    ∃ rs, Reads s a coming rs := by
  induction coming generalizing a with
  | nil =>
      exact ⟨_, .finish (reads_of_ended hwhole rfl rfl)⟩
  | cons chunk coming ih =>
      have hopened : a.ended = false := Bool.eq_false_iff.2 (fun h => by simpa using hcoming h)
      obtain ⟨rs, h⟩ := ih (a := a.feed chunk) (fun h => by simp [hopened] at h)
      exact ⟨rs, .arrive hopened h⟩

/-- **What is read does not depend on chunks and waits,** but only on what is ahead. -/
theorem reads_iff_ahead (hwhole : lineFeed ∉ s.begun) (hcoming : a.ended = true → coming = []) :
    Reads s a coming rs ↔ rs = ahead s a coming.flatten := by
  constructor
  · exact fun h => h.eq_ahead hwhole hcoming
  · rintro rfl
    obtain ⟨rs, h⟩ := exists_reads hwhole hcoming
    rwa [← h.eq_ahead hwhole hcoming]

end LineStream

end SeriesBridge
