import SeriesBridge.Database.Session
import SeriesBridge.Proofs.Record.Framing
import SeriesBridge.Proofs.Sink.Conservation

/-! # Lines on the wire

Lines that are written together are posted in one body, with line feeds between them. The server takes the
body apart at these, so a line with a line feed in it would come there as two, and an empty one would
be lost. A sink has no such lines: whatever a payload holds, its lines are physical ones, and they stay so
while they wait.

* **`PhysicalLine l`** — a line that comes through as one line.
* **`Session.splitOn_body`** — physical lines come out of their body as they were put in.
* **`Sink.physicalLine_of_mem_validLines`** — the lines of a record are physical ones.
* **`Sink.physicalLines_of_write`** — so are all lines that a sink writes. -/

namespace SeriesBridge

open Dialogue

/-- **A line that comes through as one line:** it is not empty, and no line feed is in it. -/
structure PhysicalLine (l : String) : Prop where
  nonempty : l ≠ ""
  unbroken : '\n' ∉ l.toList

/-- A text of characters is a physical line. -/
theorem physicalLine_ofList {l : List Char} (hne : l ≠ []) (hfeed : '\n' ∉ l) :
    PhysicalLine (String.ofList l) := by
  refine ⟨?_, by rwa [String.toList_ofList]⟩
  intro hempty
  rw [← String.toList_inj, String.toList_ofList] at hempty
  exact hne hempty

/-! ## Bodies -/

namespace Session

variable {lines : List String} {protocol : Protocol} {precision : Precision}

/-- **Physical lines come out of their body** as they were put in. -/
theorem splitOn_body (hne : lines ≠ []) (hlines : ∀ l ∈ lines, PhysicalLine l) :
    ("\n".intercalate lines).toList.splitOn '\n' = lines.map String.toList := by
  rw [String.toList_intercalate]
  refine List.splitOn_intercalate '\n' ?_ (by simpa using hne)
  intro l hl
  obtain ⟨line, hline, rfl⟩ := List.mem_map.1 hl
  exact (hlines line hline).unbroken

/-- **Writing posts the body of the lines,** once, on a session that works on a database. -/
theorem posts_of_write {w : Session} {body : String} {t : List (Exchange Web)} {x : Outcome Unit}
    (hne : lines ≠ []) (hbody : writeBody lines protocol = .ok body) (hdatabase : w.database.isSome)
    (h : Runs (w.write lines protocol precision) t x) : ∃ e, t = [e] ∧ e.request.body = body := by
  obtain ⟨database, hdatabase⟩ := Option.isSome_iff_exists.1 hdatabase
  unfold write at h
  rw [if_neg (by simpa using hne), hdatabase] at h
  simp only [hbody] at h
  obtain ⟨u, v, reply, rfl, hpost, hlast⟩ := runs_bind_iff.1 h
  obtain ⟨u', v', answer, rfl, hask, hrest⟩ := runs_bind_iff.1 hpost
  rw [runs_ask_iff.1 hask]
  -- Whatever the answer is, nothing more is asked.
  cases answer with
  | error why =>
      obtain ⟨rfl, rfl⟩ := runs_done_iff.1 hrest
      obtain ⟨rfl, -⟩ := runs_done_iff.1 hlast
      exact ⟨_, rfl, rfl⟩
  | ok reply =>
      obtain ⟨rfl, rfl⟩ := runs_done_iff.1 hrest
      dsimp only at hlast
      split at hlast
      · obtain ⟨rfl, -⟩ := runs_done_iff.1 hlast
        exact ⟨_, rfl, rfl⟩
      · obtain ⟨rfl, -⟩ := runs_done_iff.1 hlast
        exact ⟨_, rfl, rfl⟩

end Session

/-! ## Lines of a payload -/

namespace Sink

variable {S : DatabaseSettings} {payload line : String} {l : List Char}

/-- The lines of a text are not empty, and hold no line feed. -/
theorem unbroken_of_mem_textLines (h : l ∈ textLines payload) : l ≠ [] ∧ '\n' ∉ l := by
  obtain ⟨hl, hne⟩ := List.mem_filter.1 h
  obtain ⟨l', hl', rfl⟩ := List.mem_map.1 hl
  refine ⟨by simpa using hne, ?_⟩
  intro hfeed
  exact Text.not_mem_of_mem_lines hl' (Text.mem_of_mem_trim hfeed)

/-- A line that was handled is what came of one that was given. -/
theorem exists_of_mem_eachLine {handle : List Char → Outcome String} {ls : List (List Char)}
    {lines : List String} (h : eachLine handle ls = .ok lines) (hline : line ∈ lines) :
    ∃ l ∈ ls, handle l = .ok line := by
  induction ls generalizing lines with
  | nil =>
      cases h
      cases hline
  | cons l ls ih =>
      rw [eachLine] at h
      cases hfirst : handle l with
      | error e => simp [hfirst, bind, Except.bind] at h
      | ok first =>
          cases hrest : eachLine handle ls with
          | error e => simp [hfirst, hrest, bind, Except.bind] at h
          | ok rest =>
              simp only [hfirst, hrest, bind, Except.bind, Except.ok.injEq] at h
              rw [← h] at hline
              rcases List.mem_cons.1 hline with rfl | hline
              · exact ⟨l, List.mem_cons_self, hfirst⟩
              · obtain ⟨l', hl', hhandle⟩ := ih hrest hline
                exact ⟨l', List.mem_cons_of_mem l hl', hhandle⟩

/-- The line of a point is a physical line, whatever it was read from. -/
theorem physicalLine_of_pointLine {precision : Precision} (h : pointLine precision l = .ok line) :
    PhysicalLine line := by
  unfold pointLine at h
  cases hdecode : Line.decode (String.ofList l) (some precision) with
  | error e =>
      rw [hdecode] at h
      cases h
  | ok p =>
      rw [hdecode] at h
      obtain ⟨hfault, rfl⟩ := Line.encode_eq_ok_iff.1 h
      refine physicalLine_ofList ?_ ?_
      · obtain ⟨s, c, hspell, -⟩ := Line.endsSolid_spell (Line.writable_of_writeFault hfault)
        simp [hspell]
      · -- A line feed in a name or a text would have been refused before.
        intro hfeed
        exact List.any_eq_false.1 (Line.any_isBreak_spell hfault) '\n' hfeed rfl

/-- A telnet line is written as it was given. -/
theorem eq_of_telnetLine (h : telnetLine l = .ok line) : line = String.ofList l := by
  unfold telnetLine at h
  dsimp only at h
  split at h
  · split at h
    · cases h
    · split at h
      · cases h
      · exact (Except.ok.inj h).symm
  · cases h

/-- **The lines of a record are physical ones,** unless it is a whole document. -/
theorem physicalLine_of_mem_validLines {r : Incoming} (hprotocol : S.protocol ≠ .json)
    (h : line ∈ validLines S r) : PhysicalLine line := by
  unfold validLines recordLines at h
  cases htext : r.text with
  | error e => simp [htext, bind, Except.bind] at h
  | ok payload =>
      cases hlines : lines S payload with
      | error e => simp [htext, hlines, bind, Except.bind] at h
      | ok ls =>
          simp only [htext, hlines, bind, Except.bind] at h
          unfold lines at hlines
          cases hkind : S.protocol with
          | line =>
              rw [hkind] at hlines
              obtain ⟨l, -, hl⟩ := exists_of_mem_eachLine hlines h
              exact physicalLine_of_pointLine hl
          | telnet =>
              rw [hkind] at hlines
              obtain ⟨l, hl, hline⟩ := exists_of_mem_eachLine hlines h
              obtain ⟨hne, hfeed⟩ := unbroken_of_mem_textLines hl
              rw [eq_of_telnetLine hline]
              exact physicalLine_ofList hne hfeed
          | json => exact absurd hkind hprotocol

/-! ## Lines that are written -/

/-- **A sink whose lines are physical ones.** -/
structure HoldsPhysicalLines (s : Sink) : Prop where
  protocol : s.settings.protocol ≠ .json
  buffer : ∀ l ∈ s.buffer, PhysicalLine l

/-- Calls but for writes of physical lines. -/
def WritesPhysicalLines : LinkCall → Prop
  | .database (.write _ lines protocol _) =>
      protocol ≠ .json ∧ lines ≠ [] ∧ ∀ l ∈ lines, PhysicalLine l
  | _ => True

/-- **Every call writes physical lines** and leaves physical lines. -/
theorem asks_take_physicalLines {s : Sink} (h : HoldsPhysicalLines s) (call : Call) :
    (s.take call).Asks (I := Link) WritesPhysicalLines (fun x => HoldsPhysicalLines x.2) := by
  refine (asks_take (P := WritesPhysicalLines) ?_ ?_ call).mono (fun _ hq => hq) ?_
  · intro c _ q hq
    cases hq <;> trivial
  · intro hne _
    exact ⟨h.protocol, hne, h.buffer⟩
  · intro x hx
    refine ⟨hx.settings ▸ h.protocol, ?_⟩
    -- A line that is left waited before the call or is one of its record.
    intro l hl
    rcases hx.buffer l hl with hl | hl
    · exact h.buffer l hl
    · cases call with
      | process r => exact physicalLine_of_mem_validLines h.protocol hl
      | flush => cases hl

/-- **One line that waits is one line on the wire.** Take any calls of a sink for lines of points or for
telnet lines, whatever the payloads are, whatever fails and wherever it is broken off. A list of lines that
is written is not empty, and its lines are physical ones. So the body that they are posted in, once on any
session that works on a database, is taken apart at its line feeds into these lines, in their order. -/
theorem physicalLines_of_write {s : Sink} (hprotocol : s.settings.protocol ≠ .json)
    (hbuffer : ∀ l ∈ s.buffer, PhysicalLine l) (calls : List Call) {t : List (Exchange Link)}
    (h : Reaches (turns take s calls) t) {e : Exchange Link} (he : e ∈ t) {session : Nat}
    {lines : List String} {protocol : Protocol} {precision : Precision}
    (hwrite : e.request = .database (.write session lines protocol precision)) :
    lines ≠ [] ∧ (∀ l ∈ lines, PhysicalLine l) ∧
      ∃ body, Session.writeBody lines protocol = .ok body ∧
        body.toList.splitOn '\n' = lines.map String.toList ∧
        ∀ (w : Session) u x, w.database.isSome → Runs (w.write lines protocol precision) u x →
          ∃ post, u = [post] ∧ post.request.body = body := by
  have hasks : (turns take s calls).Asks (I := Link) WritesPhysicalLines
      (fun x => HoldsPhysicalLines x.2) :=
    Asks.turns HoldsPhysicalLines (fun s call hs => asks_take_physicalLines hs call)
      ⟨hprotocol, hbuffer⟩ calls
  have hlines := hasks.of_reaches h e he
  rw [hwrite] at hlines
  obtain ⟨hkind, hne, hphysical⟩ := hlines
  have hbody : Session.writeBody lines protocol = .ok ("\n".intercalate lines) := by
    cases protocol with
    | json => exact absurd rfl hkind
    | _ => rfl
  refine ⟨hne, hphysical, _, hbody, Session.splitOn_body hne hphysical, ?_⟩
  intro w u x hdatabase hruns
  exact Session.posts_of_write hne hbody hdatabase hruns

/-- A payload of two lines and an empty one between them, which is flushed twice since the first write
fails. -/
def writtenTwice : List (Exchange Link) × List (Call × Outcome Unit) × Sink :=
  (turns take prepared.2.2 [.process (Delivery.textRecord 0 "a 1 2 k=v\r\n\n b 1 2 k=v\n"), .flush,
    .flush]).courseWith (Cache.answerFailing [4]) 3

/-- The second write is one of the two lines, and they come out of its body. -/
theorem physicalLines_of_writtenTwice :
    ∃ e ∈ writtenTwice.1,
      e.request = LinkCall.database (.write 0 ["a 1 2 k=v", "b 1 2 k=v"] .telnet .millis) ∧
      ∃ body, Session.writeBody ["a 1 2 k=v", "b 1 2 k=v"] .telnet = .ok body ∧
        body.toList.splitOn '\n' = ["a 1 2 k=v".toList, "b 1 2 k=v".toList] := by
  have hrequest : writtenTwice.1[3]?.map Exchange.request =
      some (LinkCall.database (.write 0 ["a 1 2 k=v", "b 1 2 k=v"] .telnet .millis)) := by
    with_unfolding_all rfl
  obtain ⟨e, hget, hwrite⟩ := Option.map_eq_some_iff.1 hrequest
  have he : e ∈ writtenTwice.1 := List.mem_of_getElem? hget
  have hprotocol : prepared.2.2.settings.protocol ≠ .json := by decide +kernel
  have hbuffer : prepared.2.2.buffer = [] := by decide +kernel
  have hruns := runs_courseWith (I := Link) (Cache.answerFailing [4])
    (turns take prepared.2.2 [.process (Delivery.textRecord 0 "a 1 2 k=v\r\n\n b 1 2 k=v\n"), .flush,
      .flush]) 3
  obtain ⟨-, -, body, hbody, hsplit, -⟩ :=
    physicalLines_of_write hprotocol (by simp [hbuffer]) _ hruns.reaches he hwrite
  exact ⟨e, he, hwrite, body, hbody, hsplit⟩

end Sink

end SeriesBridge
