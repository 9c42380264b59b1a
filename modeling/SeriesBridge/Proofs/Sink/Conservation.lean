import SeriesBridge.Proofs.Database.Acquisition
import SeriesBridge.Proofs.Database.Lifecycle
import SeriesBridge.Proofs.Dialogue.Turns
import SeriesBridge.Proofs.Pipeline.Delivery

/-! # What a sink keeps

The lines that a sink has taken were stored in the database or wait in its buffer, each once and in
order, whatever the calls below it come to. A record is taken as a whole or not at all.

* **`Course.stored t`** — the lines that a course stored in the database.
* **`Sink.Call`**, **`Sink.take s call`** — what is asked of a sink between its first and last call.
* **`Sink.taken calls`** — the records that were taken, going by which calls succeeded.
* **`Sink.Spoiled S r`** — a record with a line that is refused, or that cannot be read.
* **`Sink.Moved s u x`** — what one call does to lines.
* **`Sink.asks_take`** — what one call asks, finished or not, and **`Sink.Continues`** what is left of it.
* **`Sink.stored_append_buffer`** — the lines that were stored, with those that wait after them, are
  the lines of the records that were taken. -/

namespace SeriesBridge

open Dialogue

/-! ## What a course stores -/

/-- Whether a request is to write lines. -/
def LinkCall.writes : LinkCall → Bool
  | .database (.write ..) => true
  | _ => false

/-- The lines that an exchange stored; a write that fails stores none. -/
def Exchange.stored : Exchange Link → List String
  | ⟨.database (.write _ lines _ _), .ok ()⟩ => lines
  | _ => []

/-- **A write that failed.** -/
def Exchange.FailsToStore : Exchange Link → Prop
  | ⟨.database (.write ..), .error _⟩ => True
  | _ => False

/-- Only a request to write stores lines. -/
theorem Exchange.stored_of_not_writes {e : Exchange Link} (h : e.request.writes = false) :
    e.stored = [] := by
  obtain ⟨request, answer⟩ := e
  cases request with
  | database call =>
      cases call with
      | write session lines protocol precision => cases h
      | _ => rfl
  | _ => rfl

/-- Only a request to write fails to store lines. -/
theorem Exchange.not_failsToStore_of_not_writes {e : Exchange Link}
    (h : e.request.writes = false) : ¬ e.FailsToStore := by
  obtain ⟨request, answer⟩ := e
  cases request with
  | database call =>
      cases call with
      | write session lines protocol precision => cases h
      | _ => exact id
  | _ => exact id

namespace Course

/-- **The lines that were stored** in a course, in the order of the writes. -/
def stored (t : List (Exchange Link)) : List String := t.flatMap Exchange.stored

/-- What two courses store in a row. -/
@[simp] theorem stored_append (t u : List (Exchange Link)) :
    stored (t ++ u) = stored t ++ stored u := List.flatMap_append

/-- A course without writes stores nothing. -/
theorem stored_of_not_writes {t : List (Exchange Link)} (h : ∀ e ∈ t, e.request.writes = false) :
    stored t = [] :=
  List.flatMap_eq_nil_iff.2 fun e he => Exchange.stored_of_not_writes (h e he)

end Course

/-- **Having a session takes no writes.** -/
theorem Cache.Upkeep.not_writes {c : Cache} {q : LinkCall} (h : c.Upkeep q) : q.writes = false := by
  cases h <;> rfl

/-- **A write stores all of its lines or none,** and fails when the database fails to store them. -/
theorem Cache.stored_of_write {c : Cache} {lines : List String} {protocol : Protocol}
    {precision : Precision} {u : List (Exchange Link)} {x : Outcome Unit × Cache}
    (h : Runs (c.write lines protocol precision) u x) :
    (x.1 = .ok () → Course.stored u = lines) ∧
      (∀ e, x.1 = .error e → Course.stored u = []) ∧
      ((∃ e ∈ u, e.FailsToStore) → ∃ e, x.1 = .error e) := by
  cases lines with
  | nil =>
      obtain ⟨rfl, rfl⟩ := runs_done_iff.1 h
      exact ⟨fun _ => rfl, fun _ _ => rfl, by simp⟩
  | cons first rest =>
      have hupkeep : ∀ {v y}, Runs c.validated v y → ∀ e ∈ v, e.request.writes = false :=
        fun hv e he => (c.asks_validated.of_reaches hv.reaches e he).not_writes
      rcases use_cases h with ⟨e, hnone, he⟩ | ⟨v, w, session, answer, rfl, hsome, hw, hx⟩
      · have hstored := Course.stored_of_not_writes (hupkeep hnone)
        exact ⟨by simp [he], fun _ _ => hstored, fun _ => ⟨e, he⟩⟩
      · -- After the upkeep comes the write itself, and its answer is the result.
        rw [runs_ask_iff.1 hw, Course.stored_append, Course.stored_of_not_writes (hupkeep hsome),
          List.nil_append, hx]
        cases answer with
        | error e => exact ⟨nofun, fun _ _ => rfl, fun _ => ⟨_, rfl⟩⟩
        | ok _ =>
            refine ⟨fun _ => List.append_nil _, nofun, ?_⟩
            rintro ⟨e, he, hfails⟩
            rcases List.mem_append.1 he with he | he
            · exact absurd hfails (Exchange.not_failsToStore_of_not_writes (hupkeep hsome e he))
            · rw [List.mem_singleton.1 he] at hfails
              cases hfails

namespace Sink

open Course

/-! ## Preparing -/

/-- **Preparing sets up a database on a first session,** and takes nothing else. -/
theorem asks_prepare {P : LinkCall → Prop} {m : Cache → Prop} (s : Sink)
    (pipeline : PipelineSettings)
    (hset : ∀ (c : Cache) (name : String), s.settings.check = .ok () → s.settings.target? = some name →
      c.precision = s.settings.precision → c.database = none →
      (c.setDatabase name).Asks (I := Link) P (fun x => x.1 = .ok () → m x.2)) :
    (s.prepare pipeline).Asks (I := Link) P (fun x => x.2.settings = s.settings ∧
      x.2.buffer = s.buffer ∧
      (x.2.cache = s.cache ∨ ∃ c, x.2.cache = some c ∧ m c)) := by
  unfold prepare
  cases hcheck : s.settings.check with
  | error e => exact asks_done.2 ⟨rfl, rfl, .inl rfl⟩
  | ok _ =>
      dsimp only
      cases s.settings.endpoint with
      | error e => exact asks_done.2 ⟨rfl, rfl, .inl rfl⟩
      | ok endpoint =>
          cases s.settings.policy with
          | error e => exact asks_done.2 ⟨rfl, rfl, .inl rfl⟩
          | ok policy =>
              dsimp only
              cases htarget : s.settings.target? with
              | none => exact asks_done.2 ⟨rfl, rfl, .inl rfl⟩
              | some name =>
                  refine (hset _ name hcheck htarget rfl rfl).bind ?_
                  rintro ⟨e | _, c⟩ hc
                  · exact asks_done.2 ⟨rfl, rfl, .inl rfl⟩
                  · exact asks_done.2 ⟨rfl, rfl, .inr ⟨c, rfl, hc rfl⟩⟩

/-! ## What one call asks -/

/-- **How a sink goes on as another one:** the lines there waited here or were added, and the cache there
remembers what the cache here does. -/
structure Continues (s : Sink) (added : List String) (s' : Sink) : Prop where
  settings : s'.settings = s.settings
  cache : ∀ c', s'.cache = some c' → ∃ c, s.cache = some c ∧ c.Alike c'
  buffer : ∀ l ∈ s'.buffer, l ∈ s.buffer ∨ l ∈ added

/-- A sink may go on as it is. -/
theorem Continues.refl (s : Sink) : Continues s [] s :=
  ⟨rfl, fun c hc => ⟨c, hc, .refl c⟩, fun _ hl => .inl hl⟩

/-- Lines that may be added need not be. -/
theorem Continues.mono {s s' : Sink} (h : Continues s [] s') (added : List String) : Continues s added s' :=
  ⟨h.settings, h.cache, fun l hl => .inl ((h.buffer l hl).resolve_right List.not_mem_nil)⟩

/-- A sink goes on with lines that it takes. -/
theorem Continues.append {s s' : Sink} (h : Continues s [] s') (added : List String) :
    Continues s added { s' with buffer := s'.buffer ++ added } := by
  refine ⟨h.settings, h.cache, ?_⟩
  intro l hl
  rcases List.mem_append.1 hl with hl | hl
  · exact (h.mono added).buffer l hl
  · exact .inr hl

section Asks

variable {P : LinkCall → Prop} {s : Sink}

/-- **Flushing writes the lines that wait,** if any do, and else takes upkeep alone. -/
theorem asks_flush (hupkeep : ∀ c, s.cache = some c → ∀ q, c.Upkeep q → P q)
    (hwrite : s.buffer ≠ [] → ∀ session,
      P (.database (.write session s.buffer s.settings.protocol s.settings.precision))) :
    s.flush.Asks (I := Link) P (fun x => Continues s [] x.2) := by
  unfold flush
  by_cases hempty : s.buffer.isEmpty
  · rw [if_pos hempty]
    exact asks_done.2 (.refl s)
  · rw [if_neg hempty]
    have hne : s.buffer ≠ [] := mt List.isEmpty_iff.2 hempty
    cases hcache : s.cache with
    | none => exact asks_done.2 (.refl s)
    | some c =>
        have hcontinues (c' : Cache) (hc' : c.Alike c') (buffer : List String) (h : buffer ⊆ s.buffer) :
            Continues s [] { s with cache := some c', buffer } :=
          ⟨rfl, fun _ heq => ⟨c, hcache, Option.some.inj heq ▸ hc'⟩, fun _ hl => .inl (h hl)⟩
        -- Whatever comes of the write, the lines that are left waited before.
        refine Asks.bind (m := fun x => c.Alike x.2) ?_ ?_
        · obtain ⟨first, rest, hbuffer⟩ := List.exists_cons_of_ne_nil hne
          have hcall := hwrite hne
          rw [hbuffer] at hcall ⊢
          exact c.asks_use _ _ (hupkeep c hcache) fun session => asks_ask.2 ⟨hcall session, fun _ => trivial⟩
        · rintro ⟨e | _, c'⟩ hc'
          · exact asks_done.2 (hcontinues c' hc' s.buffer (List.Subset.refl _))
          · exact asks_done.2 (hcontinues c' hc' [] (List.nil_subset _))

/-- **Taking a record** asks no more than flushing, and adds its lines at most. -/
theorem asks_process (hupkeep : ∀ c, s.cache = some c → ∀ q, c.Upkeep q → P q)
    (hwrite : s.buffer ≠ [] → ∀ session,
      P (.database (.write session s.buffer s.settings.protocol s.settings.precision)))
    (r : Incoming) :
    (s.process r).Asks (I := Link) P (fun x => Continues s (validLines s.settings r) x.2) := by
  unfold process
  refine Asks.bind (m := fun x => Continues s [] x.2) ?_ ?_
  · unfold flushFull
    by_cases hfull : s.batchSize ≤ s.buffer.length
    · rw [if_pos hfull]
      exact asks_flush hupkeep hwrite
    · rw [if_neg hfull]
      exact asks_done.2 (.refl s)
  · rintro ⟨e | _, s'⟩ hs'
    · exact asks_done.2 (hs'.mono _)
    · have hsettings : s'.settings = s.settings := hs'.settings
      rw [validLines, ← hsettings]
      cases hlines : recordLines s'.settings r with
      | error e =>
          simp only [hlines]
          exact asks_done.2 (hs'.mono [])
      | ok lines =>
          simp only [hlines]
          exact asks_done.2 (hs'.append lines)

end Asks

variable {S : DatabaseSettings} {s : Sink} {t u : List (Exchange Link)} {r : Incoming}

/-- **Preparing stores nothing** and leaves nothing to wait. -/
theorem stored_of_prepare {pipeline : PipelineSettings} {x : Outcome Unit × Sink}
    (h : Runs (s.prepare pipeline) t x) :
    stored t = [] ∧ x.2.settings = s.settings ∧ x.2.buffer = s.buffer := by
  have hasks : (s.prepare pipeline).Asks (I := Link) (fun q => q.writes = false) (fun x =>
      x.2.settings = s.settings ∧ x.2.buffer = s.buffer ∧
      (x.2.cache = s.cache ∨ ∃ c, x.2.cache = some c ∧ True)) := by
    refine s.asks_prepare pipeline ?_
    intro c name _ _ _ _
    exact (c.asks_setDatabase name (fun _ h => h.not_writes) (fun _ _ => rfl)
      (fun _ _ => rfl)).mono (fun _ h => h) (fun _ _ _ => trivial)
  obtain ⟨hsettings, hbuffer, -⟩ := hasks.of_runs h
  exact ⟨stored_of_not_writes (hasks.of_reaches h.reaches), hsettings, hbuffer⟩

/-! ## One call -/

/-- **What a call does to lines:** those that waited were stored or wait on, followed by the lines
that were added. A write that failed is the failure of the call, and leaves the buffer as it was. -/
structure Moved (s : Sink) (added : List String) (u : List (Exchange Link))
    (x : Outcome Unit × Sink) : Prop where
  settings : x.2.settings = s.settings
  lines : stored u ++ x.2.buffer = s.buffer ++ added
  failed : (∃ e ∈ u, e.FailsToStore) → (∃ e, x.1 = .error e) ∧ x.2.buffer = s.buffer

/-- **Flushing stores the lines that wait,** all of them or none. -/
theorem moved_of_flush {x : Outcome Unit × Sink} (h : Runs s.flush u x) :
    Moved s [] u x ∧ ∀ e, x.1 = .error e → x.2.buffer = s.buffer := by
  unfold flush at h
  by_cases hempty : s.buffer.isEmpty
  · rw [if_pos hempty] at h
    obtain ⟨rfl, rfl⟩ := runs_done_iff.1 h
    exact ⟨⟨rfl, by simp [stored], by simp⟩, by simp⟩
  · rw [if_neg hempty] at h
    cases hcache : s.cache with
    | none =>
        rw [hcache] at h
        obtain ⟨rfl, rfl⟩ := runs_done_iff.1 h
        exact ⟨⟨rfl, by simp [stored], by simp⟩, by simp⟩
    | some cache =>
        rw [hcache] at h
        obtain ⟨v, w, ⟨result, cache'⟩, rfl, hwrite, hlast⟩ := runs_bind_iff.1 h
        obtain ⟨hok, herror, hfails⟩ := Cache.stored_of_write hwrite
        cases result with
        | error e =>
            obtain ⟨rfl, rfl⟩ := runs_done_iff.1 hlast
            rw [List.append_nil]
            exact ⟨⟨rfl, by simp [herror e rfl], fun _ => ⟨⟨e, rfl⟩, rfl⟩⟩, fun _ _ => rfl⟩
        | ok _ =>
            obtain ⟨rfl, rfl⟩ := runs_done_iff.1 hlast
            rw [List.append_nil]
            refine ⟨⟨rfl, by simp [hok rfl], ?_⟩, nofun⟩
            intro hfail
            obtain ⟨e, he⟩ := hfails hfail
            cases he

/-- Flushing when there are enough lines does the same, or nothing. -/
theorem moved_of_flushFull {x : Outcome Unit × Sink} (h : Runs s.flushFull u x) :
    Moved s [] u x ∧ ∀ e, x.1 = .error e → x.2.buffer = s.buffer := by
  unfold flushFull at h
  by_cases hfull : s.batchSize ≤ s.buffer.length
  · rw [if_pos hfull] at h
    exact moved_of_flush h
  · rw [if_neg hfull] at h
    obtain ⟨rfl, rfl⟩ := runs_done_iff.1 h
    exact ⟨⟨rfl, by simp [stored], by simp⟩, by simp⟩

/-- **A record is taken as a whole or not at all:** with success its lines are added, and with a
failure none of them. -/
theorem moved_of_process {x : Outcome Unit × Sink} (h : Runs (s.process r) u x) :
    (∃ lines, recordLines s.settings r = .ok lines ∧ x.1 = .ok () ∧ Moved s lines u x) ∨
      (∃ e, x.1 = .error e) ∧ Moved s [] u x := by
  unfold process at h
  obtain ⟨v, w, ⟨result, s'⟩, rfl, hflush, hlast⟩ := runs_bind_iff.1 h
  obtain ⟨hmoved, -⟩ := moved_of_flushFull hflush
  cases result with
  | error e =>
      obtain ⟨rfl, rfl⟩ := runs_done_iff.1 hlast
      rw [List.append_nil]
      exact .inr ⟨⟨e, rfl⟩, hmoved⟩
  | ok _ =>
      -- The lines that waited could be stored if they had to be, so no write failed.
      have hnone : ¬ ∃ e ∈ v, e.FailsToStore := fun hfails => by
        obtain ⟨⟨e, he⟩, -⟩ := hmoved.failed hfails
        cases he
      have hsettings : s'.settings = s.settings := hmoved.settings
      cases hlines : recordLines s.settings r with
      | error e =>
          rw [← hsettings] at hlines
          simp only [hlines] at hlast
          obtain ⟨rfl, rfl⟩ := runs_done_iff.1 hlast
          rw [List.append_nil]
          exact .inr ⟨⟨_, rfl⟩, hmoved.settings, hmoved.lines, fun hfails => absurd hfails hnone⟩
      | ok lines =>
          rw [← hsettings] at hlines
          simp only [hlines] at hlast
          obtain ⟨rfl, rfl⟩ := runs_done_iff.1 hlast
          rw [List.append_nil]
          refine .inl ⟨lines, rfl, rfl, hmoved.settings, ?_, fun hfails => absurd hfails hnone⟩
          rw [← List.append_assoc, hmoved.lines, List.append_nil]

/-! ## Records that are spoiled -/

/-- **A record that has no lines:** it cannot be read, or one of its lines is refused. -/
def Spoiled (S : DatabaseSettings) (r : Incoming) : Prop :=
  ∀ payload, r.text = .ok payload →
    match S.protocol with
    | .line => ∃ l ∈ textLines payload, ∃ e, pointLine S.precision l = .error e
    | .telnet => ∃ l ∈ textLines payload, ∃ e, telnetLine l = .error e
    | .json => ∃ e, documentLine payload = .error e

/-- **One line that is refused** is enough to refuse all of them. -/
theorem eachLine_error_iff {handle : List Char → Outcome String} {ls : List (List Char)} :
    (∃ e, eachLine handle ls = .error e) ↔ ∃ l ∈ ls, ∃ e, handle l = .error e := by
  induction ls with
  | nil => simp [eachLine]
  | cons l rest ih =>
      simp only [List.mem_cons, exists_eq_or_imp]
      rw [← ih, eachLine]
      cases handle l with
      | error e => simp [bind, Except.bind]
      | ok line => cases eachLine handle rest <;> simp [bind, Except.bind]

/-- **A record is refused just when it is spoiled.** -/
theorem recordLines_error_iff : (∃ e, recordLines S r = .error e) ↔ Spoiled S r := by
  unfold recordLines Spoiled lines
  cases htext : r.text with
  | error e => simp [bind, Except.bind]
  | ok payload =>
      simp only [bind, Except.bind, Except.ok.injEq, forall_eq']
      cases S.protocol with
      | line => exact eachLine_error_iff
      | telnet => exact eachLine_error_iff
      | json => cases documentLine payload <;> simp [Except.map]

/-! ## One call after another -/

/-- **What is asked of a sink** once it is prepared, until it is stopped. -/
inductive Call where
  | process (r : Incoming)
  | flush

/-- Carry out a call. -/
def take (s : Sink) : Call → Dialogue Link (Outcome Unit × Sink)
  | .process r => s.process r
  | .flush => s.flush

/-- The lines that a call may add. -/
def Call.lines (S : DatabaseSettings) : Call → List String
  | .process r => validLines S r
  | .flush => []

/-- **What every call asks:** to write the lines that wait, if any do, besides upkeep. -/
theorem asks_take {P : LinkCall → Prop} (hupkeep : ∀ c, s.cache = some c → ∀ q, c.Upkeep q → P q)
    (hwrite : s.buffer ≠ [] → ∀ session,
      P (.database (.write session s.buffer s.settings.protocol s.settings.precision)))
    (call : Call) :
    (s.take call).Asks (I := Link) P (fun x => Continues s (call.lines s.settings) x.2) := by
  cases call with
  | process r => exact asks_process hupkeep hwrite r
  | flush => exact asks_flush hupkeep hwrite

/-- The record that a call took, if it succeeded. -/
def taken? : Call × Outcome Unit → Option Incoming
  | (.process r, .ok ()) => some r
  | _ => none

/-- **The records that were taken,** in their order. -/
def taken (calls : List (Call × Outcome Unit)) : List Incoming := calls.filterMap taken?

/-- A call that fails takes no record. -/
@[simp] theorem taken?_error (call : Call) (e : Error) : taken? (call, .error e) = none := by
  cases call <;> rfl

/-- One call more takes its record, if it succeeds. -/
theorem taken_append_singleton (calls : List (Call × Outcome Unit)) (x : Call × Outcome Unit) :
    taken (calls ++ [x]) = taken calls ++ (taken? x).toList := by
  unfold taken
  rw [List.filterMap_append]
  cases h : taken? x <;> simp [h]

/-- **What every call does to lines:** it adds those of its record, if it took one. -/
theorem moved_of_take {call : Call} {x : Outcome Unit × Sink} (h : Runs (s.take call) u x) :
    (∀ r, taken? (call, x.1) = some r → ∃ lines, recordLines s.settings r = .ok lines) ∧
      Moved s ((taken? (call, x.1)).toList.flatMap (validLines s.settings)) u x := by
  cases call with
  | flush =>
      refine ⟨?_, (moved_of_flush h).1⟩
      rintro r ⟨⟩
  | process r =>
      rcases moved_of_process h with ⟨lines, hlines, hok, hmoved⟩ | ⟨⟨e, he⟩, hmoved⟩
      · rw [hok]
        refine ⟨?_, ?_⟩
        · rintro _ ⟨⟩
          exact ⟨lines, hlines⟩
        · simpa [taken?, validLines, hlines] using hmoved
      · rw [he]
        refine ⟨?_, hmoved⟩
        rintro r ⟨⟩

/-- **The books of a sink,** going by which calls succeeded: every record that was taken has lines,
and these were stored or wait. -/
structure Kept (S : DatabaseSettings) (t : List (Exchange Link)) (calls : List (Call × Outcome Unit))
    (s : Sink) : Prop where
  settings : s.settings = S
  sound : ∀ r ∈ taken calls, ∃ lines, recordLines S r = .ok lines
  lines : stored t ++ s.buffer = (taken calls).flatMap (validLines S)

/-- **Every call keeps the books.** -/
theorem Kept.of_take {calls : List (Call × Outcome Unit)} {call : Call} {x : Outcome Unit × Sink}
    (h : Kept S t calls s) (hrun : Runs (s.take call) u x) :
    Kept S (t ++ u) (calls ++ [(call, x.1)]) x.2 := by
  obtain ⟨hsound, hmoved⟩ := moved_of_take hrun
  rw [h.settings] at hsound hmoved
  refine ⟨hmoved.settings.trans h.settings, ?_, ?_⟩
  · rw [taken_append_singleton]
    intro r hr
    rcases List.mem_append.1 hr with hr | hr
    · exact h.sound r hr
    · exact hsound r (Option.mem_toList.1 hr)
  · rw [taken_append_singleton, stored_append, List.append_assoc, hmoved.lines, ← List.append_assoc,
      h.lines, List.flatMap_append]

/-- **The lines that a sink has taken are stored or wait,** each once and in order. After any calls of
a prepared sink, whatever fails on the way, the lines that were stored, with those that wait after
them, are the lines of the records that were taken. In whatever is asked next, a call that fails adds
no line, a record that is spoiled is not taken, and a write that fails leaves the buffer as it was. -/
theorem stored_append_buffer (S : DatabaseSettings) (pipeline : PipelineSettings)
    {t₀ t : List (Exchange Link)} {s₀ s : Sink} (calls : List Call)
    {done : List (Call × Outcome Unit)}
    (hprepare : Runs (({ settings := S } : Sink).prepare pipeline) t₀ (.ok (), s₀))
    (hcalls : Runs (turns take s₀ calls) t (done, s)) :
    stored (t₀ ++ t) ++ s.buffer = (taken done).flatMap (validLines S) ∧
    (∀ r ∈ taken done, ∃ lines, recordLines S r = .ok lines) ∧
    ∀ call u x, Runs (s.take call) u x →
      ((∃ e, x.1 = .error e) → stored u ++ x.2.buffer = s.buffer) ∧
      (∀ r, call = .process r → Spoiled S r → ∃ e, x.1 = .error e) ∧
      ((∃ e ∈ u, e.FailsToStore) → (∃ e, x.1 = .error e) ∧ x.2.buffer = s.buffer) := by
  obtain ⟨hstored, hsettings, hbuffer⟩ := stored_of_prepare hprepare
  have hkept : Kept S (t₀ ++ t) done s := by
    have hnew : Kept S t₀ [] s₀ := by
      refine ⟨hsettings, by simp [taken], ?_⟩
      rw [hstored, hbuffer]
      rfl
    exact Runs.turns_induction (Kept S) (fun h hrun => h.of_take hrun) hnew hcalls
  refine ⟨hkept.lines, hkept.sound, ?_⟩
  intro call u x hrun
  obtain ⟨hsound, hmoved⟩ := moved_of_take hrun
  rw [hkept.settings] at hsound
  refine ⟨?_, ?_, hmoved.failed⟩
  · rintro ⟨e, he⟩
    rw [hmoved.lines, he, taken?_error]
    exact List.append_nil _
  · rintro r rfl hspoiled
    cases hx : x.1 with
    | error e => exact ⟨e, rfl⟩
    | ok _ =>
        obtain ⟨lines, hlines⟩ := hsound r (by rw [hx]; rfl)
        obtain ⟨e, he⟩ := recordLines_error_iff.2 hspoiled
        cases hlines.symm.trans he

/-- A sink of batches of one line, prepared by a database that is about to fail to store lines. -/
def prepared : List (Exchange Link) × Outcome Unit × Sink :=
  (({ settings := Delivery.telnetSettings } : Sink).prepare Delivery.single.settings).courseWith
    (Cache.answerFailing [4]) 0

/-- A record, another one that cannot be taken since the first cannot be stored, one that is spoiled,
and the other one again. -/
def hesitant : List Call :=
  [.process (Delivery.textRecord 0 "a 1 2 k=v"), .process (Delivery.textRecord 1 "b 1 2 k=v"),
    .process (Delivery.textRecord 2 "c"), .process (Delivery.textRecord 1 "b 1 2 k=v")]

/-- The course that these calls take. -/
def hesitantRun : List (Exchange Link) × List (Call × Outcome Unit) × Sink :=
  (turns take prepared.2.2 hesitant).courseWith (Cache.answerFailing [4]) 3

/-- One line is stored and one waits, of the two records that were taken. -/
theorem stored_append_buffer_hesitant :
    stored (prepared.1 ++ hesitantRun.1) ++ hesitantRun.2.2.buffer =
      (taken hesitantRun.2.1).flatMap (validLines Delivery.telnetSettings) ∧
    stored (prepared.1 ++ hesitantRun.1) = ["a 1 2 k=v"] ∧
    hesitantRun.2.2.buffer = ["b 1 2 k=v"] ∧ (taken hesitantRun.2.1).length = 2 := by
  have hok : prepared.2.1 = .ok () := eq_ok_of_toBool (by decide +kernel)
  have hprepare : Runs (({ settings := Delivery.telnetSettings } : Sink).prepare
      Delivery.single.settings) prepared.1 (.ok (), prepared.2.2) := by
    have h := runs_courseWith (I := Link) (Cache.answerFailing [4])
      (({ settings := Delivery.telnetSettings } : Sink).prepare Delivery.single.settings) 0
    rw [← hok]
    exact h
  have hcalls : Runs (turns take prepared.2.2 hesitant) hesitantRun.1
      (hesitantRun.2.1, hesitantRun.2.2) :=
    runs_courseWith (I := Link) (Cache.answerFailing [4]) _ 3
  obtain ⟨hlines, -, -⟩ := stored_append_buffer _ _ _ hprepare hcalls
  exact ⟨hlines, by decide +kernel, by decide +kernel, by decide +kernel⟩

end Sink

end SeriesBridge
