import SeriesBridge.Database.Cache
import SeriesBridge.Proofs.Dialogue.Asks

/-! # How a cache comes by a session

* **`Cache.Upkeep c q`** — the calls that a cache makes to have a session; none of them is made for
  whoever asked for it.
* **`Cache.Alike c c'`** — two caches that remember the same, whatever sessions they hold.
* **`Cache.asks_validated`** — having a session takes upkeep alone, and what is remembered stays.
* **`Cache.use_cases`** — the courses of a call on a session. -/

namespace SeriesBridge

open Dialogue

namespace Cache

/-! ## What is asked -/

/-- **The calls that a cache makes to have a session.** Of statements there are two: the probe, and
the creation of the database that is remembered. -/
inductive Upkeep (c : Cache) : LinkCall → Prop where
  | connect (session : Nat) :
      Upkeep c (.database (.connect session c.provider.endpoint c.provider.credentials))
  | probe (session : Nat) : Upkeep c (.database (.query session probe))
  | create (session : Nat) {name : String} (remembered : c.database = some name) :
      Upkeep c (.database (.execute session (creation name c.precision)))
  | select (session : Nat) {name : String} (remembered : c.database = some name) :
      Upkeep c (.database (.select session name))
  | close (session : Nat) : Upkeep c (.database (.close session))
  | pause (millis : Nat) : Upkeep c (.pause millis)
  | note (reading : Reading) : Upkeep c (.note reading)

/-- **Two caches that remember the same.** They may hold different sessions. -/
structure Alike (c c' : Cache) : Prop where
  provider : c'.provider = c.provider
  precision : c'.precision = c.precision
  meter : c'.meter = c.meter
  database : c'.database = c.database

variable {c c' : Cache} {P : LinkCall → Prop}

/-- A cache remembers what it remembers. -/
@[simp] theorem Alike.refl (c : Cache) : Alike c c := ⟨rfl, rfl, rfl, rfl⟩

/-- Opening a session takes attempts and waits. -/
theorem asks_connectFrom (p : Provider) (session attempt left : Nat)
    (hconnect : P (.database (.connect session p.endpoint p.credentials)))
    (hpause : ∀ millis, P (.pause millis)) :
    (p.connectFrom session attempt left).Asks (I := Link) P (fun _ => True) := by
  induction left generalizing attempt with
  | zero =>
      refine asks_bind.2 (asks_ask.2 ⟨hconnect, ?_⟩)
      rintro (e | _) <;> exact asks_done.2 trivial
  | succ left ih =>
      refine asks_bind.2 (asks_ask.2 ⟨hconnect, ?_⟩)
      rintro (e | _)
      · by_cases he : e.isRetryable
        · simp only [if_pos he]
          exact asks_bind.2 (asks_ask.2 ⟨hpause _, fun _ => ih (attempt + 1)⟩)
        · simp only [if_neg he]
          exact asks_done.2 trivial
      · exact asks_done.2 trivial

/-- Setting up a database takes two statements. -/
theorem asks_setUp (session : Nat) (name : String) (precision : Precision)
    (hcreate : P (.database (.execute session (creation name precision))))
    (hselect : P (.database (.select session name))) :
    (setUp session name precision).Asks (I := Link) P (fun _ => True) := by
  refine asks_bind.2 (asks_ask.2 ⟨hcreate, ?_⟩)
  rintro (e | _)
  · exact asks_done.2 trivial
  · refine asks_bind.2 (asks_ask.2 ⟨hselect, ?_⟩)
    rintro (e | _) <;> exact asks_done.2 trivial

/-- **Giving a session up** takes closing it, and forgets nothing else. -/
theorem asks_close (c : Cache) (hclose : ∀ session, P (.database (.close session))) :
    c.close.Asks (I := Link) P (fun c' => c' = { c with held := none, state := .disconnected }) := by
  unfold close
  cases hheld : c.held with
  | none =>
      refine asks_done.2 ?_
      rw [← hheld]
  | some session => exact asks_bind.2 (asks_ask.2 ⟨hclose session, fun _ => asks_done.2 rfl⟩)

/-- Telling that a session was replaced takes a reading, or nothing. -/
theorem asks_noteReplaced (c : Cache) (replacing : Bool) (hnote : ∀ reading, P (.note reading)) :
    (c.noteReplaced replacing).Asks (I := Link) P (fun _ => True) := by
  unfold noteReplaced
  cases c.meter with
  | none => exact asks_done.2 trivial
  | some meter =>
      cases replacing with
      | false => exact asks_done.2 trivial
      | true => exact asks_ask.2 ⟨hnote _, fun _ => trivial⟩

/-- The probe is one query, or none while no session is held. -/
theorem asks_answersProbe (c : Cache)
    (hprobe : ∀ session, P (.database (.query session probe))) :
    c.answersProbe.Asks (I := Link) P (fun _ => True) := by
  unfold answersProbe
  cases c.held with
  | none => exact asks_done.2 trivial
  | some session =>
      refine asks_bind.2 (asks_ask.2 ⟨hprobe session, ?_⟩)
      rintro (e | _) <;> exact asks_done.2 trivial

/-- **A session in the place of the old one** takes upkeep alone. -/
theorem asks_reconnect (c : Cache) :
    c.reconnect.Asks (I := Link) c.Upkeep (fun x => Alike c x.2) := by
  unfold reconnect
  refine (c.asks_close (.close ·)).bind ?_
  rintro _ rfl
  refine (asks_connectFrom c.provider c.opened 1 _ (.connect _) .pause).bind ?_
  rintro (e | _) -
  · exact asks_done.2 ⟨rfl, rfl, rfl, rfl⟩
  refine Asks.bind (m := fun _ => True) ?_ ?_
  · dsimp only
    cases hname : c.database with
    | none => exact asks_done.2 trivial
    | some name => exact asks_setUp c.opened name c.precision (.create _ hname) (.select _ hname)
  rintro (e | _) -
  · exact asks_bind.2 (asks_ask.2 ⟨.close _, fun _ => asks_done.2 ⟨rfl, rfl, rfl, rfl⟩⟩)
  · exact (asks_noteReplaced _ _ .note).bind (fun _ _ => asks_done.2 ⟨rfl, rfl, rfl, rfl⟩)

/-- **Having a session takes upkeep alone,** and what is remembered stays. -/
theorem asks_validated (c : Cache) :
    c.validated.Asks (I := Link) c.Upkeep (fun x => Alike c x.2) := by
  unfold validated
  refine (c.asks_answersProbe (.probe ·)).bind ?_
  rintro answers -
  have hready : (if answers = true then pure (.ok (), c) else c.reconnect).Asks (I := Link) c.Upkeep
      (fun x => Alike c x.2) := by
    cases answers with
    | true => exact asks_done.2 (.refl c)
    | false => exact c.asks_reconnect
  -- Either way the session is handed on, if there is one.
  cases answers
  all_goals
    refine hready.bind ?_
    rintro ⟨e | _, c'⟩ hc'
    · exact asks_done.2 hc'
    · dsimp only
      cases c'.held <;> exact asks_done.2 hc'

/-- **A call on a session** takes what it asks, besides upkeep. -/
theorem asks_use {α : Type} (c : Cache) (sql : String) (call : Nat → Dialogue Link (Outcome α))
    (hupkeep : ∀ q, c.Upkeep q → P q)
    (hcall : ∀ session, (call session).Asks (I := Link) P (fun _ => True)) :
    (c.use sql call).Asks (I := Link) P (fun x => Alike c x.2) := by
  unfold use
  refine (c.asks_validated.mono hupkeep (fun _ hx => hx)).bind ?_
  rintro ⟨e | session, c'⟩ hc'
  · exact asks_done.2 hc'
  · refine (hcall session).bind ?_
    rintro (e | a) - <;> exact asks_done.2 hc'

/-- **Working on a database** takes setting it up, besides upkeep. It is remembered if that
succeeds. -/
theorem asks_setDatabase (c : Cache) (name : String) (hupkeep : ∀ q, c.Upkeep q → P q)
    (hcreate : checkIdentifier name = .ok () → ∀ session,
      P (.database (.execute session (creation name c.precision))))
    (hselect : checkIdentifier name = .ok () → ∀ session, P (.database (.select session name))) :
    (c.setDatabase name).Asks (I := Link) P (fun x =>
      (x.1 = .ok () → Alike { c with database := some name } x.2) ∧
      (∀ e, x.1 = .error e → Alike c x.2)) := by
  unfold setDatabase
  cases hname : checkIdentifier name with
  | error e => exact asks_done.2 ⟨by simp, fun _ _ => .refl c⟩
  | ok _ =>
      refine (c.asks_validated.mono hupkeep (fun _ hx => hx)).bind ?_
      rintro ⟨e | session, c'⟩ hc'
      · exact asks_done.2 ⟨by simp, fun _ _ => hc'⟩
      · have hprecision : c'.precision = c.precision := hc'.precision
        refine (asks_setUp session name c'.precision (hprecision ▸ hcreate hname session)
          (hselect hname session)).bind ?_
        rintro (e | _) -
        · exact asks_done.2 ⟨by simp, fun _ _ => hc'⟩
        · exact asks_done.2 ⟨fun _ => ⟨hc'.provider, hc'.precision, hc'.meter, rfl⟩, by simp⟩

/-! ## Courses -/

variable {t : List (Exchange Link)}

/-- **A call on a session** is not made without one, and is made once, at the end, with one. -/
theorem use_cases {α : Type} {sql : String} {call : Nat → Dialogue Link (Outcome α)}
    {x : Outcome α × Cache} (h : Runs (c.use sql call) t x) :
    (∃ e, Runs c.validated t (.error e, x.2) ∧ x.1 = .error e) ∨
    ∃ u v session answer, t = u ++ v ∧ Runs c.validated u (.ok session, x.2) ∧
      Runs (call session) v answer ∧ x.1 = answer.mapError (.statement sql) := by
  unfold use at h
  obtain ⟨u, v, ⟨session, c'⟩, rfl, hvalidated, h⟩ := runs_bind_iff.1 h
  cases session with
  | error e =>
      obtain ⟨rfl, rfl⟩ := runs_done_iff.1 h
      rw [List.append_nil]
      exact .inl ⟨e, hvalidated, rfl⟩
  | ok session =>
      obtain ⟨v', w, answer, rfl, hcall, h⟩ := runs_bind_iff.1 h
      refine .inr ⟨u, v', session, answer, ?_⟩
      cases answer with
      | error e =>
          obtain ⟨rfl, rfl⟩ := runs_done_iff.1 h
          exact ⟨by rw [List.append_nil], hvalidated, hcall, rfl⟩
      | ok a =>
          obtain ⟨rfl, rfl⟩ := runs_done_iff.1 h
          exact ⟨by rw [List.append_nil], hvalidated, hcall, rfl⟩

end Cache

end SeriesBridge
