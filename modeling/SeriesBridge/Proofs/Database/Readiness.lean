import SeriesBridge.Database.Cache
import SeriesBridge.Dialogue.Course

/-! # Sessions that are fit for use

Before a cache uses a session it tries the one that is held, and opens another in its place when that does
not answer. This file says what a course of that may look like, one relation for each part, and in which
state it leaves the cache.

* **`Cache.GivesUp c s`** — a course after which no session is held, since none was or the probe failed.
* **`Cache.Applies c session w`** — a course that applies the database that is remembered.
* **`Cache.Opens c u r c'`** — a course that opens a session and sets it up.
* **`Cache.Ready c u session c'`**, **`Cache.Unready c u e c'`** — a course after which a session is fit for
  use, and one after which there is none.
* **`Cache.runs_validated_ok_iff`**, **`Cache.runs_validated_error_iff`** — having a session takes one of
  these courses. -/

namespace SeriesBridge

open Dialogue

namespace Cache

variable {c c' : Cache} {s t u w : List (Exchange Link)} {session : Nat} {e : Error} {r : Outcome Unit}

/-! ## What becomes of the session -/

/-- A cache that has closed its session. -/
def vacated (c : Cache) : Cache := { c with held := none, state := .disconnected }

/-- A cache that could not open a session, after so many that it has opened. -/
def failed (c : Cache) (opened : Nat) : Cache := { c with held := none, state := .failed, opened := opened }

/-- A cache that has opened the next session. -/
def renewed (c : Cache) : Cache :=
  { c with held := some c.opened, state := .connected, opened := c.opened + 1 }

/-- **No session is held any more:** none was, or the one that was did not answer the probe and is closed,
whatever comes of that. -/
inductive GivesUp (c : Cache) : List (Exchange Link) → Prop where
  | nothing (held : c.held = none) : GivesUp c []
  | lost {session : Nat} (held : c.held = some session) (failure : Error) (closed : Outcome Unit) :
      GivesUp c [⟨.database (.query session probe), .error failure⟩,
        ⟨.database (.close session), closed⟩]

/-- **The database that is remembered, if any, is applied to a session:** it is created unless it exists,
and selected. -/
inductive Applies (c : Cache) (session : Nat) : List (Exchange Link) → Prop where
  | nothing (database : c.database = none) : Applies c session []
  | selected {name : String} (database : c.database = some name) (created : Bool) :
      Applies c session [⟨.database (.execute session (creation name c.precision)), .ok created⟩,
        ⟨.database (.select session name), .ok ()⟩]

/-- **A session is opened and set up.** The provider may fail to open it; and when the database cannot be
set up, the session is closed again. -/
inductive Opens (c : Cache) : List (Exchange Link) → Outcome Unit → Cache → Prop where
  | refused {o : List (Exchange Link)} {e : Error}
      (opened : Runs (c.provider.connect c.opened) o (.error e)) :
      Opens c o (.error e) (c.failed c.opened)
  | unset {o w : List (Exchange Link)} {name : String} {e : Error}
      (opened : Runs (c.provider.connect c.opened) o (.ok ())) (database : c.database = some name)
      (failed : Runs (setUp c.opened name c.precision) w (.error e)) (closed : Outcome Unit) :
      Opens c (o ++ (w ++ [⟨.database (.close c.opened), closed⟩])) (.error e) (c.failed (c.opened + 1))
  | applied {o w n : List (Exchange Link)}
      (opened : Runs (c.provider.connect c.opened) o (.ok ())) (applied : Applies c c.opened w)
      (noted : Runs (c.noteReplaced c.held.isSome) n ()) : Opens c (o ++ (w ++ n)) (.ok ()) c.renewed

/-- **A session is fit for use:** the one that is held has just answered the probe, or a new one was opened
and set up in its place. -/
inductive Ready (c : Cache) : List (Exchange Link) → Nat → Cache → Prop where
  | probed {session : Nat} (held : c.held = some session) (found : QueryResult) :
      Ready c [⟨.database (.query session probe), .ok found⟩] session c
  | renewed {s u : List (Exchange Link)} {c' : Cache} (lost : GivesUp c s) (opens : Opens c u (.ok ()) c') :
      Ready c (s ++ u) c.opened c'

/-- **No session is fit for use:** the one that was held is given up, and no other could be opened and set
up. -/
inductive Unready (c : Cache) : List (Exchange Link) → Error → Cache → Prop where
  | unopened {s u : List (Exchange Link)} {e : Error} {c' : Cache} (lost : GivesUp c s)
      (opens : Opens c u (.error e) c') : Unready c (s ++ u) e c'

/-! ## The parts of a course -/

/-- Closing a cache is to close the session that is held. -/
theorem runs_close_iff : Runs c.close s c' ↔ c' = c.vacated ∧
    (c.held = none ∧ s = [] ∨ ∃ session closed, c.held = some session ∧
      s = [⟨.database (.close session), closed⟩]) := by
  unfold close
  cases hheld : c.held with
  | none =>
      have hvacated : { c with held := none, state := .disconnected } = c.vacated := rfl
      rw [hvacated]
      constructor
      · intro h
        obtain ⟨rfl, rfl⟩ := runs_done_iff.1 h
        exact ⟨rfl, .inl ⟨rfl, rfl⟩⟩
      · rintro ⟨rfl, ⟨-, rfl⟩ | ⟨_, _, hsome, -⟩⟩
        · exact .done _
        · cases hsome
  | some session =>
      constructor
      · intro h
        obtain ⟨closed, u, rfl, hu⟩ := runs_more_iff.1 h
        obtain ⟨rfl, rfl⟩ := runs_done_iff.1 hu
        exact ⟨rfl, .inr ⟨session, closed, rfl, rfl⟩⟩
      · rintro ⟨rfl, ⟨hnone, -⟩ | ⟨_, closed, hsome, rfl⟩⟩
        · cases hnone
        · cases hsome
          exact runs_more_iff.2 ⟨closed, [], rfl, .done _⟩

/-- The probe is a query on the session that is held, and it is answered when the query succeeds. -/
theorem runs_answersProbe_iff {answers : Bool} : Runs c.answersProbe s answers ↔
    c.held = none ∧ s = [] ∧ answers = false ∨ ∃ session found, c.held = some session ∧
      s = [⟨.database (.query session probe), found⟩] ∧ answers = Except.toBool found := by
  unfold answersProbe
  cases hheld : c.held with
  | none => simp [eq_comm]
  | some session =>
      constructor
      · intro h
        obtain ⟨found, u, rfl, hu⟩ := runs_more_iff.1 h
        refine .inr ⟨session, found, rfl, ?_⟩
        rcases found with e | _
        · obtain ⟨rfl, rfl⟩ := runs_done_iff.1 hu
          exact ⟨rfl, rfl⟩
        · obtain ⟨rfl, rfl⟩ := runs_done_iff.1 hu
          exact ⟨rfl, rfl⟩
      · rintro (⟨hnone, -, -⟩ | ⟨_, found, hsome, rfl, rfl⟩)
        · cases hnone
        · cases hsome
          refine runs_more_iff.2 ⟨found, [], rfl, ?_⟩
          rcases found with e | _ <;> exact .done _

/-- **Giving a session up** is to find that it does not answer the probe, and to close it. -/
theorem givesUp_iff : GivesUp c t ↔ ∃ s u, t = s ++ u ∧ Runs c.answersProbe s false ∧
    Runs c.close u c.vacated := by
  constructor
  · rintro (held | ⟨held, failure, closed⟩)
    · exact ⟨[], [], rfl, runs_answersProbe_iff.2 (.inl ⟨held, rfl, rfl⟩),
        runs_close_iff.2 ⟨rfl, .inl ⟨held, rfl⟩⟩⟩
    · exact ⟨[_], [_], rfl, runs_answersProbe_iff.2 (.inr ⟨_, .error failure, held, rfl, rfl⟩),
        runs_close_iff.2 ⟨rfl, .inr ⟨_, closed, held, rfl⟩⟩⟩
  · rintro ⟨s, u, rfl, hs, hu⟩
    obtain ⟨-, hu⟩ := runs_close_iff.1 hu
    -- Both parts are about what is held.
    obtain ⟨held, rfl, -⟩ | ⟨session, found, held, rfl, hfound⟩ := runs_answersProbe_iff.1 hs
    · obtain ⟨-, rfl⟩ | ⟨session, closed, held', rfl⟩ := hu
      · exact .nothing held
      · cases held.symm.trans held'
    · obtain ⟨held', rfl⟩ | ⟨_, closed, held', rfl⟩ := hu
      · cases held.symm.trans held'
      · cases held.symm.trans held'
        rcases found with failure | _
        · exact .lost held failure closed
        · cases hfound

/-- A database is set up by two statements that succeed. -/
theorem runs_setUp_ok_iff {name : String} {precision : Precision} :
    Runs (setUp session name precision) w (.ok ()) ↔ ∃ created,
      w = [⟨.database (.execute session (creation name precision)), .ok created⟩,
        ⟨.database (.select session name), .ok ()⟩] := by
  unfold setUp
  constructor
  · intro h
    obtain ⟨created, u, rfl, hu⟩ := runs_more_iff.1 h
    rcases created with e | created
    · cases (runs_done_iff.1 hu).2
    · obtain ⟨selected, v, rfl, hv⟩ := runs_more_iff.1 hu
      rcases selected with e | _
      · cases (runs_done_iff.1 hv).2
      · obtain ⟨rfl, -⟩ := runs_done_iff.1 hv
        exact ⟨created, rfl⟩
  · rintro ⟨created, rfl⟩
    refine runs_more_iff.2 ⟨.ok created, [_], rfl, ?_⟩
    exact runs_more_iff.2 ⟨.ok (), [], rfl, .done _⟩

/-- The database that is remembered is set up on a session, if there is one. -/
def applyDatabase (c : Cache) (session : Nat) : Dialogue Link (Outcome Unit) :=
  match c.database with
  | some name => setUp session name c.precision
  | none => pure (.ok ())

/-- The database is applied when it is set up, or none is remembered. -/
theorem runs_applyDatabase_ok_iff : Runs (c.applyDatabase session) w (.ok ()) ↔ Applies c session w := by
  unfold applyDatabase
  constructor
  · intro h
    cases hname : c.database with
    | none =>
        rw [hname] at h
        obtain ⟨rfl, -⟩ := runs_done_iff.1 h
        exact .nothing hname
    | some name =>
        rw [hname] at h
        obtain ⟨created, rfl⟩ := runs_setUp_ok_iff.1 h
        exact .selected hname created
  · rintro (database | ⟨database, created⟩)
    · rw [database]
      exact .done _
    · rw [database]
      exact runs_setUp_ok_iff.2 ⟨created, rfl⟩

/-- It cannot be applied when it cannot be set up. -/
theorem runs_applyDatabase_error_iff : Runs (c.applyDatabase session) w (.error e) ↔
    ∃ name, c.database = some name ∧ Runs (setUp session name c.precision) w (.error e) := by
  unfold applyDatabase
  cases c.database with
  | none => simp
  | some name => simp

/-- Opening a session in the place of the old one begins with closing that. -/
theorem opens_of_runs_reconnect (h : Runs c.reconnect t (r, c')) :
    ∃ s u, t = s ++ u ∧ Runs c.close s c.vacated ∧ Opens c u r c' := by
  unfold reconnect at h
  obtain ⟨s, u, c₁, rfl, hs, h⟩ := runs_bind_iff.1 h
  obtain rfl := (runs_close_iff.1 hs).1
  refine ⟨s, u, rfl, hs, ?_⟩
  obtain ⟨o, v, connected, rfl, ho, h⟩ := runs_bind_iff.1 h
  rcases connected with e | _
  · obtain ⟨rfl, hr⟩ := runs_done_iff.1 h
    cases hr
    rw [List.append_nil]
    exact .refused ho
  · obtain ⟨w, n, applied, rfl, hw, h⟩ := runs_bind_iff.1 h
    -- Neither the database nor the unit was lost with the session.
    change Runs (c.applyDatabase c.opened) w applied at hw
    rcases applied with e | _
    · obtain ⟨name, hname, hw⟩ := runs_applyDatabase_error_iff.1 hw
      obtain ⟨closed, hn, hr⟩ := runs_bind_done_iff.1 h
      cases hr
      rw [runs_ask_iff.1 hn]
      exact .unset (c := c) ho hname hw closed
    · obtain ⟨_, hn, hr⟩ := runs_bind_done_iff.1 h
      cases hr
      exact .applied ho (runs_applyDatabase_ok_iff.1 hw) hn

/-- A session is opened in the place of one that is closed. -/
theorem Opens.runs_reconnect (h : Opens c u r c') (hs : Runs c.close s c.vacated) :
    Runs c.reconnect (s ++ u) (r, c') := by
  refine runs_bind_iff.2 ⟨s, u, _, rfl, hs, ?_⟩
  cases h with
  | refused opened =>
      exact runs_bind_iff.2 ⟨_, [], _, (List.append_nil _).symm, opened, .done _⟩
  | unset opened database failed closed =>
      have hw := runs_applyDatabase_error_iff.2 ⟨_, database, failed⟩
      refine runs_bind_iff.2 ⟨_, _, _, rfl, opened, runs_bind_iff.2 ⟨_, _, _, rfl, hw, ?_⟩⟩
      exact runs_bind_done_iff.2 ⟨closed, runs_ask_iff.2 rfl, rfl⟩
  | applied opened applied noted =>
      have hw := runs_applyDatabase_ok_iff.2 applied
      refine runs_bind_iff.2 ⟨_, _, _, rfl, opened, runs_bind_iff.2 ⟨_, _, _, rfl, hw, ?_⟩⟩
      exact runs_bind_done_iff.2 ⟨(), noted, rfl⟩

/-- A session that was opened is held. -/
theorem Opens.eq_renewed (h : Opens c u (.ok ()) c') : c' = c.renewed := by
  cases h with
  | applied => rfl

/-! ## Having a session -/

/-- Having a session is to have the one that answers the probe, or to open one. -/
theorem runs_validated_iff {x : Outcome Nat} : Runs c.validated t (x, c') ↔
    (∃ session, c.held = some session ∧ Runs c.answersProbe t true ∧ x = .ok session ∧ c' = c) ∨
    ∃ s u r, t = s ++ u ∧ GivesUp c s ∧ Opens c u r c' ∧ x = r.map fun _ => c.opened := by
  constructor
  · intro h
    unfold validated at h
    obtain ⟨p, v, answers, rfl, hp, hv⟩ := runs_bind_iff.1 h
    cases answers with
    | true =>
        obtain ⟨-, -, ⟨⟩⟩ | ⟨session, _, held, -⟩ := runs_answersProbe_iff.1 hp
        simp only [if_true, pure_eq_done, done_bind, held] at hv
        obtain ⟨rfl, hx⟩ := runs_done_iff.1 hv
        cases hx
        rw [List.append_nil]
        exact .inl ⟨session, held, hp, rfl, rfl⟩
    | false =>
        simp only [Bool.false_eq_true, if_false] at hv
        obtain ⟨q, w, ⟨r, c₁⟩, rfl, hq, hw⟩ := runs_bind_iff.1 hv
        obtain ⟨s, u, rfl, hs, hu⟩ := opens_of_runs_reconnect hq
        have lost := givesUp_iff.2 ⟨p, s, rfl, hp, hs⟩
        rcases r with e | _
        · obtain ⟨rfl, hx⟩ := runs_done_iff.1 hw
          cases hx
          exact .inr ⟨_, u, _, by simp, lost, hu, rfl⟩
        · obtain rfl := hu.eq_renewed
          obtain ⟨rfl, hx⟩ := runs_done_iff.1 hw
          cases hx
          exact .inr ⟨_, u, _, by simp, lost, hu, rfl⟩
  · rintro (⟨session, held, hp, rfl, rfl⟩ | ⟨_, u, r, rfl, lost, opens, rfl⟩)
    · refine runs_bind_iff.2 ⟨t, [], true, (List.append_nil t).symm, hp, ?_⟩
      simp only [if_true, pure_eq_done, done_bind, held]
      exact .done _
    · obtain ⟨p, s, rfl, hp, hs⟩ := givesUp_iff.1 lost
      refine runs_bind_iff.2 ⟨p, s ++ u, false, List.append_assoc p s u, hp, ?_⟩
      refine runs_bind_iff.2 ⟨s ++ u, [], _, (List.append_nil _).symm, opens.runs_reconnect hs, ?_⟩
      rcases r with e | _
      · exact .done _
      · -- The session that was opened is held, so there is one to hand on.
        rw [opens.eq_renewed]
        exact .done _

/-- **A session is had** when one is fit for use. -/
theorem runs_validated_ok_iff : Runs c.validated t (.ok session, c') ↔ Ready c t session c' := by
  rw [runs_validated_iff]
  constructor
  · rintro (⟨_, held, hprobe, hx, rfl⟩ | ⟨s, u, r, rfl, lost, opens, hx⟩)
    · cases hx
      obtain ⟨-, -, ⟨⟩⟩ | ⟨_, found, held', rfl, hfound⟩ := runs_answersProbe_iff.1 hprobe
      cases held.symm.trans held'
      rcases found with _ | found
      · cases hfound
      · exact .probed held found
    · rcases r with e | _
      · cases hx
      · cases hx
        exact .renewed lost opens
  · rintro (⟨held, found⟩ | ⟨lost, opens⟩)
    · exact .inl ⟨_, held, runs_answersProbe_iff.2 (.inr ⟨_, .ok found, held, rfl, rfl⟩), rfl, rfl⟩
    · exact .inr ⟨_, _, _, rfl, lost, opens, rfl⟩

/-- **No session is had** when none is fit for use. -/
theorem runs_validated_error_iff : Runs c.validated t (.error e, c') ↔ Unready c t e c' := by
  rw [runs_validated_iff]
  constructor
  · rintro (⟨_, -, -, hx, -⟩ | ⟨s, u, r, rfl, lost, opens, hx⟩)
    · cases hx
    · rcases r with e | _
      · cases hx
        exact .unopened lost opens
      · cases hx
  · rintro ⟨lost, opens⟩
    exact .inr ⟨_, _, _, rfl, lost, opens, rfl⟩

end Cache

end SeriesBridge
