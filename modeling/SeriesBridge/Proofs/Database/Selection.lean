import SeriesBridge.Proofs.Database.Acquisition
import SeriesBridge.Proofs.Database.Lifecycle
import SeriesBridge.Proofs.Database.Readiness
import SeriesBridge.Proofs.Dialogue.Turns

/-! # The database that a session works on

The name of a database is remembered on this side, and the database is selected on the other side,
on a session. Sessions come and go, and either side can fail halfway, yet the two agree whenever it
matters: a call is made on a session that works on the database that is remembered.

* **`Course.WorksOn t session name precision`** — the last database that was selected on a session in
  a course, after it was created there.
* **`Cache.attempt c request`** — a request, and whether it succeeded.
* **`Cache.lastSet taken`** — the database that was set last, going by which requests succeeded.
* **`Cache.Remembers t c`** — the session that is held works on the database that is remembered.
* **`Cache.worksOn_lastSet`** — after any requests, every call is made on a session that works on the
  database that was set last. -/

namespace SeriesBridge

open Dialogue

/-! ## What a course tells -/

/-- The session on which an exchange selected a database, with the database. A selection that fails
leaves the database as it was. -/
def Exchange.selected? : Exchange Link → Option (Nat × String)
  | ⟨.database (.select session name), .ok ()⟩ => some (session, name)
  | _ => none

/-- Whether a request is to select a database. -/
def LinkCall.selects : LinkCall → Bool
  | .database (.select ..) => true
  | _ => false

/-- Only a request to select a database does. -/
theorem Exchange.selected?_of_not_selects {e : Exchange Link} (h : e.request.selects = false) :
    e.selected? = none := by
  obtain ⟨request, answer⟩ := e
  cases request with
  | database call =>
      cases call with
      | select session name => cases h
      | _ => rfl
  | _ => rfl

namespace Course

/-- **A session works on a database:** of the selections on it that succeeded the last one was of this
database, and before that the database was created there unless it existed. -/
def WorksOn (t : List (Exchange Link)) (session : Nat) (name : String) (precision : Precision) :
    Prop :=
  ∃ s u v created,
    t = s ++ ⟨.database (.execute session (Cache.creation name precision)), .ok created⟩ :: u ++
        ⟨.database (.select session name), .ok ()⟩ :: v ∧
      ∀ e ∈ v, ∀ other, e.selected? ≠ some (session, other)

variable {t u : List (Exchange Link)} {session : Nat} {name : String} {precision : Precision}

/-- **A session works on** as long as nothing is selected. -/
theorem WorksOn.append (h : WorksOn t session name precision)
    (hu : ∀ e ∈ u, e.selected? = none) : WorksOn (t ++ u) session name precision := by
  obtain ⟨s, u', v, created, rfl, hv⟩ := h
  refine ⟨s, u', v ++ u, created, by simp, ?_⟩
  intro e he other
  rcases List.mem_append.1 he with he | he
  · exact hv e he other
  · rw [hu e he]
    exact nofun

/-- **After a database was set up on a session** the session works on it. -/
theorem worksOn_of_setUp (t : List (Exchange Link))
    (h : Runs (Cache.setUp session name precision) u (.ok ())) :
    WorksOn (t ++ u) session name precision := by
  obtain ⟨created, rfl⟩ := Cache.runs_setUp_ok_iff.1 h
  exact ⟨t, [], [], created, by simp, by simp⟩

/-- **A database that could not be set up** was not selected. -/
theorem selected?_of_setUp_error {e : Error}
    (h : Runs (Cache.setUp session name precision) u (.error e)) :
    ∀ x ∈ u, x.selected? = none := by
  obtain ⟨created, u₁, rfl, h₁⟩ := runs_more_iff.1 h
  cases created with
  | error e =>
      obtain ⟨rfl, -⟩ := runs_done_iff.1 h₁
      simp [Exchange.selected?]
  | ok created =>
      obtain ⟨selected, u₂, rfl, h₂⟩ := runs_more_iff.1 h₁
      cases selected with
      | error e =>
          obtain ⟨rfl, -⟩ := runs_done_iff.1 h₂
          simp [Exchange.selected?]
      | ok _ => cases (runs_done_iff.1 h₂).2

end Course

/-! ## What is remembered -/

namespace Cache

open Course

variable {t u : List (Exchange Link)} {c c' : Cache}

/-- **The session that is held works on the database that is remembered.** -/
def Remembers (t : List (Exchange Link)) (c : Cache) : Prop :=
  ∀ session name, c.held = some session → c.database = some name →
    WorksOn t session name c.precision

/-- What selects nothing is all the same to the cache. -/
theorem Remembers.append (h : Remembers t c) (hu : ∀ e ∈ u, e.request.selects = false) :
    Remembers (t ++ u) c := by
  intro session name hheld hname
  exact (h session name hheld hname).append fun e he => Exchange.selected?_of_not_selects (hu e he)

/-- **A new session works on the database that is remembered,** whatever the old one worked on. -/
theorem Opens.remembers {r : Outcome Unit} (t : List (Exchange Link)) (h : Opens c u r c') :
    Remembers (t ++ u) c' := by
  intro session name hheld hname
  cases h with
  | refused | unset => cases hheld
  | @applied o w n opened applied noted =>
      cases hheld
      have hw : Runs (setUp c.opened name c.precision) w (.ok ()) := by
        rcases applied with database | ⟨database, created⟩
        · cases database.symm.trans hname
        · cases database.symm.trans hname
          exact runs_setUp_ok_iff.2 ⟨created, rfl⟩
      rw [← List.append_assoc, ← List.append_assoc]
      refine (worksOn_of_setUp (t ++ o) hw).append ?_
      -- After the database was set up there is at most a reading.
      intro e he
      refine Exchange.selected?_of_not_selects ?_
      exact (asks_noteReplaced c _ (P := fun q => q.selects = false) fun _ => rfl).of_reaches
        noted.reaches e he

/-- The probe selects nothing. -/
theorem not_selects_of_answersProbe {answers : Bool} (h : Runs c.answersProbe u answers) :
    ∀ e ∈ u, e.request.selects = false :=
  (c.asks_answersProbe (P := fun q => q.selects = false) (fun _ => rfl)).of_reaches h.reaches

/-- **The session to use** is held, and works on the database that is remembered. -/
theorem Remembers.of_validated {x : Outcome Nat × Cache} (h : Remembers t c)
    (hruns : Runs c.validated u x) :
    Remembers (t ++ u) x.2 ∧ ∀ session, x.1 = .ok session → x.2.held = some session := by
  obtain ⟨x, c'⟩ := x
  rcases runs_validated_iff.1 hruns with ⟨session, hheld, hprobe, rfl, rfl⟩ |
    ⟨s, u, r, rfl, -, hopens, rfl⟩
  · refine ⟨h.append (not_selects_of_answersProbe hprobe), ?_⟩
    rintro _ ⟨⟩
    exact hheld
  · rw [← List.append_assoc]
    refine ⟨hopens.remembers (t ++ s), fun session hsession => ?_⟩
    rcases r with e | _
    · cases hsession
    · cases hsession
      rw [hopens.eq_renewed]
      rfl

/-- **Working on another database** is remembered when it succeeds, and changes nothing when it
fails. -/
theorem Remembers.of_setDatabase {x : Outcome Unit × Cache} {name : String} (h : Remembers t c)
    (hruns : Runs (c.setDatabase name) u x) : Remembers (t ++ u) x.2 := by
  unfold setDatabase at hruns
  cases hcheck : checkIdentifier name with
  | error e =>
      simp only [hcheck] at hruns
      obtain ⟨rfl, rfl⟩ := runs_done_iff.1 hruns
      rwa [List.append_nil]
  | ok _ =>
      simp only [hcheck] at hruns
      obtain ⟨u₁, u₂, ⟨session, c'⟩, rfl, hvalidated, hruns⟩ := runs_bind_iff.1 hruns
      obtain ⟨hc', hheld⟩ := h.of_validated hvalidated
      cases session with
      | error e =>
          obtain ⟨rfl, rfl⟩ := runs_done_iff.1 hruns
          rwa [List.append_nil]
      | ok session =>
          obtain ⟨u₃, u₄, set, rfl, hset, hruns⟩ := runs_bind_iff.1 hruns
          rw [← List.append_assoc]
          cases set with
          | error e =>
              obtain ⟨rfl, rfl⟩ := runs_done_iff.1 hruns
              rw [List.append_nil]
              intro k db hk hdb
              exact (hc' k db hk hdb).append (selected?_of_setUp_error hset)
          | ok _ =>
              obtain ⟨rfl, rfl⟩ := runs_done_iff.1 hruns
              rw [List.append_nil]
              rintro k db hk ⟨⟩
              cases (hheld session rfl).symm.trans hk
              exact worksOn_of_setUp (t ++ u₁) hset

/-! ## One request after another -/

/-- A result without what was found: whether there was one. -/
def settled {α : Type} (x : Outcome α × Cache) : Outcome Unit × Cache := (x.1.map (fun _ => ()), x.2)

/-- **Carry out a request,** and tell whether it succeeded. -/
def attempt (c : Cache) : Request → Dialogue Link (Outcome Unit × Cache)
  | .session => do return settled (← c.validated)
  | .setDatabase name => c.setDatabase name
  | .execute sql => do return settled (← c.execute sql)
  | .query sql => do return settled (← c.query sql)
  | .write lines protocol precision => c.write lines protocol precision
  | .close => do return (.ok (), ← c.close)

/-- **The call that a request makes on a session** for whoever asked. There is none to set a database
or to write no lines. -/
def Request.call? : Request → Option (Nat → DatabaseCall)
  | .execute sql => some (.execute · sql)
  | .query sql => some (.query · sql)
  | .write (first :: rest) protocol precision => some (.write · (first :: rest) protocol precision)
  | _ => none

/-- The database that a request set, if it succeeded. -/
def set? : Request × Outcome Unit → Option String
  | (.setDatabase name, .ok ()) => some name
  | _ => none

/-- **The database that was set last,** if any. -/
def lastSet (taken : List (Request × Outcome Unit)) : Option String :=
  (taken.filterMap set?).getLast?

/-- No database is set at first. -/
@[simp] theorem lastSet_nil : lastSet [] = none := rfl

/-- One request more sets its database, or leaves the last one. -/
theorem lastSet_append_singleton (taken : List (Request × Outcome Unit))
    (x : Request × Outcome Unit) :
    lastSet (taken ++ [x]) = (set? x).or (lastSet taken) := by
  unfold lastSet
  rw [List.filterMap_append, List.getLast?_append]
  cases h : set? x <;> simp [h]

/-- Requests that make a call for whoever asked set no database. -/
theorem set?_of_call? {request : Request} {call : Nat → DatabaseCall} {result : Outcome Unit}
    (h : request.call? = some call) : set? (request, result) = none := by
  cases request with
  | setDatabase name => cases h
  | _ => rfl

/-- Requests that make a call for whoever asked select nothing. -/
theorem selects_of_call? {request : Request} {call : Nat → DatabaseCall} (session : Nat)
    (h : request.call? = some call) : (LinkCall.database (call session)).selects = false := by
  cases request with
  | execute sql => cases h; rfl
  | query sql => cases h; rfl
  | write lines protocol precision =>
      cases lines with
      | nil => cases h
      | cons first rest => cases h; rfl
  | _ => cases h

/-- **A call that was asked for** is not made without a session, and is made once, at the end, with
one. -/
theorem call_cases {request : Request} {call : Nat → DatabaseCall} {x : Outcome Unit × Cache}
    (hcall : request.call? = some call) (h : Runs (c.attempt request) u x) :
    (∃ e, Runs c.validated u (.error e, x.2) ∧ x.1 = .error e) ∨
    ∃ v session answer, u = v ++ [⟨.database (call session), answer⟩] ∧
      Runs c.validated v (.ok session, x.2) := by
  -- What a statement finds is left out of the result, with the statement itself made as before.
  have hsettled : ∀ {α : Type} {sql : String} {q : Nat → DatabaseCall}
      (ask : Nat → Dialogue Link (Outcome α)),
      (∀ session v answer, Runs (ask session) v answer → ∃ r, v = [⟨.database (q session), r⟩]) →
      Runs (do return settled (← c.use sql ask)) u x →
      (∃ e, Runs c.validated u (.error e, x.2) ∧ x.1 = .error e) ∨
      ∃ v session answer, u = v ++ [⟨.database (q session), answer⟩] ∧
        Runs c.validated v (.ok session, x.2) := by
    intro α sql q ask hask hruns
    obtain ⟨u', w, y, rfl, hy, hlast⟩ := runs_bind_iff.1 hruns
    obtain ⟨rfl, rfl⟩ := runs_done_iff.1 hlast
    rw [List.append_nil]
    rcases use_cases hy with ⟨e, hnone, he⟩ | ⟨v, w, session, answer, rfl, hsome, hw, -⟩
    · exact .inl ⟨e, hnone, by rw [settled, he]; rfl⟩
    · obtain ⟨r, rfl⟩ := hask session w answer hw
      exact .inr ⟨v, session, r, rfl, hsome⟩
  cases request with
  | execute sql =>
      cases hcall
      exact hsettled _ (fun session v answer hv => ⟨answer, runs_ask_iff.1 hv⟩) h
  | query sql =>
      cases hcall
      exact hsettled _ (fun session v answer hv => ⟨answer, runs_ask_iff.1 hv⟩) h
  | write lines protocol precision =>
      cases lines with
      | nil => cases hcall
      | cons first rest =>
          cases hcall
          rcases use_cases h with ⟨e, hnone, he⟩ | ⟨v, w, session, answer, rfl, hsome, hw, -⟩
          · exact .inl ⟨e, hnone, he⟩
          · exact .inr ⟨v, session, answer, by rw [runs_ask_iff.1 hw], hsome⟩
  | _ => cases hcall

/-- What is remembered after a request: the database that it set, or the same as before. -/
theorem database_of_attempt {request : Request} {x : Outcome Unit × Cache}
    (h : Runs (c.attempt request) u x) :
    x.2.database = (set? (request, x.1)).or c.database ∧ x.2.precision = c.precision := by
  cases hcall : request.call? with
  | some call =>
      rw [set?_of_call? hcall]
      have hx : Alike c x.2 := by
        rcases call_cases hcall h with ⟨e, hnone, -⟩ | ⟨v, session, answer, -, hsome⟩
        · exact c.asks_validated.of_runs hnone
        · exact c.asks_validated.of_runs hsome
      exact ⟨hx.database, hx.precision⟩
  | none =>
      cases request with
      | session =>
          obtain ⟨v, w, y, rfl, hy, hlast⟩ := runs_bind_iff.1 h
          obtain ⟨-, rfl⟩ := runs_done_iff.1 hlast
          have hx := c.asks_validated.of_runs hy
          exact ⟨hx.database, hx.precision⟩
      | setDatabase name =>
          obtain ⟨hok, herror⟩ := (c.asks_setDatabase name (P := fun _ => True)
            (fun _ _ => trivial) (fun _ _ => trivial) (fun _ _ => trivial)).of_runs h
          obtain ⟨e | _, c'⟩ := x
          · exact ⟨(herror e rfl).database, (herror e rfl).precision⟩
          · exact ⟨(hok rfl).database, (hok rfl).precision⟩
      | write lines protocol precision =>
          cases lines with
          | nil =>
              obtain ⟨-, rfl⟩ := runs_done_iff.1 h
              exact ⟨rfl, rfl⟩
          | cons first rest => cases hcall
      | close =>
          obtain ⟨v, w, y, rfl, hy, hlast⟩ := runs_bind_iff.1 h
          obtain ⟨-, rfl⟩ := runs_done_iff.1 hlast
          obtain rfl := (c.asks_close (P := fun _ => True) (fun _ => trivial)).of_runs hy
          exact ⟨rfl, rfl⟩
      | _ => cases hcall

/-- **Every request keeps what is remembered right,** whatever fails. -/
theorem Remembers.of_attempt {request : Request} {x : Outcome Unit × Cache} (h : Remembers t c)
    (hruns : Runs (c.attempt request) u x) : Remembers (t ++ u) x.2 := by
  cases hcall : request.call? with
  | some call =>
      rcases call_cases hcall hruns with ⟨e, hnone, -⟩ | ⟨v, session, answer, rfl, hsome⟩
      · exact (h.of_validated hnone).1
      · rw [← List.append_assoc]
        exact (h.of_validated hsome).1.append
          (List.forall_mem_singleton.2 (selects_of_call? session hcall))
  | none =>
      cases request with
      | session =>
          obtain ⟨v, w, y, rfl, hy, hlast⟩ := runs_bind_iff.1 hruns
          obtain ⟨rfl, rfl⟩ := runs_done_iff.1 hlast
          rw [List.append_nil]
          exact (h.of_validated hy).1
      | setDatabase name => exact h.of_setDatabase hruns
      | write lines protocol precision =>
          cases lines with
          | nil =>
              obtain ⟨rfl, rfl⟩ := runs_done_iff.1 hruns
              rwa [List.append_nil]
          | cons first rest => cases hcall
      | close =>
          obtain ⟨v, w, y, rfl, hy, hlast⟩ := runs_bind_iff.1 hruns
          obtain ⟨rfl, rfl⟩ := runs_done_iff.1 hlast
          obtain rfl := (c.asks_close (P := fun _ => True) (fun _ => trivial)).of_runs hy
          intro session name hheld
          cases hheld
      | _ => cases hcall

/-- **A cache after requests:** it remembers the database that was set last, and the session that it
holds works on it. -/
structure Agrees (precision : Precision) (t : List (Exchange Link))
    (taken : List (Request × Outcome Unit)) (c : Cache) : Prop where
  remembers : Remembers t c
  database : c.database = lastSet taken
  precision : c.precision = precision

/-- A cache that nothing was asked of yet holds no session and remembers nothing. -/
theorem agrees_new (provider : Provider) (precision : Precision) (meter : Option Meter) :
    Agrees precision [] [] { provider, precision, meter } where
  remembers := by
    intro session name hheld
    cases hheld
  database := rfl
  precision := rfl

/-- Every request keeps it so. -/
theorem Agrees.of_attempt {precision : Precision} {taken : List (Request × Outcome Unit)}
    {request : Request} {x : Outcome Unit × Cache} (h : Agrees precision t taken c)
    (hrun : Runs (c.attempt request) u x) :
    Agrees precision (t ++ u) (taken ++ [(request, x.1)]) x.2 := by
  obtain ⟨hdatabase, hprecision⟩ := database_of_attempt hrun
  refine ⟨h.remembers.of_attempt hrun, ?_, hprecision.trans h.precision⟩
  rw [hdatabase, h.database, lastSet_append_singleton]

/-- **The database that was set last survives.** After any requests of a new cache, whatever fails on
the way, the database that is remembered is the one that was set last. Whatever is asked next, the
call for it is not made at all, since there is no session; or it is made on a session that works on
that database. -/
theorem worksOn_lastSet (provider : Provider) (precision : Precision) (meter : Option Meter)
    (requests : List Request) {t : List (Exchange Link)} {taken : List (Request × Outcome Unit)}
    {c : Cache} (h : Runs (turns attempt { provider, precision, meter } requests) t (taken, c)) :
    c.database = lastSet taken ∧
    ∀ request call u x, request.call? = some call → Runs (c.attempt request) u x →
      (∃ e, x.1 = .error e ∧ ∀ e ∈ u, c.Upkeep e.request) ∨
      ∃ v session answer, u = v ++ [⟨.database (call session), answer⟩] ∧
        (∀ e ∈ v, c.Upkeep e.request) ∧ x.2.database = lastSet taken ∧
        ∀ name, lastSet taken = some name → WorksOn (t ++ v) session name precision := by
  have hagrees : Agrees precision t taken c := Runs.turns_induction (Agrees precision)
    (fun hc hrun => hc.of_attempt hrun) (agrees_new provider precision meter) h
  refine ⟨hagrees.database, ?_⟩
  intro request call u x hcall hrun
  rcases call_cases hcall hrun with ⟨e, hnone, he⟩ | ⟨v, session, answer, rfl, hsome⟩
  · exact .inl ⟨e, he, c.asks_validated.of_reaches hnone.reaches⟩
  · have halike := c.asks_validated.of_runs hsome
    have hdb : x.2.database = lastSet taken := halike.database.trans hagrees.database
    obtain ⟨hworks, hheld⟩ := hagrees.remembers.of_validated hsome
    refine .inr ⟨v, session, answer, rfl, c.asks_validated.of_reaches hsome.reaches, hdb, ?_⟩
    intro name hname
    have hworks := hworks session name (hheld session rfl) (hdb.trans hname)
    rwa [halike.precision, hagrees.precision] at hworks

/-- A database is set, and setting another one fails: the first session is lost before, and on the
second one the other database is created but cannot be selected. -/
def solarRun : List (Exchange Link) × List (Request × Outcome Unit) × Cache :=
  (turns attempt { provider := powerProvider, precision := .millis }
    [.setDatabase "power", .setDatabase "solar"]).courseWith (answerFailing [3, 9, 10]) 0

/-- Then a query finds the second session lost too. -/
def solarQuery : List (Exchange Link) × Outcome Unit × Cache :=
  (solarRun.2.2.attempt (.query "SELECT 1")).courseWith (answerFailing [3, 9, 10]) 10

/-- It is made on the third session, which works on the database that could be set. -/
theorem worksOn_lastSet_solar : lastSet solarRun.2.1 = some "power" ∧
    solarQuery.2.2.database = some "power" ∧
    ∃ v answer, solarQuery.1 = v ++ [⟨.database (.query 2 "SELECT 1"), answer⟩] ∧
      WorksOn (solarRun.1 ++ v) 2 "power" .millis := by
  have hruns : Runs (turns attempt { provider := powerProvider, precision := .millis }
      [.setDatabase "power", .setDatabase "solar"]) solarRun.1 (solarRun.2.1, solarRun.2.2) :=
    runs_courseWith (I := Link) (answerFailing [3, 9, 10]) _ 0
  have hquery : Runs (solarRun.2.2.attempt (.query "SELECT 1")) solarQuery.1 solarQuery.2 :=
    runs_courseWith (I := Link) (answerFailing [3, 9, 10]) _ 10
  have hlast : lastSet solarRun.2.1 = some "power" := by decide +kernel
  have hsession : (solarQuery.1.getLast?.bind Exchange.needs?) = some 2 := by decide +kernel
  have hok : solarQuery.2.1.isOk = true := by decide +kernel
  obtain ⟨-, hnext⟩ := worksOn_lastSet powerProvider .millis none _ hruns
  rcases hnext (.query "SELECT 1") _ _ _ rfl hquery with
    ⟨e, he, -⟩ | ⟨v, session, answer, hv, -, hdatabase, hworks⟩
  · rw [he] at hok
    cases hok
  · rw [hv, List.getLast?_append] at hsession
    cases hsession
    exact ⟨hlast, hdatabase.trans hlast, v, answer, hv, hworks "power" hlast⟩

end Cache

end SeriesBridge
