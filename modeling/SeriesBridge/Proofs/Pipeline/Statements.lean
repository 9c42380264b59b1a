import SeriesBridge.Pipeline.Assembly
import SeriesBridge.Proofs.Pipeline.Publication
import SeriesBridge.Proofs.Settings.Names
import SeriesBridge.Proofs.Sink.Conservation

/-! # What may be stated to a database

Names from settings and from addresses are put into statements as they are. They cannot change what a
statement says: whatever a bridge is asked to do and whatever the database answers, every statement is
one of four forms, with names that are identifiers.

* **`DatabaseSettings.Statement S sql`** — the four forms of statements.
* **`DatabaseSettings.Allows S q`** — the calls that settings allow.
* **`Cache.Fits S c`**, **`Sink.Fits S s`**, **`Source.Fits S s`** — parts that remember nothing but
  what the settings say.
* **`Sink.asks_answer`**, **`Source.asks_answer`** — such parts make allowed calls alone.
* **`Course.Permitted S t`** — a course in which no name changes what a statement says.
* **`DatabaseSettings.permitted_of_check`** — with accepted settings every course of a sink or a source
  is one, whoever uses it. -/

namespace SeriesBridge

open Dialogue Text

/-! ## Statements -/

namespace DatabaseSettings

/-- **The forms of statements:** the probe of a session, the creation of the database to work on, and
the two queries of an extraction. -/
inductive Statement (S : DatabaseSettings) : String → Prop where
  | probe : Statement S "SELECT SERVER_VERSION()"
  | creation {d : String} (target : S.target? = some d) (name : Identifier d) :
      Statement S ("CREATE DATABASE IF NOT EXISTS " ++ d ++ " PRECISION '" ++ S.precision.name ++ "'")
  | rowsAfter {t : TableSource} (table : t ∈ S.tables) (name : Dotted t.table)
      (column : Identifier S.timestampColumn) (after : Int64) (limit : Nat) :
      Statement S (Extraction.rowsAfter t.table S.timestampColumn after limit)
  | rowsAt {t : TableSource} (table : t ∈ S.tables) (name : Dotted t.table)
      (column : Identifier S.timestampColumn) (time : Int64) :
      Statement S (Extraction.rowsAt t.table S.timestampColumn time)

/-- **The calls that settings allow.** A call that opens or closes a session or writes lines states
nothing. -/
def Allows (S : DatabaseSettings) : LinkCall → Prop
  | .database (.execute _ sql) => S.Statement sql
  | .database (.query _ sql) => S.Statement sql
  | .database (.select _ name) => S.target? = some name ∧ Identifier name
  | _ => True

variable {S : DatabaseSettings} {sql table column : String}

/-- What both queries begin with is plain. -/
theorem plain_selection (htable : Dotted table) (hcolumn : Identifier column) :
    Plain (Extraction.selection table column) := by
  have hselect : Plain "SELECT *, CAST(" := by decide +kernel
  have has : Plain " AS BIGINT) AS " := by decide +kernel
  have hcursor : Plain cursorColumn := by decide +kernel
  have hfrom : Plain " FROM " := by decide +kernel
  have hwhere : Plain " WHERE " := by decide +kernel
  unfold Extraction.selection
  exact (((((hselect.append hcolumn.plain).append has).append hcursor).append hfrom).append
    htable.plain).append hwhere |>.append hcolumn.plain

/-- **Every statement is harmless.** -/
theorem Statement.harmless (h : S.Statement sql) : Harmless sql := by
  cases h with
  | probe => exact Plain.harmless (by decide +kernel)
  | creation target name =>
      have hfirst : Plain "CREATE DATABASE IF NOT EXISTS " := by decide +kernel
      have hlast : Plain " PRECISION " := by decide +kernel
      have hquoted := harmless_quoted ((hfirst.append name.plain).append hlast) S.precision
      have hquote : " PRECISION " ++ "'" = " PRECISION '" := rfl
      rw [← hquote]
      simpa only [String.append_assoc] using hquoted
  | rowsAfter table name column after limit =>
      have hgreater : Plain " > " := by decide +kernel
      have horder : Plain " ORDER BY " := by decide +kernel
      have hlimit : Plain " ASC LIMIT " := by decide +kernel
      have h := harmless_append_showInt ((plain_selection name column).append hgreater)
        (((horder.append column.plain).append hlimit).append (plain_showNat limit)) after.toInt
      simpa only [Extraction.rowsAfter, String.append_assoc] using h
  | rowsAt table name column time =>
      have hequal : Plain " = " := by decide +kernel
      have h := harmless_append_showInt ((plain_selection name column).append hequal)
        (t := "") (by decide +kernel) time.toInt
      rwa [String.append_empty] at h

end DatabaseSettings

open DatabaseSettings

/-! ## Caches -/

variable {S : DatabaseSettings}

/-- **A cache that remembers nothing but what the settings say.** -/
structure Cache.Fits (S : DatabaseSettings) (c : Cache) : Prop where
  precision : c.precision = S.precision
  database : ∀ name, c.database = some name → S.target? = some name

namespace Cache

variable {c c' : Cache}

/-- A cache that remembers the same fits too. -/
theorem Fits.of_alike (h : Fits S c) (hc : Alike c c') : Fits S c' :=
  ⟨hc.precision.trans h.precision, fun name hname => h.database name (hc.database.symm.trans hname)⟩

/-- **Upkeep is allowed.** -/
theorem Fits.allows (hS : S.check = .ok ()) (h : Fits S c) {q : LinkCall} (hq : c.Upkeep q) :
    S.Allows q := by
  cases hq with
  | probe session => exact .probe
  | create session remembered =>
      have htarget := h.database _ remembered
      rw [h.precision]
      exact .creation htarget (identifier_of_target hS htarget)
  | select session remembered =>
      have htarget := h.database _ remembered
      exact ⟨htarget, identifier_of_target hS htarget⟩
  | _ => trivial

/-- **Working on the database of the settings** is allowed. -/
theorem Fits.asks_setDatabase (hS : S.check = .ok ()) (h : Fits S c) {name : String}
    (htarget : S.target? = some name) :
    (c.setDatabase name).Asks (I := Link) S.Allows (fun x => Fits S x.2) := by
  have hname := identifier_of_target hS htarget
  refine (c.asks_setDatabase name (fun q hq => h.allows hS hq) ?_ ?_).mono (fun _ hq => hq) ?_
  · intro _ session
    show S.Statement _
    rw [h.precision]
    exact .creation htarget hname
  · intro _ session
    exact ⟨htarget, hname⟩
  · rintro ⟨e | _, c'⟩ ⟨hok, herror⟩
    · exact h.of_alike (herror e rfl)
    · have hset : Fits S { c with database := some name } := by
        refine ⟨h.precision, ?_⟩
        rintro _ ⟨⟩
        exact htarget
      exact hset.of_alike (hok rfl)

/-- Giving a session up is allowed. -/
theorem Fits.asks_close (h : Fits S c) :
    c.close.Asks (I := Link) S.Allows (fun c' => Fits S c') := by
  refine (c.asks_close (fun _ => trivial)).mono (fun _ hq => hq) ?_
  rintro _ rfl
  exact h.of_alike ⟨rfl, rfl, rfl, rfl⟩

end Cache

/-! ## Sinks -/

namespace Sink

/-- **A sink that remembers nothing but what the settings say.** -/
structure Fits (S : DatabaseSettings) (s : Sink) : Prop where
  settings : s.settings = S
  cache : ∀ c, s.cache = some c → c.Fits S

variable {s : Sink}

/-- A new sink remembers nothing. -/
theorem fits_new (S : DatabaseSettings) : Fits S { settings := S } where
  settings := rfl
  cache := by
    intro c hc
    cases hc

/-- A sink that fits goes on as one that does. -/
theorem Fits.of_continues {s' : Sink} {added : List String} (h : Fits S s) (hs : Continues s added s') :
    Fits S s' := by
  refine ⟨hs.settings.trans h.settings, ?_⟩
  intro c' hc'
  obtain ⟨c, hc, hsame⟩ := hs.cache c' hc'
  exact (h.cache c hc).of_alike hsame

/-- **A sink makes allowed calls alone,** whatever it is asked for. -/
theorem asks_answer (hS : S.check = .ok ()) (q : SinkCall) (h : Fits S s) :
    (answer q s).Asks (I := Link) S.Allows (fun x => Fits S x.2) := by
  cases q with
  | prepare pipeline =>
      refine (s.asks_prepare (m := Cache.Fits S) pipeline ?_).mono (fun _ hq => hq) ?_
      · intro c name _ htarget hprecision hnone
        rw [h.settings] at htarget hprecision
        have hc : c.Fits S := ⟨hprecision, fun d hd => by rw [hnone] at hd; cases hd⟩
        exact (hc.asks_setDatabase hS htarget).mono (fun _ hq => hq) (fun _ hx _ => hx)
      · rintro ⟨result, s'⟩ ⟨hsettings, -, hcache⟩
        refine ⟨hsettings.trans h.settings, ?_⟩
        intro c hc
        rcases hcache with hsame | ⟨c', hc', hfits⟩
        · exact h.cache c (hsame.symm.trans hc)
        · cases hc'.symm.trans hc
          exact hfits
  | process r =>
      exact (asks_process (fun c hc q hq => (h.cache c hc).allows hS hq) (fun _ _ => trivial) r).mono
        (fun _ hq => hq) (fun _ hx => h.of_continues hx)
  | flush =>
      exact (asks_flush (fun c hc q hq => (h.cache c hc).allows hS hq) (fun _ _ => trivial)).mono
        (fun _ hq => hq) (fun _ hx => h.of_continues hx)
  | shutdown =>
      show s.shutdown.Asks _ _
      unfold shutdown
      cases hcache : s.cache with
      | none => exact asks_done.2 ⟨h.settings, fun c hc => h.cache c (hcache.trans hc)⟩
      | some c =>
          refine (h.cache c hcache).asks_close.bind ?_
          intro c' hc'
          exact asks_done.2 ⟨h.settings, by rintro _ ⟨⟩; exact hc'⟩

end Sink

/-! ## Sources -/

namespace Source

/-- **A source that remembers nothing but what the settings say.** -/
structure Fits (S : DatabaseSettings) (s : Source) : Prop where
  settings : s.settings = S
  cache : ∀ c, s.cache = some c → c.Fits S

variable {s s' : Source} {t : TableSource}

/-- A new source remembers nothing. -/
theorem fits_ofSettings (S : DatabaseSettings) : Fits S (ofSettings S) where
  settings := rfl
  cache := by
    intro c hc
    cases hc

/-- Where partitions are is of no account. -/
theorem Fits.of_shifts (h : Fits S s) (hs : Shifts s s') : Fits S s' := by
  obtain ⟨trackers, rfl⟩ := hs
  exact ⟨h.settings, h.cache⟩

/-- A statement that is allowed may be asked. -/
theorem asks_query (hS : S.check = .ok ()) (h : Fits S s) {sql : String} (hsql : S.Statement sql) :
    (s.query sql).Asks (I := Link) S.Allows (fun x => Fits S x.2) := by
  unfold query
  cases hcache : s.cache with
  | none => exact asks_done.2 h
  | some c =>
      have hc := h.cache c hcache
      refine (c.asks_use sql _ (fun q hq => hc.allows hS hq)
        (fun session => asks_ask.2 ⟨hsql, fun _ => trivial⟩)).bind ?_
      rintro ⟨result, c'⟩ hc'
      exact asks_done.2 ⟨h.settings, by rintro _ ⟨⟩; exact hc.of_alike hc'⟩

/-- Both queries for a table of the settings are allowed. -/
theorem asks_batch (hS : S.check = .ok ()) (hsource : S.checkSource = .ok ()) (h : Fits S s)
    (ht : t ∈ S.tables) (after : Int64) :
    (s.batch t after).Asks (I := Link) S.Allows (fun x => Fits S x.2) := by
  have htable := dotted_of_mem_tables hsource ht
  have hcolumn := identifier_timestampColumn hsource
  unfold batch
  rw [h.settings]
  refine (asks_query hS h (.rowsAfter ht htable hcolumn after s.batchSize)).bind ?_
  rintro ⟨e | result, s₁⟩ h₁
  · exact asks_done.2 h₁
  · dsimp only
    by_cases hempty : result.rows.isEmpty
    · rw [if_pos hempty]
      exact asks_done.2 h₁
    · rw [if_neg hempty]
      cases htimes : s₁.times t result with
      | error e => exact asks_done.2 h₁
      | ok times =>
          dsimp only
          cases times with
          | nil => exact asks_done.2 h₁
          | cons first rest =>
              dsimp only
              by_cases hfull : Extraction.completePrefix s₁.batchSize (first :: rest) =
                  (first :: rest).length && s₁.batchSize ≤ (first :: rest).length
              · rw [if_pos hfull]
                refine (asks_query hS h₁ (.rowsAt ht htable hcolumn first)).bind ?_
                rintro ⟨e | result, s₂⟩ h₂
                · exact asks_done.2 h₂
                · exact asks_done.2 h₂
              · rw [if_neg hfull]
                exact asks_done.2 h₁

/-- Readings of skipped rows are allowed. -/
theorem asks_noteSkipped (s : Source) (n : Nat) :
    (s.noteSkipped n).Asks (I := Link) S.Allows (fun _ => True) := by
  induction n with
  | zero => exact asks_done.2 trivial
  | succ n ih =>
      unfold noteSkipped
      cases s.meter with
      | none => exact asks_done.2 trivial
      | some meter => exact asks_bind.2 (asks_ask.2 ⟨trivial, fun _ => ih⟩)

/-- Making records takes readings at most. -/
theorem asks_publish (h : Fits S s) (result : QueryResult) (times : List Int64) :
    (s.publish t result times).Asks (I := Link) S.Allows (fun x => Fits S x.2) := by
  unfold publish
  cases times.getLast? with
  | none => exact asks_done.2 h
  | some last =>
      dsimp only
      cases s.records t (s.context t result.columns) (result.rows.zip times) with
      | error e => exact asks_done.2 h
      | ok made =>
          obtain ⟨records, skipped⟩ := made
          dsimp only
          refine (s.asks_noteSkipped skipped).bind ?_
          rintro _ -
          by_cases hnone : records.isEmpty
          · rw [if_pos hnone]
            cases Keyed.lookup t.partition s.trackers with
            | none => exact asks_done.2 h
            | some tracker => exact asks_done.2 (h.of_shifts (shifts_track s _))
          · rw [if_neg hnone]
            exact asks_done.2 h

/-- Polling a table of the settings is allowed. -/
theorem asks_pollTable (hS : S.check = .ok ()) (hsource : S.checkSource = .ok ()) (h : Fits S s)
    (ht : t ∈ S.tables) :
    (s.pollTable t).Asks (I := Link) S.Allows (fun x => Fits S x.2) := by
  unfold pollTable
  dsimp only
  refine (asks_batch (s := s.track _) hS hsource (h.of_shifts (shifts_track s _)) ht _).bind ?_
  rintro ⟨e | ⟨result, times⟩, s₁⟩ h₁
  · exact asks_done.2 h₁
  · exact asks_publish h₁ result times

/-- Polling tables of the settings is allowed. -/
theorem asks_pollTables (hS : S.check = .ok ()) (hsource : S.checkSource = .ok ()) (h : Fits S s)
    (ts : List TableSource) (hts : ∀ t ∈ ts, t ∈ S.tables) :
    (s.pollTables ts).Asks (I := Link) S.Allows (fun x => Fits S x.2) := by
  induction ts generalizing s with
  | nil => exact asks_done.2 h
  | cons t ts ih =>
      refine (asks_pollTable hS hsource h (hts t List.mem_cons_self)).bind ?_
      rintro ⟨e | records, s₁⟩ h₁
      · exact asks_done.2 h₁
      · refine (ih h₁ (fun t' ht' => hts t' (List.mem_cons_of_mem t ht'))).bind ?_
        rintro ⟨e | more, s₂⟩ h₂
        · exact asks_done.2 h₂
        · exact asks_done.2 h₂

/-- Preparing a source is allowed. -/
theorem asks_prepare (hS : S.check = .ok ()) (h : Fits S s) (pipeline : PipelineSettings) :
    (s.prepare pipeline).Asks (I := Link) S.Allows (fun x => Fits S x.2) := by
  obtain ⟨rfl, hcache⟩ := h
  unfold prepare
  rw [hS]
  dsimp only
  cases s.settings.endpoint with
  | error e => exact asks_done.2 ⟨rfl, hcache⟩
  | ok endpoint =>
      cases s.settings.policy with
      | error e => exact asks_done.2 ⟨rfl, hcache⟩
      | ok policy =>
          dsimp only
          refine Asks.bind (m := fun x => Cache.Fits s.settings x.2) ?_ ?_
          · unfold setUp
            cases htarget : s.settings.target? with
            | none => exact asks_done.2 ⟨rfl, by rintro _ ⟨⟩⟩
            | some name => exact Cache.Fits.asks_setDatabase hS ⟨rfl, by rintro _ ⟨⟩⟩ htarget
          · rintro ⟨e | _, c⟩ hc
            · exact asks_done.2 ⟨rfl, hcache⟩
            · refine asks_bind.2 (asks_ask.2 ⟨trivial, fun now => ?_⟩)
              cases Cursor.readStart? s.settings.initialTimestamp now with
              | error e => exact asks_done.2 ⟨rfl, by rintro _ ⟨⟩; exact hc⟩
              | ok start =>
                  refine asks_done.2 ?_
                  dsimp only
                  refine Fits.of_shifts ?_ (shifts_startTables _)
                  exact ⟨rfl, by rintro _ ⟨⟩; exact hc⟩

/-- **A source makes allowed calls alone,** whatever it is asked for. -/
theorem asks_answer (hS : S.check = .ok ()) (hsource : S.checkSource = .ok ()) (q : SourceCall)
    (h : Fits S s) : (answer q s).Asks (I := Link) S.Allows (fun x => Fits S x.2) := by
  cases q with
  | prepare pipeline => exact asks_prepare hS h pipeline
  | restore offsets => exact asks_done.2 (h.of_shifts (shifts_restore s offsets))
  | poll =>
      show (s.pollTables s.settings.tables).Asks _ _
      exact asks_pollTables hS hsource h _ (fun t ht => by rwa [h.settings] at ht)
  | commit offsets => exact asks_done.2 (h.of_shifts (shifts_commit s offsets))
  | shutdown =>
      refine Asks.bind (m := Fits S) ?_ (fun s' hs' => asks_done.2 hs')
      unfold shutdown
      cases hcache : s.cache with
      | none => exact asks_done.2 h
      | some c =>
          refine (h.cache c hcache).asks_close.bind ?_
          intro c' hc'
          exact asks_done.2 ⟨h.settings, by rintro _ ⟨⟩; exact hc'⟩

end Source

/-! ## Whole bridges -/

/-- The statement that a request makes. -/
def LinkCall.statement? : LinkCall → Option String
  | .database (.execute _ sql) => some sql
  | .database (.query _ sql) => some sql
  | _ => none

/-- The database that a request selects. -/
def LinkCall.selection? : LinkCall → Option String
  | .database (.select _ name) => some name
  | _ => none

namespace Course

variable {J : Interface}

/-- **The statements that are made** in a course. -/
def statements (t : List (Exchange (Link.sum J))) : List String :=
  t.filterMap (fun e => e.request.elim LinkCall.statement? (fun _ => none))

/-- **The databases that are selected** in a course. -/
def selections (t : List (Exchange (Link.sum J))) : List String :=
  t.filterMap (fun e => e.request.elim LinkCall.selection? (fun _ => none))

/-- **A course in which no name changes what a statement says:** every statement is one of the four
forms, and harmless, and every database that is selected is the one of the settings, whose name is an
identifier. -/
structure Permitted (S : DatabaseSettings) (t : List (Exchange (Link.sum J))) : Prop where
  statements : ∀ sql ∈ statements t, S.Statement sql ∧ Harmless sql
  selections : ∀ name ∈ selections t, S.target? = some name ∧ Identifier name

/-- A course of allowed calls is one. -/
theorem permitted_of_allows {t : List (Exchange (Link.sum J))}
    (h : ∀ e ∈ t, Sum.elim S.Allows (fun _ => True) e.request) : Permitted S t := by
  constructor
  · intro sql hsql
    obtain ⟨⟨q | q, r⟩, he, hq⟩ := List.mem_filterMap.1 hsql
    · have hstatement : S.Statement sql := by
        have hallows : S.Allows q := h _ he
        cases q with
        | database call =>
            cases call with
            | execute session sql => cases hq; exact hallows
            | query session sql => cases hq; exact hallows
            | _ => cases hq
        | _ => cases hq
      exact ⟨hstatement, hstatement.harmless⟩
    · cases hq
  · intro name hname
    obtain ⟨⟨q | q, r⟩, he, hq⟩ := List.mem_filterMap.1 hname
    · have hallows : S.Allows q := h _ he
      cases q with
      | database call =>
          cases call with
          | select session name => cases hq; exact hallows
          | _ => cases hq
      | _ => cases hq
    · cases hq

end Course

/-- **No name changes what a statement says.** With accepted settings, whoever uses the sink or the
source that they call for, and whatever records, offsets and answers are given. -/
theorem DatabaseSettings.permitted_of_check {S : DatabaseSettings} (hS : S.check = .ok ())
    {J : Interface} {α : Type} :
    (S.mode = .sink → ∀ (host : Dialogue (Sinking.sum J) α) t,
      Reaches (host.serve Sink.answer { settings := S }) t → Course.Permitted S t) ∧
    (S.mode = .source → ∀ (host : Dialogue (Sourcing.sum J) α) t,
      Reaches (host.serve Source.answer (.ofSettings S)) t → Course.Permitted S t) := by
  constructor
  · intro _ host t ht
    have hasks := Asks.serve Sink.answer (Sink.Fits S) (fun q s h => Sink.asks_answer hS q h) host
      (Sink.fits_new S)
    exact Course.permitted_of_allows (hasks.of_reaches ht)
  · intro hmode host t ht
    have hsource := checkSource_of_check hS hmode
    have hasks := Asks.serve Source.answer (Source.Fits S)
      (fun q s h => Source.asks_answer hS hsource q h) host (Source.fits_ofSettings S)
    exact Course.permitted_of_allows (hasks.of_reaches ht)

/-- The course of a publication of two rounds, from a table that holds three instants. -/
def Publication.metersCourse : List (Exchange (Link.sum Outlet)) :=
  ((Publication.pairwise.runFrom (.ofSettings Source.metersSettings) 2).courseWith Rehearsal.answer
    { ledger := { tables := fun _ => Source.meters } }).1

/-- A delivery sets up its database and a publication reads its table, and every statement that they
make on the way is harmless. -/
theorem DatabaseSettings.permitted_of_check_meters :
    (∀ sql ∈ ["CREATE DATABASE IF NOT EXISTS d PRECISION 'ms'"], Harmless sql) ∧
    (∀ sql ∈ ["SELECT *, CAST(ts AS BIGINT) AS tdc_cursor FROM meters WHERE ts > 0 ORDER BY ts ASC LIMIT 2",
      "SELECT *, CAST(ts AS BIGINT) AS tdc_cursor FROM meters WHERE ts > 1 ORDER BY ts ASC LIMIT 2",
      "SELECT *, CAST(ts AS BIGINT) AS tdc_cursor FROM meters WHERE ts = 2"], Harmless sql) := by
  have hdelivery : Course.Permitted Delivery.telnetSettings (Delivery.bumpy.course 5).1 := by
    have hcheck : Delivery.telnetSettings.check = .ok () := eq_ok_of_toBool (by decide +kernel)
    exact (DatabaseSettings.permitted_of_check hcheck).1 rfl _ _
      (runs_courseWith Delivery.Script.answer _ Delivery.bumpy).reaches
  have hpublication : Course.Permitted Source.metersSettings Publication.metersCourse :=
    (DatabaseSettings.permitted_of_check Publication.check_metersSettings).2 rfl _ _
      (runs_courseWith (I := Link.sum Outlet) Publication.Rehearsal.answer _ _).reaches
  have hcreated : "CREATE DATABASE IF NOT EXISTS d PRECISION 'ms'" ∈
      Course.statements (Delivery.bumpy.course 5).1 := by decide +kernel
  have hread : ∀ sql ∈ ["SELECT *, CAST(ts AS BIGINT) AS tdc_cursor FROM meters WHERE ts > 0 ORDER BY ts ASC LIMIT 2",
      "SELECT *, CAST(ts AS BIGINT) AS tdc_cursor FROM meters WHERE ts > 1 ORDER BY ts ASC LIMIT 2",
      "SELECT *, CAST(ts AS BIGINT) AS tdc_cursor FROM meters WHERE ts = 2"],
      sql ∈ Course.statements Publication.metersCourse := by decide +kernel
  constructor
  · intro sql hsql
    obtain rfl := List.mem_singleton.1 hsql
    exact (hdelivery.statements _ hcreated).2
  · intro sql hsql
    exact (hpublication.statements _ (hread sql hsql)).2

end SeriesBridge
