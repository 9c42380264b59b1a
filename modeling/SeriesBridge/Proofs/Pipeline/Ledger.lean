import Mathlib.Data.List.Perm.Subperm
import SeriesBridge.Offset.Store
import SeriesBridge.Pipeline.Assembly
import SeriesBridge.Proofs.Extraction.Prepare
import SeriesBridge.Proofs.Extraction.Rounds
import SeriesBridge.Proofs.Keyed

/-! # The ledger of a publication

What is left of a publication when it breaks off: the tables, the offsets that are kept, and the
records that were given out. Records count as settled once they were flushed.

* **`Ledger`** — what the outside holds.
* **`Ledger.world S`** — how it answers: tables grow, anything may fail, and what does not fail does
  what it should.
* **`Ledger.Covers`** — the lines of a table up to a position were all settled.
* **`Ledger.Safe`** — so were those up to every offset that is kept.
* **`Ledger.extracts_world`** — a source can be polled in this world. -/

namespace SeriesBridge

open Dialogue

/-! ## Offsets in memory -/

/-- **An offset that is kept** was kept before or is one of those to keep. -/
theorem MemoryStore.mem_load_commit {s : MemoryStore} {offsets : List Offset} {o : Offset}
    (h : o ∈ (s.commit offsets).load) : o ∈ s.load ∨ o ∈ offsets := by
  induction offsets generalizing s with
  | nil => exact .inl h
  | cons first offsets ih =>
      rcases ih (s := ⟨Keyed.insert first.partition first s.saved⟩) h with hload | hmem
      · obtain ⟨p, hp, rfl⟩ := List.mem_map.1 hload
        rcases Keyed.mem_insert hp with rfl | hp
        · exact .inr List.mem_cons_self
        · exact .inl (List.mem_map_of_mem hp)
      · exact .inr (List.mem_cons_of_mem _ hmem)

/-! ## Ledgers -/

/-- The requests to the outside that change nothing there. -/
def OutletCall.isQuiet : OutletCall → Bool
  | .store _ => false
  | .emit _ => false
  | .flush => false
  | _ => true

/-- **What the outside of a publication holds.** -/
structure Ledger where
  tables : String → TimeTable
  /-- The offsets that are kept. -/
  kept : MemoryStore := {}
  /-- The records that were given out since the last flush. -/
  pending : List Outgoing := []
  /-- The records that were given out and flushed. -/
  settled : List Outgoing := []

namespace Ledger

/-- **The outside answers,** from the tables as they are. What fails may have done its work all the
same; a store that fails may have kept some of the offsets. -/
def Answers (S : DatabaseSettings) (w : Ledger) :
    (q : (Link.sum Outlet).Request) → (Link.sum Outlet).Answer q → Ledger → Prop
  | .inl (.database (.query _ sql)), r, w' => w' = w ∧ ∀ result, r = .ok result →
      ∀ t ∈ S.tables, ∀ time,
        (∀ limit, sql = Extraction.rowsAfter t.table S.timestampColumn time limit →
          (w.tables t.table).AnswersAfter List.Perm time limit result) ∧
        (sql = Extraction.rowsAt t.table S.timestampColumn time →
          (w.tables t.table).AnswersAt List.Perm time result)
  | .inl _, _, w' => w' = w
  | .inr .load, r, w' => w' = w ∧ ∀ offsets, r = .ok offsets → offsets = w.kept.load
  | .inr (.store offsets), r, w' => ∃ stored, stored.Sublist offsets ∧
      (r = .ok () → stored = offsets) ∧ w' = { w with kept := w.kept.commit stored }
  | .inr (.emit record), r, w' => w' = { w with pending := w.pending ++ [record] } ∨
      (r ≠ .ok () ∧ w' = w)
  | .inr .flush, r, w' => w' = { w with pending := [], settled := w.settled ++ w.pending } ∨
      (r ≠ .ok () ∧ w' = w)
  | .inr .stopping, _, w' => w' = w
  | .inr (.pause _), _, w' => w' = w
  | .inr (.note _), _, w' => w' = w

/-- **Time passes:** tables grow, and nothing else happens. -/
structure Waits (w w' : Ledger) : Prop where
  tables : ∀ name, (w.tables name).GrowsTo (w'.tables name)
  kept : w'.kept = w.kept
  pending : w'.pending = w.pending
  settled : w'.settled = w.settled

/-- **The world of a publication.** Tables may grow before every answer. -/
def world (S : DatabaseSettings) : Behaviour (Link.sum Outlet) Ledger :=
  fun w q r w' => ∃ v, w.Waits v ∧ v.Answers S q r w'

/-- What is out but was not flushed may be lost when a publication breaks off. -/
def crashed (w : Ledger) : Ledger := { w with pending := [] }

variable {S : DatabaseSettings} {start c reached : Cursor} {t : TableSource} {w w' w'' : Ledger}

/-- No time passes. -/
theorem Waits.refl (w : Ledger) : w.Waits w := ⟨fun _ => .refl _, rfl, rfl, rfl⟩

/-- Time passes, and then more time. -/
theorem Waits.trans (h₁ : w.Waits w') (h₂ : w'.Waits w'') : w.Waits w'' where
  tables name := (h₁.tables name).trans (h₂.tables name)
  kept := h₂.kept.trans h₁.kept
  pending := h₂.pending.trans h₁.pending
  settled := h₂.settled.trans h₁.settled

/-- **The ledger goes on:** tables grow, and what was settled stays settled. -/
structure GoesOn (w w' : Ledger) : Prop where
  tables : ∀ name, (w.tables name).GrowsTo (w'.tables name)
  settled : w.settled <+: w'.settled

/-- The ledger goes on when time passes. -/
theorem Waits.goesOn (h : w.Waits w') : w.GoesOn w' := by
  refine ⟨h.tables, ?_⟩
  simp [h.settled]

/-- The ledger goes on and on. -/
theorem GoesOn.trans (h₁ : w.GoesOn w') (h₂ : w'.GoesOn w'') : w.GoesOn w'' where
  tables name := (h₁.tables name).trans (h₂.tables name)
  settled := h₁.settled.trans h₂.settled

/-! ## What is covered -/

/-- **The lines of a table up to a position were all settled,** each at least once. -/
def Covers (S : DatabaseSettings) (start : Cursor) (w : Ledger) (t : TableSource) (c : Cursor) :
    Prop :=
  ∃ records, Source.Stretch List.Perm S t (w.tables t.table) start c records ∧
    (records.map Outgoing.payload).Subperm ((Source.ofTable t w.settled).map Outgoing.payload)

/-- Nothing has to be settled up to the start. -/
theorem covers_start (S : DatabaseSettings) (start : Cursor) (w : Ledger) (t : TableSource) :
    w.Covers S start t start :=
  ⟨[], Source.stretch_nil arrangement_perm t _ start, List.nil_subperm⟩

/-- What is covered stays covered. -/
theorem Covers.goesOn (h : w.Covers S start t c) (hgoes : w.GoesOn w') :
    w'.Covers S start t c := by
  obtain ⟨records, hstretch, hsettled⟩ := h
  refine ⟨records, hstretch.grow (hgoes.tables t.table), hsettled.trans ?_⟩
  exact ((hgoes.settled.sublist.filter _).map _).subperm

/-- **What was polled and settled is covered.** -/
theorem Covers.polled (h : w.Covers S start t c) {records : List Outgoing}
    (hpolled : Source.Polled List.Perm S t (w.tables t.table) (w'.tables t.table) c reached
      (Source.ofTable t records))
    (hgrows : (w.tables t.table).GrowsTo (w'.tables t.table))
    (hsettled : (w.settled ++ records).Sublist w'.settled) : w'.Covers S start t reached := by
  obtain ⟨before, hstretch, hbefore⟩ := h
  refine ⟨before ++ Source.ofTable t records,
    (hstretch.grow hgrows).append arrangement_perm hpolled, ?_⟩
  have hall : (Source.ofTable t w.settled ++ Source.ofTable t records).Sublist
      (Source.ofTable t w'.settled) := by
    rw [← Source.ofTable_append]
    exact hsettled.filter _
  rw [List.map_append]
  refine ((List.subperm_append_right _).2 hbefore).trans ?_
  rw [← List.map_append]
  exact (hall.map _).subperm

/-- Rows that make no line are covered when they are passed. -/
theorem Covers.passed (h : w.Covers S start t c) (hgoes : w.GoesOn w')
    (hpolled : Source.Polled List.Perm S t (w.tables t.table) (w'.tables t.table) c reached []) :
    w'.Covers S start t reached := by
  have hnone : Source.ofTable t [] = [] := rfl
  rw [← hnone] at hpolled
  refine h.polled hpolled (hgoes.tables t.table) ?_
  rw [List.append_nil]
  exact hgoes.settled.sublist

/-- **Every offset that is kept is covered.** -/
def Safe (S : DatabaseSettings) (start : Cursor) (w : Ledger) : Prop :=
  ∀ t ∈ S.tables, ∀ o ∈ w.kept.load, o.partition = t.partition → w.Covers S start t (.ofOffset o)

/-- A ledger stays safe while no more offsets are kept. -/
theorem Safe.goesOn (h : w.Safe S start) (hgoes : w.GoesOn w') (hkept : w'.kept = w.kept) :
    w'.Safe S start := by
  intro t ht o ho hpartition
  rw [hkept] at ho
  exact (h t ht o ho hpartition).goesOn hgoes

/-- A ledger stays safe when offsets are kept that are covered. -/
theorem Safe.commit (h : w.Safe S start) {offsets : List Offset}
    (hcovers : ∀ t ∈ S.tables, ∀ o ∈ offsets, o.partition = t.partition →
      w.Covers S start t (.ofOffset o)) :
    Safe S start { w with kept := w.kept.commit offsets } := by
  intro t ht o ho hpartition
  rcases MemoryStore.mem_load_commit ho with ho | ho
  · exact h t ht o ho hpartition
  · exact hcovers t ht o ho hpartition

/-! ## Polls -/

/-- A database only lets time pass. -/
theorem waits_of_left {q : LinkCall} {r : q.Answer} (h : (world S).left w q r w') : w.Waits w' := by
  obtain ⟨v, hv, hanswers⟩ := h
  have hsame : w' = v := by
    cases q with
    | database call =>
        cases call with
        | query session sql => exact hanswers.1
        | _ => exact hanswers
    | _ => exact hanswers
  rw [hsame]
  exact hv

/-- A request that changes nothing lets time pass. -/
theorem waits_of_isQuiet {q : OutletCall} {r : q.Answer} (hq : q.isQuiet)
    (h : world S w (.inr q) r w') : w.Waits w' := by
  obtain ⟨v, hv, hanswers⟩ := h
  have hsame : w' = v := by
    cases q with
    | load => exact hanswers.1
    | store offsets => cases hq
    | emit record => cases hq
    | flush => cases hq
    | stopping => exact hanswers
    | pause millis => exact hanswers
    | note reading => exact hanswers
  rw [hsame]
  exact hv

/-- **A source can be polled in this world.** -/
theorem extracts_world (S : DatabaseSettings) (start : Cursor) :
    Extracts List.Perm S Ledger.tables (world S).left (Safe S start) Waits (fun _ => True) where
  refl := Waits.refl
  trans := Waits.trans
  step _ hsafe h := by
    have hwaits := waits_of_left h
    exact ⟨hsafe.goesOn hwaits.goesOn hwaits.kept, hwaits⟩
  connect _ := ⟨trivial, fun _ => trivial⟩
  execute _ _ := trivial
  select _ _ := trivial
  arrangement := arrangement_perm
  grows h name := h.tables name
  asked hsafe h := by
    have hwaits := waits_of_left h
    exact ⟨hsafe.goesOn hwaits.goesOn hwaits.kept, hwaits⟩
  failed _ := trivial
  after := by
    rintro w w' session t time limit result ht ⟨v, -, rfl, hresult⟩
    exact (hresult result rfl t ht time).1 limit rfl
  instant := by
    rintro w w' session t time result ht ⟨v, -, rfl, hresult⟩
    exact (hresult result rfl t ht time).2 rfl

end Ledger

end SeriesBridge
