import SeriesBridge.Proofs.Database.Lifecycle

/-! # What is released

A session is released when it is closed, and a course releases its sessions when each of them is
closed exactly once.

* **`Course.Releases t`** — every session that was opened was closed, and once only.
* **`Cache.Stands t cache`** — there is a cache, and it stands as its course says.
* **`Cache.Standing.ensures_close_releases`** — giving the session up releases all of them.
* **`Cache.ensures_setDatabase_nil`** — the first database is set up without closing anything, whether
  or not it succeeds. -/

namespace SeriesBridge

open Dialogue

namespace Course

/-- **A course releases its sessions:** each one that was opened was closed exactly once. -/
def Releases (t : List (Exchange Link)) : Prop := ∀ k ∈ opened t, (closed t).count k = 1

variable {n : Nat} {t : List (Exchange Link)}

/-- When as many sessions were closed as were opened, all are released. -/
theorem Books.releases (h : Books n n t) : Releases t := by
  intro k hk
  rw [h.opened] at hk
  rw [h.closed]
  exact List.nodup_range.count.trans (if_pos hk)

/-- A course that closes nothing releases its sessions when there are none. -/
theorem releases_iff_of_closed (h : closed t = []) : Releases t ↔ opened t = [] := by
  unfold Releases
  rw [h]
  constructor
  · intro hall
    refine List.eq_nil_iff_forall_not_mem.2 ?_
    intro k hk
    cases hall k hk
  · intro hnone
    rw [hnone]
    simp

end Course

namespace Cache

open Course

variable {t : List (Exchange Link)} {c : Cache}

/-- **There is a cache, and it stands as its course says.** -/
def Stands (t : List (Exchange Link)) (cache : Option Cache) : Prop :=
  ∃ c, cache = some c ∧ Standing t c

/-- The course of a cache that stands is orderly. -/
theorem Stands.orderly {cache : Option Cache} (h : Stands t cache) : Orderly t := by
  obtain ⟨c, -, hc⟩ := h
  exact hc.books.orderly

namespace Standing

/-- What is asked of the machine is all the same to the standing, and closes nothing. -/
theorem ensures_ask (h : Standing t c) {q : LinkCall} (hopened : ∀ r, Exchange.opened? ⟨q, r⟩ = none)
    (hclosed : ∀ r, Exchange.closed? ⟨q, r⟩ = none) (hneeds : ∀ r, Exchange.needs? ⟨q, r⟩ = none) :
    (ask (I := Link) q).Ensures world Orderly t
      (fun t' _ => Standing t' c ∧ Course.closed t' = Course.closed t) := by
  refine (h.books.ensures_ask hopened hclosed ?_).mono ?_
  · intro r k hk
    rw [hneeds] at hk
    cases hk
  · intro t' _ hbooks
    exact ⟨⟨hbooks, h.held, h.connected_iff, h.settled⟩, hbooks.closed.trans h.books.closed.symm⟩

/-- **Giving the session up releases all of them.** -/
theorem ensures_close_releases (h : Standing t c) :
    c.close.Ensures world Orderly t (fun t' _ => Orderly t' ∧ Releases t') := by
  refine h.ensures_close.mono ?_
  rintro t' c' ⟨h', hheld⟩
  exact ⟨h'.books.orderly, (h'.books_of_none hheld).releases⟩

/-- A query keeps the standing. -/
theorem ensures_query (h : Standing t c) (sql : String) :
    (c.query sql).Ensures world Orderly t (fun t' x => Standing t' x.2) :=
  h.ensures_use sql _ fun _ _ hbooks =>
    hbooks.ensures_statement (fun _ => rfl) (fun _ => rfl) (fun _ => rfl)

/-- Writing lines keeps the standing. -/
theorem ensures_write (h : Standing t c) (lines : List String) (protocol : Protocol)
    (precision : Precision) :
    (c.write lines protocol precision).Ensures world Orderly t (fun t' x => Standing t' x.2) := by
  cases lines with
  | nil => exact ensures_done.2 h
  | cons first rest =>
      refine h.ensures_use _ _ ?_
      intro session t' hbooks
      exact hbooks.ensures_statement (fun _ => rfl) (fun _ => rfl) (fun _ => rfl)

end Standing

/-- Nothing was opened before the first session, so none is held. -/
theorem held_of_standing_nil (h : Standing [] c) : c.held = none ∧ c.opened = 0 := by
  have hopened : c.opened = 0 := List.range_eq_nil.1 h.books.opened.symm
  refine ⟨Option.eq_none_iff_forall_ne_some.2 ?_, hopened⟩
  intro session hheld
  rw [h.held session hheld] at hopened
  cases hopened

/-- **The first session** is opened, or cannot be opened; nothing is closed on the way. -/
theorem ensures_reconnect_nil (h : Standing [] c) (hdatabase : c.database = none) :
    c.reconnect.Ensures world Orderly [] (fun t' x => closed t' = [] ∧ Standing t' x.2) := by
  obtain ⟨hheld, hopened⟩ := held_of_standing_nil h
  have hbooks : Books 0 0 [] := books_nil
  -- There is no session to give up and no database to be set up again.
  unfold reconnect close
  simp only [hheld, hdatabase, hopened, Option.isSome_none, pure_eq_done, done_bind]
  refine (hbooks.ensures_connectFrom c.provider 1 _).bind ?_
  rintro t₁ (e | _) ht₁
  · exact ensures_done.2 ⟨Books.closed ht₁, .of_none rfl (.inr rfl) ht₁⟩
  · have ht₁ : Books 1 0 t₁ := ht₁
    refine (ht₁.ensures_noteReplaced _ false).bind ?_
    intro t₂ _ ht₂
    exact ensures_done.2 ⟨ht₂.closed, ht₂, by simp, by simp, by simp⟩

/-- **The first session to use:** nothing is closed before it is there. -/
theorem ensures_validated_nil (h : Standing [] c) (hdatabase : c.database = none) :
    c.validated.Ensures world Orderly [] (fun t' x => closed t' = [] ∧ Standing t' x.2 ∧
      ∀ session, x.1 = .ok session → x.2.held = some session) := by
  unfold validated answersProbe
  simp only [(held_of_standing_nil h).1, pure_eq_done, done_bind, Bool.false_eq_true, if_false]
  refine (ensures_reconnect_nil h hdatabase).bind ?_
  rintro t₁ ⟨result, c₁⟩ ⟨hclosed, h₁⟩
  cases result with
  | error e => exact ensures_done.2 ⟨hclosed, h₁, nofun⟩
  | ok _ =>
      cases hheld : c₁.held with
      | none => exact ensures_done.2 ⟨hclosed, h₁, nofun⟩
      | some session =>
          refine ensures_done.2 ⟨hclosed, h₁, ?_⟩
          rintro _ ⟨⟩
          exact hheld

/-- **The first database** is set up, or cannot be set up; nothing is closed on the way. -/
theorem ensures_setDatabase_nil (h : Standing [] c) (hdatabase : c.database = none)
    (name : String) :
    (c.setDatabase name).Ensures world Orderly []
      (fun t' x => closed t' = [] ∧ Standing t' x.2) := by
  unfold setDatabase
  cases checkIdentifier name with
  | error e => exact ensures_done.2 ⟨rfl, h⟩
  | ok _ =>
      refine (ensures_validated_nil h hdatabase).bind ?_
      rintro t₁ ⟨result, c₁⟩ ⟨hclosed, h₁, hheld⟩
      cases result with
      | error e => exact ensures_done.2 ⟨hclosed, h₁⟩
      | ok session =>
          have hbooks := h₁.books_of_held (hheld session rfl)
          refine (hbooks.ensures_setUp name c₁.precision).bind ?_
          intro t₂ result ht₂
          have hsame : closed t₂ = [] := ht₂.closed.trans (hbooks.closed.symm.trans hclosed)
          have h₂ := h₁.of_held (hheld session rfl) ht₂
          rcases result with e | _
          · exact ensures_done.2 ⟨hsame, h₂⟩
          · exact ensures_done.2 ⟨hsame, h₂.books, h₂.held, h₂.connected_iff, h₂.settled⟩

end Cache

end SeriesBridge
