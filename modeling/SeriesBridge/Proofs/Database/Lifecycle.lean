import SeriesBridge.Database.Cache
import SeriesBridge.Proofs.Dialogue.Recording

/-! # The life of sessions

A cache opens sessions, works on them and gives them up, and every one of these calls may fail, also
those that clear up after a failure. A course is **`Orderly`** when no failure costs a session its
order: each session is opened once and closed at most once, two are never live together, and nothing
is asked of one that is not live.

* **`Course.opened t`**, **`Course.closed t`**, **`Course.Live t k`** — the sessions that a course
  opened and closed, and those in between.
* **`Course.Books m n t`** — the numbers behind it: sessions are opened in turn and closed in turn.
* **`Cache.Standing t c`** — what the cache remembers agrees with the course so far.
* **`Cache.performAll c requests`** — what is asked of a cache, one request after another.
* **`Cache.orderly_performAll`** — every course of it is orderly, and the session that is held at its
  end is the one that is live. -/

namespace SeriesBridge

open Dialogue

/-! ## What a course tells -/

/-- The session that an exchange opened. -/
def Exchange.opened? : Exchange Link → Option Nat
  | ⟨.database (.connect session _ _), .ok ()⟩ => some session
  | _ => none

/-- The session that an exchange closed. A session that could not be closed is given up too. -/
def Exchange.closed? : Exchange Link → Option Nat
  | ⟨.database (.close session), _⟩ => some session
  | _ => none

/-- The session that an exchange needs. An exchange that opens a session needs none. -/
def Exchange.needs? : Exchange Link → Option Nat
  | ⟨.database (.connect ..), _⟩ => none
  | ⟨.database call, _⟩ => some call.session
  | _ => none

namespace Course

/-- **The sessions that were opened** in a course. -/
def opened (t : List (Exchange Link)) : List Nat := t.filterMap Exchange.opened?

/-- **The sessions that were closed** in a course. -/
def closed (t : List (Exchange Link)) : List Nat := t.filterMap Exchange.closed?

/-- **A session is live** from when it is opened until it is closed. -/
def Live (t : List (Exchange Link)) (session : Nat) : Prop :=
  session ∈ opened t ∧ session ∉ closed t

/-- **A course is orderly** when no session is opened twice or closed twice, no two are live at the
end, and every exchange that needs a session came while it was live. -/
structure Orderly (t : List (Exchange Link)) : Prop where
  opened : (opened t).Nodup
  closed : (closed t).Nodup
  alone : ∀ j k, Live t j → Live t k → j = k
  needs : ∀ s e u k, t = s ++ e :: u → e.needs? = some k → Live s k

/-- One exchange more adds the session that it opened. -/
@[simp] theorem opened_append_singleton (t : List (Exchange Link)) (e : Exchange Link) :
    opened (t ++ [e]) = opened t ++ e.opened?.toList := by
  unfold opened
  rw [List.filterMap_append]
  cases h : e.opened? <;> simp [h]

/-- One exchange more adds the session that it closed. -/
@[simp] theorem closed_append_singleton (t : List (Exchange Link)) (e : Exchange Link) :
    closed (t ++ [e]) = closed t ++ e.closed?.toList := by
  unfold closed
  rw [List.filterMap_append]
  cases h : e.closed? <;> simp [h]

/-! ## The books of a course -/

/-- **The books of an orderly course:** the sessions below `m` were opened, one after the other, and
those below `n` closed, one after the other, all but one at least. -/
structure Books (m n : Nat) (t : List (Exchange Link)) : Prop where
  orderly : Orderly t
  opened : opened t = List.range m
  closed : closed t = List.range n
  one : m ≤ n + 1

/-- **The books open** with no session. -/
theorem books_nil : Books 0 0 [] where
  orderly :=
    { opened := List.nodup_nil
      closed := List.nodup_nil
      alone := by
        rintro j k ⟨h, -⟩
        cases h
      needs := by
        intro s e u k h
        simp at h }
  opened := rfl
  closed := rfl
  one := Nat.zero_le 1

/-- The live sessions are those from `n` on below `m`. -/
theorem live_iff {m n k : Nat} {t : List (Exchange Link)} (hopened : Course.opened t = List.range m)
    (hclosed : Course.closed t = List.range n) : Live t k ↔ n ≤ k ∧ k < m := by
  rw [Live, hopened, hclosed, List.mem_range, List.mem_range, Nat.not_lt]
  exact And.comm

namespace Books

variable {m n m' n' : Nat} {t : List (Exchange Link)} {e : Exchange Link}

/-- The session that was opened last is live until it is closed. -/
theorem live (h : Books (n + 1) n t) : Live t n :=
  (live_iff h.opened h.closed).2 ⟨Nat.le_refl n, Nat.lt_succ_self n⟩

/-- **One exchange more.** The course stays orderly if what the exchange needs is live, and if there
is at most one session opened that is not closed. -/
theorem append_singleton (h : Books m n t) (hneeds : ∀ k, e.needs? = some k → Live t k)
    (hopened : List.range m ++ e.opened?.toList = List.range m')
    (hclosed : List.range n ++ e.closed?.toList = List.range n') (one : m' ≤ n' + 1) :
    Books m' n' (t ++ [e]) := by
  have hm' : Course.opened (t ++ [e]) = List.range m' := by
    rw [opened_append_singleton, h.opened, hopened]
  have hn' : Course.closed (t ++ [e]) = List.range n' := by
    rw [closed_append_singleton, h.closed, hclosed]
  refine ⟨⟨hm' ▸ List.nodup_range, hn' ▸ List.nodup_range, ?_, ?_⟩, hm', hn', one⟩
  · intro j k hj hk
    have hj := (live_iff hm' hn').1 hj
    have hk := (live_iff hm' hn').1 hk
    omega
  · intro s e' u k ht hk
    -- The exchange is the last one, or one of the course before it.
    rcases List.eq_nil_or_concat u with rfl | ⟨u, x, rfl⟩
    · obtain ⟨rfl, hlast⟩ := List.append_inj' ht rfl
      cases hlast
      exact hneeds k hk
    · rw [List.concat_eq_append, ← List.cons_append, ← List.append_assoc] at ht
      obtain ⟨rfl, -⟩ := List.append_inj' ht rfl
      exact h.orderly.needs s e' u k rfl hk

end Books

/-- **The books after an attempt to open a session** while none was live. -/
def Attempted (n : Nat) (t : List (Exchange Link)) : Outcome Unit → Prop
  | .error _ => Books n n t
  | .ok _ => Books (n + 1) n t

/-- **The world that remembers its course.** Anything may be answered. -/
def world : Behaviour Link (List (Exchange Link)) := .recording (fun _ => True)

namespace Books

variable {m n session : Nat} {t : List (Exchange Link)}

/-- A call that neither opens nor closes a session leaves the books as they are. -/
theorem ensures_ask (h : Books m n t) {q : LinkCall}
    (hopened : ∀ r, Exchange.opened? ⟨q, r⟩ = none) (hclosed : ∀ r, Exchange.closed? ⟨q, r⟩ = none)
    (hneeds : ∀ r k, Exchange.needs? ⟨q, r⟩ = some k → Live t k) :
    (ask (I := Link) q).Ensures world Orderly t (fun t' _ => Books m n t') := by
  refine Dialogue.ensures_ask.2 ?_
  rintro r _ ⟨-, rfl⟩
  have hbooks : Books m n (t ++ [⟨q, r⟩]) := h.append_singleton (hneeds r)
    (by rw [hopened, Option.toList_none, List.append_nil])
    (by rw [hclosed, Option.toList_none, List.append_nil]) h.one
  exact ⟨hbooks.orderly, hbooks⟩

/-- **A statement on the live session** leaves the books as they are. -/
theorem ensures_statement (h : Books (session + 1) session t) {q : LinkCall}
    (hopened : ∀ r, Exchange.opened? ⟨q, r⟩ = none) (hclosed : ∀ r, Exchange.closed? ⟨q, r⟩ = none)
    (hneeds : ∀ r, Exchange.needs? ⟨q, r⟩ = some session) :
    (ask (I := Link) q).Ensures world Orderly t (fun t' _ => Books (session + 1) session t') := by
  refine h.ensures_ask hopened hclosed ?_
  intro r k hk
  rw [hneeds] at hk
  cases hk
  exact h.live

/-- **Closing the live session** closes the next one in turn, whether or not it succeeds. -/
theorem ensures_close (h : Books (session + 1) session t) :
    (Link.close session).Ensures world Orderly t
      (fun t' _ => Books (session + 1) (session + 1) t') := by
  refine Dialogue.ensures_ask.2 ?_
  rintro r _ ⟨-, rfl⟩
  have hbooks : Books (session + 1) (session + 1) (t ++ [⟨.database (.close session), r⟩]) := by
    refine h.append_singleton ?_ (List.append_nil _) List.range_succ.symm (Nat.le_succ _)
    rintro k ⟨⟩
    exact h.live
  exact ⟨hbooks.orderly, hbooks⟩

/-- **An attempt to open a session** while none is live: it opens the next one in turn, or none. -/
theorem ensures_connect (h : Books n n t) (endpoint : Endpoint) (credentials : Credentials) :
    (Link.connect n endpoint credentials).Ensures world Orderly t (Attempted n) := by
  refine Dialogue.ensures_ask.2 ?_
  rintro (e | _) _ ⟨-, rfl⟩
  · have hbooks : Books n n (t ++ [⟨.database (.connect n endpoint credentials), .error e⟩]) :=
      h.append_singleton (by rintro k ⟨⟩) (List.append_nil _) (List.append_nil _) (Nat.le_succ n)
    exact ⟨hbooks.orderly, hbooks⟩
  · have hbooks : Books (n + 1) n (t ++ [⟨.database (.connect n endpoint credentials), .ok ()⟩]) :=
      h.append_singleton (by rintro k ⟨⟩) List.range_succ.symm (List.append_nil _) (Nat.le_refl _)
    exact ⟨hbooks.orderly, hbooks⟩

/-- Opening a session, with as many attempts as there are: at most the last one opens one. -/
theorem ensures_connectFrom (h : Books n n t) (p : Provider) (attempt left : Nat) :
    (p.connectFrom n attempt left).Ensures world Orderly t (Attempted n) := by
  induction left generalizing attempt t with
  | zero =>
      refine (h.ensures_connect p.endpoint p.credentials).bind ?_
      rintro t' (e | _) ht'
      · exact ensures_done.2 ht'
      · exact ensures_done.2 ht'
  | succ left ih =>
      refine (h.ensures_connect p.endpoint p.credentials).bind ?_
      rintro t' (e | _) ht'
      · by_cases he : e.isRetryable
        · -- The attempt opened nothing, so the next one is for the same number.
          simp only [if_pos he]
          have ht' : Books n n t' := ht'
          refine (ht'.ensures_ask (fun _ => rfl) (fun _ => rfl) (by rintro r k ⟨⟩)).bind ?_
          intro t'' _ ht''
          exact ih ht'' (attempt + 1)
        · simp only [if_neg he]
          exact ensures_done.2 ht'
      · exact ensures_done.2 ht'

/-- Setting up a database on the live session leaves the books as they are. -/
theorem ensures_setUp (h : Books (session + 1) session t) (name : String) (precision : Precision) :
    (Cache.setUp session name precision).Ensures world Orderly t
      (fun t' _ => Books (session + 1) session t') := by
  refine (h.ensures_statement (fun _ => rfl) (fun _ => rfl) (fun _ => rfl)).bind ?_
  rintro t' (e | _) ht'
  · exact ensures_done.2 ht'
  · refine (ht'.ensures_statement (fun _ => rfl) (fun _ => rfl) (fun _ => rfl)).bind ?_
    rintro t'' (e | _) ht''
    · exact ensures_done.2 ht''
    · exact ensures_done.2 ht''

/-- Taking a reading leaves the books as they are. -/
theorem ensures_noteReplaced (h : Books m n t) (c : Cache) (replacing : Bool) :
    (c.noteReplaced replacing).Ensures world Orderly t (fun t' _ => Books m n t') := by
  unfold Cache.noteReplaced
  cases c.meter with
  | none => exact ensures_done.2 h
  | some meter =>
      cases replacing with
      | false => exact ensures_done.2 h
      | true => exact h.ensures_ask (fun _ => rfl) (fun _ => rfl) (by rintro r k ⟨⟩)

end Books

end Course

/-! ## The standing of a cache -/

namespace Cache

open Course

/-- **A cache stands as its course says:** the session that is held is the last one opened and the
only one not closed, and the state tells whether there is one. -/
structure Standing (t : List (Exchange Link)) (c : Cache) : Prop where
  books : Books c.opened (c.held.getD c.opened) t
  held : ∀ session, c.held = some session → c.opened = session + 1
  connected_iff : c.state = .connected ↔ c.held.isSome
  settled : c.state ≠ .connecting

variable {t : List (Exchange Link)} {c : Cache}

namespace Standing

/-- A cache without a session stands as its course says when each session is closed. -/
theorem of_none (hheld : c.held = none) (hstate : c.state = .disconnected ∨ c.state = .failed)
    (h : Books c.opened c.opened t) : Standing t c where
  books := by
    rw [hheld]
    exact h
  held := by simp [hheld]
  connected_iff := by rcases hstate with h | h <;> simp [h, hheld]
  settled := by rcases hstate with h | h <;> simp [h]

/-- The books while a session is held. -/
theorem books_of_held (h : Standing t c) {session : Nat} (hheld : c.held = some session) :
    Books (session + 1) session t := by
  have hbooks := h.books
  rw [hheld, h.held session hheld] at hbooks
  exact hbooks

/-- The books while no session is held. -/
theorem books_of_none (h : Standing t c) (hheld : c.held = none) : Books c.opened c.opened t := by
  have hbooks := h.books
  rw [hheld] at hbooks
  exact hbooks

/-- What happens to the session that is held, without opening or closing one, is all the same to the
standing. -/
theorem of_held (h : Standing t c) {session : Nat} (hheld : c.held = some session)
    {t' : List (Exchange Link)} (ht' : Books (session + 1) session t') : Standing t' c where
  books := by
    rw [hheld, h.held session hheld]
    exact ht'
  held := h.held
  connected_iff := h.connected_iff
  settled := h.settled

/-- **The session that is held is the one that is live.** -/
theorem live_iff (h : Standing t c) {session : Nat} : Live t session ↔ c.held = some session := by
  rw [Course.live_iff h.books.opened h.books.closed]
  cases hheld : c.held with
  | none =>
      rw [Option.getD_none]
      constructor
      · rintro ⟨hle, hlt⟩
        exact absurd hle (Nat.not_le.2 hlt)
      · intro hnone
        cases hnone
  | some k =>
      rw [Option.getD_some, h.held k hheld, Nat.lt_succ_iff, Option.some.injEq]
      exact Nat.le_antisymm_iff.symm

/-- **As many sessions were opened as were closed,** and one more while one is held. -/
theorem length_opened (h : Standing t c) :
    (Course.opened t).length = (Course.closed t).length + (if c.held.isSome then 1 else 0) := by
  rw [h.books.opened, h.books.closed, List.length_range, List.length_range]
  cases hheld : c.held with
  | none => rfl
  | some session => exact h.held session hheld

/-- **Giving the session up** leaves none. -/
theorem ensures_close (h : Standing t c) :
    c.close.Ensures world Orderly t (fun t' c' => Standing t' c' ∧ c'.held = none) := by
  unfold Cache.close
  cases hheld : c.held with
  | none =>
      exact ensures_done.2 ⟨of_none rfl (.inl rfl) (h.books_of_none hheld), rfl⟩
  | some session =>
      refine ((h.books_of_held hheld).ensures_close).bind ?_
      intro t' _ ht'
      -- It was the last session that was opened, so none is live now.
      rw [← h.held session hheld] at ht'
      exact ensures_done.2 ⟨of_none rfl (.inl rfl) ht', rfl⟩

/-- **A session in the place of the old one,** or none: also a session whose database could not be
set up is closed again. -/
theorem ensures_reconnect (h : Standing t c) :
    c.reconnect.Ensures world Orderly t (fun t' x => Standing t' x.2) := by
  unfold Cache.reconnect
  refine h.ensures_close.bind ?_
  rintro t₁ c₁ ⟨h₁, hheld⟩
  refine ((h₁.books_of_none hheld).ensures_connectFrom c₁.provider 1 _).bind ?_
  rintro t₂ (e | _) ht₂
  · exact ensures_done.2 (of_none hheld (.inr rfl) ht₂)
  · -- From here on the new session is live, but it is not held before its database is set up.
    have ht₂ : Books (c₁.opened + 1) c₁.opened t₂ := ht₂
    refine Ensures.bind (m := fun t' _ => Books (c₁.opened + 1) c₁.opened t') ?_ ?_
    · cases c₁.database with
      | none => exact ensures_done.2 ht₂
      | some name => exact ht₂.ensures_setUp name c₁.precision
    rintro t₃ (e | _) ht₃
    · refine ht₃.ensures_close.bind ?_
      intro t₄ _ ht₄
      exact ensures_done.2 (of_none hheld (.inr rfl) ht₄)
    · refine (ht₃.ensures_noteReplaced _ c.held.isSome).bind ?_
      intro t₄ _ ht₄
      exact ensures_done.2 ⟨ht₄, by simp, by simp, by simp⟩

/-- The probe leaves the standing as it is. -/
theorem ensures_answersProbe (h : Standing t c) :
    c.answersProbe.Ensures world Orderly t (fun t' _ => Standing t' c) := by
  unfold Cache.answersProbe
  cases hheld : c.held with
  | none => exact ensures_done.2 h
  | some session =>
      refine ((h.books_of_held hheld).ensures_statement (fun _ => rfl) (fun _ => rfl)
        (fun _ => rfl)).bind ?_
      rintro t' (e | _) ht'
      · exact ensures_done.2 (h.of_held hheld ht')
      · exact ensures_done.2 (h.of_held hheld ht')

/-- **The session to use is the one that is held.** -/
theorem ensures_validated (h : Standing t c) :
    c.validated.Ensures world Orderly t (fun t' x => Standing t' x.2 ∧
      ∀ session, x.1 = .ok session → x.2.held = some session) := by
  unfold Cache.validated
  refine h.ensures_answersProbe.bind ?_
  intro t₁ answers h₁
  -- Whichever way the cache comes to stand, only a session that is held is handed out.
  refine Ensures.ite_bind (m := fun t' (x : Outcome Unit × Cache) => Standing t' x.2) ?_ ?_ ?_
  · intro _
    exact ensures_done.2 h₁
  · intro _
    exact h₁.ensures_reconnect
  · rintro t₂ ⟨result, c₂⟩ h₂
    cases result with
    | error e => exact ensures_done.2 ⟨h₂, by simp⟩
    | ok _ =>
        cases hheld : c₂.held with
        | none => simp only [hheld]; exact ensures_done.2 ⟨h₂, by simp⟩
        | some session =>
            simp only [hheld]
            refine ensures_done.2 ⟨h₂, ?_⟩
            rintro _ ⟨⟩
            exact hheld

/-- **Working on a database** keeps the standing. -/
theorem ensures_setDatabase (h : Standing t c) (name : String) :
    (c.setDatabase name).Ensures world Orderly t (fun t' x => Standing t' x.2) := by
  unfold Cache.setDatabase
  cases checkIdentifier name with
  | error e => exact ensures_done.2 h
  | ok _ =>
      refine h.ensures_validated.bind ?_
      rintro t₁ ⟨session, c₁⟩ ⟨h₁, hheld⟩
      cases session with
      | error e => exact ensures_done.2 h₁
      | ok session =>
          refine ((h₁.books_of_held (hheld session rfl)).ensures_setUp name c₁.precision).bind ?_
          rintro t₂ (e | _) ht₂
          · -- The session stays held, although the database could not be set up on it.
            exact ensures_done.2 (h₁.of_held (hheld session rfl) ht₂)
          · have h₂ := h₁.of_held (hheld session rfl) ht₂
            exact ensures_done.2 ⟨h₂.books, h₂.held, h₂.connected_iff, h₂.settled⟩

/-- **A call on the session** keeps the standing, if it leaves the books as they are. -/
theorem ensures_use (h : Standing t c) {α : Type} (sql : String)
    (call : Nat → Dialogue Link (Outcome α))
    (hcall : ∀ session t', Books (session + 1) session t' →
      (call session).Ensures world Orderly t' (fun t'' _ => Books (session + 1) session t'')) :
    (c.use sql call).Ensures world Orderly t (fun t' x => Standing t' x.2) := by
  unfold Cache.use
  refine h.ensures_validated.bind ?_
  rintro t₁ ⟨session, c₁⟩ ⟨h₁, hheld⟩
  cases session with
  | error e => exact ensures_done.2 h₁
  | ok session =>
      refine (hcall session t₁ (h₁.books_of_held (hheld session rfl))).bind ?_
      rintro t₂ (e | a) ht₂
      · exact ensures_done.2 (h₁.of_held (hheld session rfl) ht₂)
      · exact ensures_done.2 (h₁.of_held (hheld session rfl) ht₂)

end Standing

/-! ## One request after another -/

/-- **What may be asked of a cache.** -/
inductive Request where
  /-- A session that answers. -/
  | session
  | setDatabase (name : String)
  | execute (sql : String)
  | query (sql : String)
  | write (lines : List String) (protocol : Protocol) (precision : Precision)
  | close
  deriving Repr

/-- **Carry out a request.** What it comes to is of no interest here, only what becomes of the
cache. -/
def perform (c : Cache) : Request → Dialogue Link Cache
  | .session => do return (← c.validated).2
  | .setDatabase name => do return (← c.setDatabase name).2
  | .execute sql => do return (← c.execute sql).2
  | .query sql => do return (← c.query sql).2
  | .write lines protocol precision => do return (← c.write lines protocol precision).2
  | .close => c.close

/-- **Carry out requests,** one after another. -/
def performAll (c : Cache) : List Request → Dialogue Link Cache
  | [] => pure c
  | request :: requests => do (← c.perform request).performAll requests

/-- **Every request keeps the standing,** whatever fails. -/
theorem Standing.ensures_perform (h : Standing t c) (request : Request) :
    (c.perform request).Ensures world Orderly t Standing := by
  cases request with
  | session => exact h.ensures_validated.bind (fun _ _ hx => ensures_done.2 hx.1)
  | setDatabase name => exact (h.ensures_setDatabase name).bind (fun _ _ hx => ensures_done.2 hx)
  | execute sql =>
      refine (h.ensures_use sql _ ?_).bind (fun _ _ hx => ensures_done.2 hx)
      intro session t' ht'
      exact ht'.ensures_statement (fun _ => rfl) (fun _ => rfl) (fun _ => rfl)
  | query sql =>
      refine (h.ensures_use sql _ ?_).bind (fun _ _ hx => ensures_done.2 hx)
      intro session t' ht'
      exact ht'.ensures_statement (fun _ => rfl) (fun _ => rfl) (fun _ => rfl)
  | write lines protocol precision =>
      cases lines with
      | nil => exact ensures_done.2 h
      | cons first rest =>
          refine (h.ensures_use _ _ ?_).bind (fun _ _ hx => ensures_done.2 hx)
          intro session t' ht'
          exact ht'.ensures_statement (fun _ => rfl) (fun _ => rfl) (fun _ => rfl)
  | close => exact h.ensures_close.mono (fun _ _ hx => hx.1)

/-- **Requests keep the standing,** however many there are. -/
theorem Standing.ensures_performAll (h : Standing t c) (requests : List Request) :
    (c.performAll requests).Ensures world Orderly t Standing := by
  induction requests generalizing t c with
  | nil => exact ensures_done.2 h
  | cons request requests ih => exact (h.ensures_perform request).bind (fun _ _ h' => ih h')

/-- A cache that nothing was asked of yet. -/
theorem standing_new (provider : Provider) (precision : Precision) (meter : Option Meter) :
    Standing [] { provider, precision, meter } :=
  .of_none rfl (.inl rfl) books_nil

/-- **One session at a time.** Whatever is asked of a new cache, and whatever fails on the way, every
course is orderly at every moment. After each request the state tells whether a session is held, as
many sessions were opened as were closed, and one more while one is held, and the session that is
held is the one that is live. -/
theorem orderly_performAll (provider : Provider) (precision : Precision) (meter : Option Meter)
    (requests : List Request) :
    (∀ t, Reaches (performAll { provider, precision, meter } requests) t → Orderly t) ∧
      ∀ t c, Runs (performAll { provider, precision, meter } requests) t c →
        (c.state = .connected ↔ c.held.isSome) ∧ c.state ≠ .connecting ∧
        (Course.opened t).length = (Course.closed t).length + (if c.held.isSome then 1 else 0) ∧
        ∀ session, Live t session ↔ c.held = some session := by
  -- Nothing was opened yet, and from here on anything may be answered.
  have hnew := standing_new provider precision meter
  have hensures := hnew.ensures_performAll requests
  have hfollows : ∀ t, world.Follows [] t t := fun t =>
    Behaviour.follows_recording [] (fun _ _ => trivial)
  constructor
  · intro t ht
    exact hensures.of_reaches hnew.books.orderly ht (hfollows t)
  · intro t c ht
    have h : Standing t c := hensures.of_runs ht (hfollows t)
    exact ⟨h.connected_iff, h.settled, h.length_opened, fun _ => h.live_iff⟩

/-- The answer to a call with a number, where those with given numbers fail. -/
def answerUnless {α : Type} (failing : List Nat) (number : Nat) (a : α) : Outcome α :=
  if number ∈ failing then .error (.retryable "gone" none) else .ok a

/-- **A database that fails at given calls,** numbered from the first one on. -/
def answerFailing (failing : List Nat) (number : Nat) : (q : LinkCall) → q.Answer × Nat
  | .database (.connect ..) => (answerUnless failing number (), number + 1)
  | .database (.execute ..) => (answerUnless failing number false, number + 1)
  | .database (.query ..) => (answerUnless failing number {}, number + 1)
  | .database (.select ..) => (answerUnless failing number (), number + 1)
  | .database (.write ..) => (answerUnless failing number (), number + 1)
  | .database (.close _) => (answerUnless failing number (), number + 1)
  | .pause _ => ((), number)
  | .note _ => ((), number)
  | .now => (⟨0, 0⟩, number)

/-- A provider that tries once. -/
def powerProvider : Provider where
  endpoint := ⟨false, "h", 6041, none, none, none⟩
  credentials := {}
  policy := .once

/-- A database is set up and asked, and a session is asked for. -/
def powerRequests : List Request := [.setDatabase "power", .query "SELECT 1", .session]

/-- **A course with failures also in clearing up:** the first session stops answering and cannot be
closed; on the second one the database cannot be selected, and it cannot be closed either; the third
one is good. -/
def powerCourse : List (Exchange Link) × Cache :=
  (performAll { provider := powerProvider, precision := .millis } powerRequests).courseWith
    (answerFailing [3, 4, 7, 8]) 0

/-- It is one that the requests can take. -/
theorem runs_powerCourse :
    Runs (performAll { provider := powerProvider, precision := .millis } powerRequests)
      powerCourse.1 powerCourse.2 :=
  runs_courseWith (I := Link) (answerFailing [3, 4, 7, 8]) _ 0

/-- Two sessions were given up in turn, and the third one is held. -/
theorem orderly_powerCourse :
    Orderly powerCourse.1 ∧ powerCourse.2.state = .connected ∧ Live powerCourse.1 2 ∧
      Course.closed powerCourse.1 = [0, 1] ∧ (Course.opened powerCourse.1).length = 3 := by
  obtain ⟨horderly, hends⟩ := orderly_performAll powerProvider .millis none powerRequests
  obtain ⟨hstate, -, hlength, hlive⟩ := hends _ _ runs_powerCourse
  have hheld : powerCourse.2.held = some 2 := by decide +kernel
  have hclosed : Course.closed powerCourse.1 = [0, 1] := by decide +kernel
  rw [hheld, hclosed] at hlength
  exact ⟨horderly _ runs_powerCourse.reaches, hstate.2 (by rw [hheld]; rfl), (hlive 2).2 hheld,
    hclosed, hlength⟩

end Cache

end SeriesBridge
