import SeriesBridge.Pipeline.Publication
import SeriesBridge.Proofs.Dialogue.Recording
import SeriesBridge.Proofs.Offset.Latest

/-! # The protocol of a publication

Whatever a source, a receiver and a store answer, a publication keeps to one order of things: a batch
is given out record by record, flushed, its offsets are kept, and only then the source moves on. After
a failure nothing of the batch follows, and the next thing is another round; without one nothing of the
batch is left out.

* **`Publication.events t`** — what a course tells of batches.
* **`Publication.Done records u`**, **`Publication.Concluded es`** — a batch was published whole; the last
  one was, or a step of it failed.
* **`Publication.Allowed before e`** — when an event may come, after those before it.
* **`Publication.Disciplined es`** — every event was allowed when it came, and failures are followed by
  another round.
* **`Publication.Within.ensures_publish`**, **`Publication.Between.ensures_round`** — one round keeps
  to the order.
* **`Publication.disciplined_of_run`** — every course of a run keeps to it, and only a request to stop
  ends a run that has begun. -/

namespace SeriesBridge.Publication

open Dialogue

/-! ## Events -/

/-- **What happens to batches** in a run, with what came of it. -/
inductive Event where
  /-- The run was asked to stop, or not. -/
  | asked (stops : Bool)
  | polled (result : Outcome (List Outgoing))
  | emitted (record : Outgoing) (result : Outcome Unit)
  | flushed (result : Outcome Unit)
  | stored (offsets : List Offset) (result : Outcome Unit)
  | committed (offsets : List Offset) (result : Outcome Unit)

namespace Event

/-- **A step of a batch that failed.** -/
inductive Fails : Event → Prop where
  | emitted (record : Outgoing) (e : Error) : Fails (.emitted record (.error e))
  | flushed (e : Error) : Fails (.flushed (.error e))
  | stored (offsets : List Offset) (e : Error) : Fails (.stored offsets (.error e))
  | committed (offsets : List Offset) (e : Error) : Fails (.committed offsets (.error e))

/-- **What a step of a batch may follow.** -/
inductive Succeeds : Event → Prop where
  | polled (records : List Outgoing) : Succeeds (.polled (.ok records))
  | out (record : Outgoing) : Succeeds (.emitted record (.ok ()))
  | flushed : Succeeds (.flushed (.ok ()))
  | stored (offsets : List Offset) : Succeeds (.stored offsets (.ok ()))

/-- Whether an event is a step of a batch. -/
def isStep : Event → Bool
  | asked _ => false
  | polled _ => false
  | _ => true

/-- Whether an event is a poll. -/
def isPoll : Event → Bool
  | polled _ => true
  | _ => false

/-- A record that was given out. -/
def out (record : Outgoing) : Event := .emitted record (.ok ())

end Event

/-- The event of an exchange, if it has to do with batches. -/
def event? : Exchange PublicationHost → Option Event
  | ⟨.inl .poll, r⟩ => some (.polled r)
  | ⟨.inl (.commit offsets), r⟩ => some (.committed offsets r)
  | ⟨.inr (.store offsets), r⟩ => some (.stored offsets r)
  | ⟨.inr (.emit record), r⟩ => some (.emitted record r)
  | ⟨.inr .flush, r⟩ => some (.flushed r)
  | ⟨.inr .stopping, r⟩ => some (.asked r)
  | _ => none

/-- **The events of a course,** in their order. -/
def events (t : List (Exchange PublicationHost)) : List Event := t.filterMap event?

/-! ## Batches that are through -/

/-- **The steps of a batch that was published whole,** behind its poll: all records were given out in
their order and flushed, the last offsets of each partition were kept, and the source moved on to them.
Records without offsets are only given out and flushed, and for no records nothing is done. -/
inductive Done : List Outgoing → List Event → Prop where
  | nothing : Done [] []
  | unplaced {records : List Outgoing} (hrecords : records ≠ [])
      (hoffsets : records.filterMap Outgoing.offset = []) :
      Done records (records.map .out ++ [.flushed (.ok ())])
  | placed {records : List Outgoing} {offsets : List Offset}
      (hoffsets : records.filterMap Outgoing.offset ≠ [])
      (hlast : Offset.LastOfEach (records.filterMap Outgoing.offset) offsets) :
      Done records (records.map .out ++
        [.flushed (.ok ()), .stored offsets (.ok ()), .committed offsets (.ok ())])

/-- **The last batch is through:** the steps behind its poll end with one that failed, or it was published
whole. -/
def Concluded (es : List Event) : Prop :=
  ∀ s records u, es = s ++ .polled (.ok records) :: u → (∀ x ∈ u, x.isStep) →
    (∃ v x, u = v ++ [x] ∧ x.Fails) ∨ Done records u

/-! ## The order of events -/

/-- **When an event may come,** after the events before it. -/
def Allowed (before : List Event) : Event → Prop
  -- A round has to get beyond its beginning and through with its batch before the next one begins.
  | .asked _ => (∀ s stops, before ≠ s ++ [.asked stops]) ∧ Concluded before
  | .polled _ => ∃ s, before = s ++ [.asked false]
  -- A record comes behind those before it in its batch, and all of them were given out.
  | .emitted record _ => ∃ s given rest,
      before = s ++ .polled (.ok (given ++ record :: rest)) :: given.map .out
  | .flushed _ => ∃ s records, before = s ++ .polled (.ok records) :: records.map .out
  | .stored offsets _ => ∃ s records,
      before = s ++ .polled (.ok records) :: (records.map .out ++ [.flushed (.ok ())]) ∧
        Offset.LastOfEach (records.filterMap Outgoing.offset) offsets
  | .committed offsets _ => ∃ s, before = s ++ [.stored offsets (.ok ())]

/-- **Events in order.** Each was allowed when it came, and behind a step that failed there is nothing
but another round, which polls unless the run has to stop. -/
structure Disciplined (es : List Event) : Prop where
  allowed : ∀ s e u, es = s ++ e :: u → Allowed s e
  resumes : ∀ s e u, es = s ++ e :: u → e.Fails →
    u = [] ∨ u = [.asked true] ∨ u = [.asked false] ∨ ∃ r v, u = .asked false :: .polled r :: v

variable {before es : List Event} {e x : Event} {m : Nat} {record : Outgoing}
  {records : List Outgoing}

/-- Behind a poll, and behind records that were given out after it, comes a step after a success. -/
theorem exists_succeeds (s : List Event) (records given : List Outgoing) :
    ∃ s' x, s ++ .polled (.ok records) :: given.map .out = s' ++ [x] ∧ x.Succeeds := by
  rcases List.eq_nil_or_concat given with rfl | ⟨given, record, rfl⟩
  · exact ⟨s, _, rfl, .polled records⟩
  · refine ⟨s ++ .polled (.ok records) :: given.map .out, .out record, ?_, .out record⟩
    rw [List.concat_eq_append, List.map_append, ← List.cons_append, ← List.append_assoc]
    rfl

/-- **A step comes after a success,** and after nothing else. -/
theorem succeeds_of_allowed (h : Allowed (before ++ [x]) e) :
    (∃ stops, e = .asked stops) ∨ (∃ r, e = .polled r) ∨ x.Succeeds := by
  have hlast : ∀ {s : List Event} {y}, before ++ [x] = s ++ [y] → y.Succeeds → x.Succeeds := by
    intro s y heq hy
    obtain ⟨-, hxy⟩ := List.append_inj' heq rfl
    cases hxy
    exact hy
  cases e with
  | asked stops => exact .inl ⟨stops, rfl⟩
  | polled r => exact .inr (.inl ⟨r, rfl⟩)
  | emitted record r =>
      obtain ⟨s, given, rest, heq⟩ := h
      obtain ⟨s', y, heq', hy⟩ := exists_succeeds s (given ++ record :: rest) given
      exact .inr (.inr (hlast (heq.trans heq') hy))
  | flushed r =>
      obtain ⟨s, records, heq⟩ := h
      obtain ⟨s', y, heq', hy⟩ := exists_succeeds s records records
      exact .inr (.inr (hlast (heq.trans heq') hy))
  | stored offsets r =>
      obtain ⟨s, records, heq, -⟩ := h
      rw [← List.cons_append, ← List.append_assoc] at heq
      exact .inr (.inr (hlast heq .flushed))
  | committed offsets r =>
      obtain ⟨s, heq⟩ := h
      exact .inr (.inr (hlast heq (.stored offsets)))

/-- Behind a step that failed there is another round. -/
theorem asked_of_allowed_fails (h : Allowed (before ++ [x]) e) (hx : x.Fails) :
    ∃ stops, e = .asked stops := by
  rcases succeeds_of_allowed h with hasked | ⟨r, rfl⟩ | hsucceeds
  · exact hasked
  · obtain ⟨s, heq⟩ := h
    obtain ⟨-, hlast⟩ := List.append_inj' heq rfl
    cases hlast
    cases hx
  · cases hx <;> cases hsucceeds

/-- Behind a request to stop there is nothing, and behind another one there is a poll. -/
theorem polled_of_allowed_asked {stops : Bool} (h : Allowed (before ++ [.asked stops]) e) :
    stops = false ∧ ∃ r, e = .polled r := by
  rcases succeeds_of_allowed h with ⟨stops', rfl⟩ | ⟨r, rfl⟩ | hsucceeds
  · exact absurd rfl (h.1 before stops)
  · obtain ⟨s, heq⟩ := h
    obtain ⟨-, hlast⟩ := List.append_inj' heq rfl
    cases hlast
    exact ⟨rfl, r, rfl⟩
  · cases hsucceeds

/-- **Events are in order when each was allowed:** the round behind a failure is nothing more. -/
theorem Disciplined.of_allowed (h : ∀ s e u, es = s ++ e :: u → Allowed s e) : Disciplined es where
  allowed := h
  resumes := by
    rintro s x (_ | ⟨e₁, _ | ⟨e₂, v⟩⟩) rfl hx
    · exact .inl rfl
    · obtain ⟨stops, rfl⟩ := asked_of_allowed_fails (h (s ++ [x]) e₁ [] (by simp)) hx
      cases stops with
      | true => exact .inr (.inl rfl)
      | false => exact .inr (.inr (.inl rfl))
    · obtain ⟨stops, rfl⟩ := asked_of_allowed_fails (h (s ++ [x]) e₁ (e₂ :: v) (by simp)) hx
      obtain ⟨rfl, r, rfl⟩ :=
        polled_of_allowed_asked (h (s ++ [x] ++ [.asked stops]) e₂ v (by simp))
      exact .inr (.inr (.inr ⟨r, v, rfl⟩))

/-- No events are in order. -/
theorem disciplined_nil : Disciplined [] := .of_allowed (by simp)

/-- **One event more** stays in order if it is allowed. -/
theorem Disciplined.append_singleton (h : Disciplined es) (he : Allowed es e) :
    Disciplined (es ++ [e]) := by
  refine .of_allowed ?_
  intro s x u heq
  rcases List.eq_nil_or_concat u with rfl | ⟨u, y, rfl⟩
  · obtain ⟨rfl, hx⟩ := List.append_inj' heq rfl
    cases hx
    exact he
  · rw [List.concat_eq_append, ← List.cons_append, ← List.append_assoc] at heq
    obtain ⟨rfl, -⟩ := List.append_inj' heq rfl
    exact h.allowed s x u rfl

/-! ### The last batch -/

/-- **A batch is through when a step of it failed,** and there is none behind a poll that failed. -/
theorem Concluded.append_singleton (hpoll : ∀ records, x ≠ .polled (.ok records))
    (hfails : x.isStep → x.Fails) : Concluded (before ++ [x]) := by
  intro s records u heq hu
  rcases List.eq_nil_or_concat u with rfl | ⟨u, y, rfl⟩
  · obtain ⟨-, hx⟩ := List.append_inj' heq rfl
    cases hx
    exact absurd rfl (hpoll records)
  · rw [List.concat_eq_append] at heq hu ⊢
    rw [← List.cons_append, ← List.append_assoc] at heq
    obtain ⟨-, hx⟩ := List.append_inj' heq rfl
    cases hx
    exact .inl ⟨u, x, rfl, hfails (hu x (by simp))⟩

/-- A batch of which a step failed is through. -/
theorem concluded_of_fails (hx : x.Fails) : Concluded (before ++ [x]) :=
  .append_singleton (fun _ h => by cases hx <;> cases h) (fun _ => hx)

/-- Of an event and steps behind it, only the event is no step. -/
theorem eq_of_cons_eq_append {a u u' : List Event} {y : Event} (hy : y.isStep = false)
    (hu : ∀ e ∈ u, e.isStep) (heq : x :: u = a ++ y :: u') : x = y ∧ u = u' := by
  cases a with
  | nil => exact List.cons.inj heq
  | cons z a =>
      obtain ⟨-, rfl⟩ := List.cons.inj heq
      exact absurd (hu y (by simp)) (by simp [hy])

/-- **The last poll is one place:** behind another one there would be a poll among the steps. -/
theorem last_poll_unique {s s' u u' : List Event} {y : Event} (hx : x.isStep = false)
    (hy : y.isStep = false) (hu : ∀ e ∈ u, e.isStep) (hu' : ∀ e ∈ u', e.isStep)
    (heq : s ++ x :: u = s' ++ y :: u') : x = y ∧ u = u' := by
  rcases List.append_eq_append_iff.1 heq with ⟨a, -, ha⟩ | ⟨a, -, ha⟩
  · exact eq_of_cons_eq_append hy hu ha
  · obtain ⟨rfl, rfl⟩ := eq_of_cons_eq_append hx hu' ha
    exact ⟨rfl, rfl⟩

/-- What was done for a batch are steps of it. -/
theorem Done.isStep {u : List Event} (h : Done records u) : ∀ x ∈ u, x.isStep := by
  have hout : ∀ x ∈ records.map Event.out, x.isStep := by
    intro x hx
    obtain ⟨record, -, rfl⟩ := List.mem_map.1 hx
    rfl
  intro x hx
  cases h with
  | nothing => cases hx
  | unplaced hrecords hoffsets =>
      rcases List.mem_append.1 hx with hx | hx
      · exact hout x hx
      · rw [List.mem_singleton.1 hx]
        rfl
  | placed hoffsets hlast =>
      rcases List.mem_append.1 hx with hx | hx
      · exact hout x hx
      · simp only [List.mem_cons, List.not_mem_nil, or_false] at hx
        rcases hx with rfl | rfl | rfl <;> rfl

/-- **A batch that was published whole is through.** -/
theorem concluded_of_done {s u : List Event} (h : Done records u) :
    Concluded (s ++ .polled (.ok records) :: u) := by
  intro s' records' u' heq hu'
  obtain ⟨hpoll, rfl⟩ := last_poll_unique rfl rfl h.isStep hu' heq
  cases hpoll
  exact .inr h

/-! ## Within rounds and between them -/

/-- **The events within a round that has polled:** they are in order, the last one has not just begun the
round, and so many polls were made. -/
structure Within (m : Nat) (es : List Event) : Prop where
  disciplined : Disciplined es
  ready : ∀ s stops, es ≠ s ++ [.asked stops]
  polls : es.countP Event.isPoll = m

/-- **The events between two rounds:** the last batch is through, and another round can begin. -/
structure Between (m : Nat) (es : List Event) : Prop extends Within m es where
  concluded : Concluded es

/-- Nothing has happened yet. -/
theorem between_nil : Between 0 [] := ⟨⟨disciplined_nil, by simp, rfl⟩, by simp [Concluded]⟩

/-- **One step more,** if it is allowed. -/
theorem Within.step (h : Within m es) (he : Allowed es e) (hstep : e.isStep) :
    Within m (es ++ [e]) where
  disciplined := h.disciplined.append_singleton he
  ready s stops heq := by
    obtain ⟨-, hlast⟩ := List.append_inj' heq rfl
    cases hlast
    cases hstep
  polls := by
    have hpoll : e.isPoll = false := by cases e <;> first | rfl | cases hstep
    rw [List.countP_append, h.polls, List.countP_singleton, hpoll]
    rfl

/-- A request whether to stop begins a round. -/
theorem Between.asked (h : Between m es) (stops : Bool) : Disciplined (es ++ [.asked stops]) :=
  h.disciplined.append_singleton ⟨h.ready, h.concluded⟩

/-- **A poll** is made behind a request that does not stop the run. -/
theorem Between.polled (h : Between m es) (r : Outcome (List Outgoing)) :
    Within (m + 1) (es ++ [.asked false] ++ [.polled r]) := by
  refine ⟨(h.asked false).append_singleton ⟨es, rfl⟩, ?_, ?_⟩
  · intro s stops heq
    obtain ⟨-, hlast⟩ := List.append_inj' heq rfl
    cases hlast
  · rw [List.countP_append, List.countP_append, h.polls]
    rfl

/-! ## Requests -/

/-- **The world that remembers events.** Anything may be answered. -/
def eventWorld : Behaviour PublicationHost (List Event) :=
  fun es q r es' => es' = es ++ (event? ⟨q, r⟩).toList

/-- It can take every course, and remembers the events of it. -/
theorem follows_eventWorld (es : List Event) (t : List (Exchange PublicationHost)) :
    eventWorld.Follows es t (es ++ events t) := by
  induction t generalizing es with
  | nil =>
      rw [events, List.filterMap_nil, List.append_nil]
      exact .nil es
  | cons x t ih =>
      have hrest := ih (es ++ (event? x).toList)
      rw [List.append_assoc] at hrest
      have hevents : (event? x).toList ++ events t = events (x :: t) := by
        unfold events
        rw [List.filterMap_cons]
        cases event? x <;> rfl
      rw [hevents] at hrest
      exact .cons rfl hrest

variable {α : Type} {q : PublicationHost.Request} {f : PublicationHost.Answer q → Dialogue PublicationHost α}
  {post : List Event → α → Prop} {p : Publication}

/-- **A request that has nothing to do with batches** changes nothing for what comes after it. -/
theorem ensures_silent (hq : ∀ r, event? ⟨q, r⟩ = none) (hes : Disciplined es)
    (h : ∀ r, (f r).Ensures eventWorld Disciplined es post) :
    (ask q >>= f).Ensures eventWorld Disciplined es post := by
  refine ensures_bind.2 (ensures_ask.2 ?_)
  rintro r _ rfl
  rw [hq r, Option.toList_none, List.append_nil]
  exact ⟨hes, h r⟩

/-- Keep offsets and let the source move on to them. -/
def keep (offsets : List Offset) : Dialogue PublicationHost (Outcome Unit) := do
  match ← store offsets with
  | .error e => return .error e
  | .ok () => commit offsets

namespace Within

/-- **A step that is allowed** is taken, with whatever comes of it. -/
theorem ensures_step (h : Within m es) (event : PublicationHost.Answer q → Event)
    (hq : ∀ r, event? ⟨q, r⟩ = some (event r)) (hallowed : ∀ r, Allowed es (event r))
    (hstep : ∀ r, (event r).isStep)
    (hf : ∀ r, Within m (es ++ [event r]) →
      (f r).Ensures eventWorld Disciplined (es ++ [event r]) post) :
    (ask q >>= f).Ensures eventWorld Disciplined es post := by
  refine ensures_bind.2 (ensures_ask.2 ?_)
  rintro r _ rfl
  rw [hq r, Option.toList_some]
  have hnext := h.step (hallowed r) (hstep r)
  exact ⟨hnext.disciplined, hf r hnext⟩

/-! ## Publishing -/

/-- **The records of a batch** are given out in their order, behind those that were given out before, or
one of them fails and is the last. -/
theorem ensures_emitAll {s : List Event} {given : List Outgoing}
    (h : Within m (s ++ .polled (.ok (given ++ records)) :: given.map .out)) :
    (p.emitAll records).Ensures eventWorld Disciplined
      (s ++ .polled (.ok (given ++ records)) :: given.map .out) (fun es x => Within m es ∧
        (∀ e, x = .error e → Concluded es) ∧
        (x = .ok () → es = s ++ .polled (.ok (given ++ records)) :: (given ++ records).map .out)) := by
  induction records generalizing given with
  | nil =>
      refine ensures_done.2 ⟨h, by simp, fun _ => ?_⟩
      rw [List.append_nil]
  | cons record records ih =>
      unfold emitAll
      refine h.ensures_step (.emitted record) (fun _ => rfl) (fun _ => ⟨s, given, records, rfl⟩)
        (fun _ => rfl) ?_
      rintro (e | _) hnext
      · exact ensures_done.2 ⟨hnext, fun _ _ => concluded_of_fails (.emitted record e), by simp⟩
      · refine ensures_silent (fun _ => rfl) hnext.disciplined (fun _ => ?_)
        refine ensures_silent (fun _ => rfl) hnext.disciplined (fun _ => ?_)
        -- The record is one of those that were given out before the next one.
        have hgiven : s ++ .polled (.ok (given ++ record :: records)) :: given.map .out ++
            [.emitted record (.ok ())] =
              s ++ .polled (.ok ((given ++ [record]) ++ records)) :: (given ++ [record]).map .out := by
          simp [Event.out]
        have hsame : given ++ record :: records = (given ++ [record]) ++ records := by simp
        rw [hgiven] at hnext ⊢
        rw [hsame]
        exact ih hnext

/-- **The offsets of a batch that is out are kept** and the source moves on to them, or one of the two
fails and is the last. -/
theorem ensures_keep {s : List Event} {offsets : List Offset}
    (h : Within m (s ++ .polled (.ok records) :: (records.map .out ++ [.flushed (.ok ())])))
    (hoffsets : records.filterMap Outgoing.offset ≠ [])
    (hlast : Offset.LastOfEach (records.filterMap Outgoing.offset) offsets) :
    (keep offsets).Ensures eventWorld Disciplined
      (s ++ .polled (.ok records) :: (records.map .out ++ [.flushed (.ok ())]))
      (fun es _ => Between m es) := by
  unfold keep
  refine h.ensures_step (.stored offsets) (fun _ => rfl) (fun _ => ⟨s, records, rfl, hlast⟩)
    (fun _ => rfl) ?_
  rintro (e | _) hkept
  · exact ensures_done.2 ⟨hkept, concluded_of_fails (.stored offsets e)⟩
  · rw [← bind_done (commit offsets)]
    refine hkept.ensures_step (.committed offsets) (fun _ => rfl) (fun _ => ⟨_, rfl⟩) (fun _ => rfl) ?_
    rintro (e | _) hcommitted
    · exact ensures_done.2 ⟨hcommitted, concluded_of_fails (.committed offsets e)⟩
    · refine ensures_done.2 ⟨hcommitted, ?_⟩
      simpa using concluded_of_done (s := s) (.placed hoffsets hlast)

/-- **A batch is published** in order and whole, or a step of it fails and is the last. -/
theorem ensures_publish {s : List Event} (h : Within m (s ++ [.polled (.ok records)]))
    (hrecords : records ≠ []) :
    (p.publish records).Ensures eventWorld Disciplined (s ++ [.polled (.ok records)])
      (fun es _ => Between m es) := by
  unfold publish
  have hpolled : Within m (s ++ .polled (.ok ([] ++ records)) :: [].map .out) := h
  refine hpolled.ensures_emitAll.bind ?_
  rintro es (e | _) ⟨hes, hfailed, hall⟩
  · exact ensures_done.2 ⟨hes, hfailed e rfl⟩
  · obtain rfl := hall rfl
    refine hes.ensures_step .flushed (fun _ => rfl) (fun _ => ⟨s, records, rfl⟩) (fun _ => rfl) ?_
    rintro (e | _) hflushed
    · exact ensures_done.2 ⟨hflushed, concluded_of_fails (.flushed e)⟩
    · dsimp only
      rw [List.append_assoc] at hflushed ⊢
      by_cases hempty : Outgoing.offsets records = []
      · rw [if_pos (List.isEmpty_iff.2 hempty)]
        exact ensures_done.2
          ⟨hflushed, concluded_of_done (.unplaced hrecords (Offset.latest_eq_nil_iff.1 hempty))⟩
      · rw [if_neg (mt List.isEmpty_iff.1 hempty)]
        exact hflushed.ensures_keep (mt Offset.latest_eq_nil_iff.2 hempty) (Offset.lastOfEach_latest _)

end Within

/-! ## Rounds -/

/-- **Where a run stands** after some rounds: it goes on, and each of them has polled, or it is over,
since it could not begin or since it was asked to stop. -/
def Arrives (n : Nat) (es : List Event) : Progress → Prop
  | .going => Between n es
  | .over _ => es = [] ∨ ∃ s, es = s ++ [.asked true]

/-- Resting is no event. -/
theorem Between.ensures_rest (h : Between m es) (failure : Option String) :
    (p.rest failure).Ensures eventWorld Disciplined es (Arrives m) := by
  unfold rest
  cases failure with
  | none => exact ensures_silent (fun _ => rfl) h.disciplined (fun _ => ensures_done.2 h)
  | some kind =>
      refine ensures_silent (fun _ => rfl) h.disciplined (fun _ => ?_)
      exact ensures_silent (fun _ => rfl) h.disciplined (fun _ => ensures_done.2 h)

/-- **A round** polls once, unless the run has to stop. -/
theorem Between.ensures_round (h : Between m es) :
    p.round.Ensures eventWorld Disciplined es (Arrives (m + 1)) := by
  unfold round
  refine ensures_bind.2 (ensures_ask.2 ?_)
  rintro (stops : Bool) _ rfl
  refine ⟨h.asked stops, ?_⟩
  cases stops with
  | true =>
      refine ensures_silent (fun _ => rfl) (h.asked true) ?_
      rintro (e | _)
      · exact ensures_done.2 (.inr ⟨es, rfl⟩)
      · exact ensures_silent (fun _ => rfl) (h.asked true) (fun _ => ensures_done.2 (.inr ⟨es, rfl⟩))
  | false =>
      refine ensures_bind.2 (ensures_ask.2 ?_)
      rintro (e | records) _ rfl
      · have hpolled := h.polled (.error e)
        have hnext : Between (m + 1) _ := ⟨hpolled, .append_singleton (by simp) (by simp [Event.isStep])⟩
        exact ⟨hpolled.disciplined, hnext.ensures_rest _⟩
      · have hpolled := h.polled (.ok records)
        refine ⟨hpolled.disciplined, ?_⟩
        cases records with
        | nil =>
            have hnext : Between (m + 1) _ := ⟨hpolled, concluded_of_done .nothing⟩
            exact hnext.ensures_rest _
        | cons record records =>
            refine ensures_silent (fun _ => rfl) hpolled.disciplined (fun _ => ?_)
            refine (hpolled.ensures_publish (List.cons_ne_nil _ _)).bind ?_
            rintro es' (e | _) hes'
            · exact hes'.ensures_rest _
            · exact ensures_done.2 hes'

/-- **Rounds** follow one another. -/
theorem Between.ensures_rounds (n : Nat) {progress : Progress} (h : Arrives m es progress) :
    (p.rounds n progress).Ensures eventWorld Disciplined es (Arrives (m + n)) := by
  induction n generalizing m es progress with
  | zero => exact ensures_done.2 h
  | succ n ih =>
      rcases progress with _ | result
      · unfold rounds
        refine (Between.ensures_round h).bind ?_
        intro es' progress hes'
        have hrounds : m + (n + 1) = m + 1 + n := by omega
        rw [hrounds]
        exact ih hes'
      · exact ensures_done.2 h

/-- **The beginning of a run** is no event. -/
theorem ensures_start_eventless :
    p.start.Ensures eventWorld Disciplined [] (Arrives 0) := by
  unfold start
  refine ensures_silent (fun _ => rfl) disciplined_nil (fun _ => ?_)
  refine ensures_silent (fun _ => rfl) disciplined_nil ?_
  rintro (e | _)
  · exact ensures_done.2 (.inl rfl)
  · refine ensures_silent (fun _ => rfl) disciplined_nil ?_
    rintro (e | offsets)
    · exact ensures_done.2 (.inl rfl)
    · refine ensures_silent (fun _ => rfl) disciplined_nil ?_
      rintro (e | _)
      · exact ensures_done.2 (.inl rfl)
      · exact ensures_done.2 between_nil

/-- **A run** keeps to the order from its beginning to its end. -/
theorem ensures_run_events (n : Nat) :
    (p.run n).Ensures eventWorld Disciplined [] (Arrives n) := by
  unfold run
  refine ensures_start_eventless.bind ?_
  intro es progress hes
  have hrounds := Between.ensures_rounds (p := p) n hes
  rwa [Nat.zero_add] at hrounds

/-- **The order of a publication.** Whatever is answered, at every moment of a run the records of a
batch were given out in the order in which they were polled. Offsets are kept only when all of them were
given out and flushed, and they are the last of each partition; the source moves on only to offsets
that were just kept. Before another round begins all this has been done for a batch, unless a step of it
failed. Behind a step that failed nothing of the batch follows, and the next round polls unless the run
has to stop: a run that goes on has polled in each of its rounds and is through with its last batch, and
one that is over could not begin or was asked to stop. -/
theorem disciplined_of_run (p : Publication) (n : Nat) :
    (∀ t, Reaches (p.run n) t → Disciplined (events t)) ∧
      (∀ t, Runs (p.run n) t .going →
        (events t).countP Event.isPoll = n ∧ Concluded (events t)) ∧
      ∀ t result, Runs (p.run n) t (.over result) →
        events t = [] ∨ ∃ s, events t = s ++ [.asked true] := by
  have hensures := ensures_run_events (p := p) n
  refine ⟨?_, ?_, ?_⟩
  · intro t ht
    exact hensures.of_reaches disciplined_nil ht (follows_eventWorld [] t)
  · intro t ht
    have h : Between n (events t) := hensures.of_runs ht (follows_eventWorld [] t)
    exact ⟨h.polls, h.concluded⟩
  · intro t result ht
    exact hensures.of_runs ht (follows_eventWorld [] t)

/-! ### A run with a store that fails -/

/-- A record at a position of a partition. -/
def recordAt (partition : String) (place : Int64) : Outgoing :=
  { Outgoing.ofText "t" partition with offset := some ⟨partition, [("p", place)]⟩ }

/-- Records of two partitions, by turns. -/
def mixedRecords : List Outgoing := [recordAt "b" 1, recordAt "a" 1, recordAt "b" 2]

/-- **A world that fails to keep offsets** the first time it is asked to, and stops a run in its third
round. The state counts the rounds. -/
def answerMixed (round : Nat) : (q : PublicationHost.Request) → PublicationHost.Answer q × Nat
  | .inl (.prepare _) => (.ok (), round)
  | .inl (.restore _) => (.ok (), round)
  | .inl .poll => (.ok mixedRecords, round)
  | .inl (.commit _) => (.ok (), round)
  | .inl .shutdown => (.ok (), round)
  | .inr .load => (.ok [], round)
  | .inr (.store _) => (if round = 1 then .error (.system "full") else .ok (), round)
  | .inr (.emit _) => (.ok (), round)
  | .inr .flush => (.ok (), round)
  | .inr .stopping => (decide (round = 2), round + 1)
  | .inr (.pause _) => ((), round)
  | .inr (.note _) => ((), round)

/-- The course of a run of at most `n` rounds in this world. -/
def mixedCourse (n : Nat) : List (Exchange PublicationHost) × Progress :=
  (run ⟨.standard⟩ n).courseWith answerMixed 0

/-- The run can take this course. -/
theorem runs_mixedCourse (n : Nat) :
    Runs (run ⟨.standard⟩ n) (mixedCourse n).1 (mixedCourse n).2 :=
  runs_courseWith (I := PublicationHost) answerMixed _ 0

/-- The last offsets of both partitions are to be kept, fail to be, and are kept in the second round.
After that round the run would go on, but it is asked to stop. -/
theorem disciplined_mixed :
    Disciplined (events (mixedCourse 3).1) ∧
      events (mixedCourse 3).1 =
        [.asked false, .polled (.ok mixedRecords)] ++ mixedRecords.map .out ++
        [.flushed (.ok ()),
          .stored [⟨"b", [("p", 2)]⟩, ⟨"a", [("p", 1)]⟩] (.error (.system "full"))] ++
        [.asked false, .polled (.ok mixedRecords)] ++ mixedRecords.map .out ++
        [.flushed (.ok ()), .stored [⟨"b", [("p", 2)]⟩, ⟨"a", [("p", 1)]⟩] (.ok ()),
          .committed [⟨"b", [("p", 2)]⟩, ⟨"a", [("p", 1)]⟩] (.ok ())] ++
        [.asked true] ∧
      ((events (mixedCourse 2).1).countP Event.isPoll = 2 ∧ Concluded (events (mixedCourse 2).1)) ∧
      ∃ s, events (mixedCourse 3).1 = s ++ [.asked true] := by
  obtain ⟨horder, -, hover⟩ := disciplined_of_run ⟨.standard⟩ 3
  obtain ⟨-, hgoing, -⟩ := disciplined_of_run ⟨.standard⟩ 2
  have hbegan : events (mixedCourse 3).1 ≠ [] := List.cons_ne_nil _ _
  exact ⟨horder _ (runs_mixedCourse 3).reaches, rfl, hgoing _ (runs_mixedCourse 2),
    (hover _ (.ok ()) (runs_mixedCourse 3)).resolve_left hbegan⟩

end SeriesBridge.Publication
