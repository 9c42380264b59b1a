import SeriesBridge.Proofs.Pipeline.Ledger

/-! # What a publication keeps

A publication from a database, through failures, crashes and restarts. A source never moves past rows
whose lines were not settled, and no offset is kept that is past them either; so whatever fails, and
whenever a run breaks off, the lines of all rows up to an offset that is kept have been given out and
flushed.

* **`Publication.Tracks`** — a source that has not moved past what was settled.
* **`Publication.ensures_publish`**, **`Publication.ensures_round`** — one round keeps it so.
* **`Publication.Reachable`** — what crashes and restarts can lead to.
* **`Publication.settled_of_reachable`** — what was settled, at every moment. -/

namespace SeriesBridge

open Dialogue

namespace Publication

/-- **A source that has not moved past what was settled.** -/
structure Tracks (S : DatabaseSettings) (start : Cursor) (w : Ledger) (s : Source) : Prop where
  ready : Source.Ready S s
  covers : ∀ t ∈ S.tables, w.Covers S start t (s.position t)

/-- **Where a run stands.** While it goes on, the source has not moved past what was settled. -/
def Stands (S : DatabaseSettings) (start : Cursor) (w : Ledger) (s : Source) : Progress → Prop
  | .going => Tracks S start w s
  | .over _ => True

variable {S : DatabaseSettings} {start : Cursor} {w w₀ w' : Ledger} {s s₀ : Source}
  {p : Publication} {records : List Outgoing} {α : Type}

/-- A source does not get ahead while the ledger goes on. -/
theorem Tracks.goesOn (h : Tracks S start w s) (hgoes : w.GoesOn w') : Tracks S start w' s :=
  ⟨h.ready, fun t ht => (h.covers t ht).goesOn hgoes⟩

/-! ## Requests -/

/-- **A call on the source** ensures what the source ensures. -/
theorem ensures_call {c : SourceCall} {post : Ledger → c.Answer × Source → Prop}
    (h : (Source.answer c s).Ensures (Ledger.world S).left (Ledger.Safe S start) w post) :
    ((ask (I := PublicationHost) (.inl c)).serve Source.answer s).Ensures (Ledger.world S)
      (Ledger.Safe S start) w post :=
  ensures_serve_inl.2 h

/-- **A request that changes nothing** lets time pass, for what comes after it. -/
theorem ensures_quiet {q : OutletCall} {f : PublicationHost.Answer (.inr q) → Dialogue PublicationHost α}
    {post : Ledger → α × Source → Prop} (hq : q.isQuiet) (hw : w.Safe S start)
    (h : ∀ r w', w.Waits w' → w'.Safe S start → Ledger.world S w (.inr q) r w' →
      ((f r).serve Source.answer s).Ensures (Ledger.world S) (Ledger.Safe S start) w' post) :
    ((ask (I := PublicationHost) (.inr q) >>= f).serve Source.answer s).Ensures (Ledger.world S)
      (Ledger.Safe S start) w post := by
  refine ensures_serve_bind.2 (ensures_serve_inr.2 ?_)
  intro r w' hB
  have hwaits := Ledger.waits_of_isQuiet hq hB
  have hsafe := hw.goesOn hwaits.goesOn hwaits.kept
  exact ⟨hsafe, h r w' hwaits hsafe hB⟩

/-! ## Giving records out -/

/-- **Records are given out one after the other,** or one of them fails. -/
theorem ensures_emitAll (hw : w.Safe S start) :
    ((p.emitAll records).serve Source.answer s).Ensures (Ledger.world S) (Ledger.Safe S start) w
      (fun w' x => w'.Safe S start ∧ w.GoesOn w' ∧ x.2 = s ∧
        (x.1 = .ok () → w'.pending = w.pending ++ records)) := by
  induction records generalizing w with
  | nil =>
      refine ensures_done.2 ⟨hw, (Ledger.Waits.refl w).goesOn, rfl, fun _ => ?_⟩
      rw [List.append_nil]
  | cons r records ih =>
      unfold emitAll
      refine ensures_serve_bind.2 (ensures_serve_inr.2 ?_)
      rintro answer w₁ ⟨v, hv, hanswer⟩
      have hgoes : w.GoesOn w₁ := by
        rcases hanswer with rfl | ⟨-, rfl⟩
        · exact ⟨hv.goesOn.tables, hv.goesOn.settled⟩
        · exact hv.goesOn
      have hsafe : w₁.Safe S start := by
        refine hw.goesOn hgoes ?_
        rcases hanswer with rfl | ⟨-, rfl⟩
        · exact hv.kept
        · exact hv.kept
      refine ⟨hsafe, ?_⟩
      rcases answer with e | _
      · exact ensures_done.2 ⟨hsafe, hgoes, rfl, by simp⟩
      · have hpending : w₁.pending = w.pending ++ [r] := by
          rcases hanswer with rfl | ⟨hfailed, -⟩
          · exact congrArg (· ++ [r]) hv.pending
          · exact absurd rfl hfailed
        refine ensures_quiet rfl hsafe ?_
        intro _ w₂ hwaits₂ hsafe₂ _
        refine ensures_quiet rfl hsafe₂ ?_
        intro _ w₃ hwaits₃ hsafe₃ _
        refine (ih hsafe₃).mono ?_
        rintro w₄ x ⟨hsafe₄, hgoes₄, hsame, hok⟩
        refine ⟨hsafe₄, hgoes.trans ((hwaits₂.trans hwaits₃).goesOn.trans hgoes₄), hsame, ?_⟩
        intro hx
        rw [hok hx, hwaits₃.pending, hwaits₂.pending, hpending, List.append_assoc,
          List.singleton_append]

/-- **A flush** settles what is out, or fails. -/
theorem ensures_flush (hw : w.Safe S start) :
    (flush.serve Source.answer s).Ensures (Ledger.world S) (Ledger.Safe S start) w
      (fun w' x => w'.Safe S start ∧ w.GoesOn w' ∧ x.2 = s ∧
        (x.1 = .ok () → w'.settled = w.settled ++ w.pending)) := by
  refine ensures_serve_inr.2 ?_
  rintro answer w₁ ⟨v, hv, hanswer⟩
  have hgoes : w.GoesOn w₁ := by
    rcases hanswer with rfl | ⟨-, rfl⟩
    · exact ⟨hv.goesOn.tables, hv.goesOn.settled.trans (List.prefix_append _ _)⟩
    · exact hv.goesOn
  have hsafe : w₁.Safe S start := by
    refine hw.goesOn hgoes ?_
    rcases hanswer with rfl | ⟨-, rfl⟩
    · exact hv.kept
    · exact hv.kept
  refine ⟨hsafe, hsafe, hgoes, rfl, ?_⟩
  intro hok
  rcases hanswer with rfl | ⟨hfailed, -⟩
  · show v.settled ++ v.pending = _
    rw [hv.settled, hv.pending]
  · exact absurd hok hfailed

/-! ## Publishing -/

/-- A poll leaves the source where what was settled goes to, or past rows that make no line. -/
theorem tracks_of_gave (h : Tracks S start w₀ s₀) (hgoes : w₀.GoesOn w) (hready : Source.Ready S s)
    (hgave : ∀ t ∈ S.tables, Source.Gave List.Perm S (w₀.tables t.table) (w.tables t.table) s₀ s t
      (Source.ofTable t records)) : Tracks S start w s := by
  refine ⟨hready, fun t ht => ?_⟩
  obtain ⟨reached, hpolled, hhere⟩ := hgave t ht
  rw [Source.position_of_eq_some hhere]
  by_cases hempty : (Source.ofTable t records).isEmpty
  · rw [if_pos hempty]
    -- There is nothing to settle: the rows that were passed make no line.
    have hnil : Source.ofTable t records = [] := List.isEmpty_iff.1 hempty
    rw [hnil] at hpolled
    exact (h.covers t ht).passed hgoes hpolled
  · rw [if_neg hempty]
    exact (h.covers t ht).goesOn hgoes

/-- A poll that fails leaves the source where what was settled goes to as well. -/
theorem tracks_of_quiet (h : Tracks S start w₀ s₀) (hgoes : w₀.GoesOn w) (hready : Source.Ready S s)
    (hquiet : ∀ t ∈ S.tables, Source.Quiet List.Perm S (w₀.tables t.table) (w.tables t.table) s₀ s
      t) : Tracks S start w s := by
  refine ⟨hready, fun t ht => ?_⟩
  rcases hquiet t ht with hsame | ⟨reached, hpolled, hreached⟩
  · rw [hsame]
    exact (h.covers t ht).goesOn hgoes
  · rw [hreached]
    exact (h.covers t ht).passed hgoes hpolled

/-- **Offsets of a batch are covered,** whichever of them are kept, once what their tables reached is. -/
theorem covers_of_offsets
    (hfrom : ∀ r ∈ records, ∃ t ∈ S.tables, r.key = some t.partition)
    (hgave : ∀ t ∈ S.tables, Source.Gave List.Perm S (w₀.tables t.table) (w.tables t.table) s₀ s t
      (Source.ofTable t records))
    (hreached : ∀ t ∈ S.tables, ∀ reached, Source.Polled List.Perm S t (w₀.tables t.table)
      (w.tables t.table) (s₀.position t) reached (Source.ofTable t records) →
      w'.Covers S start t reached)
    {stored : List Offset} (hstored : stored.Sublist (Outgoing.offsets records)) :
    ∀ t ∈ S.tables, ∀ o ∈ stored, o.partition = t.partition →
      w'.Covers S start t (.ofOffset o) := by
  intro t ht o ho hpartition
  obtain ⟨reached, hpolled, -⟩ := hgave t ht
  have hmem : o ∈ (Outgoing.offsets records).filter (fun o => o.partition == t.partition) :=
    List.mem_filter.2 ⟨hstored.subset ho, by simpa using hpartition⟩
  rw [Source.filter_offsets_of_polled (Source.keyed_of_gave hfrom hgave) hpolled] at hmem
  have hoffset : o = reached.toOffset t.partition := by
    split at hmem
    · cases hmem
    · exact List.mem_singleton.1 hmem
  rw [hoffset, Cursor.ofOffset_toOffset]
  exact hreached t ht reached hpolled

/-- **A source that moves on to the offsets of a batch** has not moved past what was settled, once
what their tables reached is covered. -/
theorem tracks_of_commit (hready : Source.Ready S s)
    (hfrom : ∀ r ∈ records, ∃ t ∈ S.tables, r.key = some t.partition)
    (hgave : ∀ t ∈ S.tables, Source.Gave List.Perm S (w₀.tables t.table) (w.tables t.table) s₀ s t
      (Source.ofTable t records))
    (hreached : ∀ t ∈ S.tables, ∀ reached, Source.Polled List.Perm S t (w₀.tables t.table)
      (w.tables t.table) (s₀.position t) reached (Source.ofTable t records) →
      w'.Covers S start t reached) :
    Tracks S start w' (s.commit (Outgoing.offsets records)) := by
  refine ⟨hready.commit _, fun t ht => ?_⟩
  obtain ⟨reached, hpolled, hhere⟩ := hgave t ht
  have hposition := Source.position?_commit_offsets hready (Source.keyed_of_gave hfrom hgave)
    hpolled hhere
  rw [Source.position_of_eq_some hposition]
  exact hreached t ht reached hpolled

/-- **Publishing** what was polled lets the source move on only when it was settled. -/
theorem ensures_publish (h : Tracks S start w₀ s₀) (hgoes : w₀.GoesOn w) (hready : Source.Ready S s)
    (hfrom : ∀ r ∈ records, ∃ t ∈ S.tables, r.key = some t.partition)
    (hgave : ∀ t ∈ S.tables, Source.Gave List.Perm S (w₀.tables t.table) (w.tables t.table) s₀ s t
      (Source.ofTable t records)) (hw : w.Safe S start) :
    ((p.publish records).serve Source.answer s).Ensures (Ledger.world S) (Ledger.Safe S start) w
      (fun w' x => w'.Safe S start ∧ Tracks S start w' x.2) := by
  have htracks := tracks_of_gave h hgoes hready hgave
  unfold publish
  refine ensures_serve_bind.2 ((ensures_emitAll hw).mono ?_)
  rintro w₁ ⟨e | _, s₁⟩ ⟨hsafe₁, hgoes₁, rfl, hpending⟩
  · exact ensures_done.2 ⟨hsafe₁, htracks.goesOn hgoes₁⟩
  · refine ensures_serve_bind.2 ((ensures_flush hsafe₁).mono ?_)
    rintro w₂ ⟨e | _, s₂⟩ ⟨hsafe₂, hgoes₂, rfl, hflushed⟩
    · exact ensures_done.2 ⟨hsafe₂, htracks.goesOn (hgoes₁.trans hgoes₂)⟩
    · have htracks₂ := htracks.goesOn (hgoes₁.trans hgoes₂)
      -- All records of the batch are settled now, and so is everything up to where it reaches.
      have hsettled : (w₀.settled ++ records).Sublist w₂.settled := by
        rw [hflushed rfl, hpending rfl, ← List.append_assoc]
        refine List.Sublist.append ?_ (List.Sublist.refl _)
        exact (hgoes.settled.trans hgoes₁.settled).sublist.trans (List.sublist_append_left _ _)
      have hall : w₀.GoesOn w₂ := hgoes.trans (hgoes₁.trans hgoes₂)
      have hreached : ∀ t ∈ S.tables, ∀ reached,
          Source.Polled List.Perm S t (w₀.tables t.table) (w.tables t.table) (s₀.position t) reached
            (Source.ofTable t records) → w₂.Covers S start t reached := by
        intro t ht reached hpolled
        exact (h.covers t ht).polled (hpolled.grow ((hgoes₁.trans hgoes₂).tables t.table))
          (hall.tables t.table) hsettled
      dsimp only
      by_cases hempty : (Outgoing.offsets records).isEmpty
      · rw [if_pos hempty]
        exact ensures_done.2 ⟨hsafe₂, htracks₂⟩
      · rw [if_neg hempty]
        refine ensures_serve_bind.2 (ensures_serve_inr.2 ?_)
        rintro answer w₃ ⟨v, hv, stored, hstored, -, rfl⟩
        have hsafe₃ : Ledger.Safe S start { v with kept := v.kept.commit stored } :=
          (hsafe₂.goesOn hv.goesOn hv.kept).commit (covers_of_offsets hfrom hgave
            (fun t ht reached hpolled => (hreached t ht reached hpolled).goesOn hv.goesOn) hstored)
        have hgoes₃ : w₂.GoesOn { v with kept := v.kept.commit stored } := ⟨hv.tables, hv.goesOn.settled⟩
        refine ⟨hsafe₃, ?_⟩
        rcases answer with e | _
        · exact ensures_done.2 ⟨hsafe₃, htracks₂.goesOn hgoes₃⟩
        · refine ensures_call (c := .commit (Outgoing.offsets records)) (ensures_done.2 ⟨hsafe₃, ?_⟩)
          exact tracks_of_commit hready hfrom hgave
            (fun t ht reached hpolled => (hreached t ht reached hpolled).goesOn hgoes₃)

/-! ## Rounds -/

/-- Resting keeps a source where it is. -/
theorem ensures_rest (h : Tracks S start w s) (hw : w.Safe S start) (failure : Option String) :
    ((p.rest failure).serve Source.answer s).Ensures (Ledger.world S) (Ledger.Safe S start) w
      (fun w' x => w'.Safe S start ∧ Stands S start w' x.2 x.1) := by
  -- Whatever the failure was, what is left is to wait.
  have hwait : ∀ w, Tracks S start w s → w.Safe S start →
      ((pause p.settings.pollInterval >>= fun _ => .done .going).serve Source.answer s).Ensures
        (Ledger.world S) (Ledger.Safe S start) w
        (fun w' x => w'.Safe S start ∧ Stands S start w' x.2 x.1) := by
    intro w h hw
    refine ensures_quiet rfl hw ?_
    intro _ w₁ hwaits hsafe _
    exact ensures_done.2 ⟨hsafe, h.goesOn hwaits.goesOn⟩
  unfold rest
  cases failure with
  | none => exact hwait w h hw
  | some kind =>
      refine ensures_quiet rfl hw ?_
      intro _ w₁ hwaits hsafe _
      exact hwait w₁ (h.goesOn hwaits.goesOn) hsafe

/-- **A round** keeps the source from getting ahead. -/
theorem ensures_round (hnodup : (S.tables.map TableSource.partition).Nodup)
    (h : Tracks S start w s) (hw : w.Safe S start) :
    (p.round.serve Source.answer s).Ensures (Ledger.world S) (Ledger.Safe S start) w
      (fun w' x => w'.Safe S start ∧ Stands S start w' x.2 x.1) := by
  have hextracts := Ledger.extracts_world S start
  refine ensures_quiet rfl hw ?_
  intro (stops : Bool) w₁ hwaits₁ hsafe₁ _
  have h₁ := h.goesOn hwaits₁.goesOn
  cases stops with
  | true =>
      refine ensures_serve_bind.2 (ensures_call (c := .shutdown) ?_)
      refine (Source.ensures_shutdown hextracts.toSteady s hsafe₁).bind ?_
      rintro w₂ s₂ ⟨hsafe₂, -⟩
      refine ensures_done.2 (ensures_quiet rfl hsafe₂ ?_)
      intro _ w₃ _ hsafe₃ _
      exact ensures_done.2 ⟨hsafe₃, trivial⟩
  | false =>
      refine ensures_serve_bind.2 (ensures_call (c := .poll) ?_)
      refine (Source.ensures_poll hextracts h₁.ready hnodup hsafe₁).mono ?_
      rintro w₂ ⟨answer, s₂⟩ ⟨hsafe₂, hwaits₂, hkept, herror, hok⟩
      rcases answer with e | records
      · exact ensures_rest (tracks_of_quiet h₁ hwaits₂.goesOn hkept.ready (herror e rfl).2) hsafe₂ _
      · obtain ⟨hfrom, hgave⟩ := hok records rfl
        cases records with
        | nil => exact ensures_rest (tracks_of_gave h₁ hwaits₂.goesOn hkept.ready hgave) hsafe₂ _
        | cons r records =>
            refine ensures_quiet rfl hsafe₂ ?_
            intro _ w₃ hwaits₃ hsafe₃ _
            have hgave₃ : ∀ t ∈ S.tables, Source.Gave List.Perm S (w₁.tables t.table)
                (w₃.tables t.table) s s₂ t (Source.ofTable t (r :: records)) := by
              intro t ht
              obtain ⟨reached, hpolled, hhere⟩ := hgave t ht
              exact ⟨reached, hpolled.grow (hwaits₃.tables t.table), hhere⟩
            refine ensures_serve_bind.2 ((ensures_publish h₁ (hwaits₂.trans hwaits₃).goesOn hkept.ready
              hfrom hgave₃ hsafe₃).mono ?_)
            rintro w₄ ⟨e | _, s₄⟩ ⟨hsafe₄, h₄⟩
            · exact ensures_rest h₄ hsafe₄ _
            · exact ensures_done.2 ⟨hsafe₄, h₄⟩

/-- **Rounds** keep the source from getting ahead. -/
theorem ensures_rounds (hnodup : (S.tables.map TableSource.partition).Nodup) (n : Nat)
    {progress : Progress} (h : Stands S start w s progress) (hw : w.Safe S start) :
    ((p.rounds n progress).serve Source.answer s).Ensures (Ledger.world S) (Ledger.Safe S start) w
      (fun w' x => w'.Safe S start ∧ Stands S start w' x.2 x.1) := by
  induction n generalizing w s progress with
  | zero => exact ensures_done.2 ⟨hw, h⟩
  | succ n ih =>
      rcases progress with _ | result
      · unfold rounds
        refine ensures_serve_bind.2 ((ensures_round hnodup h hw).mono ?_)
        rintro w₁ ⟨progress, s₁⟩ ⟨hsafe₁, h₁⟩
        exact ih h₁ hsafe₁
      · exact ensures_done.2 ⟨hw, h⟩

/-! ## Runs -/

/-- **The beginning of a run** takes up what was settled. -/
theorem ensures_start (hstart : S.Starts start) (hw : w.Safe S start) :
    (p.start.serve Source.answer (.ofSettings S)).Ensures (Ledger.world S) (Ledger.Safe S start) w
      (fun w' x => w'.Safe S start ∧ Stands S start w' x.2 x.1) := by
  refine ensures_quiet rfl hw ?_
  intro _ w₁ _ hsafe₁ _
  refine ensures_serve_bind.2 (ensures_call (c := .prepare p.settings) ?_)
  refine (Source.ensures_prepare (Ledger.extracts_world S start).toSteady S p.settings hsafe₁).mono ?_
  rintro w₂ ⟨e | _, s₂⟩ ⟨hsafe₂, -, hprepared⟩
  · exact ensures_done.2 ⟨hsafe₂, trivial⟩
  · obtain ⟨hready, ⟨now, hnow⟩, hposition⟩ := hprepared rfl
    have hsame : s₂.start = start := by
      rw [hstart.readStart? now] at hnow
      cases hnow
      rfl
    refine ensures_quiet rfl hsafe₂ ?_
    rintro (e | offsets) w₃ hwaits₃ hsafe₃ ⟨v, hv, rfl, hload⟩
    · exact ensures_done.2 ⟨hsafe₃, trivial⟩
    · -- A table is at the start or at an offset that is kept, and both are covered.
      have hkept := hload offsets rfl
      have htracks : Tracks S start w₃ (s₂.restore offsets) := by
        have hstarts : ∀ t ∈ S.tables, w₃.Covers S start t (s₂.position t) := by
          intro t _
          rw [hposition t, hsame]
          exact Ledger.covers_start S start w₃ t
        refine ⟨hready.restore offsets, fun t ht => ?_⟩
        refine Source.position_restore hready offsets (hstarts t ht) ?_
        intro o ho hpartition
        rw [hkept] at ho
        exact hsafe₃ t ht o ho hpartition
      refine ensures_serve_bind.2 (ensures_call (c := .restore offsets) (ensures_done.2 ?_))
      exact ensures_done.2 ⟨hsafe₃, htracks⟩

/-- **A whole run** keeps the ledger safe. -/
theorem ensures_runFrom (hnodup : (S.tables.map TableSource.partition).Nodup)
    (hstart : S.Starts start) (p : Publication) (n : Nat) (hw : w.Safe S start) :
    (p.runFrom (.ofSettings S) n).Ensures (Ledger.world S) (Ledger.Safe S start) w
      (fun w' x => w'.Safe S start ∧ Stands S start w' x.2 x.1) := by
  unfold runFrom run
  refine ensures_serve_bind.2 ((ensures_start hstart hw).mono ?_)
  rintro w₁ ⟨progress, s₁⟩ ⟨hsafe₁, h₁⟩
  exact ensures_rounds hnodup n h₁ hsafe₁

/-! ## Crashes and restarts -/

/-- **What crashes and restarts can lead to.** At first nothing was given out and no offset is kept.
Then runs follow one another, each from a new source and broken off anywhere, and tables grow between
them. -/
inductive Reachable (S : DatabaseSettings) : Ledger → Prop where
  | first (tables : String → TimeTable) : Reachable S { tables }
  | grow {w w' : Ledger} (before : Reachable S w) (waits : w.Waits w') : Reachable S w'
  | run {w w' : Ledger} (before : Reachable S w) (p : Publication) (n : Nat)
      {t : List (Exchange (Link.sum Outlet))} (course : Reaches (p.runFrom (.ofSettings S) n) t)
      (follows : (Ledger.world S).Follows w.crashed t w') : Reachable S w'

/-- **At every moment the ledger is safe.** -/
theorem safe_of_reachable (hnodup : (S.tables.map TableSource.partition).Nodup)
    (hstart : S.Starts start) (h : Reachable S w) : w.Safe S start := by
  induction h with
  | first tables =>
      intro t _ o ho
      cases ho
  | grow before waits ih => exact ih.goesOn waits.goesOn waits.kept
  | @run w₁ w₂ before p n t course follows ih =>
      have hcrashed : w₁.crashed.Safe S start :=
        ih.goesOn ⟨fun _ => .refl _, List.prefix_refl _⟩ rfl
      exact (ensures_runFrom hnodup hstart p n hcrashed).of_reaches hcrashed course follows

/-- **What was settled, at every moment.** Through all failures, crashes and restarts, the lines of the
rows of a table after the start and up to an offset that is kept for it have all been given out and
flushed, each at least once. The settings have to name the start: a blank text is accepted for it too, but
it is read as the present, so there is no one position that all runs start from. -/
theorem settled_of_reachable (hcheck : S.check = .ok ()) (hmode : S.mode = .source)
    (hstart : S.Starts start) (h : Reachable S w) {t : TableSource} (ht : t ∈ S.tables) {o : Offset}
    (ho : o ∈ w.kept.load) (hpartition : o.partition = t.partition) :
    ((Source.linesOf S t (w.tables t.table).toTable (Table.between (w.tables t.table).rows
      (start.toUnits S.precision) ((Cursor.ofOffset o).toUnits S.precision))).map
        Text.Utf8.ofString).Subperm
      ((Source.ofTable t w.settled).map Outgoing.payload) := by
  have hnodup := DatabaseSettings.nodup_of_checkSource
    (DatabaseSettings.checkSource_of_check hcheck hmode)
  obtain ⟨records, hstretch, hsettled⟩ := safe_of_reachable hnodup hstart h t ht o ho hpartition
  obtain ⟨b, hb, hpayload⟩ := hstretch.rows
  have hlines := (hb.filterMap (Source.line? S t (w.tables t.table).toTable)).map Text.Utf8.ofString
  rw [hpayload] at hsettled
  exact hlines.symm.subperm.trans hsettled

/-! ### A rehearsal -/

/-- **A world to rehearse in:** nothing fails but the stores that are given in advance. -/
structure Rehearsal where
  ledger : Ledger
  stores : List (Outcome Unit) := []

/-- The table that there is. -/
def Rehearsal.lookup (x : Rehearsal) (name : String) : Option Table :=
  if name = "meters" then some (x.ledger.tables name).toTable else none

/-- Answer from the ledger. -/
def Rehearsal.answer (x : Rehearsal) :
    (q : (Link.sum Outlet).Request) → (Link.sum Outlet).Answer q × Rehearsal
  | .inl q => (q.rehearse x.lookup, x)
  | .inr .load => (.ok x.ledger.kept.load, x)
  | .inr (.store offsets) =>
      match x.stores with
      | .error e :: stores => (.error e, { x with stores })
      | _ => (.ok (), { x with ledger.kept := x.ledger.kept.commit offsets, stores := x.stores.tail })
  | .inr (.emit record) => (.ok (), { x with ledger.pending := x.ledger.pending ++ [record] })
  | .inr .flush =>
      (.ok (), { x with
        ledger.pending := []
        ledger.settled := x.ledger.settled ++ x.ledger.pending })
  | .inr .stopping => (false, x)
  | .inr (.pause _) => ((), x)
  | .inr (.note _) => ((), x)

/-- A rehearsal is answered as the world may answer. -/
theorem Rehearsal.world_answer (x : Rehearsal) (q : (Link.sum Outlet).Request) :
    Ledger.world Source.metersSettings x.ledger q (x.answer q).1 (x.answer q).2.ledger := by
  refine ⟨x.ledger, .refl _, ?_⟩
  cases q with
  | inl q =>
      cases q with
      | database call =>
          cases call with
          | query session sql =>
              refine ⟨rfl, ?_⟩
              rintro result hresult t ht time
              cases hresult
              obtain rfl := List.mem_singleton.1 ht
              have htable : Table.Plain "meters" := by decide
              have hcolumn : Table.Plain Source.metersSettings.timestampColumn := by decide
              constructor
              · rintro limit rfl
                obtain ⟨l, rfl, horder, hresult⟩ :=
                  LinkCall.answersAfter_rehearse x.lookup htable hcolumn rfl time limit
                exact ⟨_, Table.sorted_perm _, horder, hresult⟩
              · rintro rfl
                obtain ⟨l, rfl, hresult⟩ :=
                  LinkCall.answersAt_rehearse x.lookup htable hcolumn rfl time
                exact ⟨_, Table.sorted_perm _, hresult⟩
          | _ => rfl
      | _ => rfl
  | inr q =>
      cases q with
      | load =>
          refine ⟨rfl, ?_⟩
          rintro offsets h
          cases h
          rfl
      | store offsets =>
          unfold Rehearsal.answer
          split
          · exact ⟨[], List.nil_sublist _, by simp, rfl⟩
          · exact ⟨offsets, List.Sublist.refl _, fun _ => rfl, rfl⟩
      | emit record => exact .inl rfl
      | flush => exact .inl rfl
      | stopping => rfl
      | pause millis => rfl
      | note reading => rfl

/-- A publication in batches of two rows. -/
def pairwise : Publication := ⟨{ name := "c", batchSize := 2 }⟩

/-- What a run of at most `n` rounds leaves of a rehearsal. -/
def Rehearsal.after (x : Rehearsal) (n : Nat) : Ledger :=
  ((pairwise.runFrom (.ofSettings Source.metersSettings) n).stateWith Rehearsal.answer x).ledger

/-- What a run leaves of a ledger can be reached. -/
theorem Rehearsal.reachable_after {w : Ledger} (h : Reachable Source.metersSettings w)
    (stores : List (Outcome Unit)) (n : Nat) :
    Reachable Source.metersSettings (Rehearsal.after ⟨w.crashed, stores⟩ n) :=
  .run h pairwise n (runs_courseWith (I := Link.sum Outlet) Rehearsal.answer _ _).reaches
    (follows_courseWith (I := Link.sum Outlet) Rehearsal.world_answer _ ⟨w.crashed, stores⟩)

/-- A run that breaks off when its offset is not kept, and a run after it. -/
def metersLedger : Ledger :=
  Rehearsal.after ⟨(Rehearsal.after ⟨{ tables := fun _ => Source.meters },
    [.error (.retryable "full" none)]⟩ 1).crashed, []⟩ 3

/-- It can be reached. -/
theorem reachable_metersLedger : Reachable Source.metersSettings metersLedger :=
  Rehearsal.reachable_after (Rehearsal.reachable_after (.first _) _ 1) [] 3

/-- The settings name the start of 1970. -/
theorem starts_metersSettings : Source.metersSettings.Starts .zero :=
  ⟨"0", rfl, by decide, rfl⟩

/-- They are accepted. -/
theorem check_metersSettings : Source.metersSettings.check = .ok () := by
  have haccepted : Source.metersSettings.check.toBool = true := by decide +kernel
  cases hcheck : Source.metersSettings.check with
  | ok _ => rfl
  | error e =>
      rw [hcheck] at haccepted
      cases haccepted

/-- What was given out before the offset was kept is given out again, and no line is missing. -/
theorem settled_metersLedger :
    ⟨"meters", [("timestamp_ms", 3), ("timestamp_ns", 0)]⟩ ∈ metersLedger.kept.load ∧
      (["meters v=30i64 3", "meters v=10i64 1", "meters v=20i64 2", "meters v=22i64 2"].map
        Text.Utf8.ofString).Subperm
        ((Source.ofTable ⟨"meters", none⟩ metersLedger.settled).map Outgoing.payload) := by
  have hkept : ⟨"meters", [("timestamp_ms", 3), ("timestamp_ns", 0)]⟩ ∈ metersLedger.kept.load := by
    decide +kernel
  have hsettled := settled_of_reachable check_metersSettings rfl starts_metersSettings
    reachable_metersLedger (List.mem_singleton_self _) hkept rfl
  have hlines : (Source.linesOf Source.metersSettings ⟨"meters", none⟩
      (metersLedger.tables "meters").toTable (Table.between (metersLedger.tables "meters").rows
        (Cursor.zero.toUnits .millis) ((Cursor.ofOffset ⟨"meters",
          [("timestamp_ms", 3), ("timestamp_ns", 0)]⟩).toUnits .millis))).map Text.Utf8.ofString =
      ["meters v=30i64 3", "meters v=10i64 1", "meters v=20i64 2", "meters v=22i64 2"].map
        Text.Utf8.ofString := by
    decide +kernel
  refine ⟨hkept, ?_⟩
  rw [← hlines]
  exact hsettled

end Publication

end SeriesBridge
