import SeriesBridge.Proofs.Extraction.Arrangement

/-! # Where a batch is cut

A batch is the first rows after an instant, up to a limit. Whether it is cut between two instants or has
to be asked for anew is decided by its times alone, though the rows behind the limit are not known then.
This file says what is decided.

* **`Text.exists_dropEndWhile`** — what is dropped at the end of a list, and what is kept.
* **`Extraction.Cut`**, **`Extraction.cut_completePrefix`** — the three ways to cut a batch.
* **`Extraction.take_completePrefix`** — a batch that is cut holds all members up to its last instant.
* **`Extraction.completePrefix_parts_no_instant`** — what is kept of the first times of a list, said of
  the whole list. -/

namespace SeriesBridge

/-- **What is dropped at the end of a list** all satisfies the condition, and the last member that is
kept does not. -/
theorem Text.exists_dropEndWhile {α : Type} (p : α → Bool) (s : List α) :
    ∃ rest, s = dropEndWhile p s ++ rest ∧ (∀ x ∈ rest, p x = true) ∧
      ∀ x, (dropEndWhile p s).getLast? = some x → p x = false := by
  refine ⟨(s.reverse.takeWhile p).reverse, ?_, ?_, ?_⟩
  · rw [dropEndWhile, ← List.reverse_append, List.takeWhile_append_dropWhile, List.reverse_reverse]
  · intro x hx
    exact List.all_eq_true.1 List.all_takeWhile x (List.mem_reverse.1 hx)
  · intro x hx
    have hfirst := List.head?_dropWhile_not p s.reverse
    rw [dropEndWhile, List.getLast?_reverse] at hx
    rwa [hx] at hfirst

namespace Extraction

variable {limit : Nat} {times : List Int64}

/-- The members of a list in order are up to its last one. -/
theorem rel_last_of_pairwise {α : Type} {R : α → α → Prop} {l : List α} {m : α}
    (h : l.Pairwise R) (hlast : l.getLast? = some m) (hm : R m m) : ∀ x ∈ l, R x m := by
  obtain ⟨l', rfl⟩ := List.getLast?_eq_some_iff.1 hlast
  intro x hx
  rcases List.mem_append.1 hx with hx | hx
  · exact (List.pairwise_append.1 h).2.2 x hx m (List.mem_singleton.2 rfl)
  · rw [List.mem_singleton.1 hx]
    exact hm

/-- **Times before a cut are before those behind it,** when all behind it are one instant and the last
before it is another. -/
theorem lt_of_cut {whole rest : List Int64} {last : Int64} (h : (whole ++ rest).Pairwise (· ≤ ·))
    (hrest : ∀ x ∈ rest, (x == last) = true)
    (hkept : ∀ x, whole.getLast? = some x → (x == last) = false) :
    ∀ x ∈ whole, ∀ y ∈ rest, x < y := by
  intro x hx y hy
  obtain ⟨hinside, -, hacross⟩ := List.pairwise_append.1 h
  have hkeptLast := List.getLast?_eq_some_getLast (List.ne_nil_of_mem hx)
  generalize whole.getLast (List.ne_nil_of_mem hx) = kept at hkeptLast
  -- All are up to the last that is kept, and that one is before the last instant.
  have hxk : x ≤ kept := rel_last_of_pairwise hinside hkeptLast (Int64.le_refl kept) x hx
  have hky : kept ≤ y := hacross kept (List.mem_of_getLast? hkeptLast) y hy
  have hne : kept ≠ y := by
    intro heq
    have := hkept kept hkeptLast
    rw [heq, hrest y hy] at this
    cases this
  exact Int64.lt_of_le_of_lt hxk (Int64.lt_of_le_of_ne hky hne)

/-- **The three ways to cut a batch** whose times are in order, with how many of them are kept. -/
inductive Cut (limit : Nat) (times : List Int64) (keep : Nat) : Prop where
  /-- Below the limit all are kept. -/
  | short (below : times.length < limit) (all : keep = times.length)
  /-- One instant reaches the limit, and all are kept. -/
  | instant (reached : limit ≤ times.length) (all : keep = times.length)
      (same : ∀ x ∈ times, ∀ y ∈ times, x = y)
  /-- The last of several instants is left behind. -/
  | between {whole rest : List Int64} (reached : limit ≤ times.length)
      (split : times = whole ++ rest) (kept : whole ≠ []) (left : rest ≠ [])
      (size : keep = whole.length) (later : ∀ x ∈ whole, ∀ y ∈ rest, x < y)
      (same : ∀ x ∈ rest, ∀ y ∈ rest, x = y)

/-- **Times in order are cut** in one of the three ways. -/
theorem cut_completePrefix (limit : Nat) (h : times.Pairwise (· ≤ ·)) :
    Cut limit times (completePrefix limit times) := by
  unfold completePrefix
  by_cases hlimit : times.length < limit
  · rw [if_pos hlimit]
    exact .short hlimit rfl
  · rw [if_neg hlimit]
    have hle : limit ≤ times.length := Nat.le_of_not_lt hlimit
    cases hlast : times.getLast? with
    | none =>
        rw [List.getLast?_eq_none_iff] at hlast
        subst hlast
        exact .instant hle rfl (by simp)
    | some last =>
        obtain ⟨rest, htimes, hrest, hkept⟩ := Text.exists_dropEndWhile (· == last) times
        dsimp only
        generalize Text.dropEndWhile (· == last) times = whole at htimes hkept ⊢
        have hne : rest ≠ [] := by
          rintro rfl
          rw [List.append_nil] at htimes
          rw [htimes] at hlast
          simpa using hkept last hlast
        have hinstant : ∀ x ∈ rest, ∀ y ∈ rest, x = y := by
          intro x hx y hy
          rw [eq_of_beq (hrest x hx), eq_of_beq (hrest y hy)]
        by_cases hwhole : whole.length = 0
        · rw [if_pos hwhole]
          rw [List.length_eq_zero_iff.1 hwhole, List.nil_append] at htimes
          subst htimes
          exact .instant hle rfl hinstant
        · rw [if_neg hwhole]
          have hwhole' : whole ≠ [] := fun h => hwhole (by rw [h, List.length_nil])
          rw [htimes] at h
          exact .between hle htimes hwhole' hne rfl (lt_of_cut h hrest hkept) hinstant

namespace Cut

variable {keep : Nat}

/-- Some times are kept, and no more than there are. -/
theorem bounds (h : Cut limit times keep) (hne : times ≠ []) :
    1 ≤ keep ∧ keep ≤ times.length := by
  have hlength := List.length_pos_iff.2 hne
  cases h with
  | short _ hall => omega
  | instant _ hall _ => omega
  | between _ hsplit hkept _ hsize _ _ =>
      have hpos := List.length_pos_iff.2 hkept
      rw [hsize, hsplit, List.length_append]
      omega

/-- **A batch that reaches the limit and is kept whole** is of one instant. -/
theorem eq_of_whole (h : Cut limit times keep) (hlimit : limit ≤ times.length)
    (hkeep : keep = times.length) : ∀ x ∈ times, ∀ y ∈ times, x = y := by
  cases h with
  | short hbelow _ => omega
  | instant _ _ hsame => exact hsame
  | between _ hsplit _ hleft hsize _ _ =>
      have hpos := List.length_pos_iff.2 hleft
      rw [hsize, hsplit, List.length_append] at hkeep
      omega

/-- **What is left behind** is of one instant. -/
theorem eq_of_mem_drop (h : Cut limit times keep) :
    ∀ x ∈ times.drop keep, ∀ y ∈ times.drop keep, x = y := by
  cases h with
  | short _ hall => simp [hall]
  | instant _ hall _ => simp [hall]
  | between _ hsplit _ _ hsize _ hsame =>
      rw [hsize, hsplit, List.drop_left]
      exact hsame

end Cut

/-! ## Members with a time -/

section Timed

variable {α : Type} {time : α → Int64} {l : List α}

/-- Members in order of time are all up to the last of them. -/
theorem le_last (h : l.Pairwise (fun a b => time a ≤ time b)) {last : α}
    (hlast : l.getLast? = some last) : ∀ a ∈ l, time a ≤ time last :=
  rel_last_of_pairwise h hlast (Int64.le_refl _)

/-- The first members, up to the last of them, are all that are, when those behind them are later. -/
theorem filter_le_of_append {whole : List α} (rest : List α) {last : α}
    (h : whole.Pairwise (fun a b => time a ≤ time b)) (hlast : whole.getLast? = some last)
    (hrest : ∀ a ∈ rest, time last < time a) :
    (whole ++ rest).filter (fun a => time a ≤ time last) = whole := by
  have hall : whole.filter (fun a => time a ≤ time last) = whole := by
    rw [List.filter_eq_self]
    intro a ha
    simpa using le_last h hlast a ha
  have hnone : rest.filter (fun a => time a ≤ time last) = [] := by
    rw [List.filter_eq_nil_iff]
    intro a ha
    simpa using hrest a ha
  rw [List.filter_append, hall, hnone, List.append_nil]

/-- **The members before a cut are all members up to the last of them,** when some member is behind the
cut. -/
theorem filter_le_of_cut (h : l.Pairwise (fun a b => time a ≤ time b)) {kept left : List α} {last : α}
    (hgot : l.take limit = kept ++ left) (hleft : left ≠ []) (hlast : kept.getLast? = some last)
    (hlt : ∀ a ∈ left, time last < time a) :
    l.filter (fun a => time a ≤ time last) = kept := by
  have hl : l = kept ++ (left ++ l.drop limit) := by
    rw [← List.append_assoc, ← hgot, List.take_append_drop]
  rw [hl] at h ⊢
  obtain ⟨hinside, hafter, -⟩ := List.pairwise_append.1 h
  obtain ⟨next, left', rfl⟩ := List.exists_cons_of_ne_nil hleft
  have hnext : time last < time next := hlt next List.mem_cons_self
  refine filter_le_of_append _ hinside hlast ?_
  intro a ha
  rw [List.cons_append] at ha hafter
  rcases List.mem_cons.1 ha with rfl | ha
  · exact hnext
  · exact Int64.lt_of_lt_of_le hnext ((List.pairwise_cons.1 hafter).1 a ha)

/-- **A batch that is cut** holds all members up to its last instant. -/
theorem take_completePrefix (time : α → Int64) (h : l.Pairwise (fun a b => time a ≤ time b))
    (htimes : times = (l.take limit).map time) (hne : l.take limit ≠ [])
    (hcut : ¬ (completePrefix limit times = times.length ∧ limit ≤ times.length)) :
    ∃ last, ((l.take limit).take (completePrefix limit times)).getLast? = some last ∧
      (l.take limit).take (completePrefix limit times) =
        l.filter (fun a => time a ≤ time last) := by
  have horder : times.Pairwise (· ≤ ·) := by
    rw [htimes, List.pairwise_map]
    exact h.sublist (List.take_sublist limit l)
  cases cut_completePrefix limit horder with
  | short hshort hkeep =>
      -- Below the limit the batch is all there is.
      have hlength : times.length = (l.take limit).length := by rw [htimes, List.length_map]
      have hall : l.take limit = l := by
        rw [hlength, List.length_take] at hshort
        exact List.take_of_length_le (by omega)
      rw [hall] at hne hlength ⊢
      have hlast := List.getLast?_eq_some_getLast hne
      rw [hkeep, hlength, List.take_length]
      refine ⟨l.getLast hne, hlast, ?_⟩
      have := filter_le_of_append [] h hlast (by simp)
      rw [List.append_nil] at this
      exact this.symm
  | instant hfull hkeep _ => exact absurd ⟨hkeep, hfull⟩ hcut
  | between _ hsplit hwhole hrest hkeep hlt _ =>
      -- The times of the members that are kept are those before the cut.
      rw [hkeep]
      have hmap := htimes.symm.trans hsplit
      obtain ⟨kept, left, hgot, rfl, rfl⟩ := List.map_eq_append_iff.1 hmap
      rw [List.length_map, hgot, List.take_left]
      have hkept : kept ≠ [] := fun h => hwhole (by rw [h, List.map_nil])
      have hleft : left ≠ [] := fun h => hrest (by rw [h, List.map_nil])
      have hlast := List.getLast?_eq_some_getLast hkept
      generalize kept.getLast hkept = last at hlast
      refine ⟨last, hlast, (filter_le_of_cut h hgot hleft hlast ?_).symm⟩
      intro a ha
      exact hlt (time last) (List.mem_map_of_mem (List.mem_of_getLast? hlast)) (time a)
        (List.mem_map_of_mem ha)

end Timed

/-! ## Times that are known up to the limit -/

/-- **The first times of a list, up to a cut,** are all times of the list up to the last of them. -/
theorem take_eq_filter_of_cut (horder : times.Pairwise (· ≤ ·)) (hne : times.take limit ≠ [])
    {keep : Nat} (hkeep : completePrefix limit (times.take limit) = keep)
    (hpart : keep < (times.take limit).length ∨ (times.take limit).length < limit) :
    ∃ last, (times.take limit)[keep - 1]? = some last ∧
      times.take keep = times.filter (· ≤ last) := by
  have hmost : (times.take limit).length ≤ limit := List.length_take_le limit times
  obtain ⟨hpos, hle⟩ :=
    (cut_completePrefix limit (horder.sublist (List.take_sublist limit times))).bounds hne
  rw [hkeep] at hpos hle
  -- Here the members are times themselves.
  obtain ⟨last, hlast, hall⟩ :=
    take_completePrefix id horder (List.map_id _).symm hne (by rw [hkeep]; omega)
  rw [hkeep] at hlast hall
  refine ⟨last, ?_, ?_⟩
  · rwa [List.getLast?_eq_getElem?, List.length_take, Nat.min_eq_left hle,
      List.getElem?_take_of_lt (by omega)] at hlast
  · rwa [List.take_take, Nat.min_eq_left (by omega)] at hall

/-- **No instant is parted.** Of the first times of a list in order, up to a limit, some are kept. If some
are left behind, or there are fewer than the limit, the times that are kept are all times of the list up
to the last of them, however the list goes on behind the limit; otherwise one instant alone reaches the
limit. No more than one instant is left behind, and nothing if there are fewer times than the limit. -/
theorem completePrefix_parts_no_instant (horder : times.Pairwise (· ≤ ·)) (hne : times ≠ [])
    (hlimit : 1 ≤ limit) :
    let batch := times.take limit
    let keep := completePrefix limit batch
    (1 ≤ keep ∧ keep ≤ batch.length) ∧
      (keep < batch.length ∨ batch.length < limit →
        ∃ last, batch[keep - 1]? = some last ∧ times.take keep = times.filter (· ≤ last)) ∧
      (¬ (keep < batch.length ∨ batch.length < limit) →
        keep = batch.length ∧ batch.length = limit ∧ ∀ x ∈ batch, ∀ y ∈ batch, x = y) ∧
      (∀ x ∈ batch.drop keep, ∀ y ∈ batch.drop keep, x = y) ∧
      (batch.length < limit → keep = batch.length) := by
  intro batch keep
  -- The limit is not zero, so there is something to keep.
  have hbatch : batch ≠ [] := by
    rw [Ne, List.take_eq_nil_iff]
    rintro (hzero | hnil)
    · omega
    · exact hne hnil
  have hsorted : batch.Pairwise (· ≤ ·) := horder.sublist (List.take_sublist limit times)
  have hmost : batch.length ≤ limit := List.length_take_le limit times
  have hcut : Cut limit batch keep := cut_completePrefix limit hsorted
  have hbounds : 1 ≤ keep ∧ keep ≤ batch.length := hcut.bounds hbatch
  refine ⟨hbounds, take_eq_filter_of_cut horder hbatch rfl, ?_, hcut.eq_of_mem_drop, ?_⟩
  · intro hfull
    have hkeep : keep = batch.length := by omega
    have hreached : batch.length = limit := by omega
    exact ⟨hkeep, hreached, hcut.eq_of_whole (Nat.le_of_eq hreached.symm) hkeep⟩
  · intro hshort
    exact if_pos hshort

/-- Times of readings, several of one instant. -/
def readings : List Int64 := [10, 20, 20, 30, 30, 30, 40]

/-- The third instant ends at a limit of six and is left behind, since it might go on; a limit of two is
reached by it alone. -/
theorem completePrefix_parts_no_instant_readings :
    readings.Pairwise (· ≤ ·) ∧ readings ≠ [] ∧
      completePrefix 6 (readings.take 6) = 3 ∧ readings.take 3 = readings.filter (· ≤ 20) ∧
      completePrefix 2 ((readings.drop 3).take 2) = 2 ∧
      ∀ x ∈ (readings.drop 3).take 2, ∀ y ∈ (readings.drop 3).take 2, x = y := by
  have horder : readings.Pairwise (· ≤ ·) := by decide
  have hne : readings ≠ [] := by decide
  have hkeep : completePrefix 6 (readings.take 6) = 3 := by decide
  obtain ⟨-, hcut, -⟩ := completePrefix_parts_no_instant horder hne (show 1 ≤ 6 by decide)
  obtain ⟨-, -, hreached, -⟩ := completePrefix_parts_no_instant
    (show (readings.drop 3).Pairwise (· ≤ ·) by decide) (by decide) (show 1 ≤ 2 by decide)
  obtain ⟨last, hlast, hall⟩ := hcut (.inl (by decide))
  rw [hkeep] at hlast hall
  obtain rfl : (20 : Int64) = last := Option.some.inj hlast
  exact ⟨horder, hne, hkeep, hall, by decide, (hreached (by decide)).2.2⟩

end Extraction

end SeriesBridge
