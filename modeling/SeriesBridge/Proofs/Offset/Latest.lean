import SeriesBridge.Proofs.Extraction.Position

/-! # The last offset of every partition

What is kept of the offsets of a batch, said without the way in which it is found.

* **`Offset.LastOfEach carried offsets`** — of the offsets that are carried, those are the last ones.
* **`Offset.lastOfEach_latest`** — these are the ones that are found.
* **`Offset.latest_eq_nil_iff`** — there are none only if none are carried. -/

namespace SeriesBridge.Offset

/-- **One offset for each partition that is carried,** the partitions in order of first occurrence, and
for each of them the last one that is carried. -/
structure LastOfEach (carried offsets : List Offset) : Prop where
  partitions : offsets.map partition = (carried.map partition).eraseDups
  last : ∀ o ∈ offsets, (carried.filter (fun x => x.partition == o.partition)).getLast? = some o

/-- A newer offset keeps the partitions, or adds its own at the end. -/
theorem map_partition_update (o : Offset) (known : List Offset) :
    (update o known).map partition = known.map partition ++
      if o.partition ∈ known.map partition then [] else [o.partition] := by
  induction known with
  | nil => simp [update]
  | cons other rest ih =>
      unfold update
      by_cases hother : other.partition = o.partition
      · rw [if_pos hother]
        simp [hother]
      · have hmem : o.partition ∈ (other :: rest).map partition ↔ o.partition ∈ rest.map partition := by
          simp [Ne.symm hother]
        rw [if_neg hother, List.map_cons, ih, List.map_cons, List.cons_append]
        simp only [List.map_cons] at hmem
        simp only [hmem]

/-- One name more is dropped if it occurred before. -/
theorem eraseDups_append_singleton (names : List String) (name : String) :
    (names ++ [name]).eraseDups = names.eraseDups ++ if name ∈ names then [] else [name] := by
  rw [List.eraseDups_append, List.removeAll]
  by_cases hmem : name ∈ names
  · rw [if_pos hmem, List.filter_cons_of_neg (by simpa using hmem), List.filter_nil, List.eraseDups_nil]
  · rw [if_neg hmem, List.filter_cons_of_pos (by simpa using hmem), List.filter_nil,
      List.eraseDups_cons, List.filter_nil, List.eraseDups_nil]

/-- **The partitions of the latest offsets** are all those that occur, each where it occurs first. -/
theorem map_partition_latest (carried : List Offset) :
    (latest carried).map partition = (carried.map partition).eraseDups := by
  induction carried using List.reverseRecOn with
  | nil => rfl
  | append_singleton carried o ih =>
      rw [latest_concat, map_partition_update, ih, List.map_append, List.map_singleton,
        eraseDups_append_singleton]
      simp only [List.mem_eraseDups]

/-- **The latest offsets** are the last ones of each partition. -/
theorem lastOfEach_latest (carried : List Offset) : LastOfEach carried (latest carried) where
  partitions := map_partition_latest carried
  last o ho := by
    have hmem : o ∈ (latest carried).filter (fun x => x.partition == o.partition) :=
      List.mem_filter.2 ⟨ho, by simp⟩
    rw [filter_latest] at hmem
    exact Option.mem_toList.1 hmem

/-- **No offset is lost altogether:** there are no latest ones only if none are carried. -/
theorem latest_eq_nil_iff {carried : List Offset} : latest carried = [] ↔ carried = [] := by
  constructor
  · intro h
    have hpartitions := map_partition_latest carried
    rw [h] at hpartitions
    cases carried with
    | nil => rfl
    | cons o carried =>
        rw [List.map_cons, List.eraseDups_cons] at hpartitions
        cases hpartitions
  · rintro rfl
    rfl

end SeriesBridge.Offset
