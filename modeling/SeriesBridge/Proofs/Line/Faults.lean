import SeriesBridge.Line.Encode

/-! # Points without a fault

* **`Point.keyFault_eq_none_iff`** — keys without a fault.
* **`Point.check_eq_none_iff`** — points without a fault of their own.
* **`Line.writeFault_eq_none_iff`** — points that have a line. -/

namespace SeriesBridge

namespace Point

/-- **Keys without a fault:** none is empty, none stands there twice, and none was seen before. -/
theorem keyFault_eq_none_iff {kind : PairKind} {seen : List String} {pairs : List Pair} :
    keyFault kind seen pairs = none ↔
      (∀ q ∈ pairs, q.1 ≠ "") ∧ (pairs.map Prod.fst).Nodup ∧ ∀ q ∈ pairs, q.1 ∉ seen := by
  induction pairs generalizing seen with
  | nil => simp
  | cons q pairs ih =>
      obtain ⟨key, v⟩ := q
      unfold keyFault
      by_cases hempty : key.isEmpty = true
      · rw [if_pos hempty]
        have hkey : key = "" := by simpa using hempty
        simp [hkey]
      rw [if_neg hempty]
      have hkey : key ≠ "" := by simpa using hempty
      by_cases hseen : seen.contains key = true
      · rw [if_pos hseen]
        have hmem : key ∈ seen := by simpa using hseen
        simp [hmem]
      rw [if_neg hseen, ih]
      have hmem : key ∉ seen := by simpa using hseen
      -- A key that was not seen before it is seen by those behind it.
      rw [List.forall_mem_cons, List.forall_mem_cons, List.map_cons, List.nodup_cons, List.mem_map]
      simp only [List.mem_cons, not_or]
      constructor
      · rintro ⟨hne, hnodup, hnew⟩
        refine ⟨⟨hkey, hne⟩, ⟨?_, hnodup⟩, hmem, fun q hq => (hnew q hq).2⟩
        rintro ⟨q, hq, rfl⟩
        exact (hnew q hq).1 rfl
      · rintro ⟨⟨-, hne⟩, ⟨hnotin, hnodup⟩, -, hnew⟩
        exact ⟨hne, hnodup, fun q hq => ⟨fun heq => hnotin ⟨q, hq, heq⟩, hnew q hq⟩⟩

/-- **A point without a fault** has a name and a field, and its keys have no fault. -/
theorem check_eq_none_iff {p : Point} :
    p.check = none ↔ p.measurement ≠ "" ∧ p.fields ≠ [] ∧
      ((∀ q ∈ p.tags, q.1 ≠ "") ∧ (p.tags.map Prod.fst).Nodup) ∧
      ((∀ q ∈ p.fields, q.1 ≠ "") ∧ (p.fields.map Prod.fst).Nodup) := by
  have hkeys (kind : PairKind) (pairs : List Pair) : keyFault kind [] pairs = none ↔
      (∀ q ∈ pairs, q.1 ≠ "") ∧ (pairs.map Prod.fst).Nodup := by
    simp [keyFault_eq_none_iff]
  unfold check
  by_cases hname : p.measurement.isEmpty = true
  · rw [if_pos hname]
    have hname : p.measurement = "" := by simpa using hname
    simp [hname]
  rw [if_neg hname]
  have hname : p.measurement ≠ "" := by simpa using hname
  by_cases hfields : p.fields.isEmpty = true
  · rw [if_pos hfields]
    have hfields : p.fields = [] := by simpa using hfields
    simp [hfields]
  rw [if_neg hfields, ← hkeys .tag, ← hkeys .field]
  have hfields : p.fields ≠ [] := by simpa using hfields
  split
  · next fault hfault => simp [hfault]
  · next hnone => simp [hnone, hname, hfields]

end Point

namespace Line

/-- **A point that has a line:** it has no fault of its own, and neither a break in a text nor a number
that is not finite. -/
theorem writeFault_eq_none_iff {p : Point} :
    writeFault p = none ↔ p.check = none ∧ breakFault p.measurement = none ∧
      (∀ q ∈ p.tags, pairFault q = none) ∧ ∀ q ∈ p.fields, pairFault q = none := by
  unfold writeFault
  split
  · next fault hcheck => simp [hcheck]
  · next hcheck => simp [hcheck, Option.or_eq_none_iff, List.findSome?_eq_none_iff, and_assoc]

end Line

end SeriesBridge
