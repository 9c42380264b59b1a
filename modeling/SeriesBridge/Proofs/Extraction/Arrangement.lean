import SeriesBridge.Database.Table
import SeriesBridge.Extraction.Query

/-! # Rows in order of time

What is asked of a table is a part of its rows in order of time. A database may be free to give rows
of one instant in any order, or bound to give them in the order of the table. An **`Arrangement`** is
either of these.

* **`Table.between rows after upto`** — the rows after one instant, up to another.
* **`Arrangement`** — what is common to all ways to put rows in order.
* **`arrangement_perm`**, **`arrangement_sorted`** — in any order, and in the order of the table. -/

namespace SeriesBridge

/-- A row of a table with its time. -/
abbrev Row : Type := Int64 × List Json

namespace Table

/-- Rows in order of time. -/
def InOrder (rows : List Row) : Prop := rows.Pairwise (fun a b => a.1 ≤ b.1)

/-- **The rows after one instant, up to another.** -/
def between (rows : List Row) (after upto : Int64) : List Row :=
  rows.filter (fun r => after < r.1 && r.1 ≤ upto)

variable {rows l l₁ l₂ : List Row}

/-- No rows are between an instant and itself. -/
@[simp] theorem between_self (rows : List Row) (time : Int64) : between rows time time = [] := by
  rw [between, List.filter_eq_nil_iff]
  intro r _
  simp only [Bool.and_eq_true, decide_eq_true_eq, Int64.lt_iff_toInt_lt, Int64.le_iff_toInt_le]
  omega

/-- Of the rows up to an instant, those up to an earlier one are all that are up to it. -/
theorem filter_le_between {after mid upto : Int64} (h : mid ≤ upto) :
    (between rows after upto).filter (fun r => r.1 ≤ mid) = between rows after mid := by
  rw [between, between, List.filter_filter]
  refine List.filter_congr (fun r _ => ?_)
  rw [Bool.eq_iff_iff]
  simp only [Bool.and_eq_true, decide_eq_true_eq, Int64.lt_iff_toInt_lt, Int64.le_iff_toInt_le] at *
  omega

/-- Of the rows after an instant, those after a later one are all that are after it. -/
theorem filter_lt_between {after mid upto : Int64} (h : after ≤ mid) :
    (between rows after upto).filter (fun r => mid < r.1) = between rows mid upto := by
  rw [between, between, List.filter_filter]
  refine List.filter_congr (fun r _ => ?_)
  rw [Bool.eq_iff_iff]
  simp only [Bool.and_eq_true, decide_eq_true_eq, Int64.lt_iff_toInt_lt, Int64.le_iff_toInt_le] at *
  omega

/-! ## Sorting -/

/-- A row that is put among others is there once more. -/
theorem insertRow_perm (row : Row) (rows : List Row) : (insertRow row rows).Perm (row :: rows) := by
  induction rows with
  | nil => exact .refl _
  | cons r rows ih =>
      unfold insertRow
      by_cases h : row.1 ≤ r.1
      · rw [if_pos h]
      · rw [if_neg h]
        exact (ih.cons r).trans (.swap row r rows)

/-- A row that is put among others in order leaves them in order. -/
theorem InOrder.insertRow (h : InOrder rows) (row : Row) : InOrder (insertRow row rows) := by
  induction rows with
  | nil => exact List.pairwise_singleton _ _
  | cons r rows ih =>
      obtain ⟨hr, hrows⟩ := List.pairwise_cons.1 h
      unfold Table.insertRow
      by_cases hle : row.1 ≤ r.1
      · rw [if_pos hle]
        refine List.pairwise_cons.2 ⟨?_, h⟩
        intro r' hr'
        rcases List.mem_cons.1 hr' with rfl | hr'
        · exact hle
        · exact Int64.le_trans hle (hr r' hr')
      · rw [if_neg hle]
        refine List.pairwise_cons.2 ⟨?_, ih hrows⟩
        intro r' hr'
        rcases List.mem_cons.1 ((insertRow_perm row rows).mem_iff.1 hr') with rfl | hr'
        · exact Int64.le_of_lt (Int64.not_le.1 hle)
        · exact hr r' hr'

/-- A row that is put among others comes before those of its instant. -/
theorem filter_time_insertRow (row : Row) (rows : List Row) (time : Int64) :
    (insertRow row rows).filter (fun r => r.1 == time) =
      (row :: rows).filter (fun r => r.1 == time) := by
  induction rows with
  | nil => rfl
  | cons r rows ih =>
      unfold insertRow
      by_cases hle : row.1 ≤ r.1
      · rw [if_pos hle]
      · rw [if_neg hle, List.filter_cons, ih]
        -- The row is later than the one that it passes, so not both are of the instant.
        by_cases hrow : row.1 = time
        · have hr : ¬ (r.1 == time) = true := by
            rw [beq_iff_eq, ← hrow]
            intro heq
            exact hle (by rw [heq]; exact Int64.le_refl _)
          rw [if_neg hr, List.filter_cons_of_pos (by simpa using hrow),
            List.filter_cons_of_pos (by simpa using hrow), List.filter_cons, if_neg hr]
        · rw [List.filter_cons_of_neg (by simpa using hrow),
            List.filter_cons_of_neg (by simpa using hrow), List.filter_cons]

/-- Sorting keeps every row. -/
theorem sorted_perm (rows : List Row) : (sorted rows).Perm rows := by
  induction rows with
  | nil => exact .refl _
  | cons r rows ih => exact (insertRow_perm r (sorted rows)).trans (ih.cons r)

/-- Sorted rows are in order of time. -/
theorem inOrder_sorted (rows : List Row) : InOrder (sorted rows) := by
  induction rows with
  | nil => exact List.Pairwise.nil
  | cons r rows ih => exact ih.insertRow r

/-- **Sorting is stable:** the rows of one instant keep their order. -/
theorem filter_time_sorted (rows : List Row) (time : Int64) :
    (sorted rows).filter (fun r => r.1 == time) = rows.filter (fun r => r.1 == time) := by
  induction rows with
  | nil => rfl
  | cons r rows ih =>
      refine (filter_time_insertRow r (sorted rows) time).trans ?_
      rw [List.filter_cons, List.filter_cons, ih]

/-- Rows in order of time are those up to an instant, and then those after it. -/
theorem InOrder.filter_append_filter (h : InOrder l) (time : Int64) :
    l.filter (fun r => r.1 ≤ time) ++ l.filter (fun r => time < r.1) = l := by
  induction l with
  | nil => rfl
  | cons a l ih =>
      obtain ⟨ha, hl⟩ := List.pairwise_cons.1 h
      by_cases hle : a.1 ≤ time
      · have hnot : ¬ time < a.1 := by
          rw [Int64.lt_iff_toInt_lt]
          rw [Int64.le_iff_toInt_le] at hle
          omega
        rw [List.filter_cons_of_pos (by simpa using hle), List.filter_cons_of_neg (by simpa using hnot),
          List.cons_append, ih hl]
      · -- All that come after a row beyond the instant are beyond it too.
        have hbeyond : ∀ r ∈ a :: l, time < r.1 := by
          intro r hr
          rw [Int64.le_iff_toInt_le] at hle
          rw [Int64.lt_iff_toInt_lt]
          rcases List.mem_cons.1 hr with rfl | hr
          · omega
          · have := ha r hr
            rw [Int64.le_iff_toInt_le] at this
            omega
        have hnone : (a :: l).filter (fun r => r.1 ≤ time) = [] := by
          rw [List.filter_eq_nil_iff]
          intro r hr
          have := hbeyond r hr
          rw [decide_eq_true_eq, Int64.le_iff_toInt_le]
          rw [Int64.lt_iff_toInt_lt] at this
          omega
        rw [hnone, List.nil_append, List.filter_eq_self]
        intro r hr
        simpa using hbeyond r hr

/-- A row that the rows of its instant have in common with a list in order is not before the first
of that list. -/
theorem InOrder.first_le_of_filter_time {a b : Row} (h₂ : InOrder (b :: l₂)) (ha : a ∈ l₁)
    (h : l₁.filter (fun r => r.1 == a.1) = (b :: l₂).filter (fun r => r.1 == a.1)) :
    b.1 ≤ a.1 := by
  have hmem : a ∈ (b :: l₂).filter (fun r => r.1 == a.1) := by
    rw [← h, List.mem_filter]
    exact ⟨ha, by simp⟩
  rcases List.mem_cons.1 (List.mem_filter.1 hmem).1 with rfl | hr
  · exact Int64.le_refl _
  · exact (List.pairwise_cons.1 h₂).1 a hr

/-- **Rows in order of time are known by the rows of every instant.** -/
theorem InOrder.eq_of_filter_time (h₁ : InOrder l₁) (h₂ : InOrder l₂)
    (h : ∀ time : Int64, l₁.filter (fun r => r.1 == time) = l₂.filter (fun r => r.1 == time)) :
    l₁ = l₂ := by
  induction l₁ generalizing l₂ with
  | nil =>
      cases l₂ with
      | nil => rfl
      | cons b l₂ => simpa using h b.1
  | cons a l₁ ih =>
      cases l₂ with
      | nil => simpa using h a.1
      | cons b l₂ =>
          obtain ⟨-, hl₁⟩ := List.pairwise_cons.1 h₁
          obtain ⟨-, hl₂⟩ := List.pairwise_cons.1 h₂
          -- Each of the first rows is found in the other list, so neither is earlier.
          have hle₁ : b.1 ≤ a.1 := h₂.first_le_of_filter_time List.mem_cons_self (h a.1)
          have hle₂ : a.1 ≤ b.1 := h₁.first_le_of_filter_time List.mem_cons_self (h b.1).symm
          have htime : a.1 = b.1 := Int64.le_antisymm hle₂ hle₁
          have hfirst := h a.1
          rw [List.filter_cons_of_pos (by simp), List.filter_cons_of_pos (by simp [htime])] at hfirst
          obtain ⟨rfl, -⟩ := List.cons.inj hfirst
          rw [ih hl₁ hl₂ ?_]
          intro time
          have hall := h time
          rw [List.filter_cons, List.filter_cons] at hall
          by_cases ht : (a.1 == time) = true
          · rw [if_pos ht, if_pos ht] at hall
            exact (List.cons.inj hall).2
          · rwa [if_neg ht, if_neg ht] at hall

/-- Two parts of a list are taken in either order. -/
theorem filter_filter_comm (rows : List Row) (p q : Row → Bool) :
    (rows.filter p).filter q = (rows.filter q).filter p := by
  rw [List.filter_filter, List.filter_filter]
  exact List.filter_congr (fun r _ => Bool.and_comm _ _)

/-- **Sorting a part of the rows** gives the part of the sorted rows. -/
theorem filter_sorted (rows : List Row) (p : Row → Bool) :
    (sorted rows).filter p = sorted (rows.filter p) := by
  refine InOrder.eq_of_filter_time ((inOrder_sorted rows).filter p) (inOrder_sorted _) ?_
  intro time
  calc ((sorted rows).filter p).filter (fun r => r.1 == time)
      = ((sorted rows).filter (fun r => r.1 == time)).filter p := filter_filter_comm ..
    _ = (rows.filter (fun r => r.1 == time)).filter p := by rw [filter_time_sorted]
    _ = (rows.filter p).filter (fun r => r.1 == time) := filter_filter_comm ..
    _ = (sorted (rows.filter p)).filter (fun r => r.1 == time) := (filter_time_sorted ..).symm

end Table

/-! ## Arrangements -/

/-- **A way to put rows in order:** which lists are arrangements of which rows. A part of an
arrangement is one of the part, and one of the rows up to an instant with one of the rows after it
behind it is one of them all. -/
structure Arrangement (A : List Row → List Row → Prop) : Prop where
  perm : ∀ {l rows}, A l rows → l.Perm rows
  filter : ∀ {l rows} (p : Row → Bool), A l rows → A (l.filter p) (rows.filter p)
  append : ∀ {l₁ l₂ rows} (time : Int64), A l₁ (rows.filter (fun r => r.1 ≤ time)) →
    A l₂ (rows.filter (fun r => time < r.1)) → A (l₁ ++ l₂) rows
  nil : A [] []

/-- Rows in any order. -/
theorem arrangement_perm : Arrangement List.Perm where
  perm h := h
  filter p h := h.filter p
  append := by
    intro l₁ l₂ rows time h₁ h₂
    have hnot : ∀ r : Row, decide (time < r.1) = !decide (r.1 ≤ time) := by
      intro r
      rw [Bool.eq_iff_iff]
      simp only [Bool.not_eq_true', decide_eq_true_eq, decide_eq_false_iff_not,
        Int64.lt_iff_toInt_lt, Int64.le_iff_toInt_le]
      omega
    rw [List.filter_congr (fun r _ => hnot r)] at h₂
    exact (h₁.append h₂).trans (List.filter_append_perm _ rows)
  nil := List.Perm.nil

/-- Rows in order of time, those of one instant in the order of the table. -/
theorem arrangement_sorted : Arrangement (fun l rows => l = Table.sorted rows) where
  perm := by
    rintro l rows rfl
    exact Table.sorted_perm rows
  filter := by
    rintro l rows p rfl
    exact Table.filter_sorted rows p
  append := by
    rintro l₁ l₂ rows time rfl rfl
    rw [← Table.filter_sorted, ← Table.filter_sorted]
    exact (Table.inOrder_sorted rows).filter_append_filter time
  nil := by simp [Table.sorted]

namespace Arrangement

variable {A : List Row → List Row → Prop} {l₁ l₂ rows : List Row}

/-- **Two stretches in a row** are arranged as one. -/
theorem append_between (hA : Arrangement A) {after mid upto : Int64} (h₁ : after ≤ mid)
    (h₂ : mid ≤ upto) (hl₁ : A l₁ (Table.between rows after mid))
    (hl₂ : A l₂ (Table.between rows mid upto)) :
    A (l₁ ++ l₂) (Table.between rows after upto) := by
  refine hA.append mid ?_ ?_
  · rwa [Table.filter_le_between h₂]
  · rwa [Table.filter_lt_between h₁]

end Arrangement

end SeriesBridge
