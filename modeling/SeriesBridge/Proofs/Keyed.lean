import Mathlib.Data.List.Induction
import Mathlib.Data.String.Basic
import SeriesBridge.Keyed

/-! # Keys in order

A list of values under keys has its keys in order when it was made by setting keys, and then it is
known by what is found under them.

* **`Keyed.InOrder m`** — the keys are in order, each once.
* **`Keyed.InOrder.insert`** — setting a key keeps the order.
* **`Keyed.InOrder.mem_iff`** — what stands in the list is what is found.
* **`Keyed.InOrder.ext`** — two lists in order in which the same is found are the same.
* **`Keyed.InOrder.ofList_eq`** — setting the keys again gives the same list.
* **`Keyed.lookup_foldl_insert`** — of keys that are set one after the other the last one counts. -/

namespace SeriesBridge.Keyed

variable {α β : Type} {key : String} {v : α} {m : List (String × α)}

/-- What is under a key after setting one was there or was set. -/
theorem mem_insert {p : String × α} (h : p ∈ insert key v m) : p = (key, v) ∨ p ∈ m := by
  induction m with
  | nil => exact .inl (List.mem_singleton.1 h)
  | cons q m ih =>
      unfold insert at h
      by_cases hlt : key < q.1
      · rw [if_pos hlt] at h
        exact List.mem_cons.1 h
      · rw [if_neg hlt] at h
        by_cases heq : key = q.1
        · rw [if_pos heq] at h
          rcases List.mem_cons.1 h with rfl | h
          · exact .inl rfl
          · exact .inr (List.mem_cons_of_mem _ h)
        · rw [if_neg heq] at h
          rcases List.mem_cons.1 h with rfl | h
          · exact .inr List.mem_cons_self
          · exact (ih h).imp_right (List.mem_cons_of_mem _)

/-! ## Order -/

/-- **Keys in order,** each once. -/
def InOrder (m : List (String × α)) : Prop := m.Pairwise (fun p q => p.1 < q.1)

instance : Decidable (InOrder m) := inferInstanceAs (Decidable (m.Pairwise _))

/-- No keys are in order. -/
@[simp] theorem inOrder_nil : InOrder ([] : List (String × α)) := List.Pairwise.nil

/-- The first key comes before all others. -/
theorem inOrder_cons {p : String × α} : InOrder (p :: m) ↔ (∀ q ∈ m, p.1 < q.1) ∧ InOrder m :=
  List.pairwise_cons

/-- **Setting a key keeps the order.** -/
theorem InOrder.insert (h : InOrder m) (key : String) (v : α) : InOrder (Keyed.insert key v m) := by
  induction m with
  | nil => exact List.pairwise_singleton _ _
  | cons q m ih =>
      obtain ⟨hfirst, hrest⟩ := inOrder_cons.1 h
      unfold Keyed.insert
      by_cases hlt : key < q.1
      · rw [if_pos hlt]
        refine inOrder_cons.2 ⟨fun r hr => ?_, h⟩
        rcases List.mem_cons.1 hr with rfl | hr
        · exact hlt
        · exact hlt.trans (hfirst r hr)
      rw [if_neg hlt]
      by_cases heq : key = q.1
      · rw [if_pos heq]
        exact inOrder_cons.2 ⟨fun r hr => heq ▸ hfirst r hr, hrest⟩
      · rw [if_neg heq]
        refine inOrder_cons.2 ⟨fun r hr => ?_, ih hrest⟩
        rcases mem_insert hr with rfl | hr
        · exact lt_of_le_of_ne (not_lt.1 hlt) (Ne.symm heq)
        · exact hfirst r hr

/-- Setting keys one after the other keeps the order. -/
theorem InOrder.foldl_insert (h : InOrder m) (name : β → String) (value : β → α) (xs : List β) :
    InOrder (xs.foldl (fun m x => Keyed.insert (name x) (value x) m) m) := by
  induction xs generalizing m with
  | nil => exact h
  | cons x xs ih => exact ih (h.insert (name x) (value x))

/-- A key that comes after all others is set at the end. -/
theorem insert_of_forall_lt (h : ∀ p ∈ m, p.1 < key) : insert key v m = m ++ [(key, v)] := by
  induction m with
  | nil => rfl
  | cons q m ih =>
      have hlt : q.1 < key := h q List.mem_cons_self
      have hrest := ih (fun p hp => h p (List.mem_cons_of_mem _ hp))
      rw [insert, if_neg (not_lt.2 hlt.le), if_neg hlt.ne', hrest, List.cons_append]

/-- **Setting keys that are in order** gives the list that they are in. -/
theorem InOrder.ofList_eq (h : InOrder m) : ofList m = m := by
  induction m using List.reverseRecOn with
  | nil => rfl
  | append_singleton m p ih =>
      obtain ⟨hbefore, -, hlast⟩ := List.pairwise_append.1 h
      have hm : ofList m = m := ih hbefore
      rw [ofList] at hm ⊢
      rw [List.foldl_append, hm]
      exact insert_of_forall_lt (fun q hq => hlast q hq p (List.mem_singleton_self p))

/-! ## What is found -/

/-- Nothing is found under a key before the first one. -/
theorem lookup_eq_none (h : ∀ p ∈ m, p.1 ≠ key) : lookup key m = none := by
  induction m with
  | nil => rfl
  | cons q m ih =>
      rw [lookup, if_neg (h q List.mem_cons_self), ih (fun p hp => h p (List.mem_cons_of_mem _ hp))]

/-- **What stands in the list** is what is found under its key. -/
theorem InOrder.mem_iff (h : InOrder m) : (key, v) ∈ m ↔ lookup key m = some v := by
  induction m with
  | nil => simp
  | cons q m ih =>
      obtain ⟨hfirst, hrest⟩ := inOrder_cons.1 h
      rw [List.mem_cons, ih hrest, lookup]
      by_cases heq : q.1 = key
      · have hnone : lookup key m = none :=
          lookup_eq_none (fun p hp => (heq ▸ hfirst p hp).ne')
        rw [if_pos heq, hnone]
        constructor
        · rintro (rfl | hnever)
          · rfl
          · cases hnever
        · intro hv
          exact .inl (Prod.ext heq.symm (Option.some.inj hv).symm)
      · rw [if_neg heq]
        refine ⟨fun hor => hor.resolve_left ?_, .inr⟩
        rintro rfl
        exact heq rfl

/-- No pair stands twice in the list. -/
theorem InOrder.nodup (h : InOrder m) : m.Nodup :=
  h.imp fun hlt heq => hlt.ne (congrArg Prod.fst heq)

/-- **Lists in order are the same** when the same is found in them. -/
theorem InOrder.ext {m' : List (String × α)} (h : InOrder m) (h' : InOrder m')
    (hlookup : ∀ key, lookup key m = lookup key m') : m = m' := by
  have hmem : ∀ p, p ∈ m ↔ p ∈ m' := by
    rintro ⟨key, v⟩
    rw [h.mem_iff, h'.mem_iff, hlookup]
  have hperm : m.Perm m' := (List.perm_ext_iff_of_nodup h.nodup h'.nodup).2 hmem
  exact hperm.eq_of_pairwise (fun _ _ _ _ hlt hgt => absurd hgt hlt.asymm) h h'

/-- **Of keys that are set one after the other** the last one counts. -/
theorem lookup_foldl_insert (name : β → String) (value : β → α) (xs : List β)
    (m : List (String × α)) (key : String) :
    lookup key (xs.foldl (fun m x => insert (name x) (value x) m) m) =
      ((xs.filter (fun x => name x == key)).getLast?.map value).or (lookup key m) := by
  induction xs using List.reverseRecOn with
  | nil => rfl
  | append_singleton xs x ih =>
      rw [List.foldl_append, List.filter_append, List.foldl_cons, List.foldl_nil]
      by_cases heq : name x = key
      · rw [List.filter_cons_of_pos (by simpa using heq), ← heq, lookup_insert_self]
        simp
      · rw [List.filter_cons_of_neg (by simpa using heq), lookup_insert_of_ne _ _ (Ne.symm heq), ih]
        simp

/-- A function of keys and values may be applied before or after setting a key. -/
theorem map_insert (f : String → α → β) (key : String) (v : α) (m : List (String × α)) :
    (insert key v m).map (fun p => (p.1, f p.1 p.2)) =
      insert key (f key v) (m.map (fun p => (p.1, f p.1 p.2))) := by
  induction m with
  | nil => rfl
  | cons q m ih =>
      rw [insert, List.map_cons, insert]
      by_cases hlt : key < q.1
      · rw [if_pos hlt, if_pos hlt]
        rfl
      rw [if_neg hlt, if_neg hlt]
      by_cases heq : key = q.1
      · rw [if_pos heq, if_pos heq]
        rfl
      · rw [if_neg heq, if_neg heq, List.map_cons, ih]

end SeriesBridge.Keyed
