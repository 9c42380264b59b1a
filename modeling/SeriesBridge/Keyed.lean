/-! # Values under keys

A list of keys and values with the keys in order and each key once.

* **`Keyed.insert key v m`** — the list with `v` under `key`.
* **`Keyed.lookup key m`** — the value under `key`.
* **`Keyed.ofList m`** — the pairs of `m` set one after the other. -/

namespace SeriesBridge.Keyed

variable {α : Type}

/-- **Set a key.** The keys stay in order; a key that is there already takes the new value. -/
def insert (key : String) (v : α) : List (String × α) → List (String × α)
  | [] => [(key, v)]
  | (k, w) :: rest =>
      if key < k then (key, v) :: (k, w) :: rest
      else if key = k then (key, v) :: rest
      else (k, w) :: insert key v rest

/-- The first key of an empty list is its only one. -/
@[simp] theorem insert_nil (key : String) (v : α) : insert key v [] = [(key, v)] := rfl

/-- The value of a key, if it has one. -/
def lookup (key : String) : List (String × α) → Option α
  | [] => none
  | (k, v) :: rest => if k = key then some v else lookup key rest

/-- Nothing is found in an empty list. -/
@[simp] theorem lookup_nil (key : String) : lookup key ([] : List (String × α)) = none := rfl

/-- **A key that was set is found.** -/
theorem lookup_insert_self (key : String) (v : α) (m : List (String × α)) :
    lookup key (insert key v m) = some v := by
  induction m with
  | nil => simp [lookup]
  | cons p rest ih =>
      obtain ⟨k, w⟩ := p
      unfold insert
      split
      · simp [lookup]
      · split
        · simp [lookup]
        · next h₁ h₂ => simp [lookup, Ne.symm h₂, ih]

/-- **Setting a key leaves the others alone.** -/
theorem lookup_insert_of_ne {key other : String} (v : α) (m : List (String × α))
    (h : other ≠ key) : lookup other (insert key v m) = lookup other m := by
  induction m with
  | nil => simp [lookup, Ne.symm h]
  | cons p rest ih =>
      obtain ⟨k, w⟩ := p
      unfold insert
      split
      · simp [lookup, Ne.symm h]
      · split
        · next h₁ h₂ => subst h₂; simp [lookup, Ne.symm h]
        · simp [lookup, ih]

/-- Set pairs one after the other; of two values of a key the later counts. -/
def ofList (m : List (String × α)) : List (String × α) :=
  m.foldl (fun m (k, v) => insert k v m) []

end SeriesBridge.Keyed
