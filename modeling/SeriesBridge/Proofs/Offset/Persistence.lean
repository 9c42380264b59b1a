import Mathlib.Data.List.Perm.Basic
import SeriesBridge.Proofs.Files.Disk
import SeriesBridge.Proofs.Offset.Document

/-! # What is kept is loaded again

A store in a file is opened again and holds what it held: for every partition the position that it was
given last. A store in memory that is given the same offsets holds the same.

* **`Offset.KeptOf committed kept`** — what is left of offsets that were committed.
* **`FileStore.Stands s d`** — opening the file of `s` on the disk `d` gives `s`.
* **`FileStore.stands_of_commit`** — so it is after a commit, and **`FileStore.stands_of_commits`**
  after any number of them.
* **`FileStore.load_reopened`** — what is loaded then. -/

namespace SeriesBridge

open Dialogue

/-! ## Positions -/

/-- **What is left of offsets that were committed:** in order of partitions, one for every partition
that was committed, and for each of them the last one. -/
structure Offset.KeptOf (committed kept : List Offset) : Prop where
  sorted : kept.Pairwise (fun o o' => o.partition < o'.partition)
  partitions : ∀ name, name ∈ kept.map partition ↔ name ∈ committed.map partition
  last : ∀ o ∈ kept, (committed.filter (fun x => x.partition == o.partition)).getLast? = some o

namespace Positions

/-- No positions are in order. -/
theorem inOrder_nil : InOrder [] := ⟨Keyed.inOrder_nil, fun _ hq => absurd hq List.not_mem_nil⟩

/-- Offsets are set in their order. -/
theorem insertAll_append (first second : List Offset) (p : Positions) :
    p.insertAll (first ++ second) = (p.insertAll first).insertAll second := List.foldl_append

/-- **Setting positions keeps them in order.** -/
theorem InOrder.insertAll {p : Positions} (h : p.InOrder) {offsets : List Offset}
    (hoffsets : ∀ o ∈ offsets, Keyed.InOrder o.position) : (p.insertAll offsets).InOrder := by
  induction offsets generalizing p with
  | nil => exact h
  | cons o offsets ih =>
      have hset : InOrder (Keyed.insert o.partition o.position p) := by
        refine ⟨h.partitions.insert _ _, fun q hq => ?_⟩
        rcases Keyed.mem_insert hq with rfl | hq
        · exact hoffsets o List.mem_cons_self
        · exact h.components q hq
      exact ih hset (fun x hx => hoffsets x (List.mem_cons_of_mem _ hx))

/-- The position of a partition is the one that was set last, or else the one that was there. -/
theorem lookup_insertAll_of (offsets : List Offset) (p : Positions) (name : String) :
    Keyed.lookup name (p.insertAll offsets) =
      ((offsets.filter (fun o => o.partition == name)).getLast?.map Offset.position).or
        (Keyed.lookup name p) :=
  Keyed.lookup_foldl_insert Offset.partition Offset.position offsets p name

/-- Where none was there it is the one that was set last. -/
theorem lookup_insertAll (offsets : List Offset) (name : String) :
    Keyed.lookup name (insertAll offsets []) =
      (offsets.filter (fun o => o.partition == name)).getLast?.map Offset.position := by
  rw [lookup_insertAll_of, Keyed.lookup_nil, Option.or_none]

/-- The offsets of positions, by partition and position. -/
theorem mem_toOffsets {p : Positions} {o : Offset} :
    o ∈ p.toOffsets ↔ (o.partition, o.position) ∈ p := by
  unfold toOffsets
  rw [List.mem_map]
  constructor
  · rintro ⟨q, hq, rfl⟩
    exact hq
  · intro h
    exact ⟨_, h, rfl⟩

/-- Positions that were set are in order of partitions. -/
theorem inOrder_insertAll (offsets : List Offset) : Keyed.InOrder (insertAll offsets []) :=
  Keyed.inOrder_nil.foldl_insert Offset.partition Offset.position offsets

/-- An offset that is held is the last one of its partition. -/
theorem getLast?_of_mem {offsets : List Offset} {o : Offset}
    (h : o ∈ toOffsets (insertAll offsets [])) :
    (offsets.filter (fun x => x.partition == o.partition)).getLast? = some o := by
  have hlookup := (inOrder_insertAll offsets).mem_iff.1 (mem_toOffsets.1 h)
  rw [lookup_insertAll] at hlookup
  obtain ⟨x, hlast, hposition⟩ := Option.map_eq_some_iff.1 hlookup
  have hpartition : x.partition = o.partition := by
    simpa using (List.mem_filter.1 (List.mem_of_getLast? hlast)).2
  have hx : x = o := by
    cases x
    cases o
    congr
  rw [hlast, hx]

/-- A partition for which an offset was set is held. -/
theorem partition_mem_of_mem {offsets : List Offset} {o : Offset} (h : o ∈ offsets) :
    o.partition ∈ (toOffsets (insertAll offsets [])).map Offset.partition := by
  have hmem : o ∈ offsets.filter (fun x => x.partition == o.partition) :=
    List.mem_filter.2 ⟨h, by simp⟩
  obtain ⟨x, hlast⟩ := Option.isSome_iff_exists.1 (List.getLast?_isSome.2 (List.ne_nil_of_mem hmem))
  have hlookup : Keyed.lookup o.partition (insertAll offsets []) = some x.position := by
    rw [lookup_insertAll, hlast]
    rfl
  have hheld : ⟨o.partition, x.position⟩ ∈ toOffsets (insertAll offsets []) :=
    mem_toOffsets.2 ((inOrder_insertAll offsets).mem_iff.2 hlookup)
  exact List.mem_map.2 ⟨_, hheld, rfl⟩

/-- **What positions hold** after offsets were set. -/
theorem keptOf_insertAll (offsets : List Offset) :
    Offset.KeptOf offsets (toOffsets (insertAll offsets [])) where
  sorted := List.pairwise_map.2 (inOrder_insertAll offsets)
  partitions name := by
    constructor
    · intro hname
      obtain ⟨o, ho, rfl⟩ := List.mem_map.1 hname
      exact List.mem_map_of_mem (List.mem_filter.1 (List.mem_of_getLast? (getLast?_of_mem ho))).1
    · intro hname
      obtain ⟨o, ho, rfl⟩ := List.mem_map.1 hname
      exact partition_mem_of_mem ho
  last o ho := getLast?_of_mem ho

end Positions

namespace MemoryStore

/-- Positions in memory. -/
def ofPositions (p : Positions) : MemoryStore := ⟨p.map (fun q => (q.1, ⟨q.1, q.2⟩))⟩

/-- Positions in memory are loaded as their offsets. -/
theorem load_ofPositions (p : Positions) : (ofPositions p).load = p.toOffsets := List.map_map

/-- A commit sets the positions. -/
theorem commit_ofPositions (p : Positions) (offsets : List Offset) :
    (ofPositions p).commit offsets = ofPositions (p.insertAll offsets) := by
  induction offsets generalizing p with
  | nil => rfl
  | cons o offsets ih =>
      rw [Positions.insertAll, List.foldl_cons]
      refine Eq.trans ?_ (ih _)
      unfold commit ofPositions
      rw [List.foldl_cons, Keyed.map_insert Offset.mk]

/-- **A store in memory** holds the positions that were set. -/
theorem foldl_commit (p : Positions) (commits : List (List Offset)) :
    commits.foldl commit (ofPositions p) = ofPositions (p.insertAll commits.flatten) := by
  induction commits generalizing p with
  | nil => rfl
  | cons offsets commits ih =>
      rw [List.foldl_cons, commit_ofPositions, ih, List.flatten_cons, Positions.insertAll_append]

end MemoryStore

/-! ## Stores in files -/

namespace FileStore

variable {s s' : FileStore} {d d' : Disk}

/-- **The store that stands in its file:** opening the file gives it. -/
def Stands (s : FileStore) (d : Disk) : Prop := (openAt s.path).onDisk d = (.ok s, d)

/-- Where there is no file, a store without offsets is opened. -/
theorem stands_of_missing {path : String} (h : d.entry? path = none) : Stands { path } d := by
  unfold Stands openAt
  rw [onDisk_bind, onDisk_read, Disk.answer_read_of_missing h]
  rfl

/-- **A store stands in the file that holds its document.** -/
theorem stands_of_entry (hentry : d.entry? s.path = some (.file s.saved.toBytes))
    (horder : s.saved.InOrder) : s.Stands d := by
  unfold Stands openAt
  rw [onDisk_bind, onDisk_read, Disk.answer_read hentry]
  dsimp only
  rw [Positions.ofBytes?_toBytes horder]
  rfl

/-- **A commit that succeeds** sets the positions and leaves their document in the file. -/
theorem entry?_of_commit {offsets : List Offset}
    (h : (s.commit offsets).onDisk d = ((.ok (), s'), d')) :
    s' = { s with saved := s.saved.insertAll offsets } ∧
      d'.entry? s.path = some (.file s'.saved.toBytes) := by
  have hdraft : draftPath { s with saved := s.saved.insertAll offsets } = s.draftPath := rfl
  unfold commit at h
  dsimp only at h
  rw [hdraft, onDisk_bind, onDisk_write] at h
  cases hwrite : Disk.answer (.write s.draftPath (s.saved.insertAll offsets).toBytes) d with
  | mk written d₁ =>
      rw [hwrite] at h
      cases written with
      | error fault => cases h
      | ok =>
          dsimp only at h
          rw [onDisk_bind, onDisk_rename] at h
          cases hrename : Disk.answer (.rename s.draftPath s.path) d₁ with
          | mk renamed d₂ =>
              rw [hrename] at h
              cases renamed with
              | error fault => cases h
              | ok =>
                  cases h
                  exact ⟨rfl, (Disk.entry?_of_rename hrename).trans (Disk.entry?_of_write hwrite)⟩

/-- **A commit that succeeds leaves the store standing in its file.** -/
theorem stands_of_commit {offsets : List Offset} (horder : s.saved.InOrder)
    (hoffsets : ∀ o ∈ offsets, Keyed.InOrder o.position)
    (h : (s.commit offsets).onDisk d = ((.ok (), s'), d')) :
    s' = { s with saved := s.saved.insertAll offsets } ∧ s'.Stands d' ∧ s'.saved.InOrder := by
  obtain ⟨rfl, hentry⟩ := entry?_of_commit h
  exact ⟨rfl, stands_of_entry hentry (horder.insertAll hoffsets), horder.insertAll hoffsets⟩

/-- **After commits that succeed** the store stands in its file, with all their positions set. -/
theorem stands_of_commits {commits : List (List Offset)} {taken : List (List Offset × Outcome Unit)}
    (hstands : s.Stands d) (horder : s.saved.InOrder)
    (hoffsets : ∀ offsets ∈ commits, ∀ o ∈ offsets, Keyed.InOrder o.position)
    (h : (turns commit s commits).onDisk d = ((taken, s'), d')) (hok : ∀ x ∈ taken, x.2 = .ok ()) :
    s' = { s with saved := s.saved.insertAll commits.flatten } ∧ s'.Stands d' := by
  -- Induction on the commits: each of them leaves a store that stands, from which the others go on.
  induction commits generalizing s d taken with
  | nil =>
      cases h
      exact ⟨rfl, hstands⟩
  | cons offsets commits ih =>
      obtain ⟨result, s₁, d₁, others, hfirst, hothers, rfl⟩ := exists_of_onDisk_turns h
      have hresult : result = .ok () := hok _ List.mem_cons_self
      rw [hresult] at hfirst
      obtain ⟨rfl, hstands₁, horder₁⟩ :=
        stands_of_commit horder (hoffsets offsets List.mem_cons_self) hfirst
      obtain ⟨rfl, hstands'⟩ := ih hstands₁ horder₁
        (fun offsets hmem => hoffsets offsets (List.mem_cons_of_mem _ hmem)) hothers
        (fun x hx => hok x (List.mem_cons_of_mem _ hx))
      refine ⟨?_, hstands'⟩
      rw [List.flatten_cons, Positions.insertAll_append]

/-- **What was committed is loaded again.** A store that was opened where there was no file, and then
took any number of commits that succeeded, is opened again; it holds what is left of the offsets that
were committed, and a store in memory that took the same commits holds the same. The components of the
offsets are in order of their names, as those of an offset are. -/
theorem load_reopened {d d₁ d₂ : Disk} {path : String} {store store' : FileStore}
    {commits : List (List Offset)} {taken : List (List Offset × Outcome Unit)}
    (hmissing : d.entry? path = none) (hopen : (openAt path).onDisk d = (.ok store, d₁))
    (horder : ∀ offsets ∈ commits, ∀ o ∈ offsets, Keyed.InOrder o.position)
    (hcommits : (turns commit store commits).onDisk d₁ = ((taken, store'), d₂))
    (hok : ∀ x ∈ taken, x.2 = .ok ()) :
    ∃ reopened, (openAt path).onDisk d₂ = (.ok reopened, d₂) ∧
      Offset.KeptOf commits.flatten reopened.load ∧
      (commits.foldl MemoryStore.commit {}).load.Perm reopened.load := by
  have hempty : Stands { path } d := stands_of_missing hmissing
  obtain ⟨rfl, rfl⟩ : { path } = store ∧ d = d₁ := by
    rw [Stands] at hempty
    rw [hempty] at hopen
    cases hopen
    exact ⟨rfl, rfl⟩
  obtain ⟨rfl, hstands⟩ := stands_of_commits hempty Positions.inOrder_nil horder hcommits hok
  refine ⟨_, hstands, Positions.keptOf_insertAll commits.flatten, ?_⟩
  have hmemory := MemoryStore.foldl_commit [] commits
  exact .of_eq ((congrArg MemoryStore.load hmemory).trans (MemoryStore.load_ofPositions _))

/-- A disk with a folder, and in it what an earlier program left behind. -/
def usedDisk : Disk :=
  ⟨[("/run", .folder), ("/run/offsets.tmp", .file [0xFF])]⟩

/-- Commits of partitions that recur within a commit and from one commit to the next, with names that
have to be escaped and components at the ends of their range. -/
def recurringCommits : List (List Offset) :=
  [[⟨"meters", [("timestamp_ms", 1626006833639), ("timestamp_ns", 42)]⟩,
      ⟨"\"a\\b\"\n\x01 ü", [("", Int64.minValue), ("\t🜁", Int64.maxValue)]⟩],
    [], [⟨"meters", []⟩, ⟨"meters", [("timestamp_ms", -7)]⟩, ⟨"", [("n", 0)]⟩]]

/-- What comes of these commits. -/
def recurringRun : (List (List Offset × Outcome Unit) × FileStore) × Disk :=
  (turns commit { path := "/run/offsets.json" } recurringCommits).onDisk usedDisk

/-- The last positions of three partitions are loaded again. -/
theorem load_reopened_recurring :
    (∃ reopened, (openAt "/run/offsets.json").onDisk recurringRun.2 = (.ok reopened, recurringRun.2) ∧
      Offset.KeptOf recurringCommits.flatten reopened.load ∧
      (recurringCommits.foldl MemoryStore.commit {}).load.Perm reopened.load) ∧
    recurringRun.1.2.load = [⟨"", [("n", 0)]⟩,
      ⟨"\"a\\b\"\n\x01 ü", [("", Int64.minValue), ("\t🜁", Int64.maxValue)]⟩,
      ⟨"meters", [("timestamp_ms", -7)]⟩] := by
  have hmissing : usedDisk.entry? "/run/offsets.json" = none := by decide +kernel
  have horder : ∀ offsets ∈ recurringCommits, ∀ o ∈ offsets, Keyed.InOrder o.position := by
    decide +kernel
  have hok : ∀ x ∈ recurringRun.1.1, x.2.toBool = true := by decide +kernel
  -- Split by a statement on all results: to compare this one with its parts is to compute it.
  have hparts : ∀ x : (List (List Offset × Outcome Unit) × FileStore) × Disk,
      x = ((x.1.1, x.1.2), x.2) := fun _ => rfl
  have hcommits : (turns commit { path := "/run/offsets.json" } recurringCommits).onDisk usedDisk =
      ((recurringRun.1.1, recurringRun.1.2), recurringRun.2) := hparts recurringRun
  exact ⟨load_reopened hmissing (stands_of_missing hmissing) horder hcommits
    (fun x hx => eq_ok_of_toBool (hok x hx)), by decide +kernel⟩

end FileStore

end SeriesBridge
