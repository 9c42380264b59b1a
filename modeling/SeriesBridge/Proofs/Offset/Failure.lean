import Mathlib.Data.List.DropRight
import SeriesBridge.Proofs.Dialogue.Recording
import SeriesBridge.Proofs.Offset.Commit

/-! # What a store holds beyond its file

A commit that fails leaves its offsets in memory, where they are loaded from as if they had been kept;
the file does not have them until a later commit succeeds. So the store and its file differ exactly by
the offsets of the commits that failed since the last one that succeeded.

* **`Offset.Repeats offsets kept`** — offsets that change nothing where `kept` is kept.
* **`Positions.insertAll_eq_self_iff`** — setting them changes nothing then, and only then.
* **`FileStore.settled taken`**, **`FileStore.unsaved taken`** — the offsets of commits up to the last one
  that succeeded, and of those that failed since.
* **`FileStore.Ahead`** — the store is ahead of its file by the latter, which every commit keeps.
* **`FileStore.load_after_failures`** — when a commit that failed is not seen, and when the store and its
  file are loaded alike. -/

namespace SeriesBridge

open Dialogue

/-! ## Offsets that change nothing -/

/-- **Offsets that change nothing:** the last one of every partition is kept already. -/
def Offset.Repeats (offsets kept : List Offset) : Prop :=
  ∀ o ∈ offsets, (offsets.filter (fun x => x.partition == o.partition)).getLast? = some o → o ∈ kept

instance (offsets kept : List Offset) : Decidable (Offset.Repeats offsets kept) :=
  inferInstanceAs (Decidable (∀ o ∈ offsets, _ → _))

namespace Positions

variable {p q : Positions} {offsets : List Offset}

/-- Positions are known by their offsets. -/
theorem toOffsets_inj : p.toOffsets = q.toOffsets ↔ p = q := by
  refine ⟨fun h => ?_, congrArg toOffsets⟩
  refine List.map_injective_iff.2 ?_ h
  rintro ⟨name, position⟩ ⟨name', position'⟩ heq
  cases heq
  rfl

/-- **Setting offsets changes nothing** if and only if the last one of every partition is there. -/
theorem insertAll_eq_self_iff (h : Keyed.InOrder p) :
    p.insertAll offsets = p ↔ Offset.Repeats offsets p.toOffsets := by
  constructor
  · intro hself o _ hlast
    have hlookup := lookup_insertAll_of offsets p o.partition
    rw [hself, hlast] at hlookup
    exact mem_toOffsets.2 (h.mem_iff.2 hlookup)
  · intro hrepeats
    refine (h.foldl_insert Offset.partition Offset.position offsets).ext h fun name => ?_
    refine (lookup_insertAll_of offsets p name).trans ?_
    cases hlast : (offsets.filter (fun o => o.partition == name)).getLast? with
    | none => rfl
    | some o =>
        obtain ⟨ho, hname⟩ := List.mem_filter.1 (List.mem_of_getLast? hlast)
        obtain rfl : o.partition = name := beq_iff_eq.1 hname
        exact (h.mem_iff.1 (mem_toOffsets.1 (hrepeats o ho hlast))).symm

end Positions

namespace FileStore

variable {s s' : FileStore} {d d' : Disk} {offsets : List Offset}
  {taken : List (List Offset × Outcome Unit)}

/-! ## Commits that failed -/

/-- Whether a commit failed. -/
def failed (x : List Offset × Outcome Unit) : Bool := !x.2.toBool

/-- **The offsets of commits up to the last one that succeeded,** whether they succeeded or not. -/
def settled (taken : List (List Offset × Outcome Unit)) : List Offset :=
  (taken.rdropWhile failed).flatMap (·.1)

/-- **The offsets of the commits that failed since.** -/
def unsaved (taken : List (List Offset × Outcome Unit)) : List Offset :=
  (taken.rtakeWhile failed).flatMap (·.1)

/-- Together they are the offsets of all commits. -/
theorem settled_append_unsaved (taken : List (List Offset × Outcome Unit)) :
    settled taken ++ unsaved taken = taken.flatMap (·.1) := by
  rw [settled, unsaved, ← List.flatMap_append, List.rdropWhile_append_rtakeWhile]

/-- A commit that fails settles nothing. -/
theorem settled_concat_error (taken : List (List Offset × Outcome Unit)) (offsets : List Offset)
    (e : Error) : settled (taken ++ [(offsets, .error e)]) = settled taken := by
  rw [settled, List.rdropWhile_concat_pos _ _ _ rfl, settled]

/-- A commit that succeeds settles everything. -/
theorem settled_concat_ok (taken : List (List Offset × Outcome Unit)) (offsets : List Offset) :
    settled (taken ++ [(offsets, .ok ())]) = taken.flatMap (·.1) ++ offsets := by
  rw [settled, List.rdropWhile_concat_neg _ _ _ Bool.false_ne_true, List.flatMap_append,
    List.flatMap_singleton]

/-- **The store is ahead of its file:** it holds the offsets of all commits, its file those up to the last
one that succeeded. -/
structure Ahead (s : FileStore) (d : Disk) (taken : List (List Offset × Outcome Unit))
    (s' : FileStore) : Prop where
  store : s' = { s with saved := s.saved.insertAll (taken.flatMap (·.1)) }
  order : s'.saved.InOrder
  file : Stands { s with saved := s.saved.insertAll (settled taken) } d

/-- Before the first commit the file holds what the store does. -/
theorem Stands.ahead (h : s.Stands d) (horder : s.saved.InOrder) : Ahead s d [] s :=
  ⟨rfl, horder, h⟩

/-- **A commit keeps the store ahead of its file.** -/
theorem Ahead.ensures_commit (hdraft : s.draftPath ≠ s.path)
    (hoffsets : ∀ o ∈ offsets, Keyed.InOrder o.position) (h : Ahead s d taken s') :
    (s'.commit offsets).Ensures Disk.faulty (fun _ => True) d
      (fun d' x => Ahead s d' (taken ++ [(offsets, x.1)]) x.2) := by
  obtain ⟨hstore, horder, hfile⟩ := h
  have hpath : s'.path = s.path := hstore ▸ rfl
  have hdraft' : s'.draftPath ≠ s'.path := by rwa [draftPath, hpath]
  refine (FileStore.ensures_commit hdraft' fun _ _ => trivial).mono ?_
  rintro d' ⟨result, s''⟩ ⟨rfl, hok, herror⟩
  have hsaved : s'.saved.insertAll offsets =
      s.saved.insertAll ((taken ++ [(offsets, result)]).flatMap (·.1)) := by
    rw [List.flatMap_append, List.flatMap_singleton, Positions.insertAll_append, hstore]
  have hnext : ({ s' with saved := s'.saved.insertAll offsets } : FileStore) =
      { s with saved := s.saved.insertAll ((taken ++ [(offsets, result)]).flatMap (·.1)) } := by
    rw [hsaved, hpath]
  refine ⟨hnext, horder.insertAll hoffsets, ?_⟩
  cases result with
  | error e =>
      rw [settled_concat_error, stands_iff]
      exact (reopened_congr (hpath ▸ herror e rfl)).trans (stands_iff.1 hfile)
  | ok _ =>
      have hall : settled (taken ++ [(offsets, .ok ())]) =
          (taken ++ [(offsets, (.ok () : Outcome Unit))]).flatMap (·.1) := by
        rw [settled_concat_ok, List.flatMap_append, List.flatMap_singleton]
      rw [hall, ← hnext]
      exact stands_of_entry (hok rfl) (horder.insertAll hoffsets)

/-- **After any commits, succeeding or failing,** the store is ahead of its file by those that failed since
the last one that succeeded. -/
theorem ahead_of_commits {commits : List (List Offset)} {t : List (Exchange Files)}
    (hdraft : s.draftPath ≠ s.path) (horder : s.saved.InOrder) (hstands : s.Stands d)
    (hoffsets : ∀ offsets ∈ commits, ∀ o ∈ offsets, Keyed.InOrder o.position)
    (hruns : Runs (turns commit s commits) t (taken, s')) (hworld : Disk.faulty.Follows d t d') :
    Ahead s d' taken s' := by
  have hensures : (turns commit s commits).Ensures Disk.faulty (fun _ => True) d
      (fun d' x => Ahead s d' ([] ++ x.1) x.2) :=
    Ensures.turns (Ahead s) (fun hmem h => h.ensures_commit hdraft (hoffsets _ hmem))
      (hstands.ahead horder)
  exact hensures.of_runs hruns hworld

/-! ## Loading -/

/-- Positions that were set are loaded as before if and only if they change nothing. -/
theorem load_eq_iff_repeats (horder : Keyed.InOrder s.saved)
    (h : s'.saved = s.saved.insertAll offsets) : s'.load = s.load ↔ Offset.Repeats offsets s.load := by
  unfold load
  rw [Positions.toOffsets_inj, h, Positions.insertAll_eq_self_iff horder]

/-- **When a failure is not seen.** After a commit that fails a store loads what it loaded before if and
only if the offsets of the commit change nothing there. And after any commits, any of whose requests may
have failed, a store in a file that is not drafted in itself is ahead of it by the offsets of the commits
that failed since the last one that succeeded: opening the file gives the offsets of the others, and the two
are loaded alike if and only if those that failed change nothing there. -/
theorem load_after_failures (horder : s.saved.InOrder) :
    (∀ {offsets : List Offset} {t : List (Exchange Files)} {e : Error} {s' : FileStore},
      Runs (s.commit offsets) t (.error e, s') →
        (s'.load = s.load ↔ Offset.Repeats offsets s.load)) ∧
    (NamesFile s.path → ¬ HasExtension s.path "tmp" →
      ∀ {commits : List (List Offset)} {d d' : Disk} {t : List (Exchange Files)}
        {taken : List (List Offset × Outcome Unit)} {s' : FileStore},
      s.Stands d → (∀ offsets ∈ commits, ∀ o ∈ offsets, Keyed.InOrder o.position) →
      Runs (turns commit s commits) t (taken, s') → Disk.faulty.Follows d t d' →
      ∃ kept, (openAt s.path).onDisk d' = (.ok kept, d') ∧
        kept.saved = s.saved.insertAll (settled taken) ∧
        s'.saved = kept.saved.insertAll (unsaved taken) ∧
        (s'.load = kept.load ↔ Offset.Repeats (unsaved taken) kept.load)) := by
  constructor
  · intro offsets t e s' hruns
    exact load_eq_iff_repeats horder.partitions (congrArg saved (saved_of_commit hruns))
  · intro hname hplain commits d d' t taken s' hstands hoffsets hruns hworld
    obtain ⟨hstore, -, hfile⟩ :=
      ahead_of_commits (draftPath_ne hname hplain) horder hstands hoffsets hruns hworld
    have hsaved : s'.saved = (s.saved.insertAll (settled taken)).insertAll (unsaved taken) := by
      rw [← Positions.insertAll_append, settled_append_unsaved, hstore]
    have hkept : Keyed.InOrder (s.saved.insertAll (settled taken)) :=
      horder.partitions.foldl_insert Offset.partition Offset.position (settled taken)
    exact ⟨_, hfile, rfl, hsaved, load_eq_iff_repeats hkept hsaved⟩

/-! ## A disk that fails now and then -/

/-- A disk with a folder for the file. -/
def emptyFolder : Disk := ⟨[("/run", .folder)]⟩

/-- A store of that file, before anything was kept. -/
def emptyStore : FileStore := { path := "/run/offsets.json" }

/-- Three commits: the new document of the second one cannot be written, and that of the third one cannot be
put in the place of the old one. -/
def flakyCommits : List (List Offset) :=
  [[⟨"meters", [("timestamp_ms", 1)]⟩], [⟨"meters", [("timestamp_ms", 2)]⟩],
    [⟨"grid", [("timestamp_ms", 3)]⟩]]

/-- The course of these commits. -/
def flakyCourse : List (Exchange Files) × List (List Offset × Outcome Unit) × FileStore :=
  (turns commit emptyStore flakyCommits).courseWith (Disk.answerFailing [2, 4]) (0, emptyFolder)

/-- What they leave on the disk. -/
def flakyDisk : Disk :=
  ((turns commit emptyStore flakyCommits).stateWith (Disk.answerFailing [2, 4]) (0, emptyFolder)).2

/-- A commit whose new document cannot be written. -/
def failedCourse : List (Exchange Files) × Outcome Unit × FileStore :=
  (commit emptyStore [⟨"meters", [("timestamp_ms", 2)]⟩]).courseWith (Disk.answerFailing [0])
    (0, emptyFolder)

/-- A store loads the offsets of a commit that failed, and of two that failed after one that succeeded, which
its file does not have. -/
theorem load_after_failures_flaky :
    failedCourse.2.2.load ≠ emptyStore.load ∧
      ∃ kept, (openAt "/run/offsets.json").onDisk flakyDisk = (.ok kept, flakyDisk) ∧
        kept.load = [⟨"meters", [("timestamp_ms", 1)]⟩] ∧ flakyCourse.2.2.load ≠ kept.load := by
  have hfailed : Runs (emptyStore.commit [⟨"meters", [("timestamp_ms", 2)]⟩]) failedCourse.1
      (.error (systemError Disk.full), failedCourse.2.2) :=
    runs_courseWith (I := Files) (Disk.answerFailing [0]) _ _
  have hruns : Runs (turns commit emptyStore flakyCommits) flakyCourse.1
      (flakyCourse.2.1, flakyCourse.2.2) :=
    (runs_courseWith (I := Files) (Disk.answerFailing [2, 4]) _ _).pair
  have hworld : Disk.faulty.Follows emptyFolder flakyCourse.1 flakyDisk :=
    @follows_courseWith Files _ _ _ _ Prod.snd _ (Disk.faulty_answerFailing [2, 4])
      (turns commit emptyStore flakyCommits) (0, emptyFolder)
  have hoffsets : ∀ offsets ∈ flakyCommits, ∀ o ∈ offsets, Keyed.InOrder o.position := by
    decide +kernel
  have hname : NamesFile emptyStore.path := by decide +kernel
  have hplain : ¬ HasExtension emptyStore.path "tmp" := by decide +kernel
  have hstands : emptyStore.Stands emptyFolder := stands_of_missing (by decide +kernel)
  obtain ⟨hone, hmany⟩ := load_after_failures (s := emptyStore) Positions.inOrder_nil
  obtain ⟨kept, hopen, hsaved, -, hload⟩ := hmany hname hplain hstands hoffsets hruns hworld
  have hkept : kept.load = [⟨"meters", [("timestamp_ms", 1)]⟩] := by
    rw [load, hsaved]
    decide +kernel
  refine ⟨fun h => absurd ((hone hfailed).1 h) ?_, kept, hopen, hkept,
    fun h => absurd (hload.1 h) ?_⟩
  · decide +kernel
  · rw [hkept]
    decide +kernel

/-- **A commit that fails leaves its offsets to be loaded,** while the file stays as it was: here the folder of
the file does not exist. -/
theorem not_load_after_failure :
    let failed := (emptyStore.commit [⟨"meters", [("timestamp_ms", 2)]⟩]).onDisk {}
    failed.1.1 = .error (systemError Disk.absent) ∧ failed.1.2.load ≠ emptyStore.load ∧
      (openAt emptyStore.path).onDisk failed.2 = (.ok emptyStore, failed.2) := by
  refine ⟨rfl, by decide +kernel, stands_of_missing (by decide +kernel)⟩

end FileStore

end SeriesBridge
