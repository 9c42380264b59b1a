import SeriesBridge.Proofs.Offset.Commit

/-! # Commits that are broken off

When a process stops in the middle of a commit, the file is opened again with the offsets before the commit
or with those after it, wherever the process stopped. This needs the new document to be drafted in another
file: a document that is drafted in the file itself may be left there half written.

* **`FileStore.Atomic path`** — commits to the file at a path are broken off without harm.
* **`FileStore.breaksOff_commit`** — what may be left of a draft.
* **`FileStore.atomic_iff`** — for which paths commits are atomic. -/

namespace SeriesBridge.FileStore

open Dialogue

variable {s : FileStore} {d d' : Disk} {path : String} {offsets : List Offset}

/-- **Commits to a file are atomic:** whatever a store of the file holds, whatever is committed and wherever
the commit is broken off, opening the file comes to what it came to before the commit, or to the store with
the offsets set. -/
def Atomic (path : String) : Prop :=
  ∀ (s : FileStore) (offsets : List Offset) (d d' : Disk), s.path = path → s.saved.InOrder →
    (∀ o ∈ offsets, Keyed.InOrder o.position) → (s.commit offsets).BreaksOff d d' →
    reopened path d' = reopened path d ∨
      reopened path d' = .ok { s with saved := s.saved.insertAll offsets }

/-- **A commit may be broken off** with any beginning of the new document in the draft. -/
theorem breaksOff_commit (hentry : d.entry? s.draftPath ≠ some .folder)
    (hfolder : d.hasFolder s.draftPath = true) (n : Nat) :
    (s.commit offsets).BreaksOff d
      (d.put s.draftPath ((s.saved.insertAll offsets).toBytes.take n)) :=
  .within (.beginning n (congrArg Prod.fst (Disk.answer_write hentry hfolder _)))

/-- A store that is drafted in itself stands on a disk on which a commit to it can be broken off so that it
cannot be opened any more. -/
theorem exists_torn (hname : NamesFile path) (htmp : HasExtension path "tmp") :
    ∃ d d' : Disk, Stands { path } d ∧ (commit { path } []).BreaksOff d d' ∧
      ∃ e, reopened path d' = .error e := by
  have hdraft : draftPath { path } = path := (besidePath_eq_self_iff hname isExtension_tmp).2 htmp
  have hempty : path ≠ "" := by
    rintro rfl
    obtain ⟨front, c, hpath, -⟩ := htmp
    simp at hpath
  have hmissing : Disk.entry? (.onlyFolder path) path = none := Disk.entry?_onlyFolder hempty
  have hunreadable : Positions.ofBytes? [] = none := by decide +kernel
  refine ⟨.onlyFolder path, Disk.put (.onlyFolder path) path [], stands_of_missing hmissing, ?_, _,
    reopened_of_unreadable (Disk.entry?_put _ _ _) hunreadable⟩
  have hbreaks : (commit { path } []).BreaksOff (.onlyFolder path)
      (Disk.put (.onlyFolder path) (draftPath { path }) []) := by
    refine breaksOff_commit ?_ ?_ 0
    · rw [hdraft, hmissing]
      rintro ⟨⟩
    · rw [hdraft]
      exact Disk.hasFolder_onlyFolder path
  rwa [hdraft] at hbreaks

/-- **Commits are atomic** for the paths that do not have the extension of drafts, and for no others. -/
theorem atomic_iff (hname : NamesFile path) : Atomic path ↔ ¬ HasExtension path "tmp" := by
  constructor
  · intro hatomic htmp
    obtain ⟨d, d', hstands, hbreaks, e, herror⟩ := exists_torn hname htmp
    have hopened := hatomic { path } [] d d' rfl Positions.inOrder_nil (by simp) hbreaks
    rw [herror, stands_iff.1 hstands] at hopened
    rcases hopened with hopened | hopened <;> cases hopened
  · rintro hplain s offsets d d' rfl horder hoffsets hbreaks
    have hfile : d'.entry? s.path = d.entry? s.path ∨
        d'.entry? s.path = some (.file (s.saved.insertAll offsets).toBytes) :=
      (ensures_commit (draftPath_ne hname hplain) fun _ h => h).of_breaksOff (.inl rfl) hbreaks
    rcases hfile with hkept | hput
    · exact .inl (reopened_congr hkept)
    · have hnext : Stands { s with saved := s.saved.insertAll offsets } d' :=
        stands_of_entry hput (horder.insertAll hoffsets)
      exact .inr (stands_iff.1 hnext)

/-- Commits to a file that is drafted beside itself are atomic. -/
theorem atomic_json : NamesFile "/run/offsets.json" ∧ Atomic "/run/offsets.json" := by
  have hname : NamesFile "/run/offsets.json" := by decide +kernel
  exact ⟨hname, (atomic_iff hname).2 (by decide +kernel)⟩

/-! ## A file that is drafted in itself -/

/-- A store of a file with the extension of drafts, which holds one position. -/
def selfDrafted : FileStore := ⟨"/run/offsets.tmp", [("meters", [("timestamp_ms", 1)])]⟩

/-- The disk with its file. -/
def selfDraftedDisk : Disk :=
  ⟨[("/run", .folder), (selfDrafted.path, .file selfDrafted.saved.toBytes)]⟩

/-- What is left when the next commit is broken off within its write: a beginning of the new document, where
the old one was. -/
def tornDisk : Disk :=
  selfDraftedDisk.put selfDrafted.path
    ((selfDrafted.saved.insertAll [⟨"meters", [("timestamp_ms", 2)]⟩]).toBytes.take 32)

/-- **A file that is drafted in itself** is lost when a commit is broken off: neither the old position nor the
new one can be loaded. -/
theorem torn_selfDrafted :
    selfDrafted.Stands selfDraftedDisk ∧
      (selfDrafted.commit [⟨"meters", [("timestamp_ms", 2)]⟩]).BreaksOff selfDraftedDisk tornDisk ∧
      reopened selfDrafted.path tornDisk = .error (.serialization
        ("Failed to parse offset file /run/offsets.tmp: " ++ Json.unreadable)) := by
  have horder : selfDrafted.saved.InOrder :=
    @Positions.InOrder.insertAll [] Positions.inOrder_nil [⟨"meters", [("timestamp_ms", 1)]⟩]
      (by decide +kernel)
  have hdraft : selfDrafted.draftPath = selfDrafted.path := by decide +kernel
  refine ⟨stands_of_entry (by decide +kernel) horder, ?_, ?_⟩
  · unfold tornDisk
    rw [← hdraft]
    exact breaksOff_commit (by decide +kernel) (by decide +kernel) 32
  · exact reopened_of_unreadable (Disk.entry?_put _ _ _) (by decide +kernel)

end SeriesBridge.FileStore
