import SeriesBridge.Proofs.Files.Beside
import SeriesBridge.Proofs.Files.Faults
import SeriesBridge.Proofs.Offset.Persistence

/-! # Commits on a disk that fails

A commit sets the offsets in memory before it writes them. The file changes in one step, at the end, as
long as it is not the file that the new document is drafted in.

* **`FileStore.reopened path d`** — what opening a file comes to.
* **`FileStore.saved_of_commit`** — what a store holds after a commit, whatever comes of it.
* **`FileStore.ensures_commit`** — what a commit does to the file. -/

namespace SeriesBridge.FileStore

open Dialogue

variable {s s' : FileStore} {d d' : Disk} {path : String} {offsets : List Offset}

/-! ## Opening -/

/-- **What opening a file comes to.** -/
def reopened (path : String) (d : Disk) : Outcome FileStore := ((openAt path).onDisk d).1

/-- To open a file is to look at what stands at its path. -/
theorem onDisk_openAt_of_entry (h : d'.entry? path = d.entry? path) :
    (openAt path).onDisk d' = (reopened path d, d') := by
  have hread : Disk.answer (.read path) d' = ((Disk.answer (.read path) d).1, d') := by
    dsimp only [Disk.answer]
    rw [h]
    split <;> rfl
  unfold reopened openAt
  rw [onDisk_bind, onDisk_bind, onDisk_read, onDisk_read, hread]
  dsimp only
  cases (Disk.answer (.read path) d).1 with
  | ok bytes =>
      dsimp only
      cases Positions.ofBytes? bytes <;> rfl
  | error fault =>
      dsimp only
      cases fault.missing <;> rfl

/-- **Files that hold the same** are opened to the same. -/
theorem reopened_congr (h : d'.entry? path = d.entry? path) : reopened path d' = reopened path d := by
  rw [reopened, onDisk_openAt_of_entry h]

/-- A file that holds no positions cannot be opened. -/
theorem reopened_of_unreadable {bytes : List UInt8} (hentry : d.entry? path = some (.file bytes))
    (hbytes : Positions.ofBytes? bytes = none) :
    reopened path d = .error (.serialization
      ("Failed to parse offset file " ++ path ++ ": " ++ Json.unreadable)) := by
  unfold reopened openAt
  rw [onDisk_bind, onDisk_read, Disk.answer_read hentry]
  dsimp only
  rw [hbytes]
  rfl

/-- A store stands in its file when opening the file comes to it. -/
theorem stands_iff : s.Stands d ↔ reopened s.path d = .ok s := by
  rw [Stands, onDisk_openAt_of_entry rfl, Prod.mk.injEq, and_iff_left rfl]

/-! ## Commits -/

/-- The extension of drafts may be one. -/
theorem isExtension_tmp : IsExtension "tmp".toList where
  ne_nil := by decide
  plain c hc := by
    have hall : "tmp".toList.all (fun c => c != '.' && c != '/') = true := by decide
    simpa using List.all_eq_true.1 hall c hc

/-- A new document is drafted in another file when the path names a file without the extension of drafts. -/
theorem draftPath_ne (hname : NamesFile s.path) (hplain : ¬ HasExtension s.path "tmp") :
    s.draftPath ≠ s.path :=
  fun h => hplain ((besidePath_eq_self_iff hname isExtension_tmp).1 h)

/-- **A store holds the offsets after a commit,** whatever comes of it. -/
theorem saved_of_commit {t : List (Exchange Files)} {x : Outcome Unit × FileStore}
    (h : Runs (s.commit offsets) t x) : x.2 = { s with saved := s.saved.insertAll offsets } := by
  unfold commit at h
  obtain ⟨u, v, written, rfl, -, h⟩ := runs_bind_iff.1 h
  cases written with
  | error fault =>
      obtain ⟨rfl, rfl⟩ := runs_done_iff.1 h
      rfl
  | ok _ =>
      obtain ⟨u', v', renamed, rfl, -, h⟩ := runs_bind_iff.1 h
      cases renamed with
      | error fault =>
          obtain ⟨rfl, rfl⟩ := runs_done_iff.1 h
          rfl
      | ok _ =>
          obtain ⟨rfl, rfl⟩ := runs_done_iff.1 h
          rfl

/-- **What a commit does to the file,** when the new document is drafted in another one: at every moment
the file is as it was or holds the new document, and it holds the new document in the end if and only if
the commit succeeds. -/
theorem ensures_commit {safe : Disk → Prop} (hdraft : s.draftPath ≠ s.path)
    (hsafe : ∀ d', d'.entry? s.path = d.entry? s.path ∨
      d'.entry? s.path = some (.file (s.saved.insertAll offsets).toBytes) → safe d') :
    (s.commit offsets).Ensures Disk.faulty safe d (fun d' x =>
      x.2 = { s with saved := s.saved.insertAll offsets } ∧
      (x.1 = .ok () → d'.entry? s.path = some (.file (s.saved.insertAll offsets).toBytes)) ∧
      ∀ e, x.1 = .error e → d'.entry? s.path = d.entry? s.path) := by
  unfold commit
  dsimp only
  refine ensures_bind.2 (ensures_ask.2 fun written d₁ hwrite => ?_)
  have hkept : d₁.entry? s.path = d.entry? s.path :=
    Disk.entry?_of_faulty_write_ne hdraft.symm hwrite
  refine ⟨hsafe d₁ (.inl hkept), ?_⟩
  cases written with
  | error fault => exact ensures_done.2 ⟨rfl, by rintro ⟨⟩, fun _ _ => hkept⟩
  | ok _ =>
      have hdrafted := Disk.entry?_of_faulty_write hwrite
      refine ensures_bind.2 (ensures_ask.2 fun renamed d₂ hrename => ?_)
      cases renamed with
      | error fault =>
          obtain rfl := Disk.eq_of_faulty_rename hrename
          exact ⟨hsafe _ (.inl hkept), ensures_done.2 ⟨rfl, by rintro ⟨⟩, fun _ _ => hkept⟩⟩
      | ok _ =>
          have hput := (Disk.entry?_of_faulty_rename hrename).trans hdrafted
          exact ⟨hsafe d₂ (.inr hput), ensures_done.2 ⟨rfl, fun _ => hput, by rintro _ ⟨⟩⟩⟩

end SeriesBridge.FileStore
