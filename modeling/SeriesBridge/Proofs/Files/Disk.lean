import SeriesBridge.Files.Disk
import SeriesBridge.Proofs.Dialogue.Turns

/-! # Requests for files carried out on a disk

* **`Dialogue.onDisk f d`** — what comes of a dialogue with the disk `d`, and the disk afterwards.
* **`Disk.entry?_put`**, **`Disk.entry?_move`** — what stands at a path that was written, or that
  something was put in the place of.
* **`Disk.answer_read`**, **`Disk.answer_write`** — files that can be read and written. -/

namespace SeriesBridge

namespace Dialogue

variable {α β Q A S : Type}

/-- **Carry out requests for files** on a disk. -/
def onDisk (f : Dialogue Files α) (d : Disk) : α × Disk := f.run (m := StateM Disk) Disk.answer d

/-- Reading a file, the disk answers. -/
theorem onDisk_read (path : String) (d : Disk) :
    (Files.read path).onDisk d = Disk.answer (.read path) d := rfl

/-- Writing a file, the disk answers. -/
theorem onDisk_write (path : String) (bytes : List UInt8) (d : Disk) :
    (Files.write path bytes).onDisk d = Disk.answer (.write path bytes) d := rfl

/-- Putting a file in the place of another, the disk answers. -/
theorem onDisk_rename (path target : String) (d : Disk) :
    (Files.rename path target).onDisk d = Disk.answer (.rename path target) d := rfl

/-- **The second of two dialogues** goes on with the disk that the first one leaves. -/
theorem onDisk_bind (f : Dialogue Files α) (g : α → Dialogue Files β) (d : Disk) :
    (f >>= g).onDisk d = (g (f.onDisk d).1).onDisk (f.onDisk d).2 := by
  induction f generalizing d with
  | done a => rfl
  | more call next ih => exact ih _ _

/-- **Requests in turn** are carried out each on the disk that the one before it left. -/
theorem exists_of_onDisk_turns {step : S → Q → Dialogue Files (A × S)} {s s' : S} {q : Q}
    {requests : List Q} {taken : List (Q × A)} {d d' : Disk}
    (h : (turns step s (q :: requests)).onDisk d = ((taken, s'), d')) :
    ∃ a s₁ d₁ others, (step s q).onDisk d = ((a, s₁), d₁) ∧
      (turns step s₁ requests).onDisk d₁ = ((others, s'), d') ∧ taken = (q, a) :: others := by
  rw [turns, onDisk_bind] at h
  cases hfirst : (step s q).onDisk d with
  | mk answered d₁ =>
      rw [hfirst] at h
      dsimp only at h
      rw [onDisk_bind] at h
      cases hothers : (turns step answered.2 requests).onDisk d₁ with
      | mk rest d₂ =>
          rw [hothers] at h
          cases h
          exact ⟨answered.1, answered.2, d₁, rest.1, rfl, hothers, rfl⟩

end Dialogue

namespace Disk

variable {d d' : Disk} {path target : String} {bytes : List UInt8} {entry : DiskEntry}

/-- What was written stands there. -/
theorem entry?_put (d : Disk) (path : String) (bytes : List UInt8) :
    entry? (d.put path bytes) path = some (.file bytes) := Keyed.lookup_insert_self _ _ _

/-- **What was put in the place of something** stands there. -/
theorem entry?_move (h : d.entry? path = some entry) :
    entry? (d.move path target entry) target = some entry := by
  unfold move
  by_cases heq : path = target
  · rw [if_pos heq, ← heq]
    exact h
  · rw [if_neg heq]
    exact Keyed.lookup_insert_self _ _ _

/-- A file is read where it stands. -/
theorem answer_read (h : d.entry? path = some (.file bytes)) :
    answer (.read path) d = (.ok bytes, d) := by
  dsimp only [answer]
  rw [h]

/-- Nothing is read where nothing stands. -/
theorem answer_read_of_missing (h : d.entry? path = none) :
    answer (.read path) d = (.error absent, d) := by
  dsimp only [answer]
  rw [h]

/-- **A file can be written** where there is no folder, in a folder. -/
theorem answer_write (hentry : d.entry? path ≠ some .folder) (hfolder : d.hasFolder path = true)
    (bytes : List UInt8) : answer (.write path bytes) d = (.ok (), d.put path bytes) := by
  dsimp only [answer]
  rw [if_neg (by simpa using hentry), if_pos hfolder]

/-- A file that could be written stands there. -/
theorem entry?_of_write (h : answer (.write path bytes) d = (.ok (), d')) :
    d'.entry? path = some (.file bytes) := by
  dsimp only [answer] at h
  split at h
  · cases h
  · split at h
    · cases h
      exact entry?_put d path bytes
    · cases h

/-- **What could be put in the place of something** stands there. -/
theorem entry?_of_rename (h : answer (.rename path target) d = (.ok (), d')) :
    d'.entry? target = d.entry? path := by
  dsimp only [answer] at h
  split at h
  · cases h
  · cases h
  · next entry _ hentry _ =>
      cases h
      rw [hentry]
      exact entry?_move hentry

/-! ## Folders -/

/-- The folder of a path is another path. -/
theorem folderOf_ne (h : path ≠ "") : folderOf path ≠ path := by
  intro heq
  have hlength : 0 < path.toList.length :=
    List.length_pos_iff.2 fun hnil => h (String.toList_eq_nil_iff.1 hnil)
  have hshort := (List.dropWhile_sublist (· != '/') (l := path.toList.reverse)).length_le
  have hsame := congrArg (fun p => p.toList.length) heq
  simp only [folderOf, String.toList_ofList, List.length_reverse, List.length_drop] at hsame hshort
  omega

/-- A disk with nothing but the folder of a path. -/
def onlyFolder (path : String) : Disk := ⟨[(folderOf path, .folder)]⟩

/-- There is no file at the path yet. -/
theorem entry?_onlyFolder (h : path ≠ "") : entry? (onlyFolder path) path = none := by
  unfold entry? onlyFolder
  rw [Keyed.lookup, if_neg (folderOf_ne h), Keyed.lookup_nil]

/-- A file can be made at the path. -/
theorem hasFolder_onlyFolder (path : String) : hasFolder (onlyFolder path) path = true := by
  simp [hasFolder, onlyFolder, entry?, Keyed.lookup]

end Disk

end SeriesBridge
