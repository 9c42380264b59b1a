import SeriesBridge.Proofs.Files.Disk

/-! # Disks on which requests fail

Any request for a file may fail, and a dialogue with a disk may be broken off at any moment. A write that
does not come to its end leaves a beginning of what was to be written, or nothing new; a file is put in
the place of another one as a whole or not at all.

* **`Disk.Leaves d call d'`** — what a request leaves behind that does not come to its end.
* **`Disk.faulty`** — the disk on which any request may fail, and **`Disk.answerFailing`** — one on which
  given requests do.
* **`Dialogue.BreaksOff f d d'`** — what a dialogue may leave behind when it is broken off, and
  **`Dialogue.Ensures.of_breaksOff`** — that it is safe when the dialogue is safe throughout.
* **`Disk.entry?_of_faulty_write_ne`**, **`Disk.eq_of_faulty_rename`** — what does not change. -/

namespace SeriesBridge

/-- The answer to a request that failed. -/
def FileCall.failed (fault : FileFault) : (call : FileCall) → call.Answer
  | read _ => .error fault
  | write _ _ => .error fault
  | rename _ _ => .error fault

namespace Disk

/-- **What a request leaves behind that does not come to its end:** the disk as it was, or of a file that
could be written the first bytes, any number of them. -/
inductive Leaves (d : Disk) : FileCall → Disk → Prop where
  | nothing (call : FileCall) : Leaves d call d
  | beginning {path : String} {bytes : List UInt8} (n : Nat)
      (h : (answer (.write path bytes) d).1 = Except.ok ()) :
      Leaves d (.write path bytes) (d.put path (bytes.take n))

/-- **The disk on which any request may fail.** What does not fail does what it should. -/
def faulty : Behaviour Files Disk := fun d call r d' =>
  answer call d = (r, d') ∨ ∃ fault, r = call.failed fault ∧ d.Leaves call d'

/-- A fault that may pass. -/
def full : FileFault := ⟨"No space left on device (os error 28)", false⟩

/-- **A disk on which given requests fail,** numbered from the first one on, without leaving anything. -/
def answerFailing (failing : List Nat) :
    Nat × Disk → (call : FileCall) → call.Answer × (Nat × Disk)
  | (number, d), call =>
      if number ∈ failing then (call.failed full, (number + 1, d))
      else ((answer call d).1, (number + 1, (answer call d).2))

/-- It is a disk on which any request may fail. -/
theorem faulty_answerFailing (failing : List Nat) (s : Nat × Disk) (call : FileCall) :
    faulty s.2 call (answerFailing failing s call).1 (answerFailing failing s call).2.2 := by
  dsimp only [answerFailing]
  split
  · exact .inr ⟨full, rfl, .nothing call⟩
  · exact .inl rfl

end Disk

namespace Dialogue

variable {α : Type}

/-- **What a dialogue may leave behind when it is broken off:** between two requests, or within one. -/
inductive BreaksOff : Dialogue Files α → Disk → Disk → Prop where
  | here (f : Dialogue Files α) (d : Disk) : BreaksOff f d d
  | within {call : FileCall} {next : call.Answer → Dialogue Files α} {d d' : Disk}
      (h : d.Leaves call d') : BreaksOff (.more (I := Files) call next) d d'
  | later {call : FileCall} {next : call.Answer → Dialogue Files α} {d d' d'' : Disk}
      (r : call.Answer) (first : Disk.faulty d call r d') (rest : BreaksOff (next r) d' d'') :
      BreaksOff (.more (I := Files) call next) d d''

/-- What is left when a dialogue is broken off is left after the beginning of a course: a request that
it was broken off within may as well have failed. -/
theorem BreaksOff.exists_reaches {f : Dialogue Files α} {d d' : Disk} (h : BreaksOff f d d') :
    ∃ t, Reaches f t ∧ Disk.faulty.Follows d t d' := by
  induction h with
  | here f d => exact ⟨[], .here f, .nil d⟩
  | @within call next d d' h =>
      have hfailed : Disk.faulty d call (call.failed default) d' := .inr ⟨default, rfl, h⟩
      exact ⟨_, .more (I := Files) _ (.here _), .cons hfailed (.nil d')⟩
  | later r first _ ih =>
      obtain ⟨t, ht, hfollows⟩ := ih
      exact ⟨_, .more (I := Files) r ht, .cons first hfollows⟩

/-- **A dialogue that is safe throughout** leaves a safe disk when it is broken off. -/
theorem Ensures.of_breaksOff {f : Dialogue Files α} {d d' : Disk} {safe : Disk → Prop}
    {post : Disk → α → Prop} (h : f.Ensures Disk.faulty safe d post) (hd : safe d)
    (hbreaks : BreaksOff f d d') : safe d' := by
  obtain ⟨t, ht, hfollows⟩ := hbreaks.exists_reaches
  exact h.of_reaches hd ht hfollows

end Dialogue

namespace Disk

variable {d d' : Disk} {path target other : String} {bytes : List UInt8} {fault : FileFault}

/-- A file that is put at a path leaves the other paths alone. -/
theorem entry?_put_of_ne (h : other ≠ path) (d : Disk) (bytes : List UInt8) :
    entry? (d.put path bytes) other = d.entry? other := Keyed.lookup_insert_of_ne _ _ h

/-- **A write leaves the other paths alone,** whether it fails or not. -/
theorem entry?_of_faulty_write_ne {r : Except FileFault Unit} (hne : other ≠ path)
    (h : faulty d (.write path bytes) r d') : d'.entry? other = d.entry? other := by
  rcases h with h | ⟨fault, -, hleaves⟩
  · dsimp only [answer] at h
    split at h
    · cases h
      rfl
    · split at h
      · cases h
        exact entry?_put_of_ne hne d bytes
      · cases h
        rfl
  · cases hleaves with
    | nothing => rfl
    | beginning n _ => exact entry?_put_of_ne hne d _

/-- A write that does not fail leaves what was written. -/
theorem entry?_of_faulty_write (h : faulty d (.write path bytes) (Except.ok ()) d') :
    d'.entry? path = some (.file bytes) := by
  rcases h with h | ⟨fault, hfailed, -⟩
  · exact entry?_of_write h
  · cases hfailed

/-- What is put in the place of something stands there. -/
theorem entry?_of_faulty_rename (h : faulty d (.rename path target) (Except.ok ()) d') :
    d'.entry? target = d.entry? path := by
  rcases h with h | ⟨fault, hfailed, -⟩
  · exact entry?_of_rename h
  · cases hfailed

/-- **What could not be put in the place of something** changed nothing. -/
theorem eq_of_faulty_rename (h : faulty d (.rename path target) (Except.error fault) d') :
    d' = d := by
  rcases h with h | ⟨fault, -, hleaves⟩
  · dsimp only [answer] at h
    split at h <;> cases h <;> rfl
  · cases hleaves
    rfl

end Disk

end SeriesBridge
