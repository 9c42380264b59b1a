import Mathlib.Data.List.Infix
import Mathlib.Data.List.TakeWhile
import SeriesBridge.Files

/-! # Paths of files beside others

The path of a file beside another one keeps the folder and the name, and has an extension of its own.
When the name has that extension already, it is the same path.

* **`fileName path`** — the last part of a path, and **`NamesFile path`** — it is a name.
* **`HasExtension path extension`** — the path ends in a name with an extension.
* **`dropExtension_append`** — a name without its extension.
* **`besidePath_eq_self_iff`** — when the path beside another one is no other. -/

namespace SeriesBridge

/-- **The last part of a path,** without the slashes, and the dots between slashes, at its end. -/
def fileName (path : String) : List Char :=
  ((dropTrail path.toList.reverse).takeWhile (· != '/')).reverse

/-- **A path that names a file:** its last part is neither empty nor a step between folders. -/
def NamesFile (path : String) : Prop := fileName path ∉ [[], ['.'], ['.', '.']]

instance (path : String) : Decidable (NamesFile path) :=
  inferInstanceAs (Decidable (fileName path ∉ [[], ['.'], ['.', '.']]))

/-- **A path that ends in an extension:** a dot and the extension come last, and something that belongs
to the same name comes before them. -/
def HasExtension (path extension : String) : Prop :=
  ∃ front c, path.toList = front ++ c :: '.' :: extension.toList ∧ c ≠ '/'

/-- A path ends in an extension when one of its beginnings is followed by such an end. -/
theorem any_inits_iff {path extension : String} :
    (path.toList.inits.any fun front => path.toList.any fun c =>
      path.toList == front ++ c :: '.' :: extension.toList && c != '/') = true ↔
      HasExtension path extension := by
  simp only [List.any_eq_true, List.mem_inits, Bool.and_eq_true, beq_iff_eq, bne_iff_ne]
  constructor
  · rintro ⟨front, -, c, -, h⟩
    exact ⟨front, c, h⟩
  · rintro ⟨front, c, hpath, hc⟩
    refine ⟨front, ⟨_, hpath.symm⟩, c, ?_, hpath, hc⟩
    rw [hpath]
    exact List.mem_append_right front List.mem_cons_self

instance (path extension : String) : Decidable (HasExtension path extension) :=
  decidable_of_iff _ any_inits_iff

/-- **A text that may be an extension:** it is not empty, and has neither dots nor slashes. -/
structure IsExtension (e : List Char) : Prop where
  ne_nil : e ≠ []
  plain : ∀ c ∈ e, c ≠ '.' ∧ c ≠ '/'

variable {path extension : String} {name stem e s : List Char}

/-! ## Names -/

/-- **A name with an extension** loses the extension. -/
theorem dropExtension_append (hstem : stem ≠ []) (he : '.' ∉ e) :
    dropExtension (stem ++ '.' :: e) = stem := by
  have hlast : (stem ++ '.' :: e).reverse.takeWhile (· != '.') = e.reverse := by
    have hall : ∀ c ∈ e.reverse, (c != '.') = true := fun c hc =>
      bne_iff_ne.2 fun h => he (h ▸ List.mem_reverse.1 hc)
    rw [List.reverse_append, List.reverse_cons, List.append_assoc,
      List.takeWhile_append_of_pos hall, List.singleton_append,
      List.takeWhile_cons_of_neg (by decide), List.append_nil]
  have hlength : (stem ++ '.' :: e).length - e.length - 1 = stem.length := by
    rw [List.length_append, List.length_cons]
    omega
  unfold dropExtension
  simp only [hlast, List.reverse_reverse, hlength, List.take_left, List.isEmpty_iff, if_neg hstem]

/-- Something is left of a name without its extension. -/
theorem dropExtension_ne_nil (h : name ≠ []) : dropExtension name ≠ [] := by
  dsimp only [dropExtension]
  split
  · exact h
  · next hstem => simpa using hstem

/-! ## Paths -/

/-- Nothing is left out at the end of a path that ends in a name. -/
theorem dropTrail_cons {c : Char} (hslash : c ≠ '/') (hdot : c ≠ '.') (s : List Char) :
    dropTrail (c :: s) = c :: s := by
  unfold dropTrail
  split
  · next h => exact absurd (List.cons.inj h).1 hslash
  · next h => exact absurd (List.cons.inj h).1 hdot
  · rfl

/-- Nor at the end of a path that ends in an extension. -/
theorem dropTrail_reverse_append (he : IsExtension e) (s : List Char) :
    dropTrail (s ++ '.' :: e).reverse = (s ++ '.' :: e).reverse := by
  obtain ⟨hne, hplain⟩ := he
  have hlast : e.reverse = e.getLast hne :: e.dropLast.reverse := by
    rw [← List.reverse_concat, List.dropLast_concat_getLast]
  obtain ⟨hdot, hslash⟩ := hplain _ (List.getLast_mem hne)
  rw [List.reverse_append, List.reverse_cons, hlast, List.cons_append, List.cons_append]
  exact dropTrail_cons hslash hdot _

/-- The folder that a path lies in, with the slash at its end. -/
def folderPart (path : String) : List Char :=
  ((dropTrail path.toList.reverse).dropWhile (· != '/')).reverse

/-- A path that ends in its name is its folder and its name. -/
theorem folderPart_append_fileName (h : dropTrail path.toList.reverse = path.toList.reverse) :
    folderPart path ++ fileName path = path.toList := by
  rw [folderPart, fileName, h, ← List.reverse_append, List.takeWhile_append_dropWhile,
    List.reverse_reverse]

/-- The last part of a path that ends in an extension does so too. -/
theorem fileName_of_toList_eq {front : List Char} {c : Char} (he : IsExtension e) (hc : c ≠ '/')
    (hpath : path.toList = front ++ c :: '.' :: e) :
    fileName path = (front.reverse.takeWhile (· != '/')).reverse ++ c :: '.' :: e := by
  have hplain : ∀ d ∈ (c :: '.' :: e).reverse, (d != '/') = true := by
    intro d hd
    rw [bne_iff_ne]
    rcases List.mem_cons.1 (List.mem_reverse.1 hd) with rfl | hd
    · exact hc
    · rcases List.mem_cons.1 hd with rfl | hd
      · decide
      · exact (he.plain d hd).2
  have hsplit : path.toList = (front ++ [c]) ++ '.' :: e := by
    rw [hpath, List.append_assoc, List.singleton_append]
  rw [fileName, hsplit, dropTrail_reverse_append he, ← hsplit, hpath, List.reverse_append,
    List.takeWhile_append_of_pos hplain, List.reverse_append, List.reverse_reverse]

/-- **The path of a file beside another one:** the folder, the name without its extension, and the new
extension. -/
theorem toList_besidePath (h : NamesFile path) (extension : String) :
    (besidePath path extension).toList =
      folderPart path ++ (dropExtension (fileName path) ++ '.' :: extension.toList) := by
  have hname : (fileName path == ['.', '.'] || fileName path == ['.'] || (fileName path).isEmpty) =
      false := by
    simp only [NamesFile, List.mem_cons, List.not_mem_nil, or_false, not_or] at h
    simp [h]
  unfold besidePath
  dsimp only
  rw [← fileName, hname, if_neg Bool.false_ne_true, String.toList_ofList, List.append_assoc]
  rfl

/-- **The path beside another one is no other** if and only if it has that extension already. -/
theorem besidePath_eq_self_iff (hname : NamesFile path) (he : IsExtension extension.toList) :
    besidePath path extension = path ↔ HasExtension path extension := by
  rw [← String.toList_inj, toList_besidePath hname]
  constructor
  · intro h
    have htrail : dropTrail path.toList.reverse = path.toList.reverse := by
      obtain ⟨before, hbefore⟩ : ∃ before, path.toList = before ++ '.' :: extension.toList :=
        ⟨_, by rw [List.append_assoc]; exact h.symm⟩
      rw [hbefore]
      exact dropTrail_reverse_append he before
    have hpath := folderPart_append_fileName htrail
    have hlast : dropExtension (fileName path) ++ '.' :: extension.toList = fileName path :=
      List.append_cancel_left (h.trans hpath.symm)
    have hne : dropExtension (fileName path) ≠ [] := by
      refine dropExtension_ne_nil fun hnil => hname ?_
      rw [hnil]
      exact List.mem_cons_self
    generalize dropExtension (fileName path) = stem at hlast hne
    have hmem : stem.getLast hne ∈ fileName path :=
      hlast ▸ List.mem_append_left _ (List.getLast_mem hne)
    refine ⟨folderPart path ++ stem.dropLast, stem.getLast hne, ?_, ?_⟩
    · rw [← hpath, ← hlast, List.append_assoc, List.append_cons stem.dropLast,
        List.dropLast_concat_getLast]
    · have hslash : (stem.getLast hne != '/') = true :=
        List.mem_takeWhile_imp (p := (· != '/')) (List.mem_reverse.1 hmem)
      exact bne_iff_ne.1 hslash
  · rintro ⟨front, c, hpath, hc⟩
    have hdrop : dropExtension (fileName path) ++ '.' :: extension.toList = fileName path := by
      have hne : (front.reverse.takeWhile (· != '/')).reverse ++ [c] ≠ [] :=
        List.append_ne_nil_of_right_ne_nil _ (List.cons_ne_nil c [])
      rw [fileName_of_toList_eq he hc hpath, List.append_cons _ c]
      rw [dropExtension_append hne fun hdot => (he.plain '.' hdot).1 rfl]
    have htrail : dropTrail path.toList.reverse = path.toList.reverse := by
      rw [hpath, List.append_cons]
      exact dropTrail_reverse_append he _
    rw [hdrop]
    exact folderPart_append_fileName htrail

/-- A name that is nothing but a dot and the extension does not have it. -/
example : HasExtension "/run/offsets.tmp" "tmp" ∧ ¬ HasExtension "/run/.tmp" "tmp" := by
  decide +kernel

end SeriesBridge
