import SeriesBridge.Proofs.Json.Spelling

/-! # Documents read back

A text may be the text of a tree wherever it stands: in a document of its own, as a member of an
object, and whatever follows it. What is proved of texts this way can be put together as the texts are.

* **`Json.ReadAs s t`** — the text `s` is read as the tree `t`.
* **`Json.readAs_integer`** — an integer is.
* **`Json.readAs_object`** — an object on lines of its own is, if its members are.
* **`Json.ReadAs.ofText?_eq`** — then so is a document. -/

namespace SeriesBridge.Json

/-! ## White space -/

/-- What is no white space is not skipped. -/
theorem skipSpace_cons {c : Char} (h : isSpace c = false) (s : List Char) :
    skipSpace (c :: s) = c :: s :=
  List.dropWhile_cons_of_neg (by simp [h])

/-- A space is skipped. -/
@[simp] theorem skipSpace_space (s : List Char) : skipSpace (' ' :: s) = skipSpace s := rfl

/-- A line break and an indentation are skipped. -/
@[simp] theorem skipSpace_newLine (level : Nat) (s : List Char) :
    skipSpace (newLine level ++ s) = skipSpace s := by
  have hspace : ∀ c ∈ newLine level, isSpace c = true := by
    intro c hc
    rcases List.mem_cons.1 hc with rfl | hc
    · rfl
    · rw [List.eq_of_mem_replicate hc]
      rfl
  exact List.dropWhile_append_of_pos hspace

/-- White space before a tree does not matter. -/
theorem read?_congr {s s' : List Char} (h : skipSpace s = skipSpace s') (fuel : Nat) :
    Tree.read? fuel s = Tree.read? fuel s' := by
  cases fuel with
  | zero => rfl
  | succ fuel => rw [Tree.read?, Tree.read?, h]

/-- White space before a member does not matter. -/
theorem readMembers?_congr {s s' : List Char} (h : skipSpace s = skipSpace s') (fuel : Nat) :
    Tree.readMembers? fuel s = Tree.readMembers? fuel s' := by
  cases fuel with
  | zero => rfl
  | succ fuel => rw [Tree.readMembers?, Tree.readMembers?, h]

/-! ## Texts of trees -/

/-- A line break may follow a number. -/
theorem endsNumber_newLine (level : Nat) (s : List Char) : EndsNumber (newLine level ++ s) := by
  rintro c hc
  obtain rfl := Option.some.inj hc
  decide

/-- A comma may follow a number. -/
theorem endsNumber_comma (s : List Char) : EndsNumber (',' :: s) := by
  rintro c hc
  obtain rfl := Option.some.inj hc
  decide

/-- **A text is read as a tree,** whatever follows it that would not belong to a number. Twice its
length is enough work. -/
def ReadAs (s : List Char) (t : Tree) : Prop :=
  ∀ fuel rest, 2 * s.length ≤ fuel → EndsNumber rest → Tree.read? fuel (s ++ rest) = some (t, rest)

/-- **A document** is read as the tree of its text. -/
theorem ReadAs.ofText?_eq {s : List Char} {t : Tree} (h : ReadAs s t) : Tree.ofText? s = some t := by
  have hread := h (2 * s.length + 2) [] (by omega) endsNumber_nil
  rw [List.append_nil] at hread
  rw [Tree.ofText?, hread]
  rfl

/-- What begins with a digit is a number. -/
theorem read?_of_isDigit {c : Char} (h : c.isDigit = true) (fuel : Nat) (s : List Char) :
    Tree.read? (fuel + 1) (c :: s) =
      (readNumber? false (c :: s)).map (fun x => (.number x.1, x.2)) := by
  have hne : ∀ c', c'.isDigit = false → c ≠ c' := by
    rintro _ hc' rfl
    exact Bool.false_ne_true (hc'.symm.trans h)
  have hspace : isSpace c = false := by
    simp [isSpace, hne ' ' rfl, hne '\t' rfl, hne '\n' rfl, hne '\r' rfl]
  rw [Tree.read?, skipSpace_cons hspace]
  split
  case h_8 => rfl
  -- The characters that begin anything else are no digits.
  all_goals
    next heq => exact absurd (List.cons.inj heq).1 (hne _ rfl)

/-- **An integer is read** as its number. -/
theorem readAs_integer (n : Int) : ReadAs (Text.showInt n) (.number (integerText n)) := by
  intro fuel rest hfuel hrest
  cases n with
  | ofNat n =>
      change 2 * (Text.showNat n).length ≤ fuel at hfuel
      show Tree.read? fuel (Text.showNat n ++ rest) = _
      have hread := readNumber?_showNat false n hrest
      cases hshow : Text.showNat n with
      | nil => exact absurd hshow (Text.showNat_ne_nil n)
      | cons c digits =>
          have hdigit : c.isDigit = true := Text.isDigit_of_mem_showNat (hshow ▸ List.mem_cons_self)
          rw [hshow] at hfuel hread
          obtain _ | fuel := fuel
          · simp at hfuel
          rw [List.cons_append, read?_of_isDigit hdigit, ← List.cons_append, hread, ← hshow]
          rfl
  | negSucc n =>
      obtain _ | fuel := fuel
      · simp [Text.showInt] at hfuel
      show (readNumber? true (Text.showNat (n + 1) ++ rest)).map _ = _
      rw [readNumber?_showNat true (n + 1) hrest]
      rfl

/-! ## Objects -/

/-- A member on a line of its own. -/
def memberLine (level : Nat) (key : String) (s : List Char) : List Char :=
  newLine level ++ (spellString key ++ ':' :: ' ' :: s)

/-- More than its value is written of a member. -/
theorem length_lt_memberLine (level : Nat) (key : String) (s : List Char) :
    s.length < (memberLine level key s).length := by
  simp only [memberLine, List.length_append, List.length_cons]
  omega

/-- The members from a first one on, by the text that follows it. -/
def membersFrom (fuel : Nat) (first : Option (List Char) × Tree) :
    List Char → Option (List (Option (List Char) × Tree) × List Char)
  | '\x7d' :: rest => some ([first], rest)
  | ',' :: rest => (Tree.readMembers? fuel rest).map (fun x => (first :: x.1, x.2))
  | _ => none

/-- **A member is read,** and then what follows it is looked at. -/
theorem readMembers?_memberLine {s : List Char} {t : Tree} (h : ReadAs s t) (level : Nat)
    (key : String) {fuel : Nat} {after : List Char} (hfuel : 2 * s.length ≤ fuel) (hafter : EndsNumber after) :
    Tree.readMembers? (fuel + 1) (memberLine level key s ++ after) =
      membersFrom fuel (some key.toList, t) (skipSpace after) := by
  obtain ⟨units, hkey, hjoin⟩ := exists_readUnits?_spelt key.toList (':' :: ' ' :: (s ++ after))
  have htext : memberLine level key s ++ after =
      newLine level ++ '"' :: (key.toList.flatMap spellChar ++ '"' :: ':' :: ' ' :: (s ++ after)) := by
    simp [memberLine, spellString]
  -- The value is read behind the space that follows the colon.
  have hspace : Tree.read? fuel (' ' :: (s ++ after)) = Tree.read? fuel (s ++ after) :=
    read?_congr (skipSpace_space _) fuel
  rw [htext, Tree.readMembers?, skipSpace_newLine, skipSpace_cons rfl]
  simp only [hkey, hjoin, skipSpace_cons (show isSpace ':' = false from rfl), hspace,
    h fuel after hfuel hafter, Option.bind_eq_bind, Option.bind_some]
  rfl

section Members

variable {α : Type}

/-- The members of an object, by the values that they hold. -/
def membersOf (write : α → Json) (m : List (String × α)) : List (String × Json) :=
  m.map (fun p => (p.1, write p.2))

/-- The members of the tree of an object. -/
def treesOf (tree : α → Tree) (m : List (String × α)) : List (Option (List Char) × Tree) :=
  m.map (fun p => (some p.1.toList, tree p.2))

/-- The text of members, each on a line of its own. -/
def memberLines (level : Nat) (members : List (String × Json)) : List Char :=
  commaSeparated ((prettyMembers level members).map (newLine level ++ ·))

variable {write : α → Json} {tree : α → Tree} {level : Nat}

/-- The text of one member. -/
theorem memberLines_singleton (p : String × α) : memberLines level (membersOf write [p]) =
    memberLine level p.1 (prettyAt level (write p.2)) := rfl

/-- The text of a member before others. -/
theorem memberLines_cons_cons (p q : String × α) (m : List (String × α)) :
    memberLines level (membersOf write (p :: q :: m)) =
      memberLine level p.1 (prettyAt level (write p.2)) ++
        ',' :: memberLines level (membersOf write (q :: m)) := rfl

/-- **Members are read,** up to the brace behind them. -/
theorem readMembers?_memberLines {p : String × α} {m : List (String × α)}
    (h : ∀ q ∈ p :: m, ReadAs (prettyAt level (write q.2)) (tree q.2)) {fuel : Nat}
    (hfuel : 2 * (memberLines level (membersOf write (p :: m))).length ≤ fuel) (outer : Nat)
    (rest : List Char) :
    Tree.readMembers? fuel
        (memberLines level (membersOf write (p :: m)) ++ (newLine outer ++ '\x7d' :: rest)) =
      some (treesOf tree (p :: m), rest) := by
  have hfirst := h p List.mem_cons_self
  have hlength := length_lt_memberLine level p.1 (prettyAt level (write p.2))
  -- The work that is left behind a member is enough for the others, whose text is shorter.
  induction m generalizing p fuel with
  | nil =>
      rw [memberLines_singleton] at hfuel ⊢
      obtain _ | fuel := fuel
      · omega
      rw [readMembers?_memberLine hfirst level p.1 (by omega) (endsNumber_newLine _ _),
        skipSpace_newLine, skipSpace_cons rfl]
      rfl
  | cons q m ih =>
      have hsecond := h q (List.mem_cons_of_mem _ List.mem_cons_self)
      have hothers (fuel : Nat) := @ih q (fun q hq => h q (List.mem_cons_of_mem _ hq)) fuel
      rw [memberLines_cons_cons, List.length_append, List.length_cons] at hfuel
      obtain _ | fuel := fuel
      · omega
      rw [memberLines_cons_cons, List.append_assoc, List.cons_append,
        readMembers?_memberLine hfirst level p.1 (by omega) (endsNumber_comma _), skipSpace_cons rfl,
        membersFrom, hothers fuel (by omega) hsecond (length_lt_memberLine _ _ _)]
      rfl

/-- The text of members begins with a quote, but for white space. -/
theorem exists_skipSpace_memberLines (write : α → Json) (level : Nat) (p : String × α)
    (m : List (String × α)) (after : List Char) :
    ∃ s, skipSpace (memberLines level (membersOf write (p :: m)) ++ after) = '"' :: s := by
  cases m with
  | nil =>
      rw [memberLines_singleton, memberLine, List.append_assoc, skipSpace_newLine]
      exact ⟨_, skipSpace_cons rfl _⟩
  | cons q m =>
      rw [memberLines_cons_cons, memberLine, List.append_assoc, List.append_assoc, skipSpace_newLine]
      exact ⟨_, skipSpace_cons rfl _⟩

/-- **An object is read** if its members are. -/
theorem readAs_object {m : List (String × α)}
    (h : ∀ p ∈ m, ReadAs (prettyAt (level + 1) (write p.2)) (tree p.2)) :
    ReadAs (prettyAt level (.object (membersOf write m))) (.object (treesOf tree m)) := by
  intro fuel rest hfuel hrest
  cases m with
  | nil =>
      have htext : prettyAt level (.object (membersOf write [])) = ['\x7b', '\x7d'] := rfl
      rw [htext] at hfuel ⊢
      obtain _ | fuel := fuel
      · simp at hfuel
      rfl
  | cons p m =>
      have htext : prettyAt level (.object (membersOf write (p :: m))) =
          '\x7b' :: (memberLines (level + 1) (membersOf write (p :: m)) ++ newLine level ++ ['\x7d']) :=
        rfl
      rw [htext, List.length_cons, List.length_append, List.length_append] at hfuel
      obtain _ | fuel := fuel
      · omega
      obtain ⟨s, hskip⟩ := exists_skipSpace_memberLines write (level + 1) p m
        (newLine level ++ '\x7d' :: rest)
      have hmembers : Tree.readMembers? fuel ('"' :: s) = some (treesOf tree (p :: m), rest) :=
        (readMembers?_congr ((skipSpace_cons rfl s).trans hskip.symm) fuel).trans
          (readMembers?_memberLines h (by omega) level rest)
      rw [htext, List.cons_append, List.append_assoc, List.append_assoc, List.singleton_append,
        Tree.read?, skipSpace_cons rfl]
      simp only [hskip]
      show (Tree.readMembers? fuel ('"' :: s)).map _ = _
      rw [hmembers]
      rfl

end Members

end SeriesBridge.Json
