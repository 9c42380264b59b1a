import SeriesBridge.Database.Table
import SeriesBridge.Extraction.Query
import SeriesBridge.Proofs.Text.Blank

/-! # Statements that a table answers

A table reads the statements of an extraction as they are meant.

* **`Table.Plain name`** — a name that a statement holds as one word, and as no other.
* **`Table.answer_rowsAfter`**, **`Table.answer_rowsAt`** — the answers to the two statements. -/

namespace SeriesBridge

open Text

namespace Table

/-- **A name that a statement holds as one word** that stands for nothing else in it. -/
def Plain (name : String) : Prop :=
  Solid name.toList ∧ ">".toList ≠ name.toList ∧ "=".toList ≠ name.toList ∧
    "LIMIT".toList ≠ name.toList

instance (name : String) : Decidable (Plain name) := inferInstanceAs (Decidable (_ ∧ _))

/-! ## Words of statements -/

/-- The words with which every statement begins. -/
def selectionWords (table column : String) : List (List Char) :=
  ["SELECT".toList, "*,".toList, "CAST(".toList ++ column.toList, "AS".toList, "BIGINT)".toList,
    "AS".toList, "tdc_cursor".toList, "FROM".toList, table.toList, "WHERE".toList, column.toList]

/-- The words of the statement for the rows after an instant. -/
def afterWords (table column : String) (time : Int64) (limit : Nat) : List (List Char) :=
  selectionWords table column ++ [">".toList, showInt time.toInt, "ORDER".toList, "BY".toList,
    column.toList, "ASC".toList, "LIMIT".toList, showNat limit]

/-- The words of the statement for the rows of an instant. -/
def atWords (table column : String) (time : Int64) : List (List Char) :=
  selectionWords table column ++ ["=".toList, showInt time.toInt]

variable {table column : String}

/-- Every statement begins with words. -/
theorem solid_selectionWords (htable : Plain table) (hcolumn : Plain column) :
    ∀ w ∈ selectionWords table column, Solid w := by
  have hcast : Solid ("CAST(".toList ++ column.toList) :=
    Solid.append (by decide) hcolumn.1
  simp only [selectionWords, List.forall_mem_cons]
  exact ⟨by decide, by decide, hcast, by decide, by decide, by decide, by decide, by decide,
    htable.1, by decide, hcolumn.1, by simp⟩

/-- What every statement begins with is made of its words. -/
theorem toList_selection (table column : String) :
    (Extraction.selection table column).toList = spaced (selectionWords table column) := by
  have hselect : "SELECT *, CAST(".toList =
      "SELECT".toList ++ ' ' :: ("*,".toList ++ ' ' :: "CAST(".toList) := by decide
  have has : " AS BIGINT) AS ".toList =
      ' ' :: ("AS".toList ++ ' ' :: ("BIGINT)".toList ++ ' ' :: ("AS".toList ++ [' ']))) := by
    decide
  have hfrom : " FROM ".toList = ' ' :: ("FROM".toList ++ [' ']) := by decide
  have hwhere : " WHERE ".toList = ' ' :: ("WHERE".toList ++ [' ']) := by decide
  unfold Extraction.selection cursorColumn selectionWords
  simp only [String.toList_append, hselect, has, hfrom, hwhere, spaced, List.flatMap_cons,
    List.flatMap_nil, List.append_assoc, List.cons_append, List.nil_append, List.append_nil]

/-- The words of the statement for the rows after an instant. -/
theorem words_rowsAfter (htable : Plain table) (hcolumn : Plain column) (time : Int64)
    (limit : Nat) :
    words (Extraction.rowsAfter table column time limit).toList =
      afterWords table column time limit := by
  have hspaced : (Extraction.rowsAfter table column time limit).toList =
      spaced (afterWords table column time limit) := by
    have hafter : " > ".toList = ' ' :: (">".toList ++ [' ']) := by decide
    have horder : " ORDER BY ".toList = ' ' :: ("ORDER".toList ++ ' ' :: ("BY".toList ++ [' '])) := by
      decide
    have hlimit : " ASC LIMIT ".toList = ' ' :: ("ASC".toList ++ ' ' :: ("LIMIT".toList ++ [' '])) := by
      decide
    rw [afterWords, spaced_append (by simp [selectionWords]), ← toList_selection]
    unfold Extraction.rowsAfter
    simp only [String.toList_append, String.toList_ofList, hafter, horder, hlimit,
      List.flatMap_cons, List.flatMap_nil, List.append_assoc, List.cons_append, List.nil_append,
      List.append_nil]
  rw [hspaced]
  refine words_spaced ?_
  rw [afterWords, List.forall_mem_append]
  refine ⟨solid_selectionWords htable hcolumn, ?_⟩
  simp only [List.forall_mem_cons]
  exact ⟨by decide, solid_showInt _, by decide, by decide, hcolumn.1, by decide, by decide,
    solid_showNat _, by simp⟩

/-- The words of the statement for the rows of an instant. -/
theorem words_rowsAt (htable : Plain table) (hcolumn : Plain column) (time : Int64) :
    words (Extraction.rowsAt table column time).toList = atWords table column time := by
  have hspaced : (Extraction.rowsAt table column time).toList =
      spaced (atWords table column time) := by
    have hequals : " = ".toList = ' ' :: ("=".toList ++ [' ']) := by decide
    rw [atWords, spaced_append (by simp [selectionWords]), ← toList_selection]
    unfold Extraction.rowsAt
    simp only [String.toList_append, String.toList_ofList, hequals, List.flatMap_cons,
      List.flatMap_nil, List.append_assoc, List.cons_append, List.nil_append, List.append_nil]
  rw [hspaced]
  refine words_spaced ?_
  rw [atWords, List.forall_mem_append]
  refine ⟨solid_selectionWords htable hcolumn, ?_⟩
  simp only [List.forall_mem_cons]
  exact ⟨by decide, solid_showInt _, by simp⟩

/-! ## Words behind words -/

/-- The word behind the first of its kind. -/
theorem wordAfter?_append {word : String} {before : List (List Char)}
    (h : ∀ w ∈ before, w ≠ word.toList) (next : List Char) (rest : List (List Char)) :
    wordAfter? word (before ++ word.toList :: next :: rest) = some next := by
  have hdrop : (before ++ word.toList :: next :: rest).dropWhile (fun w => w != word.toList) =
      word.toList :: next :: rest := by
    rw [List.dropWhile_append_of_pos (by simpa using h), List.dropWhile_cons, if_neg (by simp)]
  rw [wordAfter?, hdrop]

/-- There is no word behind one that is missing. -/
theorem wordAfter?_eq_none {word : String} {ws : List (List Char)}
    (h : ∀ w ∈ ws, w ≠ word.toList) : wordAfter? word ws = none := by
  have hdrop : ws.dropWhile (fun w => w != word.toList) = [] := by
    rw [← List.append_nil ws, List.dropWhile_append_of_pos (by simpa using h)]
    rfl
  rw [wordAfter?, hdrop]

/-- The words behind which a statement says what it asks for. -/
def marks : List String := [">", "=", "LIMIT"]

/-- A name is none of them. -/
theorem Plain.ne_mark {name word : String} (h : Plain name) (hword : word ∈ marks) :
    name.toList ≠ word.toList := by
  obtain ⟨-, hgreater, hequals, hlimit⟩ := h
  rcases List.mem_cons.1 hword with rfl | hword
  · exact hgreater.symm
  rcases List.mem_cons.1 hword with rfl | hword
  · exact hequals.symm
  · obtain rfl := List.mem_singleton.1 hword
    exact hlimit.symm

/-- An integer is none of them. -/
theorem showInt_ne_mark (n : Int) {word : String} (hword : word ∈ marks) :
    showInt n ≠ word.toList := by
  intro h
  have hnone : ∀ word ∈ marks, readInt? word.toList = none := by decide
  have hread := readInt?_showInt n
  rw [h, hnone word hword] at hread
  cases hread

/-- No statement begins with one of them. -/
theorem selectionWords_ne_mark (htable : Plain table) (hcolumn : Plain column) {word : String}
    (hword : word ∈ marks) : ∀ w ∈ selectionWords table column, w ≠ word.toList := by
  have hcast : "CAST(".toList ++ column.toList ≠ word.toList := by
    have hhead : ∀ word ∈ marks, some 'C' ≠ word.toList.head? := by decide
    intro h
    exact hhead word hword (congrArg List.head? h)
  have hother : ∀ w ∈ ["SELECT", "*,", "AS", "BIGINT)", "tdc_cursor", "FROM", "WHERE"],
      w.toList ≠ word.toList := by
    have hall : ∀ word ∈ marks, ∀ w ∈ ["SELECT", "*,", "AS", "BIGINT)", "tdc_cursor", "FROM",
      "WHERE"], w.toList ≠ word.toList := by decide
    exact hall word hword
  simp only [selectionWords, List.forall_mem_cons]
  exact ⟨hother _ (by simp), hother _ (by simp), hcast, hother _ (by simp), hother _ (by simp),
    hother _ (by simp), hother _ (by simp), hother _ (by simp), htable.ne_mark hword,
    hother _ (by simp), hcolumn.ne_mark hword, by simp⟩

/-! ## Answers -/

/-- A statement that begins as it should asks for rows of its table. -/
theorem answer_of_words {tables : String → Option Table} {t : Table} {sql : String}
    {rest : List (List Char)} (ht : tables table = some t)
    (hwords : words sql.toList = selectionWords table column ++ rest) :
    answer tables sql =
      .ok ⟨t.columnsWithTime, (t.asked (selectionWords table column ++ rest)).map withTime⟩ := by
  have hfrom : wordAfter? "FROM" (selectionWords table column ++ rest) = some table.toList := by
    have hbefore : ∀ w ∈ ["SELECT".toList, "*,".toList, "CAST(".toList ++ column.toList,
        "AS".toList, "BIGINT)".toList, "AS".toList, "tdc_cursor".toList], w ≠ "FROM".toList := by
      have hcast : "CAST(".toList ++ column.toList ≠ "FROM".toList := fun h =>
        absurd (congrArg List.head? h) (by decide : some 'C' ≠ some 'F')
      simp only [List.forall_mem_cons]
      exact ⟨by decide, by decide, hcast, by decide, by decide, by decide, by decide, by simp⟩
    exact wordAfter?_append hbefore table.toList (["WHERE".toList, column.toList] ++ rest)
  have hcontains : (selectionWords table column ++ rest).contains "FROM".toList = true := by
    simp [selectionWords]
  unfold answer
  simp only [hwords, hcontains, hfrom, Option.getD_some, String.ofList_toList, ht]
  rfl

/-- **A table answers the statement for the rows after an instant** with the first of them in order of
time. -/
theorem answer_rowsAfter {tables : String → Option Table} {t : Table} (htable : Plain table)
    (hcolumn : Plain column) (ht : tables table = some t) (time : Int64) (limit : Nat) :
    answer tables (Extraction.rowsAfter table column time limit) =
      .ok ⟨t.columnsWithTime, ((t.rowsAfter time).take limit).map withTime⟩ := by
  have hbefore {word : String} (hword : word ∈ marks) :=
    selectionWords_ne_mark htable hcolumn hword
  have hshow (n : Int) {word : String} (hword : word ∈ marks) := showInt_ne_mark n hword
  have hgreater : wordAfter? ">" (afterWords table column time limit) =
      some (showInt time.toInt) :=
    wordAfter?_append (hbefore (by decide)) _ _
  have hequals : wordAfter? "=" (afterWords table column time limit) = none := by
    refine wordAfter?_eq_none ?_
    rw [afterWords, List.forall_mem_append]
    refine ⟨hbefore (by decide), ?_⟩
    simp only [List.forall_mem_cons]
    exact ⟨by decide, hshow _ (by decide), by decide, by decide, hcolumn.ne_mark (by decide),
      by decide, by decide, hshow (.ofNat limit) (by decide), by simp⟩
  have hlimit : wordAfter? "LIMIT" (afterWords table column time limit) = some (showNat limit) := by
    have hwords : afterWords table column time limit = (selectionWords table column ++
        [">".toList, showInt time.toInt, "ORDER".toList, "BY".toList, column.toList,
          "ASC".toList]) ++ "LIMIT".toList :: showNat limit :: [] := by
      rw [afterWords, List.append_assoc]
      rfl
    rw [hwords]
    refine wordAfter?_append ?_ _ _
    rw [List.forall_mem_append]
    refine ⟨hbefore (by decide), ?_⟩
    simp only [List.forall_mem_cons]
    exact ⟨by decide, hshow _ (by decide), by decide, by decide, hcolumn.ne_mark (by decide),
      by decide, by simp⟩
  have hasked : t.asked (afterWords table column time limit) = (t.rowsAfter time).take limit := by
    unfold asked rowsAfter
    simp only [hgreater, hequals, hlimit, Option.bind_some, Option.bind_none, readInt64?_showInt,
      readNat?_showNat, Option.all_some, Option.all_none, Bool.and_true]
  rw [answer_of_words ht (words_rowsAfter htable hcolumn time limit)]
  show Except.ok _ = _
  rw [← hasked]
  rfl

/-- **A table answers the statement for the rows of an instant** with all of them. -/
theorem answer_rowsAt {tables : String → Option Table} {t : Table} (htable : Plain table)
    (hcolumn : Plain column) (ht : tables table = some t) (time : Int64) :
    answer tables (Extraction.rowsAt table column time) =
      .ok ⟨t.columnsWithTime, (sorted (t.rowsAt time)).map withTime⟩ := by
  have hbefore {word : String} (hword : word ∈ marks) :=
    selectionWords_ne_mark htable hcolumn hword
  have hmissing : ∀ word ∈ [">", "LIMIT"], wordAfter? word (atWords table column time) = none := by
    intro word hword
    have hmark : ∀ word ∈ [">", "LIMIT"], word ∈ marks ∧ "=".toList ≠ word.toList := by decide
    obtain ⟨hword, hne⟩ := hmark word hword
    refine wordAfter?_eq_none ?_
    rw [atWords, List.forall_mem_append]
    refine ⟨hbefore hword, ?_⟩
    simp only [List.forall_mem_cons]
    exact ⟨hne, showInt_ne_mark _ hword, by simp⟩
  have hequals : wordAfter? "=" (atWords table column time) = some (showInt time.toInt) :=
    wordAfter?_append (hbefore (by decide)) _ _
  have hasked : t.asked (atWords table column time) = sorted (t.rowsAt time) := by
    have hsame : t.rows.filter (fun r => time == r.1) = t.rowsAt time :=
      List.filter_congr (fun r _ => BEq.comm)
    unfold asked
    simp only [hmissing ">" (by decide), hmissing "LIMIT" (by decide), hequals, Option.bind_some,
      Option.bind_none, readInt64?_showInt, Option.all_some, Option.all_none,
      Bool.true_and, hsame]
  rw [answer_of_words ht (words_rowsAt htable hcolumn time)]
  show Except.ok _ = _
  rw [← hasked]
  rfl

end Table

end SeriesBridge
