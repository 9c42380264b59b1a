import SeriesBridge.Proofs.Extraction.Prepare
import SeriesBridge.Proofs.Text.Identifier

/-! # Names in accepted settings

Settings that are accepted put nothing but plain names into statements.

* **`DatabaseSettings.identifier_of_target`** — the database to work on is an identifier.
* **`DatabaseSettings.identifier_timestampColumn`**, **`DatabaseSettings.dotted_of_mem_tables`** — so
  is the time column of a source, and its tables are identifiers with dots between them. -/

namespace SeriesBridge

open Text

/-- **A name is accepted** just when it is an identifier. -/
theorem checkIdentifier_ok_iff {name : String} :
    checkIdentifier name = .ok () ↔ Identifier name := by
  rw [← isIdentifier_iff, checkIdentifier]
  cases isIdentifier name.toList <;> simp

namespace DatabaseSettings

variable {S : DatabaseSettings} {name : String} {t : TableSource}

/-- All items are accepted just when each of them is. -/
theorem checkAll_ok_iff {α : Type} {check : α → Outcome Unit} {l : List α} :
    checkAll check l = .ok () ↔ ∀ a ∈ l, check a = .ok () := by
  induction l with
  | nil => simp [checkAll]
  | cons a rest ih =>
      rw [List.forall_mem_cons, ← ih, checkAll]
      cases check a <;> simp

/-- **The database to work on is an identifier,** wherever its name comes from. -/
theorem identifier_of_target (h : S.check = .ok ()) (htarget : S.target? = some name) :
    Identifier name := by
  refine checkIdentifier_ok_iff.1 ?_
  -- The name is the one that is checked: that of the settings, or else that of the address.
  have hname : ∀ e, S.endpoint = .ok e → S.database.or e.database = some name := by
    intro e he
    rw [target?, he] at htarget
    cases hdatabase : S.database with
    | none => rw [hdatabase] at htarget; exact htarget
    | some d => rw [hdatabase] at htarget; exact htarget
  unfold check at h
  cases hendpoint : S.endpoint with
  | error e =>
      rw [hendpoint] at h
      cases h
  | ok e =>
      cases hcheck : checkIdentifier name with
      | ok _ => rfl
      | error failure =>
          simp only [hendpoint, hname e hendpoint, hcheck, bind, Except.bind] at h
          repeat' split at h
          all_goals cases h

/-- **The time column of a source is an identifier.** -/
theorem identifier_timestampColumn (h : S.checkSource = .ok ()) : Identifier S.timestampColumn := by
  refine checkIdentifier_ok_iff.1 ?_
  cases hcheck : checkIdentifier S.timestampColumn with
  | ok _ => rfl
  | error e =>
      unfold checkSource at h
      simp only [hcheck, bind, Except.bind] at h
      repeat' split at h
      all_goals cases h

/-- **The tables of a source are identifiers with dots between them.** -/
theorem dotted_of_mem_tables (h : S.checkSource = .ok ()) (ht : t ∈ S.tables) : Dotted t.table := by
  have hall : checkAll checkTable S.tables = .ok () := by
    cases hcheck : checkAll checkTable S.tables with
    | ok _ => rfl
    | error e =>
        unfold checkSource at h
        simp only [hcheck, bind, Except.bind] at h
        repeat' split at h
        all_goals cases h
  have htable := checkAll_ok_iff.1 hall t ht
  have hparts : checkAll (fun part => checkIdentifier (String.ofList part))
      (pieces (· == '.') t.table.toList) = .ok () := by
    cases hcheck : checkAll (fun part => checkIdentifier (String.ofList part))
        (pieces (· == '.') t.table.toList) with
    | ok _ => rfl
    | error e =>
        unfold checkTable at htable
        rw [hcheck] at htable
        cases htable
  exact dotted_of_pieces fun part hpart => checkIdentifier_ok_iff.1 (checkAll_ok_iff.1 hparts part hpart)

end DatabaseSettings

end SeriesBridge
