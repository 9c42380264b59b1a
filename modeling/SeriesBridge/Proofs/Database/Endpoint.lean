import SeriesBridge.Database.Endpoint
import SeriesBridge.Proofs.Url.Query

/-! # What an address shows of its credentials

The user and the password of a connection address stand in its query. An endpoint shows nothing of them. The
error of an address that is refused holds the address as it was given, and them with it.

* **`DifferInValues`** — queries that differ in the values of names.
* **`Endpoint.Twins`** — what is read of two addresses that differ so.
* **`Endpoint.read_of_differInValues`** — when values show and when they do not. -/

namespace SeriesBridge

open Text

/-! ## Queries -/

/-- **Two queries that differ in values:** behind equals signs they may have other letters and digits, or
none, and everywhere else they are the same. -/
inductive DifferInValues : List Char → List Char → Prop where
  | nil : DifferInValues [] []
  | cons (c : Char) {q q' : List Char} (rest : DifferInValues q q') :
      DifferInValues (c :: q) (c :: q')
  | value {v v' q q' : List Char} (left : ∀ c ∈ v, c.isAlphanum = true)
      (right : ∀ c ∈ v', c.isAlphanum = true) (rest : DifferInValues q q') :
      DifferInValues ('=' :: (v ++ q)) ('=' :: (v' ++ q'))

/-- The same text before two queries that differ. -/
theorem DifferInValues.append_left {q q' : List Char} (h : DifferInValues q q') (s : List Char) :
    DifferInValues (s ++ q) (s ++ q') := by
  induction s with
  | nil => exact h
  | cons c s ih => exact .cons c ih

/-- No value has an equals sign in it. -/
theorem not_mem_of_isAlphanum {v : List Char} (h : ∀ c ∈ v, c.isAlphanum = true) : '=' ∉ v := by
  intro hmem
  cases h '=' hmem

/-- Values behind an equals sign reach back to it. -/
theorem eq_of_append_value {x x' v v' : List Char} (hv : '=' ∉ v) (hv' : '=' ∉ v')
    (h : x ++ '=' :: v = x' ++ '=' :: v') : v = v' := by
  rcases List.append_eq_append_iff.1 h with ⟨u, -, hu⟩ | ⟨u, -, hu⟩
  · cases u with
    | nil => exact (List.cons.inj hu).2
    | cons d u =>
        rw [(List.cons.inj hu).2] at hv
        simp at hv
  · cases u with
    | nil => exact (List.cons.inj hu).2.symm
    | cons d u =>
        rw [(List.cons.inj hu).2] at hv'
        simp at hv'

/-- **Queries that differ show it** at the end of a text, whatever stands before them. -/
theorem DifferInValues.eq_of_append {q q' : List Char} (h : DifferInValues q q') {x x' : List Char}
    (happend : x ++ q = x' ++ q') : q = q' := by
  -- What was compared goes over to the texts before, until the last value is all that is left.
  induction h generalizing x x' with
  | nil => rfl
  | cons c rest ih =>
      rw [List.append_cons, List.append_cons x'] at happend
      rw [ih happend]
  | @value v v' q q' left right rest ih =>
      have hsplit : (x ++ '=' :: v) ++ q = (x' ++ '=' :: v') ++ q' := by
        simpa using happend
      obtain rfl := ih hsplit
      rw [eq_of_append_value (not_mem_of_isAlphanum left) (not_mem_of_isAlphanum right)
        (List.append_cancel_right hsplit)]

namespace Endpoint

/-! ## What is read -/

/-- **What is read of two addresses that differ:** endpoints that are the same but for the user and the
password, or errors that both hold their address. When different texts follow there, the errors end
differently. -/
inductive Twins (raw raw' : String) : Outcome Endpoint → Outcome Endpoint → Prop where
  | ok (e : Endpoint) (user password user' password' : Option String) :
      Twins raw raw' (.ok { e with user, password })
        (.ok { e with user := user', password := password' })
  | error (before before' after after' : String)
      (ends : ∀ u u' : List Char, u ++ after.toList = u' ++ after'.toList → after = after') :
      Twins raw raw' (.error (.configuration (before ++ raw ++ after)))
        (.error (.configuration (before' ++ raw' ++ after')))

variable {raw raw' : String}

/-- Errors with the same words around their addresses. -/
theorem Twins.same (before after : String) :
    Twins raw raw' (.error (.configuration (before ++ raw ++ after)))
      (.error (.configuration (before ++ raw' ++ after))) :=
  .error before before after after fun _ _ _ => rfl

/-- An address that is refused stands between two texts. -/
theorem refused_eq (raw reason : String) : refused raw reason =
    .configuration ("invalid connection url '" ++ raw ++ ("': " ++ reason)) := by
  rw [refused, @String.append_assoc _ "': "]

/-- Addresses that are refused for the same reason. -/
theorem Twins.refused (reason : String) :
    Twins raw raw' (.error (refused raw reason)) (.error (refused raw' reason)) := by
  rw [refused_eq, refused_eq]
  exact .same "invalid connection url '" ("': " ++ reason)

/-- **Behind a scheme** only the user and the password depend on the text behind the question mark. -/
theorem twins_ofAddress (scheme : String) (s x y : List Char) :
    Twins raw raw' (ofAddress raw scheme (s ++ '?' :: x)) (ofAddress raw' scheme (s ++ '?' :: y)) := by
  unfold ofAddress
  rw [Url.clean_append, Url.clean_append]
  dsimp only
  have hsame := Url.readAddress_append (scheme == "http" || scheme == "https")
    (if scheme == "http" || scheme == "https" then some (webPort (scheme == "https")) else none)
    (s.filter fun c => c != '\t' && c != '\n' && c != '\r') (Url.clean x) (Url.clean y)
  generalize Url.readAddress _ _ (_ ++ '?' :: Url.clean x) = left at hsame ⊢
  generalize Url.readAddress _ _ (_ ++ '?' :: Url.clean y) = right at hsame ⊢
  -- Both addresses are read or both have the same fault, and only their queries differ.
  cases left with
  | error f =>
      cases right with
      | error g =>
          cases hsame
          exact .refused f.message
      | ok b => cases hsame
  | ok a =>
      cases right with
      | error g => cases hsame
      | ok b =>
          obtain ⟨host, port, path, query⟩ := a
          obtain ⟨host', port', path', query'⟩ := b
          simp only [Except.map, Except.ok.injEq, Url.Address.mk.injEq, and_true] at hsame
          obtain ⟨rfl, rfl, rfl⟩ := hsame
          dsimp only
          split
          · exact .same "connection url '" "' has no host"
          · cases Url.readWebHost host with
            | error f => exact .refused f.message
            | ok name => exact .ok { secure := _, host := _, port := _, database := _ } _ _ _ _

/-- The mark of a driver address stands before the question mark. -/
theorem dropDriverMark_append (s x : List Char) :
    dropDriverMark (s ++ '?' :: x) = dropDriverMark s ++ '?' :: x := by
  unfold dropDriverMark
  by_cases hlong : 5 ≤ s.length
  · rw [List.take_append_of_le_length hlong, List.drop_append_of_le_length hlong]
    split <;> rfl
  · -- The question mark is among the five characters, so they are no mark; and there are fewer without it.
    have hquestion : '?' ∈ lower ((s ++ '?' :: x).take 5) := by
      refine List.mem_map.2 ⟨'?', ?_, rfl⟩
      rw [List.take_append, List.take_cons (by omega)]
      simp
    have hno : ¬ (lower ((s ++ '?' :: x).take 5) == "jdbc:".toList) = true := by
      intro hmark
      rw [eq_of_beq hmark] at hquestion
      revert hquestion
      decide
    have hshort : ¬ (lower (s.take 5) == "jdbc:".toList) = true := by
      intro hmark
      have hlength := congrArg List.length (eq_of_beq hmark)
      have hfive : "jdbc:".toList.length = 5 := rfl
      rw [lower, List.length_map, List.length_take, hfive] at hlength
      omega
    rw [if_neg hno, if_neg hshort]

/-- A scheme with a question mark in it is not supported. -/
theorem not_contains_of_mem {scheme : List Char} (h : '?' ∈ scheme) :
    ¬ schemes.contains (String.ofList (lower scheme)) = true := by
  intro hcontains
  have hmem : String.ofList (lower scheme) ∈ schemes := List.contains_iff_mem.1 hcontains
  have hnone : ∀ w ∈ schemes, '?' ∉ w.toList := by decide
  have hquestion : '?' ∈ lower scheme := List.mem_map.2 ⟨'?', h, rfl⟩
  apply hnone _ hmem
  rwa [String.toList_ofList]

/-- What may follow an address that has no scheme. -/
def unschemedEnds : List String := ["': " ++ "expected jdbc:TAOS://host:port", "'"]

/-- They end in different characters. -/
theorem eq_of_append_unschemedEnds {after after' : String} (h : after ∈ unschemedEnds)
    (h' : after' ∈ unschemedEnds) {u u' : List Char} (happend : u ++ after.toList = u' ++ after'.toList) :
    after = after' := by
  have hlast : ∀ a ∈ unschemedEnds, ∀ b ∈ unschemedEnds,
      a.toList.getLast? = b.toList.getLast? → a = b := by decide
  have hsome : ∀ a ∈ unschemedEnds, a.toList.getLast?.isSome := by decide
  have hend (u : List Char) {a : String} (ha : a ∈ unschemedEnds) :
      (u ++ a.toList).getLast? = a.toList.getLast? := by
    rw [List.getLast?_append, Option.or_of_isSome (hsome a ha)]
  apply hlast after h after' h'
  rw [← hend u h, happend, hend u' h']

/-- **Without a scheme before the question mark** an address is refused. -/
theorem read_of_splitFirst_eq_none {s x : List Char}
    (htrim : dropDriverMark (trim raw.toList) = s ++ '?' :: x) (hnone : splitFirst "://".toList s = none) :
    ∃ before, ∃ after ∈ unschemedEnds, read raw = .error (.configuration (before ++ raw ++ after)) := by
  unfold read
  rw [htrim]
  cases hcut : splitFirst "://".toList (s ++ '?' :: x) with
  | none =>
      dsimp only
      rw [refused_eq]
      exact ⟨_, _, List.mem_cons_self, rfl⟩
  | some cut =>
      obtain ⟨scheme, rest⟩ := cut
      have hquestion : '?' ∈ scheme := mem_of_splitFirst_append hnone (by decide) hcut
      dsimp only
      rw [if_neg (not_contains_of_mem hquestion)]
      exact ⟨_, "'", by simp [unschemedEnds], rfl⟩

/-- **Only the user and the password** depend on the text behind a question mark. -/
theorem twins_read (address query query' : String) :
    Twins (address ++ "?" ++ query) (address ++ "?" ++ query') (read (address ++ "?" ++ query))
      (read (address ++ "?" ++ query')) := by
  have htrim (q : String) : dropDriverMark (trim (address ++ "?" ++ q).toList) =
      dropDriverMark (address.toList.dropWhile isBlank) ++ '?' :: dropEndWhile isBlank q.toList := by
    have htext : (address ++ "?" ++ q).toList = address.toList ++ '?' :: q.toList := by simp
    rw [htext, trim_append_cons (by decide), dropDriverMark_append]
  cases hcut : splitFirst "://".toList (dropDriverMark (address.toList.dropWhile isBlank)) with
  | some cut =>
      obtain ⟨scheme, rest⟩ := cut
      unfold read
      rw [htrim, htrim, splitFirst_append hcut, splitFirst_append hcut]
      dsimp only
      split
      · exact twins_ofAddress _ _ _ _
      · exact .same _ "'"
  | none =>
      obtain ⟨before, after, hafter, h⟩ := read_of_splitFirst_eq_none (htrim query) hcut
      obtain ⟨before', after', hafter', h'⟩ := read_of_splitFirst_eq_none (htrim query') hcut
      rw [h, h']
      exact .error before before' after after' fun _ _ =>
        eq_of_append_unschemedEnds hafter hafter'

/-! ## What is shown -/

/-- **Values do not show in an endpoint, and they show in every error.** Two addresses may differ in the
values of their queries, those of user and password among them. Then both are read or both are refused. The
endpoints that are read are shown alike and reach the same database of the same server; the errors have the
same words only if the addresses are the same. -/
theorem read_of_differInValues (address : String) {query query' : String}
    (h : DifferInValues query.toList query'.toList) :
    (∃ e e', read (address ++ "?" ++ query) = .ok e ∧ read (address ++ "?" ++ query') = .ok e' ∧
      e'.base = e.base ∧ e'.host = e.host ∧ e'.port = e.port ∧ e'.database = e.database ∧
      e'.display = e.display) ∨
    ∃ f f', read (address ++ "?" ++ query) = .error f ∧ read (address ++ "?" ++ query') = .error f' ∧
      (f'.message = f.message ↔ query' = query) := by
  have htwins := twins_read address query query'
  generalize hleft : read (address ++ "?" ++ query) = left at htwins
  generalize hright : read (address ++ "?" ++ query') = right at htwins
  cases htwins with
  | ok e user password user' password' =>
      exact .inl ⟨_, _, rfl, rfl, rfl, rfl, rfl, rfl, rfl⟩
  | error before before' after after' ends =>
      refine .inr ⟨_, _, rfl, rfl, ?_, ?_⟩
      · intro hmessage
        have htexts : before ++ (address ++ "?" ++ query) ++ after =
            before' ++ (address ++ "?" ++ query') ++ after' :=
          (String.append_right_inj _).1 hmessage.symm
        have hchars : (before ++ address ++ "?").toList ++ query.toList ++ after.toList =
            (before' ++ address ++ "?").toList ++ query'.toList ++ after'.toList := by
          simpa only [String.toList_append, List.append_assoc] using congrArg String.toList htexts
        -- First the texts behind the addresses are the same, and then the values are.
        rw [ends _ _ hchars] at hchars
        have hqueries := h.eq_of_append (List.append_cancel_right hchars)
        exact (String.toList_inj.1 hqueries).symm
      · rintro rfl
        exact congrArg Error.message (Except.error.inj (hright.symm.trans hleft))

/-- Two queries with different passwords. -/
theorem differInValues_password :
    DifferInValues "user=root&password=alpha".toList "user=root&password=b2".toList := by
  have hvalues : DifferInValues ('=' :: ("alpha".toList ++ [])) ('=' :: ("b2".toList ++ [])) :=
    .value (List.all_eq_true.1 (by decide)) (List.all_eq_true.1 (by decide)) .nil
  exact hvalues.append_left "user=root&password".toList

/-- Behind the address of a database the passwords do not show. -/
theorem read_of_differInValues_power :
    ∃ e e', read "jdbc:TAOS://localhost/power?user=root&password=alpha" = .ok e ∧
      read "jdbc:TAOS://localhost/power?user=root&password=b2" = .ok e' ∧
      e'.base = e.base ∧ e'.host = e.host ∧ e'.port = e.port ∧ e'.database = e.database ∧
      e'.display = e.display := by
  have hread : (read "jdbc:TAOS://localhost/power?user=root&password=alpha").toOption.isSome = true := by
    decide +kernel
  rcases read_of_differInValues "jdbc:TAOS://localhost/power" differInValues_password with h | h
  · exact h
  · obtain ⟨f, -, hf, -⟩ := h
    have hf : read "jdbc:TAOS://localhost/power?user=root&password=alpha" = .error f := hf
    rw [hf] at hread
    cases hread

/-- **The passwords show** when the scheme is none of a database. -/
theorem message_ne_of_unsupported :
    ∃ f f', read "jdbc:mysql://localhost:3306?user=root&password=alpha" = .error f ∧
      read "jdbc:mysql://localhost:3306?user=root&password=b2" = .error f' ∧
      f.message = "configuration error: unsupported connection url prefix 'mysql' in " ++
        "'jdbc:mysql://localhost:3306?user=root&password=alpha'" ∧
      f'.message = "configuration error: unsupported connection url prefix 'mysql' in " ++
        "'jdbc:mysql://localhost:3306?user=root&password=b2'" ∧ f'.message ≠ f.message := by
  refine ⟨_, _, rfl, rfl, rfl, rfl, by decide⟩

end Endpoint

end SeriesBridge
