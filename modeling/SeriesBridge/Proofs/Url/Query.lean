import SeriesBridge.Proofs.Text.Blank
import SeriesBridge.Url.Basic

/-! # The text behind a question mark

A question mark ends the server and the path of an address. What stands behind it is the query, and no other
part of the address depends on it.

* **`Url.splitUser_append`**, **`Url.splitHost_append`**, **`Url.readPort_append`** — the readers of the
  server carry the text along.
* **`Url.readAddress_append`** — addresses with the same text before the question mark are the same
  but for their queries. -/

namespace SeriesBridge.Url

open Text

/-- Cleaning leaves the question mark, and cleans on either side of it. -/
theorem clean_append (s x : List Char) :
    clean (s ++ '?' :: x) =
      s.filter (fun c => c != '\t' && c != '\n' && c != '\r') ++ '?' :: clean x := by
  rw [clean, dropEndWhile_append_cons_of_not (by decide), List.filter_append,
    List.filter_cons_of_pos (by decide)]
  rfl

/-! ## The server -/

/-- The text behind the slashes that a web address may start with. -/
def behindSlashes (web : Bool) (s : List Char) : List Char :=
  if web then s.dropWhile (fun c => c == '/' || c == '\\') else s

/-- A question mark is no slash. -/
theorem behindSlashes_append (web : Bool) (s x : List Char) :
    behindSlashes web (s ++ '?' :: x) = behindSlashes web s ++ '?' :: x := by
  unfold behindSlashes
  split
  · exact dropWhile_append_cons_of_not (by decide) s x
  · rfl

/-- A question mark ends the server. -/
theorem endsAuthority_question {web : Bool} : endsAuthority web '?' = true := by
  cases web <;> rfl

/-- The user ends before the question mark. -/
theorem splitUser_append (web : Bool) (s : List Char) : ∃ result : Except Fault (Bool × List Char),
    ∀ x, splitUser web (s ++ '?' :: x) = result.map (fun p => (p.1, p.2 ++ '?' :: x)) := by
  have hends : (!endsAuthority web '?') = false := by rw [endsAuthority_question]; rfl
  unfold splitUser
  simp only [takeWhile_append_cons_of_not (p := fun c => !endsAuthority web c) hends,
    dropWhile_append_cons_of_not (p := fun c => !endsAuthority web c) hends]
  rcases splitLast '@' (s.takeWhile fun c => !endsAuthority web c) with _ | ⟨user, host⟩
  · exact ⟨.ok (false, s), fun x => rfl⟩
  · by_cases hnone : user = [] ∧ host = []
    · -- With the question mark there is something behind the at sign, but no host.
      obtain ⟨rfl, rfl⟩ := hnone
      exact ⟨.error .emptyHost, fun x => by simp [Except.map]⟩
    · refine ⟨.ok (!user.isEmpty && user != [':'],
        host ++ s.dropWhile fun c => !endsAuthority web c), fun x => ?_⟩
      cases user with
      | nil =>
          cases host with
          | nil => exact absurd ⟨rfl, rfl⟩ hnone
          | cons h host => simp [Except.map]
      | cons u user => simp [Except.map]

/-- The host ends before the question mark. -/
theorem splitHost_append (web inside : Bool) (s : List Char) : ∃ host rest,
    ∀ x, splitHost web inside (s ++ '?' :: x) = (host, rest ++ '?' :: x) := by
  induction s generalizing inside with
  | nil => exact ⟨[], [], fun x => by simp [splitHost, endsAuthority_question]⟩
  | cons c s ih =>
      by_cases hc : ((c == ':' && !inside) || endsAuthority web c) = true
      · exact ⟨[], c :: s, fun x => by rw [List.cons_append, splitHost, if_pos hc]⟩
      · obtain ⟨host, rest, hrest⟩ := ih (if c == '[' then true else if c == ']' then false else inside)
        exact ⟨c :: host, rest, fun x => by
          rw [List.cons_append, splitHost, if_neg hc]
          simp only [hrest]⟩

/-- The port ends before the question mark. -/
theorem readPort_append (default : Option Nat) (s : List Char) :
    ∃ result : Except Fault (Option Nat × List Char),
      ∀ x, readPort default (s ++ '?' :: x) = result.map (fun p => (p.1, p.2 ++ '?' :: x)) := by
  unfold readPort
  simp only [takeWhile_append_cons_of_not (p := Char.isDigit) (by decide : Char.isDigit '?' = false),
    dropWhile_append_cons_of_not (p := Char.isDigit) (by decide : Char.isDigit '?' = false)]
  generalize (if (s.takeWhile Char.isDigit).isEmpty ||
    some (natOfDigits 0 (s.takeWhile Char.isDigit)) == default then none
    else some (natOfDigits 0 (s.takeWhile Char.isDigit))) = port
  by_cases hlarge : 65535 < natOfDigits 0 (s.takeWhile Char.isDigit)
  · exact ⟨.error .port, fun x => if_pos hlarge⟩
  · simp only [if_neg hlarge]
    cases s.dropWhile Char.isDigit with
    | nil => exact ⟨.ok (port, []), fun x => if_pos endsAuthority_question⟩
    | cons c rest =>
        by_cases hc : endsAuthority true c = true
        · exact ⟨.ok (port, c :: rest), fun x => if_pos hc⟩
        · exact ⟨.error .port, fun x => if_neg hc⟩

/-- The port behind a host, if a colon says so, and the text behind it. -/
def behindHost (default : Option Nat) : List Char → Except Fault (Option Nat × List Char)
  | ':' :: s => readPort default s
  | s => .ok (none, s)

/-- The server ends before the question mark. -/
theorem behindHost_append (default : Option Nat) (s : List Char) :
    ∃ result : Except Fault (Option Nat × List Char),
      ∀ x, behindHost default (s ++ '?' :: x) = result.map (fun p => (p.1, p.2 ++ '?' :: x)) := by
  cases s with
  | nil => exact ⟨.ok (none, []), fun x => rfl⟩
  | cons c s =>
      by_cases hcolon : c = ':'
      · obtain ⟨result, hresult⟩ := readPort_append default s
        exact ⟨result, fun x => hcolon ▸ hresult x⟩
      · refine ⟨.ok (none, c :: s), fun x => ?_⟩
        rw [List.cons_append, behindHost]
        · rfl
        · rintro s' heq
          exact hcolon (List.cons.inj heq).1

/-! ## Addresses -/

/-- The path ends before the question mark. -/
theorem splitPath_append (s : List Char) :
    ∃ path, ∀ x, ∃ query, splitPath (s ++ '?' :: x) = (path, query) := by
  unfold splitPath
  by_cases hmark : '#' ∈ s
  · -- The fragment begins before the question mark, so it holds all that stands behind that.
    obtain ⟨before, after, rfl⟩ := List.append_of_mem hmark
    simp only [List.append_assoc, List.cons_append,
      takeWhile_append_cons_of_not (p := (· != '#')) (a := '#') rfl]
    cases splitFirst ['?'] (before.takeWhile (· != '#')) with
    | none => exact ⟨_, fun x => ⟨none, rfl⟩⟩
    | some cut => exact ⟨cut.1, fun x => ⟨some cut.2, rfl⟩⟩
  · have hpass : ∀ c ∈ s, (c != '#') = true := by
      intro c hc
      exact bne_iff_ne.2 fun hsharp => hmark (hsharp ▸ hc)
    have hkept (x : List Char) : (s ++ '?' :: x).takeWhile (· != '#') =
        s ++ '?' :: x.takeWhile (· != '#') := by
      rw [List.takeWhile_append_of_pos hpass, List.takeWhile_cons_of_pos (by decide)]
    simp only [hkept]
    cases hcut : splitFirst ['?'] s with
    | some cut =>
        exact ⟨cut.1, fun x => ⟨some (cut.2 ++ '?' :: x.takeWhile (· != '#')), by
          rw [splitFirst_append hcut]⟩⟩
    | none =>
        have hnone : '?' ∉ s := by
          intro hmem
          obtain ⟨before, after, rfl⟩ := List.append_of_mem hmem
          have hfound := isSome_splitFirst_iff.2 (⟨before, after, by simp⟩ : ['?'] <:+: before ++ '?' :: after)
          rw [hcut] at hfound
          cases hfound
        refine ⟨s, fun x => ⟨some (x.takeWhile (· != '#')), ?_⟩⟩
        have hfound := splitFirst_of_not_mem hnone [] (x.takeWhile (· != '#'))
        rw [List.singleton_append] at hfound
        rw [hfound]

/-- The address with a server and the text behind it. -/
def ofServer (web : Bool) (host : List Char) (port : Option Nat) (s : List Char) : Address :=
  let (path, query) := splitPath s
  let path :=
    match path with
    | [] => if web then ['/'] else []
    | '/' :: rest => readPath web rest
    | '\\' :: rest => if web then readPath web rest else readPath web ('\\' :: rest)
    | rest => readPath web rest
  { host, port, path, query }

/-- **An address is read in this order:** the user, the host, the port, and then the path and the query. -/
theorem readAddress_eq (web : Bool) (default : Option Nat) (s : List Char) : readAddress web default s =
    (splitUser web (behindSlashes web s)).bind fun user =>
      let server := splitHost web false user.2
      (if web then readWebHost server.1 else readOpaqueHost server.1).bind fun host =>
        if host.isEmpty && (server.2.head? == some ':' || user.1) then .error .emptyHost
        else (behindHost default server.2).map fun p => ofServer web host p.1 p.2 := by
  have hport (host s : List Char) : (match s with
      | ':' :: s => (readPort default s).bind fun p => Except.ok (ofServer web host p.1 p.2)
      | s => (Except.ok (none, s)).bind fun p => Except.ok (ofServer web host p.1 p.2)) =
      (behindHost default s).map fun p => ofServer web host p.1 p.2 := by
    unfold behindHost
    split
    · cases readPort default _ <;> rfl
    · rfl
  refine congrArg (Except.bind _) (funext fun user => ?_)
  -- The two kinds of hosts are read by two functions, with the same steps behind each.
  cases web
  all_goals
    refine congrArg (Except.bind _) (funext fun host => ?_)
    exact ite_congr rfl (fun _ => rfl) (fun _ => hport _ _)

/-- The path does not depend on the text behind the question mark. -/
theorem ofServer_append (web : Bool) (host : List Char) (port : Option Nat) (s x y : List Char) :
    { ofServer web host port (s ++ '?' :: x) with query := none } =
      { ofServer web host port (s ++ '?' :: y) with query := none } := by
  obtain ⟨path, hpath⟩ := splitPath_append s
  obtain ⟨query, hx⟩ := hpath x
  obtain ⟨query', hy⟩ := hpath y
  unfold ofServer
  rw [hx, hy]

/-- **Addresses with the same text before the question mark** are the same but for their queries. -/
theorem readAddress_append (web : Bool) (default : Option Nat) (s x y : List Char) :
    (readAddress web default (s ++ '?' :: x)).map (fun a => { a with query := none }) =
      (readAddress web default (s ++ '?' :: y)).map (fun a => { a with query := none }) := by
  obtain ⟨user, huser⟩ := splitUser_append web (behindSlashes web s)
  rw [readAddress_eq, readAddress_eq, behindSlashes_append, behindSlashes_append, huser, huser]
  rcases user with f | ⟨hasUser, rest⟩
  · rfl
  obtain ⟨host, rest', hhost⟩ := splitHost_append web false rest
  obtain ⟨port, hport⟩ := behindHost_append default rest'
  have hhead (z : List Char) : (rest' ++ '?' :: z).head? = (rest' ++ ['?']).head? := by
    cases rest' <;> rfl
  -- Every step is the same on both sides, and hands on the text behind the question mark.
  simp only [Except.map, Except.bind, hhost, hhead, hport]
  cases (if web then readWebHost host else readOpaqueHost host) with
  | error f => rfl
  | ok name =>
      by_cases hempty : (name.isEmpty && ((rest' ++ ['?']).head? == some ':' || hasUser)) = true
      · simp only [if_pos hempty]
      · simp only [if_neg hempty]
        rcases port with f | ⟨port, rest''⟩
        · rfl
        · exact congrArg Except.ok (ofServer_append web name port rest'' x y)

end SeriesBridge.Url
