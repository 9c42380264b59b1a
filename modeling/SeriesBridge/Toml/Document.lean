import SeriesBridge.Toml.Value

/-! # TOML documents

A document is a list of lines, each of which sets a value or opens a table. The tables are built up
as **`Node`**s, which remember how they came about: a table may be opened by a header once, and may
be added to by dotted keys only where dotted keys made it.

* **`Toml.readDocument? s`** — the table that a document describes. -/

namespace SeriesBridge.Toml

/-! ## Keys -/

/-- Characters of a key without quotes. -/
def isBare (c : Char) : Bool := c.isAlphanum || c == '_' || c == '-'

/-- A key with or without quotes. -/
def readKey? (s : List Char) : Option (String × List Char) :=
  match s with
  | '"' :: r => (readBasic? r).map (fun (k, rest) => (String.ofList k, rest))
  | '\'' :: r => (readLiteral? r).map (fun (k, rest) => (String.ofList k, rest))
  | s =>
      let k := s.takeWhile isBare
      if k.isEmpty then none else some (String.ofList k, s.dropWhile isBare)

/-- How many keys a path may have, and how many arrays and tables a value may lie in. -/
def deepest : Nat := 79

/-- **Keys with dots between them,** at most `n`: those before the last one, and the last one. -/
def readPath? : Nat → List Char → Option ((List String × String) × List Char)
  | 0, _ => none
  | n + 1, s => do
      let (key, s) ← readKey? (skipSpace s)
      match skipSpace s with
      | '.' :: s =>
          let ((front, last), s) ← readPath? n s
          some ((key :: front, last), s)
      | s => some (([], key), s)

/-! ## Nodes -/

/-- How a table came about. -/
inductive Origin where
  /-- A header names it, or it is written out in braces. -/
  | stated
  /-- A header names a table within it. -/
  | implied
  /-- A dotted key leads through it. -/
  | dotted
  deriving DecidableEq, Repr

/-- **A table or a value under construction.** -/
inductive Node where
  | value (v : Toml)
  | table (origin : Origin) (members : List (String × Node))
  /-- The tables of one header in double brackets, the last one first. -/
  | tables (items : List (List (String × Node)))
  deriving Repr, Inhabited

/-- The node under a key. -/
def member? (key : String) : List (String × Node) → Option Node
  | [] => none
  | (k, v) :: rest => if k == key then some v else member? key rest

/-- Set the node under a key. -/
def setMember (key : String) (v : Node) : List (String × Node) → List (String × Node)
  | [] => [(key, v)]
  | (k, w) :: rest => if k == key then (k, v) :: rest else (k, w) :: setMember key v rest

/-- Remove the node under a key. -/
def dropMember (key : String) (members : List (String × Node)) : List (String × Node) :=
  members.filter (fun m => m.1 != key)

/-- **Change the table at a path.** Tables that are missing on the way are made, by a header or by
dotted keys. Dotted keys do not lead through tables that were stated; nothing leads through values.
The change is told how the table came about. -/
def changeAt (viaDots : Bool)
    (change : Origin → List (String × Node) → Option (List (String × Node))) :
    List String → Origin → List (String × Node) → Option (List (String × Node))
  | [], origin, members => change origin members
  | key :: path, _, members =>
      match member? key members with
      | none => do
          let origin : Origin := if viaDots then .dotted else .implied
          let inner ← changeAt viaDots change path origin []
          some (setMember key (.table origin inner) members)
      | some (.table origin inner) =>
          if viaDots && origin == .stated then none
          else do
            -- Going through a table does not change how it came about.
            let inner ← changeAt viaDots change path origin inner
            some (setMember key (.table origin inner) members)
      | some (.tables (last :: before)) => do
          let last ← changeAt viaDots change path .stated last
          some (setMember key (.tables (last :: before)) members)
      | some (.tables []) | some (.value _) => none

/-- **Set a value.** A key is set once; a dotted key sets in tables that dotted keys made, any other
key in tables that they did not make. -/
def setValue (path : List String) (key : String) (v : Node) (origin : Origin)
    (members : List (String × Node)) : Option (List (String × Node)) :=
  changeAt true
    (fun origin inner =>
      if (origin == .dotted) == path.isEmpty then none
      else if (member? key inner).isSome then none
      else some (inner ++ [(key, v)]))
    path origin members

mutual

/-- A finished node as a value. -/
def Node.toValue : Node → Toml
  | .value v => v
  | .table _ members => .table (membersToValues members)
  | .tables items => .array (tablesToValues items [])

/-- The members of a finished table. -/
def membersToValues : List (String × Node) → List (String × Toml)
  | [] => []
  | (k, n) :: rest => (k, n.toValue) :: membersToValues rest

/-- Finished tables, turned into the order of the document. -/
def tablesToValues : List (List (String × Node)) → List Toml → List Toml
  | [], done => done
  | members :: rest, done => tablesToValues rest (.table (membersToValues members) :: done)

end

/-! ## Values -/

/-- The text after a comment, if there is one. -/
def skipComment? : List Char → Option (List Char)
  | '#' :: s =>
      match s.dropWhile isPlain with
      | [] => some []
      | rest => if (skipBreak? rest).isSome then some rest else none
  | s => some s

/-- The text after spaces, comments and line breaks. The first argument bounds the work. -/
def skipLines? : Nat → List Char → Option (List Char)
  | 0, _ => none
  | n + 1, s => do
      let s ← skipComment? (skipSpace s)
      match skipBreak? s with
      | some s => skipLines? n s
      | none => some s

mutual

/-- **The value that a text starts with,** within at most `levels` more arrays and tables. The first
argument bounds the work: three times the length of the text is enough. -/
def readValue? : Nat → Nat → List Char → Option (Toml × List Char)
  | 0, _, _ => none
  | n + 1, levels, s =>
      match s with
      | [] => none
      | '[' :: s =>
          if levels = 0 then none
          else (readItems? n (levels - 1) s).map (fun (items, s) => (.array items, s))
      | '\x7b' :: s =>
          if levels = 0 then none
          else
            match skipSpace s with
            | '\x7d' :: s => some (.table [], s)
            | s =>
                (readMembers? n (levels - 1) [] s).map
                  (fun (members, s) => (.table (membersToValues members), s))
      | c :: s =>
          if c == '"' || c == '\'' then
            (readText? (c :: s)).map (fun (t, s) => (.text (String.ofList t), s))
          else if c == 't' then (skipWord? "true" (c :: s)).map (fun s => (.boolean true, s))
          else if c == 'f' then (skipWord? "false" (c :: s)).map (fun s => (.boolean false, s))
          else (readTime? (c :: s)).or (readNumber? (c :: s))

/-- The items of an array, up to its closing bracket. -/
def readItems? : Nat → Nat → List Char → Option (List Toml × List Char)
  | 0, _, _ => none
  | n + 1, levels, s => do
      match ← skipLines? (s.length + 1) s with
      | ']' :: s => some ([], s)
      | s =>
          let (v, s) ← readValue? n levels s
          match ← skipLines? (s.length + 1) s with
          | ',' :: s =>
              let (vs, s) ← readItems? n levels s
              some (v :: vs, s)
          | ']' :: s => some ([v], s)
          | _ => none

/-- The members of a table in braces, up to its closing brace. -/
def readMembers? : Nat → Nat → List (String × Node) → List Char →
    Option (List (String × Node) × List Char)
  | 0, _, _, _ => none
  | n + 1, levels, members, s => do
      let ((path, key), s) ← readPath? deepest s
      let s ← skipChar? '=' s
      let (v, s) ← readValue? n levels (skipSpace s)
      let members ← setValue path key (.value v) .stated members
      match skipSpace s with
      | ',' :: s => readMembers? n levels members s
      | '\x7d' :: s => some (members, s)
      | _ => none

end

/-! ## Lines -/

/-- The table that lines add to. -/
inductive Open where
  | root
  | table (path : List String) (key : String) (origin : Origin)
  | item (path : List String) (key : String)
  deriving Repr

/-- **A document in the middle of its lines.** The members of the open table are kept apart until
the next header. -/
structure State where
  root : List (String × Node) := []
  opened : Open := .root
  members : List (String × Node) := []
  deriving Repr

/-- Put the open table where it belongs. -/
def State.close? (st : State) : Option (List (String × Node)) :=
  match st.opened with
  | .root => some st.members
  | .table path key _ =>
      changeAt false (fun _ inner => some (setMember key (.table .stated st.members) inner))
        path .stated st.root
  | .item path key =>
      changeAt false
        (fun _ inner =>
          match member? key inner with
          | some (.tables items) => some (setMember key (.tables (st.members :: items)) inner)
          | some _ => none
          | none => some (setMember key (.tables [st.members]) inner))
        path .stated st.root

/-- The node at a path and key, with the tables on the way made. -/
def nodeAt? (path : List String) (key : String) (root : List (String × Node)) :
    Option (Option Node) :=
  match path with
  | [] => some (member? key root)
  | k :: path =>
      match member? k root with
      | none => some none
      | some (.table _ inner) => nodeAt? path key inner
      | some (.tables (last :: _)) => nodeAt? path key last
      | some (.tables []) | some (.value _) => none

/-- **Open the table of a header.** A table is opened once; one that was only implied keeps what it
holds. -/
def State.openTable? (st : State) (path : List String) (key : String) : Option State := do
  let root ← st.close?
  match ← nodeAt? path key root with
  | none => some { root, opened := .table path key .stated, members := [] }
  | some (.table .implied inner) =>
      -- What the table holds moves into the open one until the next header.
      let root ← changeAt false (fun _ inner => some (dropMember key inner)) path .stated root
      some { root, opened := .table path key .stated, members := inner }
  | some _ => none

/-- **Open the next table of a header in double brackets.** -/
def State.openItem? (st : State) (path : List String) (key : String) : Option State := do
  let root ← st.close?
  match ← nodeAt? path key root with
  | none | some (.tables _) => some { root, opened := .item path key, members := [] }
  | some _ => none

/-- The text after the end of a line: spaces, a comment, and a line break unless the text ends. -/
def skipLineEnd? (s : List Char) : Option (List Char) := do
  match ← skipComment? (skipSpace s) with
  | [] => some []
  | s => skipBreak? s

/-- One line that is not empty. -/
def readLine? (st : State) (s : List Char) : Option (State × List Char) :=
  match s with
  | '[' :: '[' :: s => do
      let ((path, key), s) ← readPath? deepest s
      let s ← skipWord? "]]" s
      let s ← skipLineEnd? s
      some (← st.openItem? path key, s)
  | '[' :: s => do
      let ((path, key), s) ← readPath? deepest s
      let s ← skipChar? ']' s
      let s ← skipLineEnd? s
      some (← st.openTable? path key, s)
  | s => do
      let ((path, key), s) ← readPath? deepest s
      let s ← skipChar? '=' s
      let s := skipSpace s
      let (v, s) ← readValue? (3 * s.length + 3) deepest s
      let s ← skipLineEnd? s
      let members ← setValue path key (.value v) .stated st.members
      some ({ st with members }, s)

/-- All lines; the first argument bounds their number. -/
def readLines? : Nat → State → List Char → Option State
  | 0, _, _ => none
  | n + 1, st, s => do
      match ← skipLines? (s.length + 1) s with
      | [] => some st
      | s =>
          let (st, s) ← readLine? st s
          readLines? n st s

/-- **The table of a document.** A mark of the byte order at its start does not count. -/
def readDocument? (s : List Char) : Option Toml := do
  let s := match s with
    | '\uFEFF' :: s => s
    | s => s
  let st ← readLines? (s.length + 1) {} s
  let root ← st.close?
  some (.table (membersToValues root))

end SeriesBridge.Toml
