import Showcase.Toml.Value

/-!
# Settings files

A settings file is a list of lines. A line gives a key its value, or is a heading: the lines after
it belong to the table that it names, or to one more table of a list of them.
-/

namespace Showcase.Toml

/-- A line of a settings file. -/
inductive Line where
  | entry (path : List String) (key : String) (value : Value)
  | heading (path : List String) (key : String)
  /-- A heading of one more table of a list. -/
  | listHeading (path : List String) (key : String)

/-- Reads a heading after its opening brackets. -/
def readHeading (text : List Char) : Option (Line × List Char) :=
  match text with
  | '[' :: rest => do
      let ((path, key), rest) ← readKey rest
      let rest ← expect? ']' (← expect? ']' rest)
      some (.listHeading path key, ← lineEnd? rest)
  | rest => do
      let ((path, key), rest) ← readKey rest
      some (.heading path key, ← lineEnd? (← expect? ']' rest))

def readEntry (text : List Char) : Option (Line × List Char) := do
  let ((path, key), rest) ← readKey text
  let rest ← expect? '=' rest
  let (value, rest) ← readValue (text.length + 1) (depthLimit - 1) (skipBlanks rest)
  some (.entry path key value, ← lineEnd? rest)

/-- Reads the lines of a file, at most as many as its length. -/
def readDocument : Nat → List Char → Option (List Line)
  | 0, _ => none
  | fuel + 1, text =>
      match skipBlanks text with
      | [] => some []
      | '[' :: rest => do
          let (line, rest) ← readHeading rest
          return line :: (← readDocument fuel rest)
      | c :: rest =>
          if c == '#' || c == '\n' || c == '\r' then do
            readDocument fuel (← lineEnd? (c :: rest))
          else do
            let (line, rest) ← readEntry (c :: rest)
            return line :: (← readDocument fuel rest)

/-- The tables of a file while its lines are gone through: the table under the last heading is kept
apart until the next one. -/
structure Draft where
  /-- All tables but the one that is open. -/
  closed : Entries := []
  /-- Where the open table belongs, and whether it is one of a list. -/
  place : Option (List String × String × Bool) := none
  /-- The entries of the open table. -/
  entries : Entries := []

namespace Draft

/-- Puts the open table in its place. -/
def close (draft : Draft) : Option Entries :=
  match draft.place with
  | none => some draft.entries
  | some (path, key, false) =>
      Entries.within .implied (fun _ entries =>
        some (entries.set key (.table .headed draft.entries))) path .headed draft.closed
  | some (path, key, true) =>
      Entries.within .implied (fun _ entries =>
        match entries.lookup key with
        | none => some (entries.set key (.tables [draft.entries]))
        | some (.tables items) => some (entries.set key (.tables (items ++ [draft.entries])))
        | some _ => none) path .headed draft.closed

/-- The entries that a heading takes over from a table which so far is only implied by the headings
of tables in it; every other table with that heading is an error. -/
def taken? (path : List String) (key : String) (closed : Entries) : Option Entries :=
  match path with
  | [] =>
      match closed.lookup key with
      | none => some []
      | some (.table .implied entries) => some entries
      | some _ => none
  | name :: path =>
      match closed.lookup name with
      | none => some []
      | some (.table .inline _) => none
      | some (.table _ entries) => taken? path key entries
      | some (.tables items) => taken? path key (items.getLast?.getD [])
      | some _ => none

def step (draft : Draft) : Line → Option Draft
  | .entry path key value => do
      let entries ← Entries.add path key value .headed draft.entries
      return { draft with entries }
  | .heading path key => do
      let closed ← draft.close
      let entries ← taken? path key closed
      return { closed, place := some (path, key, false), entries }
  | .listHeading path key => do
      let closed ← draft.close
      return { closed, place := some (path, key, true), entries := [] }

end Draft

/-- The tables of a file. A mark of the order of bytes at its start is left out. -/
def parse? (text : String) : Option Entries := do
  let text := match text.toList with
    | '\uFEFF' :: rest => rest
    | text => text
  let lines ← readDocument (text.length + 1) text
  (← lines.foldlM Draft.step {}).close

end Showcase.Toml
