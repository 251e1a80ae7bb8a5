import Showcase.Toml.Quoted
import Showcase.Toml.Scalar

/-!
# Values of a settings file

A value is a text, a number, a truth value, a list of values or a table. A table remembers how it
came about, since that decides who may still add to it.
-/

namespace Showcase.Toml

/-- How a table came about. -/
inductive Standing where
  /-- It has a heading of its own. -/
  | headed
  /-- It contains a table with a heading. -/
  | implied
  /-- It is part of a key with dots. -/
  | dotted
  /-- It is written between braces. -/
  | inline
  deriving DecidableEq

inductive Value where
  | text (value : String)
  | scalar (value : Scalar)
  | truth (value : Bool)
  | list (items : List Value)
  | table (standing : Standing) (entries : List (String × Value))
  /-- Tables with the same heading. -/
  | tables (items : List (List (String × Value)))
  deriving Inhabited

abbrev Entries := List (String × Value)

namespace Entries

/-- Changes the value of a key; a new key comes last. -/
def set (entries : Entries) (key : String) (value : Value) : Entries :=
  if entries.any (·.1 == key) then
    entries.map fun entry => if entry.1 == key then (key, value) else entry
  else entries ++ [(key, value)]

/-- Makes a change in the table that a path leads to. Tables on the way that are missing come about
as `fresh`. A key with dots leads only into tables without a heading or braces; a heading leads into
the last of several tables with the same heading. -/
def within (fresh : Standing) (change : Standing → Entries → Option Entries) :
    List String → Standing → Entries → Option Entries
  | [], standing, entries => change standing entries
  | key :: path, _, entries =>
      match entries.lookup key with
      | none => do
          let inner ← within fresh change path fresh []
          some (entries.set key (.table fresh inner))
      | some (.table standing inner) => do
          if standing = .inline || (fresh = .dotted && standing = .headed) then none
          let inner ← within fresh change path standing inner
          some (entries.set key (.table standing inner))
      | some (.tables items) => do
          let last ← items.getLast?
          let last ← within fresh change path .headed last
          some (entries.set key (.tables (items.dropLast ++ [last])))
      | some _ => none

/-- Adds a value under a key with dots. The key must be new, and a table with a heading takes
values only from the lines under that heading. -/
def add (path : List String) (key : String) (value : Value) (standing : Standing)
    (entries : Entries) : Option Entries :=
  within .dotted (fun standing entries =>
    if (standing == .dotted) == path.isEmpty || (entries.lookup key).isSome then none
    else some (entries.set key value)) path standing entries

end Entries

def isBareKeyChar (c : Char) : Bool := c.isAlphanum || c == '-' || c == '_'

/-- Reads a key without dots. -/
def readName (text : List Char) : Option (String × List Char) :=
  match text with
  | '"' :: rest => readLine '"' rest
  | '\'' :: rest => readLine '\'' rest
  | text =>
      match text.takeWhile isBareKeyChar with
      | [] => none
      | name => some (String.ofList name, text.dropWhile isBareKeyChar)

/-- How deep values may be nested, and how many names a key may have. -/
def depthLimit : Nat := 80

/-- Reads a key: names with dots between them, at most as many as the length of the text. -/
def readNames : Nat → List Char → Option (List String × List Char)
  | 0, _ => none
  | fuel + 1, text => do
      let (name, rest) ← readName (skipBlanks text)
      match skipBlanks rest with
      | '.' :: rest => do
          let (names, rest) ← readNames fuel rest
          some (name :: names, rest)
      | rest => some ([name], rest)

/-- Reads a key; gives its path and its last name. -/
def readKey (text : List Char) : Option ((List String × String) × List Char) := do
  let (names, rest) ← readNames (text.length + 1) text
  if depthLimit ≤ names.length then none
  let last ← names.getLast?
  some ((names.dropLast, last), rest)

mutual

/-- Reads a value that is nested at most so deep. -/
def readValue : Nat → Nat → List Char → Option (Value × List Char)
  | 0, _, _ => none
  | fuel + 1, depth, text =>
      match text with
      | '[' :: rest => if depth = 0 then none else readItems fuel (depth - 1) [] rest
      | '{' :: rest =>
          if depth = 0 then none
          else match skipBlanks rest with
            | '}' :: rest => some (.table .inline [], rest)
            | rest => readEntries fuel (depth - 1) [] rest
      | 't' :: 'r' :: 'u' :: 'e' :: rest => some (.truth true, rest)
      | 'f' :: 'a' :: 'l' :: 's' :: 'e' :: rest => some (.truth false, rest)
      | text =>
          match quoted? text with
          | some (value, rest) => some (.text value, rest)
          | none => (scalar? text).map fun (value, rest) => (.scalar value, rest)

/-- Reads the items of a list, with commas between them and perhaps one at the end. -/
def readItems : Nat → Nat → List Value → List Char → Option (Value × List Char)
  | 0, _, _, _ => none
  | fuel + 1, depth, items, text => do
      match ← skipGap false text with
      | ']' :: rest => some (.list items, rest)
      | text => do
          let (value, rest) ← readValue fuel depth text
          let items := items ++ [value]
          match ← skipGap false rest with
          | ',' :: rest => readItems fuel depth items rest
          | ']' :: rest => some (.list items, rest)
          | _ => none

/-- Reads the entries of a table between braces, with commas between them. -/
def readEntries : Nat → Nat → Entries → List Char → Option (Value × List Char)
  | 0, _, _, _ => none
  | fuel + 1, depth, entries, text => do
      let ((path, key), rest) ← readKey text
      let rest ← expect? '=' rest
      let (value, rest) ← readValue fuel depth (skipBlanks rest)
      let entries ← Entries.add path key value .inline entries
      match skipBlanks rest with
      | ',' :: rest => readEntries fuel depth entries rest
      | '}' :: rest => some (.table .inline entries, rest)
      | _ => none

end

end Showcase.Toml
