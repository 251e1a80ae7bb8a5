import Showcase.Input.Geometry
import Showcase.Input.Key
import Showcase.Json.Value

/-!
# Envelopes

A client sends keystrokes as raw frames and tells about its screen in an envelope, a structured
text with a kind and data. Only a resize envelope with an allowed size is a control message; every
other frame is raw input, whatever it holds.
-/

namespace Showcase

open Json (Value)

/-- A frame from the client. -/
inductive Inbound where
  | text (text : String)
  | binary (bytes : List UInt8)
  deriving DecidableEq

namespace Inbound

def bytes : Inbound → List UInt8
  | text content => content.toUTF8.toList
  | binary content => content

def size (frame : Inbound) : Nat := frame.bytes.length

end Inbound

inductive Control where
  | resize (geometry : Geometry)
  deriving DecidableEq

inductive Envelope where
  | control (message : Control)
  | other (kind : String)
  deriving DecidableEq

/-- What to do with a frame. -/
inductive Directive where
  | control (message : Control)
  | raw (bytes : List UInt8)
  deriving DecidableEq

namespace Envelope

/-- How many containers may stand one in the other, the envelope among them. -/
def nestingLimit : Nat := 127

def codesOf (name : String) : List Nat := name.toList.map Char.toNat

/-- The values of all members with a name, in order. -/
def membersNamed (name : String) (members : List (List Nat × Value)) : List Value :=
  members.filterMap fun member => if member.1 == codesOf name then some member.2 else none

/-- Whether a value may be the data of an envelope. -/
def isData (value : Value) : Bool := value.depth < nestingLimit && value.isSound

def text? : Value → Option String
  | .string codes => Json.textOf? codes
  | _ => none

/-- The kind and the data of an envelope: an object in which each appears at most once, or an array
that holds them in this order. The data may be left out. -/
def parts? : Value → Option (String × Value)
  | .object members =>
      if members.all fun member => isKey member.1 then
        match membersNamed "type" members, membersNamed "data" members with
        | [kind], [] => (text? kind).map fun kind => (kind, .null)
        | [kind], [data] => if isData data then (text? kind).map fun kind => (kind, data) else none
        | _, _ => none
      else none
  | .array [kind] => (text? kind).map fun kind => (kind, .null)
  | .array [kind, data] =>
      if isData data then (text? kind).map fun kind => (kind, data) else none
  | _ => none
where
  /-- Keys are text, also those of unknown members. -/
  isKey (codes : List Nat) : Bool := (Json.textOf? codes).isSome

def natural? : Value → Option Nat
  | .number (.natural value) => some value
  | _ => none

/-- The size in the data of a resize envelope; of members with one name the last one counts. -/
def size? : Value → Option Geometry
  | .object members => do
      let columns ← (membersNamed "cols" members).getLast?
      let rows ← (membersNamed "rows" members).getLast?
      Geometry.ofSize? (← natural? columns) (← natural? rows)
  | .array [columns, rows] => do Geometry.ofSize? (← natural? columns) (← natural? rows)
  | _ => none

def ofParts (kind : String) (data : Value) : Envelope :=
  if kind == "resize" then
    match size? data with
    | some geometry => .control (.resize geometry)
    | none => .other kind
  else .other kind

/-- Reads an envelope; a text that is none gives nothing. -/
def parse? (text : String) : Option Envelope := do
  let (kind, data) ← parts? (← Json.parse? text)
  return ofParts kind data

end Envelope

/-- Sorts a frame into control messages and raw input. -/
def Inbound.classify : Inbound → Directive
  | .text content =>
      match Envelope.parse? content with
      | some (.control message) => .control message
      | _ => .raw (Inbound.text content).bytes
  | .binary bytes => .raw bytes

end Showcase
