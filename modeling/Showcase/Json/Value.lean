import Showcase.Json.Token

/-!
# Values

A value of structured text, with strings as written and members in order, repeated ones included.
The reader takes one token at a time and keeps the containers that are open in a list.
-/

namespace Showcase.Json

inductive Value where
  | null
  | bool (value : Bool)
  | number (value : Number)
  | string (codes : List Nat)
  | array (items : List Value)
  | object (members : List (List Nat × Value))
  deriving Inhabited

/-- A container that is open; what it holds so far is in reverse. -/
inductive Frame where
  | array (items : List Value)
  | object (members : List (List Nat × Value))
  | member (key : List Nat) (members : List (List Nat × Value))

/-- What the reader waits for. -/
inductive Expecting where
  | value
  | valueOrClose
  | key
  | keyOrClose
  | colon
  | separator
  deriving DecidableEq

inductive Reader where
  | reading (expecting : Expecting) (frames : List Frame)
  | finished (value : Value)

namespace Reader

/-- A complete value in the innermost open container. -/
def give (value : Value) : List Frame → Option Reader
  | [] => some (.finished value)
  | .array items :: frames => some (.reading .separator (.array (value :: items) :: frames))
  | .member key members :: frames =>
      some (.reading .separator (.object ((key, value) :: members) :: frames))
  | .object _ :: _ => none

def scalar? : Token → Option Value
  | .null => some .null
  | .bool value => some (.bool value)
  | .number value => some (.number value)
  | .string codes => some (.string codes)
  | _ => none

def takeValue (token : Token) (frames : List Frame) : Option Reader :=
  match token with
  | .openArray => some (.reading .valueOrClose (.array [] :: frames))
  | .openObject => some (.reading .keyOrClose (.object [] :: frames))
  | token => (scalar? token).bind fun value => give value frames

def takeKey (token : Token) (frames : List Frame) : Option Reader :=
  match token, frames with
  | .string codes, .object members :: frames =>
      some (.reading .colon (.member codes members :: frames))
  | _, _ => none

def takeClose (token : Token) (frames : List Frame) : Option Reader :=
  match token, frames with
  | .closeArray, .array items :: frames => give (.array items.reverse) frames
  | .closeObject, .object members :: frames => give (.object members.reverse) frames
  | _, _ => none

def step : Reader → Token → Option Reader
  | .finished _, _ => none
  | .reading .value frames, token => takeValue token frames
  | .reading .valueOrClose frames, token =>
      if token == .closeArray then takeClose token frames else takeValue token frames
  | .reading .key frames, token => takeKey token frames
  | .reading .keyOrClose frames, token =>
      if token == .closeObject then takeClose token frames else takeKey token frames
  | .reading .colon frames, token =>
      if token == .colon then some (.reading .value frames) else none
  | .reading .separator frames, token =>
      match token, frames with
      | .comma, .array _ :: _ => some (.reading .value frames)
      | .comma, .object _ :: _ => some (.reading .key frames)
      | token, frames => takeClose token frames

end Reader

/-- Reads a text that consists of one value. -/
def parse? (text : String) : Option Value := do
  let tokens ← tokens? text.toList
  match ← tokens.foldlM Reader.step (.reading .value []) with
  | .finished value => some value
  | .reading .. => none

namespace Value

mutual

/-- How many containers stand one in the other. -/
def depth : Value → Nat
  | .array items => depthItems items + 1
  | .object members => depthMembers members + 1
  | _ => 0

def depthItems : List Value → Nat
  | [] => 0
  | item :: rest => max item.depth (depthItems rest)

def depthMembers : List (List Nat × Value) → Nat
  | [] => 0
  | (_, value) :: rest => max value.depth (depthMembers rest)

end

mutual

/-- Whether all strings are text and all numbers stay finite. -/
def isSound : Value → Bool
  | .number value => value.fitsDouble
  | .string codes => (textOf? codes).isSome
  | .array items => areSound items
  | .object members => areSoundMembers members
  | .null | .bool _ => true

def areSound : List Value → Bool
  | [] => true
  | item :: rest => item.isSound && areSound rest

def areSoundMembers : List (List Nat × Value) → Bool
  | [] => true
  | (key, value) :: rest => (textOf? key).isSome && value.isSound && areSoundMembers rest

end

end Value

end Showcase.Json
