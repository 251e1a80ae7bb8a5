import Showcase.Model
import Showcase.Screen.Paragraph

/-!
# Scripted programs

A program that follows a script: for each message, and for the start and a new geometry, the script
says what to ask for. The program keeps a log of what happened and shows its end on the screen.
-/

namespace Showcase

open Showcase.Screen (Buffer)
open Showcase.Text (Line)

structure Script where
  start : Command String := .none
  resized : Command String := .none
  replies : List (String × Command String) := []
  blank : Bool := false

structure Scripted where
  script : Script
  log : List String
  geometry : Geometry

namespace Scripted

/-- The lines of a text; a line ends with a line feed, perhaps after a carriage return. -/
def splitLines : List Char → List Char → List String
  | taken, [] => if taken.isEmpty then [] else [String.ofList taken.reverse]
  | taken, '\n' :: rest =>
      let taken := match taken with
        | '\r' :: earlier => earlier
        | other => other
      String.ofList taken.reverse :: splitLines [] rest
  | taken, c :: rest => splitLines (c :: taken) rest

def reply (script : Script) (message : String) : Command String :=
  (script.replies.lookup message).getD .none

def note (state : Scripted) (entry : String) : Scripted :=
  { state with log := state.log ++ [entry] }

/-- The length of the log, its last entry, and the geometry. -/
def status (state : Scripted) : String :=
  toString state.log.length ++ " " ++ state.log.getLast?.getD "" ++ " @" ++ state.geometry.text

def draw (state : Scripted) (buffer : Buffer) : Buffer :=
  if state.script.blank then buffer
  else buffer.drawLines buffer.area ((splitLines [] state.status.toList).map Line.raw)

/-- The program that a script describes; its messages are names. -/
def model : Model Script Scripted String where
  init script geometry :=
    ({ script, log := ["init " ++ geometry.text], geometry }, script.start)
  ofKey := Key.name
  update state message := (state.note message, reply state.script message)
  resize state geometry :=
    ({ state with geometry }.note ("resize " ++ geometry.text), state.script.resized)
  draw := draw

end Scripted

end Showcase
