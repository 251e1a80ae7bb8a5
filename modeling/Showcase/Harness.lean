import Showcase.Model

/-!
# Running a program without a session

The messages that a program sends to itself wait until they are drained; its tasks are left out,
since nothing is there to run them.
-/

namespace Showcase

structure Harness (State Msg : Type) where
  state : State
  geometry : Geometry
  pending : List Msg := []
  quit : Bool := false

namespace Harness

variable {Flags State Msg : Type}

mutual

/-- Notes what a command asks for. -/
def collect (harness : Harness State Msg) : Command Msg → Harness State Msg
  | .none | .task _ => harness
  | .message message => { harness with pending := harness.pending ++ [message] }
  | .quit => { harness with quit := true }
  | .several commands => harness.collectAll commands

def collectAll (harness : Harness State Msg) : List (Command Msg) → Harness State Msg
  | [] => harness
  | command :: rest => (harness.collect command).collectAll rest

end

def start (model : Model Flags State Msg) (flags : Flags) (geometry : Geometry) :
    Harness State Msg :=
  let (state, command) := model.init flags geometry
  collect { state, geometry } command

def send (model : Model Flags State Msg) (harness : Harness State Msg) (message : Msg) :
    Harness State Msg :=
  let (state, command) := model.update harness.state message
  collect { harness with state } command

def press (model : Model Flags State Msg) (harness : Harness State Msg) (key : Key) :
    Harness State Msg :=
  harness.send model (model.ofKey key)

def resize (model : Model Flags State Msg) (harness : Harness State Msg) (geometry : Geometry) :
    Harness State Msg :=
  let (state, command) := model.resize harness.state geometry
  collect { harness with state, geometry } command

/-- Delivers the messages that wait, as one round. -/
def round (model : Model Flags State Msg) (harness : Harness State Msg) : Harness State Msg :=
  harness.pending.foldl (send model) { harness with pending := [] }

/-- Delivers messages round by round until none waits, for at most a number of rounds. A program
that always sends itself another message would never come to an end. -/
def drain (model : Model Flags State Msg) : Nat → Harness State Msg → Harness State Msg
  | 0, harness => harness
  | rounds + 1, harness =>
      if harness.pending.isEmpty then harness else drain model rounds (harness.round model)

def screen (model : Model Flags State Msg) (harness : Harness State Msg) : Screen.Buffer :=
  model.screen harness.state harness.geometry

def render (model : Model Flags State Msg) (harness : Harness State Msg) : String :=
  model.render harness.state harness.geometry

end Harness

end Showcase
