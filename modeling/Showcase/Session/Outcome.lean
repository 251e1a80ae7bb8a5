import Showcase.Model

/-!
# Outcomes of an event

An event of the connection leads to an update, whose command may lead to further ones. Messages are
followed at once, left to right and depth first, each one link deeper than the update that sent it,
and tasks are left for later. A chain of follow-ups has at most `maxDepth` links.
-/

namespace Showcase

/-- How many follow-ups in a row an event may cause. -/
def maxDepth : Nat := 2

/-- What became of a program after an event, and what is left to do. -/
structure Outcome (State Msg : Type) where
  state : State
  /-- Tasks to run, each with the depth of the update that asked for it. -/
  pending : List (Nat × Task Msg) := []
  quit : Bool := false
  /-- The updates that were made, each with its depth. -/
  updates : List (Nat × Msg) := []
  /-- The messages that were too deep, each with its depth. -/
  dropped : List (Nat × Msg) := []

variable {Flags State Msg : Type}

namespace Command

mutual

/-- Goes through a command that was returned at some depth; a message is given to `follow`. -/
def walk (follow : Msg → Outcome State Msg → Outcome State Msg) (depth : Nat) :
    Command Msg → Outcome State Msg → Outcome State Msg
  | none, outcome => outcome
  | message content, outcome => follow content outcome
  | quit, outcome => { outcome with quit := true }
  | task content, outcome => { outcome with pending := outcome.pending ++ [(depth, content)] }
  | several commands, outcome => walkAll follow depth commands outcome

def walkAll (follow : Msg → Outcome State Msg → Outcome State Msg) (depth : Nat) :
    List (Command Msg) → Outcome State Msg → Outcome State Msg
  | [], outcome => outcome
  | command :: rest, outcome => walkAll follow depth rest (command.walk follow depth outcome)

end

end Command

namespace Model

/-- Carries out a command that was returned at some depth. -/
def resolve (model : Model Flags State Msg) (depth : Nat) (command : Command Msg)
    (outcome : Outcome State Msg) : Outcome State Msg :=
  command.walk (fun message outcome =>
    if depth < maxDepth then
      let (state, next) := model.update outcome.state message
      let updates := outcome.updates ++ [(depth + 1, message)]
      model.resolve (depth + 1) next { outcome with state, updates }
    else { outcome with dropped := outcome.dropped ++ [(depth + 1, message)] }) depth outcome
termination_by maxDepth - depth

/-- Updates a program and carries out what it asks for. -/
def dispatch (model : Model Flags State Msg) (state : State) (depth : Nat) (message : Msg) :
    Outcome State Msg :=
  let (state, command) := model.update state message
  model.resolve depth command { state, updates := [(depth, message)] }

/-- Starts a program and carries out what it asks for. -/
def begin (model : Model Flags State Msg) (flags : Flags) (geometry : Geometry) :
    Outcome State Msg :=
  let (state, command) := model.init flags geometry
  model.resolve 0 command { state }

/-- Gives a program a new geometry and carries out what it asks for. -/
def adapt (model : Model Flags State Msg) (state : State) (geometry : Geometry) :
    Outcome State Msg :=
  let (state, command) := model.resize state geometry
  model.resolve 0 command { state }

/-- Brings a task's message, unless it is too deep. -/
def followUp (model : Model Flags State Msg) (state : State) (depth : Nat) (message : Msg) :
    Outcome State Msg :=
  if depth < maxDepth then model.dispatch state (depth + 1) message
  else { state, dropped := [(depth + 1, message)] }

end Model

end Showcase
