/-!
# Commands

What a program asks for after an update: nothing, a message to itself, the end of the session, a
task whose result comes later as a message, or several of these.
-/

namespace Showcase

/-- Work outside of the program that takes a while and then yields a message. -/
structure Task (Msg : Type) where
  delay : Nat
  message : Msg
  deriving DecidableEq

inductive Command (Msg : Type) where
  | none
  | message (message : Msg)
  | quit
  | task (task : Task Msg)
  | several (commands : List (Command Msg))
  deriving Inhabited

/-- What a command comes down to. -/
inductive Leaf (Msg : Type) where
  | message (message : Msg)
  | quit
  | task (task : Task Msg)
  deriving DecidableEq

def Task.map {Msg Out : Type} (f : Msg → Out) (task : Task Msg) : Task Out :=
  { delay := task.delay, message := f task.message }

def Leaf.map {Msg Out : Type} (f : Msg → Out) : Leaf Msg → Leaf Out
  | message content => message (f content)
  | quit => quit
  | task content => task (content.map f)

namespace Command

variable {Msg Out : Type}

def isNone : Command Msg → Bool
  | none => true
  | _ => false

/-- Several commands as one; those that ask for nothing are dropped. -/
def batch (commands : List (Command Msg)) : Command Msg :=
  match commands.filter fun command => !command.isNone with
  | [] => none
  | [single] => single
  | many => several many

mutual

/-- Changes the messages of a command, those of its tasks included. -/
def map (f : Msg → Out) : Command Msg → Command Out
  | none => none
  | message content => message (f content)
  | quit => quit
  | task content => task (content.map f)
  | several commands => several (mapAll f commands)

def mapAll (f : Msg → Out) : List (Command Msg) → List (Command Out)
  | [] => []
  | command :: rest => command.map f :: mapAll f rest

end

mutual

/-- The leaves of a command, from left to right. -/
def flatten : Command Msg → List (Leaf Msg)
  | none => []
  | message content => [.message content]
  | quit => [.quit]
  | task content => [.task content]
  | several commands => flattenAll commands

def flattenAll : List (Command Msg) → List (Leaf Msg)
  | [] => []
  | command :: rest => command.flatten ++ flattenAll rest

end

end Command

end Showcase
