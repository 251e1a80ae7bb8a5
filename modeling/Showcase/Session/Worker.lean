import Showcase.Command
import Showcase.Input.Geometry
import Showcase.Input.Key
import Showcase.Schedule
import Showcase.Screen.Repaint
import Showcase.Session.Fault

/-!
# Workers of a session

A worker is a task with a list of jobs to do, one after the other. A job ends, or comes to a point
at which its task may have to wait; the worker then notes what it waits for and goes on from there.
What a task does between two such points may be several jobs: the reader receives a frame, does its
`.input` or `.resize` job, applies what the program asked for and draws, with nothing to wait for in
between. Each of these is a step of its own, and other workers may take theirs after any of them.
-/

namespace Showcase

open Screen (Repaint)

/-- A drawn frame. Frames are numbered in the order in which they are drawn. -/
structure Frame where
  serial : Nat
  repaint : Repaint
  deriving DecidableEq

/-- What the lock on the connection is needed for. -/
inductive Purpose where
  /-- To keep a new connection. -/
  | keep (connection : Nat)
  | write (frame : Frame)
  /-- To close the connection. -/
  | close

/-- What a call to a session came to. -/
inductive Verdict where
  | success
  | failure (fault : SessionFault)
  | timeout
  deriving DecidableEq

inductive Job (Msg : Type) where
  /-- Starts the program and the loops on a connection. -/
  | start (connection : Nat)
  /-- Starts the render loop and the writer loop. -/
  | openLoops
  | input (key : Key)
  | resize (geometry : Geometry)
  /-- Starts tasks, and ends the session if the program wants to quit. -/
  | apply (pending : List (Nat × Task Msg)) (quit : Bool)
  /-- Draws a frame and brings it to the queue. -/
  | render
  /-- Draws a frame later, in a task of its own. -/
  | renderLater (delay : Nat)
  /-- Waits for some time, does a job then, and nothing if the session ends first. -/
  | after (delay : Nat) (job : Job Msg)
  /-- Brings a task's message; the depth is that of the update that asked for the task. -/
  | followUp (depth : Nat) (message : Msg)
  | shutdown
  /-- Acquires the lock on the connection for a purpose. -/
  | lock (purpose : Purpose)
  /-- Runs the reader loop, then shuts the session down. -/
  | run
  /-- A round of the reader loop. -/
  | read
  /-- Starts the heartbeat of the render loop. -/
  | heartbeat
  /-- A round of the render loop; the next heartbeat is due at a time. -/
  | beat (due : Nat)
  /-- A round of the writer loop. -/
  | write
  /-- Waits for the loops to end, for a limited time if a limit is given. -/
  | join (limit : Option Nat)
  /-- Gives the verdict to whoever asked. -/
  | report

/-- What a worker waits for. -/
inductive Wait (Msg : Type) where
  /-- For nothing: it goes on with its jobs. -/
  | nothing
  /-- For room in the queue, until a deadline. -/
  | room (frame : Frame) (deadline : Nat)
  | lock (purpose : Purpose)
  /-- For a frame in the queue. -/
  | frame
  /-- For the client to take a frame. -/
  | delivery (frame : Frame)
  /-- For the client to send something, until a deadline. -/
  | inbound (deadline : Nat)
  /-- For the next heartbeat. -/
  | beat (due : Nat)
  /-- For a time at which to do a job. -/
  | time (due : Nat) (job : Job Msg)
  /-- For other workers to end, perhaps until a deadline. -/
  | others (ids : List TaskId) (deadline : Option Nat)

namespace Wait

variable {Msg : Type}

def deadline? : Wait Msg → Option Nat
  | nothing | lock _ | frame | delivery _ => none
  | room _ deadline => some deadline
  | inbound deadline => some deadline
  | beat due => some due
  | time due _ => some due
  | others _ deadline => deadline

/-- Whether the end of the session is waited for as well. -/
def heedsEnd : Wait Msg → Bool
  | frame | delivery _ | inbound _ | beat _ | time _ _ => true
  | nothing | room _ _ | lock _ | others _ _ => false

/-- Whether it is the reader's wait. -/
def isReading : Wait Msg → Bool
  | inbound _ => true
  | _ => false

/-- Whether it is the wait of a write that was held up. -/
def isWriting : Wait Msg → Bool
  | delivery _ => true
  | _ => false

end Wait

structure Worker (Msg : Type) where
  id : TaskId
  wait : Wait Msg := .nothing
  /-- Since when it waits, as a position in the order of all waits. -/
  ticket : Nat := 0
  jobs : List (Job Msg)
  verdict : Verdict := .success

end Showcase
