import Showcase.Model
import Showcase.Queue.Basic
import Showcase.Session.Link
import Showcase.Session.Lock
import Showcase.Session.Options
import Showcase.Session.Outcome
import Showcase.Session.Worker

/-!
# Sessions

A session runs one program for one client: its state, the queue of drawn frames, the connection,
the workers, and the history of what happened. The client's geometry belongs to the session.
-/

namespace Showcase

/-- What happened in a session, at the level of its promises. -/
inductive Event (State Msg : Type) where
  /-- The program was started. -/
  | began (geometry : Geometry)
  /-- A worker received a frame from the client. -/
  | received (id : TaskId) (frame : Inbound)
  /-- A worker gave a key to the program. -/
  | input (id : TaskId) (key : Key)
  /-- A worker gave a geometry to the program. -/
  | resized (id : TaskId) (geometry : Geometry)
  | updated (depth : Nat) (message : Msg)
  | dropped (depth : Nat) (message : Msg)
  /-- A frame was drawn. -/
  | drawn (frame : Frame) (geometry : Geometry) (state : State)
  /-- A frame's push came to an end. -/
  | pushed (frame : Frame) (outcome : Pushed)
  /-- The writer took a frame from the queue. -/
  | taken (frame : Frame)
  /-- A write began. -/
  | writing (frame : Frame)
  /-- A frame reached the client. -/
  | delivered (frame : Frame) (time : Nat)
  /-- A write failed. -/
  | failed (frame : Frame)
  | cancelled
  /-- A connection was closed. -/
  | closed (connection : Nat)
  | reported (id : TaskId) (verdict : Verdict)

structure Session (Flags State Msg : Type) where
  flags : Flags
  options : SessionOptions
  started : Bool := false
  state : Option State := none
  geometry : Geometry
  queue : Queue Frame
  cancelled : Bool := false
  /-- The connection to write to. -/
  connection : Option Nat := none
  /-- The lock on the connection. -/
  lock : Lock := {}
  /-- The loops that nobody has waited for yet. -/
  loops : List TaskId := []
  link : Link := {}
  workers : List (Worker Msg) := []
  /-- The workers that can go on, in order. -/
  ready : List TaskId := []
  now : Nat := 0
  nextId : TaskId := 1
  nextTicket : Nat := 0
  nextSerial : Nat := 0
  /-- What happened, the latest first. -/
  history : List (Event State Msg) := []

namespace Session

variable {Flags State Msg : Type}

/-- A session that has not started. -/
def idle (flags : Flags) (options : SessionOptions) : Session Flags State Msg :=
  { flags, options, geometry := options.geometry, queue := .ofCapacity options.queueCapacity }

/-- Adds to the history. -/
def note (session : Session Flags State Msg) (events : List (Event State Msg)) :
    Session Flags State Msg :=
  { session with history := events.reverse ++ session.history }

/-- What happened, in order. -/
def events (session : Session Flags State Msg) : List (Event State Msg) := session.history.reverse

/-- Puts workers on the ready list, unless they are on it. -/
def wake (session : Session Flags State Msg) (ids : List TaskId) : Session Flags State Msg :=
  { session with
    ready := ids.foldl (fun ready id => if ready.contains id then ready else ready ++ [id])
      session.ready }

def worker? (session : Session Flags State Msg) (id : TaskId) : Option (Worker Msg) :=
  session.workers.find? fun worker => worker.id == id

def isAlive (session : Session Flags State Msg) (id : TaskId) : Bool :=
  session.workers.any fun worker => worker.id == id

def setWorker (session : Session Flags State Msg) (worker : Worker Msg) :
    Session Flags State Msg :=
  { session with
    workers := session.workers.map fun other => if other.id == worker.id then worker else other }

/-- Gives jobs to a worker with a number of its own. -/
def employ (session : Session Flags State Msg) (id : TaskId) (jobs : List (Job Msg)) :
    Session Flags State Msg :=
  let worker : Worker Msg := { id, jobs }
  let larger := { session with workers := session.workers ++ [worker] }
  larger.wake [id]

/-- Gives jobs to a new worker. -/
def spawn (session : Session Flags State Msg) (jobs : List (Job Msg)) :
    Session Flags State Msg :=
  let employed := session.employ session.nextId jobs
  { employed with nextId := session.nextId + 1 }

/-- The worker waits. -/
def suspend (session : Session Flags State Msg) (worker : Worker Msg) (wait : Wait Msg) :
    Session Flags State Msg :=
  let later := { session with nextTicket := session.nextTicket + 1 }
  later.setWorker { worker with wait, ticket := session.nextTicket }

/-- The worker goes on with some jobs before its others. -/
def proceed (session : Session Flags State Msg) (worker : Worker Msg) (jobs : List (Job Msg)) :
    Session Flags State Msg :=
  session.setWorker { worker with wait := .nothing, jobs := jobs ++ worker.jobs }

/-- The worker's call failed: it does nothing more than to say so. -/
def fail (session : Session Flags State Msg) (worker : Worker Msg) (fault : SessionFault) :
    Session Flags State Msg :=
  session.setWorker { worker with jobs := [.report], verdict := .failure fault }

/-- The worker ends; those that wait for it wake up. -/
def retire (session : Session Flags State Msg) (worker : Worker Msg) : Session Flags State Msg :=
  let smaller :=
    { session with workers := session.workers.filter fun other => other.id != worker.id }
  smaller.wake ((smaller.workers.filter fun other =>
    match other.wait with
    | .others ids _ => ids.head? == some worker.id
    | _ => false).map Worker.id)

/-- Takes over a queue after an operation on it. -/
def setQueue (session : Session Flags State Msg) (change : Queue Frame × List TaskId) :
    Session Flags State Msg :=
  let changed := { session with queue := change.1 }
  changed.wake change.2

/-- Hands the lock on. -/
def release (session : Session Flags State Msg) : Session Flags State Msg :=
  let (lock, woken) := session.lock.release
  let released := { session with lock }
  released.wake woken

/-- The workers that wait for something, in the order in which they began to. -/
def waiters (session : Session Flags State Msg) (waits : Wait Msg → Bool) : List TaskId :=
  let chosen := session.workers.filter fun worker => waits worker.wait
  (chosen.mergeSort fun first second => first.ticket ≤ second.ticket).map Worker.id

/-- Marks the session as ended. -/
def cancel (session : Session Flags State Msg) : Session Flags State Msg :=
  if session.cancelled then session
  else
    let ended := { session with cancelled := true }
    (ended.note [.cancelled]).wake (session.waiters Wait.heedsEnd)

end Session

end Showcase
