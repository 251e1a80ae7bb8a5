import Showcase.Session.Client
import Showcase.Session.Step

/-!
# Running a session in virtual time
-/

namespace Showcase.Session

variable {Flags State Msg : Type}

/-- What can be asked of a session. -/
inductive Request where
  | start (connection : Nat)
  /-- To handle what the client sends until it stops. -/
  | run
  /-- To start, to run, and to wait for the loops. -/
  | serve (connection : Nat)
  | input (key : Key)
  | resize (geometry : Geometry)
  /-- To draw a number of frames. -/
  | render (times : Nat)
  | shutdown
  /-- To wait for the loops, perhaps for a limited time. -/
  | join (limit : Option Nat)

def Request.jobs : Request → List (Job Msg)
  | start connection => [.start connection, .report]
  | run => [.run, .report]
  | serve connection => [.start connection, .run, .join none, .report]
  | input key => [.input key]
  | resize geometry => [.resize geometry]
  | render times => List.replicate times .render
  | shutdown => [.shutdown]
  | join limit => [.join limit, .report]

/-- Asks something in a task of its own. -/
def ask (session : Session Flags State Msg) (request : Request) : Session Flags State Msg :=
  session.spawn request.jobs

/-- The next deadline still to come. -/
def deadline? (session : Session Flags State Msg) : Option Nat :=
  ((session.workers.filterMap fun worker => worker.wait.deadline?).filter
    (session.now < ·)).min?

/-- Lets time pass; workers whose deadline comes are woken in the order in which they began to
wait. -/
def elapse (session : Session Flags State Msg) (time : Nat) : Session Flags State Msg :=
  let due := session.waiters fun wait =>
    wait.deadline?.any fun deadline => session.now < deadline && deadline ≤ time
  let later := { session with now := time }
  later.wake due

/-- The worker that makes calls to the session from outside. -/
def caller : TaskId := 0

/-- How a session is scheduled. A worker whose time comes as the session ends does nothing more. -/
def schedule (model : Model Flags State Msg) : Schedule (Session Flags State Msg) where
  advance := advance model false
  ready := Session.ready
  withReady session ready := { session with ready }
  deadline? := deadline?
  now := Session.now
  elapse := elapse

/-- Asks something and waits until it is done and all workers wait, but not beyond a point in time
and for at most a number of turns. -/
def call (model : Model Flags State Msg) (turns : Nat) (limit : Nat) (request : Request)
    (session : Session Flags State Msg) : Session Flags State Msg :=
  let schedule := schedule model
  let begun := schedule.favour turns (session.employ caller request.jobs) caller
  schedule.runUntil turns (fun session => !session.isAlive caller) limit caller turns begun

/-- Lets time pass and all that is due happen, for at most a number of turns. -/
def wait (model : Model Flags State Msg) (turns : Nat) (time : Nat)
    (session : Session Flags State Msg) : Session Flags State Msg :=
  (schedule model).runUntil turns (fun _ => false) (session.now + time) caller turns session

/-- What the last call of a worker came to. -/
def verdict? (session : Session Flags State Msg) (id : TaskId) : Option Verdict :=
  session.history.findSome? fun
    | .reported other verdict => if other == id then some verdict else none
    | _ => none

end Showcase.Session
