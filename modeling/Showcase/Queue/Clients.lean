import Showcase.Queue.Basic

/-!
# Clients of a queue

A world of tasks that share one queue. Each task has a list of calls to make, one after the other,
and waits where a call has to. `advance` is one step of a task, from one point at which it may wait
to the next one.
-/

namespace Showcase.Queue

variable {Frame : Type}

inductive Call (Frame : Type) where
  | push (frame : Frame)
  /-- Takes a frame, waiting for a limited time if a limit is given. -/
  | pop (limit : Option Nat)
  | close
  | sleep (time : Nat)

/-- What a call came to. -/
inductive Answer (Frame : Type) where
  | pushed (outcome : Pushed)
  | popped (frame : Option Frame)
  | timedOut
  | done

/-- Where a client stands. -/
inductive Wait (Frame : Type) where
  /-- About to make the next call. -/
  | idle
  /-- In a push that waits for room until a deadline. -/
  | room (frame : Frame) (deadline : Nat)
  /-- In a pop that waits for a frame, perhaps until a deadline. -/
  | frame (deadline : Option Nat)
  /-- Asleep until a deadline. -/
  | asleep (deadline : Nat)

structure Client (Frame : Type) where
  id : TaskId
  wait : Wait Frame := .idle
  /-- Since when it waits, as a position in the order of all waits. -/
  ticket : Nat := 0
  calls : List (Call Frame)
  answers : List (Answer Frame) := []

/-- The deadline that a client waits for. -/
def Client.deadline? (client : Client Frame) : Option Nat :=
  match client.wait with
  | .idle => none
  | .room _ deadline => some deadline
  | .frame deadline => deadline
  | .asleep deadline => some deadline

/-- What happened among clients. -/
inductive Happening (Frame : Type) where
  /-- A client began a push. -/
  | offered (id : TaskId) (frame : Frame)
  | stored (id : TaskId) (frame : Frame)
  /-- The oldest frame made way for that of a client. -/
  | evicted (id : TaskId) (frame : Frame)
  | popped (id : TaskId) (frame : Frame)
  | closed (id : TaskId)
  deriving DecidableEq

structure Clients (Frame : Type) where
  queue : Queue Frame
  /-- The time for which a push waits. -/
  patience : Nat
  now : Nat := 0
  clients : List (Client Frame) := []
  nextTicket : Nat := 0
  ready : List TaskId := []
  /-- What happened, the latest first. -/
  history : List (Happening Frame) := []

namespace Clients

def client? (world : Clients Frame) (id : TaskId) : Option (Client Frame) :=
  world.clients.find? fun client => client.id == id

def setClient (world : Clients Frame) (client : Client Frame) : Clients Frame :=
  { world with
    clients := world.clients.map fun other => if other.id == client.id then client else other }

/-- Puts tasks on the ready list, unless they are on it. -/
def wake (world : Clients Frame) (ids : List TaskId) : Clients Frame :=
  { world with
    ready := ids.foldl (fun ready id => if ready.contains id then ready else ready ++ [id])
      world.ready }

/-- Adds to the history. -/
def note (world : Clients Frame) (happenings : List (Happening Frame)) : Clients Frame :=
  { world with history := happenings.reverse ++ world.history }

/-- What happened, in order. -/
def happenings (world : Clients Frame) : List (Happening Frame) := world.history.reverse

def setQueue (world : Clients Frame) (change : Queue Frame × List TaskId) : Clients Frame :=
  let changed := { world with queue := change.1 }
  changed.wake change.2

/-- A new client with calls to make. -/
def spawn (world : Clients Frame) (id : TaskId) (calls : List (Call Frame)) : Clients Frame :=
  let client : Client Frame := { id, calls }
  let larger := { world with clients := world.clients ++ [client] }
  larger.wake [id]

/-- The client has its answer and makes no call. -/
def reply (world : Clients Frame) (client : Client Frame) (answer : Answer Frame) :
    Clients Frame :=
  world.setClient { client with wait := .idle, answers := client.answers ++ [answer] }

/-- The client waits. -/
def suspend (world : Clients Frame) (client : Client Frame) (wait : Wait Frame) : Clients Frame :=
  let later := { world with nextTicket := world.nextTicket + 1 }
  later.setClient { client with wait, ticket := world.nextTicket }

/-- What a push that came to an end did; the frames are those before it. -/
def pushHappenings (id : TaskId) (frame : Frame) (frames : List Frame) :
    Pushed → List (Happening Frame)
  | .queued => [.stored id frame]
  | .evicted => (frames.head?.map (Happening.evicted id)).toList ++ [.stored id frame]
  | .closed => []

/-- Ends a push. -/
def endPush (world : Clients Frame) (client : Client Frame) (frame : Frame)
    (result : Pushed × Queue Frame × List TaskId) : Clients Frame :=
  let (outcome, change) := result
  ((world.setQueue change).note (pushHappenings client.id frame world.queue.frames outcome)).reply
    client (.pushed outcome)

/-- Tries to store a frame, and waits for room otherwise. -/
def push (world : Clients Frame) (client : Client Frame) (frame : Frame) (deadline : Nat) :
    Clients Frame :=
  match world.queue.tryPush frame with
  | some result => world.endPush client frame result
  | none =>
      let waiting := { world with queue := world.queue.awaitRoom client.id }
      waiting.suspend client (.room frame deadline)

/-- Tries to take a frame, and waits for one otherwise. -/
def pop (world : Clients Frame) (client : Client Frame) (deadline : Option Nat) : Clients Frame :=
  match world.queue.tryPop with
  | (.frame frame, change) =>
      ((world.setQueue change).note [.popped client.id frame]).reply client (.popped (some frame))
  | (.closed, change) => (world.setQueue change).reply client (.popped none)
  | (.nothing, _) =>
      let waiting := { world with queue := world.queue.awaitFrame client.id }
      waiting.suspend client (.frame deadline)

def call (world : Clients Frame) (client : Client Frame) : Call Frame → Clients Frame
  | .push frame =>
      (world.note [.offered client.id frame]).push client frame (world.now + world.patience)
  | .pop limit => world.pop client (limit.map (world.now + ·))
  | .close =>
      ((world.setQueue world.queue.close).note [.closed client.id]).reply client .done
  | .sleep time => world.suspend client (.asleep (world.now + time))

/-- One step of a client, unless it has to wait or has no call left to make. -/
def advance (world : Clients Frame) (id : TaskId) : Option (Clients Frame) := do
  let client ← world.client? id
  match client.wait with
  | .idle =>
      match client.calls with
      | [] => none
      | next :: rest => some (world.call { client with calls := rest } next)
  | .room frame deadline =>
      if world.queue.writable.isWoken id then
        let resumed := { world with queue := world.queue.leaveRoom id }
        some (resumed.push client frame deadline)
      else if deadline ≤ world.now then
        let left := world.setQueue (world.queue.giveUpRoom id)
        some (left.endPush client frame (left.queue.pushLate frame))
      else none
  | .frame deadline =>
      if world.queue.readable.isWoken id then
        let resumed := { world with queue := world.queue.leaveFrame id }
        some (resumed.pop client deadline)
      else if deadline.any (· ≤ world.now) then
        some ((world.setQueue (world.queue.giveUpFrame id)).reply client .timedOut)
      else none
  | .asleep deadline =>
      if deadline ≤ world.now then some (world.reply client .done) else none

/-- The next deadline still to come. -/
def deadline? (world : Clients Frame) : Option Nat :=
  ((world.clients.filterMap Client.deadline?).filter (world.now < ·)).min?

/-- Lets time pass; tasks whose deadline comes are woken in the order in which they began to
wait. -/
def elapse (world : Clients Frame) (time : Nat) : Clients Frame :=
  let due := world.clients.filter fun client =>
    client.deadline?.any fun deadline => world.now < deadline && deadline ≤ time
  let ordered := due.mergeSort fun first second => first.ticket ≤ second.ticket
  let later := { world with now := time }
  later.wake (ordered.map Client.id)

def schedule : Schedule (Clients Frame) where
  advance := advance
  ready := Clients.ready
  withReady world ready := { world with ready }
  deadline? := deadline?
  now := Clients.now
  elapse := elapse

/-- Whether a client has made all its calls. -/
def isDone (world : Clients Frame) (id : TaskId) : Bool :=
  match world.client? id with
  | some client => client.calls.isEmpty && (client.wait matches .idle)
  | none => true

def answers (world : Clients Frame) (id : TaskId) : List (Answer Frame) :=
  ((world.client? id).map Client.answers).getD []

end Clients

end Showcase.Queue
