import Showcase.Queue.Notify

/-!
# The frame queue

A bounded queue between producers and one consumer. A producer that finds the queue full waits for
room for a limited time; then the oldest frame makes way for its own. Every operation here is what
a task does between two points at which it may have to wait; it gives the tasks that wake up.
-/

namespace Showcase

/-- What became of a frame. -/
inductive Pushed where
  | queued
  | evicted
  | closed
  deriving DecidableEq

structure Queue (Frame : Type) where
  capacity : Nat
  frames : List Frame := []
  closed : Bool := false
  /-- Signalled when a frame comes in. -/
  readable : Notify := {}
  /-- Signalled when a frame goes out. -/
  writable : Notify := {}

namespace Queue

variable {Frame : Type}

/-- A queue holds at least one frame. -/
def ofCapacity (capacity : Nat) : Queue Frame := { capacity := max capacity 1 }

def isFull (queue : Queue Frame) : Bool := queue.capacity ≤ queue.frames.length

/-- Appends a frame and signals the consumer. -/
def store (queue : Queue Frame) (frame : Frame) : Queue Frame × List TaskId :=
  let (readable, woken) := queue.readable.one
  ({ queue with frames := queue.frames ++ [frame], readable }, woken)

/-- Stores a frame at once if the queue is open and has room; a closed queue discards it. -/
def tryPush (queue : Queue Frame) (frame : Frame) :
    Option (Pushed × Queue Frame × List TaskId) :=
  if queue.closed then some (.closed, queue, [])
  else if queue.isFull then none
  else some (.queued, queue.store frame)

/-- Stores a frame after its time has run out, in place of the oldest one if the queue is full. -/
def pushLate (queue : Queue Frame) (frame : Frame) : Pushed × Queue Frame × List TaskId :=
  if queue.closed then (.closed, queue, [])
  else if queue.isFull then
    (.evicted, { queue with frames := queue.frames.tail }.store frame)
  else (.queued, queue.store frame)

/-- A producer starts to wait for room. -/
def awaitRoom (queue : Queue Frame) (id : TaskId) : Queue Frame :=
  { queue with writable := queue.writable.listen id }

/-- A producer that was woken goes on. -/
def leaveRoom (queue : Queue Frame) (id : TaskId) : Queue Frame :=
  { queue with writable := queue.writable.resume id }

/-- A producer's time runs out while it waits. -/
def giveUpRoom (queue : Queue Frame) (id : TaskId) : Queue Frame × List TaskId :=
  let (writable, woken) := queue.writable.leave id
  ({ queue with writable }, woken)

/-- What a consumer finds. -/
inductive Popped (Frame : Type) where
  | frame (frame : Frame)
  | closed
  | nothing

/-- Takes the oldest frame and signals a producer. -/
def tryPop (queue : Queue Frame) : Popped Frame × Queue Frame × List TaskId :=
  if queue.closed then (.closed, queue, [])
  else match queue.frames with
    | [] => (.nothing, queue, [])
    | frame :: rest =>
        let (writable, woken) := queue.writable.one
        (.frame frame, { queue with frames := rest, writable }, woken)

def awaitFrame (queue : Queue Frame) (id : TaskId) : Queue Frame :=
  { queue with readable := queue.readable.listen id }

def leaveFrame (queue : Queue Frame) (id : TaskId) : Queue Frame :=
  { queue with readable := queue.readable.resume id }

/-- A consumer stops to wait without a frame. -/
def giveUpFrame (queue : Queue Frame) (id : TaskId) : Queue Frame × List TaskId :=
  let (readable, woken) := queue.readable.leave id
  ({ queue with readable }, woken)

/-- Closes the queue: its frames are discarded and everyone who waits is woken. -/
def close (queue : Queue Frame) : Queue Frame × List TaskId :=
  let (readable, wokenReader) := queue.readable.one
  let (writable, wokenWriters) := queue.writable.all
  ({ queue with
      frames := if queue.closed then queue.frames else []
      closed := true, readable, writable },
    wokenReader ++ wokenWriters)

end Queue

end Showcase
