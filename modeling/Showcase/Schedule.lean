/-!
# Scheduling in virtual time

Tasks run one at a time, each until it has to wait, in the order in which they became ready. Time
stands still while a task is ready and then jumps to the next deadline. The task in the foreground
takes its turn when no other task is ready, and first after time has passed.
-/

namespace Showcase

abbrev TaskId := Nat

/-- What the scheduler needs to know about a world of tasks. -/
structure Schedule (World : Type) where
  /-- One step of a task, unless it has to wait. -/
  advance : World → TaskId → Option World
  /-- The tasks that became ready, in order. -/
  ready : World → List TaskId
  withReady : World → List TaskId → World
  /-- The next deadline that a task waits for. -/
  deadline? : World → Option Nat
  now : World → Nat
  /-- Lets time pass up to a point and wakes the tasks whose deadline has come. -/
  elapse : World → Nat → World

namespace Schedule

variable {World : Type} (schedule : Schedule World)

/-- Runs a task until it has to wait, for at most a number of steps. -/
def poll : Nat → World → TaskId → World
  | 0, world, _ => world
  | steps + 1, world, id =>
      match schedule.advance world id with
      | some next => poll steps next id
      | none => world

/-- Takes a task off the ready list. -/
def take (world : World) (id : TaskId) : World :=
  schedule.withReady world ((schedule.ready world).erase id)

/-- The task whose turn it is: the foreground task comes last. -/
def next? (world : World) (foreground : TaskId) : Option TaskId :=
  let ready := schedule.ready world
  match ready.find? fun id => id != foreground with
  | some id => some id
  | none => if ready.contains foreground then some foreground else none

/-- Runs tasks until all of them wait, for at most a number of turns. -/
def settle (steps : Nat) : Nat → World → TaskId → World
  | 0, world, _ => world
  | turns + 1, world, foreground =>
      match schedule.next? world foreground with
      | some id =>
          settle steps turns (schedule.poll steps (schedule.take world id) id) foreground
      | none => world

/-- Gives the foreground task its turn before the others, if it is ready. -/
def favour (steps : Nat) (world : World) (foreground : TaskId) : World :=
  if (schedule.ready world).contains foreground then
    schedule.poll steps (schedule.take world foreground) foreground
  else world

/-- Runs tasks and lets time pass until a condition holds, up to a point in time, for at most a
number of turns. The condition is looked at whenever all tasks wait and just after time has
passed; at the last point the tasks are run once more. -/
def runUntil (steps : Nat) (holds : World → Bool) (limit : Nat) (foreground : TaskId) :
    Nat → World → World
  | 0, world => world
  | turns + 1, world =>
      let settled := schedule.settle steps steps world foreground
      if holds settled then settled
      else
        match schedule.deadline? settled with
        | some deadline =>
            if deadline < limit then
              let later := schedule.favour steps (schedule.elapse settled deadline) foreground
              runUntil steps holds limit foreground turns later
            else finish settled
        | none => finish settled
where
  /-- The last point in time. -/
  finish (world : World) : World :=
    let later := schedule.favour steps (schedule.elapse world limit) foreground
    schedule.settle steps steps later foreground

end Schedule

end Showcase
