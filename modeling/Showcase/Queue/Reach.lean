import Showcase.Queue.Clients

/-!
# Runs of clients of a queue

Everything that can happen among clients of a queue, in any order: a new client comes, a client goes
on, or time passes.
-/

namespace Showcase.Queue.Clients

variable {Frame : Type}

/-- One thing that can happen. -/
inductive Step : Clients Frame → Clients Frame → Prop where
  | advance {world later : Clients Frame} (id : TaskId)
      (advanced : world.advance id = some later) : Step world later
  | elapse (world : Clients Frame) (time : Nat) (forward : world.now ≤ time) :
      Step world (world.elapse time)
  | spawn (world : Clients Frame) (id : TaskId) (calls : List (Call Frame))
      (fresh : world.client? id = none) : Step world (world.spawn id calls)

/-- The worlds that can come about around an empty queue. -/
inductive Reach (capacity patience : Nat) : Clients Frame → Prop where
  | empty : Reach capacity patience { queue := .ofCapacity capacity, patience }
  | step {world later : Clients Frame} (before : Reach capacity patience world)
      (step : Step world later) : Reach capacity patience later

end Showcase.Queue.Clients
