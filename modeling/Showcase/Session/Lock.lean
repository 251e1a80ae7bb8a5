import Showcase.Schedule

/-!
# A fair lock

One task holds the lock; the others wait in line, and the lock goes from its holder straight to the
first of them.
-/

namespace Showcase

structure Lock where
  holder : Option TaskId := none
  /-- The tasks in line, the first one longest. -/
  waiting : List TaskId := []
  deriving DecidableEq

namespace Lock

def isFree (lock : Lock) : Bool := lock.holder.isNone

def isHeldBy (lock : Lock) (id : TaskId) : Bool := lock.holder == some id

/-- Takes the lock if it is free, and gets in line otherwise. -/
def acquire (lock : Lock) (id : TaskId) : Lock :=
  if lock.isFree then { lock with holder := some id }
  else { lock with waiting := lock.waiting ++ [id] }

/-- Hands the lock on; gives the task that wakes up. -/
def release (lock : Lock) : Lock × List TaskId :=
  match lock.waiting with
  | [] => ({ lock with holder := none }, [])
  | first :: rest => ({ holder := some first, waiting := rest }, [first])

end Lock

end Showcase
