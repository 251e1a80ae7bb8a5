import Showcase.Schedule

/-!
# Wake-ups

Tasks wait in line for a signal. A signal for one task wakes the first in line, or is kept for the
next task that starts to wait; a signal for all wakes everyone in line and is not kept.
-/

namespace Showcase

structure Notify where
  /-- A signal that nobody has taken yet. -/
  permit : Bool := false
  /-- The tasks in line, the first one longest. -/
  waiting : List TaskId := []
  /-- The tasks that were woken and have not gone on yet. -/
  woken : List TaskId := []
  deriving DecidableEq

namespace Notify

/-- Signals one task; gives the task that wakes up. -/
def one (notify : Notify) : Notify × List TaskId :=
  match notify.waiting with
  | [] => ({ notify with permit := true }, [])
  | first :: rest => ({ notify with waiting := rest, woken := notify.woken ++ [first] }, [first])

/-- Signals all tasks in line; gives them. -/
def all (notify : Notify) : Notify × List TaskId :=
  ({ notify with waiting := [], woken := notify.woken ++ notify.waiting }, notify.waiting)

/-- A task starts to wait; it takes the signal that was kept, if there is one. -/
def listen (notify : Notify) (id : TaskId) : Notify :=
  if notify.permit then { notify with permit := false, woken := notify.woken ++ [id] }
  else { notify with waiting := notify.waiting ++ [id] }

def isWoken (notify : Notify) (id : TaskId) : Bool := notify.woken.contains id

/-- A woken task goes on. -/
def resume (notify : Notify) (id : TaskId) : Notify :=
  { notify with woken := notify.woken.erase id }

/-- A task gives up waiting; a signal that it was woken by goes to the next one. -/
def leave (notify : Notify) (id : TaskId) : Notify × List TaskId :=
  if notify.isWoken id then (notify.resume id).one
  else ({ notify with waiting := notify.waiting.erase id }, [])

end Notify

end Showcase
