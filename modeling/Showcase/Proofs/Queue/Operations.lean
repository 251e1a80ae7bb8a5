import Showcase.Queue.Basic

/-!
# What the operations of a queue do to its frames

Waiting and signalling leave the frames alone. The operations that store or take a frame are
given by their possible outcomes, each with what it requires of the queue.
-/

namespace Showcase.Queue

variable {Frame : Type}

/-- The queues differ in their signals only. -/
structure Alike (first second : Queue Frame) : Prop where
  capacity_eq : first.capacity = second.capacity
  frames_eq : first.frames = second.frames
  closed_eq : first.closed = second.closed

variable {queue changed : Queue Frame} {frame : Frame} {outcome : Pushed} {id : TaskId}
  {woken : List TaskId}

theorem Alike.refl (queue : Queue Frame) : Alike queue queue := ⟨rfl, rfl, rfl⟩

theorem Alike.trans {first second third : Queue Frame} (left : Alike first second)
    (right : Alike second third) : Alike first third :=
  ⟨left.capacity_eq.trans right.capacity_eq, left.frames_eq.trans right.frames_eq,
    left.closed_eq.trans right.closed_eq⟩

theorem alike_awaitRoom (queue : Queue Frame) (id : TaskId) : Alike (queue.awaitRoom id) queue :=
  ⟨rfl, rfl, rfl⟩

theorem alike_leaveRoom (queue : Queue Frame) (id : TaskId) : Alike (queue.leaveRoom id) queue :=
  ⟨rfl, rfl, rfl⟩

theorem alike_giveUpRoom (queue : Queue Frame) (id : TaskId) :
    Alike (queue.giveUpRoom id).1 queue :=
  ⟨rfl, rfl, rfl⟩

theorem alike_awaitFrame (queue : Queue Frame) (id : TaskId) : Alike (queue.awaitFrame id) queue :=
  ⟨rfl, rfl, rfl⟩

theorem alike_leaveFrame (queue : Queue Frame) (id : TaskId) : Alike (queue.leaveFrame id) queue :=
  ⟨rfl, rfl, rfl⟩

theorem alike_giveUpFrame (queue : Queue Frame) (id : TaskId) :
    Alike (queue.giveUpFrame id).1 queue :=
  ⟨rfl, rfl, rfl⟩

theorem isFull_iff : queue.isFull = true ↔ queue.capacity ≤ queue.frames.length := by
  simp [isFull]

theorem alike_store (queue : Queue Frame) (frame : Frame) :
    Alike (queue.store frame).1 { queue with frames := queue.frames ++ [frame] } :=
  ⟨rfl, rfl, rfl⟩

/-- A frame is stored at once where the queue is open and has room. -/
theorem tryPush_eq_some (tried : queue.tryPush frame = some (outcome, changed, woken)) :
    (outcome = .closed ∧ queue.closed = true ∧ Alike changed queue) ∨
    (outcome = .queued ∧ queue.closed = false ∧ queue.frames.length < queue.capacity ∧
      Alike changed { queue with frames := queue.frames ++ [frame] }) := by
  unfold tryPush at tried
  split at tried
  · rename_i closed
    cases tried
    exact .inl ⟨rfl, closed, .refl queue⟩
  · rename_i opened
    split at tried
    · cases tried
    · rename_i room
      cases tried
      rw [isFull_iff] at room
      exact .inr ⟨rfl, Bool.of_not_eq_true opened, Nat.lt_of_not_le room, alike_store queue frame⟩

theorem tryPush_eq_none (tried : queue.tryPush frame = none) :
    queue.closed = false ∧ queue.capacity ≤ queue.frames.length := by
  unfold tryPush at tried
  split at tried
  · cases tried
  · rename_i opened
    split at tried
    · rename_i full
      exact ⟨Bool.of_not_eq_true opened, isFull_iff.mp full⟩
    · cases tried

/-- After its time a frame is stored in any open queue; a full one loses its oldest frame. -/
theorem pushLate_eq (pushed : queue.pushLate frame = (outcome, changed, woken)) :
    (outcome = .closed ∧ queue.closed = true ∧ Alike changed queue) ∨
    (outcome = .queued ∧ queue.closed = false ∧ queue.frames.length < queue.capacity ∧
      Alike changed { queue with frames := queue.frames ++ [frame] }) ∨
    (outcome = .evicted ∧ queue.closed = false ∧ queue.capacity ≤ queue.frames.length ∧
      Alike changed { queue with frames := queue.frames.tail ++ [frame] }) := by
  unfold pushLate at pushed
  split at pushed
  · rename_i closed
    cases pushed
    exact .inl ⟨rfl, closed, .refl queue⟩
  · rename_i opened
    have open_eq := Bool.of_not_eq_true opened
    split at pushed
    · rename_i full
      cases pushed
      exact .inr (.inr ⟨rfl, open_eq, isFull_iff.mp full, alike_store _ frame⟩)
    · rename_i room
      cases pushed
      rw [isFull_iff] at room
      exact .inr (.inl ⟨rfl, open_eq, Nat.lt_of_not_le room, alike_store queue frame⟩)

theorem getLast?_pushLate (opened : queue.closed = false) (frame : Frame) :
    (queue.pushLate frame).2.1.frames.getLast? = some frame := by
  rcases pushed : queue.pushLate frame with ⟨outcome, changed, woken⟩
  rcases pushLate_eq pushed with ⟨-, closed, -⟩ | ⟨-, -, -, alike⟩ | ⟨-, -, -, alike⟩
  · cases opened.symm.trans closed
  all_goals
    rw [alike.frames_eq]
    exact List.getLast?_concat

theorem tryPop_eq_frame (popped : queue.tryPop = (.frame frame, changed, woken)) :
    queue.closed = false ∧ queue.frames = frame :: changed.frames ∧
      changed.capacity = queue.capacity ∧ changed.closed = false := by
  unfold tryPop at popped
  split at popped
  · cases popped
  · rename_i opened
    split at popped
    · cases popped
    · rename_i found
      cases popped
      exact ⟨Bool.of_not_eq_true opened, found, rfl, Bool.of_not_eq_true opened⟩

theorem tryPop_eq_closed (popped : queue.tryPop = (.closed, changed, woken)) :
    queue.closed = true ∧ changed = queue := by
  unfold tryPop at popped
  split at popped
  · rename_i closed
    cases popped
    exact ⟨closed, rfl⟩
  · split at popped <;> cases popped

theorem tryPop_eq_nothing (popped : queue.tryPop = (.nothing, changed, woken)) :
    queue.closed = false ∧ queue.frames = [] ∧ changed = queue := by
  unfold tryPop at popped
  split at popped
  · cases popped
  · rename_i opened
    split at popped
    · rename_i empty
      cases popped
      exact ⟨Bool.of_not_eq_true opened, empty, rfl⟩
    · cases popped

theorem closed_close (queue : Queue Frame) : queue.close.1.closed = true := rfl

theorem frames_close (queue : Queue Frame) :
    queue.close.1.frames = if queue.closed then queue.frames else [] := rfl

end Showcase.Queue
