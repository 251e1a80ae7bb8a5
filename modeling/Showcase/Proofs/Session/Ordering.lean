import Showcase.Proofs.Session.Conveying

/-!
# Frames that are stored in order

A worker that has drawn a frame stores it at once if there is room. Frames are stored in the order
in which they were drawn for that reason, unless one of them is overtaken while it waits for room:
a worker that drew later finds the room first.
-/

namespace Showcase.Session

variable {Flags State Msg : Type} {model : Model Flags State Msg} {flags : Flags}
  {options : SessionOptions} {session later base : Session Flags State Msg} {late : Bool}
  {worker next : Worker Msg} {jobs : List (List (Job Msg))} {before after : List (Worker Msg)}
  {frame : Frame} {id : TaskId}

/-- The frames were stored in the order in which they were drawn. -/
def InOrder (session : Session Flags State Msg) : Prop :=
  session.stored.Pairwise fun newer older => older.serial < newer.serial

/-- A worker waits for room for the frame. -/
def Holding (session : Session Flags State Msg) (id : TaskId) (frame : Frame) : Prop :=
  ∃ worker ∈ session.workers, worker.id = id ∧ worker.wait.held? = some frame

/-- A step stores a frame while a worker waits with one that was drawn before it. -/
structure Overtakes (session later : Session Flags State Msg) (old new : Frame) : Prop where
  stored_eq : later.stored = new :: session.stored
  waits : ∃ id, later.Holding id old
  older : old.serial < new.serial

/-- The runs without a frame that overtakes another one. -/
inductive Fair (model : Model Flags State Msg) (flags : Flags) (options : SessionOptions) :
    Session Flags State Msg → Prop where
  | idle : Fair model flags options (Session.idle flags options)
  | step {session later : Session Flags State Msg} (before : Fair model flags options session)
      (step : Step model session later) (fair : ∀ old new, ¬ Overtakes session later old new) :
      Fair model flags options later

/-- The frames that are stored are older than those that wait, and no two that wait are of one
age. -/
structure Ordered (session : Session Flags State Msg) : Prop where
  in_order : InOrder session
  ahead : ∀ id frame, session.Holding id frame →
    ∀ old ∈ session.stored, old.serial < frame.serial
  distinct : ∀ id other one two, session.Holding id one → session.Holding other two →
    id ≠ other → one.serial ≠ two.serial

/-! ## Every step -/

theorem Tracked.below_of_holding (tracked : Tracked session) (holding : session.Holding id frame) :
    frame.serial < session.nextSerial := by
  obtain ⟨worker, member, -, held⟩ := holding
  exact tracked.below frame (.inr ⟨worker, member, held⟩)

/-- The frame in hand is newer than all that were stored, and not of the age of one that waits. -/
theorem Source.newer (source : Source session worker frame base) (tracked : Tracked session)
    (ordered : Ordered session) (member : worker ∈ session.workers) :
    (∀ old ∈ session.stored, old.serial < frame.serial) ∧
      ∀ id other, id ≠ worker.id → session.Holding id other → other.serial ≠ frame.serial := by
  cases source with
  | drawn idle drawing_eq serial_eq next_eq =>
      rw [serial_eq]
      refine ⟨fun old stored => tracked.below old (.inl stored), fun id other _ holding => ?_⟩
      exact Nat.ne_of_lt (tracked.below_of_holding holding)
  | held held =>
      have own : session.Holding worker.id frame := ⟨worker, member, rfl, held⟩
      refine ⟨ordered.ahead _ _ own, fun id other apart holding => ?_⟩
      exact ordered.distinct _ _ _ _ holding own apart

/-- Nothing is stored, and nobody comes to wait for room. -/
theorem Ordered.shrinks (ordered : Ordered session) (stored_eq : later.stored = session.stored)
    (holding : ∀ id frame, later.Holding id frame → session.Holding id frame) : Ordered later where
  in_order := by
    unfold InOrder
    rw [stored_eq]
    exact ordered.in_order
  ahead id frame holds old member :=
    ordered.ahead id frame (holding id frame holds) old (stored_eq ▸ member)
  distinct id other one two first second :=
    ordered.distinct id other one two (holding id one first) (holding other two second)

section

variable (turns : Turns model late session worker later base jobs next before after)

include turns

/-- Who waits after a turn is the worker itself, or waited before. -/
theorem Turns.holding (identified : Identified session) (holds : later.Holding id frame) :
    (id = worker.id ∧ next.wait.held? = some frame) ∨
      (id ≠ worker.id ∧ session.Holding id frame) := by
  obtain ⟨other, member, rfl, held⟩ := holds
  rcases turns.mem_later.mp member with rfl | old | new
  · exact .inl ⟨turns.turn.id_eq, held⟩
  · exact .inr ⟨id_ne_of_mem (turns.workers_eq ▸ identified.unique) other old, other,
      turns.other_mem old, rfl, held⟩
  · obtain ⟨-, -, free, -⟩ := id_of_mem_hired new
    rw [free] at held
    cases held

theorem Turns.holding_of_idle (identified : Identified session) (idle : next.wait.held? = none)
    (holds : later.Holding id frame) : id ≠ worker.id ∧ session.Holding id frame := by
  refine (turns.holding identified holds).resolve_left fun ⟨_, held⟩ => ?_
  rw [idle] at held
  cases held

/-- A frame that is stored in turn. -/
theorem Ordered.stores (identified : Identified session) (tracked : Tracked session)
    (ordered : Ordered session) (source : Source session worker frame base)
    (stored_eq : later.stored = frame :: session.stored) (idle : next.wait.held? = none)
    (fair : ∀ old new, ¬ Overtakes session later old new) : Ordered later := by
  obtain ⟨newer, unlike⟩ := source.newer tracked ordered turns.worker_mem
  refine ⟨?_, fun id other holds old member => ?_, fun id other one two first second => ?_⟩
  · unfold InOrder
    rw [stored_eq]
    exact ordered.in_order.cons newer
  · obtain ⟨apart, held⟩ := turns.holding_of_idle identified idle holds
    rw [stored_eq] at member
    rcases List.mem_cons.mp member with rfl | stored
    · have different := unlike id other apart held
      have behind : ¬ other.serial < old.serial := fun older =>
        fair other old ⟨stored_eq, ⟨id, holds⟩, older⟩
      omega
    · exact ordered.ahead id other held old stored
  · exact ordered.distinct id other one two (turns.holding_of_idle identified idle first).2
      (turns.holding_of_idle identified idle second).2

/-- A frame that comes to wait for room, or goes on waiting. -/
theorem Ordered.holds (identified : Identified session) (tracked : Tracked session)
    (ordered : Ordered session) (source : Source session worker frame base)
    (stored_eq : later.stored = session.stored) (held : next.wait.held? = some frame) :
    Ordered later := by
  obtain ⟨newer, unlike⟩ := source.newer tracked ordered turns.worker_mem
  have cases_of {id : TaskId} {other : Frame} (holds : later.Holding id other) :
      (id = worker.id ∧ other = frame) ∨ (id ≠ worker.id ∧ session.Holding id other) :=
    (turns.holding identified holds).imp_left fun ⟨same, has⟩ =>
      ⟨same, Option.some.inj (has.symm.trans held)⟩
  refine ⟨?_, fun id other holds old member => ?_, fun id other one two first second apart => ?_⟩
  · unfold InOrder
    rw [stored_eq]
    exact ordered.in_order
  · rw [stored_eq] at member
    rcases cases_of holds with ⟨-, rfl⟩ | ⟨-, holds⟩
    · exact newer old member
    · exact ordered.ahead id other holds old member
  · rcases cases_of first with ⟨rfl, rfl⟩ | ⟨differs, first⟩
    · rcases cases_of second with ⟨rfl, -⟩ | ⟨differs, second⟩
      · exact absurd rfl apart
      · exact (unlike other two differs second).symm
    · rcases cases_of second with ⟨-, rfl⟩ | ⟨-, second⟩
      · exact unlike id one differs first
      · exact ordered.distinct id other one two first second apart

theorem Turns.ordered (identified : Identified session) (tracked : Tracked session)
    (ordered : Ordered session) (fair : ∀ old new, ¬ Overtakes session later old new) :
    base.cancelled = true ∨ Ordered later := by
  have stored_eq : later.stored = base.stored := by rw [turns.later_eq]; rfl
  cases turns.turn.conveys with
  | ends ended => exact .inl ended
  | refuses closed => simp [tracked.opened] at closed
  | nothing unmoved idle idle' =>
      exact .inr (ordered.shrinks (stored_eq.trans unmoved.stored_eq) fun id frame holds =>
        (turns.holding_of_idle identified idle' holds).2)
  | takes idle idle' drawing_eq same =>
      exact .inr (ordered.shrinks (stored_eq.trans same) fun id frame holds =>
        (turns.holding_of_idle identified idle' holds).2)
  | stores source stored takings_eq frames_eq fewer closed_eq idle =>
      exact .inr (ordered.stores turns identified tracked source (stored_eq.trans stored) idle fair)
  | holds source same takings_eq alike held =>
      exact .inr (ordered.holds turns identified tracked source (stored_eq.trans same) held)

end

theorem Move.ordered (identified : Identified session) (tracked : Tracked session)
    (ordered : Ordered session) (fair : ∀ old new, ¬ Overtakes session later old new)
    (move : Move model session later) : later.cancelled = true ∨ Ordered later := by
  cases move.change with
  | turns advanced turns =>
      refine (turns.ordered identified tracked ordered fair).imp_left fun ended => ?_
      rw [turns.later_eq]
      exact ended
  | ends ended => exact .inl ended
  | stays stays =>
      refine .inr (ordered.shrinks ?_ ?_)
      · rw [stored, stored, stays.history_eq]
      · rintro id frame ⟨worker, member, rfl, held⟩
        rcases stays.comes worker member with present | ⟨request, free, -⟩
        · exact ⟨worker, present, rfl, held⟩
        · rw [free] at held
          cases held

/-! ## Every run without overtaking -/

theorem Fair.reach (fair : Fair model flags options session) :
    Reach model flags options session := by
  induction fair with
  | idle => exact .idle
  | step before step fair ih => exact ih.step step

theorem Fair.ordered (fair : Fair model flags options session) :
    session.cancelled = true ∨ Ordered session := by
  induction fair with
  | idle =>
      refine .inr ⟨.nil, ?_, ?_⟩
      · rintro id frame ⟨worker, member, -⟩
        cases member
      · rintro id other one two ⟨worker, member, -⟩
        cases member
  | step before step fair ih =>
      have reach := before.reach
      have move := step.move reach.identified
      rcases ih with ended | ordered
      · exact .inl (move.cancelled ended)
      · rcases reach.tracked with ended | tracked
        · exact .inl (move.cancelled ended)
        · exact move.ordered reach.identified tracked ordered fair

/-- Where no frame overtakes another one, frames are stored in the order in which they were drawn,
as long as the session goes on. -/
theorem Fair.inOrder (fair : Fair model flags options session)
    (live : session.cancelled = false) : InOrder session := by
  rcases fair.ordered with ended | ordered
  · simp [live] at ended
  · exact ordered.in_order

end Showcase.Session
