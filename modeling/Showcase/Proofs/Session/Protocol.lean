import Mathlib.Data.List.Induction
import Showcase.Session.Basic

/-!
# What a sink sees

Some events of a session are about the sink of its connection: a frame is taken from the queue for
it, a write begins and comes to an end, the session ends, the connection is closed. `Sending` tells
how far the writing is, and `Sending.next?` in which order these events may come: one frame at a
time is taken and written, and nothing is written after a failure or after the end of the session,
before which nothing is closed. What this order means is read off the lists of events that keep it.
-/

namespace Showcase

variable {State Msg : Type}

/-- How far the writing of frames is. -/
inductive Sending where
  /-- No frame is in hand. -/
  | idle
  /-- A frame was taken from the queue. -/
  | taken (frame : Frame)
  /-- The write of a frame has begun. -/
  | begun (frame : Frame)
  /-- Nothing is written any more. -/
  | stopped
  deriving DecidableEq

namespace Event

/-- The frame that the writer took. -/
def taken? : Event State Msg → Option Frame
  | taken frame => some frame
  | _ => none

/-- The frame whose write began. -/
def writing? : Event State Msg → Option Frame
  | writing frame => some frame
  | _ => none

/-- The frame that reached the client. -/
def delivered? : Event State Msg → Option Frame
  | delivered frame _ => some frame
  | _ => none

/-- The frame whose write came to an end, with success or without. -/
def completed? : Event State Msg → Option Frame
  | delivered frame _ | failed frame => some frame
  | _ => none

/-- Whether a write begins or comes to an end. -/
def isSend : Event State Msg → Bool
  | writing _ | delivered .. | failed _ => true
  | _ => false

/-- Whether no write may follow. -/
def isFinal : Event State Msg → Bool
  | failed _ | cancelled | closed _ => true
  | _ => false

/-- Whether the event is one of those that are about the sink. -/
def isSink : Event State Msg → Bool
  | taken _ | writing _ | delivered .. | failed _ | cancelled | closed _ => true
  | _ => false

/-- The event tells a sink nothing. -/
structure Unseen (event : Event State Msg) : Prop where
  taken_eq : event.taken? = none
  writing_eq : event.writing? = none
  delivered_eq : event.delivered? = none
  completed_eq : event.completed? = none
  send_eq : event.isSend = false
  final_eq : event.isFinal = false

theorem unseen {event : Event State Msg} (quiet : event.isSink = false) : event.Unseen := by
  cases event with
  | taken | writing | delivered | failed | cancelled | closed => cases quiet
  | _ => constructor <;> rfl

end Event

namespace Sending

variable {stage later earlier : Sending} {event : Event State Msg} {frame : Frame}
  {events before between after : List (Event State Msg)}

/-- How far the writing is after an event, if the event may come. -/
def next? (stage : Sending) : Event State Msg → Option Sending
  | .taken frame => if stage = idle then some (taken frame) else none
  | .writing frame => if stage = taken frame then some (begun frame) else none
  | .delivered frame _ => if stage = begun frame then some idle else none
  | .failed frame => if stage = begun frame then some stopped else none
  | .cancelled => some stopped
  | .closed _ => if stage = stopped then some stopped else none
  | _ => some stage

/-- How far the writing is after some events, if they may come in this order. -/
def run? (stage : Sending) (events : List (Event State Msg)) : Option Sending :=
  events.foldlM next? stage

/-- The events that may come. -/
inductive Next : Sending → Event State Msg → Sending → Prop where
  | takes (frame : Frame) : Next idle (.taken frame) (taken frame)
  | begins (frame : Frame) : Next (taken frame) (.writing frame) (begun frame)
  | delivers (frame : Frame) (time : Nat) : Next (begun frame) (.delivered frame time) idle
  | fails (frame : Frame) : Next (begun frame) (.failed frame) stopped
  | ends (stage : Sending) : Next stage .cancelled stopped
  | closes (connection : Nat) : Next stopped (.closed connection) stopped
  | quiet {event : Event State Msg} (stage : Sending) (quiet : event.isSink = false) :
      Next stage event stage

theorem next?_of_quiet (quiet : event.isSink = false) : stage.next? event = some stage := by
  cases event with
  | taken | writing | delivered | failed | cancelled | closed => cases quiet
  | _ => rfl

theorem next?_eq_some : stage.next? event = some later ↔ Next stage event later := by
  constructor
  · intro stepped
    cases event with
    | taken frame =>
        obtain ⟨rfl, same⟩ := Option.ite_none_right_eq_some.mp stepped
        exact Option.some.inj same ▸ .takes frame
    | writing frame =>
        obtain ⟨rfl, same⟩ := Option.ite_none_right_eq_some.mp stepped
        exact Option.some.inj same ▸ .begins frame
    | delivered frame time =>
        obtain ⟨rfl, same⟩ := Option.ite_none_right_eq_some.mp stepped
        exact Option.some.inj same ▸ .delivers frame time
    | failed frame =>
        obtain ⟨rfl, same⟩ := Option.ite_none_right_eq_some.mp stepped
        exact Option.some.inj same ▸ .fails frame
    | closed connection =>
        obtain ⟨rfl, same⟩ := Option.ite_none_right_eq_some.mp stepped
        exact Option.some.inj same ▸ .closes connection
    | cancelled => exact Option.some.inj stepped ▸ .ends stage
    | _ => exact Option.some.inj stepped ▸ .quiet stage rfl
  · intro next
    cases next with
    | takes | begins | delivers | fails | ends | closes => simp [next?]
    | quiet stage quiet => exact next?_of_quiet quiet

@[simp]
theorem run?_nil : stage.run? ([] : List (Event State Msg)) = some stage := rfl

@[simp]
theorem run?_cons : stage.run? (event :: events) = (stage.next? event).bind (·.run? events) := rfl

theorem run?_append (stage : Sending) (before after : List (Event State Msg)) :
    stage.run? (before ++ after) = (stage.run? before).bind (·.run? after) := by
  rw [run?, List.foldlM_append]
  rfl

theorem run?_of_quiet (quiet : ∀ event ∈ events, event.isSink = false) :
    stage.run? events = some stage := by
  induction events with
  | nil => rfl
  | cons event rest ih =>
      rw [run?_cons, next?_of_quiet (quiet event List.mem_cons_self)]
      exact ih fun other member => quiet other (List.mem_cons_of_mem _ member)

theorem run?_cons_eq_some (kept : stage.run? (event :: events) = some later) :
    ∃ middle, Next stage event middle ∧ middle.run? events = some later := by
  rw [run?_cons, Option.bind_eq_some_iff] at kept
  obtain ⟨middle, stepped, kept⟩ := kept
  exact ⟨middle, next?_eq_some.mp stepped, kept⟩

/-- The stages around an event. -/
theorem run?_split (kept : stage.run? (before ++ event :: after) = some later) :
    ∃ first second, stage.run? before = some first ∧ Next first event second ∧
      second.run? after = some later := by
  rw [run?_append, Option.bind_eq_some_iff] at kept
  obtain ⟨first, reached, kept⟩ := kept
  obtain ⟨second, next, kept⟩ := run?_cons_eq_some kept
  exact ⟨first, second, reached, next, kept⟩

/-! ## No write after the last one -/

/-- The writing stays over, and no write begins or ends. -/
theorem run?_stopped (kept : stopped.run? events = some later) :
    later = stopped ∧ ∀ event ∈ events, event.isSend = false := by
  induction events with
  | nil => exact ⟨(Option.some.inj kept).symm, nofun⟩
  | cons event rest ih =>
      obtain ⟨middle, next, kept⟩ := run?_cons_eq_some kept
      have quiet : middle = stopped ∧ event.isSend = false := by
        cases next with
        | ends | closes => exact ⟨rfl, rfl⟩
        | quiet _ quiet => exact ⟨rfl, (Event.unseen quiet).send_eq⟩
      obtain ⟨rfl, quiet⟩ := quiet
      obtain ⟨stays, silent⟩ := ih kept
      exact ⟨stays, List.forall_mem_cons.mpr ⟨quiet, silent⟩⟩

theorem silent_of_final (kept : stage.run? (before ++ event :: after) = some later)
    (final : event.isFinal = true) : ∀ other ∈ after, other.isSend = false := by
  obtain ⟨first, second, -, next, kept⟩ := run?_split kept
  cases next with
  | fails | ends | closes => exact (run?_stopped kept).2
  | takes | begins | delivers => cases final
  | quiet _ quiet => simp [(Event.unseen quiet).final_eq] at final

/-! ## One write at a time -/

/-- A write that began is delivered before another frame is in hand. -/
theorem delivered_of_begun {other : Frame}
    (kept : (begun frame).run? between = some (taken other)) :
    ∃ time, .delivered frame time ∈ between := by
  induction between with
  | nil => cases kept
  | cons event rest ih =>
      obtain ⟨middle, next, kept⟩ := run?_cons_eq_some kept
      cases next with
      | delivers _ time => exact ⟨time, List.mem_cons_self⟩
      | fails | ends => cases (run?_stopped kept).1
      | quiet =>
          obtain ⟨time, member⟩ := ih kept
          exact ⟨time, List.mem_cons_of_mem _ member⟩

theorem Next.of_writing (next : Next stage (.writing frame : Event State Msg) later) :
    stage = taken frame ∧ later = begun frame := by
  cases next with
  | begins => exact ⟨rfl, rfl⟩
  | quiet _ quiet => cases quiet

theorem Next.of_completed (next : Next stage event later)
    (completed : event.completed? = some frame) : stage = begun frame := by
  cases next with
  | delivers | fails => exact congrArg begun (Option.some.inj completed)
  | takes | begins | ends | closes => cases completed
  | quiet _ quiet => simp [(Event.unseen quiet).completed_eq] at completed

theorem delivered_between {first second : Frame}
    (kept : stage.run? (before ++ .writing first :: between ++ .writing second :: after) =
      some later) : ∃ time, .delivered first time ∈ between := by
  obtain ⟨middle, _, reached, next, -⟩ := run?_split kept
  obtain ⟨rfl, -⟩ := next.of_writing
  obtain ⟨_, begins, -, next, reached⟩ := run?_split reached
  obtain ⟨-, rfl⟩ := next.of_writing
  exact delivered_of_begun reached

/-- The event that led to a stage, the last one about the sink. -/
theorem last_sink (kept : stage.run? events = some later) (changed : later ≠ stage) :
    ∃ early event between earlier, events = early ++ event :: between ∧
      Next earlier event later ∧ event.isSink = true ∧ ∀ other ∈ between, other.isSink = false := by
  induction events using List.reverseRecOn with
  | nil => exact absurd (Option.some.inj kept).symm changed
  | append_singleton events event ih =>
      obtain ⟨earlier, middle, reached, next, same⟩ := run?_split kept
      obtain rfl := Option.some.inj same
      cases sink : event.isSink with
      | true => exact ⟨events, event, [], earlier, rfl, next, sink, nofun⟩
      | false =>
          have stays := next?_eq_some.mpr next
          rw [next?_of_quiet sink] at stays
          obtain rfl := Option.some.inj stays
          obtain ⟨early, last, between, before, rfl, next, about, quiet⟩ := ih reached
          refine ⟨early, last, between ++ [event], before, by simp, next, about, ?_⟩
          exact List.forall_mem_append.mpr ⟨quiet, List.forall_mem_singleton.mpr sink⟩

/-- A frame that is written is the one that was taken last. -/
theorem taken_before (kept : idle.run? (before ++ .writing frame :: after) = some later) :
    ∃ early between, before = early ++ .taken frame :: between ∧
      ∀ other ∈ between, other.isSink = false := by
  obtain ⟨stage, _, reached, next, -⟩ := run?_split kept
  obtain ⟨rfl, -⟩ := next.of_writing
  obtain ⟨early, event, between, earlier, split, next, sink, quiet⟩ := last_sink reached nofun
  cases next with
  | takes => exact ⟨early, between, split, quiet⟩
  | quiet _ unseen => simp [sink] at unseen

/-- A write that comes to an end is the one that began last. -/
theorem writing_before (kept : idle.run? (before ++ event :: after) = some later)
    (completed : event.completed? = some frame) :
    ∃ early between, before = early ++ .writing frame :: between ∧
      ∀ other ∈ between, other.isSink = false := by
  obtain ⟨stage, _, reached, next, -⟩ := run?_split kept
  obtain rfl := next.of_completed completed
  obtain ⟨early, event, between, earlier, split, next, sink, quiet⟩ := last_sink reached nofun
  cases next with
  | begins => exact ⟨early, between, split, quiet⟩
  | quiet _ unseen => simp [sink] at unseen

/-! ## The frames in their order -/

/-- The frame that was taken and not yet written. -/
def pending : Sending → List Frame
  | taken frame => [frame]
  | idle | begun _ | stopped => []

/-- The frame that was taken and not yet delivered. -/
def inHand : Sending → List Frame
  | taken frame | begun frame => [frame]
  | idle | stopped => []

theorem Next.pending (next : Next earlier event stage) :
    (event.writing?.toList ++ stage.pending).Sublist (earlier.pending ++ event.taken?.toList) := by
  cases next with
  | takes | begins | delivers | fails | closes => exact .refl _
  | ends => exact List.nil_sublist _
  | quiet _ quiet =>
      rw [(Event.unseen quiet).taken_eq, (Event.unseen quiet).writing_eq]
      simp

theorem Next.inHand (next : Next earlier event stage) (going : stage ≠ stopped) :
    earlier ≠ stopped ∧
      event.delivered?.toList ++ stage.inHand = earlier.inHand ++ event.taken?.toList := by
  cases next with
  | takes | begins | delivers => exact ⟨nofun, rfl⟩
  | fails | ends | closes => exact absurd rfl going
  | quiet _ quiet =>
      rw [(Event.unseen quiet).taken_eq, (Event.unseen quiet).delivered_eq]
      exact ⟨going, by simp⟩

theorem filterMap_concat {Item : Type} (read : Event State Msg → Option Item)
    (events : List (Event State Msg)) (event : Event State Msg) :
    (events ++ [event]).filterMap read = events.filterMap read ++ (read event).toList := by
  rw [List.filterMap_append, List.filterMap_cons, List.filterMap_nil]
  cases read event <;> rfl

/-- Frames are written in the order in which they were taken, each of them once. -/
theorem written_sublist (kept : idle.run? events = some stage) :
    (events.filterMap Event.writing? ++ stage.pending).Sublist
      (events.filterMap Event.taken?) := by
  induction events using List.reverseRecOn generalizing stage with
  | nil =>
      obtain rfl := Option.some.inj kept
      exact .slnil
  | append_singleton events event ih =>
      obtain ⟨earlier, middle, reached, next, same⟩ := run?_split kept
      obtain rfl := Option.some.inj same
      rw [filterMap_concat, filterMap_concat, List.append_assoc]
      have grows := next.pending.append_left (events.filterMap Event.writing?)
      rw [← List.append_assoc (events.filterMap Event.writing?) earlier.pending] at grows
      exact grows.trans ((ih reached).append_right _)

/-- While the writing goes on, what was taken is delivered, but for the frame in hand. -/
theorem delivered_eq (kept : idle.run? events = some stage) (going : stage ≠ stopped) :
    events.filterMap Event.delivered? ++ stage.inHand = events.filterMap Event.taken? := by
  induction events using List.reverseRecOn generalizing stage with
  | nil =>
      obtain rfl := Option.some.inj kept
      rfl
  | append_singleton events event ih =>
      obtain ⟨earlier, middle, reached, next, same⟩ := run?_split kept
      obtain rfl := Option.some.inj same
      obtain ⟨went, grows⟩ := next.inHand going
      rw [filterMap_concat, filterMap_concat, List.append_assoc, grows, ← List.append_assoc,
        ih reached went]

end Sending

end Showcase
