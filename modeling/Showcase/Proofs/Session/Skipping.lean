import Showcase.Proofs.Screen.Trimming
import Showcase.Proofs.Session.Chains
import Showcase.Proofs.Session.Showing

/-!
# Screens that are not sent

A live session brings every screen that shows something to its queue, which is open as long as the
session lives, and leaves out the blank ones.
-/

namespace Showcase.Session

open Screen (BlankRow Buffer)

variable {Flags State Msg : Type} {model : Model Flags State Msg} {flags : Flags}
  {options : SessionOptions} {session later base : Session Flags State Msg} {late : Bool}
  {worker next : Worker Msg} {jobs : List (List (Job Msg))} {state : State} {frame : Frame}

/-! ## The queue of a live session -/

/-- Only the end of the session closes its queue. -/
theorem Turn.closed_eq (turn : Turn model late session worker base jobs next)
    (live : base.cancelled = false) : base.queue.closed = session.queue.closed := by
  cases turn with
  | shutsDown doing =>
      rw [cancel_eq] at live
      cases live
  | keeps holds | closesNothing holds | closes holds | skipsWrite holds | failsWrite holds
  | writes holds | awaitsDelivery holds => cases holds <;> rfl
  | @pushes _ _ _ brought _ _ _ brings tried =>
      have brought_eq : brought.queue.closed = session.queue.closed := by cases brings <;> rfl
      rcases Queue.tryPush_eq_some tried with ⟨-, -, alike⟩ | ⟨-, -, -, alike⟩
      all_goals exact alike.closed_eq.trans brought_eq
  | awaitsRoom brings => cases brings <;> rfl
  | pushesLate waits asleep due pushed =>
      rcases Queue.pushLate_eq pushed with ⟨-, -, alike⟩ | ⟨-, -, -, alike⟩ | ⟨-, -, -, alike⟩
      all_goals exact alike.closed_eq
  | takes seeks popped =>
      obtain ⟨opened, -, -, later_open⟩ := Queue.tryPop_eq_frame popped
      cases seeks <;> exact later_open.trans opened.symm
  | findsClosed seeks | awaitsFrame seeks => cases seeks <;> rfl
  | _ => rfl

theorem Reach.open_of_live (reach : Reach model flags options session)
    (live : session.cancelled = false) : session.queue.closed = false := by
  induction reach with
  | idle => rfl
  | @step session later before step ih =>
      cases (step.move before.identified).change with
      | turns advanced turns =>
          rw [turns.later_eq] at live ⊢
          exact (turns.turn.closed_eq live).trans (ih (turns.turn.live live))
      | ends ended => cases live.symm.trans ended
      | stays stays =>
          rw [stays.queue_eq]
          exact ih (stays.cancelled_eq ▸ live)

/-! ## Drawing -/

/-- A frame is brought to the queue: it is stored there, or the queue is full and the worker waits
with it for room. -/
def Offers (session later : Session Flags State Msg) (worker : Worker Msg) (frame : Frame) : Prop :=
  session.queue.isFull = false ∧ later.queue.frames = session.queue.frames ++ [frame] ∨
    session.queue.isFull = true ∧ later.queue.frames = session.queue.frames ∧
      ∃ ticket, later.worker? worker.id = some (worker.waitFor
        (.room frame (session.now + session.options.enqueueWait)) worker.jobs ticket)

theorem worker?_suspend (alive : session.isAlive worker.id = true) (wait : Wait Msg) :
    (session.suspend worker wait).worker? worker.id =
      some (worker.waitFor wait worker.jobs session.nextTicket) := by
  let waiting := worker.waitFor wait worker.jobs session.nextTicket
  obtain ⟨found, member, same⟩ := List.any_eq_true.mp alive
  have replaced (other : Worker Msg) :
      ((if other.id == worker.id then waiting else other).id == worker.id) =
        (other.id == worker.id) := by
    split
    · rename_i same
      exact BEq.rfl.trans same.symm
    · rfl
  have first : ∃ other, session.workers.find? (fun other => other.id == worker.id) = some other :=
    Option.isSome_iff_exists.mp (List.find?_isSome.mpr ⟨found, member, same⟩)
  obtain ⟨other, first⟩ := first
  show (session.workers.map fun other => if other.id == worker.id then waiting else other).find?
    (fun other => other.id == worker.id) = some waiting
  rw [List.find?_map]
  simp only [Function.comp_def, replaced, first, Option.map_some, List.find?_some first, if_true]

theorem offers_push {brought : Session Flags State Msg} (same : brought.queue = session.queue)
    (opened : session.queue.closed = false) (alive : brought.isAlive worker.id = true) :
    Offers session (brought.push worker frame (session.now + session.options.enqueueWait)) worker
      frame := by
  rw [push, Queue.tryPush, same, opened]
  cases full : session.queue.isFull with
  | true => exact .inr ⟨full, rfl, brought.nextTicket, worker?_suspend (by exact alive) _⟩
  | false => exact .inl ⟨full, rfl⟩

/-- A blank screen is left out. -/
theorem render_of_empty (shown : session.state = some state)
    (empty : model.render state session.geometry = "") :
    session.render model worker = session.proceed worker [] := by
  rw [render, shown]
  cases session.cancelled with
  | true => rfl
  | false => simp [empty]

/-- A screen with text is brought to the queue. -/
theorem offers_render (reach : Reach model flags options session)
    (live : session.cancelled = false) (shown : session.state = some state)
    (alive : session.isAlive worker.id = true) (text : model.render state session.geometry ≠ "") :
    Offers session (session.render model worker) worker
      { serial := session.nextSerial, repaint := ⟨model.render state session.geometry⟩ } := by
  have visible : (model.render state session.geometry).isEmpty = false := by simpa using text
  rw [render, live, shown]
  simp only [visible, Bool.false_eq_true, if_false]
  exact offers_push rfl (reach.open_of_live live) alive

/-- A worker that waited for room stores its frame when its time has run out. -/
theorem getLast?_pushLate (reach : Reach model flags options session)
    (live : session.cancelled = false) (worker : Worker Msg) (frame : Frame) :
    (session.pushLate worker frame).queue.frames.getLast? = some frame := by
  have opened : (session.queue.giveUpRoom worker.id).1.closed = false := reach.open_of_live live
  exact Queue.getLast?_pushLate opened frame

/-- Trimming is exact: the text of a buffer says where its cells show something, no looks are left
behind a row, and blank cells at the ends of rows do not matter. A live session that has started
leaves a screen out exactly if it is blank, and otherwise brings its text to the queue, where it is
stored at the latest when its time has run out. -/
theorem screen_trimmed (buffer : Buffer)
    (lettered : ∀ cells ∈ buffer.rows, ∀ cell ∈ cells, cell.IsLettered) :
    buffer.Trimmed ∧
    ∀ {Flags State Msg : Type} (model : Model Flags State Msg) (flags : Flags)
      (options : SessionOptions) (session : Session Flags State Msg) (state : State)
      (worker : Worker Msg), Reach model flags options session → session.cancelled = false →
        session.state = some state → model.screen state session.geometry = buffer →
          session.isAlive worker.id = true →
      ((∀ cells ∈ buffer.rows, BlankRow cells) →
        session.render model worker = session.proceed worker []) ∧
      (¬ (∀ cells ∈ buffer.rows, BlankRow cells) →
        ∃ frame : Frame, frame.repaint.body = buffer.toAnsi ∧ frame.repaint.body ≠ "" ∧
          Offers session (session.render model worker) worker frame) ∧
      ∀ waiting frame, (session.pushLate waiting frame).queue.frames.getLast? = some frame := by
  have trimmed : buffer.Trimmed := Buffer.trimmed lettered
  refine ⟨trimmed, ?_⟩
  rintro _ _ _ model flags options session state worker reach live shown rfl alive
  refine ⟨fun blank => ?_, fun shows => ?_, getLast?_pushLate reach live⟩
  · exact render_of_empty shown (trimmed.empty_iff.mpr blank)
  · have text : model.render state session.geometry ≠ "" := mt trimmed.empty_iff.mp shows
    exact ⟨_, rfl, text, offers_render reach live shown alive text⟩

/-- The last screen that was delivered is asked for once more. -/
theorem screen_trimmed_digits :
    let session := settledDigits.ask (.render 1)
    let worker : Worker String := { id := settledDigits.nextId, jobs := [] }
    (digits.screen "0" session.geometry).Trimmed ∧
      ∃ frame : Frame, frame.repaint.body = "0" ∧
        Offers session (session.render digits worker) worker frame := by
  intro session worker
  have rows_eq : (digits.screen "0" session.geometry).rows = [[{ symbol := "0" }]] := by
    decide +kernel
  have lettered : ∀ cells ∈ (digits.screen "0" session.geometry).rows, ∀ cell ∈ cells,
      cell.IsLettered := by
    rw [rows_eq]
    simp only [List.mem_singleton, forall_eq]
    exact ⟨'0', rfl, by decide, .inl (by decide)⟩
  have reach : Reach digits () tight session := redrawn_settledDigits.reach.step (.ask _ _)
  obtain ⟨trimmed, sends⟩ := screen_trimmed (digits.screen "0" session.geometry) lettered
  obtain ⟨-, offers, -⟩ := sends digits () tight session "0" worker reach (by decide +kernel)
    (by decide +kernel) rfl (by decide +kernel)
  obtain ⟨frame, body_eq, -, offered⟩ := offers (by rw [rows_eq]; unfold BlankRow; decide)
  exact ⟨trimmed, frame, body_eq.trans (by decide +kernel), offered⟩

end Showcase.Session
