import Showcase.Proofs.Session.Ordering
import Showcase.Proofs.Session.Writing

/-!
# What the client sees at rest

When a session has come to rest, the newest drawing shows the program as it is, and the last frame
that the client received is the one that was stored last. The two are the same where no frame
overtook another one. A worker that waits for room may be overtaken, though: its frame is then
stored after newer ones, and the client is left with an old view.
-/

namespace Showcase

/-- Whether the writer waits like this for a frame. -/
def Wait.seeks {Msg : Type} : Wait Msg → Bool
  | frame => true
  | _ => false

namespace Session

variable {Flags State Msg : Type} {model : Model Flags State Msg} {flags : Flags}
  {options : SessionOptions} {session later : Session Flags State Msg}

/-- The session goes on, but nothing is under way: the queue is empty, the writer waits for a frame,
no frame waits for room, and every worker waits for something. -/
structure AtRest (session : Session Flags State Msg) : Prop where
  live : session.cancelled = false
  empty : session.queue.frames = []
  writer : ∃ worker ∈ session.workers, worker.wait.seeks = true
  settled : ∀ worker ∈ session.workers, worker.wait.held? = none
  waiting : ∀ worker ∈ session.workers, worker.wait.isNothing = false

/-- What the client sees of a program that is in a state. -/
structure Displayed (model : Model Flags State Msg) (session : Session Flags State Msg)
    (state : State) (newest last : Frame) : Prop where
  /-- The newest drawing shows the program as it is. -/
  drawing_eq : session.latest Event.drawing? = some (newest, session.geometry, state)
  body_eq : newest.repaint.body = model.render state session.geometry
  /-- It is no longer on its way to the queue. -/
  stored : newest ∈ session.stored
  /-- The client received what was stored last. -/
  last_eq : session.stored.head? = some last
  delivered_eq : session.latest Event.delivered? = some last
  /-- That is the newest drawing, unless a frame was overtaken. -/
  in_order : InOrder session → last = newest

theorem AtRest.current (rest : AtRest session)
    (redrawn : Redrawn model flags options session) : Current model session := by
  rcases redrawn.upToDate.2 with ended | ⟨worker, member, draws⟩ | current
  · simp [rest.live] at ended
  · rw [Worker.draws, rest.waiting worker member] at draws
    cases draws
  · exact current

theorem AtRest.stored_of_known {frame : Frame} (rest : AtRest session)
    (known : session.Known frame) : frame ∈ session.stored := by
  rcases known with stored | ⟨worker, member, held⟩
  · exact stored
  · rw [rest.settled worker member] at held
    cases held

/-- When nothing is under way the client has received what was stored last. -/
theorem AtRest.delivered_eq (rest : AtRest session) (reach : Reach model flags options session)
    (tracked : Tracked session) : session.latest Event.delivered? = session.stored.head? := by
  obtain ⟨worker, member, seeks⟩ := rest.writer
  have waits : worker.wait = .frame := by
    cases wait : worker.wait <;> first | rfl | simp [wait, Wait.seeks] at seeks
  have last := tracked.last
  rw [rest.empty] at last
  exact (reach.even rest.live member waits).trans last

/-- The newest frame is the first one of those that were stored in order. -/
theorem Tracked.eq_newest {newest last : Frame} {geometry : Geometry} {state : State}
    {more : List Frame} (tracked : Tracked session) (stored_eq : session.stored = last :: more)
    (drawing_eq : session.latest Event.drawing? = some (newest, geometry, state))
    (stored : newest ∈ session.stored) (in_order : InOrder session) : last = newest := by
  have below : last.serial < session.nextSerial :=
    tracked.below last (.inl (stored_eq ▸ List.mem_cons_self))
  have counted := (tracked.newest _ _ _ drawing_eq).1
  unfold InOrder at in_order
  rw [stored_eq] at stored in_order
  rcases List.mem_cons.mp stored with same | older
  · exact same.symm
  · have smaller := List.rel_of_pairwise_cons in_order older
    omega

/-- At rest the newest drawing shows the program as it is, the client has received the frame that
was stored last, and where the frames were stored in order it sees the program as it is. They were
so if none of them overtook another one. -/
theorem rest_displays (redrawn : Redrawn model flags options session) (rest : AtRest session)
    {state : State} (shown : session.state = some state)
    (visible : (model.render state session.geometry).isEmpty = false) :
    (∃ newest last, Displayed model session state newest last) ∧
      (Fair model flags options session → InOrder session) := by
  refine ⟨?_, fun fair => fair.inOrder rest.live⟩
  have reach := redrawn.reach
  obtain ⟨newest, drawing_eq, body_eq⟩ := rest.current redrawn state shown visible
  rcases reach.tracked with ended | tracked
  · simp [rest.live] at ended
  · have stored := rest.stored_of_known (tracked.newest _ _ _ drawing_eq).2
    obtain ⟨last, more, stored_eq⟩ := List.exists_cons_of_ne_nil (List.ne_nil_of_mem stored)
    have last_eq : session.stored.head? = some last := by rw [stored_eq]; rfl
    exact ⟨newest, last,
      { drawing_eq
        body_eq
        stored
        last_eq
        delivered_eq := (rest.delivered_eq reach tracked).trans last_eq
        in_order := tracked.eq_newest stored_eq drawing_eq stored }⟩

/-! ## A frame that is overtaken -/

theorem Redrawn.steps (redrawn : Redrawn model flags options session)
    (steps : Relation.ReflTransGen (Step model) session later) :
    Redrawn model flags options later := by
  induction steps with
  | refl => exact redrawn
  | tail before step ih => exact ih.step step

/-- Whether the worker is to draw right now. -/
def rendersNow (worker : Worker Msg) : Bool :=
  match worker.wait, worker.jobs with
  | .nothing, .render :: _ => true
  | _, _ => false

theorem Reach.redrawn (reach : Reach model flags options session)
    (started : session.started = true) (found : session.workers.any rendersNow = true) :
    Redrawn model flags options session := by
  obtain ⟨worker, member, renders⟩ := List.any_eq_true.mp found
  unfold rendersNow at renders
  split at renders
  · rename_i rest free jobs_eq
    exact .draws reach started member ⟨free, jobs_eq⟩
  · cases renders

/-- A program that shows a digit. A key sets it back and starts two tasks that set it. -/
def digits : Model Unit String String where
  init _ _ := ("0", .none)
  ofKey _ := "0"
  update _ message :=
    (message, if message = "0" then .several [.task ⟨0, "1"⟩, .task ⟨0, "2"⟩] else .none)
  resize state _ := (state, .none)
  draw state buffer := buffer.put 0 0 { Screen.Cell.empty with symbol := state }

/-- The smallest of all screens and queues. -/
def tight : SessionOptions := { geometry := .clamp 1 1, queueCapacity := 1 }

/-- A session whose loops have been opened: worker 1 started it, 2 and 3 are the loops, and 4 waits
for the time of the first drawing. -/
def openedDigits : Session Unit String String :=
  ([1, 1, 1, 1, 1, 1, 1, 2, 2, 3, 4].foldlM (advance digits false)
    ((idle () tight).ask (.start 7))).get (by decide +kernel)

/-- The time of the first drawing has come. -/
def awokenDigits : Session Unit String String :=
  ([4].foldlM (advance digits false) (openedDigits.elapse 50)).get (by decide +kernel)

/-- The first drawing has been delivered. -/
def settledDigits : Session Unit String String :=
  ([4, 4, 3, 3, 3].foldlM (advance digits false) awokenDigits).get (by decide +kernel)

theorem redrawn_settledDigits : Redrawn digits () tight settledDigits := by
  have opens : Relation.ReflTransGen (Step digits) ((idle () tight).ask (.start 7)) openedDigits :=
    steps_of_foldlM (Option.some_get _).symm
  have wakes : Relation.ReflTransGen (Step digits) (openedDigits.elapse 50) awokenDigits :=
    steps_of_foldlM (Option.some_get _).symm
  have draws : Relation.ReflTransGen (Step digits) awokenDigits settledDigits :=
    steps_of_foldlM (Option.some_get _).symm
  have asked : Reach digits () tight ((idle () tight).ask (.start 7)) := Reach.idle.step (.ask _ _)
  have reach : Reach digits () tight awokenDigits :=
    ((asked.steps opens).step (.elapse _ 50 (by decide +kernel))).steps wakes
  exact (reach.redrawn (by decide +kernel) (by decide +kernel)).steps draws

theorem rest_displays_settledDigits :
    AtRest settledDigits ∧ InOrder settledDigits ∧ settledDigits.state = some "0" ∧
      ∃ frame, settledDigits.latest Event.delivered? = some frame ∧
        frame.repaint.body = digits.render "0" settledDigits.geometry := by
  have rest : AtRest settledDigits :=
    ⟨by decide +kernel, by decide +kernel, by decide +kernel, by decide +kernel,
      by decide +kernel⟩
  have shown : settledDigits.state = some "0" := by decide +kernel
  have in_order : InOrder settledDigits := by
    unfold InOrder
    decide +kernel
  obtain ⟨⟨newest, last, displayed⟩, -⟩ :=
    rest_displays redrawn_settledDigits rest shown (by decide +kernel)
  exact ⟨rest, in_order, shown, newest, displayed.in_order in_order ▸ displayed.delivered_eq,
    displayed.body_eq⟩

/-- Two tasks bring "1" and "2" while the queue is full. The drawing of "1" waits for room; when the
writer has made some, the drawing of "2" takes it, and "1" is stored and delivered after "2". -/
theorem not_rest_displays : ∃ session : Session Unit String String,
    Redrawn digits () tight session ∧ AtRest session ∧ session.state = some "2" ∧
      (session.link.paused || session.link.broken || session.link.gone) = false ∧
      digits.render "2" session.geometry = "2" ∧
      (session.latest Event.delivered?).map (fun frame => frame.repaint.body) = some "1" := by
  let keyed := settledDigits.ask (.input (.char 'a'))
  -- Worker 5 gives the key to the program, 6 and 7 are the tasks, and 8 draws later.
  let session := ([5, 5, 5, 5, 5, 6, 6, 6, 6, 6, 3, 7, 7, 7, 7, 7, 7, 6, 3, 3, 6, 6, 3, 3, 3, 3,
    8].foldlM (advance digits false) keyed).get (by decide +kernel)
  have overtakes : Relation.ReflTransGen (Step digits) keyed session :=
    steps_of_foldlM (Option.some_get _).symm
  have redrawn : Redrawn digits () tight session :=
    (redrawn_settledDigits.step (.ask _ _)).steps overtakes
  have rest : AtRest session :=
    ⟨by decide +kernel, by decide +kernel, by decide +kernel, by decide +kernel,
      by decide +kernel⟩
  exact ⟨session, redrawn, rest, by decide +kernel, by decide +kernel, by decide +kernel,
    by decide +kernel⟩

end Session

end Showcase
