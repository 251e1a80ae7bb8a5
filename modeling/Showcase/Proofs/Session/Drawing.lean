import Showcase.Proofs.Session.Closing

/-!
# The latest drawing

Whenever the program or the geometry changes, the worker that made the change is about to draw. From
the first time that a worker came to draw a started program, the latest drawing shows the program as
it is, unless a worker is about to draw it, there is nothing to see, or the session has ended.
-/

namespace Showcase

variable {State Msg : Type}

/-- What was drawn: the frame, the geometry and the state. -/
def Event.drawing? : Event State Msg → Option (Frame × Geometry × State)
  | drawn frame geometry state => some (frame, geometry, state)
  | _ => none

/-- Whether the jobs begin with one that draws, before any at which the worker may have to wait; the
end of the session makes drawing needless. -/
def draws : List (Job Msg) → Bool
  | .render :: _ | .shutdown :: _ => true
  | .apply _ _ :: rest => draws rest
  | _ => false

def Wait.isNothing : Wait Msg → Bool
  | nothing => true
  | _ => false

/-- Whether the worker is about to draw. -/
def Worker.draws (worker : Worker Msg) : Bool := worker.wait.isNothing && Showcase.draws worker.jobs

namespace Session

variable {Flags : Type} {model : Model Flags State Msg} {flags : Flags}
  {options : SessionOptions} {session later base : Session Flags State Msg} {late : Bool}
  {worker next : Worker Msg} {jobs : List (List (Job Msg))} {before after : List (Worker Msg)}
  {rest : List (Job Msg)}

/-- The latest event of a kind. -/
def latest {Item : Type} (read : Event State Msg → Option Item)
    (session : Session Flags State Msg) : Option Item := session.history.findSome? read

/-- Events of other kinds leave the latest one as it was. -/
theorem latest_of_quiet {Item : Type} {read : Event State Msg → Option Item}
    (added : List (Event State Msg)) (history_eq : later.history = added ++ session.history)
    (quiet : ∀ event ∈ added, read event = none) : later.latest read = session.latest read := by
  have none : added.findSome? read = none := List.findSome?_eq_none_iff.mpr quiet
  rw [latest, history_eq, List.findSome?_append, none]
  rfl

/-- Updates and dropped messages are all that an event adds to the history. -/
theorem history_absorb (quiet : Event State Msg → Prop)
    (updated : ∀ depth message, quiet (.updated depth message))
    (dropped : ∀ depth message, quiet (.dropped depth message))
    (session : Session Flags State Msg) (outcome : Outcome State Msg) :
    ∃ added, (session.absorb outcome).history = added ++ session.history ∧
      ∀ event ∈ added, quiet event := by
  refine ⟨_, rfl, fun event member => ?_⟩
  rcases List.mem_append.mp (List.mem_reverse.mp member) with old | new
  · obtain ⟨update, -, rfl⟩ := List.mem_map.mp old
    exact updated _ _
  · obtain ⟨message, -, rfl⟩ := List.mem_map.mp new
    exact dropped _ _

/-! ## What a step does to the drawings -/

/-- The view of the program is what the latest drawing shows, or there is nothing to see. -/
def Current (model : Model Flags State Msg) (session : Session Flags State Msg) : Prop :=
  ∀ state, session.state = some state →
    (model.render state session.geometry).isEmpty = false → ∃ frame,
      session.latest Event.drawing? = some (frame, session.geometry, state) ∧
        frame.repaint.body = model.render state session.geometry

/-- What a step does to what is drawn and to what there is to draw. -/
inductive Paints (model : Model Flags State Msg) (session : Session Flags State Msg)
    (worker next : Worker Msg) (base : Session Flags State Msg) : Prop where
  | begins (fresh : session.started = false)
  | changes (draws : next.draws = true)
  | same (state_eq : base.state = session.state) (geometry_eq : base.geometry = session.geometry)
      (latest_eq : base.latest Event.drawing? = session.latest Event.drawing?)
      (draws : worker.draws = true → next.draws = true)
  | draws (current : Current model base)
  | ends (ended : base.cancelled = true)

theorem Doing.draws_eq {job : Job Msg} (doing : Doing worker job rest) :
    worker.draws = Showcase.draws (job :: rest) := by
  rw [Worker.draws, doing.free, doing.jobs_eq]
  rfl

section

variable (added : List (Event State Msg)) (history_eq : base.history = added ++ session.history)
  (quiet : ∀ event ∈ added, event.drawing? = none) (state_eq : base.state = session.state)
  (geometry_eq : base.geometry = session.geometry)

include history_eq quiet state_eq geometry_eq

theorem Paints.of_waits {wait : Wait Msg} (waits : worker.wait = wait)
    (busy : wait.isNothing = false) : Paints model session worker next base :=
  .same state_eq geometry_eq (latest_of_quiet added history_eq quiet) fun draws => by
    simp [Worker.draws, waits, busy] at draws

theorem Paints.of_doing {job : Job Msg} (doing : Doing worker job rest)
    (other : Showcase.draws (job :: rest) = false) : Paints model session worker next base :=
  .same state_eq geometry_eq (latest_of_quiet added history_eq quiet) fun draws => by
    simp [doing.draws_eq, other] at draws

end

theorem Holds.paints {purpose : Purpose} {held : Session Flags State Msg}
    (holds : Holds session worker purpose rest held) (added : List (Event State Msg))
    (history_eq : base.history = added ++ held.history)
    (quiet : ∀ event ∈ added, event.drawing? = none) (state_eq : base.state = held.state)
    (geometry_eq : base.geometry = held.geometry) : Paints model session worker next base := by
  cases holds with
  | acquires doing => exact .of_doing added history_eq quiet state_eq geometry_eq doing rfl
  | granted waits => exact .of_waits added history_eq quiet state_eq geometry_eq waits rfl

theorem Seeks.paints {found : Session Flags State Msg}
    (seeks : Seeks session worker rest found) (added : List (Event State Msg))
    (history_eq : base.history = added ++ found.history)
    (quiet : ∀ event ∈ added, event.drawing? = none) (state_eq : base.state = found.state)
    (geometry_eq : base.geometry = found.geometry) : Paints model session worker next base := by
  cases seeks with
  | begins doing => exact .of_doing added history_eq quiet state_eq geometry_eq doing rfl
  | retries waits => exact .of_waits added history_eq quiet state_eq geometry_eq waits rfl

theorem Listens.paints (listens : Listens session worker rest) (added : List (Event State Msg))
    (history_eq : base.history = added ++ session.history)
    (quiet : ∀ event ∈ added, event.drawing? = none) (state_eq : base.state = session.state)
    (geometry_eq : base.geometry = session.geometry) : Paints model session worker next base := by
  cases listens with
  | begins doing => exact .of_doing added history_eq quiet state_eq geometry_eq doing rfl
  | retries waits => exact .of_waits added history_eq quiet state_eq geometry_eq waits rfl

theorem Brings.paints {frame : Frame} {deadline : Nat} {brought : Session Flags State Msg}
    (brings : Brings model session worker frame deadline rest brought)
    (added : List (Event State Msg)) (history_eq : base.history = added ++ brought.history)
    (quiet : ∀ event ∈ added, event.drawing? = none) (state_eq : base.state = brought.state)
    (geometry_eq : base.geometry = brought.geometry) : Paints model session worker next base := by
  cases brings with
  | retries waits => exact .of_waits added history_eq quiet state_eq geometry_eq waits rfl
  | draws doing live shown visible =>
      refine .draws fun state found _ => ?_
      obtain rfl := Option.some.inj (found.symm.trans (state_eq.trans shown))
      rw [geometry_eq, latest_of_quiet added history_eq quiet]
      exact ⟨_, rfl, rfl⟩

theorem Passes.paints (passes : Passes model late session worker rest) :
    Paints model session worker next session := by
  cases passes with
  | render doing nothing =>
      rcases nothing with ended | idle | ⟨state, shown, blank⟩
      · exact .ends ended
      · refine .draws fun state found => ?_
        rw [idle] at found
        cases found
      · refine .draws fun other found visible => ?_
        obtain rfl := Option.some.inj (found.symm.trans shown)
        rw [blank] at visible
        cases visible
  | finished listens => exact listens.paints [] rfl (by simp) rfl rfl
  | input doing | resize doing | followUp doing | read doing | beat doing | write doing
  | heartbeat doing => exact .of_doing [] rfl (by simp) rfl rfl doing rfl
  | inboundEnds waits | beatEnds waits | timeEnds waits | joined waits =>
      exact .of_waits [] rfl (by simp) rfl rfl waits rfl

/-- A message that is too deep changes nothing. -/
theorem followUp_deep {depth : Nat} (deep : ¬ depth < maxDepth) (state : State) (message : Msg) :
    (model.followUp state depth message).state = state := by
  rw [Model.followUp, if_neg deep]

theorem Turn.paints (turn : Turn model late session worker base jobs next) :
    Paints model session worker next base := by
  cases turn with
  | passes passes => exact passes.paints
  | starts doing fresh => exact .begins fresh
  | input | resize | followsUp => exact .changes rfl
  | drops doing shown deep =>
      obtain ⟨added, history_eq, quiet⟩ := history_absorb (fun event => event.drawing? = none)
        (fun _ _ => rfl) (fun _ _ => rfl) session _
      refine .same ?_ rfl (latest_of_quiet added history_eq quiet) fun draws => ?_
      · rw [shown]
        exact congrArg some (followUp_deep deep _ _)
      · rw [doing.draws_eq] at draws
        cases draws
  | @applies pending quit rest doing =>
      refine .same rfl rfl rfl fun draws => ?_
      rw [doing.draws_eq] at draws
      cases quit with
      | false => exact draws
      | true => rfl
  | shutsDown doing => exact .ends (by rw [cancel_eq])
  | startFails doing | runFails doing | opensLoops doing | rendersLater doing | sleeps doing
  | awaitsLock doing | awaitsInbound doing | runs doing | heartbeat doing | awaitsBeat doing
  | joins doing => exact .of_doing [] rfl (by simp) rfl rfl doing rfl
  | reports doing => exact .of_doing [_] rfl (by simp [Event.drawing?]) rfl rfl doing rfl
  | keeps holds | closesNothing holds | skipsWrite holds =>
      exact holds.paints [] rfl (by simp) rfl rfl
  | closes holds | awaitsDelivery holds =>
      exact holds.paints [_] rfl (by simp [Event.drawing?]) rfl rfl
  | failsWrite holds | writes holds =>
      exact holds.paints [_, _] rfl (by simp [Event.drawing?]) rfl rfl
  | deliveryEnds waits | frameEnds waits | rereads waits | beats waits | awakes waits
  | joinTimesOut waits | joinShrinks waits =>
      exact .of_waits [] rfl (by simp) rfl rfl waits rfl
  | deliveryFails waits | delivers waits | pushesLate waits =>
      exact .of_waits [_] rfl (by simp [Event.drawing?]) rfl rfl waits rfl
  | pushes brings => exact brings.paints [_] rfl (by simp [Event.drawing?]) rfl rfl
  | awaitsRoom brings => exact brings.paints [] rfl (by simp) rfl rfl
  | takes seeks => exact seeks.paints [_] rfl (by simp [Event.drawing?]) rfl rfl
  | findsClosed seeks | awaitsFrame seeks => exact seeks.paints [] rfl (by simp) rfl rfl
  | receives listens => exact listens.paints [_] rfl (by simp [Event.drawing?]) rfl rfl
  | readFails listens => exact listens.paints [] rfl (by simp) rfl rfl

/-! ## From the first drawing on -/

/-- A worker has come to draw the program since it started. -/
inductive Redrawn (model : Model Flags State Msg) (flags : Flags) (options : SessionOptions) :
    Session Flags State Msg → Prop where
  | draws {session : Session Flags State Msg} {worker : Worker Msg} {rest : List (Job Msg)}
      (reach : Reach model flags options session) (started : session.started = true)
      (member : worker ∈ session.workers) (doing : Doing worker .render rest) :
      Redrawn model flags options session
  | step {session later : Session Flags State Msg} (before : Redrawn model flags options session)
      (step : Step model session later) : Redrawn model flags options later

/-- The program is shown as it is, a worker is about to show it, or the session has ended. -/
def UpToDate (model : Model Flags State Msg) (session : Session Flags State Msg) : Prop :=
  session.cancelled = true ∨ (∃ worker ∈ session.workers, worker.draws = true) ∨
    Current model session

theorem Redrawn.reach (redrawn : Redrawn model flags options session) :
    Reach model flags options session := by
  induction redrawn with
  | draws reach => exact reach
  | step before step ih => exact ih.step step

theorem Current.transfer (current : Current model session) (state_eq : later.state = session.state)
    (geometry_eq : later.geometry = session.geometry)
    (latest_eq : later.latest Event.drawing? = session.latest Event.drawing?) :
    Current model later := by
  unfold Current
  rw [state_eq, geometry_eq, latest_eq]
  exact current

/-- Only a shutdown ends a session from within. -/
theorem Turn.cancelled_eq (turn : Turn model late session worker base jobs next) :
    base.cancelled = session.cancelled ∨
      base.cancelled = true ∧ base.history = session.cancel.history := by
  cases turn with
  | shutsDown => exact .inr ⟨by rw [cancel_eq], rfl⟩
  | keeps holds | closesNothing holds | closes holds | skipsWrite holds | failsWrite holds
  | writes holds | awaitsDelivery holds => cases holds <;> exact .inl rfl
  | pushes brings | awaitsRoom brings => cases brings <;> exact .inl rfl
  | takes seeks | findsClosed seeks | awaitsFrame seeks => cases seeks <;> exact .inl rfl
  | _ => exact .inl rfl

theorem Turn.cancelled (turn : Turn model late session worker base jobs next)
    (ended : session.cancelled = true) : base.cancelled = true := by
  rcases turn.cancelled_eq with same | ⟨ends, -⟩
  · exact same.trans ended
  · exact ends

theorem Turns.upToDate (started : session.started = true) (upToDate : UpToDate model session)
    (turns : Turns model late session worker later base jobs next before after) :
    UpToDate model later := by
  have present : next ∈ later.workers := turns.mem_later.mpr (.inl rfl)
  have cancelled_eq : later.cancelled = base.cancelled := by rw [turns.later_eq]
  cases turns.turn.paints with
  | begins fresh => simp [started] at fresh
  | changes draws => exact .inr (.inl ⟨next, present, draws⟩)
  | draws current => exact .inr (.inr (by rw [turns.later_eq]; exact current))
  | ends ended => exact .inl (cancelled_eq.trans ended)
  | same state_eq geometry_eq latest_eq draws =>
      rcases upToDate with ended | ⟨other, member, busy⟩ | current
      · exact .inl (cancelled_eq.trans (turns.turn.cancelled ended))
      · rw [turns.workers_eq] at member
        rcases eq_or_mem_around member with rfl | old
        · exact .inr (.inl ⟨next, present, draws busy⟩)
        · exact .inr (.inl ⟨other, turns.mem_later.mpr (.inr (.inl old)), busy⟩)
      · rw [turns.later_eq]
        exact .inr (.inr (current.transfer state_eq geometry_eq latest_eq))

theorem Stays.latest_eq {Item : Type} (stays : Stays session later)
    (read : Event State Msg → Option Item) : later.latest read = session.latest read := by
  rw [latest, latest, stays.history_eq]

theorem UpToDate.stays (upToDate : UpToDate model session) (stays : Stays session later) :
    UpToDate model later := by
  rcases upToDate with ended | ⟨worker, member, draws⟩ | current
  · exact .inl (stays.cancelled_eq.trans ended)
  · rcases stays.goes worker member with present | ⟨free, done⟩
    · exact .inr (.inl ⟨worker, present, draws⟩)
    · rw [Worker.draws, free, done] at draws
      cases draws
  · exact .inr (.inr (current.transfer stays.state_eq stays.geometry_eq (stays.latest_eq _)))

theorem Move.upToDate (started : session.started = true) (upToDate : UpToDate model session)
    (move : Move model session later) : UpToDate model later := by
  cases move.change with
  | turns advanced turns => exact turns.upToDate started upToDate
  | ends ended => exact .inl ended
  | stays stays => exact upToDate.stays stays

/-- From the first drawing on the program is shown as it is, but for a change in hand. -/
theorem Redrawn.upToDate (redrawn : Redrawn model flags options session) :
    session.started = true ∧ UpToDate model session := by
  induction redrawn with
  | draws reach started member doing =>
      exact ⟨started, .inr (.inl ⟨_, member, doing.draws_eq⟩)⟩
  | step before step ih =>
      obtain ⟨started, upToDate⟩ := ih
      have move := step.move before.reach.identified
      exact ⟨move.started started, move.upToDate started upToDate⟩

end Session

end Showcase
