import Showcase.Proofs.Session.Drawing
import Showcase.Proofs.Session.Replaying

/-!
# The geometry of a session

A session keeps the geometry of its client, and the program is told about it. The session's geometry
is the one that it began with until the program is started, once, and the one that the program was
given last from then on. Frames are drawn at it, from the state that the program is in.
-/

namespace Showcase

variable {Flags State Msg : Type}

/-- The geometry that the program was given: at its start, or by a resize. -/
def Event.given? : Event State Msg → Option Geometry
  | began geometry => some geometry
  | resized _ geometry => some geometry
  | _ => none

/-- The geometry that the program was started with. -/
def Event.begun? : Event State Msg → Option Geometry
  | began geometry => some geometry
  | _ => none

/-- The geometry that the program was given last in the course of some events. -/
def lastGiven (events : List (Event State Msg)) : Option Geometry :=
  events.reverse.findSome? Event.given?

/-- Whether the event is neither about the geometry nor about a drawing. -/
def Event.IsPlain (event : Event State Msg) : Prop := event.given? = none ∧ event.drawing? = none

theorem Event.begun?_of_isPlain {event : Event State Msg} (plain : event.IsPlain) :
    event.begun? = none := by
  cases event <;> first | rfl | cases plain.1

namespace Session

variable {model : Model Flags State Msg} {flags : Flags} {options : SessionOptions}
  {session later base : Session Flags State Msg} {late : Bool} {worker next : Worker Msg}
  {jobs : List (List (Job Msg))} {before after : List (Worker Msg)} {rest : List (Job Msg)}

/-! ## What a step does to the geometry -/

/-- What a turn adds to the history about the geometry and the drawings. -/
inductive Marks (model : Model Flags State Msg) (session : Session Flags State Msg)
    (worker : Worker Msg) (base : Session Flags State Msg) : Prop where
  | nothing (added : List (Event State Msg)) (history_eq : base.history = added ++ session.history)
      (plain : ∀ event ∈ added, event.IsPlain) (started_eq : base.started = session.started)
      (geometry_eq : base.geometry = session.geometry)
  | begins (added : List (Event State Msg))
      (history_eq : base.history = added ++ .began session.geometry :: session.history)
      (plain : ∀ event ∈ added, event.IsPlain) (fresh : session.started = false)
      (started : base.started = true) (geometry_eq : base.geometry = session.geometry)
  | resizes {geometry : Geometry} {state : State} {rest : List (Job Msg)}
      (added : List (Event State Msg)) (doing : Doing worker (.resize geometry) rest)
      (shown : session.state = some state)
      (history_eq : base.history = added ++ .resized worker.id geometry :: session.history)
      (plain : ∀ event ∈ added, event.IsPlain) (started_eq : base.started = session.started)
      (geometry_eq : base.geometry = geometry)
  | draws {frame : Frame} {state : State} (added : List (Event State Msg))
      (shown : session.state = some state)
      (body_eq : frame.repaint.body = model.render state session.geometry)
      (history_eq : base.history =
        added ++ .drawn frame session.geometry state :: session.history)
      (plain : ∀ event ∈ added, event.IsPlain) (started_eq : base.started = session.started)
      (geometry_eq : base.geometry = session.geometry)

theorem history_cancel (session : Session Flags State Msg) :
    session.cancel.history =
      if session.cancelled then session.history else .cancelled :: session.history := by
  unfold cancel
  split <;> rfl

theorem isPlain_absorb (session : Session Flags State Msg) (outcome : Outcome State Msg) :
    ∃ added, (session.absorb outcome).history = added ++ session.history ∧
      ∀ event ∈ added, event.IsPlain :=
  history_absorb Event.IsPlain (fun _ _ => ⟨rfl, rfl⟩) (fun _ _ => ⟨rfl, rfl⟩) session outcome

theorem Holds.marks {purpose : Purpose} {held : Session Flags State Msg}
    (holds : Holds session worker purpose rest held) (added : List (Event State Msg))
    (history_eq : base.history = added ++ held.history)
    (plain : ∀ event ∈ added, event.IsPlain) (started_eq : base.started = held.started)
    (geometry_eq : base.geometry = held.geometry) : Marks model session worker base := by
  cases holds <;> exact .nothing added history_eq plain started_eq geometry_eq

theorem Seeks.marks {found : Session Flags State Msg} (seeks : Seeks session worker rest found)
    (added : List (Event State Msg)) (history_eq : base.history = added ++ found.history)
    (plain : ∀ event ∈ added, event.IsPlain) (started_eq : base.started = found.started)
    (geometry_eq : base.geometry = found.geometry) : Marks model session worker base := by
  cases seeks <;> exact .nothing added history_eq plain started_eq geometry_eq

theorem Brings.marks {frame : Frame} {deadline : Nat} {brought : Session Flags State Msg}
    (brings : Brings model session worker frame deadline rest brought)
    (added : List (Event State Msg)) (history_eq : base.history = added ++ brought.history)
    (plain : ∀ event ∈ added, event.IsPlain) (started_eq : base.started = brought.started)
    (geometry_eq : base.geometry = brought.geometry) : Marks model session worker base := by
  cases brings with
  | draws doing live shown => exact .draws added shown rfl history_eq plain started_eq geometry_eq
  | retries => exact .nothing added history_eq plain started_eq geometry_eq

theorem Turn.marks (turn : Turn model late session worker base jobs next) :
    Marks model session worker base := by
  have plain {event : Event State Msg} (given : event.given? = none)
      (drawing : event.drawing? = none) : ∀ other ∈ [event], other.IsPlain :=
    List.forall_mem_singleton.mpr ⟨given, drawing⟩
  cases turn with
  | starts doing fresh =>
      obtain ⟨added, history_eq, plain⟩ := isPlain_absorb _ _
      exact .begins added history_eq plain fresh rfl rfl
  | @input key state rest outcome doing shown =>
      obtain ⟨added, history_eq, plain⟩ :=
        isPlain_absorb (session.note [.input worker.id key]) outcome
      refine .nothing (added ++ [.input worker.id key]) ?_ ?_ rfl rfl
      · rw [List.append_assoc]
        exact history_eq
      · exact List.forall_mem_append.mpr ⟨plain, List.forall_mem_singleton.mpr ⟨rfl, rfl⟩⟩
  | resize doing shown =>
      obtain ⟨added, history_eq, plain⟩ := isPlain_absorb _ _
      exact .resizes added doing shown history_eq plain rfl rfl
  | followsUp | drops =>
      obtain ⟨added, history_eq, plain⟩ := isPlain_absorb _ _
      exact .nothing added history_eq plain rfl rfl
  | shutsDown =>
      rw [cancel_eq, history_cancel]
      split
      · exact .nothing [] rfl (List.forall_mem_nil _) rfl rfl
      · exact .nothing [_] rfl (plain rfl rfl) rfl rfl
  | keeps holds | closesNothing holds | skipsWrite holds =>
      exact holds.marks [] rfl (List.forall_mem_nil _) rfl rfl
  | closes holds | awaitsDelivery holds => exact holds.marks [_] rfl (plain rfl rfl) rfl rfl
  | failsWrite holds | writes holds =>
      refine holds.marks [_, _] rfl (List.forall_mem_cons.mpr ⟨⟨rfl, rfl⟩, plain rfl rfl⟩) rfl rfl
  | deliveryFails | delivers | pushesLate | receives | reports =>
      exact .nothing [_] rfl (plain rfl rfl) rfl rfl
  | pushes brings => exact brings.marks [_] rfl (plain rfl rfl) rfl rfl
  | awaitsRoom brings => exact brings.marks [] rfl (List.forall_mem_nil _) rfl rfl
  | takes seeks => exact seeks.marks [_] rfl (plain rfl rfl) rfl rfl
  | findsClosed seeks | awaitsFrame seeks =>
      exact seeks.marks [] rfl (List.forall_mem_nil _) rfl rfl
  | _ => exact .nothing [] rfl (List.forall_mem_nil _) rfl rfl

/-- A session that has not started has no program. -/
theorem Turn.unshown (unstarted : session.started = false → session.state = none)
    (turn : Turn model late session worker base jobs next) :
    base.started = false → base.state = none := by
  have absurd_of_shown {state : State} (shown : session.state = some state)
      (fresh : session.started = false) : base.state = none := by
    rw [unstarted fresh] at shown
    cases shown
  cases turn with
  | starts => exact nofun
  | input doing shown | resize doing shown | followsUp doing shown | drops doing shown =>
      exact absurd_of_shown shown
  | shutsDown =>
      rw [cancel_eq]
      exact unstarted
  | keeps holds | closesNothing holds | closes holds | skipsWrite holds | failsWrite holds
  | writes holds | awaitsDelivery holds => cases holds <;> exact unstarted
  | pushes brings | awaitsRoom brings => cases brings <;> exact unstarted
  | takes seeks | findsClosed seeks | awaitsFrame seeks => cases seeks <;> exact unstarted
  | _ => exact unstarted

/-! ## The drawings -/

/-- The frame shows what the program had come to after some events, at the geometry that it was
given last. -/
structure Depicts (model : Model Flags State Msg) (flags : Flags)
    (events : List (Event State Msg)) (frame : Frame) (geometry : Geometry) (state : State) :
    Prop where
  given : lastGiven events = some geometry
  state_eq : model.replay flags none events = some state
  body_eq : frame.repaint.body = model.render state geometry

/-- Every drawing shows the program as it was when it was drawn. -/
def Faithful (model : Model Flags State Msg) (flags : Flags)
    (events : List (Event State Msg)) : Prop :=
  ∀ before after frame geometry state, events = before ++ .drawn frame geometry state :: after →
    Depicts model flags before frame geometry state

theorem Faithful.grows {events added : List (Event State Msg)}
    (faithful : Faithful model flags events)
    (new : ∀ within after frame geometry state,
      added = within ++ .drawn frame geometry state :: after →
        Depicts model flags (events ++ within) frame geometry state) :
    Faithful model flags (events ++ added) := by
  intro before after frame geometry state split
  rcases List.append_eq_append_iff.mp split with ⟨within, rfl, added_eq⟩ | ⟨since, old, rest_eq⟩
  · exact new within after frame geometry state added_eq
  · cases since with
    | nil =>
        obtain rfl : events = before := old.trans (List.append_nil _)
        simpa using new [] after frame geometry state rest_eq.symm
    | cons event since =>
        obtain ⟨rfl, -⟩ := List.cons_eq_cons.mp rest_eq
        exact faithful before since frame geometry state old

theorem Faithful.plain {events added : List (Event State Msg)}
    (faithful : Faithful model flags events) (plain : ∀ event ∈ added, event.IsPlain) :
    Faithful model flags (events ++ added) := by
  refine faithful.grows fun within after frame geometry state added_eq => ?_
  have drawing := (plain (.drawn frame geometry state) (by simp [added_eq])).2
  cases drawing

theorem lastGiven_append (events added : List (Event State Msg)) :
    lastGiven (events ++ added) = (lastGiven added).or (lastGiven events) := by
  simp [lastGiven, List.findSome?_append]

theorem lastGiven_of_plain {added : List (Event State Msg)}
    (plain : ∀ event ∈ added, event.IsPlain) : lastGiven added = none :=
  List.findSome?_eq_none_iff.mpr fun event member => (plain event (List.mem_reverse.mp member)).1

/-! ## Every run -/

/-- The geometry of the session is the one that it began with until the program is started, and then
the one that the program was given last. -/
structure Gauged (model : Model Flags State Msg) (flags : Flags) (options : SessionOptions)
    (session : Session Flags State Msg) : Prop where
  unstarted : session.started = false → session.state = none
  idle : session.started = false → session.geometry = options.geometry
  given : session.started = true → lastGiven session.events = some session.geometry
  faithful : Faithful model flags session.events

theorem events_of_history_eq {added : List (Event State Msg)}
    (history_eq : later.history = added ++ session.history) :
    later.events = session.events ++ added.reverse := by
  simp [events, history_eq]

theorem forall_mem_reverse {holds : Event State Msg → Prop} {added : List (Event State Msg)}
    (all : ∀ event ∈ added, holds event) : ∀ event ∈ added.reverse, holds event :=
  fun event member => all event (List.mem_reverse.mp member)

/-- The history goes on with events that are neither about the geometry nor about drawings. -/
theorem Gauged.plain (gauged : Gauged model flags options session)
    (unstarted : later.started = false → later.state = none) (added : List (Event State Msg))
    (history_eq : later.history = added ++ session.history)
    (plain : ∀ event ∈ added, event.IsPlain) (started_eq : later.started = session.started)
    (geometry_eq : later.geometry = session.geometry) : Gauged model flags options later := by
  have events_eq := events_of_history_eq history_eq
  have plain := forall_mem_reverse plain
  refine ⟨unstarted, ?_, ?_, events_eq ▸ gauged.faithful.plain plain⟩
  · rw [started_eq, geometry_eq]
    exact gauged.idle
  · rw [started_eq, geometry_eq, events_eq, lastGiven_append, lastGiven_of_plain plain]
    exact gauged.given

/-- The program is given a geometry, which is the session's from then on. -/
theorem Gauged.gives (gauged : Gauged model flags options session)
    (started : later.started = true) {event : Event State Msg} {added : List (Event State Msg)}
    (history_eq : later.history = added ++ event :: session.history)
    (plain : ∀ event ∈ added, event.IsPlain) (given : event.given? = some later.geometry)
    (undrawn : event.drawing? = none) : Gauged model flags options later := by
  have events_eq : later.events = session.events ++ event :: added.reverse := by
    simp [events, history_eq]
  have plain := forall_mem_reverse plain
  have idle : later.started ≠ false := by simp [started]
  refine ⟨fun fresh => absurd fresh idle, fun fresh => absurd fresh idle, fun _ => ?_, ?_⟩
  · rw [events_eq, ← List.singleton_append, lastGiven_append, lastGiven_append,
      lastGiven_of_plain plain]
    simp [lastGiven, given]
  · rw [events_eq]
    refine gauged.faithful.grows fun within after frame geometry state split => ?_
    have present : .drawn frame geometry state ∈ event :: added.reverse := by simp [split]
    rcases List.mem_cons.mp present with rfl | added
    · cases undrawn
    · cases (plain _ added).2

/-- A program that is shown was started. -/
theorem Gauged.started_of_shown (gauged : Gauged model flags options session) {state : State}
    (shown : session.state = some state) : session.started = true := by
  by_contra fresh
  rw [gauged.unstarted (Bool.of_not_eq_true fresh)] at shown
  cases shown

/-- The program is drawn as it is. -/
theorem Gauged.draws (gauged : Gauged model flags options session)
    (reach : Reach model flags options session) {frame : Frame} {state : State}
    (shown : session.state = some state)
    (body_eq : frame.repaint.body = model.render state session.geometry) :
    Gauged model flags options
      { session with history := .drawn frame session.geometry state :: session.history } := by
  have given := gauged.given (gauged.started_of_shown shown)
  have events_eq : (.drawn frame session.geometry state :: session.history).reverse =
      session.events ++ [.drawn frame session.geometry state] := by simp [events]
  refine ⟨gauged.unstarted, gauged.idle, fun _ => ?_, ?_⟩
  · show lastGiven (List.reverse _) = some session.geometry
    rw [events_eq, lastGiven_append, given]
    rfl
  · show Faithful model flags (List.reverse _)
    rw [events_eq]
    refine gauged.faithful.grows fun within after other geometry state' split => ?_
    obtain ⟨rfl, last⟩ : within = [] ∧ [.drawn frame session.geometry state] =
        .drawn other geometry state' :: after := by
      cases within with
      | nil => exact ⟨rfl, split⟩
      | cons event within => simp at split
    cases last
    rw [List.append_nil]
    exact ⟨given, reach.state_eq_replay.symm.trans shown, body_eq⟩

theorem Gauged.turns (reach : Reach model flags options session)
    (gauged : Gauged model flags options session)
    (turns : Turns model late session worker later base jobs next before after) :
    Gauged model flags options later := by
  have unstarted := turns.turn.unshown gauged.unstarted
  rw [turns.later_eq]
  cases turns.turn.marks with
  | nothing added history_eq plain started_eq geometry_eq =>
      exact gauged.plain unstarted added history_eq plain started_eq geometry_eq
  | begins added history_eq plain fresh started geometry_eq =>
      exact gauged.gives started history_eq plain (congrArg some geometry_eq.symm) rfl
  | resizes added doing shown history_eq plain started_eq geometry_eq =>
      exact gauged.gives (started_eq.trans (gauged.started_of_shown shown)) history_eq plain
        (congrArg some geometry_eq.symm) rfl
  | draws added shown body_eq history_eq plain started_eq geometry_eq =>
      exact (gauged.draws reach shown body_eq).plain unstarted added history_eq plain started_eq
        geometry_eq

theorem Change.gauged (reach : Reach model flags options session)
    (gauged : Gauged model flags options session) (change : Change model session later) :
    Gauged model flags options later := by
  cases change with
  | turns advanced turns => exact gauged.turns reach turns
  | ends ended later_eq =>
      rw [later_eq]
      have history_eq := history_cancel session
      rw [cancel_eq, history_eq]
      split
      · exact gauged.plain gauged.unstarted [] rfl (List.forall_mem_nil _) rfl rfl
      · exact gauged.plain gauged.unstarted [.cancelled] rfl
          (List.forall_mem_singleton.mpr ⟨rfl, rfl⟩) rfl rfl
  | stays stays =>
      obtain ⟨started_eq, state_eq, geometry_eq, -, -, -, history_eq, -⟩ := stays
      refine gauged.plain ?_ [] history_eq (List.forall_mem_nil _) started_eq geometry_eq
      rw [started_eq, state_eq]
      exact gauged.unstarted

theorem Reach.gauged (reach : Reach model flags options session) :
    Gauged model flags options session := by
  induction reach with
  | idle =>
      refine ⟨fun _ => rfl, fun _ => rfl, nofun, fun before after frame geometry state split => ?_⟩
      have split : [] = before ++ .drawn frame geometry state :: after := split
      simp at split
  | step before step ih => exact (step.move before.identified).change.gauged before ih

/-! ## One start -/

/-- The geometries that the program was started with, in order. -/
def beginnings (session : Session Flags State Msg) : List Geometry :=
  session.events.filterMap Event.begun?

theorem beginnings_append {added : List (Event State Msg)}
    (events_eq : later.events = session.events ++ added) :
    later.beginnings = session.beginnings ++ added.filterMap Event.begun? := by
  rw [beginnings, events_eq, List.filterMap_append]
  rfl

theorem filterMap_begun?_of_plain {added : List (Event State Msg)}
    (plain : ∀ event ∈ added, event.IsPlain) : added.filterMap Event.begun? = [] :=
  List.filterMap_eq_nil_iff.mpr fun event member => Event.begun?_of_isPlain (plain event member)

/-- A start is the first one, and the other turns start nothing. -/
theorem Marks.beginnings_eq (marks : Marks model session worker base) :
    base.started = session.started ∧ base.beginnings = session.beginnings ∨
      session.started = false ∧ base.started = true ∧
        base.beginnings = session.beginnings ++ [session.geometry] := by
  have silent {event : Event State Msg} {added : List (Event State Msg)}
      (history_eq : base.history = added ++ event :: session.history)
      (plain : ∀ event ∈ added, event.IsPlain) :
      base.beginnings = session.beginnings ++ event.begun?.toList := by
    have events_eq : base.events = session.events ++ (event :: added.reverse) := by
      simp [events, history_eq]
    rw [beginnings_append events_eq, List.filterMap_cons,
      filterMap_begun?_of_plain (forall_mem_reverse plain)]
    cases event.begun? <;> rfl
  cases marks with
  | nothing added history_eq plain started_eq =>
      refine .inl ⟨started_eq, ?_⟩
      rw [beginnings_append (events_of_history_eq history_eq),
        filterMap_begun?_of_plain (forall_mem_reverse plain), List.append_nil]
  | begins added history_eq plain fresh started =>
      exact .inr ⟨fresh, started, silent history_eq plain⟩
  | resizes added doing shown history_eq plain started_eq
  | draws added shown body_eq history_eq plain started_eq =>
      exact .inl ⟨started_eq, (silent history_eq plain).trans (List.append_nil _)⟩

/-- The program is started once at most, at the geometry that the session began with. -/
theorem Reach.beginnings_eq (reach : Reach model flags options session) :
    session.beginnings = if session.started then [options.geometry] else [] := by
  induction reach with
  | idle => rfl
  | @step session later before step ih =>
      cases (step.move before.identified).change with
      | turns advanced turns =>
          have started_eq : later.started = _ := congrArg Session.started turns.later_eq
          have beginnings_eq : later.beginnings = _ := congrArg Session.beginnings turns.later_eq
          rcases turns.turn.marks.beginnings_eq with ⟨same, silent⟩ | ⟨fresh, started, begun⟩
          · rw [started_eq, beginnings_eq]
            exact (silent.trans ih).trans (by rw [same])
          · rw [fresh] at ih
            rw [started_eq, beginnings_eq]
            refine begun.trans ?_
            rw [ih, before.gauged.idle fresh, started]
            rfl
      | ends ended later_eq =>
          have started_eq : later.started = session.started := by rw [later_eq, cancel_eq]
          have history_eq : later.history = session.cancel.history := by rw [later_eq]
          rw [started_eq, ← ih, beginnings, beginnings, events, history_eq, history_cancel]
          split
          · rfl
          · simp [events, Event.begun?]
      | stays stays =>
          rw [stays.started_eq, ← ih, beginnings, events, stays.history_eq]
          rfl

end Session

end Showcase
