import Showcase.Proofs.Session.Effects

/-!
# The program as the history tells it

The history of a session tells when the program began and what it was given: keys, geometries and
the messages that follow. Whoever goes through it from the start comes to the state that the program
is in. Each frame of the client is received once, in the order in which the client sent them, and
none after the end of the session.
-/

namespace Showcase

variable {Flags State Msg : Type} {model : Model Flags State Msg} {flags : Flags}

/-! ## Going through the history -/

/-- Whether the event is about what the client sent, what the program was given, or the end. -/
def Event.isTold : Event State Msg → Bool
  | began _ | received _ _ | input _ _ | resized _ _ | updated _ _ | cancelled => true
  | dropped _ _ | drawn _ _ _ | pushed _ _ | taken _ | writing _ | delivered _ _ | failed _
  | closed _ | reported _ _ => false

/-- What an event makes of the program. The first update after a key is the one by that key. -/
def Model.replayed (model : Model Flags State Msg) (flags : Flags) (state : Option State) :
    Event State Msg → Option State
  | .began geometry => some (model.init flags geometry).1
  | .input _ key => state.map fun state => (model.update state (model.ofKey key)).1
  | .resized _ geometry => state.map fun state => (model.resize state geometry).1
  | .updated 0 _ => state
  | .updated (_ + 1) message => state.map fun state => (model.update state message).1
  | _ => state

/-- What a history makes of a program. -/
def Model.replay (model : Model Flags State Msg) (flags : Flags) (state : Option State)
    (events : List (Event State Msg)) : Option State := events.foldl (model.replayed flags) state

theorem Model.replay_append (state : Option State) (events more : List (Event State Msg)) :
    model.replay flags state (events ++ more) =
      model.replay flags (model.replay flags state events) more := List.foldl_append

theorem Model.replay_filter (state : Option State) (events : List (Event State Msg)) :
    model.replay flags state (events.filter Event.isTold) = model.replay flags state events := by
  induction events generalizing state with
  | nil => rfl
  | cons event rest ih =>
      cases event with
      | began | received | input | resized | updated | cancelled => exact ih _
      | dropped | drawn | pushed | taken | writing | delivered | failed | closed | reported =>
          exact ih state

/-- The updates of an outcome, as the history tells them. -/
def Outcome.story (outcome : Outcome State Msg) : List (Event State Msg) :=
  outcome.updates.map fun update => .updated update.1 update.2

/-- The outcome comes from the start by updates that follow from others. -/
def Outcome.Follows (model : Model Flags State Msg) (flags : Flags)
    (start outcome : Outcome State Msg) : Prop :=
  ∃ more, outcome.story = start.story ++ more ∧
    model.replay flags (some start.state) more = some outcome.state

theorem Model.follows_carries (start : Outcome State Msg) :
    model.Carries (fun _ _ => True) fun _ outcome => start.Follows model flags outcome where
  spreads _ _ _ _ _ _ := trivial
  update depth message coming outcome _ _ before := by
    obtain ⟨more, story_eq, state_eq⟩ := before
    refine ⟨more ++ [.updated (depth + 1) message], ?_, ?_⟩
    · rw [← List.append_assoc, ← story_eq]
      exact List.map_append
    · rw [replay_append, state_eq]
      rfl
  drop _ _ _ _ before := before
  quit _ _ before := before
  task _ _ _ _ _ _ before := before

theorem Model.resolve_follows (flags : Flags) {depth : Nat} (bounded : depth ≤ maxDepth)
    (command : Command Msg) (start : Outcome State Msg) :
    start.Follows model flags (model.resolve depth command start) :=
  (model.follows_carries start).resolve depth bounded command [] start (fun _ _ => trivial)
    ⟨[], (List.append_nil _).symm, rfl⟩

theorem Model.replay_dispatch (flags : Flags) (state : State) {depth : Nat}
    (bounded : depth ≤ maxDepth) (message : Msg) : ∃ more,
      (model.dispatch state depth message).story = .updated depth message :: more ∧
        model.replay flags (some (model.update state message).1) more =
          some (model.dispatch state depth message).state :=
  model.resolve_follows flags bounded _ _

theorem Model.replay_begin (geometry : Geometry) :
    model.replay flags (some (model.init flags geometry).1) (model.begin flags geometry).story =
      some (model.begin flags geometry).state := by
  obtain ⟨more, story_eq, state_eq⟩ :=
    model.resolve_follows flags (Nat.zero_le _) (model.init flags geometry).2
      { state := (model.init flags geometry).1 }
  exact story_eq ▸ state_eq

theorem Model.replay_adapt (state : State) (geometry : Geometry) :
    model.replay flags (some (model.resize state geometry).1) (model.adapt state geometry).story =
      some (model.adapt state geometry).state := by
  obtain ⟨more, story_eq, state_eq⟩ :=
    model.resolve_follows flags (Nat.zero_le _) (model.resize state geometry).2
      { state := (model.resize state geometry).1 }
  exact story_eq ▸ state_eq

theorem Model.replay_followUp (state : State) (depth : Nat) (message : Msg) :
    model.replay flags (some state) (model.followUp state depth message).story =
      some (model.followUp state depth message).state := by
  unfold followUp
  split
  · rename_i shallow
    obtain ⟨more, story_eq, state_eq⟩ :=
      model.replay_dispatch flags state shallow message
    rw [story_eq]
    exact state_eq
  · rfl

theorem Model.replay_input (state : State) (id : TaskId) (key : Key) :
    model.replay flags (some state)
        (.input id key :: (model.dispatch state 0 (model.ofKey key)).story) =
      some (model.dispatch state 0 (model.ofKey key)).state := by
  obtain ⟨more, story_eq, state_eq⟩ :=
    model.replay_dispatch flags state (Nat.zero_le _) (model.ofKey key)
  rw [story_eq]
  exact state_eq

namespace Session

variable {session later base : Session Flags State Msg} {options : SessionOptions} {late : Bool}
  {worker next : Worker Msg} {jobs : List (List (Job Msg))} {before after : List (Worker Msg)}
  {rest : List (Job Msg)}

/-- What was received and what the program was given, in order. -/
def tale (session : Session Flags State Msg) : List (Event State Msg) :=
  session.events.filter Event.isTold

theorem tale_note (session : Session Flags State Msg) (events : List (Event State Msg)) :
    (session.note events).tale = session.tale ++ events.filter Event.isTold := by
  simp [tale, Session.events, note]

theorem tale_absorb (session : Session Flags State Msg) (outcome : Outcome State Msg) :
    (session.absorb outcome).tale = session.tale ++ outcome.story := by
  rw [absorb, tale_note, List.filter_append]
  have told : outcome.story.filter Event.isTold = outcome.story := by
    rw [List.filter_eq_self]
    intro event member
    obtain ⟨update, -, rfl⟩ := List.mem_map.mp member
    rfl
  have untold : (outcome.dropped.map fun message =>
      (.dropped message.1 message.2 : Event State Msg)).filter Event.isTold = [] := by
    rw [List.filter_eq_nil_iff]
    intro event member
    obtain ⟨message, -, rfl⟩ := List.mem_map.mp member
    simp [Event.isTold]
  rw [untold, List.append_nil]
  exact congrArg _ told

theorem tale_quiet (added : List (Event State Msg))
    (history_eq : later.history = added ++ session.history)
    (quiet : added.filter Event.isTold = []) : later.tale = session.tale := by
  simp [tale, Session.events, history_eq, List.filter_reverse, quiet]

/-! ## What a step adds to the tale -/

/-- What a step adds to the tale, and what it makes of the program. -/
inductive Tells (model : Model Flags State Msg) (session : Session Flags State Msg)
    (worker : Worker Msg) (base : Session Flags State Msg) : Prop where
  | nothing (tale_eq : base.tale = session.tale) (state_eq : base.state = session.state)
      (cancelled_eq : base.cancelled = session.cancelled)
      (inbound_eq : base.link.inbound = session.link.inbound)
  | fails {fault : ConnectionFault} (live : session.cancelled = false)
      (tale_eq : base.tale = session.tale) (state_eq : base.state = session.state)
      (cancelled_eq : base.cancelled = session.cancelled)
      (inbound_eq : session.link.inbound = .error fault :: base.link.inbound)
  | receives {frame : Inbound} (live : session.cancelled = false)
      (tale_eq : base.tale = session.tale ++ [.received worker.id frame])
      (state_eq : base.state = session.state)
      (cancelled_eq : base.cancelled = session.cancelled)
      (inbound_eq : session.link.inbound = .ok frame :: base.link.inbound)
  | begins
      (tale_eq : base.tale = session.tale ++
        .began session.geometry :: (model.begin session.flags session.geometry).story)
      (state_eq : base.state = some (model.begin session.flags session.geometry).state)
      (cancelled_eq : base.cancelled = session.cancelled)
      (inbound_eq : base.link.inbound = session.link.inbound)
  | input {key : Key} {state : State} (shown : session.state = some state)
      (tale_eq : base.tale = session.tale ++
        .input worker.id key :: (model.dispatch state 0 (model.ofKey key)).story)
      (state_eq : base.state = some (model.dispatch state 0 (model.ofKey key)).state)
      (cancelled_eq : base.cancelled = session.cancelled)
      (inbound_eq : base.link.inbound = session.link.inbound)
  | resize {geometry : Geometry} {state : State} (shown : session.state = some state)
      (tale_eq : base.tale = session.tale ++
        .resized worker.id geometry :: (model.adapt state geometry).story)
      (state_eq : base.state = some (model.adapt state geometry).state)
      (cancelled_eq : base.cancelled = session.cancelled)
      (inbound_eq : base.link.inbound = session.link.inbound)
  | follows {depth : Nat} {message : Msg} {state : State} (shown : session.state = some state)
      (tale_eq : base.tale = session.tale ++ (model.followUp state depth message).story)
      (state_eq : base.state = some (model.followUp state depth message).state)
      (cancelled_eq : base.cancelled = session.cancelled)
      (inbound_eq : base.link.inbound = session.link.inbound)
  | cancels (live : session.cancelled = false) (tale_eq : base.tale = session.tale ++ [.cancelled])
      (state_eq : base.state = session.state) (ended : base.cancelled = true)
      (inbound_eq : base.link.inbound = session.link.inbound)

theorem Tells.quiet (added : List (Event State Msg))
    (history_eq : base.history = added ++ session.history)
    (quiet : added.filter Event.isTold = []) (state_eq : base.state = session.state)
    (cancelled_eq : base.cancelled = session.cancelled)
    (inbound_eq : base.link.inbound = session.link.inbound) : Tells model session worker base :=
  .nothing (tale_quiet added history_eq quiet) state_eq cancelled_eq inbound_eq

theorem receive_frame {frame : Inbound} {link : Link}
    (found : session.link.receive = (.frame frame, link)) :
    session.link.inbound = .ok frame :: link.inbound := by
  unfold Link.receive at found
  split at found
  · rename_i inbound_eq
    cases found
    exact inbound_eq
  · cases found
  · split at found <;> cases found

theorem receive_fault {fault : ConnectionFault} {link : Link}
    (found : session.link.receive = (.fault fault, link)) :
    session.link.inbound = .error fault :: link.inbound := by
  unfold Link.receive at found
  split at found
  · cases found
  · rename_i inbound_eq
    cases found
    exact inbound_eq
  · split at found <;> cases found

theorem Listens.live (listens : Listens session worker rest) : session.cancelled = false := by
  cases listens <;> assumption

theorem Turn.tells (turn : Turn model late session worker base jobs next) :
    Tells model session worker base := by
  cases turn with
  | starts doing fresh begun =>
      subst begun
      refine .begins ?_ rfl rfl rfl
      rw [tale_absorb, tale_note, List.append_assoc]
      rfl
  | input doing shown dispatched =>
      subst dispatched
      refine .input shown ?_ rfl rfl rfl
      rw [tale_absorb, tale_note, List.append_assoc]
      rfl
  | resize doing shown adapted =>
      subst adapted
      refine .resize shown ?_ rfl rfl rfl
      rw [tale_absorb, tale_note, List.append_assoc]
      rfl
  | followsUp doing shown shallow followed =>
      subst followed
      exact .follows shown (tale_absorb _ _) rfl rfl rfl
  | drops doing shown deep => exact .follows shown (tale_absorb _ _) rfl rfl rfl
  | shutsDown doing =>
      cases ended : session.cancelled with
      | true =>
          refine .quiet [] ?_ rfl ?_ ?_ ?_
          all_goals simp [cancel, ended]
      | false =>
          refine .cancels ended ?_ ?_ ?_ ?_
          all_goals simp [cancel, ended, tale, Session.events, note, wake, Event.isTold]
  | receives listens found =>
      refine .receives listens.live ?_ rfl rfl (receive_frame found)
      exact tale_note session [.received worker.id _]
  | readFails listens found => exact .fails listens.live rfl rfl rfl (receive_fault found)
  | passes | startFails | opensLoops | applies | rendersLater | sleeps | awaitsLock
  | awaitsInbound | rereads | runs | runFails | heartbeat | awaitsBeat | beats | awakes | joins
  | joinTimesOut | joinShrinks | deliveryEnds | frameEnds => exact .quiet [] rfl rfl rfl rfl rfl
  | keeps holds | closesNothing holds | skipsWrite holds =>
      cases holds <;> exact .quiet [] rfl rfl rfl rfl rfl
  | closes holds | awaitsDelivery holds =>
      cases holds <;> exact .quiet [_] rfl rfl rfl rfl rfl
  | failsWrite holds | writes holds => cases holds <;> exact .quiet [_, _] rfl rfl rfl rfl rfl
  | deliveryFails | delivers | pushesLate | reports => exact .quiet [_] rfl rfl rfl rfl rfl
  | pushes brings =>
      cases brings with
      | draws => exact .quiet [_, _] rfl rfl rfl rfl rfl
      | retries => exact .quiet [_] rfl rfl rfl rfl rfl
  | awaitsRoom brings =>
      cases brings with
      | draws => exact .quiet [_] rfl rfl rfl rfl rfl
      | retries => exact .quiet [] rfl rfl rfl rfl rfl
  | takes seeks => cases seeks <;> exact .quiet [_] rfl rfl rfl rfl rfl
  | findsClosed seeks | awaitsFrame seeks => cases seeks <;> exact .quiet [] rfl rfl rfl rfl rfl

/-! ## The frames of the client -/

/-- The frames that were received, in order. -/
def heard (events : List (Event State Msg)) : List Inbound :=
  events.filterMap fun
    | .received _ frame => some frame
    | _ => none

/-- The frames that a worker received, in order. -/
def heardBy (id : TaskId) (events : List (Event State Msg)) : List Inbound :=
  events.filterMap fun
    | .received other frame => if other = id then some frame else none
    | _ => none

/-- What a worker gave to the program, in order: keys and geometries. -/
def givenBy (id : TaskId) (events : List (Event State Msg)) : List (Job Msg) :=
  events.filterMap fun
    | .input other key => if other = id then some (.input key) else none
    | .resized other geometry => if other = id then some (.resize geometry) else none
    | _ => none

/-- The frames among what the client sent. -/
def frames (contents : List (Except ConnectionFault Inbound)) : List Inbound :=
  contents.filterMap fun
    | .ok frame => some frame
    | .error _ => none

variable {id : TaskId} {events more : List (Event State Msg)}

theorem heard_append : heard (events ++ more) = heard events ++ heard more :=
  List.filterMap_append

theorem heardBy_append : heardBy id (events ++ more) = heardBy id events ++ heardBy id more :=
  List.filterMap_append

theorem givenBy_append : givenBy id (events ++ more) = givenBy id events ++ givenBy id more :=
  List.filterMap_append

theorem story_silent (id : TaskId) (outcome : Outcome State Msg) :
    heard outcome.story = [] ∧ heardBy id outcome.story = [] ∧ givenBy id outcome.story = [] := by
  unfold heard heardBy givenBy
  simp only [List.filterMap_eq_nil_iff]
  refine ⟨?_, ?_, ?_⟩
  all_goals
    intro event member
    obtain ⟨update, -, rfl⟩ := List.mem_map.mp member
    rfl

theorem filterMap_told {Item : Type} {read : Event State Msg → Option Item}
    (blind : ∀ event, event.isTold = false → read event = none) (events : List (Event State Msg)) :
    (events.filter Event.isTold).filterMap read = events.filterMap read := by
  rw [List.filterMap_filter]
  refine List.filterMap_congr fun event _ => ?_
  cases told : event.isTold with
  | false => exact (blind event told).symm
  | true => rfl

theorem heard_tale (session : Session Flags State Msg) :
    heard session.tale = heard session.events :=
  filterMap_told (fun event untold => by cases event <;> first | rfl | cases untold) _

theorem heardBy_tale (session : Session Flags State Msg) :
    heardBy id session.tale = heardBy id session.events :=
  filterMap_told (fun event untold => by cases event <;> first | rfl | cases untold) _

theorem givenBy_tale (session : Session Flags State Msg) :
    givenBy id session.tale = givenBy id session.events :=
  filterMap_told (fun event untold => by cases event <;> first | rfl | cases untold) _

/-- Nothing was received since the session came to its end. -/
structure Deaf (session : Session Flags State Msg) : Prop where
  ended : .cancelled ∈ session.tale → session.cancelled = true
  silent : ∀ before after, session.tale = before ++ .cancelled :: after → heard after = []

/-- A step adds to the tale what is not received, or the session goes on. -/
theorem Deaf.grows (deaf : Deaf session) {added : List (Event State Msg)}
    (tale_eq : later.tale = session.tale ++ added)
    (still : session.cancelled = true → later.cancelled = true)
    (ends : .cancelled ∈ added → later.cancelled = true)
    (quiet : session.cancelled = true ∨ .cancelled ∈ added → heard added = []) : Deaf later := by
  refine ⟨?_, ?_⟩
  · intro member
    rw [tale_eq] at member
    rcases List.mem_append.mp member with old | new
    · exact still (deaf.ended old)
    · exact ends new
  · intro before after split
    rw [tale_eq] at split
    rcases List.append_eq_append_iff.mp split with ⟨within, rfl, added_eq⟩ | ⟨since, tale_eq, rest⟩
    · have none := quiet (.inr (added_eq ▸ by simp))
      rw [added_eq, heard_append] at none
      exact (List.append_eq_nil_iff.mp none).2
    · cases since with
      | nil =>
          obtain rfl : .cancelled :: after = added := rest
          exact quiet (.inr List.mem_cons_self)
      | cons event since =>
          obtain ⟨rfl, rfl⟩ := List.cons_eq_cons.mp rest
          have earlier := deaf.silent before since tale_eq
          have ended := deaf.ended (tale_eq ▸ by simp)
          show heard (since ++ added) = []
          rw [heard_append, earlier, quiet (.inl ended)]
          rfl

theorem Tells.deaf (tells : Tells model session worker base) (deaf : Deaf session) :
    Deaf base := by
  have told {added : List (Event State Msg)} (tale_eq : base.tale = session.tale ++ added)
      (cancelled_eq : base.cancelled = session.cancelled) (goesOn : .cancelled ∉ added)
      (quiet : session.cancelled = true → heard added = []) : Deaf base :=
    deaf.grows tale_eq (fun ended => cancelled_eq.trans ended) (fun member => absurd member goesOn)
      fun either => either.elim quiet fun member => absurd member goesOn
  have story (outcome : Outcome State Msg) : .cancelled ∉ outcome.story := by
    intro member
    obtain ⟨update, -, found⟩ := List.mem_map.mp member
    cases found
  cases tells with
  | nothing tale_eq state_eq cancelled_eq =>
      exact told (by rw [tale_eq, List.append_nil]) cancelled_eq (by simp) fun _ => rfl
  | fails live tale_eq state_eq cancelled_eq =>
      exact told (by rw [tale_eq, List.append_nil]) cancelled_eq (by simp) fun _ => rfl
  | receives live tale_eq state_eq cancelled_eq =>
      exact told tale_eq cancelled_eq (by simp) fun ended => absurd ended (by simp [live])
  | begins tale_eq state_eq cancelled_eq =>
      exact told tale_eq cancelled_eq (by simp [story]) fun _ => (story_silent 0 _).1
  | input shown tale_eq state_eq cancelled_eq =>
      exact told tale_eq cancelled_eq (by simp [story]) fun _ => (story_silent 0 _).1
  | resize shown tale_eq state_eq cancelled_eq =>
      exact told tale_eq cancelled_eq (by simp [story]) fun _ => (story_silent 0 _).1
  | follows shown tale_eq state_eq cancelled_eq =>
      exact told tale_eq cancelled_eq (story _) fun _ => (story_silent 0 _).1
  | cancels live tale_eq state_eq ended =>
      exact deaf.grows tale_eq (fun _ => ended) (fun _ => ended) fun _ => rfl

/-- The state of a program is what its history makes of it. -/
theorem Tells.replays (tells : Tells model session worker base)
    (before : session.state = model.replay session.flags none session.tale) :
    base.state = model.replay session.flags none base.tale := by
  have continues {added : List (Event State Msg)} (tale_eq : base.tale = session.tale ++ added)
      (added_eq : model.replay session.flags session.state added = base.state) :
      base.state = model.replay session.flags none base.tale := by
    rw [tale_eq, Model.replay_append, ← before, added_eq]
  cases tells with
  | nothing tale_eq state_eq | fails live tale_eq state_eq => rw [tale_eq, state_eq, before]
  | receives live tale_eq state_eq => exact continues tale_eq state_eq.symm
  | begins tale_eq state_eq =>
      exact continues tale_eq ((model.replay_begin _).trans state_eq.symm)
  | input shown tale_eq state_eq =>
      exact continues tale_eq (by rw [shown, state_eq, model.replay_input])
  | resize shown tale_eq state_eq =>
      refine continues tale_eq ?_
      rw [shown, state_eq]
      exact model.replay_adapt _ _
  | follows shown tale_eq state_eq =>
      exact continues tale_eq (by rw [shown, state_eq, model.replay_followUp])
  | cancels live tale_eq state_eq => exact continues tale_eq state_eq.symm

theorem Turn.flags_eq (turn : Turn model late session worker base jobs next) :
    base.flags = session.flags := by
  cases turn with
  | shutsDown => rw [cancel_eq]
  | keeps holds | closesNothing holds | closes holds | skipsWrite holds | failsWrite holds
  | writes holds | awaitsDelivery holds => cases holds <;> rfl
  | pushes brings | awaitsRoom brings => cases brings <;> rfl
  | takes seeks | findsClosed seeks | awaitsFrame seeks => cases seeks <;> rfl
  | _ => rfl

/-! ## Every run -/

theorem Turns.tells
    (turns : Turns model late session worker later base jobs next before after) :
    Tells model session worker later := by
  rw [turns.later_eq]
  cases turns.turn.tells with
  | nothing tale_eq state_eq cancelled_eq inbound_eq =>
      exact .nothing tale_eq state_eq cancelled_eq inbound_eq
  | fails live tale_eq state_eq cancelled_eq inbound_eq =>
      exact .fails live tale_eq state_eq cancelled_eq inbound_eq
  | receives live tale_eq state_eq cancelled_eq inbound_eq =>
      exact .receives live tale_eq state_eq cancelled_eq inbound_eq
  | begins tale_eq state_eq cancelled_eq inbound_eq =>
      exact .begins tale_eq state_eq cancelled_eq inbound_eq
  | input shown tale_eq state_eq cancelled_eq inbound_eq =>
      exact .input shown tale_eq state_eq cancelled_eq inbound_eq
  | resize shown tale_eq state_eq cancelled_eq inbound_eq =>
      exact .resize shown tale_eq state_eq cancelled_eq inbound_eq
  | follows shown tale_eq state_eq cancelled_eq inbound_eq =>
      exact .follows shown tale_eq state_eq cancelled_eq inbound_eq
  | cancels live tale_eq state_eq ended inbound_eq =>
      exact .cancels live tale_eq state_eq ended inbound_eq

/-- A move from outside tells nothing, except that the session ends. -/
theorem Move.tells (move : Move model session later) :
    (∃ worker, Tells model session worker later) ∨
      later.tale = session.tale ∧ later.state = session.state ∧
        later.cancelled = session.cancelled := by
  cases move with
  | turns advanced turns => exact .inl ⟨_, turns.tells⟩
  | cancels live later_eq =>
      rw [later_eq]
      refine .inl ⟨{ id := 0, jobs := [] }, .cancels live ?_ rfl rfl rfl⟩
      exact tale_note session [.cancelled]
  | retires advanced free done workers_eq later_eq => rw [later_eq]; exact .inr ⟨rfl, rfl, rfl⟩
  | asked request later_eq => rw [later_eq]; exact .inr ⟨rfl, rfl, rfl⟩
  | elapses time forward later_eq => rw [later_eq]; exact .inr ⟨rfl, rfl, rfl⟩
  | client link move later_eq => rw [later_eq]; exact .inr ⟨rfl, rfl, rfl⟩
  | nothing ended later_eq => rw [later_eq]; exact .inr ⟨rfl, rfl, rfl⟩

theorem Move.flags_eq (move : Move model session later) : later.flags = session.flags := by
  cases move with
  | turns advanced turns => rw [turns.later_eq]; exact turns.turn.flags_eq
  | retires advanced free done workers_eq later_eq => rw [later_eq]
  | asked request later_eq => rw [later_eq]
  | elapses time forward later_eq => rw [later_eq]
  | client link move later_eq => rw [later_eq]
  | cancels live later_eq => rw [later_eq]
  | nothing ended later_eq => rw [later_eq]

theorem Reach.flags_eq (reach : Reach model flags options session) : session.flags = flags := by
  induction reach with
  | idle => rfl
  | step before step ih => exact (step.move before.identified).flags_eq.trans ih

/-- The program is in the state that its history tells. -/
theorem Reach.state_eq_replay (reach : Reach model flags options session) :
    session.state = model.replay flags none session.events := by
  have told : session.state = model.replay session.flags none session.tale := by
    induction reach with
    | idle => rfl
    | step before step ih =>
        have move := step.move before.identified
        rw [move.flags_eq]
        rcases move.tells with ⟨worker, tells⟩ | ⟨tale_eq, state_eq, -⟩
        · exact tells.replays ih
        · rw [tale_eq, state_eq, ih]
  rw [told, reach.flags_eq]
  exact model.replay_filter none _

theorem Reach.deaf (reach : Reach model flags options session) : Deaf session := by
  induction reach with
  | idle =>
      refine ⟨(nomatch ·), fun before after split => ?_⟩
      have split : [] = before ++ .cancelled :: after := split
      simp at split
  | step before step ih =>
      rcases (step.move before.identified).tells with ⟨worker, tells⟩ | ⟨tale_eq, -, cancelled_eq⟩
      · exact tells.deaf ih
      · exact ih.grows (by rw [tale_eq, List.append_nil]) (fun ended => cancelled_eq.trans ended)
          (by simp) fun _ => rfl

/-! ## A session that started -/

/-- A session that started has a program. -/
theorem Turn.shown (shown : session.started = true → session.state ≠ none)
    (turn : Turn model late session worker base jobs next) :
    base.started = true → base.state ≠ none := by
  cases turn with
  | starts | input | resize | followsUp | drops => exact fun _ => Option.some_ne_none _
  | shutsDown =>
      rw [cancel_eq]
      exact shown
  | keeps holds | closesNothing holds | closes holds | skipsWrite holds | failsWrite holds
  | writes holds | awaitsDelivery holds => cases holds <;> exact shown
  | pushes brings | awaitsRoom brings => cases brings <;> exact shown
  | takes seeks | findsClosed seeks | awaitsFrame seeks => cases seeks <;> exact shown
  | _ => exact shown

theorem Reach.shown (reach : Reach model flags options session) :
    session.started = true → session.state ≠ none := by
  induction reach with
  | idle => exact nofun
  | step before step ih =>
      cases step.move before.identified with
      | turns advanced turns =>
          have shown := turns.turn.shown ih
          rw [turns.later_eq]
          exact shown
      | retires advanced free done workers_eq later_eq => rw [later_eq]; exact ih
      | asked request later_eq => rw [later_eq]; exact ih
      | elapses time forward later_eq => rw [later_eq]; exact ih
      | client link move later_eq => rw [later_eq]; exact ih
      | cancels live later_eq => rw [later_eq]; exact ih
      | nothing ended later_eq => rw [later_eq]; exact ih

end Session

end Showcase
