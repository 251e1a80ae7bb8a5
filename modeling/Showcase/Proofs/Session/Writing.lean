import Showcase.Proofs.Session.Conveying
import Showcase.Proofs.Session.Effects
import Showcase.Proofs.Session.Starting

/-!
# The way of the frames to the client

One worker at a time is in charge of writing: the one that started the session, until it has opened
the loops, and then the writer. It takes a frame and delivers it before it takes another one, and
nobody is in charge any more after a write has failed. So the sink sees its events in the order of
`Sending`, and the client has what was taken, but for a frame in hand.
-/

namespace Showcase

variable {State Msg : Type}

/-- Something that is to be done so that frames are written. -/
inductive Errand where
  /-- To keep the connection. -/
  | keep
  /-- To open the loops. -/
  | open
  /-- To look for a frame. -/
  | seek
  /-- To write a frame that was taken. -/
  | deliver (frame : Frame)
  /-- To complete a write that has begun. -/
  | complete (frame : Frame)
  /-- To close the connection. -/
  | close

/-- How far the writing is before the errand. -/
def Errand.stage : Errand → Sending
  | .keep | .open | .seek => .idle
  | .deliver frame => .taken frame
  | .complete frame => .begun frame
  | .close => .stopped

/-- Whether it is an errand of the writer. -/
def Errand.isWriting : Errand → Bool
  | .seek | .deliver _ | .complete _ => true
  | .keep | .open | .close => false

/-- An errand that is done, with what the sink sees and with the errand that follows, unless the
write failed. -/
inductive Errand.Done : Errand → List (Event State Msg) → Option Errand → Prop where
  | takes (frame : Frame) : Done .seek [.taken frame] (some (.deliver frame))
  | begins (frame : Frame) : Done (.deliver frame) [.writing frame] (some (.complete frame))
  | writes (frame : Frame) (time : Nat) :
      Done (.deliver frame) [.writing frame, .delivered frame time] (some .seek)
  | delivers (frame : Frame) (time : Nat) :
      Done (.complete frame) [.delivered frame time] (some .seek)
  | breaks (frame : Frame) : Done (.deliver frame) [.writing frame, .failed frame] none
  | fails (frame : Frame) : Done (.complete frame) [.failed frame] none

/-- The sink sees its events in order. -/
theorem Errand.Done.run? {errand : Errand} {events : List (Event State Msg)}
    {next? : Option Errand} (done : errand.Done events next?) :
    errand.stage.run? events = some (next?.elim .stopped Errand.stage) := by
  cases done <;> simp [stage, Sending.next?]

theorem Errand.Done.isWriting {errand : Errand} {events : List (Event State Msg)}
    {next? : Option Errand} (done : errand.Done events next?) :
    errand.isWriting = true ∧ ∀ next ∈ next?, next.isWriting = true := by
  cases done <;> simp [Errand.isWriting]

def Purpose.errand : Purpose → Errand
  | keep _ => .keep
  | write frame => .deliver frame
  | close => .close

def Job.errand? : Job Msg → Option Errand
  | openLoops => some .open
  | write => some .seek
  | lock purpose => some purpose.errand
  | after _ job => job.errand?
  | _ => none

def Wait.errand? : Wait Msg → Option Errand
  | frame => some .seek
  | lock purpose => some purpose.errand
  | delivery held => some (.complete held)
  | time _ job => job.errand?
  | _ => none

/-- The errands of a worker, in order. -/
def Worker.errands (worker : Worker Msg) : List Errand :=
  worker.wait.errand?.toList ++ worker.jobs.filterMap Job.errand?

theorem Inbound.errand?_job (frame : Inbound) : (frame.job : Job Msg).errand? = none := by
  unfold job
  split <;> rfl

theorem Job.errand?_of_isFinal {job : Job Msg} (final : job.isFinal = true) :
    job.errand? = none := by
  cases job <;> first | rfl | cases final

namespace Session

variable {Flags : Type} {model : Model Flags State Msg} {flags : Flags}
  {options : SessionOptions} {session later base : Session Flags State Msg} {late : Bool}
  {worker next : Worker Msg} {jobs : List (List (Job Msg))} {before after : List (Worker Msg)}
  {rest : List (Job Msg)} {frame : Frame} {errands : List Errand}

/-! ## How far the writing is -/

/-- How far the writing is, if the sink saw its events in order. -/
def stage (session : Session Flags State Msg) : Option Sending :=
  Sending.idle.run? session.events

theorem stage_of_history (added : List (Event State Msg))
    (history_eq : base.history = added.reverse ++ session.history) :
    base.stage = session.stage.bind (·.run? added) := by
  rw [stage, events, history_eq, List.reverse_append, List.reverse_reverse, Sending.run?_append]
  rfl

theorem stage_of_quiet (added : List (Event State Msg))
    (history_eq : base.history = added ++ session.history)
    (quiet : ∀ event ∈ added, event.isSink = false) : base.stage = session.stage := by
  rw [← List.reverse_reverse added] at history_eq
  rw [stage_of_history added.reverse history_eq]
  have unmoved (stage : Sending) : stage.run? added.reverse = some stage :=
    Sending.run?_of_quiet fun event member => quiet event (List.mem_reverse.mp member)
  simp [unmoved]

/-! ## What a step does to the errands -/

/-- The step matters neither to the connection nor to what the sink sees. -/
structure Aside (session base : Session Flags State Msg) : Prop where
  started_eq : base.started = session.started
  connection_eq : base.connection = session.connection
  stage_eq : base.stage = session.stage

/-- The new workers have no errands. -/
def Free (jobs : List (List (Job Msg))) : Prop := ∀ new ∈ jobs, new.filterMap Job.errand? = []

/-- What a step does to the errands of a worker. -/
inductive Serves (session : Session Flags State Msg) (worker next : Worker Msg)
    (base : Session Flags State Msg) (jobs : List (List (Job Msg))) : Prop where
  | aside (aside : Aside session base) (errands_eq : next.errands = worker.errands)
      (free : Free jobs)
  | starts (fresh : session.started = false) (started : base.started = true)
      (errands_eq : next.errands = .keep :: .open :: worker.errands)
      (stage_eq : base.stage = session.stage) (free : Free jobs)
  | keeps (errands_eq : worker.errands = .keep :: next.errands)
      (started_eq : base.started = session.started) (connected : base.connection ≠ none)
      (stage_eq : base.stage = session.stage) (free : Free jobs)
  | opens (errands_eq : worker.errands = .open :: next.errands) (aside : Aside session base)
      (jobs_eq : jobs = [[.heartbeat], [.write]])
  | does {errand : Errand} {events : List (Event State Msg)} {next? : Option Errand}
      {errands : List Errand} (live : session.cancelled = false) (done : errand.Done events next?)
      (had : worker.errands = errand :: errands) (has : next.errands = next?.toList ++ errands)
      (started_eq : base.started = session.started)
      (connection_eq : base.connection = session.connection)
      (stage_eq : base.stage = session.stage.bind (·.run? events)) (free : Free jobs)
  | skips {frame : Frame} (errands_eq : worker.errands = .deliver frame :: next.errands)
      (unconnected : session.connection = none) (stage_eq : base.stage = session.stage)
  | closes {errands : List Errand} (had : worker.errands = .close :: errands)
      (stopped : session.stage = some .stopped → base.stage = some .stopped)
  | stops (closed : session.queue.closed = true) (stage_eq : base.stage = session.stage)
  | ends (ended : base.cancelled = true)
      (stage_eq : session.cancelled = true → base.stage = session.stage)

theorem Free.nil : Free ([] : List (List (Job Msg))) := nofun

theorem Aside.of_quiet (added : List (Event State Msg))
    (history_eq : base.history = added ++ session.history)
    (quiet : ∀ event ∈ added, event.isSink = false)
    (started_eq : base.started = session.started)
    (connection_eq : base.connection = session.connection) : Aside session base :=
  ⟨started_eq, connection_eq, stage_of_quiet added history_eq quiet⟩

theorem Aside.trans {middle : Session Flags State Msg} (first : Aside session middle)
    (second : Aside middle later) : Aside session later :=
  ⟨second.started_eq.trans first.started_eq, second.connection_eq.trans first.connection_eq,
    second.stage_eq.trans first.stage_eq⟩

theorem aside_absorb (session : Session Flags State Msg) (outcome : Outcome State Msg) :
    Aside session (session.absorb outcome) := by
  obtain ⟨added, history_eq, quiet⟩ := history_absorb (fun event => event.isSink = false)
    (fun _ _ => rfl) (fun _ _ => rfl) session outcome
  exact .of_quiet added history_eq quiet rfl rfl

theorem errands_of_waits {wait : Wait Msg} (waits : worker.wait = wait) :
    worker.errands = wait.errand?.toList ++ worker.jobs.filterMap Job.errand? := by
  rw [Worker.errands, waits]

theorem Doing.errands_eq {job : Job Msg} (doing : Doing worker job rest) :
    worker.errands = job.errand?.toList ++ rest.filterMap Job.errand? := by
  rw [Worker.errands, doing.free, doing.jobs_eq, List.filterMap_cons]
  cases job.errand? <;> rfl

theorem Holds.errands_eq {purpose : Purpose} {held : Session Flags State Msg}
    (holds : Holds session worker purpose rest held) :
    worker.errands = purpose.errand :: rest.filterMap Job.errand? := by
  cases holds with
  | acquires doing => exact doing.errands_eq
  | granted waits => exact errands_of_waits waits

theorem Holds.aside {purpose : Purpose} {held : Session Flags State Msg}
    (holds : Holds session worker purpose rest held) : Aside session held := by
  cases holds <;> exact ⟨rfl, rfl, rfl⟩

theorem Seeks.errands_eq {found : Session Flags State Msg}
    (seeks : Seeks session worker rest found) :
    worker.errands = .seek :: rest.filterMap Job.errand? := by
  cases seeks with
  | begins doing => exact doing.errands_eq
  | retries waits => exact errands_of_waits waits

theorem Seeks.aside {found : Session Flags State Msg} (seeks : Seeks session worker rest found) :
    Aside session found := by
  cases seeks <;> exact ⟨rfl, rfl, rfl⟩

theorem Seeks.live {found : Session Flags State Msg} (seeks : Seeks session worker rest found) :
    session.cancelled = false := by
  cases seeks with
  | begins doing live => exact live
  | retries waits live => exact live

theorem Listens.errands_eq (listens : Listens session worker rest) :
    worker.errands = rest.filterMap Job.errand? := by
  cases listens with
  | begins doing => exact doing.errands_eq
  | retries waits => exact errands_of_waits waits

theorem Brings.errands_eq {deadline : Nat} {brought : Session Flags State Msg}
    (brings : Brings model session worker frame deadline rest brought) :
    worker.errands = rest.filterMap Job.errand? := by
  cases brings with
  | draws doing => exact doing.errands_eq
  | retries waits => exact errands_of_waits waits

theorem Brings.aside {deadline : Nat} {brought : Session Flags State Msg}
    (brings : Brings model session worker frame deadline rest brought) : Aside session brought := by
  cases brings with
  | draws => exact .of_quiet [_] rfl (by simp [Event.isSink]) rfl rfl
  | retries => exact ⟨rfl, rfl, rfl⟩

theorem Passes.serves (passes : Passes model late session worker rest) :
    Serves session worker (worker.goOn rest) session [] := by
  have aside (errands_eq : worker.errands = rest.filterMap Job.errand?) :
      Serves session worker (worker.goOn rest) session [] :=
    .aside ⟨rfl, rfl, rfl⟩ errands_eq.symm .nil
  cases passes with
  | write doing ended => exact .ends ended fun _ => rfl
  | input doing | resize doing | followUp doing | render doing | read doing | beat doing
  | heartbeat doing => exact aside doing.errands_eq
  | finished listens => exact aside listens.errands_eq
  | inboundEnds waits | beatEnds waits | joined waits => exact aside (errands_of_waits waits)
  | timeEnds waits ended => exact .ends ended fun _ => rfl

/-- A call that fails leaves nothing undone. -/
theorem Doing.errands_failing {job : Job Msg} (plain : worker.Plain)
    (doing : Doing worker job rest) (fails : job.mayFail = true) (none : job.errand? = none)
    (fault : SessionFault) : (worker.failing fault).errands = worker.errands := by
  unfold Worker.Plain at plain
  rw [doing.agenda_eq, List.pairwise_cons] at plain
  have final : rest.filterMap Job.errand? = [] :=
    List.filterMap_eq_nil_iff.mpr fun other member =>
      Job.errand?_of_isFinal (plain.1 other member fails)
  rw [doing.errands_eq, none, final, Worker.errands, Worker.failing, doing.free]
  rfl

theorem Serves.of_done {errand : Errand} {events : List (Event State Msg)}
    {next? : Option Errand} (live : session.cancelled = false) (done : errand.Done events next?)
    (had : worker.errands = errand :: errands) (has : next.errands = next?.toList ++ errands)
    (started_eq : base.started = session.started)
    (connection_eq : base.connection = session.connection)
    (history_eq : base.history = events.reverse ++ session.history) :
    Serves session worker next base [] :=
  .does live done had has started_eq connection_eq (stage_of_history events history_eq) .nil

theorem Turn.serves (plain : worker.Plain)
    (turn : Turn model late session worker base jobs next) :
    Serves session worker next base jobs := by
  have same {base : Session Flags State Msg} (started_eq : base.started = session.started)
      (connection_eq : base.connection = session.connection)
      (history_eq : base.history = session.history) : Aside session base :=
    .of_quiet [] history_eq (List.forall_mem_nil _) started_eq connection_eq
  have noted {base : Session Flags State Msg} (event : Event State Msg)
      (quiet : event.isSink = false) (started_eq : base.started = session.started)
      (connection_eq : base.connection = session.connection)
      (history_eq : base.history = event :: session.history) : Aside session base :=
    .of_quiet [event] history_eq (by simpa using quiet) started_eq connection_eq
  cases turn with
  | passes passes => exact passes.serves
  | startFails doing | runFails doing =>
      exact .aside (same rfl rfl rfl) (doing.errands_failing plain rfl rfl _) .nil
  | starts doing fresh =>
      refine .starts fresh rfl ?_ ?_ .nil
      · rw [doing.errands_eq]
        rfl
      · exact (aside_absorb _ _).stage_eq.trans (stage_of_quiet [_] rfl (by simp [Event.isSink]))
  | input doing | resize doing =>
      refine .aside (Aside.trans ?_ (aside_absorb _ _)) doing.errands_eq.symm .nil
      exact noted _ rfl rfl rfl rfl
  | followsUp doing | drops doing => exact .aside (aside_absorb _ _) doing.errands_eq.symm .nil
  | opensLoops doing => exact .opens doing.errands_eq (same rfl rfl rfl) rfl
  | @applies pending quit rest doing =>
      refine .aside (same rfl rfl rfl) ?_ fun new member => ?_
      · rw [doing.errands_eq]
        cases quit <;> rfl
      · obtain ⟨entry, -, rfl⟩ := List.mem_map.mp member
        rfl
  | rendersLater doing =>
      refine .aside (same rfl rfl rfl) doing.errands_eq.symm fun new member => ?_
      obtain rfl := List.mem_singleton.mp member
      rfl
  | sleeps doing | awaitsLock doing | awaitsInbound doing | runs doing | heartbeat doing
  | awaitsBeat doing | joins doing =>
      exact .aside (same rfl rfl rfl) doing.errands_eq.symm .nil
  | reports doing => exact .aside (noted _ rfl rfl rfl rfl) doing.errands_eq.symm .nil
  | shutsDown doing =>
      refine .ends (by rw [cancel_eq]) fun ended => ?_
      rw [Session.cancel, if_pos ended]
      rfl
  | keeps holds =>
      have aside := holds.aside
      exact .keeps holds.errands_eq aside.started_eq (Option.some_ne_none _) aside.stage_eq .nil
  | closesNothing holds => exact .closes holds.errands_eq holds.aside.stage_eq.trans
  | @closes connection rest held holds opened =>
      refine .closes holds.errands_eq fun stopped => ?_
      have history_eq := holds.same.2.2.2.2.2.2.1
      rw [stage_of_history [.closed connection] (congrArg _ history_eq), stopped]
      rfl
  | skipsWrite holds ended =>
      rcases ended with unconnected | ended
      · exact .skips holds.errands_eq unconnected holds.aside.stage_eq
      · refine .ends ?_ fun _ => holds.aside.stage_eq
        cases holds <;> exact ended
  | failsWrite holds opened live =>
      have had := holds.errands_eq
      cases holds <;> exact .of_done live (.breaks _) had rfl rfl rfl rfl
  | writes holds opened live =>
      have had := holds.errands_eq
      cases holds <;> exact .of_done live (.writes _ session.now) had rfl rfl rfl rfl
  | awaitsDelivery holds opened live =>
      have had := holds.errands_eq
      cases holds <;> exact .of_done live (.begins _) had rfl rfl rfl rfl
  | deliveryEnds waits ended | frameEnds waits ended => exact .ends ended fun _ => rfl
  | deliveryFails waits live =>
      exact .of_done live (.fails _) (errands_of_waits waits) rfl rfl rfl rfl
  | delivers waits live =>
      exact .of_done live (.delivers _ session.now) (errands_of_waits waits) rfl rfl rfl rfl
  | pushes brings =>
      refine .aside (brings.aside.trans ?_) brings.errands_eq.symm .nil
      exact .of_quiet [_] rfl (by simp [Event.isSink]) rfl rfl
  | awaitsRoom brings =>
      exact .aside (brings.aside.trans ⟨rfl, rfl, rfl⟩) brings.errands_eq.symm .nil
  | pushesLate waits => exact .aside (noted _ rfl rfl rfl rfl) (errands_of_waits waits).symm .nil
  | takes seeks =>
      have had := seeks.errands_eq
      have live := seeks.live
      cases seeks <;> exact .of_done live (.takes _) had rfl rfl rfl rfl
  | findsClosed seeks closed =>
      exact .stops (seeks.unmoved.1.alike.closed_eq ▸ closed) seeks.aside.stage_eq
  | awaitsFrame seeks =>
      exact .aside (seeks.aside.trans ⟨rfl, rfl, rfl⟩) seeks.errands_eq.symm .nil
  | receives listens =>
      refine .aside (noted _ rfl rfl rfl rfl) ?_ .nil
      rw [listens.errands_eq, Worker.errands, Worker.goOn]
      simp [Wait.errand?, List.filterMap_cons, Inbound.errand?_job, Job.errand?]
  | readFails listens => exact .aside ⟨rfl, rfl, rfl⟩ listens.errands_eq.symm .nil
  | rereads waits | beats waits | joinTimesOut waits | joinShrinks waits =>
      exact .aside (same rfl rfl rfl) (errands_of_waits waits).symm .nil
  | @awakes due job waits =>
      refine .aside (same rfl rfl rfl) ?_ .nil
      rw [errands_of_waits waits, Worker.errands, Worker.goOn, List.filterMap_cons]
      cases found : job.errand? <;> simp [Wait.errand?, found]

/-! ## Who is in charge -/

/-- The worker has these errands, and no other worker has any. -/
structure Charge (session : Session Flags State Msg) (worker : Worker Msg)
    (errands : List Errand) : Prop where
  member : worker ∈ session.workers
  errands_eq : worker.errands = errands
  only : ∀ other ∈ session.workers, other.id ≠ worker.id → other.errands = []

/-- What follows an errand, and when it has a connection to write to. -/
inductive Stand (session : Session Flags State Msg) : Errand → List Errand → Prop where
  | keeping : Stand session .keep [.open]
  | opening (connected : session.connection ≠ none) : Stand session .open []
  | writing {errand : Errand} (connected : session.connection ≠ none)
      (works : errand.isWriting = true) : Stand session errand []

/-- How far the writing of a session is, and who is in charge of it. -/
inductive Phase (session : Session Flags State Msg) : Prop where
  | idle (fresh : session.started = false) (stage_eq : session.stage = some .idle)
      (none : ∀ worker ∈ session.workers, worker.errands = [])
  | charged {worker : Worker Msg} {errand : Errand} {more : List Errand}
      (started : session.started = true) (stage_eq : session.stage = some errand.stage)
      (charge : Charge session worker (errand :: more)) (stand : Stand session errand more)
  | spent (started : session.started = true) (stage_eq : session.stage = some .stopped)
      (none : ∀ worker ∈ session.workers, worker.errands = [])

theorem Stand.transfer {errand : Errand} (stand : Stand session errand errands)
    (connection_eq : base.connection = session.connection) : Stand base errand errands := by
  cases stand with
  | keeping => exact .keeping
  | opening connected => exact .opening (connection_eq ▸ connected)
  | writing connected works => exact .writing (connection_eq ▸ connected) works

/-- Whoever has an errand is the one in charge. -/
theorem Charge.eq_of_errands {holder : Worker Msg} {errand : Errand} {more : List Errand}
    (identified : Identified session) (charge : Charge session holder errands)
    (member : worker ∈ session.workers) (had : worker.errands = errand :: more) :
    worker = holder ∧ errands = errand :: more := by
  by_cases same : worker.id = holder.id
  · obtain rfl := identified.eq_of_id member charge.member same
    exact ⟨rfl, charge.errands_eq.symm.trans had⟩
  · rw [charge.only worker member same] at had
    cases had

theorem Phase.of_errands {errand : Errand} {more : List Errand} (identified : Identified session)
    (phase : Phase session) (member : worker ∈ session.workers)
    (had : worker.errands = errand :: more) :
    session.started = true ∧ session.stage = some errand.stage ∧
      Charge session worker (errand :: more) ∧ Stand session errand more := by
  cases phase with
  | idle fresh stage_eq none | spent started stage_eq none =>
      rw [none worker member] at had
      cases had
  | charged started stage_eq charge stand =>
      obtain ⟨rfl, same⟩ := charge.eq_of_errands identified member had
      cases same
      exact ⟨started, stage_eq, charge, stand⟩

theorem Phase.stage_eq (phase : Phase session) : ∃ stage, session.stage = some stage := by
  cases phase with
  | idle fresh stage_eq | charged started stage_eq | spent started stage_eq =>
      exact ⟨_, stage_eq⟩

theorem errands_of_mem_hired {other : Worker Msg} {first : TaskId} (free : Free jobs)
    (member : other ∈ hired first jobs) : other.errands = [] := by
  obtain ⟨-, -, waits, mem⟩ := id_of_mem_hired member
  rw [errands_of_waits waits]
  exact free _ mem

section

variable (turns : Turns model late session worker later base jobs next before after)

include turns

theorem Turns.aside : Aside base later := by
  rw [turns.later_eq]
  exact ⟨rfl, rfl, rfl⟩

/-- The worker in charge goes on with its errands. -/
theorem Charge.goesOn (identified : Identified session) (charge : Charge session worker errands)
    (free : Free jobs) : Charge later next next.errands where
  member := turns.mem_later.mpr (.inl rfl)
  errands_eq := rfl
  only other member different := by
    rcases turns.mem_later.mp member with rfl | old | new
    · exact absurd rfl different
    · have unlike := id_ne_of_mem (turns.workers_eq ▸ identified.unique) other old
      exact charge.only other (turns.other_mem old) unlike
    · exact errands_of_mem_hired free new

/-- The worker in charge has nothing left to do. -/
theorem Charge.leaves (identified : Identified session) (charge : Charge session worker errands)
    (idle : next.errands = []) (free : Free jobs) :
    ∀ other ∈ later.workers, other.errands = [] := by
  intro other member
  rcases turns.mem_later.mp member with rfl | old | new
  · exact idle
  · have unlike := id_ne_of_mem (turns.workers_eq ▸ identified.unique) other old
    exact charge.only other (turns.other_mem old) unlike
  · exact errands_of_mem_hired free new

/-- Nobody else takes over. -/
theorem Charge.stays {holder : Worker Msg} (charge : Charge session holder errands)
    (different : holder.id ≠ worker.id) (idle : next.errands = []) (free : Free jobs) :
    Charge later holder errands where
  member := by
    rcases eq_or_mem_around (turns.workers_eq ▸ charge.member) with rfl | old
    · exact absurd rfl different
    · exact turns.mem_later.mpr (.inr (.inl old))
  errands_eq := charge.errands_eq
  only other member unlike := by
    rcases turns.mem_later.mp member with rfl | old | new
    · exact idle
    · exact charge.only other (turns.other_mem old) unlike
    · exact errands_of_mem_hired free new

theorem Turns.phase_aside (identified : Identified session) (aside : Aside session base)
    (errands_eq : next.errands = worker.errands) (free : Free jobs) (phase : Phase session) :
    Phase later := by
  have aside := aside.trans turns.aside
  have unserved (none : ∀ worker ∈ session.workers, worker.errands = []) :
      ∀ other ∈ later.workers, other.errands = [] := by
    have charge : Charge session worker [] :=
      ⟨turns.worker_mem, none worker turns.worker_mem, fun other present _ => none other present⟩
    exact charge.leaves turns identified (errands_eq.trans charge.errands_eq) free
  cases phase with
  | idle fresh stage_eq none =>
      exact .idle (aside.started_eq.trans fresh) (aside.stage_eq.trans stage_eq) (unserved none)
  | spent started stage_eq none =>
      exact .spent (aside.started_eq.trans started) (aside.stage_eq.trans stage_eq) (unserved none)
  | @charged holder errand more started stage_eq charge stand =>
      have started := aside.started_eq.trans started
      have stage_eq := aside.stage_eq.trans stage_eq
      have stand := stand.transfer aside.connection_eq
      by_cases own : holder.id = worker.id
      · obtain rfl := identified.eq_of_id charge.member turns.worker_mem own
        have goesOn := charge.goesOn turns identified free
        rw [errands_eq, charge.errands_eq] at goesOn
        exact .charged started stage_eq goesOn stand
      · have idle := charge.only worker turns.worker_mem (Ne.symm own)
        exact .charged started stage_eq (charge.stays turns own (errands_eq.trans idle) free) stand

/-- The writer is the second of the new workers. -/
theorem Charge.opens (identified : Identified session)
    (charge : Charge session worker errands) (idle : next.errands = [])
    (jobs_eq : jobs = [[.heartbeat], [.write]]) :
    ∃ writer, Charge later writer [.seek] := by
  have mem (other : Worker Msg) : other ∈ hired session.nextId jobs ↔
      other = { id := session.nextId, jobs := [.heartbeat] } ∨
        other = { id := session.nextId + 1, jobs := [.write] } := by
    rw [jobs_eq]
    simp [hired]
  refine ⟨{ id := session.nextId + 1, jobs := [.write] }, ?_, rfl, fun other member unlike => ?_⟩
  · exact turns.mem_later.mpr (.inr (.inr ((mem _).mpr (.inr rfl))))
  · rcases turns.mem_later.mp member with rfl | old | new
    · exact idle
    · have different := id_ne_of_mem (turns.workers_eq ▸ identified.unique) other old
      exact charge.only other (turns.other_mem old) different
    · rcases (mem other).mp new with rfl | rfl
      · rfl
      · exact absurd rfl unlike

/-- The writer has done an errand, and goes on with the next one unless the write failed. -/
theorem Turns.phase_done {errand : Errand} {events : List (Event State Msg)}
    {next? : Option Errand} (identified : Identified session) (phase : Phase session)
    (done : errand.Done events next?) (had : worker.errands = errand :: errands)
    (has : next.errands = next?.toList ++ errands) (started_eq : base.started = session.started)
    (connection_eq : base.connection = session.connection)
    (stage_eq : base.stage = session.stage.bind (·.run? events)) (free : Free jobs) :
    Phase later := by
  obtain ⟨started, reached, charge, stand⟩ := phase.of_errands identified turns.worker_mem had
  have aside := turns.aside
  have started := aside.started_eq.trans (started_eq.trans started)
  have stage_eq : later.stage = some (next?.elim .stopped Errand.stage) := by
    rw [aside.stage_eq, stage_eq, reached]
    exact done.run?
  obtain ⟨works, further⟩ := done.isWriting
  cases stand with
  | keeping | opening => cases works
  | writing connected =>
      cases next? with
      | none => exact .spent started stage_eq (charge.leaves turns identified has free)
      | some errand =>
          have goesOn := charge.goesOn turns identified free
          rw [has] at goesOn
          have connection_eq := aside.connection_eq.trans connection_eq
          exact .charged started stage_eq goesOn
            (.writing (connection_eq ▸ connected) (further errand rfl))

theorem Turns.phase (identified : Identified session) (plain : worker.Plain)
    (opened : session.queue.closed = false) (phase : Phase session) :
    base.cancelled = true ∨ Phase later := by
  have member := turns.worker_mem
  have aside := turns.aside
  cases turns.turn.serves plain with
  | ends ended => exact .inl ended
  | stops closed => simp [opened] at closed
  | aside aside errands_eq free =>
      exact .inr (turns.phase_aside identified aside errands_eq free phase)
  | starts fresh started errands_eq stage_eq free =>
      cases phase with
      | charged before | spent before => simp [fresh] at before
      | idle _ idle none =>
          have charge : Charge session worker [] :=
            ⟨member, none worker member, fun other present _ => none other present⟩
          have goesOn := charge.goesOn turns identified free
          rw [errands_eq, none worker member] at goesOn
          have stage_eq : later.stage = some Errand.keep.stage :=
            aside.stage_eq.trans (stage_eq.trans idle)
          exact .inr (.charged (aside.started_eq.trans started) stage_eq goesOn .keeping)
  | keeps errands_eq started_eq connected stage_eq free =>
      obtain ⟨started, idle, charge, stand⟩ := phase.of_errands identified member errands_eq
      have stage_eq : later.stage = some Errand.open.stage :=
        aside.stage_eq.trans (stage_eq.trans idle)
      have goesOn := charge.goesOn turns identified free
      generalize next.errands = left at stand goesOn
      cases stand with
      | keeping =>
          exact .inr (.charged (aside.started_eq.trans (started_eq.trans started)) stage_eq goesOn
            (.opening (aside.connection_eq ▸ connected)))
      | writing _ works => cases works
  | opens errands_eq quiet jobs_eq =>
      obtain ⟨started, idle, charge, stand⟩ := phase.of_errands identified member errands_eq
      have quiet := quiet.trans aside
      have stage_eq : later.stage = some Errand.seek.stage := quiet.stage_eq.trans idle
      generalize left : next.errands = errands at stand
      cases stand with
      | opening connected =>
          obtain ⟨writer, charge⟩ := charge.opens turns identified left jobs_eq
          exact .inr (.charged (quiet.started_eq.trans started) stage_eq charge
            (.writing (quiet.connection_eq ▸ connected) rfl))
      | writing _ works => cases works
  | does live done had has started_eq connection_eq stage_eq free =>
      exact .inr (turns.phase_done identified phase done had has started_eq connection_eq stage_eq
        free)
  | skips errands_eq unconnected stage_eq =>
      obtain ⟨-, -, -, stand⟩ := phase.of_errands identified member errands_eq
      generalize next.errands = left at stand
      cases stand with
      | writing connected => exact absurd unconnected connected
  | closes had =>
      obtain ⟨-, -, -, stand⟩ := phase.of_errands identified member had
      cases stand with
      | writing _ works => cases works

end

/-! ## Every run -/

theorem Request.errands_jobs (request : Request) :
    (request.jobs : List (Job Msg)).filterMap Job.errand? = [] := by
  cases request <;> simp [Request.jobs, Job.errand?]

theorem stage_of_history_eq (history_eq : later.history = session.history) :
    later.stage = session.stage :=
  stage_of_quiet [] history_eq (List.forall_mem_nil _)

theorem Stays.aside (stays : Stays session later) : Aside session later :=
  ⟨stays.started_eq, stays.connection_eq, stage_of_history_eq stays.history_eq⟩

/-- Who comes has no errands. -/
theorem Stays.errands_eq (stays : Stays session later) (member : worker ∈ later.workers) :
    worker ∈ session.workers ∨ worker.errands = [] := by
  refine (stays.comes worker member).imp_right fun ⟨request, free, jobs_eq⟩ => ?_
  rw [errands_of_waits free, jobs_eq]
  exact request.errands_jobs

theorem Phase.stays (phase : Phase session) (stays : Stays session later) : Phase later := by
  have aside := stays.aside
  have unserved (none : ∀ worker ∈ session.workers, worker.errands = []) :
      ∀ other ∈ later.workers, other.errands = [] := fun other member =>
    (stays.errands_eq member).elim (none other) id
  cases phase with
  | idle fresh stage_eq none =>
      exact .idle (aside.started_eq.trans fresh) (aside.stage_eq.trans stage_eq) (unserved none)
  | spent started stage_eq none =>
      exact .spent (aside.started_eq.trans started) (aside.stage_eq.trans stage_eq) (unserved none)
  | @charged holder errand more started stage_eq charge stand =>
      have present : holder ∈ later.workers := by
        refine (stays.goes holder charge.member).resolve_right fun ⟨free, done⟩ => ?_
        have none := charge.errands_eq
        rw [errands_of_waits free, done] at none
        cases none
      refine .charged (aside.started_eq.trans started) (aside.stage_eq.trans stage_eq)
        ⟨present, charge.errands_eq, fun other member unlike => ?_⟩
        (stand.transfer aside.connection_eq)
      exact (stays.errands_eq member).elim (fun old => charge.only other old unlike) id

/-- Nothing is written in a session that has ended. -/
theorem Serves.stopped (serves : Serves session worker next base jobs)
    (ended : session.cancelled = true) (stopped : session.stage = some .stopped) :
    base.stage = some .stopped := by
  cases serves with
  | aside aside | opens _ aside => exact aside.stage_eq.trans stopped
  | starts _ _ _ stage_eq | keeps _ _ _ stage_eq | skips _ _ stage_eq | stops _ stage_eq =>
      exact stage_eq.trans stopped
  | ends _ stage_eq => exact (stage_eq ended).trans stopped
  | does live => simp [ended] at live
  | closes _ stays => exact stays stopped

/-- How far the writing is, and who is in charge of it while the session goes on. -/
inductive Course (session : Session Flags State Msg) : Prop where
  | ended (ended : session.cancelled = true) (stage_eq : session.stage = some .stopped)
  | going (live : session.cancelled = false) (phase : Phase session)

theorem Course.stage_eq (course : Course session) : ∃ stage, session.stage = some stage := by
  cases course with
  | ended _ stage_eq => exact ⟨_, stage_eq⟩
  | going _ phase => exact phase.stage_eq

theorem Course.stopped (course : Course session) (ended : session.cancelled = true) :
    session.stage = some .stopped := by
  cases course with
  | ended _ stage_eq => exact stage_eq
  | going live => simp [ended] at live

/-- The end of a session ends the writing. -/
theorem Course.ends (course : Course session) (ended : later.cancelled = true)
    (history_eq : later.history = session.cancel.history) : Course later := by
  refine .ended ended ?_
  cases course with
  | ended before stage_eq =>
      rw [Session.cancel, if_pos before] at history_eq
      exact (stage_of_history_eq history_eq).trans stage_eq
  | going live phase =>
      obtain ⟨stage, reached⟩ := phase.stage_eq
      have history_eq : later.history = .cancelled :: session.history := by
        rw [history_eq, Session.cancel, live]
        rfl
      rw [stage_of_history [.cancelled] history_eq, reached]
      rfl

theorem Course.stays (course : Course session) (stays : Stays session later) : Course later := by
  cases course with
  | ended ended stage_eq =>
      exact .ended (stays.cancelled_eq.trans ended) (stays.aside.stage_eq.trans stage_eq)
  | going live phase => exact .going (stays.cancelled_eq.trans live) (phase.stays stays)

theorem Turns.course (turns : Turns model late session worker later base jobs next before after)
    (identified : Identified session) (plain : worker.Plain)
    (opened : session.cancelled = false → session.queue.closed = false)
    (course : Course session) : Course later := by
  have cancelled_eq : later.cancelled = base.cancelled := by rw [turns.later_eq]
  cases course with
  | ended ended stage_eq =>
      refine .ended (cancelled_eq.trans (turns.turn.cancelled ended)) ?_
      exact turns.aside.stage_eq.trans ((turns.turn.serves plain).stopped ended stage_eq)
  | going live phase =>
      rcases turns.turn.cancelled_eq with same | ⟨ends, history_eq⟩
      · have live' := same.trans live
        refine .going (cancelled_eq.trans live') ?_
        refine (turns.phase identified plain (opened live) phase).resolve_left fun ended => ?_
        simp [live'] at ended
      · have course : Course base := (Course.going live phase).ends ends history_eq
        exact .ended (cancelled_eq.trans ends) (turns.aside.stage_eq.trans (course.stopped ends))

theorem Move.course (identified : Identified session)
    (plain : ∀ worker ∈ session.workers, worker.Plain)
    (opened : session.cancelled = false → session.queue.closed = false)
    (course : Course session) (move : Move model session later) : Course later := by
  cases move.change with
  | turns advanced turns => exact turns.course identified (plain _ turns.worker_mem) opened course
  | ends ended later_eq => exact course.ends ended (by rw [later_eq])
  | stays stays => exact course.stays stays

/-- In every run one worker at most is in charge of writing, and the sink sees its events in
order. -/
theorem Reach.course (reach : Reach model flags options session) : Course session := by
  induction reach with
  | idle => exact .going rfl (.idle rfl rfl nofun)
  | step before step ih =>
      refine (step.move before.identified).course before.identified before.plain (fun live => ?_) ih
      rcases before.tracked with ended | tracked
      · simp [live] at ended
      · exact tracked.opened

/-- The client has all that was taken. -/
def Even (session : Session Flags State Msg) : Prop :=
  session.latest Event.delivered? = session.takings.head?

theorem even_of_idle (stage_eq : session.stage = some .idle) : Even session := by
  have delivered := Sending.delivered_eq stage_eq nofun
  simp only [Sending.inHand, List.append_nil, events, List.filterMap_reverse,
    List.reverse_inj] at delivered
  rw [Even, latest, takings, ← delivered, List.head?_filterMap]

/-- While the writer waits for a frame, the client has all that was taken. -/
theorem Reach.even (reach : Reach model flags options session) (live : session.cancelled = false)
    (member : worker ∈ session.workers) (waits : worker.wait = .frame) : Even session := by
  cases reach.course with
  | ended ended => simp [live] at ended
  | going _ phase =>
      obtain ⟨-, stage_eq, -⟩ := phase.of_errands reach.identified member (errands_of_waits waits)
      exact even_of_idle stage_eq

end Session

end Showcase
