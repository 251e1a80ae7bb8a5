import Showcase.Proofs.Session.Joining
import Showcase.Proofs.Session.Resolving

/-!
# What a step does to the program

A step updates the program, brings a task's message, or leaves the program alone. A task that the
program asked for stays with some worker until its message is brought or the session ends.
-/

namespace Showcase

variable {State Msg : Type}

/-- The tasks whose messages the job brings, at once or later, each with the depth of the update
that asked for it. -/
def Job.tasks : Job Msg → List (Nat × Msg)
  | apply pending _ => pending.map fun entry => (entry.1, entry.2.message)
  | after _ job => job.tasks
  | followUp depth message => [(depth, message)]
  | _ => []

/-- Whether the job may fail, and with it all that the worker was to do. -/
def Job.mayFail : Job Msg → Bool
  | start _ | run => true
  | after _ job => job.mayFail
  | _ => false

/-- Whether the job may follow one that may fail. -/
def Job.isFinal : Job Msg → Bool
  | run | join _ | report => true
  | _ => false

/-- Whether the job is one that workers give to themselves; the others are asked for, or bring a
task's message. -/
def Job.isRoutine : Job Msg → Bool
  | start _ | run | join _ | after _ _ | followUp _ _ => false
  | _ => true

def Wait.job? : Wait Msg → Option (Job Msg)
  | time _ job => some job
  | _ => none

/-- All that the worker is to do, starting with the job whose time it waits for. -/
def Worker.agenda (worker : Worker Msg) : List (Job Msg) := worker.wait.job?.toList ++ worker.jobs

def Worker.tasks (worker : Worker Msg) : List (Nat × Msg) := worker.agenda.flatMap Job.tasks

/-- After a job that may fail the worker has only final ones. -/
def Worker.Plain (worker : Worker Msg) : Prop :=
  worker.agenda.Pairwise fun first second => first.mayFail = true → second.isFinal = true

/-- The worker brings no task's message after a job that may fail. -/
def Worker.Tidy (worker : Worker Msg) : Prop :=
  worker.agenda.Pairwise fun first second => first.mayFail = true → second.tasks = []

theorem Inbound.tasks_job (frame : Inbound) : (frame.job : Job Msg).tasks = [] := by
  unfold job
  split <;> rfl

theorem Inbound.isRoutine_job (frame : Inbound) : (frame.job : Job Msg).isRoutine = true := by
  unfold job
  split <;> rfl

theorem Job.mayFail_of_isRoutine {job : Job Msg} (routine : job.isRoutine = true) :
    job.mayFail = false := by
  cases job <;> first | rfl | cases routine

theorem Job.tasks_of_isFinal {job : Job Msg} (final : job.isFinal = true) : job.tasks = [] := by
  cases job <;> first | rfl | cases final

theorem Worker.Plain.tidy {worker : Worker Msg} (plain : worker.Plain) : worker.Tidy :=
  plain.imp fun final fails => Job.tasks_of_isFinal (final fails)

theorem Worker.agenda_goOn (worker : Worker Msg) (jobs : List (Job Msg)) :
    (worker.goOn jobs).agenda = jobs := rfl

section

variable {worker next : Worker Msg} {rest : List (Job Msg)}

theorem Worker.tasks_of_job? {wait : Wait Msg} (waits : worker.wait = wait)
    (none : wait.job? = none) : worker.tasks = worker.jobs.flatMap Job.tasks := by
  rw [Worker.tasks, Worker.agenda, waits, none]
  rfl

theorem Worker.tasks_of_time {due : Nat} {job : Job Msg} (waits : worker.wait = .time due job) :
    worker.tasks = job.tasks ++ worker.jobs.flatMap Job.tasks := by
  rw [Worker.tasks, Worker.agenda, waits]
  rfl

/-- A worker stays plain when it goes on with jobs that do not fail and some of its own. -/
theorem Worker.Plain.goesOn (new : List (Job Msg)) (plain : worker.Plain)
    (suffix : rest <:+ worker.jobs) (safe : ∀ job ∈ new, job.mayFail = false)
    (agenda_eq : next.agenda = new ++ rest) : next.Plain := by
  have first : new.Pairwise fun first second => first.mayFail = true → second.isFinal = true := by
    apply List.pairwise_of_forall_mem_list
    intro job member other _ fails
    exact absurd fails (by simp [safe job member])
  have agenda := suffix.trans (List.suffix_append worker.wait.job?.toList worker.jobs)
  unfold Worker.Plain
  rw [agenda_eq]
  refine List.pairwise_append.mpr ⟨first, plain.sublist agenda.sublist, ?_⟩
  intro job member other _ fails
  exact absurd fails (by simp [safe job member])

end

def Outcome.tasks (outcome : Outcome State Msg) : List (Nat × Msg) :=
  outcome.pending.map fun entry => (entry.1, entry.2.message)

/-- Whether the event is about what the program was told. -/
def Event.isEffect : Event State Msg → Bool
  | input _ _ | updated _ _ | dropped _ _ => true
  | _ => false

def Outcome.effects (outcome : Outcome State Msg) : List (Event State Msg) :=
  outcome.updates.map (fun update => .updated update.1 update.2) ++
    outcome.dropped.map fun message => .dropped message.1 message.2

namespace Session

variable {Flags : Type} {model : Model Flags State Msg} {flags : Flags}
  {options : SessionOptions} {session later base : Session Flags State Msg} {late : Bool}
  {worker next : Worker Msg} {jobs : List (List (Job Msg))} {before after : List (Worker Msg)}
  {rest : List (Job Msg)}

/-- What the program was told, in order. -/
def effects (session : Session Flags State Msg) : List (Event State Msg) :=
  session.events.filter Event.isEffect

theorem effects_note (session : Session Flags State Msg) (events : List (Event State Msg)) :
    (session.note events).effects = session.effects ++ events.filter Event.isEffect := by
  simp [effects, Session.events, note]

theorem effects_absorb (session : Session Flags State Msg) (outcome : Outcome State Msg) :
    (session.absorb outcome).effects = session.effects ++ outcome.effects := by
  have all : outcome.effects.filter Event.isEffect = outcome.effects := by
    rw [List.filter_eq_self]
    intro event member
    rcases List.mem_append.mp member with updated | dropped
    · obtain ⟨update, -, rfl⟩ := List.mem_map.mp updated
      rfl
    · obtain ⟨message, -, rfl⟩ := List.mem_map.mp dropped
      rfl
  rw [absorb, effects_note]
  exact congrArg _ all

theorem effects_cancel (session : Session Flags State Msg) :
    session.cancel.effects = session.effects := by
  unfold cancel
  split
  · rfl
  · exact (effects_note _ _).trans (List.append_nil _)

/-! ## What a step leaves of the tasks -/

theorem Doing.agenda_eq {job : Job Msg} (doing : Doing worker job rest) :
    worker.agenda = job :: rest := by
  rw [Worker.agenda, doing.free, doing.jobs_eq]
  rfl

theorem Doing.tasks_eq {job : Job Msg} (doing : Doing worker job rest) :
    worker.tasks = job.tasks ++ rest.flatMap Job.tasks := by
  rw [Worker.tasks, doing.agenda_eq, List.flatMap_cons]

theorem Doing.tasks_rest {job : Job Msg} (doing : Doing worker job rest) (none : job.tasks = []) :
    worker.tasks = rest.flatMap Job.tasks := by
  rw [doing.tasks_eq, none, List.nil_append]

theorem Brings.tasks_eq {frame : Frame} {deadline : Nat}
    (brings : Brings model session worker frame deadline rest base) :
    worker.tasks = rest.flatMap Job.tasks := by
  cases brings with
  | draws doing => exact doing.tasks_rest rfl
  | retries waits => exact Worker.tasks_of_job? waits rfl

theorem Holds.tasks_eq {purpose : Purpose} (holds : Holds session worker purpose rest base) :
    worker.tasks = rest.flatMap Job.tasks := by
  cases holds with
  | acquires doing => exact doing.tasks_rest rfl
  | granted waits => exact Worker.tasks_of_job? waits rfl

theorem Listens.tasks_eq (listens : Listens session worker rest) :
    worker.tasks = rest.flatMap Job.tasks := by
  cases listens with
  | begins doing => exact doing.tasks_rest rfl
  | retries waits => exact Worker.tasks_of_job? waits rfl

theorem Seeks.tasks_eq (seeks : Seeks session worker rest base) :
    worker.tasks = rest.flatMap Job.tasks := by
  cases seeks with
  | begins doing => exact doing.tasks_rest rfl
  | retries waits => exact Worker.tasks_of_job? waits rfl

/-! ## What a step does to the program -/

/-- What a step does to the program and to the tasks that it asked for. -/
inductive Flow (model : Model Flags State Msg) (session : Session Flags State Msg)
    (worker : Worker Msg) (base : Session Flags State Msg) (jobs : List (List (Job Msg)))
    (next : Worker Msg) : Prop where
  | none (state_eq : base.state = session.state) (effects_eq : base.effects = session.effects)
      (tasks_perm : (next.tasks ++ jobs.flatten.flatMap Job.tasks).Perm worker.tasks)
  | loses (lost : List (Nat × Msg)) (excuse : session.cancelled = true ∨ session.state = none)
      (state_eq : base.state = session.state) (effects_eq : base.effects = session.effects)
      (unhired : jobs = []) (tasks_eq : worker.tasks = lost ++ next.tasks)
  | begins {outcome : Outcome State Msg} (fresh : session.started = false)
      (started : base.started = true)
      (begun : outcome = model.begin session.flags session.geometry)
      (state_eq : base.state = some outcome.state)
      (effects_eq : base.effects = session.effects ++ outcome.effects)
      (unhired : jobs = []) (tasks_eq : next.tasks = outcome.tasks ++ worker.tasks)
  | input {outcome : Outcome State Msg} {key : Key} {state : State}
      (shown : session.state = some state)
      (dispatched : outcome = model.dispatch state 0 (model.ofKey key))
      (state_eq : base.state = some outcome.state)
      (effects_eq : base.effects =
        session.effects ++ .input worker.id key :: outcome.effects)
      (unhired : jobs = []) (tasks_eq : next.tasks = outcome.tasks ++ worker.tasks)
  | resize {outcome : Outcome State Msg} {geometry : Geometry} {state : State}
      (shown : session.state = some state) (adapted : outcome = model.adapt state geometry)
      (state_eq : base.state = some outcome.state)
      (effects_eq : base.effects = session.effects ++ outcome.effects)
      (unhired : jobs = []) (tasks_eq : next.tasks = outcome.tasks ++ worker.tasks)
  | follows {outcome : Outcome State Msg} {depth : Nat} {message : Msg} {state : State}
      {others : List (Nat × Msg)} (shown : session.state = some state)
      (followed : outcome = model.followUp state depth message)
      (state_eq : base.state = some outcome.state)
      (effects_eq : base.effects = session.effects ++ outcome.effects)
      (unhired : jobs = []) (had : worker.tasks = (depth, message) :: others)
      (tasks_eq : next.tasks = outcome.tasks ++ others)

theorem Holds.program_same {purpose : Purpose}
    (holds : Holds session worker purpose rest base) :
    base.state = session.state ∧ base.effects = session.effects := by
  cases holds <;> exact ⟨rfl, rfl⟩

theorem effects_quiet (added : List (Event State Msg))
    (history_eq : later.history = added ++ session.history)
    (quiet : added.filter Event.isEffect = []) : later.effects = session.effects := by
  simp [effects, Session.events, history_eq, List.filter_reverse, quiet]

/-- The program is left alone and no task is lost. -/
theorem Flow.of_tasks (tasks_eq : worker.tasks = rest.flatMap Job.tasks)
    (state_eq : base.state = session.state)
    (effects_eq : base.effects = session.effects) (next_eq : next.tasks = rest.flatMap Job.tasks)
    (hired_eq : jobs.flatten.flatMap Job.tasks = []) :
    Flow model session worker base jobs next := by
  refine .none state_eq effects_eq ?_
  rw [next_eq, hired_eq, List.append_nil, tasks_eq]

theorem Passes.flow (passes : Passes model late session worker rest) :
    Flow model session worker session [] (worker.goOn rest) := by
  cases passes with
  | followUp doing idle => exact .loses _ (.inr idle) rfl rfl rfl doing.tasks_eq
  | timeEnds waits ended =>
      exact .loses _ (.inl ended) rfl rfl rfl (Worker.tasks_of_time waits)
  | input doing | resize doing | render doing | read doing | beat doing | write doing
  | heartbeat doing => exact .of_tasks (doing.tasks_rest rfl) rfl rfl rfl rfl
  | finished listens => exact .of_tasks listens.tasks_eq rfl rfl rfl rfl
  | inboundEnds waits | beatEnds waits | joined waits =>
      exact .of_tasks (Worker.tasks_of_job? waits rfl) rfl rfl rfl rfl

/-- A worker whose job fails had no more tasks. -/
theorem Doing.flow_failing {job : Job Msg} (tidy : worker.Tidy) (doing : Doing worker job rest)
    (fails : job.mayFail = true) (none : job.tasks = []) (fault : SessionFault) :
    Flow model session worker session [] (worker.failing fault) := by
  refine .none rfl rfl (.of_eq ?_)
  have failing_eq : (worker.failing fault).tasks = [] := by
    simp [Worker.tasks, Worker.agenda, Worker.failing, doing.free, Wait.job?, Job.tasks]
  unfold Worker.Tidy at tidy
  rw [doing.agenda_eq, List.pairwise_cons] at tidy
  have rest_eq : rest.flatMap Job.tasks = [] :=
    List.flatMap_eq_nil_iff.mpr fun other member => tidy.1 other member fails
  rw [failing_eq, doing.tasks_eq, none, rest_eq]
  rfl

theorem Turn.flow (tidy : worker.Tidy)
    (turn : Turn model late session worker base jobs next) :
    Flow model session worker base jobs next := by
  cases turn with
  | passes passes => exact passes.flow
  | startFails doing | runFails doing => exact doing.flow_failing tidy rfl rfl _
  | starts doing fresh begun =>
      refine .begins fresh rfl begun rfl ?_ rfl ?_
      · rw [effects_absorb, effects_note]
        simp [Event.isEffect, effects, Session.events]
      · rw [doing.tasks_eq]
        rfl
  | input doing shown dispatched =>
      refine .input shown dispatched rfl ?_ rfl ?_
      · rw [effects_absorb, effects_note, List.append_assoc]
        rfl
      · rw [doing.tasks_eq]
        rfl
  | resize doing shown adapted =>
      refine .resize shown adapted rfl ?_ rfl ?_
      · rw [effects_absorb, effects_note]
        simp [Event.isEffect, effects, Session.events]
      · rw [doing.tasks_eq]
        rfl
  | followsUp doing shown shallow followed =>
      exact .follows shown followed rfl (effects_absorb _ _) rfl doing.tasks_eq rfl
  | drops doing shown deep =>
      refine .follows shown rfl rfl (effects_absorb _ _) rfl doing.tasks_eq ?_
      simp [Model.followUp, deep, Outcome.tasks, Worker.tasks, Worker.agenda_goOn]
  | opensLoops doing | rendersLater doing | runs doing | heartbeat doing =>
      exact .of_tasks (doing.tasks_rest rfl) rfl rfl rfl rfl
  | @applies pending quit rest doing =>
      refine .none rfl rfl ?_
      have kept : (worker.goOn ((if quit then [.shutdown] else []) ++ rest)).tasks =
          rest.flatMap Job.tasks := by
        cases quit <;> rfl
      have handed : (pending.map fun entry =>
          [Job.after entry.2.delay (.followUp entry.1 entry.2.message)]).flatten.flatMap Job.tasks =
            pending.map fun entry => (entry.1, entry.2.message) := by
        simp only [← List.flatMap_def, List.flatMap_assoc]
        exact List.map_eq_flatMap.symm
      rw [kept, handed, doing.tasks_eq]
      exact List.perm_append_comm
  | shutsDown doing =>
      exact .of_tasks (doing.tasks_rest rfl) (by rw [cancel_eq]) (effects_cancel _) rfl rfl
  | sleeps doing => exact .none rfl rfl (.of_eq (by rw [doing.tasks_eq]; exact List.append_nil _))
  | awaitsLock doing | awaitsInbound doing | awaitsBeat doing | joins doing =>
      exact .of_tasks (doing.tasks_rest rfl) rfl rfl rfl rfl
  | keeps holds | closesNothing holds | skipsWrite holds =>
      obtain ⟨state_eq, effects_eq⟩ := holds.program_same
      exact .of_tasks holds.tasks_eq state_eq effects_eq rfl rfl
  | closes holds | awaitsDelivery holds =>
      obtain ⟨state_eq, effects_eq⟩ := holds.program_same
      exact .of_tasks holds.tasks_eq state_eq ((effects_quiet [_] rfl rfl).trans effects_eq) rfl rfl
  | failsWrite holds | writes holds =>
      obtain ⟨state_eq, effects_eq⟩ := holds.program_same
      exact .of_tasks holds.tasks_eq state_eq ((effects_quiet [_, _] rfl rfl).trans effects_eq)
        rfl rfl
  | deliveryEnds waits | frameEnds waits | rereads waits | beats waits =>
      exact .of_tasks (Worker.tasks_of_job? waits rfl) rfl rfl rfl rfl
  | deliveryFails waits | delivers waits | pushesLate waits =>
      exact .of_tasks (Worker.tasks_of_job? waits rfl) rfl (effects_quiet [_] rfl rfl) rfl rfl
  | pushes brings =>
      have tasks_eq := brings.tasks_eq
      cases brings with
      | draws => exact .of_tasks tasks_eq rfl (effects_quiet [_, _] rfl rfl) rfl rfl
      | retries => exact .of_tasks tasks_eq rfl (effects_quiet [_] rfl rfl) rfl rfl
  | awaitsRoom brings =>
      have tasks_eq := brings.tasks_eq
      cases brings with
      | draws => exact .of_tasks tasks_eq rfl (effects_quiet [_] rfl rfl) rfl rfl
      | retries => exact .of_tasks tasks_eq rfl rfl rfl rfl
  | takes seeks =>
      have tasks_eq := seeks.tasks_eq
      cases seeks <;> exact .of_tasks tasks_eq rfl (effects_quiet [_] rfl rfl) rfl rfl
  | findsClosed seeks | awaitsFrame seeks =>
      have tasks_eq := seeks.tasks_eq
      cases seeks <;> exact .of_tasks tasks_eq rfl rfl rfl rfl
  | receives listens =>
      refine Flow.of_tasks listens.tasks_eq rfl (effects_quiet [_] rfl rfl) ?_ rfl
      rw [Worker.tasks, Worker.agenda_goOn, List.flatMap_cons, Inbound.tasks_job]
      rfl
  | readFails listens => exact .of_tasks listens.tasks_eq rfl rfl rfl rfl
  | awakes waits =>
      refine .none rfl rfl (.of_eq ?_)
      rw [Worker.tasks_of_time waits]
      exact List.append_nil _
  | joinTimesOut waits | joinShrinks waits =>
      exact .of_tasks (Worker.tasks_of_job? waits rfl) rfl rfl rfl rfl
  | reports doing => exact .of_tasks (doing.tasks_rest rfl) rfl (effects_quiet [_] rfl rfl) rfl rfl

/-! ## Only final jobs after one that may fail -/

/-- How a worker goes on with what it has to do. -/
inductive Plan (worker next : Worker Msg) : Prop where
  | goesOn (new : List (Job Msg)) {rest : List (Job Msg)} (suffix : rest <:+ worker.jobs)
      (routine : ∀ job ∈ new, job.isRoutine = true) (agenda_eq : next.agenda = new ++ rest)
  | sleeps {delay : Nat} {job : Job Msg} {rest : List (Job Msg)}
      (had : worker.agenda = .after delay job :: rest) (agenda_eq : next.agenda = job :: rest)
  | awakes (agenda_eq : next.agenda = worker.agenda)

theorem Turn.plan (turn : Turn model late session worker base jobs next) : Plan worker next := by
  cases turn with
  | passes passes => exact .goesOn [] passes.suffix (by simp) rfl
  | startFails doing | runFails doing =>
      refine .goesOn [.report] List.nil_suffix (by simp [Job.isRoutine]) ?_
      simp [Worker.agenda, Worker.failing, doing.free, Wait.job?]
  | starts doing =>
      exact .goesOn [_, _, _, _] doing.suffix (by simp [Job.isRoutine]) rfl
  | input doing => exact .goesOn [_, _, _] doing.suffix (by simp [Job.isRoutine]) rfl
  | resize doing | followsUp doing | runs doing =>
      exact .goesOn [_, _] doing.suffix (by simp [Job.isRoutine]) rfl
  | drops doing | opensLoops doing | rendersLater doing | reports doing =>
      exact .goesOn [] doing.suffix (by simp) rfl
  | @applies pending quit rest doing =>
      refine .goesOn (if quit then [.shutdown] else []) doing.suffix ?_ rfl
      cases quit <;> simp [Job.isRoutine]
  | shutsDown doing | heartbeat doing =>
      exact .goesOn [_] doing.suffix (by simp [Job.isRoutine]) rfl
  | sleeps doing => exact .sleeps doing.agenda_eq rfl
  | awaitsLock doing | awaitsInbound doing | awaitsBeat doing | joins doing =>
      exact .goesOn [] doing.suffix (by simp) rfl
  | keeps holds | closesNothing holds | skipsWrite holds | closes holds | awaitsDelivery holds =>
      exact .goesOn [] holds.suffix (by simp) rfl
  | failsWrite holds | writes holds =>
      exact .goesOn [_] holds.suffix (by simp [Job.isRoutine]) rfl
  | deliveryEnds waits | frameEnds waits | pushesLate waits | joinTimesOut waits
  | joinShrinks waits =>
      exact .goesOn [] (List.suffix_refl worker.jobs) (by simp) rfl
  | deliveryFails waits | delivers waits | rereads waits =>
      exact .goesOn [_] (List.suffix_refl worker.jobs) (by simp [Job.isRoutine]) rfl
  | beats waits =>
      exact .goesOn [_, _] (List.suffix_refl worker.jobs) (by simp [Job.isRoutine]) rfl
  | pushes brings | awaitsRoom brings => exact .goesOn [] brings.suffix (by simp) rfl
  | takes seeks => exact .goesOn [_] seeks.suffix (by simp [Job.isRoutine]) rfl
  | findsClosed seeks | awaitsFrame seeks => exact .goesOn [] seeks.suffix (by simp) rfl
  | receives listens =>
      have read : (Job.read : Job Msg).isRoutine = true := rfl
      exact .goesOn [_, _] listens.suffix (by simp [read, Inbound.isRoutine_job]) rfl
  | readFails listens => exact .goesOn [] listens.suffix (by simp) rfl
  | awakes waits =>
      refine .awakes ?_
      rw [Worker.agenda, Worker.agenda, waits]
      rfl

theorem Turn.plain (plain : worker.Plain)
    (turn : Turn model late session worker base jobs next) : next.Plain := by
  cases turn.plan with
  | goesOn new suffix routine agenda_eq =>
      exact plain.goesOn new suffix
        (fun job member => Job.mayFail_of_isRoutine (routine job member)) agenda_eq
  | sleeps had agenda_eq =>
      unfold Worker.Plain at plain ⊢
      rw [had] at plain
      rw [agenda_eq]
      exact List.pairwise_cons.mpr (List.pairwise_cons.mp plain)
  | awakes agenda_eq =>
      unfold Worker.Plain at plain ⊢
      rwa [agenda_eq]

theorem Turn.plain_hired (turn : Turn model late session worker base jobs next)
    {other : Worker Msg} {first : TaskId} (member : other ∈ hired first jobs) : other.Plain := by
  obtain ⟨-, -, free, mem⟩ := id_of_mem_hired member
  rw [Worker.Plain, Worker.agenda, free]
  rcases turn.hires mem with eq | eq | ⟨delay, eq | ⟨depth, message, eq⟩⟩ <;> rw [eq] <;>
    exact List.pairwise_singleton _ _

theorem Request.tasks_jobs (request : Request) :
    (request.jobs : List (Job Msg)).flatMap Job.tasks = [] := by
  cases request <;> simp [Request.jobs, Job.tasks]

theorem Request.plain_jobs (request : Request) (id : TaskId) :
    ({ id, jobs := request.jobs } : Worker Msg).Plain := by
  cases request with
  | render times => exact List.pairwise_replicate.mpr (.inr fun fails => by cases fails)
  | _ => simp [Worker.Plain, Worker.agenda, Wait.job?, Request.jobs, Job.isFinal]

theorem Move.plain (plain : ∀ worker ∈ session.workers, worker.Plain)
    (move : Move model session later) : ∀ worker ∈ later.workers, worker.Plain := by
  intro other member
  cases move with
  | @retires late worker before after advanced free done workers_eq later_eq =>
      rw [later_eq] at member
      exact plain other (workers_eq ▸ mem_around member worker)
  | turns advanced turns =>
      rcases turns.mem_later.mp member with rfl | old | new
      · exact turns.turn.plain (plain _ turns.worker_mem)
      · exact plain other (turns.other_mem old)
      · exact turns.turn.plain_hired new
  | asked request later_eq =>
      rw [later_eq] at member
      rcases List.mem_append.mp member with old | new
      · exact plain other old
      · obtain rfl := List.mem_singleton.mp new
        exact request.plain_jobs _
  | elapses time forward later_eq => rw [later_eq] at member; exact plain other member
  | client link move later_eq => rw [later_eq] at member; exact plain other member
  | cancels live later_eq => rw [later_eq] at member; exact plain other member
  | nothing ended later_eq => rw [later_eq] at member; exact plain other member

theorem Reach.plain (reach : Reach model flags options session) :
    ∀ worker ∈ session.workers, worker.Plain := by
  induction reach with
  | idle =>
      intro worker member
      cases member
  | step before step ih => exact (step.move before.identified).plain ih

theorem Reach.tidy (reach : Reach model flags options session) :
    ∀ worker ∈ session.workers, worker.Tidy :=
  fun worker member => (reach.plain worker member).tidy

/-! ## What the program keeps through all of a run -/

theorem Flow.preserves {holds : State → Prop} (preserves : model.Preserves holds)
    (held : ∀ state, session.state = some state → holds state)
    (flow : Flow model session worker base jobs next) :
    ∀ state, base.state = some state → holds state := by
  intro state found
  cases flow with
  | none state_eq => exact held state (state_eq ▸ found)
  | loses lost excuse state_eq => exact held state (state_eq ▸ found)
  | begins fresh started begun state_eq =>
      obtain rfl := Option.some.inj (state_eq.symm.trans found)
      exact begun ▸ preserves.begin _ _
  | input shown dispatched state_eq =>
      obtain rfl := Option.some.inj (state_eq.symm.trans found)
      exact dispatched ▸ preserves.dispatch (held _ shown) (Nat.zero_le _) _
  | resize shown adapted state_eq =>
      obtain rfl := Option.some.inj (state_eq.symm.trans found)
      exact adapted ▸ preserves.adapt (held _ shown) _
  | follows shown followed state_eq =>
      obtain rfl := Option.some.inj (state_eq.symm.trans found)
      exact followed ▸ preserves.followUp (held _ shown) _ _

/-- What the states of a program keep holds of the state in every run. -/
theorem Reach.preserves {holds : State → Prop} (preserves : model.Preserves holds)
    (reach : Reach model flags options session) {state : State}
    (found : session.state = some state) : holds state := by
  induction reach generalizing state with
  | idle => cases found
  | step before step ih =>
      cases step.move before.identified with
      | turns advanced turns =>
          rw [turns.later_eq] at found
          exact (turns.turn.flow (before.tidy _ turns.worker_mem)).preserves preserves
            (fun _ => ih) _ found
      | retires advanced free done workers_eq later_eq => rw [later_eq] at found; exact ih found
      | asked request later_eq => rw [later_eq] at found; exact ih found
      | elapses time forward later_eq => rw [later_eq] at found; exact ih found
      | client link move later_eq => rw [later_eq] at found; exact ih found
      | cancels live later_eq => rw [later_eq] at found; exact ih found
      | nothing ended later_eq => rw [later_eq] at found; exact ih found

end Session

end Showcase
