import Showcase.Proofs.Session.Electing

/-!
# Calls that come too early or too late

A session is started once. Every other call to start it is refused, and so is a call to run it
before the start; a call that is refused leaves the session as it is and says so. Keys, sizes and
drawings that come before the start change nothing, so that the program starts at the geometry that
the session began with.
-/

namespace Showcase

variable {Flags State Msg : Type}

/-- Whether the job is what a caller asks for between the start and the end. -/
def Job.isCall : Job Msg → Bool
  | input _ | resize _ | render => true
  | _ => false

/-- Whether the job may be there before the program is started. -/
def Job.isEarly : Job Msg → Bool
  | start _ | run | input _ | resize _ | render | shutdown | lock .close | join _ | report => true
  | _ => false

/-- Whether a worker may wait like this before the program is started. -/
def Wait.isEarly : Wait Msg → Bool
  | nothing | lock .close | others _ _ => true
  | _ => false

/-- The worker does nothing that needs a program. -/
structure Worker.IsEarly (worker : Worker Msg) : Prop where
  waits : worker.wait.isEarly = true
  jobs : ∀ job ∈ worker.jobs, job.isEarly = true

theorem Worker.IsEarly.of_suffix {worker : Worker Msg} {rest : List (Job Msg)}
    (early : worker.IsEarly) (suffix : rest <:+ worker.jobs) :
    ∀ job ∈ rest, job.isEarly = true :=
  fun job member => early.jobs job (suffix.subset member)

theorem Worker.IsEarly.not_waiting {worker : Worker Msg} {wait : Wait Msg} (early : worker.IsEarly)
    (waits : worker.wait = wait) (late : wait.isEarly = false) : False := by
  have waiting := early.waits
  rw [waits, late] at waiting
  cases waiting

namespace Session

variable {model : Model Flags State Msg} {flags : Flags} {options : SessionOptions}
  {session later base : Session Flags State Msg} {late : Bool} {worker next : Worker Msg}
  {jobs : List (List (Job Msg))} {before after : List (Worker Msg)} {rest : List (Job Msg)}
  {asked : List (TaskId × Request)} {id : TaskId} {fault : SessionFault}

theorem Doing.not_late {job : Job Msg} (early : worker.IsEarly) (doing : Doing worker job rest)
    (late : job.isEarly = false) : False := by
  have known := early.jobs job (doing.jobs_eq ▸ List.mem_cons_self)
  rw [late] at known
  cases known

theorem Holds.not_late {purpose : Purpose} (early : worker.IsEarly)
    (holds : Holds session worker purpose rest base)
    (late : (Job.lock purpose : Job Msg).isEarly = false) : False := by
  cases holds with
  | acquires doing => exact doing.not_late early late
  | granted waits =>
      refine early.not_waiting waits ?_
      cases purpose <;> first | rfl | cases late

theorem Seeks.not_late (early : worker.IsEarly) (seeks : Seeks session worker rest base) :
    False := by
  cases seeks with
  | begins doing => exact doing.not_late early rfl
  | retries waits => exact early.not_waiting waits rfl

theorem Listens.not_late (early : worker.IsEarly) (listens : Listens session worker rest) :
    False := by
  cases listens with
  | begins doing => exact doing.not_late early rfl
  | retries waits => exact early.not_waiting waits rfl

/-! ## Before the start -/

/-- A session without a program: nothing was drawn, there is no connection and no loop, and the
geometry is the one that it began with. -/
structure Dormant (options : SessionOptions) (session : Session Flags State Msg) : Prop where
  state_eq : session.state = none
  geometry_eq : session.geometry = options.geometry
  frames_eq : session.queue.frames = []
  serial_eq : session.nextSerial = 0
  connection_eq : session.connection = none
  loops_eq : session.loops = []

theorem Dormant.transfer (dormant : Dormant options session)
    (same : later =
      { session with
        started := later.started
        cancelled := later.cancelled
        lock := later.lock
        link := later.link
        workers := later.workers
        ready := later.ready
        now := later.now
        nextId := later.nextId
        nextTicket := later.nextTicket
        history := later.history }) : Dormant options later := by
  obtain ⟨state_eq, geometry_eq, frames_eq, serial_eq, connection_eq, loops_eq⟩ := dormant
  rw [same]
  exact ⟨state_eq, geometry_eq, frames_eq, serial_eq, connection_eq, loops_eq⟩

/-- A turn in a session without a program starts it, or leaves it without one. -/
theorem Turn.dormant (dormant : Dormant options session) (early : worker.IsEarly)
    (turn : Turn model late session worker base jobs next) :
    base.started = true ∨ Dormant options base ∧ jobs = [] ∧ next.IsEarly := by
  have hidden {state : State} (shown : session.state = some state) : False := by
    rw [dormant.state_eq] at shown
    cases shown
  cases turn with
  | starts => exact .inl rfl
  | runs doing started => exact .inl started
  | passes passes => exact .inr ⟨dormant, rfl, rfl, early.of_suffix passes.suffix⟩
  | startFails | runFails =>
      exact .inr ⟨dormant, rfl, early.waits, List.forall_mem_singleton.mpr rfl⟩
  | shutsDown doing =>
      refine .inr ⟨?_, rfl, rfl,
        List.forall_mem_cons.mpr ⟨rfl, early.of_suffix doing.suffix⟩⟩
      rw [cancel_eq]
      refine ⟨dormant.state_eq, dormant.geometry_eq, ?_, dormant.serial_eq,
        dormant.connection_eq, dormant.loops_eq⟩
      rw [Queue.frames_close]
      split
      · exact dormant.frames_eq
      · rfl
  | @awaitsLock purpose rest doing =>
      cases purpose with
      | close =>
          exact .inr ⟨dormant.transfer rfl, rfl, rfl, early.of_suffix doing.suffix⟩
      | keep | write => exact (doing.not_late early rfl).elim
  | closesNothing holds =>
      have suffix := holds.suffix
      cases holds <;> exact .inr ⟨dormant.transfer rfl, rfl, rfl, early.of_suffix suffix⟩
  | joins doing =>
      exact .inr ⟨⟨dormant.state_eq, dormant.geometry_eq, dormant.frames_eq, dormant.serial_eq,
        dormant.connection_eq, rfl⟩, rfl, rfl, early.of_suffix doing.suffix⟩
  | reports doing =>
      exact .inr ⟨dormant.transfer rfl, rfl, rfl, early.of_suffix doing.suffix⟩
  | joinTimesOut | joinShrinks => exact .inr ⟨dormant, rfl, rfl, early.jobs⟩
  | input doing shown | resize doing shown | followsUp doing shown | drops doing shown =>
      exact (hidden shown).elim
  | opensLoops doing | applies doing | rendersLater doing | sleeps doing | awaitsInbound doing
  | heartbeat doing | awaitsBeat doing => exact (doing.not_late early rfl).elim
  | keeps holds | skipsWrite holds | failsWrite holds | writes holds | awaitsDelivery holds =>
      exact (holds.not_late early rfl).elim
  | closes holds opened =>
      rw [dormant.connection_eq] at opened
      cases opened
  | pushes brings | awaitsRoom brings =>
      cases brings with
      | draws doing live shown => exact (hidden shown).elim
      | retries waits => exact (early.not_waiting waits rfl).elim
  | takes seeks | findsClosed seeks | awaitsFrame seeks => exact (seeks.not_late early).elim
  | receives listens | readFails listens => exact (listens.not_late early).elim
  | deliveryEnds waits | deliveryFails waits | delivers waits | pushesLate waits
  | frameEnds waits | rereads waits | beats waits | awakes waits =>
      exact (early.not_waiting waits rfl).elim

theorem Request.isEarly_jobs (request : Request) :
    ∀ job ∈ (request.jobs : List (Job Msg)), job.isEarly = true := by
  cases request with
  | render times =>
      intro job member
      rw [List.eq_of_mem_replicate member]
      rfl
  | _ => simp [Request.jobs, Job.isEarly]

/-- Before the start no worker has anything to do that needs a program. -/
structure Resting (options : SessionOptions) (session : Session Flags State Msg) : Prop where
  dormant : Dormant options session
  early : ∀ worker ∈ session.workers, worker.IsEarly

theorem Turns.resting (resting : session.started = false → Resting options session)
    (turns : Turns model late session worker later base jobs next before after)
    (fresh : later.started = false) : Resting options later := by
  have fresh : base.started = false := by rwa [turns.later_eq] at fresh
  have idle : session.started = false := by
    rcases turns.turn.marks.beginnings_eq with ⟨same, -⟩ | ⟨idle, -⟩
    · exact same ▸ fresh
    · exact idle
  obtain ⟨dormant, early⟩ := resting idle
  rcases turns.turn.dormant dormant (early _ turns.worker_mem) with started | quiet
  · rw [fresh] at started
    cases started
  · obtain ⟨dormant, rfl, next_early⟩ := quiet
    constructor
    · rw [turns.later_eq]
      exact dormant.transfer rfl
    · intro other member
      rcases turns.mem_later.mp member with rfl | old | new
      · exact next_early
      · exact early other (turns.other_mem old)
      · cases new

theorem Move.resting (resting : session.started = false → Resting options session)
    (move : Move model session later) : later.started = false → Resting options later := by
  intro fresh
  cases move with
  | turns advanced turns => exact turns.resting resting fresh
  | @retires late worker before after advanced free done workers_eq later_eq =>
      rw [later_eq] at fresh ⊢
      obtain ⟨dormant, early⟩ := resting fresh
      exact ⟨dormant.transfer rfl, fun other member =>
        early other (workers_eq ▸ mem_around member _)⟩
  | asked request later_eq =>
      rw [later_eq] at fresh ⊢
      obtain ⟨dormant, early⟩ := resting fresh
      refine ⟨dormant.transfer rfl, fun other member => ?_⟩
      rcases List.mem_append.mp member with old | new
      · exact early other old
      · obtain rfl := List.mem_singleton.mp new
        exact ⟨rfl, request.isEarly_jobs⟩
  | elapses time forward later_eq =>
      rw [later_eq] at fresh ⊢
      exact ⟨(resting fresh).dormant.transfer rfl, (resting fresh).early⟩
  | client link move later_eq =>
      rw [later_eq] at fresh ⊢
      exact ⟨(resting fresh).dormant.transfer rfl, (resting fresh).early⟩
  | cancels live later_eq =>
      rw [later_eq] at fresh ⊢
      exact ⟨(resting fresh).dormant.transfer rfl, (resting fresh).early⟩
  | nothing ended later_eq =>
      rw [later_eq] at fresh ⊢
      exact resting fresh

theorem Reach.resting (reach : Reach model flags options session) :
    session.started = false → Resting options session := by
  induction reach with
  | idle => exact fun _ => ⟨⟨rfl, rfl, rfl, rfl, rfl, rfl⟩, fun _ member => nomatch member⟩
  | step before step ih => exact (step.move before.identified).resting ih

/-! ## Every run -/

theorem Unbegun.not_succeeded (reach : Reach model flags options session)
    (unbegun : Unbegun id session) : .reported id .success ∉ session.history := by
  cases unbegun with
  | waits member same doing => exact same ▸ reach.unreported member doing .success
  | refused refused =>
      intro told
      cases refused.told _ told

/-- Everything that is left of the call of a worker is to say that it failed, and it does not wait
for anyone before it has. -/
def Fails (model : Model Flags State Msg) (fault : SessionFault) (id : TaskId)
    (session : Session Flags State Msg) : Prop :=
  ∀ later, Relation.ReflTransGen (Step model) session later →
    Refused fault id later ∧ Harmless model id later

/-- What is promised of the calls that come too early or too late, in any order and however often
they come. -/
structure Guarded (model : Model Flags State Msg) (flags : Flags) (options : SessionOptions)
    (session : Session Flags State Msg) : Prop where
  beginnings_eq : session.beginnings = if session.started then [options.geometry] else []
  dormant : session.started = false → Dormant options session
  starts : session.started = false → ∀ worker ∈ session.workers, ∀ connection rest,
    Doing worker (.start connection) rest → ∀ late, ∃ later,
      session.advance model late worker.id = some later ∧ later.started = true ∧
        later.state = some (model.begin flags options.geometry).state ∧
        later.geometry = options.geometry
  restarts : session.started = true → ∀ worker ∈ session.workers, ∀ connection rest,
    Doing worker (.start connection) rest → ∀ late,
      session.advance model late worker.id =
          some (session.setWorker (worker.failing .alreadyStarted)) ∧
        Fails model .alreadyStarted worker.id (session.setWorker (worker.failing .alreadyStarted))
  runs : session.started = false → ∀ worker ∈ session.workers, ∀ rest,
    Doing worker .run rest → ∀ late,
      session.advance model late worker.id =
          some (session.setWorker (worker.failing .notStarted)) ∧
        Fails model .notStarted worker.id (session.setWorker (worker.failing .notStarted))
  calls : session.started = false → ∀ worker ∈ session.workers, ∀ job rest,
    Doing worker job rest → job.isCall = true → ∀ late,
      session.advance model late worker.id = some (session.setWorker (worker.goOn rest))
  one : ∀ asked, Asks model (idle flags options) asked session →
    ∃ first, ∀ call ∈ asked, call.2.starts = true → call.1 ≠ first →
      Unbegun call.1 session ∧ .reported call.1 .success ∉ session.history
  told : ∀ asked, Asks model (idle flags options) asked session →
    ∀ call connection, (call, .start connection) ∈ asked →
      ∀ verdict, .reported call verdict ∈ session.history →
        verdict = .success ∨ verdict = .failure .alreadyStarted

theorem Reach.fails {job : Job Msg} (reach : Reach model flags options session)
    (member : worker ∈ session.workers) (doing : Doing worker job rest) {fault : SessionFault}
    (advanced : session.advance model late worker.id =
      some (session.setWorker (worker.failing fault))) :
    Fails model fault worker.id (session.setWorker (worker.failing fault)) := fun _ steps =>
  (refused_failing reach member doing fault).steps (reach.step (.advance late _ advanced)) steps

theorem Dormant.perform_call {job : Job Msg} (dormant : Dormant options session)
    (call : job.isCall = true) (worker : Worker Msg) :
    session.perform model worker job = session.proceed worker [] := by
  cases job with
  | input key => simp [perform, dormant.state_eq]
  | resize geometry => simp [perform, dormant.state_eq]
  | render => cases ended : session.cancelled <;> simp [perform, render, dormant.state_eq, ended]
  | _ => cases call

/-- Only the first call to start a session starts it. Every other one is refused, and so is a call
to run it before; whatever else comes before the start leaves no trace. -/
theorem calls_guarded (reach : Reach model flags options session) :
    Guarded model flags options session := by
  have identified := reach.identified
  have dormant (fresh : session.started = false) := (reach.resting fresh).dormant
  refine ⟨reach.beginnings_eq, dormant, ?_, ?_, ?_, ?_, fun asked asks => ?_,
    fun asked asks call connection member => (asks.opening member).told⟩
  · intro fresh worker member connection rest doing late
    refine ⟨_, advance_doing identified member doing, ?_⟩
    simp [perform, fresh, proceed, setWorker, absorb, note, reach.flags_eq,
      (dormant fresh).geometry_eq]
  · intro started worker member connection rest doing late
    have advanced : session.advance model late worker.id =
        some (session.setWorker (worker.failing .alreadyStarted)) := by
      rw [advance_doing identified member doing]
      simp only [perform, started]
      rfl
    exact ⟨advanced, reach.fails member doing advanced⟩
  · intro fresh worker member rest doing late
    have advanced : session.advance model late worker.id =
        some (session.setWorker (worker.failing .notStarted)) := by
      rw [advance_doing identified member doing]
      simp only [perform, fresh]
      rfl
    exact ⟨advanced, reach.fails member doing advanced⟩
  · intro fresh worker member job rest doing call late
    rw [advance_doing identified member doing, (dormant fresh).perform_call call]
    rfl
  · obtain ⟨first, others⟩ := asks.elected.one
    refine ⟨first, fun call member starts differs => ?_⟩
    have unbegun := others call member starts differs
    exact ⟨unbegun, unbegun.not_succeeded reach⟩

/-- A key, a size, a drawing and a run come before the start, and another start after it. -/
theorem calls_guarded_disordered : ∃ early session : Session Unit Unit Unit,
    Reach quiet () cramped early ∧ early.verdict? 4 = some (.failure .notStarted) ∧
      Dormant cramped early ∧
    Reach quiet () cramped session ∧ session.verdict? 5 = some .success ∧
      session.verdict? 6 = some (.failure .alreadyStarted) ∧
      session.beginnings = [.clamp 1 1] := by
  -- Workers 1 to 4 come too early, worker 5 starts the session, and worker 6 comes too late.
  let asked : Session Unit Unit Unit :=
    ((((((idle () cramped).ask (.input (.char 'a'))).ask (.resize (.clamp 2 3))).ask
      (.render 1)).ask .run).ask (.start 7)).ask (.start 8)
  let early := ([1, 1, 2, 2, 3, 3, 4, 4].foldlM (advance quiet false) asked).get
    (by decide +kernel)
  let session := ([5, 6, 6, 5, 5, 5, 5, 5].foldlM (advance quiet false) early).get
    (by decide +kernel)
  have asks : Asks quiet (idle () cramped) [(1, .input (.char 'a')), (2, .resize (.clamp 2 3)),
      (3, .render 1), (4, .run), (5, .start 7), (6, .start 8)] early :=
    Asks.turns ((((((Asks.start.ask _).ask _).ask _).ask _).ask _).ask _) (Option.some_get _).symm
  have reach : Reach quiet () cramped session :=
    (asks.turns (Option.some_get _).symm).reach .idle
  have started : session.started = true := by decide +kernel
  refine ⟨early, session, asks.reach .idle, by decide +kernel,
    (calls_guarded (asks.reach .idle)).dormant (by decide +kernel), reach, by decide +kernel,
    by decide +kernel, ?_⟩
  rw [(calls_guarded reach).beginnings_eq, started]
  rfl

end Session

end Showcase
