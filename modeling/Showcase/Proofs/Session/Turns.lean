import Mathlib.Data.List.Nodup
import Showcase.Proofs.Queue.Operations
import Showcase.Session.Reach

/-!
# What one step of a worker does

A step of a worker changes that worker, may hire others, and changes some parts of the session.
`Turn` says all that such a step can be, and `advance_turns` that every step is one of these; the
results about sessions are derived from it. Which workers are on the ready list is left open, since
any worker may be the next one to go on.
-/

namespace Showcase

variable {Flags State Msg : Type}

/-- The worker goes on with some jobs. -/
def Worker.goOn (worker : Worker Msg) (jobs : List (Job Msg)) : Worker Msg :=
  { worker with wait := .nothing, jobs }

/-- The worker waits and goes on with some jobs later. -/
def Worker.waitFor (worker : Worker Msg) (wait : Wait Msg) (jobs : List (Job Msg))
    (ticket : Nat) : Worker Msg :=
  { worker with wait, jobs, ticket }

/-- The call that the worker makes fails. -/
def Worker.failing (worker : Worker Msg) (fault : SessionFault) : Worker Msg :=
  { worker with jobs := [.report], verdict := .failure fault }

/-- The job that a frame from the client leads to. -/
def Inbound.job (frame : Inbound) : Job Msg :=
  match frame.classify with
  | .control (.resize geometry) => .resize geometry
  | .raw bytes => .input (Key.decode bytes)

namespace Session

/-- New workers with numbers in a row. -/
def hired (first : TaskId) : List (List (Job Msg)) → List (Worker Msg)
  | [] => []
  | jobs :: rest => { id := first, jobs } :: hired (first + 1) rest

section

variable (model : Model Flags State Msg) (late : Bool) (session : Session Flags State Msg)
  (worker : Worker Msg)

/-- The worker has this job to do first. -/
structure Doing (job : Job Msg) (rest : List (Job Msg)) : Prop where
  free : worker.wait = .nothing
  jobs_eq : worker.jobs = job :: rest

/-- The worker brings a frame to the queue: it has drawn it, or it was woken in a push. -/
inductive Brings : Frame → Nat → List (Job Msg) → Session Flags State Msg → Prop where
  | draws {state : State} {rest : List (Job Msg)} (doing : Doing worker .render rest)
      (live : session.cancelled = false) (shown : session.state = some state)
      (visible : (model.render state session.geometry).isEmpty = false) :
      Brings { serial := session.nextSerial, repaint := ⟨model.render state session.geometry⟩ }
        (session.now + session.options.enqueueWait) rest
        { session with
          nextSerial := session.nextSerial + 1
          history := .drawn
            { serial := session.nextSerial, repaint := ⟨model.render state session.geometry⟩ }
            session.geometry state :: session.history }
  | retries {frame : Frame} {deadline : Nat} (waits : worker.wait = .room frame deadline)
      (woken : session.queue.writable.isWoken worker.id = true) :
      Brings frame deadline worker.jobs
        { session with queue := session.queue.leaveRoom worker.id }

/-- The worker holds the lock: it has just acquired it, or the lock was handed to it. -/
inductive Holds : Purpose → List (Job Msg) → Session Flags State Msg → Prop where
  | acquires {purpose : Purpose} {rest : List (Job Msg)} (doing : Doing worker (.lock purpose) rest)
      (held : (session.lock.acquire worker.id).isHeldBy worker.id = true) :
      Holds purpose rest { session with lock := session.lock.acquire worker.id }
  | granted {purpose : Purpose} (waits : worker.wait = .lock purpose)
      (held : session.lock.isHeldBy worker.id = true) : Holds purpose worker.jobs session

/-- The worker looks for what the client sent. -/
inductive Listens : List (Job Msg) → Prop where
  | begins {rest : List (Job Msg)} (doing : Doing worker .read rest)
      (live : session.cancelled = false) : Listens rest
  | retries {deadline : Nat} (waits : worker.wait = .inbound deadline)
      (live : session.cancelled = false) : Listens worker.jobs

/-- The worker looks for a frame in the queue. -/
inductive Seeks : List (Job Msg) → Session Flags State Msg → Prop where
  | begins {rest : List (Job Msg)} (doing : Doing worker .write rest)
      (live : session.cancelled = false) : Seeks rest session
  | retries (waits : worker.wait = .frame) (live : session.cancelled = false)
      (woken : session.queue.readable.isWoken worker.id = true) :
      Seeks worker.jobs { session with queue := session.queue.leaveFrame worker.id }

/-- The worker has nothing to do at this point and goes on with its other jobs. -/
inductive Passes : List (Job Msg) → Prop where
  | input {key : Key} {rest : List (Job Msg)} (doing : Doing worker (.input key) rest)
      (idle : session.state = none) : Passes rest
  | resize {geometry : Geometry} {rest : List (Job Msg)}
      (doing : Doing worker (.resize geometry) rest) (idle : session.state = none) : Passes rest
  | followUp {depth : Nat} {message : Msg} {rest : List (Job Msg)}
      (doing : Doing worker (.followUp depth message) rest) (idle : session.state = none) :
      Passes rest
  | render {rest : List (Job Msg)} (doing : Doing worker .render rest)
      (nothing : session.cancelled = true ∨ session.state = none ∨ ∃ state,
        session.state = some state ∧ (model.render state session.geometry).isEmpty = true) :
      Passes rest
  | read {rest : List (Job Msg)} (doing : Doing worker .read rest)
      (ended : session.cancelled = true) : Passes rest
  | beat {due : Nat} {rest : List (Job Msg)} (doing : Doing worker (.beat due) rest)
      (ended : session.cancelled = true) : Passes rest
  | write {rest : List (Job Msg)} (doing : Doing worker .write rest)
      (ended : session.cancelled = true) : Passes rest
  | heartbeat {rest : List (Job Msg)} (doing : Doing worker .heartbeat rest)
      (never : session.options.renderInterval = 0) : Passes rest
  | finished {rest : List (Job Msg)} (listens : Listens session worker rest)
      (found : session.link.receive.1 = .finished) : Passes rest
  | inboundEnds {deadline : Nat} (waits : worker.wait = .inbound deadline)
      (ended : session.cancelled = true) : Passes worker.jobs
  | beatEnds {due : Nat} (waits : worker.wait = .beat due) (ended : session.cancelled = true) :
      Passes worker.jobs
  | timeEnds {due : Nat} {job : Job Msg} (waits : worker.wait = .time due job)
      (ended : session.cancelled = true) (early : (late && due ≤ session.now) = false) :
      Passes worker.jobs
  | joined {ids : List TaskId} {deadline : Option Nat}
      (waits : worker.wait = .others ids deadline)
      (gone : ids.dropWhile (fun id => !session.isAlive id) = []) : Passes worker.jobs

/-- One step of a worker that goes on: what becomes of the session, whom the worker hires, and what
becomes of the worker. -/
inductive Turn : Session Flags State Msg → List (List (Job Msg)) → Worker Msg → Prop where
  | passes {rest : List (Job Msg)} (passes : Passes model late session worker rest) :
      Turn session [] (worker.goOn rest)
  | startFails {connection : Nat} {rest : List (Job Msg)}
      (doing : Doing worker (.start connection) rest) (started : session.started = true) :
      Turn session [] (worker.failing .alreadyStarted)
  | starts {connection : Nat} {rest : List (Job Msg)} {outcome : Outcome State Msg}
      (doing : Doing worker (.start connection) rest) (fresh : session.started = false)
      (begun : outcome = model.begin session.flags session.geometry) :
      Turn (({ session with started := true }.note [.began session.geometry]).absorb outcome) []
        (worker.goOn (.lock (.keep connection) :: .openLoops ::
          .apply outcome.pending outcome.quit :: .renderLater session.options.settleDelay :: rest))
  | opensLoops {rest : List (Job Msg)} (doing : Doing worker .openLoops rest) :
      Turn { session with loops := session.loops ++ [session.nextId, session.nextId + 1] }
        [[.heartbeat], [.write]] (worker.goOn rest)
  | input {key : Key} {state : State} {rest : List (Job Msg)} {outcome : Outcome State Msg}
      (doing : Doing worker (.input key) rest) (shown : session.state = some state)
      (dispatched : outcome = model.dispatch state 0 (model.ofKey key)) :
      Turn ((session.note [.input worker.id key]).absorb outcome) []
        (worker.goOn (.apply outcome.pending outcome.quit :: .render ::
          .renderLater session.options.followUpDelay :: rest))
  | resize {geometry : Geometry} {state : State} {rest : List (Job Msg)}
      {outcome : Outcome State Msg} (doing : Doing worker (.resize geometry) rest)
      (shown : session.state = some state) (adapted : outcome = model.adapt state geometry) :
      Turn (({ session with geometry }.note [.resized worker.id geometry]).absorb outcome) []
        (worker.goOn (.apply outcome.pending outcome.quit :: .render :: rest))
  | applies {pending : List (Nat × Task Msg)} {quit : Bool} {rest : List (Job Msg)}
      (doing : Doing worker (.apply pending quit) rest) :
      Turn session
        (pending.map fun entry => [.after entry.2.delay (.followUp entry.1 entry.2.message)])
        (worker.goOn ((if quit then [.shutdown] else []) ++ rest))
  | rendersLater {delay : Nat} {rest : List (Job Msg)}
      (doing : Doing worker (.renderLater delay) rest) :
      Turn session [[.after delay .render]] (worker.goOn rest)
  | sleeps {delay : Nat} {job : Job Msg} {rest : List (Job Msg)}
      (doing : Doing worker (.after delay job) rest) (ticket : Nat) :
      Turn session [] (worker.waitFor (.time (session.now + delay) job) rest ticket)
  | followsUp {depth : Nat} {message : Msg} {state : State} {rest : List (Job Msg)}
      {outcome : Outcome State Msg} (doing : Doing worker (.followUp depth message) rest)
      (shown : session.state = some state) (shallow : depth < maxDepth)
      (followed : outcome = model.followUp state depth message) :
      Turn (session.absorb outcome) []
        (worker.goOn (.apply outcome.pending outcome.quit :: .render :: rest))
  | drops {depth : Nat} {message : Msg} {state : State} {rest : List (Job Msg)}
      (doing : Doing worker (.followUp depth message) rest) (shown : session.state = some state)
      (deep : ¬ depth < maxDepth) :
      Turn (session.absorb (model.followUp state depth message)) [] (worker.goOn rest)
  | shutsDown {rest : List (Job Msg)} (doing : Doing worker .shutdown rest) :
      Turn { session.cancel with queue := session.cancel.queue.close.1 } []
        (worker.goOn (.lock .close :: rest))
  | awaitsLock {purpose : Purpose} {rest : List (Job Msg)}
      (doing : Doing worker (.lock purpose) rest)
      (busy : (session.lock.acquire worker.id).isHeldBy worker.id = false) (ticket : Nat) :
      Turn { session with lock := session.lock.acquire worker.id } []
        (worker.waitFor (.lock purpose) rest ticket)
  | keeps {connection : Nat} {rest : List (Job Msg)} {base : Session Flags State Msg}
      (holds : Holds session worker (.keep connection) rest base) :
      Turn { base with connection := some connection, lock := base.lock.release.1 } []
        (worker.goOn rest)
  | closesNothing {rest : List (Job Msg)} {base : Session Flags State Msg}
      (holds : Holds session worker .close rest base) (nothing : session.connection = none) :
      Turn { base with lock := base.lock.release.1 } [] (worker.goOn rest)
  | closes {connection : Nat} {rest : List (Job Msg)} {base : Session Flags State Msg}
      (holds : Holds session worker .close rest base)
      (opened : session.connection = some connection) :
      Turn { base with
          connection := none
          link := { base.link with closed := true }
          history := .closed connection :: base.history
          lock := base.lock.release.1 } [] (worker.goOn rest)
  | skipsWrite {frame : Frame} {rest : List (Job Msg)} {base : Session Flags State Msg}
      (holds : Holds session worker (.write frame) rest base)
      (ended : session.connection = none ∨ session.cancelled = true) :
      Turn { base with lock := base.lock.release.1 } [] (worker.goOn rest)
  | failsWrite {frame : Frame} {connection : Nat} {rest : List (Job Msg)}
      {base : Session Flags State Msg} (holds : Holds session worker (.write frame) rest base)
      (opened : session.connection = some connection) (live : session.cancelled = false)
      (broken : session.link.broken = true ∨ session.link.gone = true) :
      Turn { base with
          history := .failed frame :: .writing frame :: base.history
          lock := base.lock.release.1 } [] (worker.goOn (.shutdown :: rest))
  | writes {frame : Frame} {connection : Nat} {rest : List (Job Msg)}
      {base : Session Flags State Msg} (holds : Holds session worker (.write frame) rest base)
      (opened : session.connection = some connection) (live : session.cancelled = false)
      (sound : session.link.broken = false ∧ session.link.gone = false)
      (writable : session.link.isWritable = true) :
      Turn { base with
          history := .delivered frame session.now :: .writing frame :: base.history
          lock := base.lock.release.1 } [] (worker.goOn (.write :: rest))
  | awaitsDelivery {frame : Frame} {connection : Nat} {rest : List (Job Msg)}
      {base : Session Flags State Msg} (holds : Holds session worker (.write frame) rest base)
      (opened : session.connection = some connection) (live : session.cancelled = false)
      (sound : session.link.broken = false ∧ session.link.gone = false)
      (held : session.link.isWritable = false) (ticket : Nat) :
      Turn { base with history := .writing frame :: base.history } []
        (worker.waitFor (.delivery frame) rest ticket)
  | deliveryEnds {frame : Frame} (waits : worker.wait = .delivery frame)
      (ended : session.cancelled = true) :
      Turn { session with lock := session.lock.release.1 } [] (worker.goOn worker.jobs)
  | deliveryFails {frame : Frame} (waits : worker.wait = .delivery frame)
      (live : session.cancelled = false) (gone : session.link.gone = true) :
      Turn { session with
          history := .failed frame :: session.history
          lock := session.lock.release.1 } [] (worker.goOn (.shutdown :: worker.jobs))
  | delivers {frame : Frame} (waits : worker.wait = .delivery frame)
      (live : session.cancelled = false) (present : session.link.gone = false)
      (writable : session.link.isWritable = true) :
      Turn { session with
          history := .delivered frame session.now :: session.history
          lock := session.lock.release.1 } [] (worker.goOn (.write :: worker.jobs))
  | pushes {frame : Frame} {deadline : Nat} {rest : List (Job Msg)}
      {base : Session Flags State Msg} {outcome : Pushed} {changed : Queue Frame}
      {woken : List TaskId} (brings : Brings model session worker frame deadline rest base)
      (tried : base.queue.tryPush frame = some (outcome, changed, woken)) :
      Turn { base with queue := changed, history := .pushed frame outcome :: base.history } []
        (worker.goOn rest)
  | awaitsRoom {frame : Frame} {deadline : Nat} {rest : List (Job Msg)}
      {base : Session Flags State Msg}
      (brings : Brings model session worker frame deadline rest base)
      (tried : base.queue.tryPush frame = none) (ticket : Nat) :
      Turn { base with queue := base.queue.awaitRoom worker.id } []
        (worker.waitFor (.room frame deadline) rest ticket)
  | pushesLate {frame : Frame} {deadline : Nat} {outcome : Pushed} {changed : Queue Frame}
      {woken : List TaskId} (waits : worker.wait = .room frame deadline)
      (asleep : session.queue.writable.isWoken worker.id = false) (due : deadline ≤ session.now)
      (pushed : (session.queue.giveUpRoom worker.id).1.pushLate frame =
        (outcome, changed, woken)) :
      Turn { session with queue := changed, history := .pushed frame outcome :: session.history } []
        (worker.goOn worker.jobs)
  | takes {frame : Frame} {rest : List (Job Msg)} {base : Session Flags State Msg}
      {changed : Queue Frame} {woken : List TaskId} (seeks : Seeks session worker rest base)
      (popped : base.queue.tryPop = (.frame frame, changed, woken)) :
      Turn { base with queue := changed, history := .taken frame :: base.history } []
        (worker.goOn (.lock (.write frame) :: rest))
  | findsClosed {rest : List (Job Msg)} {base : Session Flags State Msg}
      (seeks : Seeks session worker rest base) (closed : base.queue.closed = true) :
      Turn base [] (worker.goOn rest)
  | awaitsFrame {rest : List (Job Msg)} {base : Session Flags State Msg}
      (seeks : Seeks session worker rest base) (opened : base.queue.closed = false)
      (empty : base.queue.frames = []) (ticket : Nat) :
      Turn { base with queue := base.queue.awaitFrame worker.id } []
        (worker.waitFor .frame rest ticket)
  | frameEnds (waits : worker.wait = .frame) (ended : session.cancelled = true) :
      Turn { session with queue := (session.queue.giveUpFrame worker.id).1 } []
        (worker.goOn worker.jobs)
  | receives {frame : Inbound} {link : Link} {rest : List (Job Msg)}
      (listens : Listens session worker rest)
      (found : session.link.receive = (.frame frame, link)) :
      Turn { session with link, history := .received worker.id frame :: session.history } []
        (worker.goOn (frame.job :: .read :: rest))
  | readFails {fault : ConnectionFault} {link : Link} {rest : List (Job Msg)}
      (listens : Listens session worker rest)
      (found : session.link.receive = (.fault fault, link)) :
      Turn { session with link } []
        { worker.goOn rest with verdict := .failure (.connection fault) }
  | awaitsInbound {rest : List (Job Msg)} (doing : Doing worker .read rest)
      (live : session.cancelled = false) (nothing : session.link.receive.1 = .nothing)
      (ticket : Nat) :
      Turn session []
        (worker.waitFor (.inbound (session.now + session.options.readDeadline)) rest ticket)
  | rereads {deadline : Nat} (waits : worker.wait = .inbound deadline)
      (live : session.cancelled = false) (nothing : session.link.receive.1 = .nothing)
      (due : deadline ≤ session.now) : Turn session [] (worker.goOn (.read :: worker.jobs))
  | runs {rest : List (Job Msg)} (doing : Doing worker .run rest)
      (started : session.started = true) :
      Turn session [] (worker.goOn (.read :: .shutdown :: rest))
  | runFails {rest : List (Job Msg)} (doing : Doing worker .run rest)
      (idle : session.started = false) : Turn session [] (worker.failing .notStarted)
  | heartbeat {rest : List (Job Msg)} (doing : Doing worker .heartbeat rest)
      (regular : session.options.renderInterval ≠ 0) :
      Turn session [] (worker.goOn (.beat (session.now + session.options.renderInterval) :: rest))
  | awaitsBeat {due : Nat} {rest : List (Job Msg)} (doing : Doing worker (.beat due) rest)
      (live : session.cancelled = false) (ticket : Nat) :
      Turn session [] (worker.waitFor (.beat due) rest ticket)
  | beats {due : Nat} (waits : worker.wait = .beat due) (live : session.cancelled = false)
      (passed : due ≤ session.now) :
      Turn session [] (worker.goOn (.render ::
        .beat (nextBeat session.options.renderInterval due session.now) :: worker.jobs))
  | awakes {due : Nat} {job : Job Msg} (waits : worker.wait = .time due job)
      (passed : due ≤ session.now) (allowed : session.cancelled = false ∨ late = true) :
      Turn session [] (worker.goOn (job :: worker.jobs))
  | joins {limit : Option Nat} {rest : List (Job Msg)}
      (doing : Doing worker (.join limit) rest) (ticket : Nat) :
      Turn { session with loops := [] } []
        (worker.waitFor (.others session.loops (limit.map (session.now + ·))) rest ticket)
  | joinTimesOut {ids : List TaskId} {deadline : Option Nat}
      (waits : worker.wait = .others ids deadline) (due : deadline.any (· ≤ session.now) = true) :
      Turn session [] { worker.goOn worker.jobs with verdict := .timeout }
  | joinShrinks {ids rest : List TaskId} {deadline : Option Nat}
      (waits : worker.wait = .others ids deadline) (fewer : rest.length < ids.length)
      (left : ids.dropWhile (fun id => !session.isAlive id) = rest) :
      Turn session [] { worker with wait := .others rest deadline }
  | reports {rest : List (Job Msg)} (doing : Doing worker .report rest) :
      Turn { session with history := .reported worker.id worker.verdict :: session.history } []
        (worker.goOn rest)

/-- A step of the worker with a number, as a turn of it. The other workers stay as they are. -/
structure Turns (later : Session Flags State Msg) (base : Session Flags State Msg)
    (jobs : List (List (Job Msg))) (next : Worker Msg) (before after : List (Worker Msg)) :
    Prop where
  turn : Turn model late session worker base jobs next
  workers_eq : session.workers = before ++ worker :: after
  later_eq : later =
    { base with
      workers := before ++ next :: (after ++ hired session.nextId jobs)
      nextId := session.nextId + jobs.length
      ready := later.ready
      nextTicket := later.nextTicket }

end

/-- Every worker has a number of its own, and the next number is free. -/
structure Identified (session : Session Flags State Msg) : Prop where
  unique : (session.workers.map Worker.id).Nodup
  below : ∀ worker ∈ session.workers, worker.id < session.nextId

section

variable {model : Model Flags State Msg} {late : Bool}
  {session later base : Session Flags State Msg} {worker next : Worker Msg}
  {before after : List (Worker Msg)} {jobs : List (List (Job Msg))} {id : TaskId}

theorem id_of_mem_hired {first : Nat} (member : worker ∈ hired first jobs) :
    first ≤ worker.id ∧ worker.id < first + jobs.length ∧ worker.wait = .nothing ∧
      worker.jobs ∈ jobs := by
  induction jobs generalizing first with
  | nil => cases member
  | cons jobs rest ih =>
      rcases List.mem_cons.mp member with rfl | further
      · simp
      · obtain ⟨above, below, free, mem⟩ := ih further
        rw [Nat.add_right_comm] at below
        exact ⟨Nat.le_of_succ_le above, below, free, List.mem_cons_of_mem _ mem⟩

theorem exists_split (found : session.worker? id = some worker) :
    worker.id = id ∧ ∃ before after, session.workers = before ++ worker :: after := by
  refine ⟨?_, List.append_of_mem (List.mem_of_find?_eq_some found)⟩
  have matched := List.find?_some found
  simpa using matched

theorem mem_around {other : Worker Msg} (member : other ∈ before ++ after) (worker : Worker Msg) :
    other ∈ before ++ worker :: after :=
  ((List.sublist_cons_self worker after).append_left before).subset member

theorem eq_or_mem_around {other : Worker Msg} (member : other ∈ before ++ worker :: after) :
    other = worker ∨ other ∈ before ++ after := by
  rw [List.mem_append, List.mem_cons] at member
  rw [List.mem_append]
  exact or_left_comm.mp member

theorem id_ne_of_mem (unique : ((before ++ worker :: after).map Worker.id).Nodup) :
    ∀ other ∈ before ++ after, other.id ≠ worker.id := by
  intro other member equal
  rw [List.map_append, List.map_cons, List.nodup_middle] at unique
  obtain ⟨absent, -⟩ := List.nodup_cons.mp unique
  apply absent
  rw [← equal, ← List.map_append]
  exact List.mem_map_of_mem member

theorem filter_out (unique : ((before ++ worker :: after).map Worker.id).Nodup) :
    (before ++ worker :: after).filter (fun other => other.id != worker.id) = before ++ after := by
  have differ := id_ne_of_mem unique
  have keep : (before ++ after).filter (fun other => other.id != worker.id) = before ++ after := by
    apply List.filter_eq_self.mpr
    intro other member
    simpa using differ other member
  rw [List.filter_append, List.filter_cons_of_neg (by simp), ← List.filter_append, keep]

/-- Putting a worker in the place of the one with its number leaves the others as they are. -/
theorem map_replace {more : List (Worker Msg)}
    (unique : ((before ++ worker :: after).map Worker.id).Nodup) (same : next.id = worker.id)
    (others : ∀ other ∈ more, other.id ≠ worker.id) :
    (before ++ worker :: after ++ more).map
        (fun other => if other.id == next.id then next else other) =
      before ++ next :: (after ++ more) := by
  have keep (list : List (Worker Msg)) (differ : ∀ other ∈ list, other.id ≠ worker.id) :
      list.map (fun other => if other.id == next.id then next else other) = list := by
    refine Eq.trans (List.map_congr_left ?_) (List.map_id list)
    intro other member
    simp [same, differ other member]
  have differ := id_ne_of_mem unique
  rw [List.map_append, List.map_append, List.map_cons, keep more others,
    keep before fun other member => differ other (List.mem_append_left _ member),
    keep after fun other member => differ other (List.mem_append_right _ member)]
  simp [same]

/-- A turn ends when the worker is put in its place, after those that it hires. -/
theorem Turn.turns {staged : Session Flags State Msg} (identified : Identified session)
    (workers_eq : session.workers = before ++ worker :: after)
    (turn : Turn model late session worker base jobs next) (same : next.id = worker.id)
    (staged_eq : staged =
      { base with
        workers := session.workers ++ hired session.nextId jobs
        nextId := session.nextId + jobs.length
        ready := staged.ready
        nextTicket := staged.nextTicket }) :
    Turns model late session worker (staged.setWorker next) base jobs next before after := by
  refine ⟨turn, workers_eq, ?_⟩
  have below : worker.id < session.nextId :=
    identified.below worker (workers_eq ▸ List.mem_append_right _ List.mem_cons_self)
  have new : ∀ other ∈ hired session.nextId jobs, other.id ≠ worker.id := fun other member equal =>
    Nat.not_lt_of_le (id_of_mem_hired member).1 (equal ▸ below)
  have replaced := map_replace (workers_eq ▸ identified.unique) same new
  rw [workers_eq] at staged_eq
  rw [setWorker, staged_eq, replaced]

/-- A turn in which nobody is hired. -/
theorem Turn.turns_alone {staged : Session Flags State Msg} (identified : Identified session)
    (workers_eq : session.workers = before ++ worker :: after)
    (turn : Turn model late session worker base [] next) (same : next.id = worker.id)
    (workers : base.workers = session.workers) (number : base.nextId = session.nextId)
    (staged_eq : staged =
      { base with ready := staged.ready, nextTicket := staged.nextTicket }) :
    Turns model late session worker (staged.setWorker next) base [] next before after := by
  refine turn.turns identified workers_eq same ?_
  rw [hired, List.append_nil, ← workers]
  rw [staged_eq]
  simp [number]

theorem Brings.same {frame : Frame} {deadline : Nat} {rest : List (Job Msg)}
    (brings : Brings model session worker frame deadline rest base) :
    base.workers = session.workers ∧ base.nextId = session.nextId := by
  cases brings <;> exact ⟨rfl, rfl⟩

theorem Holds.same {purpose : Purpose} {rest : List (Job Msg)}
    (holds : Holds session worker purpose rest base) :
    base.workers = session.workers ∧ base.nextId = session.nextId ∧
      base.connection = session.connection ∧ base.cancelled = session.cancelled ∧
      base.link = session.link ∧ base.now = session.now ∧ base.history = session.history ∧
      base.queue = session.queue := by
  cases holds <;> exact ⟨rfl, rfl, rfl, rfl, rfl, rfl, rfl, rfl⟩

theorem Seeks.same {rest : List (Job Msg)} (seeks : Seeks session worker rest base) :
    base.workers = session.workers ∧ base.nextId = session.nextId := by
  cases seeks <;> exact ⟨rfl, rfl⟩

/-! ## Every step is a turn -/

variable {rest : List (Job Msg)}

theorem Brings.turns {frame : Frame} {deadline : Nat} (identified : Identified session)
    (workers_eq : session.workers = before ++ worker :: after)
    (brings : Brings model session worker frame deadline rest base) :
    ∃ base' jobs next, Turns model late session worker
      (base.push { worker with jobs := rest } frame deadline) base' jobs next before after := by
  obtain ⟨workers, number⟩ := brings.same
  unfold push
  cases tried : base.queue.tryPush frame with
  | none =>
      exact ⟨_, _, _, (Turn.awaitsRoom brings tried base.nextTicket).turns_alone
        identified workers_eq rfl workers number rfl⟩
  | some result =>
      obtain ⟨outcome, changed, woken⟩ := result
      exact ⟨_, _, _, (Turn.pushes brings tried).turns_alone identified workers_eq rfl workers
        number rfl⟩

theorem render_turns (identified : Identified session)
    (workers_eq : session.workers = before ++ worker :: after)
    (doing : Doing worker .render rest) :
    ∃ base jobs next, Turns model late session worker
      (session.render model { worker with jobs := rest }) base jobs next before after := by
  have passes (nothing : session.cancelled = true ∨ session.state = none ∨ ∃ state,
      session.state = some state ∧ (model.render state session.geometry).isEmpty = true) :
      ∃ base jobs next, Turns model late session worker
        (session.proceed { worker with jobs := rest } []) base jobs next before after :=
    ⟨_, _, _, (Turn.passes (.render doing nothing)).turns_alone identified workers_eq rfl rfl rfl
      rfl⟩
  unfold render
  split
  · rename_i ended
    exact passes (.inl ended)
  · rename_i live none
    exact passes (.inr (.inl none))
  · rename_i state live shown
    dsimp only
    split
    · rename_i blank
      exact passes (.inr (.inr ⟨state, shown, blank⟩))
    · rename_i visible
      exact (Brings.draws doing live shown (Bool.of_not_eq_true visible)).turns identified
        workers_eq

theorem Seeks.turns (identified : Identified session)
    (workers_eq : session.workers = before ++ worker :: after)
    (seeks : Seeks session worker rest base)
    (wait : Session Flags State Msg → Session Flags State Msg)
    (waits : base.queue.closed = false → base.queue.frames = [] → ∃ base' jobs next,
      Turns model late session worker
        (wait { base with queue := base.queue.awaitFrame worker.id }) base' jobs next before
        after) :
    ∃ base' jobs next, Turns model late session worker
      (base.pop { worker with jobs := rest } wait) base' jobs next before after := by
  obtain ⟨workers, number⟩ := seeks.same
  unfold pop
  rcases popped : base.queue.tryPop with ⟨result, changed, woken⟩
  cases result with
  | frame frame =>
      exact ⟨_, _, _, (Turn.takes seeks popped).turns_alone identified workers_eq rfl workers
        number rfl⟩
  | closed =>
      obtain ⟨closed, rfl⟩ := Queue.tryPop_eq_closed popped
      exact ⟨_, _, _, (Turn.findsClosed seeks closed).turns_alone identified workers_eq rfl workers
        number rfl⟩
  | nothing =>
      obtain ⟨opened, empty, -⟩ := Queue.tryPop_eq_nothing popped
      exact waits opened empty

theorem Holds.turns {purpose : Purpose} (identified : Identified session)
    (workers_eq : session.workers = before ++ worker :: after)
    (holds : Holds session worker purpose rest base) :
    ∃ base' jobs next, Turns model late session worker
      (base.enter { worker with jobs := rest } purpose) base' jobs next before after := by
  obtain ⟨workers, number, connection_eq, cancelled_eq, link_eq, now_eq, -, -⟩ := holds.same
  cases purpose with
  | keep connection =>
      exact ⟨_, _, _, (Turn.keeps holds).turns_alone identified workers_eq rfl workers number rfl⟩
  | close =>
      simp only [enter]
      split
      · rename_i nothing
        rw [connection_eq] at nothing
        exact ⟨_, _, _, (Turn.closesNothing holds nothing).turns_alone identified workers_eq rfl
          workers number rfl⟩
      · rename_i connection opened
        rw [connection_eq] at opened
        exact ⟨_, _, _, (Turn.closes holds opened).turns_alone identified workers_eq rfl workers
          number rfl⟩
  | write frame =>
      simp only [enter]
      split
      · rename_i ended
        rw [connection_eq, cancelled_eq, Bool.or_eq_true, Option.isNone_iff_eq_none] at ended
        exact ⟨_, _, _, (Turn.skipsWrite holds ended).turns_alone identified workers_eq rfl workers
          number rfl⟩
      · rename_i going
        rw [connection_eq, cancelled_eq, Bool.or_eq_true, not_or, Bool.not_eq_true,
          Bool.not_eq_true, Option.isNone_eq_false_iff, Option.isSome_iff_exists] at going
        obtain ⟨⟨connection, opened⟩, live⟩ := going
        split
        · rename_i broken
          rw [link_eq, Bool.or_eq_true] at broken
          exact ⟨_, _, _, (Turn.failsWrite holds opened live broken).turns_alone identified
            workers_eq rfl workers number rfl⟩
        · rename_i intact
          rw [link_eq, Bool.or_eq_true, not_or, Bool.not_eq_true, Bool.not_eq_true] at intact
          split
          · rename_i writable
            rw [link_eq] at writable
            have turn : Turn model late session worker _ _ _ :=
              .writes holds opened live intact writable
            rw [← now_eq] at turn
            exact ⟨_, _, _, turn.turns_alone identified workers_eq rfl workers number rfl⟩
          · rename_i held
            rw [link_eq] at held
            exact ⟨_, _, _, (Turn.awaitsDelivery holds opened live intact
              (Bool.of_not_eq_true held) base.nextTicket).turns_alone identified workers_eq rfl
                workers number rfl⟩

theorem Listens.turns (identified : Identified session)
    (workers_eq : session.workers = before ++ worker :: after)
    (listens : Listens session worker rest) (otherwise : Option (Session Flags State Msg))
    (received : session.receive { worker with jobs := rest } otherwise = some later)
    (waits : session.link.receive.1 = .nothing → otherwise = some later → ∃ base jobs next,
      Turns model late session worker later base jobs next before after) :
    ∃ base jobs next, Turns model late session worker later base jobs next before after := by
  unfold receive at received
  rcases found : session.link.receive with ⟨result, link⟩
  rw [found] at received
  cases result with
  | frame frame =>
      obtain rfl := Option.some.inj received
      exact ⟨_, _, _, (Turn.receives listens found).turns_alone identified workers_eq rfl rfl rfl
        rfl⟩
  | fault fault =>
      obtain rfl := Option.some.inj received
      exact ⟨_, _, _, (Turn.readFails listens found).turns_alone identified workers_eq rfl rfl rfl
        rfl⟩
  | finished =>
      obtain rfl := Option.some.inj received
      exact ⟨_, _, _, (Turn.passes (.finished listens (by rw [found]))).turns_alone identified
        workers_eq rfl rfl rfl rfl⟩
  | nothing => exact waits (by rw [found]) received

theorem hire_eq (session : Session Flags State Msg) (pending : List (Nat × Task Msg)) :
    pending.foldl (fun session entry =>
        session.spawn [.after entry.2.delay (.followUp entry.1 entry.2.message)]) session =
      { session with
        workers := session.workers ++ hired session.nextId
          (pending.map fun entry => [.after entry.2.delay (.followUp entry.1 entry.2.message)])
        nextId := session.nextId + pending.length
        ready := (pending.foldl (fun session entry => session.spawn
          [.after entry.2.delay (.followUp entry.1 entry.2.message)]) session).ready } := by
  induction pending generalizing session with
  | nil => simp [hired]
  | cons entry rest ih =>
      rw [List.foldl_cons, ih]
      simp [spawn, employ, wake, hired, Nat.add_assoc, Nat.add_comm 1]

/-- The end of a session leaves all but its history and who is ready as it was. -/
theorem cancel_eq (session : Session Flags State Msg) :
    session.cancel =
      { session with
        cancelled := true
        history := session.cancel.history
        ready := session.cancel.ready } := by
  unfold cancel
  split
  · rename_i ended
    rw [← ended]
  · rfl

/-- Doing a job is a turn. -/
theorem perform_turns {job : Job Msg} (identified : Identified session)
    (workers_eq : session.workers = before ++ worker :: after) (doing : Doing worker job rest) :
    ∃ base jobs next, Turns model late session worker
      (session.perform model { worker with jobs := rest } job) base jobs next before after := by
  cases job with
  | start connection =>
      simp only [perform]
      split
      · rename_i started
        exact ⟨_, _, _, (Turn.startFails doing started).turns_alone
          identified workers_eq rfl rfl rfl rfl⟩
      · rename_i fresh
        exact ⟨_, _, _, (Turn.starts doing (Bool.of_not_eq_true fresh) rfl).turns_alone identified
          workers_eq rfl rfl rfl rfl⟩
  | openLoops =>
      refine ⟨_, _, _, (Turn.opensLoops doing).turns identified workers_eq rfl ?_⟩
      simp [spawn, employ, wake, hired]
  | input key =>
      simp only [perform]
      split
      · rename_i idle
        exact ⟨_, _, _, (Turn.passes (.input doing idle)).turns_alone identified workers_eq rfl rfl
          rfl rfl⟩
      · rename_i state shown
        exact ⟨_, _, _, (Turn.input doing shown rfl).turns_alone identified workers_eq rfl rfl rfl
          rfl⟩
  | resize geometry =>
      simp only [perform]
      split
      · rename_i idle
        exact ⟨_, _, _, (Turn.passes (.resize doing idle)).turns_alone identified workers_eq rfl rfl
          rfl rfl⟩
      · rename_i state shown
        exact ⟨_, _, _, (Turn.resize doing shown rfl).turns_alone identified workers_eq rfl rfl rfl
          rfl⟩
  | apply pending quit =>
      refine ⟨_, _, _, (Turn.applies doing).turns identified workers_eq rfl ?_⟩
      have hire := hire_eq session pending
      refine hire.trans ?_
      rw [List.length_map]
      simp [congrArg Session.nextTicket hire]
  | render => exact render_turns identified workers_eq doing
  | renderLater delay =>
      exact ⟨_, _, _, (Turn.rendersLater doing).turns identified workers_eq rfl rfl⟩
  | after delay job =>
      exact ⟨_, _, _, (Turn.sleeps doing session.nextTicket).turns_alone identified
        workers_eq rfl rfl rfl rfl⟩
  | followUp depth message =>
      simp only [perform]
      split
      · rename_i idle
        exact ⟨_, _, _, (Turn.passes (.followUp doing idle)).turns_alone identified workers_eq rfl
          rfl rfl rfl⟩
      · rename_i state shown
        split
        · rename_i shallow
          exact ⟨_, _, _, (Turn.followsUp doing shown shallow rfl).turns_alone identified workers_eq
            rfl rfl rfl rfl⟩
        · rename_i deep
          exact ⟨_, _, _, (Turn.drops doing shown deep).turns_alone
            identified workers_eq rfl rfl rfl rfl⟩
  | shutdown =>
      exact ⟨_, _, _, (Turn.shutsDown doing).turns_alone identified workers_eq rfl
        (by rw [cancel_eq]) (by rw [cancel_eq]) rfl⟩
  | lock purpose =>
      simp only [perform]
      split
      · rename_i held
        exact (Holds.acquires doing held).turns identified workers_eq
      · rename_i busy
        exact ⟨_, _, _, (Turn.awaitsLock doing (Bool.of_not_eq_true busy)
          session.nextTicket).turns_alone identified workers_eq rfl rfl rfl rfl⟩
  | run =>
      simp only [perform]
      split
      · rename_i started
        exact ⟨_, _, _, (Turn.runs doing started).turns_alone identified workers_eq rfl rfl rfl rfl⟩
      · rename_i idle
        exact ⟨_, _, _, (Turn.runFails doing (Bool.of_not_eq_true idle)).turns_alone identified
          workers_eq rfl rfl rfl rfl⟩
  | read =>
      simp only [perform]
      split
      · rename_i ended
        exact ⟨_, _, _, (Turn.passes (.read doing ended)).turns_alone identified workers_eq rfl rfl
          rfl rfl⟩
      · rename_i live
        have live := Bool.of_not_eq_true live
        cases received : session.receive { worker with jobs := rest } none with
        | some later =>
            exact (Listens.begins doing live).turns identified workers_eq none received
              fun _ impossible => nomatch impossible
        | none =>
            refine ⟨_, _, _, (Turn.awaitsInbound doing live ?_ session.nextTicket).turns_alone
              identified workers_eq rfl rfl rfl rfl⟩
            unfold receive at received
            split at received <;> first | contradiction | rename_i found; rw [found]
  | heartbeat =>
      by_cases never : session.options.renderInterval = 0
      · simp only [perform, never, if_true]
        exact ⟨_, _, _, (Turn.passes (.heartbeat doing never)).turns_alone identified workers_eq rfl
          rfl rfl rfl⟩
      · simp only [perform, never, if_false]
        exact ⟨_, _, _, (Turn.heartbeat doing never).turns_alone identified workers_eq rfl rfl rfl
          rfl⟩
  | beat due =>
      simp only [perform]
      split
      · rename_i ended
        exact ⟨_, _, _, (Turn.passes (.beat doing ended)).turns_alone identified workers_eq rfl rfl
          rfl rfl⟩
      · rename_i live
        exact ⟨_, _, _, (Turn.awaitsBeat doing (Bool.of_not_eq_true live)
          session.nextTicket).turns_alone identified workers_eq rfl rfl rfl rfl⟩
  | write =>
      simp only [perform]
      split
      · rename_i ended
        exact ⟨_, _, _, (Turn.passes (.write doing ended)).turns_alone identified workers_eq rfl rfl
          rfl rfl⟩
      · rename_i live
        have seeks := Seeks.begins doing (Bool.of_not_eq_true live)
        refine seeks.turns identified workers_eq _ fun opened empty => ?_
        exact ⟨_, _, _, (Turn.awaitsFrame seeks opened empty
          session.nextTicket).turns_alone identified workers_eq rfl rfl rfl rfl⟩
  | join limit =>
      exact ⟨_, _, _, (Turn.joins doing session.nextTicket).turns_alone identified
        workers_eq rfl rfl rfl rfl⟩
  | report =>
      exact ⟨_, _, _, (Turn.reports doing).turns_alone identified workers_eq rfl rfl rfl rfl⟩

/-- Going on after a wait is a turn. -/
theorem resume_turns {wait : Wait Msg} (identified : Identified session)
    (workers_eq : session.workers = before ++ worker :: after) (waits : worker.wait = wait)
    (resumed : session.resume worker late wait = some later) :
    ∃ base jobs next, Turns model late session worker later base jobs next before after := by
  cases wait with
  | nothing => cases resumed
  | room frame deadline =>
      simp only [resume] at resumed
      split at resumed
      · rename_i woken
        obtain rfl := Option.some.inj resumed
        exact (Brings.retries waits woken).turns identified workers_eq
      · rename_i asleep
        split at resumed
        · rename_i due
          obtain rfl := Option.some.inj resumed
          rcases pushed : (session.queue.giveUpRoom worker.id).1.pushLate frame with
            ⟨outcome, changed, woken⟩
          have pushed' : (session.setQueue (session.queue.giveUpRoom worker.id)).queue.pushLate
              frame = (outcome, changed, woken) := pushed
          unfold pushLate
          dsimp only
          rw [pushed']
          exact ⟨_, _, _, (Turn.pushesLate waits (Bool.of_not_eq_true asleep) due
            pushed).turns_alone identified workers_eq rfl rfl rfl rfl⟩
        · cases resumed
  | lock purpose =>
      simp only [resume] at resumed
      split at resumed
      · rename_i held
        obtain rfl := Option.some.inj resumed
        exact (Holds.granted waits held).turns identified workers_eq
      · cases resumed
  | frame =>
      simp only [resume] at resumed
      split at resumed
      · rename_i ended
        obtain rfl := Option.some.inj resumed
        exact ⟨_, _, _, (Turn.frameEnds waits ended).turns_alone identified workers_eq rfl rfl rfl
          rfl⟩
      · rename_i live
        split at resumed
        · rename_i woken
          obtain rfl := Option.some.inj resumed
          have seeks := Seeks.retries waits (Bool.of_not_eq_true live) woken
          refine seeks.turns identified workers_eq _ fun opened empty => ?_
          -- The worker keeps its place in the order of all waits: nothing is put in its place.
          have same : worker.waitFor .frame worker.jobs worker.ticket = worker := by
            rw [Worker.waitFor, ← waits]
          refine ⟨_, _, _, .awaitsFrame seeks opened empty worker.ticket, workers_eq, ?_⟩
          simp [same, hired, ← workers_eq]
        · cases resumed
  | delivery frame =>
      simp only [resume] at resumed
      split at resumed
      · rename_i ended
        obtain rfl := Option.some.inj resumed
        exact ⟨_, _, _, (Turn.deliveryEnds waits ended).turns_alone
          identified workers_eq rfl rfl rfl rfl⟩
      · rename_i live
        have live := Bool.of_not_eq_true live
        split at resumed
        · rename_i gone
          obtain rfl := Option.some.inj resumed
          exact ⟨_, _, _, (Turn.deliveryFails waits live gone).turns_alone identified workers_eq rfl
            rfl rfl rfl⟩
        · rename_i present
          split at resumed
          · rename_i writable
            obtain rfl := Option.some.inj resumed
            exact ⟨_, _, _, (Turn.delivers waits live (Bool.of_not_eq_true present)
              writable).turns_alone identified workers_eq rfl rfl rfl rfl⟩
          · cases resumed
  | inbound deadline =>
      simp only [resume] at resumed
      split at resumed
      · rename_i ended
        obtain rfl := Option.some.inj resumed
        exact ⟨_, _, _, (Turn.passes (.inboundEnds waits ended)).turns_alone identified workers_eq
          rfl rfl rfl rfl⟩
      · rename_i live
        have live := Bool.of_not_eq_true live
        refine (Listens.retries waits live).turns identified workers_eq _ resumed
          fun nothing rereads => ?_
        split at rereads
        · rename_i due
          obtain rfl := Option.some.inj rereads
          exact ⟨_, _, _, (Turn.rereads waits live nothing due).turns_alone
            identified workers_eq rfl rfl rfl rfl⟩
        · cases rereads
  | beat due =>
      simp only [resume] at resumed
      split at resumed
      · rename_i ended
        obtain rfl := Option.some.inj resumed
        exact ⟨_, _, _, (Turn.passes (.beatEnds waits ended)).turns_alone identified workers_eq
          rfl rfl rfl rfl⟩
      · rename_i live
        split at resumed
        · rename_i passed
          obtain rfl := Option.some.inj resumed
          exact ⟨_, _, _, (Turn.beats waits (Bool.of_not_eq_true live) passed).turns_alone
            identified workers_eq rfl rfl rfl rfl⟩
        · cases resumed
  | time due job =>
      simp only [resume] at resumed
      split at resumed
      · rename_i ended
        obtain rfl := Option.some.inj resumed
        rw [Bool.and_eq_true, Bool.not_eq_true'] at ended
        exact ⟨_, _, _, (Turn.passes (.timeEnds waits ended.1 ended.2)).turns_alone identified
          workers_eq rfl rfl rfl rfl⟩
      · rename_i allowed
        split at resumed
        · rename_i passed
          obtain rfl := Option.some.inj resumed
          have allowed : session.cancelled = false ∨ late = true := by
            simpa [passed, Classical.or_iff_not_imp_left] using allowed
          exact ⟨_, _, _, (Turn.awakes waits passed allowed).turns_alone
            identified workers_eq rfl rfl rfl rfl⟩
        · cases resumed
  | others ids deadline =>
      simp only [resume] at resumed
      split at resumed
      · rename_i gone
        obtain rfl := Option.some.inj resumed
        exact ⟨_, _, _, (Turn.passes (.joined waits gone)).turns_alone identified workers_eq rfl rfl
          rfl rfl⟩
      · split at resumed
        · rename_i due
          obtain rfl := Option.some.inj resumed
          exact ⟨_, _, _, (Turn.joinTimesOut waits due).turns_alone
            identified workers_eq rfl rfl rfl rfl⟩
        · split at resumed
          · rename_i fewer
            obtain rfl := Option.some.inj resumed
            exact ⟨_, _, _, (Turn.joinShrinks waits fewer rfl).turns_alone identified workers_eq rfl
              rfl rfl rfl⟩
          · cases resumed

/-- Every step of a worker is one of its turns, or the worker has nothing left to do and retires. -/
theorem advance_turns (identified : Identified session)
    (advanced : session.advance model late id = some later) :
    ∃ worker before after, worker.id = id ∧ session.workers = before ++ worker :: after ∧
      ((worker.wait = .nothing ∧ worker.jobs = [] ∧
        later = { session with workers := before ++ after, ready := later.ready }) ∨
      ∃ base jobs next, Turns model late session worker later base jobs next before after) := by
  obtain ⟨worker, found, moved⟩ := Option.bind_eq_some_iff.mp advanced
  obtain ⟨same, before, after, workers_eq⟩ := exists_split found
  refine ⟨worker, before, after, same, workers_eq, ?_⟩
  split at moved
  · rename_i free done
    obtain rfl := Option.some.inj moved
    refine .inl ⟨free, done, ?_⟩
    rw [retire, workers_eq, filter_out (workers_eq ▸ identified.unique)]
    rfl
  · rename_i job rest free doing
    obtain rfl := Option.some.inj moved
    exact .inr (perform_turns identified workers_eq ⟨free, doing⟩)
  · rename_i wait other waits
    exact .inr (resume_turns identified workers_eq rfl moved)

end

end Session

end Showcase
