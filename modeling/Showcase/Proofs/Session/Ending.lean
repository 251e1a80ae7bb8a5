import Showcase.Proofs.Session.Locking
import Showcase.Proofs.Session.Starting

/-!
# The end of a session

Once a session that was started has been told to end, all its workers come to their end: a worker
that still waits when nothing more can happen would wait for one that waits itself, and there is no
such worker. What they leave is a closed, empty queue and a connection that was closed once.
-/

namespace Showcase

variable {State Msg : Type}

/-- Whether the jobs come to shut the session down, whatever else happens. -/
def endsSoon : List (Job Msg) → Bool
  | .run :: _ | .shutdown :: _ => true
  | .start _ :: _ | .after .. :: _ | [] => false
  | _ :: rest => endsSoon rest

def Wait.isTime : Wait Msg → Bool
  | time .. => true
  | _ => false

/-- Whether the worker comes to shut the session down. -/
def Worker.ends (worker : Worker Msg) : Bool := !worker.wait.isTime && endsSoon worker.jobs

/-- A queue that was closed has no frames left. -/
def Queue.Emptied (queue : Queue Frame) : Prop := queue.closed = true → queue.frames = []

namespace Session

variable {Flags : Type} {model : Model Flags State Msg} {flags : Flags}
  {options : SessionOptions} {session later base : Session Flags State Msg} {late : Bool}
  {worker next : Worker Msg} {jobs : List (List (Job Msg))} {before after : List (Worker Msg)}
  {rest : List (Job Msg)} {connection : Nat}

/-! ## A closed queue stays closed and empty -/

/-- The queue stays closed if it was, and discards its frames when it is closed. -/
structure QueueTurn (queue changed : Queue Frame) : Prop where
  closed : queue.closed = true → changed.closed = true
  emptied : queue.Emptied → changed.Emptied

theorem QueueTurn.of_alike {queue changed : Queue Frame} (alike : Queue.Alike changed queue) :
    QueueTurn queue changed where
  closed := fun closed => alike.closed_eq.trans closed
  emptied := fun emptied closed =>
    alike.frames_eq.trans (emptied (alike.closed_eq.symm.trans closed))

theorem QueueTurn.of_open {queue changed : Queue Frame} (opened : queue.closed = false)
    (closed_eq : changed.closed = queue.closed) : QueueTurn queue changed where
  closed := fun closed => absurd closed (by simp [opened])
  emptied := fun _ closed => absurd closed (by simp [closed_eq, opened])

theorem Brings.alike {frame : Frame} {deadline : Nat}
    (brings : Brings model session worker frame deadline rest base) :
    Queue.Alike base.queue session.queue := by
  cases brings with
  | draws => exact .refl _
  | retries => exact Queue.alike_leaveRoom _ _

theorem Seeks.alike (seeks : Seeks session worker rest base) :
    Queue.Alike base.queue session.queue := by
  cases seeks with
  | begins => exact .refl _
  | retries => exact Queue.alike_leaveFrame _ _

theorem Turn.queueTurn (turn : Turn model late session worker base jobs next) :
    QueueTurn session.queue base.queue := by
  cases turn with
  | shutsDown doing =>
      have queue_eq : session.cancel.queue = session.queue := by rw [cancel_eq]
      show QueueTurn session.queue session.cancel.queue.close.1
      rw [queue_eq]
      constructor
      · intro
        exact Queue.closed_close _
      · intro emptied _
        rw [Queue.frames_close]
        split
        · exact emptied ‹_›
        · rfl
  | keeps holds | closesNothing holds | closes holds | skipsWrite holds | failsWrite holds
  | writes holds | awaitsDelivery holds =>
      obtain ⟨-, -, -, -, -, -, -, queue_eq⟩ := holds.same
      exact .of_alike (queue_eq ▸ .refl _)
  | pushes brings tried =>
      have alike := brings.alike
      rcases Queue.tryPush_eq_some tried with ⟨-, -, changed⟩ | ⟨-, opened, -, changed⟩
      · exact .of_alike (changed.trans alike)
      · exact .of_open (alike.closed_eq ▸ opened) (changed.closed_eq.trans alike.closed_eq)
  | awaitsRoom brings => exact .of_alike ((Queue.alike_awaitRoom _ _).trans brings.alike)
  | pushesLate waits asleep due pushed =>
      have alike := Queue.alike_giveUpRoom session.queue worker.id
      rcases Queue.pushLate_eq pushed with
        ⟨-, -, changed⟩ | ⟨-, opened, -, changed⟩ | ⟨-, opened, -, changed⟩
      · exact .of_alike (changed.trans alike)
      · exact .of_open opened changed.closed_eq
      · exact .of_open opened changed.closed_eq
  | takes seeks popped =>
      obtain ⟨opened, -, -, still⟩ := Queue.tryPop_eq_frame popped
      exact .of_open (seeks.alike.closed_eq ▸ opened)
        (still.trans (seeks.alike.closed_eq ▸ opened).symm)
  | findsClosed seeks => exact .of_alike seeks.alike
  | awaitsFrame seeks => exact .of_alike ((Queue.alike_awaitFrame _ _).trans seeks.alike)
  | frameEnds waits => exact .of_alike (Queue.alike_giveUpFrame _ _)
  | _ => exact .of_alike (.refl _)

/-! ## A session that was told to end -/

theorem endsSoon_frame_job (frame : Inbound) (jobs : List (Job Msg)) :
    endsSoon (frame.job :: jobs) = endsSoon jobs := by
  unfold Inbound.job
  split <;> simp [endsSoon]

theorem Doing.ends_eq {job : Job Msg} (doing : Doing worker job rest) :
    worker.ends = endsSoon (job :: rest) := by
  simp [Worker.ends, doing.free, doing.jobs_eq, Wait.isTime]

theorem Worker.ends_goOn (worker : Worker Msg) (jobs : List (Job Msg)) :
    (worker.goOn jobs).ends = endsSoon jobs := by
  simp [Worker.ends, Worker.goOn, Wait.isTime]

theorem endsSoon_of_ends (ends : worker.ends = true) : endsSoon worker.jobs = true :=
  (Bool.and_eq_true_iff.mp ends).2

theorem Brings.ends {frame : Frame} {deadline : Nat}
    (brings : Brings model session worker frame deadline rest base) (ends : worker.ends = true) :
    endsSoon rest = true := by
  cases brings with
  | draws doing => simpa [doing.ends_eq, endsSoon] using ends
  | retries waits => exact endsSoon_of_ends ends

theorem Holds.ends {purpose : Purpose} (holds : Holds session worker purpose rest base)
    (ends : worker.ends = true) : endsSoon rest = true := by
  cases holds with
  | acquires doing => simpa [doing.ends_eq, endsSoon] using ends
  | granted waits => exact endsSoon_of_ends ends

theorem Listens.ends (listens : Listens session worker rest) (ends : worker.ends = true) :
    endsSoon rest = true := by
  cases listens with
  | begins doing => simpa [doing.ends_eq, endsSoon] using ends
  | retries waits => exact endsSoon_of_ends ends

theorem Seeks.ends (seeks : Seeks session worker rest base) (ends : worker.ends = true) :
    endsSoon rest = true := by
  cases seeks with
  | begins doing => simpa [doing.ends_eq, endsSoon] using ends
  | retries waits => exact endsSoon_of_ends ends

theorem Passes.ends (passes : Passes model late session worker rest) (ends : worker.ends = true) :
    endsSoon rest = true := by
  cases passes with
  | input doing | resize doing | followUp doing | render doing | read doing | beat doing
  | write doing | heartbeat doing => simpa [doing.ends_eq, endsSoon] using ends
  | finished listens => exact listens.ends ends
  | inboundEnds waits | beatEnds waits | timeEnds waits | joined waits =>
      exact endsSoon_of_ends ends

/-- A worker that comes to shut the session down still does after a step, or has just done so. -/
theorem Turn.ends (turn : Turn model late session worker base jobs next)
    (started : session.started = true) (ends : worker.ends = true) :
    next.ends = true ∨
      base.queue.closed = true ∧ ∃ rest, Doing next (.lock .close) rest := by
  cases turn with
  | shutsDown doing => exact .inr ⟨Queue.closed_close _, _, rfl, rfl⟩
  | startFails doing | starts doing | sleeps doing =>
      rw [doing.ends_eq] at ends
      simp [endsSoon] at ends
  | runFails doing idle => simp [started] at idle
  | runs doing => exact .inl (by simp [Worker.ends_goOn, endsSoon])
  | opensLoops doing | input doing | resize doing | rendersLater doing | followsUp doing
  | drops doing | heartbeat doing | reports doing =>
      rw [doing.ends_eq] at ends
      exact .inl (by simpa [Worker.ends_goOn, endsSoon] using ends)
  | @applies pending quit rest doing =>
      rw [doing.ends_eq] at ends
      cases quit with
      | true => exact .inl rfl
      | false => exact .inl (by simpa [Worker.ends_goOn, endsSoon] using ends)
  | awaitsLock doing | awaitsInbound doing | awaitsBeat doing | joins doing =>
      rw [doing.ends_eq] at ends
      exact .inl (by simpa [Worker.ends, Worker.waitFor, Wait.isTime, endsSoon] using ends)
  | passes passes => exact .inl (passes.ends ends)
  | keeps holds | closesNothing holds | closes holds | skipsWrite holds | writes holds
  | awaitsDelivery holds => exact .inl (holds.ends ends)
  | failsWrite | deliveryFails => exact .inl rfl
  | pushes brings | awaitsRoom brings => exact .inl (brings.ends ends)
  | takes seeks | findsClosed seeks | awaitsFrame seeks => exact .inl (seeks.ends ends)
  | receives listens => exact .inl ((endsSoon_frame_job _ _).trans (listens.ends ends))
  | readFails listens => exact .inl (listens.ends ends)
  | awakes waits => simp [Worker.ends, waits, Wait.isTime] at ends
  | deliveryEnds | delivers | pushesLate | frameEnds | rereads | beats | joinTimesOut
  | joinShrinks =>
      have soon := endsSoon_of_ends ends
      exact .inl soon

/-- The session comes to its end: someone is going to shut it down, someone is closing the
connection, or both the queue and the connection are closed. -/
inductive Ending (session : Session Flags State Msg) : Prop where
  | due {worker : Worker Msg} (member : worker ∈ session.workers) (ends : worker.ends = true)
  | closing {worker : Worker Msg} (closed : session.queue.closed = true)
      (member : worker ∈ session.workers)
      (closes : worker.wait = .lock .close ∨ ∃ rest, Doing worker (.lock .close) rest)
  | closed (closed : session.queue.closed = true) (unopened : session.connection = none)

theorem connection_enter_close (session : Session Flags State Msg) (worker : Worker Msg) :
    (session.enter worker .close).connection = none ∧
      (session.enter worker .close).queue = session.queue := by
  simp only [enter]
  split
  · exact ⟨‹_›, rfl⟩
  · exact ⟨rfl, rfl⟩

theorem mem_setWorker (member : worker ∈ session.workers) (same : worker.id = next.id) :
    next ∈ (session.setWorker next).workers :=
  List.mem_map.mpr ⟨worker, member, by simp [same]⟩

/-- The worker that is closing the connection goes on. -/
theorem closes_goesOn (identified : Identified session) (closed : session.queue.closed = true)
    (member : worker ∈ session.workers)
    (closes : worker.wait = .lock .close ∨ ∃ rest, Doing worker (.lock .close) rest)
    (advanced : session.advance model late worker.id = some later) : Ending later := by
  rcases closes with waits | ⟨rest, doing⟩
  · rw [advance_waiting identified member waits (by simp)] at advanced
    simp only [resume] at advanced
    split at advanced
    · obtain rfl := Option.some.inj advanced
      obtain ⟨unopened, queue_eq⟩ := connection_enter_close session worker
      exact .closed (queue_eq ▸ closed) unopened
    · cases advanced
  · rw [advance_doing identified member doing] at advanced
    obtain rfl := Option.some.inj advanced
    simp only [perform]
    split
    · obtain ⟨unopened, queue_eq⟩ := connection_enter_close
        { session with lock := session.lock.acquire worker.id } { worker with jobs := rest }
      refine .closed ?_ unopened
      rw [queue_eq]
      exact closed
    · exact .closing closed (mem_setWorker member rfl) (.inl rfl)

theorem Turns.ending (identified : Identified session) (sole : Sole session)
    (kept : Kept connection session) (ending : Ending session)
    (advanced : session.advance model late worker.id = some later)
    (turns : Turns model late session worker later base jobs next before after) :
    Ending later := by
  have queue_eq : later.queue = base.queue := by rw [turns.later_eq]
  have changes := turns.turn.queueTurn
  rw [← queue_eq] at changes
  -- Another worker is still there.
  have still {other : Worker Msg} (member : other ∈ session.workers) (differ : other ≠ worker) :
      other ∈ later.workers := by
    rw [turns.workers_eq] at member
    rw [turns.later_workers]
    simp only [List.mem_append, List.mem_cons] at member ⊢
    tauto
  cases ending with
  | @due other member ends =>
      by_cases own : other = worker
      · subst own
        have present : next ∈ later.workers := turns.mem_later.mpr (.inl rfl)
        rcases turns.turn.ends kept.started ends with ends | ⟨closed, closes⟩
        · exact .due present ends
        · exact .closing (queue_eq ▸ closed) present (.inr closes)
      · exact .due (still member own) ends
  | @closing other closed member closes =>
      by_cases own : other = worker
      · subst own
        exact closes_goesOn identified closed member closes advanced
      · exact .closing (changes.closed closed) (still member own) closes
  | closed closed unopened =>
      refine .closed (changes.closed closed) ?_
      have keepsNothing := kept.keeps_eq_zero sole turns.worker_mem
      rw [turns.later_eq]
      cases turns.turn.sink with
      | stays _ connection_eq => exact connection_eq.trans unopened
      | starts _ _ connection_eq => exact connection_eq.trans unopened
      | keeps _ _ _ more => simp [keepsNothing] at more
      | closes _ _ connection_eq => exact connection_eq

theorem Ending.transfer (ending : Ending session) (queue_eq : later.queue = session.queue)
    (connection_eq : later.connection = session.connection)
    (still : ∀ worker ∈ session.workers, worker.jobs ≠ [] ∨ worker.wait ≠ .nothing →
      worker ∈ later.workers) : Ending later := by
  cases ending with
  | due member ends =>
      refine .due (still _ member (.inl ?_)) ends
      intro none
      simp [Worker.ends, none, endsSoon] at ends
  | closing closed member closes =>
      refine .closing (queue_eq ▸ closed) (still _ member ?_) closes
      rcases closes with waits | ⟨rest, doing⟩
      · exact .inr (by simp [waits])
      · exact .inl (by simp [doing.jobs_eq])
  | closed closed unopened => exact .closed (queue_eq ▸ closed) (connection_eq.trans unopened)

theorem Move.ending (identified : Identified session) (sole : Sole session)
    (kept : Kept connection session) (ending : Ending session)
    (move : Move model session later) : Ending later := by
  cases move with
  | turns advanced turns => exact turns.ending identified sole kept ending advanced
  | @retires late worker before after advanced free done workers_eq later_eq =>
      rw [later_eq]
      refine ending.transfer rfl rfl ?_
      intro other member busy
      rw [workers_eq] at member
      have differ : other ≠ worker := by
        rintro rfl
        exact busy.elim (· done) (· free)
      simp only [List.mem_append, List.mem_cons] at member ⊢
      tauto
  | asked request later_eq =>
      rw [later_eq]
      exact ending.transfer rfl rfl fun other member _ => List.mem_append_left _ member
  | elapses time forward later_eq =>
      rw [later_eq]
      exact ending.transfer rfl rfl fun _ member _ => member
  | client link move later_eq =>
      rw [later_eq]
      exact ending.transfer rfl rfl fun _ member _ => member
  | cancels live later_eq =>
      rw [later_eq]
      exact ending.transfer rfl rfl fun _ member _ => member
  | nothing ended later_eq => rw [later_eq]; exact ending

theorem Reach.emptied (reach : Reach model flags options session) : session.queue.Emptied := by
  induction reach with
  | idle =>
      intro
      rfl
  | step before step ih =>
      cases step.move before.identified with
      | turns advanced turns =>
          rw [turns.later_eq]
          exact turns.turn.queueTurn.emptied ih
      | retires advanced free done workers_eq later_eq => rw [later_eq]; exact ih
      | asked request later_eq => rw [later_eq]; exact ih
      | elapses time forward later_eq => rw [later_eq]; exact ih
      | client link move later_eq => rw [later_eq]; exact ih
      | cancels live later_eq => rw [later_eq]; exact ih
      | nothing ended later_eq => rw [later_eq]; exact ih

/-! ## When nothing more can happen -/

/-- No worker can go on, and none waits for a time to come. -/
structure Still (model : Model Flags State Msg) (session : Session Flags State Msg) : Prop where
  stuck : ∀ late id, session.advance model late id = none
  timeless : session.deadline? = none

theorem Still.deadline_le (still : Still model session) (member : worker ∈ session.workers)
    {deadline : Nat} (waits : worker.wait.deadline? = some deadline) : deadline ≤ session.now := by
  have none := List.min?_eq_none_iff.mp still.timeless
  have listed : deadline ∈ session.workers.filterMap fun worker => worker.wait.deadline? :=
    List.mem_filterMap.mpr ⟨worker, member, waits⟩
  have past := List.filter_eq_nil_iff.mp none deadline listed
  simpa using past

/-- At the end a worker that is left waits for the lock or for another worker. -/
theorem Still.waits (identified : Identified session) (ended : session.cancelled = true)
    (still : Still model session) (member : worker ∈ session.workers) :
    (∃ purpose, worker.wait = .lock purpose ∧ session.lock.holder ≠ some worker.id) ∨
    ∃ first rest deadline, worker.wait = .others (first :: rest) deadline ∧
      session.isAlive first = true := by
  have stuck := still.stuck false worker.id
  cases waits : worker.wait with
  | nothing =>
      cases jobs : worker.jobs with
      | nil => rw [advance_done identified member waits jobs] at stuck; cases stuck
      | cons job rest => rw [advance_doing identified member ⟨waits, jobs⟩] at stuck; cases stuck
  | lock purpose =>
      rw [advance_waiting identified member waits (by simp)] at stuck
      refine .inl ⟨purpose, rfl, ?_⟩
      intro held
      simp [resume, Lock.isHeldBy_iff.mpr held] at stuck
  | room frame deadline =>
      rw [advance_waiting identified member waits (by simp)] at stuck
      have due := still.deadline_le member (by rw [waits]; rfl)
      simp only [resume, due, if_true] at stuck
      split at stuck <;> cases stuck
  | others ids deadline =>
      rw [advance_waiting identified member waits (by simp)] at stuck
      cases ids with
      | nil => simp [resume] at stuck
      | cons first rest =>
          refine .inr ⟨first, rest, deadline, rfl, ?_⟩
          cases alive : session.isAlive first with
          | true => rfl
          | false =>
              have fewer := (List.dropWhile_suffix (fun id => !session.isAlive id)
                (l := rest)).length_le
              simp only [resume, List.dropWhile_cons, alive, Bool.not_false, if_true,
                List.length_cons] at stuck
              split at stuck
              · cases stuck
              · split at stuck
                · cases stuck
                · rw [if_pos (Nat.lt_succ_of_le fewer)] at stuck
                  cases stuck
  | frame | delivery _ | inbound _ | beat _ | time _ _ =>
      rw [advance_waiting identified member waits (by simp)] at stuck
      simp [resume, ended] at stuck

theorem Still.no_lock (identified : Identified session) (lined : Lined session.lock session.workers)
    (ended : session.cancelled = true) (still : Still model session)
    (member : worker ∈ session.workers) {purpose : Purpose} : worker.wait ≠ .lock purpose := by
  intro waits
  have standing : worker.id ∈ inLine session.workers :=
    List.mem_map_of_mem (List.mem_filter.mpr ⟨member, by rw [waits]; rfl⟩)
  obtain ⟨holder, held⟩ := Lock.exists_holder lined.fair (lined.line_perm.mem_iff.mpr standing)
  have first : holder ∈ session.lock.line := by
    rw [Lock.line_of_holder held]
    exact List.mem_cons_self
  obtain ⟨other, stands, rfl⟩ := List.mem_map.mp (lined.line_perm.mem_iff.mp first)
  obtain ⟨present, inLine⟩ := List.mem_filter.mp stands
  rcases still.waits identified ended present with ⟨_, _, free⟩ | ⟨_, _, _, others, _⟩
  · exact free held
  · rw [others] at inLine
    cases inLine

/-- At the end of a session no worker is left. -/
theorem Still.workers_eq (identified : Identified session)
    (lined : Lined session.lock session.workers) (joinable : Joinable session)
    (ended : session.cancelled = true) (still : Still model session) : session.workers = [] := by
  apply List.eq_nil_iff_forall_not_mem.mpr
  intro worker member
  rcases still.waits identified ended member with ⟨_, waits, _⟩ | ⟨first, rest, _, waits, alive⟩
  · exact still.no_lock identified lined ended member waits
  · obtain ⟨other, present, same⟩ := List.any_eq_true.mp alive
    have awaited : other.id ∈ session.awaited := by
      rw [mem_awaited, beq_iff_eq.mp same]
      exact .inr ⟨worker, member, by rw [waits]; exact List.mem_cons_self⟩
    have loose := joinable.loose other present awaited
    rcases still.waits identified ended present with ⟨_, waits, _⟩ | ⟨_, _, _, others, _⟩
    · exact still.no_lock identified lined ended present waits
    · simp [Worker.joins, others, Wait.joins] at loose

/-! ## What is left of a session -/

/-- A worker is about to run the session or to shut it down. -/
def Told (session : Session Flags State Msg) : Prop :=
  ∃ worker ∈ session.workers, ∃ rest, Doing worker .run rest ∨ Doing worker .shutdown rest

/-- The session has come to its end: every worker has ended, the lock is free, the queue is closed
and empty, and the connection, and no other, was closed once. -/
structure Ended (connection : Nat) (session : Session Flags State Msg) : Prop where
  workers_eq : session.workers = []
  lock_eq : session.lock = {}
  closed : session.queue.closed = true
  frames_eq : session.queue.frames = []
  unopened : session.connection = none
  closings_eq : session.closings = [connection]

theorem Told.ending (told : Told session) : Ending session := by
  obtain ⟨worker, member, rest, runs | shutsDown⟩ := told
  · exact .due member (runs.ends_eq.trans rfl)
  · exact .due member (shutsDown.ends_eq.trans rfl)

theorem kept_steps (reach : Reach model flags options session) (kept : Kept connection session)
    (steps : Relation.ReflTransGen (Step model) session later) : Kept connection later := by
  induction steps with
  | refl => exact kept
  | tail earlier step ih =>
      have reached := reach.steps earlier
      exact (step.move reached.identified).kept reached.sole ih

theorem ending_steps (reach : Reach model flags options session)
    (kept : Kept connection session) (ending : Ending session)
    (steps : Relation.ReflTransGen (Step model) session later) : Ending later := by
  induction steps with
  | refl => exact ending
  | tail earlier step ih =>
      have reached := reach.steps earlier
      have kept := kept_steps reach kept earlier
      exact (step.move reached.identified).ending reached.identified reached.sole kept ih

theorem Opened.steps {before : Session Flags State Msg}
    (opened : Opened model before connection session) :
    Relation.ReflTransGen (Step model) before session := by
  cases opened with
  | start steps => exact .head (.ask before _) steps
  | serve steps => exact .head (.ask before _) steps

/-- A session whose start came to a good end, and which was told to run or to shut down after that,
leaves nothing behind: where it has been cancelled and nothing more can happen, it has ended. -/
theorem ended_of_still {before opened told : Session Flags State Msg}
    (reach : Reach model flags options before)
    (opens : Opened model before connection opened)
    (meanwhile : Relation.ReflTransGen (Step model) opened told) (tells : Told told)
    (further : Relation.ReflTransGen (Step model) told session)
    (cancelled : session.cancelled = true) (still : Still model session) :
    Ended connection session := by
  have reached := reach.steps opens.steps
  have kept := kept_steps reached (opens.kept reach) meanwhile
  have reached := reached.steps meanwhile
  have ending := ending_steps reached kept tells.ending further
  have kept := kept_steps reached kept further
  have reached := reached.steps further
  have lined := reached.lined
  have workers_eq := still.workers_eq reached.identified lined reached.joinable cancelled
  have closed : session.queue.closed = true ∧ session.connection = none := by
    cases ending with
    | due member => rw [workers_eq] at member; cases member
    | closing _ member => rw [workers_eq] at member; cases member
    | closed closed unopened => exact ⟨closed, unopened⟩
  refine ⟨workers_eq, ?_, closed.1, reached.emptied closed.1, closed.2, ?_⟩
  · have line_eq : session.lock.line = [] := by
      have perm := lined.line_perm
      rw [workers_eq] at perm
      exact perm.eq_nil
    exact Lock.eq_free line_eq
  · simpa [closed.2] using kept.one

theorem mem_of_verdict? {id : TaskId} {verdict : Verdict}
    (found : session.verdict? id = some verdict) : .reported id verdict ∈ session.history := by
  obtain ⟨event, member, matched⟩ := List.exists_of_findSome?_eq_some found
  cases event with
  | reported other told =>
      by_cases same : other = id
      · simp only [same, beq_self_eq_true, if_true, Option.some.injEq] at matched
        rwa [same, matched] at member
      · simp [same] at matched
  | _ => cases matched

theorem still_of_no_workers (none : session.workers = []) : Still model session where
  stuck := fun late id => by simp [advance, worker?, none]
  timeless := by simp [deadline?, none]

/-- A program that asks for nothing and shows nothing. -/
def quiet : Model Unit Unit Unit where
  init _ _ := ((), .none)
  ofKey _ := ()
  update _ _ := ((), .none)
  resize _ _ := ((), .none)
  draw _ buffer := buffer

theorem ended_of_still_quiet : ∃ session : Session Unit Unit Unit,
    Reach quiet () {} session ∧ session.cancelled = true ∧ Still quiet session ∧
      Ended 7 session := by
  -- Worker 1 starts the session, worker 5 shuts it down; 2 and 3 are the loops.
  let asked : Session Unit Unit Unit := (idle () {}).ask (.start 7)
  let opened := ([1, 1, 1, 1, 1, 1].foldlM (advance quiet false) asked).get (by decide +kernel)
  let told := opened.ask .shutdown
  let session := ([1, 2, 2, 3, 4, 5, 5, 5, 2, 2, 3, 3, 4, 4].foldlM (advance quiet false) told).get
    (by decide +kernel)
  have starts : Relation.ReflTransGen (Step quiet) asked opened :=
    steps_of_foldlM (Option.some_get _).symm
  have ends : Relation.ReflTransGen (Step quiet) told session :=
    steps_of_foldlM (Option.some_get _).symm
  have verdict : opened.verdict? 1 = some .success := by decide +kernel
  have done : session.workers = [] := List.isEmpty_iff.mp (by decide +kernel)
  have cancelled : session.cancelled = true := by decide +kernel
  have opens : Opened quiet (idle () {}) 7 opened := .start starts (mem_of_verdict? verdict)
  have tells : Told told :=
    ⟨_, List.mem_append_right _ List.mem_cons_self, [], .inr ⟨rfl, rfl⟩⟩
  have still : Still quiet session := still_of_no_workers done
  have reach : Reach quiet () {} session :=
    ((Reach.idle.steps opens.steps).step (.ask _ _)).steps ends
  exact ⟨session, reach, cancelled, still,
    ended_of_still .idle opens (.single (.ask _ _)) tells ends cancelled still⟩

end Session

end Showcase
