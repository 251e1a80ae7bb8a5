import Showcase.Proofs.Session.Ending
import Showcase.Proofs.Session.Preparing

/-!
# What a worker does that runs the session

A worker that runs a session has at most one frame of the client in hand. It gives it to the
program, as a key or as a geometry, does some chores, and receives the next one. It stops when the
session has ended or when there is no more to receive, and shuts the session down.
-/

namespace Showcase

variable {Flags State Msg : Type}

/-- The job that is still to be done for a frame in hand. -/
def pending (frame? : Option Inbound) : List (Job Msg) := (frame?.map Inbound.job).toList

/-- Whether the job gives something to the program. -/
def Job.gives : Job Msg → Bool
  | input _ | resize _ => true
  | _ => false

/-- Whether the job is one that a worker does between two frames. -/
def Job.isChore : Job Msg → Bool
  | apply _ _ | render | renderLater _ | read | shutdown | lock .close => true
  | _ => false

/-- Whether a worker that runs the session may do the job, or does it right after. -/
def Job.reads : Job Msg → Bool
  | report | join _ => true
  | job => job.isChore || job.gives

/-- Whether the worker may wait like this for frames or between two of them. -/
def Wait.reads : Wait Msg → Bool
  | nothing | room _ _ | lock .close | inbound _ => true
  | _ => false

theorem Inbound.gives_job (frame : Inbound) : (frame.job : Job Msg).gives = true := by
  unfold job
  split <;> rfl

theorem Inbound.isChore_job (frame : Inbound) : (frame.job : Job Msg).isChore = false := by
  unfold job
  split <;> rfl

theorem Job.gives_of_isChore {job : Job Msg} (chore : job.isChore = true) : job.gives = false := by
  cases job <;> first | rfl | cases chore

namespace Session

variable {model : Model Flags State Msg} {flags : Flags} {options : SessionOptions}
  {session later base : Session Flags State Msg} {late : Bool} {worker next : Worker Msg}
  {jobs : List (List (Job Msg))} {before after : List (Worker Msg)}
  {rest tail : List (Job Msg)} {frame? : Option Inbound} {id : TaskId} {orderly : Prop}

/-- The client has hung up, and all that it sent was received. -/
def Finished (link : Link) : Prop := link.hungUp = true ∧ link.inbound = []

/-- What a worker gave to the program is what its frames lead to, but for a frame in hand. -/
def Balanced (frame? : Option Inbound) (dealings : List Inbound × List (Job Msg)) : Prop :=
  dealings.2 ++ pending frame? = dealings.1.map Inbound.job

/-- The jobs are some chores and the tail; the session is shut down before the tail. -/
structure Duties (tail : List (Job Msg)) (cancelled : Bool) (rest chores : List (Job Msg)) :
    Prop where
  rest_eq : rest = chores ++ tail
  plain : ∀ job ∈ chores, job.isChore = true
  ends : cancelled = false → .shutdown ∈ chores
  closes : .lock .close ∈ chores → cancelled = true

/-- The worker will receive again, unless there is no more to receive. -/
def Attends (orderly : Prop) (session : Session Flags State Msg) (chores : List (Job Msg)) : Prop :=
  orderly → .read ∈ chores ∨ session.cancelled = true ∨ Finished session.link

/-- The worker runs the session, perhaps with a frame in hand, and is to do the tail after that. -/
structure Runs (tail : List (Job Msg)) (orderly : Prop) (session : Session Flags State Msg)
    (worker : Worker Msg) (frame? : Option Inbound) (chores : List (Job Msg)) : Prop where
  jobs_eq : worker.jobs = pending frame? ++ (chores ++ tail)
  duties : Duties tail session.cancelled (chores ++ tail) chores
  waits : worker.wait.reads = true
  busy : frame? ≠ none → worker.wait = .nothing ∧ .read ∈ chores
  closing : worker.wait = .lock .close → session.cancelled = true
  attends : (∃ deadline, worker.wait = .inbound deadline) ∨ Attends orderly session chores
  balanced : Balanced frame? (session.dealings worker.id)
  verdict_eq : orderly → worker.verdict = .success
  tail_eq : tail = [.report] ∨ tail = [.join none, .report]

/-- The session goes on without anything that matters to one of its workers. -/
structure Persists (id : TaskId) (session later : Session Flags State Msg) : Prop where
  cancelled : session.cancelled = true → later.cancelled = true
  finished : Finished session.link → Finished later.link
  dealings_eq : later.dealings id = session.dealings id

theorem finished_of_receive (found : session.link.receive.1 = .finished) :
    Finished session.link := by
  unfold Link.receive at found
  split at found
  · cases found
  · cases found
  · rename_i inbound_eq
    split at found
    · rename_i hungUp
      exact ⟨hungUp, inbound_eq⟩
    · cases found

/-! ## What a worker that runs the session may do -/

theorem Duties.live {chores : List (Job Msg)} {ended : Bool}
    (duties : Duties tail session.cancelled rest chores)
    (still : session.cancelled = true → ended = true) : Duties tail ended rest chores where
  rest_eq := duties.rest_eq
  plain := duties.plain
  ends := fun live => duties.ends (Bool.of_not_eq_true fun past => by simp [still past] at live)
  closes := fun member => still (duties.closes member)

theorem Attends.transfer {chores : List (Job Msg)} (attends : Attends orderly session chores)
    (persists : Persists id session later) : Attends orderly later chores := fun sound =>
  (attends sound).imp_right fun past => past.imp persists.cancelled persists.finished

section

variable {chores : List (Job Msg)}

/-- The worker has a frame in hand, does a chore, or has done all its chores. -/
theorem Runs.doing {job : Job Msg} (runs : Runs tail orderly session worker frame? chores)
    (doing : Doing worker job rest) :
    (∃ frame, frame? = some frame ∧ job = frame.job ∧ rest = chores ++ tail) ∨
    (frame? = none ∧ ∃ more, chores = job :: more ∧ rest = more ++ tail) ∨
    (frame? = none ∧ chores = [] ∧ tail = job :: rest) := by
  have jobs_eq := runs.jobs_eq
  rw [doing.jobs_eq] at jobs_eq
  cases frame? with
  | some frame =>
      obtain ⟨job_eq, rest_eq⟩ := List.cons_eq_cons.mp jobs_eq
      exact .inl ⟨frame, rfl, job_eq, rest_eq⟩
  | none =>
      cases chores with
      | nil => exact .inr (.inr ⟨rfl, rfl, jobs_eq.symm⟩)
      | cons head more =>
          obtain ⟨rfl, rest_eq⟩ := List.cons_eq_cons.mp jobs_eq
          exact .inr (.inl ⟨rfl, more, rfl, rest_eq⟩)

/-- After its chores the worker waits for the others or gives its verdict. -/
theorem Runs.last {job : Job Msg} (runs : Runs tail orderly session worker frame? chores)
    (tail_eq : tail = job :: rest) : job = .report ∨ job = .join none := by
  rcases runs.tail_eq with same | same
  · exact .inl (List.cons_eq_cons.mp (tail_eq.symm.trans same)).1
  · exact .inr (List.cons_eq_cons.mp (tail_eq.symm.trans same)).1

theorem Runs.reads {job : Job Msg} (runs : Runs tail orderly session worker frame? chores)
    (doing : Doing worker job rest) : job.reads = true := by
  rcases runs.doing doing with ⟨frame, -, rfl, -⟩ | ⟨-, more, rfl, -⟩ | ⟨-, -, tail_eq⟩
  · unfold Inbound.job
    split <;> rfl
  · have plain := runs.duties.plain job List.mem_cons_self
    cases job <;> first | rfl | exact Bool.or_eq_true_iff.mpr (.inl plain)
  · rcases runs.last tail_eq with rfl | rfl <;> rfl

/-- What is left to do for a worker that does a chore. -/
theorem Runs.chore {job : Job Msg} (runs : Runs tail orderly session worker frame? chores)
    (doing : Doing worker job rest) (chore : job.isChore = true) :
    frame? = none ∧ ∃ more, chores = job :: more ∧ rest = more ++ tail := by
  rcases runs.doing doing with ⟨frame, -, rfl, -⟩ | left | ⟨-, -, tail_eq⟩
  · rw [frame.isChore_job] at chore
    cases chore
  · exact left
  · rcases runs.last tail_eq with rfl | rfl <;> cases chore

theorem Runs.not_waiting {wait : Wait Msg} (runs : Runs tail orderly session worker frame? chores)
    (waits : worker.wait = wait) (foreign : wait.reads = false) : False := by
  have waiting := runs.waits
  rw [waits, foreign] at waiting
  cases waiting

theorem Runs.unburdened (runs : Runs tail orderly session worker frame? chores)
    (busy : worker.wait ≠ .nothing) : frame? = none := by
  cases frame? with
  | none => rfl
  | some frame => exact absurd (runs.busy (by simp)).1 busy

/-- The worker has these jobs left, and no frame in hand. -/
def Leaves (tail : List (Job Msg)) (orderly : Prop) (session : Session Flags State Msg)
    (id : TaskId) (rest : List (Job Msg)) : Prop :=
  ∃ more, Duties tail session.cancelled rest more ∧ Attends orderly session more ∧
    Balanced none (session.dealings id)

theorem Leaves.transfer (leaves : Leaves tail orderly session id rest)
    (persists : Persists id session later) : Leaves tail orderly later id rest := by
  obtain ⟨more, duties, attends, balanced⟩ := leaves
  exact ⟨more, duties.live persists.cancelled, attends.transfer persists,
    persists.dealings_eq ▸ balanced⟩

theorem Duties.goesOn {job : Job Msg} {more : List (Job Msg)} {ended : Bool}
    (duties : Duties tail ended rest (job :: more)) (other : job ≠ .shutdown ∨ ended = true) :
    Duties tail ended (more ++ tail) more where
  rest_eq := rfl
  plain := fun job member => duties.plain job (List.mem_cons_of_mem _ member)
  ends := fun live => by
    rcases List.mem_cons.mp (duties.ends live) with rfl | member
    · exact other.elim (absurd rfl) fun past => by simp [past] at live
    · exact member
  closes := fun member => duties.closes (List.mem_cons_of_mem _ member)

theorem Runs.leaves {job : Job Msg} (runs : Runs tail orderly session worker frame? chores)
    (doing : Doing worker job rest) (chore : job.isChore = true) (other : job ≠ .shutdown)
    (unread : job ≠ .read) : Leaves tail orderly session worker.id rest := by
  obtain ⟨rfl, more, rfl, rfl⟩ := runs.chore doing chore
  refine ⟨more, runs.duties.goesOn (.inl other), ?_, runs.balanced⟩
  rcases runs.attends with ⟨deadline, waits⟩ | attends
  · simp [doing.free] at waits
  · refine fun sound => (attends sound).imp_left fun member => ?_
    exact (List.mem_cons.mp member).elim (fun same => absurd same.symm unread) id

theorem Runs.leaves_waiting {wait : Wait Msg}
    (runs : Runs tail orderly session worker frame? chores) (waits : worker.wait = wait)
    (busy : wait ≠ .nothing) (other : ∀ deadline, wait ≠ .inbound deadline) :
    Leaves tail orderly session worker.id worker.jobs := by
  subst waits
  obtain rfl := runs.unburdened busy
  rcases runs.attends with ⟨deadline, waits⟩ | attends
  · exact absurd waits (other deadline)
  · exact ⟨chores, runs.jobs_eq ▸ runs.duties, attends, runs.balanced⟩

theorem Brings.leaves {frame : Frame} {deadline : Nat}
    (runs : Runs tail orderly session worker frame? chores)
    (brings : Brings model session worker frame deadline rest base) :
    Leaves tail orderly session worker.id rest := by
  cases brings with
  | draws doing => exact runs.leaves doing rfl (by simp) (by simp)
  | retries waits => exact runs.leaves_waiting waits (by simp) (by simp)

theorem Holds.leaves (runs : Runs tail orderly session worker frame? chores)
    (holds : Holds session worker .close rest base) :
    Leaves tail orderly session worker.id rest := by
  cases holds with
  | acquires doing => exact runs.leaves doing rfl (by simp) (by simp)
  | granted waits => exact runs.leaves_waiting waits (by simp) (by simp)

/-- A worker that looks for a frame has no other one in hand. -/
theorem Listens.leaves (runs : Runs tail orderly session worker frame? chores)
    (listens : Listens session worker rest) :
    ∃ more, Duties tail session.cancelled rest more ∧
      Balanced none (session.dealings worker.id) := by
  cases listens with
  | begins doing =>
      obtain ⟨rfl, more, rfl, rfl⟩ := runs.chore doing rfl
      exact ⟨more, runs.duties.goesOn (.inl (by simp)), runs.balanced⟩
  | retries waits =>
      obtain rfl := runs.unburdened (by simp [waits])
      exact ⟨chores, runs.jobs_eq ▸ runs.duties, runs.balanced⟩

/-- A worker runs the session. -/
def Running (tail : List (Job Msg)) (orderly : Prop) (session : Session Flags State Msg)
    (worker : Worker Msg) : Prop := ∃ frame? chores, Runs tail orderly session worker frame? chores

/-- The worker goes on with some new chores before those that are left. -/
theorem Duties.running {more : List (Job Msg)} (duties : Duties tail session.cancelled rest more)
    (balanced : Balanced none (session.dealings worker.id))
    (verdict_eq : orderly → worker.verdict = .success)
    (tail_eq : tail = [.report] ∨ tail = [.join none, .report]) (new : List (Job Msg))
    (plain : ∀ job ∈ new, job.isChore = true)
    (closes : .lock .close ∈ new → session.cancelled = true) {wait : Wait Msg}
    (waits : wait.reads = true) (closing : wait = .lock .close → session.cancelled = true)
    (attends : (∃ deadline, wait = .inbound deadline) ∨ Attends orderly session (new ++ more))
    (ticket : Nat) :
    Running tail orderly session (worker.waitFor wait (new ++ rest) ticket) := by
  refine ⟨none, new ++ more, ?_⟩
  exact
    { jobs_eq := by rw [duties.rest_eq, List.append_assoc]; rfl
      duties :=
        { rest_eq := rfl
          plain := fun job member =>
            (List.mem_append.mp member).elim (plain job) (duties.plain job)
          ends := fun live => List.mem_append_right _ (duties.ends live)
          closes := fun member => (List.mem_append.mp member).elim closes duties.closes }
      waits
      busy := fun held => absurd rfl held
      closing
      attends
      balanced
      verdict_eq
      tail_eq }

theorem Leaves.running (leaves : Leaves tail orderly session worker.id rest)
    (verdict_eq : orderly → worker.verdict = .success)
    (tail_eq : tail = [.report] ∨ tail = [.join none, .report]) (new : List (Job Msg))
    (plain : ∀ job ∈ new, job.isChore = true)
    (closes : .lock .close ∈ new → session.cancelled = true) {wait : Wait Msg}
    (waits : wait.reads = true) (closing : wait = .lock .close → session.cancelled = true)
    (ticket : Nat) :
    Running tail orderly session (worker.waitFor wait (new ++ rest) ticket) := by
  obtain ⟨more, duties, attends, balanced⟩ := leaves
  exact duties.running balanced verdict_eq tail_eq new plain closes waits closing
    (.inr fun sound => (attends sound).imp_left (List.mem_append_right new)) ticket

theorem Runs.done {job : Job Msg} (runs : Runs tail orderly session worker frame? chores)
    (doing : Doing worker job rest) (other : job.isChore = false) (gives : job.gives = false) :
    frame? = none ∧ chores = [] ∧ tail = job :: rest := by
  rcases runs.doing doing with ⟨frame, -, rfl, -⟩ | ⟨-, more, rfl, -⟩ | done
  · rw [frame.gives_job] at gives
    cases gives
  · rw [runs.duties.plain job List.mem_cons_self] at other
    cases other
  · exact done

/-- Nothing that matters to the worker happens where nothing is told and the link is as it was. -/
theorem Persists.quiet (added : List (Event State Msg))
    (history_eq : base.history = added ++ session.history)
    (quiet : added.filter Event.isTold = []) (cancelled_eq : base.cancelled = session.cancelled)
    (link_eq : base.link.hungUp = session.link.hungUp ∧
      base.link.inbound = session.link.inbound) : Persists id session base where
  cancelled := fun past => cancelled_eq.trans past
  finished := fun finished => ⟨link_eq.1.trans finished.1, link_eq.2.trans finished.2⟩
  dealings_eq := dealings_of_tale_eq (tale_quiet added history_eq quiet)

theorem Holds.persists {purpose : Purpose} (holds : Holds session worker purpose rest base) :
    Persists id session base := by
  cases holds <;> exact .quiet [] rfl rfl rfl ⟨rfl, rfl⟩

theorem Brings.persists {frame : Frame} {deadline : Nat}
    (brings : Brings model session worker frame deadline rest base) :
    Persists id session base := by
  cases brings with
  | draws => exact .quiet [_] rfl rfl rfl ⟨rfl, rfl⟩
  | retries => exact .quiet [] rfl rfl rfl ⟨rfl, rfl⟩

theorem Persists.trans {middle : Session Flags State Msg} (first : Persists id session middle)
    (second : Persists id middle later) : Persists id session later where
  cancelled := fun past => second.cancelled (first.cancelled past)
  finished := fun finished => second.finished (first.finished finished)
  dealings_eq := second.dealings_eq.trans first.dealings_eq

theorem Runs.passes (runs : Runs tail orderly session worker frame? chores)
    (shown : session.state ≠ none) (passes : Passes model late session worker rest) :
    Leaves tail orderly session worker.id rest := by
  cases passes with
  | input doing idle | resize doing idle => exact absurd idle shown
  | followUp doing | beat doing | write doing | heartbeat doing => cases runs.reads doing
  | render doing => exact runs.leaves doing rfl (by simp) (by simp)
  | read doing ended =>
      obtain ⟨rfl, more, rfl, rfl⟩ := runs.chore doing rfl
      exact ⟨more, runs.duties.goesOn (.inl (by simp)), fun _ => .inr (.inl ended), runs.balanced⟩
  | finished listens found =>
      obtain ⟨more, duties, balanced⟩ := listens.leaves runs
      exact ⟨more, duties, fun _ => .inr (.inr (finished_of_receive found)), balanced⟩
  | inboundEnds waits ended =>
      obtain rfl := runs.unburdened (by simp [waits])
      exact ⟨chores, runs.jobs_eq ▸ runs.duties, fun _ => .inr (.inl ended), runs.balanced⟩
  | beatEnds waits | timeEnds waits | joined waits => exact (runs.not_waiting waits rfl).elim

theorem Runs.given {job : Job Msg} (runs : Runs tail orderly session worker frame? chores)
    (doing : Doing worker job rest) (gives : job.gives = true) :
    ∃ frame, frame? = some frame ∧ job = frame.job ∧ rest = chores ++ tail := by
  rcases runs.doing doing with given | ⟨-, more, rfl, -⟩ | ⟨-, -, tail_eq⟩
  · exact given
  · rw [Job.gives_of_isChore (runs.duties.plain job List.mem_cons_self)] at gives
    cases gives
  · rcases runs.last tail_eq with rfl | rfl <;> cases gives

/-- The worker gives its frame to the program, and goes on with some chores. -/
theorem Runs.gives {job : Job Msg} {event : Event State Msg} {outcome : Outcome State Msg}
    (runs : Runs tail orderly session worker frame? chores) (doing : Doing worker job rest)
    (gives : job.gives = true) (tale_eq : base.tale = session.tale ++ event :: outcome.story)
    (heard : heardBy worker.id [event] = []) (given : givenBy worker.id [event] = [job])
    (cancelled_eq : base.cancelled = session.cancelled) (link_eq : base.link = session.link)
    (new : List (Job Msg)) (plain : ∀ job ∈ new, job.isChore = true)
    (closes : .lock .close ∉ new) :
    Running tail orderly base (worker.goOn (new ++ rest)) := by
  obtain ⟨frame, rfl, rfl, rfl⟩ := runs.given doing gives
  obtain ⟨-, story_heard, story_given⟩ := story_silent worker.id outcome
  have dealings_eq : base.dealings worker.id =
      ((session.dealings worker.id).1, (session.dealings worker.id).2 ++ [frame.job]) := by
    rw [dealings, tale_eq, heardBy_append, givenBy_append, ← List.singleton_append, heardBy_append,
      givenBy_append, heard, given, story_heard, story_given]
    simp [dealings]
  have leaves : Leaves tail orderly base worker.id (chores ++ tail) := by
    refine ⟨chores, cancelled_eq ▸ runs.duties, ?_, ?_⟩
    · rcases runs.attends with ⟨deadline, waits⟩ | attends
      · simp [doing.free] at waits
      · unfold Attends
        rw [cancelled_eq, link_eq]
        exact attends
    · rw [dealings_eq]
      exact (List.append_nil _).trans runs.balanced
  exact leaves.running runs.verdict_eq runs.tail_eq new plain (fun member => absurd member closes)
    rfl (by simp) worker.ticket

/-- The worker receives a frame. -/
theorem Runs.receives {frame : Inbound}
    (runs : Runs tail orderly session worker frame? chores)
    (listens : Listens session worker rest)
    (tale_eq : base.tale = session.tale ++ [.received worker.id frame])
    (cancelled_eq : base.cancelled = session.cancelled) :
    Running tail orderly base (worker.goOn (frame.job :: .read :: rest)) := by
  obtain ⟨more, duties, balanced⟩ := listens.leaves runs
  obtain rfl := duties.rest_eq
  refine ⟨some frame, .read :: more, ?_⟩
  exact
    { jobs_eq := rfl
      duties :=
        { rest_eq := rfl
          plain := fun job member => by
            rcases List.mem_cons.mp member with rfl | old
            · rfl
            · exact duties.plain job old
          ends := fun live => List.mem_cons_of_mem _ (duties.ends (cancelled_eq ▸ live))
          closes := fun member => by
            rcases List.mem_cons.mp member with same | old
            · cases same
            · exact cancelled_eq.trans (duties.closes old) }
      waits := rfl
      busy := fun _ => ⟨rfl, List.mem_cons_self⟩
      closing := by simp [Worker.goOn]
      attends := .inr fun _ => .inl List.mem_cons_self
      balanced := by
        have dealings_eq : base.dealings worker.id =
            ((session.dealings worker.id).1 ++ [frame], (session.dealings worker.id).2) := by
          rw [dealings, tale_eq, heardBy_append, givenBy_append]
          simp [dealings, heardBy, givenBy]
        show Balanced (some frame) (base.dealings worker.id)
        rw [dealings_eq]
        unfold Balanced at balanced ⊢
        rw [List.map_append, ← balanced]
        simp [pending]
      verdict_eq := runs.verdict_eq
      tail_eq := runs.tail_eq }

/-- All that the client sent and the session has not received is sound. -/
def Sound (link : Link) : Prop := ∀ content ∈ link.inbound, ∃ frame, content = .ok frame

/-- The worker goes on to run the session, or it has done so. -/
theorem Turn.running (runs : Runs tail orderly session worker frame? chores)
    (shown : session.state ≠ none) (sound : orderly → Sound session.link)
    (turn : Turn model late session worker base jobs next) :
    Running tail orderly base next ∨ frame? = none ∧ chores = [] ∧ worker.wait = .nothing := by
  have goesOn {rest : List (Job Msg)} (leaves : Leaves tail orderly base worker.id rest)
      (new : List (Job Msg)) (plain : ∀ job ∈ new, job.isChore = true)
      (closes : .lock .close ∈ new → base.cancelled = true) :
      Running tail orderly base (worker.goOn (new ++ rest)) :=
    leaves.running runs.verdict_eq runs.tail_eq new plain closes rfl (by simp) worker.ticket
  have waitsOn {rest : List (Job Msg)} {wait : Wait Msg}
      (leaves : Leaves tail orderly base worker.id rest) (waits : wait.reads = true)
      (closing : wait = .lock .close → base.cancelled = true) (ticket : Nat) :
      Running tail orderly base (worker.waitFor wait rest ticket) :=
    leaves.running runs.verdict_eq runs.tail_eq [] (by simp) (by simp) waits closing ticket
  cases turn with
  | passes passes => exact .inl (goesOn (runs.passes shown passes) [] (by simp) (by simp))
  | @input key state rest outcome doing =>
      have tale_eq : ((session.note [.input worker.id key]).absorb outcome).tale =
          session.tale ++ .input worker.id key :: outcome.story := by
        rw [tale_absorb, tale_note, List.append_assoc]
        rfl
      exact .inl (runs.gives doing rfl tale_eq rfl (by simp [givenBy]) rfl rfl
        [.apply outcome.pending outcome.quit, .render, .renderLater session.options.followUpDelay]
        (by simp [Job.isChore]) (by simp))
  | @resize geometry state rest outcome doing =>
      have tale_eq :
          (({ session with geometry }.note [.resized worker.id geometry]).absorb outcome).tale =
            session.tale ++ .resized worker.id geometry :: outcome.story := by
        rw [tale_absorb, tale_note, List.append_assoc]
        rfl
      exact .inl (runs.gives doing rfl tale_eq rfl (by simp [givenBy]) rfl rfl
        [.apply outcome.pending outcome.quit, .render] (by simp [Job.isChore]) (by simp))
  | @applies pending quit rest doing =>
      refine .inl (goesOn (runs.leaves doing rfl (by simp) (by simp))
        (if quit then [.shutdown] else []) ?_ ?_)
      all_goals cases quit <;> simp [Job.isChore]
  | rendersLater doing =>
      exact .inl (goesOn (runs.leaves doing rfl (by simp) (by simp)) [] (by simp) (by simp))
  | shutsDown doing =>
      have ended : session.cancel.cancelled = true := by rw [cancel_eq]
      obtain ⟨rfl, more, rfl, rfl⟩ := runs.chore doing rfl
      refine .inl (goesOn ⟨more, ?_, fun _ => .inr (.inl ended), ?_⟩ [.lock .close]
        (by simp [Job.isChore]) fun _ => ended)
      · exact (runs.duties.live fun _ => ended).goesOn (.inr ended)
      · exact (dealings_cancel session).symm ▸ runs.balanced
  | @awaitsLock purpose rest doing busy ticket =>
      cases purpose with
      | keep | write => cases runs.reads doing
      | close =>
          have leaves := runs.leaves doing rfl (by simp) (by simp)
          have ended : session.cancelled = true := by
            obtain ⟨rfl, more, rfl, rfl⟩ := runs.chore doing rfl
            exact runs.duties.closes List.mem_cons_self
          exact .inl (waitsOn (leaves.transfer (.quiet [] rfl rfl rfl ⟨rfl, rfl⟩)) rfl
            (fun _ => ended) ticket)
  | closesNothing holds =>
      exact .inl (goesOn ((holds.leaves runs).transfer
        (holds.persists.trans (.quiet [] rfl rfl rfl ⟨rfl, rfl⟩))) [] (by simp) (by simp))
  | closes holds =>
      exact .inl (goesOn ((holds.leaves runs).transfer
        (holds.persists.trans (.quiet [_] rfl rfl rfl ⟨rfl, rfl⟩))) [] (by simp) (by simp))
  | pushes brings =>
      exact .inl (goesOn ((brings.leaves runs).transfer
        (brings.persists.trans (.quiet [_] rfl rfl rfl ⟨rfl, rfl⟩))) [] (by simp) (by simp))
  | awaitsRoom brings tried ticket =>
      exact .inl (waitsOn ((brings.leaves runs).transfer
        (brings.persists.trans (.quiet [] rfl rfl rfl ⟨rfl, rfl⟩))) rfl (by simp) ticket)
  | pushesLate waits =>
      exact .inl (goesOn ((runs.leaves_waiting waits (by simp) (by simp)).transfer
        (.quiet [_] rfl rfl rfl ⟨rfl, rfl⟩)) [] (by simp) (by simp))
  | receives listens found =>
      exact .inl (runs.receives listens (tale_note session [.received worker.id _]) rfl)
  | @readFails fault link rest listens found =>
      obtain ⟨more, duties, balanced⟩ := listens.leaves runs
      have unsound : ¬ orderly := fun holds => by
        have first := sound holds (.error fault) (receive_fault found ▸ List.mem_cons_self)
        obtain ⟨frame, different⟩ := first
        cases different
      let failed : Worker Msg := { worker with verdict := .failure (.connection fault) }
      have leaves : Leaves tail orderly { session with link } failed.id rest :=
        ⟨more, duties, fun holds => absurd holds unsound, balanced⟩
      have running : Running tail orderly _ (failed.waitFor .nothing ([] ++ rest) worker.ticket) :=
        leaves.running (fun holds => absurd holds unsound) runs.tail_eq [] (by simp) (by simp) rfl
          (by simp) worker.ticket
      exact .inl running
  | @awaitsInbound rest doing live nothing ticket =>
      obtain ⟨more, duties, balanced⟩ := Listens.leaves runs (.begins doing live)
      have running : Running tail orderly session (worker.waitFor
          (.inbound (session.now + session.options.readDeadline)) ([] ++ rest) ticket) :=
        duties.running balanced runs.verdict_eq runs.tail_eq [] (by simp) (by simp) rfl (by simp)
          (.inl ⟨_, rfl⟩) ticket
      exact .inl running
  | rereads waits live =>
      obtain ⟨more, duties, balanced⟩ := Listens.leaves runs (.retries waits live)
      exact .inl (duties.running balanced runs.verdict_eq runs.tail_eq [.read]
        (by simp [Job.isChore]) (by simp) rfl (by simp) (.inr fun _ => .inl List.mem_cons_self)
        worker.ticket)
  | joins doing | reports doing =>
      obtain ⟨unburdened, done, -⟩ := runs.done doing rfl rfl
      exact .inr ⟨unburdened, done, doing.free⟩
  | startFails doing | starts doing | opensLoops doing | sleeps doing | followsUp doing
  | drops doing | runs doing | runFails doing | heartbeat doing | awaitsBeat doing =>
      cases runs.reads doing
  | keeps holds | skipsWrite holds | failsWrite holds | writes holds | awaitsDelivery holds =>
      cases holds with
      | acquires doing => cases runs.reads doing
      | granted waits => exact (runs.not_waiting waits rfl).elim
  | takes seeks | findsClosed seeks | awaitsFrame seeks =>
      cases seeks with
      | begins doing => cases runs.reads doing
      | retries waits => exact (runs.not_waiting waits rfl).elim
  | deliveryEnds waits | deliveryFails waits | delivers waits | frameEnds waits | beats waits
  | awakes waits | joinTimesOut waits | joinShrinks waits =>
      exact (runs.not_waiting waits rfl).elim

end

/-! ## After the end -/

/-- The worker has run the session, and is to wait for the loops or to give its verdict. -/
structure Returned (orderly : Prop) (session : Session Flags State Msg) (worker : Worker Msg) :
    Prop where
  ended : session.cancelled = true
  stands : (worker.wait = .nothing ∧ worker.jobs <:+ [.join none, .report]) ∨
    ∃ ids, worker.wait = .others ids none ∧ worker.jobs = [.report]
  balanced : Balanced none (session.dealings worker.id)
  verdict_eq : orderly → worker.verdict = .success
  told : worker.wait = .nothing → worker.jobs = [] → orderly →
    .reported worker.id .success ∈ session.history

theorem suffix_join_report {rest : List (Job Msg)} (suffix : rest <:+ [.join none, .report]) :
    rest = [.join none, .report] ∨ rest = [.report] ∨ rest = [] := by
  rcases List.suffix_cons_iff.mp suffix with whole | suffix
  · exact .inl whole
  · rcases List.suffix_cons_iff.mp suffix with last | none
    · exact .inr (.inl last)
    · exact .inr (.inr (List.suffix_nil.mp none))

theorem Runs.returned (runs : Runs tail orderly session worker none [])
    (free : worker.wait = .nothing) : Returned orderly session worker := by
  have jobs_eq : worker.jobs = tail := runs.jobs_eq
  refine ⟨?_, .inl ⟨free, ?_⟩, runs.balanced, runs.verdict_eq, ?_⟩
  · by_contra live
    exact List.not_mem_nil (runs.duties.ends (Bool.of_not_eq_true live))
  · rw [jobs_eq]
    rcases runs.tail_eq with rfl | rfl
    · exact List.suffix_cons _ _
    · exact List.suffix_refl _
  · intro _ none
    rw [jobs_eq] at none
    rcases runs.tail_eq with rfl | rfl <;> cases none

theorem Returned.goesOn (identified : Identified session)
    (returned : Returned orderly session worker) (member : worker ∈ session.workers)
    (busy : worker.wait ≠ .nothing ∨ worker.jobs ≠ [])
    (advanced : session.advance model late worker.id = some later) :
    ∀ other ∈ later.workers, other.id = worker.id → Returned orderly later other := by
  obtain ⟨ended, stands, balanced, verdict_eq, -⟩ := returned
  intro other present same
  rcases stands with ⟨free, suffix⟩ | ⟨ids, waits, jobs_eq⟩
  · rcases suffix_join_report suffix with jobs_eq | jobs_eq | jobs_eq
    · rw [advance_doing identified member ⟨free, jobs_eq⟩] at advanced
      obtain rfl := Option.some.inj advanced
      obtain rfl := eq_of_mem_setWorker present same
      exact ⟨ended, .inr ⟨_, rfl, rfl⟩, balanced, verdict_eq, fun waits => by cases waits⟩
    · rw [advance_doing identified member ⟨free, jobs_eq⟩] at advanced
      obtain rfl := Option.some.inj advanced
      obtain rfl := eq_of_mem_setWorker present same
      refine ⟨ended, .inl ⟨rfl, List.nil_suffix⟩, ?_, verdict_eq, fun _ _ sound => ?_⟩
      · exact (dealings_of_silent (tale_note session [.reported worker.id worker.verdict]) rfl rfl :
          (session.note [.reported worker.id worker.verdict]).dealings worker.id = _) ▸ balanced
      · exact verdict_eq sound ▸ List.mem_cons_self
    · exact absurd busy (by simp [free, jobs_eq])
  · rw [advance_waiting identified member waits (by simp)] at advanced
    simp only [resume] at advanced
    split at advanced
    · obtain rfl := Option.some.inj advanced
      obtain rfl := eq_of_mem_setWorker present same
      exact ⟨ended, .inl ⟨rfl, jobs_eq ▸ List.suffix_cons _ _⟩, balanced, verdict_eq,
        fun _ none => absurd none (by simp [jobs_eq])⟩
    · split at advanced
      · rename_i due
        cases due
      · split at advanced
        · obtain rfl := Option.some.inj advanced
          obtain rfl := eq_of_mem_setWorker present same
          exact ⟨ended, .inr ⟨_, rfl, jobs_eq⟩, balanced, verdict_eq, fun waits => by cases waits⟩
        · cases advanced

end Session

end Showcase
