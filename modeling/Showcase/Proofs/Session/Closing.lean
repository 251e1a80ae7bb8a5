import Mathlib.Algebra.Order.BigOperators.Group.List
import Mathlib.Algebra.Order.Group.Nat
import Mathlib.Algebra.Order.Ring.Nat
import Showcase.Proofs.Session.Joining

/-!
# One connection

Of all the connections that a session is started with it keeps at most one: at any time it is yet to
be kept, open, or closed. So a connection that was kept is closed at most once, and no other
connection is ever closed.
-/

namespace Showcase

variable {State Msg : Type}

/-- The connection that was closed. -/
def Event.closed? : Event State Msg → Option Nat
  | closed connection => some connection
  | _ => none

/-- Whether the job keeps a connection, at once or later. -/
def Job.keeps : Job Msg → Bool
  | lock (.keep _) => true
  | after _ job => job.keeps
  | _ => false

def Wait.keeps : Wait Msg → Bool
  | lock (.keep _) => true
  | time _ job => job.keeps
  | _ => false

/-- How many connections the worker is about to keep. -/
def Worker.keeps (worker : Worker Msg) : Nat :=
  worker.wait.keeps.toNat + worker.jobs.countP Job.keeps

theorem Worker.keeps_goOn (worker : Worker Msg) (jobs : List (Job Msg)) :
    (worker.goOn jobs).keeps = jobs.countP Job.keeps := by
  simp [keeps, goOn, Wait.keeps]

theorem Worker.keeps_waitFor (worker : Worker Msg) (wait : Wait Msg) (jobs : List (Job Msg))
    (ticket : Nat) : (worker.waitFor wait jobs ticket).keeps =
      wait.keeps.toNat + jobs.countP Job.keeps := rfl

theorem Worker.keeps_of_suffix {worker : Worker Msg} {rest : List (Job Msg)}
    (suffix : rest <:+ worker.jobs) : rest.countP Job.keeps ≤ worker.keeps :=
  Nat.le_add_left_of_le suffix.sublist.countP_le

theorem Inbound.keeps_job (frame : Inbound) : (frame.job : Job Msg).keeps = false := by
  unfold job
  split <;> rfl

namespace Session

variable {Flags : Type} {model : Model Flags State Msg} {flags : Flags}
  {options : SessionOptions} {session later base : Session Flags State Msg} {late : Bool}
  {worker next : Worker Msg} {jobs : List (List (Job Msg))} {before after : List (Worker Msg)}
  {rest : List (Job Msg)}

/-- The connections that were closed, the latest first. -/
def closings (session : Session Flags State Msg) : List Nat :=
  session.history.filterMap Event.closed?

theorem closings_absorb (session : Session Flags State Msg) (outcome : Outcome State Msg) :
    (session.absorb outcome).closings = session.closings := by
  simp [closings, absorb, note, Event.closed?, Function.comp_def]

theorem filterMap_cancel {Item : Type} {read : Event State Msg → Option Item}
    (unread : read .cancelled = none) (session : Session Flags State Msg) :
    session.cancel.history.filterMap read = session.history.filterMap read := by
  unfold cancel
  split
  · rfl
  · exact List.filterMap_cons_none unread

theorem Doing.keeps_eq {job : Job Msg} (doing : Doing worker job rest) :
    worker.keeps = job.keeps.toNat + rest.countP Job.keeps := by
  rw [Worker.keeps, doing.free, doing.jobs_eq, List.countP_cons]
  cases job.keeps <;> simp [Wait.keeps, Nat.add_comm]

/-! ## What a step does to the connection -/

/-- What a step does to the connection and to those who are about to keep one. -/
inductive Sink (session : Session Flags State Msg) (worker next : Worker Msg)
    (base : Session Flags State Msg) : Prop where
  | stays (started_eq : base.started = session.started)
      (connection_eq : base.connection = session.connection)
      (closings_eq : base.closings = session.closings) (fewer : next.keeps ≤ worker.keeps)
  | starts (fresh : session.started = false) (started : base.started = true)
      (connection_eq : base.connection = session.connection)
      (closings_eq : base.closings = session.closings) (more : next.keeps = worker.keeps + 1)
  | keeps {connection : Nat} (started_eq : base.started = session.started)
      (connection_eq : base.connection = some connection)
      (closings_eq : base.closings = session.closings) (kept : worker.keeps = next.keeps + 1)
  | closes {connection : Nat} (started_eq : base.started = session.started)
      (opened : session.connection = some connection) (connection_eq : base.connection = none)
      (closings_eq : base.closings = connection :: session.closings)
      (fewer : next.keeps ≤ worker.keeps)

theorem Holds.sink_same {purpose : Purpose}
    (holds : Holds session worker purpose rest base) :
    base.started = session.started ∧ base.connection = session.connection ∧
      base.closings = session.closings := by
  cases holds <;> exact ⟨rfl, rfl, rfl⟩

theorem Holds.keeps_eq {connection : Nat}
    (holds : Holds session worker (.keep connection) rest base) :
    worker.keeps = rest.countP Job.keeps + 1 := by
  cases holds with
  | acquires doing => rw [doing.keeps_eq, Nat.add_comm]; rfl
  | granted waits => rw [Worker.keeps, waits, Nat.add_comm]; rfl

theorem Doing.keeps_le {job : Job Msg} (doing : Doing worker job rest) :
    rest.countP Job.keeps ≤ worker.keeps :=
  Worker.keeps_of_suffix doing.suffix

theorem Turn.sink (turn : Turn model late session worker base jobs next) :
    Sink session worker next base := by
  cases turn with
  | passes passes =>
      exact .stays rfl rfl rfl (Worker.keeps_goOn .. ▸ Worker.keeps_of_suffix passes.suffix)
  | startFails doing | runFails doing =>
      refine .stays rfl rfl rfl ?_
      simp [Worker.keeps, Worker.failing, Job.keeps]
  | starts doing fresh =>
      refine .starts fresh rfl rfl (closings_absorb _ _) ?_
      rw [doing.keeps_eq, Worker.keeps_goOn]
      simp [Job.keeps, List.countP_cons]
  | input doing | resize doing | followsUp doing =>
      refine .stays rfl rfl (closings_absorb _ _) ?_
      simpa [Worker.keeps_goOn, Job.keeps, List.countP_cons] using doing.keeps_le
  | drops doing =>
      exact .stays rfl rfl (closings_absorb _ _) (Worker.keeps_goOn .. ▸ doing.keeps_le)
  | opensLoops doing | rendersLater doing | runs doing | heartbeat doing | reports doing =>
      refine .stays rfl rfl rfl ?_
      simpa [Worker.keeps_goOn, Job.keeps, List.countP_cons] using doing.keeps_le
  | @applies pending quit rest doing =>
      refine .stays rfl rfl rfl ?_
      cases quit <;>
        simpa [Worker.keeps_goOn, Job.keeps, List.countP_cons] using doing.keeps_le
  | shutsDown doing =>
      refine .stays (by rw [cancel_eq]) (by rw [cancel_eq]) (filterMap_cancel rfl session) ?_
      simpa [Worker.keeps_goOn, Job.keeps, List.countP_cons] using doing.keeps_le
  | sleeps doing =>
      refine .stays rfl rfl rfl ?_
      rw [doing.keeps_eq]
      exact Nat.le_refl _
  | @awaitsLock purpose rest doing =>
      refine .stays rfl rfl rfl ?_
      rw [doing.keeps_eq, Worker.keeps_waitFor]
      cases purpose <;> exact Nat.le_refl _
  | awaitsInbound doing | awaitsBeat doing | joins doing =>
      refine .stays rfl rfl rfl ?_
      simpa [Worker.keeps_waitFor, Wait.keeps] using doing.keeps_le
  | keeps holds =>
      obtain ⟨started_eq, -, closings_eq⟩ := holds.sink_same
      exact .keeps started_eq rfl closings_eq (by rw [holds.keeps_eq, Worker.keeps_goOn])
  | closes holds opened =>
      obtain ⟨started_eq, -, closings_eq⟩ := holds.sink_same
      refine .closes started_eq opened rfl (congrArg _ closings_eq) ?_
      exact Worker.keeps_goOn .. ▸ Worker.keeps_of_suffix holds.suffix
  | closesNothing holds | skipsWrite holds | failsWrite holds | writes holds
  | awaitsDelivery holds =>
      obtain ⟨started_eq, connection_eq, closings_eq⟩ := holds.sink_same
      refine .stays started_eq connection_eq closings_eq ?_
      simpa [Worker.keeps_goOn, Worker.keeps_waitFor, Wait.keeps, Job.keeps, List.countP_cons]
        using Worker.keeps_of_suffix holds.suffix
  | deliveryEnds waits | deliveryFails waits | delivers waits | pushesLate waits
  | frameEnds waits | rereads waits | beats waits =>
      refine .stays rfl rfl rfl ?_
      simpa [Worker.keeps_goOn, Job.keeps, List.countP_cons]
        using Worker.keeps_of_suffix (List.suffix_refl worker.jobs)
  | pushes brings | awaitsRoom brings =>
      have fewer := Worker.keeps_of_suffix brings.suffix
      cases brings <;> exact .stays rfl rfl rfl
        (by simpa [Worker.keeps_goOn, Worker.keeps_waitFor, Wait.keeps] using fewer)
  | takes seeks | findsClosed seeks | awaitsFrame seeks =>
      have fewer := Worker.keeps_of_suffix seeks.suffix
      cases seeks <;> exact .stays rfl rfl rfl (by
        simpa [Worker.keeps_goOn, Worker.keeps_waitFor, Wait.keeps, Job.keeps, List.countP_cons]
          using fewer)
  | receives listens | readFails listens =>
      refine .stays rfl rfl rfl ?_
      simpa [Worker.keeps, Worker.goOn, Wait.keeps, Job.keeps, Inbound.keeps_job, List.countP_cons]
        using Worker.keeps_of_suffix listens.suffix
  | @awakes due job waits =>
      refine .stays rfl rfl rfl ?_
      rw [Worker.keeps_goOn, Worker.keeps, waits, List.countP_cons, Nat.add_comm]
      cases keeps : job.keeps <;> simp [Wait.keeps, keeps]
  | joinTimesOut waits =>
      exact .stays rfl rfl rfl (by simp [Worker.keeps, Worker.goOn, Wait.keeps])
  | joinShrinks waits =>
      refine .stays rfl rfl rfl ?_
      rw [Worker.keeps, Worker.keeps, waits]
      exact Nat.le_refl _

/-- A session that started has started for good. -/
theorem Move.started (started : session.started = true) (move : Move model session later) :
    later.started = true := by
  cases move with
  | turns advanced turns =>
      rw [turns.later_eq]
      cases turns.turn.sink with
      | stays started_eq | keeps started_eq | closes started_eq => exact started_eq.trans started
      | starts fresh => rw [started] at fresh; cases fresh
  | retires advanced free done workers_eq later_eq => rw [later_eq]; exact started
  | asked request later_eq => rw [later_eq]; exact started
  | elapses time forward later_eq => rw [later_eq]; exact started
  | client link move later_eq => rw [later_eq]; exact started
  | cancels live later_eq => rw [later_eq]; exact started
  | nothing ended later_eq => rw [later_eq]; exact started

/-! ## At most one connection -/

theorem Turn.keeps_hired (turn : Turn model late session worker base jobs next)
    {other : Worker Msg} {first : TaskId} (member : other ∈ hired first jobs) :
    other.keeps = 0 := by
  obtain ⟨-, -, free, mem⟩ := id_of_mem_hired member
  rw [Worker.keeps, free]
  rcases turn.hires mem with eq | eq | ⟨delay, eq | ⟨depth, message, eq⟩⟩ <;> rw [eq] <;> rfl

theorem Request.keeps_jobs (request : Request) :
    (request.jobs : List (Job Msg)).countP Job.keeps = 0 := by
  cases request <;> simp [Request.jobs, Job.keeps]

/-- How many connections the workers are about to keep. -/
def keepers (workers : List (Worker Msg)) : Nat := (workers.map Worker.keeps).sum

theorem keepers_append (first second : List (Worker Msg)) :
    keepers (first ++ second) = keepers first + keepers second := by
  simp [keepers]

theorem keepers_cons (worker : Worker Msg) (workers : List (Worker Msg)) :
    keepers (worker :: workers) = worker.keeps + keepers workers := by
  simp [keepers]

theorem keepers_eq_zero {workers : List (Worker Msg)}
    (none : ∀ worker ∈ workers, worker.keeps = 0) : keepers workers = 0 := by
  apply List.sum_eq_zero
  intro count member
  obtain ⟨worker, present, rfl⟩ := List.mem_map.mp member
  exact none worker present

theorem keeps_le_keepers {workers : List (Worker Msg)} (member : worker ∈ workers) :
    worker.keeps ≤ keepers workers :=
  List.le_sum_of_mem (List.mem_map_of_mem member)

/-- How many connections were closed, are open, or are about to be kept. -/
def connections (session : Session Flags State Msg) : Nat :=
  session.closings.length + session.connection.toList.length + keepers session.workers

/-- There is one connection at most, and none before the start. -/
def Sole (session : Session Flags State Msg) : Prop :=
  session.connections ≤ session.started.toNat

theorem Turns.keepers_eq
    (turns : Turns model late session worker later base jobs next before after) :
    keepers session.workers = worker.keeps + keepers (before ++ after) ∧
      keepers later.workers = next.keeps + keepers (before ++ after) := by
  have new : keepers (hired session.nextId jobs) = 0 :=
    keepers_eq_zero fun _ member => turns.turn.keeps_hired member
  rw [turns.later_workers, turns.workers_eq]
  simp only [keepers_append, keepers_cons, new]
  omega

theorem Turns.sole (sole : Sole session)
    (turns : Turns model late session worker later base jobs next before after) : Sole later := by
  obtain ⟨was, becomes⟩ := turns.keepers_eq
  have started_eq : later.started = base.started := by rw [turns.later_eq]
  have connection_eq : later.connection = base.connection := by rw [turns.later_eq]
  have closings_eq : later.closings = base.closings := by rw [turns.later_eq]; rfl
  unfold Sole connections at sole ⊢
  rw [was] at sole
  rw [becomes, started_eq, connection_eq, closings_eq]
  cases turns.turn.sink with
  | stays started_eq connection_eq closings_eq fewer =>
      rw [started_eq, connection_eq, closings_eq]
      omega
  | starts fresh started connection_eq closings_eq more =>
      rw [started, connection_eq, closings_eq, more]
      rw [fresh] at sole
      simp only [Bool.toNat_false, Bool.toNat_true] at sole ⊢
      omega
  | keeps started_eq connection_eq closings_eq kept =>
      rw [started_eq, connection_eq, closings_eq]
      simp only [Option.toList_some, List.length_singleton]
      omega
  | closes started_eq opened connection_eq closings_eq fewer =>
      rw [started_eq, connection_eq, closings_eq]
      rw [opened] at sole
      simp only [Option.toList_some, Option.toList_none, List.length_cons, List.length_nil]
        at sole ⊢
      omega

theorem Move.sole (sole : Sole session) (move : Move model session later) : Sole later := by
  cases move with
  | @retires late worker before after advanced free done workers_eq later_eq =>
      rw [later_eq]
      refine Nat.le_trans (Nat.add_le_add_left ?_ _) sole
      rw [workers_eq, keepers_append, keepers_append, keepers_cons]
      exact Nat.add_le_add_left (Nat.le_add_left _ _) _
  | turns advanced turns => exact turns.sole sole
  | asked request later_eq =>
      rw [later_eq]
      refine Nat.le_trans (Nat.le_of_eq ?_) sole
      simp [connections, closings, hired, Worker.keeps, Wait.keeps, Request.keeps_jobs, keepers]
  | elapses time forward later_eq => rw [later_eq]; exact sole
  | client link move later_eq => rw [later_eq]; exact sole
  | cancels live later_eq => rw [later_eq]; exact sole
  | nothing ended later_eq => rw [later_eq]; exact sole

/-- In every run there is one connection at most. -/
theorem Reach.sole (reach : Reach model flags options session) : Sole session := by
  induction reach with
  | idle => exact Nat.le_refl 0
  | step before step ih => exact (step.move before.identified).sole ih

end Session

end Showcase
