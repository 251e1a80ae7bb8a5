import Mathlib.Logic.Relation
import Showcase.Proofs.Session.Turns

/-!
# What can happen to a session

A step of a session is a turn of a worker, the end of one, or something from outside: time passes, a
worker is asked for something, the client does something, or the server ends the session. Workers
keep numbers of their own through all of it.
-/

namespace Showcase.Session

variable {Flags State Msg : Type} {model : Model Flags State Msg} {flags : Flags}
  {options : SessionOptions} {session later base : Session Flags State Msg} {late : Bool}
  {worker next : Worker Msg} {jobs : List (List (Job Msg))} {before after : List (Worker Msg)}

/-- One thing that happened to a session, with all that it left as it was. -/
inductive Move (model : Model Flags State Msg) (session later : Session Flags State Msg) :
    Prop where
  | retires {late : Bool} {worker : Worker Msg} {before after : List (Worker Msg)}
      (advanced : session.advance model late worker.id = some later)
      (free : worker.wait = .nothing) (done : worker.jobs = [])
      (workers_eq : session.workers = before ++ worker :: after)
      (later_eq : later = { session with workers := before ++ after, ready := later.ready })
  | turns {late : Bool} {worker next : Worker Msg} {base : Session Flags State Msg}
      {jobs : List (List (Job Msg))} {before after : List (Worker Msg)}
      (advanced : session.advance model late worker.id = some later)
      (turns : Turns model late session worker later base jobs next before after)
  | elapses (time : Nat) (forward : session.now ≤ time)
      (later_eq : later = { session with now := time, ready := later.ready })
  | asked (request : Request)
      (later_eq : later =
        { session with
          workers := session.workers ++ hired session.nextId [request.jobs]
          nextId := session.nextId + 1
          ready := later.ready })
  | client (link : Link) (move : ClientMove session later)
      (later_eq : later = { session with link, ready := later.ready })
  | cancels (live : session.cancelled = false)
      (later_eq : later =
        { session with
          cancelled := true, history := .cancelled :: session.history, ready := later.ready })
  | nothing (ended : session.cancelled = true) (later_eq : later = session)

theorem ClientMove.link_eq (move : ClientMove session later) :
    ∃ link, later = { session with link, ready := later.ready } := by
  cases move <;> exact ⟨_, rfl⟩

/-- Every step is one of the moves. -/
theorem Step.move (identified : Identified session) (step : Step model session later) :
    Move model session later := by
  cases step with
  | advance late id advanced =>
      obtain ⟨worker, before, after, rfl, workers_eq, retired | ⟨base, jobs, next, turns⟩⟩ :=
        advance_turns identified advanced
      · obtain ⟨free, done, later_eq⟩ := retired
        exact .retires advanced free done workers_eq later_eq
      · exact .turns advanced turns
  | elapse time forward => exact .elapses time forward rfl
  | ask request => exact .asked request rfl
  | client move =>
      obtain ⟨link, later_eq⟩ := move.link_eq
      exact .client link move later_eq
  | cancel =>
      cases ended : session.cancelled with
      | false => exact .cancels ended (by simp [Session.cancel, ended, note, wake])
      | true => exact .nothing ended (by simp [Session.cancel, ended])

/-- What a session shows and writes stays as it is, and so do its workers, except that a new one may
come with a request and one that has nothing left to do may go. -/
structure Stays (session later : Session Flags State Msg) : Prop where
  started_eq : later.started = session.started
  state_eq : later.state = session.state
  geometry_eq : later.geometry = session.geometry
  queue_eq : later.queue = session.queue
  connection_eq : later.connection = session.connection
  serial_eq : later.nextSerial = session.nextSerial
  history_eq : later.history = session.history
  cancelled_eq : later.cancelled = session.cancelled
  goes : ∀ worker ∈ session.workers,
    worker ∈ later.workers ∨ worker.wait = .nothing ∧ worker.jobs = []
  comes : ∀ worker ∈ later.workers,
    worker ∈ session.workers ∨
      ∃ request : Request, worker.wait = .nothing ∧ worker.jobs = request.jobs

/-- The moves, for properties that do not depend on the clock and the client. -/
inductive Change (model : Model Flags State Msg) (session later : Session Flags State Msg) :
    Prop where
  | turns {late : Bool} {worker next : Worker Msg} {base : Session Flags State Msg}
      {jobs : List (List (Job Msg))} {before after : List (Worker Msg)}
      (advanced : session.advance model late worker.id = some later)
      (turns : Turns model late session worker later base jobs next before after)
  | ends (ended : later.cancelled = true)
      (later_eq : later = { session.cancel with ready := later.ready })
  | stays (stays : Stays session later)

theorem Stays.of_eq
    (same : later =
      { session with
        workers := later.workers
        nextId := later.nextId
        now := later.now
        link := later.link
        ready := later.ready })
    (goes : ∀ worker ∈ session.workers,
      worker ∈ later.workers ∨ worker.wait = .nothing ∧ worker.jobs = [])
    (comes : ∀ worker ∈ later.workers,
      worker ∈ session.workers ∨
        ∃ request : Request, worker.wait = .nothing ∧ worker.jobs = request.jobs) :
    Stays session later := by
  rw [same]
  exact ⟨rfl, rfl, rfl, rfl, rfl, rfl, rfl, rfl, goes, comes⟩

theorem Move.change (move : Move model session later) : Change model session later := by
  cases move with
  | turns advanced turns => exact .turns advanced turns
  | @retires late worker before after advanced free done workers_eq later_eq =>
      rw [later_eq]
      refine .stays (.of_eq rfl (fun other member => ?_) fun other member => ?_)
      · rcases eq_or_mem_around (workers_eq ▸ member) with rfl | old
        · exact .inr ⟨free, done⟩
        · exact .inl old
      · exact .inl (workers_eq ▸ mem_around member worker)
  | asked request later_eq =>
      rw [later_eq]
      refine .stays (.of_eq rfl (fun other member => ?_) fun other member => ?_)
      · exact .inl (List.mem_append_left _ member)
      · refine (List.mem_append.mp member).imp_right fun new => ⟨request, ?_⟩
        obtain rfl := List.mem_singleton.mp new
        exact ⟨rfl, rfl⟩
  | elapses _ _ later_eq | client _ _ later_eq =>
      rw [later_eq]
      exact .stays (.of_eq rfl (fun _ => .inl) fun _ => .inl)
  | cancels live later_eq =>
      refine .ends (by rw [later_eq]) ?_
      rw [later_eq, Session.cancel, live]
      rfl
  | nothing ended later_eq =>
      refine .ends (later_eq ▸ ended) ?_
      rw [later_eq, Session.cancel, if_pos ended]

/-- A worker that waits goes on only with what it waits for. -/
theorem advance_of_busy {id : TaskId} (found : session.worker? id = some worker)
    (busy : worker.wait ≠ .nothing) :
    session.advance model late id = session.resume worker late worker.wait := by
  simp only [advance, found, Option.bind_eq_bind, Option.bind_some]
  split <;> first | contradiction | rfl

theorem Turn.id_eq (turn : Turn model late session worker base jobs next) :
    next.id = worker.id := by
  cases turn <;> rfl

theorem suffix_cancel (session : Session Flags State Msg) :
    session.history <:+ session.cancel.history := by
  unfold cancel
  split
  · exact List.suffix_refl _
  · exact List.suffix_cons _ _

/-- The history only grows. -/
theorem Turn.history_suffix (turn : Turn model late session worker base jobs next) :
    session.history <:+ base.history := by
  cases turn with
  | starts | input | resize => exact (List.suffix_cons _ _).trans (List.suffix_append _ _)
  | followsUp | drops => exact List.suffix_append _ _
  | shutsDown => exact suffix_cancel session
  | keeps holds | closesNothing holds | skipsWrite holds => cases holds <;> exact List.suffix_refl _
  | closes holds | awaitsDelivery holds => cases holds <;> exact List.suffix_cons _ _
  | failsWrite holds | writes holds => cases holds <;> exact ⟨[_, _], rfl⟩
  | deliveryFails | delivers | pushesLate | receives | reports => exact List.suffix_cons _ _
  | pushes brings =>
      cases brings with
      | draws => exact ⟨[_, _], rfl⟩
      | retries => exact List.suffix_cons _ _
  | awaitsRoom brings =>
      cases brings with
      | draws => exact List.suffix_cons _ _
      | retries => exact List.suffix_refl _
  | takes seeks => cases seeks <;> exact List.suffix_cons _ _
  | findsClosed seeks | awaitsFrame seeks => cases seeks <;> exact List.suffix_refl _
  | _ => exact List.suffix_refl _

theorem Move.history_suffix (move : Move model session later) :
    session.history <:+ later.history := by
  cases move.change with
  | turns advanced turns =>
      rw [turns.later_eq]
      exact turns.turn.history_suffix
  | ends ended later_eq =>
      rw [later_eq]
      exact suffix_cancel session
  | stays stays => exact stays.history_eq ▸ List.suffix_refl _

theorem Turns.later_workers
    (turns : Turns model late session worker later base jobs next before after) :
    later.workers = before ++ next :: (after ++ hired session.nextId jobs) := by
  rw [turns.later_eq]

theorem Turns.worker_mem
    (turns : Turns model late session worker later base jobs next before after) :
    worker ∈ session.workers := by
  rw [turns.workers_eq]
  exact List.mem_append_right _ List.mem_cons_self

theorem Turns.other_mem
    (turns : Turns model late session worker later base jobs next before after)
    {other : Worker Msg} (member : other ∈ before ++ after) : other ∈ session.workers := by
  rw [turns.workers_eq]
  exact mem_around member worker

/-- After a turn there are the worker itself, the others, and those whom it hired. -/
theorem Turns.mem_later
    (turns : Turns model late session worker later base jobs next before after)
    {other : Worker Msg} :
    other ∈ later.workers ↔
      other = next ∨ other ∈ before ++ after ∨ other ∈ hired session.nextId jobs := by
  rw [turns.later_workers]
  simp only [List.mem_append, List.mem_cons]
  tauto

theorem Turns.later_nextId
    (turns : Turns model late session worker later base jobs next before after) :
    later.nextId = session.nextId + jobs.length := by
  rw [turns.later_eq]

/-! ## The numbers of workers -/

theorem map_id_hired (first : Nat) (jobs : List (List (Job Msg))) :
    (hired first jobs).map Worker.id = List.range' first jobs.length := by
  induction jobs generalizing first with
  | nil => rfl
  | cons jobs rest ih => simp [hired, ih, List.range'_succ]

/-- New workers have new numbers. -/
theorem Identified.hires {workers : List (Worker Msg)} {nextId : Nat}
    (unique : (workers.map Worker.id).Nodup) (below : ∀ worker ∈ workers, worker.id < nextId)
    (jobs : List (List (Job Msg))) :
    ((workers ++ hired nextId jobs).map Worker.id).Nodup ∧
      ∀ worker ∈ workers ++ hired nextId jobs, worker.id < nextId + jobs.length := by
  constructor
  · rw [List.map_append, map_id_hired]
    apply unique.append List.nodup_range'
    intro id old new
    obtain ⟨worker, member, rfl⟩ := List.mem_map.mp old
    have above := (List.mem_range'_1.mp new).1
    exact Nat.not_lt_of_le above (below worker member)
  · intro worker member
    rcases List.mem_append.mp member with old | new
    · exact Nat.lt_of_lt_of_le (below worker old) (Nat.le_add_right _ _)
    · exact (id_of_mem_hired new).2.1

theorem Move.identified (identified : Identified session) (move : Move model session later) :
    Identified later := by
  have unique := identified.unique
  have below := identified.below
  cases move with
  | @retires late worker before after advanced free done workers_eq later_eq =>
      rw [workers_eq] at unique below
      rw [later_eq]
      constructor
      · have fewer := (List.sublist_cons_self worker after).append_left before
        exact unique.sublist (fewer.map Worker.id)
      · intro other member
        exact below other (mem_around member _)
  | @turns late worker next base jobs before after advanced turns =>
      have same := turns.turn.id_eq
      rw [turns.workers_eq] at unique below
      have unique : ((before ++ next :: after).map Worker.id).Nodup := by simpa [same] using unique
      have below : ∀ worker ∈ before ++ next :: after, worker.id < session.nextId := by
        intro other member
        rcases List.mem_append.mp member with left | right
        · exact below other (List.mem_append_left _ left)
        · rcases List.mem_cons.mp right with rfl | right
          · exact same ▸ below worker (List.mem_append_right _ List.mem_cons_self)
          · exact below other (List.mem_append_right _ (List.mem_cons_of_mem _ right))
      obtain ⟨unique', below'⟩ := Identified.hires unique below jobs
      constructor
      · rw [turns.later_workers]
        simpa using unique'
      · rw [turns.later_workers, turns.later_eq]
        simpa using below'
  | elapses time forward later_eq => rw [later_eq]; exact ⟨unique, below⟩
  | asked request later_eq =>
      obtain ⟨unique', below'⟩ := Identified.hires unique below [request.jobs]
      rw [later_eq]
      exact ⟨unique', below'⟩
  | client link move later_eq => rw [later_eq]; exact ⟨unique, below⟩
  | cancels live later_eq => rw [later_eq]; exact ⟨unique, below⟩
  | nothing ended later_eq => rw [later_eq]; exact identified

theorem Reach.identified (reach : Reach model flags options session) : Identified session := by
  induction reach with
  | idle => exact ⟨List.nodup_nil, fun _ member => nomatch member⟩
  | step before step ih => exact (step.move ih).identified ih

theorem Reach.steps (reach : Reach model flags options session)
    (steps : Relation.ReflTransGen (Step model) session later) :
    Reach model flags options later := by
  induction steps with
  | refl => exact reach
  | tail before step ih => exact .step ih step

/-- Workers that take their turns one after the other make a run. -/
theorem steps_of_foldlM {ids : List TaskId}
    (went : ids.foldlM (advance model late) session = some later) :
    Relation.ReflTransGen (Step model) session later := by
  induction ids generalizing session with
  | nil => exact Option.some.inj went ▸ .refl
  | cons id rest ih =>
      obtain ⟨between, first, further⟩ := Option.bind_eq_some_iff.mp went
      exact .head (.advance late id first) (ih further)

end Showcase.Session
