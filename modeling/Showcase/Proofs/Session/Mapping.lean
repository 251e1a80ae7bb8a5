import Showcase.Proofs.Session.Leaves
import Showcase.Proofs.Session.Moves

/-!
# Sessions seen through a map

Two programs that do the same, up to a map of their states and messages, run in sessions that do the
same: the map takes every run of the one to a run of the other, step by step.
-/

namespace Showcase

variable {Flags State Msg State' Msg' : Type}

/-! ## Maps of everything that holds states or messages -/

def Job.map (g : Msg → Msg') : Job Msg → Job Msg'
  | start connection => start connection
  | openLoops => openLoops
  | input key => input key
  | resize geometry => resize geometry
  | apply pending quit => apply (pending.map fun entry => (entry.1, entry.2.map g)) quit
  | render => render
  | renderLater delay => renderLater delay
  | after delay job => after delay (job.map g)
  | followUp depth message => followUp depth (g message)
  | shutdown => shutdown
  | lock purpose => lock purpose
  | run => run
  | read => read
  | heartbeat => heartbeat
  | beat due => beat due
  | write => write
  | join limit => join limit
  | report => report

def Wait.map (g : Msg → Msg') : Wait Msg → Wait Msg'
  | nothing => nothing
  | room held deadline => room held deadline
  | lock purpose => lock purpose
  | frame => frame
  | delivery held => delivery held
  | inbound deadline => inbound deadline
  | beat due => beat due
  | time due job => time due (job.map g)
  | others ids deadline => others ids deadline

def Worker.map (g : Msg → Msg') (worker : Worker Msg) : Worker Msg' where
  id := worker.id
  wait := worker.wait.map g
  ticket := worker.ticket
  jobs := worker.jobs.map (Job.map g)
  verdict := worker.verdict

def Event.map (f : State → State') (g : Msg → Msg') : Event State Msg → Event State' Msg'
  | began geometry => began geometry
  | received id frame => received id frame
  | input id key => input id key
  | resized id geometry => resized id geometry
  | updated depth message => updated depth (g message)
  | dropped depth message => dropped depth (g message)
  | drawn frame geometry state => drawn frame geometry (f state)
  | pushed frame outcome => pushed frame outcome
  | taken frame => taken frame
  | writing frame => writing frame
  | delivered frame time => delivered frame time
  | failed frame => failed frame
  | cancelled => cancelled
  | closed connection => closed connection
  | reported id verdict => reported id verdict

def Outcome.map (f : State → State') (g : Msg → Msg') (outcome : Outcome State Msg) :
    Outcome State' Msg' where
  state := f outcome.state
  pending := outcome.pending.map fun entry => (entry.1, entry.2.map g)
  quit := outcome.quit
  updates := outcome.updates.map fun entry => (entry.1, g entry.2)
  dropped := outcome.dropped.map fun entry => (entry.1, g entry.2)

def Session.map (f : State → State') (g : Msg → Msg') (session : Session Flags State Msg) :
    Session Flags State' Msg' where
  flags := session.flags
  options := session.options
  started := session.started
  state := session.state.map f
  geometry := session.geometry
  queue := session.queue
  cancelled := session.cancelled
  connection := session.connection
  lock := session.lock
  loops := session.loops
  link := session.link
  workers := session.workers.map (Worker.map g)
  ready := session.ready
  now := session.now
  nextId := session.nextId
  nextTicket := session.nextTicket
  nextSerial := session.nextSerial
  history := session.history.map (Event.map f g)

/-- A program does what another one does, up to a map of the other's states and messages. -/
structure Model.Mirrors (model : Model Flags State Msg) (image : Model Flags State' Msg')
    (f : State → State') (g : Msg → Msg') : Prop where
  init_eq : ∀ flags geometry, image.init flags geometry =
    (f (model.init flags geometry).1, (model.init flags geometry).2.map g)
  ofKey_eq : ∀ key, image.ofKey key = g (model.ofKey key)
  update_eq : ∀ state message, image.update (f state) (g message) =
    (f (model.update state message).1, (model.update state message).2.map g)
  resize_eq : ∀ state geometry, image.resize (f state) geometry =
    (f (model.resize state geometry).1, (model.resize state geometry).2.map g)
  draw_eq : ∀ state, image.draw (f state) = model.draw state

variable {model : Model Flags State Msg} {image : Model Flags State' Msg'} {f : State → State'}
  {g : Msg → Msg'}

/-! ## Programs -/

theorem Command.walk_map {follow : Msg → Outcome State Msg → Outcome State Msg}
    {follow' : Msg' → Outcome State' Msg' → Outcome State' Msg'}
    (same : ∀ message outcome,
      follow' (g message) (outcome.map f g) = (follow message outcome).map f g) (depth : Nat)
    (command : Command Msg) (outcome : Outcome State Msg) :
    (command.map g).walk follow' depth (outcome.map f g) =
      (command.walk follow depth outcome).map f g := by
  rw [walk_eq_foldl, walk_eq_foldl, flatten_map, List.foldl_map]
  refine List.foldl_hom (fun outcome : Outcome State Msg => outcome.map f g) fun outcome leaf => ?_
  cases leaf with
  | message content => exact same content outcome
  | quit => rfl
  | task content => simp [Leaf.carryOut, Leaf.map, Outcome.map]

namespace Model.Mirrors

theorem resolve_map (mirrors : model.Mirrors image f g) (depth : Nat) (command : Command Msg)
    (outcome : Outcome State Msg) :
    image.resolve depth (command.map g) (outcome.map f g) =
      (model.resolve depth command outcome).map f g := by
  rw [Model.resolve, Model.resolve]
  apply Command.walk_map
  intro message outcome
  by_cases shallow : depth < maxDepth
  · have further := mirrors.resolve_map (depth + 1) (model.update outcome.state message).2
      { outcome with
        state := (model.update outcome.state message).1
        updates := outcome.updates ++ [(depth + 1, message)] }
    simpa [shallow, Outcome.map, mirrors.update_eq] using further
  · simp [shallow, Outcome.map]
termination_by maxDepth - depth

theorem dispatch_map (mirrors : model.Mirrors image f g) (state : State) (depth : Nat)
    (message : Msg) :
    image.dispatch (f state) depth (g message) = (model.dispatch state depth message).map f g := by
  simp only [Model.dispatch, mirrors.update_eq]
  exact mirrors.resolve_map depth _
    { state := (model.update state message).1, updates := [(depth, message)] }

theorem begin_map (mirrors : model.Mirrors image f g) (flags : Flags) (geometry : Geometry) :
    image.begin flags geometry = (model.begin flags geometry).map f g := by
  simp only [Model.begin, mirrors.init_eq]
  exact mirrors.resolve_map 0 _ { state := (model.init flags geometry).1 }

theorem adapt_map (mirrors : model.Mirrors image f g) (state : State) (geometry : Geometry) :
    image.adapt (f state) geometry = (model.adapt state geometry).map f g := by
  simp only [Model.adapt, mirrors.resize_eq]
  exact mirrors.resolve_map 0 _ { state := (model.resize state geometry).1 }

theorem followUp_map (mirrors : model.Mirrors image f g) (state : State) (depth : Nat)
    (message : Msg) :
    image.followUp (f state) depth (g message) = (model.followUp state depth message).map f g := by
  unfold Model.followUp
  split
  · exact mirrors.dispatch_map state (depth + 1) message
  · rfl

theorem render_map (mirrors : model.Mirrors image f g) (state : State) (geometry : Geometry) :
    image.render (f state) geometry = model.render state geometry := by
  simp [Model.render, Model.screen, mirrors.draw_eq]

end Model.Mirrors

/-! ## Operations on a session -/

namespace Session

variable {session later : Session Flags State Msg} {worker : Worker Msg} {late : Bool}

theorem state_map (session : Session Flags State Msg) :
    (session.map f g).state = session.state.map f := rfl

theorem queue_map (session : Session Flags State Msg) :
    (session.map f g).queue = session.queue := rfl

theorem cancelled_map (session : Session Flags State Msg) :
    (session.map f g).cancelled = session.cancelled := rfl

theorem connection_map (session : Session Flags State Msg) :
    (session.map f g).connection = session.connection := rfl

theorem link_map (session : Session Flags State Msg) : (session.map f g).link = session.link := rfl

theorem map_map_id (workers : List (Worker Msg)) :
    (workers.map (Worker.map g)).map Worker.id = workers.map Worker.id := by
  rw [List.map_map]
  rfl

theorem map_note (session : Session Flags State Msg) (events : List (Event State Msg)) :
    (session.note events).map f g = (session.map f g).note (events.map (Event.map f g)) := by
  simp [note, Session.map]

theorem map_wake (session : Session Flags State Msg) (ids : List TaskId) :
    (session.wake ids).map f g = (session.map f g).wake ids :=
  rfl

theorem worker?_map (session : Session Flags State Msg) (id : TaskId) :
    (session.map f g).worker? id = (session.worker? id).map (Worker.map g) := by
  unfold worker?
  exact List.find?_map

theorem isAlive_map (session : Session Flags State Msg) (id : TaskId) :
    (session.map f g).isAlive id = session.isAlive id := by
  unfold isAlive
  exact List.any_map

theorem map_setWorker (session : Session Flags State Msg) (worker : Worker Msg) :
    (session.setWorker worker).map f g = (session.map f g).setWorker (worker.map g) := by
  simp only [setWorker, Session.map, List.map_map, Session.mk.injEq, true_and, and_true]
  apply List.map_congr_left
  intro other member
  simp only [Function.comp_apply]
  exact apply_ite (Worker.map g) _ _ _

theorem map_spawn (session : Session Flags State Msg) (jobs : List (Job Msg)) :
    (session.spawn jobs).map f g = (session.map f g).spawn (jobs.map (Job.map g)) := by
  simp [spawn, employ, Session.map, wake, Worker.map, Wait.map]

theorem map_suspend (session : Session Flags State Msg) (worker : Worker Msg) (wait : Wait Msg) :
    (session.suspend worker wait).map f g =
      (session.map f g).suspend (worker.map g) (wait.map g) := by
  unfold suspend
  rw [map_setWorker]
  rfl

theorem map_proceed (session : Session Flags State Msg) (worker : Worker Msg)
    (jobs : List (Job Msg)) :
    (session.proceed worker jobs).map f g =
      (session.map f g).proceed (worker.map g) (jobs.map (Job.map g)) := by
  unfold proceed
  rw [map_setWorker]
  simp [Worker.map, Wait.map]

theorem map_fail (session : Session Flags State Msg) (worker : Worker Msg)
    (fault : SessionFault) :
    (session.fail worker fault).map f g = (session.map f g).fail (worker.map g) fault := by
  unfold fail
  rw [map_setWorker]
  rfl

theorem map_retire (session : Session Flags State Msg) (worker : Worker Msg) :
    (session.retire worker).map f g = (session.map f g).retire (worker.map g) := by
  unfold retire
  rw [map_wake]
  simp only [Session.map, List.filter_map, map_map_id]
  congr 4
  funext other
  cases other with
  | mk id wait ticket jobs verdict => cases wait <;> rfl

theorem map_setQueue (session : Session Flags State Msg) (change : Queue Frame × List TaskId) :
    (session.setQueue change).map f g = (session.map f g).setQueue change :=
  rfl

theorem map_release (session : Session Flags State Msg) :
    session.release.map f g = (session.map f g).release :=
  rfl

theorem waiters_map (session : Session Flags State Msg) {waits : Wait Msg → Bool}
    {waits' : Wait Msg' → Bool} (same : ∀ wait, waits' (wait.map g) = waits wait) :
    (session.map f g).waiters waits' = session.waiters waits := by
  have chosen : (session.workers.map (Worker.map g)).filter (fun worker => waits' worker.wait) =
      (session.workers.filter fun worker => waits worker.wait).map (Worker.map g) := by
    rw [List.filter_map]
    congr 2
    funext worker
    exact same worker.wait
  unfold waiters
  simp only [Session.map, chosen]
  rw [← List.map_mergeSort (f := Worker.map g)
    (r := fun first second => decide (first.ticket ≤ second.ticket))
    (s := fun first second => decide (first.ticket ≤ second.ticket))
    (fun _ _ _ _ => rfl), map_map_id]

theorem heedsEnd_map (wait : Wait Msg) : (wait.map g).heedsEnd = wait.heedsEnd := by
  cases wait <;> rfl

theorem deadline?_map (wait : Wait Msg) : (wait.map g).deadline? = wait.deadline? := by
  cases wait <;> rfl

theorem map_cancel (session : Session Flags State Msg) :
    session.cancel.map f g = (session.map f g).cancel := by
  unfold cancel
  rw [apply_ite (Session.map f g), map_wake, map_note, ← waiters_map session heedsEnd_map]
  rfl

theorem map_absorb (session : Session Flags State Msg) (outcome : Outcome State Msg) :
    (session.absorb outcome).map f g = (session.map f g).absorb (outcome.map f g) := by
  unfold absorb
  rw [map_note]
  simp only [Outcome.map, List.map_append, List.map_map]
  rfl

theorem map_follow (session : Session Flags State Msg) (worker : Worker Msg)
    (outcome : Outcome State Msg) (jobs : List (Job Msg)) :
    (session.follow worker outcome jobs).map f g =
      (session.map f g).follow (worker.map g) (outcome.map f g) (jobs.map (Job.map g)) := by
  unfold follow
  rw [map_proceed, map_absorb]
  rfl

theorem map_push (session : Session Flags State Msg) (worker : Worker Msg) (frame : Frame)
    (deadline : Nat) :
    (session.push worker frame deadline).map f g =
      (session.map f g).push (worker.map g) frame deadline := by
  unfold push
  rw [queue_map]
  cases session.queue.tryPush frame with
  | some outcome =>
      simp only [map_proceed, map_note]
      rfl
  | none =>
      simp only [map_suspend]
      rfl

theorem map_pushLate (session : Session Flags State Msg) (worker : Worker Msg) (frame : Frame) :
    (session.pushLate worker frame).map f g =
      (session.map f g).pushLate (worker.map g) frame := by
  unfold pushLate
  simp only [map_proceed, map_note]
  rfl

theorem map_render (mirrors : model.Mirrors image f g) (session : Session Flags State Msg)
    (worker : Worker Msg) :
    (session.render model worker).map f g = (session.map f g).render image (worker.map g) := by
  unfold render
  rw [cancelled_map, state_map]
  cases session.cancelled with
  | true => exact map_proceed session worker []
  | false =>
      cases session.state with
      | none => exact map_proceed session worker []
      | some state =>
          simp only [Option.map_some, mirrors.render_map, apply_ite (Session.map f g),
            map_proceed, map_push, map_note]
          rfl

theorem map_deliver (session : Session Flags State Msg) (worker : Worker Msg) (frame : Frame) :
    (session.deliver worker frame).map f g =
      (session.map f g).deliver (worker.map g) frame := by
  unfold deliver
  rw [map_proceed, map_release, map_note]
  rfl

theorem map_abandon (session : Session Flags State Msg) (worker : Worker Msg) (frame : Frame) :
    (session.abandon worker frame).map f g =
      (session.map f g).abandon (worker.map g) frame := by
  unfold abandon
  rw [map_proceed, map_release, map_note]
  rfl

theorem map_pop (session : Session Flags State Msg) (worker : Worker Msg)
    (wait : Session Flags State Msg → Session Flags State Msg)
    (wait' : Session Flags State' Msg' → Session Flags State' Msg')
    (same : ∀ session, (wait session).map f g = wait' (session.map f g)) :
    (session.pop worker wait).map f g = (session.map f g).pop (worker.map g) wait' := by
  unfold pop
  rw [queue_map]
  rcases session.queue.tryPop with ⟨frame | - | -, change⟩
  · simp only [map_proceed, map_note]
    rfl
  · simp only [map_proceed]
    rfl
  · exact same _

theorem map_enter (session : Session Flags State Msg) (worker : Worker Msg) (purpose : Purpose) :
    (session.enter worker purpose).map f g =
      (session.map f g).enter (worker.map g) purpose := by
  cases purpose with
  | keep connection =>
      simp only [enter, map_proceed]
      rfl
  | close =>
      simp only [enter]
      rw [connection_map]
      cases session.connection with
      | none => simp only [map_proceed, map_release]; rfl
      | some connection => simp only [map_proceed, map_release, map_note]; rfl
  | write frame =>
      simp only [enter, apply_ite (Session.map f g), map_proceed, map_release, map_abandon,
        map_deliver, map_suspend, map_note]
      rfl

theorem receive_map (session : Session Flags State Msg) (worker : Worker Msg)
    (otherwise : Option (Session Flags State Msg)) :
    (session.map f g).receive (worker.map g) (otherwise.map (Session.map f g)) =
      (session.receive worker otherwise).map (Session.map f g) := by
  unfold receive
  rw [link_map]
  rcases session.link.receive with ⟨frame | fault | - | -, link⟩
  · simp only [Option.map_some, map_proceed, map_note]
    rcases frame.classify with ⟨geometry⟩ | bytes <;> rfl
  · simp only [Option.map_some, map_proceed]
    rfl
  · simp only [Option.map_some, map_proceed]
    rfl
  · rfl

theorem map_spawnTasks (pending : List (Nat × Task Msg)) (session : Session Flags State Msg) :
    (pending.foldl (fun session (depth, task) =>
        session.spawn [.after task.delay (.followUp depth task.message)]) session).map f g =
      (pending.map fun entry => (entry.1, entry.2.map g)).foldl (fun session (depth, task) =>
        session.spawn [.after task.delay (.followUp depth task.message)]) (session.map f g) := by
  induction pending generalizing session with
  | nil => rfl
  | cons entry rest ih =>
      simp only [List.map_cons, List.foldl_cons]
      rw [ih, map_spawn]
      rfl

theorem perform_map (mirrors : model.Mirrors image f g) (session : Session Flags State Msg)
    (worker : Worker Msg) (job : Job Msg) :
    (session.map f g).perform image (worker.map g) (job.map g) =
      (session.perform model worker job).map f g := by
  cases job with
  | start connection =>
      simp only [Job.map, perform, apply_ite (Session.map f g), map_fail, map_proceed, map_absorb,
        map_note, mirrors.begin_map]
      rfl
  | openLoops =>
      simp only [Job.map, perform, map_proceed]
      have spawned : ((session.spawn [.heartbeat]).spawn [.write]).map f g =
          ((session.map f g).spawn [.heartbeat]).spawn [.write] := by
        rw [map_spawn, map_spawn]
        rfl
      have opened := congrArg (fun opened : Session Flags State' Msg' =>
        { opened with loops := opened.loops ++ [session.nextId, session.nextId + 1] }) spawned
      exact congrArg (fun opened => opened.proceed (worker.map g) []) opened.symm
  | input key =>
      simp only [Job.map, perform]
      rw [state_map]
      cases session.state with
      | none => exact (map_proceed session worker []).symm
      | some state =>
          simp only [Option.map_some, map_follow, map_note, mirrors.ofKey_eq, mirrors.dispatch_map]
          rfl
  | resize geometry =>
      simp only [Job.map, perform]
      rw [state_map]
      cases session.state with
      | none => exact (map_proceed session worker []).symm
      | some state =>
          simp only [Option.map_some, map_follow, map_note, mirrors.adapt_map]
          rfl
  | apply pending quit =>
      simp only [Job.map, perform, map_proceed, map_spawnTasks]
      cases quit <;> rfl
  | render => exact (map_render mirrors session worker).symm
  | renderLater delay =>
      simp only [Job.map, perform, map_proceed, map_spawn]
      rfl
  | after delay job =>
      simp only [Job.map, perform, map_suspend]
      rfl
  | followUp depth message =>
      simp only [Job.map, perform]
      rw [state_map]
      cases session.state with
      | none => exact (map_proceed session worker []).symm
      | some state =>
          simp only [Option.map_some, apply_ite (Session.map f g), map_follow, map_proceed,
            map_absorb, mirrors.followUp_map]
          rfl
  | shutdown =>
      simp only [Job.map, perform, map_proceed, map_setQueue, ← map_cancel]
      rfl
  | lock purpose =>
      simp only [Job.map, perform, apply_ite (Session.map f g), map_enter, map_suspend]
      rfl
  | run =>
      simp only [Job.map, perform, apply_ite (Session.map f g), map_fail, map_proceed]
      rfl
  | read =>
      have listens := receive_map (f := f) (g := g) session worker none
      simp only [Job.map, perform, apply_ite (Session.map f g), map_proceed,
        ← Option.getD_map (Session.map f g), ← listens, map_suspend]
      rfl
  | heartbeat =>
      simp only [Job.map, perform, map_proceed, apply_ite (List.map (Job.map g))]
      rfl
  | beat due =>
      simp only [Job.map, perform, apply_ite (Session.map f g), map_proceed, map_suspend]
      rfl
  | write =>
      simp only [Job.map, perform, apply_ite (Session.map f g), map_proceed]
      rw [map_pop session worker _ (fun waiting => waiting.suspend (worker.map g) .frame)
        fun waiting => map_suspend waiting worker .frame]
      rfl
  | join limit =>
      simp only [Job.map, perform, map_suspend]
      rfl
  | report =>
      simp only [Job.map, perform, map_proceed, map_note]
      rfl

theorem resume_map (session : Session Flags State Msg) (worker : Worker Msg) (late : Bool)
    (wait : Wait Msg) :
    (session.map f g).resume (worker.map g) late (wait.map g) =
      (session.resume worker late wait).map (Session.map f g) := by
  cases wait with
  | nothing => rfl
  | room frame deadline =>
      simp only [Wait.map, resume, apply_ite (Option.map (Session.map f g)), Option.map_some,
        Option.map_none, map_push, map_pushLate]
      rfl
  | lock purpose =>
      simp only [Wait.map, resume, apply_ite (Option.map (Session.map f g)), Option.map_some,
        Option.map_none, map_enter]
      rfl
  | frame =>
      simp only [Wait.map, resume, apply_ite (Option.map (Session.map f g)), Option.map_some,
        Option.map_none, map_proceed, map_setQueue]
      rw [map_pop _ worker id id fun waiting => rfl]
      rfl
  | delivery frame =>
      simp only [Wait.map, resume, apply_ite (Option.map (Session.map f g)), Option.map_some,
        Option.map_none, map_proceed, map_release, map_abandon, map_deliver]
      rfl
  | inbound deadline =>
      simp only [Wait.map, resume, apply_ite (Option.map (Session.map f g)), Option.map_some,
        map_proceed, ← receive_map, Option.map_none]
      rfl
  | beat due =>
      simp only [Wait.map, resume, apply_ite (Option.map (Session.map f g)), Option.map_some,
        Option.map_none, map_proceed]
      rfl
  | time due job =>
      simp only [Wait.map, resume, apply_ite (Option.map (Session.map f g)), Option.map_some,
        Option.map_none, map_proceed]
      rfl
  | others ids deadline =>
      simp only [Wait.map, resume, isAlive_map]
      cases ids.dropWhile fun id => !session.isAlive id with
      | nil => simp only [Option.map_some, map_proceed]; rfl
      | cons first rest =>
          simp only [apply_ite (Option.map (Session.map f g)), Option.map_some, Option.map_none,
            map_proceed, map_setWorker]
          rfl

/-! ## Runs -/

theorem advance_map (mirrors : model.Mirrors image f g) (session : Session Flags State Msg)
    (late : Bool) (id : TaskId) :
    (session.map f g).advance image late id =
      (session.advance model late id).map (Session.map f g) := by
  have found_map := worker?_map (f := f) (g := g) session id
  cases found : session.worker? id with
  | none => simp [advance, found_map, found]
  | some worker =>
      rw [found, Option.map_some] at found_map
      by_cases free : worker.wait = .nothing
      · have free_map : (worker.map g).wait = .nothing := by simp [Worker.map, free, Wait.map]
        cases doing : worker.jobs with
        | nil =>
            have done_map : (worker.map g).jobs = [] := by simp [Worker.map, doing]
            simp [advance, found_map, found, free, free_map, doing, done_map, map_retire]
        | cons job rest =>
            have doing_map : (worker.map g).jobs = job.map g :: rest.map (Job.map g) := by
              simp [Worker.map, doing]
            simp only [advance, found_map, found, free, free_map, doing, doing_map,
              Option.bind_eq_bind, Option.bind_some, Option.map_some]
            exact congrArg some (perform_map mirrors session
              { worker with wait := .nothing, jobs := rest } job)
      · have busy_map : (worker.map g).wait ≠ .nothing := by
          cases waits : worker.wait <;> simp_all [Worker.map, Wait.map]
        rw [advance_of_busy found_map busy_map, advance_of_busy found free]
        exact resume_map session worker late worker.wait

theorem map_elapse (session : Session Flags State Msg) (time : Nat) :
    (session.elapse time).map f g = (session.map f g).elapse time := by
  unfold elapse
  rw [map_wake, waiters_map session fun wait => by rw [deadline?_map]]
  rfl

theorem map_jobs (request : Request) : request.jobs.map (Job.map g) = request.jobs := by
  cases request <;> simp [Request.jobs, Job.map]

theorem map_changeLink (session : Session Flags State Msg) (link : Link) {waits : Wait Msg → Bool}
    {waits' : Wait Msg' → Bool} (same : ∀ wait, waits' (wait.map g) = waits wait) :
    (session.changeLink link waits).map f g = (session.map f g).changeLink link waits' := by
  unfold changeLink
  rw [map_wake, waiters_map session same]
  rfl

theorem isReading_map (wait : Wait Msg) : (wait.map g).isReading = wait.isReading := by
  cases wait <;> rfl

theorem isWriting_map (wait : Wait Msg) : (wait.map g).isWriting = wait.isWriting := by
  cases wait <;> rfl

/-- What the client does to a session, it can do to one that is seen through a map. -/
theorem ClientMove.lift {seen : Session Flags State' Msg'}
    (move : ClientMove (session.map f g) seen) :
    ∃ later, ClientMove session later ∧ later.map f g = seen := by
  cases move with
  | arrive content => exact ⟨_, .arrive session content, map_changeLink _ _ isReading_map⟩
  | hangUp => exact ⟨_, .hangUp session, map_changeLink _ _ isReading_map⟩
  | pause => exact ⟨_, .pause session, map_changeLink _ _ fun _ => rfl⟩
  | unpause => exact ⟨_, .unpause session, map_changeLink _ _ isWriting_map⟩
  | breakWrites => exact ⟨_, .breakWrites session, map_changeLink _ _ fun _ => rfl⟩
  | leave =>
      refine ⟨_, .leave session, ?_⟩
      unfold Session.leave
      rw [map_wake, map_changeLink _ _ isReading_map, waiters_map session isWriting_map]
      rfl

/-- What happens to a session that is seen through a map happens to the session itself. -/
theorem Step.lift (mirrors : model.Mirrors image f g) {seen : Session Flags State' Msg'}
    (step : Step image (session.map f g) seen) :
    ∃ later, Step model session later ∧ later.map f g = seen := by
  cases step with
  | advance late id advanced =>
      rw [advance_map mirrors] at advanced
      obtain ⟨later, advanced, same⟩ := Option.map_eq_some_iff.mp advanced
      exact ⟨later, .advance late id advanced, same⟩
  | elapse time forward => exact ⟨_, .elapse session time forward, map_elapse session time⟩
  | ask request =>
      refine ⟨_, .ask session request, ?_⟩
      unfold Session.ask
      rw [map_spawn, map_jobs]
  | client move =>
      obtain ⟨later, move, same⟩ := move.lift
      exact ⟨later, .client move, same⟩
  | cancel => exact ⟨_, .cancel session, map_cancel session⟩

/-- Every session of a program is the image of one of a program that does the same. -/
theorem Reach.lift (mirrors : model.Mirrors image f g) {flags : Flags} {options : SessionOptions}
    {seen : Session Flags State' Msg'} (reach : Reach image flags options seen) :
    ∃ session, Reach model flags options session ∧ session.map f g = seen := by
  induction reach with
  | idle => exact ⟨_, .idle, rfl⟩
  | step before step ih =>
      obtain ⟨session, reach, rfl⟩ := ih
      obtain ⟨later, step, same⟩ := step.lift mirrors
      exact ⟨later, .step reach step, same⟩

end Session

end Showcase
