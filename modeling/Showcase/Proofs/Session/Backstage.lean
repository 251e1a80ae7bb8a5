import Showcase.Proofs.Session.Effects

/-!
# Workers that leave the program alone

What is given to the program comes from the worker of a call. The others draw and write what has
come of it, and so does that worker after its first turn: none of them gives the program anything,
and they end the session only for a reason.
-/

namespace Showcase

variable {Flags State Msg : Type}

/-! ## Workers that leave the program alone -/

/-- Whether the job gives something to the program. -/
def Job.performs : Job Msg → Bool
  | start _ | input _ | resize _ | followUp _ _ => true
  | _ => false

/-- Whether the job is one of those that come after what was given to the program: drawings, the
loops, and the end of the session. -/
def Job.isBackstage : Job Msg → Bool
  | openLoops | render | renderLater _ | after _ render | shutdown | lock _ | heartbeat | beat _
  | write | report => true
  | apply pending _ => pending.isEmpty
  | start _ | input _ | resize _ | followUp _ _ | run | read | join _ | after _ _ => false

/-- Whether the job comes to end the session. -/
def Job.stops : Job Msg → Bool
  | shutdown => true
  | apply _ quit => quit
  | _ => false

theorem Job.eq_render_of_isBackstage {delay : Nat} {job : Job Msg}
    (backstage : (after delay job).isBackstage = true) : job = .render := by
  cases job <;> first | rfl | cases backstage

theorem Job.performs_of_isBackstage {job : Job Msg} (backstage : job.isBackstage = true) :
    job.performs = false := by
  cases job <;> first | rfl | cases backstage

/-- The worker gives nothing to the program, and comes to end the session for an excuse only. -/
structure Worker.IsBackstage (excuse : Prop) (worker : Worker Msg) : Prop where
  waits : worker.wait.isReading = false
  jobs : ∀ job ∈ worker.agenda, job.isBackstage = true ∧ (job.stops = true → excuse)

theorem Worker.IsBackstage.mono {excuse better : Prop} {worker : Worker Msg}
    (backstage : worker.IsBackstage excuse) (implies : excuse → better) :
    worker.IsBackstage better :=
  ⟨backstage.waits, fun job member => (backstage.jobs job member).imp_right (implies ∘ ·)⟩

section

variable {excuse : Prop} {worker next : Worker Msg} {rest : List (Job Msg)}

theorem Worker.IsBackstage.goesOn (backstage : worker.IsBackstage excuse) (new : List (Job Msg))
    (ready : ∀ job ∈ new, job.isBackstage = true ∧ (job.stops = true → excuse))
    (suffix : rest <:+ worker.jobs) (waits : next.wait.isReading = false)
    (agenda_eq : next.agenda = new ++ rest) : next.IsBackstage excuse := by
  refine ⟨waits, fun job member => ?_⟩
  rw [agenda_eq] at member
  rcases List.mem_append.mp member with fresh | left
  · exact ready job fresh
  · exact backstage.jobs job (List.mem_append_right _ (suffix.subset left))

theorem Worker.IsBackstage.not_waiting {wait : Wait Msg} (backstage : worker.IsBackstage excuse)
    (waits : worker.wait = wait) (reading : wait.isReading = true) : False := by
  have waiting := backstage.waits
  rw [waits, reading] at waiting
  cases waiting

end

namespace Session

variable {model : Model Flags State Msg} {flags : Flags} {options : SessionOptions}
  {session later base : Session Flags State Msg} {late : Bool} {worker next : Worker Msg}
  {jobs : List (List (Job Msg))} {before after : List (Worker Msg)} {rest : List (Job Msg)}
  {id : TaskId} {excuse : Prop}

theorem Doing.backstage {job : Job Msg} (backstage : worker.IsBackstage excuse)
    (doing : Doing worker job rest) :
    job.isBackstage = true ∧ (job.stops = true → excuse) :=
  backstage.jobs job (doing.agenda_eq ▸ List.mem_cons_self)

theorem Doing.not_backstage {job : Job Msg} (backstage : worker.IsBackstage excuse)
    (doing : Doing worker job rest) (foreign : job.isBackstage = false) : False := by
  have known := (doing.backstage backstage).1
  rw [foreign] at known
  cases known

theorem Listens.not_backstage (backstage : worker.IsBackstage excuse)
    (listens : Listens session worker rest) : False := by
  cases listens with
  | begins doing => exact doing.not_backstage backstage rfl
  | retries waits => exact backstage.not_waiting waits rfl

/-- A turn of a worker gives something to the program, or leaves it alone. -/
theorem Turn.performs_or_same (turn : Turn model late session worker base jobs next) :
    (∃ job rest, Doing worker job rest ∧ job.performs = true) ∨
      base.state = session.state ∧ base.started = session.started ∧
        base.effects = session.effects := by
  cases turn with
  | starts doing | input doing | resize doing | followsUp doing | drops doing =>
      exact .inl ⟨_, _, doing, rfl⟩
  | shutsDown doing => exact .inr ⟨by rw [cancel_eq], by rw [cancel_eq], effects_cancel session⟩
  | keeps holds | closesNothing holds | skipsWrite holds =>
      cases holds <;> exact .inr ⟨rfl, rfl, rfl⟩
  | closes holds | awaitsDelivery holds =>
      cases holds <;> exact .inr ⟨rfl, rfl, effects_quiet [_] rfl rfl⟩
  | failsWrite holds | writes holds =>
      cases holds <;> exact .inr ⟨rfl, rfl, effects_quiet [_, _] rfl rfl⟩
  | deliveryFails | delivers | pushesLate | reports | receives =>
      exact .inr ⟨rfl, rfl, effects_quiet [_] rfl rfl⟩
  | pushes brings =>
      cases brings with
      | draws => exact .inr ⟨rfl, rfl, effects_quiet [_, _] rfl rfl⟩
      | retries => exact .inr ⟨rfl, rfl, effects_quiet [_] rfl rfl⟩
  | awaitsRoom brings =>
      cases brings with
      | draws => exact .inr ⟨rfl, rfl, effects_quiet [_] rfl rfl⟩
      | retries => exact .inr ⟨rfl, rfl, rfl⟩
  | takes seeks => cases seeks <;> exact .inr ⟨rfl, rfl, effects_quiet [_] rfl rfl⟩
  | findsClosed seeks | awaitsFrame seeks => cases seeks <;> exact .inr ⟨rfl, rfl, rfl⟩
  | _ => exact .inr ⟨rfl, rfl, rfl⟩

/-- The session goes on, or the worker shuts it down. -/
theorem Turn.same_or_shutdown (turn : Turn model late session worker base jobs next) :
    base.cancelled = session.cancelled ∨ ∃ rest, Doing worker .shutdown rest := by
  cases turn with
  | shutsDown doing => exact .inr ⟨_, doing⟩
  | keeps holds | closesNothing holds | closes holds | skipsWrite holds | failsWrite holds
  | writes holds | awaitsDelivery holds => cases holds <;> exact .inl rfl
  | pushes brings | awaitsRoom brings => cases brings <;> exact .inl rfl
  | takes seeks | findsClosed seeks | awaitsFrame seeks => cases seeks <;> exact .inl rfl
  | _ => exact .inl rfl

/-- A worker that leaves the program alone hires others that do. -/
theorem Turn.hires_backstage (backstage : worker.IsBackstage excuse)
    (turn : Turn model late session worker base jobs next) :
    ∀ list ∈ jobs, ∀ job ∈ list, job.isBackstage = true ∧ job.stops = false := by
  cases turn with
  | opensLoops doing | rendersLater doing => simp [Job.isBackstage, Job.stops]
  | applies doing =>
      obtain rfl := List.isEmpty_iff.mp (doing.backstage backstage).1
      exact List.forall_mem_nil _
  | receives listens => exact (listens.not_backstage backstage).elim
  | _ => exact List.forall_mem_nil _

/-- A worker that leaves the program alone goes on like that. -/
theorem Turn.backstage (backstage : worker.IsBackstage excuse)
    (turn : Turn model late session worker base jobs next)
    (fails : ∀ frame, .failed frame ∈ base.history → excuse) : next.IsBackstage excuse := by
  have goesOn {rest : List (Job Msg)} (new : List (Job Msg)) (suffix : rest <:+ worker.jobs)
      (ready : ∀ job ∈ new, job.isBackstage = true ∧ (job.stops = true → excuse)) :
      (worker.goOn (new ++ rest)).IsBackstage excuse :=
    backstage.goesOn new ready suffix rfl rfl
  have awaits {wait : Wait Msg} {rest : List (Job Msg)} {ticket : Nat}
      (suffix : rest <:+ worker.jobs) (elsewhere : wait.isReading = false)
      (free : wait.job? = none) : (worker.waitFor wait rest ticket).IsBackstage excuse := by
    refine backstage.goesOn [] (List.forall_mem_nil _) suffix elsewhere ?_
    simp [Worker.agenda, Worker.waitFor, free]
  have whole := List.suffix_refl worker.jobs
  cases turn with
  | passes passes => exact goesOn [] passes.suffix (List.forall_mem_nil _)
  | startFails doing | starts doing | input doing | resize doing | followsUp doing | drops doing
  | awaitsInbound doing | runs doing | runFails doing | joins doing =>
      exact (doing.not_backstage backstage rfl).elim
  | receives listens | readFails listens => exact (listens.not_backstage backstage).elim
  | rereads waits => exact (backstage.not_waiting waits rfl).elim
  | @applies pending quit rest doing =>
      have excused := (doing.backstage backstage).2
      refine goesOn (if quit then [.shutdown] else []) doing.suffix ?_
      cases quit with
      | true => simpa [Job.isBackstage, Job.stops] using excused
      | false => simp
  | sleeps doing =>
      obtain rfl := Job.eq_render_of_isBackstage (doing.backstage backstage).1
      refine ⟨rfl, fun job member => ?_⟩
      rcases List.mem_cons.mp member with rfl | left
      · exact ⟨rfl, fun stops => by cases stops⟩
      · exact backstage.jobs job (doing.agenda_eq ▸ List.mem_cons_of_mem _ left)
  | shutsDown doing | heartbeat doing =>
      exact goesOn [_] doing.suffix (by simp [Job.isBackstage, Job.stops])
  | opensLoops doing | rendersLater doing | reports doing =>
      exact goesOn [] doing.suffix (List.forall_mem_nil _)
  | awaitsLock doing | awaitsBeat doing => exact awaits doing.suffix rfl rfl
  | keeps holds | closesNothing holds | closes holds | skipsWrite holds =>
      exact goesOn [] holds.suffix (List.forall_mem_nil _)
  | failsWrite holds =>
      have excused := fails _ List.mem_cons_self
      exact goesOn [_] holds.suffix (by simp [Job.isBackstage, excused])
  | writes holds => exact goesOn [_] holds.suffix (by simp [Job.isBackstage, Job.stops])
  | awaitsDelivery holds => exact awaits holds.suffix rfl rfl
  | deliveryEnds | frameEnds | pushesLate => exact goesOn [] whole (List.forall_mem_nil _)
  | deliveryFails =>
      have excused := fails _ List.mem_cons_self
      exact goesOn [_] whole (by simp [Job.isBackstage, excused])
  | delivers => exact goesOn [_] whole (by simp [Job.isBackstage, Job.stops])
  | beats => exact goesOn [_, _] whole (by simp [Job.isBackstage, Job.stops])
  | pushes brings => exact goesOn [] brings.suffix (List.forall_mem_nil _)
  | awaitsRoom brings => exact awaits brings.suffix rfl rfl
  | takes seeks => exact goesOn [_] seeks.suffix (by simp [Job.isBackstage, Job.stops])
  | findsClosed seeks => exact goesOn [] seeks.suffix (List.forall_mem_nil _)
  | awaitsFrame seeks => exact awaits seeks.suffix rfl rfl
  | awakes waits =>
      refine ⟨rfl, fun job member => backstage.jobs job ?_⟩
      rw [Worker.agenda, waits]
      exact member
  | joinTimesOut waits | joinShrinks waits =>
      exact ⟨rfl, fun job member => backstage.jobs job (List.mem_append_right _ member)⟩

section

variable {job : Job Msg}

theorem Doing.spares {first : Job Msg} (doing : Doing worker first rest)
    (member : job ∈ worker.jobs) : job ∈ rest ∨ ∃ rest, Doing worker job rest := by
  rw [doing.jobs_eq] at member
  rcases List.mem_cons.mp member with rfl | left
  · exact .inr ⟨rest, doing⟩
  · exact .inl left

theorem Holds.spares {purpose : Purpose} (holds : Holds session worker purpose rest base)
    (member : job ∈ worker.jobs) : job ∈ rest ∨ ∃ rest, Doing worker job rest := by
  cases holds with
  | acquires doing => exact doing.spares member
  | granted waits => exact .inl member

theorem Brings.spares {frame : Frame} {deadline : Nat}
    (brings : Brings model session worker frame deadline rest base)
    (member : job ∈ worker.jobs) : job ∈ rest ∨ ∃ rest, Doing worker job rest := by
  cases brings with
  | draws doing => exact doing.spares member
  | retries waits => exact .inl member

theorem Seeks.spares (seeks : Seeks session worker rest base) (member : job ∈ worker.jobs) :
    job ∈ rest ∨ ∃ rest, Doing worker job rest := by
  cases seeks with
  | begins doing => exact doing.spares member
  | retries waits => exact .inl member

theorem Listens.spares (listens : Listens session worker rest) (member : job ∈ worker.jobs) :
    job ∈ rest ∨ ∃ rest, Doing worker job rest := by
  cases listens with
  | begins doing => exact doing.spares member
  | retries waits => exact .inl member

theorem Passes.spares (passes : Passes model late session worker rest)
    (member : job ∈ worker.jobs) : job ∈ rest ∨ ∃ rest, Doing worker job rest := by
  cases passes with
  | input doing | resize doing | followUp doing | render doing | read doing | beat doing
  | write doing | heartbeat doing => exact doing.spares member
  | finished listens => exact listens.spares member
  | inboundEnds | beatEnds | timeEnds | joined => exact .inl member

/-- A job that a worker has stays with it until it is done, unless the call of the worker fails. -/
theorem Turn.spares (turn : Turn model late session worker base jobs next)
    (member : job ∈ worker.jobs) : job ∈ next.jobs ∨ (∃ rest, Doing worker job rest) ∨
      ∃ first rest, Doing worker first rest ∧ first.isBackstage = false := by
  have goesOn {rest : List (Job Msg)} (new : List (Job Msg)) (next_eq : next.jobs = new ++ rest)
      (either : job ∈ rest ∨ ∃ rest, Doing worker job rest) :
      job ∈ next.jobs ∨ (∃ rest, Doing worker job rest) ∨
        ∃ first rest, Doing worker first rest ∧ first.isBackstage = false :=
    either.imp (fun left => next_eq ▸ List.mem_append_right new left) .inl
  cases turn with
  | passes passes => exact goesOn [] rfl (passes.spares member)
  | startFails doing | runFails doing => exact .inr (.inr ⟨_, _, doing, rfl⟩)
  | starts doing => exact goesOn [_, _, _, _] rfl (doing.spares member)
  | input doing => exact goesOn [_, _, _] rfl (doing.spares member)
  | resize doing | followsUp doing | runs doing => exact goesOn [_, _] rfl (doing.spares member)
  | shutsDown doing | heartbeat doing => exact goesOn [_] rfl (doing.spares member)
  | @applies pending quit rest doing =>
      exact goesOn (if quit then [.shutdown] else []) rfl (doing.spares member)
  | drops doing | opensLoops doing | rendersLater doing | reports doing | sleeps doing
  | awaitsLock doing | awaitsInbound doing | awaitsBeat doing | joins doing =>
      exact goesOn [] rfl (doing.spares member)
  | keeps holds | closesNothing holds | closes holds | skipsWrite holds | awaitsDelivery holds =>
      exact goesOn [] rfl (holds.spares member)
  | failsWrite holds | writes holds => exact goesOn [_] rfl (holds.spares member)
  | pushes brings | awaitsRoom brings => exact goesOn [] rfl (brings.spares member)
  | takes seeks => exact goesOn [_] rfl (seeks.spares member)
  | findsClosed seeks | awaitsFrame seeks => exact goesOn [] rfl (seeks.spares member)
  | receives listens => exact goesOn [_, _] rfl (listens.spares member)
  | readFails listens => exact goesOn [] rfl (listens.spares member)
  | deliveryEnds | frameEnds | pushesLate | joinTimesOut | joinShrinks => exact .inl member
  | deliveryFails | delivers | rereads | awakes => exact goesOn [_] rfl (.inl member)
  | beats => exact goesOn [_, _] rfl (.inl member)

end

end Session

end Showcase
