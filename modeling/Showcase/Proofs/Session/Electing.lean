import Showcase.Proofs.Session.Asking
import Showcase.Proofs.Session.Preparing
import Showcase.Proofs.Session.Refusing

/-!
# One call starts the session

Many may call to start a session, and in any order their workers come to look whether it was
started. The first one to look starts it and succeeds, and all the others are refused.
-/

namespace Showcase.Session

variable {Flags State Msg : Type} {model : Model Flags State Msg} {flags : Flags}
  {options : SessionOptions} {session later base : Session Flags State Msg} {late : Bool}
  {worker next : Worker Msg} {jobs : List (List (Job Msg))} {before after : List (Worker Msg)}
  {rest : List (Job Msg)} {id : TaskId}
  {asked : List (TaskId × Request)}

/-! ## One start -/

def Request.starts : Request → Bool
  | start _ | serve _ => true
  | _ => false

/-- The call to start has yet to look whether the session was started, or was refused. -/
inductive Unbegun (id : TaskId) (session : Session Flags State Msg) : Prop where
  | waits {worker : Worker Msg} {connection : Nat} {rest : List (Job Msg)}
      (member : worker ∈ session.workers) (same : worker.id = id)
      (doing : Doing worker (.start connection) rest)
  | refused (refused : Refused .alreadyStarted id session)

theorem Move.unbegun (reach : Reach model flags options session) (unbegun : Unbegun id session)
    (move : Move model session later) :
    Unbegun id later ∨ session.started = false ∧ later.started = true := by
  have identified := reach.identified
  cases unbegun with
  | refused refused => exact .inl (.refused (move.refused identified refused))
  | @waits other connection rest member same doing =>
      have known : id < session.nextId := same ▸ identified.below other member
      cases move with
      | @turns late worker next base jobs before after advanced turns =>
          by_cases own : worker.id = id
          · obtain rfl : other = worker :=
              identified.eq_of_id member turns.worker_mem (same.trans own.symm)
            rw [advance_doing identified member doing] at advanced
            obtain rfl := Option.some.inj advanced
            simp only [perform]
            split
            · exact .inl (.refused (same ▸ refused_failing reach member doing .alreadyStarted))
            · rename_i fresh
              exact .inr ⟨Bool.of_not_eq_true fresh, rfl⟩
          · obtain ⟨-, stays, -⟩ := turns.same_of_ne own known
            exact .inl (.waits (stays other member same) same doing)
      | @retires late worker before after advanced free done workers_eq later_eq =>
          rw [later_eq]
          rcases eq_or_mem_around (workers_eq ▸ member) with rfl | old
          · cases doing.jobs_eq.symm.trans done
          · exact .inl (.waits old same doing)
      | asked request later_eq =>
          rw [later_eq]
          exact .inl (.waits (List.mem_append_left _ member) same doing)
      | elapses time forward later_eq => rw [later_eq]; exact .inl (.waits member same doing)
      | client link move later_eq => rw [later_eq]; exact .inl (.waits member same doing)
      | cancels live later_eq => rw [later_eq]; exact .inl (.waits member same doing)
      | nothing ended later_eq => rw [later_eq]; exact .inl (.waits member same doing)

/-- One call at most begins to start the program in a step. -/
theorem Move.elects (reach : Reach model flags options session) (move : Move model session later) :
    ∃ first, ∀ id, id ≠ first → Unbegun id session → Unbegun id later := by
  by_cases begins : session.started = false ∧ later.started = true
  · cases move with
    | @turns late worker next base jobs before after advanced turns =>
        refine ⟨worker.id, fun id other unbegun => ?_⟩
        cases unbegun with
        | refused refused =>
            exact .refused ((Move.turns advanced turns).refused reach.identified refused)
        | waits member same doing =>
            have known := same ▸ reach.identified.below _ member
            obtain ⟨-, stays, -⟩ := turns.same_of_ne other.symm known
            exact .waits (stays _ member same) same doing
    | retires _ _ _ _ later_eq | asked _ later_eq | elapses _ _ later_eq | client _ _ later_eq
    | cancels _ later_eq | nothing _ later_eq =>
        have same : later.started = session.started := by rw [later_eq]
        rw [same, begins.1] at begins
        cases begins.2
  · exact ⟨0, fun id _ unbegun => (move.unbegun reach unbegun).resolve_right begins⟩

/-- No call has begun before the program is started, and only one ever since. -/
structure Elected (asked : List (TaskId × Request)) (session : Session Flags State Msg) : Prop where
  all : session.started = false → ∀ call ∈ asked, call.2.starts = true → Unbegun call.1 session
  one : ∃ first, ∀ call ∈ asked, call.2.starts = true → call.1 ≠ first → Unbegun call.1 session

theorem Move.elected (reach : Reach model flags options session) (elected : Elected asked session)
    (move : Move model session later) : Elected asked later := by
  constructor
  · intro fresh call member starts
    have idle : session.started = false :=
      Bool.of_not_eq_true fun started => by simp [move.started started] at fresh
    refine (move.unbegun reach (elected.all idle call member starts)).resolve_right ?_
    rintro ⟨-, started⟩
    rw [fresh] at started
    cases started
  · cases started : session.started with
    | false =>
        obtain ⟨first, others⟩ := move.elects reach
        exact ⟨first, fun call member starts differs =>
          others call.1 differs (elected.all started call member starts)⟩
    | true =>
        obtain ⟨first, others⟩ := elected.one
        refine ⟨first, fun call member starts differs => ?_⟩
        refine (move.unbegun reach (others call member starts differs)).resolve_right ?_
        rintro ⟨idle, -⟩
        rw [started] at idle
        cases idle

theorem Asks.elected (asks : Asks model (idle flags options) asked session) :
    Elected asked session := by
  induction asks with
  | start => exact ⟨fun _ => List.forall_mem_nil _, 0, List.forall_mem_nil _⟩
  | @ask asked session before request ih =>
      have reach := before.reach Reach.idle
      have elected := ((Step.ask session request).move reach.identified).elected reach ih
      have fresh (starts : request.starts = true) : Unbegun session.nextId (session.ask request) := by
        have member : { id := session.nextId, jobs := request.jobs } ∈
            (session.ask request).workers := List.mem_append_right _ List.mem_cons_self
        cases request with
        | start connection => exact .waits member rfl ⟨rfl, rfl⟩
        | serve connection => exact .waits member rfl ⟨rfl, rfl⟩
        | _ => cases starts
      constructor
      · intro idle call member starts
        rcases List.mem_append.mp member with old | new
        · exact elected.all idle call old starts
        · obtain rfl := List.mem_singleton.mp new
          exact fresh starts
      · obtain ⟨first, others⟩ := elected.one
        refine ⟨first, fun call member starts differs => ?_⟩
        rcases List.mem_append.mp member with old | new
        · exact others call old starts differs
        · obtain rfl := List.mem_singleton.mp new
          exact fresh starts
  | step before unasked ih =>
      have reach := before.reach Reach.idle
      exact (unasked.step.move reach.identified).elected reach ih

/-! ## What a call to start comes to -/

/-- The worker starts the session and reports, and nothing else: its call has not failed, or was
refused. -/
structure Opens (worker : Worker Msg) : Prop where
  waits : worker.wait.prepares = true
  jobs : ∀ job ∈ worker.jobs, job.prepares = true ∨ job = .report
  verdict : worker.verdict = .success ∨ worker.verdict = .failure .alreadyStarted

theorem Opens.goesOn (opens : Opens worker) (new : List (Job Msg)) (suffix : rest <:+ worker.jobs)
    (ready : ∀ job ∈ new, job.prepares = true) {wait : Wait Msg} (waits : wait.prepares = true)
    (ticket : Nat) : Opens (worker.waitFor wait (new ++ rest) ticket) where
  waits := waits
  jobs job member := (List.mem_append.mp member).elim (fun fresh => .inl (ready job fresh))
    fun left => opens.jobs job (suffix.subset left)
  verdict := opens.verdict

theorem Doing.opens {job : Job Msg} (opens : Opens worker) (doing : Doing worker job rest) :
    job.prepares = true ∨ job = .report :=
  opens.jobs job (doing.jobs_eq ▸ List.mem_cons_self)

theorem Opens.not_doing {job : Job Msg} (opens : Opens worker) (doing : Doing worker job rest)
    (foreign : job.prepares = false) (silent : job ≠ .report) : False := by
  rcases doing.opens opens with ready | report
  · rw [foreign] at ready
    cases ready
  · exact silent report

theorem Opens.not_waiting {wait : Wait Msg} (opens : Opens worker) (waits : worker.wait = wait)
    (foreign : wait.prepares = false) : False := by
  have waiting := opens.waits
  rw [waits, foreign] at waiting
  cases waiting

theorem Opens.not_listening (opens : Opens worker) (listens : Listens session worker rest) :
    False := by
  cases listens with
  | begins doing => exact opens.not_doing doing rfl (by simp)
  | retries waits => exact opens.not_waiting waits rfl

theorem Turn.opens (opens : Opens worker)
    (turn : Turn model late session worker base jobs next) : Opens next := by
  have goesOn {rest : List (Job Msg)} (new : List (Job Msg)) (suffix : rest <:+ worker.jobs)
      (ready : ∀ job ∈ new, job.prepares = true) (next_eq : next = worker.goOn (new ++ rest)) :
      Opens next := next_eq ▸ opens.goesOn new suffix ready rfl worker.ticket
  cases turn with
  | passes passes => exact goesOn [] passes.suffix (by simp) rfl
  | startFails doing =>
      exact ⟨opens.waits, List.forall_mem_singleton.mpr (.inr rfl), .inr rfl⟩
  | starts doing => exact goesOn [_, _, _, _] doing.suffix (by simp [Job.prepares]) rfl
  | opensLoops doing | rendersLater doing | reports doing | drops doing =>
      exact goesOn [] doing.suffix (by simp) rfl
  | @applies pending quit rest doing =>
      refine goesOn (if quit then [.shutdown] else []) doing.suffix ?_ rfl
      cases quit <;> simp [Job.prepares]
  | shutsDown doing => exact goesOn [_] doing.suffix (by simp [Job.prepares]) rfl
  | @awaitsLock purpose rest doing busy ticket =>
      refine opens.goesOn [] doing.suffix (by simp) ?_ ticket
      rcases doing.opens opens with ready | report
      · cases purpose <;> first | rfl | cases ready
      · cases report
  | keeps holds | closesNothing holds | closes holds | skipsWrite holds =>
      exact goesOn [] holds.suffix (by simp) rfl
  | failsWrite holds | writes holds | awaitsDelivery holds =>
      cases holds with
      | acquires doing => exact (opens.not_doing doing rfl (by simp)).elim
      | granted waits => exact (opens.not_waiting waits rfl).elim
  | runFails doing | runs doing | input doing | resize doing | sleeps doing | followsUp doing
  | awaitsInbound doing | heartbeat doing | awaitsBeat doing | joins doing =>
      exact (opens.not_doing doing rfl (by simp)).elim
  | deliveryEnds waits | deliveryFails waits | delivers waits | pushesLate waits | frameEnds waits
  | rereads waits | beats waits | awakes waits | joinTimesOut waits | joinShrinks waits =>
      exact (opens.not_waiting waits rfl).elim
  | pushes brings | awaitsRoom brings =>
      cases brings with
      | draws doing => exact (opens.not_doing doing rfl (by simp)).elim
      | retries waits => exact (opens.not_waiting waits rfl).elim
  | takes seeks | findsClosed seeks | awaitsFrame seeks =>
      cases seeks with
      | begins doing => exact (opens.not_doing doing rfl (by simp)).elim
      | retries waits => exact (opens.not_waiting waits rfl).elim
  | receives listens | readFails listens => exact (opens.not_listening listens).elim

/-- A call to start comes to a good end or is refused. -/
structure Opening (id : TaskId) (session : Session Flags State Msg) : Prop where
  known : id < session.nextId
  stage : ∀ worker ∈ session.workers, worker.id = id → Opens worker
  told : ∀ verdict, .reported id verdict ∈ session.history →
    verdict = .success ∨ verdict = .failure .alreadyStarted

theorem Turns.opening (opening : Opening id session)
    (turns : Turns model late session worker later base jobs next before after) :
    Opening id later := by
  obtain ⟨known, stage, told⟩ := opening
  refine ⟨?_, ?_, ?_⟩
  · rw [turns.later_nextId]
    exact Nat.lt_add_right _ known
  · intro other present same
    rcases turns.mem_later.mp present with rfl | old | new
    · exact turns.turn.opens (stage _ turns.worker_mem (turns.turn.id_eq ▸ same))
    · exact stage other (turns.other_mem old) same
    · exact absurd (same ▸ known) (Nat.not_lt_of_le (id_of_mem_hired new).1)
  · intro verdict reported
    rw [turns.later_eq] at reported
    rcases turns.turn.quiet_or_reports with quiet | ⟨rest, doing, -, history_eq⟩
    · exact told verdict (quiet _ _ reported)
    · rw [history_eq] at reported
      rcases List.mem_cons.mp reported with now | old
      · cases now
        exact (stage _ turns.worker_mem rfl).verdict
      · exact told verdict old

theorem Opening.transfer (opening : Opening id session) (more : session.nextId ≤ later.nextId)
    (present : ∀ worker ∈ later.workers, worker.id = id → worker ∈ session.workers)
    (reported : ∀ verdict, .reported id verdict ∈ later.history →
      .reported id verdict ∈ session.history) : Opening id later where
  known := Nat.lt_of_lt_of_le opening.known more
  stage worker member same := opening.stage worker (present worker member same) same
  told verdict member := opening.told verdict (reported verdict member)

theorem Move.opening (opening : Opening id session) (move : Move model session later) :
    Opening id later := by
  have known := opening.known
  cases move with
  | turns advanced turns => exact turns.opening opening
  | @retires late worker before after advanced free done workers_eq later_eq =>
      rw [later_eq]
      exact opening.transfer (Nat.le_refl _)
        (fun _ present _ => workers_eq ▸ mem_around present worker) fun _ told => told
  | asked request later_eq =>
      rw [later_eq]
      refine opening.transfer (Nat.le_succ _) (fun other present same => ?_) fun _ told => told
      rcases List.mem_append.mp present with old | new
      · exact old
      · exact absurd (same ▸ known) (Nat.not_lt_of_le (id_of_mem_hired new).1)
  | elapses time forward later_eq | client link move later_eq =>
      rw [later_eq]
      exact opening.transfer (Nat.le_refl _) (fun _ present _ => present) fun _ told => told
  | cancels live later_eq =>
      rw [later_eq]
      exact opening.transfer (Nat.le_refl _) (fun _ present _ => present)
        fun _ told => by simpa using told
  | nothing ended later_eq => exact later_eq ▸ opening

theorem Asks.opening (asks : Asks model (idle flags options) asked session) {connection : Nat}
    (member : (id, .start connection) ∈ asked) : Opening id session := by
  induction asks with
  | start => cases member
  | @ask asked session before request ih =>
      have reach := before.reach Reach.idle
      rcases List.mem_append.mp member with old | new
      · have move : Move model session (session.ask request) :=
          (Step.ask session request).move reach.identified
        exact move.opening (ih old)
      · cases List.mem_singleton.mp new
        refine ⟨Nat.lt_succ_self _, fun worker present same => ?_, fun verdict told =>
          absurd (reach.reported_lt told) (Nat.lt_irrefl _)⟩
        rcases List.mem_append.mp present with old | new
        · exact absurd same (Nat.ne_of_lt (reach.identified.below worker old))
        · obtain rfl := List.mem_singleton.mp new
          exact ⟨rfl, by simp [Request.jobs, Job.prepares], .inl rfl⟩
  | step before unasked ih =>
      have reach := before.reach Reach.idle
      exact (unasked.step.move reach.identified).opening (ih member)

end Showcase.Session
