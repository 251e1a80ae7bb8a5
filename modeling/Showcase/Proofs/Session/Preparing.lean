import Showcase.Proofs.Session.Replaying

/-!
# Before a worker receives

What a worker received from the client and what it gave to the program are its dealings. A worker
that is to run the session may start it first, and deals with nothing until then.
-/

namespace Showcase

variable {Flags State Msg : Type}

/-- Whether the job is one that a worker does before it receives frames. -/
def Job.prepares : Job Msg → Bool
  | start _ | openLoops | apply _ _ | renderLater _ | shutdown => true
  | lock (.keep _) | lock .close => true
  | _ => false

/-- Whether the worker may wait like this before it receives frames. -/
def Wait.prepares : Wait Msg → Bool
  | nothing | lock (.keep _) | lock .close => true
  | _ => false

/-- Whether the job runs the session, at once or later. -/
def Job.runs : Job Msg → Bool
  | run => true
  | after _ job => job.runs
  | _ => false

theorem Job.runs_of_isRoutine {job : Job Msg} (routine : job.isRoutine = true) :
    job.runs = false := by
  cases job <;> first | rfl | cases routine

namespace Session

variable {model : Model Flags State Msg} {flags : Flags} {options : SessionOptions}
  {session later base : Session Flags State Msg} {late : Bool} {worker next : Worker Msg}
  {jobs : List (List (Job Msg))} {before after : List (Worker Msg)} {rest tail : List (Job Msg)}
  {id : TaskId}

/-! ## Who receives and who gives -/

/-- The frames that a worker received, and what it gave to the program. -/
def dealings (id : TaskId) (session : Session Flags State Msg) : List Inbound × List (Job Msg) :=
  (heardBy id session.tale, givenBy id session.tale)

theorem dealings_of_tale_eq (tale_eq : later.tale = session.tale) :
    later.dealings id = session.dealings id := by
  rw [dealings, tale_eq]
  rfl

theorem dealings_of_silent {added : List (Event State Msg)}
    (tale_eq : later.tale = session.tale ++ added) (heard : heardBy id added = [])
    (given : givenBy id added = []) : later.dealings id = session.dealings id := by
  rw [dealings, tale_eq, heardBy_append, givenBy_append, heard, given, List.append_nil,
    List.append_nil]
  rfl

/-- Only the worker whose turn it is receives or gives something. -/
theorem Tells.dealings_eq (tells : Tells model session worker base) (different : worker.id ≠ id) :
    base.dealings id = session.dealings id := by
  cases tells with
  | nothing tale_eq | fails live tale_eq => exact dealings_of_tale_eq tale_eq
  | receives live tale_eq => exact dealings_of_silent tale_eq (by simp [heardBy, different]) rfl
  | begins tale_eq =>
      obtain ⟨-, heard, given⟩ := story_silent id (model.begin session.flags session.geometry)
      exact dealings_of_silent tale_eq heard given
  | @input key state shown tale_eq =>
      obtain ⟨-, heard, given⟩ := story_silent id (model.dispatch state 0 (model.ofKey key))
      refine dealings_of_silent tale_eq heard ?_
      rw [← List.singleton_append, givenBy_append, given]
      simp [givenBy, different]
  | @resize geometry state shown tale_eq =>
      obtain ⟨-, heard, given⟩ := story_silent id (model.adapt state geometry)
      refine dealings_of_silent tale_eq heard ?_
      rw [← List.singleton_append, givenBy_append, given]
      simp [givenBy, different]
  | follows shown tale_eq =>
      obtain ⟨-, heard, given⟩ := story_silent id (model.followUp _ _ _)
      exact dealings_of_silent tale_eq heard given
  | cancels live tale_eq => exact dealings_of_silent tale_eq rfl rfl

/-- The dealings of a worker are those of a worker that exists. -/
theorem Reach.dealings_eq_nil (reach : Reach model flags options session)
    (unknown : session.nextId ≤ id) : session.dealings id = ([], []) := by
  induction reach with
  | idle => rfl
  | step before step ih =>
      have identified := before.identified
      cases step.move identified with
      | turns advanced turns =>
          rw [turns.later_nextId] at unknown
          have known := Nat.le_of_add_right_le unknown
          have below := Nat.lt_of_lt_of_le (identified.below _ turns.worker_mem) known
          rw [turns.tells.dealings_eq (Nat.ne_of_lt below), ih known]
      | retires advanced free done workers_eq later_eq =>
          rw [later_eq] at unknown ⊢
          exact ih unknown
      | asked request later_eq =>
          rw [later_eq] at unknown ⊢
          exact ih (Nat.le_of_succ_le unknown)
      | elapses time forward later_eq => rw [later_eq] at unknown ⊢; exact ih unknown
      | client link move later_eq => rw [later_eq] at unknown ⊢; exact ih unknown
      | cancels live later_eq =>
          rw [later_eq] at unknown ⊢
          rw [← ih unknown]
          exact dealings_of_silent (tale_note _ [.cancelled]) rfl rfl
      | nothing ended later_eq => rw [later_eq] at unknown ⊢; exact ih unknown

theorem dealings_cancel (session : Session Flags State Msg) :
    session.cancel.dealings id = session.dealings id := by
  unfold cancel
  split
  · rfl
  · exact dealings_of_silent (tale_note session [.cancelled]) rfl rfl

/-! ## Before a worker receives -/

/-- The jobs are to prepare, to run the session, and something else after that. -/
def Prepared (jobs tail : List (Job Msg)) : Prop :=
  ∃ first, jobs = first ++ .run :: tail ∧ ∀ job ∈ first, job.prepares = true

/-- The worker has yet to run the session. -/
structure Prepares (worker : Worker Msg) (tail : List (Job Msg)) : Prop where
  prepared : Prepared worker.jobs tail
  waits : worker.wait.prepares = true
  verdict_eq : worker.verdict = .success
  tail_eq : tail = [.report] ∨ tail = [.join none, .report]

theorem Prepares.doing {job : Job Msg} (prepares : Prepares worker tail)
    (doing : Doing worker job rest) :
    (job.prepares = true ∧ Prepared rest tail) ∨ (job = .run ∧ rest = tail) := by
  obtain ⟨first, jobs_eq, all⟩ := prepares.prepared
  rw [doing.jobs_eq] at jobs_eq
  cases first with
  | nil => exact .inr (List.cons_eq_cons.mp jobs_eq)
  | cons head first =>
      obtain ⟨rfl, rest_eq⟩ := List.cons_eq_cons.mp jobs_eq
      exact .inl ⟨all job List.mem_cons_self, first, rest_eq,
        fun other member => all other (List.mem_cons_of_mem _ member)⟩

theorem Prepares.left {job : Job Msg} (prepares : Prepares worker tail)
    (doing : Doing worker job rest) (other : job ≠ .run) : Prepared rest tail := by
  rcases prepares.doing doing with ⟨-, prepared⟩ | ⟨runs, -⟩
  · exact prepared
  · exact absurd runs other

theorem Prepares.not_doing {job : Job Msg} (prepares : Prepares worker tail)
    (doing : Doing worker job rest) (foreign : job.prepares = false) : job = .run := by
  rcases prepares.doing doing with ⟨prepared, -⟩ | ⟨runs, -⟩
  · rw [foreign] at prepared
    cases prepared
  · exact runs

theorem Prepares.held {purpose : Purpose} (prepares : Prepares worker tail)
    (holds : Holds session worker purpose rest base) :
    (Job.lock purpose : Job Msg).prepares = true ∧ Prepared rest tail := by
  cases holds with
  | acquires doing =>
      rcases prepares.doing doing with prepared | ⟨runs, -⟩
      · exact prepared
      · cases runs
  | granted waits =>
      refine ⟨?_, prepares.prepared⟩
      have waiting := prepares.waits
      rw [waits] at waiting
      cases purpose <;> first | rfl | cases waiting

/-- The worker goes on to prepare, with some new jobs before the others. -/
theorem Prepares.goesOn (prepares : Prepares worker tail) (prepared : Prepared rest tail)
    (new : List (Job Msg)) (ready : ∀ job ∈ new, job.prepares = true) {wait : Wait Msg}
    (waits : wait.prepares = true) (ticket : Nat) :
    Prepares (worker.waitFor wait (new ++ rest) ticket) tail := by
  obtain ⟨first, rfl, all⟩ := prepared
  refine ⟨⟨new ++ first, by simp [Worker.waitFor], ?_⟩, waits, prepares.verdict_eq,
    prepares.tail_eq⟩
  intro other member
  exact (List.mem_append.mp member).elim (ready other) (all other)

theorem Prepares.not_waiting {wait : Wait Msg} (prepares : Prepares worker tail)
    (waits : worker.wait = wait) (foreign : wait.prepares = false) : False := by
  have waiting := prepares.waits
  rw [waits, foreign] at waiting
  cases waiting

theorem Prepares.not_passes (prepares : Prepares worker tail)
    (passes : Passes model late session worker rest) : False := by
  cases passes with
  | input doing | resize doing | followUp doing | render doing | read doing | beat doing
  | write doing | heartbeat doing => cases prepares.not_doing doing rfl
  | finished listens =>
      cases listens with
      | begins doing => cases prepares.not_doing doing rfl
      | retries waits => exact prepares.not_waiting waits rfl
  | inboundEnds waits | beatEnds waits | timeEnds waits | joined waits =>
      exact prepares.not_waiting waits rfl

/-- A turn of a worker that has yet to run the session receives and gives nothing. -/
theorem Turn.prepares (prepares : Prepares worker tail)
    (turn : Turn model late session worker base jobs next) :
    base.dealings worker.id = session.dealings worker.id ∧
      (Prepares next tail ∨ next.agenda.any Job.runs = false) := by
  have stays {rest : List (Job Msg)} (same : base.dealings worker.id = session.dealings worker.id)
      (prepared : Prepared rest tail) (new : List (Job Msg))
      (ready : ∀ job ∈ new, job.prepares = true) (next_eq : next = worker.goOn (new ++ rest)) :
      base.dealings worker.id = session.dealings worker.id ∧
        (Prepares next tail ∨ next.agenda.any Job.runs = false) :=
    ⟨same, .inl (next_eq ▸ prepares.goesOn prepared new ready rfl worker.ticket)⟩
  cases turn with
  | passes passes => exact (prepares.not_passes passes).elim
  | startFails doing | runFails doing =>
      refine ⟨rfl, .inr ?_⟩
      simp [Worker.agenda, Worker.failing, doing.free, Wait.job?, Job.runs]
  | @starts connection rest outcome doing =>
      obtain ⟨-, heard, given⟩ := story_silent worker.id outcome
      have tale_eq : (({ session with started := true }.note [.began session.geometry]).absorb
          outcome).tale = session.tale ++ .began session.geometry :: outcome.story := by
        rw [tale_absorb, tale_note, List.append_assoc]
        rfl
      exact stays (dealings_of_silent tale_eq heard given) (prepares.left doing (by simp))
        [_, _, _, _] (by simp [Job.prepares]) rfl
  | opensLoops doing | rendersLater doing =>
      exact stays rfl (prepares.left doing (by simp)) [] (by simp) rfl
  | @applies pending quit rest doing =>
      refine stays rfl (prepares.left doing (by simp)) (if quit then [.shutdown] else []) ?_ rfl
      cases quit <;> simp [Job.prepares]
  | shutsDown doing =>
      exact stays (dealings_cancel session) (prepares.left doing (by simp)) [_]
        (by simp [Job.prepares]) rfl
  | @awaitsLock purpose rest doing busy ticket =>
      rcases prepares.doing doing with ⟨ready, prepared⟩ | ⟨runs, -⟩
      · have waits : (Wait.lock purpose : Wait Msg).prepares = true := by
          cases purpose <;> first | rfl | cases ready
        exact ⟨rfl, .inl (prepares.goesOn prepared [] (by simp) waits ticket)⟩
      · cases runs
  | keeps holds | closesNothing holds =>
      refine stays ?_ (prepares.held holds).2 [] (by simp) rfl
      cases holds <;> rfl
  | closes holds =>
      refine stays ?_ (prepares.held holds).2 [] (by simp) rfl
      exact dealings_of_tale_eq (tale_quiet [_] (by cases holds <;> rfl) rfl)
  | runs doing =>
      rcases prepares.doing doing with ⟨ready, -⟩ | ⟨-, rfl⟩
      · cases ready
      · refine ⟨rfl, .inr ?_⟩
        rcases prepares.tail_eq with rfl | rfl <;> rfl
  | skipsWrite holds | failsWrite holds | writes holds | awaitsDelivery holds =>
      cases (prepares.held holds).1
  | input doing | resize doing | sleeps doing | followsUp doing | drops doing | awaitsInbound doing
  | heartbeat doing | awaitsBeat doing | joins doing | reports doing =>
      cases prepares.not_doing doing rfl
  | deliveryEnds waits | deliveryFails waits | delivers waits | pushesLate waits | frameEnds waits
  | rereads waits | beats waits | awakes waits | joinTimesOut waits | joinShrinks waits =>
      exact (prepares.not_waiting waits rfl).elim
  | pushes brings | awaitsRoom brings =>
      cases brings with
      | draws doing => cases prepares.not_doing doing rfl
      | retries waits => exact (prepares.not_waiting waits rfl).elim
  | takes seeks | findsClosed seeks | awaitsFrame seeks =>
      cases seeks with
      | begins doing => cases prepares.not_doing doing rfl
      | retries waits => exact (prepares.not_waiting waits rfl).elim
  | receives listens | readFails listens =>
      cases listens with
      | begins doing => cases prepares.not_doing doing rfl
      | retries waits => exact (prepares.not_waiting waits rfl).elim

/-- A worker does not come to run the session unless it was to do so before. -/
theorem Turn.runs_of_next (turn : Turn model late session worker base jobs next)
    (runs : next.agenda.any Job.runs = true) : worker.agenda.any Job.runs = true := by
  cases turn.plan with
  | goesOn new suffix routine agenda_eq =>
      rw [agenda_eq, List.any_append, Bool.or_eq_true] at runs
      rcases runs with fresh | old
      · obtain ⟨job, member, found⟩ := List.any_eq_true.mp fresh
        rw [Job.runs_of_isRoutine (routine job member)] at found
        cases found
      · obtain ⟨job, member, found⟩ := List.any_eq_true.mp old
        exact List.any_eq_true.mpr ⟨job, List.mem_append_right _ (suffix.subset member), found⟩
  | sleeps had agenda_eq =>
      rw [agenda_eq] at runs
      rw [had]
      exact runs
  | awakes agenda_eq => rwa [agenda_eq] at runs

/-- The worker never runs the session, or has yet to do so and has dealt with nothing. -/
def Unread (session : Session Flags State Msg) (worker : Worker Msg) : Prop :=
  worker.agenda.any Job.runs = false ∨
    ∃ tail, Prepares worker tail ∧ session.dealings worker.id = ([], [])

theorem Unread.transfer (unread : Unread session worker)
    (same : later.dealings worker.id = session.dealings worker.id) : Unread later worker :=
  unread.imp_right fun ⟨tail, prepares, untouched⟩ => ⟨tail, prepares, same.trans untouched⟩

theorem Request.unread (request : Request) (untouched : session.dealings id = ([], [])) :
    Unread session { id, jobs := request.jobs } := by
  cases request with
  | run => exact .inr ⟨[.report], ⟨⟨[], rfl, by simp⟩, rfl, rfl, .inl rfl⟩, untouched⟩
  | serve connection =>
      refine .inr ⟨[.join none, .report], ⟨⟨[.start connection], rfl, ?_⟩, rfl, rfl, .inr rfl⟩,
        untouched⟩
      simp [Job.prepares]
  | render times => exact .inl (by simp [Worker.agenda, Wait.job?, Request.jobs, Job.runs])
  | start | input | resize | shutdown | join => exact .inl rfl

theorem Turn.unread (unread : Unread session worker)
    (turn : Turn model late session worker base jobs next) : Unread base next := by
  rcases unread with never | ⟨tail, prepares, untouched⟩
  · refine .inl (Bool.of_not_eq_true fun runs => ?_)
    rw [turn.runs_of_next runs] at never
    cases never
  · obtain ⟨same, prepares | never⟩ := turn.prepares prepares
    · exact .inr ⟨tail, prepares, turn.id_eq ▸ same.trans untouched⟩
    · exact .inl never

theorem Turn.unread_hired (turn : Turn model late session worker base jobs next)
    {other : Worker Msg} {first : TaskId} (member : other ∈ hired first jobs) :
    Unread later other := by
  obtain ⟨-, -, free, listed⟩ := id_of_mem_hired member
  refine .inl ?_
  rw [Worker.agenda, free]
  rcases turn.hires listed with eq | eq | ⟨delay, eq | ⟨depth, message, eq⟩⟩ <;> rw [eq] <;> rfl

theorem Turns.later_dealings
    (turns : Turns model late session worker later base jobs next before after) :
    later.dealings id = base.dealings id := by
  rw [turns.later_eq]
  rfl

theorem Move.unread (identified : Identified session)
    (unread : ∀ worker ∈ session.workers, Unread session worker)
    (untouched : session.dealings session.nextId = ([], [])) (move : Move model session later) :
    ∀ worker ∈ later.workers, Unread later worker := by
  intro other member
  cases move with
  | turns advanced turns =>
      rcases turns.mem_later.mp member with rfl | old | new
      · exact (turns.turn.unread (unread _ turns.worker_mem)).transfer turns.later_dealings
      · have different := id_ne_of_mem (turns.workers_eq ▸ identified.unique) other old
        exact (unread other (turns.other_mem old)).transfer
          (turns.tells.dealings_eq different.symm)
      · exact turns.turn.unread_hired new
  | @retires late worker before after advanced free done workers_eq later_eq =>
      rw [later_eq] at member ⊢
      exact (unread other (workers_eq ▸ mem_around member worker)).transfer rfl
  | asked request later_eq =>
      rw [later_eq] at member ⊢
      rcases List.mem_append.mp member with old | new
      · exact (unread other old).transfer rfl
      · obtain rfl := List.mem_singleton.mp new
        exact request.unread untouched
  | elapses time forward later_eq =>
      rw [later_eq] at member ⊢
      exact (unread other member).transfer rfl
  | client link move later_eq =>
      rw [later_eq] at member ⊢
      exact (unread other member).transfer rfl
  | cancels live later_eq =>
      rw [later_eq] at member ⊢
      exact (unread other member).transfer (dealings_of_silent (tale_note _ [.cancelled]) rfl rfl)
  | nothing ended later_eq =>
      rw [later_eq] at member ⊢
      exact unread other member

theorem Reach.unread (reach : Reach model flags options session) :
    ∀ worker ∈ session.workers, Unread session worker := by
  induction reach with
  | idle =>
      intro worker member
      cases member
  | step before step ih =>
      exact (step.move before.identified).unread before.identified ih
        (before.dealings_eq_nil (Nat.le_refl _))

/-- A worker that is about to run the session has dealt with nothing so far. -/
theorem Reach.begins (reach : Reach model flags options session)
    (member : worker ∈ session.workers) (doing : Doing worker .run tail) :
    (tail = [.report] ∨ tail = [.join none, .report]) ∧ worker.verdict = .success ∧
      session.dealings worker.id = ([], []) := by
  rcases reach.unread worker member with never | ⟨rest, prepares, untouched⟩
  · rw [doing.agenda_eq] at never
    cases never
  · rcases prepares.doing doing with ⟨ready, -⟩ | ⟨-, rfl⟩
    · cases ready
    · exact ⟨prepares.tail_eq, prepares.verdict_eq, untouched⟩

end Session

end Showcase
