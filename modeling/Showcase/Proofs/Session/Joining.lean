import Showcase.Proofs.Session.Moves

/-!
# Nobody waits for someone who waits

Workers wait for the loops of the session only, and a loop never waits for other workers. So the
first worker that someone waits for does not itself wait for others.
-/

namespace Showcase

variable {Msg : Type}

/-- Whether the job makes its worker wait for others, at once or later. -/
def Job.joins : Job Msg → Bool
  | join _ => true
  | after _ job => job.joins
  | _ => false

/-- Whether a worker that waits like this waits for others, now or later. -/
def Wait.joins : Wait Msg → Bool
  | others .. => true
  | time _ job => job.joins
  | _ => false

def Wait.awaited : Wait Msg → List TaskId
  | others ids _ => ids
  | _ => []

def Worker.joins (worker : Worker Msg) : Bool := worker.wait.joins || worker.jobs.any Job.joins

theorem Worker.joins_goOn (worker : Worker Msg) (jobs : List (Job Msg)) :
    (worker.goOn jobs).joins = jobs.any Job.joins := rfl

theorem Worker.joins_waitFor (worker : Worker Msg) (wait : Wait Msg) (jobs : List (Job Msg))
    (ticket : Nat) : (worker.waitFor wait jobs ticket).joins =
      (wait.joins || jobs.any Job.joins) := rfl

theorem Worker.joins_of_suffix {worker : Worker Msg} {rest : List (Job Msg)}
    (suffix : rest <:+ worker.jobs) (joins : rest.any Job.joins = true) : worker.joins = true := by
  obtain ⟨job, member, joins⟩ := List.any_eq_true.mp joins
  rw [Worker.joins, Bool.or_eq_true]
  exact .inr (List.any_eq_true.mpr ⟨job, suffix.subset member, joins⟩)

theorem Inbound.joins_job (frame : Inbound) : (frame.job : Job Msg).joins = false := by
  unfold job
  split <;> rfl

namespace Session

variable {Flags State : Type} {model : Model Flags State Msg} {flags : Flags}
  {options : SessionOptions} {session later base : Session Flags State Msg} {late : Bool}
  {worker next : Worker Msg} {jobs : List (List (Job Msg))} {before after : List (Worker Msg)}
  {rest : List (Job Msg)}

/-! ## What a step leaves of the jobs -/

theorem Doing.suffix {job : Job Msg} (doing : Doing worker job rest) : rest <:+ worker.jobs :=
  doing.jobs_eq ▸ List.suffix_cons job rest

theorem Brings.suffix {frame : Frame} {deadline : Nat}
    (brings : Brings model session worker frame deadline rest base) : rest <:+ worker.jobs := by
  cases brings with
  | draws doing => exact doing.suffix
  | retries waits => exact List.suffix_refl _

theorem Holds.suffix {purpose : Purpose} (holds : Holds session worker purpose rest base) :
    rest <:+ worker.jobs := by
  cases holds with
  | acquires doing => exact doing.suffix
  | granted waits => exact List.suffix_refl _

theorem Listens.suffix (listens : Listens session worker rest) : rest <:+ worker.jobs := by
  cases listens with
  | begins doing => exact doing.suffix
  | retries waits => exact List.suffix_refl _

theorem Seeks.suffix (seeks : Seeks session worker rest base) : rest <:+ worker.jobs := by
  cases seeks with
  | begins doing => exact doing.suffix
  | retries waits => exact List.suffix_refl _

theorem Passes.suffix (passes : Passes model late session worker rest) :
    rest <:+ worker.jobs := by
  cases passes with
  | input doing | resize doing | followUp doing | render doing | read doing | beat doing
  | write doing | heartbeat doing => exact doing.suffix
  | finished listens => exact listens.suffix
  | inboundEnds waits | beatEnds waits | timeEnds waits | joined waits => exact List.suffix_refl _

/-! ## Who waits for others -/

/-- A worker that will wait for others was asked to from the start. -/
theorem Turn.joins_of_next (turn : Turn model late session worker base jobs next)
    (joins : next.joins = true) : worker.joins = true := by
  cases turn with
  | passes passes => exact Worker.joins_of_suffix passes.suffix joins
  | startFails doing | runFails doing =>
      simp [Worker.joins, Worker.failing, doing.free, Wait.joins, Job.joins] at joins
  | starts doing | opensLoops doing | input doing | resize doing | rendersLater doing
  | followsUp doing | drops doing | shutsDown doing | runs doing | heartbeat doing
  | reports doing =>
      exact Worker.joins_of_suffix doing.suffix
        (by simpa [Worker.joins_goOn, Job.joins] using joins)
  | @applies pending quit rest doing =>
      refine Worker.joins_of_suffix doing.suffix ?_
      cases quit <;> simpa [Worker.joins_goOn, Job.joins] using joins
  | awaitsLock doing | awaitsInbound doing | awaitsBeat doing =>
      exact Worker.joins_of_suffix doing.suffix
        (by simpa [Worker.joins_waitFor, Wait.joins] using joins)
  | sleeps doing => simpa [Worker.joins, Worker.waitFor, Wait.joins, Job.joins, doing.free,
      doing.jobs_eq] using joins
  | keeps holds | closesNothing holds | closes holds | skipsWrite holds | failsWrite holds
  | writes holds =>
      exact Worker.joins_of_suffix holds.suffix
        (by simpa [Worker.joins_goOn, Job.joins] using joins)
  | awaitsDelivery holds =>
      exact Worker.joins_of_suffix holds.suffix
        (by simpa [Worker.joins_waitFor, Wait.joins] using joins)
  | deliveryEnds waits | deliveryFails waits | delivers waits | pushesLate waits
  | frameEnds waits | rereads waits | beats waits =>
      exact Worker.joins_of_suffix (List.suffix_refl _)
        (by simpa [Worker.joins_goOn, Job.joins] using joins)
  | pushes brings => exact Worker.joins_of_suffix brings.suffix joins
  | awaitsRoom brings =>
      exact Worker.joins_of_suffix brings.suffix
        (by simpa [Worker.joins_waitFor, Wait.joins] using joins)
  | takes seeks | findsClosed seeks =>
      exact Worker.joins_of_suffix seeks.suffix
        (by simpa [Worker.joins_goOn, Job.joins] using joins)
  | awaitsFrame seeks =>
      exact Worker.joins_of_suffix seeks.suffix
        (by simpa [Worker.joins_waitFor, Wait.joins] using joins)
  | receives listens | readFails listens =>
      exact Worker.joins_of_suffix listens.suffix
        (by simpa [Worker.joins, Worker.goOn, Wait.joins, Job.joins, Inbound.joins_job] using joins)
  | awakes waits =>
      simpa [Worker.joins, Worker.goOn, Wait.joins, waits] using joins
  | joins doing => simp [Worker.joins, doing.jobs_eq, Job.joins]
  | joinTimesOut waits | joinShrinks waits => simp [Worker.joins, waits, Wait.joins]

/-- The jobs that a new worker is hired for are those of a loop or come after some time. -/
theorem Turn.hires (turn : Turn model late session worker base jobs next)
    {list : List (Job Msg)} (member : list ∈ jobs) :
    list = [.heartbeat] ∨ list = [.write] ∨ ∃ delay,
      list = [.after delay .render] ∨
        ∃ depth message, list = [.after delay (.followUp depth message)] := by
  cases turn with
  | applies doing =>
      obtain ⟨entry, -, rfl⟩ := List.mem_map.mp member
      exact .inr (.inr ⟨_, .inr ⟨_, _, rfl⟩⟩)
  | opensLoops doing =>
      rcases List.mem_cons.mp member with eq | further
      · exact .inl eq
      · exact .inr (.inl (List.mem_singleton.mp further))
  | rendersLater doing => exact .inr (.inr ⟨_, .inl (List.mem_singleton.mp member)⟩)
  | _ => cases member

theorem Turn.joins_hired (turn : Turn model late session worker base jobs next)
    {other : Worker Msg} {first : TaskId} (member : other ∈ hired first jobs) :
    other.joins = false := by
  obtain ⟨-, -, free, mem⟩ := id_of_mem_hired member
  rw [Worker.joins, free]
  rcases turn.hires mem with eq | eq | ⟨delay, eq | ⟨depth, message, eq⟩⟩ <;> rw [eq] <;> rfl

/-! ## Who is waited for -/

/-- The workers that others wait for, or may come to wait for. -/
def awaited (session : Session Flags State Msg) : List TaskId :=
  session.loops ++ session.workers.flatMap fun worker => worker.wait.awaited

/-- Nobody who is waited for ever waits for others. -/
structure Joinable (session : Session Flags State Msg) : Prop where
  below : ∀ id ∈ session.awaited, id < session.nextId
  loose : ∀ worker ∈ session.workers, worker.id ∈ session.awaited → worker.joins = false

/-- A worker comes to wait for the loops; new loops are new workers. -/
theorem Turn.awaited (turn : Turn model late session worker base jobs next) {id : Nat}
    (member : id ∈ base.loops ++ next.wait.awaited) :
    id ∈ session.loops ++ worker.wait.awaited ∨
      session.nextId ≤ id ∧ id < session.nextId + jobs.length := by
  have idle (loops_eq : base.loops = session.loops) (waits : next.wait.awaited = []) :
      id ∈ session.loops ++ worker.wait.awaited := by
    rw [waits, List.append_nil, loops_eq] at member
    exact List.mem_append_left _ member
  cases turn with
  | opensLoops doing =>
      have member : id ∈ (session.loops ++ [session.nextId, session.nextId + 1]) ++ [] := member
      rw [List.append_nil] at member
      rcases List.mem_append.mp member with old | new
      · exact .inl (List.mem_append_left _ old)
      · refine .inr ?_
        simp only [List.mem_cons, List.not_mem_nil, or_false] at new
        have first : session.nextId < session.nextId + 2 := Nat.lt_add_of_pos_right Nat.two_pos
        rcases new with rfl | rfl
        · exact ⟨Nat.le_refl _, first⟩
        · exact ⟨Nat.le_succ _, Nat.lt_succ_self _⟩
  | joins doing => exact .inl (List.mem_append_left _ member)
  | joinShrinks waits fewer left =>
      rw [waits]
      rcases List.mem_append.mp member with old | kept
      · exact .inl (List.mem_append_left _ old)
      · subst left
        exact .inl (List.mem_append_right _ ((List.dropWhile_suffix _).subset kept))
  | startFails doing | runFails doing => exact .inl member
  | shutsDown doing => exact .inl (idle (by rw [cancel_eq]) rfl)
  | keeps holds | closesNothing holds | closes holds | skipsWrite holds | failsWrite holds
  | writes holds | awaitsDelivery holds => cases holds <;> exact .inl (idle rfl rfl)
  | pushes brings | awaitsRoom brings => cases brings <;> exact .inl (idle rfl rfl)
  | takes seeks | findsClosed seeks | awaitsFrame seeks =>
      cases seeks <;> exact .inl (idle rfl rfl)
  | _ => exact .inl (idle rfl rfl)

theorem mem_awaited {id : TaskId} :
    id ∈ session.awaited ↔
      id ∈ session.loops ∨ ∃ worker ∈ session.workers, id ∈ worker.wait.awaited := by
  simp [awaited]

theorem Turns.mem_awaited
    (turns : Turns model late session worker later base jobs next before after) {id : Nat}
    (member : id ∈ later.awaited) :
    id ∈ session.awaited ∨ session.nextId ≤ id ∧ id < session.nextId + jobs.length := by
  have own (known : id ∈ session.loops ++ worker.wait.awaited) : id ∈ session.awaited := by
    rcases List.mem_append.mp known with loop | waits
    · exact Session.mem_awaited.mpr (.inl loop)
    · exact Session.mem_awaited.mpr (.inr ⟨worker, turns.worker_mem, waits⟩)
  have loops_eq : later.loops = base.loops := by rw [turns.later_eq]
  rcases Session.mem_awaited.mp member with loop | ⟨other, present, waits⟩
  · rw [loops_eq] at loop
    exact (turns.turn.awaited (List.mem_append_left _ loop)).imp_left own
  · rcases turns.mem_later.mp present with rfl | old | new
    · exact (turns.turn.awaited (List.mem_append_right _ waits)).imp_left own
    · exact .inl (Session.mem_awaited.mpr (.inr ⟨other, turns.other_mem old, waits⟩))
    · rw [(id_of_mem_hired new).2.2.1] at waits
      cases waits

theorem Turns.joinable (identified : Identified session) (joinable : Joinable session)
    (turns : Turns model late session worker later base jobs next before after) :
    Joinable later := by
  constructor
  · intro id member
    rw [turns.later_nextId]
    rcases turns.mem_awaited member with old | new
    · exact Nat.lt_of_lt_of_le (joinable.below id old) (Nat.le_add_right _ _)
    · exact new.2
  · intro other present member
    have loose (known : other.id < session.nextId) (earlier : Worker Msg)
        (old : earlier ∈ session.workers) (same : other.id = earlier.id) :
        earlier.joins = false := by
      rcases turns.mem_awaited member with awaited | new
      · exact joinable.loose earlier old (same ▸ awaited)
      · exact absurd known (Nat.not_lt_of_le new.1)
    rcases turns.mem_later.mp present with rfl | old | new
    · have same := turns.turn.id_eq
      have free := loose (same ▸ identified.below _ turns.worker_mem) worker turns.worker_mem same
      exact Bool.eq_false_iff.mpr fun joins =>
        Bool.eq_false_iff.mp free (turns.turn.joins_of_next joins)
    · have old := turns.other_mem old
      exact loose (identified.below other old) other old rfl
    · exact turns.turn.joins_hired new

theorem Move.joinable (identified : Identified session) (joinable : Joinable session)
    (move : Move model session later) : Joinable later := by
  obtain ⟨below, loose⟩ := joinable
  cases move with
  | @retires late worker before after advanced free done workers_eq later_eq =>
      have present : ∀ other ∈ later.workers, other ∈ session.workers := by
        rw [later_eq, workers_eq]
        intro other member
        exact mem_around member worker
      have known : ∀ id ∈ later.awaited, id ∈ session.awaited := by
        intro id member
        rw [mem_awaited] at member ⊢
        rcases member with loop | ⟨other, member, waits⟩
        · rw [later_eq] at loop
          exact .inl loop
        · exact .inr ⟨other, present other member, waits⟩
      constructor
      · intro id member
        rw [later_eq]
        exact below id (known id member)
      · intro other member awaited
        exact loose other (present other member) (known _ awaited)
  | turns advanced turns => exact turns.joinable identified ⟨below, loose⟩
  | asked request later_eq =>
      have known : later.awaited = session.awaited := by
        rw [later_eq]
        simp [awaited, hired, Wait.awaited]
      constructor
      · intro id member
        rw [later_eq]
        exact Nat.lt_succ_of_lt (below id (known ▸ member))
      · intro other member awaited
        rw [known] at awaited
        rw [later_eq] at member
        rcases List.mem_append.mp member with old | new
        · exact loose other old awaited
        · exact absurd (below _ awaited) (Nat.not_lt_of_le (id_of_mem_hired new).1)
  | elapses time forward later_eq => rw [later_eq]; exact ⟨below, loose⟩
  | client link move later_eq => rw [later_eq]; exact ⟨below, loose⟩
  | cancels live later_eq => rw [later_eq]; exact ⟨below, loose⟩
  | nothing ended later_eq => rw [later_eq]; exact ⟨below, loose⟩

/-- In every run nobody waits for someone who waits for others. -/
theorem Reach.joinable (reach : Reach model flags options session) : Joinable session := by
  induction reach with
  | idle => exact ⟨fun _ member => (nomatch member), fun _ member => nomatch member⟩
  | step before step ih => exact (step.move before.identified).joinable before.identified ih

end Session

end Showcase
