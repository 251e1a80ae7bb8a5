import Showcase.Proofs.Session.Moves

/-!
# The line for the lock

A worker stands in line for the lock exactly while it waits for the lock or for the client to take a
frame, and whoever waits for the client stands first.
-/

namespace Showcase

/-- The tasks that hold the lock or wait for it, the holder first. -/
def Lock.line (lock : Lock) : List TaskId := lock.holder.toList ++ lock.waiting

/-- Nobody waits for a free lock. -/
def Lock.Fair (lock : Lock) : Prop := lock.holder = none → lock.waiting = []

namespace Lock

variable {lock : Lock} {id : TaskId}

theorem isHeldBy_iff : lock.isHeldBy id = true ↔ lock.holder = some id := by
  simp [isHeldBy]

theorem line_of_holder (held : lock.holder = some id) : lock.line = id :: lock.waiting := by
  simp [line, held]

theorem fair_acquire (fair : lock.Fair) (id : TaskId) :
    (lock.acquire id).Fair ∧ (lock.acquire id).line = lock.line ++ [id] := by
  unfold acquire isFree
  cases holder : lock.holder with
  | none => simp [Fair, line, holder, fair holder]
  | some other => simp [Fair, line, holder]

theorem fair_release (fair : lock.Fair) :
    lock.release.1.Fair ∧ lock.release.1.line = lock.line.tail := by
  unfold release
  cases waiting : lock.waiting with
  | nil => cases holder : lock.holder <;> simp [Fair, line, holder, waiting]
  | cons first rest =>
      cases holder : lock.holder with
      | none => simp [fair holder] at waiting
      | some other => simp [Fair, line, holder, waiting]

theorem exists_holder (fair : lock.Fair) (member : id ∈ lock.line) :
    ∃ holder, lock.holder = some holder := by
  cases holder : lock.holder with
  | none => simp [line, holder, fair holder] at member
  | some other => exact ⟨other, rfl⟩

theorem eq_free (empty : lock.line = []) : lock = {} := by
  obtain ⟨unheld, alone⟩ := List.append_eq_nil_iff.mp empty
  cases lock with
  | mk holder waiting =>
      rw [Option.toList_eq_nil_iff] at unheld
      cases unheld
      cases alone
      rfl

theorem holder_acquire {other : TaskId} (held : lock.holder = some other) (id : TaskId) :
    (lock.acquire id).holder = some other := by
  simp [acquire, isFree, held]

/-- A task that gets the lock without a place in line finds nobody in line. -/
theorem line_eq_nil (fair : lock.Fair) (absent : id ∉ lock.line)
    (held : (lock.acquire id).isHeldBy id = true) : lock.line = [] := by
  rw [isHeldBy_iff] at held
  cases holder : lock.holder with
  | none => simp [line, holder, fair holder]
  | some other =>
      rw [holder_acquire holder] at held
      obtain rfl := Option.some.inj held
      simp [line, holder] at absent

end Lock

/-- Whether a worker that waits like this stands in line for the lock. -/
def Wait.inLine {Msg : Type} : Wait Msg → Bool
  | lock _ | delivery _ => true
  | nothing | room .. | frame | inbound _ | beat _ | time .. | others .. => false

namespace Session

variable {Flags State Msg : Type} {model : Model Flags State Msg} {flags : Flags}
  {options : SessionOptions} {session later base : Session Flags State Msg} {late : Bool}
  {worker next : Worker Msg} {jobs : List (List (Job Msg))} {before after : List (Worker Msg)}
  {rest : List (Job Msg)}

/-- The numbers of the workers that stand in line. -/
def inLine (workers : List (Worker Msg)) : List TaskId :=
  (workers.filter fun worker => worker.wait.inLine).map Worker.id

theorem inLine_append (first second : List (Worker Msg)) :
    inLine (first ++ second) = inLine first ++ inLine second := by
  simp [inLine]

theorem inLine_cons_of_true (stands : worker.wait.inLine = true) (workers : List (Worker Msg)) :
    inLine (worker :: workers) = worker.id :: inLine workers := by
  simp [inLine, stands]

theorem inLine_cons_of_false (stands : worker.wait.inLine = false)
    (workers : List (Worker Msg)) : inLine (worker :: workers) = inLine workers := by
  simp [inLine, stands]

theorem inLine_hired (first : TaskId) (jobs : List (List (Job Msg))) :
    inLine (hired first jobs) = [] := by
  induction jobs generalizing first with
  | nil => rfl
  | cons jobs rest ih =>
      rw [hired, inLine_cons_of_false rfl]
      exact ih (first + 1)

/-- The lock's line is that of the workers in line, and whoever waits for the client is first. -/
structure Lined (lock : Lock) (workers : List (Worker Msg)) : Prop where
  fair : lock.Fair
  line_perm : lock.line.Perm (inLine workers)
  first : ∀ worker ∈ workers, ∀ frame, worker.wait = .delivery frame →
    lock.holder = some worker.id

/-- What a step does to the lock. -/
inductive LockTurn (session : Session Flags State Msg) (worker next : Worker Msg)
    (lock : Lock) : Prop where
  | stays (before : worker.wait.inLine = false) (after : next.wait.inLine = false)
      (lock_eq : lock = session.lock)
  | joins (before : worker.wait.inLine = false) (purpose : Purpose)
      (after : next.wait = .lock purpose) (lock_eq : lock = session.lock.acquire worker.id)
  | passes (before : worker.wait.inLine = false) (after : next.wait.inLine = false)
      (held : (session.lock.acquire worker.id).isHeldBy worker.id = true)
      (lock_eq : lock = (session.lock.acquire worker.id).release.1)
  | enters (before : worker.wait.inLine = false) (after : next.wait.inLine = true)
      (held : (session.lock.acquire worker.id).isHeldBy worker.id = true)
      (lock_eq : lock = session.lock.acquire worker.id)
  | goesOn (before : worker.wait.inLine = true) (after : next.wait.inLine = true)
      (held : session.lock.isHeldBy worker.id = true) (lock_eq : lock = session.lock)
  | leaves (before : worker.wait.inLine = true) (after : next.wait.inLine = false)
      (held : session.lock.holder = some worker.id) (lock_eq : lock = session.lock.release.1)

theorem Doing.unlined {job : Job Msg} (doing : Doing worker job rest) :
    worker.wait.inLine = false := by
  rw [doing.free]
  rfl

theorem Listens.unlined (listens : Listens session worker rest) :
    worker.wait.inLine = false := by
  cases listens with
  | begins doing => exact doing.unlined
  | retries waits => rw [waits]; rfl

theorem Seeks.unlined (seeks : Seeks session worker rest base) :
    worker.wait.inLine = false ∧ base.lock = session.lock := by
  cases seeks with
  | begins doing => exact ⟨doing.unlined, rfl⟩
  | retries waits => rw [waits]; exact ⟨rfl, rfl⟩

theorem Brings.unlined {frame : Frame} {deadline : Nat}
    (brings : Brings model session worker frame deadline rest base) :
    worker.wait.inLine = false ∧ base.lock = session.lock := by
  cases brings with
  | draws doing => exact ⟨doing.unlined, rfl⟩
  | retries waits => rw [waits]; exact ⟨rfl, rfl⟩

theorem Passes.unlined (passes : Passes model late session worker rest) :
    worker.wait.inLine = false := by
  cases passes with
  | input doing | resize doing | followUp doing | render doing | read doing | beat doing
  | write doing | heartbeat doing => exact doing.unlined
  | finished listens => exact listens.unlined
  | inboundEnds waits | beatEnds waits | timeEnds waits | joined waits => rw [waits]; rfl

theorem Holds.releases {purpose : Purpose} {lock : Lock}
    (holds : Holds session worker purpose rest base) (after : next.wait.inLine = false)
    (lock_eq : lock = base.lock.release.1) : LockTurn session worker next lock := by
  cases holds with
  | acquires doing held => exact .passes doing.unlined after held lock_eq
  | granted waits held =>
      exact .leaves (by rw [waits]; rfl) after (Lock.isHeldBy_iff.mp held) lock_eq

theorem Holds.keepsHold {purpose : Purpose} {lock : Lock}
    (holds : Holds session worker purpose rest base) (after : next.wait.inLine = true)
    (lock_eq : lock = base.lock) : LockTurn session worker next lock := by
  cases holds with
  | acquires doing held => exact .enters doing.unlined after held lock_eq
  | granted waits held => exact .goesOn (by rw [waits]; rfl) after held lock_eq

theorem Turn.lockTurn (first : ∀ frame, worker.wait = .delivery frame →
    session.lock.holder = some worker.id)
    (turn : Turn model late session worker base jobs next) :
    LockTurn session worker next base.lock := by
  cases turn with
  | passes passes => exact .stays passes.unlined rfl rfl
  | startFails doing | runFails doing => exact .stays doing.unlined doing.unlined rfl
  | starts doing | opensLoops doing | input doing | resize doing | applies doing
  | rendersLater doing | sleeps doing | followsUp doing | drops doing | awaitsInbound doing
  | runs doing | heartbeat doing | awaitsBeat doing | joins doing | reports doing =>
      exact .stays doing.unlined rfl rfl
  | shutsDown doing => exact .stays doing.unlined rfl (by rw [cancel_eq])
  | awaitsLock doing => exact .joins doing.unlined _ rfl rfl
  | keeps holds | closesNothing holds | closes holds | skipsWrite holds | failsWrite holds
  | writes holds => exact holds.releases rfl rfl
  | awaitsDelivery holds => exact holds.keepsHold rfl rfl
  | deliveryEnds waits | deliveryFails waits | delivers waits =>
      exact .leaves (by rw [waits]; rfl) rfl (first _ waits) rfl
  | pushes brings | awaitsRoom brings =>
      obtain ⟨before, lock_eq⟩ := brings.unlined
      exact .stays before rfl lock_eq
  | takes seeks | findsClosed seeks | awaitsFrame seeks =>
      obtain ⟨before, lock_eq⟩ := seeks.unlined
      exact .stays before rfl lock_eq
  | receives listens | readFails listens => exact .stays listens.unlined rfl rfl
  | pushesLate waits | frameEnds waits | rereads waits | beats waits | awakes waits
  | joinTimesOut waits | joinShrinks waits => exact .stays (by rw [waits]; rfl) rfl rfl

/-- The numbers in line, that of one worker apart. -/
theorem inLine_around (before after : List (Worker Msg)) (worker : Worker Msg) :
    (inLine (before ++ worker :: after)).Perm
      (if worker.wait.inLine then worker.id :: inLine (before ++ after)
        else inLine (before ++ after)) := by
  cases stands : worker.wait.inLine with
  | true =>
      rw [inLine_append, inLine_append, inLine_cons_of_true stands]
      exact List.perm_middle
  | false =>
      rw [inLine_append, inLine_append, inLine_cons_of_false stands]
      exact .refl _

theorem not_mem_inLine (unique : ((before ++ worker :: after).map Worker.id).Nodup) :
    worker.id ∉ inLine (before ++ after) := by
  intro member
  obtain ⟨other, standing, same⟩ := List.mem_map.mp member
  exact id_ne_of_mem unique other (List.mem_of_mem_filter standing) same

/-- Every turn leaves the line in order. -/
theorem LockTurn.lined {lock : Lock} {more : List (Worker Msg)} (same : next.id = worker.id)
    (unique : ((before ++ worker :: after).map Worker.id).Nodup)
    (lined : Lined session.lock (before ++ worker :: after)) (idle : inLine more = [])
    (unwaiting : ∀ other ∈ more, other.wait = .nothing)
    (turn : LockTurn session worker next lock) :
    Lined lock (before ++ next :: (after ++ more)) := by
  obtain ⟨fair, line_perm, first⟩ := lined
  have apart := not_mem_inLine unique
  have was := line_perm.trans (inLine_around before after worker)
  have becomes := inLine_around before (after ++ more) next
  rw [← List.append_assoc, inLine_append (before ++ after), idle, List.append_nil, same] at becomes
  -- Only the worker itself and those that delivered before can be delivering now.
  have delivering (allowed : ∀ frame, next.wait = .delivery frame → lock.holder = some worker.id)
      (others : ∀ other ∈ before ++ after, session.lock.holder = some other.id →
        lock.holder = some other.id) :
      ∀ other ∈ before ++ next :: (after ++ more), ∀ frame, other.wait = .delivery frame →
        lock.holder = some other.id := by
    intro other member frame waits
    have old (member : other ∈ before ++ after) : lock.holder = some other.id :=
      others other member (first other (mem_around member worker) frame waits)
    rcases List.mem_append.mp member with left | right
    · exact old (List.mem_append_left _ left)
    · rcases List.mem_cons.mp right with rfl | right
      · rw [same]
        exact allowed frame waits
      · rcases List.mem_append.mp right with right | new
        · exact old (List.mem_append_right _ right)
        · rw [unwaiting other new] at waits
          cases waits
  have notDelivering {frame : Frame} (after : next.wait.inLine = false) :
      next.wait ≠ .delivery frame := by
    intro waits
    rw [waits] at after
    cases after
  cases turn with
  | stays unlined after lock_eq =>
      rw [unlined] at was
      rw [after] at becomes
      subst lock_eq
      exact ⟨fair, was.trans becomes.symm, delivering
        (fun _ waits => absurd waits (notDelivering after)) fun _ _ held => held⟩
  | joins unlined purpose after lock_eq =>
      rw [unlined] at was
      rw [after] at becomes
      obtain ⟨fair', line_eq⟩ := Lock.fair_acquire fair worker.id
      subst lock_eq
      refine ⟨fair', ?_, delivering (fun _ waits => by rw [after] at waits; cases waits)
        fun other _ held => Lock.holder_acquire held worker.id⟩
      rw [line_eq]
      exact ((List.perm_append_singleton _ _).trans (was.cons _)).trans becomes.symm
  | passes unlined after held lock_eq =>
      rw [unlined] at was
      rw [after] at becomes
      obtain ⟨fair', line_eq⟩ := Lock.fair_acquire fair worker.id
      obtain ⟨fair'', line_eq'⟩ := Lock.fair_release fair'
      have empty := Lock.line_eq_nil fair (fun member => apart (was.subset member)) held
      subst lock_eq
      refine ⟨fair'', ?_, delivering (fun _ waits => absurd waits (notDelivering after)) ?_⟩
      · rw [line_eq', line_eq, empty]
        rw [empty] at was
        exact was.trans becomes.symm
      · intro other _ held
        rw [Lock.line_of_holder held] at empty
        cases empty
  | enters unlined after held lock_eq =>
      rw [unlined] at was
      rw [after] at becomes
      obtain ⟨fair', line_eq⟩ := Lock.fair_acquire fair worker.id
      have empty := Lock.line_eq_nil fair (fun member => apart (was.subset member)) held
      subst lock_eq
      refine ⟨fair', ?_, delivering (fun _ _ => Lock.isHeldBy_iff.mp held) ?_⟩
      · rw [line_eq]
        exact ((List.perm_append_singleton _ _).trans (was.cons _)).trans becomes.symm
      · intro other _ held
        rw [Lock.line_of_holder held] at empty
        cases empty
  | goesOn stands after held lock_eq =>
      rw [stands] at was
      rw [after] at becomes
      subst lock_eq
      exact ⟨fair, was.trans becomes.symm, delivering (fun _ _ => Lock.isHeldBy_iff.mp held)
        fun _ _ held => held⟩
  | leaves stands after held lock_eq =>
      rw [stands, Lock.line_of_holder held] at was
      rw [after] at becomes
      obtain ⟨fair', line_eq⟩ := Lock.fair_release fair
      subst lock_eq
      refine ⟨fair', ?_, delivering (fun _ waits => absurd waits (notDelivering after)) ?_⟩
      · rw [line_eq, Lock.line_of_holder held]
        exact (was.cons_inv).trans becomes.symm
      · intro other member heldBy
        rw [held] at heldBy
        exact absurd (Option.some.inj heldBy).symm (id_ne_of_mem unique other member)

theorem Move.lined (identified : Identified session) (lined : Lined session.lock session.workers)
    (move : Move model session later) : Lined later.lock later.workers := by
  cases move with
  | @retires late worker before after advanced free done workers_eq later_eq =>
      rw [workers_eq] at lined
      have idle : worker.wait.inLine = false := by rw [free]; rfl
      have around := inLine_around before after worker
      rw [idle] at around
      rw [later_eq]
      exact ⟨lined.fair, lined.line_perm.trans around,
        fun other member => lined.first other (mem_around member worker)⟩
  | @turns late worker next base jobs before after advanced turns =>
      have turn := turns.turn
      have unique := identified.unique
      rw [turns.workers_eq] at lined unique
      rw [turns.later_workers, turns.later_eq]
      refine LockTurn.lined turn.id_eq unique lined (inLine_hired _ _)
        (fun other member => (id_of_mem_hired member).2.2.1) (turn.lockTurn ?_)
      exact lined.first worker (List.mem_append_right _ List.mem_cons_self)
  | asked request later_eq =>
      rw [later_eq]
      refine ⟨lined.fair, ?_, ?_⟩
      · simpa [inLine_append, inLine_hired] using lined.line_perm
      · intro other member frame waits
        rcases List.mem_append.mp member with old | new
        · exact lined.first other old frame waits
        · rw [(id_of_mem_hired new).2.2.1] at waits
          cases waits
  | elapses time forward later_eq => rw [later_eq]; exact lined
  | client link move later_eq => rw [later_eq]; exact lined
  | cancels live later_eq => rw [later_eq]; exact lined
  | nothing ended later_eq => rw [later_eq]; exact lined

/-- In every run the lock's line is that of the workers in line. -/
theorem Reach.lined (reach : Reach model flags options session) :
    Lined session.lock session.workers := by
  induction reach with
  | idle =>
      exact ⟨fun _ => rfl, .refl _, fun _ member => nomatch member⟩
  | step before step ih => exact (step.move before.identified).lined before.identified ih

end Session

end Showcase
