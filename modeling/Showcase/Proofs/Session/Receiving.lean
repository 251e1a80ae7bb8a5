import Showcase.Proofs.Session.Reading

/-!
# The frames that a session receives

What the client sends is received in order. A worker that runs the session gives each of the frames
that it receives to the program, once and in order, and none that comes after the end. When the
client has hung up it has given all of them, and the call comes to a good end.
-/

namespace Showcase

/-- Whether the job is to receive frames. -/
def Job.receives {Msg : Type} : Job Msg → Bool
  | read | run => true
  | _ => false

namespace Session

variable {Flags State Msg : Type} {model : Model Flags State Msg} {flags : Flags}
  {options : SessionOptions} {session later base start : Session Flags State Msg} {late : Bool}
  {worker next : Worker Msg} {jobs : List (List (Job Msg))} {before after : List (Worker Msg)}
  {rest tail : List (Job Msg)} {id : TaskId} {orderly easier : Prop}

/-! ## What the client sends -/

/-- The contents are orderly: frames only, and no fault. -/
def Orderly (contents : List (Except ConnectionFault Inbound)) : Prop :=
  ∀ content ∈ contents, ∃ frame, content = .ok frame

/-- A run, with what the client sends in it until it hangs up. -/
inductive Feeds (model : Model Flags State Msg) (start : Session Flags State Msg) :
    List (Except ConnectionFault Inbound) → Session Flags State Msg → Prop where
  | start : Feeds model start [] start
  | sends {sent : List (Except ConnectionFault Inbound)} {session : Session Flags State Msg}
      (before : Feeds model start sent session) (content : Except ConnectionFault Inbound)
      (listening : session.link.hungUp = false) :
      Feeds model start (sent ++ [content]) (session.arrive content)
  | step {sent : List (Except ConnectionFault Inbound)} {session later : Session Flags State Msg}
      (before : Feeds model start sent session) (step : Step model session later)
      (nothing : later.link.inbound <:+ session.link.inbound) : Feeds model start sent later

theorem Turn.hungUp_eq (turn : Turn model late session worker base jobs next) :
    base.link.hungUp = session.link.hungUp := by
  have receive_eq {result : Link.Received} {link : Link}
      (found : session.link.receive = (result, link)) : link.hungUp = session.link.hungUp := by
    unfold Link.receive at found
    split at found <;> cases found <;> rfl
  cases turn with
  | receives listens found | readFails listens found => exact receive_eq found
  | shutsDown => rw [cancel_eq]
  | keeps holds | closesNothing holds | closes holds | skipsWrite holds | failsWrite holds
  | writes holds | awaitsDelivery holds => cases holds <;> rfl
  | pushes brings | awaitsRoom brings => cases brings <;> rfl
  | takes seeks | findsClosed seeks | awaitsFrame seeks => cases seeks <;> rfl
  | _ => rfl

/-- Nothing that the client sent is lost or added. -/
structure Conserves (session later : Session Flags State Msg) : Prop where
  received : heard later.tale ++ frames later.link.inbound =
    heard session.tale ++ frames session.link.inbound
  suffix : later.link.inbound <:+ session.link.inbound

theorem Conserves.of_same (tale_eq : later.tale = session.tale)
    (inbound_eq : later.link.inbound = session.link.inbound) : Conserves session later :=
  ⟨by rw [tale_eq, inbound_eq], inbound_eq ▸ List.suffix_refl _⟩

theorem Tells.conserves (tells : Tells model session worker base) : Conserves session base := by
  have quiet {added : List (Event State Msg)} (tale_eq : base.tale = session.tale ++ added)
      (silent : heard added = []) (inbound_eq : base.link.inbound = session.link.inbound) :
      Conserves session base := by
    refine ⟨?_, inbound_eq ▸ List.suffix_refl _⟩
    rw [tale_eq, heard_append, silent, List.append_nil, inbound_eq]
  have story (outcome : Outcome State Msg) : heard outcome.story = [] :=
    (story_silent 0 outcome).1
  cases tells with
  | nothing tale_eq _ _ inbound_eq => exact .of_same tale_eq inbound_eq
  | fails _ tale_eq _ _ inbound_eq =>
      refine ⟨?_, inbound_eq ▸ List.suffix_cons _ _⟩
      rw [tale_eq, inbound_eq]
      rfl
  | receives _ tale_eq _ _ inbound_eq =>
      refine ⟨?_, inbound_eq ▸ List.suffix_cons _ _⟩
      rw [tale_eq, inbound_eq, heard_append, List.append_assoc]
      rfl
  | begins tale_eq _ _ inbound_eq => exact quiet tale_eq (story _) inbound_eq
  | input _ tale_eq _ _ inbound_eq => exact quiet tale_eq (story _) inbound_eq
  | resize _ tale_eq _ _ inbound_eq => exact quiet tale_eq (story _) inbound_eq
  | follows _ tale_eq _ _ inbound_eq => exact quiet tale_eq (story _) inbound_eq
  | cancels _ tale_eq _ _ inbound_eq => exact quiet tale_eq rfl inbound_eq

/-- Only the client adds to what is to be received. -/
theorem Move.conserves (move : Move model session later) :
    (∃ content, later = session.arrive content ∧ session.link.hungUp = false) ∨
      Conserves session later := by
  cases move with
  | turns advanced turns => exact .inr turns.tells.conserves
  | client link move later_eq =>
      cases move with
      | arrive content =>
          cases hungUp : session.link.hungUp with
          | false => exact .inl ⟨content, rfl, rfl⟩
          | true =>
              exact .inr (.of_same rfl (by simp [arrive, changeLink, wake, Link.send, hungUp]))
      | hangUp | pause | unpause | breakWrites | leave => exact .inr (.of_same rfl rfl)
  | cancels live later_eq =>
      have inbound_eq : later.link.inbound = session.link.inbound := by rw [later_eq]
      refine .inr ⟨?_, inbound_eq ▸ List.suffix_refl _⟩
      have tale_eq : later.tale = session.tale ++ [.cancelled] := by
        rw [later_eq]
        exact tale_note session [.cancelled]
      rw [tale_eq, heard_append, later_eq]
      exact congrArg (· ++ _) (List.append_nil _)
  | retires advanced free done workers_eq later_eq => rw [later_eq]; exact .inr (.of_same rfl rfl)
  | asked request later_eq => rw [later_eq]; exact .inr (.of_same rfl rfl)
  | elapses time forward later_eq => rw [later_eq]; exact .inr (.of_same rfl rfl)
  | nothing ended later_eq => rw [later_eq]; exact .inr (.of_same rfl rfl)

theorem Feeds.reach {sent : List (Except ConnectionFault Inbound)}
    (reach : Reach model flags options start) (feeds : Feeds model start sent session) :
    Reach model flags options session := by
  induction feeds with
  | start => exact reach
  | sends before content listening ih => exact ih.step (.client (.arrive _ content))
  | step before step nothing ih => exact ih.step step

/-- In every run the client sends something, perhaps nothing. -/
theorem Reach.feeds (reach : Reach model flags options session) :
    ∃ sent, Feeds model (Session.idle flags options) sent session := by
  induction reach with
  | idle => exact ⟨[], .start⟩
  | step before step ih =>
      obtain ⟨sent, feeds⟩ := ih
      rcases (step.move before.identified).conserves with ⟨content, rfl, listening⟩ | conserves
      · exact ⟨_, feeds.sends content listening⟩
      · exact ⟨sent, feeds.step step conserves.suffix⟩

theorem Feeds.trans {early more : List (Except ConnectionFault Inbound)}
    {middle : Session Flags State Msg} (first : Feeds model start early middle)
    (second : Feeds model middle more session) : Feeds model start (early ++ more) session := by
  induction second with
  | start => rwa [List.append_nil]
  | sends before content listening ih => exact List.append_assoc .. ▸ ih.sends content listening
  | step before step nothing ih => exact ih.step step nothing

/-- What was received and what is still to be received is what the client sent. -/
structure Conserved (sent : List (Except ConnectionFault Inbound))
    (session : Session Flags State Msg) : Prop where
  received : heard session.tale ++ frames session.link.inbound = frames sent
  suffix : session.link.inbound <:+ sent

theorem frames_append (contents more : List (Except ConnectionFault Inbound)) :
    frames (contents ++ more) = frames contents ++ frames more := List.filterMap_append

theorem inbound_arrive {content : Except ConnectionFault Inbound}
    (listening : session.link.hungUp = false) :
    (session.arrive content).link.inbound = session.link.inbound ++ [content] := by
  simp [arrive, changeLink, wake, Link.send, listening]

theorem Feeds.conserved {sent : List (Except ConnectionFault Inbound)}
    (feeds : Feeds model (idle flags options) sent session) : Conserved sent session := by
  induction feeds with
  | start => exact ⟨rfl, List.suffix_refl _⟩
  | @sends sent session before content listening ih =>
      constructor
      · rw [inbound_arrive listening, frames_append, frames_append, ← ih.received,
          List.append_assoc]
        rfl
      · obtain ⟨received, sent_eq⟩ := ih.suffix
        rw [inbound_arrive listening]
        exact ⟨received, by rw [← List.append_assoc, sent_eq]⟩
  | step before step nothing ih =>
      have reach := before.reach .idle
      rcases (step.move reach.identified).conserves with ⟨content, rfl, listening⟩ | conserves
      · have longer := nothing.length_le
        rw [inbound_arrive listening, List.length_append, List.length_singleton] at longer
        omega
      · exact ⟨conserves.received.trans ih.received, conserves.suffix.trans ih.suffix⟩

/-! ## A worker that runs the session, through all of a run -/

/-- The worker is about to run the session. -/
structure Begins (tail : List (Job Msg)) (session : Session Flags State Msg)
    (worker : Worker Msg) : Prop where
  doing : Doing worker .run tail
  untouched : session.dealings worker.id = ([], [])
  verdict_eq : worker.verdict = .success
  tail_eq : tail = [.report] ∨ tail = [.join none, .report]

theorem Begins.goesOn (identified : Identified session) (started : session.started = true)
    (begins : Begins tail session worker) (member : worker ∈ session.workers)
    (advanced : session.advance model late worker.id = some later) :
    ∀ other ∈ later.workers, other.id = worker.id → Running tail orderly later other := by
  intro other present same
  rw [advance_doing identified member begins.doing] at advanced
  obtain rfl := Option.some.inj advanced
  simp only [perform, started, if_true] at present ⊢
  obtain rfl := eq_of_mem_setWorker present same
  refine ⟨none, [.read, .shutdown], ?_⟩
  exact
    { jobs_eq := rfl
      duties := ⟨rfl, by simp [Job.isChore], by simp, by simp⟩
      waits := rfl
      busy := fun held => absurd rfl held
      closing := fun waits => by cases waits
      attends := .inr fun _ => .inl List.mem_cons_self
      balanced := begins.untouched ▸ rfl
      verdict_eq := fun _ => begins.verdict_eq
      tail_eq := begins.tail_eq }

/-- How far a call to run the session is: a worker is about to run it, runs it or has done so, and
when the worker is gone it has given its verdict. -/
structure Reader (tail : List (Job Msg)) (orderly : Prop) (id : TaskId)
    (session : Session Flags State Msg) : Prop where
  known : id < session.nextId
  stage : ∀ worker ∈ session.workers, worker.id = id →
    Begins tail session worker ∨ Running tail orderly session worker ∨
      Returned orderly session worker
  gone : (∀ worker ∈ session.workers, worker.id ≠ id) →
    session.cancelled = true ∧ Balanced none (session.dealings id) ∧
      (orderly → .reported id .success ∈ session.history)

theorem Running.transfer (running : Running tail orderly session worker)
    (persists : Persists worker.id session later) (weaker : easier → orderly) :
    Running tail easier later worker := by
  obtain ⟨frame?, chores, runs⟩ := running
  refine ⟨frame?, chores, ?_⟩
  exact
    { jobs_eq := runs.jobs_eq
      duties := runs.duties.live persists.cancelled
      waits := runs.waits
      busy := runs.busy
      closing := fun waits => persists.cancelled (runs.closing waits)
      attends := runs.attends.imp_right fun attends sound =>
        attends.transfer persists (weaker sound)
      balanced := persists.dealings_eq ▸ runs.balanced
      verdict_eq := fun sound => runs.verdict_eq (weaker sound)
      tail_eq := runs.tail_eq }

theorem Returned.transfer (returned : Returned orderly session worker)
    (persists : Persists worker.id session later)
    (told : .reported worker.id .success ∈ session.history →
      .reported worker.id .success ∈ later.history) (weaker : easier → orderly) :
    Returned easier later worker where
  ended := persists.cancelled returned.ended
  stands := returned.stands
  balanced := persists.dealings_eq ▸ returned.balanced
  verdict_eq := fun sound => returned.verdict_eq (weaker sound)
  told := fun free none sound => told (returned.told free none (weaker sound))

/-- Whatever others do, the call is where it was. -/
theorem Reader.transfer (reader : Reader tail orderly id session)
    (more : session.nextId ≤ later.nextId) (persists : Persists id session later)
    (told : .reported id .success ∈ session.history → .reported id .success ∈ later.history)
    (same : ∀ worker : Worker Msg, worker.id = id →
      (worker ∈ later.workers ↔ worker ∈ session.workers)) (weaker : easier → orderly) :
    Reader tail easier id later where
  known := Nat.lt_of_lt_of_le reader.known more
  stage := by
    rintro worker member rfl
    rcases reader.stage worker ((same worker rfl).mp member) rfl with begins | running | returned
    · exact .inl
        ⟨begins.doing, persists.dealings_eq.trans begins.untouched, begins.verdict_eq,
          begins.tail_eq⟩
    · exact .inr (.inl (running.transfer persists weaker))
    · exact .inr (.inr (returned.transfer persists told weaker))
  gone := fun none => by
    obtain ⟨ended, balanced, reported⟩ := reader.gone fun worker member equal =>
      none worker ((same worker equal).mpr member) equal
    exact ⟨persists.cancelled ended, persists.dealings_eq ▸ balanced,
      fun sound => told (reported (weaker sound))⟩

theorem Tells.persists (tells : Tells model session worker base) (different : worker.id ≠ id)
    (hungUp_eq : base.link.hungUp = session.link.hungUp) : Persists id session base where
  cancelled := fun past => by
    cases tells with
    | nothing _ _ cancelled_eq | begins _ _ cancelled_eq => exact cancelled_eq.trans past
    | fails _ _ _ cancelled_eq | receives _ _ _ cancelled_eq => exact cancelled_eq.trans past
    | input _ _ _ cancelled_eq | resize _ _ _ cancelled_eq => exact cancelled_eq.trans past
    | follows _ _ _ cancelled_eq => exact cancelled_eq.trans past
    | cancels _ _ _ ended => exact ended
  finished := fun finished => by
    refine ⟨hungUp_eq.trans finished.1, ?_⟩
    exact List.suffix_nil.mp (finished.2 ▸ tells.conserves.suffix)
  dealings_eq := tells.dealings_eq different

theorem Reader.retires (reader : Reader tail orderly worker.id session)
    (identified : Identified session) (free : worker.wait = .nothing) (done : worker.jobs = [])
    (workers_eq : session.workers = before ++ worker :: after)
    (later_eq : later = { session with workers := before ++ after, ready := later.ready }) :
    Reader tail orderly worker.id later := by
  have absent : ∀ other ∈ later.workers, other.id ≠ worker.id := by
    rw [later_eq]
    exact id_ne_of_mem (workers_eq ▸ identified.unique)
  have member : worker ∈ session.workers :=
    workers_eq ▸ List.mem_append_right _ List.mem_cons_self
  have ended : session.cancelled = true ∧ Balanced none (session.dealings worker.id) ∧
      (orderly → .reported worker.id .success ∈ session.history) := by
    rcases reader.stage worker member rfl with begins | ⟨frame?, chores, runs⟩ | returned
    · exact absurd begins.doing.jobs_eq (by simp [done])
    · have jobs_eq := runs.jobs_eq
      rw [done] at jobs_eq
      have none := List.append_eq_nil_iff.mp (List.append_eq_nil_iff.mp jobs_eq.symm).2
      rcases runs.tail_eq with rfl | rfl <;> cases none.2
    · exact ⟨returned.ended, returned.balanced, returned.told free done⟩
  refine ⟨?_, fun other present same => absurd same (absent other present), fun _ => ?_⟩
  · rw [later_eq]
    exact reader.known
  · rw [later_eq]
    exact ended

theorem Turns.persists
    (turns : Turns model late session worker later base jobs next before after) :
    Persists id base later := by
  rw [turns.later_eq]
  exact .quiet [] rfl rfl rfl ⟨rfl, rfl⟩

theorem Reader.turns (reader : Reader tail orderly worker.id session)
    (identified : Identified session) (started : session.started = true)
    (shown : session.state ≠ none)
    (sound : orderly → Sound session.link)
    (advanced : session.advance model late worker.id = some later)
    (turns : Turns model late session worker later base jobs next before after) :
    Reader tail orderly worker.id later := by
  have same := turns.turn.id_eq
  have only (other : Worker Msg) (present : other ∈ later.workers) (equal : other.id = worker.id) :
      other = next := by
    rcases turns.mem_later.mp present with rfl | old | new
    · rfl
    · exact absurd equal (id_ne_of_mem (turns.workers_eq ▸ identified.unique) other old)
    · have below := identified.below worker turns.worker_mem
      exact absurd (equal ▸ (id_of_mem_hired new).1) (Nat.not_le_of_lt below)
  have present : next ∈ later.workers := turns.mem_later.mpr (.inl rfl)
  refine ⟨?_, ?_, fun none => absurd same (none next present)⟩
  · rw [turns.later_nextId]
    exact Nat.lt_add_right _ reader.known
  · have busy : worker.wait ≠ .nothing ∨ worker.jobs ≠ [] := by
      by_contra idle
      obtain ⟨free, done⟩ := not_or.mp idle
      rw [advance_done identified turns.worker_mem (not_not.mp free) (not_not.mp done)] at advanced
      rw [← Option.some.inj advanced] at present
      simp [retire, wake, same] at present
    have goesOn (returned : Returned orderly session worker) (other : Worker Msg)
        (member : other ∈ later.workers) (equal : other.id = worker.id) :
        Begins tail later other ∨ Running tail orderly later other ∨
          Returned orderly later other :=
      .inr (.inr (returned.goesOn identified turns.worker_mem busy advanced other member equal))
    rcases reader.stage worker turns.worker_mem rfl with begins | ⟨frame?, chores, runs⟩ | returned
    · exact fun other member equal => .inr (.inl
        (begins.goesOn identified started turns.worker_mem advanced other member equal))
    · rcases turns.turn.running runs shown sound with running | ⟨rfl, rfl, free⟩
      · intro other member equal
        obtain rfl := only other member equal
        exact .inr (.inl (running.transfer turns.persists fun sound => sound))
      · exact goesOn (runs.returned free)
    · exact goesOn returned

theorem ClientMove.finished (move : ClientMove session later) (finished : Finished session.link) :
    Finished later.link := by
  obtain ⟨hungUp, inbound_eq⟩ := finished
  cases move with
  | arrive content =>
      have link_eq : (session.arrive content).link = session.link := by
        simp [Session.arrive, changeLink, wake, Link.send, hungUp]
      exact link_eq ▸ ⟨hungUp, inbound_eq⟩
  | hangUp => exact ⟨rfl, inbound_eq⟩
  | pause | unpause | breakWrites => exact ⟨hungUp, inbound_eq⟩
  | leave => exact ⟨rfl, inbound_eq⟩

theorem Reader.move (reader : Reader tail orderly id session) (identified : Identified session)
    (started : session.started = true) (shown : session.state ≠ none)
    (sound : orderly → Sound session.link) (move : Move model session later) :
    Reader tail orderly id later := by
  have outside {later : Session Flags State Msg} (more : session.nextId ≤ later.nextId)
      (persists : Persists id session later)
      (told : .reported id .success ∈ session.history → .reported id .success ∈ later.history)
      (same : ∀ worker : Worker Msg, worker.id = id →
        (worker ∈ later.workers ↔ worker ∈ session.workers)) : Reader tail orderly id later :=
    reader.transfer more persists told same fun sound => sound
  cases move with
  | @turns late worker next base jobs before after advanced turns =>
      by_cases own : worker.id = id
      · subst own
        exact reader.turns identified started shown sound advanced turns
      · have persists : Persists id session later := by
          refine turns.tells.persists own ?_
          rw [turns.later_eq]
          exact turns.turn.hungUp_eq
        refine outside ?_ persists ?_ ?_
        · rw [turns.later_nextId]
          exact Nat.le_add_right _ _
        · rw [turns.later_eq]
          exact fun member => turns.turn.history_suffix.subset member
        · rintro other rfl
          have differs : other ≠ next := fun equal => own (turns.turn.id_eq ▸ equal ▸ rfl)
          have differs' : other ≠ worker := fun equal => own (equal ▸ rfl)
          rw [turns.mem_later, turns.workers_eq]
          simp only [List.mem_append, List.mem_cons, differs, differs', false_or]
          refine ⟨fun present => ?_, .inl⟩
          rcases present with old | new
          · exact old
          · exact absurd (id_of_mem_hired new).1 (Nat.not_le_of_lt reader.known)
  | @retires late worker before after advanced free done workers_eq later_eq =>
      by_cases own : worker.id = id
      · subst own
        exact reader.retires identified free done workers_eq later_eq
      · rw [later_eq]
        refine outside (Nat.le_refl _) (.quiet [] rfl rfl rfl ⟨rfl, rfl⟩) (fun told => told) ?_
        rintro other rfl
        have differs : other ≠ worker := fun equal => own (equal ▸ rfl)
        rw [workers_eq]
        simp [differs]
  | asked request later_eq =>
      rw [later_eq]
      refine outside (Nat.le_succ _) (.quiet [] rfl rfl rfl ⟨rfl, rfl⟩) (fun told => told) ?_
      rintro other rfl
      refine ⟨fun present => ?_, List.mem_append_left _⟩
      rcases List.mem_append.mp present with old | new
      · exact old
      · exact absurd (id_of_mem_hired new).1 (Nat.not_le_of_lt reader.known)
  | elapses time forward later_eq =>
      rw [later_eq]
      exact outside (Nat.le_refl _) (.quiet [] rfl rfl rfl ⟨rfl, rfl⟩) (fun told => told)
        fun _ _ => .rfl
  | client link move later_eq =>
      have finished : Finished session.link → Finished later.link := move.finished
      rw [later_eq] at finished ⊢
      exact outside (Nat.le_refl _) ⟨fun past => past, finished, rfl⟩ (fun told => told)
        fun _ _ => .rfl
  | cancels live later_eq =>
      rw [later_eq]
      refine outside (Nat.le_refl _) ⟨fun _ => rfl, fun finished => finished, ?_⟩
        (List.mem_cons_of_mem _) fun _ _ => .rfl
      exact dealings_of_silent (tale_note session [.cancelled]) rfl rfl
  | nothing ended later_eq => exact later_eq ▸ reader

theorem Reader.weaken (reader : Reader tail orderly id session) (weaker : easier → orderly) :
    Reader tail easier id session :=
  reader.transfer (Nat.le_refl _) ⟨fun past => past, fun finished => finished, rfl⟩
    (fun told => told) (fun _ _ => .rfl) weaker

theorem Conserved.sound {sent : List (Except ConnectionFault Inbound)}
    (conserved : Conserved sent session) (orderly : Orderly sent) : Sound session.link :=
  fun content member => orderly content (conserved.suffix.subset member)

/-- From when a worker is about to run the session, it is about to do so, does so, or has. -/
theorem Feeds.reader {told : Session Flags State Msg}
    {early more : List (Except ConnectionFault Inbound)}
    (first : Feeds model (idle flags options) early told) (member : worker ∈ told.workers)
    (doing : Doing worker .run tail) (started : told.started = true)
    (further : Feeds model told more session) :
    session.started = true ∧ Reader tail (Orderly (early ++ more)) worker.id session := by
  induction further with
  | start =>
      have reach := first.reach .idle
      have identified := reach.identified
      obtain ⟨tail_eq, verdict_eq, untouched⟩ := reach.begins member doing
      refine ⟨started, identified.below worker member, ?_, fun none => ?_⟩
      · intro other present same
        obtain rfl := identified.eq_of_id present member same
        exact .inl ⟨doing, untouched, verdict_eq, tail_eq⟩
      · exact absurd rfl (none worker member)
  | @sends sent session before content listening ih =>
      obtain ⟨started, reader⟩ := ih
      have feeds := first.trans before
      have reach := feeds.reach .idle
      have step : Step model session (session.arrive content) := .client (.arrive _ _)
      have move := step.move reach.identified
      have goesOn := reader.move reach.identified started (reach.shown started)
        feeds.conserved.sound move
      refine ⟨move.started started, goesOn.weaken fun orderly other member => ?_⟩
      refine orderly other ?_
      rw [← List.append_assoc]
      exact List.mem_append_left _ member
  | step before step nothing ih =>
      obtain ⟨started, reader⟩ := ih
      have feeds := first.trans before
      have reach := feeds.reach .idle
      have move := step.move reach.identified
      exact ⟨move.started started, reader.move reach.identified started (reach.shown started)
        feeds.conserved.sound move⟩

/-- The worker will not receive any more. -/
def HasStopped (worker : Worker Msg) : Prop :=
  (∀ job ∈ worker.jobs, job.receives = false) ∧ worker.wait.isReading = false

instance (worker : Worker Msg) : Decidable (HasStopped worker) := instDecidableAnd

/-- No other worker received anything: what the client sent belongs to one call. -/
def Alone (id : TaskId) (events : List (Event State Msg)) : Prop :=
  ∀ other frame, .received other frame ∈ events → other = id

/-- The frames of the client are handled by a worker once and in order. -/
structure Handled (model : Model Flags State Msg) (flags : Flags) (id : TaskId)
    (sent : List (Except ConnectionFault Inbound)) (session : Session Flags State Msg) :
    Prop where
  /-- The program is in the state that the history of what it was given tells. -/
  state_eq : session.state = model.replay flags none session.events
  /-- What was received and what is still to be received is what the client sent. -/
  received : heard session.events ++ frames session.link.inbound = frames sent
  /-- The worker gave the frames that it received to the program, but for one in hand. -/
  in_order : ∃ frame? : Option Inbound, givenBy id session.events ++ pending frame? =
    (heardBy id session.events).map Inbound.job
  /-- What a worker that receives alone gave is what the first frames of the client lead to. -/
  alone : Alone id session.events → givenBy id session.events <+: (frames sent).map Inbound.job
  /-- Nothing is received after the end, and what is given was received before it. -/
  deaf : ∀ before after, session.events = before ++ .cancelled :: after →
    heard after = [] ∧ givenBy id session.events <+: (heardBy id before).map Inbound.job
  /-- Nothing at all is given after the end where no frame is in hand at the end. -/
  settled : ∀ before after, session.events = before ++ .cancelled :: after →
    givenBy id before = (heardBy id before).map Inbound.job → givenBy id after = []
  /-- A worker that stops before the end has handled all that the client sent. -/
  whole : Orderly sent → session.cancelled = false →
    (∀ worker ∈ session.workers, worker.id = id → HasStopped worker) →
      session.link.hungUp = true ∧ heard session.events = frames sent ∧
        givenBy id session.events = (heardBy id session.events).map Inbound.job ∧
          (Alone id session.events → givenBy id session.events = (frames sent).map Inbound.job)
  /-- When nothing more can happen after the client has hung up, the call has come to a good end. -/
  returns : Orderly sent → session.link.hungUp = true → Still model session →
    .reported id .success ∈ session.history ∧
      givenBy id session.events = (heardBy id session.events).map Inbound.job

theorem heardBy_sublist (events : List (Event State Msg)) :
    (heardBy id events).Sublist (heard events) := by
  induction events with
  | nil => exact .slnil
  | cons event rest ih =>
      cases event with
      | received other frame =>
          unfold heardBy heard at ih ⊢
          simp only [List.filterMap_cons]
          split
          · exact ih.cons _
          · rename_i found
            split at found
            · obtain rfl := Option.some.inj found
              exact ih.cons_cons _
            · cases found
      | _ => exact ih

theorem Alone.heardBy_eq {events : List (Event State Msg)} (only : Alone id events) :
    heardBy id events = heard events := by
  unfold heardBy heard
  refine List.filterMap_congr fun event member => ?_
  cases event with
  | received other frame => exact if_pos (only other frame member)
  | _ => rfl

theorem Deaf.silent_events (deaf : Deaf session) {first last : List (Event State Msg)}
    (split : session.events = first ++ .cancelled :: last) : heard last = [] := by
  have tale_eq : session.tale =
      first.filter Event.isTold ++ .cancelled :: last.filter Event.isTold := by
    rw [tale, split, List.filter_append]
    rfl
  rw [← deaf.silent _ _ tale_eq]
  exact (filterMap_told (fun event untold => by cases event <;> first | rfl | cases untold) _).symm

theorem Reader.balanced (reader : Reader tail orderly id session) :
    ∃ frame?, Balanced frame? (session.dealings id) := by
  by_cases here : ∃ worker ∈ session.workers, worker.id = id
  · obtain ⟨worker, member, rfl⟩ := here
    rcases reader.stage worker member rfl with begins | ⟨frame?, chores, runs⟩ | returned
    · exact ⟨none, begins.untouched ▸ rfl⟩
    · exact ⟨frame?, runs.balanced⟩
    · exact ⟨none, returned.balanced⟩
  · exact ⟨none, (reader.gone fun worker member same => here ⟨worker, member, same⟩).2.1⟩

/-- A worker that has stopped before the end has nothing in hand, and all was received. -/
theorem Reader.stopped (reader : Reader tail orderly id session) (sound : orderly)
    (live : session.cancelled = false)
    (stopped : ∀ worker ∈ session.workers, worker.id = id → HasStopped worker) :
    Finished session.link ∧ Balanced none (session.dealings id) := by
  have past (ended : session.cancelled = true) : False := by simp [live] at ended
  by_cases here : ∃ worker ∈ session.workers, worker.id = id
  · obtain ⟨worker, member, rfl⟩ := here
    obtain ⟨unread, idle⟩ := stopped worker member rfl
    rcases reader.stage worker member rfl with begins | ⟨frame?, chores, runs⟩ | returned
    · exact Bool.noConfusion (unread .run (begins.doing.jobs_eq ▸ List.mem_cons_self))
    · have unread : .read ∉ chores := fun member =>
        have left : .read ∈ worker.jobs :=
          runs.jobs_eq ▸ List.mem_append_right _ (List.mem_append_left _ member)
        Bool.noConfusion (unread .read left)
      rcases runs.attends with ⟨deadline, waits⟩ | attends
      · rw [waits] at idle
        cases idle
      · rcases attends sound with member | ended | finished
        · exact absurd member unread
        · exact (past ended).elim
        · cases frame? with
          | none => exact ⟨finished, runs.balanced⟩
          | some frame => exact absurd (runs.busy (by simp)).2 unread
    · exact (past returned.ended).elim
  · exact (past (reader.gone fun worker member same => here ⟨worker, member, same⟩).1).elim

theorem Still.gone (reach : Reach model flags options session)
    (reader : Reader tail orderly id session) (hungUp : session.link.hungUp = true)
    (still : Still model session) :
    ∀ worker ∈ session.workers, worker.id ≠ id := by
  rintro worker member rfl
  have identified := reach.identified
  have stuck := still.stuck false worker.id
  have past (ended : session.cancelled = true) : False := by
    rw [still.workers_eq identified reach.lined reach.joinable ended] at member
    cases member
  rcases reader.stage worker member rfl with begins | ⟨frame?, chores, runs⟩ | returned
  · rw [advance_doing identified member begins.doing] at stuck
    cases stuck
  · cases waits : worker.wait with
    | nothing =>
        cases jobs : worker.jobs with
        | nil =>
            rw [advance_done identified member waits jobs] at stuck
            cases stuck
        | cons job rest =>
            rw [advance_doing identified member ⟨waits, jobs⟩] at stuck
            cases stuck
    | room frame deadline =>
        rw [advance_waiting identified member waits (by simp)] at stuck
        have due := still.deadline_le member (by rw [waits]; rfl)
        simp only [resume, due, if_true] at stuck
        split at stuck <;> cases stuck
    | lock purpose =>
        cases purpose with
        | keep | write => exact runs.not_waiting waits rfl
        | close => exact past (runs.closing waits)
    | inbound deadline =>
        rw [advance_waiting identified member waits (by simp)] at stuck
        simp only [resume, receive, Link.receive] at stuck
        split at stuck
        · cases stuck
        · cases inbound : session.link.inbound with
          | nil => simp [inbound] at stuck
          | cons content contents =>
              cases content with
              | ok frame => simp [inbound] at stuck
              | error fault => simp [inbound] at stuck
    | frame | delivery | beat | time | others => exact runs.not_waiting waits rfl
  · exact past returned.ended

/-- A turn of a worker receives what the client sent, and leaves the rest. -/
theorem suffix_of_advance {id : TaskId} (identified : Identified session)
    (advanced : session.advance model late id = some later) :
    later.link.inbound <:+ session.link.inbound := by
  obtain ⟨worker, before, after, rfl, workers_eq, ⟨-, -, later_eq⟩ | ⟨base, jobs, next, turns⟩⟩ :=
    advance_turns identified advanced
  · have inbound_eq : later.link.inbound = session.link.inbound := by rw [later_eq]
    exact inbound_eq ▸ List.suffix_refl _
  · exact turns.tells.conserves.suffix

theorem Feeds.turns {sent : List (Except ConnectionFault Inbound)} {ids : List TaskId}
    (feeds : Feeds model start sent session) (reach : Reach model flags options start)
    (went : ids.foldlM (advance model late) session = some later) :
    Feeds model start sent later := by
  induction ids generalizing session with
  | nil => exact Option.some.inj went ▸ feeds
  | cons id rest ih =>
      obtain ⟨between, first, further⟩ := Option.bind_eq_some_iff.mp went
      have identified := (feeds.reach reach).identified
      exact ih (feeds.step (.advance late id first) (suffix_of_advance identified first)) further

/-- A call to run the session on a started session handles the frames of the client once and in
order, whatever happens meanwhile. -/
theorem inbound_handled {told : Session Flags State Msg}
    {early more : List (Except ConnectionFault Inbound)}
    (first : Feeds model (idle flags options) early told) (member : worker ∈ told.workers)
    (doing : Doing worker .run tail) (started : told.started = true)
    (further : Feeds model told more session) :
    Handled model flags worker.id (early ++ more) session := by
  obtain ⟨started, reader⟩ := first.reader member doing started further
  have feeds := first.trans further
  have reach := feeds.reach .idle
  have conserved := feeds.conserved
  have all : heard session.events ++ frames session.link.inbound = frames (early ++ more) := by
    rw [← heard_tale]
    exact conserved.received
  have told_eq : session.dealings worker.id =
      (heardBy worker.id session.events, givenBy worker.id session.events) := by
    rw [dealings, heardBy_tale, givenBy_tale]
  obtain ⟨frame?, in_hand⟩ := reader.balanced
  have alike {frame? : Option Inbound} (balanced : Balanced frame? (session.dealings worker.id)) :
      givenBy worker.id session.events ++ pending frame? =
        (heardBy worker.id session.events).map Inbound.job := by
    rw [told_eq] at balanced
    exact balanced
  have none_left (balanced : Balanced none (session.dealings worker.id)) :
      givenBy worker.id session.events = (heardBy worker.id session.events).map Inbound.job :=
    (List.append_nil _).symm.trans (alike balanced)
  have deaf (before after : List (Event State Msg))
      (split : session.events = before ++ .cancelled :: after) :
      heard after = [] ∧
        givenBy worker.id session.events <+: (heardBy worker.id before).map Inbound.job := by
    have silent := reach.deaf.silent_events split
    refine ⟨silent, ?_⟩
    have nothing : heardBy worker.id after = [] :=
      List.sublist_nil.mp (silent ▸ heardBy_sublist after)
    have heard_eq : heardBy worker.id session.events = heardBy worker.id before := by
      rw [split, heardBy_append, ← List.singleton_append, heardBy_append, nothing]
      exact List.append_nil _
    rw [← heard_eq, ← alike in_hand]
    exact List.prefix_append _ _
  exact
    { state_eq := reach.state_eq_replay
      received := all
      in_order := ⟨frame?, alike in_hand⟩
      alone := fun only => by
        rw [← all, List.map_append, ← only.heardBy_eq, ← alike in_hand, List.append_assoc]
        exact List.prefix_append _ _
      deaf
      settled := fun before after split all_given => by
        obtain ⟨-, bounded⟩ := deaf before after split
        rw [← all_given, split, givenBy_append] at bounded
        -- What was given before the end is all that may be given, so nothing is added to it.
        have added : givenBy worker.id before ++ givenBy worker.id (.cancelled :: after) <+:
            givenBy worker.id before ++ [] := (List.append_nil _).symm ▸ bounded
        exact List.prefix_nil.mp ((List.prefix_append_right_inj _).mp added)
      whole := fun sound live stopped => by
        obtain ⟨⟨hungUp, inbound_eq⟩, balanced⟩ := reader.stopped sound live stopped
        rw [inbound_eq] at all
        have whole : heard session.events = frames (early ++ more) :=
          (List.append_nil _).symm.trans all
        refine ⟨hungUp, whole, none_left balanced, fun only => ?_⟩
        rw [none_left balanced, only.heardBy_eq, whole]
      returns := fun sound hungUp still => by
        obtain ⟨-, balanced, reported⟩ := reader.gone (still.gone reach reader hungUp)
        exact ⟨reported sound, none_left balanced⟩ }

theorem Feeds.ask {sent : List (Except ConnectionFault Inbound)}
    (feeds : Feeds model start sent session) (request : Request) :
    Feeds model start sent (session.ask request) :=
  feeds.step (.ask session request) (List.suffix_refl _)

theorem Feeds.hangUp {sent : List (Except ConnectionFault Inbound)}
    (feeds : Feeds model start sent session) : Feeds model start sent session.hangUp :=
  feeds.step (.client (.hangUp session)) (List.suffix_refl _)

/-- The smallest of all screens. -/
def cramped : SessionOptions := { geometry := .clamp 1 1 }

/-- A worker handles the two frames of a client that hangs up, and stops. -/
theorem inbound_handled_two : ∃ (told session : Session Unit Unit Unit) (worker : Worker Unit),
    Feeds quiet (idle () cramped) [] told ∧ worker ∈ told.workers ∧ Doing worker .run [.report] ∧
      told.started = true ∧
      Feeds quiet told [.ok (.binary [0x61]), .ok (.binary [0x62])] session ∧
      Handled quiet () worker.id [.ok (.binary [0x61]), .ok (.binary [0x62])] session ∧
      givenBy worker.id session.events =
        [Inbound.binary [0x61], .binary [0x62]].map Inbound.job := by
  -- Worker 1 starts the session, and worker 5 runs it.
  let asked : Session Unit Unit Unit := (idle () cramped).ask (.start 7)
  let opened := ([1, 1, 1, 1, 1, 1].foldlM (advance quiet false) asked).get (by decide +kernel)
  let told := opened.ask .run
  let sent := ((told.arrive (.ok (.binary [0x61]))).arrive (.ok (.binary [0x62]))).hangUp
  let session := ([5, 5, 5, 5, 5, 5, 5, 5, 5, 5, 5, 5].foldlM (advance quiet false) sent).get
    (by decide +kernel)
  have asks : Feeds quiet (idle () cramped) [] asked := Feeds.start.ask _
  have opens : Feeds quiet (idle () cramped) [] opened :=
    asks.turns (Reach.idle : Reach quiet () cramped _) (Option.some_get _).symm
  have tells : Feeds quiet (idle () cramped) [] told := opens.ask _
  have reach : Reach quiet () cramped told := tells.reach .idle
  have sends : Feeds quiet told [.ok (.binary [0x61]), .ok (.binary [0x62])] sent :=
    ((Feeds.start.sends _ (by decide +kernel)).sends _ (by decide +kernel)).hangUp
  have handles : Feeds quiet told [.ok (.binary [0x61]), .ok (.binary [0x62])] session :=
    sends.turns reach (Option.some_get _).symm
  let worker : Worker Unit := { id := opened.nextId, jobs := [.run, .report] }
  have member : worker ∈ told.workers := List.mem_append_right _ List.mem_cons_self
  have started : told.started = true := by decide +kernel
  have handled := inbound_handled tells member ⟨rfl, rfl⟩ started handles
  have stopped : ∀ other ∈ session.workers, other.id = worker.id → HasStopped other := by
    decide +kernel
  obtain ⟨-, -, given_eq, -⟩ := handled.whole (by simp [Orderly]) (by decide +kernel) stopped
  refine ⟨told, session, worker, tells, member, ⟨rfl, rfl⟩, started, handles, handled, ?_⟩
  have heard_eq : heardBy worker.id session.events = [.binary [0x61], .binary [0x62]] := by
    decide +kernel
  exact given_eq.trans (congrArg _ heard_eq)

end Session

end Showcase
