import Showcase.Proofs.Session.Closing

/-!
# A start that succeeds

A call to start a session on a connection either fails, and is told so, or keeps the connection
before it comes to an end. From then on the connection is open until it is closed, once.
-/

namespace Showcase.Session

variable {Flags State Msg : Type} {model : Model Flags State Msg} {flags : Flags}
  {options : SessionOptions} {session later base : Session Flags State Msg} {late : Bool}
  {worker next : Worker Msg} {jobs : List (List (Job Msg))} {before after : List (Worker Msg)}
  {rest : List (Job Msg)} {connection : Nat} {id : TaskId}

/-! ## Going on, by number -/

theorem Identified.eq_of_id (identified : Identified session) {first second : Worker Msg}
    (left : first ∈ session.workers) (right : second ∈ session.workers)
    (same : first.id = second.id) : first = second :=
  List.inj_on_of_nodup_map identified.unique left right same

theorem Identified.worker?_eq (identified : Identified session)
    (member : worker ∈ session.workers) : session.worker? worker.id = some worker := by
  cases found : session.worker? worker.id with
  | none =>
      have absent := List.find?_eq_none.mp found worker member
      simp at absent
  | some other =>
      have same : other.id = worker.id := by simpa using List.find?_some found
      rw [identified.eq_of_id (List.mem_of_find?_eq_some found) member same]

theorem advance_doing {job : Job Msg} (identified : Identified session)
    (member : worker ∈ session.workers) (doing : Doing worker job rest) :
    session.advance model late worker.id =
      some (session.perform model { worker with jobs := rest } job) := by
  simp [advance, identified.worker?_eq member, doing.free, doing.jobs_eq]

theorem advance_done (identified : Identified session) (member : worker ∈ session.workers)
    (free : worker.wait = .nothing) (done : worker.jobs = []) :
    session.advance model late worker.id = some (session.retire worker) := by
  simp [advance, identified.worker?_eq member, free, done]

theorem advance_waiting {wait : Wait Msg} (identified : Identified session)
    (member : worker ∈ session.workers) (waits : worker.wait = wait)
    (busy : wait ≠ .nothing) :
    session.advance model late worker.id = session.resume worker late wait := by
  subst waits
  exact advance_of_busy (identified.worker?_eq member) busy

theorem eq_of_mem_setWorker {other : Worker Msg}
    (member : other ∈ (session.setWorker next).workers) (same : other.id = next.id) :
    other = next := by
  obtain ⟨old, -, rfl⟩ := List.mem_map.mp member
  by_cases hit : old.id = next.id
  · simp [hit]
  · simp [hit] at same

/-! ## A connection that was kept -/

/-- The session kept the connection: it is open, or it was closed once. -/
structure Kept (connection : Nat) (session : Session Flags State Msg) : Prop where
  started : session.started = true
  one : session.closings ++ session.connection.toList = [connection]

/-- Nobody keeps a second connection. -/
theorem Kept.keeps_eq_zero (sole : Sole session) (kept : Kept connection session)
    (member : worker ∈ session.workers) : worker.keeps = 0 := by
  have one := congrArg List.length kept.one
  have few := keeps_le_keepers member
  unfold Sole connections at sole
  rw [kept.started] at sole
  simp only [List.length_append, List.length_singleton, Bool.toNat_true] at one sole
  omega

theorem Turns.kept (sole : Sole session) (kept : Kept connection session)
    (turns : Turns model late session worker later base jobs next before after) :
    Kept connection later := by
  have none := kept.keeps_eq_zero sole turns.worker_mem
  obtain ⟨started, one⟩ := kept
  rw [turns.later_eq]
  cases turns.turn.sink with
  | stays started_eq connection_eq closings_eq =>
      exact ⟨started_eq.trans started, connection_eq ▸ closings_eq ▸ one⟩
  | starts fresh => exact absurd fresh (by simp [started])
  | keeps started_eq connection_eq closings_eq more => exact absurd more (by simp [none])
  | closes started_eq opened connection_eq closings_eq =>
      refine ⟨started_eq.trans started, ?_⟩
      show base.closings ++ base.connection.toList = [connection]
      rw [opened] at one
      rw [connection_eq, closings_eq]
      cases closings : session.closings with
      | nil => simpa [closings] using one
      | cons first further => simp [closings] at one

theorem Move.kept (sole : Sole session) (kept : Kept connection session)
    (move : Move model session later) : Kept connection later := by
  cases move with
  | turns advanced turns => exact turns.kept sole kept
  | retires advanced free done workers_eq later_eq => rw [later_eq]; exact ⟨kept.started, kept.one⟩
  | asked request later_eq => rw [later_eq]; exact ⟨kept.started, kept.one⟩
  | elapses time forward later_eq => rw [later_eq]; exact ⟨kept.started, kept.one⟩
  | client link move later_eq => rw [later_eq]; exact ⟨kept.started, kept.one⟩
  | cancels live later_eq => rw [later_eq]; exact ⟨kept.started, kept.one⟩
  | nothing ended later_eq => rw [later_eq]; exact kept

/-! ## What callers are told -/

theorem reported_absorb {verdict : Verdict} (outcome : Outcome State Msg) :
    .reported id verdict ∈ (session.absorb outcome).history ↔
      .reported id verdict ∈ session.history := by
  simp [absorb, note]

/-- A worker reports under its own number only. -/
theorem Turn.reported (turn : Turn model late session worker base jobs next) {verdict : Verdict}
    (member : .reported id verdict ∈ base.history) :
    .reported id verdict ∈ session.history ∨ id = worker.id := by
  cases turn with
  | starts doing =>
      rw [reported_absorb] at member
      exact .inl (by simpa [note] using member)
  | input doing | resize doing | followsUp doing | drops doing =>
      rw [reported_absorb] at member
      exact .inl (by simpa [note] using member)
  | shutsDown doing =>
      have member : .reported id verdict ∈ session.cancel.history := member
      unfold cancel at member
      split at member <;> exact .inl (by simpa [note, wake] using member)
  | keeps holds | closesNothing holds | closes holds | skipsWrite holds | failsWrite holds
  | writes holds | awaitsDelivery holds =>
      cases holds <;> exact .inl (by simpa using member)
  | pushes brings | awaitsRoom brings => cases brings <;> exact .inl (by simpa using member)
  | takes seeks | findsClosed seeks | awaitsFrame seeks =>
      cases seeks <;> exact .inl (by simpa using member)
  | deliveryFails waits | delivers waits | pushesLate waits => exact .inl (by simpa using member)
  | receives listens => exact .inl (by simpa using member)
  | reports doing =>
      rcases List.mem_cons.mp member with told | old
      · cases told
        exact .inr rfl
      · exact .inl old
  | _ => exact .inl member

theorem Reach.reported_lt (reach : Reach model flags options session) {verdict : Verdict}
    (member : .reported id verdict ∈ session.history) : id < session.nextId := by
  induction reach with
  | idle => cases member
  | step before step ih =>
      have identified := before.identified
      cases step.move identified with
      | retires advanced free done workers_eq later_eq => rw [later_eq] at member ⊢; exact ih member
      | turns advanced turns =>
          rw [turns.later_nextId]
          rw [turns.later_eq] at member
          refine Nat.lt_add_right _ ?_
          rcases turns.turn.reported member with old | rfl
          · exact ih old
          · exact identified.below _ turns.worker_mem
      | asked request later_eq =>
          rw [later_eq] at member ⊢
          exact Nat.lt_succ_of_lt (ih member)
      | elapses time forward later_eq => rw [later_eq] at member ⊢; exact ih member
      | client link move later_eq => rw [later_eq] at member ⊢; exact ih member
      | cancels live later_eq => rw [later_eq] at member ⊢; exact ih (by simpa using member)
      | nothing ended later_eq => rw [later_eq] at member ⊢; exact ih member

/-! ## A call to start -/

/-- The session has begun a start and has not kept a connection. -/
structure Fresh (session : Session Flags State Msg) : Prop where
  started : session.started = true
  unclosed : session.closings = []
  unopened : session.connection = none

/-- How far a worker that starts the session on a connection is. -/
inductive Stage (connection : Nat) (session : Session Flags State Msg) (worker : Worker Msg) :
    Prop where
  | first {rest : List (Job Msg)} (doing : Doing worker (.start connection) rest)
  | acquires {rest : List (Job Msg)} (doing : Doing worker (.lock (.keep connection)) rest)
      (fresh : Fresh session)
  | waits (waits : worker.wait = .lock (.keep connection)) (fresh : Fresh session)
  | failed (free : worker.wait = .nothing) (failure : worker.verdict ≠ .success)
      (jobs_eq : worker.jobs = [.report] ∨ worker.jobs = [])

/-- A call to start is under way, or it failed. -/
structure Starting (id : TaskId) (connection : Nat) (session : Session Flags State Msg) :
    Prop where
  known : id < session.nextId
  unreported : .reported id .success ∉ session.history
  stage : ∀ worker ∈ session.workers, worker.id = id → Stage connection session worker

theorem Stage.transfer (stage : Stage connection session worker)
    (fresh : Fresh session → 0 < worker.keeps → Fresh later) : Stage connection later worker := by
  cases stage with
  | first doing => exact .first doing
  | acquires doing old =>
      refine .acquires doing (fresh old ?_)
      rw [doing.keeps_eq]
      exact Nat.add_pos_left Nat.one_pos _
  | waits waits old =>
      refine .waits waits (fresh old ?_)
      rw [Worker.keeps, waits]
      exact Nat.add_pos_left Nat.one_pos _
  | failed free failure jobs_eq => exact .failed free failure jobs_eq

/-- While one worker is about to keep a connection, a turn of another one leaves that as it is. -/
theorem Turns.fresh (sole : Sole session) (fresh : Fresh session) {other : Worker Msg}
    (present : other ∈ before ++ after) (keeps : 0 < other.keeps)
    (turns : Turns model late session worker later base jobs next before after) : Fresh later := by
  obtain ⟨started, unclosed, unopened⟩ := fresh
  have few := keeps_le_keepers present
  have was := turns.keepers_eq.1
  rw [turns.later_eq]
  cases turns.turn.sink with
  | stays started_eq connection_eq closings_eq =>
      exact ⟨started_eq.trans started, closings_eq.trans unclosed, connection_eq.trans unopened⟩
  | starts fresh => exact absurd fresh (by simp [started])
  | keeps started_eq connection_eq closings_eq kept =>
      unfold Sole connections at sole
      rw [started, was, kept] at sole
      simp only [Bool.toNat_true] at sole
      omega
  | closes started_eq opened => exact absurd opened (by simp [unopened])

theorem Sole.fresh_of_idle (sole : Sole session) (idle : session.started = false) :
    session.closings = [] ∧ session.connection = none := by
  unfold Sole connections at sole
  rw [idle, Bool.toNat_false] at sole
  refine ⟨List.eq_nil_of_length_eq_zero (by omega), ?_⟩
  cases opened : session.connection with
  | none => rfl
  | some connection =>
      rw [opened, Option.toList_some, List.length_singleton] at sole
      omega

/-- The worker that starts the session goes on. -/
theorem Starting.goesOn (identified : Identified session) (sole : Sole session)
    (starting : Starting worker.id connection session) (member : worker ∈ session.workers)
    (advanced : session.advance model late worker.id = some later) :
    Starting worker.id connection later ∨ Kept connection later := by
  obtain ⟨known, unreported, stage⟩ := starting
  cases stage worker member rfl with
  | @first rest doing =>
      rw [advance_doing identified member doing] at advanced
      obtain rfl := Option.some.inj advanced
      simp only [perform]
      split
      · refine .inl ⟨known, unreported, ?_⟩
        intro other present same
        obtain rfl := eq_of_mem_setWorker present same
        exact .failed doing.free (by simp) (.inl rfl)
      · rename_i idle
        obtain ⟨unclosed, unopened⟩ := sole.fresh_of_idle (Bool.of_not_eq_true idle)
        refine .inl ⟨known, ?_, ?_⟩
        · intro told
          apply unreported
          have told := (reported_absorb _).mp told
          simpa [note] using told
        · intro other present same
          obtain rfl := eq_of_mem_setWorker present same
          exact .acquires ⟨rfl, rfl⟩ ⟨rfl, (closings_absorb _ _).trans unclosed, unopened⟩
  | @acquires rest doing fresh =>
      obtain ⟨started, unclosed, unopened⟩ := fresh
      rw [advance_doing identified member doing] at advanced
      obtain rfl := Option.some.inj advanced
      simp only [perform]
      split
      · exact .inr ⟨started, congrArg (· ++ [connection]) unclosed⟩
      · refine .inl ⟨known, unreported, ?_⟩
        intro other present same
        obtain rfl := eq_of_mem_setWorker present same
        exact .waits rfl ⟨started, unclosed, unopened⟩
  | waits waits fresh =>
      obtain ⟨started, unclosed, unopened⟩ := fresh
      rw [advance_waiting identified member waits (by simp)] at advanced
      simp only [resume] at advanced
      split at advanced
      · obtain rfl := Option.some.inj advanced
        exact .inr ⟨started, congrArg (· ++ [connection]) unclosed⟩
      · cases advanced
  | failed free failure jobs_eq =>
      rcases jobs_eq with report | done
      · rw [advance_doing identified member ⟨free, report⟩] at advanced
        obtain rfl := Option.some.inj advanced
        refine .inl ⟨known, ?_, ?_⟩
        · intro told
          rcases List.mem_cons.mp told with now | old
          · injection now with _ verdict_eq
            exact failure verdict_eq.symm
          · exact unreported old
        · intro other present same
          obtain rfl := eq_of_mem_setWorker present same
          exact .failed rfl failure (.inr rfl)
      · rw [advance_done identified member free done] at advanced
        obtain rfl := Option.some.inj advanced
        refine .inl ⟨known, unreported, ?_⟩
        intro other present same
        simp [retire, wake, same] at present

theorem Starting.transfer (starting : Starting id connection session)
    (more : session.nextId ≤ later.nextId)
    (told : .reported id .success ∈ later.history → .reported id .success ∈ session.history)
    (fresh : Fresh session → Fresh later)
    (present : ∀ worker ∈ later.workers, worker.id = id → worker ∈ session.workers) :
    Starting id connection later where
  known := Nat.lt_of_lt_of_le starting.known more
  unreported := fun reported => starting.unreported (told reported)
  stage := fun worker member same =>
    (starting.stage worker (present worker member same) same).transfer fun old _ => fresh old

theorem Starting.move (identified : Identified session) (sole : Sole session)
    (starting : Starting id connection session) (move : Move model session later) :
    Starting id connection later ∨ Kept connection later := by
  have unchanged (fresh : Fresh session) (started_eq : later.started = session.started)
      (closings_eq : later.closings = session.closings)
      (connection_eq : later.connection = session.connection) : Fresh later :=
    ⟨started_eq.trans fresh.started, closings_eq.trans fresh.unclosed,
      connection_eq.trans fresh.unopened⟩
  cases move with
  | @retires late worker before after advanced free done workers_eq later_eq =>
      rw [later_eq] at unchanged ⊢
      refine .inl (starting.transfer (Nat.le_refl _) (fun told => told)
        (fun fresh => unchanged fresh rfl rfl rfl) fun other present _ => ?_)
      exact workers_eq ▸ mem_around present worker
  | @turns late worker next base jobs before after advanced turns =>
      obtain ⟨known, unreported, stage⟩ := starting
      by_cases own : worker.id = id
      · subst own
        exact Starting.goesOn identified sole ⟨known, unreported, stage⟩ turns.worker_mem advanced
      · refine .inl ⟨?_, ?_, ?_⟩
        · rw [turns.later_nextId]
          exact Nat.lt_add_right _ known
        · intro told
          rw [turns.later_eq] at told
          rcases turns.turn.reported told with old | eq
          · exact unreported old
          · exact own eq.symm
        · intro other present same
          rcases turns.mem_later.mp present with rfl | old | new
          · exact absurd (turns.turn.id_eq.symm.trans same) own
          · exact (stage other (turns.other_mem old) same).transfer fun fresh keeps =>
              turns.fresh sole fresh old keeps
          · exact absurd (same ▸ known) (Nat.not_lt_of_le (id_of_mem_hired new).1)
  | asked request later_eq =>
      have known := starting.known
      rw [later_eq] at unchanged ⊢
      refine .inl (starting.transfer (Nat.le_succ _) (fun told => told)
        (fun fresh => unchanged fresh rfl rfl rfl) fun other present same => ?_)
      rcases List.mem_append.mp present with old | new
      · exact old
      · exact absurd (same ▸ known) (Nat.not_lt_of_le (id_of_mem_hired new).1)
  | elapses time forward later_eq =>
      rw [later_eq] at unchanged ⊢
      exact .inl (starting.transfer (Nat.le_refl _) (fun told => told)
        (fun fresh => unchanged fresh rfl rfl rfl) fun _ present _ => present)
  | client link move later_eq =>
      rw [later_eq] at unchanged ⊢
      exact .inl (starting.transfer (Nat.le_refl _) (fun told => told)
        (fun fresh => unchanged fresh rfl rfl rfl) fun _ present _ => present)
  | cancels live later_eq =>
      rw [later_eq] at unchanged ⊢
      exact .inl (starting.transfer (Nat.le_refl _) (fun told => by simpa using told)
        (fun fresh => unchanged fresh rfl rfl rfl) fun _ present _ => present)
  | nothing ended later_eq => rw [later_eq]; exact .inl starting

/-- A call to start on a connection has come to a good end: its caller was told, or the worker that
goes on to serve is about to run. -/
inductive Opened (model : Model Flags State Msg) (before : Session Flags State Msg)
    (connection : Nat) (session : Session Flags State Msg) : Prop where
  | start (steps : Relation.ReflTransGen (Step model) (before.ask (.start connection)) session)
      (told : .reported before.nextId .success ∈ session.history)
  | serve {worker : Worker Msg}
      (steps : Relation.ReflTransGen (Step model) (before.ask (.serve connection)) session)
      (member : worker ∈ session.workers) (same : worker.id = before.nextId)
      (doing : Doing worker .run [.join none, .report])

theorem starting_ask {session : Session Flags State Msg} {request : Request}
    (reach : Reach model flags options session)
    (jobs_eq : (request.jobs : List (Job Msg)) = .start connection :: rest) :
    Starting session.nextId connection (session.ask request) where
  known := Nat.lt_succ_self _
  unreported := fun told => Nat.lt_irrefl _ (reach.reported_lt told)
  stage := fun worker member same => by
    rcases List.mem_append.mp member with old | new
    · exact absurd same (Nat.ne_of_lt (reach.identified.below worker old))
    · obtain rfl := List.mem_singleton.mp new
      exact .first ⟨rfl, jobs_eq⟩

theorem starting_or_kept (reach : Reach model flags options session)
    (starting : Starting id connection session)
    (steps : Relation.ReflTransGen (Step model) session later) :
    Starting id connection later ∨ Kept connection later := by
  induction steps with
  | refl => exact .inl starting
  | tail earlier step ih =>
      have reached := reach.steps earlier
      have move := step.move reached.identified
      rcases ih with starting | kept
      · exact starting.move reached.identified reached.sole move
      · exact .inr (move.kept reached.sole kept)

/-- Once a start has come to a good end the session has kept its connection. -/
theorem Opened.kept {before : Session Flags State Msg} (reach : Reach model flags options before)
    (opened : Opened model before connection session) : Kept connection session := by
  cases opened with
  | start steps told =>
      rcases starting_or_kept (reach.step (.ask before _)) (starting_ask reach rfl) steps with
        starting | kept
      · exact absurd told starting.unreported
      · exact kept
  | serve steps member same doing =>
      rcases starting_or_kept (reach.step (.ask before _)) (starting_ask reach rfl) steps with
        starting | kept
      · cases starting.stage _ member same with
        | first other => cases doing.jobs_eq.symm.trans other.jobs_eq
        | acquires other => cases doing.jobs_eq.symm.trans other.jobs_eq
        | waits waits => cases doing.free.symm.trans waits
        | failed _ _ jobs_eq => rcases jobs_eq with eq | eq <;> cases doing.jobs_eq.symm.trans eq
      · exact kept

end Showcase.Session
