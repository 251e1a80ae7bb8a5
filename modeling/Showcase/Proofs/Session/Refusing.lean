import Showcase.Proofs.Session.Ending
import Showcase.Proofs.Session.Reporting

/-!
# A call that is refused

A call that comes too early or too late leaves the session as it is. Its worker says so and ends,
without waiting for anyone, whatever else happens meanwhile.
-/

namespace Showcase.Session

variable {Flags State Msg : Type} {model : Model Flags State Msg} {flags : Flags}
  {options : SessionOptions} {session later base : Session Flags State Msg} {late : Bool}
  {worker next : Worker Msg} {jobs : List (List (Job Msg))} {before after : List (Worker Msg)}
  {rest : List (Job Msg)} {id : TaskId} {fault : SessionFault}

/-- The sessions differ in their workers and in their history at most; nobody was hired. -/
def Untouched (session later : Session Flags State Msg) : Prop :=
  later =
    { session with
      workers := later.workers
      ready := later.ready
      nextTicket := later.nextTicket
      history := later.history }

/-- What there is left to do of a call that failed: to say so, or nothing. -/
inductive Answers (fault : SessionFault) (session : Session Flags State Msg) (worker : Worker Msg) :
    Prop where
  | due (doing : Doing worker .report []) (verdict_eq : worker.verdict = .failure fault)
  | done (free : worker.wait = .nothing) (jobs_eq : worker.jobs = [])
      (told : .reported worker.id (.failure fault) ∈ session.history)

/-- The call was refused: its worker has yet to say so, or has said so and nothing else. -/
structure Refused (fault : SessionFault) (id : TaskId) (session : Session Flags State Msg) :
    Prop where
  known : id < session.nextId
  told : ∀ verdict, .reported id verdict ∈ session.history → verdict = .failure fault
  stage : ∀ worker ∈ session.workers, worker.id = id → Answers fault session worker
  gone : (∀ worker ∈ session.workers, worker.id ≠ id) →
    .reported id (.failure fault) ∈ session.history

/-- The worker never waits, and whatever it does leaves the session as it is. -/
def Harmless (model : Model Flags State Msg) (id : TaskId) (session : Session Flags State Msg) :
    Prop :=
  ∀ worker ∈ session.workers, worker.id = id → ∀ late, ∃ later,
    session.advance model late id = some later ∧ Untouched session later

theorem Refused.harmless (identified : Identified session) (refused : Refused fault id session) :
    Harmless model id session := by
  rintro worker member rfl late
  cases refused.stage worker member rfl with
  | due doing => exact ⟨_, advance_doing identified member doing, rfl⟩
  | done free jobs_eq => exact ⟨_, advance_done identified member free jobs_eq, rfl⟩

theorem Answers.mono (answers : Answers fault session worker)
    (longer : session.history ⊆ later.history) : Answers fault later worker := by
  cases answers with
  | due doing verdict_eq => exact .due doing verdict_eq
  | done free jobs_eq told => exact .done free jobs_eq (longer told)

/-- The worker of the call goes on. -/
theorem Refused.advance (identified : Identified session)
    (refused : Refused fault worker.id session) (member : worker ∈ session.workers)
    (advanced : session.advance model late worker.id = some later) :
    Refused fault worker.id later := by
  obtain ⟨known, told, stage, -⟩ := refused
  cases stage worker member rfl with
  | due doing verdict_eq =>
      rw [advance_doing identified member doing] at advanced
      obtain rfl := Option.some.inj advanced
      have said : .reported worker.id (.failure fault) ∈
          (.reported worker.id worker.verdict :: session.history : List (Event State Msg)) :=
        verdict_eq ▸ List.mem_cons_self
      refine ⟨known, ?_, ?_, fun _ => said⟩
      · intro verdict reported
        rcases List.mem_cons.mp reported with now | old
        · injection now with _ verdict_eq'
          exact verdict_eq'.trans verdict_eq
        · exact told verdict old
      · intro other present same
        obtain rfl := eq_of_mem_setWorker present same
        exact .done rfl rfl said
  | done free jobs_eq said =>
      rw [advance_done identified member free jobs_eq] at advanced
      obtain rfl := Option.some.inj advanced
      refine ⟨known, told, ?_, fun _ => said⟩
      intro other present same
      simp [retire, wake, same] at present

/-- The others leave a call that was refused alone. -/
theorem Refused.transfer (refused : Refused fault id session)
    (more : session.nextId ≤ later.nextId)
    (reported : ∀ verdict, .reported id verdict ∈ later.history →
      .reported id verdict ∈ session.history)
    (longer : session.history ⊆ later.history)
    (present : ∀ worker ∈ later.workers, worker.id = id → worker ∈ session.workers)
    (stays : ∀ worker ∈ session.workers, worker.id = id → worker ∈ later.workers) :
    Refused fault id later where
  known := Nat.lt_of_lt_of_le refused.known more
  told verdict member := refused.told verdict (reported verdict member)
  stage worker member same := (refused.stage worker (present worker member same) same).mono longer
  gone absent := longer (refused.gone fun worker member same =>
    absent worker (stays worker member same) same)

/-- What a turn of another worker leaves of a worker. -/
theorem Turns.same_of_ne
    (turns : Turns model late session worker later base jobs next before after)
    (other : worker.id ≠ id) (known : id < session.nextId) :
    (∀ worker ∈ later.workers, worker.id = id → worker ∈ session.workers) ∧
      (∀ worker ∈ session.workers, worker.id = id → worker ∈ later.workers) ∧
      ∀ verdict, .reported id verdict ∈ later.history →
        .reported id verdict ∈ session.history := by
  refine ⟨fun candidate present same => ?_, fun candidate member same => ?_, fun verdict told => ?_⟩
  · rcases turns.mem_later.mp present with rfl | old | new
    · exact absurd (turns.turn.id_eq.symm.trans same) other
    · exact turns.other_mem old
    · exact absurd (same ▸ known) (Nat.not_lt_of_le (id_of_mem_hired new).1)
  · rw [turns.workers_eq] at member
    rcases eq_or_mem_around member with rfl | old
    · exact absurd same other
    · exact turns.mem_later.mpr (.inr (.inl old))
  · rw [turns.later_eq] at told
    exact (turns.turn.reported told).resolve_right fun same => other same.symm

theorem Move.refused (identified : Identified session) (refused : Refused fault id session)
    (move : Move model session later) : Refused fault id later := by
  have longer := move.history_suffix.subset
  have known := refused.known
  cases move with
  | @turns late worker next base jobs before after advanced turns =>
      by_cases own : worker.id = id
      · subst own
        exact refused.advance identified turns.worker_mem advanced
      · obtain ⟨present, stays, reported⟩ := turns.same_of_ne own known
        refine refused.transfer ?_ reported longer present stays
        rw [turns.later_nextId]
        exact Nat.le_add_right _ _
  | @retires late worker before after advanced free done workers_eq later_eq =>
      by_cases own : worker.id = id
      · subst own
        exact refused.advance identified
          (workers_eq ▸ List.mem_append_right _ List.mem_cons_self) advanced
      · rw [later_eq] at longer ⊢
        refine refused.transfer (Nat.le_refl _) (fun _ told => told) longer
          (fun other present _ => workers_eq ▸ mem_around present worker) ?_
        intro other member same
        rcases eq_or_mem_around (workers_eq ▸ member) with rfl | old
        · exact absurd same own
        · exact old
  | asked request later_eq =>
      rw [later_eq] at longer ⊢
      refine refused.transfer (Nat.le_succ _) (fun _ told => told) longer ?_
        fun _ member _ => List.mem_append_left _ member
      intro other present same
      rcases List.mem_append.mp present with old | new
      · exact old
      · exact absurd (same ▸ known) (Nat.not_lt_of_le (id_of_mem_hired new).1)
  | elapses time forward later_eq =>
      rw [later_eq] at longer ⊢
      exact refused.transfer (Nat.le_refl _) (fun _ told => told) longer (fun _ member _ => member)
        fun _ member _ => member
  | client link move later_eq =>
      rw [later_eq] at longer ⊢
      exact refused.transfer (Nat.le_refl _) (fun _ told => told) longer (fun _ member _ => member)
        fun _ member _ => member
  | cancels live later_eq =>
      rw [later_eq] at longer ⊢
      exact refused.transfer (Nat.le_refl _) (fun _ told => by simpa using told) longer
        (fun _ member _ => member) fun _ member _ => member
  | nothing ended later_eq =>
      rw [later_eq]
      exact refused

/-- A call that was refused comes to its end as such, whatever else happens. -/
theorem Refused.steps (reach : Reach model flags options session)
    (refused : Refused fault id session)
    (steps : Relation.ReflTransGen (Step model) session later) :
    Refused fault id later ∧ Harmless model id later := by
  induction steps with
  | refl => exact ⟨refused, refused.harmless reach.identified⟩
  | tail earlier step ih =>
      have reached := reach.steps earlier
      have refused := (step.move reached.identified).refused reached.identified ih.1
      exact ⟨refused, refused.harmless (reached.step step).identified⟩

/-- A worker whose job fails has yet to say so. -/
theorem refused_failing {job : Job Msg} (reach : Reach model flags options session)
    (member : worker ∈ session.workers) (doing : Doing worker job rest) (fault : SessionFault) :
    Refused fault worker.id (session.setWorker (worker.failing fault)) where
  known := reach.identified.below worker member
  told verdict told := absurd told (reach.unreported member doing verdict)
  stage other present same := by
    obtain rfl := eq_of_mem_setWorker present same
    exact .due ⟨doing.free, rfl⟩ rfl
  gone absent := absurd rfl (absent (worker.failing fault) (mem_setWorker member rfl))

end Showcase.Session
