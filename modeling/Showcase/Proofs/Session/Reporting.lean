import Showcase.Proofs.Session.Effects
import Showcase.Proofs.Session.Starting

/-!
# A call reports once

Whoever made a call is told once what it came to: the worker of the call reports last of all, and
nothing is left to it when it has.
-/

namespace Showcase

variable {Flags State Msg : Type}

/-- Whether the job reports what a call came to, at once or later. -/
def Job.reports : Job Msg → Bool
  | report => true
  | after _ job => job.reports
  | _ => false

/-- The worker has nothing to do after a report. -/
def Worker.ReportsLast (worker : Worker Msg) : Prop :=
  worker.agenda.Pairwise fun first _ => first.reports = false

/-- The worker has something left to do. -/
def Worker.IsBusy (worker : Worker Msg) : Prop := worker.wait ≠ .nothing ∨ worker.jobs ≠ []

theorem Inbound.reports_job (frame : Inbound) : (frame.job : Job Msg).reports = false := by
  unfold job
  split <;> rfl

section

variable {worker next : Worker Msg} {rest : List (Job Msg)}

theorem Worker.ReportsLast.goesOn (last : worker.ReportsLast) (new : List (Job Msg))
    (silent : ∀ job ∈ new, job.reports = false) (suffix : rest <:+ worker.jobs)
    (agenda_eq : next.agenda = new ++ rest) : next.ReportsLast := by
  have agenda := suffix.trans (List.suffix_append worker.wait.job?.toList worker.jobs)
  unfold Worker.ReportsLast
  rw [agenda_eq]
  refine List.pairwise_append.mpr ⟨?_, last.sublist agenda.sublist, fun job member _ _ =>
    silent job member⟩
  exact List.pairwise_of_forall_mem_list fun job member _ _ => silent job member

end

namespace Session

variable {model : Model Flags State Msg} {flags : Flags} {options : SessionOptions}
  {session later base : Session Flags State Msg} {late : Bool} {worker next : Worker Msg}
  {jobs : List (List (Job Msg))} {before after : List (Worker Msg)} {rest : List (Job Msg)}
  {id : TaskId}

theorem Turn.reportsLast (last : worker.ReportsLast)
    (turn : Turn model late session worker base jobs next) : next.ReportsLast := by
  cases turn with
  | passes passes => exact last.goesOn [] (by simp) passes.suffix rfl
  | startFails doing | runFails doing =>
      unfold Worker.ReportsLast
      simp [Worker.agenda, Worker.failing, doing.free, Wait.job?]
  | starts doing => exact last.goesOn [_, _, _, _] (by simp [Job.reports]) doing.suffix rfl
  | input doing => exact last.goesOn [_, _, _] (by simp [Job.reports]) doing.suffix rfl
  | resize doing | followsUp doing | runs doing =>
      exact last.goesOn [_, _] (by simp [Job.reports]) doing.suffix rfl
  | drops doing | opensLoops doing | rendersLater doing | reports doing | awaitsLock doing
  | awaitsInbound doing | awaitsBeat doing | joins doing =>
      exact last.goesOn [] (by simp) doing.suffix rfl
  | @applies pending quit rest doing =>
      refine last.goesOn (if quit then [.shutdown] else []) ?_ doing.suffix rfl
      cases quit <;> simp [Job.reports]
  | shutsDown doing | heartbeat doing =>
      exact last.goesOn [_] (by simp [Job.reports]) doing.suffix rfl
  | sleeps doing =>
      unfold Worker.ReportsLast at last ⊢
      rw [doing.agenda_eq] at last
      exact List.pairwise_cons.mpr (List.pairwise_cons.mp last)
  | keeps holds | closesNothing holds | skipsWrite holds | closes holds | awaitsDelivery holds =>
      exact last.goesOn [] (by simp) holds.suffix rfl
  | failsWrite holds | writes holds =>
      exact last.goesOn [_] (by simp [Job.reports]) holds.suffix rfl
  | deliveryEnds waits | frameEnds waits | pushesLate waits | joinTimesOut waits
  | joinShrinks waits =>
      exact last.goesOn [] (by simp) (List.suffix_refl worker.jobs) rfl
  | deliveryFails waits | delivers waits | rereads waits =>
      exact last.goesOn [_] (by simp [Job.reports]) (List.suffix_refl worker.jobs) rfl
  | beats waits =>
      exact last.goesOn [_, _] (by simp [Job.reports]) (List.suffix_refl worker.jobs) rfl
  | pushes brings | awaitsRoom brings => exact last.goesOn [] (by simp) brings.suffix rfl
  | takes seeks => exact last.goesOn [_] (by simp [Job.reports]) seeks.suffix rfl
  | findsClosed seeks | awaitsFrame seeks => exact last.goesOn [] (by simp) seeks.suffix rfl
  | receives listens =>
      have read : (Job.read : Job Msg).reports = false := rfl
      exact last.goesOn [_, _] (by simp [read, Inbound.reports_job]) listens.suffix rfl
  | readFails listens => exact last.goesOn [] (by simp) listens.suffix rfl
  | awakes waits =>
      unfold Worker.ReportsLast at last ⊢
      rw [Worker.agenda, waits] at last
      exact last

/-- A turn reports nothing, or it is the report of its worker. -/
theorem Turn.quiet_or_reports (turn : Turn model late session worker base jobs next) :
    (∀ id verdict, .reported id verdict ∈ base.history →
      .reported id verdict ∈ session.history) ∨
    ∃ rest, Doing worker .report rest ∧ next = worker.goOn rest ∧
      base.history = .reported worker.id worker.verdict :: session.history := by
  have absorbed {middle : Session Flags State Msg} (outcome : Outcome State Msg)
      (quiet : ∀ id verdict, .reported id verdict ∈ middle.history →
        .reported id verdict ∈ session.history) :
      ∀ id verdict, .reported id verdict ∈ (middle.absorb outcome).history →
        .reported id verdict ∈ session.history :=
    fun id verdict member => quiet id verdict ((reported_absorb outcome).mp member)
  cases turn with
  | reports doing => exact .inr ⟨_, doing, rfl, rfl⟩
  | starts | input | resize =>
      exact .inl (absorbed _ fun id verdict member => by simpa [note] using member)
  | followsUp | drops => exact .inl (absorbed _ fun id verdict member => member)
  | shutsDown doing =>
      refine .inl fun id verdict member => ?_
      have member : .reported id verdict ∈ session.cancel.history := member
      unfold cancel at member
      split at member <;> simpa [note, wake] using member
  | keeps holds | closesNothing holds | closes holds | skipsWrite holds | failsWrite holds
  | writes holds | awaitsDelivery holds =>
      refine .inl fun id verdict member => ?_
      cases holds <;> simpa using member
  | pushes brings | awaitsRoom brings =>
      refine .inl fun id verdict member => ?_
      cases brings <;> simpa using member
  | takes seeks | findsClosed seeks | awaitsFrame seeks =>
      refine .inl fun id verdict member => ?_
      cases seeks <;> simpa using member
  | deliveryFails waits | delivers waits | pushesLate waits =>
      exact .inl fun id verdict member => by simpa using member
  | receives listens => exact .inl fun id verdict member => by simpa using member
  | _ => exact .inl fun id verdict member => member

theorem Turns.isBusy (advanced : session.advance model late worker.id = some later)
    (identified : Identified session)
    (turns : Turns model late session worker later base jobs next before after) :
    worker.IsBusy := by
  by_contra idle
  obtain ⟨free, done⟩ := not_or.mp idle
  have present : next ∈ later.workers := turns.mem_later.mpr (.inl rfl)
  rw [advance_done identified turns.worker_mem (not_not.mp free) (not_not.mp done)] at advanced
  rw [← Option.some.inj advanced] at present
  simp [retire, wake, turns.turn.id_eq] at present

/-! ## Every run -/

/-- The worker reports last, and nothing is left to it once it has. -/
structure Concludes (session : Session Flags State Msg) (worker : Worker Msg) : Prop where
  last : worker.ReportsLast
  done : ∀ verdict, .reported worker.id verdict ∈ session.history → ¬ worker.IsBusy

theorem Request.reportsLast_jobs (request : Request) (id : TaskId) :
    ({ id, jobs := request.jobs } : Worker Msg).ReportsLast := by
  cases request with
  | render times => exact List.pairwise_replicate.mpr (.inr rfl)
  | _ => simp [Worker.ReportsLast, Worker.agenda, Wait.job?, Request.jobs, Job.reports]

theorem Turn.reportsLast_hired (turn : Turn model late session worker base jobs next)
    {other : Worker Msg} {first : TaskId} (member : other ∈ hired first jobs) :
    other.ReportsLast := by
  obtain ⟨-, -, free, mem⟩ := id_of_mem_hired member
  rw [Worker.ReportsLast, Worker.agenda, free]
  rcases turn.hires mem with eq | eq | ⟨delay, eq | ⟨depth, message, eq⟩⟩ <;> rw [eq] <;>
    exact List.pairwise_singleton _ _

theorem Turns.concludes (reach : Reach model flags options session)
    (advanced : session.advance model late worker.id = some later)
    (concludes : ∀ worker ∈ session.workers, Concludes session worker)
    (turns : Turns model late session worker later base jobs next before after) :
    ∀ worker ∈ later.workers, Concludes later worker := by
  have identified := reach.identified
  have history_eq : later.history = base.history := by rw [turns.later_eq]
  intro other member
  rcases turns.mem_later.mp member with rfl | old | new
  · obtain ⟨last, done⟩ := concludes _ turns.worker_mem
    refine ⟨turns.turn.reportsLast last, fun verdict told => ?_⟩
    rw [history_eq, turns.turn.id_eq] at told
    rcases turns.turn.quiet_or_reports with quiet | ⟨rest, doing, rfl, -⟩
    · exact absurd (turns.isBusy advanced identified) (done verdict (quiet _ _ told))
    · unfold Worker.ReportsLast at last
      rw [doing.agenda_eq] at last
      cases rest with
      | nil => simp [Worker.IsBusy, Worker.goOn]
      | cons job rest => cases (List.pairwise_cons.mp last).1 job List.mem_cons_self
  · obtain ⟨last, done⟩ := concludes other (turns.other_mem old)
    refine ⟨last, fun verdict told => done verdict ?_⟩
    rw [history_eq] at told
    have different := id_ne_of_mem (turns.workers_eq ▸ identified.unique) other old
    exact (turns.turn.reported told).resolve_right different
  · refine ⟨turns.turn.reportsLast_hired new, fun verdict told => ?_⟩
    have above := (id_of_mem_hired new).1
    rw [history_eq] at told
    rcases turns.turn.reported told with old | same
    · exact absurd (reach.reported_lt old) (Nat.not_lt_of_le above)
    · exact absurd (identified.below _ turns.worker_mem) (Nat.not_lt_of_le (same ▸ above))

theorem Move.concludes (reach : Reach model flags options session)
    (concludes : ∀ worker ∈ session.workers, Concludes session worker)
    (move : Move model session later) : ∀ worker ∈ later.workers, Concludes later worker := by
  intro other member
  cases move with
  | turns advanced turns => exact turns.concludes reach advanced concludes other member
  | @retires late worker before after advanced free done workers_eq later_eq =>
      rw [later_eq] at member ⊢
      obtain ⟨last, done⟩ := concludes other (workers_eq ▸ mem_around member worker)
      exact ⟨last, done⟩
  | asked request later_eq =>
      rw [later_eq] at member ⊢
      rcases List.mem_append.mp member with old | new
      · obtain ⟨last, done⟩ := concludes other old
        exact ⟨last, done⟩
      · obtain rfl := List.mem_singleton.mp new
        exact ⟨request.reportsLast_jobs _, fun verdict told =>
          absurd (reach.reported_lt told) (Nat.lt_irrefl _)⟩
  | elapses time forward later_eq =>
      rw [later_eq] at member ⊢
      exact ⟨(concludes other member).last, (concludes other member).done⟩
  | client link move later_eq =>
      rw [later_eq] at member ⊢
      exact ⟨(concludes other member).last, (concludes other member).done⟩
  | cancels live later_eq =>
      rw [later_eq] at member ⊢
      obtain ⟨last, done⟩ := concludes other member
      exact ⟨last, fun verdict told => done verdict (by simpa using told)⟩
  | nothing ended later_eq =>
      rw [later_eq] at member ⊢
      exact concludes other member

/-- In every run a worker that has reported has nothing left to do. -/
theorem Reach.concludes (reach : Reach model flags options session) :
    ∀ worker ∈ session.workers, Concludes session worker := by
  induction reach with
  | idle =>
      intro worker member
      cases member
  | step before step ih => exact (step.move before.identified).concludes before ih

/-- Nothing has been reported of a call that has yet to do something. -/
theorem Reach.unreported {job : Job Msg} (reach : Reach model flags options session)
    (member : worker ∈ session.workers) (doing : Doing worker job rest) (verdict : Verdict) :
    .reported worker.id verdict ∉ session.history := fun told =>
  (reach.concludes worker member).done verdict told (.inr (by simp [doing.jobs_eq]))

end Session

end Showcase
