import Showcase.Proofs.Harness.Pursuing
import Showcase.Proofs.Session.Backstage
import Showcase.Proofs.Session.Chains
import Showcase.Proofs.Session.Ending
import Showcase.Proofs.Session.Measuring

/-!
# A session that is given one thing after the other

A session is started and then given keys and sizes, each when the call before it has come to its
end. Meanwhile frames are drawn and written, but the worker of the last call is the only one that
gives the program anything, so the program comes to what the calls lead to, in their order.
-/

namespace Showcase

variable {Flags State Msg : Type}

namespace Cue

def job : Cue → Job Msg
  | key pressed => .input pressed
  | resize geometry => .resize geometry

def request : Cue → Session.Request
  | key pressed => .input pressed
  | resize geometry => .resize geometry

theorem jobs_request (cue : Cue) : (cue.request.jobs : List (Job Msg)) = [cue.job] := by
  cases cue <;> rfl

end Cue

namespace Session

variable {model : Model Flags State Msg} {flags : Flags} {options : SessionOptions}
  {session later base : Session Flags State Msg} {late : Bool} {worker next : Worker Msg}
  {jobs : List (List (Job Msg))} {before after : List (Worker Msg)} {rest : List (Job Msg)}
  {id : TaskId} {record? : Option (Record State Msg)} {record : Record State Msg} {quit : Bool}

/-! ## What a session shows of its program -/

/-- The session ended because the program asked to quit, or because a write failed. -/
def Excused (quit : Bool) (session : Session Flags State Msg) : Prop :=
  quit = true ∨ ∃ frame, .failed frame ∈ session.history

theorem Excused.mono {more : Bool} (excused : Excused quit session)
    (asks : quit = true → more = true) (longer : session.history ⊆ later.history) :
    Excused more later :=
  excused.imp asks fun ⟨frame, failed⟩ => ⟨frame, longer failed⟩

theorem backstage_later (backstage : worker.IsBackstage (Excused quit session))
    (longer : session.history ⊆ later.history) : worker.IsBackstage (Excused quit later) :=
  backstage.mono fun excused => excused.mono (fun asked => asked) longer

/-- The program of the session has come to what is on record, if it was started. -/
structure Shows (record? : Option (Record State Msg)) (session : Session Flags State Msg) :
    Prop where
  state_eq : session.state = record?.map Record.state
  started_eq : session.started = record?.isSome
  updates_eq : session.updates.map Prod.snd = record?.elim [] Record.updates
  ended : session.cancelled = true → Excused (record?.any Record.quit) session

theorem Shows.transfer (shows : Shows record? session) (state_eq : later.state = session.state)
    (started_eq : later.started = session.started) (effects_eq : later.effects = session.effects)
    (longer : session.history ⊆ later.history)
    (ended : later.cancelled = true →
      session.cancelled = true ∨ Excused (record?.any Record.quit) later) :
    Shows record? later where
  state_eq := state_eq.trans shows.state_eq
  started_eq := started_eq.trans shows.started_eq
  updates_eq := by rw [Session.updates_eq, effects_eq, ← Session.updates_eq, shows.updates_eq]
  ended finished := (ended finished).elim
    (fun before => (shows.ended before).mono id longer) fun excused => excused

/-- A worker that leaves the program alone takes a turn. -/
theorem Turns.shows (shows : Shows record? session)
    (backstage : worker.IsBackstage (Excused (record?.any Record.quit) session))
    (turns : Turns model late session worker later base jobs next before after) :
    Shows record? later := by
  have longer := turns.turn.history_suffix.subset
  have same : later.state = base.state ∧ later.started = base.started ∧
      later.history = base.history ∧ later.cancelled = base.cancelled := by
    rw [turns.later_eq]
    exact ⟨rfl, rfl, rfl, rfl⟩
  obtain ⟨state_eq, started_eq, history_eq, cancelled_eq⟩ := same
  have effects_eq : later.effects = base.effects := by rw [turns.later_eq]; rfl
  rcases turns.turn.performs_or_same with ⟨job, rest, doing, performs⟩ | ⟨state, started, effects⟩
  · rw [Job.performs_of_isBackstage (doing.backstage backstage).1] at performs
    cases performs
  · refine shows.transfer (state_eq.trans state) (started_eq.trans started)
      (effects_eq.trans effects) (history_eq ▸ longer) fun finished => ?_
    rcases turns.turn.same_or_shutdown with same | ⟨rest, doing⟩
    · exact .inl (same ▸ cancelled_eq ▸ finished)
    · exact .inr (((doing.backstage backstage).2 rfl).mono id (history_eq ▸ longer))

/-- Whoever is there after a turn of a worker that leaves the program alone was there before, or
leaves the program alone as well. -/
theorem Turns.backstage (backstage : worker.IsBackstage (Excused quit session))
    (turns : Turns model late session worker later base jobs next before after)
    {other : Worker Msg} (member : other ∈ later.workers) :
    other ∈ before ++ after ∨ other.IsBackstage (Excused quit later) := by
  have history_eq : later.history = base.history := by rw [turns.later_eq]
  have longer := turns.turn.history_suffix.subset
  have goesOn : next.IsBackstage (Excused quit later) := turns.turn.backstage
    (backstage_later backstage (history_eq ▸ longer : session.history ⊆ later.history))
    fun frame failed => .inr ⟨frame, history_eq ▸ failed⟩
  rcases turns.mem_later.mp member with rfl | old | new
  · exact .inr goesOn
  · exact .inl old
  · obtain ⟨-, -, free, listed⟩ := id_of_mem_hired new
    refine .inr ⟨by rw [free]; rfl, fun job mem => ?_⟩
    rw [Worker.agenda, free] at mem
    obtain ⟨ready, quiet⟩ := turns.turn.hires_backstage backstage _ listed job mem
    exact ⟨ready, fun stops => by rw [quiet] at stops; cases stops⟩

/-! ## What a call leads to -/

/-- What a job leads to that gives something to the program: the first one starts it. -/
inductive Leads (model : Model Flags State Msg) (flags : Flags) (geometry : Geometry) :
    Option (Record State Msg) → Job Msg → Record State Msg → Prop where
  | start {connection : Nat} {messages : List Msg} {state : State} {quit : Bool}
      (pursues : model.Pursues (model.init flags geometry).1 (model.init flags geometry).2
        messages state quit)
      (short : messages.length ≤ maxDepth) :
      Leads model flags geometry none (.start connection) ⟨state, messages, quit⟩
  | cue {record : Record State Msg} {cue : Cue} {messages : List Msg} {state : State} {quit : Bool}
      (pursues : model.Pursues (cue.react model record.state).1 (cue.react model record.state).2
        messages state quit)
      (short : messages.length ≤ maxDepth) :
      Leads model flags geometry (some record) cue.job
        ⟨state, record.updates ++ (cue.updates model ++ messages), record.quit || quit⟩

theorem Leads.performs {job : Job Msg}
    (leads : Leads model flags options.geometry record? job record) : job.performs = true := by
  cases leads with
  | start => rfl
  | @cue record cue => cases cue <;> rfl

/-- A worker has given something to the program, and has yet to take care of the outcome. -/
structure Takes (session : Session Flags State Msg) (worker : Worker Msg) (rest : List (Job Msg))
    (outcome : Outcome State Msg) (later : Session Flags State Msg) : Prop where
  state_eq : later.state = some outcome.state
  started_eq : later.started = true
  updates_eq : later.updates = session.updates ++ outcome.updates
  cancelled_eq : later.cancelled = session.cancelled
  workers_eq : ∃ new, later.workers = (session.setWorker (worker.goOn (new ++ rest))).workers ∧
    .apply outcome.pending outcome.quit ∈ new ∧
    ∀ job ∈ new, job = .apply outcome.pending outcome.quit ∨
      job.isBackstage = true ∧ job.stops = false

theorem updates_note (session : Session Flags State Msg) (events : List (Event State Msg)) :
    (session.note events).updates = session.updates ++ events.filterMap Event.update? := by
  simp [updates, Session.events, note]

theorem updates_note_absorb (session : Session Flags State Msg) (outcome : Outcome State Msg)
    {events : List (Event State Msg)} (quiet : events.filterMap Event.update? = []) :
    ((session.note events).absorb outcome).updates = session.updates ++ outcome.updates := by
  have noted : (session.note events).updates = session.updates := by
    rw [updates_note, quiet, List.append_nil]
  rw [← outcome.effects_updates, ← noted]
  exact updates_note _ _

theorem takes_start {connection : Nat} (fresh : session.started = false) :
    Takes session worker rest (model.begin session.flags session.geometry)
      (session.perform model { worker with jobs := rest } (.start connection)) := by
  simp only [perform, fresh, Bool.false_eq_true, if_false]
  refine ⟨rfl, rfl, updates_note_absorb session _ rfl, rfl, [.lock (.keep connection), .openLoops,
    .apply _ _, .renderLater session.options.settleDelay], rfl, by simp, ?_⟩
  simp [Job.isBackstage, Job.stops]

theorem takes_cue (cue : Cue) {state : State} (shown : session.state = some state)
    (started : session.started = true) :
    Takes session worker rest (cue.outcome model state)
      (session.perform model { worker with jobs := rest } cue.job) := by
  cases cue with
  | key pressed =>
      simp only [Cue.job, perform, shown]
      refine ⟨rfl, started, updates_note_absorb session _ rfl, rfl, [.apply _ _, .render,
        .renderLater session.options.followUpDelay], rfl, by simp [Cue.outcome], ?_⟩
      simp [Job.isBackstage, Job.stops, Cue.outcome]
  | resize geometry =>
      simp only [Cue.job, perform, shown]
      refine ⟨rfl, started, updates_note_absorb session _ rfl, rfl, [.apply _ _, .render], rfl,
        by simp [Cue.outcome], ?_⟩
      simp [Job.isBackstage, Job.stops, Cue.outcome]

/-- The worker of a call does what the call leads to. -/
theorem Leads.takes (tame : model.IsTame) (reach : Reach model flags options session)
    (worker : Worker Msg) (rest : List (Job Msg)) {job : Job Msg} (leads : Leads model flags options.geometry record? job record)
    (shows : Shows record? session) : ∃ outcome,
      Takes session worker rest outcome (session.perform model { worker with jobs := rest } job) ∧
      outcome.state = record.state ∧ outcome.pending = [] ∧
      (session.updates ++ outcome.updates).map Prod.snd = record.updates ∧
      record.quit = (record?.any Record.quit || outcome.quit) := by
  simp only [List.map_append, shows.updates_eq]
  cases leads with
  | start pursues short =>
      have fresh : session.started = false := shows.started_eq
      have extends_eq := pursues.resolve tame (tame.init _ _) 0 (by simpa using short)
        { state := (model.init flags options.geometry).1 } rfl
      refine ⟨_, takes_start fresh, ?_⟩
      rw [reach.flags_eq, reach.gauged.idle fresh]
      exact ⟨extends_eq.state_eq, extends_eq.pending_eq, extends_eq.updates_eq,
        extends_eq.quit_eq.symm⟩
  | @cue record cue messages state quit pursues short =>
      have tamed : (cue.react model record.state).2.IsTame := by
        cases cue with
        | key pressed => exact tame.update _ _
        | resize geometry => exact tame.resize _ _
      have extends_eq := pursues.resolve tame tamed 0 (by simpa using short)
        { state := (cue.react model record.state).1
          updates := (cue.updates model).map fun message => (0, message) } rfl
      rw [← cue.outcome_eq] at extends_eq
      refine ⟨_, takes_cue cue shows.state_eq shows.started_eq, extends_eq.state_eq,
        extends_eq.pending_eq, ?_, ?_⟩
      · rw [extends_eq.updates_eq]
        simp
      · rw [extends_eq.quit_eq]
        rfl

/-! ## How far a call has come -/

/-- The session comes to its end if the program asked to quit: it has ended, or the worker of the
call is about to end it. -/
def Quits (quit : Bool) (id : TaskId) (session : Session Flags State Msg) : Prop :=
  quit = true → session.cancelled = true ∨
    ∃ worker ∈ session.workers, worker.id = id ∧ ∃ job ∈ worker.jobs, job.stops = true

/-- The call that leads to a record is about to give something to the program, or has done so. -/
inductive Calling (model : Model Flags State Msg) (flags : Flags) (geometry : Geometry)
    (record : Record State Msg) (id : TaskId) (session : Session Flags State Msg) : Prop where
  | waits {record? : Option (Record State Msg)} {job : Job Msg} {worker : Worker Msg}
      {rest : List (Job Msg)} (leads : Leads model flags geometry record? job record)
      (member : worker ∈ session.workers) (same : worker.id = id) (doing : Doing worker job rest)
      (last : ∀ job ∈ rest, job = .report) (shows : Shows record? session)
      (others : ∀ other ∈ session.workers, other.id ≠ id →
        other.IsBackstage (Excused (record?.any Record.quit) session))
      (ended : record?.any Record.quit = true → session.cancelled = true)
  | taken (shows : Shows (some record) session)
      (all : ∀ worker ∈ session.workers, worker.IsBackstage (Excused record.quit session))
      (quits : Quits record.quit id session)

theorem eq_or_mem_of_setWorker {other : Worker Msg}
    (member : other ∈ (session.setWorker next).workers) :
    other = next ∨ other ∈ session.workers ∧ other.id ≠ next.id := by
  obtain ⟨old, present, rfl⟩ := List.mem_map.mp member
  by_cases hit : old.id = next.id
  · simp [hit]
  · simp [hit, present]

/-- The worker of the call takes its first turn. -/
theorem Calling.takes (tame : model.IsTame) (reach : Reach model flags options session)
    {job : Job Msg} (leads : Leads model flags options.geometry record? job record)
    (member : worker ∈ session.workers) (doing : Doing worker job rest)
    (last : ∀ job ∈ rest, job = .report) (shows : Shows record? session)
    (others : ∀ other ∈ session.workers, other.id ≠ worker.id →
      other.IsBackstage (Excused (record?.any Record.quit) session))
    (ended : record?.any Record.quit = true → session.cancelled = true)
    (advanced : session.advance model late worker.id = some later) :
    Calling model flags options.geometry record worker.id later := by
  have longer : session.history ⊆ later.history :=
    ((Step.advance late _ advanced).move reach.identified).history_suffix.subset
  rw [advance_doing reach.identified member doing] at advanced
  obtain ⟨outcome, takes, state_eq, pending_eq, updates_eq, quit_eq⟩ :=
    leads.takes tame reach worker rest shows
  rw [Option.some.inj advanced] at takes
  obtain ⟨new, workers_eq, applies, ready⟩ := takes.workers_eq
  have more (asked : record?.any Record.quit = true) : record.quit = true := by
    rw [quit_eq, asked, Bool.true_or]
  refine .taken ⟨?_, takes.started_eq, ?_, fun finished => ?_⟩ (fun other present => ?_) ?_
  · rw [takes.state_eq, state_eq]
    rfl
  · rw [takes.updates_eq, updates_eq]
    rfl
  · exact (shows.ended (takes.cancelled_eq ▸ finished)).mono more longer
  · rw [workers_eq] at present
    rcases eq_or_mem_of_setWorker present with rfl | ⟨old, differs⟩
    · refine ⟨rfl, fun job listed => ?_⟩
      rw [Worker.agenda_goOn] at listed
      rcases List.mem_append.mp listed with fresh | left
      · rcases ready job fresh with rfl | ⟨backstage, quiet⟩
        · rw [pending_eq]
          refine ⟨rfl, fun stops => .inl ?_⟩
          rw [quit_eq, show outcome.quit = true from stops, Bool.or_true]
        · exact ⟨backstage, fun stops => by rw [quiet] at stops; cases stops⟩
      · obtain rfl := last job left
        exact ⟨rfl, nofun⟩
    · exact (others other old differs).mono fun excused => excused.mono more longer
  · intro asked
    rw [quit_eq] at asked
    rcases Bool.or_eq_true_iff.mp asked with before | now
    · exact .inl (takes.cancelled_eq.trans (ended before))
    · have present : worker.goOn (new ++ rest) ∈ later.workers :=
        workers_eq ▸ mem_setWorker member rfl
      exact .inr ⟨_, present, rfl, _, List.mem_append_left _ applies, now⟩

/-- The end of the session comes closer whatever a worker does. -/
theorem Quits.turns (identified : Identified session) (quits : Quits quit id session)
    (all : ∀ worker ∈ session.workers, worker.IsBackstage (Excused quit session))
    (advanced : session.advance model late worker.id = some later)
    (turns : Turns model late session worker later base jobs next before after) :
    Quits quit id later := by
  intro asked
  rcases quits asked with ended | ⟨other, member, same, job, listed, stops⟩
  · refine .inl ?_
    rw [turns.later_eq]
    exact turns.turn.cancelled ended
  rcases eq_or_mem_around (turns.workers_eq ▸ member) with rfl | apart
  · rcases turns.turn.spares listed with left | ⟨rest, doing⟩ | ⟨first, rest, doing, foreign⟩
    · exact .inr ⟨next, turns.mem_later.mpr (.inl rfl), turns.turn.id_eq.trans same, job, left,
        stops⟩
    · obtain ⟨ready, -⟩ := doing.backstage (all other member)
      rw [advance_doing identified member doing] at advanced
      obtain rfl := Option.some.inj advanced
      cases job with
      | shutdown =>
          have ended : session.cancel.cancelled = true := by rw [cancel_eq]
          exact .inl ended
      | apply pending quits =>
          obtain rfl := List.isEmpty_iff.mp ready
          obtain rfl : quits = true := stops
          exact .inr ⟨_, mem_setWorker member rfl, same, .shutdown, List.mem_cons_self, rfl⟩
      | _ => cases stops
    · exact (doing.not_backstage (all other member) foreign).elim
  · exact .inr ⟨other, turns.mem_later.mpr (.inr (.inl apart)), same, job, listed, stops⟩

theorem Turns.calling (tame : model.IsTame) (reach : Reach model flags options session)
    (calling : Calling model flags options.geometry record id session)
    (advanced : session.advance model late worker.id = some later)
    (turns : Turns model late session worker later base jobs next before after) :
    Calling model flags options.geometry record id later := by
  have identified := reach.identified
  have longer : session.history ⊆ later.history :=
    ((Step.advance late _ advanced).move identified).history_suffix.subset
  have cancelled (ended : session.cancelled = true) : later.cancelled = true := by
    rw [turns.later_eq]
    exact turns.turn.cancelled ended
  cases calling with
  | @waits record? job caller rest leads member same doing last shows others ended =>
      by_cases own : worker.id = id
      · obtain rfl : caller = worker :=
          identified.eq_of_id member turns.worker_mem (same.trans own.symm)
        rw [← own] at others ⊢
        exact Calling.takes tame reach leads member doing last shows others ended advanced
      · have backstage := others worker turns.worker_mem own
        have stays : caller ∈ later.workers := by
          rcases eq_or_mem_around (turns.workers_eq ▸ member) with rfl | apart
          · exact absurd same own
          · exact turns.mem_later.mpr (.inr (.inl apart))
        refine .waits leads stays same doing last (turns.shows shows backstage) ?_
          fun asked => cancelled (ended asked)
        intro other present differs
        rcases turns.backstage backstage present with old | goesOn
        · exact backstage_later (others other (turns.other_mem old) differs) longer
        · exact goesOn
  | taken shows all quits =>
      have backstage := all worker turns.worker_mem
      refine .taken (turns.shows shows backstage) (fun other present => ?_)
        (quits.turns identified all advanced turns)
      rcases turns.backstage backstage present with old | goesOn
      · exact backstage_later (all other (turns.other_mem old)) longer
      · exact goesOn

/-- What happens outside of the workers does not matter, nor does a worker that is done. -/
theorem Calling.transfer (calling : Calling model flags options.geometry record id session)
    (same : later =
      { session with
        workers := later.workers
        link := later.link
        now := later.now
        ready := later.ready })
    (fewer : ∀ worker ∈ later.workers, worker ∈ session.workers)
    (stays : ∀ worker ∈ session.workers, worker.jobs ≠ [] → worker ∈ later.workers) :
    Calling model flags options.geometry record id later := by
  have history_eq : later.history = session.history := by rw [same]
  have longer : session.history ⊆ later.history := history_eq ▸ List.Subset.refl _
  have cancelled_eq : later.cancelled = session.cancelled := by rw [same]
  have transfers {record? : Option (Record State Msg)} (shows : Shows record? session) :
      Shows record? later :=
    shows.transfer (by rw [same]) (by rw [same]) (by rw [same]; rfl) longer
      fun finished => .inl (cancelled_eq ▸ finished)
  cases calling with
  | waits leads member own doing last shows others ended =>
      refine .waits leads (stays _ member (by simp [doing.jobs_eq])) own doing last
        (transfers shows) (fun other present differs => ?_) fun asked =>
          cancelled_eq.trans (ended asked)
      exact backstage_later (others other (fewer other present) differs) longer
  | taken shows all quits =>
      refine .taken (transfers shows)
        (fun other present => backstage_later (all other (fewer other present)) longer) ?_
      intro asked
      refine (quits asked).imp cancelled_eq.trans ?_
      rintro ⟨other, member, own, job, listed, stops⟩
      exact ⟨other, stays other member (List.ne_nil_of_mem listed), own, job, listed, stops⟩

/-! ## One call after the other -/

/-- What happens while nobody asks for anything and nobody ends the session from outside. -/
inductive Goes (model : Model Flags State Msg) :
    Session Flags State Msg → Session Flags State Msg → Prop where
  | advance {session later : Session Flags State Msg} (late : Bool) (id : TaskId)
      (advanced : session.advance model late id = some later) : Goes model session later
  | elapse (session : Session Flags State Msg) (time : Nat) (forward : session.now ≤ time) :
      Goes model session (session.elapse time)
  | client {session later : Session Flags State Msg} (move : ClientMove session later) :
      Goes model session later

/-- A run in which the session is started and then given one thing after the other, each when the
call before it has come to its end, with the worker of the last call. -/
inductive Rehearses (model : Model Flags State Msg) (flags : Flags) (options : SessionOptions) :
    List Cue → TaskId → Session Flags State Msg → Prop where
  | starts (connection : Nat) :
      Rehearses model flags options [] 1 ((idle flags options).ask (.start connection))
  | gives {cues : List Cue} {id : TaskId} {session : Session Flags State Msg}
      (before : Rehearses model flags options cues id session)
      (returned : session.isAlive id = false) (cue : Cue) :
      Rehearses model flags options (cues ++ [cue]) session.nextId (session.ask cue.request)
  | goes {cues : List Cue} {id : TaskId} {session later : Session Flags State Msg}
      (before : Rehearses model flags options cues id session) (goes : Goes model session later) :
      Rehearses model flags options cues id later

theorem Goes.step (goes : Goes model session later) : Step model session later := by
  cases goes with
  | advance late id advanced => exact .advance late id advanced
  | elapse time forward => exact .elapse session time forward
  | client move => exact .client move

theorem Goes.calling (tame : model.IsTame) (reach : Reach model flags options session)
    (calling : Calling model flags options.geometry record id session)
    (goes : Goes model session later) :
    Calling model flags options.geometry record id later := by
  cases goes with
  | advance late other advanced =>
      obtain ⟨worker, before, after, rfl, workers_eq, ⟨free, done, later_eq⟩ |
        ⟨base, jobs, next, turns⟩⟩ := advance_turns reach.identified advanced
      · rw [later_eq]
        refine calling.transfer rfl (fun _ present => workers_eq ▸ mem_around present worker) ?_
        intro candidate member busy
        rcases eq_or_mem_around (workers_eq ▸ member) with rfl | apart
        · exact absurd done busy
        · exact apart
      · exact turns.calling tame reach calling advanced
  | elapse time forward =>
      exact calling.transfer rfl (fun _ present => present) fun _ member _ => member
  | client move =>
      obtain ⟨link, later_eq⟩ := move.link_eq
      rw [later_eq]
      exact calling.transfer rfl (fun _ present => present) fun _ member _ => member

theorem Rehearses.reach {cues : List Cue}
    (rehearses : Rehearses model flags options cues id session) :
    Reach model flags options session := by
  induction rehearses with
  | starts connection => exact .step .idle (.ask _ _)
  | gives before returned cue ih => exact ih.step (.ask _ _)
  | goes before goes ih => exact ih.step goes.step

theorem leads_of_performs {cues : List Cue} {cue : Cue}
    (performs : model.Performs flags options.geometry (cues ++ [cue]) record) :
    ∃ before, model.Performs flags options.geometry cues before ∧
      Leads model flags options.geometry (some before) cue.job record := by
  generalize all_eq : cues ++ [cue] = all at performs
  cases performs with
  | begins pursues short => simp at all_eq
  | gives before pursues short =>
      obtain ⟨rfl, last⟩ := List.append_inj' all_eq rfl
      obtain rfl := List.singleton_inj.mp last
      exact ⟨_, before, .cue pursues short⟩

theorem Rehearses.turns {cues : List Cue} {ids : List TaskId} {worker : TaskId}
    (rehearses : Rehearses model flags options cues worker session)
    (went : ids.foldlM (advance model late) session = some later) :
    Rehearses model flags options cues worker later := by
  induction ids generalizing session with
  | nil => exact Option.some.inj went ▸ rehearses
  | cons id rest ih =>
      obtain ⟨between, first, further⟩ := Option.bind_eq_some_iff.mp went
      exact ih (rehearses.goes (.advance late id first)) further

theorem ne_of_gone (gone : session.isAlive id = false) (member : worker ∈ session.workers) :
    worker.id ≠ id := by
  rintro rfl
  have alive : session.isAlive worker.id = true :=
    List.any_eq_true.mpr ⟨worker, member, beq_self_eq_true _⟩
  rw [gone] at alive
  cases alive

/-- How far the last call of a run has come. -/
theorem Rehearses.calling (tame : model.IsTame) {cues : List Cue}
    (rehearses : Rehearses model flags options cues id session)
    (performs : model.Performs flags options.geometry cues record) :
    Calling model flags options.geometry record id session := by
  induction rehearses generalizing record with
  | starts connection =>
      generalize none_eq : ([] : List Cue) = all at performs
      cases performs with
      | begins pursues short =>
          refine .waits (.start pursues short) List.mem_cons_self rfl ⟨rfl, rfl⟩
            (List.forall_mem_singleton.mpr rfl) ⟨rfl, rfl, rfl, nofun⟩ ?_ nofun
          exact List.forall_mem_singleton.mpr fun differs => absurd rfl differs
      | gives before => simp at none_eq
  | @gives cues id session before returned cue ih =>
      obtain ⟨earlier, performed, leads⟩ := leads_of_performs performs
      cases ih performed with
      | waits leads member same => exact absurd same (ne_of_gone returned member)
      | taken shows all quits =>
          refine .waits leads (List.mem_append_right _ List.mem_cons_self) rfl
            ⟨rfl, cue.jobs_request⟩ (List.forall_mem_nil _)
            ⟨shows.state_eq, shows.started_eq, shows.updates_eq, shows.ended⟩ ?_ fun asked => ?_
          · intro other present differs
            rcases List.mem_append.mp present with old | new
            · exact all other old
            · obtain rfl := List.mem_singleton.mp new
              exact absurd rfl differs
          · rcases quits asked with ended | ⟨worker, member, same, -⟩
            · exact ended
            · exact absurd same (ne_of_gone returned member)
  | goes before goes ih => exact goes.calling tame before.reach (ih performs)

end Session

end Showcase
