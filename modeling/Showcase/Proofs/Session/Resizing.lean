import Showcase.Connection.RawStream
import Showcase.Proofs.Portfolio.Responding
import Showcase.Proofs.Session.Asking
import Showcase.Proofs.Session.Measuring

/-!
# Resizing

The geometry of a session changes only where a worker resizes, and it does so because it was asked
to or because the client announced a size. A client that sends no text keeps the geometry that the
session began with. A program that remembers its geometry agrees with the session about it.
-/

namespace Showcase

variable {Flags State Msg : Type}

/-- The geometry that the job gives to the program, at once or later. -/
def Job.size? : Job Msg → Option Geometry
  | resize geometry => some geometry
  | after _ job => job.size?
  | _ => none

/-- The geometries that the worker is to give to the program. -/
def Worker.sizes (worker : Worker Msg) : List Geometry := worker.agenda.filterMap Job.size?

theorem Worker.mem_sizes_of_suffix {worker : Worker Msg} {rest : List (Job Msg)}
    {geometry : Geometry} (suffix : rest <:+ worker.jobs)
    (member : geometry ∈ rest.filterMap Job.size?) : geometry ∈ worker.sizes := by
  rw [Worker.sizes, Worker.agenda, List.filterMap_append]
  exact List.mem_append_right _ ((suffix.sublist.filterMap _).subset member)

theorem Inbound.job_eq_resize {frame : Inbound} {geometry : Geometry}
    (sized : (frame.job : Job Msg).size? = some geometry) :
    ∃ content, frame = .text content ∧ frame.classify = .control (.resize geometry) := by
  cases frame with
  | binary bytes => cases sized
  | text content =>
      refine ⟨content, rfl, ?_⟩
      unfold job at sized
      split at sized <;> cases sized
      assumption

/-- A program that remembers the geometry it was given last. -/
structure Model.Remembers (model : Model Flags State Msg) (remembered : State → Geometry) :
    Prop where
  init : ∀ flags geometry, remembered (model.init flags geometry).1 = geometry
  update : ∀ state message, remembered (model.update state message).1 = remembered state
  resize : ∀ state geometry, remembered (model.resize state geometry).1 = geometry

theorem Model.Remembers.resolve {model : Model Flags State Msg} {remembered : State → Geometry}
    (remembers : model.Remembers remembered) {depth : Nat} (bounded : depth ≤ maxDepth)
    (command : Command Msg) (outcome : Outcome State Msg) :
    remembered (model.resolve depth command outcome).state = remembered outcome.state := by
  have carries : model.Carries (fun _ _ => True) fun _ later =>
      remembered later.state = remembered outcome.state :=
    { spreads := fun _ _ _ _ _ _ => trivial
      update := fun _ _ _ later _ _ same => (remembers.update later.state _).trans same
      drop := fun _ _ _ _ same => same
      quit := fun _ _ same => same
      task := fun _ _ _ _ _ _ same => same }
  exact carries.resolve depth bounded command [] outcome (fun _ _ => trivial) rfl

namespace Session

variable {model : Model Flags State Msg} {flags : Flags} {options : SessionOptions}
  {session later base : Session Flags State Msg} {late : Bool} {worker next : Worker Msg}
  {jobs : List (List (Job Msg))} {before after : List (Worker Msg)}
  {asked : List (TaskId × Request)} {id : TaskId} {geometry : Geometry}

/-! ## Where a geometry comes from -/

/-- A geometry that a worker is to give was in its agenda before, or has just been announced. -/
theorem Turn.mem_sizes (turn : Turn model late session worker base jobs next)
    (member : geometry ∈ next.sizes) :
    geometry ∈ worker.sizes ∨ ∃ content,
      .received worker.id (.text content) ∈ base.history ∧
        (Inbound.text content).classify = .control (.resize geometry) := by
  cases turn with
  | passes passes => exact .inl (Worker.mem_sizes_of_suffix passes.suffix member)
  | startFails doing | runFails doing =>
      simp [Worker.sizes, Worker.agenda, Worker.failing, doing.free, Wait.job?, Job.size?] at member
  | starts doing | opensLoops doing | input doing | resize doing | rendersLater doing
  | followsUp doing | drops doing | shutsDown doing | runs doing | heartbeat doing
  | reports doing | awaitsLock doing | awaitsInbound doing | awaitsBeat doing | joins doing =>
      exact .inl (Worker.mem_sizes_of_suffix doing.suffix member)
  | @applies pending quit rest doing =>
      refine .inl (Worker.mem_sizes_of_suffix doing.suffix ?_)
      cases quit <;> exact member
  | sleeps doing =>
      refine .inl ?_
      rw [Worker.sizes, doing.agenda_eq]
      exact member
  | keeps holds | closesNothing holds | closes holds | skipsWrite holds | failsWrite holds
  | writes holds | awaitsDelivery holds =>
      exact .inl (Worker.mem_sizes_of_suffix holds.suffix member)
  | deliveryEnds waits | deliveryFails waits | delivers waits | pushesLate waits
  | frameEnds waits | rereads waits | beats waits =>
      exact .inl (Worker.mem_sizes_of_suffix (List.suffix_refl _) member)
  | pushes brings | awaitsRoom brings =>
      exact .inl (Worker.mem_sizes_of_suffix brings.suffix member)
  | takes seeks | findsClosed seeks | awaitsFrame seeks =>
      exact .inl (Worker.mem_sizes_of_suffix seeks.suffix member)
  | @receives frame link rest listens found =>
      rcases List.mem_filterMap.mp member with ⟨job, present, sized⟩
      rcases List.mem_cons.mp present with rfl | further
      · obtain ⟨content, rfl, classified⟩ := Inbound.job_eq_resize sized
        exact .inr ⟨content, List.mem_cons_self, classified⟩
      · rcases List.mem_cons.mp further with rfl | left
        · cases sized
        · exact .inl (Worker.mem_sizes_of_suffix listens.suffix
            (List.mem_filterMap.mpr ⟨job, left, sized⟩))
  | readFails listens => exact .inl (Worker.mem_sizes_of_suffix listens.suffix member)
  | awakes waits =>
      refine .inl ?_
      rw [Worker.sizes, Worker.agenda, waits]
      exact member
  | joinTimesOut waits | joinShrinks waits =>
      exact .inl (Worker.mem_sizes_of_suffix (List.suffix_refl _) member)

/-- The geometry was asked for of the worker, or the worker received an announcement of it. -/
def Prompted (asked : List (TaskId × Request)) (session : Session Flags State Msg) (id : TaskId)
    (geometry : Geometry) : Prop :=
  (id, .resize geometry) ∈ asked ∨ ∃ content,
    .received id (.text content) ∈ session.history ∧
      (Inbound.text content).classify = .control (.resize geometry)

/-- Whatever a worker has given to the program or is to give to it has a reason. -/
structure Reasoned (asked : List (TaskId × Request)) (session : Session Flags State Msg) :
    Prop where
  planned : ∀ worker ∈ session.workers, ∀ geometry ∈ worker.sizes,
    Prompted asked session worker.id geometry
  done : ∀ id geometry, .resized id geometry ∈ session.history →
    Prompted asked session id geometry

theorem Prompted.mono {more : List (TaskId × Request)}
    (prompted : Prompted asked session id geometry) (larger : asked ⊆ more)
    (longer : session.history ⊆ later.history) : Prompted more later id geometry := by
  rcases prompted with wanted | ⟨content, received, classified⟩
  · exact .inl (larger wanted)
  · exact .inr ⟨content, longer received, classified⟩

/-- Only a resize adds one to the history. -/
theorem Marks.resized (marks : Marks model session worker base)
    (member : .resized id geometry ∈ base.history) :
    .resized id geometry ∈ session.history ∨ id = worker.id ∧ geometry ∈ worker.sizes := by
  have old {added : List (Event State Msg)} (plain : ∀ event ∈ added, event.IsPlain)
      (member : .resized id geometry ∈ added) : False := by
    cases (plain _ member).1
  cases marks with
  | nothing added history_eq plain =>
      rw [history_eq] at member
      exact .inl ((List.mem_append.mp member).resolve_left (old plain))
  | begins added history_eq plain | draws added shown body_eq history_eq plain =>
      rw [history_eq] at member
      have member := (List.mem_append.mp member).resolve_left (old plain)
      exact .inl ((List.mem_cons.mp member).resolve_left nofun)
  | resizes added doing shown history_eq plain =>
      rw [history_eq] at member
      have member := (List.mem_append.mp member).resolve_left (old plain)
      rcases List.mem_cons.mp member with same | member
      · cases same
        refine .inr ⟨rfl, ?_⟩
        simp [Worker.sizes, doing.agenda_eq, Job.size?]
      · exact .inl member

theorem Reasoned.turns (reasoned : Reasoned asked session)
    (turns : Turns model late session worker later base jobs next before after) :
    Reasoned asked later := by
  have history_eq : later.history = base.history := by rw [turns.later_eq]
  have longer : session.history ⊆ later.history :=
    history_eq ▸ turns.turn.history_suffix.subset
  have planned := reasoned.planned worker turns.worker_mem
  constructor
  · intro other present geometry member
    rcases turns.mem_later.mp present with rfl | old | new
    · rw [turns.turn.id_eq]
      rcases turns.turn.mem_sizes member with had | announced
      · exact (planned geometry had).mono (List.Subset.refl _) longer
      · exact .inr (history_eq ▸ announced)
    · exact (reasoned.planned other (turns.other_mem old) geometry member).mono
        (List.Subset.refl _) longer
    · obtain ⟨-, -, free, mem⟩ := id_of_mem_hired new
      rw [Worker.sizes, Worker.agenda, free] at member
      rcases turns.turn.hires mem with eq | eq | ⟨delay, eq | ⟨depth, message, eq⟩⟩ <;>
        rw [eq] at member <;> cases member
  · intro id geometry member
    rw [history_eq] at member
    rcases turns.turn.marks.resized member with old | ⟨rfl, had⟩
    · exact (reasoned.done id geometry old).mono (List.Subset.refl _) longer
    · exact (planned geometry had).mono (List.Subset.refl _) longer

theorem Request.mem_sizes_jobs {request : Request}
    (member : geometry ∈ (request.jobs : List (Job Msg)).filterMap Job.size?) :
    request = .resize geometry := by
  cases request with
  | resize other => simpa [Request.jobs, Job.size?, eq_comm] using member
  | render times => simp [Request.jobs, Job.size?] at member
  | start | run | serve | input | shutdown | join => simp [Request.jobs, Job.size?] at member

theorem Asks.reasoned (asks : Asks model (idle flags options) asked session) :
    Reasoned asked session := by
  induction asks with
  | start => exact ⟨fun _ member => (nomatch member), fun _ _ member => nomatch member⟩
  | @ask asked session before request ih =>
      have larger : asked ⊆ asked ++ [(session.nextId, request)] := List.subset_append_left _ _
      have same : session.history ⊆ (session.ask request).history := List.Subset.refl _
      constructor
      · intro other present geometry member
        rcases List.mem_append.mp present with old | new
        · exact (ih.planned other old geometry member).mono larger same
        · obtain rfl := List.mem_singleton.mp new
          obtain rfl := Request.mem_sizes_jobs member
          exact .inl (List.mem_append_right _ List.mem_cons_self)
      · intro id geometry member
        exact (ih.done id geometry member).mono larger same
  | @step asked session later before unasked ih =>
      have identified := (before.reach Reach.idle).identified
      have longer := (unasked.step.move identified).history_suffix.subset
      rcases unasked.turns_or_outside identified with
        ⟨late, worker, next, base, jobs, front, back, turns⟩ | ⟨fewer, told⟩
      · exact ih.turns turns
      · constructor
        · intro other present geometry member
          exact (ih.planned other (fewer other present) geometry member).mono
            (List.Subset.refl _) longer
        · intro id geometry member
          have old := (told _ member).resolve_right nofun
          exact (ih.done id geometry old).mono (List.Subset.refl _) longer

/-! ## A client that sends no text -/

/-- What comes from the client is no text: a frame of bytes, or a fault. -/
def IsRaw : Except ConnectionFault Inbound → Prop
  | .ok (.text _) => False
  | .ok (.binary _) => True
  | .error _ => True

theorem Prompted.asked_of_raw {sent : List (Except ConnectionFault Inbound)}
    (prompted : Prompted asked session id geometry)
    (feeds : Feeds model (idle flags options) sent session) (raw : ∀ content ∈ sent, IsRaw content) :
    (id, .resize geometry) ∈ asked := by
  refine prompted.resolve_right ?_
  rintro ⟨content, received, -⟩
  have all : heard session.events ++ frames session.link.inbound = frames sent :=
    heard_tale session ▸ feeds.conserved.received
  have told : .text content ∈ heard session.events :=
    List.mem_filterMap.mpr ⟨_, List.mem_reverse.mpr received, rfl⟩
  have present : .text content ∈ frames sent := all ▸ List.mem_append_left _ told
  obtain ⟨other, member, same⟩ := List.mem_filterMap.mp present
  cases other with
  | error fault => cases same
  | ok frame =>
      obtain rfl := Option.some.inj same
      exact raw _ member

theorem mem_of_lastGiven {events : List (Event State Msg)} (given : lastGiven events = some geometry) :
    ∃ event ∈ events, event.given? = some geometry := by
  obtain ⟨event, member, given⟩ := List.exists_of_findSome?_eq_some given
  exact ⟨event, List.mem_reverse.mp member, given⟩

/-- A session that resizes nothing keeps the geometry that it began with. -/
theorem Reach.geometry_eq (reach : Reach model flags options session)
    (never : ∀ id geometry, .resized id geometry ∉ session.history) :
    session.geometry = options.geometry := by
  have gauged := reach.gauged
  cases started : session.started with
  | false => exact gauged.idle started
  | true =>
      obtain ⟨event, member, given⟩ := mem_of_lastGiven (gauged.given started)
      cases event with
      | began geometry =>
          cases given
          have begun : session.geometry ∈ session.beginnings :=
            List.mem_filterMap.mpr ⟨_, member, rfl⟩
          rw [reach.beginnings_eq, started] at begun
          exact List.mem_singleton.mp begun
      | resized id geometry => exact absurd (List.mem_reverse.mp member) (never id geometry)
      | _ => cases given

/-! ## A program that remembers its geometry -/

/-- A run of a program that depends on something else, such as the time that a clock shows, which may
be another one in each step. -/
inductive Varies {Moment : Type} (model : Moment → Model Flags State Msg) (flags : Flags)
    (options : SessionOptions) : Session Flags State Msg → Prop where
  | idle : Varies model flags options (idle flags options)
  | step {session later : Session Flags State Msg} (before : Varies model flags options session)
      (moment : Moment) (step : Step (model moment) session later) :
      Varies model flags options later

/-- The program remembers the geometry of the session. -/
def Agrees (remembered : State → Geometry) (session : Session Flags State Msg) : Prop :=
  ∀ state, session.state = some state → remembered state = session.geometry

theorem agrees_of_some {remembered : State → Geometry} {state : State}
    (state_eq : session.state = some state) (same : remembered state = session.geometry) :
    Agrees remembered session := by
  intro other found
  obtain rfl := Option.some.inj (state_eq.symm.trans found)
  exact same

theorem Turn.agrees {remembered : State → Geometry} (remembers : model.Remembers remembered)
    (agrees : Agrees remembered session)
    (turn : Turn model late session worker base jobs next) : Agrees remembered base := by
  have dispatches {state : State} (shown : session.state = some state) {depth : Nat}
      (bounded : depth ≤ maxDepth) (message : Msg) :
      remembered (model.dispatch state depth message).state = session.geometry := by
    refine (remembers.resolve bounded _ _).trans ?_
    exact (remembers.update state message).trans (agrees state shown)
  cases turn with
  | starts doing fresh begun =>
      subst begun
      refine agrees_of_some rfl ((remembers.resolve (Nat.zero_le _) _ _).trans ?_)
      exact remembers.init session.flags session.geometry
  | input doing shown dispatched =>
      subst dispatched
      exact agrees_of_some rfl (dispatches shown (Nat.zero_le _) _)
  | resize doing shown adapted =>
      subst adapted
      refine agrees_of_some rfl ((remembers.resolve (Nat.zero_le _) _ _).trans ?_)
      exact remembers.resize _ _
  | followsUp doing shown shallow followed =>
      subst followed
      refine agrees_of_some rfl ?_
      rw [Model.followUp, if_pos shallow]
      exact dispatches shown shallow _
  | drops doing shown deep =>
      refine agrees_of_some rfl ?_
      rw [followUp_deep deep]
      exact agrees _ shown
  | shutsDown =>
      rw [cancel_eq]
      exact agrees
  | keeps holds | closesNothing holds | closes holds | skipsWrite holds | failsWrite holds
  | writes holds | awaitsDelivery holds => cases holds <;> exact agrees
  | pushes brings | awaitsRoom brings => cases brings <;> exact agrees
  | takes seeks | findsClosed seeks | awaitsFrame seeks => cases seeks <;> exact agrees
  | _ => exact agrees

theorem Change.agrees {remembered : State → Geometry} (remembers : model.Remembers remembered)
    (agrees : Agrees remembered session) (change : Change model session later) :
    Agrees remembered later := by
  cases change with
  | turns advanced turns =>
      have agrees := turns.turn.agrees remembers agrees
      rw [turns.later_eq]
      exact agrees
  | ends ended later_eq =>
      rw [later_eq, cancel_eq]
      exact agrees
  | stays stays =>
      unfold Agrees
      rw [stays.state_eq, stays.geometry_eq]
      exact agrees

theorem Varies.agrees {Moment : Type} {models : Moment → Model Flags State Msg}
    {remembered : State → Geometry} (remembers : ∀ moment, (models moment).Remembers remembered)
    (varies : Varies models flags options session) :
    Identified session ∧ Agrees remembered session := by
  induction varies with
  | idle => exact ⟨⟨List.nodup_nil, fun _ member => nomatch member⟩, nofun⟩
  | step before moment step ih =>
      obtain ⟨identified, agrees⟩ := ih
      have move := step.move identified
      exact ⟨move.identified identified, move.change.agrees (remembers moment) agrees⟩

end Session

namespace Portfolio

theorem remembers (clock : Clock) : (model clock).Remembers Portfolio.geometry where
  init _ _ := rfl
  resize _ _ := rfl
  update portfolio := portfolio.geometry_update clock

end Portfolio

namespace Connection.RawStream

/-- What a session receives from a raw terminal, up to its end, in a number of reads: each piece is
a frame of bytes. -/
def contents : Nat → RawStream → List (Except ConnectionFault Inbound)
  | 0, _ => []
  | reads + 1, stream =>
      match stream.receive with
      | (some (byte :: piece), rest) => .ok (.binary (byte :: piece)) :: rest.contents reads
      | _ => []

theorem isRaw_contents (reads : Nat) (stream : RawStream) :
    ∀ content ∈ stream.contents reads, Session.IsRaw content := by
  induction reads generalizing stream with
  | zero => exact List.forall_mem_nil _
  | succ reads ih =>
      unfold contents
      split
      · exact List.forall_mem_cons.mpr ⟨trivial, ih _⟩
      · exact List.forall_mem_nil _

end Connection.RawStream

namespace Session

/-- The geometry of a session, and what the program and the frames have of it. -/
structure Measured (model : Model Flags State Msg) (flags : Flags) (options : SessionOptions)
    (session : Session Flags State Msg) : Prop where
  allowed : (1 ≤ session.geometry.columns ∧ session.geometry.columns ≤ 1000) ∧
    (1 ≤ session.geometry.rows ∧ session.geometry.rows ≤ 1000)
  unstarted : session.started = false → session.geometry = options.geometry
  /-- The program has been given what the history tells. -/
  state_eq : session.state = model.replay flags none session.events
  given : session.started = true → lastGiven session.events = some session.geometry
  faithful : Faithful model flags session.events
  changes : ∀ later, Step model session later → later.geometry ≠ session.geometry →
    ∃ worker ∈ session.workers, ∃ rest, Doing worker (.resize later.geometry) rest
  reasoned : ∀ asked, Asks model (idle flags options) asked session →
    ∀ id geometry, .resized id geometry ∈ session.events → Prompted asked session id geometry
  kept : ∀ asked sent, Asks model (idle flags options) asked session →
    Feeds model (idle flags options) sent session →
      (∀ id geometry, (id, .resize geometry) ∉ asked) → (∀ content ∈ sent, IsRaw content) →
        session.geometry = options.geometry

theorem Step.resizes {model : Model Flags State Msg} {flags : Flags} {options : SessionOptions}
    {session later : Session Flags State Msg} (reach : Reach model flags options session)
    (step : Step model session later) (changes : later.geometry ≠ session.geometry) :
    ∃ worker ∈ session.workers, ∃ rest, Doing worker (.resize later.geometry) rest := by
  cases (step.move reach.identified).change with
  | @turns late worker next base jobs before after advanced turns =>
      have same : later.geometry = base.geometry := by rw [turns.later_eq]
      cases turns.turn.marks with
      | nothing _ _ _ _ geometry_eq | begins _ _ _ _ _ geometry_eq | draws _ _ _ _ _ _ geometry_eq =>
          exact absurd (same.trans geometry_eq) changes
      | resizes added doing shown history_eq plain started_eq geometry_eq =>
          rw [same, geometry_eq]
          exact ⟨worker, turns.worker_mem, _, doing⟩
  | ends ended later_eq => exact absurd (by rw [later_eq, cancel_eq]) changes
  | stays stays => exact absurd stays.geometry_eq changes

theorem Reach.measured {model : Model Flags State Msg} {flags : Flags} {options : SessionOptions}
    {session : Session Flags State Msg} (reach : Reach model flags options session) :
    Measured model flags options session where
  allowed := ⟨⟨session.geometry.one_le_columns, session.geometry.columns_le⟩,
    session.geometry.one_le_rows, session.geometry.rows_le⟩
  unstarted := reach.gauged.idle
  state_eq := reach.state_eq_replay
  given := reach.gauged.given
  faithful := reach.gauged.faithful
  changes _ step := step.resizes reach
  reasoned _ asks id geometry member := asks.reasoned.done id geometry (List.mem_reverse.mp member)
  kept _ _ asks feeds unasked raw := reach.geometry_eq fun id geometry member =>
    unasked id geometry ((asks.reasoned.done id geometry member).asked_of_raw feeds raw)

/-- The session, its program and its frames agree on the geometry. It changes only where a worker
resizes, for a reason, and a raw terminal gives none; and the portfolio remembers it, whatever the
time. -/
theorem geometry_agrees :
    (∀ {Flags State Msg : Type} (model : Model Flags State Msg) (flags : Flags)
      (options : SessionOptions) (session : Session Flags State Msg),
      Reach model flags options session → Measured model flags options session) ∧
    (∀ (stream : Connection.RawStream) (reads : Nat), ∀ content ∈ stream.contents reads,
      IsRaw content) ∧
    ∀ (palette : Portfolio.Palette) (options : SessionOptions)
      (session : Session Portfolio.Palette Portfolio Portfolio.Message),
      Varies Portfolio.model palette options session → Agrees Portfolio.geometry session :=
  ⟨fun _ _ _ _ reach => reach.measured, fun stream reads => stream.isRaw_contents reads,
    fun _ _ _ varies => (varies.agrees Portfolio.remembers).2⟩

/-- A client that announces a size is measured anew, a client that sends bytes is not, and the
portfolio has the size that it was told a minute later. -/
theorem geometry_agrees_announced :
    (∃ session : Session Unit Unit Unit, Reach quiet () cramped session ∧
      session.geometry = .clamp 2 3 ∧ lastGiven session.events = some (.clamp 2 3)) ∧
    (∃ session : Session Unit Unit Unit, Reach quiet () cramped session ∧
      heard session.events = [.binary [0x61]] ∧ session.geometry = cramped.geometry) ∧
    ∃ (session : Session Portfolio.Palette Portfolio Portfolio.Message) (portfolio : Portfolio),
      session.state = some portfolio ∧ portfolio.geometry = .clamp 100 40 := by
  -- Worker 1 starts the session, and worker 5 runs it.
  let asked : Session Unit Unit Unit := (idle () cramped).ask (.start 7)
  let opened := ([1, 1, 1, 1, 1, 1].foldlM (advance quiet false) asked).get (by decide +kernel)
  let told := opened.ask .run
  let announced := told.arrive (.ok (.text (resizeText 2 3)))
  let resized := ([5, 5, 5, 5].foldlM (advance quiet false) announced).get (by decide +kernel)
  let pressed := told.arrive (.ok (.binary [0x61]))
  let typed := ([5, 5, 5, 5].foldlM (advance quiet false) pressed).get (by decide +kernel)
  have opens : Asks quiet (idle () cramped) [(1, .start 7)] opened :=
    (Asks.start.ask _).turns (Option.some_get _).symm
  have tells : Asks quiet (idle () cramped) [(1, .start 7), (opened.nextId, .run)] told :=
    opens.ask _
  have types : Asks quiet (idle () cramped) [(1, .start 7), (opened.nextId, .run)] typed :=
    (tells.step (.client (.arrive _ _))).turns (Option.some_get _).symm
  have feeds : Feeds quiet (idle () cramped) [.ok (.binary [0x61])] typed := by
    have opens : Feeds quiet (idle () cramped) [] opened :=
      (Feeds.start.ask _).turns (Reach.idle : Reach quiet () cramped _) (Option.some_get _).symm
    exact ((opens.ask .run).sends _ (by decide +kernel)).turns
      (Reach.idle : Reach quiet () cramped _) (Option.some_get _).symm
  have reach : Reach quiet () cramped resized :=
    ((tells.reach .idle).step (.client (.arrive _ _))).steps
      (steps_of_foldlM (Option.some_get _).symm)
  refine ⟨⟨resized, reach, ?_⟩, ⟨typed, types.reach .idle, by decide +kernel, ?_⟩, ?_⟩
  · have measured := geometry_agrees.1 quiet () cramped resized reach
    have geometry_eq : resized.geometry = .clamp 2 3 := by decide +kernel
    exact ⟨geometry_eq, geometry_eq ▸ measured.given (by decide +kernel)⟩
  · have measured := geometry_agrees.1 quiet () cramped typed (types.reach .idle)
    exact measured.kept _ _ types feeds (by simp) (List.forall_mem_singleton.mpr trivial)
  · let asked : Session Portfolio.Palette Portfolio Portfolio.Message :=
      (idle .plain {}).ask (.start 7)
    let opened := (asked.advance (Portfolio.model ⟨0, 0⟩) false 1).get (by decide +kernel)
    let told := opened.ask (.resize (.clamp 100 40))
    let session := (told.advance (Portfolio.model ⟨60, 0⟩) false 2).get (by decide +kernel)
    have starts : Varies Portfolio.model .plain {} opened :=
      (Varies.idle.step ⟨0, 0⟩ (.ask _ _)).step ⟨0, 0⟩ (.advance false 1 (Option.some_get _).symm)
    have resizes : Varies Portfolio.model .plain {} session :=
      (starts.step ⟨60, 0⟩ (.ask _ _)).step ⟨60, 0⟩ (.advance false 2 (Option.some_get _).symm)
    obtain ⟨portfolio, shown⟩ : ∃ portfolio, session.state = some portfolio :=
      Option.isSome_iff_exists.mp (by decide +kernel)
    have geometry_eq : session.geometry = .clamp 100 40 := by decide +kernel
    exact ⟨session, portfolio, shown,
      (geometry_agrees.2.2 .plain {} session resizes portfolio shown).trans geometry_eq⟩

end Session

end Showcase
