import Showcase.Proofs.Session.Closing
import Showcase.Proofs.Session.Tracing

/-!
# Chains of follow-ups

An update leads to messages and tasks, and these lead to further updates. In every run such a chain
has at most `maxDepth` links, whether it goes through messages or through tasks, and nothing but a
message that would make it longer is ever dropped.
-/

namespace Showcase

variable {Flags State Msg : Type}

def Event.update? : Event State Msg → Option (Nat × Msg)
  | updated depth message => some (depth, message)
  | _ => none

def Event.drop? : Event State Msg → Option (Nat × Msg)
  | dropped depth message => some (depth, message)
  | _ => none

def Event.key? : Event State Msg → Option Key
  | input _ key => some key
  | _ => none

namespace Outcome

variable (outcome : Outcome State Msg)

theorem effects_updates : outcome.effects.filterMap Event.update? = outcome.updates := by
  simp [effects, Event.update?, List.filterMap_map, Function.comp_def]

theorem effects_drops : outcome.effects.filterMap Event.drop? = outcome.dropped := by
  simp [effects, Event.drop?, List.filterMap_map, Function.comp_def]

theorem effects_keys : outcome.effects.filterMap Event.key? = [] := by
  simp [effects, Event.key?, List.filterMap_map, Function.comp_def]

end Outcome

namespace Session

/-- The updates that were made, in order, each with the depth that the session counted for it. -/
def updates (session : Session Flags State Msg) : List (Nat × Msg) :=
  session.events.filterMap Event.update?

/-- The messages that were dropped, in order, each with its depth. -/
def drops (session : Session Flags State Msg) : List (Nat × Msg) :=
  session.events.filterMap Event.drop?

/-- The keys that the program was given, in order. -/
def inputs (session : Session Flags State Msg) : List Key :=
  session.events.filterMap Event.key?

/-- The tasks whose messages are still to come. -/
def tasks (session : Session Flags State Msg) : List (Nat × Msg) :=
  session.workers.flatMap Worker.tasks

/-- What is read off the effects only is read off them. -/
theorem filterMap_effects {α : Type} {pick : Event State Msg → Option α}
    (only : ∀ event, event.isEffect = false → pick event = none)
    (session : Session Flags State Msg) :
    session.events.filterMap pick = session.effects.filterMap pick := by
  rw [effects, List.filterMap_filter]
  congr 1
  funext event
  cases quiet : event.isEffect with
  | true => rfl
  | false => exact only event quiet

theorem updates_eq (session : Session Flags State Msg) :
    session.updates = session.effects.filterMap Event.update? :=
  filterMap_effects (fun event quiet => by cases event <;> first | rfl | cases quiet) session

theorem drops_eq (session : Session Flags State Msg) :
    session.drops = session.effects.filterMap Event.drop? :=
  filterMap_effects (fun event quiet => by cases event <;> first | rfl | cases quiet) session

theorem inputs_eq (session : Session Flags State Msg) :
    session.inputs = session.effects.filterMap Event.key? :=
  filterMap_effects (fun event quiet => by cases event <;> first | rfl | cases quiet) session

/-! ## What was sent is accounted for -/

/-- All that a traced program sent is accounted for: an update was made for it, a worker has its
task, or it was dropped because it was too deep. Until the session ends nothing is lost. -/
structure Ledger (model : Model Flags State Msg)
    (session : Session Flags (Trace State Msg) (Traced Msg)) (tasks : List (Nat × Traced Msg)) :
    Prop where
  unstarted : session.started = false → session.state = none
  empty : session.state = none → session.effects = [] ∧ tasks = []
  accounts : ∀ trace, session.state = some trace → ∃ lost, (session.cancelled = false → lost = []) ∧
    Outcome.Accounts (session.updates.map fun update => (update.1, update.2.message))
      (session.inputs.map model.ofKey) (tasks.map Prod.snd ++ (session.drops.map Prod.snd ++ lost))
      { state := trace }
  task_links : ∀ task ∈ tasks, task.1 ≤ maxDepth ∧ task.2.links = task.1 + 1
  drop_links : ∀ drop ∈ session.drops, drop.1 = maxDepth + 1 ∧ drop.2.links = maxDepth + 1

namespace Ledger

variable {model : Model Flags State Msg}
  {session later : Session Flags (Trace State Msg) (Traced Msg)}
  {tasks others lost : List (Nat × Traced Msg)}
  {outcome : Outcome (Trace State Msg) (Traced Msg)}

theorem loses (ledger : Ledger model session tasks)
    (started : later.started = false → session.started = false)
    (state_eq : later.state = session.state) (effects_eq : later.effects = session.effects)
    (live : later.cancelled = false → session.cancelled = false ∧ lost = [])
    (perm : tasks.Perm (lost ++ others)) : Ledger model later others := by
  have updates_eq : later.updates = session.updates := by rw [updates_eq, updates_eq, effects_eq]
  have drops_eq : later.drops = session.drops := by rw [drops_eq, drops_eq, effects_eq]
  have inputs_eq : later.inputs = session.inputs := by rw [inputs_eq, inputs_eq, effects_eq]
  constructor
  · intro fresh
    rw [state_eq]
    exact ledger.unstarted (started fresh)
  · intro none
    obtain ⟨quiet, rfl⟩ := ledger.empty (state_eq ▸ none)
    rw [effects_eq, quiet]
    exact ⟨rfl, (List.append_eq_nil_iff.mp perm.nil_eq.symm).2⟩
  · intro trace found
    obtain ⟨gone, all, accounts⟩ := ledger.accounts trace (state_eq ▸ found)
    rw [updates_eq, drops_eq, inputs_eq]
    refine ⟨lost.map Prod.snd ++ gone, ?_, accounts.perm ?_⟩
    · intro on
      rw [(live on).2, all (live on).1]
      rfl
    · have both := perm.map Prod.snd
      rw [List.map_append] at both
      refine (both.append_right _).trans (Multiset.coe_eq_coe.mp ?_)
      simp only [← Multiset.coe_add]
      abel
  · intro task member
    exact ledger.task_links task (perm.mem_iff.mpr (List.mem_append_right _ member))
  · rw [drops_eq]
    exact ledger.drop_links

/-- What an event made of the program is entered. -/
theorem absorbs (ledger : Ledger model session tasks)
    {added : List (Event (Trace State Msg) (Traced Msg))}
    (state_eq : later.state = some outcome.state) (started : later.started = true)
    (effects_eq : later.effects = session.effects ++ added)
    (added_updates : added.filterMap Event.update? = outcome.updates)
    (added_drops : added.filterMap Event.drop? = outcome.dropped)
    (fewer : ∀ task ∈ others, task ∈ tasks)
    (accounts : ∃ lost, (later.cancelled = false → lost = []) ∧
      outcome.Accounts (session.updates.map fun update => (update.1, update.2.message))
        (later.inputs.map model.ofKey)
        (others.map Prod.snd ++ (session.drops.map Prod.snd ++ lost))) :
    Ledger model later (outcome.tasks ++ others) := by
  obtain ⟨lost, live, accounts⟩ := accounts
  have later_updates : later.updates = session.updates ++ outcome.updates := by
    rw [updates_eq, updates_eq, effects_eq, List.filterMap_append, added_updates]
  have later_drops : later.drops = session.drops ++ outcome.dropped := by
    rw [drops_eq, drops_eq, effects_eq, List.filterMap_append, added_drops]
  constructor
  · intro fresh
    cases started.symm.trans fresh
  · intro none
    cases state_eq.symm.trans none
  · intro trace found
    refine ⟨lost, live, ?_⟩
    obtain rfl := Option.some.inj (state_eq.symm.trans found)
    rw [later_updates, later_drops, List.map_append, List.map_append, List.map_append]
    exact accounts.settle
  · intro task member
    rcases List.mem_append.mp member with new | old
    · exact accounts.task_links task new
    · exact ledger.task_links task (fewer task old)
  · intro drop member
    rcases List.mem_append.mp (later_drops ▸ member) with old | new
    · exact ledger.drop_links drop old
    · exact accounts.dropped_links drop new

/-- Nothing is lost when the program is left alone. -/
theorem keeps (ledger : Ledger model session tasks)
    (started : later.started = false → session.started = false)
    (state_eq : later.state = session.state) (effects_eq : later.effects = session.effects)
    (live : later.cancelled = false → session.cancelled = false) (perm : tasks.Perm others) :
    Ledger model later others := by
  have perm : tasks.Perm ([] ++ others) := perm
  exact ledger.loses started state_eq effects_eq (fun on => ⟨live on, rfl⟩) perm

/-- A program that has a state was started. -/
theorem started (ledger : Ledger model session tasks) {trace : Trace State Msg}
    (shown : session.state = some trace) : session.started = true := by
  cases fresh : session.started with
  | true => rfl
  | false => cases shown.symm.trans (ledger.unstarted fresh)

end Ledger

theorem Turn.unstarted {model : Model Flags State Msg} {session base : Session Flags State Msg}
    {late : Bool} {worker next : Worker Msg} {jobs : List (List (Job Msg))}
    (turn : Turn model late session worker base jobs next) (fresh : base.started = false) :
    session.started = false := by
  cases turn.sink with
  | stays started_eq | keeps started_eq | closes started_eq => exact started_eq.symm.trans fresh
  | starts was started => exact was

theorem Turn.live {model : Model Flags State Msg} {session base : Session Flags State Msg}
    {late : Bool} {worker next : Worker Msg} {jobs : List (List (Job Msg))}
    (turn : Turn model late session worker base jobs next) (live : base.cancelled = false) :
    session.cancelled = false := by
  cases turn with
  | shutsDown doing => rw [cancel_eq] at live; cases live
  | keeps holds | closesNothing holds | closes holds | skipsWrite holds | failsWrite holds
  | writes holds | awaitsDelivery holds => cases holds <;> exact live
  | pushes brings | awaitsRoom brings => cases brings <;> exact live
  | takes seeks | findsClosed seeks | awaitsFrame seeks => cases seeks <;> exact live
  | _ => exact live

section

variable {model : Model Flags State Msg} {flags : Flags} {options : SessionOptions}
  {session later base : Session Flags (Trace State Msg) (Traced Msg)} {late : Bool}
  {worker next : Worker (Traced Msg)} {jobs : List (List (Job (Traced Msg)))}
  {before after : List (Worker (Traced Msg))} {others : List (Nat × Traced Msg)}

theorem Ledger.turn (ledger : Ledger model session (worker.tasks ++ others)) (tidy : worker.Tidy)
    (turn : Turn model.traced late session worker base jobs next) :
    Ledger model base ((next.tasks ++ jobs.flatten.flatMap Job.tasks) ++ others) := by
  have started (shown : session.started = true) : base.started = true := by
    cases fresh : base.started with
    | true => rfl
    | false => exact (turn.unstarted fresh).symm.trans shown
  cases turn.flow tidy with
  | none state_eq effects_eq tasks_perm =>
      exact ledger.keeps turn.unstarted state_eq effects_eq turn.live
        (tasks_perm.symm.append_right others)
  | loses lost excuse state_eq effects_eq unhired tasks_eq =>
      have perm : (worker.tasks ++ others).Perm (lost ++
          ((next.tasks ++ jobs.flatten.flatMap Job.tasks) ++ others)) := by
        simp [unhired, tasks_eq]
      refine ledger.loses turn.unstarted state_eq effects_eq (fun on => ⟨turn.live on, ?_⟩) perm
      rcases excuse with ended | idle
      · cases ended.symm.trans (turn.live on)
      · rw [(ledger.empty idle).2] at perm
        exact (List.append_eq_nil_iff.mp perm.nil_eq.symm).1
  | @begins outcome fresh started begun state_eq effects_eq unhired tasks_eq =>
      obtain ⟨quiet, none⟩ := ledger.empty (ledger.unstarted fresh)
      obtain ⟨idle, alone⟩ := List.append_eq_nil_iff.mp none
      have shape : (next.tasks ++ jobs.flatten.flatMap Job.tasks) ++ others =
          outcome.tasks ++ [] := by
        simp [unhired, tasks_eq, idle, alone]
      rw [shape]
      refine ledger.absorbs state_eq started effects_eq outcome.effects_updates
        outcome.effects_drops (fun _ member => nomatch member) ⟨[], fun _ => rfl, ?_⟩
      rw [updates_eq, drops_eq, inputs_eq, effects_eq, quiet, List.nil_append,
        outcome.effects_keys, begun]
      exact .begin _ _
  | @input outcome key trace shown dispatched state_eq effects_eq unhired tasks_eq =>
      have shape : (next.tasks ++ jobs.flatten.flatMap Job.tasks) ++ others =
          outcome.tasks ++ (worker.tasks ++ others) := by
        simp [unhired, tasks_eq]
      obtain ⟨lost, live, accounts⟩ := ledger.accounts trace shown
      rw [shape]
      refine ledger.absorbs state_eq (started (ledger.started shown)) effects_eq
        outcome.effects_updates outcome.effects_drops (fun _ member => member)
        ⟨lost, fun on => live (turn.live on), ?_⟩
      have inputs : base.inputs = session.inputs ++ [key] := by
        rw [inputs_eq, inputs_eq, effects_eq, List.filterMap_append, List.filterMap_cons,
          outcome.effects_keys]
        rfl
      rw [inputs, List.map_append, dispatched]
      exact accounts.dispatch_direct key
  | @resize outcome geometry trace shown adapted state_eq effects_eq unhired tasks_eq =>
      have shape : (next.tasks ++ jobs.flatten.flatMap Job.tasks) ++ others =
          outcome.tasks ++ (worker.tasks ++ others) := by
        simp [unhired, tasks_eq]
      obtain ⟨lost, live, accounts⟩ := ledger.accounts trace shown
      rw [shape]
      refine ledger.absorbs state_eq (started (ledger.started shown)) effects_eq
        outcome.effects_updates outcome.effects_drops (fun _ member => member)
        ⟨lost, fun on => live (turn.live on), ?_⟩
      rw [inputs_eq, effects_eq, List.filterMap_append, outcome.effects_keys, List.append_nil,
        ← inputs_eq, adapted]
      exact accounts.adapt geometry
  | @follows outcome depth message trace further shown followed state_eq effects_eq unhired had
      tasks_eq =>
      have shape : (next.tasks ++ jobs.flatten.flatMap Job.tasks) ++ others =
          outcome.tasks ++ (further ++ others) := by
        simp [unhired, tasks_eq]
      rw [had, List.cons_append] at ledger
      obtain ⟨lost, live, accounts⟩ := ledger.accounts trace shown
      obtain ⟨bounded, sound⟩ := ledger.task_links _ List.mem_cons_self
      rw [shape]
      refine ledger.absorbs state_eq (started (ledger.started shown)) effects_eq
        outcome.effects_updates outcome.effects_drops
        (fun _ member => List.mem_cons_of_mem _ member) ⟨lost, fun on => live (turn.live on), ?_⟩
      rw [inputs_eq, effects_eq, List.filterMap_append, outcome.effects_keys, List.append_nil,
        ← inputs_eq, followed]
      exact .followUp bounded sound accounts

theorem tasks_hired (first : TaskId) (jobs : List (List (Job Msg))) :
    (hired first jobs).flatMap Worker.tasks = jobs.flatten.flatMap Job.tasks := by
  induction jobs generalizing first with
  | nil => rfl
  | cons list rest ih =>
      rw [hired, List.flatMap_cons, ih, List.flatten_cons, List.flatMap_append]
      rfl

/-- The tasks of one worker may be taken first. -/
theorem tasks_around (before after : List (Worker Msg)) (worker : Worker Msg) :
    ((before ++ worker :: after).flatMap Worker.tasks).Perm
      (worker.tasks ++ (before ++ after).flatMap Worker.tasks) := by
  rw [List.flatMap_append, List.flatMap_append, List.flatMap_cons]
  refine Multiset.coe_eq_coe.mp ?_
  simp only [← Multiset.coe_add]
  abel

theorem Ledger.move (ledger : Ledger model session session.tasks)
    (tidy : ∀ worker ∈ session.workers, worker.Tidy)
    (move : Move model.traced session later) : Ledger model later later.tasks := by
  cases move with
  | @retires late worker before after advanced free done workers_eq later_eq =>
      have none : worker.tasks = [] := by
        rw [Worker.tasks, Worker.agenda, free, done]
        rfl
      have left := tasks_around before after worker
      rw [none, List.nil_append, ← workers_eq] at left
      rw [later_eq]
      exact ledger.keeps id rfl rfl id left
  | @turns late worker next base jobs before after advanced turns =>
      have split := tasks_around before after worker
      rw [← turns.workers_eq] at split
      have turned := (ledger.keeps id rfl rfl id split).turn (tidy _ turns.worker_mem) turns.turn
      rw [turns.later_eq]
      refine turned.keeps id rfl rfl id ?_
      have joined : ((next.tasks ++ jobs.flatten.flatMap Job.tasks) ++
          (before ++ after).flatMap Worker.tasks).Perm
            ((before ++ next :: (after ++ hired session.nextId jobs)).flatMap Worker.tasks) := by
        simp only [List.flatMap_append, List.flatMap_cons, tasks_hired]
        refine Multiset.coe_eq_coe.mp ?_
        simp only [← Multiset.coe_add]
        abel
      exact joined
  | asked request later_eq =>
      rw [later_eq]
      refine ledger.keeps id rfl rfl id (.of_eq ?_)
      have more : (session.workers ++ hired session.nextId [request.jobs]).flatMap Worker.tasks =
          session.tasks := by
        rw [List.flatMap_append, tasks_hired, List.flatten_singleton, request.tasks_jobs,
          List.append_nil]
        rfl
      exact more.symm
  | elapses time forward later_eq => rw [later_eq]; exact ledger.keeps id rfl rfl id (.refl _)
  | client link move later_eq => rw [later_eq]; exact ledger.keeps id rfl rfl id (.refl _)
  | cancels live later_eq =>
      rw [later_eq]
      exact ledger.keeps id rfl (effects_quiet [_] rfl rfl) (fun on => by cases on) (.refl _)
  | nothing ended later_eq => rw [later_eq]; exact ledger

theorem Reach.ledger (reach : Reach model.traced flags options session) :
    Ledger model session session.tasks := by
  induction reach with
  | idle =>
      exact ⟨fun _ => rfl, fun _ => ⟨rfl, rfl⟩, (fun _ found => nomatch found),
        (fun _ member => nomatch member), (fun _ member => nomatch member)⟩
  | step before step ih => exact ih.move before.tidy (step.move before.identified)

end

/-! ## The chains of a session -/

section

variable {State' Msg' : Type} (f : State → State') (g : Msg → Msg')
  (session : Session Flags State Msg)

theorem updates_map :
    (session.map f g).updates = session.updates.map fun update => (update.1, g update.2) := by
  simp only [updates, Session.events, Session.map, ← List.map_reverse, List.filterMap_map,
    List.map_filterMap]
  congr 1
  funext event
  cases event <;> rfl

theorem inputs_map : (session.map f g).inputs = session.inputs := by
  simp only [inputs, Session.events, Session.map, ← List.map_reverse, List.filterMap_map]
  congr 1
  funext event
  cases event <;> rfl

end

/-- The updates of a traced program. -/
def made (traced : Session Flags (Trace State Msg) (Traced Msg)) : List (Traced Msg) :=
  (traced.state.map Trace.made).getD []

/-- The messages that a traced program sent, those of its tasks included. -/
def sent (traced : Session Flags (Trace State Msg) (Traced Msg)) : List (Traced Msg) :=
  (traced.state.map Trace.sent).getD []

/-- The chains of follow-ups in a session are bounded, as a session of the traced program shows. -/
structure Chains (model : Model Flags State Msg) (session : Session Flags State Msg)
    (traced : Session Flags (Trace State Msg) (Traced Msg)) : Prop where
  /-- The session makes these updates, and the depths that it counts are their links. -/
  updates_eq : session.updates = traced.made.map Traced.stamp
  /-- No update has too many links. -/
  links_le : ∀ made ∈ traced.made, made.links ≤ maxDepth
  /-- There is one direct update for each key. -/
  direct_eq : (traced.made.filter fun made => made.links == 0).map Traced.message =
    session.inputs.map model.ofKey
  /-- The direct updates have different roots. -/
  direct_nodup : ((traced.made.filter fun made => made.links == 0).map Traced.root).Nodup
  /-- What is dropped would have had one link too many. -/
  drops_links : ∀ drop ∈ traced.drops, drop.2.links = maxDepth + 1
  /-- What is sent is made, waits as a task, or is dropped; only an ended session loses more. -/
  sent_perm : ∃ lost, (session.cancelled = false → lost = []) ∧
    traced.sent.Perm (traced.made.filter (fun made => made.links != 0) ++
      (traced.tasks.map Prod.snd ++ (traced.drops.map Prod.snd ++ lost)))
  /-- An event causes few updates if commands are small. -/
  few : ∀ most, model.SendsAtMost most → ∀ root,
    (traced.made.countP fun made => made.root = root) ≤ 1 + most + most * most

section

variable {model : Model Flags State Msg} {flags : Flags} {options : SessionOptions}
  {session : Session Flags State Msg} {traced : Session Flags (Trace State Msg) (Traced Msg)}

/-- Before the start there is nothing. -/
theorem Ledger.chains_of_none (ledger : Ledger model traced traced.tasks)
    (shown : traced.state = none) :
    Chains model (traced.map Trace.state Traced.message) traced := by
  obtain ⟨quiet, none⟩ := ledger.empty shown
  have made_eq : traced.made = [] := by rw [made, shown]; rfl
  have sent_eq : traced.sent = [] := by rw [sent, shown]; rfl
  have drops_eq : traced.drops = [] := by rw [drops_eq, quiet]; rfl
  constructor
  · rw [updates_map, updates_eq, quiet, made_eq]
    rfl
  · simp [made_eq]
  · rw [inputs_map, inputs_eq, quiet, made_eq]
    rfl
  · simp [made_eq]
  · simp [drops_eq]
  · refine ⟨[], fun _ => rfl, ?_⟩
    simp [made_eq, sent_eq, drops_eq, none]
  · intro most small root
    simp [made_eq]

theorem Ledger.chains_of_some {trace : Trace State Msg}
    (reached : Reach model.traced flags options traced) (shown : traced.state = some trace)
    (ledger : Ledger model traced traced.tasks) :
    Chains model (traced.map Trace.state Traced.message) traced := by
  have rooted := reached.preserves model.traced_rooted shown
  obtain ⟨lost, live, accounts⟩ := ledger.accounts trace shown
  have made_eq : traced.made = trace.made := by rw [made, shown]; rfl
  have sent_eq : traced.sent = trace.sent := by rw [sent, shown]; rfl
  constructor
  · rw [updates_map, made_eq, accounts.made_eq, List.map_nil, List.append_nil]
  · rw [made_eq]
    exact accounts.made_links
  · rw [inputs_map, made_eq]
    exact accounts.direct_eq
  · rw [made_eq]
    exact rooted.direct_nodup
  · intro drop member
    exact (ledger.drop_links drop member).2
  · refine ⟨lost, live, ?_⟩
    rw [sent_eq, made_eq]
    exact accounts.sent_perm
  · intro most small root
    have sparse := reached.preserves small.traced_sparse shown
    rw [made_eq]
    exact accounts.madeFrom_le_of_maxDepth rooted sparse root

/-- In every run of every program the chains of follow-ups are bounded. The traced program shows so
in any run that looks like this one, and there is such a run. -/
theorem effect_chains_bounded (reach : Reach model flags options session) :
    (∃ traced, Reach model.traced flags options traced ∧
      traced.map Trace.state Traced.message = session) ∧
    ∀ traced, Reach model.traced flags options traced →
      traced.map Trace.state Traced.message = session → Chains model session traced := by
  refine ⟨reach.lift model.traced_mirrors, ?_⟩
  rintro traced reached rfl
  cases shown : traced.state with
  | none => exact reached.ledger.chains_of_none shown
  | some trace => exact reached.ledger.chains_of_some reached shown

end

/-- A program that answers each message with a message and a task. -/
def fork : Model Unit Unit Unit where
  init _ _ := ((), .none)
  ofKey _ := ()
  update _ _ := ((), .several [.message (), .task ⟨5, ()⟩])
  resize _ _ := ((), .none)
  draw _ buffer := buffer

/-- One key makes as many updates here as it ever can: one, two, and four of them. -/
theorem effect_chains_bounded_fork : ∃ (session : Session Unit Unit Unit)
    (traced : Session Unit (Trace Unit Unit) (Traced Unit)),
    Reach fork () {} session ∧ session.inputs = [.enter] ∧
      session.updates.map Prod.fst = [0, 1, 2, 2, 1, 2, 2] ∧ fork.SendsAtMost 2 ∧
        Chains fork session traced := by
  let asked : Session Unit Unit Unit := (idle () {}).ask (.start 7)
  let opened := ([1, 1, 1, 1, 1].foldlM (advance fork false) asked).get (by decide +kernel)
  let told := opened.ask (.input .enter)
  -- Workers 6 to 8 wait for the tasks of the first three updates, 9 to 11 for those of the others.
  let first := ([5, 5, 6, 7, 8].foldlM (advance fork false) told).get (by decide +kernel)
  let second := ([6, 6, 7, 7, 7, 8, 8, 8, 9, 10, 11].foldlM (advance fork false)
    (first.elapse 5)).get (by decide +kernel)
  let session := ([9, 9, 10, 10, 11, 11].foldlM (advance fork false) (second.elapse 10)).get
    (by decide +kernel)
  have opens : Relation.ReflTransGen (Step fork) asked opened :=
    steps_of_foldlM (Option.some_get _).symm
  have tells : Relation.ReflTransGen (Step fork) told first :=
    steps_of_foldlM (Option.some_get _).symm
  have follows : Relation.ReflTransGen (Step fork) (first.elapse 5) second :=
    steps_of_foldlM (Option.some_get _).symm
  have ends : Relation.ReflTransGen (Step fork) (second.elapse 10) session :=
    steps_of_foldlM (Option.some_get _).symm
  have reach : Reach fork () {} first :=
    (((Reach.idle.step (.ask _ _)).steps opens).step (.ask _ _)).steps tells
  have reach : Reach fork () {} second :=
    (reach.step (.elapse _ 5 (by decide +kernel))).steps follows
  have reach : Reach fork () {} session :=
    (reach.step (.elapse _ 10 (by decide +kernel))).steps ends
  have small : fork.SendsAtMost 2 :=
    ⟨fun _ _ => Nat.zero_le 2, fun _ _ => Nat.le_refl 2, fun _ _ => Nat.zero_le 2⟩
  obtain ⟨⟨traced, reached, erased⟩, chains⟩ := effect_chains_bounded reach
  exact ⟨session, traced, reach, by decide +kernel, by decide +kernel, small,
    chains traced reached erased⟩

end Session

end Showcase
