import Showcase.Proofs.Session.Locking
import Showcase.Proofs.Session.Showing

/-!
# One writer

What a session writes to its sink are whole frames, one at a time, each as it was taken from the
queue. Every frame that is drawn has a number of its own and is stored once at most, and the queue
keeps the frames in order, so that they are written in the order in which they were stored and each
of them once. After a write has failed, after the end of the session and after its connection was
closed no write begins and none comes to an end.
-/

namespace Showcase.Session

variable {Flags State Msg : Type} {model : Model Flags State Msg} {flags : Flags}
  {options : SessionOptions} {session later base : Session Flags State Msg} {late : Bool}
  {worker next : Worker Msg} {jobs : List (List (Job Msg))} {before after : List (Worker Msg)}
  {frame : Frame}

/-! ## Every frame is stored once -/

/-- The frames that wait for room with their workers. -/
def held (workers : List (Worker Msg)) : List Frame :=
  workers.filterMap fun worker => worker.wait.held?

/-- The numbers of the frames that wait for room or were stored. -/
def serials (session : Session Flags State Msg) : List Nat :=
  (held session.workers ++ session.stored).map Frame.serial

/-- Frames have numbers of their own, and the next number is free. -/
structure Numbered (session : Session Flags State Msg) : Prop where
  unique : session.serials.Nodup
  below : ∀ serial ∈ session.serials, serial < session.nextSerial

/-- Some frames were drawn, others may have been discarded. -/
structure Grows (session later : Session Flags State Msg) (count : Nat) : Prop where
  next_eq : later.nextSerial = session.nextSerial + count
  subperm : later.serials.Subperm (List.range' session.nextSerial count ++ session.serials)

theorem Numbered.grows {count : Nat} (numbered : Numbered session)
    (grows : Grows session later count) : Numbered later := by
  have unique : (List.range' session.nextSerial count ++ session.serials).Nodup := by
    refine List.Nodup.append List.nodup_range' numbered.unique fun serial new old => ?_
    have above := (List.mem_range'_1.mp new).1
    exact Nat.not_lt_of_le above (numbered.below serial old)
  constructor
  · obtain ⟨list, perm, sublist⟩ := grows.subperm
    exact perm.nodup_iff.mp (unique.sublist sublist)
  · intro serial member
    rw [grows.next_eq]
    rcases List.mem_append.mp (grows.subperm.subset member) with new | old
    · exact (List.mem_range'_1.mp new).2
    · exact Nat.lt_add_right count (numbered.below serial old)

/-- The frame in hand has a new number, or the worker waited with it. -/
theorem Source.serials (source : Source session worker frame base) :
    ∃ count, base.nextSerial = session.nextSerial + count ∧
      (frame :: session.stored).map Frame.serial =
        List.range' session.nextSerial count ++
          (worker.wait.held?.toList ++ session.stored).map Frame.serial := by
  cases source with
  | drawn idle drawing_eq serial_eq next_eq =>
      refine ⟨1, next_eq, ?_⟩
      rw [idle, List.map_cons, serial_eq]
      rfl
  | held held drawing_eq next_eq =>
      refine ⟨0, next_eq, ?_⟩
      rw [held]
      rfl

/-- What a step does to the frames of its worker. -/
theorem Conveys.serials (conveys : Conveys session worker next base) :
    ∃ count, base.nextSerial = session.nextSerial + count ∧
      ((next.wait.held?.toList ++ base.stored).map Frame.serial).Sublist
        (List.range' session.nextSerial count ++
          (worker.wait.held?.toList ++ session.stored).map Frame.serial) := by
  cases conveys with
  | nothing unmoved idle idle' =>
      refine ⟨0, unmoved.serial_eq, ?_⟩
      rw [idle, idle', unmoved.stored_eq]
      exact .refl _
  | ends ended idle idle' stored_eq takings_eq fewer serial_eq
  | takes idle idle' drawing_eq stored_eq takings_eq frames_eq closed_eq serial_eq =>
      refine ⟨0, serial_eq, ?_⟩
      rw [idle, idle', stored_eq]
      exact .refl _
  | stores source stored_eq takings_eq frames_eq fewer closed_eq idle =>
      obtain ⟨count, next_eq, serials_eq⟩ := source.serials
      refine ⟨count, next_eq, ?_⟩
      rw [idle, stored_eq, ← serials_eq]
      exact .refl _
  | refuses closed source stored_eq takings_eq frames_eq idle =>
      obtain ⟨count, next_eq, serials_eq⟩ := source.serials
      refine ⟨count, next_eq, ?_⟩
      rw [idle, stored_eq, ← serials_eq]
      exact List.sublist_cons_self _ _
  | holds source stored_eq takings_eq alike held =>
      obtain ⟨count, next_eq, serials_eq⟩ := source.serials
      refine ⟨count, next_eq, ?_⟩
      rw [held, stored_eq, ← serials_eq]
      exact .refl _

theorem held_hired (first : TaskId) (jobs : List (List (Job Msg))) :
    held (hired first jobs) = [] := by
  refine List.filterMap_eq_nil_iff.mpr fun other member => ?_
  obtain ⟨-, -, free, -⟩ := id_of_mem_hired member
  rw [free]
  rfl

theorem held_append (first second : List (Worker Msg)) :
    held (first ++ second) = held first ++ held second := List.filterMap_append

/-- The numbers of a session: those of one worker and of the stored frames, and those of the
others. -/
theorem serials_around (workers_eq : session.workers = before ++ worker :: after) :
    session.serials.Perm ((worker.wait.held?.toList ++ session.stored).map Frame.serial ++
      (held (before ++ after)).map Frame.serial) := by
  have split : held (worker :: after) = worker.wait.held?.toList ++ held after := by
    rw [held, List.filterMap_cons]
    cases worker.wait.held? <;> rfl
  rw [serials, workers_eq, held_append, split, held_append, ← List.map_append]
  apply List.Perm.map
  have front : (held before ++ (worker.wait.held?.toList ++ held after)).Perm
      (worker.wait.held?.toList ++ (held before ++ held after)) :=
    List.perm_append_comm_assoc _ _ _
  refine (front.append_right session.stored).trans ?_
  rw [List.append_assoc, List.append_assoc worker.wait.held?.toList]
  exact List.perm_append_comm.append_left _

theorem Turns.grows (turns : Turns model late session worker later base jobs next before after) :
    ∃ count, Grows session later count := by
  obtain ⟨count, next_eq, sublist⟩ := turns.turn.conveys.serials
  have serial_eq : later.nextSerial = base.nextSerial := by rw [turns.later_eq]
  have stored_eq : later.stored = base.stored := by rw [turns.later_eq]; rfl
  refine ⟨count, serial_eq.trans next_eq, ?_⟩
  have becomes := serials_around turns.later_workers
  rw [← List.append_assoc, held_append (before ++ after), held_hired, List.append_nil,
    stored_eq] at becomes
  have was := (serials_around turns.workers_eq).symm.append_left
    (List.range' session.nextSerial count)
  rw [← List.append_assoc] at was
  exact becomes.subperm.trans ((sublist.append_right _).subperm.trans was.subperm)

theorem Move.grows (move : Move model session later) : ∃ count, Grows session later count := by
  have same {later : Session Flags State Msg} (next_eq : later.nextSerial = session.nextSerial)
      (held_eq : (held later.workers).Sublist (held session.workers))
      (stored_eq : later.stored = session.stored) : ∃ count, Grows session later count := by
    refine ⟨0, next_eq, ?_⟩
    rw [serials, stored_eq]
    exact ((held_eq.append_right _).map Frame.serial).subperm
  cases move with
  | turns advanced turns => exact turns.grows
  | @retires late worker before after advanced free done workers_eq later_eq =>
      rw [later_eq]
      refine same rfl ?_ rfl
      rw [workers_eq]
      exact ((List.sublist_cons_self worker after).append_left before).filterMap _
  | asked request later_eq =>
      rw [later_eq]
      refine same rfl ?_ rfl
      rw [held_append, held_hired, List.append_nil]
  | elapses _ _ later_eq | client _ _ later_eq | cancels _ later_eq | nothing _ later_eq =>
      rw [later_eq]
      exact same rfl (.refl _) rfl

theorem Reach.numbered (reach : Reach model flags options session) : Numbered session := by
  induction reach with
  | idle => exact ⟨List.nodup_nil, nofun⟩
  | step before step ih =>
      obtain ⟨count, grows⟩ := (step.move before.identified).grows
      exact ih.grows grows

/-! ## Frames are taken as they were stored -/

/-- What was taken, and then what is in the queue, was stored in this order; each list has the
latest first. -/
def Queued (session : Session Flags State Msg) : Prop :=
  (session.queue.frames.reverse ++ session.takings).Sublist session.stored

theorem Queued.shrinks (queued : Queued session)
    (fewer : later.queue.frames.Sublist session.queue.frames)
    (takings_eq : later.takings = session.takings) (stored_eq : later.stored = session.stored) :
    Queued later := by
  rw [Queued, takings_eq, stored_eq]
  exact (fewer.reverse.append_right _).trans queued

theorem Conveys.queued (queued : Queued session) (conveys : Conveys session worker next base) :
    Queued base := by
  cases conveys with
  | nothing unmoved =>
      exact queued.shrinks (unmoved.alike.frames_eq ▸ .refl _) unmoved.takings_eq unmoved.stored_eq
  | ends ended idle idle' stored_eq takings_eq fewer =>
      exact queued.shrinks fewer takings_eq stored_eq
  | stores source stored_eq takings_eq frames_eq fewer =>
      rw [Queued, stored_eq, takings_eq, frames_eq, List.reverse_concat, List.cons_append]
      exact ((fewer.reverse.append_right _).trans queued).cons_cons _
  | refuses closed source stored_eq takings_eq frames_eq =>
      exact queued.shrinks (frames_eq ▸ .refl _) takings_eq stored_eq
  | holds source stored_eq takings_eq alike =>
      exact queued.shrinks (alike.frames_eq ▸ .refl _) takings_eq stored_eq
  | takes idle idle' drawing_eq stored_eq takings_eq frames_eq =>
      rw [Queued, frames_eq, List.reverse_cons, List.append_assoc] at queued
      rw [Queued, stored_eq, takings_eq]
      exact queued

theorem Move.queued (queued : Queued session) (move : Move model session later) :
    Queued later := by
  cases move.change with
  | turns advanced turns =>
      have queued := turns.turn.conveys.queued queued
      rw [turns.later_eq]
      exact queued
  | ends ended later_eq =>
      rw [later_eq]
      refine queued.shrinks ?_ (filterMap_cancel rfl session) (filterMap_cancel rfl session)
      rw [cancel_eq]
  | stays stays =>
      refine queued.shrinks (stays.queue_eq ▸ .refl _) ?_ ?_
      · rw [takings, takings, stays.history_eq]
      · rw [stored, stored, stays.history_eq]

theorem Reach.queued (reach : Reach model flags options session) : Queued session := by
  induction reach with
  | idle => exact .slnil
  | step before step ih => exact (step.move before.identified).queued ih

/-! ## No write without a connection -/

/-- A worker begins to wait for the client only where there is a connection. -/
theorem Turn.connected_of_writing (turn : Turn model late session worker base jobs next)
    (writes : next.wait.isWriting = true) : session.connection ≠ none := by
  cases turn with
  | awaitsDelivery holds opened =>
      rw [opened]
      exact Option.some_ne_none _
  | startFails doing | runFails doing =>
      have writes : worker.wait.isWriting = true := writes
      rw [doing.free] at writes
      cases writes
  | _ => cases writes

/-- Only a worker that holds the lock closes the connection. -/
theorem Turn.connection_eq (turn : Turn model late session worker base jobs next) :
    base.connection = session.connection ∨ base.connection ≠ none ∨
      next.wait.isWriting = false ∧ ∃ rest held, Holds session worker .close rest held := by
  cases turn with
  | closes holds => exact .inr (.inr ⟨rfl, _, _, holds⟩)
  | keeps => exact .inr (.inl (Option.some_ne_none _))
  | shutsDown => exact .inl (by rw [cancel_eq])
  | closesNothing holds | skipsWrite holds | failsWrite holds | writes holds
  | awaitsDelivery holds => exact .inl holds.same.2.2.1
  | pushes brings | awaitsRoom brings => cases brings <;> exact .inl rfl
  | takes seeks | findsClosed seeks | awaitsFrame seeks => cases seeks <;> exact .inl rfl
  | _ => exact .inl rfl

theorem Lined.holder_of_writing (lined : Lined session.lock session.workers)
    (member : worker ∈ session.workers) (writes : worker.wait.isWriting = true) :
    session.lock.holder = some worker.id := by
  cases wait : worker.wait with
  | delivery frame => exact lined.first worker member frame wait
  | _ => rw [wait] at writes; cases writes

/-- While a worker holds the lock, only that worker can be in the middle of a write. -/
theorem Holds.eq_of_writing {purpose : Purpose} {rest : List (Job Msg)}
    {held : Session Flags State Msg} {other : Worker Msg}
    (holds : Holds session worker purpose rest held) (lined : Lined session.lock session.workers)
    (member : other ∈ session.workers) (writes : other.wait.isWriting = true) :
    other.id = worker.id := by
  have holder := lined.holder_of_writing member writes
  cases holds with
  | acquires doing acquired =>
      rw [Lock.isHeldBy_iff, Lock.holder_acquire holder] at acquired
      exact Option.some.inj acquired
  | granted waits granted =>
      rw [Lock.isHeldBy_iff, holder] at granted
      exact Option.some.inj granted

/-- Who is in the middle of a write has a connection to write to. -/
def Connected (session : Session Flags State Msg) : Prop :=
  ∀ worker ∈ session.workers, worker.wait.isWriting = true → session.connection ≠ none

theorem Turns.connected
    (turns : Turns model late session worker later base jobs next before after)
    (identified : Identified session) (lined : Lined session.lock session.workers)
    (connected : Connected session) : Connected later := by
  intro other member writes
  have connection_eq : later.connection = base.connection := by rw [turns.later_eq]
  rw [connection_eq]
  have origin : other = next ∨ other ∈ before ++ after := by
    refine (turns.mem_later.mp member).imp_right fun present => present.resolve_right fun new => ?_
    obtain ⟨-, -, free, -⟩ := id_of_mem_hired new
    rw [free] at writes
    cases writes
  rcases turns.turn.connection_eq with same | opened | ⟨idle, rest, held, holds⟩
  · rw [same]
    rcases origin with rfl | old
    · exact turns.turn.connected_of_writing writes
    · exact connected other (turns.other_mem old) writes
  · exact opened
  · rcases origin with rfl | old
    · rw [idle] at writes
      cases writes
    · have unlike := id_ne_of_mem (turns.workers_eq ▸ identified.unique) other old
      exact absurd (holds.eq_of_writing lined (turns.other_mem old) writes) unlike

theorem Move.connected (identified : Identified session)
    (lined : Lined session.lock session.workers) (connected : Connected session)
    (move : Move model session later) : Connected later := by
  cases move.change with
  | turns advanced turns => exact turns.connected identified lined connected
  | ends ended later_eq =>
      rw [later_eq, cancel_eq]
      exact connected
  | stays stays =>
      intro other member writes
      rw [stays.connection_eq]
      rcases stays.comes other member with present | ⟨request, free, -⟩
      · exact connected other present writes
      · rw [free] at writes
        cases writes

theorem Reach.connected (reach : Reach model flags options session) : Connected session := by
  induction reach with
  | idle => exact nofun
  | step before step ih =>
      have identified := before.identified
      exact (step.move identified).connected identified before.lined ih

/-! ## What the sink sees -/

/-- The end of a session is noted. -/
theorem Reach.told (reach : Reach model flags options session)
    (ended : session.cancelled = true) : .cancelled ∈ session.history := by
  induction reach with
  | idle => cases ended
  | @step session later before step ih =>
      have move := step.move before.identified
      cases past : session.cancelled with
      | true => exact move.history_suffix.subset (ih past)
      | false =>
          have notes (history_eq : later.history = session.cancel.history) :
              .cancelled ∈ later.history := by
            rw [history_eq, Session.cancel, past]
            exact List.mem_cons_self
          cases move.change with
          | turns advanced turns =>
              rcases turns.turn.cancelled_eq with same | ⟨-, history_eq⟩
              · rw [turns.later_eq, same, past] at ended
                cases ended
              · exact notes (by rw [turns.later_eq]; exact history_eq)
          | ends _ later_eq => exact notes (by rw [later_eq])
          | stays stays =>
              rw [stays.cancelled_eq, past] at ended
              cases ended

/-- What the sink of a session can rely on. -/
structure Disciplined (session : Session Flags State Msg) : Prop where
  /-- Writes do not overlap: one is delivered before another one begins. -/
  apart : ∀ before between after first second,
    session.events = before ++ .writing first :: between ++ .writing second :: after →
      ∃ time, .delivered first time ∈ between
  /-- No two workers are in the middle of a write. -/
  alone : ∀ first ∈ session.workers, ∀ second ∈ session.workers,
    first.wait.isWriting = true → second.wait.isWriting = true → first = second
  /-- A write that comes to an end is the one that began last. -/
  completes : ∀ before event after frame, session.events = before ++ event :: after →
    event.completed? = some frame → ∃ early between, before = early ++ .writing frame :: between ∧
      ∀ other ∈ between, other.isSink = false
  /-- What is written is a whole frame as it was taken from the queue, the last one taken. -/
  taken : ∀ before after frame, session.events = before ++ .writing frame :: after →
    ∃ early between, before = early ++ .taken frame :: between ∧
      ∀ other ∈ between, other.isSink = false
  /-- Frames are written in the order in which they were stored. -/
  in_order : (session.events.filterMap Event.writing?).Sublist
    (session.events.filterMap Event.stored?)
  /-- Every frame that was stored has a number of its own, so that it is written once at most. -/
  once : ((session.events.filterMap Event.stored?).map Frame.serial).Nodup
  /-- No write begins or comes to an end after a failed one, the end of the session or a close. -/
  silent : ∀ before event after, session.events = before ++ event :: after →
    event.isFinal = true → ∀ other ∈ after, other.isSend = false
  /-- The session notes its end. -/
  told : session.cancelled = true → .cancelled ∈ session.events
  /-- The connection is closed once at most. -/
  closed_once : (session.events.filterMap Event.closed?).length ≤ 1
  /-- Nobody is in the middle of a write once the connection is closed. -/
  detached : ∀ connection, .closed connection ∈ session.events →
    ∀ worker ∈ session.workers, worker.wait.isWriting = false

theorem Reach.alone (reach : Reach model flags options session) {first second : Worker Msg}
    (left : first ∈ session.workers) (right : second ∈ session.workers)
    (writes : first.wait.isWriting = true) (writes' : second.wait.isWriting = true) :
    first = second := by
  have holder := reach.lined.holder_of_writing left writes
  rw [reach.lined.holder_of_writing right writes'] at holder
  exact reach.identified.eq_of_id left right (Option.some.inj holder).symm

theorem Reach.closings_le (reach : Reach model flags options session) :
    session.closings.length + session.connection.toList.length ≤ 1 := by
  have sole := reach.sole
  have started := Bool.toNat_le session.started
  unfold Sole connections at sole
  omega

/-- A connection that was closed is gone, and no other one takes its place. -/
theorem Reach.connection_eq_none (reach : Reach model flags options session) {connection : Nat}
    (closed : .closed connection ∈ session.history) : session.connection = none := by
  have counted := reach.closings_le
  have member : connection ∈ session.closings := List.mem_filterMap.mpr ⟨_, closed, rfl⟩
  have positive := List.length_pos_of_mem member
  have empty : session.connection.toList = [] := List.length_eq_zero_iff.mp (by omega)
  exact Option.toList_eq_nil_iff.mp empty

theorem filterMap_events {Item : Type} (read : Event State Msg → Option Item)
    (session : Session Flags State Msg) :
    session.events.filterMap read = (session.history.filterMap read).reverse :=
  List.filterMap_reverse

/-- In every run the sink sees one write at a time, the frames in their order, and nothing after the
end. -/
theorem single_writer (reach : Reach model flags options session) : Disciplined session := by
  obtain ⟨stage, kept⟩ := reach.course.stage_eq
  have accepts {events : List (Event State Msg)} (split : session.events = events) :
      Sending.idle.run? events = some stage := split ▸ kept
  have taken_as_stored : (session.events.filterMap Event.taken?).Sublist
      (session.events.filterMap Event.stored?) := by
    rw [filterMap_events, filterMap_events]
    exact ((List.sublist_append_right _ _).trans reach.queued).reverse
  have numbered : (session.stored.map Frame.serial).Nodup := by
    have unique := reach.numbered.unique
    rw [serials, List.map_append] at unique
    exact unique.of_append_right
  exact
    { apart before between after first second split := Sending.delivered_between (accepts split)
      alone first left second right := reach.alone left right
      completes before event after frame split := Sending.writing_before (accepts split)
      taken before after frame split := Sending.taken_before (accepts split)
      in_order := ((List.sublist_append_left _ _).trans
        (Sending.written_sublist kept)).trans taken_as_stored
      once := by
        rw [filterMap_events, List.map_reverse]
        exact List.nodup_reverse.mpr numbered
      silent before event after split := Sending.silent_of_final (accepts split)
      told ended := List.mem_reverse.mpr (reach.told ended)
      closed_once := by
        rw [filterMap_events, List.length_reverse]
        exact Nat.le_of_add_right_le reach.closings_le
      detached connection closed worker member := by
        have gone := reach.connection_eq_none (List.mem_reverse.mp closed)
        exact Bool.of_not_eq_true fun writes => reach.connected worker member writes gone }

/-! ## A session that is shut down during a write -/

/-- The client holds up the write of a frame. -/
def heldUpDigits : Session Unit String String :=
  ([5, 5, 5, 3, 3].foldlM (advance digits false)
    (settledDigits.pause.ask (.input (.char 'a')))).get (by decide +kernel)

/-- Someone has shut the session down: the writer left the write alone, and the connection was closed
when the writer had released the lock. -/
def shutDownDigits : Session Unit String String :=
  ([8, 8, 3, 8].foldlM (advance digits false) (heldUpDigits.ask .shutdown)).get (by decide +kernel)

theorem reach_shutDownDigits : Reach digits () tight shutDownDigits := by
  have keyed : Reach digits () tight (settledDigits.pause.ask (.input (.char 'a'))) :=
    (redrawn_settledDigits.reach.step (.client (.pause _))).step (.ask _ _)
  have writes : Relation.ReflTransGen (Step digits)
      (settledDigits.pause.ask (.input (.char 'a'))) heldUpDigits :=
    steps_of_foldlM (Option.some_get _).symm
  have ends : Relation.ReflTransGen (Step digits) (heldUpDigits.ask .shutdown) shutDownDigits :=
    steps_of_foldlM (Option.some_get _).symm
  exact ((keyed.steps writes).step (.ask _ _)).steps ends

theorem single_writer_shutDownDigits :
    Disciplined shutDownDigits ∧ shutDownDigits.closings = [7] ∧
      (shutDownDigits.events.filterMap Event.writing?).map Frame.serial = [0, 1] ∧
      (shutDownDigits.events.filterMap Event.delivered?).map Frame.serial = [0] :=
  ⟨single_writer reach_shutDownDigits, by decide +kernel, by decide +kernel, by decide +kernel⟩

end Showcase.Session
