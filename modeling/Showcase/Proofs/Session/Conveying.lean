import Showcase.Proofs.Session.Drawing
import Showcase.Proofs.Session.Protocol

/-!
# The way of the frames to the queue

A frame that was drawn waits for room in the queue with the worker that drew it, until it is stored.
What the writer takes are the frames of the queue in their order, so that the last frame in the
queue, or the last one taken if the queue is empty, is the one that was stored last.
-/

namespace Showcase

variable {State Msg : Type}

/-- The frame that was stored. -/
def Event.stored? : Event State Msg → Option Frame
  | pushed frame .queued | pushed frame .evicted => some frame
  | _ => none

/-- Whether the event is about a frame on its way to the writer. -/
def Event.isConveyed : Event State Msg → Bool
  | drawn .. | pushed .. | taken _ => true
  | _ => false

/-- The frame for which the worker waits for room. -/
def Wait.held? : Wait Msg → Option Frame
  | room held _ => some held
  | _ => none

namespace Session

variable {Flags : Type} {model : Model Flags State Msg} {flags : Flags}
  {options : SessionOptions} {session later base : Session Flags State Msg} {late : Bool}
  {worker next : Worker Msg} {jobs : List (List (Job Msg))} {before after : List (Worker Msg)}
  {rest : List (Job Msg)} {frame : Frame} {deadline : Nat}

/-- The frames that were stored in the queue, the latest first. -/
def stored (session : Session Flags State Msg) : List Frame :=
  session.history.filterMap Event.stored?

/-- The frames that the writer took, the latest first. -/
def takings (session : Session Flags State Msg) : List Frame :=
  session.history.filterMap Event.taken?

/-! ## What a step does to the frames -/

/-- No frame moved. -/
structure Unmoved (session base : Session Flags State Msg) : Prop where
  drawing_eq : base.latest Event.drawing? = session.latest Event.drawing?
  stored_eq : base.stored = session.stored
  takings_eq : base.takings = session.takings
  serial_eq : base.nextSerial = session.nextSerial
  alike : Queue.Alike base.queue session.queue

/-- The frame was drawn, or the worker waited for room for it. -/
inductive Source (session : Session Flags State Msg) (worker : Worker Msg) (frame : Frame)
    (base : Session Flags State Msg) : Prop where
  | drawn {geometry : Geometry} {state : State} (idle : worker.wait.held? = none)
      (drawing_eq : base.latest Event.drawing? = some (frame, geometry, state))
      (serial_eq : frame.serial = session.nextSerial)
      (next_eq : base.nextSerial = session.nextSerial + 1)
  | held (held : worker.wait.held? = some frame)
      (drawing_eq : base.latest Event.drawing? = session.latest Event.drawing?)
      (next_eq : base.nextSerial = session.nextSerial)

/-- What a step does to the frames on their way to the writer. -/
inductive Conveys (session : Session Flags State Msg) (worker next : Worker Msg)
    (base : Session Flags State Msg) : Prop where
  | nothing (unmoved : Unmoved session base) (idle : worker.wait.held? = none)
      (idle' : next.wait.held? = none)
  | ends (ended : base.cancelled = true) (idle : worker.wait.held? = none)
      (idle' : next.wait.held? = none) (stored_eq : base.stored = session.stored)
      (takings_eq : base.takings = session.takings)
      (fewer : base.queue.frames.Sublist session.queue.frames)
      (serial_eq : base.nextSerial = session.nextSerial)
  | stores {frame : Frame} {kept : List Frame} (source : Source session worker frame base)
      (stored_eq : base.stored = frame :: session.stored)
      (takings_eq : base.takings = session.takings)
      (frames_eq : base.queue.frames = kept ++ [frame]) (fewer : kept.Sublist session.queue.frames)
      (closed_eq : base.queue.closed = session.queue.closed) (idle : next.wait.held? = none)
  | refuses {frame : Frame} (closed : session.queue.closed = true)
      (source : Source session worker frame base) (stored_eq : base.stored = session.stored)
      (takings_eq : base.takings = session.takings)
      (frames_eq : base.queue.frames = session.queue.frames) (idle : next.wait.held? = none)
  | holds {frame : Frame} (source : Source session worker frame base)
      (stored_eq : base.stored = session.stored) (takings_eq : base.takings = session.takings)
      (alike : Queue.Alike base.queue session.queue) (held : next.wait.held? = some frame)
  | takes {frame : Frame} (idle : worker.wait.held? = none) (idle' : next.wait.held? = none)
      (drawing_eq : base.latest Event.drawing? = session.latest Event.drawing?)
      (stored_eq : base.stored = session.stored)
      (takings_eq : base.takings = frame :: session.takings)
      (frames_eq : session.queue.frames = frame :: base.queue.frames)
      (closed_eq : base.queue.closed = session.queue.closed)
      (serial_eq : base.nextSerial = session.nextSerial)

theorem filterMap_quiet {Item : Type} {read : Event State Msg → Option Item}
    {added : List (Event State Msg)} (quiet : ∀ event ∈ added, read event = none)
    (events : List (Event State Msg)) :
    (added ++ events).filterMap read = events.filterMap read := by
  rw [List.filterMap_append, List.filterMap_eq_nil_iff.mpr quiet, List.nil_append]

theorem Unmoved.of_quiet (added : List (Event State Msg))
    (history_eq : base.history = added ++ session.history)
    (quiet : ∀ event ∈ added, event.isConveyed = false)
    (serial_eq : base.nextSerial = session.nextSerial)
    (alike : Queue.Alike base.queue session.queue) : Unmoved session base := by
  have blind {Item : Type} {read : Event State Msg → Option Item}
      (unread : ∀ event, event.isConveyed = false → read event = none) :
      ∀ event ∈ added, read event = none := fun event member => unread event (quiet event member)
  refine ⟨latest_of_quiet added history_eq (blind ?_), ?_, ?_, serial_eq, alike⟩
  · rintro (_ | _) unread <;> first | rfl | cases unread
  · rw [stored, history_eq]
    refine filterMap_quiet (blind ?_) _
    rintro (_ | _) unread <;> first | rfl | cases unread
  · rw [takings, history_eq]
    refine filterMap_quiet (blind ?_) _
    rintro (_ | _) unread <;> first | rfl | cases unread

theorem Doing.held_eq {job : Job Msg} (doing : Doing worker job rest) :
    worker.wait.held? = none := by
  rw [doing.free]
  rfl

theorem Conveys.of_doing {job : Job Msg} (doing : Doing worker job rest)
    (idle : next.wait.held? = none) (unmoved : Unmoved session base) :
    Conveys session worker next base :=
  .nothing unmoved doing.held_eq idle

theorem Holds.conveys {purpose : Purpose} {held : Session Flags State Msg}
    (holds : Holds session worker purpose rest held) (added : List (Event State Msg))
    (history_eq : base.history = added ++ held.history)
    (quiet : ∀ event ∈ added, event.isConveyed = false)
    (serial_eq : base.nextSerial = held.nextSerial) (queue_eq : base.queue = held.queue)
    (idle : next.wait.held? = none) : Conveys session worker next base := by
  have alike : Queue.Alike base.queue held.queue := queue_eq ▸ .refl _
  cases holds with
  | acquires doing =>
      exact .nothing (.of_quiet added history_eq quiet serial_eq alike) doing.held_eq idle
  | granted waits =>
      exact .nothing (.of_quiet added history_eq quiet serial_eq alike) (by rw [waits]; rfl) idle

theorem Listens.held_eq (listens : Listens session worker rest) : worker.wait.held? = none := by
  cases listens with
  | begins doing => exact doing.held_eq
  | retries waits => rw [waits]; rfl

theorem Seeks.unmoved {found : Session Flags State Msg}
    (seeks : Seeks session worker rest found) :
    Unmoved session found ∧ worker.wait.held? = none := by
  cases seeks with
  | begins doing => exact ⟨.of_quiet [] rfl (by simp) rfl (.refl _), doing.held_eq⟩
  | retries waits =>
      exact ⟨.of_quiet [] rfl (by simp) rfl (Queue.alike_leaveFrame _ _), by rw [waits]; rfl⟩

theorem Unmoved.trans {middle : Session Flags State Msg} (first : Unmoved session middle)
    (second : Unmoved middle later) : Unmoved session later where
  drawing_eq := second.drawing_eq.trans first.drawing_eq
  stored_eq := second.stored_eq.trans first.stored_eq
  takings_eq := second.takings_eq.trans first.takings_eq
  serial_eq := second.serial_eq.trans first.serial_eq
  alike := second.alike.trans first.alike

/-- The worker has the frame in hand, and nothing was stored or taken for that. -/
structure Brought (session : Session Flags State Msg) (worker : Worker Msg) (frame : Frame)
    (brought : Session Flags State Msg) : Prop where
  source : Source session worker frame brought
  stored_eq : brought.stored = session.stored
  takings_eq : brought.takings = session.takings
  alike : Queue.Alike brought.queue session.queue

theorem Brings.brought {brought : Session Flags State Msg}
    (brings : Brings model session worker frame deadline rest brought) :
    Brought session worker frame brought := by
  cases brings with
  | draws doing => exact ⟨.drawn doing.held_eq rfl rfl rfl, rfl, rfl, .refl _⟩
  | retries waits =>
      exact ⟨.held (by rw [waits]; rfl) rfl rfl, rfl, rfl, Queue.alike_leaveRoom _ _⟩

theorem Source.transfer {brought : Session Flags State Msg}
    (source : Source session worker frame brought)
    (drawing_eq : base.latest Event.drawing? = brought.latest Event.drawing?)
    (next_eq : base.nextSerial = brought.nextSerial) : Source session worker frame base := by
  cases source with
  | drawn idle drawn_eq serial_eq counted =>
      exact .drawn idle (drawing_eq.trans drawn_eq) serial_eq (next_eq.trans counted)
  | held held same counted => exact .held held (drawing_eq.trans same) (next_eq.trans counted)

/-- A frame in hand is stored, unless the queue is closed. -/
theorem Brought.conveys {brought : Session Flags State Msg} {outcome : Pushed}
    (has : Brought session worker frame brought)
    (history_eq : base.history = .pushed frame outcome :: brought.history)
    (next_eq : base.nextSerial = brought.nextSerial)
    (closed_eq : base.queue.closed = session.queue.closed)
    (pushed : outcome = .closed ∧ session.queue.closed = true ∧
        base.queue.frames = session.queue.frames ∨
      outcome ≠ .closed ∧ ∃ kept, base.queue.frames = kept ++ [frame] ∧
        kept.Sublist session.queue.frames)
    (idle : next.wait.held? = none) : Conveys session worker next base := by
  have drawing_eq : base.latest Event.drawing? = brought.latest Event.drawing? :=
    latest_of_quiet [_] history_eq (by simp [Event.drawing?])
  have source := has.source.transfer drawing_eq next_eq
  have takings_eq : base.takings = session.takings := by
    rw [takings, history_eq, ← has.takings_eq]
    rfl
  rcases pushed with ⟨rfl, closed, frames_eq⟩ | ⟨opened, kept, frames_eq, fewer⟩
  · refine .refuses closed source ?_ takings_eq frames_eq idle
    rw [stored, history_eq, ← has.stored_eq]
    rfl
  · refine .stores source ?_ takings_eq frames_eq fewer closed_eq idle
    rw [stored, history_eq, ← has.stored_eq]
    cases outcome with
    | queued | evicted => rfl
    | closed => exact absurd rfl opened

theorem unmoved_absorb (session : Session Flags State Msg) (outcome : Outcome State Msg) :
    Unmoved session (session.absorb outcome) := by
  obtain ⟨added, history_eq, quiet⟩ := history_absorb (fun event => event.isConveyed = false)
    (fun _ _ => rfl) (fun _ _ => rfl) session outcome
  exact .of_quiet added history_eq quiet rfl (.refl _)

theorem Turn.conveys (turn : Turn model late session worker base jobs next) :
    Conveys session worker next base := by
  have same {base : Session Flags State Msg} (history_eq : base.history = session.history)
      (serial_eq : base.nextSerial = session.nextSerial) (queue_eq : base.queue = session.queue) :
      Unmoved session base :=
    .of_quiet [] history_eq (by simp) serial_eq (queue_eq ▸ .refl _)
  cases turn with
  | passes passes =>
      refine .nothing (same rfl rfl rfl) ?_ rfl
      cases passes with
      | finished listens => exact listens.held_eq
      | input doing | resize doing | followUp doing | render doing | read doing | beat doing
      | write doing | heartbeat doing => exact doing.held_eq
      | inboundEnds waits | beatEnds waits | timeEnds waits | joined waits => rw [waits]; rfl
  | starts doing | input doing | resize doing =>
      refine .of_doing doing rfl (Unmoved.trans ?_ (unmoved_absorb _ _))
      exact .of_quiet [_] rfl (by simp [Event.isConveyed]) rfl (.refl _)
  | followsUp doing | drops doing => exact .of_doing doing rfl (unmoved_absorb _ _)
  | startFails doing | runFails doing => exact .of_doing doing doing.held_eq (same rfl rfl rfl)
  | opensLoops doing | applies doing | rendersLater doing | sleeps doing | awaitsLock doing
  | awaitsInbound doing | runs doing | heartbeat doing | awaitsBeat doing | joins doing =>
      exact .of_doing doing rfl (same rfl rfl rfl)
  | reports doing =>
      exact .of_doing doing rfl (.of_quiet [_] rfl (by simp [Event.isConveyed]) rfl (.refl _))
  | shutsDown doing =>
      refine .ends (by rw [cancel_eq]) doing.held_eq rfl (filterMap_cancel rfl session)
        (filterMap_cancel rfl session) ?_ (by rw [cancel_eq])
      rw [cancel_eq, Queue.frames_close]
      split
      · exact .refl _
      · exact List.nil_sublist _
  | keeps holds | closesNothing holds | skipsWrite holds =>
      exact holds.conveys [] rfl (by simp) rfl rfl rfl
  | closes holds | awaitsDelivery holds =>
      exact holds.conveys [_] rfl (by simp [Event.isConveyed]) rfl rfl rfl
  | failsWrite holds | writes holds =>
      exact holds.conveys [_, _] rfl (by simp [Event.isConveyed]) rfl rfl rfl
  | deliveryEnds waits | rereads waits | beats waits | awakes waits | joinTimesOut waits
  | joinShrinks waits =>
      exact .nothing (same rfl rfl rfl) (by rw [waits]; rfl) rfl
  | deliveryFails waits | delivers waits =>
      exact .nothing (.of_quiet [_] rfl (by simp [Event.isConveyed]) rfl (.refl _))
        (by rw [waits]; rfl) rfl
  | frameEnds waits =>
      exact .nothing (.of_quiet [] rfl (by simp) rfl (Queue.alike_giveUpFrame _ _))
        (by rw [waits]; rfl) rfl
  | pushes brings tried =>
      have has := brings.brought
      rcases Queue.tryPush_eq_some tried with ⟨rfl, closed, changed⟩ | ⟨rfl, -, -, changed⟩
      · exact has.conveys rfl rfl (changed.closed_eq.trans has.alike.closed_eq)
          (.inl ⟨rfl, has.alike.closed_eq ▸ closed, changed.frames_eq.trans has.alike.frames_eq⟩) rfl
      · exact has.conveys rfl rfl (changed.closed_eq.trans has.alike.closed_eq)
          (.inr ⟨nofun, _, changed.frames_eq, has.alike.frames_eq ▸ .refl _⟩) rfl
  | awaitsRoom brings tried ticket =>
      have has := brings.brought
      exact .holds (has.source.transfer rfl rfl) has.stored_eq has.takings_eq
        ((Queue.alike_awaitRoom _ _).trans has.alike) rfl
  | pushesLate waits asleep due pushed =>
      have has : Brought session worker _ session :=
        ⟨.held (by rw [waits]; rfl) rfl rfl, rfl, rfl, .refl _⟩
      rcases Queue.pushLate_eq pushed with
        ⟨rfl, closed, changed⟩ | ⟨rfl, -, -, changed⟩ | ⟨rfl, -, -, changed⟩
      · exact has.conveys rfl rfl changed.closed_eq (.inl ⟨rfl, closed, changed.frames_eq⟩) rfl
      · exact has.conveys rfl rfl changed.closed_eq
          (.inr ⟨nofun, _, changed.frames_eq, .refl _⟩) rfl
      · exact has.conveys rfl rfl changed.closed_eq
          (.inr ⟨nofun, _, changed.frames_eq, List.tail_sublist _⟩) rfl
  | takes seeks popped =>
      obtain ⟨unmoved, idle⟩ := seeks.unmoved
      obtain ⟨opened, frames_eq, -, still⟩ := Queue.tryPop_eq_frame popped
      refine .takes idle rfl unmoved.drawing_eq unmoved.stored_eq (congrArg _ unmoved.takings_eq)
        ?_ ?_ unmoved.serial_eq
      · exact unmoved.alike.frames_eq.symm.trans frames_eq
      · exact still.trans (opened.symm.trans unmoved.alike.closed_eq)
  | findsClosed seeks =>
      obtain ⟨unmoved, idle⟩ := seeks.unmoved
      exact .nothing unmoved idle rfl
  | awaitsFrame seeks =>
      obtain ⟨unmoved, idle⟩ := seeks.unmoved
      exact .nothing (unmoved.trans (.of_quiet [] rfl (by simp) rfl (Queue.alike_awaitFrame _ _)))
        idle rfl
  | receives listens =>
      exact .nothing (.of_quiet [_] rfl (by simp [Event.isConveyed]) rfl (.refl _))
        listens.held_eq rfl
  | readFails listens => exact .nothing (same rfl rfl rfl) listens.held_eq rfl

/-! ## Where the frames are -/

/-- The frame was stored, or a worker waits for room for it. -/
def Known (session : Session Flags State Msg) (frame : Frame) : Prop :=
  frame ∈ session.stored ∨ ∃ worker ∈ session.workers, worker.wait.held? = some frame

/-- Where the frames are that were drawn. -/
structure Tracked (session : Session Flags State Msg) : Prop where
  opened : session.queue.closed = false
  below : ∀ frame, session.Known frame → frame.serial < session.nextSerial
  newest : ∀ frame geometry state,
    session.latest Event.drawing? = some (frame, geometry, state) →
      session.nextSerial = frame.serial + 1 ∧ session.Known frame
  last : session.queue.frames.getLast?.or session.takings.head? = session.stored.head?

theorem Turns.known (turns : Turns model late session worker later base jobs next before after)
    (stored : session.stored ⊆ base.stored)
    (own : ∀ frame, worker.wait.held? = some frame →
      frame ∈ base.stored ∨ next.wait.held? = some frame)
    (known : session.Known frame) : later.Known frame := by
  have stored_eq : later.stored = base.stored := by rw [turns.later_eq]; rfl
  have stays (kept : frame ∈ base.stored) : later.Known frame := .inl (stored_eq ▸ kept)
  rcases known with old | ⟨other, member, held⟩
  · exact stays (stored old)
  · rw [turns.workers_eq] at member
    rcases eq_or_mem_around member with rfl | old
    · exact (own frame held).elim stays fun held =>
        .inr ⟨next, turns.mem_later.mpr (.inl rfl), held⟩
    · exact .inr ⟨other, turns.mem_later.mpr (.inr (.inl old)), held⟩

/-- A frame in a new place is one that the worker stored or waits with. -/
theorem Turns.known_later
    (turns : Turns model late session worker later base jobs next before after)
    (known : later.Known frame) :
    frame ∈ base.stored ∨ next.wait.held? = some frame ∨ session.Known frame := by
  rcases known with new | ⟨other, member, held⟩
  · have stored_eq : later.stored = base.stored := by rw [turns.later_eq]; rfl
    exact .inl (stored_eq ▸ new)
  · rcases turns.mem_later.mp member with rfl | old | new
    · exact .inr (.inl held)
    · exact .inr (.inr (.inr ⟨other, turns.other_mem old, held⟩))
    · obtain ⟨-, -, free, -⟩ := id_of_mem_hired new
      rw [free] at held
      cases held

theorem Source.below (source : Source session worker frame base) (tracked : Tracked session)
    (member : worker ∈ session.workers) :
    session.nextSerial ≤ base.nextSerial ∧ frame.serial < base.nextSerial := by
  cases source with
  | drawn idle drawing_eq serial_eq next_eq => omega
  | held held drawing_eq next_eq =>
      have below := tracked.below frame (.inr ⟨worker, member, held⟩)
      omega

/-- The newest frame is the one in hand, or it was the newest one before. -/
theorem Source.newest (source : Source session worker frame base) {newest : Frame}
    {geometry : Geometry} {state : State}
    (drawing_eq : base.latest Event.drawing? = some (newest, geometry, state)) :
    (newest = frame ∧ base.nextSerial = frame.serial + 1) ∨
      (session.latest Event.drawing? = some (newest, geometry, state) ∧
        base.nextSerial = session.nextSerial) := by
  cases source with
  | drawn idle drawn_eq serial_eq next_eq =>
      obtain ⟨rfl, -⟩ := Prod.mk.inj (Option.some.inj (drawing_eq.symm.trans drawn_eq))
      exact .inl ⟨rfl, by omega⟩
  | held held same next_eq => exact .inr ⟨same.symm.trans drawing_eq, next_eq⟩

theorem Source.own (source : Source session worker frame base) {other : Frame}
    (held : worker.wait.held? = some other) : other = frame := by
  cases source with
  | drawn idle => rw [idle] at held; cases held
  | held same => exact Option.some.inj (held.symm.trans same)

section

variable (turns : Turns model late session worker later base jobs next before after)

include turns

/-- What is to be shown after a turn, told of the session in which its worker left it. -/
theorem Turns.tracked_of (opened : base.queue.closed = false)
    (below : ∀ frame, later.Known frame → frame.serial < base.nextSerial)
    (newest : ∀ frame geometry state,
      base.latest Event.drawing? = some (frame, geometry, state) →
        base.nextSerial = frame.serial + 1 ∧ later.Known frame)
    (last : base.queue.frames.getLast?.or base.takings.head? = base.stored.head?) :
    Tracked later := by
  have queue_eq : later.queue = base.queue := by rw [turns.later_eq]
  have serial_eq : later.nextSerial = base.nextSerial := by rw [turns.later_eq]
  have history_eq : later.history = base.history := by rw [turns.later_eq]
  refine ⟨queue_eq ▸ opened, serial_eq ▸ below, ?_, ?_⟩
  · rw [latest, history_eq, serial_eq]
    exact newest
  · rw [queue_eq, takings, stored, history_eq]
    exact last

/-- A worker with no frame in hand leaves the frames where they are known to be. -/
theorem Tracked.idle (tracked : Tracked session) (idle : worker.wait.held? = none)
    (idle' : next.wait.held? = none)
    (drawing_eq : base.latest Event.drawing? = session.latest Event.drawing?)
    (stored_eq : base.stored = session.stored) (serial_eq : base.nextSerial = session.nextSerial)
    (closed_eq : base.queue.closed = session.queue.closed)
    (last : base.queue.frames.getLast?.or base.takings.head? = session.stored.head?) :
    Tracked later := by
  refine turns.tracked_of (closed_eq.trans tracked.opened) (fun frame known => ?_)
    (fun frame geometry state found => ?_) (last.trans (congrArg _ stored_eq.symm))
  · rw [serial_eq]
    refine tracked.below frame ?_
    rcases turns.known_later known with old | held | known
    · exact .inl (stored_eq ▸ old)
    · rw [idle'] at held
      cases held
    · exact known
  · rw [serial_eq]
    obtain ⟨counted, known⟩ := tracked.newest _ _ _ (drawing_eq ▸ found)
    refine ⟨counted, turns.known (stored_eq ▸ List.Subset.refl _) (fun other held => ?_) known⟩
    rw [idle] at held
    cases held

/-- A frame in hand is stored, or its worker waits for room. -/
theorem Source.tracked (source : Source session worker frame base) (tracked : Tracked session)
    (stored : session.stored ⊆ base.stored)
    (has : frame ∈ base.stored ∨ next.wait.held? = some frame)
    (only : ∀ other, other ∈ base.stored ∨ next.wait.held? = some other →
      other = frame ∨ session.Known other)
    (closed_eq : base.queue.closed = session.queue.closed)
    (last : base.queue.frames.getLast?.or base.takings.head? = base.stored.head?) :
    Tracked later := by
  obtain ⟨grows, below⟩ := source.below tracked turns.worker_mem
  refine turns.tracked_of (closed_eq.trans tracked.opened) (fun other known => ?_)
    (fun newest geometry state found => ?_) last
  · have known : other = frame ∨ session.Known other := by
      rcases turns.known_later known with new | held | old
      · exact only other (.inl new)
      · exact only other (.inr held)
      · exact .inr old
    rcases known with rfl | old
    · exact below
    · exact Nat.lt_of_lt_of_le (tracked.below other old) grows
  · have stored_eq : later.stored = base.stored := by rw [turns.later_eq]; rfl
    rcases source.newest found with ⟨rfl, next_eq⟩ | ⟨before_eq, next_eq⟩
    · refine ⟨next_eq, has.elim (fun kept => .inl (stored_eq ▸ kept)) fun held => ?_⟩
      exact .inr ⟨next, turns.mem_later.mpr (.inl rfl), held⟩
    · obtain ⟨counted, known⟩ := tracked.newest _ _ _ before_eq
      exact ⟨next_eq.trans counted, turns.known stored (fun _ held => source.own held ▸ has) known⟩

theorem Turns.tracked (tracked : Tracked session) : base.cancelled = true ∨ Tracked later := by
  cases turns.turn.conveys with
  | ends ended => exact .inl ended
  | refuses closed => simp [tracked.opened] at closed
  | nothing unmoved idle idle' =>
      refine .inr (tracked.idle turns idle idle' unmoved.drawing_eq unmoved.stored_eq
        unmoved.serial_eq unmoved.alike.closed_eq ?_)
      rw [unmoved.alike.frames_eq, unmoved.takings_eq, tracked.last]
  | @stores frame kept source stored_eq takings_eq frames_eq fewer closed_eq idle =>
      refine .inr (source.tracked turns tracked (stored_eq ▸ List.subset_cons_self _ _)
        (.inl (stored_eq ▸ List.mem_cons_self)) (fun other has => ?_) closed_eq ?_)
      · rcases has with new | held
        · exact (List.mem_cons.mp (stored_eq ▸ new)).imp_right .inl
        · rw [idle] at held
          cases held
      · rw [stored_eq, frames_eq, List.getLast?_concat]
        rfl
  | @holds frame source stored_eq takings_eq alike held =>
      refine .inr (source.tracked turns tracked (stored_eq ▸ List.Subset.refl _) (.inr held)
        (fun other has => ?_) alike.closed_eq ?_)
      · rcases has with old | holding
        · exact .inr (.inl (stored_eq ▸ old))
        · exact .inl (Option.some.inj (holding.symm.trans held))
      · rw [alike.frames_eq, takings_eq, stored_eq, tracked.last]
  | takes idle idle' drawing_eq stored_eq takings_eq frames_eq closed_eq serial_eq =>
      refine .inr (tracked.idle turns idle idle' drawing_eq stored_eq serial_eq closed_eq ?_)
      -- The frame was the last one of the queue, or the last one is still in it.
      have last := tracked.last
      rw [frames_eq] at last
      rw [takings_eq, ← last]
      cases left : base.queue.frames with
      | nil => rfl
      | cons first more => rw [List.getLast?_cons_cons, List.getLast?_cons]; rfl

end

theorem Stays.known (stays : Stays session later) : later.Known frame ↔ session.Known frame := by
  have stored_eq : later.stored = session.stored := by rw [stored, stored, stays.history_eq]
  rw [Known, Known, stored_eq]
  refine or_congr_right ⟨?_, ?_⟩
  · rintro ⟨worker, member, held⟩
    rcases stays.comes worker member with present | ⟨request, free, -⟩
    · exact ⟨worker, present, held⟩
    · rw [free] at held
      cases held
  · rintro ⟨worker, member, held⟩
    rcases stays.goes worker member with present | ⟨free, -⟩
    · exact ⟨worker, present, held⟩
    · rw [free] at held
      cases held

theorem Tracked.stays (tracked : Tracked session) (stays : Stays session later) :
    Tracked later where
  opened := stays.queue_eq ▸ tracked.opened
  below frame known := stays.serial_eq ▸ tracked.below frame (stays.known.mp known)
  newest frame geometry state found := by
    rw [stays.latest_eq] at found
    obtain ⟨counted, known⟩ := tracked.newest _ _ _ found
    exact ⟨stays.serial_eq.trans counted, stays.known.mpr known⟩
  last := by
    rw [stays.queue_eq, takings, stored, stays.history_eq]
    exact tracked.last

theorem Move.tracked (tracked : Tracked session) (move : Move model session later) :
    later.cancelled = true ∨ Tracked later := by
  cases move.change with
  | turns advanced turns =>
      refine (turns.tracked tracked).imp_left fun ended => ?_
      rw [turns.later_eq]
      exact ended
  | ends ended => exact .inl ended
  | stays stays => exact .inr (tracked.stays stays)

theorem Move.cancelled (ended : session.cancelled = true) (move : Move model session later) :
    later.cancelled = true := by
  cases move.change with
  | turns advanced turns =>
      rw [turns.later_eq]
      exact turns.turn.cancelled ended
  | ends ended => exact ended
  | stays stays => exact stays.cancelled_eq.trans ended

/-- In every run it is known where the frames are, until the session ends. -/
theorem Reach.tracked (reach : Reach model flags options session) :
    session.cancelled = true ∨ Tracked session := by
  induction reach with
  | idle =>
      refine .inr ⟨rfl, fun frame known => ?_, nofun, rfl⟩
      rcases known with old | ⟨worker, member, -⟩
      · cases old
      · cases member
  | step before step ih =>
      have move := step.move before.identified
      exact ih.elim (fun ended => .inl (move.cancelled ended)) fun tracked => move.tracked tracked

end Session

end Showcase
