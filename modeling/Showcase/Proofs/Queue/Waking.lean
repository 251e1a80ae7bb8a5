import Mathlib.Data.List.Perm.Subperm
import Mathlib.Logic.Function.Basic
import Showcase.Proofs.Queue.Conservation

/-!
# Nobody waits in vain

A signal is for whoever comes first, so it may be taken by a client that has no use for it, and a
client that it woke may find that another one was faster. Still no signal is lost. A slot that is
free while a producer waits is promised to a producer that was woken and has not gone on yet, and a
frame that is there while a consumer waits is promised to a woken consumer: every step keeps these
two promises. A push that waits keeps the deadline that it began with.
-/

namespace Showcase

/-! ## The line for a signal -/

namespace Notify

variable {notify later : Notify} {id : TaskId} {stands : TaskId → Prop}

/-- The tasks that wait for a signal, and those that have it and have not gone on yet. -/
def line (notify : Notify) : List TaskId := notify.waiting ++ notify.woken

/-- The tasks in line are those that stand there, each of them once, and a signal is kept only while
nobody waits for it. -/
structure Holds (notify : Notify) (stands : TaskId → Prop) : Prop where
  nodup : notify.line.Nodup
  mem_iff : ∀ id, id ∈ notify.line ↔ stands id
  nobody_of_permit : notify.permit = true → notify.waiting = []

theorem Holds.of_perm (holds : notify.Holds stands) (same : later.line.Perm notify.line)
    (nobody : later.permit = true → later.waiting = []) : later.Holds stands :=
  ⟨same.nodup_iff.mpr holds.nodup, fun id => same.mem_iff.trans (holds.mem_iff id), nobody⟩

/-- A task joins the line. -/
theorem Holds.joined (holds : notify.Holds stands) (absent : ¬ stands id)
    (more : later.line.Perm (id :: notify.line))
    (nobody : later.permit = true → later.waiting = []) :
    later.Holds (Function.update stands id True) := by
  refine ⟨?_, fun other => more.mem_iff.trans ?_, nobody⟩
  · rw [more.nodup_iff, List.nodup_cons, holds.mem_iff]
    exact ⟨absent, holds.nodup⟩
  · rw [List.mem_cons, holds.mem_iff]
    by_cases same : other = id <;> simp [same]

/-- A task parts from the line. -/
theorem Holds.parted (holds : notify.Holds stands) (less : notify.line.Perm (id :: later.line))
    (nobody : later.permit = true → later.waiting = []) :
    later.Holds (Function.update stands id False) := by
  obtain ⟨absent, nodup⟩ := List.nodup_cons.mp (less.nodup_iff.mp holds.nodup)
  refine ⟨nodup, fun other => ?_, nobody⟩
  have within := less.mem_iff.symm.trans (holds.mem_iff other)
  rw [List.mem_cons] at within
  by_cases same : other = id
  · simpa [same] using absent
  · simpa [same] using within

theorem Holds.one (holds : notify.Holds stands) : notify.one.1.Holds stands := by
  unfold Notify.one
  cases waits : notify.waiting with
  | nil => exact holds.of_perm (by simp [line, waits]) fun _ => rfl
  | cons first rest =>
      have asleep : notify.permit = false := by
        by_contra kept
        simpa [waits] using holds.nobody_of_permit (Bool.of_not_eq_false kept)
      refine holds.of_perm ?_ fun kept => by simp [asleep] at kept
      simp only [line, waits]
      rw [← List.append_assoc]
      exact List.perm_append_singleton first _

theorem Holds.all (holds : notify.Holds stands) : notify.all.1.Holds stands :=
  holds.of_perm (by simp [Notify.all, line, List.perm_append_comm]) fun _ => rfl

theorem Holds.listen (holds : notify.Holds stands) (id : TaskId) (absent : ¬ stands id) :
    (notify.listen id).Holds (Function.update stands id True) := by
  unfold Notify.listen
  split
  · rename_i kept
    refine holds.joined absent ?_ fun kept => nomatch kept
    rw [line, ← List.append_assoc]
    exact List.perm_append_singleton id _
  · rename_i asleep
    refine holds.joined absent ?_ fun kept => absurd kept asleep
    simp [line]

theorem Holds.resume (holds : notify.Holds stands) (woken : notify.isWoken id = true) :
    (notify.resume id).Holds (Function.update stands id False) := by
  refine holds.parted ?_ holds.nobody_of_permit
  have member : id ∈ notify.woken := List.contains_iff_mem.mp woken
  exact ((List.perm_cons_erase member).append_left _).trans List.perm_middle

/-- Whoever stands in line and was not woken waits. -/
theorem Holds.waits (holds : notify.Holds stands) (present : stands id)
    (asleep : notify.isWoken id = false) : id ∈ notify.waiting := by
  have unwoken : id ∉ notify.woken := by simpa [isWoken] using asleep
  exact (List.mem_append.mp ((holds.mem_iff id).mpr present)).resolve_right unwoken

theorem Holds.leave (holds : notify.Holds stands) (present : stands id)
    (asleep : notify.isWoken id = false) :
    (notify.leave id).1.Holds (Function.update stands id False) := by
  have waits := holds.waits present asleep
  simp only [Notify.leave, asleep, Bool.false_eq_true, if_false]
  refine holds.parted ((List.perm_cons_erase waits).append_right _) fun kept => ?_
  rw [holds.nobody_of_permit kept] at waits
  cases waits

/-- Nothing changes for a task that stands as it stood. -/
theorem Holds.update (holds : notify.Holds stands) {still : Prop} (same : stands id ↔ still) :
    notify.Holds (Function.update stands id still) := by
  rw [← propext same, Function.update_eq_self]
  exact holds

theorem Holds.congr {old still : Prop} (holds : notify.Holds (Function.update stands id old))
    (same : old ↔ still) : notify.Holds (Function.update stands id still) :=
  propext same ▸ holds

theorem length_woken_le_resume (notify : Notify) (id : TaskId) :
    notify.woken.length ≤ (notify.resume id).woken.length + 1 := by
  simp only [resume, List.length_erase]
  split <;> omega

/-- A signal for one task wakes one, unless nobody waits afterwards. -/
theorem one_wakes (notify : Notify) (waits : notify.one.1.waiting ≠ []) :
    notify.waiting ≠ [] ∧ notify.one.1.woken.length = notify.woken.length + 1 := by
  unfold one at waits ⊢
  cases line : notify.waiting with
  | nil => simp [line] at waits
  | cons first rest => simp

theorem length_one_waiting (notify : Notify) :
    notify.one.1.waiting.length = notify.waiting.length - 1 := by
  unfold one
  cases notify.waiting <;> simp

theorem leave_waiting (asleep : notify.isWoken id = false) :
    (notify.leave id).1.waiting = notify.waiting.erase id ∧
      (notify.leave id).1.woken = notify.woken := by
  simp [leave, asleep]

end Notify

namespace Queue

variable {Frame : Type}

/-! ## What the operations signal -/

section

variable {queue changed : Queue Frame} {frame : Frame} {outcome : Pushed} {woken : List TaskId}

theorem tryPush_signals (tried : queue.tryPush frame = some (outcome, changed, woken)) :
    (queue.closed = true ∧ changed = queue) ∨
      (queue.closed = false ∧ changed = (queue.store frame).1) := by
  unfold tryPush at tried
  split at tried
  · rename_i closed
    cases tried
    exact .inl ⟨closed, rfl⟩
  · rename_i opened
    split at tried
    · cases tried
    · cases tried
      exact .inr ⟨Bool.of_not_eq_true opened, rfl⟩

/-- A push that stores its frame late finds a slot or makes one. -/
theorem pushLate_signals (pushed : queue.pushLate frame = (outcome, changed, woken)) :
    (queue.closed = true ∧ changed = queue) ∨
      ∃ kept : List Frame, queue.closed = false ∧ kept.length ≤ queue.frames.length ∧
        min queue.frames.length queue.capacity ≤ kept.length + 1 ∧
        changed = ({ queue with frames := kept }.store frame).1 := by
  unfold pushLate at pushed
  split at pushed
  · rename_i closed
    cases pushed
    exact .inl ⟨closed, rfl⟩
  · rename_i opened
    have open_eq := Bool.of_not_eq_true opened
    split at pushed
    · cases pushed
      refine .inr ⟨queue.frames.tail, open_eq, ?_, ?_, rfl⟩
      · simp
      · simp only [List.length_tail]
        omega
    · cases pushed
      refine .inr ⟨queue.frames, open_eq, Nat.le_refl _, ?_, rfl⟩
      omega

theorem tryPop_signals (popped : queue.tryPop = (.frame frame, changed, woken)) :
    changed.writable = queue.writable.one.1 ∧ changed.readable = queue.readable := by
  unfold tryPop at popped
  split at popped
  · cases popped
  · split at popped <;> cases popped
    exact ⟨rfl, rfl⟩

end

/-- While a producer waits for room, the queue is open and each free slot is promised to a producer
that was woken. -/
def RoomPromised (queue : Queue Frame) : Prop :=
  queue.writable.waiting ≠ [] →
    queue.closed = false ∧ queue.capacity ≤ queue.frames.length + queue.writable.woken.length

/-- While a consumer waits for a frame, the queue is open and each frame is promised to a consumer
that was woken. -/
def FramesPromised (queue : Queue Frame) : Prop :=
  queue.readable.waiting ≠ [] →
    queue.closed = false ∧ queue.frames.length ≤ queue.readable.woken.length

theorem RoomPromised.of_alike {queue changed : Queue Frame} (alike : Alike changed queue)
    (same : changed.writable = queue.writable) (promised : RoomPromised queue) :
    RoomPromised changed := by
  simpa only [RoomPromised, same, alike.closed_eq, alike.capacity_eq, alike.frames_eq]
    using promised

/-- A producer that was not woken was promised nothing. -/
theorem RoomPromised.giveUpRoom {queue : Queue Frame} {id : TaskId}
    (promised : RoomPromised queue) (asleep : queue.writable.isWoken id = false) :
    RoomPromised (queue.giveUpRoom id).1 := by
  obtain ⟨waiting, woken⟩ := Notify.leave_waiting asleep
  intro waits
  have waited : queue.writable.waiting ≠ [] := by
    rintro nobody
    exact waits (by simp only [Queue.giveUpRoom, waiting, nobody, List.erase_nil])
  exact (promised waited).imp_right fun slots => by simpa only [Queue.giveUpRoom, woken] using slots

/-- A frame that is stored late takes a free slot or the place of an older frame. -/
theorem RoomPromised.storeLate {queue : Queue Frame} {kept : List Frame} {frame : Frame}
    (promised : RoomPromised queue) (opened : queue.closed = false)
    (slots : min queue.frames.length queue.capacity ≤ kept.length + 1) :
    RoomPromised ({ queue with frames := kept }.store frame).1 := by
  intro waits
  have promise := (promised waits).2
  refine ⟨opened, ?_⟩
  simp only [store, List.length_append, List.length_singleton]
  omega

theorem FramesPromised.of_alike {queue changed : Queue Frame} (alike : Alike changed queue)
    (same : changed.readable = queue.readable) (promised : FramesPromised queue) :
    FramesPromised changed := by
  simpa only [FramesPromised, same, alike.closed_eq, alike.frames_eq] using promised

/-- The client waits for room in the queue. -/
def Client.WaitsForRoom (client : Client Frame) : Prop :=
  ∃ frame deadline, client.wait = .room frame deadline

/-- The client has frames to take. -/
def Client.hasPops (client : Client Frame) : Bool := client.calls.any (· matches .pop _)

/-- The client waits for a frame. -/
def Client.WaitsForFrame (client : Client Frame) : Prop :=
  ∃ deadline, client.wait = .frame deadline

namespace Clients

/-! ## What a step of a client does to the promises -/

section

variable {world : Clients Frame} {client next base : Client Frame} {queue : Queue Frame}
  {news : List (Happening Frame)} {frame : Frame} {stands : TaskId → Prop}

/-- A client that was woken and goes on gives up the slot that it was promised. -/
theorem Brings.signals {deadline : Nat}
    (brings : Brings world client frame deadline base queue news) :
    Alike queue world.queue ∧ queue.readable = world.queue.readable ∧
      queue.writable.waiting = world.queue.writable.waiting ∧
      world.queue.writable.woken.length ≤ queue.writable.woken.length + 1 := by
  cases brings with
  | begins => exact ⟨.refl _, rfl, rfl, Nat.le_succ _⟩
  | retries => exact ⟨alike_leaveRoom _ _, rfl, rfl, Notify.length_woken_le_resume _ _⟩

theorem Seeks.signals {deadline : Option Nat} (seeks : Seeks world client deadline base queue) :
    Alike queue world.queue ∧ queue.writable = world.queue.writable ∧
      queue.readable.waiting = world.queue.readable.waiting ∧
      world.queue.readable.woken.length ≤ queue.readable.woken.length + 1 := by
  cases seeks with
  | begins => exact ⟨.refl _, rfl, rfl, Nat.le_succ _⟩
  | retries => exact ⟨alike_leaveFrame _ _, rfl, rfl, Notify.length_woken_le_resume _ _⟩

theorem Act.roomPromised (act : Act world client next queue news)
    (promised : RoomPromised world.queue) : RoomPromised queue := by
  cases act with
  | pushes brings tried =>
      obtain ⟨alike, -, waiting, woken⟩ := brings.signals
      intro waits
      rcases tryPush_signals tried with ⟨closed, rfl⟩ | ⟨opened, rfl⟩
      · have opened := (promised (waiting ▸ waits)).1
        rw [← alike.closed_eq, closed] at opened
        cases opened
      · have slots := (promised (waiting ▸ waits)).2
        rw [← alike.capacity_eq, ← alike.frames_eq] at slots
        refine ⟨opened, ?_⟩
        simp only [store, List.length_append, List.length_singleton]
        omega
  | awaitsRoom brings tried =>
      obtain ⟨opened, full⟩ := tryPush_eq_none tried
      exact fun _ => ⟨opened, Nat.le_trans full (Nat.le_add_right _ _)⟩
  | pushesLate waits asleep due pushed =>
      have before := promised.giveUpRoom asleep
      rcases pushLate_signals pushed with ⟨-, rfl⟩ | ⟨kept, opened, -, slots, rfl⟩
      · exact before
      · exact before.storeLate opened slots
  | pops seeks popped =>
      obtain ⟨alike, writable, -⟩ := seeks.signals
      obtain ⟨opened, frames, capacity, still⟩ := tryPop_eq_frame popped
      intro waits
      rw [(tryPop_signals popped).1, writable] at waits ⊢
      obtain ⟨waited, woken⟩ := Notify.one_wakes _ waits
      have slots := (promised waited).2
      rw [← alike.capacity_eq, ← alike.frames_eq, frames, List.length_cons] at slots
      exact ⟨still, by omega⟩
  | findsClosed seeks popped =>
      obtain ⟨alike, writable, -⟩ := seeks.signals
      obtain ⟨-, rfl⟩ := tryPop_eq_closed popped
      exact promised.of_alike alike writable
  | awaitsFrame seeks popped =>
      obtain ⟨alike, writable, -⟩ := seeks.signals
      exact promised.of_alike ((alike_awaitFrame _ _).trans alike) writable
  | givesUp => exact promised
  | closes => exact fun waits => absurd rfl waits
  | sleeps | wakes => exact promised

/-- A frame comes in, and a consumer is woken for it. -/
theorem framesPromised_store {kept : List Frame} (promised : FramesPromised queue)
    (fewer : kept.length ≤ queue.frames.length) (opened : queue.closed = false) :
    FramesPromised ({ queue with frames := kept }.store frame).1 := by
  intro waits
  obtain ⟨waited, woken⟩ := Notify.one_wakes _ waits
  have frames := (promised waited).2
  refine ⟨opened, ?_⟩
  simp only [store, List.length_append, List.length_singleton] at woken ⊢
  omega

/-- Where only one consumer waits, no step breaks the promise of the frames. -/
theorem Act.framesPromised (act : Act world client next queue news)
    (sole : world.queue.readable.waiting.length ≤ 1) (promised : FramesPromised world.queue) :
    FramesPromised queue := by
  cases act with
  | pushes brings tried =>
      obtain ⟨alike, readable, -⟩ := brings.signals
      have before := promised.of_alike alike readable
      rcases tryPush_signals tried with ⟨-, rfl⟩ | ⟨opened, rfl⟩
      · exact before
      · exact framesPromised_store before (Nat.le_refl _) opened
  | awaitsRoom brings =>
      obtain ⟨alike, readable, -⟩ := brings.signals
      exact promised.of_alike ((alike_awaitRoom _ _).trans alike) readable
  | pushesLate waits asleep due pushed =>
      have before : FramesPromised (world.queue.giveUpRoom client.id).1 := promised
      rcases pushLate_signals pushed with ⟨-, rfl⟩ | ⟨kept, opened, fewer, -, rfl⟩
      · exact before
      · exact framesPromised_store before fewer opened
  | pops seeks popped =>
      obtain ⟨alike, -, waiting, woken⟩ := seeks.signals
      obtain ⟨-, frames, -, still⟩ := tryPop_eq_frame popped
      intro waits
      rw [(tryPop_signals popped).2] at waits ⊢
      have before := (promised (waiting ▸ waits)).2
      rw [← alike.frames_eq, frames, List.length_cons] at before
      exact ⟨still, by omega⟩
  | findsClosed seeks popped =>
      obtain ⟨alike, -, waiting, -⟩ := seeks.signals
      obtain ⟨closed, rfl⟩ := tryPop_eq_closed popped
      intro waits
      have opened := (promised (waiting ▸ waits)).1
      rw [← alike.closed_eq, closed] at opened
      cases opened
  | awaitsFrame seeks popped =>
      obtain ⟨opened, empty, -⟩ := tryPop_eq_nothing popped
      intro
      simp [awaitFrame, opened, empty]
  | givesUp waits asleep =>
      obtain ⟨waiting, woken⟩ := Notify.leave_waiting asleep
      intro waits
      have kept : world.queue.readable.waiting ≠ [] := by
        rintro nobody
        exact waits (by simp only [giveUpFrame, waiting, nobody, List.erase_nil])
      exact (promised kept).imp_right fun frames => by simpa only [giveUpFrame, woken] using frames
  | closes =>
      intro waits
      have length := Notify.length_one_waiting world.queue.readable
      have positive := List.length_pos_of_ne_nil waits
      simp only [close] at positive
      omega
  | sleeps | wakes => exact promised

end

/-! ## What a step of a client does to the lines -/

section

variable {world : Clients Frame} {client next base : Client Frame} {queue changed : Queue Frame}
  {news : List (Happening Frame)} {frame : Frame} {stands : TaskId → Prop}

@[simp] theorem not_waitsForRoom_answered (client : Client Frame) (answer : Answer Frame) :
    ¬ (answered client answer).WaitsForRoom := by
  simp [Client.WaitsForRoom, answered]

@[simp] theorem not_waitsForFrame_answered (client : Client Frame) (answer : Answer Frame) :
    ¬ (answered client answer).WaitsForFrame := by
  simp [Client.WaitsForFrame, answered]

/-- A client that brings a frame has left the line of those that wait for room. -/
theorem Brings.roomLine {deadline : Nat}
    (brings : Brings world client frame deadline base queue news)
    (line : world.queue.writable.Holds stands) (stood : stands client.id ↔ client.WaitsForRoom) :
    queue.writable.Holds (Function.update stands client.id False) := by
  cases brings with
  | begins idle => exact line.update (by simp [stood, Client.WaitsForRoom, idle])
  | retries waits woken => exact line.resume woken

theorem Seeks.frameLine {deadline : Option Nat}
    (seeks : Seeks world client deadline base queue)
    (line : world.queue.readable.Holds stands) (stood : stands client.id ↔ client.WaitsForFrame) :
    queue.readable.Holds (Function.update stands client.id False) := by
  cases seeks with
  | begins idle => exact line.update (by simp [stood, Client.WaitsForFrame, idle])
  | retries waits woken => exact line.resume woken

theorem Brings.not_waitsForFrame {deadline : Nat}
    (brings : Brings world client frame deadline base queue news) : ¬ client.WaitsForFrame := by
  cases brings with
  | begins idle => simp [Client.WaitsForFrame, idle]
  | retries waits => simp [Client.WaitsForFrame, waits]

theorem Seeks.not_waitsForRoom {deadline : Option Nat}
    (seeks : Seeks world client deadline base queue) : ¬ client.WaitsForRoom := by
  cases seeks with
  | begins idle => simp [Client.WaitsForRoom, idle]
  | retries waits => simp [Client.WaitsForRoom, waits]

theorem Act.roomLine (act : Act world client next queue news)
    (line : world.queue.writable.Holds stands) (stood : stands client.id ↔ client.WaitsForRoom) :
    queue.writable.Holds (Function.update stands client.id next.WaitsForRoom) := by
  cases act with
  | pushes brings tried =>
      have left := brings.roomLine line stood
      simp only [not_waitsForRoom_answered]
      rcases tryPush_signals tried with ⟨-, rfl⟩ | ⟨-, rfl⟩ <;> exact left
  | awaitsRoom brings tried =>
      have joined := (brings.roomLine line stood).listen client.id (by simp)
      rw [Function.update_idem] at joined
      exact joined.congr (by simp [Client.WaitsForRoom])
  | pushesLate waits asleep due pushed =>
      have left := line.leave (stood.mpr ⟨_, _, waits⟩) asleep
      simp only [not_waitsForRoom_answered]
      rcases pushLate_signals pushed with ⟨-, rfl⟩ | ⟨kept, -, -, -, rfl⟩ <;> exact left
  | pops seeks popped =>
      rw [(tryPop_signals popped).1, seeks.signals.2.1]
      exact line.one.update (by simp [stood, seeks.not_waitsForRoom])
  | findsClosed seeks popped =>
      obtain ⟨-, rfl⟩ := tryPop_eq_closed popped
      rw [seeks.signals.2.1]
      exact line.update (by simp [stood, seeks.not_waitsForRoom])
  | awaitsFrame seeks popped =>
      have same : (awaitFrame _ client.id).writable = world.queue.writable := seeks.signals.2.1
      have away : stands client.id ↔ False := by simp [stood, seeks.not_waitsForRoom]
      rw [same]
      exact line.update (away.trans (by simp [Client.WaitsForRoom]))
  | givesUp waits => exact line.update (by simp [stood, Client.WaitsForRoom, waits, answered])
  | closes idle => exact line.all.update (by simp [stood, Client.WaitsForRoom, idle, answered])
  | sleeps idle => exact line.update (by simp [stood, Client.WaitsForRoom, idle])
  | wakes waits => exact line.update (by simp [stood, Client.WaitsForRoom, waits, answered])

theorem Act.frameLine (act : Act world client next queue news)
    (line : world.queue.readable.Holds stands)
    (stood : stands client.id ↔ client.WaitsForFrame) :
    queue.readable.Holds (Function.update stands client.id next.WaitsForFrame) := by
  cases act with
  | pushes brings tried =>
      have away : stands client.id ↔ False := by simp [stood, brings.not_waitsForFrame]
      rw [← brings.signals.2.1] at line
      simp only [not_waitsForFrame_answered]
      rcases tryPush_signals tried with ⟨-, rfl⟩ | ⟨-, rfl⟩
      · exact line.update away
      · exact line.one.update away
  | awaitsRoom brings tried =>
      have same : (awaitRoom _ client.id).readable = world.queue.readable := brings.signals.2.1
      have away : stands client.id ↔ False := by simp [stood, brings.not_waitsForFrame]
      rw [same]
      exact line.update (away.trans (by simp [Client.WaitsForFrame]))
  | pushesLate waits asleep due pushed =>
      have away : stands client.id ↔ False := by simp [stood, Client.WaitsForFrame, waits]
      simp only [not_waitsForFrame_answered]
      rcases pushLate_signals pushed with ⟨-, rfl⟩ | ⟨kept, -, -, -, rfl⟩
      · exact line.update away
      · exact line.one.update away
  | pops seeks popped =>
      simp only [not_waitsForFrame_answered]
      rw [(tryPop_signals popped).2]
      exact seeks.frameLine line stood
  | findsClosed seeks popped =>
      obtain ⟨-, rfl⟩ := tryPop_eq_closed popped
      simp only [not_waitsForFrame_answered]
      exact seeks.frameLine line stood
  | awaitsFrame seeks popped =>
      have joined := (seeks.frameLine line stood).listen client.id (by simp)
      rw [Function.update_idem] at joined
      exact joined.congr (by simp [Client.WaitsForFrame])
  | givesUp waits asleep =>
      simp only [not_waitsForFrame_answered]
      exact line.leave (stood.mpr ⟨_, waits⟩) asleep
  | closes idle => exact line.one.update (by simp [stood, Client.WaitsForFrame, idle, answered])
  | sleeps idle => exact line.update (by simp [stood, Client.WaitsForFrame, idle])
  | wakes waits => exact line.update (by simp [stood, Client.WaitsForFrame, waits, answered])

end

/-! ## Every world -/

/-- The client with a number waits for room. -/
def WaitsForRoom (world : Clients Frame) (id : TaskId) : Prop :=
  ∃ client, world.client? id = some client ∧ client.WaitsForRoom

/-- The client with a number waits for a frame. -/
def WaitsForFrame (world : Clients Frame) (id : TaskId) : Prop :=
  ∃ client, world.client? id = some client ∧ client.WaitsForFrame

/-- The clients that wait stand in the lines of the queue, and nobody else does. -/
structure Lined (world : Clients Frame) : Prop where
  room : world.queue.writable.Holds world.WaitsForRoom
  frame : world.queue.readable.Holds world.WaitsForFrame

/-- The time at which the last push of each client began, after a step. -/
def beginnings (world later : Clients Frame) (began : TaskId → Nat) (id : TaskId) : Nat :=
  if (offeredBy id later.happenings).length = (offeredBy id world.happenings).length then began id
  else world.now

/-- The worlds that can come about in steps of some kind, each with the times at which the last push
of each client began. -/
inductive Run (Allowed : Clients Frame → Clients Frame → Prop) (capacity patience : Nat) :
    Clients Frame → (TaskId → Nat) → Prop where
  | empty : Run Allowed capacity patience { queue := .ofCapacity capacity, patience } fun _ => 0
  | step {world later : Clients Frame} {began : TaskId → Nat}
      (before : Run Allowed capacity patience world began) (step : Step world later)
      (allowed : Allowed world later) :
      Run Allowed capacity patience later (beginnings world later began)

/-- Only one client has frames to take. -/
def OneConsumer (consumer : TaskId) (world _later : Clients Frame) : Prop :=
  ∀ client ∈ world.clients, client.hasPops = true → client.id = consumer

instance (consumer : TaskId) (world later : Clients Frame) :
    Decidable (OneConsumer consumer world later) :=
  inferInstanceAs (Decidable (∀ client ∈ world.clients, _ → _))

/-- Time passes only where nobody can go on, and no further than to the next deadline. -/
def Prompt (world later : Clients Frame) : Prop :=
  later.now = world.now ∨
    (∀ id, world.advance id = none) ∧ ∀ next, world.deadline? = some next → later.now ≤ next

/-- The producers that were woken and have not gone on yet. -/
def wokenProducers (world : Clients Frame) : List (Client Frame) :=
  world.clients.filter fun client =>
    (client.wait matches .room ..) && world.queue.writable.isWoken client.id

/-- Nobody waits in vain. -/
structure Attended (capacity patience : Nat) (consumer : TaskId) (world : Clients Frame)
    (began : TaskId → Nat) : Prop where
  /-- A consumer that waits and was not woken has nothing to take. -/
  consumer_waits : world.WaitsForFrame consumer → world.queue.readable.isWoken consumer = false →
    world.queue.closed = false ∧ world.queue.frames = []
  /-- Where a producer waits that was not woken, the free slots are not more than the producers that
  were. -/
  producer_waits : ∀ id, world.WaitsForRoom id → world.queue.writable.isWoken id = false →
    world.queue.closed = false ∧
      max capacity 1 - world.queue.frames.length ≤ world.wokenProducers.length
  /-- A producer that cannot go on is within its time. -/
  in_time_of_stuck : ∀ id, world.WaitsForRoom id → world.advance id = none →
    world.now < began id + patience
  /-- Where the time passes promptly, a producer that waits is within its time. -/
  in_time_of_prompt : Run Prompt capacity patience world began →
    ∀ id, world.WaitsForRoom id → world.now ≤ began id + patience

section

variable {world later : Clients Frame} {client next : Client Frame} {id : TaskId}
  {queue : Queue Frame} {news : List (Happening Frame)} {frame : Frame} {deadline : Nat}

theorem waitsForRoom_of_found (found : world.client? id = some client) :
    world.WaitsForRoom id ↔ client.WaitsForRoom := by
  simp [WaitsForRoom, found]

theorem waitsForFrame_of_found (found : world.client? id = some client) :
    world.WaitsForFrame id ↔ client.WaitsForFrame := by
  simp [WaitsForFrame, found]

theorem Acts.waitsForRoom_eq (acts : Acts world later id client next queue news) :
    later.WaitsForRoom = Function.update world.WaitsForRoom id next.WaitsForRoom := by
  funext other
  by_cases same : other = id
  · subst same
    rw [Function.update_self, waitsForRoom_of_found acts.becomes]
  · rw [Function.update_of_ne same, WaitsForRoom, WaitsForRoom, acts.others other same]

theorem Acts.waitsForFrame_eq (acts : Acts world later id client next queue news) :
    later.WaitsForFrame = Function.update world.WaitsForFrame id next.WaitsForFrame := by
  funext other
  by_cases same : other = id
  · subst same
    rw [Function.update_self, waitsForFrame_of_found acts.becomes]
  · rw [Function.update_of_ne same, WaitsForFrame, WaitsForFrame, acts.others other same]

/-- A new client does not wait. -/
theorem waits_spawn (calls : List (Call Frame)) (fresh : world.client? id = none) :
    (world.spawn id calls).WaitsForRoom = world.WaitsForRoom ∧
      (world.spawn id calls).WaitsForFrame = world.WaitsForFrame := by
  constructor <;> funext other
  all_goals
    simp only [WaitsForRoom, WaitsForFrame, client?_spawn calls fresh]
    by_cases same : other = id
    · simp [same, fresh, Client.WaitsForRoom, Client.WaitsForFrame]
    · simp [same]

theorem Step.lined (step : Step world later) (lined : Lined world) : Lined later := by
  cases step with
  | advance id advanced =>
      obtain ⟨client, next, queue, news, acts⟩ := advance_acts advanced
      obtain rfl := id_eq_of_client? acts.found
      constructor
      · rw [acts.waitsForRoom_eq, acts.queue_eq]
        exact acts.act.roomLine lined.room (waitsForRoom_of_found acts.found)
      · rw [acts.waitsForFrame_eq, acts.queue_eq]
        exact acts.act.frameLine lined.frame (waitsForFrame_of_found acts.found)
  | elapse => exact ⟨lined.room, lined.frame⟩
  | spawn id calls fresh =>
      obtain ⟨room, frame⟩ := waits_spawn calls fresh
      exact ⟨room ▸ lined.room, frame ▸ lined.frame⟩

theorem Step.roomPromised (step : Step world later) (promised : RoomPromised world.queue) :
    RoomPromised later.queue := by
  cases step with
  | advance id advanced =>
      obtain ⟨client, next, queue, news, acts⟩ := advance_acts advanced
      exact acts.queue_eq ▸ acts.act.roomPromised promised
  | elapse | spawn => exact promised

theorem Step.framesPromised (sole : world.queue.readable.waiting.length ≤ 1)
    (step : Step world later) (promised : FramesPromised world.queue) :
    FramesPromised later.queue := by
  cases step with
  | advance id advanced =>
      obtain ⟨client, next, queue, news, acts⟩ := advance_acts advanced
      exact acts.queue_eq ▸ acts.act.framesPromised sole promised
  | elapse | spawn => exact promised

/-- Who waits for a frame after a step waited before or had a frame to take. -/
theorem Act.waitsForFrame (act : Act world client next queue news) (waits : next.WaitsForFrame) :
    client.WaitsForFrame ∨ client.hasPops = true := by
  cases act with
  | awaitsFrame seeks =>
      cases seeks with
      | begins idle calls => exact .inr (by simp [Client.hasPops, calls])
      | retries waited => exact .inl ⟨_, waited⟩
  | awaitsRoom | sleeps => simp [Client.WaitsForFrame] at waits
  | pushes | pushesLate | pops | findsClosed | givesUp | closes | wakes => simp at waits

theorem Step.waitsForFrame {consumer : TaskId} (step : Step world later)
    (sole : OneConsumer consumer world later) (before : ∀ id, world.WaitsForFrame id → id = consumer)
    (id : TaskId) (waits : later.WaitsForFrame id) : id = consumer := by
  cases step with
  | advance mover advanced =>
      obtain ⟨client, next, queue, news, acts⟩ := advance_acts advanced
      rw [acts.waitsForFrame_eq] at waits
      by_cases same : id = mover
      · subst same
        rw [Function.update_self] at waits
        rcases acts.act.waitsForFrame waits with waited | pops
        · exact before id ((waitsForFrame_of_found acts.found).mpr waited)
        · rw [← id_eq_of_client? acts.found]
          exact sole client (List.mem_of_find?_eq_some acts.found) pops
      · rw [Function.update_of_ne same] at waits
        exact before id waits
  | elapse => exact before id waits
  | spawn new calls fresh => exact before id ((waits_spawn calls fresh).2 ▸ waits)

/-- A push that waits for room has the deadline that it had, or began just now. -/
theorem Act.keeps_deadline (act : Act world client next queue news)
    (waits : next.wait = .room frame deadline) :
    (client.wait = .room frame deadline ∧ offeredBy client.id news = []) ∨
      (deadline = world.now + world.patience ∧ offeredBy client.id news = [frame]) := by
  cases act with
  | awaitsRoom brings =>
      simp only [Wait.room.injEq] at waits
      obtain ⟨rfl, rfl⟩ := waits
      cases brings with
      | begins => exact .inr ⟨rfl, by simp [offeredBy]⟩
      | retries waited => exact .inl ⟨waited, rfl⟩
  | awaitsFrame | sleeps => cases waits
  | pushes | pushesLate | pops | findsClosed | givesUp | closes | wakes => cases waits

/-- Who waits for room does so until the time of its push is over. -/
def Limited (patience : Nat) (world : Clients Frame) (began : TaskId → Nat) : Prop :=
  world.patience = patience ∧ ∀ id client frame deadline, world.client? id = some client →
    client.wait = .room frame deadline → deadline = began id + patience

theorem beginnings_of_silent {began : TaskId → Nat}
    (silent : offeredBy id later.happenings = offeredBy id world.happenings) :
    beginnings world later began id = began id := by
  simp [beginnings, silent]

theorem Step.limited {patience : Nat} {began : TaskId → Nat} (step : Step world later)
    (limited : Limited patience world began) :
    Limited patience later (beginnings world later began) := by
  obtain ⟨patience_eq, deadlines⟩ := limited
  cases step with
  | advance mover advanced =>
      obtain ⟨client, next, queue, news, acts⟩ := advance_acts advanced
      have mover_eq := id_eq_of_client? acts.found
      refine ⟨acts.patience_eq.trans patience_eq, fun id holder frame deadline found waits => ?_⟩
      by_cases same : id = mover
      · subst same
        obtain rfl := Option.some.inj (acts.becomes.symm.trans found)
        have offers : offeredBy id later.happenings =
            offeredBy id world.happenings ++ offeredBy client.id news := by
          rw [acts.happenings_eq, offeredBy_append, mover_eq]
        rcases acts.act.keeps_deadline waits with ⟨waited, silent⟩ | ⟨fresh, offered⟩
        · rw [silent, List.append_nil] at offers
          rw [beginnings_of_silent offers]
          exact deadlines id client frame deadline acts.found waited
        · rw [offered] at offers
          have later_time : beginnings world later began id = world.now := by
            simp [beginnings, offers]
          rw [later_time, fresh, patience_eq]
      · have silent : offeredBy id later.happenings = offeredBy id world.happenings := by
          rw [acts.happenings_eq, offeredBy_append,
            (acts.act.news_of_ne (mover_eq ▸ same)).1, List.append_nil]
        rw [beginnings_of_silent silent]
        exact deadlines id holder frame deadline (acts.others id same ▸ found) waits
  | elapse time =>
      refine ⟨patience_eq, fun id client frame deadline found waits => ?_⟩
      have same : beginnings world (world.elapse time) began id = began id :=
        beginnings_of_silent rfl
      rw [same]
      exact deadlines id client frame deadline found waits
  | spawn new calls fresh =>
      refine ⟨patience_eq, fun id client frame deadline found waits => ?_⟩
      have same : beginnings world (world.spawn new calls) began id = began id :=
        beginnings_of_silent rfl
      rw [same]
      rw [client?_spawn calls fresh] at found
      split at found
      · obtain rfl := Option.some.inj found
        cases waits
      · exact deadlines id client frame deadline found waits

/-- Who waits for room and cannot go on has time left. -/
theorem now_lt_of_stuck (found : world.client? id = some client)
    (waits : client.wait = .room frame deadline) (stuck : world.advance id = none) :
    world.now < deadline := by
  by_contra passed
  simp only [advance, found, Option.bind_eq_bind, Option.bind_some, waits,
    Nat.le_of_not_lt passed, if_true] at stuck
  split at stuck <;> cases stuck

theorem deadline?_le (found : world.client? id = some client)
    (waits : client.wait = .room frame deadline) (ahead : world.now < deadline) :
    ∃ next, world.deadline? = some next ∧ next ≤ deadline := by
  have member : deadline ∈
      (world.clients.filterMap Client.deadline?).filter (world.now < ·) := by
    refine List.mem_filter.mpr ⟨List.mem_filterMap.mpr ⟨client, ?_, ?_⟩, by simpa using ahead⟩
    · exact List.mem_of_find?_eq_some found
    · simp [Client.deadline?, waits]
  cases next : world.deadline? with
  | none =>
      rw [deadline?, List.min?_eq_none_iff] at next
      rw [next] at member
      cases member
  | some next' =>
      rw [deadline?, List.min?_eq_some_iff] at next
      exact ⟨next', rfl, next.2 deadline member⟩

/-- Nobody who waits for room is past its deadline. -/
def Punctual (world : Clients Frame) : Prop :=
  ∀ id client frame deadline, world.client? id = some client →
    client.wait = .room frame deadline → world.now ≤ deadline

theorem Step.punctual (step : Step world later) (prompt : Prompt world later)
    (punctual : Punctual world) : Punctual later := by
  cases step with
  | advance mover advanced =>
      obtain ⟨client, next, queue, news, acts⟩ := advance_acts advanced
      intro id holder frame deadline found waits
      rw [acts.now_eq]
      by_cases same : id = mover
      · subst same
        obtain rfl := Option.some.inj (acts.becomes.symm.trans found)
        rcases acts.act.keeps_deadline waits with ⟨waited, -⟩ | ⟨fresh, -⟩
        · exact punctual id client frame deadline acts.found waited
        · omega
      · exact punctual id holder frame deadline (acts.others id same ▸ found) waits
  | elapse time forward =>
      intro id client frame deadline found waits
      have found : world.client? id = some client := found
      rcases prompt with still | ⟨stuck, bound⟩
      · rw [still]
        exact punctual id client frame deadline found waits
      · have ahead := now_lt_of_stuck found waits (stuck id)
        obtain ⟨next, first, before⟩ := deadline?_le found waits ahead
        exact Nat.le_trans (bound next first) before
  | spawn new calls fresh =>
      intro id client frame deadline found waits
      rw [client?_spawn calls fresh] at found
      split at found
      · obtain rfl := Option.some.inj found
        cases waits
      · exact punctual id client frame deadline found waits

end

section

variable {Allowed : Clients Frame → Clients Frame → Prop} {capacity patience : Nat}
  {world : Clients Frame} {began : TaskId → Nat} {consumer : TaskId}

theorem Run.mono {Wider : Clients Frame → Clients Frame → Prop}
    (run : Run Allowed capacity patience world began)
    (wider : ∀ world later, Allowed world later → Wider world later) :
    Run Wider capacity patience world began := by
  induction run with
  | empty => exact .empty
  | step before step allowed ih => exact ih.step step (wider _ _ allowed)

theorem Run.reach (run : Run Allowed capacity patience world began) :
    Reach capacity patience world := by
  induction run with
  | empty => exact .empty
  | step before step allowed ih => exact ih.step step

theorem Reach.lined (reach : Reach capacity patience world) : Lined world := by
  induction reach with
  | empty =>
      constructor
      · exact ⟨List.nodup_nil, fun _ => by simp [Notify.line, WaitsForRoom, client?, ofCapacity],
          fun _ => rfl⟩
      · exact ⟨List.nodup_nil, fun _ => by simp [Notify.line, WaitsForFrame, client?, ofCapacity],
          fun _ => rfl⟩
  | step before step ih => exact step.lined ih

theorem Reach.roomPromised (reach : Reach capacity patience world) :
    RoomPromised world.queue := by
  induction reach with
  | empty => exact fun waits => absurd rfl waits
  | step before step ih => exact step.roomPromised ih

theorem Run.limited (run : Run Allowed capacity patience world began) :
    Limited patience world began := by
  induction run with
  | empty => exact ⟨rfl, fun _ _ _ _ found => nomatch found⟩
  | step before step allowed ih => exact step.limited ih

theorem Run.punctual (run : Run Prompt capacity patience world began) : Punctual world := by
  induction run with
  | empty => exact fun _ _ _ _ found => nomatch found
  | step before step prompt ih => exact step.punctual prompt ih

theorem Run.waitsForFrame (run : Run (OneConsumer consumer) capacity patience world began) :
    ∀ id, world.WaitsForFrame id → id = consumer := by
  induction run with
  | empty => exact fun _ waits => by simp [WaitsForFrame, client?] at waits
  | step before step sole ih => exact step.waitsForFrame sole ih

/-- At most one client stands in line for frames. -/
theorem Run.line_readable (run : Run (OneConsumer consumer) capacity patience world began) :
    world.queue.readable.line.length ≤ 1 := by
  have lined := run.reach.lined.frame
  have within : world.queue.readable.line ⊆ [consumer] := fun id stands =>
    List.mem_singleton.mpr (run.waitsForFrame id ((lined.mem_iff id).mp stands))
  exact (List.subperm_of_subset lined.nodup within).length_le

theorem Run.framesPromised (run : Run (OneConsumer consumer) capacity patience world began) :
    FramesPromised world.queue := by
  induction run with
  | empty => exact fun waits => absurd rfl waits
  | step before step sole ih =>
      have single := before.line_readable
      rw [Notify.line, List.length_append] at single
      exact step.framesPromised (by omega) ih

/-- The producers that were woken are as many as the queue keeps a signal for. -/
theorem Reach.length_woken_le (reach : Reach capacity patience world) :
    world.queue.writable.woken.length ≤ world.wokenProducers.length := by
  have lined := reach.lined.room
  have within : world.queue.writable.woken ⊆ world.wokenProducers.map Client.id := by
    intro id woken
    obtain ⟨client, found, frame, deadline, waits⟩ :=
      (lined.mem_iff id).mp (List.mem_append_right _ woken)
    have same := id_eq_of_client? found
    refine List.mem_map.mpr ⟨client, List.mem_filter.mpr ⟨?_, ?_⟩, same⟩
    · exact List.mem_of_find?_eq_some found
    · simpa [waits, same, Notify.isWoken] using woken
  have nodup := (List.nodup_append.mp lined.nodup).2.1
  simpa using (List.subperm_of_subset nodup within).length_le

/-- In every run with one consumer, no signal of the queue is lost. -/
theorem nobody_waits_in_vain
    (run : Run (OneConsumer consumer) capacity patience world began) :
    Attended capacity patience consumer world began := by
  have reach := run.reach
  have lined := reach.lined
  obtain ⟨patience_eq, deadlines⟩ := run.limited
  constructor
  · intro waits asleep
    have line := lined.frame.waits waits asleep
    obtain ⟨opened, frames⟩ := run.framesPromised (List.ne_nil_of_mem line)
    have single := run.line_readable
    have positive := List.length_pos_of_mem line
    rw [Notify.line, List.length_append] at single
    exact ⟨opened, List.length_eq_zero_iff.mp (by omega)⟩
  · intro id waits asleep
    have line := lined.room.waits waits asleep
    obtain ⟨opened, slots⟩ := reach.roomPromised (List.ne_nil_of_mem line)
    have counted := reach.length_woken_le
    rw [reach.bounded.2] at slots
    exact ⟨opened, by omega⟩
  · rintro id ⟨client, found, frame, deadline, waits⟩ stuck
    rw [← deadlines id client frame deadline found waits]
    exact now_lt_of_stuck found waits stuck
  · rintro prompt id ⟨client, found, frame, deadline, waits⟩
    rw [← deadlines id client frame deadline found waits]
    exact prompt.punctual id client frame deadline found waits

/-- The only free slot is promised to the second producer while the third one still waits. -/
theorem nobody_waits_in_vain_promised : ∃ (world : Clients Nat) (began : TaskId → Nat),
    Run (OneConsumer 4) 1 5 world began ∧ Run Prompt 1 5 world began ∧ world.WaitsForRoom 3 ∧
      world.queue.writable.isWoken 3 = false ∧ world.queue.frames = [] ∧
      world.wokenProducers.map Client.id = [2] ∧ Attended 1 5 4 world began := by
  have start : Run (fun world later => OneConsumer 4 world later ∧ Prompt world later) 1 5
      ({ queue := .ofCapacity 1, patience := 5 } : Clients Nat) fun _ => 0 := .empty
  have first := start.step (.spawn _ 1 [.push 10] rfl) ⟨by decide, .inl rfl⟩
  have second := first.step (.spawn _ 2 [.push 20] rfl) ⟨by decide, .inl rfl⟩
  have third := second.step (.spawn _ 3 [.push 30] rfl) ⟨by decide, .inl rfl⟩
  have fourth := third.step (.spawn _ 4 [.pop none] rfl) ⟨by decide, .inl rfl⟩
  have stored := fourth.step (.advance 1 rfl) ⟨by decide, .inl rfl⟩
  have waits := stored.step (.advance 2 rfl) ⟨by decide, .inl rfl⟩
  have follows := waits.step (.advance 3 rfl) ⟨by decide, .inl rfl⟩
  have popped := follows.step (.advance 4 rfl) ⟨by decide, .inl rfl⟩
  have run := popped.mono fun _ _ allowed => allowed.1
  exact ⟨_, _, run, popped.mono fun _ _ allowed => allowed.2, ⟨_, rfl, 30, 5, rfl⟩, by decide,
    by decide, by decide, nobody_waits_in_vain run⟩

end

end Clients

end Queue

end Showcase
