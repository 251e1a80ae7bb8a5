import Mathlib.Logic.Relation
import Showcase.Proofs.Queue.Acts
import Showcase.Proofs.Queue.Operations

/-!
# Frames are conserved and kept in order

Whatever the clients of a queue do, and in whichever order: a frame that was stored is in the queue
or was taken from its front, by a pop or in an eviction, until the queue is closed. `Change` says
what one step may do to the frames, and `Conserved` what holds of every world.
-/

namespace Showcase.Queue

variable {Frame : Type}

/-- The frame that a client waits to store. -/
def Client.inHand (client : Client Frame) : List Frame :=
  match client.wait with
  | .room frame _ => [frame]
  | _ => []

/-- What a push came to, if the answer is that of a push. -/
def Answer.outcome? : Answer Frame → Option Pushed
  | pushed outcome => some outcome
  | popped _ | timedOut | done => none

namespace Clients

/-! ## What the history tells -/

/-- The frames that were stored, in order. -/
def storedFrames (happenings : List (Happening Frame)) : List Frame :=
  happenings.filterMap fun
    | .stored _ frame => some frame
    | _ => none

/-- The frames that were popped or evicted, in order. -/
def removedFrames (happenings : List (Happening Frame)) : List Frame :=
  happenings.filterMap fun
    | .popped _ frame | .evicted _ frame => some frame
    | _ => none

/-- The frames that a client brought, in order. -/
def offeredBy (id : TaskId) (happenings : List (Happening Frame)) : List Frame :=
  happenings.filterMap fun
    | .offered other frame => if other = id then some frame else none
    | _ => none

/-- The frames that a client stored, in order. -/
def storedBy (id : TaskId) (happenings : List (Happening Frame)) : List Frame :=
  happenings.filterMap fun
    | .stored other frame => if other = id then some frame else none
    | _ => none

theorem storedFrames_append (first second : List (Happening Frame)) :
    storedFrames (first ++ second) = storedFrames first ++ storedFrames second :=
  List.filterMap_append

theorem removedFrames_append (first second : List (Happening Frame)) :
    removedFrames (first ++ second) = removedFrames first ++ removedFrames second :=
  List.filterMap_append

theorem offeredBy_append (id : TaskId) (first second : List (Happening Frame)) :
    offeredBy id (first ++ second) = offeredBy id first ++ offeredBy id second :=
  List.filterMap_append

theorem storedBy_append (id : TaskId) (first second : List (Happening Frame)) :
    storedBy id (first ++ second) = storedBy id first ++ storedBy id second :=
  List.filterMap_append

/-! ## What a step does to the frames -/

/-- An answer without a frame stored or taken: that of a closed queue, for one. -/
def IsRefusal : Answer Frame → Prop
  | .pushed outcome => outcome = .closed
  | .popped frame => frame = none
  | .timedOut | .done => True

/-- One client has a new answer. -/
def Replies (world later : Clients Frame) (id : TaskId) (answer : Answer Frame) : Prop :=
  later.answers id = world.answers id ++ [answer] ∧
    ∀ other, other ≠ id → later.answers other = world.answers other

/-- What a step does to the frames, to the record of them and to the answers. -/
inductive Change (world later : Clients Frame) : Prop where
  /-- No frame moves. -/
  | rests (frames : later.queue.frames = world.queue.frames)
      (closed : later.queue.closed = world.queue.closed)
      (stored : storedFrames later.happenings = storedFrames world.happenings)
      (removed : removedFrames later.happenings = removedFrames world.happenings)
      (answers : (∀ id, later.answers id = world.answers id) ∨
        ∃ id answer, IsRefusal answer ∧ Replies world later id answer)
  /-- A push stores its frame in a queue that has room. -/
  | stores (id : TaskId) (frame : Frame) (opened : world.queue.closed = false)
      (room : world.queue.frames.length < world.queue.capacity)
      (frames : later.queue.frames = world.queue.frames ++ [frame])
      (closed : later.queue.closed = false)
      (stored : storedFrames later.happenings = storedFrames world.happenings ++ [frame])
      (removed : removedFrames later.happenings = removedFrames world.happenings)
      (answer : Replies world later id (.pushed .queued))
  /-- A push stores its frame in a full queue, and the oldest frame makes way for it. -/
  | evicts (id : TaskId) (oldest frame : Frame) (rest : List Frame)
      (opened : world.queue.closed = false)
      (full : world.queue.frames.length = world.queue.capacity)
      (before : world.queue.frames = oldest :: rest)
      (frames : later.queue.frames = rest ++ [frame])
      (closed : later.queue.closed = false)
      (stored : storedFrames later.happenings = storedFrames world.happenings ++ [frame])
      (removed : removedFrames later.happenings = removedFrames world.happenings ++ [oldest])
      (answer : Replies world later id (.pushed .evicted))
  /-- A pop takes the oldest frame. -/
  | takes (id : TaskId) (frame : Frame) (opened : world.queue.closed = false)
      (frames : world.queue.frames = frame :: later.queue.frames)
      (closed : later.queue.closed = false)
      (stored : storedFrames later.happenings = storedFrames world.happenings)
      (removed : removedFrames later.happenings = removedFrames world.happenings ++ [frame])
      (answer : Replies world later id (.popped (some frame)))
  /-- The queue is closed and loses all its frames. -/
  | closes (id : TaskId) (frames : later.queue.frames = []) (closed : later.queue.closed = true)
      (stored : storedFrames later.happenings = storedFrames world.happenings)
      (removed : removedFrames later.happenings = removedFrames world.happenings)
      (answer : Replies world later id .done)

/-- The queue keeps to its size, and a closed one is empty. -/
structure Bounded (queue : Queue Frame) : Prop where
  capacity_pos : 0 < queue.capacity
  length_le : queue.frames.length ≤ queue.capacity
  empty_of_closed : queue.closed = true → queue.frames = []

section

variable {world later : Clients Frame} {client next : Client Frame} {id : TaskId}
  {queue : Queue Frame} {news : List (Happening Frame)} {answer : Answer Frame}

theorem answers_eq (found : world.client? id = some client) :
    world.answers id = client.answers := by
  simp [answers, found]

theorem Acts.answers_of_ne (acts : Acts world later id client next queue news) {other : TaskId}
    (different : other ≠ id) : later.answers other = world.answers other := by
  simp only [answers, acts.others other different]

theorem Acts.replies (acts : Acts world later id client next queue news)
    (grown : next.answers = client.answers ++ [answer]) : Replies world later id answer := by
  refine ⟨?_, fun other different => acts.answers_of_ne different⟩
  rw [answers_eq acts.becomes, answers_eq acts.found, grown]

theorem Acts.answers_same (acts : Acts world later id client next queue news)
    (same : next.answers = client.answers) (other : TaskId) :
    later.answers other = world.answers other := by
  by_cases equal : other = id
  · rw [equal, answers_eq acts.becomes, answers_eq acts.found, same]
  · exact acts.answers_of_ne equal

theorem Brings.same {frame : Frame} {deadline : Nat} {base : Client Frame}
    (brings : Brings world client frame deadline base queue news) :
    Alike queue world.queue ∧ base.answers = client.answers ∧ storedFrames news = [] ∧
      removedFrames news = [] := by
  cases brings with
  | begins => exact ⟨.refl _, rfl, rfl, rfl⟩
  | retries => exact ⟨alike_leaveRoom _ _, rfl, rfl, rfl⟩

theorem Seeks.same {deadline : Option Nat} {base : Client Frame}
    (seeks : Seeks world client deadline base queue) :
    Alike queue world.queue ∧ base.answers = client.answers := by
  cases seeks with
  | begins => exact ⟨.refl _, rfl⟩
  | retries => exact ⟨alike_leaveFrame _ _, rfl⟩

theorem Acts.stored_eq (acts : Acts world later id client next queue news) :
    storedFrames later.happenings = storedFrames world.happenings ++ storedFrames news := by
  rw [acts.happenings_eq, storedFrames_append]

theorem Acts.removed_eq (acts : Acts world later id client next queue news) :
    removedFrames later.happenings = removedFrames world.happenings ++ removedFrames news := by
  rw [acts.happenings_eq, removedFrames_append]

/-- A step that leaves the frames where they are. -/
theorem Acts.rests (acts : Acts world later id client next queue news)
    (alike : Alike queue world.queue) (stored : storedFrames news = [])
    (removed : removedFrames news = [])
    (answers : (∀ id, later.answers id = world.answers id) ∨
      ∃ id answer, IsRefusal answer ∧ Replies world later id answer) : Change world later := by
  refine .rests ?_ ?_ ?_ ?_ answers
  · rw [acts.queue_eq, alike.frames_eq]
  · rw [acts.queue_eq, alike.closed_eq]
  · rw [acts.stored_eq, stored, List.append_nil]
  · rw [acts.removed_eq, removed, List.append_nil]

/-- The end of a push, from what became of its frame. -/
theorem Acts.change_pushed {base : Client Frame} {start changed : Queue Frame} {frame : Frame}
    {outcome : Pushed} (bounded : Bounded world.queue) (alike : Alike start world.queue)
    (grown : base.answers = client.answers) (stored : storedFrames news = [])
    (removed : removedFrames news = [])
    (cases : (outcome = .closed ∧ start.closed = true ∧ Alike changed start) ∨
      (outcome = .queued ∧ start.closed = false ∧ start.frames.length < start.capacity ∧
        Alike changed { start with frames := start.frames ++ [frame] }) ∨
      (outcome = .evicted ∧ start.closed = false ∧ start.capacity ≤ start.frames.length ∧
        Alike changed { start with frames := start.frames.tail ++ [frame] }))
    (acts : Acts world later id client (answered base (.pushed outcome)) changed
      (news ++ pushHappenings client.id frame start.frames outcome)) : Change world later := by
  have replies : Replies world later id (.pushed outcome) :=
    acts.replies (by simp [answered, grown])
  have stored_eq := acts.stored_eq
  have removed_eq := acts.removed_eq
  rw [storedFrames_append, stored, List.nil_append] at stored_eq
  rw [removedFrames_append, removed, List.nil_append] at removed_eq
  rcases cases with ⟨rfl, closed, same⟩ | ⟨rfl, opened, room, same⟩ | ⟨rfl, opened, full, same⟩
  · refine .rests ?_ ?_ ?_ ?_ (.inr ⟨id, .pushed .closed, rfl, replies⟩)
    · rw [acts.queue_eq, same.frames_eq, alike.frames_eq]
    · rw [acts.queue_eq, same.closed_eq, alike.closed_eq]
    · simpa [pushHappenings, storedFrames] using stored_eq
    · simpa [pushHappenings, removedFrames] using removed_eq
  · refine .stores id frame ?_ ?_ ?_ ?_ ?_ ?_ replies
    · rw [← alike.closed_eq, opened]
    · rw [← alike.frames_eq, ← alike.capacity_eq]
      exact room
    · rw [acts.queue_eq, same.frames_eq, ← alike.frames_eq]
    · rw [acts.queue_eq, same.closed_eq]
      exact opened
    · exact stored_eq
    · rw [removed_eq]
      exact List.append_nil _
  · rw [alike.capacity_eq, alike.frames_eq] at full
    cases before : world.queue.frames with
    | nil =>
        have positive := bounded.capacity_pos
        rw [before, List.length_nil] at full
        omega
    | cons oldest rest =>
        have frames : start.frames = oldest :: rest := alike.frames_eq.trans before
        rw [frames] at stored_eq removed_eq
        refine .evicts id oldest frame rest ?_ ?_ before ?_ ?_ stored_eq removed_eq replies
        · rw [← alike.closed_eq, opened]
        · exact Nat.le_antisymm bounded.length_le full
        · rw [acts.queue_eq, same.frames_eq, frames, List.tail_cons]
        · rw [acts.queue_eq, same.closed_eq]
          exact opened

/-- Every step of a client is one of the changes. -/
theorem Acts.change (bounded : Bounded world.queue)
    (acts : Acts world later id client next queue news) : Change world later := by
  have act := acts.act
  cases act with
  | pushes brings tried =>
      obtain ⟨alike, grown, stored, removed⟩ := brings.same
      refine acts.change_pushed bounded alike grown stored removed ?_
      rcases tryPush_eq_some tried with closed | queued
      · exact .inl closed
      · exact .inr (.inl queued)
  | awaitsRoom brings tried =>
      obtain ⟨alike, grown, stored, removed⟩ := brings.same
      exact acts.rests ((alike_awaitRoom _ _).trans alike) stored removed
        (.inl (acts.answers_same grown))
  | pushesLate waits asleep due pushed =>
      rw [← List.nil_append (pushHappenings _ _ _ _)] at acts
      exact acts.change_pushed bounded (alike_giveUpRoom _ _) rfl rfl rfl (pushLate_eq pushed)
  | pops seeks popped =>
      obtain ⟨alike, grown⟩ := seeks.same
      obtain ⟨opened, before, -, still⟩ := tryPop_eq_frame popped
      refine .takes id _ ?_ ?_ ?_ ?_ acts.removed_eq (acts.replies (by simp [answered, grown]))
      · rw [← alike.closed_eq, opened]
      · rw [acts.queue_eq, ← alike.frames_eq, before]
      · rw [acts.queue_eq, still]
      · rw [acts.stored_eq]
        exact List.append_nil _
  | findsClosed seeks popped =>
      obtain ⟨alike, grown⟩ := seeks.same
      obtain ⟨-, rfl⟩ := tryPop_eq_closed popped
      exact acts.rests alike rfl rfl
        (.inr ⟨id, .popped none, rfl, acts.replies (by simp [answered, grown])⟩)
  | awaitsFrame seeks popped =>
      obtain ⟨alike, grown⟩ := seeks.same
      exact acts.rests ((alike_awaitFrame _ _).trans alike) rfl rfl
        (.inl (acts.answers_same grown))
  | givesUp waits asleep due =>
      exact acts.rests (alike_giveUpFrame _ _) rfl rfl
        (.inr ⟨id, .timedOut, trivial, acts.replies rfl⟩)
  | closes idle calls =>
      refine .closes id ?_ ?_ ?_ ?_ (acts.replies rfl)
      · rw [acts.queue_eq, frames_close]
        split
        · rename_i closed
          exact bounded.empty_of_closed closed
        · rfl
      · rw [acts.queue_eq, closed_close]
      · rw [acts.stored_eq]
        exact List.append_nil _
      · rw [acts.removed_eq]
        exact List.append_nil _
  | sleeps idle calls =>
      exact acts.rests (.refl _) rfl rfl (.inl (acts.answers_same rfl))
  | wakes waits due =>
      exact acts.rests (.refl _) rfl rfl (.inr ⟨id, .done, trivial, acts.replies rfl⟩)

theorem Acts.capacity_eq (acts : Acts world later id client next queue news) :
    later.queue.capacity = world.queue.capacity := by
  rw [acts.queue_eq]
  have act := acts.act
  cases act with
  | pushes brings tried =>
      obtain ⟨alike, -⟩ := brings.same
      rcases tryPush_eq_some tried with ⟨-, -, same⟩ | ⟨-, -, -, same⟩
      · exact same.capacity_eq.trans alike.capacity_eq
      · exact same.capacity_eq.trans alike.capacity_eq
  | awaitsRoom brings => exact brings.same.1.capacity_eq
  | pushesLate waits asleep due pushed =>
      rcases pushLate_eq pushed with ⟨-, -, same⟩ | ⟨-, -, -, same⟩ | ⟨-, -, -, same⟩
      · exact same.capacity_eq
      · exact same.capacity_eq
      · exact same.capacity_eq
  | pops seeks popped =>
      obtain ⟨-, -, same, -⟩ := tryPop_eq_frame popped
      exact same.trans seeks.same.1.capacity_eq
  | findsClosed seeks popped =>
      obtain ⟨-, rfl⟩ := tryPop_eq_closed popped
      exact seeks.same.1.capacity_eq
  | awaitsFrame seeks => exact seeks.same.1.capacity_eq
  | givesUp | closes | sleeps | wakes => rfl

end

/-! ## One step of the world -/

section

variable {world later : Clients Frame}

theorem client?_spawn {id other : TaskId} (calls : List (Call Frame))
    (fresh : world.client? id = none) :
    (world.spawn id calls).client? other =
      if other = id then some { id, calls } else world.client? other := by
  have absent : world.clients.find? (fun client => client.id == id) = none := fresh
  by_cases same : other = id
  · simp [client?, spawn, wake, List.find?_append, same, absent]
  · simp [client?, spawn, wake, List.find?_append, same, Ne.symm same]

theorem answers_spawn {id : TaskId} (calls : List (Call Frame))
    (fresh : world.client? id = none) (other : TaskId) :
    (world.spawn id calls).answers other = world.answers other := by
  simp only [answers, client?_spawn calls fresh]
  split
  · rename_i same
    simp [same, fresh]
  · rfl

theorem Step.change (bounded : Bounded world.queue) (step : Step world later) :
    Change world later := by
  cases step with
  | advance id advanced =>
      obtain ⟨client, next, queue, news, acts⟩ := advance_acts advanced
      exact acts.change bounded
  | elapse time forward => exact .rests rfl rfl rfl rfl (.inl fun _ => rfl)
  | spawn id calls fresh => exact .rests rfl rfl rfl rfl (.inl (answers_spawn calls fresh))

theorem Step.capacity_eq (step : Step world later) :
    later.queue.capacity = world.queue.capacity := by
  cases step with
  | advance id advanced =>
      obtain ⟨client, next, queue, news, acts⟩ := advance_acts advanced
      exact acts.capacity_eq
  | elapse => rfl
  | spawn => rfl

theorem Step.bounded (bounded : Bounded world.queue) (step : Step world later) :
    Bounded later.queue := by
  have capacity := step.capacity_eq
  refine ⟨capacity ▸ bounded.capacity_pos, ?_, ?_⟩
  · have length := bounded.length_le
    cases step.change bounded with
    | rests frames => rw [frames, capacity]; exact length
    | stores id frame opened room frames =>
        rw [frames, capacity, List.length_append, List.length_singleton]
        exact room
    | evicts id oldest frame rest opened full before frames =>
        rw [before, List.length_cons] at length
        rw [frames, capacity, List.length_append, List.length_singleton]
        exact length
    | takes id frame opened frames =>
        rw [frames, List.length_cons] at length
        rw [capacity]
        exact Nat.le_of_succ_le length
    | closes id frames => rw [frames]; exact Nat.zero_le _
  · intro ended
    cases step.change bounded with
    | rests frames closed =>
        rw [frames]
        exact bounded.empty_of_closed (closed ▸ ended)
    | stores id frame opened room frames closed => rw [closed] at ended; cases ended
    | evicts id oldest frame rest opened full before frames closed =>
        rw [closed] at ended
        cases ended
    | takes id frame opened frames closed => rw [closed] at ended; cases ended
    | closes id frames => exact frames

/-- The frames that were removed and those in the queue are the frames that were stored. -/
def InOrder (world : Clients Frame) : Prop :=
  world.queue.closed = false →
    removedFrames world.happenings ++ world.queue.frames = storedFrames world.happenings

theorem Step.inOrder (bounded : Bounded world.queue) (inOrder : InOrder world)
    (step : Step world later) : InOrder later := by
  intro still
  cases step.change bounded with
  | rests frames closed stored removed =>
      rw [frames, stored, removed]
      exact inOrder (closed ▸ still)
  | stores id frame opened room frames closed stored removed =>
      rw [frames, stored, removed, ← List.append_assoc, inOrder opened]
  | evicts id oldest frame rest opened full before frames closed stored removed =>
      have earlier := inOrder opened
      rw [before] at earlier
      rw [frames, stored, removed, ← earlier]
      simp
  | takes id frame opened frames closed stored removed =>
      have earlier := inOrder opened
      rw [frames] at earlier
      rw [stored, removed, ← earlier]
      simp
  | closes id frames closed => rw [closed] at still; cases still

end

/-! ## The account of one client -/

/-- What the pushes of a client that came to an end came to. -/
def outcomes (world : Clients Frame) (id : TaskId) : List Pushed :=
  (world.answers id).filterMap Answer.outcome?

/-- The frame that the client with a number waits to store. -/
def inHand (world : Clients Frame) (id : TaskId) : List Frame :=
  ((world.client? id).map Client.inHand).getD []

/-- The frames that a client brought are those of its pushes that came to an end and the one in its
hand; it stored those whose push was not told that the queue is closed, each once. -/
def Accounted (world : Clients Frame) (id : TaskId) : Prop :=
  ∃ results : List (Frame × Pushed),
    offeredBy id world.happenings = results.map Prod.fst ++ world.inHand id ∧
    world.outcomes id = results.map Prod.snd ∧
    storedBy id world.happenings =
      (results.filter fun result => result.2 != .closed).map Prod.fst

section

variable {world later : Clients Frame} {client next : Client Frame} {id other : TaskId}
  {queue : Queue Frame} {news : List (Happening Frame)}

theorem inHand_spawn (calls : List (Call Frame)) (fresh : world.client? id = none)
    (other : TaskId) : (world.spawn id calls).inHand other = world.inHand other := by
  simp only [inHand, client?_spawn calls fresh]
  split
  · rename_i same
    simp [same, fresh, Client.inHand]
  · rfl

theorem storedBy_pushHappenings (id : TaskId) (frame : Frame) (frames : List Frame)
    (outcome : Pushed) :
    storedBy id (pushHappenings id frame frames outcome) =
      if outcome = .closed then [] else [frame] := by
  cases outcome with
  | queued => simp [pushHappenings, storedBy]
  | evicted => cases frames <;> simp [pushHappenings, storedBy]
  | closed => rfl

theorem offeredBy_pushHappenings (id other : TaskId) (frame : Frame) (frames : List Frame)
    (outcome : Pushed) : offeredBy other (pushHappenings id frame frames outcome) = [] := by
  cases outcome with
  | queued => rfl
  | evicted => cases frames <;> rfl
  | closed => rfl

theorem storedBy_pushHappenings_of_ne (different : other ≠ id) (frame : Frame)
    (frames : List Frame) (outcome : Pushed) :
    storedBy other (pushHappenings id frame frames outcome) = [] := by
  cases outcome with
  | queued => simp [pushHappenings, storedBy, different.symm]
  | evicted => cases frames <;> simp [pushHappenings, storedBy, different.symm]
  | closed => rfl

theorem Brings.account {frame : Frame} {deadline : Nat} {base : Client Frame}
    (brings : Brings world client frame deadline base queue news) :
    client.inHand ++ offeredBy client.id news = [frame] ∧ storedBy client.id news = [] ∧
      (∀ other, other ≠ client.id → offeredBy other news = [] ∧ storedBy other news = []) := by
  cases brings with
  | begins idle calls =>
      refine ⟨?_, rfl, fun other different => ⟨?_, rfl⟩⟩
      · simp [Client.inHand, idle, offeredBy]
      · simp [offeredBy, different.symm]
  | retries waits woken =>
      refine ⟨?_, rfl, fun other _ => ⟨rfl, rfl⟩⟩
      simp [Client.inHand, waits, offeredBy]

theorem Seeks.inHand {deadline : Option Nat} {base : Client Frame}
    (seeks : Seeks world client deadline base queue) : client.inHand = [] := by
  cases seeks with
  | begins idle => simp [Client.inHand, idle]
  | retries waits => simp [Client.inHand, waits]

/-- What happens in a step is the doing of the client that makes it. -/
theorem Act.news_of_ne (act : Act world client next queue news) (different : other ≠ client.id) :
    offeredBy other news = [] ∧ storedBy other news = [] := by
  cases act with
  | pushes brings tried =>
      obtain ⟨-, -, others⟩ := brings.account
      obtain ⟨offered, stored⟩ := others other different
      rw [offeredBy_append, storedBy_append, offered, stored, offeredBy_pushHappenings,
        storedBy_pushHappenings_of_ne different]
      exact ⟨rfl, rfl⟩
  | awaitsRoom brings tried => exact brings.account.2.2 other different
  | pushesLate =>
      exact ⟨offeredBy_pushHappenings _ _ _ _ _, storedBy_pushHappenings_of_ne different _ _ _⟩
  | pops | findsClosed | awaitsFrame | givesUp | closes | sleeps | wakes => exact ⟨rfl, rfl⟩

theorem Acts.account_of_ne (acts : Acts world later id client next queue news)
    (different : other ≠ id) (account : Accounted world other) : Accounted later other := by
  have client_id := id_eq_of_client? acts.found
  obtain ⟨offered, stored⟩ := acts.act.news_of_ne (client_id ▸ different)
  unfold Accounted outcomes inHand at account ⊢
  rw [acts.answers_of_ne different, acts.others other different, acts.happenings_eq,
    offeredBy_append, storedBy_append, offered, stored, List.append_nil, List.append_nil]
  exact account

/-- A push of the client came to an end. -/
theorem Acts.account_pushed {base : Client Frame} {frame : Frame} {frames : List Frame}
    {outcome : Pushed}
    (acts : Acts world later id client (answered base (.pushed outcome)) queue
      (news ++ pushHappenings client.id frame frames outcome))
    (grown : base.answers = client.answers)
    (brought : client.inHand ++ offeredBy client.id news = [frame])
    (stored : storedBy client.id news = []) (account : Accounted world id) :
    Accounted later id := by
  obtain ⟨results, offers, ends, stores⟩ := account
  have client_id := id_eq_of_client? acts.found
  subst client_id
  rw [inHand, acts.found] at offers
  rw [outcomes, answers_eq acts.found] at ends
  refine ⟨results ++ [(frame, outcome)], ?_, ?_, ?_⟩
  · rw [acts.happenings_eq, offeredBy_append, offeredBy_append, offeredBy_pushHappenings, offers,
      inHand, acts.becomes]
    simp [answered, Client.inHand, ← brought]
  · rw [outcomes, answers_eq acts.becomes]
    simp [answered, grown, ← ends, Answer.outcome?]
  · rw [acts.happenings_eq, storedBy_append, storedBy_append, stored, storedBy_pushHappenings,
      stores]
    cases outcome <;> simp

/-- A step of the client that ends no push. -/
theorem Acts.account_other (more : List (Answer Frame))
    (acts : Acts world later id client next queue news)
    (grown : next.answers = client.answers ++ more) (silent : more.filterMap Answer.outcome? = [])
    (brought : client.inHand ++ offeredBy client.id news = next.inHand)
    (stored : storedBy client.id news = []) (account : Accounted world id) :
    Accounted later id := by
  obtain ⟨results, offers, ends, stores⟩ := account
  have client_id := id_eq_of_client? acts.found
  subst client_id
  rw [inHand, acts.found] at offers
  rw [outcomes, answers_eq acts.found] at ends
  refine ⟨results, ?_, ?_, ?_⟩
  · rw [acts.happenings_eq, offeredBy_append, offers, inHand, acts.becomes]
    simp [← brought]
  · rw [outcomes, answers_eq acts.becomes, grown, List.filterMap_append, ends, silent,
      List.append_nil]
  · rw [acts.happenings_eq, storedBy_append, stored, stores, List.append_nil]

theorem Acts.account (acts : Acts world later id client next queue news)
    (account : Accounted world id) : Accounted later id := by
  have act := acts.act
  cases act with
  | pushes brings tried =>
      obtain ⟨brought, stored, -⟩ := brings.account
      exact acts.account_pushed brings.same.2.1 brought stored account
  | awaitsRoom brings tried =>
      obtain ⟨brought, stored, -⟩ := brings.account
      refine acts.account_other [] ?_ rfl brought stored account
      exact brings.same.2.1.trans (List.append_nil _).symm
  | pushesLate waits =>
      rw [← List.nil_append (pushHappenings _ _ _ _)] at acts
      refine acts.account_pushed rfl ?_ rfl account
      simp [Client.inHand, waits, offeredBy]
  | @pops frame _ _ _ _ _ seeks =>
      refine acts.account_other [.popped (some frame)] ?_ rfl ?_ rfl account
      · rw [answered, seeks.same.2]
      · rw [seeks.inHand]
        rfl
  | findsClosed seeks =>
      refine acts.account_other [.popped none] ?_ rfl ?_ rfl account
      · rw [answered, seeks.same.2]
      · rw [seeks.inHand]
        rfl
  | awaitsFrame seeks =>
      refine acts.account_other [] ?_ rfl ?_ rfl account
      · exact seeks.same.2.trans (List.append_nil _).symm
      · rw [seeks.inHand]
        rfl
  | givesUp waits =>
      refine acts.account_other [_] rfl rfl ?_ rfl account
      simp [Client.inHand, waits, answered, offeredBy]
  | closes idle =>
      refine acts.account_other [_] rfl rfl ?_ rfl account
      simp [Client.inHand, idle, answered, offeredBy]
  | sleeps idle =>
      refine acts.account_other [] (List.append_nil _).symm rfl ?_ rfl account
      simp [Client.inHand, idle, offeredBy]
  | wakes waits =>
      refine acts.account_other [_] rfl rfl ?_ rfl account
      simp [Client.inHand, waits, answered, offeredBy]

theorem Step.account (step : Step world later) (account : Accounted world id) :
    Accounted later id := by
  cases step with
  | advance mover advanced =>
      obtain ⟨client, next, queue, news, acts⟩ := advance_acts advanced
      by_cases same : id = mover
      · subst same
        exact acts.account account
      · exact acts.account_of_ne same account
  | elapse => exact account
  | spawn new calls fresh =>
      unfold Accounted outcomes at account ⊢
      rw [inHand_spawn calls fresh, answers_spawn calls fresh]
      exact account

end

/-! ## A closed queue -/

section

variable {world later : Clients Frame} {client : Client Frame} {id : TaskId}

/-- In a closed queue no frame is stored or taken any more, and every answer is a refusal. -/
theorem Step.refused (bounded : Bounded world.queue) (closed : world.queue.closed = true)
    (step : Step world later) (id : TaskId) :
    later.queue.closed = true ∧
      ∃ more, later.answers id = world.answers id ++ more ∧ ∀ answer ∈ more, IsRefusal answer := by
  have replied {replier : TaskId} {answer : Answer Frame} (refusal : IsRefusal answer)
      (replies : Replies world later replier answer) :
      ∃ more, later.answers id = world.answers id ++ more ∧ ∀ answer ∈ more, IsRefusal answer := by
    by_cases same : id = replier
    · exact ⟨[answer], same ▸ replies.1, by simpa using refusal⟩
    · exact ⟨[], by simpa using replies.2 id same, by simp⟩
  cases step.change bounded with
  | rests frames still stored removed answers =>
      refine ⟨still.trans closed, ?_⟩
      rcases answers with same | ⟨replier, answer, refusal, replies⟩
      · exact ⟨[], by simpa using same id, by simp⟩
      · exact replied refusal replies
  | stores _ _ opened | evicts _ _ _ _ opened | takes _ _ opened => simp [closed] at opened
  | closes replier frames still stored removed replies =>
      have refusal : IsRefusal (.done : Answer Frame) := trivial
      exact ⟨still, replied refusal replies⟩

theorem Steps.refused (bounded : Bounded world.queue) (closed : world.queue.closed = true)
    (steps : Relation.ReflTransGen Step world later) (id : TaskId) :
    Bounded later.queue ∧ later.queue.closed = true ∧
      ∃ more, later.answers id = world.answers id ++ more ∧ ∀ answer ∈ more, IsRefusal answer := by
  induction steps with
  | refl => exact ⟨bounded, closed, [], by simp, by simp⟩
  | tail before step ih =>
      obtain ⟨middle, still, first, earlier, refusals⟩ := ih
      obtain ⟨ends, second, since, further⟩ := step.refused middle still id
      refine ⟨step.bounded middle, ends, first ++ second, ?_, ?_⟩
      · rw [since, earlier, List.append_assoc]
      · intro answer member
        rcases List.mem_append.mp member with one | two
        · exact refusals answer one
        · exact further answer two

/-- A push that begins in a closed queue is answered at once. -/
theorem push_of_closed {frame : Frame} {rest : List (Call Frame)}
    (closed : world.queue.closed = true) (found : world.client? id = some client)
    (idle : client.wait = .idle) (calls : client.calls = .push frame :: rest) :
    ∃ later, world.advance id = some later ∧ Replies world later id (.pushed .closed) := by
  have tried : world.queue.tryPush frame = some (.closed, world.queue, []) := by
    simp [tryPush, closed]
  have start := (Grows.refl world).note [.offered client.id frame]
  have act : Act world client (answered { client with calls := rest } (.pushed .closed)) _ _ :=
    .pushes (.begins idle calls) tried
  have acts := start.endPush [] found (by rfl) act
  refine ⟨_, ?_, acts.replies rfl⟩
  simp only [advance, found, Option.bind_eq_bind, Option.bind_some, idle, calls, call]
  simp only [push, Clients.note, tried]

/-- A pop that begins in a closed queue is answered at once. -/
theorem pop_of_closed {limit : Option Nat} {rest : List (Call Frame)}
    (closed : world.queue.closed = true) (found : world.client? id = some client)
    (idle : client.wait = .idle) (calls : client.calls = .pop limit :: rest) :
    ∃ later, world.advance id = some later ∧ Replies world later id (.popped none) := by
  have popped : world.queue.tryPop = (.closed, world.queue, []) := by
    simp [tryPop, closed]
  have start := (Grows.refl world).setQueue (world.queue, [])
  have act : Act world client (answered { client with calls := rest } (.popped none)) _ _ :=
    .findsClosed (.begins idle calls) popped
  have acts := start.acts found (by rfl) act
  refine ⟨_, ?_, acts.replies rfl⟩
  simp only [advance, found, Option.bind_eq_bind, Option.bind_some, idle, calls, call]
  simp only [pop, popped]
  rfl

end

/-! ## Every world -/

/-- What holds among the clients of a queue of some capacity, whatever they have done. -/
structure Conserved (capacity : Nat) (world : Clients Frame) : Prop where
  /-- The queue holds no more than its capacity, which is at least one. -/
  length_le : world.queue.frames.length ≤ max capacity 1
  capacity_eq : world.queue.capacity = max capacity 1
  /-- The frames that were removed and those in the queue are the frames that were stored. -/
  in_order : InOrder world
  /-- A client stored the frames of those of its pushes that were not told that the queue is
  closed. -/
  accounted : ∀ id, Accounted world id
  /-- A frame leaves the queue in a pop, an eviction or the close only. -/
  changes : ∀ later, Step world later → Change world later
  /-- A closed queue is empty for ever and refuses everything. -/
  refuses : world.queue.closed = true → ∀ later, Relation.ReflTransGen Step world later →
    later.queue.closed = true ∧ later.queue.frames = [] ∧
      ∀ id, ∃ more, later.answers id = world.answers id ++ more ∧
        ∀ answer ∈ more, IsRefusal answer
  /-- The refusal of a push or a pop that begins in a closed queue does not wait. -/
  at_once : world.queue.closed = true → ∀ id client call rest, world.client? id = some client →
    client.wait = .idle → client.calls = call :: rest →
      (∀ frame, call = .push frame →
        ∃ later, world.advance id = some later ∧ Replies world later id (.pushed .closed)) ∧
      (∀ limit, call = .pop limit →
        ∃ later, world.advance id = some later ∧ Replies world later id (.popped none))

section

variable {capacity patience : Nat} {world : Clients Frame}

theorem Reach.bounded (reach : Reach capacity patience world) :
    Bounded world.queue ∧ world.queue.capacity = max capacity 1 := by
  induction reach with
  | empty => exact ⟨⟨Nat.le_max_right _ _, Nat.zero_le _, fun _ => rfl⟩, rfl⟩
  | step before step ih => exact ⟨step.bounded ih.1, step.capacity_eq.trans ih.2⟩

theorem Reach.inOrder (reach : Reach capacity patience world) : InOrder world := by
  induction reach with
  | empty => exact fun _ => rfl
  | step before step ih => exact step.inOrder before.bounded.1 ih

theorem Reach.account (reach : Reach capacity patience world) (id : TaskId) :
    Accounted world id := by
  induction reach with
  | empty => exact ⟨[], rfl, rfl, rfl⟩
  | step before step ih => exact step.account ih

/-- Among the clients of a queue frames are conserved and kept in order, in every run. -/
theorem frames_conserved (reach : Reach capacity patience world) : Conserved capacity world := by
  obtain ⟨bounded, capacity_eq⟩ := reach.bounded
  refine ⟨capacity_eq ▸ bounded.length_le, capacity_eq, reach.inOrder, reach.account,
    fun later step => step.change bounded, ?_, ?_⟩
  · intro closed later steps
    refine ⟨(Steps.refused bounded closed steps 0).2.1, ?_, ?_⟩
    · obtain ⟨ends, still, -⟩ := Steps.refused bounded closed steps 0
      exact ends.empty_of_closed still
    · intro id
      exact (Steps.refused bounded closed steps id).2.2
  · intro closed id client call rest found idle calls
    constructor
    · rintro frame rfl
      exact push_of_closed closed found idle calls
    · rintro limit rfl
      exact pop_of_closed closed found idle calls

theorem frames_conserved_past_eviction : ∃ world : Clients Nat, Reach 1 5 world ∧
    world.happenings = [.offered 1 10, .stored 1 10, .offered 1 20, .evicted 1 10, .stored 1 20,
      .popped 2 20, .closed 2] ∧ Conserved 1 world := by
  have producer : Reach 1 5 _ := .step .empty (.spawn _ 1 [.push 10, .push 20] rfl)
  have consumer : Reach 1 5 _ := .step producer (.spawn _ 2 [.pop none, .close] rfl)
  have stored : Reach 1 5 _ := .step consumer (.advance 1 rfl)
  have waits : Reach 1 5 _ := .step stored (.advance 1 rfl)
  have due : Reach 1 5 _ := .step waits (.elapse _ 5 (by decide))
  have evicted : Reach 1 5 _ := .step due (.advance 1 rfl)
  have popped : Reach 1 5 _ := .step evicted (.advance 2 rfl)
  have closed : Reach 1 5 _ := .step popped (.advance 2 rfl)
  exact ⟨_, closed, by decide, frames_conserved closed⟩

end

end Clients

end Showcase.Queue
