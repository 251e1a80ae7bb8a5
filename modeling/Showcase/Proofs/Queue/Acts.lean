import Showcase.Queue.Reach

/-!
# What one step of a client does

A step of a client changes that client, the queue and the history, and nothing else. `Act` says all
that such a step can be, and `advance_acts` that every step is one of these; the results about
clients of a queue are derived from it.
-/

namespace Showcase.Queue.Clients

variable {Frame : Type}

/-- The client with an answer more, about to make its next call. -/
def answered (client : Client Frame) (answer : Answer Frame) : Client Frame :=
  { client with wait := .idle, answers := client.answers ++ [answer] }

/-- The client brings a frame to a queue: it begins a push, or it was woken in one. -/
inductive Brings (world : Clients Frame) (client : Client Frame) (frame : Frame) :
    Nat → Client Frame → Queue Frame → List (Happening Frame) → Prop where
  | begins {rest : List (Call Frame)} (idle : client.wait = .idle)
      (calls : client.calls = .push frame :: rest) :
      Brings world client frame (world.now + world.patience) { client with calls := rest }
        world.queue [.offered client.id frame]
  | retries {deadline : Nat} (waits : client.wait = .room frame deadline)
      (woken : world.queue.writable.isWoken client.id = true) :
      Brings world client frame deadline client (world.queue.leaveRoom client.id) []

/-- The client looks for a frame: it begins a pop, or it was woken in one. -/
inductive Seeks (world : Clients Frame) (client : Client Frame) :
    Option Nat → Client Frame → Queue Frame → Prop where
  | begins {limit : Option Nat} {rest : List (Call Frame)} (idle : client.wait = .idle)
      (calls : client.calls = .pop limit :: rest) :
      Seeks world client (limit.map (world.now + ·)) { client with calls := rest } world.queue
  | retries {deadline : Option Nat} (waits : client.wait = .frame deadline)
      (woken : world.queue.readable.isWoken client.id = true) :
      Seeks world client deadline client (world.queue.leaveFrame client.id)

/-- One step of a client: what becomes of it and of the queue, and what happens. -/
inductive Act (world : Clients Frame) (client : Client Frame) :
    Client Frame → Queue Frame → List (Happening Frame) → Prop where
  | pushes {frame : Frame} {deadline : Nat} {base : Client Frame} {queue changed : Queue Frame}
      {news : List (Happening Frame)} {outcome : Pushed} {woken : List TaskId}
      (brings : Brings world client frame deadline base queue news)
      (tried : queue.tryPush frame = some (outcome, changed, woken)) :
      Act world client (answered base (.pushed outcome)) changed
        (news ++ pushHappenings client.id frame queue.frames outcome)
  | awaitsRoom {frame : Frame} {deadline : Nat} {base : Client Frame} {queue : Queue Frame}
      {news : List (Happening Frame)}
      (brings : Brings world client frame deadline base queue news)
      (tried : queue.tryPush frame = none) (ticket : Nat) :
      Act world client { base with wait := .room frame deadline, ticket }
        (queue.awaitRoom client.id) news
  | pushesLate {frame : Frame} {deadline : Nat} {changed : Queue Frame} {outcome : Pushed}
      {woken : List TaskId} (waits : client.wait = .room frame deadline)
      (asleep : world.queue.writable.isWoken client.id = false) (due : deadline ≤ world.now)
      (pushed : (world.queue.giveUpRoom client.id).1.pushLate frame = (outcome, changed, woken)) :
      Act world client (answered client (.pushed outcome)) changed
        (pushHappenings client.id frame world.queue.frames outcome)
  | pops {frame : Frame} {deadline : Option Nat} {base : Client Frame} {queue changed : Queue Frame}
      {woken : List TaskId} (seeks : Seeks world client deadline base queue)
      (popped : queue.tryPop = (.frame frame, changed, woken)) :
      Act world client (answered base (.popped (some frame))) changed [.popped client.id frame]
  | findsClosed {deadline : Option Nat} {base : Client Frame} {queue changed : Queue Frame}
      {woken : List TaskId} (seeks : Seeks world client deadline base queue)
      (popped : queue.tryPop = (.closed, changed, woken)) :
      Act world client (answered base (.popped none)) changed []
  | awaitsFrame {deadline : Option Nat} {base : Client Frame} {queue changed : Queue Frame}
      {woken : List TaskId} (seeks : Seeks world client deadline base queue)
      (popped : queue.tryPop = (.nothing, changed, woken)) (ticket : Nat) :
      Act world client { base with wait := .frame deadline, ticket }
        (queue.awaitFrame client.id) []
  | givesUp {deadline : Nat} (waits : client.wait = .frame (some deadline))
      (asleep : world.queue.readable.isWoken client.id = false) (due : deadline ≤ world.now) :
      Act world client (answered client .timedOut) (world.queue.giveUpFrame client.id).1 []
  | closes {rest : List (Call Frame)} (idle : client.wait = .idle)
      (calls : client.calls = .close :: rest) :
      Act world client (answered { client with calls := rest } .done) world.queue.close.1
        [.closed client.id]
  | sleeps {time ticket : Nat} {rest : List (Call Frame)} (idle : client.wait = .idle)
      (calls : client.calls = .sleep time :: rest) :
      Act world client
        { client with calls := rest, wait := .asleep (world.now + time), ticket }
        world.queue []
  | wakes {deadline : Nat} (waits : client.wait = .asleep deadline) (due : deadline ≤ world.now) :
      Act world client (answered client .done) world.queue []

/-- A step of the client with a number, with all that it leaves as it was. -/
structure Acts (world later : Clients Frame) (id : TaskId) (client next : Client Frame)
    (queue : Queue Frame) (news : List (Happening Frame)) : Prop where
  act : Act world client next queue news
  found : world.client? id = some client
  becomes : later.client? id = some next
  others : ∀ other, other ≠ id → later.client? other = world.client? other
  queue_eq : later.queue = queue
  happenings_eq : later.happenings = world.happenings ++ news
  now_eq : later.now = world.now
  patience_eq : later.patience = world.patience

section

variable {world later : Clients Frame} {client next : Client Frame} {id : TaskId}
  {queue : Queue Frame} {news : List (Happening Frame)}

theorem id_eq_of_client? (found : world.client? id = some client) : client.id = id := by
  have matched := List.find?_some found
  simpa using matched

theorem client?_setClient_self (found : world.client? id = some client) (same : next.id = id) :
    (world.setClient next).client? id = some next := by
  have compatible : (fun client : Client Frame => client.id == id) ∘
      (fun other => if other.id == next.id then next else other) =
        fun client => client.id == id := by
    funext other
    by_cases equal : other.id = id <;> simp [equal, same]
  simp only [client?, setClient, List.find?_map, compatible]
  rw [client?] at found
  simp [found, id_eq_of_client? found, same]

theorem client?_setClient_of_ne {other : TaskId} (different : other ≠ next.id) :
    (world.setClient next).client? other = world.client? other := by
  have compatible : (fun client : Client Frame => client.id == other) ∘
      (fun client => if client.id == next.id then next else client) =
        fun client => client.id == other := by
    funext client
    by_cases equal : client.id = next.id
    · simp [equal]
    · simp [equal]
  simp only [client?, setClient, List.find?_map, compatible]
  cases found : world.clients.find? fun client => client.id == other with
  | none => rfl
  | some client =>
      have matched : client.id = other := by simpa using List.find?_some found
      simp [matched, different]

/-- Only the queue, the ready list and the history of a world may have changed, the history by
some news. -/
structure Grows (world grown : Clients Frame) (news : List (Happening Frame)) : Prop where
  clients_eq : grown.clients = world.clients
  history_eq : grown.history = news.reverse ++ world.history
  now_eq : grown.now = world.now
  patience_eq : grown.patience = world.patience

theorem Grows.setQueue {grown : Clients Frame} (grows : Grows world grown news)
    (change : Queue Frame × List TaskId) : Grows world (grown.setQueue change) news :=
  ⟨grows.clients_eq, grows.history_eq, grows.now_eq, grows.patience_eq⟩

theorem Grows.note {grown : Clients Frame} (grows : Grows world grown news)
    (more : List (Happening Frame)) : Grows world (grown.note more) (news ++ more) := by
  refine ⟨grows.clients_eq, ?_, grows.now_eq, grows.patience_eq⟩
  simp [Clients.note, grows.history_eq]

/-- A step ends when the client is put in its place. -/
theorem Grows.acts {grown : Clients Frame} (grows : Grows world grown news)
    (found : world.client? id = some client) (same : next.id = client.id)
    (act : Act world client next grown.queue news) :
    Acts world (grown.setClient next) id client next grown.queue news := by
  have next_id : next.id = id := same.trans (id_eq_of_client? found)
  have find_eq (other : TaskId) : grown.client? other = world.client? other := by
    simp only [client?, grows.clients_eq]
  refine ⟨act, found, ?_, ?_, rfl, ?_, grows.now_eq, grows.patience_eq⟩
  · exact client?_setClient_self ((find_eq id).trans found) next_id
  · intro other different
    rw [client?_setClient_of_ne (next_id ▸ different), find_eq]
  · simp [happenings, setClient, grows.history_eq]

theorem Grows.endPush {grown : Clients Frame} {base : Client Frame} {frame : Frame}
    {outcome : Pushed} {changed : Queue Frame} (woken : List TaskId)
    (grows : Grows world grown news) (found : world.client? id = some client)
    (same : base.id = client.id)
    (act : Act world client (answered base (.pushed outcome)) changed
      (news ++ pushHappenings client.id frame grown.queue.frames outcome)) :
    Acts world (grown.endPush base frame (outcome, changed, woken)) id client
      (answered base (.pushed outcome)) changed
      (news ++ pushHappenings client.id frame grown.queue.frames outcome) := by
  rw [← same] at act ⊢
  exact ((grows.setQueue (changed, woken)).note _).acts found same act

theorem Grows.push {grown : Clients Frame} {base : Client Frame} {frame : Frame} {deadline : Nat}
    (grows : Grows world grown news) (found : world.client? id = some client)
    (same : base.id = client.id)
    (brings : Brings world client frame deadline base grown.queue news) :
    ∃ next queue news, Acts world (grown.push base frame deadline) id client next queue news := by
  unfold Clients.push
  cases tried : grown.queue.tryPush frame with
  | none =>
      have waits := Act.awaitsRoom brings tried grown.nextTicket
      rw [← same] at waits
      have waiting : Grows world { grown with
          queue := grown.queue.awaitRoom base.id, nextTicket := grown.nextTicket + 1 } news :=
        ⟨grows.clients_eq, grows.history_eq, grows.now_eq, grows.patience_eq⟩
      exact ⟨_, _, _, waiting.acts found same waits⟩
  | some result =>
      obtain ⟨outcome, changed, woken⟩ := result
      exact ⟨_, _, _, grows.endPush woken found same (.pushes brings tried)⟩

theorem Grows.pop {grown : Clients Frame} {base : Client Frame} {deadline : Option Nat}
    (grows : Grows world grown []) (found : world.client? id = some client)
    (same : base.id = client.id) (seeks : Seeks world client deadline base grown.queue) :
    ∃ next queue news, Acts world (grown.pop base deadline) id client next queue news := by
  unfold Clients.pop
  rcases popped : grown.queue.tryPop with ⟨result, changed, woken⟩
  cases result with
  | frame frame =>
      have pops := Act.pops seeks popped
      rw [← same] at pops
      exact ⟨_, _, _, ((grows.setQueue (changed, woken)).note _).acts found same pops⟩
  | closed =>
      have finds := Act.findsClosed seeks popped
      exact ⟨_, _, _, (grows.setQueue (changed, woken)).acts found same finds⟩
  | nothing =>
      have waits := Act.awaitsFrame seeks popped grown.nextTicket
      rw [← same] at waits
      have waiting : Grows world { grown with
          queue := grown.queue.awaitFrame base.id, nextTicket := grown.nextTicket + 1 } [] :=
        ⟨grows.clients_eq, grows.history_eq, grows.now_eq, grows.patience_eq⟩
      exact ⟨_, _, _, waiting.acts found same waits⟩

theorem Grows.refl (world : Clients Frame) : Grows world world [] := ⟨rfl, rfl, rfl, rfl⟩

theorem acts_call {call : Call Frame} {rest : List (Call Frame)}
    (found : world.client? id = some client) (idle : client.wait = .idle)
    (calls : client.calls = call :: rest) :
    ∃ next queue news, Acts world (world.call { client with calls := rest } call) id client
      next queue news := by
  have start := Grows.refl world
  cases call with
  | push frame => exact (start.note [.offered client.id frame]).push found rfl (.begins idle calls)
  | pop limit => exact start.pop found rfl (.begins idle calls)
  | close =>
      exact ⟨_, _, _, ((start.setQueue world.queue.close).note [.closed client.id]).acts found rfl
        (.closes idle calls)⟩
  | sleep time =>
      have waiting : Grows world { world with nextTicket := world.nextTicket + 1 } [] :=
        ⟨rfl, rfl, rfl, rfl⟩
      exact ⟨_, _, _, waiting.acts found rfl (.sleeps idle calls)⟩

/-- Every step of a client is one of its acts. -/
theorem advance_acts (advanced : world.advance id = some later) :
    ∃ client next queue news, Acts world later id client next queue news := by
  obtain ⟨client, found, moved⟩ := Option.bind_eq_some_iff.mp advanced
  have client_id := id_eq_of_client? found
  have start := Grows.refl world
  refine ⟨client, ?_⟩
  cases waits : client.wait with
  | idle =>
      cases calls : client.calls with
      | nil => simp [waits, calls] at moved
      | cons call rest =>
          simp only [waits, calls, Option.some.injEq] at moved
          exact moved ▸ acts_call found waits calls
  | room frame deadline =>
      simp only [waits] at moved
      split at moved
      · rename_i woken
        obtain rfl := Option.some.inj moved
        have resumed : Grows world { world with queue := world.queue.leaveRoom id } [] :=
          ⟨rfl, rfl, rfl, rfl⟩
        rw [← client_id] at woken resumed ⊢
        exact resumed.push (client_id ▸ found) rfl (.retries waits woken)
      · rename_i asleep
        split at moved
        · rename_i due
          obtain rfl := Option.some.inj moved
          have left := start.setQueue (world.queue.giveUpRoom id)
          rw [← client_id] at asleep left found ⊢
          rcases pushed : (world.queue.giveUpRoom client.id).1.pushLate frame with
            ⟨outcome, changed, woken⟩
          have pushes := Act.pushesLate waits (Bool.of_not_eq_true asleep) due pushed
          have ended := left.endPush woken found rfl pushes
          simp only [Clients.setQueue, wake] at ended ⊢
          rw [pushed]
          exact ⟨_, _, _, ended⟩
        · cases moved
  | frame deadline =>
      simp only [waits] at moved
      split at moved
      · rename_i woken
        obtain rfl := Option.some.inj moved
        have resumed : Grows world { world with queue := world.queue.leaveFrame id } [] :=
          ⟨rfl, rfl, rfl, rfl⟩
        rw [← client_id] at woken resumed ⊢
        exact resumed.pop (client_id ▸ found) rfl (.retries waits woken)
      · rename_i asleep
        split at moved
        · rename_i due
          obtain rfl := Option.some.inj moved
          obtain ⟨limit, rfl, passed⟩ := Option.any_eq_true _ _ |>.mp due
          have left := start.setQueue (world.queue.giveUpFrame id)
          rw [← client_id] at asleep left found ⊢
          exact ⟨_, _, _, left.acts found rfl
            (.givesUp waits (Bool.of_not_eq_true asleep) (of_decide_eq_true passed))⟩
        · cases moved
  | asleep deadline =>
      simp only [waits] at moved
      split at moved
      · rename_i due
        obtain rfl := Option.some.inj moved
        exact ⟨_, _, _, start.acts found rfl (.wakes waits due)⟩
      · cases moved

end

end Showcase.Queue.Clients
