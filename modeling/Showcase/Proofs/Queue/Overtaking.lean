import Mathlib.Data.List.Nodup
import Mathlib.Data.List.Pairwise
import Showcase.Proofs.Queue.Conservation

/-!
# Frames that overtake others

A frame whose push waits for room can be overtaken: another push that began later may find the room
that a pop has made before the one that waits is woken. The older frame then comes after the newer
one, or even takes its place in an eviction. Where no frame overtakes another one, frames leave the
queue in the order in which they were brought.
-/

namespace Showcase.Queue.Clients

variable {Frame : Type}

/-! ## The order of the pushes -/

/-- The frame whose push begins. -/
def offer? : Happening Frame → Option Frame
  | .offered _ frame => some frame
  | .stored .. | .evicted .. | .popped .. | .closed _ => none

/-- The frames that were brought, in the order in which their pushes began. -/
def offeredFrames (happenings : List (Happening Frame)) : List Frame := happenings.filterMap offer?

/-- The frames that were popped, in order. -/
def poppedFrames (happenings : List (Happening Frame)) : List Frame :=
  happenings.filterMap fun
    | .popped _ frame => some frame
    | _ => none

/-- The push of the first frame began before that of the second one. -/
def Precedes (happenings : List (Happening Frame)) (first second : Frame) : Prop :=
  [first, second].Sublist (offeredFrames happenings)

/-- A frame made way for another one. -/
def Evicts (happenings : List (Happening Frame)) (old new : Frame) : Prop :=
  ∃ earlier id further, happenings = earlier ++ .evicted id old :: .stored id new :: further

/-- The newest frame supersedes: frames are popped in the order in which they were brought, and a
frame makes way for those only that were brought after it. -/
structure Supersedes (happenings : List (Happening Frame)) : Prop where
  popped : (poppedFrames happenings).Sublist (offeredFrames happenings)
  evicted : ∀ old new, Evicts happenings old new → Precedes happenings old new

/-- A step stores a frame while another client waits with one whose push began before. -/
structure Overtakes (world later : Clients Frame) (old new : Frame) : Prop where
  stores : storedFrames later.happenings = storedFrames world.happenings ++ [new]
  waits : ∃ id, old ∈ later.inHand id
  precedes : Precedes later.happenings old new

/-- The worlds that can come about without a frame that overtakes another one. -/
inductive Orderly (capacity patience : Nat) : Clients Frame → Prop where
  | empty : Orderly capacity patience { queue := .ofCapacity capacity, patience }
  | step {world later : Clients Frame} (before : Orderly capacity patience world)
      (step : Step world later) (fair : ∀ old new, ¬ Overtakes world later old new) :
      Orderly capacity patience later

/-! ## Orders of two and more -/

section

variable {Item : Type} {first second : Item} {items before after : List Item}

/-- One of two items of a list comes before the other one. -/
theorem pair_sublist_or (one : first ∈ items) (two : second ∈ items) (different : first ≠ second) :
    [first, second].Sublist items ∨ [second, first].Sublist items := by
  let Ordered (one two : Item) := [one, two].Sublist items ∨ [two, one].Sublist items
  have symmetric : Std.Symm Ordered := ⟨fun _ _ => Or.symm⟩
  have ordered : items.Pairwise Ordered :=
    List.pairwise_iff_forall_sublist.mpr fun sublist => .inl sublist
  exact ordered.forall one two different

/-- In a list without repetitions, what ends in an item and what begins with it join. -/
theorem join_sublist (distinct : items.Nodup) (left : (before ++ [first]).Sublist items)
    (right : (first :: after).Sublist items) : (before ++ first :: after).Sublist items := by
  induction items generalizing before with
  | nil => simp at left
  | cons item rest ih =>
      obtain ⟨absent, distinct⟩ := List.nodup_cons.mp distinct
      have later (within : first ∈ rest) : (first :: after).Sublist rest := by
        cases right with
        | cons _ right => exact right
        | cons_cons _ right => exact absurd within absent
      cases before with
      | nil => exact right
      | cons head tail =>
          rw [List.cons_append] at left ⊢
          cases left with
          | cons _ left =>
              have within : first ∈ rest := left.subset (by simp)
              exact (@ih (head :: tail) distinct left (later within)).cons item
          | cons_cons _ left =>
              have within : first ∈ rest := left.subset (by simp)
              exact (ih distinct left (later within)).cons_cons item

end

/-! ## What a step hands on -/

section

variable {world later : Clients Frame} {client next : Client Frame} {id other : TaskId}
  {queue : Queue Frame} {news : List (Happening Frame)} {frame : Frame}

theorem offeredFrames_append (first second : List (Happening Frame)) :
    offeredFrames (first ++ second) = offeredFrames first ++ offeredFrames second :=
  List.filterMap_append

theorem poppedFrames_sublist (happenings : List (Happening Frame)) :
    (poppedFrames happenings).Sublist (removedFrames happenings) := by
  induction happenings with
  | nil => exact .slnil
  | cons happening rest ih =>
      cases happening with
      | popped id frame => exact ih.cons_cons frame
      | evicted id frame => exact ih.cons frame
      | offered | stored | closed => exact ih

theorem pushHappenings_frames (id : TaskId) (frame : Frame) (frames : List Frame)
    (outcome : Pushed) :
    offeredFrames (pushHappenings id frame frames outcome) = [] ∧
      (storedFrames (pushHappenings id frame frames outcome)).Sublist [frame] := by
  cases outcome with
  | queued => exact ⟨rfl, .refl _⟩
  | evicted => cases frames <;> exact ⟨rfl, .refl _⟩
  | closed => exact ⟨rfl, List.nil_sublist _⟩

theorem Brings.carries {deadline : Nat} {base : Client Frame}
    (brings : Brings world client frame deadline base queue news) :
    client.inHand ++ offeredFrames news = [frame] ∧ storedFrames news = [] := by
  cases brings with
  | begins idle =>
      rw [Client.inHand, idle]
      exact ⟨rfl, rfl⟩
  | retries waits =>
      rw [Client.inHand, waits]
      exact ⟨rfl, rfl⟩

/-- A client has one frame at a time: it stores the one that it had or began to push, or goes on
waiting with it. -/
theorem Act.hands (act : Act world client next queue news) :
    (client.inHand ++ offeredFrames news).length ≤ 1 ∧
      (storedFrames news ++ next.inHand).Sublist (client.inHand ++ offeredFrames news) := by
  have none : ([] : List Frame).length ≤ 1 ∧ ([] : List Frame).Sublist [] :=
    ⟨Nat.zero_le 1, .refl []⟩
  cases act with
  | pushes brings tried =>
      obtain ⟨carries, silent⟩ := brings.carries
      obtain ⟨offered, stored⟩ := pushHappenings_frames client.id _ _ _
      rw [offeredFrames_append, storedFrames_append, offered, silent, List.append_nil, carries]
      simpa [answered, Client.inHand] using stored
  | awaitsRoom brings =>
      obtain ⟨carries, silent⟩ := brings.carries
      rw [carries, silent]
      exact ⟨Nat.le_refl _, .refl _⟩
  | pushesLate waits =>
      obtain ⟨offered, stored⟩ := pushHappenings_frames client.id _ _ _
      rw [offered]
      simpa [answered, Client.inHand, waits] using stored
  | pops seeks | findsClosed seeks | awaitsFrame seeks =>
      rw [seeks.inHand]
      exact none
  | givesUp waits | wakes waits =>
      rw [Client.inHand, waits]
      exact none
  | closes idle | sleeps idle =>
      rw [Client.inHand, idle]
      exact none

/-- The frame that a client waits with is one that it brought. -/
theorem offered_of_inHand (account : Accounted world id) (waits : frame ∈ world.inHand id) :
    .offered id frame ∈ world.happenings := by
  obtain ⟨results, offers, -⟩ := account
  have brought : frame ∈ offeredBy id world.happenings := by simp [offers, waits]
  obtain ⟨happening, member, found⟩ := List.mem_filterMap.mp brought
  cases happening with
  | offered bringer other =>
      by_cases same : bringer = id
      · obtain rfl : other = frame := by simpa [same] using found
        exact same ▸ member
      · simp [same] at found
  | stored | evicted | popped | closed => cases found

theorem offered_unique {happenings : List (Happening Frame)}
    (distinct : (offeredFrames happenings).Nodup) (first : .offered id frame ∈ happenings)
    (second : .offered other frame ∈ happenings) : id = other := by
  by_contra different
  have twice {one two : TaskId}
      (ordered : [Happening.offered one frame, .offered two frame].Sublist happenings) :
      [frame, frame].Sublist (offeredFrames happenings) := ordered.filterMap offer?
  have never := List.nodup_iff_sublist.mp distinct frame
  rcases pair_sublist_or first second (by simpa using different) with ordered | ordered
  · exact never (twice ordered)
  · exact never (twice ordered)

end

/-! ## Every step -/

section

variable {world later : Clients Frame} {id : TaskId} {frame : Frame}

/-- What a step brings, stores and leaves in the hands of the clients. -/
structure Hands (world later : Clients Frame) (offered stored : List Frame) : Prop where
  offered_eq : offeredFrames later.happenings = offeredFrames world.happenings ++ offered
  stored_eq : storedFrames later.happenings = storedFrames world.happenings ++ stored
  /-- At most one client has or gets a frame, stores it or keeps it. -/
  moved : ∃ id, (world.inHand id ++ offered).length ≤ 1 ∧
    (stored ++ later.inHand id).Sublist (world.inHand id ++ offered) ∧
    ∀ other, other ≠ id → later.inHand other = world.inHand other

theorem inHand_length_le (world : Clients Frame) (id : TaskId) :
    (world.inHand id).length ≤ 1 := by
  unfold inHand
  cases world.client? id with
  | none => exact Nat.zero_le 1
  | some client =>
      rw [Option.map_some, Option.getD_some, Client.inHand]
      split
      · exact Nat.le_refl 1
      · exact Nat.zero_le 1

theorem hands_of_same (silent : later.happenings = world.happenings)
    (same : ∀ id, later.inHand id = world.inHand id) : Hands world later [] [] := by
  refine ⟨by simp [silent], by simp [silent], 0, ?_, ?_, fun other _ => same other⟩
  · simpa using world.inHand_length_le 0
  · simp [same]

theorem Step.hands (step : Step world later) :
    ∃ offered stored, Hands world later offered stored := by
  cases step with
  | advance id advanced =>
      obtain ⟨client, next, queue, news, acts⟩ := advance_acts advanced
      have before : world.inHand id = client.inHand := by simp [inHand, acts.found]
      have after : later.inHand id = next.inHand := by simp [inHand, acts.becomes]
      refine ⟨offeredFrames news, storedFrames news, ?_, acts.stored_eq, id, ?_⟩
      · rw [acts.happenings_eq, offeredFrames_append]
      · rw [before, after]
        refine ⟨acts.act.hands.1, acts.act.hands.2, fun other different => ?_⟩
        simp only [inHand, acts.others other different]
  | elapse => exact ⟨[], [], hands_of_same rfl fun _ => rfl⟩
  | spawn id calls fresh => exact ⟨[], [], hands_of_same rfl (inHand_spawn calls fresh)⟩

/-- What was stored and what a client waits with, in the order in which it was brought. -/
def InTurn (world : Clients Frame) : Prop :=
  ∀ id, (storedFrames world.happenings ++ world.inHand id).Sublist
    (offeredFrames world.happenings)

/-- The frame that a step stores is not the one that another client waits with. -/
theorem Hands.differ {offered : List Frame} {mover : TaskId} {old new : Frame}
    (accounts : ∀ id, Accounted world id)
    (distinct : (offeredFrames world.happenings ++ offered).Nodup)
    (brought : new ∈ world.inHand mover ++ offered) (waits : old ∈ world.inHand id)
    (apart : id ≠ mover) : old ≠ new := by
  rintro rfl
  have early := offered_of_inHand (accounts id) waits
  rcases List.mem_append.mp brought with held | fresh
  · have other := offered_of_inHand (accounts mover) held
    exact apart (offered_unique (List.nodup_append.mp distinct).1 early other)
  · have known : old ∈ offeredFrames world.happenings := List.mem_filterMap.mpr ⟨_, early, rfl⟩
    exact (List.nodup_append.mp distinct).2.2 old known old fresh rfl

theorem Hands.inTurn {offered stored : List Frame} (hands : Hands world later offered stored)
    (accounts : ∀ id, Accounted world id) (distinct : (offeredFrames later.happenings).Nodup)
    (fair : ∀ old new, ¬ Overtakes world later old new) (inTurn : InTurn world) :
    InTurn later := by
  obtain ⟨mover, single, moved, others⟩ := hands.moved
  have storing := hands.stored_eq
  have joined : (storedFrames later.happenings ++ later.inHand mover).Sublist
      (offeredFrames later.happenings) := by
    rw [storing, hands.offered_eq, List.append_assoc]
    refine (moved.append_left _).trans ?_
    rw [← List.append_assoc]
    exact (inTurn mover).append_right offered
  intro id
  by_cases same : id = mover
  · exact same ▸ joined
  have waited : (storedFrames world.happenings ++ later.inHand id).Sublist
      (offeredFrames later.happenings) := by
    rw [others id same, hands.offered_eq]
    exact (inTurn id).trans (List.sublist_append_left _ _)
  have short := Nat.le_trans moved.length_le single
  rw [List.length_append] at short
  have held := later.inHand_length_le id
  rcases stored with _ | ⟨new, _ | ⟨_, _⟩⟩
  · simpa [storing] using waited
  · rcases waits : later.inHand id with _ | ⟨old, _ | ⟨_, _⟩⟩
    · simpa using (List.sublist_append_left _ _).trans joined
    · have different : old ≠ new :=
        Hands.differ accounts (hands.offered_eq ▸ distinct) (moved.subset (by simp))
          (others id same ▸ waits ▸ List.mem_singleton_self old) same
      have stored : (storedFrames world.happenings ++ [new]).Sublist
          (offeredFrames later.happenings) :=
        storing ▸ (List.sublist_append_left _ _).trans joined
      have old_offered : old ∈ offeredFrames later.happenings := waited.subset (by simp [waits])
      have new_offered : new ∈ offeredFrames later.happenings := stored.subset (by simp)
      rcases pair_sublist_or new_offered old_offered different.symm with ordered | crossed
      · rw [storing, List.append_assoc]
        exact join_sublist distinct stored ordered
      · exact absurd ⟨storing, ⟨id, waits ▸ List.mem_singleton_self old⟩, crossed⟩ (fair old new)
    · simp [waits] at held
  · simp only [List.length_cons] at short
    omega

/-! ## Frames that make way -/

/-- A frame that makes way was stored before. -/
def EvictsStored (happenings : List (Happening Frame)) : Prop :=
  ∀ earlier id old further, happenings = earlier ++ .evicted id old :: further →
    old ∈ storedFrames earlier

/-- A frame makes way where a push runs out of time, and it is one of the queue. -/
theorem Act.evicted {client next : Client Frame} {queue : Queue Frame}
    {before after news : List (Happening Frame)} {old : Frame}
    (act : Act world client next queue news) (split : news = before ++ .evicted id old :: after) :
    before = [] ∧ world.queue.closed = false ∧ old ∈ world.queue.frames := by
  have member : .evicted id old ∈ news := split ▸ by simp
  cases act with
  | pushes brings tried =>
      rcases tryPush_eq_some tried with ⟨rfl, -⟩ | ⟨rfl, -⟩
      all_goals cases brings <;> simp [pushHappenings] at member
  | awaitsRoom brings => cases brings <;> simp at member
  | @pushesLate frame _ _ _ _ waits asleep due pushed =>
      rcases pushLate_eq pushed with ⟨rfl, -⟩ | ⟨rfl, -⟩ | ⟨rfl, opened, -⟩
      · simp [pushHappenings] at member
      · simp [pushHappenings] at member
      · cases frames : world.queue.frames with
        | nil => simp [pushHappenings, frames] at member
        | cons first rest =>
            rw [pushHappenings, frames] at split
            cases before with
            | nil =>
                obtain ⟨⟨-, rfl⟩, -⟩ : (_ ∧ first = old) ∧ _ := by simpa using split
                exact ⟨rfl, opened, List.mem_cons_self ..⟩
            | cons happening before =>
                cases before <;> simp at split
  | pops | findsClosed | awaitsFrame | givesUp | closes | sleeps | wakes => simp at member

theorem Step.evictsStored (inOrder : InOrder world) (stored : EvictsStored world.happenings)
    (step : Step world later) : EvictsStored later.happenings := by
  cases step with
  | elapse | spawn => exact stored
  | advance mover advanced =>
      obtain ⟨client, next, queue, news, acts⟩ := advance_acts advanced
      have within {before after : List (Happening Frame)} {id : TaskId} {old : Frame}
          (split : news = before ++ .evicted id old :: after) :
          before = [] ∧ old ∈ storedFrames world.happenings := by
        obtain ⟨first, opened, member⟩ := acts.act.evicted split
        refine ⟨first, ?_⟩
        rw [← inOrder opened]
        exact List.mem_append_right _ member
      intro earlier id old further whole
      rw [acts.happenings_eq] at whole
      rcases List.append_eq_append_iff.mp whole with ⟨before, rfl, split⟩ | ⟨after, split, rest⟩
      · obtain ⟨rfl, member⟩ := within split
        simpa using member
      · cases after with
        | nil =>
            obtain ⟨-, member⟩ := @within [] _ _ _ rest.symm
            simpa [split] using member
        | cons happening after =>
            obtain ⟨rfl, -⟩ := List.cons_eq_cons.mp rest
            exact stored earlier id old after split

theorem Step.removed_prefix (bounded : Bounded world.queue) (inOrder : InOrder world)
    (before : removedFrames world.happenings <+: storedFrames world.happenings)
    (step : Step world later) :
    removedFrames later.happenings <+: storedFrames later.happenings := by
  have kept (opened : world.queue.closed = false) (later_open : later.queue.closed = false) :
      removedFrames later.happenings <+: storedFrames later.happenings :=
    ⟨_, step.inOrder bounded inOrder later_open⟩
  cases step.change bounded with
  | rests _ _ stored removed | closes _ _ _ stored removed => rwa [stored, removed]
  | stores _ _ opened _ _ closed | evicts _ _ _ _ opened _ _ _ closed | takes _ _ opened _ closed =>
      exact kept opened closed

end

/-! ## Runs without overtaking -/

section

variable {capacity patience : Nat} {world : Clients Frame}

theorem Reach.evictsStored (reach : Reach capacity patience world) :
    EvictsStored world.happenings := by
  induction reach with
  | empty => exact fun earlier _ _ _ split => by simp [happenings] at split
  | step before step ih => exact step.evictsStored before.inOrder ih

theorem Reach.removed_prefix (reach : Reach capacity patience world) :
    removedFrames world.happenings <+: storedFrames world.happenings := by
  induction reach with
  | empty => exact List.prefix_rfl
  | step before step ih => exact step.removed_prefix before.bounded.1 before.inOrder ih

theorem Orderly.reach (orderly : Orderly capacity patience world) :
    Reach capacity patience world := by
  induction orderly with
  | empty => exact .empty
  | step before step fair ih => exact ih.step step

theorem Orderly.inTurn (orderly : Orderly capacity patience world)
    (distinct : (offeredFrames world.happenings).Nodup) : InTurn world := by
  induction orderly with
  | empty => exact fun id => .slnil
  | step before step fair ih =>
      obtain ⟨offered, stored, hands⟩ := step.hands
      refine hands.inTurn before.reach.account distinct fair (ih ?_)
      rw [hands.offered_eq] at distinct
      exact (List.nodup_append.mp distinct).1

/-- Where no frame overtakes another one, the newest frame supersedes, and the frames in the queue
are newer than all that left it. -/
theorem supersedes_of_orderly (orderly : Orderly capacity patience world)
    (distinct : (offeredFrames world.happenings).Nodup) :
    Supersedes world.happenings ∧
      ∀ old ∈ removedFrames world.happenings, ∀ frame ∈ world.queue.frames,
        Precedes world.happenings old frame := by
  have reach := orderly.reach
  have stored : (storedFrames world.happenings).Sublist (offeredFrames world.happenings) :=
    (List.sublist_append_left _ _).trans (orderly.inTurn distinct 0)
  refine ⟨⟨?_, ?_⟩, ?_⟩
  · exact (poppedFrames_sublist _).trans (reach.removed_prefix.sublist.trans stored)
  · rintro old new ⟨earlier, id, further, split⟩
    have member := reach.evictsStored earlier id old _ split
    refine List.Sublist.trans ?_ stored
    rw [split, storedFrames_append]
    exact (List.singleton_sublist.mpr member).append
      ((List.nil_sublist _).cons_cons new)
  · intro old removed frame queued
    by_cases closed : world.queue.closed = true
    · rw [reach.bounded.1.empty_of_closed closed] at queued
      cases queued
    · refine List.Sublist.trans ?_ stored
      rw [← reach.inOrder (Bool.of_not_eq_true closed)]
      exact (List.singleton_sublist.mpr removed).append (List.singleton_sublist.mpr queued)

/-- Nothing is overtaken where nothing is stored. -/
theorem not_overtakes_of_stored_eq {later : Clients Frame} {old new : Frame}
    (silent : storedFrames later.happenings = storedFrames world.happenings) :
    ¬ Overtakes world later old new := fun overtakes => by
  simpa using silent.symm.trans overtakes.stores

/-- Nothing is overtaken where nobody waits with a frame. -/
theorem not_overtakes_of_nobody {later : Clients Frame} {old new : Frame}
    (nobody : ∀ client ∈ later.clients, client.inHand = []) : ¬ Overtakes world later old new :=
  fun overtakes => by
    obtain ⟨id, waits⟩ := overtakes.waits
    cases found : later.client? id with
    | none => simp [inHand, found] at waits
    | some client => simp [inHand, found, nobody client (List.mem_of_find?_eq_some found)] at waits

/-- Two pushes follow each other, and the second one evicts the frame of the first. -/
theorem supersedes_of_orderly_eviction : ∃ world : Clients Nat, Orderly 1 5 world ∧
    world.happenings = [.offered 1 10, .stored 1 10, .offered 1 20, .evicted 1 10, .stored 1 20] ∧
    Supersedes world.happenings := by
  have producer : Orderly 1 5 _ := .step .empty (.spawn _ 1 [.push 10, .push 20] rfl)
    fun _ _ => not_overtakes_of_stored_eq rfl
  have stored : Orderly 1 5 _ := .step producer (.advance 1 rfl)
    fun _ _ => not_overtakes_of_nobody (by decide)
  have waits : Orderly 1 5 _ := .step stored (.advance 1 rfl)
    fun _ _ => not_overtakes_of_stored_eq rfl
  have due : Orderly 1 5 _ := .step waits (.elapse _ 5 (by decide))
    fun _ _ => not_overtakes_of_stored_eq rfl
  have evicted : Orderly 1 5 _ := .step due (.advance 1 rfl)
    fun _ _ => not_overtakes_of_nobody (by decide)
  exact ⟨_, evicted, by decide, (supersedes_of_orderly evicted (by decide)).1⟩

/-- Clients that go on one after the other make a run. -/
theorem Reach.foldlM {capacity patience : Nat} {world later : Clients Frame} {ids : List TaskId}
    (reach : Reach capacity patience world) (went : ids.foldlM advance world = some later) :
    Reach capacity patience later := by
  induction ids generalizing world with
  | nil => exact Option.some.inj went ▸ reach
  | cons id rest ih =>
      obtain ⟨between, first, further⟩ := Option.bind_eq_some_iff.mp went
      exact ih (reach.step (.advance id first)) further

/-- A frame that waits for room is popped after one that was brought later, and another one takes
the place of one that was brought later. -/
theorem not_supersedes : ∃ world : Clients Nat, Reach 1 5 world ∧
    ¬ (poppedFrames world.happenings).Sublist (offeredFrames world.happenings) ∧
    Evicts world.happenings 60 50 ∧ Precedes world.happenings 50 60 ∧
    ¬ Precedes world.happenings 60 50 := by
  let first : Clients Nat := spawn { queue := .ofCapacity 1, patience := 5 } 1 [.push 10, .push 40]
  let second := first.spawn 2 [.push 20, .push 50]
  let third := second.spawn 3 [.push 30, .push 60]
  let asked := third.spawn 4 [.pop none, .pop none, .pop none, .pop none]
  -- Client 2 waits, and client 3 stores its frame as soon as client 4 has made room; then again,
  -- until the time of client 2 has run out.
  let crossed := ([1, 2, 4, 3, 2, 4, 2, 4, 1, 2, 4, 3, 2].foldlM advance asked).get (by decide)
  let world := ([2, 2].foldlM advance (crossed.elapse 5)).get (by decide)
  have reach : Reach 1 5 asked :=
    (((Reach.empty.step (.spawn _ 1 _ rfl)).step (.spawn _ 2 _ rfl)).step
      (.spawn _ 3 _ rfl)).step (.spawn _ 4 _ rfl)
  have reach : Reach 1 5 crossed := reach.foldlM (Option.some_get _).symm
  have reach : Reach 1 5 world :=
    (reach.step (.elapse _ 5 (by decide))).foldlM (Option.some_get _).symm
  let earlier : List (Happening Nat) := [.offered 1 10, .stored 1 10, .offered 2 20, .popped 4 10,
    .offered 3 30, .stored 3 30, .popped 4 30, .stored 2 20, .popped 4 20, .offered 1 40,
    .stored 1 40, .offered 2 50, .popped 4 40, .offered 3 60, .stored 3 60]
  have told : world.happenings = earlier ++ [.evicted 2 60, .stored 2 50] := by decide
  refine ⟨world, reach, ?_, ?_, ?_, ?_⟩ <;> rw [told]
  · decide
  · exact ⟨earlier, 2, [], rfl⟩
  · unfold Precedes
    decide
  · unfold Precedes
    decide

end

end Showcase.Queue.Clients
