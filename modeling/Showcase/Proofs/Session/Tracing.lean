import Mathlib.Algebra.BigOperators.Group.Finset.Piecewise
import Mathlib.Algebra.Order.BigOperators.Group.Finset
import Mathlib.Algebra.Order.Group.Multiset
import Mathlib.Tactic.Abel
import Showcase.Proofs.Session.Effects
import Showcase.Proofs.Session.Leaves
import Showcase.Proofs.Session.Mapping

/-!
# Programs that keep track of their messages

A traced program does what a program does and remembers where its messages come from: which event
caused them, and over how many links. It remembers every update that was made and every message that
was sent, without regard to the depths that a session counts.
-/

namespace Showcase

variable {Flags State Msg : Type}

/-- A message with the event that caused it and the number of links that lead to it. A message that
is made directly for an event has no links; which event it is turns out when it comes. -/
structure Traced (Msg : Type) where
  root : Nat
  links : Nat
  message : Msg
  deriving DecidableEq

/-- A state with all that led to it. -/
structure Trace (State Msg : Type) where
  state : State
  /-- How many events there were, the start included. -/
  events : Nat
  /-- The updates that were made. -/
  made : List (Traced Msg)
  /-- The messages that were sent, those of tasks included. -/
  sent : List (Traced Msg)

/-- A message with its number of links only. -/
def Traced.stamp (traced : Traced Msg) : Nat × Msg := (traced.links, traced.message)

namespace Trace

/-- The message of an update with the event that caused it. -/
def rooted (trace : Trace State Msg) (traced : Traced Msg) : Traced Msg :=
  if traced.links = 0 then { traced with root := trace.events } else traced

/-- The updates that were made directly for an event. -/
def direct (trace : Trace State Msg) : List (Traced Msg) :=
  trace.made.filter fun made => made.links == 0

/-- The updates that were made for a message of a command or of a task. -/
def chained (trace : Trace State Msg) : List (Traced Msg) :=
  trace.made.filter fun made => made.links != 0

end Trace

/-- The program that keeps track of its messages. -/
def Model.traced (model : Model Flags State Msg) :
    Model Flags (Trace State Msg) (Traced Msg) where
  init flags geometry :=
    let (state, command) := model.init flags geometry
    let issued := command.map (Traced.mk 0 1)
    ({ state, events := 1, made := [], sent := issued.contents }, issued)
  ofKey key := { root := 0, links := 0, message := model.ofKey key }
  update trace traced :=
    let (state, command) := model.update trace.state traced.message
    let made := trace.rooted traced
    let issued := command.map (Traced.mk made.root (traced.links + 1))
    ({ state
       events := if traced.links = 0 then trace.events + 1 else trace.events
       made := trace.made ++ [made]
       sent := trace.sent ++ issued.contents }, issued)
  resize trace geometry :=
    let (state, command) := model.resize trace.state geometry
    let issued := command.map (Traced.mk trace.events 1)
    ({ trace with
       state
       events := trace.events + 1
       sent := trace.sent ++ issued.contents }, issued)
  draw trace := model.draw trace.state

namespace Command

variable {Out : Type}

theorem map_undone {f : Msg → Out} {g : Out → Msg} (undone : ∀ message, g (f message) = message)
    (command : Command Msg) : (command.map f).map g = command := by
  rw [map_map]
  exact map_eq_self undone command

theorem contents_map (f : Msg → Out) (command : Command Msg) :
    (command.map f).contents = command.contents.map f := by
  rw [contents, contents, flatten_map, List.filterMap_map, List.map_filterMap]
  congr 1
  funext leaf
  cases leaf <;> rfl

end Command

/-- A traced program does what the program does. -/
theorem Model.traced_mirrors (model : Model Flags State Msg) :
    model.traced.Mirrors model Trace.state Traced.message where
  init_eq flags geometry := by simp [traced, Command.map_undone]
  ofKey_eq key := rfl
  update_eq trace message := by simp [traced, Command.map_undone]
  resize_eq trace geometry := by simp [traced, Command.map_undone]
  draw_eq trace := rfl

namespace Trace

variable {model : Model Flags State Msg} {trace : Trace State Msg} {message : Traced Msg}

theorem rooted_links : (trace.rooted message).links = message.links := by
  unfold rooted
  split <;> rfl

theorem rooted_message : (trace.rooted message).message = message.message := by
  unfold rooted
  split <;> rfl

theorem chained_update_direct (first : message.links = 0) :
    (model.traced.update trace message).1.chained = trace.chained := by
  simp [chained, Model.traced, rooted_links, first]

theorem chained_update (further : message.links ≠ 0) :
    (model.traced.update trace message).1.chained = trace.chained ++ [message] := by
  simp [chained, Model.traced, rooted, further]

theorem direct_update_direct (first : message.links = 0) :
    (model.traced.update trace message).1.direct = trace.direct ++ [trace.rooted message] := by
  simp [direct, Model.traced, rooted_links, first]

theorem direct_update (further : message.links ≠ 0) :
    (model.traced.update trace message).1.direct = trace.direct := by
  simp [direct, Model.traced, rooted_links, further]

theorem stamps_update :
    (model.traced.update trace message).1.made.map Traced.stamp =
      trace.made.map Traced.stamp ++ [message.stamp] := by
  simp [Model.traced, Traced.stamp, rooted_links, rooted_message]

theorem sent_update :
    (model.traced.update trace message).1.sent =
      trace.sent ++ (model.traced.update trace message).2.contents := rfl

end Trace

/-! ## What was sent is made, waiting, dropped or still to come -/

/-- The messages that were sent are accounted for: an update was made for them, their task is
waiting, they were too deep, or they are still to come. -/
structure Outcome.Accounts (earlier : List (Nat × Msg)) (direct : List Msg)
    (coming : List (Traced Msg)) (outcome : Outcome (Trace State Msg) (Traced Msg)) : Prop where
  sent_perm : outcome.state.sent.Perm (outcome.state.chained ++
    (outcome.tasks.map Prod.snd ++ (outcome.dropped.map Prod.snd ++ coming)))
  made_eq : outcome.state.made.map Traced.stamp =
    earlier ++ outcome.updates.map fun update => (update.1, update.2.message)
  direct_eq : outcome.state.direct.map Traced.message = direct
  made_links : ∀ made ∈ outcome.state.made, made.links ≤ maxDepth
  task_links : ∀ task ∈ outcome.tasks, task.1 ≤ maxDepth ∧ task.2.links = task.1 + 1
  dropped_links : ∀ dropped ∈ outcome.dropped,
    dropped.1 = maxDepth + 1 ∧ dropped.2.links = maxDepth + 1

namespace Outcome.Accounts

variable {model : Model Flags State Msg} {earlier : List (Nat × Msg)} {direct : List Msg}
  {made sent coming : List (Traced Msg)} {trace : Trace State Msg}

theorem links_of_mem {root links : Nat} {command : Command Msg} {content : Traced Msg}
    (member : content ∈ (command.map (Traced.mk root links)).contents) : content.links = links := by
  rw [Command.contents_map] at member
  obtain ⟨message, -, rfl⟩ := List.mem_map.mp member
  rfl

theorem carries (model : Model Flags State Msg) :
    model.traced.Carries (fun depth message => message.links = depth + 1)
      (Accounts earlier direct) where
  spreads depth trace message sound content member := sound ▸ links_of_mem member
  update depth message coming outcome shallow sound before := by
    have further : message.links ≠ 0 := by rw [sound]; exact Nat.succ_ne_zero depth
    refine ⟨Multiset.coe_eq_coe.mp ?_, ?_, ?_, ?_, before.task_links, before.dropped_links⟩
    · have balance := Multiset.coe_eq_coe.mpr before.sent_perm
      rw [Trace.sent_update, Trace.chained_update further]
      simp only [← Multiset.coe_add, ← Multiset.cons_coe, ← Multiset.singleton_add,
        Multiset.coe_nil] at balance ⊢
      rw [balance]
      simp only [tasks]
      abel
    · rw [Trace.stamps_update, before.made_eq]
      simp [Traced.stamp, sound]
    · rw [Trace.direct_update further]
      exact before.direct_eq
    · intro made member
      rcases List.mem_append.mp member with old | new
      · exact before.made_links made old
      · rw [List.mem_singleton.mp new, Trace.rooted_links, sound]
        exact shallow
  drop message coming outcome sound before := by
    refine ⟨?_, before.made_eq, before.direct_eq, before.made_links, before.task_links, ?_⟩
    · simpa [tasks] using before.sent_perm
    · intro dropped member
      rcases List.mem_append.mp member with old | new
      · exact before.dropped_links dropped old
      · rw [List.mem_singleton.mp new]
        exact ⟨rfl, sound⟩
  quit coming outcome before := ⟨before.1, before.2, before.3, before.4, before.5, before.6⟩
  task depth content coming outcome bounded sound before := by
    refine ⟨before.sent_perm.trans (.append_left _ ?_), before.made_eq, before.direct_eq,
      before.made_links, ?_, before.dropped_links⟩
    · simp only [tasks, List.map_append, List.map_cons, List.map_nil, List.append_assoc,
        List.singleton_append]
      exact List.perm_middle.append_left _
    · intro task member
      simp only [tasks, List.map_append, List.map_cons, List.map_nil, List.mem_append,
        List.mem_singleton] at member
      rcases member with old | rfl
      · exact before.task_links task old
      · exact ⟨bounded, sound⟩

theorem begin (flags : Flags) (geometry : Geometry) :
    Accounts [] [] [] (model.traced.begin flags geometry) := by
  refine (carries model).resolve 0 (Nat.zero_le _) _ [] _ (fun _ => links_of_mem) ?_
  refine ⟨?_, rfl, rfl, ?_, ?_, ?_⟩
  · simp [Model.traced, Trace.chained, tasks]
  all_goals simp [Model.traced, tasks]

/-- What an event's command sends is still to come. -/
theorem issue (balance : sent.Perm (made ++ coming)) (contents : List (Traced Msg)) :
    (sent ++ contents).Perm (made ++ (contents ++ coming)) := by
  refine (balance.append_right contents).trans ?_
  rw [List.append_assoc]
  exact List.perm_append_comm.append_left made

theorem adapt (before : Accounts earlier direct coming { state := trace }) (geometry : Geometry) :
    Accounts earlier direct coming (model.traced.adapt trace geometry) := by
  refine (carries model).resolve 0 (Nat.zero_le _) _ coming _ (fun _ => links_of_mem) ?_
  exact ⟨issue before.sent_perm _, before.made_eq, before.direct_eq, before.made_links,
    before.task_links, before.dropped_links⟩

theorem dispatch_direct (before : Accounts earlier direct coming { state := trace }) (key : Key) :
    Accounts earlier (direct ++ [model.ofKey key]) coming
      (model.traced.dispatch trace 0 (model.traced.ofKey key)) := by
  refine (carries model).resolve 0 (Nat.zero_le _) _ coming _ (fun _ => links_of_mem) ?_
  refine ⟨?_, ?_, ?_, ?_, before.task_links, before.dropped_links⟩
  · rw [Trace.sent_update, Trace.chained_update_direct rfl]
    exact issue before.sent_perm _
  · rw [Trace.stamps_update, before.made_eq, List.append_assoc]
    rfl
  · rw [Trace.direct_update_direct rfl, List.map_append, before.direct_eq, List.map_singleton,
      Trace.rooted_message]
    rfl
  · intro made member
    rcases List.mem_append.mp member with old | new
    · exact before.made_links made old
    · rw [List.mem_singleton.mp new, Trace.rooted_links]
      exact Nat.zero_le _

theorem followUp {depth : Nat} {message : Traced Msg} (bounded : depth ≤ maxDepth)
    (sound : message.links = depth + 1)
    (before : Accounts earlier direct (message :: coming) { state := trace }) :
    Accounts earlier direct coming (model.traced.followUp trace depth message) := by
  unfold Model.followUp
  split
  · rename_i shallow
    exact (carries model).resolve (depth + 1) shallow _ coming _
      (fun _ member => sound ▸ links_of_mem member)
      ((carries model).update depth message coming _ shallow sound before)
  · rename_i deep
    obtain rfl := Nat.le_antisymm bounded (Nat.le_of_not_lt deep)
    exact (carries model).drop message coming _ sound before

/-- What became of the messages becomes part of what was there before. -/
theorem settle {tasks drops lost : List (Traced Msg)}
    {outcome : Outcome (Trace State Msg) (Traced Msg)}
    (accounts : outcome.Accounts earlier direct (tasks ++ (drops ++ lost))) :
    Accounts
      (earlier ++ outcome.updates.map fun update => (update.1, update.2.message)) direct
      ((outcome.tasks.map Prod.snd ++ tasks) ++
        ((drops ++ outcome.dropped.map Prod.snd) ++ lost)) { state := outcome.state } := by
  refine ⟨Multiset.coe_eq_coe.mp ?_, ?_, accounts.direct_eq, accounts.made_links, ?_, ?_⟩
  · rw [Multiset.coe_eq_coe.mpr accounts.sent_perm]
    simp only [← Multiset.coe_add, Outcome.tasks, List.map_nil, Multiset.coe_nil]
    abel
  · rw [accounts.made_eq, List.map_nil, List.append_nil]
  · intro task member
    cases member
  · intro dropped member
    cases member

theorem perm {other : List (Traced Msg)} {outcome : Outcome (Trace State Msg) (Traced Msg)}
    (accounts : outcome.Accounts earlier direct coming) (same : coming.Perm other) :
    outcome.Accounts earlier direct other :=
  { accounts with
    sent_perm := accounts.sent_perm.trans
      (((same.append_left _).append_left _).append_left _) }

end Outcome.Accounts

/-! ## How much an event causes -/

/-- Whether an event caused the message over a number of links. -/
def Traced.isAt (root links : Nat) (traced : Traced Msg) : Bool :=
  traced.root = root ∧ traced.links = links

namespace Trace

def madeAt (trace : Trace State Msg) (root links : Nat) : Nat :=
  trace.made.countP (Traced.isAt root links)

def sentAt (trace : Trace State Msg) (root links : Nat) : Nat :=
  trace.sent.countP (Traced.isAt root links)

/-- No two events are taken for one. -/
structure Rooted (trace : Trace State Msg) : Prop where
  once : ∀ root, trace.madeAt root 0 ≤ 1
  later : ∀ root, trace.events ≤ root → trace.madeAt root 0 = 0

/-- No update sends more than a number of messages. -/
structure Sparse (most : Nat) (trace : Trace State Msg) : Prop where
  first : ∀ root, trace.sentAt root 1 ≤ most
  later : ∀ root, trace.events ≤ root → trace.sentAt root 1 = 0
  next : ∀ root links, trace.sentAt root (links + 2) ≤ most * trace.madeAt root (links + 1)

end Trace

/-- Every command of the program holds at most a number of messages and tasks. -/
structure Model.SendsAtMost (model : Model Flags State Msg) (most : Nat) : Prop where
  init : ∀ flags geometry, (model.init flags geometry).2.contents.length ≤ most
  update : ∀ state message, (model.update state message).2.contents.length ≤ most
  resize : ∀ state geometry, (model.resize state geometry).2.contents.length ≤ most

section

variable {model : Model Flags State Msg} {most : Nat}

theorem Command.countP_traced (command : Command Msg) (origin distance root links : Nat) :
    (command.map (Traced.mk origin distance)).contents.countP (Traced.isAt root links) =
      if origin = root ∧ distance = links then command.contents.length else 0 := by
  rw [contents_map, List.countP_map]
  split <;> rename_i same <;> simp [Function.comp_def, Traced.isAt, same]

theorem Trace.madeAt_update (trace : Trace State Msg) (message : Traced Msg) (root links : Nat) :
    (model.traced.update trace message).1.madeAt root links = trace.madeAt root links +
      if (trace.rooted message).root = root ∧ message.links = links then 1 else 0 := by
  simp [madeAt, Model.traced, Traced.isAt, rooted_links]

theorem Trace.sentAt_update (trace : Trace State Msg) (message : Traced Msg) (root links : Nat) :
    (model.traced.update trace message).1.sentAt root links = trace.sentAt root links +
      if (trace.rooted message).root = root ∧ message.links + 1 = links then
        (model.update trace.state message.message).2.contents.length
      else 0 := by
  simp only [sentAt, Model.traced, List.countP_append, Command.countP_traced]

theorem Trace.sentAt_resize (trace : Trace State Msg) (geometry : Geometry) (root links : Nat) :
    (model.traced.resize trace geometry).1.sentAt root links = trace.sentAt root links +
      if trace.events = root ∧ 1 = links then
        (model.resize trace.state geometry).2.contents.length
      else 0 := by
  simp only [sentAt, Model.traced, List.countP_append, Command.countP_traced]

theorem Trace.Rooted.direct_nodup {trace : Trace State Msg} (rooted : trace.Rooted) :
    (trace.direct.map Traced.root).Nodup := by
  apply List.nodup_iff_count_le_one.mpr
  intro root
  have count_eq : (trace.direct.map Traced.root).count root = trace.madeAt root 0 := by
    rw [List.count_eq_countP, List.countP_map, Trace.direct, List.countP_filter, Trace.madeAt]
    apply List.countP_congr
    intro made member
    simp [Traced.isAt]
  rw [count_eq]
  exact rooted.once root

/-- An event that is yet to come is not the one that a direct update is for. -/
theorem Trace.events_update {trace : Trace State Msg} {message : Traced Msg} {root : Nat}
    (later : (model.traced.update trace message).1.events ≤ root) :
    trace.events ≤ root ∧ ¬ ((trace.rooted message).root = root ∧ message.links = 0) := by
  by_cases first : message.links = 0
  · simp only [Model.traced, first, if_true] at later
    simp only [Trace.rooted, first, if_true]
    omega
  · simp only [Model.traced, first, if_false] at later
    exact ⟨later, fun same => first same.2⟩

theorem Model.traced_rooted (model : Model Flags State Msg) :
    model.traced.Preserves Trace.Rooted where
  init flags geometry := ⟨fun _ => Nat.zero_le 1, fun _ _ => rfl⟩
  update trace message before := by
    constructor
    · intro root
      rw [Trace.madeAt_update]
      split
      · rename_i new
        rw [Trace.rooted, if_pos new.2] at new
        rw [before.later root (Nat.le_of_eq new.1)]
      · exact before.once root
    · intro root later
      obtain ⟨past, other⟩ := Trace.events_update later
      rw [Trace.madeAt_update, before.later root past, if_neg other]
  resize trace geometry before :=
    ⟨before.once, fun root later => before.later root (Nat.le_of_succ_le later)⟩

theorem Model.SendsAtMost.traced_sparse (few : model.SendsAtMost most) :
    model.traced.Preserves (Trace.Sparse most) where
  init flags geometry := by
    constructor
    · intro root
      simp only [Trace.sentAt, Model.traced, Command.countP_traced]
      split
      · exact few.init flags geometry
      · exact Nat.zero_le _
    · intro root later
      simp only [Trace.sentAt, Model.traced, Command.countP_traced]
      apply if_neg
      rintro ⟨same, -⟩
      exact Nat.ne_of_lt later same
    · intro root links
      simp only [Trace.sentAt, Model.traced, Command.countP_traced]
      rw [if_neg (by simp)]
      exact Nat.zero_le _
  update trace message before := by
    have sends := few.update trace.state message.message
    constructor
    · intro root
      rw [Trace.sentAt_update]
      split
      · rename_i new
        have first : message.links = 0 := Nat.succ.inj new.2
        rw [Trace.rooted, if_pos first] at new
        rw [before.later root (Nat.le_of_eq new.1), Nat.zero_add]
        exact sends
      · exact before.first root
    · intro root later
      obtain ⟨past, other⟩ := Trace.events_update later
      rw [Trace.sentAt_update, before.later root past, if_neg]
      rintro ⟨same, first⟩
      exact other ⟨same, Nat.succ.inj first⟩
    · intro root links
      rw [Trace.sentAt_update, Trace.madeAt_update, Nat.mul_add]
      apply Nat.add_le_add (before.next root links)
      split
      · rename_i new
        rw [if_pos ⟨new.1, Nat.succ.inj new.2⟩, Nat.mul_one]
        exact sends
      · exact Nat.zero_le _
  resize trace geometry before := by
    have sends := few.resize trace.state geometry
    constructor
    · intro root
      rw [Trace.sentAt_resize]
      split
      · rename_i new
        rw [before.later root (Nat.le_of_eq new.1), Nat.zero_add]
        exact sends
      · exact before.first root
    · intro root later
      rw [Trace.sentAt_resize, before.later root (Nat.le_of_succ_le later), if_neg]
      rintro ⟨same, -⟩
      exact Nat.ne_of_lt later same
    · intro root links
      rw [Trace.sentAt_resize, if_neg (by simp)]
      exact before.next root links

/-! ## How many updates an event causes -/

/-- How many updates an event caused. -/
def Trace.madeFrom (trace : Trace State Msg) (root : Nat) : Nat :=
  trace.made.countP fun made => made.root = root

theorem Traced.countP_root (bound root : Nat) (list : List (Traced Msg))
    (few : ∀ traced ∈ list, traced.links ≤ bound) :
    (list.countP fun traced => traced.root = root) =
      ∑ links ∈ Finset.range (bound + 1), list.countP (Traced.isAt root links) := by
  induction list with
  | nil => simp
  | cons traced rest ih =>
      have below : traced.links < bound + 1 := Nat.lt_succ_of_le (few traced List.mem_cons_self)
      simp only [List.countP_cons, Finset.sum_add_distrib,
        ih fun other member => few other (List.mem_cons_of_mem _ member)]
      congr 1
      by_cases same : traced.root = root
      · simp [Traced.isAt, same, Finset.sum_ite_eq, below]
      · simp [Traced.isAt, same]

variable {earlier : List (Nat × Msg)} {direct : List Msg} {coming : List (Traced Msg)}
  {trace : Trace State Msg}

namespace Outcome.Accounts

/-- Every update of a chain was sent for. -/
theorem madeAt_le_sentAt (accounts : Accounts earlier direct coming { state := trace })
    (root links : Nat) : trace.madeAt root (links + 1) ≤ trace.sentAt root (links + 1) := by
  have chained : trace.madeAt root (links + 1) =
      trace.chained.countP (Traced.isAt root (links + 1)) := by
    rw [Trace.madeAt, Trace.chained, List.countP_filter]
    apply List.countP_congr
    intro made member
    simp only [Traced.isAt, decide_eq_true_eq, Bool.and_eq_true, bne_iff_ne]
    omega
  rw [chained, Trace.sentAt, accounts.sent_perm.countP_eq, List.countP_append]
  exact Nat.le_add_right _ _

theorem madeAt_le (accounts : Accounts earlier direct coming { state := trace })
    (rooted : trace.Rooted) (sparse : trace.Sparse most) (root links : Nat) :
    trace.madeAt root links ≤ most ^ links := by
  induction links with
  | zero => exact rooted.once root
  | succ links ih =>
      refine (accounts.madeAt_le_sentAt root links).trans ?_
      cases links with
      | zero => exact (sparse.first root).trans (Nat.le_of_eq (Nat.pow_one most).symm)
      | succ links =>
          refine (sparse.next root links).trans ?_
          rw [Nat.pow_succ' (n := links + 1)]
          exact Nat.mul_le_mul_left most ih

/-- An event causes an update of its own and those of the chains that this one starts. -/
theorem madeFrom_le (accounts : Accounts earlier direct coming { state := trace })
    (rooted : trace.Rooted) (sparse : trace.Sparse most) (root : Nat) :
    trace.madeFrom root ≤ ∑ links ∈ Finset.range (maxDepth + 1), most ^ links := by
  rw [Trace.madeFrom, Traced.countP_root maxDepth root _ accounts.made_links]
  exact Finset.sum_le_sum fun links _ => accounts.madeAt_le rooted sparse root links

theorem madeFrom_le_of_maxDepth (accounts : Accounts earlier direct coming { state := trace })
    (rooted : trace.Rooted) (sparse : trace.Sparse most) (root : Nat) :
    trace.madeFrom root ≤ 1 + most + most * most := by
  refine (accounts.madeFrom_le rooted sparse root).trans (Nat.le_of_eq ?_)
  simp [maxDepth, Finset.sum_range_succ, Nat.pow_two]

end Outcome.Accounts

end

end Showcase
