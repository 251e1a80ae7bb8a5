import Showcase.Proofs.Session.Leaves

/-!
# Carrying out a command

A command is carried out message by message, from left to right. What holds with the messages that
are still to come, and goes on to hold when one of them is dealt with, holds in the end.
-/

namespace Showcase

variable {Flags State Msg : Type} {model : Model Flags State Msg}

/-- The message that the leaf sends, at once or when its task is done. -/
def Leaf.content? : Leaf Msg → Option Msg
  | message content => some content
  | quit => none
  | task content => some content.message

namespace Command

/-- The messages of a command, those of its tasks included, from left to right. -/
def contents (command : Command Msg) : List Msg := command.flatten.filterMap Leaf.content?

/-- What `holds` says of an outcome and of the messages still to come is kept by each leaf of a
command whose messages are all `sound`. -/
structure Carries (follow : Msg → Outcome State Msg → Outcome State Msg) (depth : Nat)
    (sound : Msg → Prop) (holds : List Msg → Outcome State Msg → Prop) : Prop where
  message : ∀ content coming outcome, sound content → holds (content :: coming) outcome →
    holds coming (follow content outcome)
  quit : ∀ coming outcome, holds coming outcome → holds coming { outcome with quit := true }
  task : ∀ (content : Task Msg) coming outcome, sound content.message →
    holds (content.message :: coming) outcome →
      holds coming { outcome with pending := outcome.pending ++ [(depth, content)] }

namespace Carries

variable {follow : Msg → Outcome State Msg → Outcome State Msg} {depth : Nat} {sound : Msg → Prop}
  {holds : List Msg → Outcome State Msg → Prop}

theorem walk (carries : Carries follow depth sound holds) (command : Command Msg)
    (coming : List Msg) (outcome : Outcome State Msg)
    (all : ∀ content ∈ command.contents, sound content)
    (before : holds (command.contents ++ coming) outcome) :
    holds coming (command.walk follow depth outcome) := by
  rw [walk_eq_foldl]
  unfold contents at all before
  generalize command.flatten = leaves at all before ⊢
  induction leaves generalizing outcome with
  | nil => exact before
  | cons leaf rest ih =>
      cases leaf with
      | message content =>
          obtain ⟨here, others⟩ := List.forall_mem_cons.mp all
          exact ih _ others (carries.message content _ outcome here before)
      | quit => exact ih _ all (carries.quit _ outcome before)
      | task content =>
          obtain ⟨here, others⟩ := List.forall_mem_cons.mp all
          exact ih _ others (carries.task content _ outcome here before)

end Carries

end Command

/-- What `holds` says of an outcome and of the messages still to come is kept when one of them is
dealt with. A message that is `sound` at a depth leads to messages that are so at the next one. -/
structure Model.Carries (model : Model Flags State Msg) (sound : Nat → Msg → Prop)
    (holds : List Msg → Outcome State Msg → Prop) : Prop where
  spreads : ∀ depth state message, sound depth message →
    ∀ content ∈ (model.update state message).2.contents, sound (depth + 1) content
  update : ∀ depth message coming outcome, depth < maxDepth → sound depth message →
    holds (message :: coming) outcome →
      holds ((model.update outcome.state message).2.contents ++ coming)
        { outcome with
          state := (model.update outcome.state message).1
          updates := outcome.updates ++ [(depth + 1, message)] }
  drop : ∀ message coming outcome, sound maxDepth message → holds (message :: coming) outcome →
    holds coming { outcome with dropped := outcome.dropped ++ [(maxDepth + 1, message)] }
  quit : ∀ coming outcome, holds coming outcome → holds coming { outcome with quit := true }
  task : ∀ depth (content : Task Msg) coming outcome, depth ≤ maxDepth →
    sound depth content.message → holds (content.message :: coming) outcome →
      holds coming { outcome with pending := outcome.pending ++ [(depth, content)] }

theorem Model.Carries.resolve {sound : Nat → Msg → Prop}
    {holds : List Msg → Outcome State Msg → Prop} (carries : model.Carries sound holds)
    (depth : Nat) (bounded : depth ≤ maxDepth) (command : Command Msg) (coming : List Msg)
    (outcome : Outcome State Msg) (all : ∀ content ∈ command.contents, sound depth content)
    (before : holds (command.contents ++ coming) outcome) :
    holds coming (model.resolve depth command outcome) := by
  rw [Model.resolve]
  refine Command.Carries.walk ⟨?_, carries.quit, ?_⟩ command coming outcome all before
  · intro message coming outcome safe before
    by_cases shallow : depth < maxDepth
    · rw [if_pos shallow]
      exact carries.resolve (depth + 1) shallow _ coming _
        (carries.spreads depth outcome.state message safe)
        (carries.update depth message coming outcome shallow safe before)
    · obtain rfl := Nat.le_antisymm bounded (Nat.le_of_not_lt shallow)
      rw [if_neg shallow]
      exact carries.drop message coming outcome safe before
  · intro content coming outcome
    exact carries.task depth content coming outcome bounded
termination_by maxDepth - depth

/-! ## What a program keeps -/

/-- The states of the program keep a property. -/
structure Model.Preserves (model : Model Flags State Msg) (holds : State → Prop) : Prop where
  init : ∀ flags geometry, holds (model.init flags geometry).1
  update : ∀ state message, holds state → holds (model.update state message).1
  resize : ∀ state geometry, holds state → holds (model.resize state geometry).1

namespace Model.Preserves

variable {holds : State → Prop}

theorem carries (preserves : model.Preserves holds) :
    model.Carries (fun _ _ => True) fun _ outcome => holds outcome.state where
  spreads _ _ _ _ _ _ := trivial
  update _ message _ outcome _ _ before := preserves.update outcome.state message before
  drop _ _ _ _ before := before
  quit _ _ before := before
  task _ _ _ _ _ _ before := before

theorem dispatch (preserves : model.Preserves holds) {state : State} (before : holds state)
    {depth : Nat} (bounded : depth ≤ maxDepth) (message : Msg) :
    holds (model.dispatch state depth message).state :=
  preserves.carries.resolve depth bounded _ [] _ (fun _ _ => trivial)
    (preserves.update state message before)

theorem begin (preserves : model.Preserves holds) (flags : Flags) (geometry : Geometry) :
    holds (model.begin flags geometry).state :=
  preserves.carries.resolve 0 (Nat.zero_le _) _ [] _ (fun _ _ => trivial)
    (preserves.init flags geometry)

theorem adapt (preserves : model.Preserves holds) {state : State} (before : holds state)
    (geometry : Geometry) : holds (model.adapt state geometry).state :=
  preserves.carries.resolve 0 (Nat.zero_le _) _ [] _ (fun _ _ => trivial)
    (preserves.resize state geometry before)

theorem followUp (preserves : model.Preserves holds) {state : State} (before : holds state)
    (depth : Nat) (message : Msg) : holds (model.followUp state depth message).state := by
  unfold Model.followUp
  split
  · rename_i shallow
    exact preserves.dispatch before shallow message
  · exact before

end Model.Preserves

end Showcase
