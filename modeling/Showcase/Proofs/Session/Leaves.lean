import Mathlib.Data.List.Basic
import Showcase.Session.Outcome

/-!
# Commands and their leaves

A command means its leaves: it is carried out leaf by leaf, from left to right, whatever the
nesting, and what was there before stays in front of what it adds. Combining commands and changing
their messages respects the leaves.
-/

namespace Showcase

variable {Flags State Msg Out Final : Type}

namespace Command

/-! ## Induction -/

/-- What holds of several commands if it does of each of them, and of all other commands, holds of
every command. -/
@[elab_as_elim]
theorem nested {holds : Command Msg → Prop} (none : holds none)
    (message : ∀ content, holds (message content)) (quit : holds quit)
    (task : ∀ content, holds (task content))
    (several : ∀ commands, (∀ command ∈ commands, holds command) → holds (several commands))
    (command : Command Msg) : holds command :=
  @Command.rec Msg holds (fun commands => ∀ command ∈ commands, holds command) none message quit
    task several (fun _ member => nomatch member)
    (fun _ _ first rest => List.forall_mem_cons.mpr ⟨first, rest⟩) command

theorem mapAll_eq (f : Msg → Out) (commands : List (Command Msg)) :
    mapAll f commands = commands.map (map f) := by
  induction commands with
  | nil => rfl
  | cons command rest ih => rw [mapAll, ih, List.map_cons]

theorem map_several (f : Msg → Out) (commands : List (Command Msg)) :
    (several commands).map f = several (commands.map (map f)) :=
  congrArg several (mapAll_eq f commands)

theorem flatten_several (commands : List (Command Msg)) :
    (several commands).flatten = commands.flatMap flatten := by
  rw [flatten]
  induction commands with
  | nil => rfl
  | cons command rest ih => rw [flattenAll, ih, List.flatMap_cons]

/-! ## Changing messages -/

theorem flatten_map (f : Msg → Out) (command : Command Msg) :
    (command.map f).flatten = command.flatten.map (Leaf.map f) := by
  induction command using nested with
  | none | message | quit | task => rfl
  | several commands ih =>
      rw [map_several, flatten_several, flatten_several, List.map_flatMap, List.flatMap_map]
      exact List.flatMap_congr ih

/-- Messages that stay the same leave the command as it is. -/
theorem map_eq_self {f : Msg → Msg} (same : ∀ message, f message = message)
    (command : Command Msg) : command.map f = command := by
  induction command using nested with
  | none | quit => rfl
  | message content => exact congrArg message (same content)
  | task content => rw [map, Task.map, same]
  | several commands ih =>
      rw [map_several, List.map_congr_left ih, List.map_id']

theorem map_map (f : Msg → Out) (g : Out → Final) (command : Command Msg) :
    (command.map f).map g = command.map (g ∘ f) := by
  induction command using nested with
  | none | message | quit | task => rfl
  | several commands ih =>
      rw [map_several, map_several, map_several, List.map_map]
      exact congrArg several (List.map_congr_left ih)

theorem isNone_map (f : Msg → Out) (command : Command Msg) :
    (command.map f).isNone = command.isNone := by
  cases command <;> rfl

/-! ## Combining commands -/

theorem flatten_of_isNone {command : Command Msg} (asks : command.isNone = true) :
    command.flatten = [] := by
  cases command with
  | none => rfl
  | message | quit | task | several => cases asks

/-- The commands that are kept have all the leaves. -/
theorem flatMap_kept (commands : List (Command Msg)) :
    (commands.filter fun command => !command.isNone).flatMap flatten =
      commands.flatMap flatten := by
  induction commands with
  | nil => rfl
  | cons command rest ih =>
      rw [List.filter_cons, List.flatMap_cons]
      cases asks : command.isNone with
      | true => simpa [flatten_of_isNone asks] using ih
      | false => simpa using ih

theorem flatten_batch (commands : List (Command Msg)) :
    (batch commands).flatten = commands.flatMap flatten := by
  rw [← flatMap_kept, batch]
  generalize (commands.filter fun command => !command.isNone) = kept
  rcases kept with _ | ⟨first, _ | ⟨second, rest⟩⟩
  · rfl
  · exact (List.flatMap_singleton _ _).symm
  · exact flatten_several _

theorem map_batch (f : Msg → Out) (commands : List (Command Msg)) :
    (batch commands).map f = batch (commands.map (map f)) := by
  have kept : (commands.map (map f)).filter (fun command => !command.isNone) =
      (commands.filter fun command => !command.isNone).map (map f) := by
    rw [List.filter_map]
    refine congrArg _ (List.filter_congr fun command _ => ?_)
    rw [Function.comp_apply, isNone_map]
  rw [batch, batch, kept]
  generalize (commands.filter fun command => !command.isNone) = kept
  rcases kept with _ | ⟨first, _ | ⟨second, rest⟩⟩
  · rfl
  · rfl
  · exact map_several f _

/-- A combination asks for nothing exactly if none of its commands asks for anything. -/
theorem isNone_batch (commands : List (Command Msg)) :
    (batch commands).isNone = true ↔ ∀ command ∈ commands, command.isNone = true := by
  have none_iff : (commands.filter fun command => !command.isNone) = [] ↔
      ∀ command ∈ commands, command.isNone = true := by
    simp [List.filter_eq_nil_iff]
  have asking : ∀ command ∈ commands.filter fun command => !command.isNone,
      command.isNone = false := by
    intro command member
    simpa using (List.mem_filter.mp member).2
  rw [← none_iff, batch]
  generalize (commands.filter fun command => !command.isNone) = kept at asking
  rcases kept with _ | ⟨first, _ | ⟨second, rest⟩⟩
  · exact ⟨fun _ => rfl, fun _ => rfl⟩
  · simp [asking first]
  · simp [isNone]

end Command

/-! ## Carrying out leaves -/

/-- Carries out a leaf of a command that was returned at some depth. -/
def Leaf.carryOut (follow : Msg → Outcome State Msg → Outcome State Msg) (depth : Nat)
    (outcome : Outcome State Msg) : Leaf Msg → Outcome State Msg
  | message content => follow content outcome
  | quit => { outcome with quit := true }
  | task content => { outcome with pending := outcome.pending ++ [(depth, content)] }

namespace Command

variable {follow : Msg → Outcome State Msg → Outcome State Msg} {depth : Nat}

theorem walkAll_eq (commands : List (Command Msg)) (outcome : Outcome State Msg) :
    walkAll follow depth commands outcome =
      commands.foldl (fun outcome command => command.walk follow depth outcome) outcome := by
  induction commands generalizing outcome with
  | nil => rfl
  | cons command rest ih => rw [walkAll, ih, List.foldl_cons]

/-- A command is carried out leaf by leaf. -/
theorem walk_eq_foldl (command : Command Msg) (outcome : Outcome State Msg) :
    command.walk follow depth outcome =
      command.flatten.foldl (Leaf.carryOut follow depth) outcome := by
  induction command using nested generalizing outcome with
  | none | message | quit | task => rfl
  | several commands ih =>
      rw [walk, walkAll_eq, flatten_several, List.foldl_flatMap]
      exact List.foldl_ext _ _ _ fun outcome command member => ih command member outcome

end Command

/-- What an outcome added, behind what was there before. -/
def Outcome.after (before outcome : Outcome State Msg) : Outcome State Msg where
  state := outcome.state
  pending := before.pending ++ outcome.pending
  quit := before.quit || outcome.quit
  updates := before.updates ++ outcome.updates
  dropped := before.dropped ++ outcome.dropped

namespace Model

/-- Follows a message of a command that was returned at some depth. -/
def follow (model : Model Flags State Msg) (depth : Nat) (message : Msg)
    (outcome : Outcome State Msg) : Outcome State Msg :=
  if depth < maxDepth then
    model.resolve (depth + 1) (model.update outcome.state message).2
      { outcome with
        state := (model.update outcome.state message).1
        updates := outcome.updates ++ [(depth + 1, message)] }
  else { outcome with dropped := outcome.dropped ++ [(depth + 1, message)] }

theorem resolve_eq_foldl (model : Model Flags State Msg) (depth : Nat) (command : Command Msg)
    (outcome : Outcome State Msg) : model.resolve depth command outcome =
      command.flatten.foldl (Leaf.carryOut (model.follow depth) depth) outcome := by
  rw [resolve, Command.walk_eq_foldl]
  rfl

/-- What was there before stays in front. -/
theorem resolve_after (model : Model Flags State Msg) (depth : Nat) (command : Command Msg)
    (before outcome : Outcome State Msg) : model.resolve depth command (before.after outcome) =
      before.after (model.resolve depth command outcome) := by
  rw [resolve_eq_foldl, resolve_eq_foldl]
  refine List.foldl_hom before.after fun outcome leaf => ?_
  cases leaf with
  | message content =>
      simp only [Leaf.carryOut, follow]
      split
      · rw [← resolve_after model (depth + 1)]
        simp [Outcome.after]
      · simp [Outcome.after]
  | quit => simp [Leaf.carryOut, Outcome.after]
  | task content => simp [Leaf.carryOut, Outcome.after]
termination_by maxDepth - depth

/-- A command adds to any outcome what it adds to the state alone. -/
theorem resolve_eq_after (model : Model Flags State Msg) (depth : Nat) (command : Command Msg)
    (outcome : Outcome State Msg) : model.resolve depth command outcome =
      outcome.after (model.resolve depth command { state := outcome.state }) := by
  rw [← resolve_after]
  simp [Outcome.after]

/-- A command means its leaves, from left to right: commands with the same leaves come to the same
outcome, state, updates, tasks and their depths included, and what was there before stays in front.
A combination has the leaves of its commands, and changing the messages of a command changes those
of its leaves; doing so for a combination is doing so for its commands, leaving all messages as they
are changes nothing, and doing so twice is doing so once. A combination asks for nothing exactly if
none of its commands asks for anything. -/
theorem resolve_leaves (model : Model Flags State Msg) (depth : Nat) (outcome : Outcome State Msg)
    (f : Msg → Out) (g : Out → Final) (command : Command Msg) (commands : List (Command Msg)) :
    (∀ other : Command Msg, other.flatten = command.flatten →
      model.resolve depth other outcome = model.resolve depth command outcome) ∧
    model.resolve depth command outcome =
      outcome.after (model.resolve depth command { state := outcome.state }) ∧
    (Command.batch commands).flatten = commands.flatMap Command.flatten ∧
    (command.map f).flatten = command.flatten.map (Leaf.map f) ∧
    (Command.batch commands).map f = Command.batch (commands.map (Command.map f)) ∧
    command.map id = command ∧
    (command.map f).map g = command.map (g ∘ f) ∧
    ((Command.batch commands).isNone = true ↔ ∀ command ∈ commands, command.isNone = true) := by
  refine ⟨fun other same => ?_, model.resolve_eq_after depth command outcome,
    Command.flatten_batch commands, command.flatten_map f, Command.map_batch f commands,
    command.map_eq_self fun _ => rfl, command.map_map f g, Command.isNone_batch commands⟩
  rw [resolve_eq_foldl, resolve_eq_foldl, same]

end Model

/-- A program that counts down from each message, and has a task for every count. -/
def countdown : Model Unit (List Nat) Nat where
  init _ _ := ([], .none)
  ofKey _ := 0
  update seen count :=
    (seen ++ [count], if count = 0 then .none else
      .batch [.message (count - 1), .task { delay := 5, message := count }])
  resize seen _ := (seen, .none)
  draw _ buffer := buffer

theorem resolve_leaves_countdown :
    let nested : Command Nat :=
      .several [.none, .several [.message 2, .quit], .several [.message 1]]
    let flat : Command Nat := .several [.message 2, .quit, .message 1]
    nested.flatten = flat.flatten ∧ ∀ outcome,
      countdown.resolve 1 nested outcome = countdown.resolve 1 flat outcome :=
  ⟨rfl, fun outcome => (countdown.resolve_leaves 1 outcome id id _ []).1 _ rfl⟩

end Showcase
