import Showcase.Proofs.Session.Leaves

/-!
# Programs in lockstep

Two programs that keep their states in a relation, and ask for the same whenever they are given the
same, still do so after everything that an event leads to.
-/

namespace Showcase

variable {Flags Flags' State State' Msg : Type}

/-- Both programs keep their states in the relation and ask for the same. -/
structure Model.Lockstep (model : Model Flags State Msg) (other : Model Flags' State' Msg)
    (alike : State → State' → Prop) : Prop where
  ofKey_eq : ∀ key, model.ofKey key = other.ofKey key
  update : ∀ {first second}, alike first second → ∀ message,
    alike (model.update first message).1 (other.update second message).1 ∧
      (model.update first message).2 = (other.update second message).2
  resize : ∀ {first second}, alike first second → ∀ geometry,
    alike (model.resize first geometry).1 (other.resize second geometry).1 ∧
      (model.resize first geometry).2 = (other.resize second geometry).2

/-- The states are in the relation, and all else is the same. -/
structure Outcome.Alike (alike : State → State' → Prop) (first : Outcome State Msg)
    (second : Outcome State' Msg) : Prop where
  state : alike first.state second.state
  pending_eq : first.pending = second.pending
  quit_eq : first.quit = second.quit
  updates_eq : first.updates = second.updates
  dropped_eq : first.dropped = second.dropped

variable {model : Model Flags State Msg} {other : Model Flags' State' Msg}
  {alike : State → State' → Prop}

/-- A command is gone through alike if messages are followed alike. -/
theorem Command.walk_alike {follow : Msg → Outcome State Msg → Outcome State Msg}
    {follow' : Msg → Outcome State' Msg → Outcome State' Msg}
    (same : ∀ message first second, Outcome.Alike alike first second →
      Outcome.Alike alike (follow message first) (follow' message second)) (depth : Nat)
    (command : Command Msg) (first : Outcome State Msg) (second : Outcome State' Msg)
    (begun : Outcome.Alike alike first second) :
    Outcome.Alike alike (command.walk follow depth first) (command.walk follow' depth second) := by
  rw [walk_eq_foldl, walk_eq_foldl]
  induction command.flatten generalizing first second with
  | nil => exact begun
  | cons leaf rest ih =>
      refine ih _ _ ?_
      cases leaf with
      | message content => exact same content first second begun
      | quit => exact { begun with quit_eq := rfl }
      | task content =>
          exact { begun with pending_eq := congrArg (· ++ [(depth, content)]) begun.pending_eq }

namespace Model.Lockstep

theorem resolve (lockstep : model.Lockstep other alike) (depth : Nat) (command : Command Msg)
    {first : Outcome State Msg} {second : Outcome State' Msg}
    (begun : Outcome.Alike alike first second) :
    Outcome.Alike alike (model.resolve depth command first)
      (other.resolve depth command second) := by
  rw [Model.resolve, Model.resolve]
  refine Command.walk_alike (fun message first second begun => ?_) depth command _ _ begun
  by_cases shallow : depth < maxDepth
  · obtain ⟨state, asked⟩ := lockstep.update begun.state message
    simp only [if_pos shallow]
    rw [← asked]
    exact lockstep.resolve (depth + 1) _ { begun with
      state := state
      updates_eq := congrArg (· ++ [(depth + 1, message)]) begun.updates_eq }
  · simp only [if_neg shallow]
    exact { begun with
      dropped_eq := congrArg (· ++ [(depth + 1, message)]) begun.dropped_eq }
termination_by maxDepth - depth

/-- A message is taken alike. -/
theorem dispatch (lockstep : model.Lockstep other alike) {first : State} {second : State'}
    (begun : alike first second) (depth : Nat) (message : Msg) :
    Outcome.Alike alike (model.dispatch first depth message)
      (other.dispatch second depth message) := by
  obtain ⟨state, asked⟩ := lockstep.update begun message
  unfold Model.dispatch
  simp only
  rw [← asked]
  exact lockstep.resolve depth _ ⟨state, rfl, rfl, rfl, rfl⟩

/-- A new geometry is taken alike. -/
theorem adapt (lockstep : model.Lockstep other alike) {first : State} {second : State'}
    (begun : alike first second) (geometry : Geometry) :
    Outcome.Alike alike (model.adapt first geometry) (other.adapt second geometry) := by
  obtain ⟨state, asked⟩ := lockstep.resize begun geometry
  unfold Model.adapt
  simp only
  rw [← asked]
  exact lockstep.resolve 0 _ ⟨state, rfl, rfl, rfl, rfl⟩

end Model.Lockstep

end Showcase
