import Mathlib.Data.List.Induction
import Showcase.Proofs.Harness.Pursuing
import Showcase.Proofs.Portfolio.Responding

/-!
# The portfolio follows a key by one message at most

What the portfolio sends itself is a choice in the menu or a move of the viewport, and neither leads
to anything further. This holds at any time, so it holds of a portfolio that reads the clock anew
with each update.
-/

namespace Showcase

variable {Flags State Msg : Type} {model : Model Flags State Msg}

/-- A program whose commands are tame and whose messages to itself lead to no others. -/
structure Model.IsBrief (model : Model Flags State Msg) (inner : Msg → Prop) : Prop where
  tame : model.IsTame
  init : ∀ flags geometry, ∀ message ∈ (model.init flags geometry).2.messages, inner message
  key : ∀ state key, ∀ message ∈ (model.update state (model.ofKey key)).2.messages, inner message
  resize : ∀ state geometry, ∀ message ∈ (model.resize state geometry).2.messages, inner message
  silent : ∀ state message, inner message → (model.update state message).2.messages = []

namespace Model.IsBrief

variable {inner : Msg → Prop}

theorem pursues (brief : model.IsBrief inner) {command : Command Msg} (tame : command.IsTame)
    (sends : ∀ message ∈ command.messages, inner message) (state : State) :
    ∃ messages later quit, model.Pursues state command messages later quit ∧
      messages.length ≤ maxDepth := by
  have single := tame.single
  match sent : command.messages with
  | [] => exact ⟨[], state, _, .ends sent, Nat.zero_le _⟩
  | [message] =>
      have silent := brief.silent state message (sends message (sent ▸ List.mem_cons_self))
      exact ⟨[message], _, _, .follows sent (.ends silent), Nat.le_succ _⟩
  | _ :: _ :: _ =>
      rw [sent] at single
      cases Nat.le_of_succ_le_succ single

theorem settles (brief : model.IsBrief inner) (flags : Flags) (geometry : Geometry)
    (cues : List Cue) : model.Settles flags geometry cues := by
  induction cues using List.reverseRecOn with
  | nil =>
      obtain ⟨messages, state, quit, pursues, short⟩ :=
        brief.pursues (brief.tame.init flags geometry) (brief.init flags geometry) _
      exact ⟨_, .begins pursues short⟩
  | append_singleton cues cue ih =>
      obtain ⟨record, before⟩ := ih
      have reacts : ∃ messages later quit, model.Pursues (cue.react model record.state).1
          (cue.react model record.state).2 messages later quit ∧ messages.length ≤ maxDepth := by
        cases cue with
        | key key => exact brief.pursues (brief.tame.update _ _) (brief.key record.state key) _
        | resize geometry =>
            exact brief.pursues (brief.tame.resize _ _) (brief.resize record.state geometry) _
      obtain ⟨messages, state, quit, pursues, short⟩ := reacts
      exact ⟨_, .gives before pursues short⟩

end Model.IsBrief

namespace Portfolio

/-- A choice in the menu or a move of the viewport. -/
inductive IsInner : Message → Prop where
  | selected (index : Nat) : IsInner (.menu (.selected index))
  | viewport (message : Widget.ViewportMessage) : IsInner (.viewport message)

/-- All that the portfolio asks for after an update. -/
inductive Wants : Command Message → Prop where
  | none : Wants .none
  | quit : Wants .quit
  | message {message : Message} (inner : IsInner message) : Wants (.message message)

variable {portfolio : Portfolio} {clock : Clock}

theorem Wants.tame {command : Command Message} (wants : Wants command) : command.IsTame := by
  cases wants with
  | none => exact ⟨by simp [Command.flatten], Nat.zero_le _⟩
  | quit => exact ⟨by simp [Command.flatten, Leaf.isTask], Nat.zero_le _⟩
  | message => exact ⟨by simp [Command.flatten, Leaf.isTask], Nat.le_refl _⟩

theorem Wants.inner {command : Command Message} (wants : Wants command) :
    ∀ message ∈ command.messages, IsInner message := by
  cases wants with
  | none | quit => exact List.forall_mem_nil _
  | message inner => exact List.forall_mem_singleton.mpr inner

theorem wants_updateMenu (message : Widget.MenuMessage) :
    Wants (portfolio.updateMenu message).2 := by
  cases message with
  | choose =>
      cases empty : portfolio.menu.isEmpty with
      | true =>
          rw [updateMenu, Widget.Menu.update, empty]
          exact .none
      | false =>
          rw [updateMenu, Widget.Menu.update, empty]
          exact .message (.selected _)
  | up | down | focus | selected => exact .none

theorem Responds.wants {result : Portfolio × Command Message}
    (responds : portfolio.Responds clock result) : Wants result.2 := by
  cases responds with
  | quits => exact .quit
  | browses message => exact wants_updateMenu message
  | sends message => exact .message (.viewport message)
  | _ => exact .none

theorem update_inner {message : Message} (inner : IsInner message) :
    (portfolio.update clock message).2 = .none := by
  cases inner with
  | selected index => cases chosen : Entry.all[index]? <;> simp [update, chosen]
  | viewport message => rfl

/-- The portfolio as a program that counts its updates and reads the clock with each of them. -/
def clocked (times : Nat → Clock) : Model Palette (Nat × Portfolio) Message where
  init palette geometry := ((0, .start palette geometry), .none)
  ofKey := .key
  update entry message :=
    let (portfolio, command) := entry.2.update (times entry.1) message
    ((entry.1 + 1, portfolio), command)
  resize entry geometry :=
    let (portfolio, command) := entry.2.resize geometry
    ((entry.1, portfolio), command)
  draw entry := draw (times entry.1) entry.2

theorem isBrief_clocked (times : Nat → Clock) : (clocked times).IsBrief IsInner where
  tame := ⟨fun _ _ => Wants.none.tame, fun _ message => (responds _ _ message).wants.tame,
    fun _ _ => Wants.none.tame⟩
  init _ _ := Wants.none.inner
  key _ key := (responds _ _ (.key key)).wants.inner
  resize _ _ := Wants.none.inner
  silent _ _ inner := by
    show Command.messages (Portfolio.update _ _ _).2 = []
    rw [update_inner inner]
    rfl

theorem isBrief_model (clock : Clock) : (Portfolio.model clock).IsBrief IsInner := by
  have brief := isBrief_clocked fun _ => clock
  have tame := brief.tame
  exact ⟨⟨tame.init, fun portfolio => tame.update (0, portfolio), fun portfolio =>
    tame.resize (0, portfolio)⟩, brief.init, fun portfolio => brief.key (0, portfolio),
    fun portfolio => brief.resize (0, portfolio), fun portfolio => brief.silent (0, portfolio)⟩

end Portfolio

end Showcase
