import Mathlib.Tactic.SplitIfs
import Showcase.Portfolio.Program

/-!
# What the portfolio does with a message

All that an update can do, and what follows from it for the geometry and for the messages that the
portfolio sends itself.
-/

namespace Showcase.Portfolio

open Widget

variable {portfolio : Portfolio} {clock : Clock}

/-- What a message comes to: the portfolio after it, and what it asks for. -/
inductive Responds (portfolio : Portfolio) (clock : Clock) : Portfolio × Command Message → Prop where
  | ignores : Responds portfolio clock (portfolio, .none)
  | quits : Responds portfolio clock (portfolio, .quit)
  | browses (message : MenuMessage) : Responds portfolio clock (portfolio.updateMenu message)
  | opens (entry : Entry) : Responds portfolio clock (portfolio.openEntry clock entry, .none)
  | helps : Responds portfolio clock (portfolio.openHelp clock, .none)
  | backs : Responds portfolio clock (portfolio.back, .none)
  | sends (message : ViewportMessage) :
      Responds portfolio clock (portfolio, .message (.viewport message))
  | scrolls (message : ViewportMessage) :
      Responds portfolio clock (portfolio.updateViewport message)

theorem responds_pressInMenu (key : Key) :
    Responds portfolio clock (portfolio.pressInMenu clock key) := by
  unfold pressInMenu
  split_ifs
  · exact .browses .up
  · exact .browses .down
  · exact .browses .choose
  · exact .helps
  · exact .ignores

theorem responds_pressInContent (key : Key) :
    Responds portfolio clock (portfolio.pressInContent key) := by
  unfold pressInContent
  split_ifs
  · exact .backs
  · exact .sends _
  · exact .sends _
  · exact .ignores

theorem responds_press (key : Key) : Responds portfolio clock (portfolio.press clock key) := by
  unfold press
  split_ifs
  · exact .quits
  · cases portfolio.mode with
    | menu => exact responds_pressInMenu key
    | content entry => exact responds_pressInContent key

theorem responds (portfolio : Portfolio) (clock : Clock) (message : Message) :
    Responds portfolio clock (portfolio.update clock message) := by
  cases message with
  | key key => exact responds_press key
  | menu message =>
      cases message with
      | selected index =>
          rw [update]
          cases Entry.all[index]? with
          | none => exact .ignores
          | some entry => exact .opens entry
      | up => exact .browses .up
      | down => exact .browses .down
      | focus index => exact .browses (.focus index)
      | choose => exact .browses .choose
  | viewport message => exact .scrolls message

/-! ## The geometry -/

theorem geometry_openHelp (portfolio : Portfolio) (clock : Clock) :
    (portfolio.openHelp clock).geometry = portfolio.geometry := by
  unfold openHelp
  split <;> rfl

/-- A message leaves the geometry as it is. -/
theorem geometry_update (portfolio : Portfolio) (clock : Clock) (message : Message) :
    (portfolio.update clock message).1.geometry = portfolio.geometry := by
  have responds := portfolio.responds clock message
  generalize portfolio.update clock message = result at responds
  cases responds with
  | helps => exact geometry_openHelp portfolio clock
  | _ => rfl

end Showcase.Portfolio
