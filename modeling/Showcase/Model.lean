import Showcase.Command
import Showcase.Input.Geometry
import Showcase.Input.Key
import Showcase.Screen.Ansi
import Showcase.Screen.Present

/-!
# Models

A program is given by its initial state, what it does on a message and on a new geometry, and how
it draws itself.
-/

namespace Showcase

open Screen (Buffer)

structure Model (Flags State Msg : Type) where
  init : Flags → Geometry → State × Command Msg
  ofKey : Key → Msg
  update : State → Msg → State × Command Msg
  resize : State → Geometry → State × Command Msg
  draw : State → Buffer → Buffer

namespace Model

variable {Flags State Msg : Type} (model : Model Flags State Msg)

/-- The screen of a state at a geometry. -/
def screen (state : State) (geometry : Geometry) : Buffer :=
  (model.draw state (.blank geometry.area)).present

/-- The text that draws a state on a cleared terminal; empty if the screen is blank. -/
def render (state : State) (geometry : Geometry) : String :=
  (model.screen state geometry).toAnsi

end Model

end Showcase
