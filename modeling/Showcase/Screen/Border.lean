import Showcase.Screen.Buffer

/-!
# Borders

A box with rounded corners around an area.
-/

namespace Showcase.Screen

open Showcase.Text (Style)

namespace Buffer

def putSymbol (buffer : Buffer) (x y : Nat) (symbol : String) (style : Style) : Buffer :=
  buffer.modify x y fun cell => (cell.withSymbol symbol).withStyle style

/-- Draws a box along the edges of an area. -/
def drawBox (buffer : Buffer) (area : Rect) (style : Style) : Buffer :=
  let area := buffer.area.intersection area
  if area.isEmpty then buffer
  else
    let right := area.right - 1
    let bottom := area.bottom - 1
    let sides := (List.range area.height).foldl (fun buffer row =>
      (buffer.putSymbol area.x (area.y + row) "│" style).putSymbol right (area.y + row) "│" style)
      buffer
    let edges := (List.range area.width).foldl (fun buffer column =>
      (buffer.putSymbol (area.x + column) area.y "─" style).putSymbol (area.x + column) bottom
        "─" style) sides
    let lower := (edges.putSymbol right bottom "╯" style).putSymbol right area.y "╮" style
    (lower.putSymbol area.x bottom "╰" style).putSymbol area.x area.y "╭" style

end Buffer

/-- The area inside a box, with blanks left free at its sides. -/
def Rect.insideBox (area : Rect) (blanks : Nat) : Rect :=
  ⟨area.x + 1 + blanks, area.y + 1, area.width - 2 - 2 * blanks, area.height - 2⟩

end Showcase.Screen
