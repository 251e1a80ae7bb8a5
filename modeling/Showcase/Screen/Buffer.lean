import Showcase.Screen.Cell
import Showcase.Screen.Rect

/-!
# Cell buffers

A buffer holds one cell for every position of its area. Writing outside of the area changes
nothing.
-/

namespace Showcase.Screen

open Showcase.Text (Style)

structure Buffer where
  area : Rect
  cells : Array Cell
  size_cells : cells.size = area.width * area.height

namespace Buffer

def blank (area : Rect) : Buffer where
  area
  cells := Array.replicate (area.width * area.height) .empty
  size_cells := Array.size_replicate

def index (buffer : Buffer) (x y : Nat) : Nat :=
  (y - buffer.area.y) * buffer.area.width + (x - buffer.area.x)

def modify (buffer : Buffer) (x y : Nat) (change : Cell → Cell) : Buffer :=
  if buffer.area.contains x y then
    { buffer with
      cells := buffer.cells.modify (buffer.index x y) change
      size_cells := by rw [Array.size_modify, buffer.size_cells] }
  else buffer

def put (buffer : Buffer) (x y : Nat) (cell : Cell) : Buffer := buffer.modify x y fun _ => cell

/-- The cells of a row, from the left. -/
def row (buffer : Buffer) (y : Nat) : List Cell :=
  let start := (y - buffer.area.y) * buffer.area.width
  (buffer.cells.extract start (start + buffer.area.width)).toList

def rows (buffer : Buffer) : List (List Cell) :=
  (List.range buffer.area.height).map fun y => buffer.row (buffer.area.y + y)

/-- Empties the cells that a wide symbol covers. -/
def clearRun (buffer : Buffer) (x y : Nat) : Nat → Buffer
  | 0 => buffer
  | count + 1 => (buffer.put x y .empty).clearRun (x + 1) y count

/-- Writes clusters from `x` on, until one does not fit into the columns left. -/
def putClusters (buffer : Buffer) (x y : Nat) (style : Style) (room : Nat) :
    List (String × Nat) → Buffer
  | [] => buffer
  | (symbol, cells) :: rest =>
      if cells ≤ room then
        let written := buffer.modify x y fun cell => (cell.withSymbol symbol).withStyle style
        let cleared := written.clearRun (x + 1) y (cells - 1)
        cleared.putClusters (x + cells) y style (room - cells) rest
      else buffer

/-- Writes a text up to the right edge. -/
def setString (buffer : Buffer) (x y : Nat) (text : String) (style : Style) : Buffer :=
  buffer.putClusters x y style (buffer.area.right - x) (drawable text)

/-- Applies a change to the cells of a run in a row. -/
def modifyRun (buffer : Buffer) (x y : Nat) (change : Cell → Cell) : Nat → Buffer
  | 0 => buffer
  | count + 1 => (buffer.modify x y change).modifyRun (x + 1) y change count

/-- Applies a change to the cells of an area. -/
def modifyArea (buffer : Buffer) (area : Rect) (change : Cell → Cell) : Buffer :=
  (List.range area.height).foldl
    (fun buffer dy => buffer.modifyRun area.x (area.y + dy) change area.width) buffer

/-- Styles the part of an area that lies in the buffer. -/
def setStyle (buffer : Buffer) (area : Rect) (style : Style) : Buffer :=
  buffer.modifyArea (buffer.area.intersection area) fun cell => cell.withStyle style

/-- The symbols of a row, one after the other. -/
def rowText (cells : List Cell) : String := String.join (cells.map Cell.symbol)

end Buffer

end Showcase.Screen
