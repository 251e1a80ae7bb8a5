import Showcase.Screen.Buffer

/-!
# Presenting a drawing

A drawing reaches the screen cell by cell. The cells that a wide symbol covers are not sent, so
that the screen keeps blanks there.
-/

namespace Showcase.Screen

/-- The cells of the screen, given how many of them the last symbol covers. -/
def presentCells (covered : Nat) : List Cell → List Cell
  | [] => []
  | cell :: rest =>
      match covered with
      | more + 1 => .empty :: presentCells more rest
      | 0 => cell :: presentCells (symbolCells cell.symbol.toList - 1) rest

theorem length_presentCells (covered : Nat) (cells : List Cell) :
    (presentCells covered cells).length = cells.length := by
  induction cells generalizing covered with
  | nil => rfl
  | cons cell rest ih => cases covered <;> simp [presentCells, ih]

/-- The screen that a drawing on a blank screen gives. -/
def Buffer.present (buffer : Buffer) : Buffer where
  area := buffer.area
  cells := (presentCells 0 buffer.cells.toList).toArray
  size_cells := by
    rw [List.size_toArray, length_presentCells, Array.length_toList, buffer.size_cells]

/-- The text of a screen, one line for each row. -/
def Buffer.text (buffer : Buffer) : String := "\n".intercalate (buffer.rows.map Buffer.rowText)

end Showcase.Screen
