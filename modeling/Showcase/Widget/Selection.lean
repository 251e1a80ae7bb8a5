/-!
# Selection

A cursor over a list of fixed length. It stops at either end.
-/

namespace Showcase.Widget

structure Selection where
  count : Nat
  cursor : Nat
  cursor_le : cursor ≤ count - 1
  deriving DecidableEq

namespace Selection

def first (count : Nat) : Selection := ⟨count, 0, Nat.zero_le _⟩

/-- The item at an index, or the last one if there are fewer. -/
def select (selection : Selection) (index : Nat) : Selection :=
  { selection with cursor := min index (selection.count - 1), cursor_le := Nat.min_le_right _ _ }

def up (selection : Selection) : Selection := selection.select (selection.cursor - 1)

def down (selection : Selection) : Selection := selection.select (selection.cursor + 1)

theorem cursor_select (selection : Selection) (index : Nat) :
    (selection.select index).cursor = min index (selection.count - 1) := rfl

theorem cursor_down (selection : Selection) :
    selection.down.cursor = min (selection.cursor + 1) (selection.count - 1) := rfl

theorem cursor_lt (selection : Selection) (some : 0 < selection.count) :
    selection.cursor < selection.count := by
  have bound := selection.cursor_le
  omega

end Selection

end Showcase.Widget
