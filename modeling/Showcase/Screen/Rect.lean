/-!
# Rectangles

Areas of the screen in absolute cell coordinates.
-/

namespace Showcase.Screen

structure Rect where
  x : Nat
  y : Nat
  width : Nat
  height : Nat
  deriving DecidableEq, Inhabited

namespace Rect

def ofSize (width height : Nat) : Rect := ⟨0, 0, width, height⟩

def right (area : Rect) : Nat := area.x + area.width

def bottom (area : Rect) : Nat := area.y + area.height

def isEmpty (area : Rect) : Bool := area.width == 0 || area.height == 0

def contains (area : Rect) (x y : Nat) : Bool :=
  area.x ≤ x && x < area.right && area.y ≤ y && y < area.bottom

/-- The common part; its size is zero where the areas do not meet. -/
def intersection (first second : Rect) : Rect :=
  let x := max first.x second.x
  let y := max first.y second.y
  ⟨x, y, min first.right second.right - x, min first.bottom second.bottom - y⟩

/-- The top rows and the rest below them. -/
def splitTop (area : Rect) (rows : Nat) : Rect × Rect :=
  let rows := min rows area.height
  (⟨area.x, area.y, area.width, rows⟩,
    ⟨area.x, area.y + rows, area.width, area.height - rows⟩)

end Rect

end Showcase.Screen
