import Showcase.Screen.Paragraph
import Showcase.Screen.Scrollbar
import Showcase.Text.Wrap

/-!
# Viewports

A viewport shows a window of wrapped rows. The last column is kept for a scrollbar, and the offset
never goes beyond the last full window.
-/

namespace Showcase.Widget

open Showcase.Text (Line Style wrapLines)

inductive ViewportMessage where
  | up (rows : Nat)
  | down (rows : Nat)
  deriving DecidableEq

structure ViewportStyle where
  scrollbar : Style := Style.plain.fg .darkGray
  deriving DecidableEq

structure Viewport where
  width : Nat
  height : Nat
  content : List Line := []
  rows : List Line := []
  offset : Nat := 0
  style : ViewportStyle := {}
  focused : Bool := false

namespace Viewport

def ofSize (width height : Nat) : Viewport := { width, height }

def withStyle (viewport : Viewport) (style : ViewportStyle) : Viewport := { viewport with style }

/-- The columns for text, beside the scrollbar. -/
def textWidth (viewport : Viewport) : Nat := max (viewport.width - 1) 1

/-- The offset at which the last row is at the bottom. -/
def maxOffset (viewport : Viewport) : Nat := viewport.rows.length - viewport.height

def clamp (viewport : Viewport) : Viewport :=
  { viewport with offset := min viewport.offset viewport.maxOffset }

def rewrap (viewport : Viewport) : Viewport :=
  clamp { viewport with rows := wrapLines viewport.content viewport.textWidth }

/-- Shows other content, from its top. -/
def setContent (viewport : Viewport) (content : List Line) : Viewport :=
  rewrap { viewport with content, offset := 0 }

def clear (viewport : Viewport) : Viewport := viewport.setContent []

def setSize (viewport : Viewport) (width height : Nat) : Viewport :=
  rewrap { viewport with width, height }

def setFocus (viewport : Viewport) (focused : Bool) : Viewport := { viewport with focused }

def update (viewport : Viewport) : ViewportMessage → Viewport
  | .up rows => clamp { viewport with offset := viewport.offset - rows }
  | .down rows => clamp { viewport with offset := viewport.offset + rows }

/-- The rows seen through a window of some height. -/
def visible (viewport : Viewport) (height : Nat) : List Line :=
  (viewport.rows.drop viewport.offset).take (min height viewport.height)

def draw (viewport : Viewport) (area : Screen.Rect) (buffer : Screen.Buffer) : Screen.Buffer :=
  let drawn := buffer.drawLines area (viewport.visible area.height)
  if min area.height viewport.height < viewport.rows.length then
    drawn.drawScrollbar area viewport.style.scrollbar viewport.maxOffset viewport.offset
  else drawn

end Viewport

end Showcase.Widget
