import Showcase.Screen.Buffer
import Showcase.Text.Line

/-!
# Drawing lines

Lines are drawn one to a row. Clusters wider than the whole area are left out, and a row ends at
the first cluster that does not fit. The cells that a wide cluster covers keep what they hold.
-/

namespace Showcase.Screen

open Showcase.Text (Line Span Style)

/-- A cluster to draw, the cells it takes, and its style. -/
structure Glyph where
  symbol : String
  cells : Nat
  style : Style
  deriving DecidableEq

def spanGlyphs (base : Style) (span : Span) : List Glyph :=
  (drawable span.text).map fun cluster =>
    { symbol := cluster.1, cells := cluster.2, style := base.patch span.style }

def lineGlyphs (line : Line) : List Glyph := line.spans.flatMap (spanGlyphs line.style)

/-- The glyphs that fit side by side. -/
def fitGlyphs (width room : Nat) : List Glyph → List Glyph
  | [] => []
  | glyph :: rest =>
      if width < glyph.cells then fitGlyphs width room rest
      else if glyph.cells ≤ room then glyph :: fitGlyphs width (room - glyph.cells) rest
      else []

namespace Buffer

def drawGlyphs (buffer : Buffer) (x y : Nat) : List Glyph → Buffer
  | [] => buffer
  | glyph :: rest =>
      let drawn := buffer.modify x y fun cell =>
        (cell.withSymbol glyph.symbol).withStyle glyph.style
      drawn.drawGlyphs (x + glyph.cells) y rest

def drawRows (buffer : Buffer) (x y width : Nat) : Nat → List Line → Buffer
  | height + 1, line :: rest =>
      let drawn := buffer.drawGlyphs x y (fitGlyphs width width (lineGlyphs line))
      drawn.drawRows x (y + 1) width height rest
  | _, _ => buffer

/-- Draws lines from the top of the part of an area that lies in the buffer. -/
def drawLines (buffer : Buffer) (area : Rect) (lines : List Line) : Buffer :=
  let area := buffer.area.intersection area
  buffer.drawRows area.x area.y area.width area.height lines

end Buffer

end Showcase.Screen
