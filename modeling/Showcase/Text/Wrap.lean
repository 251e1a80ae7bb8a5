import Showcase.Text.Line

/-!
# Wrapping

A line is cut into rows greedily, character by character: a row ends where the next character
would not fit, unless nothing visible stands on it yet. Rows keep the styles of their spans. With
width zero nothing is cut.
-/

namespace Showcase.Text

/-- A row being filled: finished spans and the text of the open span, both in reverse, and the
columns in use. -/
structure OpenRow where
  spans : List Span := []
  text : List Char := []
  used : Nat := 0

namespace OpenRow

/-- Ends the open span; a span without text is left out. -/
def closeSpan (row : OpenRow) (style : Style) : OpenRow :=
  if row.text.isEmpty then row
  else { row with
    spans := { text := String.ofList row.text.reverse, style } :: row.spans, text := [] }

def toLine (row : OpenRow) (style : Style) : Line := { spans := row.spans.reverse, style }

/-- Whether a character no longer fits on the row. -/
def overflows (row : OpenRow) (width : Nat) (c : Char) : Bool :=
  decide (0 < width) && decide (0 < row.used) && decide (width < row.used + columns c)

def push (row : OpenRow) (c : Char) : OpenRow :=
  { row with text := c :: row.text, used := row.used + columns c }

end OpenRow

/-- The rows finished so far, in reverse, and the open one. -/
structure Wrapping where
  rows : List Line := []
  row : OpenRow := {}

namespace Wrapping

def pushChar (width : Nat) (lineStyle spanStyle : Style) (state : Wrapping) (c : Char) :
    Wrapping :=
  if state.row.overflows width c then
    { rows := (state.row.closeSpan spanStyle).toLine lineStyle :: state.rows
      row := OpenRow.push {} c }
  else { state with row := state.row.push c }

def pushSpan (width : Nat) (lineStyle : Style) (state : Wrapping) (span : Span) : Wrapping :=
  let filled := span.text.toList.foldl (pushChar width lineStyle span.style) state
  { filled with row := filled.row.closeSpan span.style }

end Wrapping

def wrapLine (line : Line) (width : Nat) : List Line :=
  let done := line.spans.foldl (Wrapping.pushSpan width line.style) {}
  (done.row.toLine line.style :: done.rows).reverse

def wrapLines (lines : List Line) (width : Nat) : List Line :=
  lines.flatMap fun line => wrapLine line width

theorem wrapLine_ne_nil (line : Line) (width : Nat) : wrapLine line width ≠ [] := by
  simp [wrapLine]

end Showcase.Text
