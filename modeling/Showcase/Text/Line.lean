import Showcase.Text.Measure
import Showcase.Text.Style

/-!
# Styled lines

A span is text in one style, a line is a row of spans with a style below them all.
-/

namespace Showcase.Text

structure Span where
  text : String
  style : Style := .plain
  deriving DecidableEq, Inhabited

structure Line where
  spans : List Span := []
  style : Style := .plain
  deriving DecidableEq, Inhabited

def Span.raw (text : String) : Span := { text }

def Span.width (span : Span) : Nat := Text.width span.text

namespace Line

def blank : Line := {}

/-- One unstyled span. -/
def raw (text : String) : Line := { spans := [.raw text] }

/-- One span in a style. -/
def styled (text : String) (style : Style) : Line := { spans := [{ text, style }] }

def ofSpans (spans : List Span) : Line := { spans }

def text (line : Line) : String := String.join (line.spans.map Span.text)

def width (line : Line) : Nat :=
  line.spans.foldl (fun total span => total + span.width) 0

end Line

end Showcase.Text
