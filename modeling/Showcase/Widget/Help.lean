import Showcase.Text.Line
import Showcase.Widget.Binding

/-!
# Key help

The short help is one line with as many bindings as fit; the full help has one line for each
binding, with the descriptions in one column.
-/

namespace Showcase.Widget

open Showcase.Text (Line Span Style)

structure HelpStyle where
  key : Style := (Style.plain.fg .cyan).adding .bold
  description : Style := Style.plain.fg .gray
  separator : Style := Style.plain.fg .darkGray
  deriving DecidableEq

structure Help where
  style : HelpStyle := {}
  separator : String := " • "
  ellipsis : String := "…"

namespace Help

/-- The most bindings that the short help shows. -/
def maxEntries : Nat := 6

def withStyle (help : Help) (style : HelpStyle) : Help := { help with style }

def withSeparator (help : Help) (separator : String) : Help := { help with separator }

def separatorSpan (help : Help) : Span := { text := help.separator, style := help.style.separator }

def ellipsisSpan (help : Help) : Span := { text := help.ellipsis, style := help.style.separator }

def entrySpans (help : Help) (binding : Binding) : List Span :=
  [{ text := binding.label, style := help.style.key }, .raw " ",
    { text := binding.description, style := help.style.description }]

def entryWidth (binding : Binding) : Nat :=
  Text.width binding.label + 1 + Text.width binding.description

/-- The spans of entries, given the separator before the first of them and the columns in use. -/
def shortSpans (help : Help) (width used : Nat) (between : List Span) :
    List Binding → List Span
  | [] => []
  | binding :: rest =>
      let before := used + (Line.ofSpans between).width
      if before + entryWidth binding ≤ width then
        between ++ help.entrySpans binding
          ++ help.shortSpans width (before + entryWidth binding) [help.separatorSpan] rest
      else if before + Text.width help.ellipsis ≤ width then between ++ [help.ellipsisSpan]
      else []

def shortEntries (bindings : List Binding) : List Binding :=
  (bindings.filter Binding.enabled).take maxEntries

def shortLine (help : Help) (bindings : List Binding) (width : Nat) : Line :=
  .ofSpans (help.shortSpans width 0 [] (shortEntries bindings))

/-- The columns from the start of a label to the start of its description. -/
def labelColumn (groups : List (List Binding)) : Nat :=
  (groups.flatten.map fun binding => Text.width binding.label).foldl max 0 + 2

def blanks (count : Nat) : String := String.ofList (List.replicate count ' ')

def bindingLine (help : Help) (column : Nat) (binding : Binding) : Line :=
  .ofSpans [.raw "  ", { text := binding.label, style := help.style.key },
    .raw (blanks (column - Text.width binding.label)),
    { text := binding.description, style := help.style.description }]

def groupLines (help : Help) (column : Nat) (group : List Binding) : List Line :=
  (group.filter Binding.enabled).map (help.bindingLine column)

/-- The full listing, with a blank line between groups. -/
def fullLines (help : Help) (groups : List (List Binding)) : List Line :=
  [.blank].intercalate (groups.map (help.groupLines (labelColumn groups)))

end Help

end Showcase.Widget
