import Showcase.Command
import Showcase.Screen.Paragraph
import Showcase.Widget.Selection

/-!
# Menus

Items stand in titled sections and share one cursor that runs through all of them in order.
Choosing an item gives a message that tells which one.
-/

namespace Showcase.Widget

open Showcase.Text (Line Span Style)

structure MenuItem where
  name : String
  description : String
  deriving DecidableEq

structure MenuSection where
  title : String
  items : List MenuItem
  deriving DecidableEq

structure MenuStyle where
  title : Style := (Style.plain.fg .green).adding .bold
  selected : Style := (Style.plain.fg .magenta).adding .bold
  normal : Style := .plain
  indicator : String := "▸ "
  deriving DecidableEq

inductive MenuMessage where
  | up
  | down
  | focus (index : Nat)
  | choose
  | selected (index : Nat)
  deriving DecidableEq

structure Menu where
  sections : List MenuSection
  selection : Selection
  style : MenuStyle := {}
  focused : Bool := true

namespace Menu

def itemsOf (sections : List MenuSection) : List MenuItem := sections.flatMap MenuSection.items

/-- A menu with the cursor on its first item. -/
def ofSections (sections : List MenuSection) : Menu :=
  { sections, selection := .first (itemsOf sections).length }

def withStyle (menu : Menu) (style : MenuStyle) : Menu := { menu with style }

def items (menu : Menu) : List MenuItem := itemsOf menu.sections

def cursor (menu : Menu) : Nat := menu.selection.cursor

def size (menu : Menu) : Nat := menu.selection.count

def isEmpty (menu : Menu) : Bool := menu.size == 0

/-- The index of the first item with a name. -/
def position? (menu : Menu) (name : String) : Option Nat :=
  menu.items.findIdx? fun item => item.name == name

def setFocus (menu : Menu) (focused : Bool) : Menu := { menu with focused }

def itemText (item : MenuItem) : String := item.name ++ " - " ++ item.description

def titleLine (style : MenuStyle) (title : String) : Line := .styled title style.title

def selectedLine (style : MenuStyle) (item : MenuItem) : Line :=
  .ofSpans [.raw "  ", { text := style.indicator ++ itemText item, style := style.selected }]

def normalLine (style : MenuStyle) (item : MenuItem) : Line :=
  .ofSpans [.raw "    ", { text := itemText item, style := style.normal }]

/-- The lines of items, the first of which has the given index. -/
def itemLines (style : MenuStyle) (cursor index : Nat) : List MenuItem → List Line
  | [] => []
  | item :: rest =>
      (if index == cursor then selectedLine style item else normalLine style item)
        :: itemLines style cursor (index + 1) rest

def sectionLines (style : MenuStyle) (cursor index : Nat) (part : MenuSection) : List Line :=
  titleLine style part.title :: itemLines style cursor index part.items

/-- The lines of sections, with a blank line before each but the first. -/
def linesFrom (style : MenuStyle) (cursor index : Nat) : List MenuSection → List Line
  | [] => []
  | [part] => sectionLines style cursor index part
  | part :: rest =>
      sectionLines style cursor index part
        ++ .blank :: linesFrom style cursor (index + part.items.length) rest

def lines (menu : Menu) : List Line := linesFrom menu.style menu.cursor 0 menu.sections

def update (menu : Menu) : MenuMessage → Menu × Command MenuMessage
  | .up => ({ menu with selection := menu.selection.up }, .none)
  | .down => ({ menu with selection := menu.selection.down }, .none)
  | .focus index => ({ menu with selection := menu.selection.select index }, .none)
  | .choose => (menu, if menu.isEmpty then .none else .message (.selected menu.cursor))
  | .selected _ => (menu, .none)

def draw (menu : Menu) (area : Screen.Rect) (buffer : Screen.Buffer) : Screen.Buffer :=
  buffer.drawLines area menu.lines

end Menu

end Showcase.Widget
