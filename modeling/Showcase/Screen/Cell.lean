import Showcase.Text.Cluster
import Showcase.Text.Measure
import Showcase.Text.Style

/-!
# Cells

A cell holds a symbol and its looks. Drawing into a cell overwrites the colours that a style sets
and adds the style's attributes.
-/

namespace Showcase.Screen

open Showcase.Text (Color Attributes Style)

/-- The looks of a cell. -/
structure Look where
  foreground : Color := .reset
  background : Color := .reset
  attributes : Attributes := .empty
  deriving DecidableEq, Inhabited

def Look.plain : Look := {}

def Look.apply (look : Look) (style : Style) : Look where
  foreground := style.foreground.getD look.foreground
  background := style.background.getD look.background
  attributes := look.attributes.union style.attributes

structure Cell where
  symbol : String := " "
  look : Look := .plain
  deriving DecidableEq, Inhabited

namespace Cell

def empty : Cell := {}

def withStyle (cell : Cell) (style : Style) : Cell :=
  { cell with look := cell.look.apply style }

def withSymbol (cell : Cell) (symbol : String) : Cell := { cell with symbol }

/-- A cell that looks like nothing was drawn on it: a space on the default background with no
attribute that shows on a space. -/
def isBlank (cell : Cell) : Bool :=
  cell.symbol == " " && cell.look.background == .reset
    && !cell.look.attributes.has .underlined && !cell.look.attributes.has .reversed
    && !cell.look.attributes.has .crossedOut

theorem isBlank_empty : empty.isBlank = true := by decide

end Cell

/-- The cells that a symbol takes: a halfwidth voicing mark takes one more than its column. -/
def symbolCells (symbol : List Char) : Nat :=
  match symbol with
  | [c] => if c.toNat < 0x80 then 1 else count symbol
  | _ => count symbol
where
  count (symbol : List Char) : Nat :=
    Text.measure symbol + symbol.countP fun c => c.toNat == 0xFF9E || c.toNat == 0xFF9F

/-- The clusters of a text that can be drawn, with the cells they take. -/
def drawable (text : String) : List (String × Nat) :=
  (Text.clusters text.toList).filterMap fun cluster =>
    let cells := symbolCells cluster
    if cluster.any Text.isControl || cells == 0 then none
    else some (String.ofList cluster, cells)

end Showcase.Screen
