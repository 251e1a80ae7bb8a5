import Showcase.Screen.Buffer

/-!
# Terminal text of a buffer

A buffer is written row by row. Blank cells at the end of a row and empty rows at the end of the
buffer are left out, and looks are written only where they change: a change resets the terminal's
looks and then sets the new ones, one sequence each.
-/

namespace Showcase.Screen

open Showcase.Text (Color Attribute)

/-- What the text of a buffer consists of. -/
inductive Piece where
  | reset
  | foreground (color : Color)
  | background (color : Color)
  | mark (mark : Attribute)
  | symbol (text : String)
  deriving DecidableEq

/-- The colour part of a sequence; the sixteen named colours stand first in the palette. -/
def colorCode : Color → String
  | .reset => "9"
  | .black => "8;5;0"
  | .red => "8;5;1"
  | .green => "8;5;2"
  | .yellow => "8;5;3"
  | .blue => "8;5;4"
  | .magenta => "8;5;5"
  | .cyan => "8;5;6"
  | .gray => "8;5;7"
  | .darkGray => "8;5;8"
  | .lightRed => "8;5;9"
  | .lightGreen => "8;5;10"
  | .lightYellow => "8;5;11"
  | .lightBlue => "8;5;12"
  | .lightMagenta => "8;5;13"
  | .lightCyan => "8;5;14"
  | .white => "8;5;15"
  | .indexed index => "8;5;" ++ toString index.toNat
  | .rgb red green blue =>
      "8;2;" ++ toString red.toNat ++ ";" ++ toString green.toNat ++ ";" ++ toString blue.toNat

def attributeCode : Attribute → String
  | .bold => "1"
  | .dim => "2"
  | .italic => "3"
  | .underlined => "4"
  | .slowBlink => "5"
  | .rapidBlink => "6"
  | .reversed => "7"
  | .hidden => "8"
  | .crossedOut => "9"

/-- A sequence that sets looks. -/
def sequence (code : String) : String := "\x1b[" ++ code ++ "m"

def Piece.text : Piece → String
  | .reset => sequence "0"
  | .foreground color => sequence ("3" ++ colorCode color)
  | .background color => sequence ("4" ++ colorCode color)
  | .mark added => sequence (attributeCode added)
  | .symbol text => text

/-- The pieces that bring a terminal from any looks to the given ones. -/
def Look.pieces (look : Look) : List Piece :=
  .reset ::
    ((if look.foreground == .reset then [] else [.foreground look.foreground])
      ++ (if look.background == .reset then [] else [.background look.background])
      ++ look.attributes.toList.map .mark)

/-- The pieces of cells, given the looks that are set and the number of cells that the last symbol
covers. -/
def cellPieces (current : Look) (covered : Nat) : List Cell → List Piece
  | [] => if current == .plain then [] else [.reset]
  | cell :: rest =>
      match covered with
      | more + 1 => cellPieces current more rest
      | 0 =>
          (if cell.look == current then [] else cell.look.pieces)
            ++ .symbol cell.symbol :: cellPieces cell.look (Text.width cell.symbol - 1) rest

/-- A row without the blank cells at its end. -/
def trimBlank (cells : List Cell) : List Cell :=
  (cells.reverse.dropWhile Cell.isBlank).reverse

def rowPieces (cells : List Cell) : List Piece := cellPieces .plain 0 (trimBlank cells)

def piecesText (pieces : List Piece) : String := String.join (pieces.map Piece.text)

def rowAnsi (cells : List Cell) : String := piecesText (rowPieces cells)

/-- Lines without the empty ones at the end. -/
def trimEmpty (lines : List String) : List String :=
  (lines.reverse.dropWhile String.isEmpty).reverse

/-- The text that draws a buffer on a cleared terminal. -/
def Buffer.toAnsi (buffer : Buffer) : String :=
  "\r\n".intercalate (trimEmpty (buffer.rows.map rowAnsi))

end Showcase.Screen
