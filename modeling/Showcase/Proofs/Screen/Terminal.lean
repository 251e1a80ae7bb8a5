import Showcase.Screen.Ansi
import Showcase.Text.Columns

/-!
# A terminal

A terminal of a fixed size that takes characters one at a time: printable characters, carriage
return and line feed, and the sequences that set looks, clear the screen, move the cursor, hide it
and show it. Wrapping at the right margin is put off until the next character is printed.
-/

namespace Showcase.Screen

open Showcase.Text (Color Attribute Attributes)

/-- A colour as a terminal shows it. -/
inductive Shade where
  | standard
  | palette (index : Nat)
  | rgb (red green blue : Nat)
  deriving DecidableEq

def shadeOf : Color → Shade
  | .reset => .standard
  | .black => .palette 0
  | .red => .palette 1
  | .green => .palette 2
  | .yellow => .palette 3
  | .blue => .palette 4
  | .magenta => .palette 5
  | .cyan => .palette 6
  | .gray => .palette 7
  | .darkGray => .palette 8
  | .lightRed => .palette 9
  | .lightGreen => .palette 10
  | .lightYellow => .palette 11
  | .lightBlue => .palette 12
  | .lightMagenta => .palette 13
  | .lightCyan => .palette 14
  | .white => .palette 15
  | .indexed index => .palette index.toNat
  | .rgb red green blue => .rgb red.toNat green.toNat blue.toNat

/-- The looks that a terminal gives to what it prints. -/
structure Paint where
  foreground : Shade := .standard
  background : Shade := .standard
  attributes : Attributes := .empty
  deriving DecidableEq

def Paint.plain : Paint := {}

def Look.paint (look : Look) : Paint where
  foreground := shadeOf look.foreground
  background := shadeOf look.background
  attributes := look.attributes

namespace Paint

def mark (paint : Paint) (mark : Attribute) : Paint :=
  { paint with attributes := paint.attributes.insert mark }

/-- The attribute that a number sets. -/
def attribute? : Nat → Option Attribute
  | 1 => some .bold
  | 2 => some .dim
  | 3 => some .italic
  | 4 => some .underlined
  | 5 => some .slowBlink
  | 6 => some .rapidBlink
  | 7 => some .reversed
  | 8 => some .hidden
  | 9 => some .crossedOut
  | _ => none

/-- The looks after a sequence with some numbers. -/
def set (paint : Paint) : List Nat → Paint
  | [] => paint
  | 0 :: rest => plain.set rest
  | 38 :: 5 :: index :: rest => { paint with foreground := .palette index }.set rest
  | 38 :: 2 :: red :: green :: blue :: rest =>
      { paint with foreground := .rgb red green blue }.set rest
  | 39 :: rest => { paint with foreground := .standard }.set rest
  | 48 :: 5 :: index :: rest => { paint with background := .palette index }.set rest
  | 48 :: 2 :: red :: green :: blue :: rest =>
      { paint with background := .rgb red green blue }.set rest
  | 49 :: rest => { paint with background := .standard }.set rest
  | number :: rest => ((attribute? number).elim paint paint.mark).set rest

end Paint

/-- What stands at a position of the screen. -/
inductive Spot where
  /-- Nothing was printed here since the screen was cleared with a background. -/
  | blank (background : Shade)
  | glyph (character : Char) (paint : Paint)
  /-- The right half of the wide character to the left. -/
  | covered
  deriving DecidableEq

def Spot.untouched : Spot := .blank .standard

/-- How far a terminal is in reading a sequence. -/
inductive Parser where
  | ground
  | escape
  /-- In a sequence, with a question mark or without: the numbers so far, and the one that is
  being read. -/
  | sequence (asked : Bool) (numbers : List Nat) (number : Nat)
  deriving DecidableEq

structure Terminal where
  width : Nat
  height : Nat
  spots : Nat → Nat → Spot := fun _ _ => .untouched
  row : Nat := 0
  /-- The column of the cursor; the width if the next character wraps. -/
  column : Nat := 0
  paint : Paint := .plain
  visible : Bool := true
  /-- By how many rows the screen was scrolled. -/
  scrolled : Nat := 0
  parser : Parser := .ground

namespace Terminal

/-- A cleared terminal with default looks and the cursor at home. -/
def cleared (width height : Nat) : Terminal := { width, height }

/-- Goes to the next row, and scrolls at the last one. -/
def lineFeed (terminal : Terminal) : Terminal :=
  if terminal.row + 1 < terminal.height then { terminal with row := terminal.row + 1 }
  else
    { terminal with
      spots := fun row column =>
        if row + 1 < terminal.height then terminal.spots (row + 1) column
        else .blank terminal.paint.background
      scrolled := terminal.scrolled + 1 }

/-- Puts a character of some width at the cursor. -/
def put (terminal : Terminal) (c : Char) (width : Nat) : Terminal :=
  { terminal with
    spots := fun row column =>
      if row = terminal.row ∧ column = terminal.column then .glyph c terminal.paint
      else if row = terminal.row ∧ terminal.column < column ∧ column < terminal.column + width then
        .covered
      else terminal.spots row column
    column := terminal.column + width }

/-- Prints a character, on the next row if it does not fit on this one. -/
def print (terminal : Terminal) (c : Char) : Terminal :=
  let width := Text.columns c
  if width = 0 then terminal
  else if terminal.column + width ≤ terminal.width then terminal.put c width
  else { terminal.lineFeed with column := 0 }.put c width

/-- Carries out a sequence. -/
def obey (terminal : Terminal) (asked : Bool) (numbers : List Nat) (final : Char) : Terminal :=
  match asked, final, numbers with
  | false, 'm', _ => { terminal with paint := terminal.paint.set numbers }
  | false, 'J', [2] => { terminal with spots := fun _ _ => .blank terminal.paint.background }
  | false, 'H', [row, column] =>
      { terminal with
        row := min (row - 1) (terminal.height - 1)
        column := min (column - 1) (terminal.width - 1) }
  | true, 'h', [25] => { terminal with visible := true }
  | true, 'l', [25] => { terminal with visible := false }
  | _, _, _ => terminal

/-- Takes one character. -/
def step (terminal : Terminal) (c : Char) : Terminal :=
  match terminal.parser with
  | .ground =>
      if c = '\x1b' then { terminal with parser := .escape }
      else if c = '\r' then { terminal with column := 0 }
      else if c = '\n' then terminal.lineFeed
      else if Text.isControl c then terminal
      else terminal.print c
  | .escape =>
      { terminal with parser := if c = '[' then .sequence false [] 0 else .ground }
  | .sequence asked numbers number =>
      if c.isDigit then
        { terminal with
          parser := .sequence asked numbers (10 * number + (c.toNat - '0'.toNat)) }
      else if c = ';' then
        { terminal with parser := .sequence asked (numbers ++ [number]) 0 }
      else if c = '?' then { terminal with parser := .sequence true numbers number }
      else { terminal.obey asked (numbers ++ [number]) c with parser := .ground }

/-- Takes a text. -/
def feed (terminal : Terminal) (text : String) : Terminal := text.toList.foldl step terminal

theorem feed_append (terminal : Terminal) (first second : String) :
    terminal.feed (first ++ second) = (terminal.feed first).feed second := by
  simp [feed]

end Terminal

end Showcase.Screen
