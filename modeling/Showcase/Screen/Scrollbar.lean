import Showcase.Screen.Buffer

/-!
# Scrollbars

A scrollbar stands in the last column of an area: a track with a thumb on it, whose length and
place show how much of the content is seen and where.
-/

namespace Showcase.Screen

open Showcase.Text (Style)

/-- The nearest whole number to a quotient. -/
def roundDiv (numerator denominator : Nat) : Nat := (numerator + denominator / 2) / denominator

structure Thumb where
  start : Nat
  length : Nat
  deriving DecidableEq

/-- The thumb on a track, for an offset between zero and the largest offset. -/
def Thumb.ofOffset (height largest offset : Nat) : Thumb :=
  let last := largest - 1
  let extent := last + height
  let length := min height (max 1 (roundDiv (height * height) extent))
  { start := min (roundDiv (min offset last * height) extent) (height - length), length }

def thumbSymbol : String := "█"
def trackSymbol : String := "║"

/-- Draws a scrollbar, if there is anything to scroll to. -/
def Buffer.drawScrollbar (buffer : Buffer) (area : Rect) (style : Style) (largest offset : Nat) :
    Buffer :=
  if largest == 0 || area.isEmpty then buffer
  else
    let thumb := Thumb.ofOffset area.height largest offset
    (List.range area.height).foldl (fun buffer row =>
      let symbol := if thumb.start ≤ row && row < thumb.start + thumb.length then thumbSymbol
        else trackSymbol
      buffer.setString (area.right - 1) (area.y + row) symbol style) buffer

end Showcase.Screen
