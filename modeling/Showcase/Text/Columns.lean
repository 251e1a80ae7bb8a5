import Showcase.Text.Table.Columns

/-!
# Columns of a character

The number of terminal columns of a single character, seen on its own. Control characters have
none. The columns of a text are not always the sum over its characters: see
`Showcase.Text.Measure`.
-/

namespace Showcase.Text

def isControl (c : Char) : Bool :=
  c.toNat < 0x20 || (0x7F ≤ c.toNat && c.toNat < 0xA0)

/-- The columns of a printable character: three for one Khmer sign, two for wide characters and
pictures, none for marks and invisible characters, one for all others. -/
def printableColumns (c : Char) : Nat :=
  if c.toNat < 0xA0 then 1
  else if c.toNat == 0x17D8 then 3
  else if Columns.zeroWidth.contains c.toNat then 0
  else if Columns.doubleWidth.contains c.toNat then 2
  else 1

def columns (c : Char) : Nat :=
  if isControl c then 0 else printableColumns c

end Showcase.Text
