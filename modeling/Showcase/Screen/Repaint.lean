/-!
# Repaints

A repaint clears the screen, goes home and hides the cursor, draws, and shows the cursor again, so
that it replaces whatever was drawn before it.
-/

namespace Showcase.Screen

structure Repaint where
  body : String
  deriving DecidableEq, Inhabited

namespace Repaint

def opening : String := "\x1b[2J\x1b[1;1H\x1b[?25l"

def closing : String := "\x1b[?25h"

/-- The whole text of a repaint. -/
def text (repaint : Repaint) : String := opening ++ repaint.body ++ closing

/-- The length of the text in bytes. -/
def size (repaint : Repaint) : Nat := repaint.text.utf8ByteSize

theorem size_eq (repaint : Repaint) : repaint.size = repaint.body.utf8ByteSize + 22 := by
  have opened : opening.utf8ByteSize = 16 := by decide
  have closed : closing.utf8ByteSize = 6 := by decide
  simp only [size, text, String.utf8ByteSize_append, opened, closed]
  omega

end Repaint

end Showcase.Screen
