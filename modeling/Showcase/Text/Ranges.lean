/-!
# Character ranges

A property of characters is an increasing list of closed code point ranges. The search stops at
the first range above the code point.
-/

namespace Showcase.Text

abbrev Ranges := List (Nat × Nat)

def Ranges.contains : Ranges → Nat → Bool
  | [], _ => false
  | (low, high) :: rest, code =>
      if code < low then false else code ≤ high || Ranges.contains rest code

end Showcase.Text
