/-!
# Keys

The keystrokes that a program understands and how they arrive: the four arrow sequences, single
control bytes, and otherwise the first byte if it is printable ASCII.
-/

namespace Showcase

inductive Key where
  | arrowUp
  | arrowDown
  | arrowLeft
  | arrowRight
  | enter
  | escape
  | backspace
  | space
  | char (c : Char)
  | unrecognized
  deriving DecidableEq, Inhabited

namespace Key

/-- How a key is named. -/
def name : Key → String
  | arrowUp => "ArrowUp"
  | arrowDown => "ArrowDown"
  | arrowLeft => "ArrowLeft"
  | arrowRight => "ArrowRight"
  | enter => "Enter"
  | escape => "Escape"
  | backspace => "Backspace"
  | space => "Space"
  | char c => "Char:" ++ String.singleton c
  | unrecognized => "Unrecognized"

/-- The key with a name. -/
def ofName? (text : String) : Option Key :=
  match text.toList with
  | ['C', 'h', 'a', 'r', ':', c] => some (char c)
  | _ =>
      [arrowUp, arrowDown, arrowLeft, arrowRight, enter, escape, backspace, space,
        unrecognized].find? fun key => key.name == text

/-- How a key is shown to the user. -/
def label : Key → String
  | arrowUp => "↑"
  | arrowDown => "↓"
  | arrowLeft => "←"
  | arrowRight => "→"
  | enter => "enter"
  | escape => "esc"
  | backspace => "backspace"
  | space => "space"
  | char c => String.singleton c
  | unrecognized => "?"

def ofByte (byte : UInt8) : Key :=
  if byte == 0x20 then space
  else if 0x21 ≤ byte && byte ≤ 0x7E then char (Char.ofNat byte.toNat)
  else unrecognized

/-- The one key that a frame of bytes stands for. -/
def decode : List UInt8 → Key
  | [0x1B, 0x5B, 0x41] => arrowUp
  | [0x1B, 0x5B, 0x42] => arrowDown
  | [0x1B, 0x5B, 0x43] => arrowRight
  | [0x1B, 0x5B, 0x44] => arrowLeft
  | [0x0D] => enter
  | [0x0A] => enter
  | [0x1B] => escape
  | [0x7F] => backspace
  | [0x08] => backspace
  | first :: _ => ofByte first
  | [] => unrecognized

end Key

end Showcase
