import Showcase.Text.Table.Cluster
import Showcase.Text.Table.Unprintable

/-!
# Quoted text

A text between quotation marks, with escapes for quotation marks, backslashes and all characters
that do not show, marks that combine with the character before them included.
-/

namespace Showcase.Text

def hexadecimal (value : Nat) : String := String.ofList (Nat.toDigits 16 value)

/-- Whether a character shows on its own. -/
def isPrintable (c : Char) : Bool :=
  !Unprintable.unprintable.contains c.toNat &&
    (!Cluster.extending.contains c.toNat || (0x1F3FB ≤ c.toNat && c.toNat ≤ 0x1F3FF))

def quotedChar (c : Char) : String :=
  match c with
  | '"' => "\\\""
  | '\\' => "\\\\"
  | '\t' => "\\t"
  | '\n' => "\\n"
  | '\r' => "\\r"
  | '\x00' => "\\0"
  | c => if isPrintable c then String.singleton c else "\\u\x7b" ++ hexadecimal c.toNat ++ "\x7d"

def quoted (text : String) : String :=
  "\"" ++ String.join (text.toList.map quotedChar) ++ "\""

end Showcase.Text
