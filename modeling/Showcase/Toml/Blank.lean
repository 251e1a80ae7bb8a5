/-!
# Blanks, comments and line ends

What may stand around the parts of a settings file. A comment runs to the end of its line and holds
no control characters but tabs. A line ends with a line feed, perhaps after a carriage return.
-/

namespace Showcase.Toml

def isBlank (c : Char) : Bool := c == ' ' || c == '\t'

/-- Whether a character may stand in comments and, quotation marks apart, in text. -/
def isPlain (c : Char) : Bool := c == '\t' || (0x20 ≤ c.toNat && c.toNat != 0x7F)

def skipBlanks (text : List Char) : List Char := text.dropWhile isBlank

/-- What follows a line end. -/
def newline? : List Char → Option (List Char)
  | '\n' :: rest => some rest
  | '\r' :: '\n' :: rest => some rest
  | _ => none

/-- What follows the rest of a line that holds nothing but blanks and perhaps a comment. -/
def lineEnd? (text : List Char) : Option (List Char) :=
  let rest := match skipBlanks text with
    | '#' :: comment => comment.dropWhile isPlain
    | rest => rest
  if rest.isEmpty then some [] else newline? rest

/-- Skips blanks, line ends and whole comments; a comment has to end with its line. -/
def skipGap (comment : Bool) : List Char → Option (List Char)
  | [] => if comment then none else some []
  | '\n' :: rest => skipGap false rest
  | '\r' :: '\n' :: rest => skipGap false rest
  | c :: rest =>
      if comment then if isPlain c then skipGap true rest else none
      else if isBlank c then skipGap false rest
      else if c == '#' then skipGap true rest
      else some (c :: rest)

end Showcase.Toml
