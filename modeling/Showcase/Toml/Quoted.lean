import Showcase.Toml.Blank

/-!
# Quoted texts of a settings file

A text stands between quotation marks of one of two kinds. Between double ones a backslash starts an
escape; between single ones every character stands for itself. Three marks in a row enclose a text
of several lines: a line end right after the opening marks is left out, up to two more marks may
precede the closing ones, and between double marks a backslash at the end of a line takes all blanks
and line ends after it away.
-/

namespace Showcase.Toml

/-- The marks around a text. -/
structure Quotes where
  mark : Char
  /-- Whether a backslash starts an escape. -/
  escapes : Bool
  /-- Whether the text may have several lines. -/
  lines : Bool

/-- Where a reader stands in a text. -/
inductive Place where
  /-- Before a character; after a line end that was taken away, blanks and line ends are skipped. -/
  | text (skipping : Bool)
  /-- After a backslash. -/
  | escape
  /-- In the digits of a character's number. -/
  | number (code : Nat) (missing : Nat)
  /-- After a backslash and blanks, where the line has to end. -/
  | folding

def escaped? : Char → Option Char
  | '"' => some '"'
  | '\\' => some '\\'
  | 'b' => some '\x08'
  | 'f' => some '\x0c'
  | 'n' => some '\n'
  | 'r' => some '\r'
  | 't' => some '\t'
  | _ => none

def hexDigit? (c : Char) : Option Nat :=
  if c.isDigit then some (c.toNat - '0'.toNat)
  else if 'a' ≤ c && c ≤ 'f' then some (c.toNat - 'a'.toNat + 10)
  else if 'A' ≤ c && c ≤ 'F' then some (c.toNat - 'A'.toNat + 10)
  else none

/-- The character with a number. -/
def ofNumber? (code : Nat) : Option Char :=
  if code.isValidChar then some (Char.ofNat code) else none

/-- What follows the closing marks of several lines, after the marks that belong to the text. -/
def closeLines (mark : Char) (rest : List Char) : List Char × List Char :=
  let extra := (rest.takeWhile (· == mark)).take 2
  (extra, rest.drop extra.length)

/-- Puts a character before a text that was read. -/
def before (c : Char) (read : Option (List Char × List Char)) : Option (List Char × List Char) :=
  read.map fun (text, rest) => (c :: text, rest)

/-- Reads a text up to and with its closing marks. -/
def readText (quotes : Quotes) : Place → List Char → Option (List Char × List Char)
  | _, [] => none
  | .text skipping, '\r' :: '\n' :: rest =>
      if !quotes.lines then none
      else if skipping then readText quotes (.text true) rest
      else before '\n' (readText quotes (.text false) rest)
  | .text skipping, c :: rest =>
      if skipping && (isBlank c || c == '\n') then readText quotes (.text true) rest
      else if c == quotes.mark then
        if !quotes.lines then some ([], rest)
        else match rest with
          | second :: third :: after =>
              if second == quotes.mark && third == quotes.mark then
                some (closeLines quotes.mark after)
              else before c (readText quotes (.text false) rest)
          | _ => none
      else if quotes.escapes && c == '\\' then readText quotes .escape rest
      else if c == '\n' then
        if quotes.lines then before '\n' (readText quotes (.text false) rest) else none
      else if isPlain c then before c (readText quotes (.text false) rest)
      else none
  | .escape, c :: rest =>
      if c == 'u' then readText quotes (.number 0 4) rest
      else if c == 'U' then readText quotes (.number 0 8) rest
      else if quotes.lines && isBlank c then readText quotes .folding rest
      else if quotes.lines && c == '\n' then readText quotes (.text true) rest
      else if quotes.lines && c == '\r' && rest.head? == some '\n' then
        readText quotes (.text true) rest
      else (escaped? c).bind fun stands => before stands (readText quotes (.text false) rest)
  | .number code missing, c :: rest =>
      (hexDigit? c).bind fun digit =>
        let code := code * 16 + digit
        if missing ≤ 1 then
          (ofNumber? code).bind fun stands => before stands (readText quotes (.text false) rest)
        else readText quotes (.number code (missing - 1)) rest
  | .folding, c :: rest =>
      if isBlank c then readText quotes .folding rest
      else if c == '\n' then readText quotes (.text true) rest
      else if c == '\r' && rest.head? == some '\n' then readText quotes (.text true) rest
      else none

/-- Reads a text of one line after its opening mark. -/
def readLine (mark : Char) (rest : List Char) : Option (String × List Char) :=
  (readText { mark, escapes := mark == '"', lines := false } (.text false) rest).map
    fun (text, rest) => (String.ofList text, rest)

/-- Reads a text of several lines after its opening marks. -/
def readLines (mark : Char) (rest : List Char) : Option (String × List Char) :=
  (readText { mark, escapes := mark == '"', lines := true } (.text false)
    ((newline? rest).getD rest)).map fun (text, rest) => (String.ofList text, rest)

/-- Reads a text with its marks. -/
def quoted? : List Char → Option (String × List Char)
  | '"' :: '"' :: '"' :: rest => readLines '"' rest
  | '\'' :: '\'' :: '\'' :: rest => readLines '\'' rest
  | '"' :: rest => readLine '"' rest
  | '\'' :: rest => readLine '\'' rest
  | _ => none

end Showcase.Toml
