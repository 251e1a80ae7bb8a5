import Showcase.Json.Number

/-!
# Tokens

Structured text is cut into tokens character by character. `Scanner` is the token that is open,
and `Scanner.step` the tokens that one more character completes. A string is kept as a list of
codes, since an escape may stand for half of a character; `textOf?` joins the halves.
-/

namespace Showcase.Json

inductive Token where
  | openArray
  | closeArray
  | openObject
  | closeObject
  | comma
  | colon
  | null
  | bool (value : Bool)
  | number (value : Number)
  | string (codes : List Nat)
  deriving DecidableEq

def isSpace (c : Char) : Bool := c == ' ' || c == '\t' || c == '\n' || c == '\r'

def isHighHalf (code : Nat) : Bool := 0xD800 ≤ code && code < 0xDC00

def isLowHalf (code : Nat) : Bool := 0xDC00 ≤ code && code < 0xE000

/-- The text of a string, unless it holds half of a character without the other half. -/
def charsOf? : List Nat → Option (List Char)
  | [] => some []
  | code :: rest =>
      if isHighHalf code then
        match rest with
        | low :: rest =>
            if isLowHalf low then
              (charsOf? rest).map
                (Char.ofNat (0x10000 + (code - 0xD800) * 0x400 + (low - 0xDC00)) :: ·)
            else none
        | [] => none
      else if isLowHalf code then none
      else (charsOf? rest).map (Char.ofNat code :: ·)

def textOf? (codes : List Nat) : Option String := (charsOf? codes).map String.ofList

def hexDigit? (c : Char) : Option Nat :=
  if c.isDigit then some (digitValue c)
  else if 'a' ≤ c && c ≤ 'f' then some (c.toNat - 'a'.toNat + 10)
  else if 'A' ≤ c && c ≤ 'F' then some (c.toNat - 'A'.toNat + 10)
  else none

/-- The code of a one-letter escape. -/
def escapeCode? : Char → Option Nat
  | '"' => some 0x22
  | '\\' => some 0x5C
  | '/' => some 0x2F
  | 'b' => some 0x08
  | 'f' => some 0x0C
  | 'n' => some 0x0A
  | 'r' => some 0x0D
  | 't' => some 0x09
  | _ => none

def word? : List Char → Option Token
  | ['n', 'u', 'l', 'l'] => some .null
  | ['t', 'r', 'u', 'e'] => some (.bool true)
  | ['f', 'a', 'l', 's', 'e'] => some (.bool false)
  | _ => none

def punctuation? : Char → Option Token
  | '[' => some .openArray
  | ']' => some .closeArray
  | '{' => some .openObject
  | '}' => some .closeObject
  | ',' => some .comma
  | ':' => some .colon
  | _ => none

/-- The open token; what it has taken so far is in reverse. -/
inductive Scanner where
  | between
  | number (taken : List Char)
  | word (taken : List Char)
  | string (taken : List Nat)
  | escape (taken : List Nat)
  | hex (taken : List Nat) (code : Nat) (missing : Nat)
  deriving DecidableEq

namespace Scanner

def isNumberChar (c : Char) : Bool :=
  c.isDigit || c == '-' || c == '+' || c == '.' || c == 'e' || c == 'E'

/-- A character outside of all tokens. -/
def start (c : Char) : Option (Scanner × List Token) :=
  if isSpace c then some (.between, [])
  else if c == '"' then some (.string [], [])
  else if c.isDigit || c == '-' then some (.number [c], [])
  else if c.isLower then some (.word [c], [])
  else (punctuation? c).map fun token => (.between, [token])

def close (token : Option Token) (c : Char) : Option (Scanner × List Token) := do
  let token ← token
  let (scanner, tokens) ← start c
  return (scanner, token :: tokens)

def step : Scanner → Char → Option (Scanner × List Token)
  | .between, c => start c
  | .number taken, c =>
      if isNumberChar c then some (.number (c :: taken), [])
      else close ((Number.ofChars? taken.reverse).map .number) c
  | .word taken, c =>
      if c.isLower then some (.word (c :: taken), []) else close (word? taken.reverse) c
  | .string taken, c =>
      if c == '"' then some (.between, [.string taken.reverse])
      else if c == '\\' then some (.escape taken, [])
      else if c.toNat < 0x20 then none
      else some (.string (c.toNat :: taken), [])
  | .escape taken, c =>
      if c == 'u' then some (.hex taken 0 4, [])
      else (escapeCode? c).map fun code => (.string (code :: taken), [])
  | .hex taken code missing, c =>
      (hexDigit? c).map fun digit =>
        let code := code * 16 + digit
        if missing ≤ 1 then (.string (code :: taken), []) else (.hex taken code (missing - 1), [])

/-- The token that the end of the text completes. -/
def finish : Scanner → Option (List Token)
  | .between => some []
  | .number taken => (Number.ofChars? taken.reverse).map fun value => [.number value]
  | .word taken => (word? taken.reverse).map fun token => [token]
  | .string _ | .escape _ | .hex .. => none

end Scanner

def tokensFrom (scanner : Scanner) : List Char → Option (List Token)
  | [] => scanner.finish
  | c :: rest => do
      let (scanner, here) ← scanner.step c
      return here ++ (← tokensFrom scanner rest)

/-- The tokens of a text. -/
def tokens? (text : List Char) : Option (List Token) := tokensFrom .between text

end Showcase.Json
