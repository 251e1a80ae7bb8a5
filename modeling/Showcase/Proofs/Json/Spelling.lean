import Showcase.Json.Value

/-!
# The grammar of structured text

What it is for a text to spell a value, said without a reader: how numbers and strings are written,
that tokens stand one after the other with white space between them, and which tokens make up a
value.
-/

namespace Showcase.Json

/-! ## Numbers -/

/-- Decimal digits, at least one. -/
def IsDigits (chars : List Char) : Prop := chars ≠ [] ∧ ∀ c ∈ chars, c.isDigit = true

/-- An integer without a sign and without a leading zero. -/
def IsWhole (chars : List Char) : Prop :=
  IsDigits chars ∧ (chars.head? = some '0' → chars.length = 1)

def decimalValue (digits : List Char) : Nat := Nat.ofDigitChars 10 digits 0

/-- A point with digits after it, or nothing, and the digits. -/
inductive IsFraction : List Char → List Char → Prop where
  | missing : IsFraction [] []
  | digits {chars : List Char} (digits : IsDigits chars) : IsFraction ('.' :: chars) chars

/-- A power of ten, and the exponent that it writes. -/
inductive IsExponent : List Char → Int → Prop where
  | missing : IsExponent [] 0
  | raised {mark : Char} {sign chars : List Char} (marks : mark = 'e' ∨ mark = 'E')
      (signs : sign = [] ∨ sign = ['+']) (digits : IsDigits chars) :
      IsExponent (mark :: (sign ++ chars)) (decimalValue chars)
  | lowered {mark : Char} {chars : List Char} (marks : mark = 'e' ∨ mark = 'E')
      (digits : IsDigits chars) : IsExponent (mark :: '-' :: chars) (-decimalValue chars)

/-- Digits that go on a number are cut where it no longer fits into 64 bits: the longest prefix with
which it fits is kept, and the others are lost. -/
structure Leading (start : Nat) (digits kept lost : List Char) : Prop where
  append_eq : kept ++ lost = digits
  fits : Nat.ofDigitChars 10 kept start ≤ wordLimit
  longest : ∀ candidate, candidate <+: digits →
    Nat.ofDigitChars 10 candidate start ≤ wordLimit → candidate <+: kept

/-- A number without a sign, as the number that its kept digits write and a power of ten. The digits
after the point go on those kept before it, even where some of these are lost. -/
inductive UnsignedText : List Char → Nat → Int → Prop where
  | parts {whole fraction exponent decimals kept lost keptDecimals lostDecimals : List Char}
      {scale : Int} (isWhole : IsWhole whole) (isFraction : IsFraction fraction decimals)
      (isExponent : IsExponent exponent scale) (leading : Leading 0 whole kept lost)
      (further : Leading (decimalValue kept) decimals keptDecimals lostDecimals) :
      UnsignedText (whole ++ (fraction ++ exponent)) (decimalValue (kept ++ keptDecimals))
        (scale + lost.length - keptDecimals.length)

/-- The number that a text spells. What is no integer of 64 bits is a decimal, and the sign of a
decimal does not count. -/
inductive NumberText : List Char → Number → Prop where
  | natural {digits : List Char} (whole : IsWhole digits) (fits : decimalValue digits ≤ wordLimit) :
      NumberText digits (.natural (decimalValue digits))
  | negative {digits : List Char} (whole : IsWhole digits) (positive : 0 < decimalValue digits)
      (fits : decimalValue digits ≤ Nat.pow 2 63) :
      NumberText ('-' :: digits) (.negative (decimalValue digits))
  | decimal {chars : List Char} {significand : Nat} {power : Int}
      (spelled : UnsignedText chars significand power)
      (unfit : ¬ (IsWhole chars ∧ decimalValue chars ≤ wordLimit)) :
      NumberText chars (.decimal significand power)
  | negativeDecimal {chars : List Char} {significand : Nat} {power : Int}
      (spelled : UnsignedText chars significand power)
      (unfit : ¬ (IsWhole chars ∧ 0 < decimalValue chars ∧ decimalValue chars ≤ Nat.pow 2 63)) :
      NumberText ('-' :: chars) (.decimal significand power)

/-! ## Strings and other tokens -/

/-- The number that hexadecimal digits write. -/
def hexValue? (digits : List Char) : Option Nat :=
  digits.foldlM (fun code c => (hexDigit? c).map (code * 16 + ·)) 0

/-- The codes that characters between quotes stand for. -/
inductive Characters : List Char → List Nat → Prop where
  | nil : Characters [] []
  | plain {c : Char} {rest : List Char} {codes : List Nat} (unquoted : c ≠ '"')
      (unescaped : c ≠ '\\') (printed : 0x20 ≤ c.toNat) (further : Characters rest codes) :
      Characters (c :: rest) (c.toNat :: codes)
  | letter {letter : Char} {rest : List Char} {code : Nat} {codes : List Nat}
      (named : escapeCode? letter = some code) (further : Characters rest codes) :
      Characters ('\\' :: letter :: rest) (code :: codes)
  | hex {digits rest : List Char} {code : Nat} {codes : List Nat} (four : digits.length = 4)
      (spelled : hexValue? digits = some code) (further : Characters rest codes) :
      Characters ('\\' :: 'u' :: (digits ++ rest)) (code :: codes)

/-- The characters that make up a token. -/
inductive Spells : List Char → Token → Prop where
  | mark {c : Char} {token : Token} (marks : punctuation? c = some token) : Spells [c] token
  | word {chars : List Char} {token : Token} (word : word? chars = some token) :
      Spells chars token
  | number {chars : List Char} {number : Number} (spelled : NumberText chars number) :
      Spells chars (.number number)
  | string {chars : List Char} {codes : List Nat} (spelled : Characters chars codes) :
      Spells ('"' :: (chars ++ ['"'])) (.string codes)

def IsBlank (chars : List Char) : Prop := ∀ c ∈ chars, isSpace c = true

/-- Tokens stand one after the other, with white space before and after each. -/
inductive Lexed : List Char → List Token → Prop where
  | blank {chars : List Char} (blank : IsBlank chars) : Lexed chars []
  | token {blanks chars rest : List Char} {token : Token} {tokens : List Token}
      (blank : IsBlank blanks) (spelled : Spells chars token) (further : Lexed rest tokens) :
      Lexed (blanks ++ (chars ++ rest)) (token :: tokens)

/-! ## Values -/

namespace Value

mutual

/-- The tokens of a value. Items and members are separated by commas: one stands before each of them
but the first. -/
def tokens : Value → List Token
  | .null => [.null]
  | .bool value => [.bool value]
  | .number value => [.number value]
  | .string codes => [.string codes]
  | .array items => .openArray :: ((commaItems items).tail ++ [.closeArray])
  | .object members => .openObject :: ((commaMembers members).tail ++ [.closeObject])

/-- The tokens of items, each after a comma. -/
def commaItems : List Value → List Token
  | [] => []
  | item :: rest => .comma :: (item.tokens ++ commaItems rest)

/-- The tokens of members, each after a comma. -/
def commaMembers : List (List Nat × Value) → List Token
  | [] => []
  | (key, value) :: rest =>
      .comma :: .string key :: .colon :: (value.tokens ++ commaMembers rest)

end

end Value

/-- The text spells the value, with white space around its tokens. -/
def Writes (text : String) (value : Value) : Prop := Lexed text.toList value.tokens

end Showcase.Json
