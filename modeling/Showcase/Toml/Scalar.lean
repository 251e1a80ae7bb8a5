import Showcase.Toml.Blank
import Showcase.Json.Number

/-!
# Numbers and dates of a settings file

Integers are written with base ten, sixteen, eight or two and fit into 64 bits; single underscores
may stand between digits. Decimals, dates and times are told from integers and checked.
-/

namespace Showcase.Toml

open Json (digitValue doubleLimit)

/-- What a number or date stands for; only the value of an integer is kept. -/
inductive Scalar where
  | integer (value : Int)
  | decimal
  | moment
  deriving DecidableEq

/-- Digits with single underscores between them, and what follows. -/
def moreDigits (isDigit : Char → Bool) : List Char → List Char × List Char
  | '_' :: c :: rest =>
      if isDigit c then
        let (digits, after) := moreDigits isDigit rest
        (c :: digits, after)
      else ([], '_' :: c :: rest)
  | c :: rest =>
      if isDigit c then
        let (digits, after) := moreDigits isDigit rest
        (c :: digits, after)
      else ([], c :: rest)
  | [] => ([], [])

/-- Digits that start with a digit, and what follows. -/
def digits? (isDigit : Char → Bool) : List Char → Option (List Char × List Char)
  | c :: rest => if isDigit c then some (moreDigits isDigit (c :: rest)) else none
  | [] => none

def baseDigit (c : Char) : Nat :=
  if c.isDigit then digitValue c
  else if 'a' ≤ c then c.toNat - 'a'.toNat + 10
  else c.toNat - 'A'.toNat + 10

/-- Whether a character is a digit of a base up to sixteen. -/
def isBaseDigit (base : Nat) (c : Char) : Bool :=
  (c.isDigit || ('a' ≤ c && c ≤ 'f') || ('A' ≤ c && c ≤ 'F')) && baseDigit c < base

def natural (base : Nat) (digits : List Char) : Nat :=
  digits.foldl (fun value c => value * base + baseDigit c) 0

/-- An integer, unless it needs more than 64 bits. -/
def integer? (value : Int) : Option Scalar :=
  if -Int.pow 2 63 ≤ value && value < Int.pow 2 63 then some (.integer value) else none

/-- Whether a significand with a power of ten is no finite double. -/
def overflows (significand : Nat) (exponent : Int) : Bool :=
  let size := (Nat.toDigits 10 significand).length + exponent
  if significand == 0 || size < 308 then false
  else if 310 < size then true
  else if 0 ≤ exponent then doubleLimit ≤ significand * Nat.pow 10 exponent.toNat
  else doubleLimit * Nat.pow 10 (-exponent).toNat ≤ significand

/-- A sign and what follows it. -/
def signed : List Char → Bool × List Char
  | '-' :: rest => (true, rest)
  | '+' :: rest => (false, rest)
  | rest => (false, rest)

/-- The exponent of a decimal and what follows; zero if there is none. -/
def exponent? : List Char → Option (Int × List Char)
  | mark :: rest =>
      if mark == 'e' || mark == 'E' then
        let (negative, rest) := signed rest
        (digits? Char.isDigit rest).map fun (digits, after) =>
          (if negative then -(natural 10 digits : Int) else natural 10 digits, after)
      else some (0, mark :: rest)
  | [] => some (0, [])

/-- The whole part of a number: a zero alone, or digits that do not start with one. -/
def whole? : List Char → Option (List Char × List Char)
  | '0' :: rest => some (['0'], rest)
  | rest => digits? Char.isDigit rest

/-- An integer of base ten or a decimal. -/
def decimal? (text : List Char) : Option (Scalar × List Char) := do
  let (negative, rest) := signed text
  match rest with
  | 'i' :: 'n' :: 'f' :: after => some (.decimal, after)
  | 'n' :: 'a' :: 'n' :: after => some (.decimal, after)
  | rest =>
      let (whole, rest) ← whole? rest
      let finish (fraction rest : List Char) : Option (Scalar × List Char) := do
        let (exponent, after) ← exponent? rest
        let significand := natural 10 (whole ++ fraction)
        if !negative && overflows significand (exponent - fraction.length) then none
        some (.decimal, after)
      match rest with
      | '.' :: rest =>
          let (fraction, rest) ← digits? Char.isDigit rest
          finish fraction rest
      | mark :: after =>
          if mark == 'e' || mark == 'E' then finish [] (mark :: after)
          else ofWhole negative whole (mark :: after)
      | [] => ofWhole negative whole []
where
  ofWhole (negative : Bool) (whole rest : List Char) : Option (Scalar × List Char) :=
    let value : Int := natural 10 whole
    (integer? (if negative then -value else value)).map (·, rest)

/-- An integer of a base other than ten. -/
def based? (base : Nat) (text : List Char) : Option (Scalar × List Char) := do
  let (digits, rest) ← digits? (isBaseDigit base) text
  let value ← integer? (natural base digits)
  some (value, rest)

def number? : List Char → Option (Scalar × List Char)
  | '0' :: 'x' :: rest => based? 16 rest
  | '0' :: 'o' :: rest => based? 8 rest
  | '0' :: 'b' :: rest => based? 2 rest
  | text => decimal? text

/-- A number of exactly so many digits, between two bounds. -/
def field? (count low high : Nat) (text : List Char) : Option (Nat × List Char) :=
  let digits := text.take count
  let value := natural 10 digits
  if digits.length = count && digits.all Char.isDigit && low ≤ value && value ≤ high then
    some (value, text.drop count)
  else none

def monthDays (year month : Nat) : Nat :=
  if month = 2 then
    if year % 4 = 0 && (year % 100 != 0 || year % 400 = 0) then 29 else 28
  else if [4, 6, 9, 11].contains month then 30
  else 31

def expect? (c : Char) : List Char → Option (List Char)
  | first :: rest => if first == c then some rest else none
  | [] => none

def time? (text : List Char) : Option (List Char) := do
  let (_, rest) ← field? 2 0 23 text
  let (_, rest) ← field? 2 0 59 (← expect? ':' rest)
  let (_, rest) ← field? 2 0 60 (← expect? ':' rest)
  match rest with
  | '.' :: fraction =>
      if fraction.head?.any Char.isDigit then some (fraction.dropWhile Char.isDigit) else none
  | rest => some rest

/-- What follows the distance from universal time, if it is given. -/
def offset? : List Char → Option (List Char)
  | [] => some []
  | c :: rest =>
      if c == 'Z' || c == 'z' then some rest
      else if c == '+' || c == '-' then do
        let (_, rest) ← field? 2 0 23 rest
        let (_, rest) ← field? 2 0 59 (← expect? ':' rest)
        some rest
      else some (c :: rest)

/-- A date, perhaps with a time and its distance from universal time. -/
def date? (text : List Char) : Option (List Char) := do
  let (year, rest) ← field? 4 0 9999 text
  let (month, rest) ← field? 2 1 12 (← expect? '-' rest)
  let (_, rest) ← field? 2 1 (monthDays year month) (← expect? '-' rest)
  match rest with
  | mark :: after =>
      if mark == 'T' || mark == 't' || mark == ' ' then
        match time? after with
        | some zoned => offset? zoned
        | none => some rest
      else some rest
  | [] => some []

def scalar? (text : List Char) : Option (Scalar × List Char) :=
  match date? text, time? text with
  | some rest, _ => some (.moment, rest)
  | none, some rest => some (.moment, rest)
  | none, none => number? text

end Showcase.Toml
