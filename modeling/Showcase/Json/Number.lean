/-!
# Numbers of structured text

A number is a sign, decimal digits and a power of ten. Reading keeps as many leading digits as fit
into 64 bits; `fitsDouble` says whether what is kept stays finite as a double.
-/

namespace Showcase.Json

def digitValue (c : Char) : Nat := c.toNat - '0'.toNat

/-- The largest unsigned number of 64 bits. -/
def wordLimit : Nat := Nat.pow 2 64 - 1

/-- An integer that fits into 64 bits, or a decimal with the leading digits that do. -/
inductive Number where
  | natural (value : Nat)
  | negative (value : Nat)
  | decimal (significand : Nat) (exponent : Int)
  deriving DecidableEq, Inhabited

/-- Leading digits that fit into 64 bits, and how many were left out. -/
def gather (significand : Nat) : List Char → Nat × Nat
  | [] => (significand, 0)
  | c :: rest =>
      let next := significand * 10 + digitValue c
      if next ≤ wordLimit then gather next rest else (significand, rest.length + 1)

/-- Digits, which must be there, and what follows them. -/
def digits? (text : List Char) : Option (List Char × List Char) :=
  match text.takeWhile Char.isDigit with
  | [] => none
  | found => some (found, text.dropWhile Char.isDigit)

/-- The exponent part at the end of a number; zero if it is missing. -/
def exponent? : List Char → Option Int
  | [] => some 0
  | mark :: rest =>
      if mark == 'e' || mark == 'E' then
        let (negative, rest) := match rest with
          | '-' :: rest => (true, rest)
          | '+' :: rest => (false, rest)
          | rest => (false, rest)
        match digits? rest with
        | some (digits, []) =>
            let value : Int := digits.foldl (fun value c => value * 10 + digitValue c) 0
            some (if negative then -value else value)
        | _ => none
      else none

/-- The digits after the point and what follows them; none if there is no point. -/
def fraction? : List Char → Option (List Char × List Char)
  | '.' :: rest => digits? rest
  | rest => some ([], rest)

/-- Reads an unsigned number: an integer without a leading zero, then perhaps a fraction and an
exponent. The flag says whether it is an integer. -/
def unsigned? (text : List Char) : Option (Nat × Int × Bool) := do
  let (whole, rest) ← digits? text
  if whole.head? == some '0' && 1 < whole.length then none
  let (fraction, rest') ← fraction? rest
  let exponent ← exponent? rest'
  let (leading, dropped) := gather 0 whole
  let (significand, droppedFraction) := gather leading fraction
  let kept := fraction.length - droppedFraction
  return (significand, exponent + dropped - kept, rest.isEmpty && dropped == 0)

/-- Reads a number that makes up the whole text. -/
def Number.ofChars? (text : List Char) : Option Number :=
  match text with
  | '-' :: rest => do
      let (significand, exponent, integer) ← unsigned? rest
      if integer && 0 < significand && significand ≤ Nat.pow 2 63 then return .negative significand
      else return .decimal significand exponent
  | _ => do
      let (significand, exponent, integer) ← unsigned? text
      if integer then return .natural significand else return .decimal significand exponent

/-- The nearest number with 53 significant bits; a tie goes to the even one. -/
def roundToDouble (value : Nat) : Nat :=
  let spare := value.log2 + 1 - 53
  let unit := Nat.pow 2 spare
  let kept := value / unit
  let lost := value % unit
  if 2 * lost < unit || (2 * lost == unit && kept % 2 == 0) then kept * unit
  else (kept + 1) * unit

/-- The first number that no longer rounds to a finite double. -/
def doubleLimit : Nat := Nat.pow 2 1024 - Nat.pow 2 970

/-- Whether a number stays finite as a double. -/
def Number.fitsDouble : Number → Bool
  | .natural _ | .negative _ => true
  | .decimal significand exponent =>
      if significand == 0 || exponent < 0 then true
      else if 308 < exponent then false
      else roundToDouble significand * roundToDouble (Nat.pow 10 exponent.toNat) < doubleLimit

end Showcase.Json
