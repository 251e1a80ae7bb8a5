import Showcase.Text.Columns
import Showcase.Text.Table.Emoji
import Showcase.Text.Table.Joining

/-!
# Columns of a text

The columns of a text are read from its end. Each character adds its own columns unless it forms
a ligature with what follows: a line break, an emoji sequence, or one of the ligatures of a script.
`Following` is what the scan knows of the text to the right, and `widen` is one step of it.
-/

namespace Showcase.Text

/-- What stands to the right of the next character. -/
inductive Shape where
  | plain
  | lineFeed
  | skinTone
  | flagHalf
  | flagHalves
  | picture
  | joinedPicture
  | joinedKeycap
  | joinedFlagHalf
  | joinedFlagEven
  | joinedFlagOdd
  | joinedTagEnd
  | joinedTagLetters (count : Nat)
  | joinedTagDigits (count : Nat)
  | rightQuoteSelector
  | arabicAlef
  | hebrewLamed
  | buginesYa
  | buginesVowelYa
  | tifinaghConsonant
  | tifinaghJoined
  | lisuTone
  | oldTurkicI
  | khmerLetter
  | kiratVowelE
  | kiratVowelAi
  deriving DecidableEq

/-- The shape of the text to the right, and which selectors and joiners stand before it. -/
structure Following where
  shape : Shape := .plain
  joiner : Bool := false
  textSelector : Bool := false
  pictureSelector : Bool := false
  deriving DecidableEq

namespace Shape

/-- A letter whose ligature marks and selectors do not break. -/
def keepsSelectors : Shape → Bool
  | arabicAlef | hebrewLamed | buginesYa | buginesVowelYa | tifinaghConsonant | tifinaghJoined
  | lisuTone | oldTurkicI | khmerLetter | kiratVowelE | kiratVowelAi => true
  | _ => false

/-- A letter whose ligature invisible marks and joiners do not break. -/
def keepsJoiners : Shape → Bool
  | arabicAlef => false
  | shape => shape.keepsSelectors

end Shape

namespace Following

def of (shape : Shape) : Following := { shape }

def selectPicture (next : Following) : Following :=
  if next.shape.keepsSelectors then { next with pictureSelector := true }
  else match next.shape with
    | .joinedPicture | .joinedKeycap => { next with pictureSelector := true }
    | _ => { pictureSelector := true }

def dropPicture (next : Following) : Following :=
  if next.shape.keepsSelectors then { next with pictureSelector := false } else {}

def selectText (next : Following) : Following :=
  if next.shape.keepsSelectors then { next with textSelector := true }
  else { textSelector := true }

def dropText (next : Following) : Following :=
  if next.shape.keepsSelectors then { next with textSelector := false } else {}

end Following

def isFlagHalf (c : Char) : Bool := 0x1F1E6 ≤ c.toNat && c.toNat ≤ 0x1F1FF
def isSkinTone (c : Char) : Bool := 0x1F3FB ≤ c.toNat && c.toNat ≤ 0x1F3FF
def isTagDigit (c : Char) : Bool := 0xE0030 ≤ c.toNat && c.toNat ≤ 0xE0039
def isTagLetter (c : Char) : Bool := 0xE0061 ≤ c.toNat && c.toNat ≤ 0xE007A
def isPicture (c : Char) : Bool := Emoji.pictureByDefault.contains c.toNat
def startsPicture (c : Char) : Bool := Emoji.variationBase.contains c.toNat
def startsTextVariant (c : Char) : Bool := Emoji.textVariationBase.contains c.toNat
def takesSkinTone (c : Char) : Bool := Emoji.modifierBase.contains c.toNat

/-- Invisible marks that stand inside a ligature without breaking it. -/
def isInvisibleMark (c : Char) : Bool :=
  let code := c.toNat
  code == 0x34F || (0x17B4 ≤ code && code ≤ 0x17B5) || (0x180B ≤ code && code ≤ 0x180D)
    || code == 0x180F || code == 0x200D || (0xFE00 ≤ code && code ≤ 0xFE0F)
    || (0xE0100 ≤ code && code ≤ 0xE01EF)

def isTransparentMark (c : Char) : Bool :=
  Columns.zeroWidth.contains c.toNat && !Joining.opaqueMark.contains c.toNat

def isArabicLam (c : Char) : Bool :=
  let code := c.toNat
  code == 0x644 || (0x6B5 ≤ code && code ≤ 0x6B8) || code == 0x76A || code == 0x8A6
    || code == 0x8C7

def isArabicAlef (c : Char) : Bool :=
  let code := c.toNat
  (0x622 ≤ code && code ≤ 0x623) || code == 0x625 || code == 0x627
    || (0x671 ≤ code && code ≤ 0x673) || code == 0x675 || (0x773 ≤ code && code ≤ 0x774)
    || (0x870 ≤ code && code ≤ 0x882)

def isTifinaghConsonant (c : Char) : Bool :=
  (0x2D31 ≤ c.toNat && c.toNat ≤ 0x2D65) || c.toNat == 0x2D6F

/-- Letters that have a form written below another one. -/
def isKhmerLetter (c : Char) : Bool :=
  let code := c.toNat
  (0x1780 ≤ code && code ≤ 0x1782) || (0x1784 ≤ code && code ≤ 0x1787)
    || (0x1789 ≤ code && code ≤ 0x178C) || (0x178E ≤ code && code ≤ 0x1793)
    || (0x1795 ≤ code && code ≤ 0x1798) || (0x179B ≤ code && code ≤ 0x179D)
    || code == 0x17A0 || code == 0x17A2 || code == 0x17A7
    || (0x17AB ≤ code && code ≤ 0x17AC) || code == 0x17AF

/-- The shape a character has for the one before it. -/
def shapeOf (c : Char) : Following :=
  let code := c.toNat
  if code < 0x5DC then {}
  else if code == 0xFE0E then { textSelector := true }
  else if code == 0xFE0F then { pictureSelector := true }
  else .of <|
    if code == 0xFE01 then .rightQuoteSelector
    else if code == 0x5DC then .hebrewLamed
    else if isArabicAlef c then .arabicAlef
    else if isKhmerLetter c then .khmerLetter
    else if code == 0x1A10 then .buginesYa
    else if isTifinaghConsonant c then .tifinaghConsonant
    else if code == 0xA4FC || code == 0xA4FD then .lisuTone
    else if code == 0x10C03 then .oldTurkicI
    else if code == 0x16D67 then .kiratVowelE
    else if code == 0x16D68 then .kiratVowelAi
    else if isFlagHalf c then .flagHalf
    else if isSkinTone c then .skinTone
    else if isPicture c then .picture
    else .plain

/-- The columns that a character adds to what follows it, where it forms a ligature with it. -/
def ligature (c : Char) (next : Following) : Option (Int × Following) :=
  let code := c.toNat
  let give (change : Int) (shape : Shape) : Option (Int × Following) := some (change, .of shape)
  match next.shape with
  | .arabicAlef =>
      if isArabicLam c then give 0 .plain
      else if isTransparentMark c then give 0 .arabicAlef
      else none
  | .hebrewLamed => if next.joiner && code == 0x5D0 then give 0 .plain else none
  | .khmerLetter => if code == 0x17D2 then give (-1) .plain else none
  | .buginesYa => if next.joiner && code == 0x1A17 then give 0 .buginesVowelYa else none
  | .buginesVowelYa => if code == 0x1A15 then give 0 .plain else none
  | .tifinaghConsonant =>
      if code == 0x2D7F then give 1 .tifinaghJoined
      else if next.joiner && isTifinaghConsonant c then give 0 .plain
      else none
  | .tifinaghJoined => if isTifinaghConsonant c then give (-1) .plain else none
  | .lisuTone => if 0xA4F8 ≤ code && code ≤ 0xA4FB then give 0 .plain else none
  | .oldTurkicI => if next.joiner && code == 0x10C32 then give 0 .plain else none
  | .skinTone =>
      if takesSkinTone c then give 0 .picture
      else if code == 0x200D then give 0 .joinedPicture
      else none
  | .flagHalf => if isFlagHalf c then give 1 .flagHalves else none
  | .flagHalves =>
      if isFlagHalf c then give 1 .flagHalves
      else if code == 0x200D then give 0 .joinedPicture
      else none
  | .picture => if code == 0x200D then give 0 .joinedPicture else none
  | .joinedPicture =>
      if code == 0x20E3 then give 0 .joinedKeycap
      else if isFlagHalf c then give 1 .joinedFlagHalf
      else if isSkinTone c then give 0 .skinTone
      else if code == 0xE007F then give 0 .joinedTagEnd
      else if isPicture c then give 0 .picture
      else none
  | .joinedFlagHalf => if isFlagHalf c then give (-1) .joinedFlagEven else none
  | .joinedFlagOdd =>
      if isFlagHalf c then give (-1) .joinedFlagEven
      else if code == 0x200D then give 0 .joinedPicture
      else none
  | .joinedFlagEven =>
      if isFlagHalf c then give 3 .joinedFlagOdd
      else if code == 0x200D then give 0 .joinedPicture
      else none
  | .joinedTagEnd =>
      if isTagLetter c then give 0 (.joinedTagLetters 1)
      else if isTagDigit c then give 0 (.joinedTagDigits 1)
      else none
  | .joinedTagLetters count =>
      if isTagLetter c && count < 6 then give 0 (.joinedTagLetters (count + 1))
      else if isTagDigit c && count < 5 then give 0 (.joinedTagDigits 1)
      else if code == 0x1F3F4 && 3 ≤ count then give 0 .picture
      else none
  | .joinedTagDigits count =>
      if isTagDigit c && count < 3 then give 0 (.joinedTagDigits (count + 1))
      else if code == 0x1F3F4 && 3 ≤ count then give 0 .picture
      else none
  | .rightQuoteSelector =>
      if code == 0x2018 || code == 0x2019 || code == 0x201C || code == 0x201D then give 2 .plain
      else none
  | .kiratVowelE =>
      if code == 0x16D63 || code == 0x16D69 then give 0 .plain
      else if code == 0x16D67 then give 0 .kiratVowelAi
      else if code == 0x16D68 then give 1 .kiratVowelE
      else none
  | .kiratVowelAi => if code == 0x16D63 then give 0 .plain else none
  | .joinedKeycap | .plain | .lineFeed => none

/-- A character that forms no ligature. -/
def alone (c : Char) : Int × Following := (printableColumns c, shapeOf c)

/-- One step of the scan: the columns that a character adds, and what it leaves for the character
before it. -/
def widen (c : Char) (next : Following) : Int × Following :=
  if next.pictureSelector && startsPicture c then
    (if next.shape == .joinedPicture || next.shape == .joinedKeycap then 0 else 2, .of .picture)
  else
    let next := if next.pictureSelector then next.dropPicture else next
    if c.toNat ≤ 0xA0 then
      if c == '\n' then (1, .of .lineFeed)
      else if c == '\r' && next.shape == .lineFeed then (0, {})
      else (1, {})
    else if next == {} then alone c
    else if c.toNat == 0xFE0F then (0, next.selectPicture)
    else if c.toNat == 0xFE0E then (0, next.selectText)
    else if next.textSelector && startsTextVariant c then (1, {})
    else
      let next := if next.textSelector then next.dropText else next
      if next.shape.keepsJoiners && c.toNat == 0x200D then (0, { next with joiner := true })
      else if next.shape.keepsJoiners && isInvisibleMark c then (0, next)
      else (ligature c next).getD (alone c)

/-- The columns of a text and what it leaves for text before it. -/
def scan : List Char → Int × Following
  | [] => (0, {})
  | c :: rest =>
      let right := scan rest
      let here := widen c right.2
      (right.1 + here.1, here.2)

/-- The columns of a text; a control character counts as one, a carriage return with its line feed
as one. -/
def measure (text : List Char) : Nat := (scan text).1.toNat

/-- The columns of a string. -/
def width (text : String) : Nat := measure text.toList

end Showcase.Text
