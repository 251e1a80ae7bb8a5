/-!
# Colours and styles

A style says what to change of a cell: its colours if they are set, and which attributes to add.
-/

namespace Showcase.Text

inductive Color where
  | reset
  | black
  | red
  | green
  | yellow
  | blue
  | magenta
  | cyan
  | gray
  | darkGray
  | lightRed
  | lightGreen
  | lightYellow
  | lightBlue
  | lightMagenta
  | lightCyan
  | white
  | indexed (index : UInt8)
  | rgb (red green blue : UInt8)
  deriving DecidableEq, Inhabited

/-- The colours with a name. -/
def Color.named : List (String × Color) := [("reset", reset), ("black", black), ("red", red),
  ("green", green), ("yellow", yellow), ("blue", blue), ("magenta", magenta), ("cyan", cyan),
  ("gray", gray), ("darkgray", darkGray), ("lightred", lightRed), ("lightgreen", lightGreen),
  ("lightyellow", lightYellow), ("lightblue", lightBlue), ("lightmagenta", lightMagenta),
  ("lightcyan", lightCyan), ("white", white)]

inductive Attribute where
  | bold
  | dim
  | italic
  | underlined
  | slowBlink
  | rapidBlink
  | reversed
  | hidden
  | crossedOut
  deriving DecidableEq

namespace Attribute

def all : List Attribute :=
  [bold, dim, italic, underlined, slowBlink, rapidBlink, reversed, hidden, crossedOut]

def name : Attribute → String
  | bold => "bold"
  | dim => "dim"
  | italic => "italic"
  | underlined => "underlined"
  | slowBlink => "slow_blink"
  | rapidBlink => "rapid_blink"
  | reversed => "reversed"
  | hidden => "hidden"
  | crossedOut => "crossed_out"

theorem mem_all (mark : Attribute) : mark ∈ all := by
  cases mark <;> decide

def index : Attribute → Nat
  | bold => 0
  | dim => 1
  | italic => 2
  | underlined => 3
  | slowBlink => 4
  | rapidBlink => 5
  | reversed => 6
  | hidden => 7
  | crossedOut => 8

end Attribute

/-- A set of attributes. -/
structure Attributes where
  bits : BitVec 9
  deriving DecidableEq, Inhabited

namespace Attributes

def empty : Attributes := ⟨0⟩

def has (set : Attributes) (mark : Attribute) : Bool := set.bits.getLsbD mark.index

def union (first second : Attributes) : Attributes := ⟨first.bits ||| second.bits⟩

def insert (set : Attributes) (mark : Attribute) : Attributes :=
  ⟨set.bits ||| (1#9 <<< mark.index)⟩

def ofList (attributes : List Attribute) : Attributes := attributes.foldl Attributes.insert empty

def toList (set : Attributes) : List Attribute := Attribute.all.filter set.has

theorem has_empty (mark : Attribute) : empty.has mark = false := by
  simp [empty, has]

theorem ext_has {first second : Attributes}
    (same : ∀ mark, first.has mark = second.has mark) : first = second := by
  obtain ⟨first⟩ := first
  obtain ⟨second⟩ := second
  congr 1
  apply BitVec.eq_of_getLsbD_eq
  intro index bound
  match index, bound with
  | 0, _ => exact same .bold
  | 1, _ => exact same .dim
  | 2, _ => exact same .italic
  | 3, _ => exact same .underlined
  | 4, _ => exact same .slowBlink
  | 5, _ => exact same .rapidBlink
  | 6, _ => exact same .reversed
  | 7, _ => exact same .hidden
  | 8, _ => exact same .crossedOut

end Attributes

structure Style where
  foreground : Option Color := none
  background : Option Color := none
  attributes : Attributes := .empty
  deriving DecidableEq, Inhabited

namespace Style

def plain : Style := {}

def fg (style : Style) (color : Color) : Style := { style with foreground := some color }

def bg (style : Style) (color : Color) : Style := { style with background := some color }

def adding (style : Style) (mark : Attribute) : Style :=
  { style with attributes := style.attributes.insert mark }

/-- The second style on top of the first one. -/
def patch (base upper : Style) : Style where
  foreground := upper.foreground <|> base.foreground
  background := upper.background <|> base.background
  attributes := base.attributes.union upper.attributes

end Style

end Showcase.Text
