import Showcase.Proofs.Screen.Terminal

/-!
# What a terminal reads in the pieces of a text

A sequence that sets looks is a list of numbers. A terminal reads back the numbers that were
written, and so each piece does to it what it stands for.
-/

namespace Showcase.Screen

open Showcase.Text (Color Attribute Attributes)

/-- Numbers with semicolons between them. -/
def numerals : List Nat → List Char
  | [] => []
  | [number] => Nat.toDigits 10 number
  | number :: rest => Nat.toDigits 10 number ++ ';' :: numerals rest

/-- The numbers of a colour; those for the text count from thirty, those behind it from forty. -/
def colorNumbers (ground : Nat) : Color → List Nat
  | .reset => [ground + 9]
  | .black => [ground + 8, 5, 0]
  | .red => [ground + 8, 5, 1]
  | .green => [ground + 8, 5, 2]
  | .yellow => [ground + 8, 5, 3]
  | .blue => [ground + 8, 5, 4]
  | .magenta => [ground + 8, 5, 5]
  | .cyan => [ground + 8, 5, 6]
  | .gray => [ground + 8, 5, 7]
  | .darkGray => [ground + 8, 5, 8]
  | .lightRed => [ground + 8, 5, 9]
  | .lightGreen => [ground + 8, 5, 10]
  | .lightYellow => [ground + 8, 5, 11]
  | .lightBlue => [ground + 8, 5, 12]
  | .lightMagenta => [ground + 8, 5, 13]
  | .lightCyan => [ground + 8, 5, 14]
  | .white => [ground + 8, 5, 15]
  | .indexed index => [ground + 8, 5, index.toNat]
  | .rgb red green blue => [ground + 8, 2, red.toNat, green.toNat, blue.toNat]

def attributeNumber : Attribute → Nat
  | .bold => 1
  | .dim => 2
  | .italic => 3
  | .underlined => 4
  | .slowBlink => 5
  | .rapidBlink => 6
  | .reversed => 7
  | .hidden => 8
  | .crossedOut => 9

/-- The numbers of a piece that sets looks. -/
def Piece.numbers : Piece → List Nat
  | .reset => [0]
  | .foreground color => colorNumbers 30 color
  | .background color => colorNumbers 40 color
  | .mark added => [attributeNumber added]
  | .symbol _ => []

theorem toList_sequence (code : String) :
    (sequence code).toList = '\x1b' :: '[' :: (code.toList ++ ['m']) := by
  simp [sequence]

theorem numerals_cons_cons (first second : Nat) (rest : List Nat) :
    numerals (first :: second :: rest) =
      Nat.toDigits 10 first ++ ';' :: numerals (second :: rest) := rfl

theorem toList_foreground (color : Color) :
    ("3" ++ colorCode color).toList = numerals (colorNumbers 30 color) := by
  have eight : Nat.toDigits 10 38 = ['3', '8'] := by decide
  cases color with
  | indexed index =>
      have five : Nat.toDigits 10 5 = ['5'] := by decide
      simp [colorCode, colorNumbers, numerals, eight, five]
  | rgb red green blue =>
      have two : Nat.toDigits 10 2 = ['2'] := by decide
      simp [colorCode, colorNumbers, numerals, eight, two]
  | _ => decide

theorem toList_background (color : Color) :
    ("4" ++ colorCode color).toList = numerals (colorNumbers 40 color) := by
  have eight : Nat.toDigits 10 48 = ['4', '8'] := by decide
  cases color with
  | indexed index =>
      have five : Nat.toDigits 10 5 = ['5'] := by decide
      simp [colorCode, colorNumbers, numerals, eight, five]
  | rgb red green blue =>
      have two : Nat.toDigits 10 2 = ['2'] := by decide
      simp [colorCode, colorNumbers, numerals, eight, two]
  | _ => decide

/-- A piece that sets looks is written as the sequence of its numbers. -/
theorem toList_text {piece : Piece} (sets : ∀ text, piece ≠ .symbol text) :
    piece.text.toList = '\x1b' :: '[' :: (numerals piece.numbers ++ ['m']) := by
  cases piece with
  | reset => decide
  | foreground color => rw [Piece.text, toList_sequence, toList_foreground]; rfl
  | background color => rw [Piece.text, toList_sequence, toList_background]; rfl
  | mark added => cases added <;> decide
  | symbol text => exact absurd rfl (sets text)

theorem toList_piecesText (pieces : List Piece) :
    (piecesText pieces).toList = pieces.flatMap fun piece => piece.text.toList := by
  rw [piecesText, String.toList_join, List.flatMap_map]

theorem has_insert (set : Attributes) (added mark : Attribute) :
    (set.insert added).has mark = (set.has mark || added == mark) := by
  have single : (1#9 <<< added.index).getLsbD mark.index = (added == mark) := by
    cases added <;> cases mark <;> decide
  rw [Attributes.insert, Attributes.has, BitVec.getLsbD_or, single]
  rfl

theorem has_foldl_insert (set : Attributes) (added : List Attribute) (mark : Attribute) :
    (added.foldl Attributes.insert set).has mark = (set.has mark || added.contains mark) := by
  induction added generalizing set with
  | nil => simp
  | cons first rest ih =>
      rw [List.foldl_cons, ih, has_insert, List.contains_cons, Bool.or_assoc, Bool.beq_comm]

/-- Adding all attributes of a set to none gives the set. -/
theorem foldl_insert_toList (set : Attributes) :
    set.toList.foldl Attributes.insert .empty = set := by
  apply Attributes.ext_has
  intro mark
  rw [has_foldl_insert, Attributes.has_empty, Bool.false_or, Attributes.toList, Bool.eq_iff_iff,
    List.contains_iff_mem, List.mem_filter]
  exact and_iff_right (Attribute.mem_all mark)

theorem foldl_mark (paint : Paint) (marks : List Attribute) :
    marks.foldl Paint.mark paint =
      { paint with attributes := marks.foldl Attributes.insert paint.attributes } := by
  induction marks generalizing paint with
  | nil => rfl
  | cons mark rest ih => exact ih (paint.mark mark)

/-! ## Reading numbers -/

namespace Terminal

variable {terminal : Terminal} {asked : Bool} {numbers : List Nat} {number : Nat}

theorem foldl_digits {digits : List Char} (each : ∀ c ∈ digits, c.isDigit = true) :
    digits.foldl step { terminal with parser := .sequence asked numbers number } =
      { terminal with parser := .sequence asked numbers (Nat.ofDigitChars 10 digits number) } := by
  induction digits generalizing number with
  | nil => rw [Nat.ofDigitChars_nil]; rfl
  | cons c rest ih =>
      have digit := each c List.mem_cons_self
      rw [List.foldl_cons, Nat.ofDigitChars_cons, step]
      simp only [digit, if_true]
      exact ih fun other member => each other (List.mem_cons_of_mem _ member)

/-- A terminal reads the number that was written. -/
theorem foldl_toDigits (read : Nat) :
    (Nat.toDigits 10 read).foldl step { terminal with parser := .sequence asked numbers 0 } =
      { terminal with parser := .sequence asked numbers read } := by
  rw [foldl_digits fun c member => Nat.isDigit_of_mem_toDigits (by decide) (by decide) member,
    Nat.ofDigitChars_ten_toDigits]

theorem foldl_numerals (terminal : Terminal) (numbers : List Nat) {read : List Nat}
    (some : read ≠ []) :
    (numerals read ++ ['m']).foldl step { terminal with parser := .sequence false numbers 0 } =
      { terminal with paint := terminal.paint.set (numbers ++ read), parser := .ground } := by
  induction read generalizing numbers with
  | nil => exact absurd rfl some
  | cons first rest ih =>
      cases rest with
      | nil =>
          rw [numerals, List.foldl_append, foldl_toDigits]
          rfl
      | cons second rest =>
          rw [numerals_cons_cons, List.append_assoc, List.foldl_append, foldl_toDigits]
          have later := ih (numbers ++ [first]) (by simp)
          rw [List.append_assoc, List.singleton_append] at later
          exact later

theorem feed_sets {piece : Piece} (ground : terminal.parser = .ground)
    (sets : ∀ text, piece ≠ .symbol text) :
    terminal.feed piece.text = { terminal with paint := terminal.paint.set piece.numbers } := by
  have some : piece.numbers ≠ [] := by
    cases piece with
    | symbol text => exact absurd rfl (sets text)
    | foreground color | background color => cases color <;> simp [Piece.numbers, colorNumbers]
    | _ => simp [Piece.numbers]
  have opened : ['\x1b', '['].foldl step terminal =
      { terminal with parser := .sequence false [] 0 } := by
    simp [step, ground]
  rw [feed, toList_text sets]
  have read := foldl_numerals terminal [] some
  rw [← opened, ← List.foldl_append, List.nil_append] at read
  rw [ground]
  exact read

/-! ## Setting looks -/

theorem set_foreground (paint : Paint) (color : Color) :
    paint.set (colorNumbers 30 color) = { paint with foreground := shadeOf color } := by
  cases color <;> rfl

theorem set_background (paint : Paint) (color : Color) :
    paint.set (colorNumbers 40 color) = { paint with background := shadeOf color } := by
  cases color <;> rfl

theorem set_mark (paint : Paint) (mark : Attribute) :
    paint.set [attributeNumber mark] = paint.mark mark := by
  cases mark <;> rfl

theorem feed_foreground (ground : terminal.parser = .ground) (color : Color) :
    terminal.feed (Piece.foreground color).text =
      { terminal with paint := { terminal.paint with foreground := shadeOf color } } := by
  rw [feed_sets ground (fun _ => by simp), Piece.numbers, set_foreground]

theorem feed_background (ground : terminal.parser = .ground) (color : Color) :
    terminal.feed (Piece.background color).text =
      { terminal with paint := { terminal.paint with background := shadeOf color } } := by
  rw [feed_sets ground (fun _ => by simp), Piece.numbers, set_background]

theorem feed_reset (ground : terminal.parser = .ground) :
    terminal.feed Piece.reset.text = { terminal with paint := .plain } := by
  rw [feed_sets ground (fun _ => by simp)]
  rfl

theorem feed_mark (ground : terminal.parser = .ground) (mark : Attribute) :
    terminal.feed (Piece.mark mark).text = { terminal with paint := terminal.paint.mark mark } := by
  rw [feed_sets ground (fun _ => by simp), Piece.numbers, set_mark]

/-- Takes some pieces, one after the other. -/
def feedAll (terminal : Terminal) (pieces : List Piece) : Terminal :=
  terminal.feed (piecesText pieces)

theorem feedAll_nil (terminal : Terminal) : terminal.feedAll [] = terminal := rfl

theorem feedAll_cons (terminal : Terminal) (piece : Piece) (pieces : List Piece) :
    terminal.feedAll (piece :: pieces) = (terminal.feed piece.text).feedAll pieces := by
  rw [feedAll, feedAll, piecesText, List.map_cons, String.join_cons, feed_append]
  rfl

theorem feedAll_append (terminal : Terminal) (first second : List Piece) :
    terminal.feedAll (first ++ second) = (terminal.feedAll first).feedAll second := by
  induction first generalizing terminal with
  | nil => rfl
  | cons piece rest ih => rw [List.cons_append, feedAll_cons, feedAll_cons, ih]

theorem feedAll_marks (ground : terminal.parser = .ground) (marks : List Attribute) :
    terminal.feedAll (marks.map .mark) =
      { terminal with paint := marks.foldl Paint.mark terminal.paint } := by
  induction marks generalizing terminal with
  | nil => rfl
  | cons mark rest ih =>
      rw [List.map_cons, feedAll_cons, feed_mark ground]
      exact ih ground

theorem feedAll_foreground (ground : terminal.parser = .ground)
    (standard : terminal.paint.foreground = .standard) (color : Color) :
    terminal.feedAll (if color == .reset then [] else [.foreground color]) =
      { terminal with paint := { terminal.paint with foreground := shadeOf color } } := by
  by_cases unset : color = .reset
  · subst unset
    rw [shadeOf, ← standard]
    rfl
  · rw [if_neg (by simpa using unset), feedAll_cons, feed_foreground ground]
    rfl

theorem feedAll_background (ground : terminal.parser = .ground)
    (standard : terminal.paint.background = .standard) (color : Color) :
    terminal.feedAll (if color == .reset then [] else [.background color]) =
      { terminal with paint := { terminal.paint with background := shadeOf color } } := by
  by_cases unset : color = .reset
  · subst unset
    rw [shadeOf, ← standard]
    rfl
  · rw [if_neg (by simpa using unset), feedAll_cons, feed_background ground]
    rfl

/-- A change of looks brings a terminal from any looks to the new ones. -/
theorem feedAll_look (ground : terminal.parser = .ground) (look : Look) :
    terminal.feedAll look.pieces = { terminal with paint := look.paint } := by
  rw [Look.pieces, feedAll_cons, feed_reset ground, feedAll_append, feedAll_append,
    feedAll_foreground (by exact ground) rfl, feedAll_background (by exact ground) rfl,
    feedAll_marks (by exact ground), foldl_mark]
  simp only [Paint.plain, foldl_insert_toList]
  rfl

/-- Looks are set where they change. -/
theorem feedAll_change {current : Look} (ground : terminal.parser = .ground)
    (painted : terminal.paint = current.paint) (look : Look) :
    terminal.feedAll (if look == current then [] else look.pieces) =
      { terminal with paint := look.paint } := by
  split
  · rename_i same
    rw [beq_iff_eq.mp same, ← painted]
    rfl
  · exact feedAll_look ground look

/-- At the end of a row no looks are left. -/
theorem feedAll_end {current : Look} (ground : terminal.parser = .ground)
    (painted : terminal.paint = current.paint) :
    terminal.feedAll (if current == .plain then [] else [.reset]) =
      { terminal with paint := .plain } := by
  split
  · rename_i plain
    rw [beq_iff_eq.mp plain] at painted
    rw [feedAll_nil, show Paint.plain = terminal.paint from painted.symm]
  · exact feed_reset ground

end Terminal

end Showcase.Screen
