import Mathlib.Data.List.DropRight
import Showcase.Proofs.Screen.Sequences
import Showcase.Text.Measure

/-!
# Buffers on a terminal

A terminal that takes the text of a buffer shows the buffer: every cell that no wide character
covers shows its character in its looks, and blank cells may be left untouched.
-/

namespace Showcase

open Showcase.Screen

/-! ## The columns of one character -/

theorem Text.width_singleton {c : Char} (printable : Text.isControl c = false) :
    Text.width (String.singleton c) = Text.columns c := by
  have scanned : Text.scan [c] = (0 + (Text.widen c {}).1, (Text.widen c {}).2) := rfl
  rw [Text.width, String.toList_singleton, Text.measure, scanned, Int.zero_add]
  have feed : c ≠ '\n' := by
    rintro rfl
    simp [Text.isControl] at printable
  by_cases low : c.toNat ≤ 0xA0
  · by_cases below : c.toNat < 0xA0
    · simp [Text.widen, low, feed, Text.columns, printable, Text.printableColumns, below]
    · have nbsp : c = '\u00a0' := Char.toNat_inj.mp (by simp; omega)
      subst nbsp
      decide
  · simp [Text.widen, low, Text.alone, Text.columns, printable]

namespace Screen

/-! ## Which cells show -/

/-- The cells of a row, each at its place, without those that a symbol to their left covers. -/
def shown : Nat → List Cell → List (Option Cell)
  | _, [] => []
  | 0, cell :: rest => some cell :: shown (Text.width cell.symbol - 1) rest
  | more + 1, _ :: rest => none :: shown more rest

/-- How many cells after a row the symbols in it cover. -/
def overhang : Nat → List Cell → Nat
  | covered, [] => covered
  | 0, cell :: rest => overhang (Text.width cell.symbol - 1) rest
  | more + 1, _ :: rest => overhang more rest

/-- Every cell that shows holds one character of one or two columns, and none goes over the end
of the row. What the covered cells hold does not matter. -/
inductive Printable : Nat → List Cell → Prop where
  | nil : Printable 0 []
  | covered {more : Nat} {cell : Cell} {rest : List Cell} (further : Printable more rest) :
      Printable (more + 1) (cell :: rest)
  | shown {cell : Cell} {rest : List Cell} {c : Char} (holds : cell.symbol = String.singleton c)
      (printable : Text.isControl c = false) (columns : Text.columns c = 1 ∨ Text.columns c = 2)
      (further : Printable (Text.columns c - 1) rest) : Printable 0 (cell :: rest)

variable {first second cells : List Cell} {covered index : Nat} {cell : Cell}

theorem shown_append (covered : Nat) (first second : List Cell) :
    shown covered (first ++ second) =
      shown covered first ++ shown (overhang covered first) second := by
  induction first generalizing covered with
  | nil => rfl
  | cons cell rest ih =>
      cases covered with
      | zero => simp only [List.cons_append, shown, overhang, ih]
      | succ more => simp only [List.cons_append, shown, overhang, ih]

theorem length_shown (covered : Nat) (cells : List Cell) :
    (shown covered cells).length = cells.length := by
  induction cells generalizing covered with
  | nil => cases covered <;> rfl
  | cons cell rest ih => cases covered <;> simp [shown, ih]

theorem getElem?_of_shown (found : (shown covered cells)[index]? = some (some cell)) :
    covered ≤ index ∧ cells[index]? = some cell := by
  induction cells generalizing covered index with
  | nil => cases covered <;> cases found
  | cons first rest ih =>
      cases index with
      | zero =>
          cases covered with
          | zero => exact ⟨Nat.le_refl 0, by simpa [shown] using found⟩
          | succ more => simp [shown] at found
      | succ index =>
          cases covered with
          | zero => exact ⟨Nat.zero_le _, (ih found).2⟩
          | succ more => exact ⟨Nat.succ_le_succ (ih found).1, (ih found).2⟩

theorem covered_le (covered : Nat) (cells : List Cell) :
    covered ≤ cells.length + overhang covered cells := by
  induction cells generalizing covered with
  | nil => exact Nat.le_add_left _ _
  | cons cell rest ih =>
      cases covered with
      | zero => exact Nat.zero_le _
      | succ more =>
          have shorter := ih more
          simp only [List.length_cons, overhang]
          omega

theorem Printable.covered_le (printable : Printable covered cells) : covered ≤ cells.length := by
  induction printable with
  | nil => exact Nat.le_refl 0
  | covered further ih => exact Nat.succ_le_succ ih
  | shown => exact Nat.zero_le _

/-! ## One row -/

namespace Terminal

variable {terminal drawn : Terminal} {c : Char}

/-- A printable character that fits on the row is put at the cursor. -/
theorem feed_singleton (ground : terminal.parser = .ground) (printable : Text.isControl c = false)
    (positive : Text.columns c ≠ 0) (fits : terminal.column + Text.columns c ≤ terminal.width) :
    terminal.feed (String.singleton c) = terminal.put c (Text.columns c) := by
  have plain {control : Char} (isControl : Text.isControl control = true) : c ≠ control := by
    rintro rfl
    rw [isControl] at printable
    cases printable
  rw [feed, String.toList_singleton, List.foldl_cons, List.foldl_nil, step]
  simp only [ground]
  rw [if_neg (plain (by decide)), if_neg (plain (by decide)), if_neg (plain (by decide)), printable]
  simp [print, positive, fits]

theorem put_spots_self {width : Nat} :
    (terminal.put c width).spots terminal.row terminal.column = .glyph c terminal.paint := by
  simp [put]

theorem put_spots_row {width row column : Nat} (other : row ≠ terminal.row) :
    (terminal.put c width).spots row column = terminal.spots row column := by
  simp [put, other]

theorem put_spots_left {width row column : Nat} (before : column < terminal.column) :
    (terminal.put c width).spots row column = terminal.spots row column := by
  simp [put, Nat.ne_of_lt before, Nat.not_lt_of_lt before]

theorem put_spots_right {width row column : Nat} (positive : 0 < width)
    (after : terminal.column + width ≤ column) :
    (terminal.put c width).spots row column = terminal.spots row column := by
  have differ : column ≠ terminal.column := by omega
  simp [put, differ, Nat.not_lt_of_le after]

/-- Some cells were drawn from a column on; the first ones are covered from before. -/
structure Drawn (terminal drawn : Terminal) (start covered : Nat) (cells : List Cell) : Prop where
  drawn_eq : drawn =
    { terminal with spots := drawn.spots, column := drawn.column, paint := .plain }
  rows : ∀ row column, row ≠ terminal.row → drawn.spots row column = terminal.spots row column
  left : ∀ column, column < start + covered →
    drawn.spots terminal.row column = terminal.spots terminal.row column
  right : ∀ column, start + cells.length + overhang covered cells ≤ column →
    drawn.spots terminal.row column = terminal.spots terminal.row column
  cells : ∀ index cell, (shown covered cells)[index]? = some (some cell) →
    ∃ c, cell.symbol = String.singleton c ∧
      drawn.spots terminal.row (start + index) = .glyph c cell.look.paint

theorem Drawn.under {start more : Nat} (cell : Cell)
    (drew : Drawn terminal drawn (start + 1) more cells) :
    Drawn terminal drawn start (more + 1) (cell :: cells) where
  drawn_eq := drew.drawn_eq
  rows := drew.rows
  left := fun column before => drew.left column (by omega)
  right := fun column after => drew.right column (by
    simp only [List.length_cons, overhang] at after
    omega)
  cells := fun index cell found => by
    cases index with
    | zero => cases found
    | succ index =>
        obtain ⟨c, holds, glyph⟩ := drew.cells index cell found
        exact ⟨c, holds, by rw [← glyph, Nat.add_right_comm, Nat.add_assoc]⟩

/-- A character is printed, and then the cells after it. -/
theorem Drawn.print {start : Nat} (holds : cell.symbol = String.singleton c)
    (single : Text.isControl c = false) (positive : 0 < Text.columns c)
    (column_eq : terminal.column = start)
    (drew : Drawn ({ terminal with paint := cell.look.paint }.put c (Text.columns c)) drawn
      (start + 1) (Text.columns c - 1) cells) :
    Drawn terminal drawn start 0 (cell :: cells) := by
  have width_eq : Text.width cell.symbol - 1 = Text.columns c - 1 := by
    rw [holds, Text.width_singleton single]
  have reach := Screen.covered_le (Text.columns c - 1) cells
  have overhang_eq : overhang 0 (cell :: cells) = overhang (Text.columns c - 1) cells := by
    rw [overhang, width_eq]
  subst column_eq
  obtain ⟨drawn_eq, rows, left, right, glyphs⟩ := drew
  constructor
  · exact drawn_eq
  · intro row column other
    exact (rows row column other).trans (put_spots_row other)
  · intro column before
    exact (left column (by omega)).trans (put_spots_left before)
  · intro column after
    rw [overhang_eq, List.length_cons] at after
    have behind : terminal.column + Text.columns c ≤ column := by omega
    exact (right column (by omega)).trans (put_spots_right positive behind)
  · intro index other found
    cases index with
    | zero =>
        obtain rfl : cell = other := by simpa [shown] using found
        refine ⟨c, holds, ?_⟩
        exact (left terminal.column (by omega)).trans put_spots_self
    | succ index =>
        rw [shown, List.getElem?_cons_succ, width_eq] at found
        obtain ⟨c, holds, glyph⟩ := glyphs index other found
        have same : terminal.column + (index + 1) = terminal.column + 1 + index := by omega
        exact ⟨c, holds, same ▸ glyph⟩

theorem drawn_cellPieces {start : Nat} {current : Look} (rest : List Cell)
    (printable : Printable covered (cells ++ rest)) (ground : terminal.parser = .ground)
    (painted : terminal.paint = current.paint) (column_eq : terminal.column = start + covered)
    (fits : start + (cells ++ rest).length ≤ terminal.width) :
    Drawn terminal (terminal.feedAll (cellPieces current covered cells)) start covered cells := by
  induction cells generalizing terminal start covered current with
  | nil =>
      have drawn_eq : terminal.feedAll (cellPieces current covered []) =
          { terminal with paint := .plain } := by
        rw [cellPieces]
        exact feedAll_end ground painted
      rw [drawn_eq]
      exact ⟨rfl, fun _ _ _ => rfl, fun _ _ => rfl, fun _ _ => rfl,
        fun index cell found => by cases covered <;> cases found⟩
  | cons cell further ih =>
      rw [List.cons_append] at printable
      cases printable with
      | @covered more _ _ printable =>
          have column_eq : terminal.column = (start + 1) + more := by rw [column_eq]; omega
          have fits : (start + 1) + (further ++ rest).length ≤ terminal.width := by
            rw [List.cons_append, List.length_cons] at fits
            omega
          have drew : Drawn terminal (terminal.feedAll (cellPieces current more further))
              (start + 1) more further := ih printable ground painted column_eq fits
          exact drew.under cell
      | @shown _ _ c holds single columns printable =>
          have positive : 0 < Text.columns c := by omega
          have room := printable.covered_le
          rw [List.cons_append, List.length_cons] at fits
          have column_eq : terminal.column = start := column_eq
          have written : Terminal.feed { terminal with paint := cell.look.paint } cell.symbol =
              { terminal with paint := cell.look.paint }.put c (Text.columns c) := by
            rw [holds]
            refine feed_singleton ground single (Nat.ne_of_gt positive) ?_
            show terminal.column + Text.columns c ≤ terminal.width
            omega
          have next_eq : terminal.column + Text.columns c = start + 1 + (Text.columns c - 1) := by
            omega
          have fits : start + 1 + (further ++ rest).length ≤ terminal.width := by omega
          rw [cellPieces, feedAll_append, feedAll_change ground painted, feedAll_cons, Piece.text,
            written, holds, Text.width_singleton single]
          exact Drawn.print holds single positive column_eq
            (ih printable (by exact ground) rfl next_eq fits)

/-- A row without the blank cells at its end, and those cells. -/
theorem exists_trimBlank (cells : List Cell) :
    ∃ tail, cells = trimBlank cells ++ tail ∧ ∀ cell ∈ tail, cell.isBlank = true :=
  ⟨cells.rtakeWhile Cell.isBlank, List.rdropWhile_append_rtakeWhile.symm,
    fun _ member => List.mem_rtakeWhile_imp member⟩

/-- What is on the screen renders a cell: its character in its looks, or nothing where the cell is
blank. -/
def Renders (spot : Spot) (cell : Cell) : Prop :=
  (∃ c, cell.symbol = String.singleton c ∧ spot = .glyph c cell.look.paint) ∨
    cell.isBlank = true ∧ spot = .untouched

/-- A row of the screen renders the cells that show. -/
def RendersRow (terminal : Terminal) (row : Nat) (cells : List Cell) : Prop :=
  ∀ column cell, (shown 0 cells)[column]? = some (some cell) →
    Renders (terminal.spots row column) cell

/-- The cursor is at the start of a row, and nothing is set. -/
structure AtStart (terminal : Terminal) : Prop where
  ground : terminal.parser = .ground
  plain : terminal.paint = .plain
  column_eq : terminal.column = 0

/-- A row was drawn on a terminal, and nothing else. -/
structure DrawnRow (terminal drawn : Terminal) (cells : List Cell) : Prop where
  drawn_eq : drawn = { terminal with spots := drawn.spots, column := drawn.column }
  renders : RendersRow drawn terminal.row cells
  others : ∀ row column, row ≠ terminal.row → drawn.spots row column = terminal.spots row column

theorem drawnRow_rowAnsi (starts : AtStart terminal)
    (untouched : ∀ column, terminal.spots terminal.row column = .untouched)
    (printable : Printable 0 cells) (fits : cells.length ≤ terminal.width) :
    DrawnRow terminal (terminal.feed (rowAnsi cells)) cells := by
  obtain ⟨ground, plain, column_eq⟩ := starts
  obtain ⟨tail, split, blank⟩ := exists_trimBlank cells
  rw [split] at printable fits
  have drew : Drawn terminal (terminal.feed (rowAnsi cells)) 0 0 (trimBlank cells) :=
    drawn_cellPieces tail printable ground plain column_eq (by omega)
  refine ⟨?_, ?_, drew.rows⟩
  · rw [drew.drawn_eq, ← plain]
  · intro column cell found
    rw [split, shown_append] at found
    by_cases written : column < (trimBlank cells).length
    · rw [List.getElem?_append_left (by rw [length_shown]; exact written)] at found
      obtain ⟨c, holds, glyph⟩ := drew.cells column cell found
      rw [Nat.zero_add] at glyph
      exact .inl ⟨c, holds, glyph⟩
    · rw [List.getElem?_append_right (by rw [length_shown]; omega), length_shown] at found
      obtain ⟨behind, inTail⟩ := getElem?_of_shown found
      have same := drew.right column (by omega)
      exact .inr ⟨blank cell (List.mem_of_getElem? inTail), same.trans (untouched column)⟩

/-! ## All rows -/

theorem feed_lineEnd (ground : terminal.parser = .ground)
    (further : terminal.row + 1 < terminal.height) :
    terminal.feed "\r\n" = { terminal with row := terminal.row + 1, column := 0 } := by
  have taken : "\r\n".toList = ['\r', '\n'] := by decide
  simp [feed, taken, step, ground, lineFeed, further]

/-- The rows of a buffer were drawn one below the other, from a row of the terminal on. -/
structure DrawnRows (terminal drawn : Terminal) (rows : List (List Cell)) : Prop where
  unscrolled : drawn.scrolled = terminal.scrolled
  renders : ∀ index cells, rows[index]? = some cells → RendersRow drawn (terminal.row + index) cells
  others : ∀ row column, row < terminal.row ∨ terminal.row + rows.length ≤ row →
    drawn.spots row column = terminal.spots row column

/-- Rows were drawn below a row. -/
theorem DrawnRow.above {first : Terminal} {rest : List (List Cell)}
    (drew : DrawnRow terminal first cells)
    (below : DrawnRows { terminal with spots := first.spots, row := terminal.row + 1, column := 0 }
      drawn rest) : DrawnRows terminal drawn (cells :: rest) where
  unscrolled := below.unscrolled
  renders := fun index other found => by
    cases index with
    | zero =>
        obtain rfl := Option.some.inj found
        intro column cell shows
        rw [Nat.add_zero, below.others _ column (.inl (Nat.lt_succ_self _))]
        exact drew.renders column cell shows
    | succ index =>
        have same : terminal.row + (index + 1) = terminal.row + 1 + index := by omega
        rw [same]
        exact below.renders index other found
  others := fun row column outside => by
    rw [List.length_cons] at outside
    have outsideBelow : row < terminal.row + 1 ∨ terminal.row + 1 + rest.length ≤ row := by omega
    exact (below.others row column outsideBelow).trans (drew.others row column (by omega))

theorem drawnRows_intercalate {rows : List (List Cell)} (starts : AtStart terminal)
    (fits : terminal.row + rows.length ≤ terminal.height)
    (untouched : ∀ row column, terminal.row ≤ row → terminal.spots row column = .untouched)
    (printable : ∀ cells ∈ rows, Printable 0 cells ∧ cells.length ≤ terminal.width) :
    DrawnRows terminal (terminal.feed ("\r\n".intercalate (rows.map rowAnsi))) rows := by
  induction rows generalizing terminal with
  | nil => exact ⟨rfl, fun _ _ found => (nomatch found), fun _ _ _ => rfl⟩
  | cons cells rest ih =>
      obtain ⟨single, narrow⟩ := printable cells List.mem_cons_self
      have drew := drawnRow_rowAnsi starts (fun column => untouched _ column (Nat.le_refl _)) single
        narrow
      cases rest with
      | nil =>
          rw [List.map_singleton, String.intercalate_singleton]
          constructor
          · rw [drew.drawn_eq]
          · intro index other found
            cases index with
            | zero =>
                obtain rfl := Option.some.inj found
                exact drew.renders
            | succ index => cases found
          · intro row column outside
            rw [List.length_singleton] at outside
            exact drew.others row column (by omega)
      | cons second rest =>
          rw [List.map_cons, List.map_cons, String.intercalate_cons_cons, feed_append, feed_append]
          generalize terminal.feed (rowAnsi cells) = first at drew
          have lined : first.feed "\r\n" =
              { terminal with spots := first.spots, row := terminal.row + 1, column := 0 } := by
            rw [drew.drawn_eq]
            refine feed_lineEnd starts.ground ?_
            show terminal.row + 1 < terminal.height
            simp only [List.length_cons] at fits
            omega
          rw [lined]
          refine drew.above (ih ⟨starts.ground, starts.plain, rfl⟩ ?_ ?_ ?_)
          · show terminal.row + 1 + (second :: rest).length ≤ terminal.height
            simp only [List.length_cons] at fits ⊢
            omega
          · intro row column under
            exact (drew.others row column (Nat.ne_of_gt under)).trans
              (untouched row column (Nat.le_of_succ_le under))
          · intro cells member
            exact printable cells (List.mem_cons_of_mem _ member)

end Terminal

/-- Rows whose text is empty are blank, and so the empty rows at the end of a buffer may be left
out. -/
theorem exists_trimEmpty (rows : List (List Cell)) :
    ∃ kept left, rows = kept ++ left ∧ trimEmpty (rows.map rowAnsi) = kept.map rowAnsi ∧
      ∀ cells ∈ left, rowAnsi cells = "" := by
  refine ⟨rows.rdropWhile fun cells => (rowAnsi cells).isEmpty,
    rows.rtakeWhile fun cells => (rowAnsi cells).isEmpty,
    List.rdropWhile_append_rtakeWhile.symm, ?_, ?_⟩
  · rw [trimEmpty, ← List.map_reverse, List.dropWhile_map, ← List.map_reverse]
    rfl
  · intro cells member
    have blank := List.mem_rtakeWhile_imp member
    exact String.isEmpty_iff.mp blank

theorem length_row_le (buffer : Buffer) (y : Nat) : (buffer.row y).length ≤ buffer.area.width := by
  simp only [Buffer.row, Array.length_toList, Array.size_extract]
  omega

/-- A terminal of the size of a buffer that takes the text of the buffer is not scrolled, and
renders every cell that shows. -/
theorem toAnsi_faithful (buffer : Buffer) (printable : ∀ cells ∈ buffer.rows, Printable 0 cells) :
    let terminal := (Terminal.cleared buffer.area.width buffer.area.height).feed buffer.toAnsi
    terminal.scrolled = 0 ∧
      ∀ row < buffer.area.height,
        terminal.RendersRow row (buffer.row (buffer.area.y + row)) := by
  obtain ⟨kept, left, split, trimmed, empty⟩ := exists_trimEmpty buffer.rows
  have height_eq : kept.length + left.length = buffer.area.height := by
    rw [← List.length_append, ← split, Buffer.rows, List.length_map, List.length_range]
  have fits : ∀ cells ∈ buffer.rows, Printable 0 cells ∧ cells.length ≤ buffer.area.width := by
    intro cells member
    refine ⟨printable cells member, ?_⟩
    obtain ⟨y, -, rfl⟩ := List.mem_map.mp member
    exact length_row_le buffer _
  have drew : (Terminal.cleared buffer.area.width buffer.area.height).DrawnRows
      ((Terminal.cleared buffer.area.width buffer.area.height).feed buffer.toAnsi) kept := by
    rw [Buffer.toAnsi, trimmed]
    refine Terminal.drawnRows_intercalate ⟨rfl, rfl, rfl⟩ ?_ (fun _ _ _ => rfl) fun cells member =>
      fits cells (split ▸ List.mem_append_left left member)
    show 0 + kept.length ≤ buffer.area.height
    omega
  refine ⟨drew.unscrolled, ?_⟩
  intro row inside
  have found : buffer.rows[row]? = some (buffer.row (buffer.area.y + row)) := by
    simp [Buffer.rows, inside]
  rw [split] at found
  by_cases written : row < kept.length
  · rw [List.getElem?_append_left written] at found
    have renders := drew.renders row _ found
    rwa [show (Terminal.cleared buffer.area.width buffer.area.height).row + row = row from
      Nat.zero_add row] at renders
  · -- The row was left out; its text is empty, and drawing it changes nothing.
    have behind := Nat.le_of_not_lt written
    rw [List.getElem?_append_right behind] at found
    generalize buffer.row (buffer.area.y + row) = cells at found ⊢
    have member := List.mem_of_getElem? found
    obtain ⟨single, narrow⟩ := fits cells (split ▸ List.mem_append_right kept member)
    have blank : Terminal.DrawnRow
        { Terminal.cleared buffer.area.width buffer.area.height with row } _ cells :=
      Terminal.drawnRow_rowAnsi ⟨rfl, rfl, rfl⟩ (fun _ => rfl) single narrow
    rw [empty cells member] at blank
    intro column cell shows
    rw [drew.others row column (.inr (by show 0 + kept.length ≤ row; omega))]
    exact blank.renders column cell shows

/-- Two rows away from the origin: a wide character that covers a cell, and a coloured space. -/
def wideSample : Buffer where
  area := ⟨4, 7, 3, 2⟩
  cells := #[{ symbol := "漢", look := { foreground := .red } }, { symbol := "covered" },
    { symbol := "a" }, {}, { symbol := " ", look := { background := .indexed 200 } }, {}]
  size_cells := rfl

theorem toAnsi_faithful_wideSample : (∀ cells ∈ wideSample.rows, Printable 0 cells) ∧
    ((Terminal.cleared 3 2).feed wideSample.toAnsi).scrolled = 0 ∧
      ∀ row < 2, ((Terminal.cleared 3 2).feed wideSample.toAnsi).RendersRow row
        (wideSample.row (7 + row)) := by
  have space {look : Look} {rest : List Cell} (further : Printable 0 rest) :
      Printable 0 ({ symbol := " ", look } :: rest) :=
    .shown (c := ' ') rfl (by decide) (.inl (by decide)) further
  have printable : ∀ cells ∈ wideSample.rows, Printable 0 cells := by
    intro cells member
    have rows_eq : wideSample.rows = [wideSample.row 7, wideSample.row 8] := rfl
    rw [rows_eq] at member
    simp only [List.mem_cons, List.not_mem_nil, or_false] at member
    rcases member with rfl | rfl
    · have letter : Printable 0 [{ symbol := "a" }] :=
        .shown (c := 'a') rfl (by decide) (.inl (by decide)) .nil
      have two : Text.columns '漢' = 2 := by decide +kernel
      exact .shown (c := '漢') rfl (by decide) (.inr two) (by rw [two]; exact .covered letter)
    · exact space (space (space .nil))
  exact ⟨printable, toAnsi_faithful wideSample printable⟩

end Screen

end Showcase
