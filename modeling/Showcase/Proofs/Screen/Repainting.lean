import Showcase.Proofs.Screen.Faithful
import Showcase.Screen.Repaint

/-!
# Repaints replace what was drawn before

A repaint clears the screen in the looks that are set, and sets none itself. It is safe to leave
out repaints for that reason only: the text of a buffer ends in the looks that a terminal starts
with, so that the next repaint finds nothing but these.
-/

namespace Showcase.Screen

open Showcase.Text (columns isControl)

/-- A row whose cells all hold one character of one or two columns, the last one of one column. -/
theorem printable_of_single {cells : List Cell}
    (single : ∀ cell ∈ cells, ∃ c, cell.symbol = String.singleton c ∧ isControl c = false ∧
      (columns c = 1 ∨ columns c = 2))
    (narrow : ∀ cell, cells.getLast? = some cell → Text.width cell.symbol = 1) :
    Printable 0 cells := by
  -- A wide character is followed by a cell, and that cell is covered.
  induction cells using List.twoStepInduction with
  | nil => exact .nil
  | singleton cell =>
      obtain ⟨c, holds, printable, -⟩ := single cell List.mem_cons_self
      have one : columns c = 1 := by
        rw [← Text.width_singleton printable, ← holds]
        exact narrow cell rfl
      exact .shown holds printable (.inl one) (by rw [one]; exact .nil)
  | cons_cons first second rest ih ihRest =>
      obtain ⟨c, holds, printable, wide⟩ := single first List.mem_cons_self
      have further := ihRest second (fun cell member => single cell (List.mem_cons_of_mem _ member))
        fun cell found => narrow cell (by rw [List.getLast?_cons_cons, found])
      rcases wide with one | two
      · exact .shown holds printable (.inl one) (by rw [one]; exact further)
      · refine .shown holds printable (.inr two) ?_
        rw [two]
        refine .covered (ih (fun cell member => ?_) fun cell found => narrow cell ?_)
        · exact single cell (List.mem_cons_of_mem _ (List.mem_cons_of_mem _ member))
        · cases rest with
          | nil => cases found
          | cons third more => rw [List.getLast?_cons_cons, List.getLast?_cons_cons, found]

namespace Terminal

variable {terminal drawn first second : Terminal} {cells : List Cell}

/-! ## How far a terminal was scrolled -/

/-- The terminals differ at most in how far they were scrolled. -/
def Alike (first second : Terminal) : Prop := ∃ scrolled, second = { first with scrolled }

theorem alike_lineFeed (terminal : Terminal) (scrolled : Nat) :
    Alike terminal.lineFeed { terminal with scrolled }.lineFeed := by
  unfold lineFeed
  split
  · exact ⟨scrolled, rfl⟩
  · exact ⟨scrolled + 1, rfl⟩

theorem alike_print (terminal : Terminal) (scrolled : Nat) (c : Char) :
    Alike (terminal.print c) ({ terminal with scrolled }.print c) := by
  unfold print
  dsimp only
  split
  · exact ⟨scrolled, rfl⟩
  · split
    · exact ⟨scrolled, rfl⟩
    · obtain ⟨further, lined⟩ := alike_lineFeed terminal scrolled
      rw [lined]
      exact ⟨further, rfl⟩

theorem alike_obey (terminal : Terminal) (scrolled : Nat) (asked : Bool) (numbers : List Nat)
    (final : Char) :
    Alike (terminal.obey asked numbers final)
      ({ terminal with scrolled }.obey asked numbers final) := by
  unfold obey
  split <;> exact ⟨scrolled, rfl⟩

theorem Alike.step (alike : Alike first second) (c : Char) :
    Alike (first.step c) (second.step c) := by
  obtain ⟨scrolled, rfl⟩ := alike
  obtain ⟨width, height, spots, row, column, paint, visible, before, parser⟩ := first
  unfold Terminal.step
  cases parser with
  | ground =>
      dsimp only
      split
      · exact ⟨scrolled, rfl⟩
      · split
        · exact ⟨scrolled, rfl⟩
        · split
          · exact alike_lineFeed _ scrolled
          · split
            · exact ⟨scrolled, rfl⟩
            · exact alike_print _ scrolled c
  | escape => exact ⟨scrolled, rfl⟩
  | sequence asked numbers number =>
      dsimp only
      split
      · exact ⟨scrolled, rfl⟩
      · split
        · exact ⟨scrolled, rfl⟩
        · split
          · exact ⟨scrolled, rfl⟩
          · obtain ⟨further, obeyed⟩ := alike_obey ⟨width, height, spots, row, column, paint,
              visible, before, .sequence asked numbers number⟩ scrolled asked (numbers ++ [number]) c
            dsimp only at obeyed
            rw [obeyed]
            exact ⟨further, rfl⟩

theorem Alike.feed (alike : Alike first second) (text : String) :
    Alike (first.feed text) (second.feed text) := by
  unfold Terminal.feed
  induction text.toList generalizing first second with
  | nil => exact alike
  | cons c rest ih => exact ih (alike.step c)

/-! ## What the text of a buffer leaves as it was -/

/-- The screen and the cursor may have changed, and nothing else. -/
def Draws (terminal drawn : Terminal) : Prop :=
  drawn = { terminal with
    spots := drawn.spots, row := drawn.row, column := drawn.column, scrolled := drawn.scrolled }

theorem Draws.trans {middle : Terminal} (before : Draws terminal middle)
    (after : Draws middle drawn) : Draws terminal drawn := by
  unfold Draws at before after ⊢
  rw [after, before]

theorem draws_rowAnsi (starts : AtStart terminal) (printable : Printable 0 cells)
    (fits : cells.length ≤ terminal.width) : Draws terminal (terminal.feed (rowAnsi cells)) := by
  obtain ⟨ground, plain, column_eq⟩ := starts
  obtain ⟨tail, split, -⟩ := exists_trimBlank cells
  rw [split] at printable fits
  have drew : Drawn terminal (terminal.feed (rowAnsi cells)) 0 0 (trimBlank cells) :=
    drawn_cellPieces tail printable ground plain column_eq (by omega)
  unfold Draws
  rw [drew.drawn_eq, ← plain]

/-- The end of a row takes the cursor to the start of one. -/
theorem draws_lineEnd (ground : terminal.parser = .ground) :
    Draws terminal (terminal.feed "\r\n") ∧ (terminal.feed "\r\n").column = 0 := by
  have taken : "\r\n".toList = ['\r', '\n'] := by decide
  have fed : terminal.feed "\r\n" = { terminal with column := 0 }.lineFeed := by
    simp [feed, taken, step, ground]
  rw [fed]
  unfold lineFeed Draws
  split
  · exact ⟨rfl, rfl⟩
  · exact ⟨rfl, rfl⟩

theorem Draws.atStart (draws : Draws terminal drawn) (starts : AtStart terminal)
    (column_eq : drawn.column = 0) : AtStart drawn := by
  refine ⟨?_, ?_, column_eq⟩
  · rw [draws]
    exact starts.ground
  · rw [draws]
    exact starts.plain

theorem Draws.width_eq (draws : Draws terminal drawn) : drawn.width = terminal.width := by
  rw [draws]

theorem draws_intercalate {rows : List (List Cell)} (starts : AtStart terminal)
    (printable : ∀ cells ∈ rows, Printable 0 cells ∧ cells.length ≤ terminal.width) :
    Draws terminal (terminal.feed ("\r\n".intercalate (rows.map rowAnsi))) := by
  induction rows generalizing terminal with
  | nil => exact rfl
  | cons cells rest ih =>
      obtain ⟨single, narrow⟩ := printable cells List.mem_cons_self
      have drew := draws_rowAnsi starts single narrow
      cases rest with
      | nil =>
          rw [List.map_singleton, String.intercalate_singleton]
          exact drew
      | cons second rest =>
          rw [List.map_cons, List.map_cons, String.intercalate_cons_cons, feed_append, feed_append]
          have ground : (terminal.feed (rowAnsi cells)).parser = .ground := by
            rw [drew]
            exact starts.ground
          obtain ⟨lined, column_eq⟩ := draws_lineEnd ground
          have above := drew.trans lined
          refine above.trans (ih (above.atStart starts column_eq) fun other member => ?_)
          rw [above.width_eq]
          exact printable other (List.mem_cons_of_mem _ member)

theorem draws_toAnsi {buffer : Buffer} (starts : AtStart terminal)
    (sized : buffer.area.width = terminal.width)
    (printable : ∀ cells ∈ buffer.rows, Printable 0 cells) :
    Draws terminal (terminal.feed buffer.toAnsi) := by
  obtain ⟨kept, left, split, trimmed, -⟩ := exists_trimEmpty buffer.rows
  rw [Buffer.toAnsi, trimmed]
  refine draws_intercalate starts fun cells member => ?_
  have within : cells ∈ buffer.rows := split ▸ List.mem_append_left left member
  refine ⟨printable cells within, ?_⟩
  obtain ⟨y, -, rfl⟩ := List.mem_map.mp within
  exact sized ▸ length_row_le buffer _

/-! ## Repaints -/

/-- The terminal shows text in the looks that it starts with, and reads no sequence. -/
structure Settled (terminal : Terminal) : Prop where
  ground : terminal.parser = .ground
  plain : terminal.paint = .plain

theorem feed_opening (settled : Settled terminal) :
    terminal.feed Repaint.opening =
      { cleared terminal.width terminal.height with
        visible := false, scrolled := terminal.scrolled } := by
  have taken : Repaint.opening.toList =
      ['\x1b', '[', '2', 'J', '\x1b', '[', '1', ';', '1', 'H', '\x1b', '[', '?', '2', '5', 'l'] := by
    decide
  obtain ⟨ground, plain⟩ := settled
  simp [feed, taken, step, ground, plain, obey, cleared, Paint.plain, Spot.untouched]

theorem feed_closing (ground : terminal.parser = .ground) :
    terminal.feed Repaint.closing = { terminal with visible := true } := by
  have taken : Repaint.closing.toList = ['\x1b', '[', '?', '2', '5', 'h'] := by decide
  simp [feed, taken, step, ground, obey]

/-- Takes the repaint of a buffer. -/
def repaint (terminal : Terminal) (buffer : Buffer) : Terminal :=
  terminal.feed ({ body := buffer.toAnsi } : Repaint).text

theorem repaint_eq (terminal : Terminal) (buffer : Buffer) :
    terminal.repaint buffer =
      ((terminal.feed Repaint.opening).feed buffer.toAnsi).feed Repaint.closing := by
  rw [repaint, Repaint.text, feed_append, feed_append]

theorem settled_cleared (width height : Nat) : Settled (cleared width height) := ⟨rfl, rfl⟩

/-- What a settled terminal shows after a repaint is what a cleared one would show. -/
theorem alike_repaint (settled : Settled terminal) (buffer : Buffer) :
    Alike ((cleared terminal.width terminal.height).repaint buffer) (terminal.repaint buffer) := by
  have opened : Alike ((cleared terminal.width terminal.height).feed Repaint.opening)
      (terminal.feed Repaint.opening) := by
    rw [feed_opening settled, feed_opening (settled_cleared _ _)]
    exact ⟨terminal.scrolled, rfl⟩
  rw [repaint_eq, repaint_eq]
  exact (opened.feed _).feed _

/-- After a repaint a terminal is settled again, and shows the cursor. -/
theorem settled_repaint {buffer : Buffer} (settled : Settled terminal)
    (sized : buffer.area.width = terminal.width)
    (printable : ∀ cells ∈ buffer.rows, Printable 0 cells) :
    Settled (terminal.repaint buffer) ∧ (terminal.repaint buffer).visible = true ∧
      (terminal.repaint buffer).width = terminal.width ∧
      (terminal.repaint buffer).height = terminal.height := by
  rw [repaint_eq, feed_opening settled]
  have starts : AtStart { cleared terminal.width terminal.height with
      visible := false, scrolled := terminal.scrolled } := ⟨rfl, rfl, rfl⟩
  have drew := draws_toAnsi starts sized printable
  rw [feed_closing (by rw [drew]; rfl), drew]
  exact ⟨⟨rfl, rfl⟩, rfl, rfl, rfl⟩

/-! ## Many repaints -/

/-- Takes the repaints of some buffers, one after the other. -/
def repaintAll (terminal : Terminal) (buffers : List Buffer) : Terminal :=
  buffers.foldl repaint terminal

theorem settled_repaintAll {buffers : List Buffer} (settled : Settled terminal)
    (sized : ∀ buffer ∈ buffers, buffer.area.width = terminal.width)
    (printable : ∀ buffer ∈ buffers, ∀ cells ∈ buffer.rows, Printable 0 cells) :
    Settled (terminal.repaintAll buffers) ∧
      (terminal.repaintAll buffers).width = terminal.width ∧
      (terminal.repaintAll buffers).height = terminal.height := by
  induction buffers generalizing terminal with
  | nil => exact ⟨settled, rfl, rfl⟩
  | cons buffer rest ih =>
      obtain ⟨again, -, width_eq, height_eq⟩ :=
        settled_repaint settled (sized buffer List.mem_cons_self) (printable buffer List.mem_cons_self)
      have further := ih again
        (fun other member => (sized other (List.mem_cons_of_mem _ member)).trans width_eq.symm)
        fun other member => printable other (List.mem_cons_of_mem _ member)
      rw [width_eq, height_eq] at further
      exact further

end Terminal

/-- Whatever a terminal with default looks showed before, and whichever repaints of some buffers of
its width it takes: after the last one it shows what a fresh terminal shows after that one alone. -/
theorem repaintAll_supersedes {terminal : Terminal} {buffers taken : List Buffer} {last : Buffer}
    (settled : terminal.Settled)
    (sized : ∀ buffer ∈ buffers, buffer.area.width = terminal.width)
    (printable : ∀ buffer ∈ buffers, ∀ cells ∈ buffer.rows, Printable 0 cells)
    (chosen : (taken ++ [last]).Sublist buffers) :
    let shown := terminal.repaintAll (taken ++ [last])
    let alone := (Terminal.cleared terminal.width terminal.height).repaint last
    (shown.spots = alone.spots ∧ shown.paint = alone.paint ∧ shown.visible = alone.visible) ∧
      shown.paint = .plain ∧ shown.visible = true := by
  intro shown alone
  have among : ∀ buffer ∈ taken, buffer ∈ buffers := fun buffer member =>
    chosen.subset (List.mem_append_left _ member)
  have lastAmong : last ∈ buffers := chosen.subset (by simp)
  obtain ⟨before, width_eq, height_eq⟩ := Terminal.settled_repaintAll settled
    (fun buffer member => sized buffer (among buffer member))
    fun buffer member => printable buffer (among buffer member)
  have shown_eq : shown = (terminal.repaintAll taken).repaint last := by
    simp only [shown, Terminal.repaintAll, List.foldl_append, List.foldl_cons, List.foldl_nil]
  obtain ⟨scrolled, same⟩ := Terminal.alike_repaint before last
  obtain ⟨⟨-, plain⟩, visible, -⟩ := Terminal.settled_repaint before
    ((sized last lastAmong).trans width_eq.symm) (printable last lastAmong)
  rw [← shown_eq] at plain visible
  rw [width_eq, height_eq, ← shown_eq] at same
  refine ⟨?_, plain, visible⟩
  rw [same]
  exact ⟨rfl, rfl, rfl⟩

/-- A wide character on a red ground. -/
def redStripe : Buffer where
  area := ⟨0, 0, 2, 1⟩
  cells := #[{ symbol := "漢", look := { background := .red } }, {}]
  size_cells := rfl

def letterStripe : Buffer where
  area := ⟨0, 0, 2, 1⟩
  cells := #[{ symbol := "a" }, {}]
  size_cells := rfl

/-- A terminal on which something was printed, and whose cursor is hidden. -/
def printedOn : Terminal where
  width := 2
  height := 1
  spots := fun _ _ => .glyph 'x' .plain
  column := 2
  visible := false

theorem printable_redStripe : ∀ cells ∈ redStripe.rows, Printable 0 cells := by
  intro cells member
  obtain rfl := List.mem_singleton.mp member
  have two : columns '漢' = 2 := by decide +kernel
  refine printable_of_single (fun cell member => ?_) fun cell found => ?_
  · rcases List.mem_pair.mp member with rfl | rfl
    · exact ⟨'漢', rfl, by decide, .inr two⟩
    · exact ⟨' ', rfl, by decide, .inl (by decide)⟩
  · obtain rfl := Option.some.inj found
    decide

theorem printable_letterStripe : ∀ cells ∈ letterStripe.rows, Printable 0 cells := by
  intro cells member
  obtain rfl := List.mem_singleton.mp member
  refine printable_of_single (fun cell member => ?_) fun cell found => ?_
  · rcases List.mem_pair.mp member with rfl | rfl
    · exact ⟨'a', rfl, by decide, .inl (by decide)⟩
    · exact ⟨' ', rfl, by decide, .inl (by decide)⟩
  · obtain rfl := Option.some.inj found
    decide

/-- Of three repaints the second one is left out. -/
theorem repaintAll_supersedes_letterStripe :
    (printedOn.Settled ∧ [redStripe, letterStripe].Sublist [redStripe, redStripe, letterStripe] ∧
      ∀ buffer ∈ [redStripe, redStripe, letterStripe],
        buffer.area.width = printedOn.width ∧ ∀ cells ∈ buffer.rows, Printable 0 cells) ∧
      (printedOn.repaintAll [redStripe, letterStripe]).spots 0 0 = .glyph 'a' .plain ∧
      (printedOn.repaintAll [redStripe, letterStripe]).spots 0 1 = .untouched ∧
      (printedOn.repaintAll [redStripe, letterStripe]).paint = .plain ∧
      (printedOn.repaintAll [redStripe, letterStripe]).visible = true := by
  have settled : printedOn.Settled := ⟨rfl, rfl⟩
  have allowed : ∀ buffer ∈ [redStripe, redStripe, letterStripe],
      buffer.area.width = printedOn.width ∧ ∀ cells ∈ buffer.rows, Printable 0 cells := by
    simp only [List.forall_mem_cons]
    exact ⟨⟨rfl, printable_redStripe⟩, ⟨rfl, printable_redStripe⟩, ⟨rfl, printable_letterStripe⟩,
      nofun⟩
  have chosen : ([redStripe] ++ [letterStripe]).Sublist [redStripe, redStripe, letterStripe] :=
    .cons _ (.cons_cons _ (.cons_cons _ .slnil))
  obtain ⟨⟨spots_eq, -⟩, plain, visible⟩ := repaintAll_supersedes settled
    (fun buffer member => (allowed buffer member).1) (fun buffer member => (allowed buffer member).2)
    chosen
  rw [List.singleton_append] at spots_eq plain visible
  refine ⟨⟨settled, chosen, allowed⟩, ?_, ?_, plain, visible⟩
  · rw [spots_eq]
    decide +kernel
  · rw [spots_eq]
    decide +kernel

end Showcase.Screen
