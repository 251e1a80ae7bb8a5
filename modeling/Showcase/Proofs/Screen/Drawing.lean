import Showcase.Proofs.Screen.Faithful
import Showcase.Proofs.Screen.Rows
import Showcase.Proofs.Text.Measuring
import Showcase.Proofs.Text.Standalone
import Showcase.Screen.Scrollbar

/-!
# Drawn rows

Lines and scrollbars keep every symbol within its row, so that each row reaches the screen on its
own, and a line of standalone characters shows one character after the other.
-/

namespace Showcase.Screen

open Showcase.Text (Line Span Standalone Style)

variable {glyph : Glyph} {glyphs : List Glyph} {cells : List Cell} {line : Line}
  {i width room : Nat}

/-! ## Symbols within their row -/

/-- A glyph takes the cells of its symbol, and there is one at least. -/
def Glyph.Proper (glyph : Glyph) : Prop :=
  glyph.cells = symbolCells glyph.symbol.toList ∧ 0 < glyph.cells

theorem mem_drawable {text : String} {cluster : String × Nat} (member : cluster ∈ drawable text) :
    cluster.2 = symbolCells cluster.1.toList ∧ 0 < cluster.2 := by
  obtain ⟨letters, rfl, -, positive⟩ := exists_of_mem_drawable member
  exact ⟨by rw [String.toList_ofList], positive⟩

theorem proper_lineGlyphs (line : Line) : ∀ glyph ∈ lineGlyphs line, glyph.Proper := by
  intro glyph member
  obtain ⟨span, -, drawn⟩ := List.mem_flatMap.mp member
  obtain ⟨cluster, inside, rfl⟩ := List.mem_map.mp drawn
  exact mem_drawable inside

theorem mem_of_mem_fitGlyphs (member : glyph ∈ fitGlyphs width room glyphs) : glyph ∈ glyphs := by
  induction glyphs generalizing room with
  | nil => cases member
  | cons first rest ih =>
      rw [fitGlyphs] at member
      split at member
      · exact List.mem_cons_of_mem _ (ih member)
      · split at member
        · obtain rfl | later := List.mem_cons.mp member
          · exact List.mem_cons_self
          · exact List.mem_cons_of_mem _ (ih later)
        · cases member

theorem glyphColumns_fitGlyphs (width room : Nat) (glyphs : List Glyph) :
    glyphColumns (fitGlyphs width room glyphs) ≤ room := by
  induction glyphs generalizing room with
  | nil => exact Nat.zero_le _
  | cons glyph rest ih =>
      rw [fitGlyphs]
      split
      · exact ih room
      · split
        · have further := ih (room - glyph.cells)
          rw [glyphColumns] at further ⊢
          rw [List.map_cons, List.sum_cons]
          omega
        · exact Nat.zero_le _

theorem Contained.writeGlyphs (contained : Contained cells)
    (proper : ∀ glyph ∈ glyphs, glyph.Proper) (fits : i + glyphColumns glyphs ≤ cells.length) :
    Contained (writeGlyphs cells i glyphs) := by
  induction glyphs generalizing cells i with
  | nil => exact contained
  | cons glyph rest ih =>
      rw [glyphColumns, List.map_cons, List.sum_cons] at fits
      have inside : i + symbolCells glyph.symbol.toList ≤ cells.length := by
        rw [← (proper glyph List.mem_cons_self).1]
        omega
      refine ih (contained.modify glyph inside)
        (fun other member => proper other (List.mem_cons_of_mem _ member)) ?_
      rw [List.length_modify, glyphColumns]
      omega

/-- A line keeps its symbols within the columns it has. -/
theorem Contained.writeLine (contained : Contained cells) (fits : i + width ≤ cells.length)
    (line : Option Line) : Contained (writeLine cells i width line) := by
  cases line with
  | none => exact contained
  | some line =>
      refine contained.writeGlyphs
        (fun glyph member => proper_lineGlyphs line glyph (mem_of_mem_fitGlyphs member)) ?_
      have narrow := glyphColumns_fitGlyphs width width (lineGlyphs line)
      omega

/-! ## Lines in an area -/

namespace Buffer

variable {buffer : Buffer} {area : Rect} {y z : Nat}

/-- The rows of an area get the lines, one each, as far as the area lies in the buffer. -/
theorem row_drawLines_clipped {lines : List Line} (area : Rect) (below : buffer.area.y ≤ z) :
    let clip := buffer.area.intersection area
    (buffer.drawLines area lines).row z =
      if clip.y ≤ z then
        writeLine (buffer.row z) (clip.x - buffer.area.x) clip.width
          (lines.take clip.height)[z - clip.y]?
      else buffer.row z := by
  intro clip
  have left : buffer.area.x ≤ clip.x := Nat.le_max_left _ _
  have top : buffer.area.y ≤ clip.y := Nat.le_max_left _ _
  rw [drawLines]
  split
  · rename_i reached
    exact row_drawRows left top reached
  · rename_i above
    exact row_drawRows_above left top below (Nat.lt_of_not_le above)

/-- The rows of an area in the buffer get the lines, one each. -/
theorem row_drawLines {lines : List Line} (inside : buffer.area.intersection area = area)
    (below : buffer.area.y ≤ z) : (buffer.drawLines area lines).row z =
      if area.y ≤ z then
        writeLine (buffer.row z) (area.x - buffer.area.x) area.width
          (lines.take area.height)[z - area.y]?
      else buffer.row z := by
  have drawn : (buffer.drawLines area lines).row z = _ := row_drawLines_clipped area below
  rwa [inside] at drawn

/-- In every row the symbols stay within the row. -/
def Orderly (buffer : Buffer) : Prop :=
  ∀ z, buffer.area.y ≤ z → z < buffer.area.bottom → Contained (buffer.row z)

theorem orderly_blank (area : Rect) : (blank area).Orderly := by
  intro z below above
  rw [row_blank area above below]
  exact contained_blank _

/-- On the screen every row is presented on its own. -/
theorem Orderly.row_present (orderly : buffer.Orderly) (below : buffer.area.y ≤ z)
    (above : z < buffer.area.bottom) : buffer.present.row z = presentCells 0 (buffer.row z) :=
  Buffer.row_present above below fun y top inside => orderly y top (Nat.lt_trans inside above)

theorem Orderly.drawLines {lines : List Line} (orderly : buffer.Orderly)
    (inside : buffer.area.intersection area = area) (right : area.right ≤ buffer.area.right) :
    (buffer.drawLines area lines).Orderly := by
  intro z below above
  rw [area_drawLines] at below above
  have contained := orderly z below above
  rw [row_drawLines inside below]
  split
  · refine contained.writeLine ?_ _
    have left : buffer.area.x ≤ area.x := by
      rw [← inside]
      exact Nat.le_max_left _ _
    rw [Rect.right, Rect.right] at right
    rw [length_row above below]
    omega
  · exact contained

/-! ## Scrollbars -/

/-- Nothing is changed beside the last columns of the rows, and symbols stay within their row. -/
structure Spares (count : Nat) (before after : Buffer) : Prop where
  area_eq : after.area = before.area
  rows : ∀ z, before.area.y ≤ z → (after.row z).take count = (before.row z).take count
  contained : ∀ z, before.area.y ≤ z → Contained (before.row z) → Contained (after.row z)

theorem Spares.refl (count : Nat) (buffer : Buffer) : Spares count buffer buffer :=
  ⟨rfl, fun _ _ => rfl, fun _ _ contained => contained⟩

theorem Spares.trans {count : Nat} {first second third : Buffer} (begun : Spares count first second)
    (further : Spares count second third) : Spares count first third where
  area_eq := further.area_eq.trans begun.area_eq
  rows z below := (further.rows z (begun.area_eq ▸ below)).trans (begun.rows z below)
  contained z below contained :=
    further.contained z (begun.area_eq ▸ below) (begun.contained z below contained)

theorem Spares.orderly {count : Nat} {after : Buffer} (spares : Spares count buffer after)
    (orderly : buffer.Orderly) : after.Orderly := by
  intro z below above
  rw [spares.area_eq] at below above
  exact spares.contained z below (orderly z below above)

/-- A text of one cell is one change, if it is in the buffer at all. -/
theorem setString_single {symbol : String} (single : drawable symbol = [(symbol, 1)])
    (buffer : Buffer) (x y : Nat) (style : Style) : buffer.setString x y symbol style =
      buffer.modify x y (Glyph.over { symbol, cells := 1, style }) := by
  rw [setString, single, putClusters]
  split
  · rfl
  · rename_i far
    have outside : buffer.area.contains x y = false := by
      refine Bool.eq_false_iff.mpr fun inside => far ?_
      have narrow := (Rect.contains_iff.mp inside).2.1
      omega
    rw [modify, outside]
    rfl

/-- A symbol of one cell in the last columns. -/
theorem spares_modify {x y count : Nat} {glyph : Glyph} (kept : count ≤ x - buffer.area.x)
    (one : symbolCells glyph.symbol.toList = 1) :
    Spares count buffer (buffer.modify x y glyph.over) := by
  cases inside : buffer.area.contains x y with
  | false =>
      rw [modify, inside]
      exact .refl _ _
  | true =>
      obtain ⟨left, narrow, top, low⟩ := Rect.contains_iff.mp inside
      refine ⟨area_modify _ _ _ _, fun z below => ?_, fun z below contained => ?_⟩
      · rw [row_modify left top below]
        split
        · rw [List.take_modify]
          exact List.modify_eq_self (by rw [List.length_take]; omega)
        · rfl
      · rw [row_modify left top below]
        split
        · rename_i same
          subst same
          refine contained.modify _ ?_
          rw [one, length_row low below]
          rw [Rect.right] at narrow
          omega
        · exact contained

theorem drawable_thumbSymbol : drawable thumbSymbol = [(thumbSymbol, 1)] := by decide +kernel

theorem drawable_trackSymbol : drawable trackSymbol = [(trackSymbol, 1)] := by decide +kernel

/-- Symbols of one cell each, one below the other in the last column of an area. -/
theorem spares_column {style : Style} {count : Nat} (symbolAt : Nat → String) (rows : List Nat)
    (single : ∀ row, drawable (symbolAt row) = [(symbolAt row, 1)])
    (kept : count ≤ area.right - 1 - buffer.area.x) :
    Spares count buffer (rows.foldl (fun buffer row =>
      buffer.setString (area.right - 1) (area.y + row) (symbolAt row) style) buffer) := by
  induction rows generalizing buffer with
  | nil => exact .refl _ _
  | cons row rest ih =>
      have one : symbolCells (symbolAt row).toList = 1 := by
        have member : (symbolAt row, 1) ∈ drawable (symbolAt row) := by
          rw [single]
          exact List.mem_cons_self
        exact (mem_drawable member).1.symm
      have first : Spares count buffer
          (buffer.setString (area.right - 1) (area.y + row) (symbolAt row) style) := by
        rw [setString_single (single row)]
        exact spares_modify kept one
      exact first.trans (ih (by rwa [first.area_eq]))

/-- A scrollbar changes the last column of its area only. -/
theorem spares_drawScrollbar {style : Style} {largest offset count : Nat}
    (kept : count ≤ area.right - 1 - buffer.area.x) :
    Spares count buffer (buffer.drawScrollbar area style largest offset) := by
  unfold drawScrollbar
  refine iteInduction (fun _ => .refl _ _) fun _ => ?_
  let thumb := Thumb.ofOffset area.height largest offset
  refine spares_column (fun row =>
    if thumb.start ≤ row && row < thumb.start + thumb.length then thumbSymbol else trackSymbol)
    _ (fun row => ?_) kept
  split
  · exact drawable_thumbSymbol
  · exact drawable_trackSymbol

end Buffer

/-! ## Characters side by side -/

/-- The first cells of a row that goes on with blanks. -/
def firstCells (width : Nat) (cells : List Cell) : List Cell :=
  (cells ++ List.replicate width Cell.empty).take width

/-- A character in a style, in the columns it has. -/
def charCells (style : Style) (c : Char) : List Cell :=
  { symbol := String.singleton c, look := Look.plain.apply style }
    :: List.replicate (Text.columns c - 1) .empty

/-- The characters of a line one after the other, in as many cells. -/
def lineCells (width : Nat) (line : Line) : List Cell :=
  firstCells width
    (line.inked.flatMap fun ink => charCells (line.style.patch ink.2) ink.1)

theorem take_blanks {count first : Nat} (second : Nat) (cells : List Cell)
    (less : count ≤ cells.length + first) (further : count ≤ cells.length + second) :
    (cells ++ List.replicate first Cell.empty).take count =
      (cells ++ List.replicate second Cell.empty).take count := by
  rw [List.take_append, List.take_append, List.take_replicate, List.take_replicate,
    Nat.min_eq_left (by omega), Nat.min_eq_left (by omega)]

theorem firstCells_append (width : Nat) (cells others : List Cell) :
    firstCells width (cells ++ others) =
      cells.take width ++ firstCells (width - cells.length) others := by
  rw [firstCells, List.append_assoc, List.take_append, firstCells,
    take_blanks (width - cells.length) others (by omega) (by omega)]

/-- Glyphs that no longer fit do not reach into the columns before the last one. -/
theorem firstCells_fitGlyphs (wide : 2 ≤ width)
    (narrow : ∀ glyph ∈ glyphs, 0 < glyph.cells ∧ glyph.cells ≤ 2) :
    firstCells (room - 1) ((fitGlyphs width room glyphs).flatMap Glyph.run) =
      firstCells (room - 1) (glyphs.flatMap Glyph.run) := by
  induction glyphs generalizing room with
  | nil => rfl
  | cons glyph rest ih =>
      obtain ⟨positive, two⟩ := narrow glyph List.mem_cons_self
      rw [fitGlyphs, if_neg (by omega)]
      split
      · rw [List.flatMap_cons, List.flatMap_cons, firstCells_append, firstCells_append,
          length_run positive, show room - 1 - glyph.cells = room - glyph.cells - 1 by omega,
          ih fun other member => narrow other (List.mem_cons_of_mem _ member)]
      · have none : room - 1 = 0 := by omega
        rw [none]
        rfl

theorem presentCells_covered (count : Nat) (cells : List Cell) :
    presentCells count (List.replicate count .empty ++ cells) =
      List.replicate count .empty ++ presentCells 0 cells := by
  induction count with
  | zero => rfl
  | succ count ih => exact congrArg (Cell.empty :: ·) ih

theorem presentCells_blank (count : Nat) :
    presentCells 0 (List.replicate count .empty) = List.replicate count .empty := by
  have single : symbolCells Cell.empty.symbol.toList - 1 = 0 := by decide
  induction count with
  | zero => rfl
  | succ count ih => rw [List.replicate_succ, presentCells, single, ih]

/-- Glyphs side by side cover blanks only, and so all of their row is sent. -/
theorem presentCells_runs (proper : ∀ glyph ∈ glyphs, glyph.Proper) (count : Nat) :
    presentCells 0 (glyphs.flatMap Glyph.run ++ List.replicate count .empty) =
      glyphs.flatMap Glyph.run ++ List.replicate count .empty := by
  induction glyphs with
  | nil => exact presentCells_blank count
  | cons glyph rest ih =>
      rw [List.flatMap_cons, Glyph.run, List.cons_append, List.cons_append, presentCells,
        ← (proper glyph List.mem_cons_self).1, List.append_assoc, presentCells_covered,
        ih fun other member => proper other (List.mem_cons_of_mem _ member)]

/-! ## Standalone characters -/

theorem symbolCells_standalone {c : Char} (single : Standalone c) :
    symbolCells [c] = Text.columns c := by
  have measured : Text.measure [c] = Text.columns c := by
    rw [← Text.width_singleton single.printable, Text.width, String.toList_singleton]
  have plain : Text.isVoicing c = false := by
    cases voicing : Text.isVoicing c with
    | false => rfl
    | true =>
        have kind := single.kind
        rcases Text.eq_of_isVoicing voicing with rfl | rfl <;>
          exact absurd kind (by decide +kernel)
  have counted : symbolCells.count [c] = Text.measure [c] + [c].countP Text.isVoicing := rfl
  have none : [c].countP Text.isVoicing = 0 := by simp [plain]
  rw [symbolCells]
  split
  · rename_i low
    have narrow : c.toNat < 0xA0 := by omega
    simp [Text.columns, single.printable, Text.printableColumns, narrow]
  · rw [counted, none, measured, Nat.add_zero]

theorem drawable_standalone {text : String} (each : ∀ c ∈ text.toList, Standalone c) :
    drawable text = text.toList.map fun c => (String.singleton c, Text.columns c) := by
  rw [drawable, Text.clusters_standalone each, List.filterMap_map, ← List.filterMap_eq_map]
  refine List.filterMap_congr fun c member => ?_
  have single := each c member
  have positive : Text.columns c ≠ 0 := by
    have columns_eq := single.columns_eq
    omega
  simp only [Function.comp_apply, symbolCells_standalone single]
  rw [if_neg (by simp [single.printable, positive])]
  simp

/-- A character as it is drawn in a style on top of that of its line. -/
def inkGlyph (base : Style) (ink : Char × Style) : Glyph where
  symbol := String.singleton ink.1
  cells := Text.columns ink.1
  style := base.patch ink.2

theorem lineGlyphs_standalone (each : ∀ ink ∈ line.inked, Standalone ink.1) :
    lineGlyphs line = line.inked.map (inkGlyph line.style) := by
  rw [lineGlyphs, Text.Line.inked, List.map_flatMap]
  refine List.flatMap_congr fun span member => ?_
  have inside : ∀ c ∈ span.text.toList, Standalone c := fun c letter =>
    each (c, span.style) (List.mem_flatMap.mpr ⟨span, member, List.mem_map_of_mem letter⟩)
  rw [spanGlyphs, drawable_standalone inside, Text.Span.inked, List.map_map, List.map_map]
  rfl

/-- A line of standalone characters as it is shown, up to the last column. -/
theorem present_writeLine {columns : Nat} (wide : 2 ≤ columns) (line : Option Line)
    (each : ∀ drawn ∈ line, ∀ ink ∈ drawn.inked, Standalone ink.1) :
    (presentCells 0 (writeLine (List.replicate columns .empty) 0 columns line)).take (columns - 1) =
      lineCells (columns - 1) (line.getD .blank) := by
  cases line with
  | none =>
      have blank : lineCells (columns - 1) .blank = List.replicate (columns - 1) .empty := by
        simp [lineCells, firstCells, Text.Line.inked, Line.blank]
      rw [writeLine, presentCells_blank, List.take_replicate, Nat.min_eq_left (Nat.sub_le _ _)]
      exact blank.symm
  | some line =>
      let glyphs := lineGlyphs line
      let fitting := fitGlyphs columns columns glyphs
      have proper : ∀ glyph ∈ fitting, glyph.Proper := fun glyph member =>
        proper_lineGlyphs line glyph (mem_of_mem_fitGlyphs member)
      have within : glyphColumns fitting ≤ columns := glyphColumns_fitGlyphs _ _ _
      have glyphs_eq : glyphs = line.inked.map (inkGlyph line.style) :=
        lineGlyphs_standalone (each line rfl)
      have narrow : ∀ glyph ∈ glyphs, 0 < glyph.cells ∧ glyph.cells ≤ 2 := by
        intro glyph member
        rw [glyphs_eq] at member
        obtain ⟨ink, inside, rfl⟩ := List.mem_map.mp member
        have columns_eq := (each line rfl ink inside).columns_eq
        show 0 < Text.columns ink.1 ∧ Text.columns ink.1 ≤ 2
        omega
      have length_eq : (fitting.flatMap Glyph.run).length = glyphColumns fitting := by
        rw [List.length_flatMap, glyphColumns]
        exact congrArg List.sum (List.map_congr_left fun glyph member =>
          length_run (proper glyph member).2)
      have written : writeGlyphs (List.replicate columns .empty) 0 fitting =
          fitting.flatMap Glyph.run ++ List.replicate (columns - glyphColumns fitting) .empty :=
        writeGlyphs_blank [] (fun glyph member => (proper glyph member).2) within
      rw [writeLine, written, presentCells_runs proper,
        take_blanks (columns - 1) _ (by omega) (by omega)]
      show firstCells (columns - 1) _ = firstCells (columns - 1) _
      rw [firstCells_fitGlyphs wide narrow, glyphs_eq, List.flatMap_map]
      rfl

end Showcase.Screen
