import Mathlib.Algebra.GroupWithZero.Nat
import Showcase.Screen.Paragraph
import Showcase.Screen.Present
import Showcase.Screen.Scrollbar

/-!
# Drawing row by row

What is drawn into a buffer is described row by row, as changes of the lists of cells in the rows.
A symbol that is drawn on an empty row leaves its cell and the empty cells that it covers.
-/

namespace Showcase.Screen

open Showcase.Text (Line Style)

theorem Rect.contains_iff {area : Rect} {x y : Nat} : area.contains x y = true ↔
    area.x ≤ x ∧ x < area.right ∧ area.y ≤ y ∧ y < area.bottom := by
  simp [contains, and_assoc]

namespace Buffer

variable {buffer : Buffer} {x y z : Nat} {change : Cell → Cell}

theorem row_eq (buffer : Buffer) (y : Nat) :
    buffer.row y = (buffer.cells.toList.drop
      ((y - buffer.area.y) * buffer.area.width)).take buffer.area.width := by
  simp only [row, Array.toList_extract]
  rw [List.extract_eq_take_drop, Nat.add_sub_cancel_left]

theorem getElem?_row (buffer : Buffer) (y i : Nat) : (buffer.row y)[i]? =
    if i < buffer.area.width then
      buffer.cells.toList[(y - buffer.area.y) * buffer.area.width + i]?
    else none := by
  rw [row_eq, List.getElem?_take, List.getElem?_drop]

theorem length_row (inside : y < buffer.area.bottom) (top : buffer.area.y ≤ y) :
    (buffer.row y).length = buffer.area.width := by
  have size := buffer.size_cells
  have below : y - buffer.area.y + 1 ≤ buffer.area.height := by
    rw [Rect.bottom] at inside
    omega
  have room := Nat.mul_le_mul_right buffer.area.width below
  rw [Nat.succ_mul, Nat.mul_comm buffer.area.height, ← size] at room
  simp only [row_eq, List.length_take, List.length_drop, Array.length_toList]
  omega

theorem row_eq_nil (outside : buffer.area.bottom ≤ y) : buffer.row y = [] := by
  have below : buffer.area.height ≤ y - buffer.area.y := by
    rw [Rect.bottom] at outside
    omega
  have room := Nat.mul_le_mul_right buffer.area.width below
  rw [row_eq, List.drop_eq_nil_of_le, List.take_nil]
  rw [Array.length_toList, buffer.size_cells, Nat.mul_comm]
  exact room

theorem row_blank (area : Rect) (inside : y < area.bottom) (top : area.y ≤ y) :
    (blank area).row y = List.replicate area.width .empty := by
  have length_eq : ((blank area).row y).length = area.width := length_row inside top
  refine List.eq_replicate_iff.mpr ⟨length_eq, fun cell member => ?_⟩
  rw [row_eq] at member
  have listed := List.mem_of_mem_drop (List.mem_of_mem_take member)
  simp only [blank, Array.toList_replicate] at listed
  exact List.eq_of_mem_replicate listed

theorem area_modify (buffer : Buffer) (x y : Nat) (change : Cell → Cell) :
    (buffer.modify x y change).area = buffer.area := by
  unfold modify
  split <;> rfl

theorem toList_modify (buffer : Buffer) (x y : Nat) (change : Cell → Cell) :
    (buffer.modify x y change).cells.toList =
      if buffer.area.contains x y then buffer.cells.toList.modify (buffer.index x y) change
      else buffer.cells.toList := by
  unfold modify
  split <;> simp

/-- Positions of different rows are different. -/
theorem index_ne {width row other column i : Nat} (ne : row ≠ other) (inside : column < width)
    (within : i < width) : row * width + column ≠ other * width + i := by
  intro same
  have quotient := congrArg (· / width) same
  have positive : 0 < width := by omega
  simp only [Nat.mul_comm _ width, Nat.mul_add_div positive, Nat.div_eq_of_lt inside,
    Nat.div_eq_of_lt within, Nat.add_zero] at quotient
  exact ne quotient

theorem row_modify_other (inside : buffer.area.contains x y = true) (below : buffer.area.y ≤ z)
    (other : z ≠ y) : (buffer.modify x y change).row z = buffer.row z := by
  refine List.ext_getElem? fun i => ?_
  rw [getElem?_row, getElem?_row, area_modify, toList_modify, if_pos inside]
  split
  · rename_i within
    obtain ⟨-, narrow, top, -⟩ := Rect.contains_iff.mp inside
    rw [Rect.right] at narrow
    have ne : buffer.index x y ≠ (z - buffer.area.y) * buffer.area.width + i :=
      index_ne (by omega) (by omega) within
    rw [List.getElem?_modify_ne _ _ ne]
  · rfl

theorem row_modify_self (inside : buffer.area.contains x y = true) :
    (buffer.modify x y change).row y = (buffer.row y).modify (x - buffer.area.x) change := by
  refine List.ext_getElem? fun i => ?_
  rw [List.getElem?_modify, getElem?_row, getElem?_row, area_modify, toList_modify, if_pos inside,
    List.getElem?_modify]
  have same : buffer.index x y = (y - buffer.area.y) * buffer.area.width + i ↔
      x - buffer.area.x = i := Nat.add_left_cancel_iff
  split
  · simp only [same]
  · rfl

/-- A change of one cell is a change of its row; outside of the buffer nothing changes. -/
theorem row_modify (left : buffer.area.x ≤ x) (top : buffer.area.y ≤ y)
    (below : buffer.area.y ≤ z) : (buffer.modify x y change).row z =
      if z = y then (buffer.row z).modify (x - buffer.area.x) change else buffer.row z := by
  cases inside : buffer.area.contains x y with
  | true =>
      split
      · rename_i same
        rw [same, row_modify_self inside]
      · rename_i other
        exact row_modify_other inside below other
  | false =>
      have unchanged : buffer.modify x y change = buffer := by
        rw [modify, inside]
        rfl
      rw [unchanged]
      split
      · rename_i same
        subst same
        refine (List.modify_eq_self ?_).symm
        by_cases low : z < buffer.area.bottom
        · have wide : ¬ x < buffer.area.right := by
            intro narrow
            rw [Rect.contains_iff.mpr ⟨left, narrow, top, low⟩] at inside
            cases inside
          rw [length_row low top]
          rw [Rect.right] at wide
          omega
        · have empty := row_eq_nil (Nat.le_of_not_lt low)
          rw [empty]
          exact Nat.zero_le _
      · rfl

end Buffer

/-! ## Lines -/

/-- What is drawn of a text: clusters without control characters that take a cell at least. -/
theorem exists_of_mem_drawable {text : String} {cluster : String × Nat}
    (member : cluster ∈ drawable text) :
    ∃ letters, cluster = (String.ofList letters, symbolCells letters) ∧
      letters.any Text.isControl = false ∧ 0 < symbolCells letters := by
  obtain ⟨letters, -, found⟩ := List.mem_filterMap.mp member
  simp only at found
  split at found
  · cases found
  · rename_i kept
    simp only [Bool.or_eq_true, beq_iff_eq, not_or, Bool.not_eq_true] at kept
    exact ⟨letters, (Option.some.inj found).symm, kept.1, Nat.pos_of_ne_zero kept.2⟩

/-- Draws a glyph over a cell. -/
def Glyph.over (glyph : Glyph) (cell : Cell) : Cell :=
  (cell.withSymbol glyph.symbol).withStyle glyph.style

/-- Draws glyphs side by side into the cells of a row. -/
def writeGlyphs (cells : List Cell) (i : Nat) : List Glyph → List Cell
  | [] => cells
  | glyph :: rest => writeGlyphs (cells.modify i glyph.over) (i + glyph.cells) rest

/-- Draws a line, if there is one, into the cells of a row. -/
def writeLine (cells : List Cell) (i width : Nat) : Option Line → List Cell
  | none => cells
  | some line => writeGlyphs cells i (fitGlyphs width width (lineGlyphs line))

namespace Buffer

variable {buffer : Buffer} {x y z : Nat}

theorem area_drawGlyphs (buffer : Buffer) (x y : Nat) (glyphs : List Glyph) :
    (buffer.drawGlyphs x y glyphs).area = buffer.area := by
  induction glyphs generalizing buffer x with
  | nil => rfl
  | cons glyph rest ih => rw [drawGlyphs, ih, area_modify]

theorem row_drawGlyphs (glyphs : List Glyph) (left : buffer.area.x ≤ x) (top : buffer.area.y ≤ y)
    (below : buffer.area.y ≤ z) : (buffer.drawGlyphs x y glyphs).row z =
      if z = y then writeGlyphs (buffer.row z) (x - buffer.area.x) glyphs else buffer.row z := by
  induction glyphs generalizing buffer x with
  | nil => simp [drawGlyphs, writeGlyphs]
  | cons glyph rest ih =>
      have area_eq := area_modify buffer x y glyph.over
      have row_eq : (buffer.modify x y glyph.over).row z = _ := row_modify left top below
      show ((buffer.modify x y glyph.over).drawGlyphs (x + glyph.cells) y rest).row z = _
      rw [ih (by rw [area_eq]; omega) (by rwa [area_eq]) (by rwa [area_eq]), row_eq, area_eq,
        Nat.sub_add_comm left]
      split <;> rfl

theorem area_drawRows (buffer : Buffer) (x y width height : Nat) (lines : List Line) :
    (buffer.drawRows x y width height lines).area = buffer.area := by
  induction height generalizing buffer y lines with
  | zero => rfl
  | succ height ih =>
      cases lines with
      | nil => rfl
      | cons line rest => rw [drawRows, ih, area_drawGlyphs]

theorem row_drawRows_above {width height : Nat} {lines : List Line} (left : buffer.area.x ≤ x)
    (top : buffer.area.y ≤ y) (below : buffer.area.y ≤ z) (above : z < y) :
    (buffer.drawRows x y width height lines).row z = buffer.row z := by
  induction height generalizing buffer y lines with
  | zero => rfl
  | succ height ih =>
      cases lines with
      | nil => rfl
      | cons line rest =>
          have area_eq := area_drawGlyphs buffer x y (fitGlyphs width width (lineGlyphs line))
          rw [drawRows, ih (by rwa [area_eq]) (by rw [area_eq]; omega) (by rwa [area_eq])
            (by omega), row_drawGlyphs _ left top below, if_neg (by omega)]

theorem row_drawRows {width height : Nat} {lines : List Line} (left : buffer.area.x ≤ x)
    (top : buffer.area.y ≤ y) (below : y ≤ z) : (buffer.drawRows x y width height lines).row z =
      writeLine (buffer.row z) (x - buffer.area.x) width (lines.take height)[z - y]? := by
  induction height generalizing buffer y lines with
  | zero => simp [drawRows, writeLine]
  | succ height ih =>
      cases lines with
      | nil => simp [drawRows, writeLine]
      | cons line rest =>
          have area_eq := area_drawGlyphs buffer x y (fitGlyphs width width (lineGlyphs line))
          have drawn : Buffer.row _ z = _ := row_drawGlyphs
            (fitGlyphs width width (lineGlyphs line)) left top (by omega)
          rw [drawRows]
          obtain rfl | later := Nat.eq_or_lt_of_le below
          · rw [row_drawRows_above (by rwa [area_eq]) (by rw [area_eq]; omega) (by rwa [area_eq])
              (Nat.lt_succ_self _), drawn, if_pos rfl, Nat.sub_self]
            rfl
          · rw [ih (by rwa [area_eq]) (by rw [area_eq]; omega) later, drawn,
              if_neg (Nat.ne_of_gt later), area_eq,
              show z - y = z - (y + 1) + 1 by omega, List.take_succ_cons, List.getElem?_cons_succ]

theorem area_drawLines (buffer : Buffer) (area : Rect) (lines : List Line) :
    (buffer.drawLines area lines).area = buffer.area := area_drawRows _ _ _ _ _ _

end Buffer

/-! ## Clusters -/

/-- Empties some cells of a row. -/
def clearCells (cells : List Cell) (i : Nat) : Nat → List Cell
  | 0 => cells
  | count + 1 => clearCells (cells.modify i fun _ => .empty) (i + 1) count

/-- Writes clusters into the cells of a row, until one does not fit into the columns left. -/
def writeClusters (cells : List Cell) (i : Nat) (style : Style) (room : Nat) :
    List (String × Nat) → List Cell
  | [] => cells
  | (symbol, count) :: rest =>
      if count ≤ room then
        let written := cells.modify i (Glyph.over { symbol, cells := count, style })
        writeClusters (clearCells written (i + 1) (count - 1)) (i + count) style (room - count) rest
      else cells

namespace Buffer

variable {buffer : Buffer} {x y z : Nat}

theorem area_clearRun (buffer : Buffer) (x y count : Nat) :
    (buffer.clearRun x y count).area = buffer.area := by
  induction count generalizing buffer x with
  | zero => rfl
  | succ count ih => rw [clearRun, ih, put, area_modify]

theorem row_clearRun {count : Nat} (left : buffer.area.x ≤ x) (top : buffer.area.y ≤ y)
    (below : buffer.area.y ≤ z) : (buffer.clearRun x y count).row z =
      if z = y then clearCells (buffer.row z) (x - buffer.area.x) count else buffer.row z := by
  induction count generalizing buffer x with
  | zero => simp [clearRun, clearCells]
  | succ count ih =>
      have area_eq : (buffer.put x y .empty).area = buffer.area := area_modify _ _ _ _
      have row_eq : (buffer.put x y .empty).row z = _ := row_modify left top below
      rw [clearRun, ih (by rw [area_eq]; omega) (by rwa [area_eq]) (by rwa [area_eq]), row_eq,
        area_eq, Nat.sub_add_comm left]
      split <;> rfl

theorem area_putClusters (buffer : Buffer) (x y : Nat) (style : Style) (room : Nat)
    (clusters : List (String × Nat)) :
    (buffer.putClusters x y style room clusters).area = buffer.area := by
  induction clusters generalizing buffer x room with
  | nil => rfl
  | cons cluster rest ih =>
      rw [putClusters]
      split
      · rw [ih, area_clearRun, area_modify]
      · rfl

theorem row_putClusters {style : Style} {room : Nat} (clusters : List (String × Nat))
    (left : buffer.area.x ≤ x) (top : buffer.area.y ≤ y) (below : buffer.area.y ≤ z) :
    (buffer.putClusters x y style room clusters).row z =
      if z = y then writeClusters (buffer.row z) (x - buffer.area.x) style room clusters
      else buffer.row z := by
  induction clusters generalizing buffer x room with
  | nil => simp [putClusters, writeClusters]
  | cons cluster rest ih =>
      obtain ⟨symbol, count⟩ := cluster
      rw [putClusters, writeClusters]
      by_cases fits : count ≤ room
      · have first : (buffer.modify x y fun cell => (cell.withSymbol symbol).withStyle style).area =
            buffer.area := area_modify _ _ _ _
        have both := (area_clearRun _ (x + 1) y (count - 1)).trans first
        rw [if_pos fits, if_pos fits]
        simp only
        rw [ih (by rw [both]; omega) (by rwa [both]) (by rwa [both]), both,
          row_clearRun (by rw [first]; omega) (by rwa [first]) (by rwa [first]), first,
          row_modify left top below, Nat.sub_add_comm left, Nat.sub_add_comm left]
        split <;> rfl
      · rw [if_neg fits, if_neg fits, ite_self]

end Buffer

/-! ## Empty rows -/

/-- The cells of a glyph that was drawn on an empty row. -/
def Glyph.run (glyph : Glyph) : List Cell :=
  { symbol := glyph.symbol, look := Look.plain.apply glyph.style }
    :: List.replicate (glyph.cells - 1) .empty

/-- The columns of glyphs side by side. -/
def glyphColumns (glyphs : List Glyph) : Nat := (glyphs.map Glyph.cells).sum

variable {glyphs : List Glyph} {glyph : Glyph} {cells : List Cell} {covered : Nat}

theorem length_run (positive : 0 < glyph.cells) : glyph.run.length = glyph.cells := by
  rw [Glyph.run, List.length_cons, List.length_replicate]
  omega

theorem run_append_blank {count : Nat} (positive : 0 < glyph.cells) (fits : glyph.cells ≤ count) :
    glyph.run ++ List.replicate (count - glyph.cells) .empty =
      { symbol := glyph.symbol, look := Look.plain.apply glyph.style }
        :: List.replicate (count - 1) .empty := by
  rw [Glyph.run, List.cons_append, List.replicate_append_replicate,
    show glyph.cells - 1 + (count - glyph.cells) = count - 1 by omega]

/-- A glyph on an empty row, behind what was drawn before. -/
theorem modify_blank (done : List Cell) {count : Nat} (positive : 0 < glyph.cells)
    (fits : glyph.cells ≤ count) :
    (done ++ List.replicate count Cell.empty).modify done.length glyph.over =
      done ++ (glyph.run ++ List.replicate (count - glyph.cells) .empty) := by
  rw [run_append_blank positive fits]
  induction done with
  | nil =>
      obtain ⟨more, rfl⟩ : ∃ more, count = more + 1 := ⟨count - 1, by omega⟩
      rfl
  | cons cell done ih => exact congrArg (cell :: ·) ih

/-- Glyphs on an empty row, behind what was drawn before. -/
theorem writeGlyphs_blank (done : List Cell) {count : Nat}
    (positive : ∀ glyph ∈ glyphs, 0 < glyph.cells) (fits : glyphColumns glyphs ≤ count) :
    writeGlyphs (done ++ List.replicate count .empty) done.length glyphs =
      done ++ glyphs.flatMap Glyph.run
        ++ List.replicate (count - glyphColumns glyphs) .empty := by
  induction glyphs generalizing done count with
  | nil => simp [writeGlyphs, glyphColumns]
  | cons glyph rest ih =>
      have some := positive glyph List.mem_cons_self
      simp only [glyphColumns, List.map_cons, List.sum_cons] at fits
      have length_eq : done.length + glyph.cells = (done ++ glyph.run).length := by
        rw [List.length_append, length_run some]
      rw [writeGlyphs, modify_blank done some (by omega), ← List.append_assoc, length_eq,
        ih _ (fun other member => positive other (List.mem_cons_of_mem _ member))
          (by rw [glyphColumns]; omega)]
      simp [glyphColumns, Nat.sub_add_eq]

theorem clearCells_blank (done : List Cell) {count cleared i : Nat} (behind : done.length ≤ i) :
    clearCells (done ++ List.replicate count .empty) i cleared =
      done ++ List.replicate count .empty := by
  induction cleared generalizing i with
  | zero => rfl
  | succ cleared ih =>
      have same : (done ++ List.replicate count Cell.empty).modify i (fun _ => .empty) =
          done ++ List.replicate count .empty := by
        refine List.ext_getElem? fun j => ?_
        rw [List.getElem?_modify]
        by_cases here : i = j
        · subst here
          rw [List.getElem?_append_right behind]
          simp only [List.getElem?_replicate, if_true]
          split <;> rfl
        · simp [here]
      rw [clearCells, same, ih (by omega)]

/-- The clusters as glyphs in a style. -/
def clusterGlyphs (style : Style) (clusters : List (String × Nat)) : List Glyph :=
  clusters.map fun cluster => { symbol := cluster.1, cells := cluster.2, style }

/-- Clusters on an empty row, behind what was written before. -/
theorem writeClusters_blank (done : List Cell) {style : Style} {clusters : List (String × Nat)}
    {count room : Nat} (positive : ∀ cluster ∈ clusters, 0 < cluster.2)
    (fits : (clusters.map Prod.snd).sum ≤ room) (inside : room ≤ count) :
    writeClusters (done ++ List.replicate count .empty) done.length style room clusters =
      done ++ (clusterGlyphs style clusters).flatMap Glyph.run
        ++ List.replicate (count - (clusters.map Prod.snd).sum) .empty := by
  induction clusters generalizing done count room with
  | nil => simp [writeClusters, clusterGlyphs]
  | cons cluster rest ih =>
      obtain ⟨symbol, columns⟩ := cluster
      have some : 0 < columns := positive _ List.mem_cons_self
      simp only [List.map_cons, List.sum_cons] at fits
      let glyph : Glyph := { symbol, cells := columns, style }
      have run_length : glyph.run.length = columns := length_run some
      have length_eq : done.length + columns = (done ++ glyph.run).length := by
        rw [List.length_append, run_length]
      have written : clearCells ((done ++ List.replicate count Cell.empty).modify done.length
          glyph.over) (done.length + 1) (columns - 1) =
            (done ++ glyph.run) ++ List.replicate (count - columns) .empty := by
        have inside : glyph.cells ≤ count := by show columns ≤ count; omega
        rw [modify_blank done some inside, List.append_assoc, run_append_blank some inside,
          List.append_cons]
        exact clearCells_blank _ (by simp)
      rw [writeClusters, if_pos (by omega)]
      simp only
      rw [written, length_eq, ih _ (fun other member => positive other
        (List.mem_cons_of_mem _ member)) (by omega) (by omega)]
      simp [clusterGlyphs, Nat.sub_add_eq, glyph]

/-! ## Rows on the screen -/

/-- How many cells behind a row its symbols cover on the screen. -/
def presentCovered : Nat → List Cell → Nat
  | covered, [] => covered
  | 0, cell :: rest => presentCovered (symbolCells cell.symbol.toList - 1) rest
  | more + 1, _ :: rest => presentCovered more rest

/-- No symbol goes over the end of the row. -/
def Contained (cells : List Cell) : Prop :=
  ∀ i cell, cells[i]? = some cell → i + symbolCells cell.symbol.toList ≤ cells.length

theorem presentCells_append (covered : Nat) (cells others : List Cell) :
    presentCells covered (cells ++ others) =
      presentCells covered cells ++ presentCells (presentCovered covered cells) others := by
  induction cells generalizing covered with
  | nil => rfl
  | cons cell rest ih => cases covered <;> simp [presentCells, presentCovered, ih]

theorem presentCovered_append (covered : Nat) (cells others : List Cell) :
    presentCovered covered (cells ++ others) =
      presentCovered (presentCovered covered cells) others := by
  induction cells generalizing covered with
  | nil => rfl
  | cons cell rest ih => cases covered <;> simp [presentCovered, ih]

theorem presentCells_take (covered count : Nat) (cells : List Cell) :
    (presentCells covered cells).take count = presentCells covered (cells.take count) := by
  induction cells generalizing covered count with
  | nil => simp [presentCells]
  | cons cell rest ih =>
      cases count with
      | zero => rfl
      | succ count => cases covered <;> simp [presentCells, ih]

theorem Contained.tail {cell : Cell} (contained : Contained (cell :: cells)) :
    Contained cells := by
  intro i other found
  have bound := contained (i + 1) other found
  rw [List.length_cons] at bound
  omega

theorem Contained.presentCovered_eq (contained : Contained cells)
    (inside : covered ≤ cells.length) : presentCovered covered cells = 0 := by
  induction cells generalizing covered with
  | nil => exact Nat.le_zero.mp inside
  | cons cell rest ih =>
      cases covered with
      | zero =>
          have bound := contained 0 cell rfl
          rw [List.length_cons] at bound
          exact ih contained.tail (by omega)
      | succ more => exact ih contained.tail (Nat.le_of_succ_le_succ inside)

theorem Contained.modify (contained : Contained cells) {i : Nat} (glyph : Glyph)
    (fits : i + symbolCells glyph.symbol.toList ≤ cells.length) :
    Contained (cells.modify i glyph.over) := by
  intro j cell found
  rw [List.length_modify]
  by_cases here : i = j
  · subst here
    rw [List.getElem?_modify_eq] at found
    obtain ⟨before, -, rfl⟩ := Option.map_eq_some_iff.mp found
    exact fits
  · rw [List.getElem?_modify_ne _ _ here] at found
    exact contained j cell found

theorem contained_blank (count : Nat) : Contained (List.replicate count .empty) := by
  intro i cell found
  rw [List.getElem?_replicate] at found
  split at found
  · obtain rfl := Option.some.inj found
    rw [List.length_replicate]
    have single : symbolCells Cell.empty.symbol.toList = 1 := by decide
    omega
  · cases found

namespace Buffer

variable {buffer : Buffer} {y : Nat}

/-- Up to a row no symbol goes over the end of its row. -/
theorem presentCovered_take (count : Nat)
    (contained : ∀ z, buffer.area.y ≤ z → z < buffer.area.y + count →
      presentCovered 0 (buffer.row z) = 0) :
    presentCovered 0 (buffer.cells.toList.take (count * buffer.area.width)) = 0 := by
  induction count with
  | zero => simp [presentCovered]
  | succ count ih =>
      have last := contained (buffer.area.y + count) (Nat.le_add_right _ _) (by omega)
      rw [row_eq, Nat.add_sub_cancel_left] at last
      rw [Nat.succ_mul, List.take_add, presentCovered_append,
        ih fun z below above => contained z below (by omega), last]

/-- A row is presented on its own. -/
theorem row_present (inside : y < buffer.area.bottom) (top : buffer.area.y ≤ y)
    (contained : ∀ z, buffer.area.y ≤ z → z < y → Contained (buffer.row z)) :
    buffer.present.row y = presentCells 0 (buffer.row y) := by
  let start := (y - buffer.area.y) * buffer.area.width
  have covered : presentCovered 0 (buffer.cells.toList.take start) = 0 := by
    refine presentCovered_take _ fun z below above => ?_
    exact (contained z below (by omega)).presentCovered_eq (Nat.zero_le _)
  have length_eq : (presentCells 0 (buffer.cells.toList.take start)).length = start := by
    have below : y - buffer.area.y ≤ buffer.area.height := by
      rw [Rect.bottom] at inside
      omega
    have room := Nat.mul_le_mul_right buffer.area.width below
    rw [Nat.mul_comm buffer.area.height, ← buffer.size_cells] at room
    rw [length_presentCells, List.length_take, Array.length_toList]
    exact Nat.min_eq_left room
  have split := presentCells_append 0 (buffer.cells.toList.take start)
    (buffer.cells.toList.drop start)
  rw [List.take_append_drop, covered] at split
  rw [row_eq, row_eq]
  show ((presentCells 0 buffer.cells.toList).drop start).take buffer.area.width = _
  rw [split, List.drop_left' length_eq, presentCells_take]

end Buffer

end Showcase.Screen
