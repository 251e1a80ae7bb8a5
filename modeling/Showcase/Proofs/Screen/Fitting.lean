import Mathlib.Algebra.GroupWithZero.Nat
import Showcase.Proofs.Screen.Drawing
import Showcase.Proofs.Text.Widening

/-!
# Rows that fit

Wrapping counts the columns of characters one by one, but a row is measured and drawn as a text. It
fits up to the columns that its control characters and its selectors add, and it is drawn without
loss if there are none of them and no voicing marks.
-/

namespace Showcase.Screen

open Showcase.Text

/-! ## Bounds of the parts of a text -/

/-- The columns that a text takes at most. -/
def columnBound (text : List Char) : Nat :=
  extent columns text + text.countP isControl + widened text

/-- The cells that a text is drawn on at most. -/
def cellBound (text : List Char) : Nat := columnBound text + text.countP isVoicing

theorem columnBound_append (first second : List Char) :
    columnBound first + columnBound second ≤ columnBound (first ++ second) := by
  have widened := widened_append first second
  simp only [columnBound, extent_append, List.countP_append]
  omega

theorem cellBound_append (first second : List Char) :
    cellBound first + cellBound second ≤ cellBound (first ++ second) := by
  have bound := columnBound_append first second
  simp only [cellBound, List.countP_append]
  omega

/-- What is bounded for each part of a text is bounded for the text, if parts do not lose by being
put together. -/
theorem sum_le_flatten {α : Type} {size : α → Nat} {letters : α → List Char}
    {bound : List Char → Nat}
    (grows : ∀ first second, bound first + bound second ≤ bound (first ++ second)) {parts : List α}
    (each : ∀ part ∈ parts, size part ≤ bound (letters part)) :
    (parts.map size).sum ≤ bound (parts.flatMap letters) := by
  induction parts with
  | nil => exact Nat.zero_le _
  | cons part rest ih =>
      have first := each part List.mem_cons_self
      have others := ih fun other member => each other (List.mem_cons_of_mem _ member)
      have together := grows (letters part) (rest.flatMap letters)
      rw [List.map_cons, List.sum_cons, List.flatMap_cons]
      omega

/-! ## Columns of a line -/

variable {line row : Line} {width room : Nat} {glyphs : List Glyph}

theorem toList_lineText (line : Line) : line.text.toList = line.characters := by
  rw [Line.text, String.toList_join, List.flatMap_map, Line.characters]

theorem width_text_le (line : Line) : Text.width line.text ≤ columnBound line.characters := by
  rw [Text.width, toList_lineText]
  exact measure_le line.characters

theorem width_eq_sum (line : Line) : line.width = (line.spans.map Span.width).sum := by
  rw [Line.width, ← List.foldl_map, List.sum_eq_foldl]

theorem width_le (line : Line) : line.width ≤ columnBound line.characters := by
  rw [width_eq_sum]
  exact sum_le_flatten columnBound_append fun span _ => measure_le span.text.toList

/-! ## Cells of a line -/

/-- A cluster without control characters takes no more cells than it may. -/
theorem symbolCells_le {cluster : List Char} (printable : cluster.any isControl = false) :
    symbolCells cluster ≤ cellBound cluster := by
  have counted : symbolCells.count cluster = measure cluster + cluster.countP isVoicing := rfl
  have measured : measure cluster ≤ columnBound cluster := measure_le cluster
  have most : symbolCells.count cluster ≤ cellBound cluster := by
    rw [cellBound]
    omega
  unfold symbolCells
  split
  · rename_i c
    split
    · rename_i low
      have one : 1 ≤ columns c := columns_of_low (by omega) (by simpa using printable)
      rw [cellBound, columnBound, extent_cons]
      omega
    · exact most
  · exact most

theorem cells_drawable_le (text : String) :
    ((drawable text).map Prod.snd).sum ≤ cellBound text.toList := by
  simp only [drawable]
  conv_rhs => rw [← flatten_clusters text.toList]
  induction clusters text.toList with
  | nil => exact Nat.zero_le _
  | cons cluster rest ih =>
      have together := cellBound_append cluster rest.flatten
      rw [List.filterMap_cons, List.flatten_cons]
      by_cases dropped : (cluster.any isControl || symbolCells cluster == 0) = true
      · simp only [dropped, if_true]
        omega
      · have printable : cluster.any isControl = false := by
          simp only [Bool.or_eq_true, not_or, Bool.not_eq_true] at dropped
          exact dropped.1
        have first := symbolCells_le printable
        simp only [dropped, Bool.false_eq_true, if_false, List.map_cons, List.sum_cons]
        omega

theorem glyphColumns_lineGlyphs_le (line : Line) :
    glyphColumns (lineGlyphs line) ≤ cellBound line.characters := by
  have spans : glyphColumns (lineGlyphs line) =
      (line.spans.map fun span => ((drawable span.text).map Prod.snd).sum).sum := by
    rw [glyphColumns, lineGlyphs, List.map_flatMap, List.flatMap_def, List.sum_flatten,
      List.map_map]
    refine congrArg List.sum (List.map_congr_left fun span _ => ?_)
    rw [Function.comp_apply, spanGlyphs, List.map_map]
    rfl
  rw [spans]
  exact sum_le_flatten cellBound_append fun span _ => cells_drawable_le span.text

/-- Glyphs that have room are all drawn. -/
theorem fitGlyphs_eq_self (fits : glyphColumns glyphs ≤ room) (inside : room ≤ width) :
    fitGlyphs width room glyphs = glyphs := by
  induction glyphs generalizing room with
  | nil => rfl
  | cons glyph rest ih =>
      rw [glyphColumns, List.map_cons, List.sum_cons] at fits
      have others : glyphColumns rest ≤ room - glyph.cells := by
        rw [glyphColumns]
        omega
      rw [fitGlyphs, if_neg (by omega), if_pos (by omega), ih others (by omega)]

/-! ## Rows of a wrapped line -/

/-- The characters of a row take the width at most, one by one. -/
theorem extent_row_le (positive : 0 < width) (narrow : ∀ c ∈ line.characters, columns c ≤ width)
    (member : row ∈ wrapLine line width) : extent columns row.characters ≤ width := by
  have listed : row.characters ∈ (wrapLine line width).map Line.characters :=
    List.mem_map_of_mem member
  rcases (greedy_wrapLine line positive).fits _ listed with short | ⟨marks, c, split, -, wide⟩
  · exact short
  · have inside : c ∈ line.characters := by
      rw [← flatten_characters_wrapLine line width]
      refine List.mem_flatten.mpr ⟨_, listed, ?_⟩
      rw [split]
      exact List.mem_append_right _ List.mem_cons_self
    exact absurd (narrow c inside) (Nat.not_le_of_lt wide)

/-- A row of a wrapped line is no wider than the width, but for a column for every control character
on it and for every character that a selector widens; a row without these and without voicing marks
is drawn to its end. -/
theorem wrapLine_fits (line : Line) (width : Nat) (positive : 0 < width)
    (narrow : ∀ c ∈ line.characters, columns c ≤ width) :
    ∀ row ∈ wrapLine line width,
      let added := row.characters.countP isControl + widened row.characters
      Text.width row.text ≤ width + added ∧ row.width ≤ width + added ∧
        (added + row.characters.countP isVoicing = 0 →
          fitGlyphs width width (lineGlyphs row) = lineGlyphs row) := by
  intro row member added
  have counted := extent_row_le positive narrow member
  have bound : columnBound row.characters ≤ width + added := by
    rw [columnBound]
    omega
  refine ⟨(width_text_le row).trans bound, (width_le row).trans bound, fun none => ?_⟩
  refine fitGlyphs_eq_self ((glyphColumns_lineGlyphs_le row).trans ?_) (Nat.le_refl width)
  rw [cellBound]
  omega

/-- Letters, a wide letter, and a heart that its selector widens, in two spans. -/
def heartSample : Line :=
  .ofSpans [.raw "ab漢", { text := "c❤️", style := { foreground := some .red } }]

theorem wrapLine_fits_heartSample : (wrapLine heartSample 2).map Line.text = ["ab", "漢", "c❤️"] ∧
    ∀ row ∈ wrapLine heartSample 2,
      Text.width row.text ≤ 2 + (row.characters.countP isControl + widened row.characters) := by
  have narrow : heartSample.characters.all (columns · ≤ 2) = true := by decide +kernel
  refine ⟨by decide +kernel, fun row member => ?_⟩
  refine (wrapLine_fits heartSample 2 (by decide) (fun c inside => ?_) row member).1
  simpa using List.all_eq_true.mp narrow c inside

/-- A heart takes one column when a row is filled and two when it is measured. -/
theorem not_wrapLine_fits : ¬ ∀ (line : Line) (width : Nat), 0 < width →
    (∀ c ∈ line.characters, columns c ≤ width) →
      ∀ row ∈ wrapLine line width, Text.width row.text ≤ width := by
  intro fits
  have narrow : (Line.raw "ab❤️").characters.all (columns · ≤ 3) = true := by decide +kernel
  have row_eq : wrapLine (.raw "ab❤️") 3 = [.raw "ab❤️"] := by decide +kernel
  have wide := fits (.raw "ab❤️") 3 (by decide)
    (fun c inside => by simpa using List.all_eq_true.mp narrow c inside) (.raw "ab❤️")
    (by rw [row_eq]; exact List.mem_cons_self)
  exact absurd wide (by decide +kernel)

end Showcase.Screen
