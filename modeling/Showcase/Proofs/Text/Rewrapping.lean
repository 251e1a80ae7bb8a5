import Mathlib.Data.Set.Operations
import Mathlib.Order.Bounds.Defs
import Showcase.Proofs.Text.Wrapping

/-!
# Wrapping again

A row is wrapped to itself. No way to cut a line has fewer rows than wrapping it, since a greedy cut
never has more left than another one after as many rows; so a wider width gives no more rows.
-/

namespace Showcase.Text

/-! ## The fewest rows -/

section

variable {α : Type} {size : α → Nat} {width wider : Nat} {row : List α} {rows cuts : List (List α)}

/-- A way to cut a text into rows that fit, none of them empty. -/
structure IsCut (size : α → Nat) (width : Nat) (text : List α) (cuts : List (List α)) : Prop where
  flatten_eq : cuts.flatten = text
  full : ∀ cut ∈ cuts, cut ≠ []
  fits : ∀ cut ∈ cuts, Fits size width cut

/-- What fits a width fits a wider one. -/
theorem Fits.mono (fits : Fits size width row) (le : width ≤ wider) : Fits size wider row := by
  rcases fits with short | ⟨marks, item, rfl, none, -⟩
  · exact .inl (Nat.le_trans short le)
  · by_cases exceeds : wider < size item
    · exact .inr ⟨marks, item, rfl, none, exceeds⟩
    · have zero : extent size marks = 0 := extent_eq_zero_iff.mpr none
      have single : extent size [item] = size item := Nat.add_zero _
      refine .inl ?_
      rw [extent_append, zero, single]
      omega

/-- A greedy cut that has no more left than another one goes on with no more rows. -/
theorem Greedy.length_le_of_suffix (greedy : Greedy size width rows) (full : [] ∉ rows)
    (fits : ∀ cut ∈ cuts, Fits size width cut) (ahead : rows.flatten <:+ cuts.flatten) :
    rows.length ≤ cuts.length := by
  induction cuts generalizing rows with
  | nil =>
      cases rows with
      | nil => exact Nat.le_refl 0
      | cons row rows =>
          have empty : row = [] := (List.append_eq_nil_iff.mp (List.suffix_nil.mp ahead)).1
          exact absurd (empty ▸ List.mem_cons_self) full
  | cons cut cuts ih =>
      cases rows with
      | nil => exact Nat.zero_le _
      | cons row rows =>
          have later : rows.flatten <:+ cuts.flatten :=
            greedy.stays_ahead (fits cut List.mem_cons_self) ahead
          exact Nat.succ_le_succ (ih greedy.tail (fun inside => full (List.mem_cons_of_mem _ inside))
            (fun other member => fits other (List.mem_cons_of_mem _ member)) later)

/-- No cut into rows that fit has fewer rows than a greedy one. -/
theorem Greedy.length_le (greedy : Greedy size width rows) (some : cuts ≠ [])
    (fits : ∀ cut ∈ cuts, Fits size width cut) (same : rows.flatten = cuts.flatten) :
    rows.length ≤ cuts.length := by
  by_cases empty : [] ∈ rows
  · rw [greedy.eq_of_nil_mem empty]
    exact List.length_pos_of_ne_nil some
  · exact greedy.length_le_of_suffix empty fits (same ▸ List.suffix_refl _)

end

variable {line row : Line} {width wider : Nat} {cuts : List (List Char)}

theorem length_wrapLine_le (positive : 0 < width) (some : cuts ≠ [])
    (fits : ∀ cut ∈ cuts, Fits columns width cut) (same : cuts.flatten = line.characters) :
    (wrapLine line width).length ≤ cuts.length := by
  rw [← List.length_map Line.characters]
  exact (greedy_wrapLine line positive).length_le some fits
    ((flatten_characters_wrapLine line width).trans same.symm)

/-- The rows of a line with text are one way to cut it. -/
theorem isCut_wrapLine (positive : 0 < width) (text : line.characters ≠ []) :
    IsCut columns width line.characters ((wrapLine line width).map Line.characters) where
  flatten_eq := flatten_characters_wrapLine line width
  full cut member empty := by
    obtain ⟨row, inside, rfl⟩ := List.mem_map.mp member
    exact text (wrapLine_of_empty inside empty).2.1
  fits := (greedy_wrapLine line positive).fits

/-- No way to cut a line with text has fewer rows. -/
theorem isLeast_length_wrapLine (positive : 0 < width) (text : line.characters ≠ []) :
    IsLeast (List.length '' {cuts | IsCut columns width line.characters cuts})
      (wrapLine line width).length := by
  refine ⟨⟨_, isCut_wrapLine positive text, List.length_map _⟩, ?_⟩
  rintro _ ⟨cuts, cut, rfl⟩
  refine length_wrapLine_le positive ?_ cut.fits cut.flatten_eq
  rintro rfl
  exact text cut.flatten_eq.symm

/-- The rows for a narrow width fit a wider one. -/
theorem length_wrapLine_anti (line : Line) (positive : 0 < width) (le : width ≤ wider) :
    (wrapLine line wider).length ≤ (wrapLine line width).length := by
  have fits : ∀ cut ∈ (wrapLine line width).map Line.characters, Fits columns wider cut :=
    fun cut member => ((greedy_wrapLine line positive).fits cut member).mono le
  have most := length_wrapLine_le (Nat.lt_of_lt_of_le positive le)
    (mt List.map_eq_nil_iff.mp (wrapLine_ne_nil line width)) fits
    (flatten_characters_wrapLine line width)
  rwa [List.length_map] at most

theorem length_wrapLines_anti (lines : List Line) (positive : 0 < width) (le : width ≤ wider) :
    (wrapLines lines wider).length ≤ (wrapLines lines width).length := by
  induction lines with
  | nil => exact Nat.le_refl 0
  | cons line rest ih =>
      have first := length_wrapLine_anti line positive le
      simp only [wrapLines, List.flatMap_cons, List.length_append] at ih ⊢
      omega

/-! ## Rows that stay whole -/

namespace Wrapping

variable {lineStyle style : Style} {state : Wrapping}

/-- Text after which no row is finished is all on the open row. -/
theorem pushChars_whole {text : List Char}
    (whole : (text.foldl (pushChar width lineStyle style) state).rows = []) :
    state.rows = [] ∧
      (text.foldl (pushChar width lineStyle style) state).row.spans = state.row.spans ∧
      (text.foldl (pushChar width lineStyle style) state).row.text =
        text.reverse ++ state.row.text := by
  induction text generalizing state with
  | nil => exact ⟨whole, rfl, rfl⟩
  | cons c text ih =>
      obtain ⟨rows_eq, spans_eq, text_eq⟩ := ih whole
      rw [List.foldl_cons, spans_eq, text_eq]
      unfold pushChar at rows_eq ⊢
      split at rows_eq
      · cases rows_eq
      · rename_i goesOn
        rw [if_neg goesOn]
        exact ⟨rows_eq, rfl, by simp [OpenRow.push]⟩

theorem pushSpan_whole {span : Span} (closed : state.row.text = []) (some : span.text ≠ "")
    (whole : (pushSpan width lineStyle state span).rows = []) :
    state.rows = [] ∧
      (pushSpan width lineStyle state span).row.spans = span :: state.row.spans := by
  obtain ⟨rows_eq, spans_eq, text_eq⟩ := pushChars_whole whole
  rw [closed, List.append_nil] at text_eq
  refine ⟨rows_eq, ?_⟩
  have full : span.text.toList.reverse ≠ [] := by simpa using some
  simp only [pushSpan, OpenRow.closeSpan, text_eq, List.isEmpty_iff, full, if_false, spans_eq,
    List.reverse_reverse, String.ofList_toList]

theorem pushSpans_whole {spans : List Span} (closed : state.row.text = [])
    (some : ∀ span ∈ spans, span.text ≠ "")
    (whole : (spans.foldl (pushSpan width lineStyle) state).rows = []) :
    state.rows = [] ∧ (spans.foldl (pushSpan width lineStyle) state).row.spans =
      spans.reverse ++ state.row.spans := by
  induction spans generalizing state with
  | nil => exact ⟨whole, rfl⟩
  | cons span spans ih =>
      obtain ⟨rows_eq, spans_eq⟩ := ih (text_pushSpan state span)
        (fun other member => some other (List.mem_cons_of_mem _ member)) whole
      obtain ⟨rows_eq, first_eq⟩ := pushSpan_whole closed (some span List.mem_cons_self) rows_eq
      refine ⟨rows_eq, ?_⟩
      rw [List.foldl_cons, spans_eq, first_eq, List.reverse_cons, List.append_assoc,
        List.singleton_append]

end Wrapping

/-- A line that is wrapped to one row is that row, if none of its spans is empty. -/
theorem wrapLine_whole (some : ∀ span ∈ line.spans, span.text ≠ "")
    (single : (wrapLine line width).length = 1) : wrapLine line width = [line] := by
  have whole : (line.spans.foldl (Wrapping.pushSpan width line.style) {}).rows = [] := by
    simpa [wrapLine] using single
  obtain ⟨-, spans_eq⟩ := Wrapping.pushSpans_whole rfl some whole
  simp [wrapLine, whole, OpenRow.toLine, spans_eq]

/-- A row that fits takes one row. -/
theorem length_wrapLine_row (member : row ∈ wrapLine line width) :
    (wrapLine row width).length = 1 := by
  cases width with
  | zero =>
      obtain ⟨only, rows_eq⟩ := wrapLine_zero row
      rw [rows_eq, List.length_singleton]
  | succ width =>
      have positive := Nat.succ_pos width
      have fits := (greedy_wrapLine line positive).fits _ (List.mem_map_of_mem member)
      have most := length_wrapLine_le positive (List.cons_ne_nil row.characters [])
        (by simpa using fits) (List.append_nil _)
      exact Nat.le_antisymm most (List.length_pos_of_ne_nil (wrapLine_ne_nil row _))

/-- Every row is wrapped to itself. -/
theorem wrapLine_row (member : row ∈ wrapLine line width) : wrapLine row width = [row] :=
  wrapLine_whole (solid_wrapLine member).2 (length_wrapLine_row member)

end Showcase.Text
