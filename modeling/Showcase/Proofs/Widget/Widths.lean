import Showcase.Proofs.Text.Rewrapping
import Showcase.Proofs.Widget.Viewing

/-!
# Viewports of other widths

Whatever a viewport shows, it has no more rows when it gets wider, since wrapping takes as few rows
as there can be.
-/

namespace Showcase.Widget.Viewport

open Showcase.Text (IsCut Line columns wrapLine wrapLines)

/-- A wider viewport has no more rows. -/
theorem Settled.length_rows_setSize {viewport : Viewport} (settled : viewport.Settled) {wider : Nat}
    (height : Nat) (le : viewport.width ≤ wider) :
    (viewport.setSize wider height).rows.length ≤ viewport.rows.length := by
  have textWidth_le : viewport.textWidth ≤ max (wider - 1) 1 := by
    rw [textWidth]
    omega
  rw [settled.rows_eq]
  exact Text.length_wrapLines_anti viewport.content (Nat.le_max_right _ 1) textWidth_le

/-- Every row is wrapped to itself, its spans and styles included. A wider width gives no more rows
for any lines, and no way to cut a line with text into rows that fit, none of them empty, has fewer
rows than its wrapping. So a viewport never gets more rows by getting wider, whatever was done with
it before. -/
theorem wrapLine_stable_fewest :
    (∀ (line : Line) (width : Nat), ∀ row ∈ wrapLine line width, wrapLine row width = [row]) ∧
    (∀ (lines : List Line) (width wider : Nat), 1 ≤ width → width ≤ wider →
      (wrapLines lines wider).length ≤ (wrapLines lines width).length) ∧
    (∀ (line : Line) (width : Nat), 1 ≤ width → line.characters ≠ [] →
      IsLeast (List.length '' {cuts | IsCut columns width line.characters cuts})
        (wrapLine line width).length) ∧
    ∀ (width height : Nat) (operations : List Operation),
      let viewport := (ofSize width height).run operations
      ∀ wider taller : Nat, viewport.width ≤ wider →
        (viewport.setSize wider taller).rows.length ≤ viewport.rows.length := by
  refine ⟨fun line width row member => Text.wrapLine_row member, ?_, ?_, ?_⟩
  · intro lines width wider positive le
    exact Text.length_wrapLines_anti lines positive le
  · intro line width positive text
    exact Text.isLeast_length_wrapLine positive text
  · intro width height operations viewport wider taller le
    have settled : viewport.Settled := (settled_ofSize width height).run operations
    exact settled.length_rows_setSize taller le

/-- Marks behind a narrow and behind a wide letter, the wide ones in a style of their own. -/
def markedSample : Line :=
  .ofSpans [.raw "e\u0301", { text := "漢\u0301字", style := { foreground := some .red } }, .raw "b"]

/-- In one column a mark behind a wide letter starts a row. -/
theorem wrapLine_stable_fewest_markedSample :
    (wrapLine markedSample 1).map Line.text = ["e\u0301", "漢", "\u0301字", "b"] ∧
    (∀ row ∈ wrapLine markedSample 1, wrapLine row 1 = [row]) ∧
    IsLeast (List.length '' {cuts | IsCut columns 1 markedSample.characters cuts}) 4 ∧
    (wrapLines [markedSample] 3).length = 2 ∧
    (wrapLines [markedSample] 3).length ≤ (wrapLines [markedSample] 1).length ∧
    (((ofSize 2 4).setContent [markedSample]).setSize 4 4).rows.length ≤ 4 := by
  obtain ⟨stable, narrow, least, widening⟩ := wrapLine_stable_fewest
  have rows_eq : (wrapLine markedSample 1).length = 4 := by decide +kernel
  have few := widening 2 4 [.content [markedSample]] 4 4 (by decide)
  refine ⟨by decide +kernel, stable markedSample 1, ?_, by decide +kernel,
    narrow [markedSample] 1 3 (by decide) (by decide), ?_⟩
  · rw [← rows_eq]
    exact least markedSample 1 (by decide) (by decide +kernel)
  · refine Nat.le_trans few ?_
    decide +kernel

end Showcase.Widget.Viewport
