import Showcase.Proofs.Screen.Rows
import Showcase.Proofs.Text.Likeness
import Showcase.Screen.Border
import Showcase.Screen.Paragraph
import Showcase.Screen.Present
import Showcase.Screen.Scrollbar

/-!
# Buffers that differ in looks

Two buffers are alike if their cells have the same symbols and their looks are in a relation. All
that is drawn alike on both leaves them alike.
-/

namespace Showcase.Screen

open Showcase.Text (Likeness Line Span Style)

/-- Cells with the same symbol, which has no control character in it. -/
structure Cell.Alike (likeness : Likeness) (first second : Cell) : Prop where
  symbol_eq : first.symbol = second.symbol
  printable : first.symbol.toList.any Text.isControl = false
  look : likeness.looks first.look second.look

structure Buffer.Alike (likeness : Likeness) (first second : Buffer) : Prop where
  area_eq : first.area = second.area
  cells : List.Forall₂ (Cell.Alike likeness) first.cells.toList second.cells.toList

/-- Glyphs that draw the same symbol. -/
structure Glyph.Alike (likeness : Likeness) (first second : Glyph) : Prop where
  symbol_eq : first.symbol = second.symbol
  printable : first.symbol.toList.any Text.isControl = false
  cells_eq : first.cells = second.cells
  style : likeness.styles first.style second.style

variable {likeness : Likeness} {style style' : Style}

/-! ## Cells -/

theorem Cell.Alike.empty : Cell.Alike likeness .empty .empty :=
  ⟨rfl, by decide, likeness.plain_looks⟩

/-- Writing a symbol over cells that are alike. -/
theorem Cell.Alike.write {first second : Cell} (alike : Cell.Alike likeness first second)
    {symbol : String} (printable : symbol.toList.any Text.isControl = false)
    (styled : likeness.styles style style') :
    Cell.Alike likeness ((first.withSymbol symbol).withStyle style)
      ((second.withSymbol symbol).withStyle style') :=
  ⟨rfl, printable, likeness.apply alike.look styled⟩

theorem forall₂_modify {R : Cell → Cell → Prop} {change change' : Cell → Cell}
    (changes : ∀ first second, R first second → R (change first) (change' second))
    {first second : List Cell} (alike : List.Forall₂ R first second) (i : Nat) :
    List.Forall₂ R (first.modify i change) (second.modify i change') := by
  induction alike generalizing i with
  | nil => simp
  | cons head tail ih =>
      cases i with
      | zero => exact .cons (changes _ _ head) tail
      | succ i => exact .cons head (ih i)

theorem forall₂_presentCells {first second : List Cell}
    (alike : List.Forall₂ (Cell.Alike likeness) first second) (covered : Nat) :
    List.Forall₂ (Cell.Alike likeness) (presentCells covered first)
      (presentCells covered second) := by
  induction alike generalizing covered with
  | nil => exact .nil
  | cons head tail ih =>
      cases covered with
      | zero =>
          rw [presentCells, presentCells, head.symbol_eq]
          exact .cons head (ih _)
      | succ more => exact .cons .empty (ih more)

/-! ## Glyphs -/

theorem printable_of_mem_drawable {text : String} {cluster : String × Nat}
    (member : cluster ∈ drawable text) : cluster.1.toList.any Text.isControl = false := by
  obtain ⟨letters, rfl, printable, -⟩ := exists_of_mem_drawable member
  rwa [String.toList_ofList]

theorem spanGlyphs_alike (styled : likeness.styles style style') {first second : Span}
    (alike : likeness.Spans first second) :
    List.Forall₂ (Glyph.Alike likeness) (spanGlyphs style first) (spanGlyphs style' second) := by
  rw [spanGlyphs, spanGlyphs, ← alike.text_eq]
  exact Text.forall₂_map_same fun cluster member =>
    ⟨rfl, printable_of_mem_drawable member, rfl, likeness.patch styled alike.style⟩

theorem lineGlyphs_alike {first second : Line} (alike : likeness.Lines first second) :
    List.Forall₂ (Glyph.Alike likeness) (lineGlyphs first) (lineGlyphs second) :=
  List.rel_flatMap alike.spans fun _ _ span => spanGlyphs_alike alike.style span

theorem fitGlyphs_alike {first second : List Glyph}
    (alike : List.Forall₂ (Glyph.Alike likeness) first second) (width room : Nat) :
    List.Forall₂ (Glyph.Alike likeness) (fitGlyphs width room first)
      (fitGlyphs width room second) := by
  induction alike generalizing room with
  | nil => exact .nil
  | cons head tail ih =>
      rw [fitGlyphs, fitGlyphs, ← head.cells_eq]
      split
      · exact ih room
      · split
        · exact .cons head (ih _)
        · exact .nil

/-! ## Drawing -/

namespace Buffer.Alike

variable {first second : Buffer}

theorem blank (area : Rect) : Buffer.Alike likeness (.blank area) (.blank area) := by
  refine ⟨rfl, List.forall₂_same.mpr fun cell member => ?_⟩
  have blank : cell = .empty := by
    simp only [Buffer.blank, Array.toList_replicate] at member
    exact List.eq_of_mem_replicate member
  rw [blank]
  exact .empty

theorem modify (alike : Buffer.Alike likeness first second) (x y : Nat)
    {change change' : Cell → Cell}
    (changes : ∀ cell cell', Cell.Alike likeness cell cell' →
      Cell.Alike likeness (change cell) (change' cell')) :
    Buffer.Alike likeness (first.modify x y change) (second.modify x y change') := by
  refine ⟨by rw [area_modify, area_modify, alike.area_eq], ?_⟩
  rw [toList_modify, toList_modify, Buffer.index, Buffer.index, ← alike.area_eq]
  split
  · exact forall₂_modify changes alike.cells _
  · exact alike.cells

theorem write (alike : Buffer.Alike likeness first second) (x y : Nat) {symbol : String}
    (printable : symbol.toList.any Text.isControl = false) (styled : likeness.styles style style') :
    Buffer.Alike likeness
      (first.modify x y fun cell => (cell.withSymbol symbol).withStyle style)
      (second.modify x y fun cell => (cell.withSymbol symbol).withStyle style') :=
  alike.modify x y fun _ _ cell => cell.write printable styled

theorem foldl {draw draw' : Buffer → Nat → Buffer}
    (draws : ∀ index first second, Buffer.Alike likeness first second →
      Buffer.Alike likeness (draw first index) (draw' second index)) (indices : List Nat)
    (alike : Buffer.Alike likeness first second) :
    Buffer.Alike likeness (indices.foldl draw first) (indices.foldl draw' second) := by
  induction indices generalizing first second with
  | nil => exact alike
  | cons index rest ih => exact ih (draws index _ _ alike)

theorem drawGlyphs (alike : Buffer.Alike likeness first second) (x y : Nat)
    {glyphs glyphs' : List Glyph} (each : List.Forall₂ (Glyph.Alike likeness) glyphs glyphs') :
    Buffer.Alike likeness (first.drawGlyphs x y glyphs) (second.drawGlyphs x y glyphs') := by
  induction each generalizing first second x with
  | nil => exact alike
  | cons head tail ih =>
      rw [Buffer.drawGlyphs, Buffer.drawGlyphs, ← head.symbol_eq, ← head.cells_eq]
      exact ih (alike.write x y head.printable head.style) _

theorem drawRows (alike : Buffer.Alike likeness first second) (x y width height : Nat)
    {lines lines' : List Line} (each : List.Forall₂ likeness.Lines lines lines') :
    Buffer.Alike likeness (first.drawRows x y width height lines)
      (second.drawRows x y width height lines') := by
  induction each generalizing first second y height with
  | nil =>
      cases height <;> exact alike
  | cons head tail ih =>
      cases height with
      | zero => exact alike
      | succ height =>
          exact ih (alike.drawGlyphs x y (fitGlyphs_alike (lineGlyphs_alike head) _ _)) _ _

theorem drawLines (alike : Buffer.Alike likeness first second) (area : Rect)
    {lines lines' : List Line} (each : List.Forall₂ likeness.Lines lines lines') :
    Buffer.Alike likeness (first.drawLines area lines) (second.drawLines area lines') := by
  unfold Buffer.drawLines
  rw [← alike.area_eq]
  exact alike.drawRows _ _ _ _ each

theorem putSymbol (alike : Buffer.Alike likeness first second) (x y : Nat) {symbol : String}
    (printable : symbol.toList.any Text.isControl = false) (styled : likeness.styles style style') :
    Buffer.Alike likeness (first.putSymbol x y symbol style) (second.putSymbol x y symbol style') :=
  alike.write x y printable styled

theorem drawBox (alike : Buffer.Alike likeness first second) (area : Rect)
    (styled : likeness.styles style style') :
    Buffer.Alike likeness (first.drawBox area style) (second.drawBox area style') := by
  unfold Buffer.drawBox
  rw [← alike.area_eq]
  dsimp only
  split
  · exact alike
  · refine .putSymbol (.putSymbol (.putSymbol (.putSymbol ?edges _ _ ?_ styled) _ _ ?_ styled)
      _ _ ?_ styled) _ _ ?_ styled
    case edges =>
      refine .foldl (fun column _ _ alike => ?_) _ (.foldl (fun row _ _ alike => ?_) _ alike)
      · exact (alike.putSymbol _ _ (by decide) styled).putSymbol _ _ (by decide) styled
      · exact (alike.putSymbol _ _ (by decide) styled).putSymbol _ _ (by decide) styled
    all_goals decide

theorem clearRun (alike : Buffer.Alike likeness first second) (x y count : Nat) :
    Buffer.Alike likeness (first.clearRun x y count) (second.clearRun x y count) := by
  induction count generalizing first second x with
  | zero => exact alike
  | succ count ih => exact ih (alike.modify x y fun _ _ _ => .empty) _

theorem putClusters (alike : Buffer.Alike likeness first second) (x y : Nat)
    (styled : likeness.styles style style') (room : Nat) {clusters : List (String × Nat)}
    (printable : ∀ cluster ∈ clusters, cluster.1.toList.any Text.isControl = false) :
    Buffer.Alike likeness (first.putClusters x y style room clusters)
      (second.putClusters x y style' room clusters) := by
  induction clusters generalizing first second x room with
  | nil => exact alike
  | cons cluster rest ih =>
      rw [Buffer.putClusters, Buffer.putClusters]
      split
      · have written := alike.write x y (printable cluster List.mem_cons_self) styled
        exact ih (written.clearRun _ _ _) _ _ fun other member =>
          printable other (List.mem_cons_of_mem _ member)
      · exact alike

theorem setString (alike : Buffer.Alike likeness first second) (x y : Nat) (text : String)
    (styled : likeness.styles style style') :
    Buffer.Alike likeness (first.setString x y text style) (second.setString x y text style') := by
  rw [Buffer.setString, Buffer.setString, ← alike.area_eq]
  exact alike.putClusters x y styled _ fun _ member => printable_of_mem_drawable member

theorem drawScrollbar (alike : Buffer.Alike likeness first second) (area : Rect)
    (styled : likeness.styles style style') (largest offset : Nat) :
    Buffer.Alike likeness (first.drawScrollbar area style largest offset)
      (second.drawScrollbar area style' largest offset) := by
  unfold Buffer.drawScrollbar
  split
  · exact alike
  · refine .foldl (fun row _ _ alike => ?_) _ alike
    exact alike.setString _ _ _ styled

/-! ## The screen -/

theorem present (alike : Buffer.Alike likeness first second) :
    Buffer.Alike likeness first.present second.present :=
  ⟨alike.area_eq, forall₂_presentCells alike.cells 0⟩

theorem symbols_eq (alike : Buffer.Alike likeness first second) :
    first.cells.map Cell.symbol = second.cells.map Cell.symbol := by
  rw [← Array.toList_inj, Array.toList_map, Array.toList_map]
  exact Text.map_eq_of_forall₂ (fun _ _ cell => cell.symbol_eq) alike.cells

end Buffer.Alike

end Showcase.Screen
