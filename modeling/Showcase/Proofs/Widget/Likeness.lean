import Showcase.Proofs.Screen.Likeness
import Showcase.Widget.Help
import Showcase.Widget.Menu
import Showcase.Widget.Viewport

/-!
# Widgets that differ in style

Widgets with the same contents in styles that are in a relation go on having the same contents, and
are drawn alike.
-/

namespace Showcase.Widget

open Showcase.Screen (Buffer Rect)
open Showcase.Text (Likeness Line Span forall₂_map_same)

variable {likeness : Likeness}

/-! ## Menus -/

structure MenuStyle.Alike (likeness : Likeness) (first second : MenuStyle) : Prop where
  title : likeness.styles first.title second.title
  selected : likeness.styles first.selected second.selected
  normal : likeness.styles first.normal second.normal
  indicator_eq : first.indicator = second.indicator

structure Menu.Alike (likeness : Likeness) (first second : Menu) : Prop where
  sections_eq : first.sections = second.sections
  selection_eq : first.selection = second.selection
  style : MenuStyle.Alike likeness first.style second.style
  focused_eq : first.focused = second.focused

namespace Menu

section

variable {style style' : MenuStyle}

theorem itemLines_alike (alike : MenuStyle.Alike likeness style style') (cursor index : Nat)
    (items : List MenuItem) :
    List.Forall₂ likeness.Lines (itemLines style cursor index items)
      (itemLines style' cursor index items) := by
  induction items generalizing index with
  | nil => exact .nil
  | cons item rest ih =>
      refine .cons ?_ (ih (index + 1))
      split
      · rw [selectedLine, selectedLine, ← alike.indicator_eq]
        exact .ofSpans (.cons .raw (.cons ⟨rfl, alike.selected⟩ .nil))
      · exact .ofSpans (.cons .raw (.cons ⟨rfl, alike.normal⟩ .nil))

theorem sectionLines_alike (alike : MenuStyle.Alike likeness style style') (cursor index : Nat)
    (part : MenuSection) :
    List.Forall₂ likeness.Lines (sectionLines style cursor index part)
      (sectionLines style' cursor index part) :=
  .cons (.ofSpans (.cons ⟨rfl, alike.title⟩ .nil)) (itemLines_alike alike cursor index part.items)

theorem linesFrom_alike (alike : MenuStyle.Alike likeness style style') (cursor index : Nat)
    (sections : List MenuSection) :
    List.Forall₂ likeness.Lines (linesFrom style cursor index sections)
      (linesFrom style' cursor index sections) := by
  induction sections generalizing index with
  | nil => exact .nil
  | cons part rest ih =>
      have here := sectionLines_alike alike cursor index part
      cases rest with
      | nil => exact here
      | cons next rest => exact List.rel_append here (.cons .blank (ih _))

end

namespace Alike

variable {first second : Menu}

theorem lines (alike : Menu.Alike likeness first second) :
    List.Forall₂ likeness.Lines first.lines second.lines := by
  rw [Menu.lines, Menu.lines, Menu.cursor, Menu.cursor, alike.sections_eq, alike.selection_eq]
  exact linesFrom_alike alike.style _ _ _

theorem update (alike : Menu.Alike likeness first second) (message : MenuMessage) :
    Menu.Alike likeness (first.update message).1 (second.update message).1 ∧
      (first.update message).2 = (second.update message).2 := by
  cases message with
  | up => exact ⟨{ alike with selection_eq := congrArg Selection.up alike.selection_eq }, rfl⟩
  | down => exact ⟨{ alike with selection_eq := congrArg Selection.down alike.selection_eq }, rfl⟩
  | focus index =>
      exact ⟨{ alike with selection_eq := congrArg (Selection.select · index) alike.selection_eq },
        rfl⟩
  | choose =>
      have cursor_eq : first.cursor = second.cursor := congrArg Selection.cursor alike.selection_eq
      have empty_eq : first.isEmpty = second.isEmpty :=
        congrArg (fun selection => selection.count == 0) alike.selection_eq
      refine ⟨alike, ?_⟩
      simp only [Menu.update]
      rw [empty_eq, cursor_eq]
  | selected => exact ⟨alike, rfl⟩

theorem setFocus (alike : Menu.Alike likeness first second) (focused : Bool) :
    Menu.Alike likeness (first.setFocus focused) (second.setFocus focused) :=
  { alike with focused_eq := rfl }

theorem draw (alike : Menu.Alike likeness first second) (area : Rect) {buffer buffer' : Buffer}
    (drawn : Buffer.Alike likeness buffer buffer') :
    Buffer.Alike likeness (first.draw area buffer) (second.draw area buffer') :=
  drawn.drawLines area alike.lines

end Alike

end Menu

/-! ## Viewports -/

structure Viewport.Alike (likeness : Likeness) (first second : Viewport) : Prop where
  width_eq : first.width = second.width
  height_eq : first.height = second.height
  content : List.Forall₂ likeness.Lines first.content second.content
  rows : List.Forall₂ likeness.Lines first.rows second.rows
  offset_eq : first.offset = second.offset
  scrollbar : likeness.styles first.style.scrollbar second.style.scrollbar
  focused_eq : first.focused = second.focused

namespace Viewport.Alike

variable {first second : Viewport}

theorem maxOffset_eq (alike : Viewport.Alike likeness first second) :
    first.maxOffset = second.maxOffset := by
  rw [maxOffset, maxOffset, alike.rows.length_eq, alike.height_eq]

theorem clamp (alike : Viewport.Alike likeness first second) :
    Viewport.Alike likeness first.clamp second.clamp :=
  { alike with
    offset_eq := by rw [Viewport.clamp, Viewport.clamp, alike.offset_eq, alike.maxOffset_eq] }

theorem rewrap (alike : Viewport.Alike likeness first second) :
    Viewport.Alike likeness first.rewrap second.rewrap := by
  refine clamp { alike with rows := ?_ }
  rw [textWidth, textWidth, alike.width_eq]
  exact Likeness.Lines.wrapLines alike.content _

theorem setContent (alike : Viewport.Alike likeness first second) {lines lines' : List Line}
    (content : List.Forall₂ likeness.Lines lines lines') :
    Viewport.Alike likeness (first.setContent lines) (second.setContent lines') :=
  rewrap { alike with content := content, offset_eq := rfl }

theorem clear (alike : Viewport.Alike likeness first second) :
    Viewport.Alike likeness first.clear second.clear := alike.setContent .nil

theorem setSize (alike : Viewport.Alike likeness first second) (width height : Nat) :
    Viewport.Alike likeness (first.setSize width height) (second.setSize width height) :=
  rewrap { alike with width_eq := rfl, height_eq := rfl }

theorem setFocus (alike : Viewport.Alike likeness first second) (focused : Bool) :
    Viewport.Alike likeness (first.setFocus focused) (second.setFocus focused) :=
  { alike with focused_eq := rfl }

theorem update (alike : Viewport.Alike likeness first second) (message : ViewportMessage) :
    Viewport.Alike likeness (first.update message) (second.update message) := by
  cases message with
  | up rows => exact clamp { alike with offset_eq := congrArg (· - rows) alike.offset_eq }
  | down rows => exact clamp { alike with offset_eq := congrArg (· + rows) alike.offset_eq }

theorem draw (alike : Viewport.Alike likeness first second) (area : Rect)
    {buffer buffer' : Buffer} (drawn : Buffer.Alike likeness buffer buffer') :
    Buffer.Alike likeness (first.draw area buffer) (second.draw area buffer') := by
  have visible : List.Forall₂ likeness.Lines (first.visible area.height)
      (second.visible area.height) := by
    rw [Viewport.visible, Viewport.visible, alike.offset_eq, alike.height_eq]
    exact List.forall₂_take _ (List.forall₂_drop _ alike.rows)
  have lines := drawn.drawLines area visible
  unfold Viewport.draw
  rw [← alike.height_eq, ← alike.rows.length_eq, ← alike.maxOffset_eq, ← alike.offset_eq]
  dsimp only
  split
  · exact lines.drawScrollbar area alike.scrollbar _ _
  · exact lines

end Viewport.Alike

/-! ## Key help -/

structure Help.Alike (likeness : Likeness) (first second : Help) : Prop where
  key : likeness.styles first.style.key second.style.key
  description : likeness.styles first.style.description second.style.description
  separator : likeness.styles first.style.separator second.style.separator
  separator_eq : first.separator = second.separator
  ellipsis_eq : first.ellipsis = second.ellipsis

namespace Help.Alike

variable {first second : Help}

theorem entrySpans (alike : Help.Alike likeness first second) (binding : Binding) :
    List.Forall₂ likeness.Spans (first.entrySpans binding) (second.entrySpans binding) :=
  .cons ⟨rfl, alike.key⟩ (.cons .raw (.cons ⟨rfl, alike.description⟩ .nil))

/-- The same bindings fit into a line. -/
theorem shortSpans (alike : Help.Alike likeness first second) (width used : Nat)
    {between between' : List Span} (before : List.Forall₂ likeness.Spans between between')
    (bindings : List Binding) :
    List.Forall₂ likeness.Spans (first.shortSpans width used between bindings)
      (second.shortSpans width used between' bindings) := by
  induction bindings generalizing used between between' with
  | nil => exact .nil
  | cons binding rest ih =>
      -- What fits is decided by the widths, and these are those of the texts.
      have width_eq := Likeness.Lines.width_eq (.ofSpans before)
      have separator : likeness.Spans first.separatorSpan second.separatorSpan :=
        ⟨alike.separator_eq, alike.separator⟩
      have ellipsis : likeness.Spans first.ellipsisSpan second.ellipsisSpan :=
        ⟨alike.ellipsis_eq, alike.separator⟩
      rw [Help.shortSpans, Help.shortSpans, ← width_eq, ← alike.ellipsis_eq]
      split
      · exact List.rel_append (List.rel_append before (alike.entrySpans binding))
          (ih _ (.cons separator .nil))
      · split
        · exact List.rel_append before (.cons ellipsis .nil)
        · exact .nil

theorem shortLine (alike : Help.Alike likeness first second) (bindings : List Binding)
    (width : Nat) :
    likeness.Lines (first.shortLine bindings width) (second.shortLine bindings width) :=
  .ofSpans (alike.shortSpans width 0 .nil _)

theorem bindingLine (alike : Help.Alike likeness first second) (column : Nat)
    (binding : Binding) :
    likeness.Lines (first.bindingLine column binding) (second.bindingLine column binding) :=
  .ofSpans (.cons .raw (.cons ⟨rfl, alike.key⟩
    (.cons .raw (.cons ⟨rfl, alike.description⟩ .nil))))

theorem fullLines (alike : Help.Alike likeness first second) (groups : List (List Binding)) :
    List.Forall₂ likeness.Lines (first.fullLines groups) (second.fullLines groups) :=
  Likeness.Lines.intercalate (forall₂_map_same fun _ _ =>
    forall₂_map_same fun binding _ => alike.bindingLine _ binding)

end Help.Alike

end Showcase.Widget
