import Showcase.Proofs.Screen.Drawing
import Showcase.Proofs.Widget.Windows

/-!
# What a viewport shows

After any operations a viewport has the rows of its latest content at its latest size. It shows
those from its offset on, as many as its height and that of the area have room for.
-/

namespace Showcase.Widget.Viewport

open Showcase.Screen (Buffer Rect writeLine)
open Showcase.Text (Line wrapLines)

/-! ## Operations -/

inductive Operation where
  | content (lines : List Line)
  | clear
  | size (width height : Nat)
  | message (message : ViewportMessage)
  | style (style : ViewportStyle)
  | focus (focused : Bool)

def apply (viewport : Viewport) : Operation → Viewport
  | .content lines => viewport.setContent lines
  | .clear => viewport.clear
  | .size width height => viewport.setSize width height
  | .message message => viewport.update message
  | .style style => viewport.withStyle style
  | .focus focused => viewport.setFocus focused

def run (viewport : Viewport) (operations : List Operation) : Viewport :=
  operations.foldl apply viewport

/-- The content that an operation sets. -/
def Operation.content? : Operation → Option (List Line)
  | .content lines => some lines
  | .clear => some []
  | _ => none

/-- The width and the height that an operation sets. -/
def Operation.size? : Operation → Option (Nat × Nat)
  | .size width height => some (width, height)
  | _ => none

def latestContent (operations : List Operation) : List Line :=
  (operations.filterMap Operation.content?).getLast?.getD []

def latestSize (first : Nat × Nat) (operations : List Operation) : Nat × Nat :=
  (operations.filterMap Operation.size?).getLast?.getD first

variable {viewport : Viewport}

theorem Settled.apply (settled : viewport.Settled) (operation : Operation) :
    (viewport.apply operation).Settled := by
  cases operation with
  | content lines => exact settled_setContent viewport lines
  | clear => exact settled_setContent viewport []
  | size width height => exact settled_setSize viewport width height
  | message message => exact settled.update message
  | style style => exact settled.withStyle style
  | focus focused => exact settled.setFocus focused

theorem Settled.run (settled : viewport.Settled) (operations : List Operation) :
    (viewport.run operations).Settled :=
  List.foldlRecOn operations _ settled fun _ settled operation _ => settled.apply operation

theorem content_apply (viewport : Viewport) (operation : Operation) :
    (viewport.apply operation).content = operation.content?.getD viewport.content := by
  cases operation with
  | message message => cases message <;> rfl
  | _ => rfl

theorem size_apply (viewport : Viewport) (operation : Operation) :
    ((viewport.apply operation).width, (viewport.apply operation).height) =
      operation.size?.getD (viewport.width, viewport.height) := by
  cases operation with
  | message message => cases message <;> rfl
  | _ => rfl

/-- What each operation sets or leaves alone is in the end what was set last. -/
theorem latest_run {α : Type} (value : Viewport → α) {set? : Operation → Option α}
    (each : ∀ viewport operation,
      value (apply viewport operation) = (set? operation).getD (value viewport))
    (viewport : Viewport) (operations : List Operation) : value (viewport.run operations) =
      (operations.filterMap set?).getLast?.getD (value viewport) := by
  induction operations generalizing viewport with
  | nil => rfl
  | cons operation rest ih =>
      have later : value ((viewport.apply operation).run rest) = _ := ih (viewport.apply operation)
      rw [run, List.foldl_cons, ← run, later, each, List.filterMap_cons]
      cases set? operation with
      | none => rfl
      | some set => rw [List.getLast?_cons, Option.getD_some, Option.getD_some]

theorem content_run (width height : Nat) (operations : List Operation) :
    ((ofSize width height).run operations).content = latestContent operations :=
  latest_run content content_apply (ofSize width height) operations

theorem size_run (width height : Nat) (operations : List Operation) :
    let viewport := (ofSize width height).run operations
    (viewport.width, viewport.height) = latestSize (width, height) operations :=
  latest_run (fun viewport => (viewport.width, viewport.height)) size_apply
    (ofSize width height) operations

/-! ## Windows -/

/-- Another size lowers the offset, if it is beyond the last full window. -/
theorem offset_setSize (viewport : Viewport) (width height : Nat) :
    (viewport.setSize width height).offset =
      min viewport.offset (viewport.setSize width height).maxOffset := rfl

/-- The end of the rows that are shown at some height. -/
def lastShown (viewport : Viewport) (height : Nat) : Nat :=
  min (viewport.offset + min height viewport.height) viewport.rows.length

theorem Settled.offset_le_lastShown (settled : viewport.Settled) (height : Nat) :
    viewport.offset ≤ viewport.lastShown height := by
  have offset_le := settled.offset_le
  rw [maxOffset] at offset_le
  rw [lastShown]
  omega

/-- The rows that are shown are a slice of all rows. -/
theorem visible_eq (viewport : Viewport) (height : Nat) : viewport.visible height =
    (viewport.rows.take (viewport.lastShown height)).drop viewport.offset := by
  have same : viewport.rows.take (viewport.offset + min height viewport.height) =
      viewport.rows.take (viewport.lastShown height) := by
    rw [List.take_eq_take_iff, lastShown, Nat.min_assoc, Nat.min_self]
  rw [visible, List.take_drop, same]

theorem length_visible (viewport : Viewport) (height : Nat) : (viewport.visible height).length =
    min (min height viewport.height) (viewport.rows.length - viewport.offset) := by
  rw [visible, List.length_take, List.length_drop]

/-- At the largest offset the last row is shown. -/
theorem lastShown_of_maxOffset {height : Nat} (full : viewport.offset = viewport.maxOffset)
    (high : viewport.height ≤ height) : viewport.lastShown height = viewport.rows.length := by
  rw [lastShown, full, maxOffset]
  omega

theorem getLast?_visible {height : Nat} (full : viewport.offset = viewport.maxOffset)
    (high : viewport.height ≤ height) (positive : 0 < viewport.height) :
    (viewport.visible height).getLast? = viewport.rows.getLast? := by
  rw [visible_eq, lastShown_of_maxOffset full high, List.take_length, List.getLast?_drop, full,
    maxOffset]
  split
  · have none : viewport.rows = [] := List.length_eq_zero_iff.mp (by omega)
    rw [none]
    rfl
  · rfl

/-! ## Drawing -/

/-- A viewport draws its window, and beside it at most a scrollbar in the last column. -/
theorem spares_draw (viewport : Viewport) {buffer : Buffer} {area : Rect} {count : Nat}
    (kept : count ≤ area.right - 1 - buffer.area.x) :
    Buffer.Spares count (buffer.drawLines area (viewport.visible area.height))
      (viewport.draw area buffer) := by
  unfold draw
  simp only
  split
  · exact Buffer.spares_drawScrollbar (by rwa [Buffer.area_drawLines])
  · exact .refl _ _

/-- Before the last column of an area its rows get the rows that are shown, one each, as far as the
area lies in the buffer. -/
theorem row_draw (viewport : Viewport) {buffer : Buffer} (area : Rect) {z : Nat}
    (below : buffer.area.y ≤ z) :
    let clip := buffer.area.intersection area
    let before := area.right - 1 - buffer.area.x
    ((viewport.draw area buffer).row z).take before =
      (if clip.y ≤ z then
        writeLine (buffer.row z) (clip.x - buffer.area.x) clip.width
          ((viewport.visible area.height).take clip.height)[z - clip.y]?
      else buffer.row z).take before := by
  intro clip before
  rw [(viewport.spares_draw (Nat.le_refl before)).rows z (by rwa [Buffer.area_drawLines]),
    Buffer.row_drawLines_clipped area below]

/-- After any operations a viewport has the rows of its latest content at its latest size, and an
offset from which the window is full or shows all of them. Scrolling moves the offset as far as
asked for, or to one of its bounds; other content is shown from its top; another size only lowers
the offset to the new bound. In any area the rows from the offset on are drawn, as many as fit into
the area and the height of the viewport, and at the largest offset the last one is among them. -/
theorem run_window (width height : Nat) (operations : List Operation) :
    let viewport := (ofSize width height).run operations
    let size := latestSize (width, height) operations
    let most := viewport.rows.length - size.2
    (viewport.rows = wrapLines (latestContent operations) (max (size.1 - 1) 1) ∧
      viewport.offset ≤ most) ∧
    (∀ count, (viewport.update (.up count)).offset = viewport.offset - count ∧
      (viewport.update (.down count)).offset = min (viewport.offset + count) most) ∧
    ((∀ lines, (viewport.setContent lines).offset = 0) ∧ viewport.clear.offset = 0) ∧
    (∀ columns rows, (viewport.setSize columns rows).offset =
      min viewport.offset ((viewport.setSize columns rows).rows.length - rows)) ∧
    ∀ area : Rect,
      let shown := viewport.visible area.height
      let last := min (viewport.offset + min area.height size.2) viewport.rows.length
      (viewport.offset ≤ last ∧ last ≤ viewport.rows.length ∧
        shown = (viewport.rows.take last).drop viewport.offset ∧
        shown.length = min (min area.height size.2) (viewport.rows.length - viewport.offset)) ∧
      (size.2 ≤ area.height → 1 ≤ size.2 → viewport.offset = most →
        shown.getLast? = viewport.rows.getLast?) ∧
      ∀ (buffer : Buffer) (z : Nat), buffer.area.y ≤ z →
        let clip := buffer.area.intersection area
        let before := area.right - 1 - buffer.area.x
        ((viewport.draw area buffer).row z).take before =
          (if clip.y ≤ z then
            writeLine (buffer.row z) (clip.x - buffer.area.x) clip.width
              (shown.take clip.height)[z - clip.y]?
          else buffer.row z).take before := by
  intro viewport size most
  have settled : viewport.Settled := (settled_ofSize width height).run operations
  have content_eq : viewport.content = latestContent operations :=
    content_run width height operations
  have size_eq : (viewport.width, viewport.height) = size := size_run width height operations
  have width_eq : viewport.width = size.1 := congrArg Prod.fst size_eq
  have height_eq : viewport.height = size.2 := congrArg Prod.snd size_eq
  have most_eq : viewport.maxOffset = most := congrArg (viewport.rows.length - ·) height_eq
  refine ⟨⟨?_, most_eq ▸ settled.offset_le⟩, fun count => ⟨settled.offset_up count, ?_⟩,
    ⟨viewport.offset_setContent, viewport.offset_setContent []⟩, viewport.offset_setSize, ?_⟩
  · rw [settled.rows_eq, content_eq, textWidth, width_eq]
  · rw [offset_down, most_eq]
  · intro area shown last
    have last_eq : viewport.lastShown area.height = last := by rw [lastShown, height_eq]
    refine ⟨⟨?_, Nat.min_le_right _ _, ?_, ?_⟩, fun high positive full => ?_, ?_⟩
    · exact last_eq ▸ settled.offset_le_lastShown area.height
    · exact last_eq ▸ viewport.visible_eq area.height
    · exact height_eq ▸ viewport.length_visible area.height
    · exact getLast?_visible (full.trans most_eq.symm) (height_eq ▸ high) (height_eq ▸ positive)
    · exact fun buffer z below => viewport.row_draw area below

/-- A long line and a short one, narrowed after scrolling down, and scrolled again. -/
def sample : List Operation :=
  [.content [.raw "Rows of a viewport", .raw "to scroll"], .message (.down 1), .size 6 2,
    .message (.up 3), .focus true, .message (.down 9)]

theorem run_window_sample : ((ofSize 20 4).run sample).offset = 4 ∧
    (((ofSize 20 4).run sample).visible 3).getLast? = some (.raw "roll") := by
  refine ⟨by decide +kernel, ?_⟩
  rw [((run_window 20 4 sample).2.2.2.2 ⟨0, 0, 20, 3⟩).2.1 (by decide) (by decide)
    (by decide +kernel)]
  decide +kernel

end Showcase.Widget.Viewport
