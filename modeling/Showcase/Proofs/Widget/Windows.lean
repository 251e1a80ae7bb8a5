import Showcase.Widget.Viewport

/-!
# Windows of a viewport

Every operation leaves a viewport with its content wrapped to its width, at an offset from which the
window is full or shows all that there is.
-/

namespace Showcase.Widget.Viewport

open Showcase.Text (Line wrapLines)

/-- The rows are those of the content, and the offset is not beyond the last full window. -/
structure Settled (viewport : Viewport) : Prop where
  rows_eq : viewport.rows = wrapLines viewport.content viewport.textWidth
  offset_le : viewport.offset ≤ viewport.maxOffset

variable {viewport : Viewport}

theorem settled_ofSize (width height : Nat) : (ofSize width height).Settled := ⟨rfl, Nat.zero_le _⟩

theorem settled_rewrap (viewport : Viewport) : viewport.rewrap.Settled :=
  ⟨rfl, Nat.min_le_right _ _⟩

theorem settled_setContent (viewport : Viewport) (content : List Line) :
    (viewport.setContent content).Settled := settled_rewrap _

theorem settled_setSize (viewport : Viewport) (width height : Nat) :
    (viewport.setSize width height).Settled := settled_rewrap _

theorem Settled.withStyle (settled : viewport.Settled) (style : ViewportStyle) :
    (viewport.withStyle style).Settled := ⟨settled.rows_eq, settled.offset_le⟩

theorem Settled.setFocus (settled : viewport.Settled) (focused : Bool) :
    (viewport.setFocus focused).Settled := ⟨settled.rows_eq, settled.offset_le⟩

theorem Settled.update (settled : viewport.Settled) (message : ViewportMessage) :
    (viewport.update message).Settled := by
  cases message with
  | up rows => exact ⟨settled.rows_eq, Nat.min_le_right _ _⟩
  | down rows => exact ⟨settled.rows_eq, Nat.min_le_right _ _⟩

/-- Scrolling up goes as far as asked for, or to the top. -/
theorem Settled.offset_up (settled : viewport.Settled) (rows : Nat) :
    (viewport.update (.up rows)).offset = viewport.offset - rows :=
  Nat.min_eq_left (Nat.le_trans (Nat.sub_le _ _) settled.offset_le)

/-- Scrolling down goes as far as asked for, or to the last full window. -/
theorem offset_down (viewport : Viewport) (rows : Nat) :
    (viewport.update (.down rows)).offset = min (viewport.offset + rows) viewport.maxOffset := rfl

theorem Settled.update_down_zero (settled : viewport.Settled) :
    viewport.update (.down 0) = viewport := by
  have offset_eq : min (viewport.offset + 0) viewport.maxOffset = viewport.offset :=
    Nat.min_eq_left settled.offset_le
  show { viewport with offset := min (viewport.offset + 0) viewport.maxOffset } = viewport
  rw [offset_eq]

/-- Scrolling down twice is scrolling down by the sum. -/
theorem update_down_add (viewport : Viewport) (first second : Nat) :
    (viewport.update (.down first)).update (.down second) =
      viewport.update (.down (first + second)) := by
  have offset_eq : min (min (viewport.offset + first) viewport.maxOffset + second)
      viewport.maxOffset = min (viewport.offset + (first + second)) viewport.maxOffset := by
    omega
  show { viewport with offset := _ } = { viewport with offset := _ }
  exact congrArg (fun offset => { viewport with offset }) offset_eq

theorem offset_setContent (viewport : Viewport) (content : List Line) :
    (viewport.setContent content).offset = 0 := Nat.zero_min _

end Showcase.Widget.Viewport
