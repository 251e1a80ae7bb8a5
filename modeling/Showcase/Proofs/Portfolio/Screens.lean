import Showcase.Portfolio.Program
import Showcase.Proofs.Widget.Viewing

/-!
# Screens of the portfolio

The banner, the body and the footer stand one below the other from side to side. Below the banner an
entry shows the window of its content, beside at most a scrollbar.
-/

namespace Showcase.Portfolio

open Showcase.Screen (Buffer Cell Rect lineCells writeLine)
open Showcase.Text (Line Standalone)
open Showcase.Widget

variable {portfolio : Portfolio} {entry : Entry} {size : Geometry} {index : Nat}

/-! ## The rows of the body -/

theorem layout_ofSize {columns rows : Nat} (high : 11 ≤ rows) :
    layout (.ofSize columns rows) =
      (⟨0, 0, columns, 10⟩, ⟨0, 10, columns, rows - 11⟩, ⟨0, rows - 1, columns, 1⟩) := by
  simp only [layout, Rect.ofSize, Rect.splitTop, bannerHeight, footerHeight, Prod.mk.injEq,
    Rect.mk.injEq, true_and]
  omega

/-! ## The screen of an entry -/

def bannerArea (size : Geometry) : Rect := ⟨0, 0, size.columns, 10⟩

def bodyArea (size : Geometry) : Rect := ⟨0, 10, size.columns, size.rows - 11⟩

def footerArea (size : Geometry) : Rect := ⟨0, size.rows - 1, size.columns, 1⟩

/-- What is on the screen as a whole. -/
theorem intersection_inside {x y width height : Nat} (narrow : x + width ≤ size.columns)
    (low : y + height ≤ size.rows) :
    size.area.intersection ⟨x, y, width, height⟩ = ⟨x, y, width, height⟩ := by
  simp only [Rect.intersection, Geometry.area, Rect.ofSize, Rect.right, Rect.bottom, Rect.mk.injEq]
  omega

/-- Rows of the screen that are in it from side to side. -/
theorem intersection_area {y height : Nat} (inside : y + height ≤ size.rows) :
    size.area.intersection ⟨0, y, size.columns, height⟩ = ⟨0, y, size.columns, height⟩ :=
  intersection_inside (Nat.le_of_eq (Nat.zero_add _)) inside

/-- The screen with the banner. -/
def titled (portfolio : Portfolio) (size : Geometry) : Buffer :=
  (Buffer.blank size.area).drawLines (bannerArea size) (bannerLines portfolio.palette)

/-- The screen with the banner and the window of the content. -/
def filled (time : Clock) (portfolio : Portfolio) (size : Geometry) : Buffer :=
  (titled portfolio size).drawLines (bodyArea size)
    ((portfolio.shown time).visible (size.rows - 11))

/-- The screen with the banner, the window and the scrollbar. -/
def barred (time : Clock) (portfolio : Portfolio) (size : Geometry) : Buffer :=
  (portfolio.shown time).draw (bodyArea size) (titled portfolio size)

section

variable {time : Clock}

theorem area_titled : (titled portfolio size).area = size.area := Buffer.area_drawLines _ _ _

theorem area_filled : (filled time portfolio size).area = size.area :=
  (Buffer.area_drawLines _ _ _).trans area_titled

theorem spares_barred (wide : 2 ≤ size.columns) : Buffer.Spares (size.columns - 1)
    (filled time portfolio size) (barred time portfolio size) := by
  refine (portfolio.shown time).spares_draw ?_
  rw [area_titled]
  show size.columns - 1 ≤ 0 + size.columns - 1 - 0
  omega

theorem area_barred (wide : 2 ≤ size.columns) : (barred time portfolio size).area = size.area :=
  (spares_barred wide).area_eq.trans area_filled

theorem orderly_drawLines {buffer : Buffer} {y height : Nat} {lines : List Line}
    (orderly : buffer.Orderly) (area_eq : buffer.area = size.area)
    (inside : y + height ≤ size.rows) :
    (buffer.drawLines ⟨0, y, size.columns, height⟩ lines).Orderly := by
  refine orderly.drawLines ?_ ?_
  · rw [area_eq, intersection_area inside]
  · rw [area_eq]
    exact Nat.le_refl _

/-- The footer leaves the rows above it as they are, so that they reach the screen. -/
theorem row_present_footed {drawn : Buffer} {lines : List Line} (orderly : drawn.Orderly)
    (area_eq : drawn.area = size.area) (inside : index < size.rows - 11) :
    (drawn.drawLines (footerArea size) lines).present.row (bannerHeight + index) =
      Screen.presentCells 0 (drawn.row (10 + index)) := by
  have footed : (drawn.drawLines (footerArea size) lines).Orderly :=
    orderly_drawLines orderly area_eq (by omega)
  have top : 0 ≤ 10 + index := Nat.zero_le _
  have bottom : 10 + index < 0 + size.rows := by omega
  rw [bannerHeight, footed.row_present (by rwa [Buffer.area_drawLines, area_eq])
      (by rwa [Buffer.area_drawLines, area_eq]),
    footerArea, Buffer.row_drawLines (by rw [area_eq]; exact intersection_area (by omega))
      (by rwa [area_eq]),
    if_neg (by simp only; omega)]

theorem orderly_filled (high : 11 ≤ size.rows) : (filled time portfolio size).Orderly :=
  orderly_drawLines (orderly_drawLines (Buffer.orderly_blank _) rfl (by omega)) area_titled
    (by omega)

/-- The banner does not reach below its area. -/
theorem row_titled (below : 10 ≤ index) (inside : index < size.rows) :
    (titled portfolio size).row index = List.replicate size.columns .empty := by
  have none : ((bannerLines portfolio.palette).take 10)[index]? = none :=
    List.getElem?_eq_none (by rw [List.length_take]; omega)
  rw [titled, Buffer.row_drawLines (intersection_area (by omega)) (Nat.zero_le _),
    if_pos (show (bannerArea size).y ≤ index from Nat.zero_le _),
    Buffer.row_blank _ (show index < 0 + size.rows by omega) (Nat.zero_le _)]
  show writeLine _ _ _ ((bannerLines portfolio.palette).take 10)[index - 0]? = _
  rw [Nat.sub_zero, none]
  rfl

theorem row_filled (inside : index < size.rows - 11) :
    (filled time portfolio size).row (10 + index) =
      writeLine (List.replicate size.columns .empty) 0 size.columns
        ((portfolio.shown time).visible (size.rows - 11))[index]? := by
  have area_eq : (titled portfolio size).area = size.area := area_titled
  rw [filled, Buffer.row_drawLines (by rw [area_eq]; exact intersection_area (by omega))
    (by rw [area_eq]; exact Nat.zero_le _), row_titled (Nat.le_add_right _ _) (by omega), area_eq,
    if_pos (show (bodyArea size).y ≤ 10 + index from Nat.le_add_right _ _)]
  show writeLine _ (0 - 0) size.columns (List.take (size.rows - 11) _)[10 + index - 10]? = _
  rw [Nat.add_sub_cancel_left, List.getElem?_take_of_lt inside]

theorem screen_content (reading : portfolio.mode = .content entry) (high : 11 ≤ size.rows) :
    (model time).screen portfolio size =
      Buffer.present ((barred time portfolio size).drawLines (footerArea size)
        [(help portfolio.palette).shortLine (Keys.short (.content entry)) size.columns]) := by
  show (portfolio.draw time (Buffer.blank size.area)).present = _
  rw [draw, show (Buffer.blank size.area).area = .ofSize size.columns size.rows from rfl,
    layout_ofSize high]
  simp only
  rw [drawBody, reading]
  rfl

end

/-- A row of the screen below the banner, without the last column. -/
def bodyRow (time : Clock) (portfolio : Portfolio) (size : Geometry) (index : Nat) : List Cell :=
  (((model time).screen portfolio size).row (bannerHeight + index)).take (size.columns - 1)

/-- The window of the content is drawn below the banner. -/
theorem bodyRow_eq (time : Clock) (reading : portfolio.mode = .content entry)
    (wide : 2 ≤ size.columns) (inside : index < size.rows - 11)
    (single : ∀ line ∈ (portfolio.shown time).rows, ∀ ink ∈ line.inked, Standalone ink.1) :
    bodyRow time portfolio size index = lineCells (size.columns - 1)
      (((portfolio.shown time).visible (size.rows - 11))[index]?.getD .blank) := by
  have spares : Buffer.Spares _ (filled time portfolio size) _ := spares_barred wide
  have orderly : (barred time portfolio size).Orderly :=
    spares.orderly (orderly_filled (by omega))
  have top : 0 ≤ 10 + index := Nat.zero_le _
  rw [bodyRow, screen_content reading (by omega),
    row_present_footed orderly (area_barred wide) inside, Screen.presentCells_take,
    spares.rows _ (by rwa [area_filled]), ← Screen.presentCells_take, row_filled inside]
  refine Screen.present_writeLine wide _ fun line drawn => single line ?_
  exact List.mem_of_mem_drop (List.mem_of_mem_take (List.mem_of_getElem? drawn))

end Showcase.Portfolio
