import Showcase.Proofs.Screen.Rows
import Showcase.Proofs.Screen.Trimming
import Showcase.Proofs.Text.Measuring

/-!
# Lettering

A text that is written on an empty row and read back from it has blanks in it: a voicing mark takes
a cell that the columns of its cluster do not cover, and unless the cluster is the last one, the
blank in that cell is read as well.
-/

namespace Showcase.Screen

open Showcase.Text (clusters isControl isVoicing)

/-- Clusters, each but the last with the blanks of its voicing marks. -/
def spaced : List (List Char) → List Char
  | [] => []
  | [cluster] => cluster
  | cluster :: next :: rest =>
      cluster ++ List.replicate (cluster.countP isVoicing) ' ' ++ spaced (next :: rest)

variable {cluster : List Char} {text : List (List Char)}

theorem length_flatten_le_spaced (text : List (List Char)) :
    text.flatten.length ≤ (spaced text).length := by
  induction text with
  | nil => exact Nat.le_refl 0
  | cons cluster rest ih =>
      cases rest with
      | nil => simp [spaced]
      | cons next rest =>
          rw [spaced, List.flatten_cons]
          simp only [List.length_append]
          omega

/-- Nothing is put in exactly if no cluster but the last holds a voicing mark. -/
theorem spaced_eq_flatten_iff : spaced text = text.flatten ↔
    ∀ cluster ∈ text.dropLast, ∀ c ∈ cluster, isVoicing c = false := by
  induction text with
  | nil => simp [spaced]
  | cons cluster rest ih =>
      cases rest with
      | nil => simp [spaced]
      | cons next rest =>
          have longer := length_flatten_le_spaced (next :: rest)
          have unmarked : cluster.countP isVoicing = 0 ↔ ∀ c ∈ cluster, isVoicing c = false := by
            simp only [List.countP_eq_zero, Bool.not_eq_true]
          rw [List.dropLast_cons_of_ne_nil (List.cons_ne_nil _ _), List.forall_mem_cons, ← ih,
            ← unmarked, spaced, List.flatten_cons, List.append_assoc, List.append_cancel_left_eq]
          constructor
          · intro same
            have lengths := congrArg List.length same
            rw [List.length_append, List.length_replicate] at lengths
            have none : cluster.countP isVoicing = 0 := by omega
            rw [none] at same
            exact ⟨none, same⟩
          · rintro ⟨none, same⟩
            rw [none, same]
            rfl

/-! ## Cells of a cluster -/

/-- A cluster takes the columns it has and a cell more for each voicing mark. -/
theorem spare_cells (cluster : List Char) :
    symbolCells cluster - 1 = (Text.measure cluster - 1) + cluster.countP isVoicing := by
  have marks := Text.marks_le_measure cluster
  have counted : symbolCells.count cluster = Text.measure cluster + cluster.countP isVoicing := rfl
  unfold symbolCells
  split
  · rename_i c
    split
    · rename_i low
      have plain : isVoicing c = false := by simp [isVoicing]; omega
      have one : Text.measure [c] ≤ 1 := by
        have scanned : Text.scan [c] = (0 + (Text.widen c {}).1, (Text.widen c {}).2) := rfl
        rw [Text.measure, scanned, Text.widen]
        simp only [Bool.false_and, Bool.false_eq_true, if_false, show c.toNat ≤ 0xA0 by omega,
          if_true]
        split
        · decide
        · split <;> decide
      rw [List.countP_singleton, plain]
      simp only [Bool.false_eq_true, if_false]
      omega
    · omega
  · omega

/-- A cluster as it is drawn without style. -/
def plainGlyph (cluster : List Char) : Glyph where
  symbol := String.ofList cluster
  cells := symbolCells cluster
  style := .plain

theorem run_plainGlyph (cluster : List Char) : (plainGlyph cluster).run =
    { symbol := String.ofList cluster } :: List.replicate (symbolCells cluster - 1) .empty := by
  have unstyled : Look.plain.apply .plain = .plain := by decide
  rw [Glyph.run, plainGlyph, unstyled]

/-! ## The pieces of a row -/

theorem cellPieces_covered (look : Look) (count : Nat) (rest : List Cell) :
    cellPieces look count (List.replicate count .empty ++ rest) = cellPieces look 0 rest := by
  induction count with
  | zero => rfl
  | succ count ih => exact ih

theorem cellPieces_blanks (count : Nat) (rest : List Cell) :
    cellPieces .plain 0 (List.replicate count .empty ++ rest) =
      List.replicate count (.symbol " ") ++ cellPieces .plain 0 rest := by
  induction count with
  | zero => rfl
  | succ count ih =>
      have one : Text.width Cell.empty.symbol - 1 = 0 := by decide
      have same : (Cell.empty.look == Look.plain) = true := by decide
      rw [List.replicate_succ, List.cons_append, cellPieces, same, one]
      exact congrArg (Piece.symbol " " :: ·) ih

/-- A cluster is written, and the cells of its voicing marks are written as blanks. -/
theorem cellPieces_run (cluster : List Char) (rest : List Cell) :
    cellPieces .plain 0 ((plainGlyph cluster).run ++ rest) =
      .symbol (String.ofList cluster) ::
        (List.replicate (cluster.countP isVoicing) (.symbol " ") ++ cellPieces .plain 0 rest) := by
  have width_eq : Text.width (String.ofList cluster) = Text.measure cluster := by
    rw [Text.width, String.toList_ofList]
  rw [run_plainGlyph, List.cons_append, cellPieces, spare_cells, List.replicate_add,
    List.append_assoc]
  simp only [width_eq, cellPieces_covered, cellPieces_blanks, BEq.rfl, if_true, List.nil_append]

theorem flatMap_blanks (count : Nat) :
    (List.replicate count (Piece.symbol " ")).flatMap (fun piece => piece.text.toList) =
      List.replicate count ' ' := by
  induction count with
  | zero => rfl
  | succ count ih =>
      rw [List.replicate_succ, List.flatMap_cons, ih]
      rfl

/-- The text of clusters on a row that ends with the first cell of the last one. -/
theorem toList_cellPieces (front : List (List Char)) (last : List Char) :
    (piecesText (cellPieces .plain 0 (front.flatMap (fun cluster => (plainGlyph cluster).run)
      ++ [{ symbol := String.ofList last }]))).toList = spaced (front ++ [last]) := by
  rw [toList_piecesText]
  induction front with
  | nil => simp [cellPieces, spaced, Piece.text]
  | cons cluster rest ih =>
      have further : ∃ next others, rest ++ [last] = next :: others :=
        List.exists_cons_of_ne_nil (List.append_ne_nil_of_right_ne_nil _ (List.cons_ne_nil _ _))
      obtain ⟨next, others, split⟩ := further
      rw [List.flatMap_cons, List.append_assoc, cellPieces_run, List.flatMap_cons,
        List.flatMap_append, ih, flatMap_blanks, List.cons_append, split, spaced, ← split,
        List.append_assoc]
      simp only [Piece.text, String.toList_ofList]

/-! ## Blank cells behind a text -/

theorem trimBlank_append {cells tail : List Cell} (blank : ∀ cell ∈ tail, cell.isBlank = true) :
    trimBlank (cells ++ tail) = trimBlank cells := rdropWhile_append_dropped blank

theorem trimBlank_concat {cells : List Cell} {cell : Cell} (shows : cell.isBlank = false) :
    trimBlank (cells ++ [cell]) = cells ++ [cell] :=
  List.rdropWhile_concat_neg _ _ _ (by rw [shows]; exact Bool.false_ne_true)

/-- Clusters on an empty row are read back with the blanks of the voicing marks. -/
theorem toList_rowAnsi (text : List (List Char)) (count : Nat) (ends : text.getLast? ≠ some [' ']) :
    (rowAnsi (text.flatMap (fun cluster => (plainGlyph cluster).run)
      ++ List.replicate count .empty)).toList = spaced text := by
  have blank (count : Nat) : ∀ cell ∈ List.replicate count Cell.empty, cell.isBlank = true := by
    intro cell member
    rw [List.eq_of_mem_replicate member]
    exact Cell.isBlank_empty
  rw [rowAnsi, rowPieces, trimBlank_append (blank count)]
  obtain rfl | ⟨front, last, rfl⟩ := List.eq_nil_or_concat text
  · rfl
  · rw [List.concat_eq_append] at ends ⊢
    rw [List.getLast?_concat] at ends
    have shows : ({ symbol := String.ofList last } : Cell).isBlank = false := by
      have other : (String.ofList last == " ") = false := by
        rw [beq_eq_false_iff_ne, ← String.toList_inj.ne, String.toList_ofList]
        exact fun same => ends (congrArg some same)
      simp [Cell.isBlank, other]
    rw [List.flatMap_append, List.flatMap_singleton, run_plainGlyph, ← List.singleton_append,
      ← List.append_assoc, trimBlank_append (blank _), trimBlank_concat shows]
    exact toList_cellPieces front last

/-! ## A buffer of one row -/

theorem toAnsi_row {buffer : Buffer} (single : buffer.area.height = 1) :
    buffer.toAnsi = rowAnsi (buffer.row buffer.area.y) := by
  have rows_eq : buffer.rows = [buffer.row buffer.area.y] := by
    rw [Buffer.rows, single]
    rfl
  rw [Buffer.toAnsi, rows_eq, List.map_singleton, trimEmpty, List.reverse_singleton,
    List.dropWhile_cons]
  cases empty : (rowAnsi (buffer.row buffer.area.y)).isEmpty with
  | true =>
      rw [String.isEmpty_iff.mp empty]
      rfl
  | false => exact String.intercalate_singleton

/-- Every cluster of a text has a cell, and nothing in it is a control character. -/
def Drawable (text : String) : Prop :=
  ∀ cluster ∈ clusters text.toList, cluster.any isControl = false ∧ symbolCells cluster ≠ 0

instance (text : String) : Decidable (Drawable text) :=
  inferInstanceAs (Decidable (∀ cluster ∈ clusters text.toList, _))

/-- The cells of a text. -/
def textCells (text : String) : Nat := ((clusters text.toList).map symbolCells).sum

theorem drawable_eq {text : String} (draws : Drawable text) : drawable text =
    (clusters text.toList).map fun cluster => (String.ofList cluster, symbolCells cluster) := by
  rw [drawable, ← List.filterMap_eq_map]
  refine List.filterMap_congr fun cluster member => ?_
  obtain ⟨printable, positive⟩ := draws cluster member
  simp [printable, positive]

theorem getLast?_clusters {text : String} (ends : text.toList.getLast? ≠ some ' ') :
    (clusters text.toList).getLast? ≠ some [' '] := by
  intro last
  obtain ⟨front, split⟩ := List.getLast?_eq_some_iff.mp last
  refine ends ?_
  rw [← Text.flatten_clusters text.toList, split, List.flatten_append]
  simp

theorem row_setString {area : Rect} {text : String} (single : area.height = 1)
    (draws : Drawable text) (fits : textCells text ≤ area.width) :
    ((Buffer.blank area).setString area.x area.y text .plain).row area.y =
      (clusters text.toList).flatMap (fun cluster => (plainGlyph cluster).run)
        ++ List.replicate (area.width - textCells text) .empty := by
  have blank : (Buffer.blank area).row area.y = List.replicate area.width .empty :=
    Buffer.row_blank area (by rw [Rect.bottom, single]; omega) (Nat.le_refl _)
  have room : (Buffer.blank area).area.right - area.x = area.width := by
    show area.x + area.width - area.x = area.width
    omega
  have total : ((drawable text).map Prod.snd).sum = textCells text := by
    rw [drawable_eq draws, List.map_map]
    rfl
  have positive : ∀ cluster ∈ drawable text, 0 < cluster.2 := by
    intro cluster member
    rw [drawable_eq draws] at member
    obtain ⟨letters, inside, rfl⟩ := List.mem_map.mp member
    exact Nat.pos_of_ne_zero (draws letters inside).2
  have written : writeClusters (List.replicate area.width .empty) 0 .plain area.width
      (drawable text) = (clusterGlyphs .plain (drawable text)).flatMap Glyph.run
        ++ List.replicate (area.width - textCells text) .empty := by
    rw [← total]
    exact writeClusters_blank [] positive (by rwa [total]) (Nat.le_refl _)
  have put : ((Buffer.blank area).putClusters area.x area.y .plain area.width
      (drawable text)).row area.y = _ :=
    Buffer.row_putClusters _ (Nat.le_refl _) (Nat.le_refl _) (Nat.le_refl _)
  rw [if_pos rfl, blank, show (Buffer.blank area).area.x = area.x from rfl, Nat.sub_self,
    written, clusterGlyphs] at put
  rw [Buffer.setString, room, put, drawable_eq draws, List.map_map, List.flatMap_map]
  rfl

theorem toList_toAnsi_setString {area : Rect} {text : String} (single : area.height = 1)
    (draws : Drawable text) (fits : textCells text ≤ area.width)
    (ends : text.toList.getLast? ≠ some ' ') :
    ((Buffer.blank area).setString area.x area.y text .plain).toAnsi.toList =
      spaced (clusters text.toList) := by
  have area_eq : ((Buffer.blank area).setString area.x area.y text .plain).area = area :=
    Buffer.area_putClusters _ _ _ _ _ _
  have row_eq := row_setString single draws fits
  rw [toAnsi_row (by rwa [area_eq]), area_eq, row_eq]
  exact toList_rowAnsi _ _ (getLast?_clusters ends)

/-- A text that is written on an empty row is read back with a blank for every voicing mark in a
cluster that is not the last one, and so it is read back as itself exactly if there is none. -/
theorem toAnsi_setString (area : Rect) (text : String) (single : area.height = 1)
    (draws : Drawable text) (fits : textCells text ≤ area.width)
    (ends : text.toList.getLast? ≠ some ' ') :
    let buffer := (Buffer.blank area).setString area.x area.y text .plain
    buffer.toAnsi = String.ofList (spaced (clusters text.toList)) ∧
      (buffer.toAnsi = text ↔ ∀ cluster ∈ (clusters text.toList).dropLast, ∀ c ∈ cluster,
        isVoicing c = false) := by
  intro buffer
  have letters : buffer.toAnsi.toList = spaced (clusters text.toList) :=
    toList_toAnsi_setString single draws fits ends
  constructor
  · rw [← letters, String.ofList_toList]
  · rw [← spaced_eq_flatten_iff, Text.flatten_clusters, ← letters, String.toList_inj]

/-- A family, a flag, a red heart, a letter with an accent, and a voicing mark in the last
cluster. -/
def mixedSample : String := "👨‍👩‍👧🇩🇪❤️ e\u0301漢ｶﾞ"

theorem toAnsi_setString_mixedSample : Drawable mixedSample ∧ textCells mixedSample ≤ 14 ∧
    ((Buffer.blank ⟨3, 5, 14, 1⟩).setString 3 5 mixedSample .plain).toAnsi = mixedSample := by
  have draws : Drawable mixedSample := by decide +kernel
  have fits : textCells mixedSample ≤ 14 := by decide +kernel
  have ends : mixedSample.toList.getLast? ≠ some ' ' := by decide +kernel
  have unmarked : ∀ cluster ∈ (clusters mixedSample.toList).dropLast,
      cluster.all (!isVoicing ·) = true := by decide +kernel
  have readBack := toAnsi_setString ⟨3, 5, 14, 1⟩ mixedSample rfl draws fits ends
  refine ⟨draws, fits, readBack.2.mpr fun cluster inside c member => ?_⟩
  simpa using List.all_eq_true.mp (unmarked cluster inside) c member

/-- A voicing mark before another letter: the text is read back with a blank in it. -/
theorem not_toAnsi_setString : ¬ ∀ (area : Rect) (text : String), area.height = 1 →
    Drawable text → textCells text ≤ area.width → text.toList.getLast? ≠ some ' ' →
      ((Buffer.blank area).setString area.x area.y text .plain).toAnsi = text := by
  intro readBack
  have draws : Drawable "ｱﾞb" := by decide +kernel
  have fits : textCells "ｱﾞb" ≤ (Rect.ofSize 8 1).width := by decide +kernel
  have ends : "ｱﾞb".toList.getLast? ≠ some ' ' := by decide +kernel
  have letters : (Buffer.toAnsi _).toList = spaced (clusters "ｱﾞb".toList) :=
    toList_toAnsi_setString rfl draws fits ends
  rw [readBack (.ofSize 8 1) "ｱﾞb" rfl draws fits ends] at letters
  exact absurd letters (by decide +kernel)

end Showcase.Screen
