import Mathlib.Data.List.Forall2
import Mathlib.Order.Bounds.Basic
import Showcase.Proofs.Text.Measuring
import Showcase.Proofs.Widget.Helping

/-!
# The listing of key help

The full help has a line for every enabled binding, in groups with a blank line between them. All
descriptions are in one column, behind the widest label of any binding.
-/

namespace Showcase.Widget.Help

open Showcase.Text (Line Span)

/-- The columns of the widest label, whether its binding is enabled or not. -/
def widestLabel (groups : List (List Binding)) : Nat :=
  (groups.flatten.map fun binding => Text.width binding.label).foldl max 0

/-- What stands before a description: the label of the binding between blanks. -/
def labelSpans (help : Help) (binding : Binding) (gap : Nat) : List Span :=
  [.raw "  ", { text := binding.label, style := help.style.key }, .raw (blanks gap)]

/-- A line has the description of a binding at a column, behind its label and two blanks or more. The
columns are the same whether they are counted for each span or for the text of them all. -/
def Describes (help : Help) (column : Nat) (binding : Binding) (line : Line) : Prop :=
  ∃ gap ≥ 2, columns (help.labelSpans binding gap) = column ∧
    Text.width (Line.ofSpans (help.labelSpans binding gap)).text = column ∧
    line = .ofSpans (help.labelSpans binding gap ++
      [{ text := binding.description, style := help.style.description }])

variable {help : Help} {binding : Binding} {group : List Binding} {groups : List (List Binding)}
  {column bound : Nat}

/-! ## The column of the descriptions -/

theorem width_blanks (count : Nat) : Text.width (blanks count) = count := by
  have measured := Text.measure_between count 0 []
  simpa [Text.width, blanks, Text.measure, Text.scan] using measured

theorem columns_labelSpans (help : Help) (binding : Binding) (gap : Nat) :
    columns (help.labelSpans binding gap) = 2 + Text.width binding.label + gap := by
  have lead : Text.width "  " = 2 := by decide +kernel
  simp only [columns, labelSpans, Span.width, Span.raw, List.map_cons, List.map_nil, List.sum_cons,
    List.sum_nil, lead, width_blanks]
  omega

theorem width_labelSpans (help : Help) (binding : Binding) (gap : Nat) :
    Text.width (Line.ofSpans (help.labelSpans binding gap)).text =
      2 + Text.width binding.label + gap := by
  have measured := Text.measure_between 2 gap binding.label.toList
  rw [Text.width, Screen.toList_lineText]
  simpa [labelSpans, Line.characters, Line.ofSpans, Span.raw, blanks, Text.width] using measured

/-- A label with room for two blanks behind it. -/
theorem describes_bindingLine (room : Text.width binding.label + 2 ≤ column) :
    help.Describes (column + 2) binding (help.bindingLine column binding) := by
  refine ⟨column - Text.width binding.label, by omega, ?_, ?_, rfl⟩
  · rw [columns_labelSpans]
    omega
  · rw [width_labelSpans]
    omega

theorem widestLabel_le_iff : widestLabel groups ≤ bound ↔
    ∀ binding ∈ groups.flatten, Text.width binding.label ≤ bound := by
  have greatest : (0 :: groups.flatten.map fun binding => Text.width binding.label).max? =
      some (widestLabel groups) := List.max?_cons'
  simp only [List.max?_le_iff greatest, List.forall_mem_cons, Nat.zero_le, true_and,
    List.forall_mem_map]

theorem isLUB_widestLabel (groups : List (List Binding)) :
    IsLUB {count | ∃ binding ∈ groups.flatten, Text.width binding.label = count}
      (widestLabel groups) := by
  refine isLUB_iff_le_iff.mpr fun bound => widestLabel_le_iff.trans ⟨?_, ?_⟩
  · rintro most _ ⟨binding, inside, rfl⟩
    exact most binding inside
  · exact fun most binding inside => most ⟨binding, inside, rfl⟩

/-! ## Groups of lines -/

theorem blank_not_mem_groupLines : Line.blank ∉ help.groupLines column group := by
  intro inside
  obtain ⟨binding, -, same⟩ := List.mem_map.mp inside
  cases same

theorem splitOn_fullLines (help : Help) (some : groups ≠ []) :
    (help.fullLines groups).splitOn .blank =
      groups.map (help.groupLines (labelColumn groups)) := by
  refine List.splitOn_intercalate Line.blank (fun lines member => ?_) (by simpa using some)
  obtain ⟨group, -, rfl⟩ := List.mem_map.mp member
  exact blank_not_mem_groupLines

theorem describes_groupLines (inside : group ∈ groups) :
    List.Forall₂ (help.Describes (widestLabel groups + 4)) (group.filter Binding.enabled)
      (help.groupLines (labelColumn groups) group) := by
  refine List.forall₂_map_right_iff.mpr (List.forall₂_same.mpr fun binding member => ?_)
  have listed : binding ∈ groups.flatten :=
    List.mem_flatten.mpr ⟨group, inside, List.mem_of_mem_filter member⟩
  have most := widestLabel_le_iff.mp (Nat.le_refl (widestLabel groups)) binding listed
  exact describes_bindingLine (Nat.add_le_add_right most 2)

/-- Split at its blank lines, the listing has a run of lines for each group, one for every enabled
binding of the group in order. Every line has the label and the description of its binding as they
are, and all descriptions are in the column that leaves two blanks before and two behind the widest
label, which may be that of a disabled binding. Without groups there are no lines. -/
theorem fullLines_aligned (help : Help) (groups : List (List Binding)) :
    (groups = [] → help.fullLines groups = []) ∧
    ∃ widest, IsLUB {count | ∃ binding ∈ groups.flatten, Text.width binding.label = count} widest ∧
      (groups ≠ [] → List.Forall₂ (List.Forall₂ (help.Describes (widest + 4)))
        (groups.map (List.filter Binding.enabled)) ((help.fullLines groups).splitOn .blank)) := by
  refine ⟨?_, widestLabel groups, isLUB_widestLabel groups, fun some => ?_⟩
  · rintro rfl
    rfl
  · rw [splitOn_fullLines help some]
    refine List.forall₂_map_left_iff.mpr (List.forall₂_map_right_iff.mpr ?_)
    exact List.forall₂_same.mpr fun group inside => describes_groupLines inside

/-- A disabled binding with the widest label, and a group without bindings. -/
def listingSample : List (List Binding) :=
  [[.ofKeys [.arrowUp, .char 'k'] "up",
      { keys := [.char 'x'], label := "漢字漢", description := "hidden", enabled := false }],
    [], [.ofKeys [.char 'q'] "quit"]]

theorem fullLines_aligned_listingSample :
    (({} : Help).fullLines listingSample).map Line.text =
      ["  ↑/k     up", "", "", "  q       quit"] ∧
    ∃ widest, List.Forall₂ (List.Forall₂ (({} : Help).Describes (widest + 4)))
      (listingSample.map (List.filter Binding.enabled))
      ((({} : Help).fullLines listingSample).splitOn .blank) := by
  obtain ⟨-, widest, -, aligned⟩ := fullLines_aligned {} listingSample
  exact ⟨by decide +kernel, widest, aligned (List.cons_ne_nil _ _)⟩

end Showcase.Widget.Help
