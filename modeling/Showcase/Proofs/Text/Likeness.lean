import Mathlib.Data.List.Forall2
import Showcase.Screen.Cell
import Showcase.Text.Wrap

/-!
# Texts that differ in style

Two lines are alike if they have the same texts and their styles are in a relation. Where a line is
wrapped does not depend on styles, so that lines that are alike have rows that are alike.
-/

namespace Showcase.Text

open Showcase.Screen (Look)

/-- Relations of styles and of looks that hold of plain ones and are kept when a style is put on
top of a style or of looks. -/
structure Likeness where
  styles : Style → Style → Prop
  looks : Look → Look → Prop
  plain_styles : styles .plain .plain
  plain_looks : looks .plain .plain
  patch : ∀ {base base' upper upper'}, styles base base' → styles upper upper' →
    styles (base.patch upper) (base'.patch upper')
  apply : ∀ {look look' style style'}, looks look look' → styles style style' →
    looks (look.apply style) (look'.apply style')

/-- Whatever the styles and looks are. -/
def Likeness.any : Likeness where
  styles _ _ := True
  looks _ _ := True
  plain_styles := trivial
  plain_looks := trivial
  patch _ _ := trivial
  apply _ _ := trivial

namespace Likeness

variable (likeness : Likeness)

structure Spans (first second : Span) : Prop where
  text_eq : first.text = second.text
  style : likeness.styles first.style second.style

structure Lines (first second : Line) : Prop where
  spans : List.Forall₂ likeness.Spans first.spans second.spans
  style : likeness.styles first.style second.style

end Likeness

variable {likeness : Likeness}

/-! ## Lists -/

section

variable {α β γ : Type}

theorem map_eq_of_forall₂ {R : α → β → Prop} {f : α → γ} {g : β → γ}
    (same : ∀ a b, R a b → f a = g b) {first : List α} {second : List β}
    (alike : List.Forall₂ R first second) : first.map f = second.map g := by
  rw [← List.forall₂_eq_eq_eq]
  exact List.rel_map same alike

theorem forall₂_map_same {R : β → γ → Prop} {f : α → β} {g : α → γ} {items : List α}
    (each : ∀ item ∈ items, R (f item) (g item)) :
    List.Forall₂ R (items.map f) (items.map g) := by
  rwa [List.forall₂_map_left_iff, List.forall₂_map_right_iff, List.forall₂_same]

end

/-! ## Lines -/

theorem Likeness.Spans.raw {text : String} : likeness.Spans (.raw text) (.raw text) :=
  ⟨rfl, likeness.plain_styles⟩

theorem Likeness.Lines.ofSpans {first second : List Span}
    (alike : List.Forall₂ likeness.Spans first second) :
    likeness.Lines (.ofSpans first) (.ofSpans second) := ⟨alike, likeness.plain_styles⟩

theorem Likeness.Lines.blank : likeness.Lines .blank .blank := .ofSpans .nil

theorem Likeness.Lines.intercalate {parts parts' : List (List Line)}
    (alike : List.Forall₂ (List.Forall₂ likeness.Lines) parts parts') :
    List.Forall₂ likeness.Lines ([.blank].intercalate parts) ([.blank].intercalate parts') := by
  induction alike with
  | nil => exact .nil
  | cons head tail ih =>
      cases tail with
      | nil => rwa [List.intercalate_singleton, List.intercalate_singleton]
      | cons next rest =>
          rw [List.intercalate_cons_cons, List.intercalate_cons_cons]
          exact List.rel_append (List.rel_append head (.cons .blank .nil)) ih

theorem Likeness.Lines.text_eq {first second : Line} (alike : likeness.Lines first second) :
    first.text = second.text :=
  congrArg String.join (map_eq_of_forall₂ (fun _ _ span => span.text_eq) alike.spans)

theorem Likeness.Lines.width_eq {first second : Line} (alike : likeness.Lines first second) :
    first.width = second.width := by
  have widths : first.spans.map Span.width = second.spans.map Span.width :=
    map_eq_of_forall₂ (fun _ _ span => congrArg width span.text_eq) alike.spans
  rw [Line.width, Line.width, ← List.foldl_map, widths, List.foldl_map]

/-! ## Wrapping -/

/-- Rows being filled with the same characters. -/
structure OpenRow.Alike (likeness : Likeness) (first second : OpenRow) : Prop where
  spans : List.Forall₂ likeness.Spans first.spans second.spans
  text_eq : first.text = second.text
  used_eq : first.used = second.used

structure Wrapping.Alike (likeness : Likeness) (first second : Wrapping) : Prop where
  rows : List.Forall₂ likeness.Lines first.rows second.rows
  row : OpenRow.Alike likeness first.row second.row

namespace OpenRow.Alike

variable {first second : OpenRow} {style style' : Style}

theorem empty : OpenRow.Alike likeness {} {} := ⟨.nil, rfl, rfl⟩

theorem push (alike : OpenRow.Alike likeness first second) (c : Char) :
    OpenRow.Alike likeness (first.push c) (second.push c) where
  spans := alike.spans
  text_eq := congrArg (c :: ·) alike.text_eq
  used_eq := congrArg (· + columns c) alike.used_eq

theorem closeSpan (alike : OpenRow.Alike likeness first second)
    (styled : likeness.styles style style') :
    OpenRow.Alike likeness (first.closeSpan style) (second.closeSpan style') := by
  unfold OpenRow.closeSpan
  rw [alike.text_eq]
  split
  · exact alike
  · exact ⟨.cons ⟨rfl, styled⟩ alike.spans, rfl, alike.used_eq⟩

theorem toLine (alike : OpenRow.Alike likeness first second)
    (styled : likeness.styles style style') :
    likeness.Lines (first.toLine style) (second.toLine style') :=
  ⟨List.forall₂_reverse_iff.mpr alike.spans, styled⟩

theorem overflows_eq (alike : OpenRow.Alike likeness first second) (width : Nat) (c : Char) :
    first.overflows width c = second.overflows width c := by
  rw [overflows, overflows, alike.used_eq]

end OpenRow.Alike

namespace Wrapping.Alike

variable {first second : Wrapping} {line line' span span' : Style} (width : Nat)

theorem pushChar (alike : Wrapping.Alike likeness first second)
    (lines : likeness.styles line line') (spans : likeness.styles span span') (c : Char) :
    Wrapping.Alike likeness (Wrapping.pushChar width line span first c)
      (Wrapping.pushChar width line' span' second c) := by
  unfold Wrapping.pushChar
  rw [alike.row.overflows_eq width c]
  split
  · exact ⟨.cons ((alike.row.closeSpan spans).toLine lines) alike.rows, OpenRow.Alike.empty.push c⟩
  · exact ⟨alike.rows, alike.row.push c⟩

theorem pushChars (alike : Wrapping.Alike likeness first second)
    (lines : likeness.styles line line') (spans : likeness.styles span span')
    (text : List Char) :
    Wrapping.Alike likeness (text.foldl (Wrapping.pushChar width line span) first)
      (text.foldl (Wrapping.pushChar width line' span') second) := by
  induction text generalizing first second with
  | nil => exact alike
  | cons c rest ih => exact ih (alike.pushChar width lines spans c)

theorem pushSpan (alike : Wrapping.Alike likeness first second)
    (lines : likeness.styles line line') {part part' : Span}
    (parts : likeness.Spans part part') :
    Wrapping.Alike likeness (Wrapping.pushSpan width line first part)
      (Wrapping.pushSpan width line' second part') := by
  have filled := alike.pushChars width lines parts.style part.text.toList
  unfold Wrapping.pushSpan
  rw [← parts.text_eq]
  exact ⟨filled.rows, filled.row.closeSpan parts.style⟩

theorem pushSpans (alike : Wrapping.Alike likeness first second)
    (lines : likeness.styles line line') {parts parts' : List Span}
    (each : List.Forall₂ likeness.Spans parts parts') :
    Wrapping.Alike likeness (parts.foldl (Wrapping.pushSpan width line) first)
      (parts'.foldl (Wrapping.pushSpan width line') second) := by
  induction each generalizing first second with
  | nil => exact alike
  | cons head tail ih => exact ih (alike.pushSpan width lines head)

end Wrapping.Alike

/-- Lines that are alike are wrapped to rows that are alike. -/
theorem Likeness.Lines.wrapLine {first second : Line} (alike : likeness.Lines first second)
    (width : Nat) :
    List.Forall₂ likeness.Lines (wrapLine first width) (wrapLine second width) := by
  have begun : Wrapping.Alike likeness {} {} := ⟨.nil, .empty⟩
  have done := begun.pushSpans width alike.style alike.spans
  exact List.forall₂_reverse_iff.mpr (.cons (done.row.toLine alike.style) done.rows)

theorem Likeness.Lines.wrapLines {first second : List Line}
    (alike : List.Forall₂ likeness.Lines first second) (width : Nat) :
    List.Forall₂ likeness.Lines (wrapLines first width) (wrapLines second width) :=
  List.rel_flatMap alike fun _ _ line => line.wrapLine width

end Showcase.Text
