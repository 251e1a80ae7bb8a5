import Showcase.Portfolio.Program
import Showcase.Proofs.Text.Standalone

/-!
# Texts of the entries

The texts consist of printable ASCII and a few pictures, which are clusters of their own, whatever
the date and the time are.
-/

namespace Showcase.Portfolio

open Showcase.Text (Line Span Standalone)
open Showcase.Widget (Binding Help)

/-- The pictures in the texts. -/
def pictures : List Char :=
  ['╔', '═', '╗', '║', '╚', '╝', '┌', '┬', '┐', '├', '┼', '┤', '└', '┴', '┘', '─', '│', '★', '█',
    '░', '⚡', '💼', '🐦', '📧', '🌐', '↑', '↓']

def isTypeset (c : Char) : Bool := (0x20 ≤ c.toNat && c.toNat < 0x7F) || pictures.contains c

theorem standalone_of_isTypeset {c : Char} (typeset : isTypeset c = true) : Standalone c := by
  have table : pictures.all (Standalone ·) = true := by decide +kernel
  simp only [isTypeset, Bool.or_eq_true, Bool.and_eq_true, decide_eq_true_eq,
    List.contains_iff_mem] at typeset
  rcases typeset with ⟨low, high⟩ | picture
  · exact Text.standalone_of_ascii low high
  · exact of_decide_eq_true (List.all_eq_true.mp table c picture)

def Typeset (text : String) : Prop := ∀ c ∈ text.toList, isTypeset c = true

instance (text : String) : Decidable (Typeset text) :=
  decidable_of_iff (text.toList.all isTypeset = true) List.all_eq_true

/-- All texts of a line are typeset. -/
def TypesetLine (line : Line) : Prop := ∀ span ∈ line.spans, Typeset span.text

/-- All texts of some lines are typeset. -/
def TypesetLines (lines : List Line) : Prop := ∀ line ∈ lines, TypesetLine line

variable {first second text : String} {line : Line} {lines others : List Line} {c : Char}
  {palette : Palette} {role : Role}

/-! ## Texts -/

theorem typeset_ofList {letters : List Char} (each : letters.all isTypeset = true) :
    Typeset (String.ofList letters) := by
  intro c member
  rw [String.toList_ofList] at member
  exact List.all_eq_true.mp each c member

@[simp] theorem typeset_append :
    Typeset (first ++ second) ↔ Typeset first ∧ Typeset second := by
  simp only [Typeset, String.toList_append, List.forall_mem_append]

theorem typeset_fill (count : Nat) (letter : isTypeset c = true) :
    Typeset (Content.fill count c) := by
  refine typeset_ofList (List.all_eq_true.mpr fun other member => ?_)
  rwa [List.eq_of_mem_replicate member]

@[simp] theorem typeset_padRight (width : Nat) :
    Typeset (Content.padRight width text) ↔ Typeset text := by
  have blanks : Typeset (Content.fill (width - text.length) ' ') := typeset_fill _ (by decide)
  rw [Content.padRight, typeset_append]
  exact and_iff_left blanks

theorem isTypeset_of_isDigit (digit : c.isDigit = true) : isTypeset c = true := by
  have bounds : 48 ≤ c.toNat ∧ c.toNat ≤ 57 := by
    simpa [Char.isDigit, UInt32.le_iff_toNat_le] using digit
  simp only [isTypeset, Bool.or_eq_true, Bool.and_eq_true, decide_eq_true_eq]
  omega

theorem typeset_toString (number : Nat) : Typeset (toString number) := by
  intro c member
  have inside : c ∈ Nat.toDigits 10 number := by simpa [Nat.repr] using member
  exact isTypeset_of_isDigit (Nat.isDigit_of_mem_toDigits (by decide) (by decide) inside)

@[simp] theorem typeset_padded (width value : Nat) : Typeset (padded width value) :=
  typeset_append.mpr ⟨typeset_fill _ (by decide), typeset_toString value⟩

theorem typeset_getD {texts : List String} (each : ∀ text ∈ texts, Typeset text) (index : Nat) :
    Typeset (texts.getD index "") := by
  rw [List.getD_eq_getElem?_getD]
  cases found : texts[index]? with
  | none => exact (typeset_ofList rfl : Typeset (String.ofList []))
  | some text => exact each text (List.mem_of_getElem? found)

theorem typeset_yearText (year : Int) : Typeset (yearText year) := by
  unfold yearText
  split
  · exact typeset_padded _ _
  · refine typeset_append.mpr ⟨?_, typeset_padded _ _⟩
    split <;> exact typeset_ofList (by decide)

theorem typeset_dateText (clock : Clock) : Typeset clock.dateText := by
  have weekday : ∀ text ∈ weekdays, Typeset text := by decide +kernel
  have month : ∀ text ∈ months, Typeset text := by decide +kernel
  have comma : Typeset ", " := typeset_ofList (by decide)
  have blank : Typeset " " := typeset_ofList (by decide)
  simp only [Clock.dateText, typeset_append]
  exact ⟨⟨⟨⟨⟨⟨typeset_getD weekday _, comma⟩, typeset_getD month _⟩, blank⟩, typeset_toString _⟩,
    comma⟩, typeset_yearText _⟩

theorem typeset_zoneText (clock : Clock) : Typeset clock.zoneText := by
  have colon : Typeset ":" := typeset_ofList (by decide)
  simp only [Clock.zoneText, typeset_append, typeset_padded, and_true]
  refine ⟨?_, colon⟩
  split <;> exact typeset_ofList (by decide)

theorem typeset_timeText (clock : Clock) : Typeset clock.timeText := by
  have colon : Typeset ":" := typeset_ofList (by decide)
  have blank : Typeset " " := typeset_ofList (by decide)
  simp only [Clock.timeText, typeset_append, typeset_padded, and_true, true_and]
  exact ⟨⟨⟨colon, colon⟩, blank⟩, typeset_zoneText clock⟩

/-! ## Lines -/

@[simp] theorem typesetLine_blank : TypesetLine .blank := fun _ member => nomatch member

@[simp] theorem typesetLine_line : TypesetLine (palette.line role text) ↔ Typeset text := by
  simp [TypesetLine, Palette.line, Palette.span, Line.ofSpans]

@[simp] theorem typesetLine_field {label value : String} :
    TypesetLine (Content.field palette label value) ↔ Typeset label ∧ Typeset value := by
  have blank : Typeset " " := typeset_ofList (by decide)
  simp [TypesetLine, Content.field, Palette.span, Line.ofSpans, blank]

@[simp] theorem typesetLines_nil : TypesetLines [] := fun _ member => nomatch member

@[simp] theorem typesetLines_cons :
    TypesetLines (line :: lines) ↔ TypesetLine line ∧ TypesetLines lines := List.forall_mem_cons

@[simp] theorem typesetLines_append :
    TypesetLines (lines ++ others) ↔ TypesetLines lines ∧ TypesetLines others :=
  List.forall_mem_append

@[simp] theorem typesetLines_header :
    TypesetLines (Content.header palette text) ↔ Typeset text := by
  have indent : Typeset "  " := typeset_ofList (by decide)
  have side : Typeset "║" := typeset_ofList (by decide)
  have leftTop : Typeset "╔" := typeset_ofList (by decide)
  have rightTop : Typeset "╗" := typeset_ofList (by decide)
  have leftBottom : Typeset "╚" := typeset_ofList (by decide)
  have rightBottom : Typeset "╝" := typeset_ofList (by decide)
  have rule : Typeset (Content.fill (Content.headerWidth - 2) '═') := typeset_fill _ (by decide)
  simp [Content.header, indent, side, leftTop, rightTop, leftBottom, rightBottom, rule]

theorem typesetLines_intercalate {parts : List (List Line)}
    (each : ∀ part ∈ parts, TypesetLines part) :
    TypesetLines ([Line.blank].intercalate parts) := by
  induction parts with
  | nil => exact typesetLines_nil
  | cons part rest ih =>
      have first := each part List.mem_cons_self
      have further := ih fun other member => each other (List.mem_cons_of_mem _ member)
      cases rest with
      | nil =>
          rw [List.intercalate_singleton]
          exact first
      | cons next rest =>
          rw [List.intercalate_cons_cons]
          simp [first, further]

/-! ## Entries -/

theorem typesetLines_about (palette : Palette) : TypesetLines (Content.about palette) := by
  simp only [Content.about, Content.paragraph, List.map_cons, List.map_nil, typesetLines_append,
    typesetLines_cons, typesetLines_header, typesetLine_field, typesetLine_line]
  and_intros
  all_goals first
    | exact typesetLine_blank
    | exact typesetLines_nil
    | exact typeset_ofList (by decide +kernel)

theorem typesetLines_skills (palette : Palette) : TypesetLines (Content.skills palette) := by
  have rule {left middle right : String} (ends : Typeset left ∧ Typeset middle ∧ Typeset right) :
      TypesetLine (Content.tableRule palette left middle right) := by
    have long (count : Nat) : Typeset (Content.fill count '─') := typeset_fill _ (by decide)
    simp [Content.tableRule, long, ends]
  have row {role : Role} {left right : String} (texts : Typeset left ∧ Typeset right) :
      TypesetLine (Content.tableRow palette role left right) := by
    have side : Typeset "│ " := typeset_ofList (by decide)
    have middle : Typeset " │ " := typeset_ofList (by decide)
    have other : Typeset " │" := typeset_ofList (by decide)
    simp [TypesetLine, Content.tableRow, Palette.span, Line.ofSpans, side, middle, other, texts]
  have blank : Typeset "" := typeset_ofList rfl
  have table : ∀ skill ∈ Content.skillTable, Typeset skill.category ∧ Typeset skill.first ∧
      Typeset skill.second := by
    simp only [Content.skillTable, List.forall_mem_cons]
    and_intros
    all_goals first
      | exact typeset_ofList (by decide +kernel)
      | exact fun _ member => nomatch member
  have rows : TypesetLines (Content.skillTable.flatMap (Content.skillRows palette)) := by
    refine List.forall_mem_flatMap.mpr fun skill member => ?_
    obtain ⟨category, first, second⟩ := table skill member
    have crossing : Typeset "├" ∧ Typeset "┼" ∧ Typeset "┤" := by
      and_intros <;> exact typeset_ofList (by decide)
    exact typesetLines_cons.mpr ⟨rule crossing, typesetLines_cons.mpr ⟨row ⟨category, first⟩,
      typesetLines_cons.mpr ⟨row ⟨blank, second⟩, typesetLines_nil⟩⟩⟩
  simp only [Content.skills, typesetLines_append, typesetLines_cons, typesetLines_header,
    typesetLine_line]
  refine ⟨⟨⟨?_, rule ?_, row ?_, typesetLines_nil⟩, rows⟩, rule ?_, typesetLine_blank, ?_,
    typesetLines_nil⟩
  all_goals
    and_intros <;> exact typeset_ofList (by decide +kernel)

theorem typesetLines_experience (palette : Palette) :
    TypesetLines (Content.experience palette) := by
  have jobs : ∀ job ∈ Content.jobs, Typeset job.role ∧ Typeset job.company ∧ Typeset job.period ∧
      Typeset job.summary := by
    simp only [Content.jobs, List.forall_mem_cons]
    and_intros
    all_goals first
      | exact typeset_ofList (by decide +kernel)
      | exact fun _ member => nomatch member
  have bar : Typeset " | " := typeset_ofList (by decide)
  simp only [Content.experience, typesetLines_append, typesetLines_header]
  refine ⟨typeset_ofList (by decide), typesetLines_intercalate ?_⟩
  refine List.forall_mem_map.mpr fun job member => ?_
  obtain ⟨role, company, period, summary⟩ := jobs job member
  simp [Content.jobLines, TypesetLine, Line.ofSpans, Palette.line, Palette.span, Span.raw, role,
    company, period, summary, bar]

theorem typesetLines_links (palette : Palette) : TypesetLines (Content.links palette) := by
  have list : ∀ link ∈ Content.linkList, Typeset link.icon ∧ Typeset link.name ∧
      Typeset link.address := by
    simp only [Content.linkList, List.forall_mem_cons]
    and_intros
    all_goals first
      | exact typeset_ofList (by decide +kernel)
      | exact fun _ member => nomatch member
  have blank : Typeset " " := typeset_ofList (by decide)
  have colon : Typeset ": " := typeset_ofList (by decide)
  simp only [Content.links, typesetLines_append, typesetLines_cons, typesetLines_header,
    typesetLine_line]
  refine ⟨⟨typeset_ofList (by decide), ?_⟩, typesetLine_blank, typeset_ofList (by decide +kernel),
    typesetLines_nil⟩
  refine List.forall_mem_map.mpr fun link member => ?_
  obtain ⟨icon, name, address⟩ := list link member
  simp [Content.linkLine, TypesetLine, Line.ofSpans, Palette.span, Span.raw, icon, name, address,
    blank, colon]

theorem typesetLines_entries (palette : Palette) {label : String} (typeset : Typeset label)
    (category : Category) : TypesetLines (Content.entryLines palette label category) := by
  have texts (entry : Entry) : Typeset entry.name ∧ Typeset entry.description := by
    cases entry <;> exact ⟨typeset_ofList (by decide), typeset_ofList (by decide +kernel)⟩
  have indent : Typeset "  " := typeset_ofList (by decide)
  have blank : Typeset " " := typeset_ofList (by decide)
  refine typesetLines_cons.mpr ⟨typesetLine_line.mpr typeset, ?_⟩
  refine List.forall_mem_map.mpr fun entry _ => ?_
  simp [Content.entryLine, TypesetLine, Line.ofSpans, Palette.span, Span.raw, texts entry, indent,
    blank]

theorem typesetLines_help (palette : Palette) : TypesetLines (Content.help palette) := by
  simp only [Content.help, typesetLines_append, typesetLines_cons, typesetLines_header,
    typesetLine_line]
  refine ⟨⟨⟨⟨?_, typesetLines_entries palette ?_ _⟩, typesetLine_blank, typesetLines_nil⟩,
    typesetLines_entries palette ?_ _⟩, typesetLine_blank, ?_, typesetLines_nil⟩
  all_goals exact typeset_ofList (by decide)

/-- The listing of the key bindings. -/
theorem typesetLines_bindings (help : Help) : TypesetLines (help.fullLines Keys.full) := by
  have bindings : ∀ group ∈ Keys.full, ∀ binding ∈ group, Typeset binding.label ∧
      Typeset binding.description := by decide +kernel
  have indent : Typeset "  " := typeset_ofList (by decide)
  have blanks (count : Nat) : Typeset (Help.blanks count) := typeset_fill count (by decide)
  refine typesetLines_intercalate (List.forall_mem_map.mpr fun group member => ?_)
  refine List.forall_mem_map.mpr fun binding inside => ?_
  obtain ⟨label, description⟩ := bindings group member binding (List.mem_of_mem_filter inside)
  simp [Help.bindingLine, TypesetLine, Line.ofSpans, Span.raw, label, description, indent, blanks]

/-- Whatever is shown is typeset, at any time. -/
theorem typesetLines_contentLines (palette : Palette) (clock : Clock) (entry : Entry) :
    TypesetLines (contentLines palette clock entry) := by
  have listing : TypesetLines
      (if entry == .help then (help palette).fullLines Keys.full else []) := by
    split
    · exact typesetLines_bindings _
    · exact typesetLines_nil
  refine typesetLines_append.mpr ⟨?_, listing⟩
  cases entry with
  | about => exact typesetLines_about palette
  | skills => exact typesetLines_skills palette
  | experience => exact typesetLines_experience palette
  | links => exact typesetLines_links palette
  | help => exact typesetLines_help palette
  | date =>
      simp only [Entry.lines, Content.date, typesetLines_cons, typesetLine_field]
      exact ⟨⟨typeset_ofList (by decide), typeset_dateText clock⟩,
        ⟨typeset_ofList (by decide), typeset_timeText clock⟩, typesetLines_nil⟩
  | whoami =>
      simp only [Entry.lines, Content.whoami, typesetLines_cons, typesetLine_line]
      exact ⟨typeset_ofList (by decide), typeset_ofList (by decide), typesetLines_nil⟩

/-- Every character of a row that the content was cut into is a cluster of its own. -/
theorem standalone_contentRow {clock : Clock} {entry : Entry} {width : Nat}
    (member : line ∈ Text.wrapLines (contentLines palette clock entry) width) :
    ∀ ink ∈ line.inked, Standalone ink.1 := by
  intro ink inside
  obtain ⟨whole, shown, cut⟩ := List.mem_flatMap.mp member
  have kept : ink ∈ whole.inked := by
    rw [← Text.wrapLine_inked whole width]
    exact List.mem_flatMap.mpr ⟨line, cut, inside⟩
  obtain ⟨span, listed, letter⟩ := List.mem_flatMap.mp kept
  obtain ⟨c, spelled, rfl⟩ := List.mem_map.mp letter
  exact standalone_of_isTypeset
    (typesetLines_contentLines palette clock entry whole shown span listed c spelled)

end Showcase.Portfolio
