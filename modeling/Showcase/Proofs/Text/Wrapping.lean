import Mathlib.Algebra.GroupWithZero.Nat
import Mathlib.Data.List.Chain
import Showcase.Text.Wrap

/-!
# What wrapping gives

The rows of a wrapped line hold the characters of the line, each in the style of its span, and each
row ends where the next character would not fit. There is one way only to cut a text like that, so
the spans of a line have no say in where its rows end.
-/

namespace Showcase.Text

/-! ## Cutting a text into rows -/

section

variable {α : Type} (size : α → Nat) (width : Nat)

/-- The room that a row takes. -/
def extent (row : List α) : Nat := (row.map size).sum

/-- A row is no longer than the width, or it holds a single item that is, after items that take no
room. -/
def Fits (row : List α) : Prop :=
  extent size row ≤ width ∨
    ∃ marks item, row = marks ++ [item] ∧ (∀ mark ∈ marks, size mark = 0) ∧ width < size item

/-- A row takes some room, and the first item of the next one would not fit on it. -/
def Breaks (row next : List α) : Prop :=
  0 < extent size row ∧ ∃ item rest, next = item :: rest ∧ width < extent size row + size item

/-- Every row fits, and each but the last ends where it has to. -/
structure Greedy (rows : List (List α)) : Prop where
  fits : ∀ row ∈ rows, Fits size width row
  breaks : rows.IsChain (Breaks size width)

/-- The rows of a text, given the open row and the room it takes. With width zero nothing is
cut. -/
def cutFrom (used : Nat) (row : List α) : List α → List (List α)
  | [] => [row]
  | item :: rest =>
      if 0 < width ∧ 0 < used ∧ width < used + size item then
        row :: cutFrom (size item) [item] rest
      else cutFrom (used + size item) (row ++ [item]) rest

variable {size width} {row other next items : List α} {rows others : List (List α)} {used : Nat}
  {item : α}

theorem extent_append (row other : List α) :
    extent size (row ++ other) = extent size row + extent size other := by
  simp [extent]

theorem extent_cons (item : α) (row : List α) :
    extent size (item :: row) = size item + extent size row := by
  simp [extent]

theorem extent_eq_zero_iff : extent size row = 0 ↔ ∀ mark ∈ row, size mark = 0 := by
  induction row with
  | nil => simp [extent]
  | cons item rest ih => simp [extent_cons, ih]

/-! ### There is one way only -/

theorem Greedy.tail (greedy : Greedy size width (row :: rows)) : Greedy size width rows :=
  ⟨fun other member => greedy.fits other (List.mem_cons_of_mem _ member), greedy.breaks.tail⟩

theorem Breaks.ne_nil (breaks : Breaks size width row next) : next ≠ [] := by
  obtain ⟨-, item, rest, rfl, -⟩ := breaks
  exact List.cons_ne_nil item rest

/-- No row that fits goes on where a greedy row ends. -/
theorem Breaks.not_fits (breaks : Breaks size width row (item :: next)) (before after : List α) :
    ¬ Fits size width (before ++ row ++ item :: after) := by
  obtain ⟨positive, first, rest, starts, exceeds⟩ := breaks
  obtain rfl : item = first := (List.cons.inj starts).1
  rintro (short | ⟨marks, last, split, none, -⟩)
  · rw [extent_append, extent_append, extent_cons] at short
    omega
  · -- Only the last item of such a row takes room, and it comes after `row`.
    have within : before ++ row <+: marks := by
      refine List.prefix_of_prefix_length_le (List.prefix_append _ (item :: after))
        (split ▸ List.prefix_append marks [last]) ?_
      have length_eq := congrArg List.length split
      simp only [List.length_append, List.length_cons, List.length_nil] at length_eq ⊢
      omega
    have zero : extent size row = 0 :=
      extent_eq_zero_iff.mpr fun mark member =>
        none mark (within.subset (List.mem_append_right before member))
    omega

/-- A greedy cut that has no more left than another one has no more left after one row of each. -/
theorem Greedy.stays_ahead (greedy : Greedy size width (row :: rows)) (fits : Fits size width other)
    (ahead : (row :: rows).flatten <:+ (other :: others).flatten) :
    rows.flatten <:+ others.flatten := by
  obtain ⟨before, same⟩ := ahead
  rw [List.flatten_cons, List.flatten_cons, ← List.append_assoc] at same
  rcases List.append_eq_append_iff.mp same with ⟨more, other_eq, rest_eq⟩ | ⟨more, -, rest_eq⟩
  · cases more with
    | nil => exact rest_eq ▸ List.suffix_refl _
    | cons item more =>
        cases rows with
        | nil => cases rest_eq
        | cons next rows =>
            obtain ⟨breaks, -⟩ := List.isChain_cons_cons.mp greedy.breaks
            obtain ⟨first, rest, rfl⟩ := List.exists_cons_of_ne_nil breaks.ne_nil
            obtain rfl : first = item := (List.cons.inj rest_eq).1
            exact absurd (other_eq ▸ fits) (breaks.not_fits before more)
  · exact ⟨more, rest_eq.symm⟩

theorem Greedy.flatten_ne_nil (greedy : Greedy size width (row :: next :: rows)) :
    (next :: rows).flatten ≠ [] := by
  have some := (List.isChain_cons_cons.mp greedy.breaks).1.ne_nil
  simp [some]

theorem Greedy.head_eq (greedy : Greedy size width (row :: rows))
    (further : Greedy size width (other :: others))
    (same : (row :: rows).flatten = (other :: others).flatten) : row = other := by
  have left : rows.flatten <:+ others.flatten :=
    greedy.stays_ahead (further.fits other List.mem_cons_self) (same ▸ List.suffix_refl _)
  have right : others.flatten <:+ rows.flatten :=
    further.stays_ahead (greedy.fits row List.mem_cons_self) (same ▸ List.suffix_refl _)
  rw [List.flatten_cons, List.flatten_cons, left.eq_of_length_le right.length_le] at same
  exact List.append_cancel_right same

/-- Two greedy cuts of one text are equal. -/
theorem Greedy.unique (greedy : Greedy size width (row :: rows))
    (further : Greedy size width (other :: others))
    (same : (row :: rows).flatten = (other :: others).flatten) :
    row :: rows = other :: others := by
  induction rows generalizing row other others with
  | nil =>
      obtain rfl := greedy.head_eq further same
      replace same := List.append_cancel_left same
      cases others with
      | nil => rfl
      | cons second others => exact absurd same.symm further.flatten_ne_nil
  | cons next rows ih =>
      obtain rfl := greedy.head_eq further same
      replace same := List.append_cancel_left same
      cases others with
      | nil => exact absurd same greedy.flatten_ne_nil
      | cons second others => rw [ih greedy.tail further.tail same]

/-- Only a text without items has a row without items, and no other row. -/
theorem Greedy.eq_of_nil_mem (greedy : Greedy size width rows) (empty : [] ∈ rows) :
    rows = [[]] := by
  induction rows with
  | nil => cases empty
  | cons row rows ih =>
      cases rows with
      | nil => rw [List.mem_singleton.mp empty]
      | cons next rows =>
          obtain ⟨breaks, -⟩ := List.isChain_cons_cons.mp greedy.breaks
          rcases List.mem_cons.mp empty with rfl | later
          · exact absurd breaks.1 (Nat.lt_irrefl 0)
          · exact absurd (List.cons.inj (ih greedy.tail later)).1 breaks.ne_nil

theorem Greedy.map {β : Type} {size : β → Nat} {f : α → β} {rows : List (List α)}
    (greedy : Greedy (fun item => size (f item)) width rows) :
    Greedy size width (rows.map (List.map f)) := by
  have extent_map (row : List α) :
      extent size (row.map f) = extent (fun item => size (f item)) row := by
    simp [extent, Function.comp_def]
  constructor
  · intro image member
    obtain ⟨row, inside, rfl⟩ := List.mem_map.mp member
    refine (greedy.fits row inside).imp (fun short => extent_map row ▸ short) ?_
    rintro ⟨marks, item, rfl, none, exceeds⟩
    exact ⟨marks.map f, f item, by simp, by simpa using none, exceeds⟩
  · refine List.isChain_map_of_isChain _ ?_ greedy.breaks
    rintro row next ⟨positive, item, rest, rfl, exceeds⟩
    refine ⟨extent_map row ▸ positive, f item, rest.map f, rfl, ?_⟩
    rwa [extent_map]

/-! ### Cutting is greedy -/

theorem flatten_cutFrom (used : Nat) (row items : List α) :
    (cutFrom size width used row items).flatten = row ++ items := by
  induction items generalizing used row with
  | nil => simp [cutFrom]
  | cons item rest ih =>
      unfold cutFrom
      split <;> simp [ih]

theorem cutFrom_zero (used : Nat) (row items : List α) :
    cutFrom size 0 used row items = [row ++ items] := by
  induction items generalizing used row with
  | nil => simp [cutFrom]
  | cons item rest ih => simp [cutFrom, ih]

/-- The first row goes on with what the open row holds. -/
theorem exists_cutFrom (size : α → Nat) (width used : Nat) (row items : List α) :
    ∃ more rows, cutFrom size width used row items = (row ++ more) :: rows := by
  induction items generalizing used row with
  | nil => exact ⟨[], [], by simp [cutFrom]⟩
  | cons item rest ih =>
      unfold cutFrom
      split
      · exact ⟨[], _, by rw [List.append_nil]⟩
      · obtain ⟨more, rows, cut⟩ := ih (used + size item) (row ++ [item])
        exact ⟨item :: more, rows, by rw [cut, List.append_assoc, List.singleton_append]⟩

theorem fits_singleton (size : α → Nat) (width : Nat) (item : α) : Fits size width [item] := by
  by_cases short : size item ≤ width
  · exact .inl (by simpa [extent] using short)
  · exact .inr ⟨[], item, rfl, by simp, Nat.lt_of_not_le short⟩

/-- An item that does not have to go to the next row fits on this one. -/
theorem fits_push
    (goesOn : ¬ (0 < extent size row ∧ width < extent size row + size item)) :
    Fits size width (row ++ [item]) := by
  by_cases short : extent size row + size item ≤ width
  · exact .inl (by simpa [extent_append, extent_cons, extent] using short)
  · have zero : extent size row = 0 := by omega
    exact .inr ⟨row, item, rfl, extent_eq_zero_iff.mp zero, by omega⟩

theorem greedy_cutFrom (positive : 0 < width) (used_eq : used = extent size row)
    (fits : Fits size width row) : Greedy size width (cutFrom size width used row items) := by
  induction items generalizing used row with
  | nil => exact ⟨by simpa [cutFrom] using fits, List.isChain_singleton _⟩
  | cons item rest ih =>
      subst used_eq
      unfold cutFrom
      split
      · rename_i breaks
        obtain ⟨-, some, exceeds⟩ := breaks
        have further : Greedy size width (cutFrom size width (size item) [item] rest) :=
          ih (by simp [extent]) (fits_singleton size width item)
        obtain ⟨more, rows, cut⟩ := exists_cutFrom size width (size item) [item] rest
        rw [cut] at further ⊢
        constructor
        · intro other member
          rcases List.mem_cons.mp member with rfl | member
          · exact fits
          · exact further.fits other member
        · exact List.isChain_cons_cons.mpr ⟨⟨some, item, more, rfl, exceeds⟩, further.breaks⟩
      · rename_i goesOn
        exact ih (by simp [extent]) (fits_push fun breaks => goesOn ⟨positive, breaks⟩)

end

/-! ## The characters of a line -/

/-- The characters of a span, each in its style. -/
def Span.inked (span : Span) : List (Char × Style) := span.text.toList.map fun c => (c, span.style)

namespace Line

/-- The characters of a line, each in the style of its span. -/
def inked (line : Line) : List (Char × Style) := line.spans.flatMap Span.inked

def characters (line : Line) : List Char := line.spans.flatMap fun span => span.text.toList

theorem map_inked (line : Line) : line.inked.map Prod.fst = line.characters := by
  simp [inked, characters, Span.inked, List.map_flatMap, Function.comp_def]

end Line

namespace OpenRow

/-- The characters of a row whose open span has the given style. -/
def inked (row : OpenRow) (style : Style) : List (Char × Style) :=
  row.spans.reverse.flatMap Span.inked ++ row.text.reverse.map fun c => (c, style)

theorem inked_push (row : OpenRow) (c : Char) (style : Style) :
    (row.push c).inked style = row.inked style ++ [(c, style)] := by
  simp [push, inked]

theorem inked_closeSpan (row : OpenRow) (style other : Style) :
    (row.closeSpan style).inked other = row.inked style := by
  unfold closeSpan
  split
  · rename_i empty
    simp [inked, List.isEmpty_iff.mp empty]
  · simp [inked, Span.inked]

theorem text_closeSpan (row : OpenRow) (style : Style) : (row.closeSpan style).text = [] := by
  unfold closeSpan
  split
  · rename_i empty
    exact List.isEmpty_iff.mp empty
  · rfl

theorem used_closeSpan (row : OpenRow) (style : Style) :
    (row.closeSpan style).used = row.used := by
  unfold closeSpan
  split <;> rfl

/-- A closed row. -/
theorem inked_toLine {row : OpenRow} (closed : row.text = []) (style other : Style) :
    (row.toLine style).inked = row.inked other := by
  simp [toLine, inked, Line.inked, closed]

end OpenRow

namespace Wrapping

/-- The columns of a character, whatever its style. -/
def inkColumns (ink : Char × Style) : Nat := columns ink.1

/-- The rows that there will be when the rest of a line is taken, the open span having the given
style. -/
def completed (state : Wrapping) (width : Nat) (style : Style) (rest : List (Char × Style)) :
    List (List (Char × Style)) :=
  state.rows.reverse.map Line.inked
    ++ cutFrom inkColumns width state.row.used (state.row.inked style) rest

variable {width : Nat} {lineStyle style : Style}

theorem overflows_iff (row : OpenRow) (width : Nat) (ink : Char × Style) :
    row.overflows width ink.1 = true ↔
      0 < width ∧ 0 < row.used ∧ width < row.used + inkColumns ink := by
  simp [OpenRow.overflows, inkColumns, and_assoc]

/-- Taking a character does not change what there will be. -/
theorem completed_pushChar (state : Wrapping) (c : Char) (rest : List (Char × Style)) :
    (pushChar width lineStyle style state c).completed width style rest =
      state.completed width style ((c, style) :: rest) := by
  simp only [completed, cutFrom]
  unfold pushChar
  split
  · rename_i exceeds
    rw [if_pos ((overflows_iff state.row width (c, style)).mp exceeds)]
    have closed := OpenRow.inked_toLine (OpenRow.text_closeSpan state.row style) lineStyle style
    rw [OpenRow.inked_closeSpan] at closed
    rw [List.reverse_cons, List.map_append, List.map_singleton, closed, List.append_assoc,
      List.singleton_append, OpenRow.inked_push]
    simp [OpenRow.push, OpenRow.inked, inkColumns]
  · rename_i goesOn
    rw [if_neg (mt (overflows_iff state.row width (c, style)).mpr goesOn), OpenRow.inked_push]
    rfl

theorem completed_pushChars (lineStyle : Style) (state : Wrapping) (text : List Char)
    (rest : List (Char × Style)) :
    (text.foldl (pushChar width lineStyle style) state).completed width style rest =
      state.completed width style (text.map (fun c => (c, style)) ++ rest) := by
  induction text generalizing state with
  | nil => rfl
  | cons c text ih => rw [List.foldl_cons, ih, completed_pushChar]; rfl

theorem completed_pushSpan (state : Wrapping) (span : Span) (other : Style)
    (rest : List (Char × Style)) :
    (pushSpan width lineStyle state span).completed width other rest =
      state.completed width span.style (span.inked ++ rest) := by
  rw [Span.inked, ← completed_pushChars lineStyle]
  simp only [pushSpan, completed, OpenRow.inked_closeSpan, OpenRow.used_closeSpan]

/-- Without an open span its style does not matter. -/
theorem completed_style {state : Wrapping} (closed : state.row.text = []) (style other : Style)
    (rest : List (Char × Style)) :
    state.completed width style rest = state.completed width other rest := by
  simp [completed, OpenRow.inked, closed]

theorem text_pushSpan (state : Wrapping) (span : Span) :
    (pushSpan width lineStyle state span).row.text = [] := OpenRow.text_closeSpan _ _

theorem completed_pushSpans {state : Wrapping} (closed : state.row.text = []) (spans : List Span)
    (style : Style) (rest : List (Char × Style)) :
    (spans.foldl (pushSpan width lineStyle) state).completed width style rest =
      state.completed width style (spans.flatMap Span.inked ++ rest) := by
  induction spans generalizing state with
  | nil => rfl
  | cons span spans ih =>
      rw [List.foldl_cons, ih (text_pushSpan state span), completed_pushSpan, List.flatMap_cons,
        List.append_assoc, completed_style closed span.style style]

/-- Finished rows have the style of the line, and no span is empty. -/
structure Solid (lineStyle : Style) (state : Wrapping) : Prop where
  rows : ∀ row ∈ state.rows, row.style = lineStyle ∧ ∀ span ∈ row.spans, span.text ≠ ""
  spans : ∀ span ∈ state.row.spans, span.text ≠ ""

theorem closeSpan_solid {row : OpenRow} (solid : ∀ span ∈ row.spans, span.text ≠ "")
    (style : Style) : ∀ span ∈ (row.closeSpan style).spans, span.text ≠ "" := by
  unfold OpenRow.closeSpan
  split
  · exact solid
  · rename_i some
    intro span member
    rcases List.mem_cons.mp member with rfl | member
    · intro empty
      have text_eq := String.ofList_eq_empty_iff.mp empty
      exact some (List.isEmpty_iff.mpr (List.reverse_eq_nil_iff.mp text_eq))
    · exact solid span member

theorem Solid.pushChar {state : Wrapping} (solid : Solid lineStyle state) (c : Char) :
    Solid lineStyle (pushChar width lineStyle style state c) := by
  unfold Wrapping.pushChar
  split
  · refine ⟨fun row member => ?_, fun span member => nomatch member⟩
    rcases List.mem_cons.mp member with rfl | member
    · refine ⟨rfl, fun span member => closeSpan_solid solid.spans style span ?_⟩
      exact List.mem_reverse.mp member
    · exact solid.rows row member
  · exact ⟨solid.rows, solid.spans⟩

theorem Solid.pushSpan {state : Wrapping} (solid : Solid lineStyle state) (span : Span) :
    Solid lineStyle (pushSpan width lineStyle state span) := by
  have filled : Solid lineStyle
      (span.text.toList.foldl (Wrapping.pushChar width lineStyle span.style) state) := by
    refine List.foldlRecOn _ _ solid fun state solid c _ => solid.pushChar c
  exact ⟨filled.rows, closeSpan_solid filled.spans span.style⟩

end Wrapping

/-! ## The rows of a line -/

open Wrapping (inkColumns)

variable {line other row : Line} {width : Nat}

theorem map_inked_wrapLine (line : Line) (width : Nat) :
    (wrapLine line width).map Line.inked = cutFrom inkColumns width 0 [] line.inked := by
  have run : Wrapping.completed (line.spans.foldl (Wrapping.pushSpan width line.style) {}) width
      .plain [] = _ := Wrapping.completed_pushSpans rfl line.spans .plain []
  rw [List.append_nil] at run
  have closed : (line.spans.foldl (Wrapping.pushSpan width line.style) {}).row.text = [] :=
    List.foldlRecOn (motive := fun state => state.row.text = []) _ _ rfl
      fun state _ span _ => Wrapping.text_pushSpan state span
  rw [wrapLine, List.reverse_cons, List.map_append, List.map_singleton,
    OpenRow.inked_toLine closed line.style .plain]
  exact run

theorem wrapLine_inked (line : Line) (width : Nat) :
    (wrapLine line width).flatMap Line.inked = line.inked := by
  rw [List.flatMap_def, map_inked_wrapLine, flatten_cutFrom, List.nil_append]

theorem flatten_characters_wrapLine (line : Line) (width : Nat) :
    ((wrapLine line width).map Line.characters).flatten = line.characters := by
  rw [← Line.map_inked, ← wrapLine_inked line width, List.map_flatMap, List.flatMap_def]
  simp only [Line.map_inked]

theorem solid_wrapLine (member : row ∈ wrapLine line width) :
    row.style = line.style ∧ ∀ span ∈ row.spans, span.text ≠ "" := by
  have solid : Wrapping.Solid line.style
      (line.spans.foldl (Wrapping.pushSpan width line.style) {}) := by
    refine List.foldlRecOn _ _ ⟨?_, ?_⟩ fun state solid span _ => solid.pushSpan span
    · exact fun _ member => nomatch member
    · exact fun _ member => nomatch member
  simp only [wrapLine, List.mem_reverse, List.mem_cons] at member
  rcases member with rfl | member
  · exact ⟨rfl, fun span member => solid.spans span (List.mem_reverse.mp member)⟩
  · exact solid.rows row member

theorem wrapLine_zero (line : Line) : ∃ row, wrapLine line 0 = [row] := by
  have rows := map_inked_wrapLine line 0
  rw [cutFrom_zero] at rows
  exact List.length_eq_one_iff.mp (by simpa using congrArg List.length rows)

theorem greedy_wrapLine (line : Line) (positive : 0 < width) :
    Greedy columns width ((wrapLine line width).map Line.characters) := by
  have cut : Greedy inkColumns width ((wrapLine line width).map Line.inked) := by
    rw [map_inked_wrapLine]
    exact greedy_cutFrom positive rfl (.inl (Nat.zero_le _))
  have image := cut.map (f := Prod.fst)
  rwa [List.map_map, show List.map Prod.fst ∘ Line.inked = Line.characters from
    funext Line.map_inked] at image

theorem characters_wrapLine_zero (line : Line) :
    (wrapLine line 0).map Line.characters = [line.characters] := by
  obtain ⟨row, rows_eq⟩ := wrapLine_zero line
  rw [← flatten_characters_wrapLine line 0, rows_eq]
  simp

/-- A greedy cut of the characters of a line has the rows of the line. -/
theorem eq_wrapLine_of_greedy {rows : List (List Char)} (some : rows ≠ [])
    (cuts : rows.flatten = line.characters) (greedy : Greedy columns width rows)
    (positive : 0 < width) : rows = (wrapLine line width).map Line.characters := by
  have wrapped := greedy_wrapLine line positive
  have same := cuts.trans (flatten_characters_wrapLine line width).symm
  have others : (wrapLine line width).map Line.characters ≠ [] := by
    simpa using wrapLine_ne_nil line width
  obtain ⟨row, rows, rfl⟩ := List.exists_cons_of_ne_nil some
  obtain ⟨first, rest, eq⟩ := List.exists_cons_of_ne_nil others
  rw [eq] at wrapped same ⊢
  exact greedy.unique wrapped same

theorem characters_wrapLine_congr (same : other.characters = line.characters) (width : Nat) :
    (wrapLine other width).map Line.characters = (wrapLine line width).map Line.characters := by
  cases width with
  | zero => rw [characters_wrapLine_zero, characters_wrapLine_zero, same]
  | succ width =>
      have positive := Nat.succ_pos width
      refine eq_wrapLine_of_greedy ?_ ?_ (greedy_wrapLine other positive) positive
      · simpa using wrapLine_ne_nil other (width + 1)
      · rw [flatten_characters_wrapLine, same]

/-- A row without characters is the only one, and there is no span on it. -/
theorem wrapLine_of_empty (member : row ∈ wrapLine line width) (empty : row.characters = []) :
    row.spans = [] ∧ line.characters = [] ∧ wrapLine line width = [row] := by
  have listed : [] ∈ (wrapLine line width).map Line.characters :=
    empty ▸ List.mem_map_of_mem member
  have single : (wrapLine line width).map Line.characters = [[]] := by
    cases width with
    | zero =>
        rw [characters_wrapLine_zero] at listed ⊢
        rw [List.mem_singleton.mp listed]
    | succ width => exact (greedy_wrapLine line (Nat.succ_pos width)).eq_of_nil_mem listed
  refine ⟨?_, ?_, ?_⟩
  · refine List.eq_nil_iff_forall_not_mem.mpr fun span inside => ?_
    have blank := List.flatMap_eq_nil_iff.mp empty span inside
    exact (solid_wrapLine member).2 span inside (String.toList_eq_nil_iff.mp blank)
  · rw [← flatten_characters_wrapLine line width, single]
    rfl
  · obtain ⟨only, only_eq⟩ := List.length_eq_one_iff.mp (by simpa using congrArg List.length single)
    rw [only_eq] at member ⊢
    rw [List.mem_singleton.mp member]

/-- Wrapping a line loses nothing: the rows hold its characters in order, each in the style of its
span, and have the style of the line; none of them is empty, and no span is, but for the one row of
a line without text. With width zero nothing is cut. Otherwise every row fits, or holds a single
character that is wider than the width after characters without columns, and each row but the last
ends where the next character would not fit; no other cut of the characters is like that, so that
rows end at the same characters however the text is cut into spans. -/
theorem wrapLine_lossless_greedy (line : Line) (width : Nat) :
    let rows := wrapLine line width
    rows.flatMap Line.inked = line.inked ∧
      (∀ row ∈ rows, row.style = line.style) ∧
      rows ≠ [] ∧
      (∀ row ∈ rows, (∀ span ∈ row.spans, span.text ≠ "") ∧
        (row.characters = [] → row.spans = [] ∧ line.characters = [] ∧ rows = [row])) ∧
      (width = 0 → ∃ row, rows = [row]) ∧
      (0 < width → Greedy columns width (rows.map Line.characters) ∧
        ∀ cuts : List (List Char), cuts ≠ [] → cuts.flatten = line.characters →
          Greedy columns width cuts → cuts = rows.map Line.characters) ∧
      ∀ other : Line, other.characters = line.characters →
        (wrapLine other width).map Line.characters = rows.map Line.characters := by
  intro rows
  refine ⟨wrapLine_inked line width, fun row member => (solid_wrapLine member).1,
    wrapLine_ne_nil line width, ?_, ?_, ?_, ?_⟩
  · intro row member
    exact ⟨(solid_wrapLine member).2, wrapLine_of_empty member⟩
  · rintro rfl
    exact wrapLine_zero line
  · intro positive
    refine ⟨greedy_wrapLine line positive, fun cuts some cuts_eq greedy => ?_⟩
    exact eq_wrapLine_of_greedy some cuts_eq greedy positive
  · intro other same
    exact characters_wrapLine_congr same width

end Showcase.Text
