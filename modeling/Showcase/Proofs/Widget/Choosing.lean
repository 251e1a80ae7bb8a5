import Mathlib.Algebra.GroupWithZero.Nat
import Showcase.Widget.Menu

/-!
# Choosing in a menu

The items of a menu are counted through all of its sections, and the line of the item under the
cursor is the marked one. The same number is found for the name of an item and told when the item is
chosen.
-/

namespace Showcase.Widget.Menu

open Showcase.Text (Line)

/-- A menu after some messages. -/
def run (menu : Menu) (messages : List MenuMessage) : Menu :=
  messages.foldl (fun menu message => (menu.update message).1) menu

/-- Text in the form of the line under the cursor: behind two blanks and the indicator, all in the
style for it. -/
def markedLine (style : MenuStyle) (text : String) : Line :=
  .ofSpans [.raw "  ", { text := style.indicator ++ text, style := style.selected }]

def itemLine (style : MenuStyle) (cursor index : Nat) (item : MenuItem) : Line :=
  if index = cursor then selectedLine style item else normalLine style item

/-- The number of an item, counted through all sections, from its place in its section. -/
def flatIndex (sections : List MenuSection) (part place : Nat) : Nat :=
  ((sections.take part).map fun earlier => earlier.items.length).sum + place

/-- The row of the item with a number, below titles and blank lines. -/
def itemRow : List MenuSection → Nat → Nat
  | [], index => index
  | part :: rest, index =>
      if index < part.items.length then index + 1
      else part.items.length + 2 + itemRow rest (index - part.items.length)

variable {menu : Menu} {sections rest : List MenuSection} {part : MenuSection}
  {items : List MenuItem} {item : MenuItem} {style : MenuStyle} {cursor index place row : Nat}
  {text : String} {line : Line}

/-! ## Forms of lines -/

theorem selectedLine_eq (style : MenuStyle) (item : MenuItem) :
    selectedLine style item = markedLine style (itemText item) := rfl

theorem titleLine_ne_marked (title : String) : titleLine style title ≠ markedLine style text := by
  intro same
  have spans := congrArg (fun line => line.spans.length) same
  cases spans

theorem blank_ne_marked : Line.blank ≠ markedLine style text := by
  intro same
  have spans := congrArg (fun line => line.spans.length) same
  cases spans

theorem normalLine_ne_marked : normalLine style item ≠ markedLine style text := by
  intro same
  have spans := congrArg (fun line => line.spans.head?.map Text.Span.text) same
  exact absurd spans (by simp [normalLine, markedLine, Line.ofSpans, Text.Span.raw])

/-! ## Lines of a section -/

theorem getElem?_itemLines (items : List MenuItem) (index row : Nat) :
    (itemLines style cursor index items)[row]? =
      items[row]?.map (itemLine style cursor (index + row)) := by
  induction items generalizing index row with
  | nil => rfl
  | cons item rest ih =>
      cases row with
      | zero => simp [itemLines, itemLine]
      | succ row =>
          rw [itemLines, List.getElem?_cons_succ, ih, List.getElem?_cons_succ, Nat.add_right_comm,
            Nat.add_assoc]

theorem itemLines_eq (items : List MenuItem) (index : Nat) :
    itemLines style cursor index items =
      items.mapIdx fun place => itemLine style cursor (index + place) := by
  apply List.ext_getElem?
  intro row
  rw [getElem?_itemLines, List.getElem?_mapIdx]

theorem length_itemLines (items : List MenuItem) (index : Nat) :
    (itemLines style cursor index items).length = items.length := by
  rw [itemLines_eq, List.length_mapIdx]

theorem length_sectionLines (part : MenuSection) (index : Nat) :
    (sectionLines style cursor index part).length = part.items.length + 1 := by
  rw [sectionLines, List.length_cons, length_itemLines]

/-! ## Lines of sections -/

theorem itemsOf_cons : itemsOf (part :: rest) = part.items ++ itemsOf rest := List.flatMap_cons

theorem length_itemsOf (sections : List MenuSection) :
    (itemsOf sections).length = (sections.map fun part => part.items.length).sum :=
  List.length_flatMap

/-- The lines behind a section. -/
def following (style : MenuStyle) (cursor index : Nat) : List MenuSection → List Line
  | [] => []
  | rest => .blank :: linesFrom style cursor index rest

theorem linesFrom_cons (part : MenuSection) (rest : List MenuSection) :
    linesFrom style cursor index (part :: rest) = sectionLines style cursor index part ++
      following style cursor (index + part.items.length) rest := by
  cases rest with
  | nil => exact (List.append_nil _).symm
  | cons next rest => rfl

theorem length_linesFrom (sections : List MenuSection) (index : Nat) :
    (linesFrom style cursor index sections).length =
      (itemsOf sections).length + sections.length + (sections.length - 1) := by
  induction sections generalizing index with
  | nil => rfl
  | cons part rest ih =>
      rw [linesFrom_cons, List.length_append, length_sectionLines, itemsOf_cons, List.length_append,
        List.length_cons]
      cases rest with
      | nil => simp [following, itemsOf]
      | cons next rest =>
          rw [following, List.length_cons, ih, List.length_cons]
          · omega
          · simp

theorem flatIndex_zero (sections : List MenuSection) (place : Nat) :
    flatIndex sections 0 place = place := Nat.zero_add place

theorem flatIndex_succ (part : MenuSection) (rest : List MenuSection) (later place : Nat) :
    flatIndex (part :: rest) (later + 1) place =
      part.items.length + flatIndex rest later place := by
  rw [flatIndex, List.take_succ_cons, List.map_cons, List.sum_cons, flatIndex, Nat.add_assoc]

/-- The lines are those of the sections, with the items counted through all of them. -/
theorem linesFrom_eq (sections : List MenuSection) (index : Nat) :
    linesFrom style cursor index sections = [Line.blank].intercalate
      (sections.mapIdx fun part titled => titleLine style titled.title ::
        titled.items.mapIdx fun place =>
          itemLine style cursor (index + flatIndex sections part place)) := by
  induction sections generalizing index with
  | nil => rfl
  | cons part rest ih =>
      rw [linesFrom_cons, List.mapIdx_cons]
      simp only [flatIndex_zero, flatIndex_succ, ← itemLines_eq, ← Nat.add_assoc]
      cases rest with
      | nil => simp [following, sectionLines]
      | cons next rest =>
          rw [following, ih, List.mapIdx_cons, List.intercalate_cons_cons, sectionLines]
          · simp
          · simp

/-! ## Rows -/

theorem getElem?_within (inside : row ≤ part.items.length) :
    (linesFrom style cursor index (part :: rest))[row]? =
      (sectionLines style cursor index part)[row]? := by
  rw [linesFrom_cons, List.getElem?_append_left (by rw [length_sectionLines]; omega)]

theorem getElem?_below (row : Nat) :
    (linesFrom style cursor index (part :: rest))[part.items.length + 1 + row]? =
      (following style cursor (index + part.items.length) rest)[row]? := by
  rw [linesFrom_cons, ← length_sectionLines part index, List.getElem?_append_right
    (Nat.le_add_right _ _), Nat.add_sub_cancel_left]

theorem getElem?_following_succ (row : Nat) :
    (following style cursor index rest)[row + 1]? =
      (linesFrom style cursor index rest)[row]? := by
  cases rest with
  | nil => rfl
  | cons next rest => rfl

/-- In the row of an item is its line. -/
theorem getElem?_linesFrom (found : (itemsOf sections)[place]? = some item) :
    (linesFrom style cursor index sections)[itemRow sections place]? =
      some (itemLine style cursor (index + place) item) := by
  induction sections generalizing index place with
  | nil => cases found
  | cons part rest ih =>
      rw [itemsOf_cons] at found
      rw [itemRow]
      split
      · rename_i inside
        rw [List.getElem?_append_left inside] at found
        rw [getElem?_within inside, sectionLines, List.getElem?_cons_succ, getElem?_itemLines,
          found, Option.map_some]
      · rename_i beyond
        have le := Nat.le_of_not_lt beyond
        rw [List.getElem?_append_right le] at found
        rw [show part.items.length + 2 + itemRow rest (place - part.items.length) =
          part.items.length + 1 + (itemRow rest (place - part.items.length) + 1) by omega,
          getElem?_below, getElem?_following_succ, ih found, Nat.add_assoc,
          Nat.add_sub_cancel' le]

/-- All that a line of a menu can be. -/
inductive Listed (style : MenuStyle) (cursor index : Nat) (sections : List MenuSection) :
    Nat → Line → Prop where
  | blank (row : Nat) : Listed style cursor index sections row .blank
  | title (row : Nat) {part : MenuSection} (member : part ∈ sections) :
      Listed style cursor index sections row (titleLine style part.title)
  | normal (row : Nat) {item : MenuItem} (member : item ∈ itemsOf sections) :
      Listed style cursor index sections row (normalLine style item)
  | selected {place : Nat} {item : MenuItem} (found : (itemsOf sections)[place]? = some item)
      (cursor_eq : cursor = index + place) :
      Listed style cursor index sections (itemRow sections place) (selectedLine style item)

/-- What is listed in sections stays so below another one. -/
theorem Listed.below (part : MenuSection)
    (listed : Listed style cursor (index + part.items.length) rest row line) :
    Listed style cursor index (part :: rest) (part.items.length + 1 + (row + 1)) line := by
  have items_eq : itemsOf (part :: rest) = part.items ++ itemsOf rest := itemsOf_cons
  cases listed with
  | blank => exact .blank _
  | title row member => exact .title _ (List.mem_cons_of_mem _ member)
  | normal row member =>
      apply Listed.normal
      rw [items_eq]
      exact List.mem_append_right _ member
  | @selected place item found cursor_eq =>
      have row_eq : part.items.length + 1 + (itemRow rest place + 1) =
          itemRow (part :: rest) (part.items.length + place) := by
        rw [itemRow, if_neg (by omega), Nat.add_sub_cancel_left]
        omega
      rw [row_eq]
      refine .selected ?_ (by omega)
      rwa [items_eq, List.getElem?_append_right (Nat.le_add_right _ _), Nat.add_sub_cancel_left]

theorem listed_within (found : (sectionLines style cursor index part)[row]? = some line) :
    Listed style cursor index (part :: rest) row line := by
  have items_eq : itemsOf (part :: rest) = part.items ++ itemsOf rest := itemsOf_cons
  cases row with
  | zero =>
      obtain rfl := Option.some.inj found
      exact .title 0 List.mem_cons_self
  | succ place =>
      rw [sectionLines, List.getElem?_cons_succ, getElem?_itemLines] at found
      obtain ⟨item, there, rfl⟩ := Option.map_eq_some_iff.mp found
      have inside := (List.getElem?_eq_some_iff.mp there).1
      unfold itemLine
      split
      · rename_i here
        have row_eq : place + 1 = itemRow (part :: rest) place := by rw [itemRow, if_pos inside]
        rw [row_eq]
        refine .selected ?_ here.symm
        rwa [items_eq, List.getElem?_append_left inside]
      · apply Listed.normal
        rw [items_eq]
        exact List.mem_append_left _ (List.mem_of_getElem? there)

theorem listed_linesFrom (found : (linesFrom style cursor index sections)[row]? = some line) :
    Listed style cursor index sections row line := by
  induction sections generalizing index row with
  | nil => cases found
  | cons part rest ih =>
      by_cases inside : row ≤ part.items.length
      · rw [getElem?_within inside] at found
        exact listed_within found
      · obtain ⟨below, rfl⟩ := Nat.exists_eq_add_of_lt (Nat.lt_of_not_le inside)
        rw [Nat.add_right_comm, getElem?_below] at found
        rw [Nat.add_right_comm]
        cases below with
        | zero =>
            cases rest with
            | nil => cases found
            | cons next rest =>
                obtain rfl := Option.some.inj found
                exact .blank _
        | succ below =>
            rw [getElem?_following_succ] at found
            exact (ih found).below part

/-- A marked line is that of the item under the cursor. -/
theorem exists_of_marked
    (found : (linesFrom style cursor index sections)[row]? = some (markedLine style text)) :
    ∃ place < (itemsOf sections).length, cursor = index + place ∧ row = itemRow sections place := by
  have listed := listed_linesFrom found
  generalize same : markedLine style text = line at listed
  cases listed with
  | blank => exact absurd same.symm blank_ne_marked
  | title => exact absurd same.symm (titleLine_ne_marked _)
  | normal => exact absurd same.symm normalLine_ne_marked
  | selected there cursor_eq =>
      exact ⟨_, (List.getElem?_eq_some_iff.mp there).1, cursor_eq, rfl⟩

/-- Exactly the line of the item under the cursor is marked. -/
theorem marked_iff (sections : List MenuSection) :
    (∃ text, (linesFrom style cursor 0 sections)[row]? = some (markedLine style text)) ↔
      cursor < (itemsOf sections).length ∧ row = itemRow sections cursor := by
  constructor
  · rintro ⟨text, found⟩
    obtain ⟨place, inside, cursor_eq, row_eq⟩ := exists_of_marked found
    obtain rfl : cursor = place := by rw [cursor_eq, Nat.zero_add]
    exact ⟨inside, row_eq⟩
  · rintro ⟨inside, rfl⟩
    refine ⟨itemText (itemsOf sections)[cursor], ?_⟩
    rw [getElem?_linesFrom (List.getElem?_eq_getElem inside), Nat.zero_add, itemLine, if_pos rfl,
      selectedLine_eq]

/-! ## Messages -/

/-- Messages move the cursor only. -/
structure Follows (first later : Menu) : Prop where
  sections_eq : later.sections = first.sections
  style_eq : later.style = first.style
  count_eq : later.selection.count = first.selection.count

theorem follows_update (menu : Menu) (message : MenuMessage) :
    Follows menu (menu.update message).1 := by
  cases message <;> exact ⟨rfl, rfl, rfl⟩

theorem follows_run (menu : Menu) (messages : List MenuMessage) :
    Follows menu (menu.run messages) := by
  induction messages generalizing menu with
  | nil => exact ⟨rfl, rfl, rfl⟩
  | cons message rest ih =>
      have first := follows_update menu message
      have later := ih (menu.update message).1
      exact ⟨later.sections_eq.trans first.sections_eq, later.style_eq.trans first.style_eq,
        later.count_eq.trans first.count_eq⟩

theorem cursor_lt_or (menu : Menu) :
    menu.cursor < menu.size ∨ menu.size = 0 ∧ menu.cursor = 0 := by
  have bound := menu.selection.cursor_le
  rw [size, cursor]
  omega

theorem update_choose (menu : Menu) : menu.update .choose =
    (menu, if menu.size = 0 then .none else .message (.selected menu.cursor)) := by
  rw [update, isEmpty]
  simp only [beq_iff_eq]

/-- Choosing tells the number under the cursor, if there is one. -/
theorem choose_eq_message_iff (menu : Menu) :
    (menu.update .choose).2 = .message (.selected menu.cursor) ↔ 0 < menu.size := by
  rw [update_choose]
  constructor
  · intro chosen
    apply Nat.pos_of_ne_zero
    intro none
    rw [if_pos none] at chosen
    cases chosen
  · intro some
    exact if_neg (Nat.ne_of_gt some)

theorem cursor_focus (inside : index < menu.size) :
    (menu.update (.focus index)).1.cursor = index := by
  show min index (menu.size - 1) = index
  omega

theorem getElem?_lines (found : menu.items[index]? = some item) :
    menu.lines[itemRow menu.sections index]? =
      some (itemLine menu.style menu.cursor index item) := by
  rw [lines, getElem?_linesFrom found, Nat.zero_add]

/-- Once the cursor is put on an item, this is the one that is marked and told. -/
theorem chosen_of_focus (found : menu.items[index]? = some item) (inside : index < menu.size) :
    let focused := (menu.update (.focus index)).1
    (focused.update .choose).2 = .message (.selected index) ∧
      focused.lines[itemRow menu.sections index]? = some (selectedLine menu.style item) := by
  intro focused
  have cursor_eq : focused.cursor = index := cursor_focus inside
  constructor
  · have some : 0 < focused.size := Nat.zero_lt_of_lt inside
    rw [(choose_eq_message_iff focused).mpr some, cursor_eq]
  · have found : focused.items[index]? = .some item := found
    have line_eq : focused.lines[itemRow menu.sections index]? =
        .some (itemLine menu.style focused.cursor index item) := getElem?_lines found
    rw [line_eq, itemLine, cursor_eq, if_pos rfl]

/-- The number that is found for a name is that of the first item with this name. -/
theorem position?_eq_some {name : String} (found : menu.position? name = some index) :
    ∃ item, menu.items[index]? = some item ∧ item.name = name ∧
      ∀ earlier < index, ∀ other, menu.items[earlier]? = some other → other.name ≠ name := by
  obtain ⟨inside, named, first⟩ := List.findIdx?_eq_some_iff_getElem.mp found
  refine ⟨menu.items[index], List.getElem?_eq_getElem inside, beq_iff_eq.mp named, ?_⟩
  intro earlier less other there
  obtain ⟨within, rfl⟩ := List.getElem?_eq_some_iff.mp there
  exact fun same => first earlier less (beq_iff_eq.mpr same)

/-- Whatever messages a menu gets: its cursor is on one of its items, the lines are those of its
sections, exactly the line of the item under the cursor is marked, and choosing tells its number and
changes nothing. The number that is found for a name is that of the first such item, and once the
cursor is put on it, it is the one that is marked and told. -/
theorem run_marks (sections : List MenuSection) (style : MenuStyle)
    (messages : List MenuMessage) :
    let menu := ((ofSections sections).withStyle style).run messages
    let items := itemsOf sections
    (menu.size = (sections.map fun part => part.items.length).sum ∧ menu.size = items.length ∧
      (menu.cursor < menu.size ∨ menu.size = 0 ∧ menu.cursor = 0)) ∧
    (menu.lines = [Line.blank].intercalate (sections.mapIdx fun part titled =>
        titleLine style titled.title :: titled.items.mapIdx fun place =>
          itemLine style menu.cursor (flatIndex sections part place)) ∧
      menu.lines.length = items.length + sections.length + (sections.length - 1)) ∧
    (∀ index item, items[index]? = some item → menu.lines[itemRow sections index]? =
      some (if index = menu.cursor then selectedLine style item else normalLine style item)) ∧
    (∀ row, (∃ text, menu.lines[row]? = some (markedLine style text)) ↔
      0 < menu.size ∧ row = itemRow sections menu.cursor) ∧
    ((menu.update .choose).1 = menu ∧
      ((menu.update .choose).2 = .message (.selected menu.cursor) ↔ 0 < menu.size) ∧
      (menu.size = 0 → (menu.update .choose).2 = .none)) ∧
    ∀ name index, menu.position? name = some index →
      index < menu.size ∧ ∃ item, items[index]? = some item ∧ item.name = name ∧
        (∀ earlier < index, ∀ other, items[earlier]? = some other → other.name ≠ name) ∧
        let focused := (menu.update (.focus index)).1
        (focused.update .choose).2 = .message (.selected index) ∧
          focused.lines[itemRow sections index]? = some (selectedLine style item) := by
  intro menu items
  have follows : Follows ((ofSections sections).withStyle style) menu := follows_run _ messages
  have sections_eq : menu.sections = sections := follows.sections_eq
  have style_eq : menu.style = style := follows.style_eq
  have size_eq : menu.size = items.length := follows.count_eq
  have items_eq : menu.items = items := congrArg itemsOf sections_eq
  have lines_eq : menu.lines = linesFrom style menu.cursor 0 sections := by
    rw [lines, sections_eq, style_eq]
  refine ⟨⟨size_eq.trans (length_itemsOf sections), size_eq, menu.cursor_lt_or⟩, ⟨?_, ?_⟩, ?_, ?_,
    ⟨?_, menu.choose_eq_message_iff, ?_⟩, ?_⟩
  · rw [lines_eq, linesFrom_eq]
    simp only [Nat.zero_add]
  · rw [lines_eq, length_linesFrom]
  · intro index item found
    rw [← items_eq] at found
    rw [← sections_eq, getElem?_lines found, style_eq, itemLine]
  · intro row
    rw [lines_eq, marked_iff, ← size_eq]
    rcases menu.cursor_lt_or with inside | ⟨none, -⟩
    · exact and_congr_left fun _ => iff_of_true inside (Nat.zero_lt_of_lt inside)
    · simp [none]
  · rw [update_choose]
  · intro none
    rw [update_choose]
    exact if_pos none
  · intro name index found
    obtain ⟨item, there, named, first⟩ := position?_eq_some found
    have inside : index < menu.size := by
      rw [size_eq, ← items_eq]
      exact (List.getElem?_eq_some_iff.mp there).1
    have chosen := chosen_of_focus there inside
    rw [sections_eq, style_eq] at chosen
    rw [items_eq] at there first
    exact ⟨inside, item, there, named, first, chosen⟩

/-- The second of three sections is empty, and two items have one name. -/
example : let menu := ofSections [⟨"Fruit:", [⟨"apple", "red"⟩, ⟨"pear", "green"⟩]⟩, ⟨"None:", []⟩,
      ⟨"Other:", [⟨"pear", "grey"⟩]⟩]
    (menu.run [.down, .down, .down]).lines.map Line.text = ["Fruit:", "    apple - red",
      "    pear - green", "", "None:", "", "Other:", "  ▸ pear - grey"] ∧
      menu.position? "pear" = some 1 := by
  decide +kernel

end Showcase.Widget.Menu
