import Showcase.Proofs.Portfolio.Contents
import Showcase.Proofs.Portfolio.Scrolling
import Showcase.Proofs.Screen.Texts
import Showcase.Proofs.Widget.Choosing

/-!
# The menu on the screen

Below the banner stand the box with the title and, as far as there are rows, the lines of the menu.
The menu does not move: the line under the cursor is on the screen if the rows reach that far.
-/

namespace Showcase.Portfolio

open Showcase.Screen (Buffer Lacks Displays lineCells writeLine)
open Showcase.Text (Line Standalone)
open Showcase.Widget

def Entry.item (entry : Entry) : MenuItem where
  name := entry.name
  description := entry.description

/-- Some row of the body shows the name behind the indicator. -/
def InSight (time : Clock) (portfolio : Portfolio) (size : Geometry) (name : String) : Prop :=
  ∃ index < size.rows - 11,
    Displays (((model time).screen portfolio size).row (bannerHeight + index))
      (portfolio.menu.style.indicator ++ name)

variable {portfolio next : Portfolio} {palette : Palette} {geometry size : Geometry}
  {time : Clock} {index : Nat} {entry : Entry}

/-! ## The menu of a portfolio -/

/-- The menu keeps its looks. -/
theorem Reacts.style_eq {visit : Visit} {quit : Bool}
    (reacts : Reacts portfolio time visit next quit) :
    next.menu.style = portfolio.menu.style := by
  cases reacts with
  | helps =>
      unfold openHelp
      split <;> rfl
  | _ => rfl

theorem style_visited (palette : Palette) (geometry : Geometry) (visits : List (Clock × Visit)) :
    (Portfolio.visited (.start palette geometry) visits).menu.style = palette.menuStyle := by
  induction visits using List.reverseRecOn with
  | nil => rfl
  | append_singleton visits visit ih =>
      rw [visited_append, ← ih]
      exact (answers _ visit.1 visit.2).style_eq

/-- The menu on the screen belongs to a portfolio that a client could have brought about. -/
structure Browsing (portfolio : Portfolio) : Prop where
  mode_eq : portfolio.mode = .menu
  sections_eq : portfolio.menu.sections = [menuSection .portfolio, menuSection .system]
  indicator_eq : portfolio.menu.style.indicator = "▸ "
  count_eq : portfolio.menu.selection.count = 7
  cursor_lt : portfolio.cursor < 7

theorem browsing_visited {visits : List (Clock × Visit)}
    (browsing : (Portfolio.visited (.start palette geometry) visits).mode = .menu) :
    Browsing (Portfolio.visited (.start palette geometry) visits) := by
  have coherent := coherent_visits (coherent_start palette geometry) visits
  constructor
  · exact browsing
  · exact coherent.sections_eq
  · rw [style_visited]
    rfl
  · exact coherent.count_eq
  · exact coherent.cursor_lt

theorem Browsing.items_eq (browsing : Browsing portfolio) :
    portfolio.menu.items = Entry.all.map Entry.item := by
  rw [Menu.items, browsing.sections_eq]
  rfl

/-- The row of the cursor in the menu. -/
theorem Browsing.itemRow_eq (browsing : Browsing portfolio) :
    Menu.itemRow portfolio.menu.sections portfolio.cursor =
      if portfolio.cursor < 4 then portfolio.cursor + 1 else portfolio.cursor + 3 := by
  have bound := browsing.cursor_lt
  have four : (menuSection .portfolio).items.length = 4 := rfl
  have three : (menuSection .system).items.length = 3 := rfl
  rw [browsing.sections_eq, Menu.itemRow, Menu.itemRow, four, three]
  split
  · rfl
  · rw [if_pos (by omega)]
    omega

theorem Browsing.exists_entry (browsing : Browsing portfolio) :
    ∃ entry, Entry.all[portfolio.cursor]? = some entry := by
  have inside : portfolio.cursor < Entry.all.length := browsing.cursor_lt
  exact ⟨_, List.getElem?_eq_getElem inside⟩

theorem Browsing.item_eq (browsing : Browsing portfolio)
    (chosen : Entry.all[portfolio.cursor]? = some entry) :
    portfolio.menu.items[portfolio.cursor]? = some entry.item := by
  rw [browsing.items_eq, List.getElem?_map, chosen, Option.map_some]

/-- The line of the entry under the cursor is the marked one. -/
theorem Browsing.line_eq (browsing : Browsing portfolio)
    (chosen : Entry.all[portfolio.cursor]? = some entry) :
    portfolio.menu.lines[Menu.itemRow portfolio.menu.sections portfolio.cursor]? =
      some (Menu.selectedLine portfolio.menu.style entry.item) := by
  have same : portfolio.cursor = portfolio.menu.cursor := rfl
  rw [Menu.getElem?_lines (browsing.item_eq chosen), Menu.itemLine, if_pos same]

theorem Browsing.opens (browsing : Browsing portfolio) (time : Clock)
    (chosen : Entry.all[portfolio.cursor]? = some entry) :
    (portfolio.outcome time (.key .enter)).state.mode = .content entry := by
  have some : portfolio.menu.isEmpty = false := by
    rw [Menu.isEmpty, Menu.size, browsing.count_eq]
    rfl
  rw [state_of_enter browsing.mode_eq some chosen]
  rfl

/-! ## Characters in the menu -/

/-- The arrow in front of the entry under the cursor. -/
def arrow : Char := '▸'

theorem characters_selectedLine {style : MenuStyle} (indicator_eq : style.indicator = "▸ ")
    (item : MenuItem) : (Menu.selectedLine style item).characters =
      "  ".toList ++ ("▸ " ++ item.name).toList ++ (" - " ++ item.description).toList := by
  simp [Menu.selectedLine, Line.characters, Line.ofSpans, Text.Span.raw, Menu.itemText,
    indicator_eq]

theorem standalone_arrow : Standalone arrow ∧ Text.columns arrow = 1 := by decide +kernel

/-- Apart from the arrow, the menu is written in ASCII. -/
theorem standalone_item (entry : Entry) : ∀ c ∈ "  ".toList ++ ("▸ " ++ entry.name).toList
    ++ (" - " ++ entry.description).toList, Standalone c ∧ Text.columns c = 1 := by
  intro c member
  have table : ("  ".toList ++ ("▸ " ++ entry.name).toList
      ++ (" - " ++ entry.description).toList).all (fun c =>
        c == arrow || (0x20 ≤ c.toNat && c.toNat < 0x7F)) = true := by
    cases entry <;> decide +kernel
  have kind := List.all_eq_true.mp table c member
  simp only [Bool.or_eq_true, beq_iff_eq, Bool.and_eq_true, decide_eq_true_eq] at kind
  rcases kind with rfl | ⟨low, high⟩
  · exact standalone_arrow
  · exact ⟨Text.standalone_of_ascii low high, Text.columns_of_ascii low high⟩

/-- Only the line under the cursor has an arrow. -/
theorem row_eq_of_arrow (browsing : Browsing portfolio) {line : Line}
    (found : portfolio.menu.lines[index]? = some line) (drawn : arrow ∈ line.characters) :
    index = Menu.itemRow portfolio.menu.sections portfolio.cursor := by
  have titles : ∀ part ∈ [menuSection .portfolio, menuSection .system],
      arrow ∉ (Menu.titleLine {} part.title).characters := by decide +kernel
  have normals : ∀ item ∈ Entry.all.map Entry.item,
      arrow ∉ (Menu.normalLine {} item).characters := by decide +kernel
  have listed := Menu.listed_linesFrom found
  cases listed with
  | blank => cases drawn
  | title _ member =>
      rw [browsing.sections_eq] at member
      exact absurd drawn (titles _ member)
  | normal _ member =>
      have member : _ ∈ portfolio.menu.items := member
      rw [browsing.items_eq] at member
      exact absurd drawn (normals _ member)
  | selected _ cursor_eq =>
      rw [Nat.zero_add] at cursor_eq
      rw [cursor, cursor_eq]

/-! ## The screen of the menu -/

/-- The screen with the banner and a box below it. -/
def boxed (portfolio : Portfolio) (size : Geometry) : Buffer :=
  (titled portfolio size).drawBox ⟨0, 10, 22, 3⟩ (portfolio.palette.style .title)

/-- The screen with the title of the menu in the box. -/
def headed (portfolio : Portfolio) (size : Geometry) : Buffer :=
  (boxed portfolio size).drawLines ⟨2, 11, 18, 1⟩ [portfolio.palette.line .title menuTitle]

/-- The screen with the lines of the menu below the box. -/
def listing (portfolio : Portfolio) (size : Geometry) : Buffer :=
  portfolio.menu.draw ⟨0, 13, size.columns, size.rows - 14⟩ (headed portfolio size)

theorem screen_menu (browsing : portfolio.mode = .menu) (high : 16 ≤ size.rows)
    (wide : 22 ≤ size.columns) : (model time).screen portfolio size =
      Buffer.present ((listing portfolio size).drawLines (footerArea size)
        [(help portfolio.palette).shortLine (Keys.short .menu) size.columns]) := by
  have three : min 3 (size.rows - 11) = 3 := by omega
  have box : min menuTitleWidth size.columns = 22 := Nat.min_eq_left wide
  show (portfolio.draw time (Buffer.blank size.area)).present = _
  rw [draw, show (Buffer.blank size.area).area = .ofSize size.columns size.rows from rfl,
    layout_ofSize (by omega)]
  simp only
  rw [drawBody, browsing]
  simp only [drawMenu, Screen.Rect.splitTop, three, box, Screen.Rect.insideBox]
  rfl

section

variable (high : 16 ≤ size.rows) (wide : 22 ≤ size.columns)

include high wide

theorem boxed_titled :
    Buffer.Boxed ⟨0, 10, 22, 3⟩ (titled portfolio size) (boxed portfolio size) := by
  have boxed := Buffer.boxed_drawBox (titled portfolio size) ⟨0, 10, 22, 3⟩
    (portfolio.palette.style .title)
  rwa [area_titled, intersection_inside (by omega) (by omega)] at boxed

theorem area_boxed : (boxed portfolio size).area = size.area :=
  (boxed_titled high wide).spares.area_eq.trans area_titled

theorem area_headed : (headed portfolio size).area = size.area :=
  (Buffer.area_drawLines _ _ _).trans (area_boxed high wide)

theorem area_listing : (listing portfolio size).area = size.area :=
  (Buffer.area_drawLines _ _ _).trans (area_headed high wide)

/-- The title is drawn in the second row of its box. -/
theorem row_headed (z : Nat) : (headed portfolio size).row z =
    if 11 ≤ z then
      writeLine ((boxed portfolio size).row z) 2 18
        ([portfolio.palette.line .title menuTitle].take 1)[z - 11]?
    else (boxed portfolio size).row z := by
  have area_eq : (boxed portfolio size).area = size.area := area_boxed high wide
  have inside : size.area.intersection ⟨2, 11, 18, 1⟩ = ⟨2, 11, 18, 1⟩ :=
    intersection_inside (by omega) (by omega)
  rw [headed, Buffer.row_drawLines (by rwa [area_eq]) (by rw [area_eq]; exact Nat.zero_le z),
    area_eq]
  rfl

/-- The lines of the menu are drawn below the box. -/
theorem row_listing (z : Nat) : (listing portfolio size).row z =
    if 13 ≤ z then
      writeLine ((headed portfolio size).row z) 0 size.columns
        (portfolio.menu.lines.take (size.rows - 14))[z - 13]?
    else (headed portfolio size).row z := by
  have area_eq : (headed portfolio size).area = size.area := area_headed high wide
  rw [listing, Menu.draw, Buffer.row_drawLines (by rw [area_eq]; exact intersection_area (by omega))
    (by rw [area_eq]; exact Nat.zero_le z), area_eq]
  rfl

theorem orderly_listing : (listing portfolio size).Orderly := by
  have titled : (titled portfolio size).Orderly :=
    orderly_drawLines (Buffer.orderly_blank _) rfl (by omega)
  have boxed := (boxed_titled high wide).spares.orderly titled
  have headed : (headed portfolio size).Orderly := by
    refine boxed.drawLines ?_ ?_
    · rw [area_boxed high wide]
      exact intersection_inside (by omega) (by omega)
    · rw [area_boxed high wide]
      show 2 + 18 ≤ 0 + size.columns
      omega
  exact orderly_drawLines headed (area_headed high wide) (by omega)

/-- The rows of the body on the screen. -/
theorem row_screen_menu (browsing : portfolio.mode = .menu) (inside : index < size.rows - 11) :
    ((model time).screen portfolio size).row (bannerHeight + index) =
      Screen.presentCells 0 ((listing portfolio size).row (10 + index)) := by
  rw [screen_menu browsing high wide]
  exact row_present_footed (orderly_listing high wide) (area_listing high wide) inside

/-- Below the box there is nothing but the menu. -/
theorem row_headed_below (below : 13 ≤ index) (inside : index < size.rows) :
    (headed portfolio size).row index = List.replicate size.columns .empty := by
  have none : ([portfolio.palette.line .title menuTitle].take 1)[index - 11]? = none :=
    List.getElem?_eq_none (by rw [List.length_take]; omega)
  have outside : ¬ (10 ≤ index ∧ index < 10 + 3) := by omega
  rw [row_headed high wide, if_pos (by omega), none, writeLine,
    (boxed_titled high wide).row_eq index (by rw [area_titled]; exact Nat.zero_le _) outside,
    row_titled (by omega) inside]

/-- There is no arrow in the box. -/
theorem lacks_headed (below : 10 ≤ index) (inside : index < size.rows) :
    Lacks arrow ((headed portfolio size).row index) := by
  have bare : ∀ symbol ∈ Buffer.boxSymbols, arrow ∉ symbol.toList := by decide +kernel
  have title : arrow ∉ (portfolio.palette.line .title menuTitle).characters := by
    show arrow ∉ menuTitle.toList ++ []
    decide +kernel
  have boxed : Lacks arrow ((boxed portfolio size).row index) := by
    apply (boxed_titled high wide).lacks arrow bare
    · rw [area_titled]
      exact Nat.zero_le _
    · rw [row_titled below inside]
      exact Screen.lacks_blank (by decide) _
  rw [row_headed high wide]
  split
  · apply boxed.writeLine
    intro line drawn
    have member := List.mem_of_mem_take (List.mem_of_getElem? drawn)
    rwa [List.mem_singleton.mp member]
  · exact boxed

end

/-! ## The line under the cursor -/

theorem Browsing.inSight (browsing : Browsing portfolio) (high : 16 ≤ size.rows)
    (wide : 40 ≤ size.columns) (chosen : Entry.all[portfolio.cursor]? = some entry)
    (room : Menu.itemRow portfolio.menu.sections portfolio.cursor < size.rows - 14) :
    InSight time portfolio size entry.name := by
  let index := Menu.itemRow portfolio.menu.sections portfolio.cursor
  have characters_eq := characters_selectedLine browsing.indicator_eq entry.item
  have each := standalone_item entry
  have row_eq : (((model time).screen portfolio size).row (bannerHeight + (3 + index))).take
      (size.columns - 1) = lineCells (size.columns - 1)
        (Menu.selectedLine portfolio.menu.style entry.item) := by
    rw [row_screen_menu high (by omega) browsing.mode_eq (by omega), row_listing high (by omega),
      if_pos (by omega), row_headed_below high (by omega) (by omega) (by omega),
      show 10 + (3 + index) - 13 = index by omega, List.getElem?_take_of_lt room,
      browsing.line_eq chosen]
    refine Screen.present_writeLine (by omega) _ fun line drawn ink member => ?_
    obtain rfl := Option.some.inj drawn
    have inside : ink.1 ∈ (Menu.selectedLine portfolio.menu.style entry.item).characters := by
      rw [← Line.map_inked]
      exact List.mem_map_of_mem member
    rw [characters_eq] at inside
    exact (each _ inside).1
  refine ⟨3 + index, by omega, Screen.displays_of_take (size.columns - 1) ?_⟩
  rw [row_eq, browsing.indicator_eq]
  apply Screen.displays_lineCells characters_eq
  · exact fun c member => (each c (List.mem_append_left _ member)).2
  · have short : ("  ".toList.length + ("▸ " ++ entry.name).toList.length) ≤ 14 := by
      cases entry <;> decide +kernel
    exact Nat.le_trans short (by omega)

theorem Browsing.not_inSight (browsing : Browsing portfolio) (high : 16 ≤ size.rows)
    (wide : 22 ≤ size.columns) (name : String)
    (cut : size.rows - 14 ≤ Menu.itemRow portfolio.menu.sections portfolio.cursor) :
    ¬ InSight time portfolio size name := by
  rintro ⟨index, inside, displays⟩
  have indicated : arrow ∈ (portfolio.menu.style.indicator ++ name).toList := by
    rw [browsing.indicator_eq, String.toList_append]
    exact List.mem_append_left _ List.mem_cons_self
  refine Screen.not_displays_of_lacks ?_ indicated displays
  have visible : arrow ≠ ' ' := by decide
  have headed : Lacks arrow ((headed portfolio size).row (10 + index)) :=
    lacks_headed high wide (by omega) (by omega)
  rw [row_screen_menu high wide browsing.mode_eq inside, row_listing high wide]
  apply Lacks.present _ visible
  split
  · apply headed.writeLine
    intro line drawn there
    have within := (List.getElem?_eq_some_iff.mp drawn).1
    rw [List.length_take] at within
    rw [List.getElem?_take_of_lt (by omega)] at drawn
    have row_eq := row_eq_of_arrow browsing drawn there
    omega
  · exact headed

/-- The entry under the cursor, which is the one that is opened, can be read on the screen exactly
if its row in the menu is one of those between the box and the footer. From twenty-four rows on,
which a client is taken to have until it tells its own, it always can. -/
theorem cursor_inSight (palette : Palette) (geometry : Geometry) (clock : Clock)
    (visits : List (Clock × Visit)) (time : Clock) (size : Geometry) :
    let portfolio := ((model clock).begin palette geometry).state.visited visits
    let row := if portfolio.cursor < 4 then portfolio.cursor + 1 else portfolio.cursor + 3
    portfolio.mode = .menu → 16 ≤ size.rows → 40 ≤ size.columns →
      ∃ entry, portfolio.menu.items[portfolio.cursor]? = some entry.item ∧
        (portfolio.outcome time (.key .enter)).state.mode = .content entry ∧
        (InSight time portfolio size entry.name ↔ row < size.rows - 14) ∧
        (24 ≤ size.rows → InSight time portfolio size entry.name) := by
  rw [begin_eq]
  intro portfolio row mode_eq high wide
  have browsing : Browsing portfolio := browsing_visited mode_eq
  obtain ⟨entry, chosen⟩ := browsing.exists_entry
  have row_eq : Menu.itemRow portfolio.menu.sections portfolio.cursor = row := browsing.itemRow_eq
  have seen : row < size.rows - 14 → InSight time portfolio size entry.name := by
    intro room
    exact browsing.inSight high wide chosen (row_eq ▸ room)
  refine ⟨entry, browsing.item_eq chosen, browsing.opens time chosen, ⟨?_, seen⟩, ?_⟩
  · intro inSight
    by_contra cut
    refine browsing.not_inSight high (Nat.le_trans (by decide) wide) entry.name ?_ inSight
    rw [row_eq]
    exact Nat.le_of_not_lt cut
  · intro enough
    have last : row ≤ 9 := by
      have bound := browsing.cursor_lt
      show (if portfolio.cursor < 4 then _ else _) ≤ 9
      split <;> omega
    exact seen (by omega)

/-- A screen with two rows for the menu. -/
def shortScreen : Geometry := .clamp 80 16

/-- One key down from the start, the menu is on its second entry. -/
theorem visited_down (palette : Palette) (geometry : Geometry) :
    let portfolio := Portfolio.visited (.start palette geometry) [(afternoon, .key .arrowDown)]
    portfolio.mode = .menu ∧ portfolio.cursor = 1 ∧
      portfolio.menu.items[portfolio.cursor]? = some Entry.skills.item := by
  intro portfolio
  have state_eq : portfolio = _ := state_of_down_in_menu rfl
  rw [state_eq]
  exact ⟨rfl, rfl, rfl⟩

theorem cursor_inSight_skills :
    let portfolio := ((model afternoon).begin .plain .fallback).state.visited
      [(afternoon, .key .arrowDown)]
    portfolio.mode = .menu ∧ InSight afternoon portfolio .fallback "skills" ∧
      ¬ InSight afternoon portfolio shortScreen "skills" := by
  have large := cursor_inSight .plain .fallback afternoon [(afternoon, .key .arrowDown)] afternoon
    .fallback
  have short := cursor_inSight .plain .fallback afternoon [(afternoon, .key .arrowDown)] afternoon
    shortScreen
  rw [begin_eq] at large short ⊢
  intro portfolio
  obtain ⟨mode_eq, cursor_eq, second⟩ := visited_down .plain .fallback
  have named {entry : Entry} (item_eq : portfolio.menu.items[portfolio.cursor]? = some entry.item) :
      entry.name = "skills" :=
    congrArg MenuItem.name (Option.some.inj (item_eq.symm.trans second))
  refine ⟨mode_eq, ?_, ?_⟩
  · obtain ⟨entry, item_eq, -, -, seen⟩ := large mode_eq (by decide) (by decide)
    exact named item_eq ▸ seen (by decide)
  · obtain ⟨entry, item_eq, -, seen_iff, -⟩ := short mode_eq (by decide) (by decide)
    rw [← named item_eq, seen_iff, cursor_eq]
    decide

/-- One key down on a screen of sixteen rows, the entry under the cursor cannot be read. -/
theorem not_cursor_inSight : ¬ ∀ (palette : Palette) (geometry : Geometry) (clock : Clock)
    (visits : List (Clock × Visit)) (time : Clock) (size : Geometry),
      let portfolio := ((model clock).begin palette geometry).state.visited visits
      portfolio.mode = .menu → 16 ≤ size.rows → 40 ≤ size.columns →
        ∃ item, portfolio.menu.items[portfolio.cursor]? = some item ∧
          InSight time portfolio size item.name := by
  intro follows
  obtain ⟨mode_eq, cursor_eq, -⟩ := visited_down .plain shortScreen
  have claimed := follows .plain shortScreen afternoon [(afternoon, .key .arrowDown)] afternoon
    shortScreen
  rw [begin_eq] at claimed
  obtain ⟨item, -, shown⟩ := claimed mode_eq (by decide) (by decide)
  have browsing := browsing_visited mode_eq
  refine browsing.not_inSight (by decide) (by decide) item.name ?_ shown
  rw [browsing.itemRow_eq, cursor_eq]
  decide

end Showcase.Portfolio
