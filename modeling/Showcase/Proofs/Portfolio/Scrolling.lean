import Showcase.Proofs.Portfolio.Contents
import Showcase.Proofs.Portfolio.Navigation
import Showcase.Proofs.Portfolio.Screens
import Showcase.Proofs.Widget.Windows

/-!
# Scrolling

What stands below the banner while an entry is shown: the rows of its text from the scroll offset
on, or from the top on the screen of the date, which is set up anew whenever it is drawn.
-/

namespace Showcase.Portfolio

open Showcase.Screen (lineCells)
open Showcase.Text (Line wrapLines)
open Showcase.Widget

variable {portfolio : Portfolio} {entry : Entry} {size : Geometry} {index : Nat}

/-! ## The content at any time -/

variable {palette : Palette} {geometry : Geometry} {clock time : Clock} {key : Key}

theorem settled_reacts {visit : Visit} {next : Portfolio} {quit : Bool}
    (settled : portfolio.viewport.Settled) (reacts : Reacts portfolio clock visit next quit) :
    next.viewport.Settled := by
  cases reacts with
  | quits | ignores | moves => exact settled
  | chooses => exact (Viewport.settled_setContent _ _).setFocus true
  | helps =>
      unfold openHelp
      split <;> exact (Viewport.settled_setContent _ _).setFocus true
  | backs => exact (Viewport.settled_setContent _ _).setFocus false
  | scrolls goesOn reading message => exact settled.update message
  | resizes geometry => exact Viewport.settled_setSize _ _ _

theorem settled_visited (settled : portfolio.viewport.Settled) (visits : List (Clock × Visit)) :
    (portfolio.visited visits).viewport.Settled := by
  induction visits using List.reverseRecOn with
  | nil => exact settled
  | append_singleton visits visit ih =>
      rw [visited_append]
      exact settled_reacts ih (Portfolio.answers _ visit.1 visit.2)

/-- The portfolio shows an entry, whose text was wrapped to the geometry. -/
structure Reading (palette : Palette) (geometry : Geometry) (entry : Entry)
    (portfolio : Portfolio) : Prop where
  coherent : Coherent palette geometry portfolio
  mode_eq : portfolio.mode = .content entry
  settled : portfolio.viewport.Settled
  content : ∃ opening, portfolio.viewport.content = contentLines palette opening entry

theorem reading_visited (visits : List (Clock × Visit))
    (shows : (Portfolio.visited (.start palette geometry) visits).mode = .content entry) :
    Reading palette (lastGeometry geometry visits) entry
      (Portfolio.visited (.start palette geometry) visits) where
  coherent := coherent_visits (coherent_start palette geometry) visits
  mode_eq := shows
  settled := settled_visited ((Viewport.settled_ofSize _ _).withStyle _) visits
  content := by
    obtain ⟨opening, -, content⟩ :=
      exists_opened (coherent_start palette geometry) rfl visits entry shows
    exact ⟨opening, content⟩

/-- The text of an entry, wrapped to the columns beside the scrollbar. -/
def contentRows (palette : Palette) (time : Clock) (entry : Entry) (geometry : Geometry) :
    List Line :=
  wrapLines (contentLines palette time entry) (max (geometry.columns - 1) 1)

/-- Only the date changes with time. -/
theorem contentLines_congr (other : entry ≠ .date) (first second : Clock) :
    contentLines palette first entry = contentLines palette second entry := by
  cases entry with
  | date => exact absurd rfl other
  | _ => rfl

theorem contentRows_ne_nil : contentRows palette time entry geometry ≠ [] := by
  obtain ⟨line, rest, lines_eq⟩ : ∃ line rest, contentLines palette time entry = line :: rest := by
    cases entry <;> exact ⟨_, _, rfl⟩
  rw [contentRows, lines_eq, wrapLines, List.flatMap_cons]
  exact List.append_ne_nil_of_left_ne_nil (Text.wrapLine_ne_nil _ _) _

namespace Reading

theorem textWidth_eq (reading : Reading palette geometry entry portfolio) :
    portfolio.viewport.textWidth = max (geometry.columns - 1) 1 := by
  rw [Viewport.textWidth, reading.coherent.width_eq]

theorem rows_eq (reading : Reading palette geometry entry portfolio) (other : entry ≠ .date)
    (time : Clock) : portfolio.viewport.rows = contentRows palette time entry geometry := by
  obtain ⟨opening, content⟩ := reading.content
  rw [reading.settled.rows_eq, reading.textWidth_eq, content, contentRows,
    contentLines_congr other opening time]

end Reading

/-- The row of the content that is drawn first. -/
def firstRow (portfolio : Portfolio) : Nat :=
  if portfolio.mode = .content .date then 0 else portfolio.viewport.offset

/-- What is shown are the rows of the entry at the time of drawing. -/
structure Shows (palette : Palette) (time : Clock) (entry : Entry) (geometry : Geometry)
    (first : Nat) (viewport : Viewport) : Prop where
  rows_eq : viewport.rows = contentRows palette time entry geometry
  offset_eq : viewport.offset = first
  height_eq : viewport.height = contentHeight geometry.rows

namespace Reading

theorem shown_eq (reading : Reading palette geometry entry portfolio) (other : entry ≠ .date)
    (time : Clock) : portfolio.shown time = portfolio.viewport := by
  rw [Portfolio.shown, reading.mode_eq]
  cases entry with
  | date => exact absurd rfl other
  | _ => rfl

theorem shows (reading : Reading palette geometry entry portfolio) (time : Clock) :
    Shows palette time entry geometry portfolio.firstRow (portfolio.shown time) := by
  by_cases date : entry = .date
  · subst date
    have fresh : portfolio.shown time =
        portfolio.viewport.setContent (contentLines portfolio.palette time .date) := by
      rw [Portfolio.shown, reading.mode_eq]
    rw [firstRow, reading.mode_eq, if_pos rfl, fresh]
    refine ⟨?_, Viewport.offset_setContent _ _, reading.coherent.height_eq⟩
    rw [(Viewport.settled_setContent _ _).rows_eq, contentRows, ← reading.textWidth_eq,
      reading.coherent.palette_eq]
    rfl
  · have mode : portfolio.mode ≠ .content .date := by
      rw [reading.mode_eq]
      exact fun same => date (Mode.content.inj same)
    rw [firstRow, if_neg mode, reading.shown_eq date]
    exact ⟨reading.rows_eq date time, rfl, reading.coherent.height_eq⟩

/-- The rows of the body are those of the content from the first one on. -/
theorem bodyRow_eq (reading : Reading palette geometry entry portfolio) (time : Clock)
    (wide : 2 ≤ size.columns)
    (inside : index < min (size.rows - 11) (contentHeight geometry.rows)) :
    bodyRow time portfolio size index = lineCells (size.columns - 1)
      ((contentRows palette time entry geometry)[portfolio.firstRow + index]?.getD .blank) := by
  obtain ⟨rows_eq, offset_eq, height_eq⟩ := reading.shows time
  rw [Portfolio.bodyRow_eq time reading.mode_eq wide (Nat.lt_of_lt_of_le inside
    (Nat.min_le_left _ _)) fun line member => ?_]
  · rw [Viewport.visible, height_eq, List.getElem?_take_of_lt inside, List.getElem?_drop, rows_eq,
      offset_eq]
  · rw [rows_eq] at member
    exact standalone_contentRow member

end Reading

/-! ## Scroll keys -/

theorem eq_of_up (up : Keys.up.triggers key = true) : key = .arrowUp ∨ key = .char 'k' := by
  simpa [Keys.up, Binding.ofKeys, Binding.triggers] using up

theorem eq_of_down (down : Keys.down.triggers key = true) : key = .arrowDown ∨ key = .char 'j' := by
  simpa [Keys.down, Binding.ofKeys, Binding.triggers] using down

/-- A key that scrolls leads to one update of the viewport. -/
theorem state_of_scroll {message : ViewportMessage} (goesOn : Keys.quit.triggers key = false)
    (mode_eq : portfolio.mode = .content entry)
    (pressed : portfolio.pressInContent key = (portfolio, .message (.viewport message))) :
    (portfolio.outcome time (.key key)).state =
      { portfolio with viewport := portfolio.viewport.update message } := by
  have whole : portfolio.press time key = (portfolio, .message (.viewport message)) := by
    simp [press, goesOn, mode_eq, pressed]
  rw [outcome_of_message whole rfl]

theorem state_of_up (up : Keys.up.triggers key = true) (mode_eq : portfolio.mode = .content entry) :
    (portfolio.outcome time (.key key)).state =
      { portfolio with viewport := portfolio.viewport.update (.up 1) } := by
  have others : Keys.quit.triggers key = false ∧ Keys.back.triggers key = false := by
    rcases eq_of_up up with rfl | rfl <;> decide
  exact state_of_scroll others.1 mode_eq (by simp [pressInContent, others.2, up])

theorem state_of_down (down : Keys.down.triggers key = true)
    (mode_eq : portfolio.mode = .content entry) :
    (portfolio.outcome time (.key key)).state =
      { portfolio with viewport := portfolio.viewport.update (.down 1) } := by
  have others : Keys.quit.triggers key = false ∧ Keys.back.triggers key = false ∧
      Keys.up.triggers key = false := by
    rcases eq_of_down down with rfl | rfl <;> decide
  exact state_of_scroll others.1 mode_eq (by simp [pressInContent, others.2, down])

namespace Reading

theorem scroll (reading : Reading palette geometry entry portfolio) (message : ViewportMessage) :
    Reading palette geometry entry
      { portfolio with viewport := portfolio.viewport.update message } where
  coherent := reading.coherent.scroll reading.mode_eq message
  mode_eq := reading.mode_eq
  settled := reading.settled.update message
  content := by
    obtain ⟨opening, content⟩ := reading.content
    exact ⟨opening, (content_update portfolio.viewport message).1.trans content⟩

theorem firstRow_eq (reading : Reading palette geometry entry portfolio) (other : entry ≠ .date) :
    portfolio.firstRow = portfolio.viewport.offset := by
  rw [firstRow, if_neg]
  rw [reading.mode_eq]
  exact fun same => other (Mode.content.inj same)

end Reading

/-- The second portfolio is scrolled down by a row more, and shows the text a row higher. -/
structure Lifted (geometry : Geometry) (first second : Portfolio) : Prop where
  offset_eq : second.viewport.offset = first.viewport.offset + 1
  rows_eq : ∀ time size index, 2 ≤ size.columns →
    index + 1 < min (size.rows - 11) (contentHeight geometry.rows) →
      bodyRow time second size index = bodyRow time first size (index + 1)

theorem Reading.lifted {next : Portfolio} (reading : Reading palette geometry entry portfolio)
    (further : Reading palette geometry entry next) (other : entry ≠ .date)
    (offset_eq : next.viewport.offset = portfolio.viewport.offset + 1) :
    Lifted geometry portfolio next where
  offset_eq := offset_eq
  rows_eq time size index wide inside := by
    rw [further.bodyRow_eq time wide (Nat.lt_of_succ_lt inside),
      reading.bodyRow_eq time wide inside,
      further.firstRow_eq other, reading.firstRow_eq other, offset_eq]
    congr 3
    omega

theorem Reading.up (reading : Reading palette geometry entry portfolio) (other : entry ≠ .date)
    (up : Keys.up.triggers key = true)
    (moved : (portfolio.outcome time (.key key)).state.viewport.offset ≠
      portfolio.viewport.offset) :
    Lifted geometry (portfolio.outcome time (.key key)).state portfolio := by
  rw [state_of_up up reading.mode_eq] at moved ⊢
  refine (reading.scroll _).lifted reading other ?_
  have offset_eq := reading.settled.offset_up 1
  simp only [offset_eq] at moved ⊢
  omega

theorem Reading.down (reading : Reading palette geometry entry portfolio) (other : entry ≠ .date)
    (down : Keys.down.triggers key = true)
    (moved : (portfolio.outcome time (.key key)).state.viewport.offset ≠
      portfolio.viewport.offset) :
    Lifted geometry portfolio (portfolio.outcome time (.key key)).state := by
  rw [state_of_down down reading.mode_eq] at moved ⊢
  refine reading.lifted (reading.scroll _) other ?_
  have offset_eq := portfolio.viewport.offset_down 1
  have bound := reading.settled.offset_le
  simp only [offset_eq] at moved ⊢
  omega

/-- Pressing the key some times scrolls down by as many rows. -/
theorem Reading.visited_down (reading : Reading palette geometry entry portfolio)
    (down : Keys.down.triggers key = true) (presses : Nat) :
    portfolio.visited (List.replicate presses (time, .key key)) =
      { portfolio with viewport := portfolio.viewport.update (.down presses) } := by
  induction presses with
  | zero =>
      rw [reading.settled.update_down_zero]
      rfl
  | succ presses ih =>
      rw [List.replicate_succ', visited_append, ih, state_of_down down (by exact reading.mode_eq),
        ← Viewport.update_down_add]

/-- Pressing the key often enough brings the last row of the content on the screen. -/
theorem Reading.reaches_end (reading : Reading palette geometry entry portfolio)
    (other : entry ≠ .date) (down : Keys.down.triggers key = true) {presses : Nat}
    (often : portfolio.viewport.maxOffset ≤ presses) (wide : 2 ≤ size.columns)
    (high : contentHeight geometry.rows ≤ size.rows - 11) (view : Clock) :
    ∃ index < size.rows - 11, ∃ line,
      (contentRows palette view entry geometry).getLast? = some line ∧
        bodyRow view (portfolio.visited (List.replicate presses (time, .key key))) size index =
          lineCells (size.columns - 1) line := by
  have further := reading.scroll (.down presses)
  have rows_eq := reading.rows_eq other view
  have height_eq : portfolio.viewport.height = contentHeight geometry.rows :=
    reading.coherent.height_eq
  have window : 0 < contentHeight geometry.rows :=
    Nat.lt_of_lt_of_le Nat.one_pos (Nat.le_max_right _ _)
  have some : contentRows palette view entry geometry ≠ [] := contentRows_ne_nil
  have count := List.length_pos_iff.mpr some
  have offset_eq : (portfolio.viewport.update (.down presses)).offset =
      (contentRows palette view entry geometry).length - contentHeight geometry.rows := by
    rw [Viewport.offset_down, Nat.min_eq_right (Nat.le_trans often (Nat.le_add_left _ _)),
      Viewport.maxOffset, rows_eq, height_eq]
  obtain ⟨line, last⟩ := Option.isSome_iff_exists.mp (List.getLast?_isSome.mpr some)
  let index := (contentRows palette view entry geometry).length - 1
    - (portfolio.viewport.update (.down presses)).offset
  have inside : index < contentHeight geometry.rows := by omega
  refine ⟨index, by omega, line, last, ?_⟩
  rw [reading.visited_down down, further.bodyRow_eq view wide (by omega), further.firstRow_eq other,
    show (portfolio.viewport.update (.down presses)).offset + index =
      (contentRows palette view entry geometry).length - 1 by omega,
    ← List.getLast?_eq_getElem?, last]
  rfl

/-- While an entry is shown, the body has the rows of its text from the scroll offset on, but on the
screen of the date from the top. Elsewhere a key that scrolls moves them by one row, and pressing it
often enough brings the last of them on the screen. -/
theorem content_scrolled (palette : Palette) (geometry : Geometry) (clock : Clock)
    (visits : List (Clock × Visit)) (entry : Entry) :
    let portfolio := ((model clock).begin palette geometry).state.visited visits
    let last := lastGeometry geometry visits
    let first := if entry = .date then 0 else portfolio.viewport.offset
    portfolio.mode = .content entry →
      (∀ time size index, 2 ≤ size.columns →
        index < min (size.rows - 11) (contentHeight last.rows) →
          bodyRow time portfolio size index = lineCells (size.columns - 1)
            ((contentRows palette time entry last)[first + index]?.getD .blank)) ∧
      (entry ≠ .date →
        (∀ time key, (portfolio.outcome time (.key key)).state.viewport.offset ≠
            portfolio.viewport.offset →
          (Keys.up.triggers key = true →
            Lifted last (portfolio.outcome time (.key key)).state portfolio) ∧
          (Keys.down.triggers key = true →
            Lifted last portfolio (portfolio.outcome time (.key key)).state)) ∧
        ∀ time key, Keys.down.triggers key = true → ∃ often, ∀ presses ≥ often, ∀ view size,
          2 ≤ size.columns → 12 ≤ size.rows → last.rows ≤ size.rows →
            ∃ index < size.rows - 11, ∃ line,
              (contentRows palette view entry last).getLast? = some line ∧
                bodyRow view (portfolio.visited (List.replicate presses (time, .key key))) size
                  index = lineCells (size.columns - 1) line) := by
  rw [begin_eq]
  intro portfolio last first shows
  have reading := reading_visited visits shows
  refine ⟨?_, fun other => ⟨fun time key moved => ?_, fun time key down => ?_⟩⟩
  · intro time size index wide inside
    have row_eq := reading.bodyRow_eq time wide inside
    rw [firstRow, reading.mode_eq] at row_eq
    simpa only [Mode.content.injEq] using row_eq
  · exact ⟨fun up => reading.up other up moved, fun down => reading.down other down moved⟩
  · refine ⟨portfolio.viewport.maxOffset, fun presses often view size wide high larger => ?_⟩
    have fits : contentHeight last.rows ≤ size.rows - 11 := by
      rw [contentHeight, bannerHeight, footerHeight]
      omega
    exact reading.reaches_end other down often wide fits view

/-! ## Ways to an entry -/

theorem state_of_enter (browsing : portfolio.mode = .menu) (some : portfolio.menu.isEmpty = false)
    (chosen : Entry.all[portfolio.cursor]? = .some entry) :
    (portfolio.outcome time (.key .enter)).state = portfolio.openEntry time entry := by
  have others : Keys.quit.triggers .enter = false ∧ Keys.up.triggers .enter = false ∧
      Keys.down.triggers .enter = false ∧ Keys.select.triggers .enter = true := by
    decide
  have inMenu : portfolio.press time .enter = portfolio.pressInMenu time .enter := by
    simp [press, others.1, browsing]
  have pressed : portfolio.press time .enter =
      (portfolio, .message (.menu (.selected portfolio.cursor))) := by
    rw [inMenu]
    simp [pressInMenu, others, updateMenu, Menu.update, some, Command.map, cursor]
  have updated : portfolio.update time (.menu (.selected portfolio.cursor)) =
      (portfolio.openEntry time entry, .none) := by
    simp only [update, chosen]
  rw [outcome_of_message pressed updated]

theorem state_of_down_in_menu (browsing : portfolio.mode = .menu) :
    (portfolio.outcome time (.key .arrowDown)).state = { portfolio with
      menu := { portfolio.menu with selection := portfolio.menu.selection.down } } := by
  have others : Keys.quit.triggers .arrowDown = false ∧ Keys.up.triggers .arrowDown = false ∧
      Keys.down.triggers .arrowDown = true := by
    decide
  have inMenu : portfolio.press time .arrowDown = portfolio.pressInMenu time .arrowDown := by
    simp [press, others.1, browsing]
  have pressed : portfolio.press time .arrowDown = ({ portfolio with
      menu := { portfolio.menu with selection := portfolio.menu.selection.down } }, .none) := by
    rw [inMenu]
    simp [pressInMenu, others, updateMenu, Menu.update, Command.map]
  rw [outcome_of_none pressed]

/-- Going down in the menu and choosing opens the entry there. -/
theorem exists_way (palette : Palette) (geometry : Geometry) (time : Clock) (downs : Nat)
    (inside : downs < 7) (chosen : Entry.all[downs]? = some entry) :
    ∃ portfolio, Portfolio.visited (.start palette geometry)
      (List.replicate downs (time, .key .arrowDown) ++ [(time, .key .enter)]) =
        Portfolio.openEntry portfolio time entry := by
  have below : ∃ portfolio : Portfolio, portfolio.mode = .menu ∧
      portfolio.menu.selection.count = 7 ∧ portfolio.cursor = downs ∧
        Portfolio.visited (.start palette geometry)
          (List.replicate downs (time, .key .arrowDown)) = portfolio := by
    clear chosen
    induction downs with
    | zero => exact ⟨_, rfl, rfl, rfl, rfl⟩
    | succ downs ih =>
        obtain ⟨portfolio, browsing, count_eq, cursor_eq, visited_eq⟩ := ih (by omega)
        let next : Portfolio := { portfolio with
          menu := { portfolio.menu with selection := portfolio.menu.selection.down } }
        refine ⟨next, browsing, count_eq, ?_, by
          rw [List.replicate_succ', visited_append, visited_eq, state_of_down_in_menu browsing]⟩
        have cursor_eq : portfolio.menu.selection.cursor = downs := cursor_eq
        show portfolio.menu.selection.down.cursor = downs + 1
        rw [Selection.cursor_down, count_eq, cursor_eq]
        omega
  obtain ⟨portfolio, browsing, count_eq, cursor_eq, visited_eq⟩ := below
  have some : portfolio.menu.isEmpty = false := by
    rw [Menu.isEmpty, Menu.size, count_eq]
    rfl
  rw [visited_append, visited_eq, state_of_enter browsing some (by rwa [cursor_eq])]
  exact ⟨portfolio, rfl⟩

/-- An afternoon of 2006. -/
def afternoon : Clock := { seconds := 1136214245 }

theorem content_scrolled_about :
    let portfolio := ((model afternoon).begin .plain .fallback).state.visited
      [(afternoon, .key .enter)]
    portfolio.mode = .content .about ∧
      (∀ index < 13, bodyRow afternoon portfolio .fallback index = lineCells 79
        ((contentRows .plain afternoon .about .fallback)[portfolio.viewport.offset + index]?.getD
          .blank)) ∧
      ∃ often, ∀ presses ≥ often, ∃ index < 13, ∃ line,
        (contentRows .plain afternoon .about .fallback).getLast? = some line ∧
          bodyRow afternoon (portfolio.visited
            (List.replicate presses (afternoon, .key .arrowDown))) .fallback index =
              lineCells 79 line := by
  have shows : (((model afternoon).begin .plain .fallback).state.visited
      [(afternoon, .key .enter)]).mode = .content .about := by
    obtain ⟨portfolio, way⟩ := exists_way .plain .fallback afternoon 0 (by decide) rfl
    rw [begin_eq]
    exact congrArg Portfolio.mode way
  obtain ⟨rows_eq, scrolls⟩ := content_scrolled .plain .fallback afternoon
    [(afternoon, .key .enter)] .about shows
  obtain ⟨often, reaches⟩ := (scrolls (by decide)).2 afternoon .arrowDown (by decide)
  refine ⟨shows, fun index inside => ?_, often, fun presses more => ?_⟩
  · have row_eq := rows_eq afternoon .fallback index (by decide) inside
    rwa [if_neg (by decide)] at row_eq
  · exact reaches presses more afternoon .fallback (by decide) (by decide) (by decide)

/-- A screen with one row for the content. -/
def lowScreen : Geometry := .clamp 80 12

/-- On the screen of the date nothing moves: scrolled down by a row, it shows the date where the
time should be. -/
theorem not_content_scrolled : ¬ ∀ (palette : Palette) (geometry : Geometry) (clock : Clock)
    (visits : List (Clock × Visit)) (entry : Entry),
      let portfolio := ((model clock).begin palette geometry).state.visited visits
      let last := lastGeometry geometry visits
      portfolio.mode = .content entry → 2 ≤ last.columns → 12 ≤ last.rows →
        ∀ time index, index < last.rows - 11 → bodyRow time portfolio last index =
          lineCells (last.columns - 1)
            ((contentRows palette time entry last)[portfolio.viewport.offset + index]?.getD
              .blank) := by
  intro follows
  let opening := List.replicate 5 (afternoon, Visit.key .arrowDown) ++ [(afternoon, .key .enter)]
  let visits := opening ++ [(afternoon, .key .arrowDown)]
  let opened := Portfolio.visited (.start .plain lowScreen) opening
  let scrolled := Portfolio.visited (.start .plain lowScreen) visits
  obtain ⟨before, way⟩ := exists_way .plain lowScreen afternoon 5 (by decide) rfl
  have opened_eq : opened = before.openEntry afternoon .date := way
  have reading : Reading .plain lowScreen .date opened :=
    reading_visited opening (congrArg Portfolio.mode way)
  have scrolled_eq : scrolled = { opened with viewport := opened.viewport.update (.down 1) } := by
    rw [← state_of_down (show Keys.down.triggers .arrowDown = true by decide) reading.mode_eq]
    exact visited_append _ _ _
  have further : Reading .plain lowScreen .date scrolled := by
    rw [scrolled_eq]
    exact reading.scroll _
  have offset_eq : scrolled.viewport.offset = 1 := by
    have palette_eq : before.palette = .plain :=
      (congrArg Portfolio.palette opened_eq).symm.trans reading.coherent.palette_eq
    have start : opened.viewport.offset = 0 := by
      rw [opened_eq]
      exact Viewport.offset_setContent _ _
    have content_eq : opened.viewport.content = contentLines .plain afternoon .date := by
      rw [opened_eq, ← palette_eq]
      rfl
    have two : (contentRows .plain afternoon .date lowScreen).length = 2 := by decide +kernel
    have rows_eq : opened.viewport.rows = contentRows .plain afternoon .date lowScreen := by
      rw [reading.settled.rows_eq, reading.textWidth_eq, content_eq, contentRows]
    rw [scrolled_eq]
    show (opened.viewport.update (.down 1)).offset = 1
    rw [Viewport.offset_down, start, Viewport.maxOffset, rows_eq, two, reading.coherent.height_eq]
    rfl
  have claimed := follows .plain lowScreen afternoon visits .date
  rw [begin_eq] at claimed
  have row_eq : bodyRow afternoon scrolled lowScreen 0 = lineCells 79
      ((contentRows .plain afternoon .date lowScreen)[scrolled.viewport.offset + 0]?.getD .blank) :=
    claimed further.mode_eq (by decide) (by decide) afternoon 0 (by decide)
  have drawn : bodyRow afternoon scrolled lowScreen 0 = lineCells 79
      ((contentRows .plain afternoon .date lowScreen)[scrolled.firstRow + 0]?.getD .blank) :=
    further.bodyRow_eq afternoon (by decide) (by decide)
  rw [firstRow, further.mode_eq, if_pos rfl, row_eq, offset_eq] at drawn
  exact absurd drawn (by decide +kernel)

end Showcase.Portfolio
