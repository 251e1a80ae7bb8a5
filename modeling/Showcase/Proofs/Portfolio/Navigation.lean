import Mathlib.Data.List.Induction
import Showcase.Portfolio.Program
import Showcase.Session.Outcome

/-!
# Moving around in the portfolio

Mode, cursor, focus, viewport and geometry are changed in different places and still belong together
after every key and every new size. `Reacts` says all that a key or a new size can do, with what
follows from it, and `Coherent` what holds of the portfolio at any time.
-/

namespace Showcase.Portfolio

open Showcase.Text (Line)
open Showcase.Widget

/-- What comes from the client. -/
inductive Visit where
  | key (key : Key)
  | resize (geometry : Geometry)

/-- What a session makes of it at the time that a clock shows. -/
def outcome (portfolio : Portfolio) (clock : Clock) : Visit → Outcome Portfolio Message
  | .key key => (model clock).dispatch portfolio 0 ((model clock).ofKey key)
  | .resize geometry => (model clock).adapt portfolio geometry

/-- The portfolio after what came from the client, each at its own time. -/
def visited (portfolio : Portfolio) (visits : List (Clock × Visit)) : Portfolio :=
  visits.foldl (fun portfolio visit => (portfolio.outcome visit.1 visit.2).state) portfolio

/-- The geometry that was given last. -/
def lastGeometry (geometry : Geometry) (visits : List (Clock × Visit)) : Geometry :=
  visits.foldl (fun geometry visit =>
    match visit.2 with
    | .key _ => geometry
    | .resize new => new) geometry

/-- The entry was opened from the menu at the time that the clock showed, and has been shown since
then. -/
inductive Opened (first : Portfolio) : List (Clock × Visit) → Entry → Clock → Prop where
  | opens {visits : List (Clock × Visit)} {clock : Clock} {key : Key} {entry : Entry}
      (browsing : (first.visited visits).mode = .menu)
      (shows : (first.visited (visits ++ [(clock, .key key)])).mode = .content entry) :
      Opened first (visits ++ [(clock, .key key)]) entry clock
  | stays {visits : List (Clock × Visit)} {visit : Clock × Visit} {entry : Entry} {clock : Clock}
      (opened : Opened first visits entry clock)
      (shows : (first.visited (visits ++ [visit])).mode = .content entry) :
      Opened first (visits ++ [visit]) entry clock

section

variable {portfolio next : Portfolio} {palette : Palette} {geometry : Geometry} {clock : Clock}
  {entry : Entry} {visit : Visit} {visits : List (Clock × Visit)}

theorem visited_append (portfolio : Portfolio) (visits : List (Clock × Visit))
    (visit : Clock × Visit) : portfolio.visited (visits ++ [visit]) =
      ((portfolio.visited visits).outcome visit.1 visit.2).state := by
  simp [visited]

/-! ## What a key or a new size does -/

theorem resolve_none (depth : Nat) (outcome : Outcome Portfolio Message) :
    (model clock).resolve depth .none outcome = outcome := by
  rw [Model.resolve]
  rfl

theorem begin_eq (clock : Clock) (palette : Palette) (geometry : Geometry) :
    (model clock).begin palette geometry = { state := .start palette geometry } :=
  resolve_none _ _

/-- All that a key or a new size can do, and whether the program asks to quit. -/
inductive Reacts (portfolio : Portfolio) (clock : Clock) : Visit → Portfolio → Bool → Prop where
  | quits {key : Key} (quits : Keys.quit.triggers key = true) :
      Reacts portfolio clock (.key key) portfolio true
  | ignores {key : Key} (goesOn : Keys.quit.triggers key = false) :
      Reacts portfolio clock (.key key) portfolio false
  | moves {key : Key} {selection : Selection} (goesOn : Keys.quit.triggers key = false)
      (browsing : portfolio.mode = .menu)
      (moves : Keys.up.triggers key = true ∧ selection = portfolio.menu.selection.up ∨
        Keys.down.triggers key = true ∧ selection = portfolio.menu.selection.down) :
      Reacts portfolio clock (.key key)
        { portfolio with menu := { portfolio.menu with selection } } false
  | chooses {key : Key} {entry : Entry} (goesOn : Keys.quit.triggers key = false)
      (browsing : portfolio.mode = .menu)
      (chosen : Entry.all[portfolio.cursor]? = some entry) :
      Reacts portfolio clock (.key key) (portfolio.openEntry clock entry) false
  | helps {key : Key} (goesOn : Keys.quit.triggers key = false)
      (browsing : portfolio.mode = .menu) (helps : Keys.help.triggers key = true) :
      Reacts portfolio clock (.key key) (portfolio.openHelp clock) false
  | backs {key : Key} {entry : Entry} (goesOn : Keys.quit.triggers key = false)
      (reading : portfolio.mode = .content entry) :
      Reacts portfolio clock (.key key) portfolio.back false
  | scrolls {key : Key} {entry : Entry} (goesOn : Keys.quit.triggers key = false)
      (reading : portfolio.mode = .content entry) (message : ViewportMessage) :
      Reacts portfolio clock (.key key)
        { portfolio with viewport := portfolio.viewport.update message } false
  | resizes (geometry : Geometry) :
      Reacts portfolio clock (.resize geometry) (portfolio.resize geometry).1 false

/-- What a session makes of the visit is one of the reactions. -/
def Answers (portfolio : Portfolio) (clock : Clock) (visit : Visit) : Prop :=
  Reacts portfolio clock visit (portfolio.outcome clock visit).state
    (portfolio.outcome clock visit).quit

section

variable {key : Key}

theorem outcome_of_none (pressed : portfolio.press clock key = (next, .none)) :
    portfolio.outcome clock (.key key) = { state := next, updates := [(0, .key key)] } := by
  show (model clock).resolve 0 (portfolio.press clock key).2
    { state := (portfolio.press clock key).1, updates := [(0, .key key)] } = _
  rw [pressed, resolve_none]

theorem answers_of_none (pressed : portfolio.press clock key = (next, .none))
    (reacts : Reacts portfolio clock (.key key) next false) :
    portfolio.Answers clock (.key key) := by
  rw [Answers, outcome_of_none pressed]
  exact reacts

theorem answers_of_quit (pressed : portfolio.press clock key = (next, .quit))
    (reacts : Reacts portfolio clock (.key key) next true) :
    portfolio.Answers clock (.key key) := by
  have done : portfolio.outcome clock (.key key) =
      { state := next, quit := true, updates := [(0, .key key)] } := by
    show (model clock).resolve 0 (portfolio.press clock key).2
      { state := (portfolio.press clock key).1, updates := [(0, .key key)] } = _
    rw [pressed, Model.resolve]
    rfl
  rw [Answers, done]
  exact reacts

/-- The message that a key leads to is followed by one update. -/
theorem outcome_of_message {message : Message}
    (pressed : portfolio.press clock key = (portfolio, .message message))
    (updated : portfolio.update clock message = (next, .none)) :
    portfolio.outcome clock (.key key) =
      { state := next, updates := [(0, .key key), (1, message)] } := by
  show (model clock).resolve 0 (portfolio.press clock key).2
    { state := (portfolio.press clock key).1, updates := [(0, .key key)] } = _
  rw [pressed, Model.resolve]
  show (model clock).resolve 1 (portfolio.update clock message).2
    { state := (portfolio.update clock message).1, updates := _ } = _
  rw [updated, resolve_none]
  rfl

theorem answers_of_message {message : Message}
    (pressed : portfolio.press clock key = (portfolio, .message message))
    (updated : portfolio.update clock message = (next, .none))
    (reacts : Reacts portfolio clock (.key key) next false) :
    portfolio.Answers clock (.key key) := by
  rw [Answers, outcome_of_message pressed updated]
  exact reacts

theorem answers_in_menu (goesOn : Keys.quit.triggers key = false)
    (browsing : portfolio.mode = .menu) : portfolio.Answers clock (.key key) := by
  have pressed : portfolio.press clock key = portfolio.pressInMenu clock key := by
    simp [press, goesOn, browsing]
  unfold pressInMenu at pressed
  split at pressed
  · rename_i up
    exact answers_of_none pressed (.moves goesOn browsing (.inl ⟨up, rfl⟩))
  · split at pressed
    · rename_i down
      exact answers_of_none pressed (.moves goesOn browsing (.inr ⟨down, rfl⟩))
    · split at pressed
      · cases empty : portfolio.menu.isEmpty with
        | true =>
            have still : portfolio.press clock key = (portfolio, .none) := by
              rw [pressed]
              simp [updateMenu, Menu.update, empty, Command.map]
            exact answers_of_none still (.ignores goesOn)
        | false =>
            have chooses : portfolio.press clock key =
                (portfolio, .message (.menu (.selected portfolio.cursor))) := by
              rw [pressed]
              simp [updateMenu, Menu.update, empty, Command.map, cursor]
            cases chosen : Entry.all[portfolio.cursor]? with
            | none =>
                exact answers_of_message chooses (by simp [update, chosen]) (.ignores goesOn)
            | some entry =>
                exact answers_of_message chooses (by simp [update, chosen])
                  (.chooses goesOn browsing chosen)
      · split at pressed
        · rename_i help
          exact answers_of_none pressed (.helps goesOn browsing help)
        · exact answers_of_none pressed (.ignores goesOn)

theorem answers_in_content (goesOn : Keys.quit.triggers key = false)
    (reading : portfolio.mode = .content entry) : portfolio.Answers clock (.key key) := by
  have pressed : portfolio.press clock key = portfolio.pressInContent key := by
    simp [press, goesOn, reading]
  unfold pressInContent at pressed
  split at pressed
  · exact answers_of_none pressed (.backs goesOn reading)
  · split at pressed
    · exact answers_of_message pressed rfl (.scrolls goesOn reading _)
    · split at pressed
      · exact answers_of_message pressed rfl (.scrolls goesOn reading _)
      · exact answers_of_none pressed (.ignores goesOn)

end

theorem answers (portfolio : Portfolio) (clock : Clock) (visit : Visit) :
    portfolio.Answers clock visit := by
  cases visit with
  | key key =>
      cases quits : Keys.quit.triggers key with
      | true => exact answers_of_quit (by simp [press, quits]) (.quits quits)
      | false =>
          cases mode : portfolio.mode with
          | menu => exact answers_in_menu quits mode
          | content entry => exact answers_in_content quits mode
  | resize geometry =>
      have done : portfolio.outcome clock (.resize geometry) =
          { state := (portfolio.resize geometry).1 } := by
        show (model clock).resolve 0 .none { state := (portfolio.resize geometry).1 } = _
        exact resolve_none _ _
      rw [Answers, done]
      exact .resizes geometry

/-! ## What belongs together -/

/-- Mode, cursor, focus, viewport and geometry belong together. -/
structure Coherent (palette : Palette) (geometry : Geometry) (portfolio : Portfolio) : Prop where
  palette_eq : portfolio.palette = palette
  sections_eq : portfolio.menu.sections = [menuSection .portfolio, menuSection .system]
  count_eq : portfolio.menu.selection.count = 7
  /-- The cursor is on the entry that is shown. -/
  shown : ∀ entry, portfolio.mode = .content entry → Entry.all[portfolio.cursor]? = some entry
  menu_focused : portfolio.menu.focused = true ↔ portfolio.mode = .menu
  viewport_focused : portfolio.viewport.focused = false ↔ portfolio.mode = .menu
  /-- There is nothing below the menu. -/
  bare : portfolio.mode = .menu → portfolio.viewport.content = [] ∧
    portfolio.viewport.rows = [] ∧ portfolio.viewport.offset = 0
  geometry_eq : portfolio.geometry = geometry
  width_eq : portfolio.viewport.width = geometry.columns
  height_eq : portfolio.viewport.height = max (geometry.rows - 11) 1

theorem content_update (viewport : Viewport) (message : ViewportMessage) :
    (viewport.update message).content = viewport.content ∧
      (viewport.update message).focused = viewport.focused ∧
      (viewport.update message).width = viewport.width ∧
      (viewport.update message).height = viewport.height := by
  cases message <;> exact ⟨rfl, rfl, rfl, rfl⟩

/-- Without content there are no rows, and the offset stays at the top. -/
theorem rewrap_bare {viewport : Viewport} (content : viewport.content = [])
    (offset : viewport.offset = 0) : viewport.rewrap.content = [] ∧ viewport.rewrap.rows = [] ∧
      viewport.rewrap.offset = 0 := by
  refine ⟨content, ?_, ?_⟩
  · simp [Viewport.rewrap, Viewport.clamp, content, Text.wrapLines]
  · simp [Viewport.rewrap, Viewport.clamp, offset]

theorem coherent_start (palette : Palette) (geometry : Geometry) :
    Coherent palette geometry (.start palette geometry) where
  palette_eq := rfl
  sections_eq := rfl
  count_eq := rfl
  shown _ reading := nomatch reading
  menu_focused := by simp [start, entryMenu, Menu.withStyle, Menu.ofSections]
  viewport_focused := by simp [start, Viewport.withStyle, Viewport.ofSize]
  bare _ := ⟨rfl, rfl, rfl⟩
  geometry_eq := rfl
  width_eq := rfl
  height_eq := rfl

theorem Coherent.cursor_lt (coherent : Coherent palette geometry portfolio) :
    portfolio.cursor < 7 := by
  have bound := portfolio.menu.selection.cursor_lt (by rw [coherent.count_eq]; decide)
  rwa [coherent.count_eq] at bound

/-- Opening the entry under the cursor keeps all in order. -/
theorem Coherent.openEntry (coherent : Coherent palette geometry portfolio)
    (chosen : Entry.all[portfolio.cursor]? = some entry) :
    Coherent palette geometry (portfolio.openEntry clock entry) where
  palette_eq := coherent.palette_eq
  sections_eq := coherent.sections_eq
  count_eq := coherent.count_eq
  shown other reading := by
    obtain rfl : entry = other := by simpa [Portfolio.openEntry] using reading
    exact chosen
  menu_focused := by simp [Portfolio.openEntry, Menu.setFocus]
  viewport_focused := by simp [Portfolio.openEntry, Viewport.setFocus]
  bare browsing := nomatch browsing
  geometry_eq := coherent.geometry_eq
  width_eq := coherent.width_eq
  height_eq := coherent.height_eq

/-- Moving the cursor in the menu keeps all in order. -/
theorem Coherent.select (coherent : Coherent palette geometry portfolio)
    (browsing : portfolio.mode = .menu) (selection : Selection)
    (count_eq : selection.count = portfolio.menu.selection.count) :
    Coherent palette geometry { portfolio with menu := { portfolio.menu with selection } } where
  palette_eq := coherent.palette_eq
  sections_eq := coherent.sections_eq
  count_eq := count_eq.trans coherent.count_eq
  shown _ reading := nomatch browsing.symm.trans reading
  menu_focused := coherent.menu_focused
  viewport_focused := coherent.viewport_focused
  bare := coherent.bare
  geometry_eq := coherent.geometry_eq
  width_eq := coherent.width_eq
  height_eq := coherent.height_eq

/-- The help entry is found in the menu, and the cursor is put on it. -/
theorem Coherent.openHelp_eq (coherent : Coherent palette geometry portfolio) (clock : Clock) :
    portfolio.openHelp clock = Portfolio.openEntry
      { portfolio with
        menu := { portfolio.menu with selection := portfolio.menu.selection.select 4 } }
      clock .help := by
  have position : portfolio.menu.position? Entry.help.name = some 4 := by
    rw [Menu.position?, Menu.items, coherent.sections_eq]
    rfl
  rw [openHelp, position]
  rfl

theorem Coherent.openHelp (coherent : Coherent palette geometry portfolio)
    (browsing : portfolio.mode = .menu) (clock : Clock) :
    Coherent palette geometry (portfolio.openHelp clock) := by
  rw [coherent.openHelp_eq]
  refine (coherent.select browsing (portfolio.menu.selection.select 4) rfl).openEntry ?_
  have cursor_eq : (portfolio.menu.selection.select 4).cursor = 4 := by
    rw [Selection.cursor_select, coherent.count_eq]
    rfl
  show Entry.all[(portfolio.menu.selection.select 4).cursor]? = some Entry.help
  rw [cursor_eq]
  rfl

theorem Coherent.back (coherent : Coherent palette geometry portfolio) :
    Coherent palette geometry portfolio.back where
  palette_eq := coherent.palette_eq
  sections_eq := coherent.sections_eq
  count_eq := coherent.count_eq
  shown _ reading := nomatch reading
  menu_focused := by simp [Portfolio.back, Menu.setFocus]
  viewport_focused := by simp [Portfolio.back, Viewport.setFocus]
  bare _ := rewrap_bare rfl rfl
  geometry_eq := coherent.geometry_eq
  width_eq := coherent.width_eq
  height_eq := coherent.height_eq

theorem Coherent.scroll (coherent : Coherent palette geometry portfolio)
    (reading : portfolio.mode = .content entry) (message : ViewportMessage) :
    Coherent palette geometry
      { portfolio with viewport := portfolio.viewport.update message } := by
  obtain ⟨-, focused_eq, width_eq, height_eq⟩ := content_update portfolio.viewport message
  exact {
    palette_eq := coherent.palette_eq
    sections_eq := coherent.sections_eq
    count_eq := coherent.count_eq
    shown := coherent.shown
    menu_focused := coherent.menu_focused
    viewport_focused := focused_eq ▸ coherent.viewport_focused
    bare := fun browsing => nomatch reading.symm.trans browsing
    geometry_eq := coherent.geometry_eq
    width_eq := width_eq.trans coherent.width_eq
    height_eq := height_eq.trans coherent.height_eq }

theorem Coherent.resize (coherent : Coherent palette geometry portfolio) (other : Geometry) :
    Coherent palette other (portfolio.resize other).1 where
  palette_eq := coherent.palette_eq
  sections_eq := coherent.sections_eq
  count_eq := coherent.count_eq
  shown := coherent.shown
  menu_focused := coherent.menu_focused
  viewport_focused := coherent.viewport_focused
  bare browsing := by
    obtain ⟨content, -, offset⟩ := coherent.bare browsing
    exact rewrap_bare content offset
  geometry_eq := rfl
  width_eq := rfl
  height_eq := rfl

/-- Whatever comes from the client leaves all in order. -/
theorem Coherent.outcome (coherent : Coherent palette geometry portfolio) (clock : Clock)
    (visit : Visit) : Coherent palette (lastGeometry geometry [(clock, visit)])
      (portfolio.outcome clock visit).state := by
  have answers := portfolio.answers clock visit
  unfold Answers at answers
  generalize (portfolio.outcome clock visit).state = next at answers ⊢
  generalize (portfolio.outcome clock visit).quit = quit at answers
  cases answers with
  | quits | ignores => exact coherent
  | moves goesOn browsing moves =>
      refine coherent.select browsing _ ?_
      rcases moves with ⟨-, rfl⟩ | ⟨-, rfl⟩ <;> rfl
  | chooses goesOn browsing chosen => exact coherent.openEntry chosen
  | helps goesOn browsing => exact coherent.openHelp browsing clock
  | backs => exact coherent.back
  | scrolls goesOn reading message => exact coherent.scroll reading message
  | resizes geometry => exact coherent.resize geometry

theorem coherent_visits (first : Coherent palette geometry portfolio)
    (visits : List (Clock × Visit)) :
    Coherent palette (lastGeometry geometry visits) (portfolio.visited visits) := by
  induction visits using List.reverseRecOn with
  | nil => exact first
  | append_singleton visits visit ih =>
      rw [visited_append]
      have next := ih.outcome visit.1 visit.2
      simpa [lastGeometry] using next

/-! ## What has been opened -/

/-- Content comes from the menu, and stays until it is left. -/
theorem Reacts.content {quit : Bool} (reacts : Reacts portfolio clock visit next quit)
    (shows : next.mode = .content entry) :
    (portfolio.mode = .content entry ∧ next.viewport.content = portfolio.viewport.content) ∨
    (portfolio.mode = .menu ∧ (∃ key, visit = .key key) ∧
      next.viewport.content = contentLines portfolio.palette clock entry) := by
  cases reacts with
  | quits | ignores => exact .inl ⟨shows, rfl⟩
  | moves goesOn browsing => exact nomatch browsing.symm.trans shows
  | chooses goesOn browsing =>
      obtain rfl := Mode.content.inj shows
      exact .inr ⟨browsing, ⟨_, rfl⟩, rfl⟩
  | helps goesOn browsing =>
      refine .inr ⟨browsing, ⟨_, rfl⟩, ?_⟩
      unfold openHelp at shows ⊢
      split at shows <;> (obtain rfl := Mode.content.inj shows; rfl)
  | backs => exact nomatch shows
  | scrolls goesOn reading message =>
      exact .inl ⟨shows, (content_update portfolio.viewport message).1⟩
  | resizes geometry => exact .inl ⟨shows, rfl⟩

theorem exists_opened (first : Coherent palette geometry portfolio)
    (browsing : portfolio.mode = .menu) (visits : List (Clock × Visit)) :
    ∀ entry, (portfolio.visited visits).mode = .content entry →
      ∃ opening, Opened portfolio visits entry opening ∧
        (portfolio.visited visits).viewport.content = contentLines palette opening entry := by
  induction visits using List.reverseRecOn with
  | nil =>
      intro entry shows
      exact nomatch browsing.symm.trans shows
  | append_singleton visits visit ih =>
      intro entry shows
      have next_eq := visited_append portfolio visits visit
      have reacts := (portfolio.visited visits).answers visit.1 visit.2
      unfold Answers at reacts
      rw [← next_eq] at reacts
      rcases reacts.content shows with ⟨reading, same⟩ | ⟨browsing, ⟨key, visit_eq⟩, drawn⟩
      · obtain ⟨opening, opened, content⟩ := ih entry reading
        exact ⟨opening, .stays opened shows, same.trans content⟩
      · obtain ⟨time, visit⟩ := visit
        obtain rfl : visit = .key key := visit_eq
        refine ⟨time, .opens browsing shows, ?_⟩
        rw [drawn, (coherent_visits first visits).palette_eq]

/-! ## The cursor and the end -/

theorem Reacts.cursor {quit : Bool} (reacts : Reacts portfolio clock visit next quit)
    (moved : next.cursor ≠ portfolio.cursor) : portfolio.mode = .menu ∧ ∃ key, visit = .key key ∧
      (Keys.up.triggers key = true ∨ Keys.down.triggers key = true ∨
        Keys.help.triggers key = true) := by
  cases reacts with
  | moves goesOn browsing moves =>
      exact ⟨browsing, _, rfl, moves.imp And.left fun down => .inl down.1⟩
  | helps goesOn browsing help => exact ⟨browsing, _, rfl, .inr (.inr help)⟩
  | _ => exact absurd rfl moved

theorem Reacts.quit_iff {quit : Bool} (reacts : Reacts portfolio clock visit next quit) :
    quit = true ↔ ∃ key, visit = .key key ∧ Keys.quit.triggers key = true := by
  cases reacts with
  | quits quits => simp [quits]
  | ignores goesOn | moves goesOn | chooses goesOn | helps goesOn | backs goesOn
  | scrolls goesOn => simp [goesOn]
  | resizes => simp

/-- Whatever keys and sizes come from the client, each with all that follows from it: mode, cursor,
focus, viewport and geometry belong together, what is shown is the text of the entry as it was when
the entry was opened, the cursor is moved by a few keys in the menu only, and the program asks to
quit exactly on the key for that. -/
theorem navigation_coherent (palette : Palette) (geometry : Geometry) (clock : Clock)
    (visits : List (Clock × Visit)) :
    let begun := (model clock).begin palette geometry
    let portfolio := begun.state.visited visits
    Coherent palette (lastGeometry geometry visits) portfolio ∧
      portfolio.cursor < 7 ∧
      (∀ entry, portfolio.mode = .content entry → ∃ opening,
        Opened begun.state visits entry opening ∧
          portfolio.viewport.content = contentLines palette opening entry) ∧
      (∀ time visit, (portfolio.outcome time visit).state.cursor ≠ portfolio.cursor →
        portfolio.mode = .menu ∧ ∃ key, visit = .key key ∧
          (Keys.up.triggers key = true ∨ Keys.down.triggers key = true ∨
            Keys.help.triggers key = true)) ∧
      begun.quit = false ∧
      ∀ time visit, (portfolio.outcome time visit).quit = true ↔
        ∃ key, visit = .key key ∧ Keys.quit.triggers key = true := by
  have begun_eq : (model clock).begin palette geometry = { state := .start palette geometry } :=
    resolve_none _ _
  rw [begun_eq]
  intro begun portfolio
  have first := coherent_start palette geometry
  have coherent := coherent_visits first visits
  refine ⟨coherent, coherent.cursor_lt, exists_opened first rfl visits, ?_, rfl, ?_⟩
  · intro time visit
    exact (portfolio.answers time visit).cursor
  · intro time visit
    exact (portfolio.answers time visit).quit_iff

end

end Showcase.Portfolio
