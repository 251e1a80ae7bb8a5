import Showcase.Proofs.Portfolio.Navigation
import Showcase.Proofs.Screen.Monochrome
import Showcase.Proofs.Session.Lockstep
import Showcase.Proofs.Widget.Likeness

/-!
# Themes change colours only

Portfolios with the same contents in styles that are in a relation stay so, whatever comes from the
client, and are drawn alike. With any styles this gives the same texts on the screen; with styles
that have no colours it gives a screen without colours.
-/

namespace Showcase.Portfolio

open Showcase.Screen (Buffer Cell Monochrome Piece Rect)
open Showcase.Text (Likeness Line forall₂_map_same map_eq_of_forall₂)
open Showcase.Widget

variable {likeness : Likeness}

/-! ## Palettes -/

/-- The styles of every role are in the relation. -/
def Palette.Alike (likeness : Likeness) (palette other : Palette) : Prop :=
  ∀ role, likeness.styles (palette.style role) (other.style role)

theorem Palette.alike_any (palette other : Palette) : Palette.Alike .any palette other :=
  fun _ => trivial

theorem Palette.alike_uncoloured : Palette.Alike .uncoloured .plain .plain :=
  fun role => by cases role <;> exact ⟨rfl, rfl⟩

variable {palette other : Palette}

namespace Palette.Alike

theorem span (alike : Palette.Alike likeness palette other) (role : Role) (text : String) :
    likeness.Spans (palette.span role text) (other.span role text) := ⟨rfl, alike role⟩

theorem line (alike : Palette.Alike likeness palette other) (role : Role) (text : String) :
    likeness.Lines (palette.line role text) (other.line role text) :=
  .ofSpans (.cons (alike.span role text) .nil)

theorem lines (alike : Palette.Alike likeness palette other) (role : Role)
    (texts : List String) :
    List.Forall₂ likeness.Lines (texts.map (palette.line role)) (texts.map (other.line role)) :=
  forall₂_map_same fun text _ => alike.line role text

theorem help (alike : Palette.Alike likeness palette other) :
    Help.Alike likeness (help palette) (help other) :=
  ⟨alike .key, alike .dim, alike .dim, rfl, rfl⟩

theorem menuStyle (alike : Palette.Alike likeness palette other) :
    MenuStyle.Alike likeness palette.menuStyle other.menuStyle :=
  ⟨alike .label, alike .selected, alike .body, rfl⟩

theorem bannerLines (alike : Palette.Alike likeness palette other) :
    List.Forall₂ likeness.Lines (bannerLines palette) (bannerLines other) :=
  List.rel_append (alike.lines .banner _)
    (.cons .blank (.cons (alike.line .welcome _) (.cons .blank (.cons (alike.line .dim _) .nil))))

/-! ## Entries -/

theorem header (alike : Palette.Alike likeness palette other) (title : String) :
    List.Forall₂ likeness.Lines (Content.header palette title) (Content.header other title) :=
  .cons (alike.line _ _) (.cons (alike.line _ _) (.cons (alike.line _ _) (.cons .blank .nil)))

theorem field (alike : Palette.Alike likeness palette other) (label value : String) :
    likeness.Lines (Content.field palette label value) (Content.field other label value) :=
  .ofSpans (.cons (alike.span _ _) (.cons (alike.span _ _) .nil))

theorem about (alike : Palette.Alike likeness palette other) :
    List.Forall₂ likeness.Lines (Content.about palette) (Content.about other) := by
  unfold Content.about Content.paragraph
  apply_rules [List.rel_append, alike.header, alike.lines, List.Forall₂.cons, alike.field,
    alike.line, Likeness.Lines.blank, List.Forall₂.nil]

theorem tableRow (alike : Palette.Alike likeness palette other) (role : Role)
    (left right : String) : likeness.Lines (Content.tableRow palette role left right)
      (Content.tableRow other role left right) :=
  .ofSpans (.cons (alike.span _ _) (.cons (alike.span _ _) (.cons (alike.span _ _)
    (.cons (alike.span _ _) (.cons (alike.span _ _) .nil)))))

theorem skills (alike : Palette.Alike likeness palette other) :
    List.Forall₂ likeness.Lines (Content.skills palette) (Content.skills other) := by
  have rows : List.Forall₂ likeness.Lines
      (Content.skillTable.flatMap (Content.skillRows palette))
      (Content.skillTable.flatMap (Content.skillRows other)) := by
    refine List.rel_flatMap (List.forall₂_same.mpr fun _ _ => rfl) ?_
    rintro skill _ rfl
    exact .cons (alike.line _ _) (.cons (alike.tableRow _ _ _) (.cons (alike.tableRow _ _ _) .nil))
  unfold Content.skills Content.tableRule
  apply_rules [List.rel_append, alike.header, List.Forall₂.cons, alike.tableRow, alike.line,
    Likeness.Lines.blank, List.Forall₂.nil]

theorem experience (alike : Palette.Alike likeness palette other) :
    List.Forall₂ likeness.Lines (Content.experience palette) (Content.experience other) := by
  refine List.rel_append (alike.header _)
    (Likeness.Lines.intercalate (forall₂_map_same fun job _ => ?_))
  exact .cons (alike.line _ _) (.cons
    (.ofSpans (.cons (alike.span _ _) (.cons .raw (.cons (alike.span _ _) .nil))))
    (.cons (alike.line _ _) .nil))

theorem links (alike : Palette.Alike likeness palette other) :
    List.Forall₂ likeness.Lines (Content.links palette) (Content.links other) := by
  refine List.rel_append (List.rel_append (alike.header _) (forall₂_map_same fun link _ => ?_))
    (.cons .blank (.cons (alike.line _ _) .nil))
  exact .ofSpans (.cons .raw (.cons (alike.span _ _) (.cons (alike.span _ _) .nil)))

theorem entryLines (alike : Palette.Alike likeness palette other) (label : String)
    (category : Category) : List.Forall₂ likeness.Lines (Content.entryLines palette label category)
      (Content.entryLines other label category) :=
  .cons (alike.line _ _) (forall₂_map_same fun _ _ => .ofSpans (.cons .raw
    (.cons (alike.span _ _) (.cons .raw (.cons (alike.span _ _) .nil)))))

theorem entries (alike : Palette.Alike likeness palette other) :
    List.Forall₂ likeness.Lines (Content.help palette) (Content.help other) := by
  unfold Content.help
  apply_rules [List.rel_append, alike.header, alike.entryLines, List.Forall₂.cons, alike.line,
    Likeness.Lines.blank, List.Forall₂.nil]

theorem contentLines (alike : Palette.Alike likeness palette other) (clock : Clock)
    (entry : Entry) : List.Forall₂ likeness.Lines (contentLines palette clock entry)
      (contentLines other clock entry) := by
  have lines : List.Forall₂ likeness.Lines (entry.lines palette clock)
      (entry.lines other clock) := by
    cases entry with
    | about => exact alike.about
    | skills => exact alike.skills
    | experience => exact alike.experience
    | links => exact alike.links
    | help => exact alike.entries
    | date => exact .cons (alike.field _ _) (.cons (alike.field _ _) .nil)
    | whoami => exact .cons (alike.line _ _) (.cons (alike.line _ _) .nil)
  refine List.rel_append lines ?_
  split
  · exact alike.help.fullLines _
  · exact .nil

end Palette.Alike

/-! ## The portfolio -/

structure Alike (likeness : Likeness) (first second : Portfolio) : Prop where
  palette : Palette.Alike likeness first.palette second.palette
  menu : Menu.Alike likeness first.menu second.menu
  viewport : Viewport.Alike likeness first.viewport second.viewport
  mode_eq : first.mode = second.mode
  geometry_eq : first.geometry = second.geometry

theorem Palette.Alike.start (alike : Palette.Alike likeness palette other) (geometry : Geometry) :
    Portfolio.Alike likeness (.start palette geometry) (.start other geometry) where
  palette := alike
  menu := ⟨rfl, rfl, alike.menuStyle, rfl⟩
  viewport := ⟨rfl, rfl, .nil, .nil, rfl, alike .accent, rfl⟩
  mode_eq := rfl
  geometry_eq := rfl

namespace Alike

variable {first second : Portfolio}

theorem openEntry (alike : Alike likeness first second) (clock : Clock) (entry : Entry) :
    Alike likeness (first.openEntry clock entry) (second.openEntry clock entry) :=
  { alike with
    viewport := (alike.viewport.setContent (alike.palette.contentLines clock entry)).setFocus true
    menu := alike.menu.setFocus false
    mode_eq := rfl }

theorem back (alike : Alike likeness first second) : Alike likeness first.back second.back :=
  { alike with
    viewport := alike.viewport.clear.setFocus false
    menu := alike.menu.setFocus true
    mode_eq := rfl }

theorem updateMenu (alike : Alike likeness first second) (message : MenuMessage) :
    Alike likeness (first.updateMenu message).1 (second.updateMenu message).1 ∧
      (first.updateMenu message).2 = (second.updateMenu message).2 := by
  obtain ⟨menu, asked⟩ := alike.menu.update message
  exact ⟨{ alike with menu := menu }, congrArg (Command.map Message.menu) asked⟩

theorem openHelp (alike : Alike likeness first second) (clock : Clock) :
    Alike likeness (first.openHelp clock) (second.openHelp clock) := by
  have position_eq : first.menu.position? Entry.help.name =
      second.menu.position? Entry.help.name := by
    rw [Menu.position?, Menu.position?, Menu.items, Menu.items, alike.menu.sections_eq]
  unfold Portfolio.openHelp
  rw [position_eq]
  split
  · exact (alike.updateMenu _).1.openEntry clock .help
  · exact alike.openEntry clock .help

theorem press (alike : Alike likeness first second) (clock : Clock) (key : Key) :
    Alike likeness (first.press clock key).1 (second.press clock key).1 ∧
      (first.press clock key).2 = (second.press clock key).2 := by
  unfold Portfolio.press
  split
  · exact ⟨alike, rfl⟩
  · rw [← alike.mode_eq]
    split
    · unfold pressInMenu
      split
      · exact alike.updateMenu .up
      · split
        · exact alike.updateMenu .down
        · split
          · exact alike.updateMenu .choose
          · split
            · exact ⟨alike.openHelp clock, rfl⟩
            · exact ⟨alike, rfl⟩
    · unfold pressInContent
      split
      · exact ⟨alike.back, rfl⟩
      · split
        · exact ⟨alike, rfl⟩
        · split <;> exact ⟨alike, rfl⟩

theorem update (alike : Alike likeness first second) (clock : Clock) (message : Message) :
    Alike likeness (first.update clock message).1 (second.update clock message).1 ∧
      (first.update clock message).2 = (second.update clock message).2 := by
  match message with
  | .key key => exact alike.press clock key
  | .menu (.selected index) =>
      unfold Portfolio.update
      dsimp only
      split
      · exact ⟨alike.openEntry clock _, rfl⟩
      · exact ⟨alike, rfl⟩
  | .menu .up | .menu .down | .menu (.focus _) | .menu .choose => exact alike.updateMenu _
  | .viewport message => exact ⟨{ alike with viewport := alike.viewport.update message }, rfl⟩

theorem resize (alike : Alike likeness first second) (geometry : Geometry) :
    Alike likeness (first.resize geometry).1 (second.resize geometry).1 :=
  { alike with viewport := alike.viewport.setSize _ _, geometry_eq := rfl }

end Alike

theorem lockstep (likeness : Likeness) (clock : Clock) :
    (model clock).Lockstep (model clock) (Alike likeness) where
  ofKey_eq _ := rfl
  update alike := alike.update clock
  resize alike geometry := ⟨alike.resize geometry, rfl⟩

namespace Alike

variable {first second : Portfolio}

theorem outcome (alike : Alike likeness first second) (clock : Clock) (visit : Visit) :
    Outcome.Alike (Alike likeness) (first.outcome clock visit) (second.outcome clock visit) := by
  cases visit with
  | key key => exact (lockstep likeness clock).dispatch alike 0 _
  | resize geometry => exact (lockstep likeness clock).adapt alike geometry

theorem visited (alike : Alike likeness first second) (visits : List (Clock × Visit)) :
    Alike likeness (first.visited visits) (second.visited visits) := by
  induction visits generalizing first second with
  | nil => exact alike
  | cons visit rest ih => exact ih (alike.outcome visit.1 visit.2).state

/-! ## The screen -/

theorem drawMenu (alike : Alike likeness first second) (area : Rect) {buffer buffer' : Buffer}
    (drawn : Buffer.Alike likeness buffer buffer') :
    Buffer.Alike likeness (first.drawMenu area buffer) (second.drawMenu area buffer') := by
  have boxed := drawn.drawBox { (area.splitTop 3).1 with
    width := min menuTitleWidth (area.splitTop 3).1.width } (alike.palette .title)
  exact alike.menu.draw _ (boxed.drawLines _ (.cons (alike.palette.line .title menuTitle) .nil))

theorem shown (alike : Alike likeness first second) (clock : Clock) :
    Viewport.Alike likeness (first.shown clock) (second.shown clock) := by
  unfold Portfolio.shown
  rw [← alike.mode_eq]
  split
  · exact alike.viewport.setContent (alike.palette.contentLines clock .date)
  · exact alike.viewport

theorem draw (alike : Alike likeness first second) (clock : Clock) {buffer buffer' : Buffer}
    (drawn : Buffer.Alike likeness buffer buffer') :
    Buffer.Alike likeness (Portfolio.draw clock first buffer)
      (Portfolio.draw clock second buffer') := by
  unfold Portfolio.draw
  rw [← drawn.area_eq, ← alike.mode_eq]
  refine .drawLines ?_ _ (.cons (alike.palette.help.shortLine _ _) .nil)
  have titled := drawn.drawLines (layout buffer.area).1 alike.palette.bannerLines
  unfold drawBody
  rw [← alike.mode_eq]
  split
  · exact alike.drawMenu _ titled
  · exact (alike.shown clock).draw _ titled

theorem screen (alike : Alike likeness first second) (clock : Clock) (geometry : Geometry) :
    Buffer.Alike likeness ((model clock).screen first geometry)
      ((model clock).screen second geometry) :=
  (alike.draw clock (.blank geometry.area)).present

end Alike

/-- Whatever keys and sizes come from the client, a portfolio in any theme and one in the plain
theme are in the same mode, with the same cursor, offset and rows of content, and ask to quit at the
same times; their screens have the same symbols. The screen of the plain one is written without any
colour. -/
theorem theme_changes_colours (palette : Palette) (geometry : Geometry) (clock : Clock)
    (visits : List (Clock × Visit)) :
    let begun := (model clock).begin palette geometry
    let plain := (model clock).begin .plain geometry
    let portfolio := begun.state.visited visits
    let other := plain.state.visited visits
    begun.quit = plain.quit ∧ portfolio.mode = other.mode ∧ portfolio.cursor = other.cursor ∧
      portfolio.viewport.offset = other.viewport.offset ∧
      portfolio.viewport.rows.map Line.text = other.viewport.rows.map Line.text ∧
      (∀ time visit,
        (portfolio.outcome time visit).quit = (other.outcome time visit).quit) ∧
      (∀ time size,
        ((model time).screen portfolio size).area = ((model time).screen other size).area ∧
        ((model time).screen portfolio size).cells.map Cell.symbol =
          ((model time).screen other size).cells.map Cell.symbol) ∧
      ∀ time size, Monochrome ((model time).render other size).toList ∧
        ∀ color,
          ¬ (Piece.foreground color).text.toList <:+: ((model time).render other size).toList ∧
          ¬ (Piece.background color).text.toList <:+: ((model time).render other size).toList := by
  rw [begin_eq, begin_eq]
  intro begun plain portfolio other
  have alike : Alike .any portfolio other :=
    ((Palette.alike_any palette .plain).start geometry).visited visits
  have uncoloured : Alike .uncoloured other other :=
    (Palette.alike_uncoloured.start geometry).visited visits
  refine ⟨rfl, alike.mode_eq, congrArg Selection.cursor alike.menu.selection_eq,
    alike.viewport.offset_eq, map_eq_of_forall₂ (fun _ _ row => row.text_eq) alike.viewport.rows,
    ?_, ?_, ?_⟩
  · exact fun time visit => (alike.outcome time visit).quit_eq
  · exact fun time size => ⟨(alike.screen time size).area_eq, (alike.screen time size).symbols_eq⟩
  · intro time size
    have monochrome := Screen.monochrome_toAnsi (uncoloured.screen time size).monochrome
    exact ⟨monochrome, monochrome.not_colour⟩

end Showcase.Portfolio
