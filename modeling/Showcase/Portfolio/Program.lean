import Showcase.Model
import Showcase.Portfolio.Entry
import Showcase.Screen.Border

/-!
# The portfolio

A banner stands above either the menu of entries or the text of the one that was opened, and a line
of key help below. Choosing an entry travels as a message, as scrolling does.
-/

namespace Showcase.Portfolio

open Showcase.Screen (Buffer Rect)
open Showcase.Text (Line)
open Showcase.Widget

inductive Mode where
  | menu
  | content (entry : Entry)
  deriving DecidableEq

def Mode.name : Mode → String
  | menu => "menu"
  | content entry => entry.name

inductive Message where
  | key (key : Key)
  | menu (message : MenuMessage)
  | viewport (message : ViewportMessage)
  deriving DecidableEq

namespace Keys

def up : Binding := .ofKeys [.arrowUp, .char 'k'] "up"
def down : Binding := .ofKeys [.arrowDown, .char 'j'] "down"
def select : Binding := (Binding.ofKeys [.enter, .space] "select").withLabel "enter"
def back : Binding := (Binding.ofKeys [.escape, .backspace] "back").withLabel "esc"
def help : Binding := .ofKeys [.char 'h'] "help"
def quit : Binding := .ofKeys [.char 'q'] "quit"

/-- The bindings in the line at the bottom. -/
def short : Mode → List Binding
  | .menu => [up, down, select, help, quit]
  | .content _ => [up, down, back, quit]

/-- The bindings in the full listing, in groups. -/
def full : List (List Binding) := [[up, down], [select, back, help], [quit]]

end Keys

end Showcase.Portfolio

namespace Showcase

/-- The state of the portfolio. -/
structure Portfolio where
  palette : Portfolio.Palette
  menu : Widget.Menu
  viewport : Widget.Viewport
  mode : Portfolio.Mode
  geometry : Geometry

end Showcase

namespace Showcase.Portfolio

open Showcase.Screen (Buffer Rect)
open Showcase.Text (Line)
open Showcase.Widget

def bannerArt : List String :=
  ["  ██████╗ ███████╗███╗   ██╗ █████╗ ██████╗ ",
    " ██╔════╝ ██╔════╝████╗  ██║██╔══██╗██╔══██╗",
    " ██║  ███╗█████╗  ██╔██╗ ██║███████║██████╔╝",
    " ██║   ██║██╔══╝  ██║╚██╗██║██╔══██║██╔══██╗",
    " ╚██████╔╝███████╗██║ ╚████║██║  ██║██║  ██║",
    "  ╚═════╝ ╚══════╝╚═╝  ╚═══╝╚═╝  ╚═╝╚═╝  ╚═╝"]

/-- The rows of the banner: the art, a greeting and a hint, with blank rows between them. -/
def bannerHeight : Nat := 10

def footerHeight : Nat := 1

def menuTitle : String := " SELECT A COMMAND "

/-- The columns of the box around the title. -/
def menuTitleWidth : Nat := 22

def bannerLines (palette : Palette) : List Line :=
  bannerArt.map (palette.line .banner)
    ++ [.blank,
      palette.line .welcome "                    Welcome to my SSH Portfolio Terminal!",
      .blank,
      palette.line .dim
        "                Navigate with ↑↓/jk, Enter to select, 'q' to quit, ESC to go back"]

/-- The rows for content on a screen of some rows. -/
def contentHeight (rows : Nat) : Nat := max (rows - (bannerHeight + footerHeight)) 1

def help (palette : Palette) : Help := { style := palette.helpStyle }

def menuSection (category : Category) : MenuSection where
  title := category.title
  items := (Entry.inCategory category).map fun entry =>
    { name := entry.name, description := entry.description }

def entryMenu (palette : Palette) : Menu :=
  (Menu.ofSections [menuSection .portfolio, menuSection .system]).withStyle palette.menuStyle

/-- The lines shown for an entry. -/
def contentLines (palette : Palette) (clock : Clock) (entry : Entry) : List Line :=
  entry.lines palette clock
    ++ if entry == .help then (help palette).fullLines Keys.full else []

/-- The areas of the banner, the body and the footer. -/
def layout (area : Rect) : Rect × Rect × Rect :=
  let (upper, footer) := area.splitTop (area.height - min footerHeight area.height)
  let (banner, body) := upper.splitTop bannerHeight
  (banner, body, footer)

def start (palette : Palette) (geometry : Geometry) : Portfolio where
  palette
  menu := entryMenu palette
  viewport := (Viewport.ofSize geometry.columns (contentHeight geometry.rows)).withStyle
    palette.viewportStyle
  mode := .menu
  geometry

def cursor (portfolio : Portfolio) : Nat := portfolio.menu.cursor

def openEntry (portfolio : Portfolio) (clock : Clock) (entry : Entry) : Portfolio :=
  let content := contentLines portfolio.palette clock entry
  { portfolio with
    viewport := (portfolio.viewport.setContent content).setFocus true
    menu := portfolio.menu.setFocus false
    mode := .content entry }

def back (portfolio : Portfolio) : Portfolio :=
  { portfolio with
    viewport := portfolio.viewport.clear.setFocus false
    menu := portfolio.menu.setFocus true
    mode := .menu }

def updateMenu (portfolio : Portfolio) (message : MenuMessage) : Portfolio × Command Message :=
  let (menu, command) := portfolio.menu.update message
  ({ portfolio with menu }, command.map .menu)

def updateViewport (portfolio : Portfolio) (message : ViewportMessage) :
    Portfolio × Command Message :=
  ({ portfolio with viewport := portfolio.viewport.update message }, .none)

/-- Puts the cursor on the help entry and opens it. -/
def openHelp (portfolio : Portfolio) (clock : Clock) : Portfolio :=
  match portfolio.menu.position? Entry.help.name with
  | some index => openEntry (portfolio.updateMenu (.focus index)).1 clock .help
  | none => portfolio.openEntry clock .help

def pressInMenu (portfolio : Portfolio) (clock : Clock) (key : Key) :
    Portfolio × Command Message :=
  if Keys.up.triggers key then portfolio.updateMenu .up
  else if Keys.down.triggers key then portfolio.updateMenu .down
  else if Keys.select.triggers key then portfolio.updateMenu .choose
  else if Keys.help.triggers key then (portfolio.openHelp clock, .none)
  else (portfolio, .none)

def pressInContent (portfolio : Portfolio) (key : Key) : Portfolio × Command Message :=
  if Keys.back.triggers key then (portfolio.back, .none)
  else if Keys.up.triggers key then (portfolio, .message (.viewport (.up 1)))
  else if Keys.down.triggers key then (portfolio, .message (.viewport (.down 1)))
  else (portfolio, .none)

def press (portfolio : Portfolio) (clock : Clock) (key : Key) : Portfolio × Command Message :=
  if Keys.quit.triggers key then (portfolio, .quit)
  else match portfolio.mode with
    | .menu => portfolio.pressInMenu clock key
    | .content _ => portfolio.pressInContent key

def update (clock : Clock) (portfolio : Portfolio) : Message → Portfolio × Command Message
  | .key key => portfolio.press clock key
  | .menu (.selected index) =>
      match Entry.all[index]? with
      | some entry => (portfolio.openEntry clock entry, .none)
      | none => (portfolio, .none)
  | .menu message => portfolio.updateMenu message
  | .viewport message => portfolio.updateViewport message

def resize (portfolio : Portfolio) (geometry : Geometry) : Portfolio × Command Message :=
  ({ portfolio with
      geometry
      viewport := portfolio.viewport.setSize geometry.columns (contentHeight geometry.rows) },
    .none)

def drawMenu (portfolio : Portfolio) (area : Rect) (buffer : Buffer) : Buffer :=
  let (top, list) := area.splitTop 3
  let box : Rect := { top with width := min menuTitleWidth top.width }
  let style := portfolio.palette.style .title
  let boxed := buffer.drawBox box style
  let titled := boxed.drawLines (box.insideBox 1) [portfolio.palette.line .title menuTitle]
  portfolio.menu.draw list titled

/-- The content as it is drawn: the time is read anew each time. -/
def shown (portfolio : Portfolio) (clock : Clock) : Viewport :=
  match portfolio.mode with
  | .content .date => portfolio.viewport.setContent (contentLines portfolio.palette clock .date)
  | _ => portfolio.viewport

def drawBody (portfolio : Portfolio) (clock : Clock) (area : Rect) (buffer : Buffer) : Buffer :=
  match portfolio.mode with
  | .menu => portfolio.drawMenu area buffer
  | .content _ => (portfolio.shown clock).draw area buffer

def draw (clock : Clock) (portfolio : Portfolio) (buffer : Buffer) : Buffer :=
  let (banner, body, footer) := layout buffer.area
  let titled := buffer.drawLines banner (bannerLines portfolio.palette)
  let filled := portfolio.drawBody clock body titled
  filled.drawLines footer
    [(help portfolio.palette).shortLine (Keys.short portfolio.mode) footer.width]

/-- The portfolio as a program, at the time that a clock shows. -/
def model (clock : Clock) : Model Palette Portfolio Message where
  init palette geometry := (.start palette geometry, .none)
  ofKey := .key
  update := update clock
  resize := resize
  draw := draw clock

end Showcase.Portfolio
