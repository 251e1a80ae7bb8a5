import Showcase.Text.Line
import Showcase.Widget.Help
import Showcase.Widget.Menu
import Showcase.Widget.Viewport

/-!
# Themes

A theme gives each role that text can play a style. The plain theme has attributes only.
-/

namespace Showcase.Portfolio

open Showcase.Text (Color Line Span Style)
open Showcase.Widget (HelpStyle MenuStyle ViewportStyle)

/-- The role of a piece of text. -/
inductive Role where
  | banner
  | welcome
  | title
  | label
  | value
  | dim
  | body
  | accent
  | selected
  | tableBorder
  | tableHeader
  | key
  deriving DecidableEq

namespace Role

def all : List Role := [banner, welcome, title, label, value, dim, body, accent, selected,
  tableBorder, tableHeader, key]

def name : Role → String
  | banner => "banner"
  | welcome => "welcome"
  | title => "title"
  | label => "label"
  | value => "value"
  | dim => "dim"
  | body => "body"
  | accent => "accent"
  | selected => "selected"
  | tableBorder => "table_border"
  | tableHeader => "table_header"
  | key => "key"

end Role

inductive Palette where
  | cyberpunk
  | plain
  deriving DecidableEq, Inhabited

namespace Palette

def name : Palette → String
  | cyberpunk => "cyberpunk"
  | plain => "plain"

def ofName? : String → Option Palette
  | "cyberpunk" => some cyberpunk
  | "plain" => some plain
  | _ => none

end Palette

def cyan : Color := .rgb 0x22 0xE9 0xD8
def pink : Color := .rgb 0xE3 0x48 0x80
def purple : Color := .rgb 0x8B 0x5C 0xF6
def green : Color := .rgb 0x10 0xB9 0x81
def yellow : Color := .rgb 0xFB 0xBF 0x24
def light : Color := .rgb 0xF9 0xFA 0xFB
def faint : Color := .rgb 0x9C 0xA3 0xAF

def cyberpunkStyle : Role → Style
  | .banner | .title | .key => (Style.plain.fg cyan).adding .bold
  | .welcome | .selected => (Style.plain.fg pink).adding .bold
  | .label | .tableHeader => (Style.plain.fg green).adding .bold
  | .value | .tableBorder => Style.plain.fg yellow
  | .dim => (Style.plain.fg faint).adding .italic
  | .body => Style.plain.fg light
  | .accent => Style.plain.fg purple

def plainStyle : Role → Style
  | .banner | .welcome | .title | .label | .tableHeader | .key => Style.plain.adding .bold
  | .selected => Style.plain.adding .reversed
  | .dim => Style.plain.adding .dim
  | .value | .body | .accent | .tableBorder => .plain

namespace Palette

def style : Palette → Role → Style
  | cyberpunk => cyberpunkStyle
  | plain => plainStyle

def span (palette : Palette) (role : Role) (text : String) : Span :=
  { text, style := palette.style role }

/-- A line of one span. -/
def line (palette : Palette) (role : Role) (text : String) : Line :=
  .ofSpans [palette.span role text]

def menuStyle (palette : Palette) : MenuStyle where
  title := palette.style .label
  selected := palette.style .selected
  normal := palette.style .body

def helpStyle (palette : Palette) : HelpStyle where
  key := palette.style .key
  description := palette.style .dim
  separator := palette.style .dim

def viewportStyle (palette : Palette) : ViewportStyle where
  scrollbar := palette.style .accent

end Palette

end Showcase.Portfolio
