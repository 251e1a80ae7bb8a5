import Showcase.Portfolio.Theme
import Showcase.Toml.Document

/-!
# The settings file

What a settings file may set. Every setting is optional and a name that is not known is an error. A
section is a table, or a list that gives all its settings in order.
-/

namespace Showcase.Settings

open Portfolio (Palette)
open Toml (Value Entries)

structure ServerSection where
  host : Option String := none
  wsPort : Option Nat := none
  tcpPort : Option Nat := none
  wsPath : Option String := none
  allowedOrigins : Option (List String) := none
  deriving DecidableEq

structure SessionSection where
  renderInterval : Option Nat := none
  readDeadline : Option Nat := none
  queueCapacity : Option Nat := none
  enqueueWait : Option Nat := none
  columns : Option Nat := none
  rows : Option Nat := none
  deriving DecidableEq

structure LogSection where
  level : Option String := none
  file : Option String := none
  deriving DecidableEq

structure FileSettings where
  server : ServerSection := {}
  session : SessionSection := {}
  theme : Option Palette := none
  log : LogSection := {}
  deriving DecidableEq

/-! Reading values -/

def text? : Value → Option String
  | .text value => some value
  | _ => none

/-- A number from zero up to a limit. -/
def natural? (limit : Nat) : Value → Option Nat
  | .scalar (.integer (.ofNat value)) => if value ≤ limit then some value else none
  | _ => none

def port? : Value → Option Nat := natural? 65535

/-- A number with no limit but that of the file. -/
def amount? : Value → Option Nat := natural? (Nat.pow 2 63 - 1)

def texts? : Value → Option (List String)
  | .list items => items.mapM text?
  | _ => none

def isEmpty : Value → Bool
  | .table _ entries => entries.isEmpty
  | .list items => items.isEmpty
  | _ => false

/-- A palette is its name, or a table whose only key is its name and holds nothing. -/
def palette? : Value → Option Palette
  | .text name => Palette.ofName? name
  | .table _ [(name, value)] => if isEmpty value then Palette.ofName? name else none
  | _ => none

/-- The settings of a section by name. -/
def section? (names : List String) : Value → Option Entries
  | .table _ entries => known entries
  | .list items => inOrder items
  | .tables items => inOrder (items.map (.table .headed))
  | _ => none
where
  known (entries : Entries) : Option Entries :=
    if entries.all fun entry => names.contains entry.1 then some entries else none
  inOrder (items : List Value) : Option Entries :=
    if names.length ≤ items.length then some (names.zip items) else none

/-- A setting that need not be there. -/
def setting? {Result : Type} (entries : Entries) (name : String)
    (read : Value → Option Result) : Option (Option Result) :=
  match entries.lookup name with
  | none => some none
  | some value => (read value).map some

def serverSection? (value : Value) : Option ServerSection := do
  let entries ← section? ["host", "ws_port", "tcp_port", "ws_path", "allowed_origins"] value
  return {
    host := ← setting? entries "host" text?
    wsPort := ← setting? entries "ws_port" port?
    tcpPort := ← setting? entries "tcp_port" port?
    wsPath := ← setting? entries "ws_path" text?
    allowedOrigins := ← setting? entries "allowed_origins" texts? }

def sessionSection? (value : Value) : Option SessionSection := do
  let entries ← section? ["render_interval_ms", "read_deadline_ms", "queue_capacity",
    "enqueue_wait_ms", "cols", "rows"] value
  return {
    renderInterval := ← setting? entries "render_interval_ms" amount?
    readDeadline := ← setting? entries "read_deadline_ms" amount?
    queueCapacity := ← setting? entries "queue_capacity" amount?
    enqueueWait := ← setting? entries "enqueue_wait_ms" amount?
    columns := ← setting? entries "cols" port?
    rows := ← setting? entries "rows" port? }

def themeSection? (value : Value) : Option (Option Palette) := do
  setting? (← section? ["theme"] value) "theme" palette?

def logSection? (value : Value) : Option LogSection := do
  let entries ← section? ["level", "file"] value
  return { level := ← setting? entries "level" text?, file := ← setting? entries "file" text? }

/-- Reads a settings file. -/
def FileSettings.parse? (text : String) : Option FileSettings := do
  let entries ← section? ["server", "session", "ui", "log"]
    (.table .headed (← Toml.parse? text))
  return {
    server := (← setting? entries "server" serverSection?).getD {}
    session := (← setting? entries "session" sessionSection?).getD {}
    theme := (← setting? entries "ui" themeSection?).join
    log := (← setting? entries "log" logSection?).getD {} }

end Showcase.Settings
