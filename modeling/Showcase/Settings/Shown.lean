import Showcase.Settings.File
import Showcase.Text.Quoted

/-!
# Settings files in the log

How the settings of a file are shown in the log.
-/

namespace Showcase.Settings

open Portfolio (Palette)
open Text (quoted)

/-- A setting that need not be there. -/
def shownOption {Value : Type} (shown : Value → String) : Option Value → String
  | none => "None"
  | some value => "Some(" ++ shown value ++ ")"

/-- A named record. -/
def shownRecord (name : String) (fields : List (String × String)) : String :=
  name ++ " \x7b " ++
    ", ".intercalate (fields.map fun field => field.1 ++ ": " ++ field.2) ++ " \x7d"

def shownPalette : Palette → String
  | .cyberpunk => "Cyberpunk"
  | .plain => "Plain"

def shownTexts (texts : List String) : String := "[" ++ ", ".intercalate (texts.map quoted) ++ "]"

def ServerSection.shown (server : ServerSection) : String :=
  shownRecord "ServerSection" [("host", shownOption quoted server.host),
    ("ws_port", shownOption toString server.wsPort),
    ("tcp_port", shownOption toString server.tcpPort),
    ("ws_path", shownOption quoted server.wsPath),
    ("allowed_origins", shownOption shownTexts server.allowedOrigins)]

def SessionSection.shown (session : SessionSection) : String :=
  shownRecord "SessionSection" [
    ("render_interval_ms", shownOption toString session.renderInterval),
    ("read_deadline_ms", shownOption toString session.readDeadline),
    ("queue_capacity", shownOption toString session.queueCapacity),
    ("enqueue_wait_ms", shownOption toString session.enqueueWait),
    ("cols", shownOption toString session.columns),
    ("rows", shownOption toString session.rows)]

def LogSection.shown (log : LogSection) : String :=
  shownRecord "LogSection" [("level", shownOption quoted log.level),
    ("file", shownOption quoted log.file)]

def FileSettings.shown (file : FileSettings) : String :=
  shownRecord "FileConfig" [("server", file.server.shown), ("session", file.session.shown),
    ("ui", shownRecord "UiSection" [("theme", shownOption shownPalette file.theme)]),
    ("log", file.log.shown)]

end Showcase.Settings
