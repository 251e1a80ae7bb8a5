import Showcase.Session.Options
import Showcase.Settings.File
import Showcase.Text.Quoted

/-!
# Settings

The settings of the server come in layers: what is given when it is started wins over the settings
file, and that over the defaults.
-/

namespace Showcase

open Portfolio (Palette)

inductive LogLevel where
  | off
  | error
  | warn
  | info
  | debug
  | trace
  deriving DecidableEq

namespace LogLevel

def all : List LogLevel := [off, error, warn, info, debug, trace]

def name : LogLevel → String
  | off => "OFF"
  | error => "ERROR"
  | warn => "WARN"
  | info => "INFO"
  | debug => "DEBUG"
  | trace => "TRACE"

/-- The level with a name; ASCII letters may have any case. -/
def ofName? (text : String) : Option LogLevel :=
  all.find? fun level => level.name == String.ofList (text.toList.map Char.toUpper)

end LogLevel

structure Settings where
  host : String
  wsPort : Nat
  /-- None if there are no raw terminal connections. -/
  tcpPort : Option Nat
  wsPath : String
  /-- No origin at all stands for every origin. -/
  allowedOrigins : List String
  /-- The options of sessions on web-sockets. -/
  session : SessionOptions
  /-- The geometry at which sessions on raw terminals start. -/
  tcpGeometry : Geometry
  palette : Palette
  logLevel : LogLevel
  logFile : Option String

namespace Settings

/-- The options of sessions on raw terminals. -/
def tcpSession (settings : Settings) : SessionOptions :=
  { settings.session with geometry := settings.tcpGeometry }

/-- What is given when the server is started. -/
structure Overrides where
  host : Option String := none
  wsPort : Option Nat := none
  tcpPort : Option Nat := none
  theme : Option Palette := none
  logLevel : Option String := none
  logFile : Option String := none
  deriving DecidableEq

/-- Why settings cannot be used. -/
inductive Fault where
  | queueCapacity
  | wsPath (path : String)
  | logLevel (level : String)
  | sessionTimes
  deriving DecidableEq

namespace Fault

/-- The setting at fault. -/
def key : Fault → String
  | queueCapacity => "session.queue_capacity"
  | wsPath _ => "server.ws_path"
  | logLevel _ => "log.level"
  | sessionTimes => "session"

def reason : Fault → String
  | queueCapacity => "must be at least 1"
  | wsPath path => Text.quoted path ++ " must start with '/'"
  | logLevel level => "unknown level " ++ Text.quoted level
  | sessionTimes => "render_interval_ms and read_deadline_ms must be positive"

def message (fault : Fault) : String :=
  "invalid setting " ++ fault.key ++ ": " ++ fault.reason

end Fault

/-- Settles all settings. Of several faults the first one in this order is told. -/
def resolve (file : FileSettings) (overrides : Overrides) : Except Fault Settings := do
  let defaults : SessionOptions := {}
  let queueCapacity := file.session.queueCapacity.getD defaults.queueCapacity
  if queueCapacity = 0 then throw .queueCapacity
  let wsPath := file.server.wsPath.getD "/ws"
  if wsPath.toList.head? != some '/' then throw (.wsPath wsPath)
  let level := (overrides.logLevel.or file.log.level).getD "info"
  let logLevel ← match LogLevel.ofName? level with
    | some logLevel => pure logLevel
    | none => throw (.logLevel level)
  let session : SessionOptions := { defaults with
    renderInterval := file.session.renderInterval.getD defaults.renderInterval
    readDeadline := file.session.readDeadline.getD defaults.readDeadline
    enqueueWait := file.session.enqueueWait.getD defaults.enqueueWait
    queueCapacity }
  if session.renderInterval = 0 || session.readDeadline = 0 then throw .sessionTimes
  let tcpPort := (overrides.tcpPort.or file.server.tcpPort).getD 23234
  return {
    host := (overrides.host.or file.server.host).getD "0.0.0.0"
    wsPort := (overrides.wsPort.or file.server.wsPort).getD 8080
    tcpPort := if tcpPort = 0 then none else some tcpPort
    wsPath
    allowedOrigins := file.server.allowedOrigins.getD []
    session
    tcpGeometry := .clamp (file.session.columns.getD Geometry.fallback.columns)
      (file.session.rows.getD Geometry.fallback.rows)
    palette := (overrides.theme.or file.theme).getD .cyberpunk
    logLevel
    logFile := overrides.logFile.or file.log.file }

end Settings

end Showcase
