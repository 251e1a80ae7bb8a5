import Showcase.CommandLine.Start
import Showcase.Connection.Admission
import Showcase.Portfolio.Program
import Showcase.Session.Run
import Showcase.Settings.Shown

/-!
# The server

What a server does with its settings: whom it admits, how its sessions start on either kind of
connection, and what it writes to the log.
-/

namespace Showcase

open Connection (UpgradePolicy)

/-- Whether a message of some level is written to a log of this level. -/
def LogLevel.admits (level message : LogLevel) : Bool := all.idxOf message ≤ all.idxOf level

structure LogMessage where
  level : LogLevel
  text : String
  deriving DecidableEq

namespace Settings

/-- Whom the web-socket endpoint admits. -/
def policy (settings : Settings) : UpgradePolicy :=
  { path := settings.wsPath, allowedOrigins := settings.allowedOrigins }

/-- A session for a client on a raw terminal. -/
def rawSession (settings : Settings) :
    Session Portfolio.Palette Portfolio Portfolio.Message :=
  .idle settings.palette settings.tcpSession

end Settings

/-- What the server listens on. -/
structure Endpoints where
  webSocket : String
  raw : Option String
  deriving DecidableEq

namespace CommandLine.Plan

/-- What is logged before the server listens. -/
def preamble (plan : Plan) : List LogMessage :=
  [{ level := .info, text := "termfolio " ++ programVersion ++ " starting" },
    { level := .info, text := plan.origin.text },
    { level := .debug, text := "config: " ++ plan.file.shown }]

/-- What is logged as soon as the server listens. -/
def welcome (plan : Plan) (endpoints : Endpoints) : List LogMessage :=
  [{ level := .info
     text := "web-socket endpoint ws://" ++ endpoints.webSocket ++ plan.settings.wsPath }] ++
    endpoints.raw.toList.map fun address =>
      { level := .info, text := "raw terminal endpoint tcp://" ++ address }

/-- What is logged when the server is interrupted while some sessions are live. -/
def farewell (live : Nat) : List LogMessage :=
  [{ level := .info, text := "ctrl-c received" },
    { level := .info, text := "stopping: " ++ toString live ++ " live session(s)" },
    { level := .info, text := "stopped" }]

/-- What of some messages is written. -/
def written (plan : Plan) (messages : List LogMessage) : List String :=
  (messages.filter fun message => plan.settings.logLevel.admits message.level).map
    LogMessage.text

/-- The address of a port of the server; the host may be given by name. -/
def address (plan : Plan) (port : String) : String :=
  (if plan.settings.host == "localhost" then "127.0.0.1" else plan.settings.host) ++ ":" ++ port

/-- The log of a server that was interrupted before a client came. -/
def log (plan : Plan) (port : String) : List String :=
  let endpoints : Endpoints := {
    webSocket := plan.address port, raw := plan.settings.tcpPort.map fun _ => plan.address port }
  plan.written (plan.preamble ++ plan.welcome endpoints ++ farewell 0)

end CommandLine.Plan

end Showcase
