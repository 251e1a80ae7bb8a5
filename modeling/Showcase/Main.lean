import Std.Time.DateTime.Timestamp
import Showcase.Server

/-!
# The program

Reads the arguments, loads the settings and serves the portfolio to one raw terminal: what comes in
on standard input are its keys, and the frames go to standard output.
-/

namespace Showcase.CommandLine

/-- What is found at a path of the file system. -/
def findFile (path : String) : IO Settings.Found := do
  try
    return .file (← IO.FS.readBinFile path).toList
  catch
    | .noFileOrDirectory .. => return .nothing
    | .inappropriateType .. => return .directory
    | other => throw other

/-- Opens a log file, or tells why it cannot be opened. -/
def openLog (path : String) : IO (LogTarget × Option IO.FS.Handle) := do
  try
    return (.writable, some (← IO.FS.Handle.mk path .write))
  catch
    | .inappropriateType .. => return (.directory, none)
    | .noFileOrDirectory .. => return (.astray, none)
    | other => throw other

/-- The variables of the environment that stand in for options. -/
def readEnvironment : IO (List (String × String)) :=
  (Setting.all.filterMap Setting.environmentName?).filterMapM fun name => do
    return (← IO.getEnv name).map fun value => (name, value)

/-- The clock on the wall; its zone is universal time. -/
def readClock : IO Portfolio.Clock := do
  return { seconds := (← Std.Time.Timestamp.now).toSecondsSinceUnixEpoch.val }

/-- Writes messages to the log. -/
def writeLog (plan : Plan) (log : Option IO.FS.Handle) (messages : List LogMessage) : IO Unit :=
  (plan.written messages).forM fun text => do
    match log with
    | some file => file.putStrLn text
    | none => IO.eprintln text

/-- Turns after which the workers of a session are left alone. -/
def turns : Nat := 100000

/-- Writes the frames that reached the client and forgets them. -/
def showFrames
    (session : Session Portfolio.Palette Portfolio Portfolio.Message) :
    IO (Session Portfolio.Palette Portfolio Portfolio.Message) := do
  let output ← IO.getStdout
  session.events.forM fun
    | .delivered frame _ => output.putStr frame.repaint.text
    | _ => pure ()
  output.flush
  return { session with history := [] }

/-- Gives what comes in to the session until it ends or nothing more comes. -/
partial def serveKeys
    (session : Session Portfolio.Palette Portfolio Portfolio.Message) : IO Unit := do
  if session.cancelled then return
  let model := Portfolio.model (← readClock)
  let bytes ← (← IO.getStdin).read 1024
  let heard := if bytes.isEmpty then session.hangUp else session.arrive (.ok (.binary bytes.toList))
  serveKeys (← showFrames (heard.wait model turns session.options.followUpDelay))

/-- Serves the terminal from its first frame to its end. -/
def serveTerminal (settings : Settings) : IO Unit := do
  let model := Portfolio.model (← readClock)
  let session := settings.rawSession.ask (.serve 0)
  serveKeys (← showFrames (session.wait model turns settings.session.settleDelay))

end Showcase.CommandLine

open Showcase Showcase.CommandLine in
def main (arguments : List String) : IO UInt32 := do
  let environment ← readEnvironment
  let path := match read arguments environment with
    | .ok (.run values) => (values.lookup .config).getD standardPath
    | _ => standardPath
  let found ← findFile path
  let surroundings : Surroundings := { environment, found := fun _ => found }
  match start surroundings arguments with
  | .error ending =>
      unless ending.output.isEmpty do IO.println ending.output
      unless ending.complaint.isEmpty do IO.eprintln ending.complaint
      return ending.code.toUInt32
  | .ok plan =>
      let (target, log) ← match plan.settings.logFile with
        | some file => openLog file
        | none => pure (.writable, none)
      match logFaultText? target with
      | some text =>
          IO.eprintln (failure ("could not set up logging: " ++ text)).complaint
          return 1
      | none =>
          writeLog plan log plan.preamble
          serveTerminal plan.settings
          writeLog plan log [{ level := .info, text := "stopped" }]
          return 0
