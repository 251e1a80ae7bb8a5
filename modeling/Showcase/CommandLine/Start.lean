import Showcase.CommandLine.Arguments
import Showcase.Settings.Load

/-!
# Starting the program

What the program does before it listens: it reads its arguments, loads and settles its settings and
opens its log.
-/

namespace Showcase.CommandLine

open Portfolio (Palette)
open Settings (Found LoadFault Origin FileSettings)

def programVersion : String := "0.1.0"

/-- The settings that the arguments give. -/
def overrides (values : List (Setting × String)) : Settings.Overrides where
  host := values.lookup .host
  wsPort := port? .wsPort
  tcpPort := port? .tcpPort
  theme := (values.lookup .theme).bind Palette.ofName?
  logLevel := values.lookup .logLevel
  logFile := values.lookup .logFile
where
  port? (setting : Setting) : Option Nat :=
    (values.lookup setting).bind fun value => (readPort value).toOption

/-- How the program ends without having run. -/
structure Ending where
  code : Nat
  output : String := ""
  complaint : String := ""
  deriving DecidableEq

/-- What the program needs to run. -/
structure Plan where
  settings : Settings
  file : FileSettings
  origin : Origin

/-- What a path of a log file leads to. -/
inductive LogTarget where
  | writable
  | directory
  /-- The directory of the file does not exist. -/
  | astray

/-- What the program finds around it. -/
structure Surroundings where
  environment : List (String × String) := []
  /-- What is found at a path. -/
  found : String → Found
  /-- What can be written at a path. -/
  target : String → LogTarget := fun _ => .writable

/-- The path of the settings file unless another one is given. -/
def standardPath : String := "termfolio.toml"

/-- A directory with nothing in it but perhaps a settings file. -/
def Surroundings.directory (environment : List (String × String))
    (file : Option (List UInt8)) : Surroundings where
  environment := environment
  found path :=
    if isDirectory path then .directory
    else if path == standardPath || path == "./" ++ standardPath then
      (file.map Found.file).getD .nothing
    else .nothing
  target path :=
    if isDirectory path then .directory
    else if ((path.toList.dropWhile (· == '.')).drop 1).contains '/' then .astray
    else .writable
where
  isDirectory (path : String) : Bool := [".", "..", "/", "./", "../"].contains path

def directoryText : String := "Is a directory (os error 21)"

def loadFaultText (path : String) : LoadFault → String
  | .directory => "config I/O error on " ++ path ++ ": " ++ directoryText
  | .noText => "config I/O error on " ++ path ++ ": stream did not contain valid UTF-8"
  | .malformed => "config parse error: no settings file"

/-- What is said about a log that cannot be opened. -/
def logFaultText? : LogTarget → Option String
  | .writable => none
  | .directory => some directoryText
  | .astray => some "No such file or directory (os error 2)"

def summary : String := "Terminal portfolio over web sockets and TCP"

/-- A line of the help: an option with its letter, and what it is for. -/
def helpLine (letter : Option Char) (shown purpose : String) : String :=
  let start := match letter with
    | some letter => String.ofList [' ', ' ', '-', letter, ',', ' ']
    | none => "      "
  start ++ shown ++ String.ofList (List.replicate (25 - shown.length) ' ') ++ purpose

def settingHelp (setting : Setting) : String :=
  helpLine setting.letter? setting.shown (setting.purpose ++
    (setting.environmentName?.map fun name => " [env: " ++ name ++ "=]").getD "")

def helpText : String :=
  "\n".intercalate ([summary, "", "Usage: termfolio [OPTIONS]", "", "Options:"] ++
    Setting.all.map settingHelp ++
    [helpLine (some 'h') "--help" "Print help", helpLine (some 'V') "--version" "Print version"])

def failure (text : String) : Ending := { code := 1, complaint := "termfolio: " ++ text }

/-- Loads and settles the settings and opens the log. -/
def prepare (surroundings : Surroundings) (values : List (Setting × String)) :
    Except Ending Plan := do
  let path := (values.lookup .config).getD standardPath
  match Settings.load path (surroundings.found path) with
  | .error fault => throw (failure (loadFaultText path fault))
  | .ok (file, origin) =>
      match Settings.resolve file (overrides values) with
      | .error fault => throw (failure fault.message)
      | .ok settings =>
          match settings.logFile.bind fun path => logFaultText? (surroundings.target path) with
          | some text => throw (failure ("could not set up logging: " ++ text))
          | none => return { settings, file, origin }

/-- Starts the program. -/
def start (surroundings : Surroundings) (arguments : List String) : Except Ending Plan :=
  match read arguments surroundings.environment with
  | .error misuse => .error { code := 2, complaint := "error: " ++ misuse.message }
  | .ok .help => .error { code := 0, output := helpText }
  | .ok .version => .error { code := 0, output := "termfolio " ++ programVersion }
  | .ok (.run values) => prepare surroundings values

end Showcase.CommandLine
