import Showcase.Portfolio.Theme

/-!
# Arguments

The arguments of the command line. An option is given by its name, with its value after an equals
sign or as the next argument, or by a letter with its value right behind or as the next argument.
Values that are not given may come from the environment.
-/

namespace Showcase.CommandLine

open Portfolio (Palette)

/-- An option with a value. -/
inductive Setting where
  | config
  | host
  | wsPort
  | tcpPort
  | theme
  | logLevel
  | logFile
  deriving DecidableEq

namespace Setting

def all : List Setting := [config, host, wsPort, tcpPort, theme, logLevel, logFile]

def name : Setting → String
  | config => "config"
  | host => "host"
  | wsPort => "ws-port"
  | tcpPort => "tcp-port"
  | theme => "theme"
  | logLevel => "log-level"
  | logFile => "log-file"

/-- How the option is shown. -/
def shown : Setting → String
  | config => "--config <CONFIG>"
  | host => "--host <HOST>"
  | wsPort => "--ws-port <WS_PORT>"
  | tcpPort => "--tcp-port <TCP_PORT>"
  | theme => "--theme <THEME>"
  | logLevel => "--log-level <LOG_LEVEL>"
  | logFile => "--log-file <LOG_FILE>"

/-- The variable of the environment that stands in for the option. -/
def environmentName? : Setting → Option String
  | host => some "TERMFOLIO_HOST"
  | wsPort => some "TERMFOLIO_WS_PORT"
  | tcpPort => some "TERMFOLIO_TCP_PORT"
  | logLevel => some "TERMFOLIO_LOG_LEVEL"
  | config | theme | logFile => none

/-- What the option is for. -/
def purpose : Setting → String
  | config => "Path to the TOML config file [default: termfolio.toml]"
  | host => "Address to listen on"
  | wsPort => "Web-socket listener port"
  | tcpPort => "Raw terminal listener port (0 disables it)"
  | theme => "Color palette [possible values: cyberpunk, plain]"
  | logLevel => "Log level (off, error, warn, info, debug, trace)"
  | logFile => "Write logs to this file instead of stderr"

/-- The letter of the option. -/
def letter? : Setting → Option Char
  | config => some 'c'
  | _ => none

end Setting

/-- Why arguments are not accepted. -/
inductive Misuse where
  | unexpected (argument : String)
  | valueMissing (setting : Setting)
  | valueUnexpected (value option : String)
  | repeated (setting : Setting)
  | invalid (value : String) (setting : Setting) (reason : Option String)
  deriving DecidableEq

def Misuse.message : Misuse → String
  | unexpected argument => "unexpected argument '" ++ argument ++ "' found"
  | valueMissing setting =>
      "a value is required for '" ++ setting.shown ++ "' but none was supplied"
  | valueUnexpected value option =>
      "unexpected value '" ++ value ++ "' for '" ++ option ++ "' found; no more were expected"
  | repeated setting =>
      "the argument '" ++ setting.shown ++ "' cannot be used multiple times"
  | invalid value setting reason =>
      "invalid value '" ++ value ++ "' for '" ++ setting.shown ++ "'" ++
        (reason.map (": " ++ ·)).getD ""

/-! Values -/

/-- The value of decimal digits, or what is wrong at the first character that cannot be taken. -/
def readDigits (negative : Bool) (value : Int) : List Char → Except String Int
  | [] => .ok value
  | c :: rest =>
      if !c.isDigit then .error "invalid digit found in string"
      else
        let digit : Int := c.toNat - '0'.toNat
        let next := if negative then value * 10 - digit else value * 10 + digit
        if next < -Int.pow 2 63 then .error "number too small to fit in target type"
        else if Int.pow 2 63 ≤ next then .error "number too large to fit in target type"
        else readDigits negative next rest

/-- Reads a number of 64 bits with a sign. -/
def readInteger (text : String) : Except String Int :=
  match text.toList with
  | [] => .error "cannot parse integer from empty string"
  | ['+'] | ['-'] => .error "invalid digit found in string"
  | '+' :: digits => readDigits false 0 digits
  | '-' :: digits => readDigits true 0 digits
  | digits => readDigits false 0 digits

def readPort (text : String) : Except String Nat :=
  match readInteger text with
  | .error reason => .error reason
  | .ok value =>
      if 0 ≤ value && value ≤ 65535 then .ok value.toNat
      else .error (toString value ++ " is not in 0..=65535")

/-- What is wrong with a value. -/
def Setting.misuse? (setting : Setting) (value : String) : Option Misuse :=
  match setting with
  | .host | .logLevel => none
  | .config | .logFile => if value.isEmpty then some (.valueMissing setting) else none
  | .theme =>
      if value.isEmpty then some (.valueMissing setting)
      else if (Palette.ofName? value).isNone then some (.invalid value setting none)
      else none
  | .wsPort | .tcpPort =>
      match readPort value with
      | .ok _ => none
      | .error reason => some (.invalid value setting (some reason))

/-! Reading arguments -/

/-- What the arguments ask for. -/
inductive Request where
  | help
  | version
  /-- To run with the values that were given. -/
  | run (values : List (Setting × String))
  deriving DecidableEq

/-- What is known after some of the arguments. -/
structure Progress where
  values : List (Setting × String) := []
  /-- The last option, whose value may follow or has followed as an argument of its own. -/
  pending : Option (Setting × Option String) := none
  /-- Whether a `--` came before. -/
  trailing : Bool := false

namespace Progress

/-- Accepts the value of an option. -/
def accept (progress : Progress) (setting : Setting) (value : String) :
    Except Misuse Progress :=
  if (progress.values.lookup setting).isSome then .error (.repeated setting)
  else match setting.misuse? value with
    | some misuse => .error misuse
    | none => .ok { progress with values := progress.values ++ [(setting, value)] }

/-- Accepts the last option. -/
def settle (progress : Progress) : Except Misuse Progress :=
  let settled := { progress with pending := none }
  match progress.pending with
  | none => .ok settled
  | some (setting, none) => .error (.valueMissing setting)
  | some (setting, some value) => settled.accept setting value

/-- The next argument is perhaps the value of an option. -/
def await (progress : Progress) (setting : Setting) : Except Misuse Progress := do
  return { ← progress.settle with pending := some (setting, none) }

end Progress

/-- What an argument leads to: further arguments, or an answer at once. -/
abbrev Step := Except Misuse (Progress ⊕ Request)

/-- Asks for help or the version. -/
def ask (progress : Progress) (request : Request) : Step := do
  let _ ← progress.settle
  return .inr request

/-- An option by its name. -/
def takeName (progress : Progress) (argument : List Char) : Step := do
  let name := String.ofList (argument.takeWhile (· != '='))
  let value := match argument.dropWhile (· != '=') with
    | '=' :: value => some (String.ofList value)
    | _ => none
  match Setting.all.find? fun setting => setting.name == name, value with
  | some setting, some value => return .inl (← (← progress.settle).accept setting value)
  | some setting, none => return .inl (← progress.await setting)
  | none, value =>
      if name == "help" || name == "version" then
        match value with
        | some value => throw (.valueUnexpected value ("--" ++ name))
        | none => ask progress (if name == "help" then .help else .version)
      else throw (.unexpected ("--" ++ name))

/-- An option by its letter. -/
def takeLetter (progress : Progress) (letter : Char) (rest : List Char) : Step := do
  match letter, rest with
  | 'c', [] => return .inl (← progress.await .config)
  | 'c', '=' :: value => return .inl (← (← progress.settle).accept .config (String.ofList value))
  | 'c', value => return .inl (← (← progress.settle).accept .config (String.ofList value))
  | 'h', _ => ask progress .help
  | 'V', _ => ask progress .version
  | letter, _ => throw (.unexpected (String.ofList ['-', letter]))

/-- An argument that is no option. -/
def takePlain (progress : Progress) (argument : String) : Step :=
  match progress.trailing, progress.pending with
  | false, some (setting, none) =>
      .ok (.inl { progress with pending := some (setting, some argument) })
  | _, _ => .error (.unexpected argument)

def take (progress : Progress) (argument : String) : Step :=
  match progress.trailing, argument.toList with
  | false, ['-', '-'] => .ok (.inl { progress with trailing := true })
  | false, '-' :: '-' :: name => takeName progress name
  | false, '-' :: letter :: rest => takeLetter progress letter rest
  | _, _ => takePlain progress argument

def takeAll (progress : Progress) : List String → Step
  | [] => .ok (.inl progress)
  | argument :: rest =>
      match take progress argument with
      | .ok (.inl progress) => takeAll progress rest
      | answer => answer

/-- Adds the values that the environment gives for options that were not given. -/
def addEnvironment (environment : List (String × String)) (progress : Progress) :
    Except Misuse Progress :=
  Setting.all.foldlM (fun progress setting =>
    let value := setting.environmentName?.bind fun name => environment.lookup name
    match progress.values.lookup setting, value with
    | none, some value => progress.accept setting value
    | _, _ => .ok progress) progress

/-- Reads the arguments. -/
def read (arguments : List String) (environment : List (String × String)) :
    Except Misuse Request := do
  match ← takeAll {} arguments with
  | .inr request => return request
  | .inl progress =>
      return .run (← addEnvironment environment (← progress.settle)).values

end Showcase.CommandLine
