import Showcase.Settings.Basic

/-!
# Loading the settings file
-/

namespace Showcase.Settings

/-- What is found at the place of a file. -/
inductive Found where
  | nothing
  | directory
  | file (bytes : List UInt8)

/-- Where the settings of the file layer come from. -/
inductive Origin where
  | file (path : String)
  | missing (path : String)
  deriving DecidableEq

def Origin.text : Origin → String
  | file path => "loaded config from " ++ path
  | missing path => "no config file at " ++ path ++ ", using defaults"

/-- Why a settings file cannot be loaded. -/
inductive LoadFault where
  | directory
  /-- The file is no text. -/
  | noText
  | malformed
  deriving DecidableEq

/-- Loads a settings file; without a file there are the defaults. -/
def load (path : String) : Found → Except LoadFault (FileSettings × Origin)
  | .nothing => .ok ({}, .missing path)
  | .directory => .error .directory
  | .file bytes =>
      match String.fromUTF8? ⟨bytes.toArray⟩ with
      | none => .error .noText
      | some text =>
          match FileSettings.parse? text with
          | none => .error .malformed
          | some settings => .ok (settings, .file path)

end Showcase.Settings
