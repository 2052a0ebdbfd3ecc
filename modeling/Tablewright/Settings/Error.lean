import Tablewright.Document.Fault
import Tablewright.Files.Tree
import Tablewright.Settings.Basic
import Tablewright.Settings.Variables

/-! What makes settings unusable.
-/

namespace Tablewright

/-- Why settings cannot be used. A text that is not well formed has no misfit.
-/
inductive SettingsError
  | fileNotFound (path : String)
  | unreadable (cause : FileFault)
  | malformed (misfit : Option Misfit)
  | unexpanded (cause : Variables.Failure)
  | invalid (cause : InvalidSetting)
  deriving DecidableEq

/-- The wording of a settings error.
-/
def SettingsError.message : SettingsError → String
  | fileNotFound path => "Config file not found: " ++ path
  | unreadable cause => "Failed to read config file: " ++ cause.message
  | malformed _ => "Failed to parse config file: TOML parse error"
  | unexpanded cause => cause.message
  | invalid cause => "Invalid configuration: " ++ cause.message

end Tablewright
