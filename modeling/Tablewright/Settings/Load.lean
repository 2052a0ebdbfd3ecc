import Tablewright.Host
import Tablewright.Settings.Decode
import Tablewright.Settings.Error
import Tablewright.Toml.Document

/-! Settings files: where they are looked for and how they are read.
-/

namespace Tablewright

namespace Settings

/-- The settings of a text, checked.
-/
def ofText (text : String) : Except SettingsError Settings :=
  match Toml.decode (ofDocument Toml.conventions) text with
  | .error misfit => .error (.malformed misfit)
  | .ok settings =>
    match settings.invalid? with
    | some cause => .error (.invalid cause)
    | none => .ok settings

/-- The settings of a file.
-/
def fromFile (path : String) : Host.Session (Except SettingsError Settings) := do
  if ← Host.pathExists path then
    match ← Host.readText path with
    | .ok text => return ofText text
    | .error fault => return .error (.unreadable fault)
  else
    return .error (.fileNotFound path)

/-- The user's home: the directory that the environment names, or else the one on record.
-/
def userHome : Host.Session (Option String) := do
  match ← Host.valueOf "HOME" with
  | none | some "" => return (← Host.home).filter (· != "")
  | some directory => return some directory

/-- The directory of the user's settings: the one that the environment names when that is
absolute, or else one below the user's home.
-/
def userDirectory : Host.Session (Option String) := do
  match ← Host.valueOf "XDG_CONFIG_HOME" with
  | some directory =>
    if Path.isAbsolute directory then return some directory else below
  | none => below
where
  below := return (← userHome).map fun home => Path.join home ".config"

/-- The settings of the file that the environment names, else of the file in the working directory,
else of the user's file, else the defaults.
-/
def load : Host.Session (Except SettingsError Settings) := do
  match ← Host.valueOf "TRELLIS_CONFIG" with
  | some path => fromFile path
  | none =>
    if ← Host.pathExists "trellis.toml" then
      fromFile "trellis.toml"
    else
      match ← userDirectory with
      | none => return .ok {}
      | some directory =>
        let path := Path.join (Path.join directory "trellis") "config.toml"
        if ← Host.pathExists path then fromFile path else return .ok {}

end Settings

end Tablewright
