import Tablewright.Host
import Tablewright.Json.Document
import Tablewright.Schema.Decode
import Tablewright.Toml.Document

/-! Schema files, in the formats that a schema can be written in.
-/

namespace Tablewright.Schema

/-- The formats of a schema document.
-/
inductive Format
  | json
  | toml
  deriving DecidableEq, Repr

/-- The format that a file extension stands for, in any case of its letters.
-/
def Format.ofExtension? (extension : String) : Option Format :=
  match extension.map Char.toLower with
  | "json" => some .json
  | "toml" => some .toml
  | _ => none

/-- Why a schema cannot be loaded. A TOML text that is not well formed has no misfit.
-/
inductive LoadError
  | fileNotFound (path : String)
  | unsupportedExtension (extension : String)
  | unreadable (cause : FileFault)
  | json (cause : DecodeError)
  | toml (misfit : Option Misfit)
  deriving DecidableEq

/-- The wording of a loading error.
-/
def LoadError.message : LoadError → String
  | fileNotFound path => "File not found: " ++ path
  | unsupportedExtension extension =>
    "Unsupported file extension: " ++ extension ++ ". Supported: .json, .toml"
  | unreadable cause => "IO error: " ++ cause.message
  | json cause => "Invalid JSON schema: " ++ cause.message
  | toml _ => "Invalid TOML schema: TOML parse error"

/-- The schema of a text.
-/
def ofText (format : Format) (text : String) : Except LoadError Schema :=
  match format with
  | .json =>
    match Json.decode (ofDocument Json.conventions) text with
    | .ok schema => .ok schema
    | .error cause => .error (.json cause)
  | .toml =>
    match Toml.decode (ofDocument Toml.conventions) text with
    | .ok schema => .ok schema
    | .error misfit => .error (.toml misfit)

/-- The schema of a file, in the format of its extension.
-/
def load (path : String) : Host.Session (Except LoadError Schema) := do
  if ← Host.pathExists path then
    let extension := (Path.extension? path).getD ""
    match Format.ofExtension? extension with
    | none => return .error (.unsupportedExtension extension)
    | some format =>
      match ← Host.readText path with
      | .ok text => return ofText format text
      | .error fault => return .error (.unreadable fault)
  else
    return .error (.fileNotFound path)

end Tablewright.Schema
