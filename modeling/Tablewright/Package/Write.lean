import Tablewright.Host
import Tablewright.Package.Basic

/-! Writing a package into a directory.
-/

namespace Tablewright

/-- Why a package is not written: its directory cannot be cleared, or a path cannot be written.
-/
inductive PackageError
  | clear (path : String) (cause : FileFault)
  | write (path : String) (cause : FileFault)
  deriving DecidableEq, Repr

/-- The wording of an error, up to its cause.
-/
def PackageError.summary : PackageError → String
  | clear path _ => "Failed to clear output directory " ++ path ++ ": "
  | write path _ => "Failed to write " ++ path ++ ": "

/-- The path that an error is about.
-/
def PackageError.path : PackageError → String
  | clear path _ => path
  | write path _ => path

/-- The fault behind an error.
-/
def PackageError.cause : PackageError → FileFault
  | clear _ cause => cause
  | write _ cause => cause

/-- The wording of an error.
-/
def PackageError.message (error : PackageError) : String :=
  error.summary ++ error.cause.message

namespace Package

/-- The path of a document below a directory.
-/
def pathBelow (directory path : String) : String :=
  ((Text.pieces '/' path.toList).map String.ofList).foldl Path.join directory

/-- Writes one document and makes the directories above it.
-/
def writeDocument (path text : String) : Host.Session (Except PackageError Unit) := do
  match ← makeParent with
  | .error error => return .error error
  | .ok _ =>
    match ← Host.writeText path text with
    | .ok _ => return .ok ()
    | .error cause => return .error (.write path cause)
where
  makeParent : Host.Session (Except PackageError Unit) := do
    match Path.parent? path with
    | none => return .ok ()
    | some parent =>
      match ← Host.createDirectories parent with
      | .ok _ => return .ok ()
      | .error cause => return .error (.write parent cause)

/-- Writes documents until one of them fails.
-/
def writeDocuments (directory : String)
    : List (String × String) → Host.Session (Except PackageError Unit)
  | [] => return .ok ()
  | (path, text) :: rest => do
    match ← writeDocument (pathBelow directory path) text with
    | .ok _ => writeDocuments directory rest
    | .error error => return .error error

/-- Writes a package into a directory, in place of whatever is there.
-/
def write (package : Package) (directory : String)
    : Host.Session (Except PackageError Unit) := do
  if ← Host.pathExists directory then
    match ← Host.clear directory with
    | .ok _ => writeDocuments directory package.documents.entries
    | .error cause => return .error (.clear directory cause)
  else
    writeDocuments directory package.documents.entries

end Package

end Tablewright
