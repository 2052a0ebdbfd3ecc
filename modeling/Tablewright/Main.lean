import Tablewright.Command.Run

/-! The program on a real machine: environment variables and files as they are there. No request
gets through, for this program brings no network of its own.
-/

namespace Tablewright

/-- What a fault of the system means for a program on files.
-/
def FileFault.ofSystem : IO.Error → FileFault
  | .noFileOrDirectory .. => .notFound
  | .alreadyExists .. => .alreadyExists
  | .inappropriateType .. => .notDirectory
  | .invalidArgument .. => .invalidArgument
  | .noSuchThing .. => .notFound
  | _ => .notText

/-- The result of an action, or the fault that it ends with.
-/
def attempt {α : Type} (action : IO α) : IO (Except FileFault α) := do
  try
    return .ok (← action)
  catch error =>
    return .error (.ofSystem error)

/-- Whether a path can be opened; one that the system only refuses to open is there.
-/
def canBeFound (path : String) : IO Bool := do
  match ← attempt (IO.FS.Handle.mk path .read) with
  | .error .notFound => return false
  | .error .notDirectory => return false
  | _ => return true

/-- The home directory of the user that a process runs for, by the status of the process and the list
of users.
-/
def homeOf? (status users : String) : Option String := do
  let line ← (status.splitOn "\n").find? (·.startsWith "Uid:")
  let user ← (line.splitOn "\t")[1]?
  let fields ← ((users.splitOn "\n").map (·.splitOn ":")).find? (·[2]? = some user)
  fields[5]?

/-- The home directory on record for the user of this process.
-/
def recordedHome : IO (Option String) := do
  let status ← attempt (IO.FS.readFile "/proc/self/status")
  let users ← attempt (IO.FS.readFile "/etc/passwd")
  match status, users with
  | .ok status, .ok users => return homeOf? status users
  | _, _ => return none

/-- The answer of the machine that the program runs on.
-/
def Host.answer : (question : Host.Question) → IO (Host.Answer question)
  | .variable name => IO.getEnv name
  | .home => recordedHome
  | .pathExists path => canBeFound path
  | .readText path => attempt (IO.FS.readFile path)
  | .clear path => attempt (IO.FS.removeDirAll path)
  | .createDirectories path => attempt (IO.FS.createDirAll path)
  | .writeText path text => attempt (IO.FS.writeFile path text)
  | .network question => return Host.unreachable question

end Tablewright

open Tablewright in
/-- Runs the program on the arguments it was started with.
-/
def main (arguments : List String) : IO UInt32 := do
  let output ← (Command.run arguments).interpret Host.answer
  IO.print output.text
  IO.eprint output.complaint
  return UInt32.ofNat output.exitCode
