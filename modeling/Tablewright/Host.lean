import Tablewright.Files.Tree
import Tablewright.Http

/-! The machine that a command runs on: its environment variables, its files, the directory that the
command works in, and its network.
-/

namespace Tablewright.Host

/-- What a program asks of its machine.
-/
inductive Question
  | variable (name : String)
  | home
  | pathExists (path : String)
  | readText (path : String)
  | clear (path : String)
  | createDirectories (path : String)
  | writeText (path text : String)
  | network (question : Http.Question)

/-- The answers of a machine.
-/
abbrev Answer : Question → Type
  | .variable _ => Option String
  | .home => Option String
  | .pathExists _ => Bool
  | .readText _ => Except FileFault String
  | .clear _ => Except FileFault Unit
  | .createDirectories _ => Except FileFault Unit
  | .writeText _ _ => Except FileFault Unit
  | .network question => Http.Answer question

/-- A program that runs on a machine.
-/
abbrev Session := Dialogue Question Answer

/-- The value of an environment variable.
-/
def valueOf (name : String) : Session (Option String) :=
  .ask (.variable name) .done

/-- The home directory that the system has on record for the user.
-/
def home : Session (Option String) :=
  .ask .home .done

/-- Whether a path names anything.
-/
def pathExists (path : String) : Session Bool :=
  .ask (.pathExists path) .done

/-- The text of a file.
-/
def readText (path : String) : Session (Except FileFault String) :=
  .ask (.readText path) .done

/-- Removes a directory and everything in it.
-/
def clear (path : String) : Session (Except FileFault Unit) :=
  .ask (.clear path) .done

/-- Makes a directory and those above it.
-/
def createDirectories (path : String) : Session (Except FileFault Unit) :=
  .ask (.createDirectories path) .done

/-- Sets the text of a file.
-/
def writeText (path text : String) : Session (Except FileFault Unit) :=
  .ask (.writeText path text) .done

/-- Has a machine's network carry an exchange.
-/
def exchange {α : Type} (talk : Http.Exchange α) : Session α :=
  talk.interpret (m := Session) fun question => .ask (.network question) .done

/-- Environment variables by name.
-/
abbrev Environment := String → Option String

/-- The text after some leading characters, if it starts with them.
-/
def afterStart? : List Char → List Char → Option (List Char)
  | [], text => some text
  | _ :: _, [] => none
  | c :: start, d :: text => if c = d then afterStart? start text else none

/-- The environment of some variables, each of which stands in it as its name, an equals sign and
its value. A name matches whatever starts with it and an equals sign, so one that holds an equals
sign itself finds a variable by the start of its value.
-/
def Environment.ofVariables (entries : List (String × String)) : Environment := fun name =>
  if name = "" ∨ '\x00' ∈ name.toList then
    none
  else
    entries.findSome? fun (key, value) =>
      (afterStart? (name.toList ++ ['=']) (key.toList ++ '=' :: value.toList)).map String.ofList

/-- A machine as a program finds it: its variables, its files from the root on, the steps from the
root to the working directory, and the home directory on record.
-/
structure Machine where
  environment : Environment
  files : FileTree
  directory : List String
  home : Option String := none

/-- What a machine answers when `network` carries what it sends.
-/
def Machine.respond (network : (question : Http.Question) → Http.Answer question)
    (machine : Machine)
    : (question : Question) → Answer question × Machine
  | .variable name => (machine.environment name, machine)
  | .home => (machine.home, machine)
  | .pathExists path => ((machine.files.open? machine.directory path).isOk, machine)
  | .readText path => (machine.files.readText machine.directory path, machine)
  | .clear path =>
    let (files, result) := machine.files.clear machine.directory path
    (result, { machine with files })
  | .createDirectories path =>
    let (files, result) := machine.files.createDirectories machine.directory path
    (result, { machine with files })
  | .writeText path text =>
    match machine.files.writeText machine.directory path text with
    | .ok files => (.ok (), { machine with files })
    | .error fault => (.error fault, machine)
  | .network question => (network question, machine)

/-- A network on which no request gets through.
-/
def unreachable : (question : Http.Question) → Http.Answer question
  | .send _ => none
  | .pause _ => ()

end Tablewright.Host
