import Tablewright.Files.Path

/-! A tree of files and directories, and what programs do to it.
-/

namespace Tablewright

/-- Why an operation on files fails.
-/
inductive FileFault
  | notFound
  | alreadyExists
  | notDirectory
  | isDirectory
  | invalidArgument
  | nameTooLong
  | notEmpty
  | badName
  | notText
  deriving DecidableEq, Repr

/-- The wording of a fault, with its number where the system gives one.
-/
def FileFault.message : FileFault → String
  | notFound => "No such file or directory (os error 2)"
  | alreadyExists => "File exists (os error 17)"
  | notDirectory => "Not a directory (os error 20)"
  | isDirectory => "Is a directory (os error 21)"
  | invalidArgument => "Invalid argument (os error 22)"
  | nameTooLong => "File name too long (os error 36)"
  | notEmpty => "Directory not empty (os error 39)"
  | badName => "file name contained an unexpected NUL byte"
  | notText => "stream did not contain valid UTF-8"

/-- A file with its content or a directory with its entries.
-/
inductive FileTree
  | file (content : ByteArray)
  | directory (entries : List (String × FileTree))
  deriving Inhabited

namespace FileTree

/-- Replaces the tree of a name, or adds one at the end.
-/
def setEntry (name : String) (tree : FileTree)
    : List (String × FileTree) → List (String × FileTree)
  | [] => [(name, tree)]
  | (other, old) :: rest =>
    if other = name then (name, tree) :: rest else (other, old) :: setEntry name tree rest

/-- A step that names an entry of a directory.
-/
def checkName (name : String) : Except FileFault Unit :=
  if 255 < name.utf8ByteSize then .error .nameTooLong else .ok ()

/-- The tree at the end of some steps.
-/
def get (tree : FileTree) : List String → Except FileFault FileTree
  | [] => .ok tree
  | name :: steps =>
    match tree with
    | file _ => .error .notDirectory
    | directory entries => do
      checkName name
      match entries.lookup name with
      | some child => child.get steps
      | none => .error .notFound

/-- Changes what the last step names; the steps before it must lead to a directory. The change is
given what is there, and none afterwards removes it.
-/
def alter (change : Option FileTree → Except FileFault (Option FileTree))
    : FileTree → List String → Except FileFault FileTree
  | _, [] => .error .invalidArgument
  | file _, _ :: _ => .error .notDirectory
  | directory entries, name :: steps => do
    checkName name
    match steps, entries.lookup name with
    | [], child =>
      match ← change child with
      | some tree => return directory (setEntry name tree entries)
      | none => return directory (entries.filter (·.1 != name))
    | _ :: _, none => .error .notFound
    | _ :: _, some child => do
      return directory (setEntry name (← child.alter change steps) entries)

/-- Makes the directories that some steps name and that do not exist yet. What could be made stays
when a later step fails.
-/
def makeDirectories : FileTree → List String → FileTree × Except FileFault Unit
  | file content, [] => (file content, .error .alreadyExists)
  | file content, _ :: _ => (file content, .error .notDirectory)
  | directory entries, [] => (directory entries, .ok ())
  | directory entries, name :: steps =>
    match checkName name with
    | .error fault => (directory entries, .error fault)
    | .ok _ =>
      let (child, result) := ((entries.lookup name).getD (directory [])).makeDirectories steps
      (directory (setEntry name child entries), result)

/-- Sets the content of a file, which need not exist yet.
-/
def setFile (tree : FileTree) (steps : List String) (content : ByteArray)
    : Except FileFault FileTree :=
  match steps with
  | [] => .error .isDirectory
  | _ :: _ =>
    tree.alter (fun
      | some (directory _) => .error .isDirectory
      | _ => .ok (some (file content))) steps

/-- Removes a directory and everything in it.
-/
def removeDirectory (tree : FileTree) (steps : List String) : Except FileFault FileTree :=
  tree.alter (fun
    | some (directory _) => .ok none
    | some (file _) => .error .notDirectory
    | none => .error .notFound) steps

/-- Removes everything in a directory, which stays.
-/
def emptyDirectory (tree : FileTree) (steps : List String) : Except FileFault FileTree :=
  match steps, tree with
  | [], directory _ => .ok (directory [])
  | [], file _ => .error .notDirectory
  | _ :: _, _ =>
    tree.alter (fun
      | some (directory _) => .ok (some (directory []))
      | some (file _) => .error .notDirectory
      | none => .error .notFound) steps

mutual

/-- The files of a tree, each with the names that lead to it.
-/
def files (tree : FileTree) (above : List String) : List (List String × ByteArray) :=
  match tree with
  | file content => [(above, content)]
  | directory entries => entryFiles above entries

/-- The files below the entries of a directory.
-/
def entryFiles (above : List String)
    : List (String × FileTree) → List (List String × ByteArray)
  | [] => []
  | (name, tree) :: rest => tree.files (above ++ [name]) ++ entryFiles above rest

end

/-- Follows steps that may lead upwards; each step upwards must start in a directory.
-/
def resolve (tree : FileTree) (done : List String) : List String → Except FileFault (List String)
  | [] => .ok done
  | ".." :: steps => do
    match ← tree.get done with
    | directory _ => tree.resolve done.dropLast steps
    | file _ => .error .notDirectory
  | name :: steps => tree.resolve (done ++ [name]) steps

/-- A path that the system takes at all: without a NUL, and of at most 4095 bytes.
-/
def checkPath (path : String) : Except FileFault Unit :=
  if path.toList.contains '\x00' then
    .error .badName
  else if 4095 < path.utf8ByteSize then
    .error .nameTooLong
  else
    .ok ()

/-- The steps from the root to what a path names, for a program that works in the directory `here`.
-/
def locate (tree : FileTree) (here : List String) (path : String)
    : Except FileFault (List String) := do
  checkPath path
  if path == "" then
    .error .notFound
  else
    tree.resolve (Path.start here path) (Path.steps path)

/-- The tree that a path names.
-/
def open? (tree : FileTree) (here : List String) (path : String)
    : Except FileFault FileTree := do
  match ← tree.get (← tree.locate here path) with
  | file content =>
    if Path.isDirectoryOnly path then .error .notDirectory else return file content
  | found => return found

/-- The text of the file that a path names.
-/
def readText (tree : FileTree) (here : List String) (path : String)
    : Except FileFault String := do
  match ← tree.open? here path with
  | directory _ => .error .isDirectory
  | file content =>
    match String.fromUTF8? content with
    | some text => return text
    | none => .error .notText

/-- Writes a text to the file that a path names.
-/
def writeText (tree : FileTree) (here : List String) (path text : String)
    : Except FileFault FileTree := do
  let steps ← tree.locate here path
  if Path.isDirectoryOnly path then
    .error .isDirectory
  else
    tree.setFile steps text.toUTF8

/-- Removes the directory that a path names, once it is empty. A path that ends with dots names the
directory, but not as an entry of another one, so that it cannot be removed that way.
-/
def removeEmptied (tree : FileTree) (here : List String) (path : String)
    : Except FileFault FileTree := do
  let (before, last) := Path.splitEnd path
  if last = "." ∨ last = ".." then
    let _ ← tree.get (← tree.resolve (Path.start here before) (Path.steps before))
    .error (if last = "." then .invalidArgument else .notEmpty)
  else
    tree.removeDirectory (← tree.locate here path)

/-- Removes the directory that a path names, with everything in it: first what is in it and then the
directory, where a path that by then leads nowhere is no fault.
-/
def clear (tree : FileTree) (here : List String) (path : String)
    : FileTree × Except FileFault Unit :=
  match (do tree.emptyDirectory (← tree.locate here path)) with
  | .error fault => (tree, .error fault)
  | .ok emptied =>
    match emptied.removeEmptied here path with
    | .ok smaller => (smaller, .ok ())
    | .error .notFound => (emptied, .ok ())
    | .error fault => (emptied, .error fault)

/-- Makes the directories on the way of steps that may lead upwards.
-/
def makePath (tree : FileTree) (done : List String)
    : List String → FileTree × Except FileFault Unit
  | [] => tree.makeDirectories done
  | ".." :: steps =>
    match tree.makeDirectories done with
    | (tree, .ok _) => tree.makePath done.dropLast steps
    | (tree, .error .alreadyExists) => (tree, .error .notDirectory)
    | (tree, .error fault) => (tree, .error fault)
  | name :: steps => tree.makePath (done ++ [name]) steps

/-- Nothing can be made from a working directory that is gone.
-/
def checkStart (tree : FileTree) (start : List String) : Except FileFault Unit := do
  match ← tree.get start with
  | directory _ => return ()
  | file _ => .error .notDirectory

/-- Makes the directory that a path names and those on the way to it.
-/
def createDirectories (tree : FileTree) (here : List String) (path : String)
    : FileTree × Except FileFault Unit :=
  if path == "" then
    (tree, .ok ())
  else
    match (do checkPath path; tree.checkStart (Path.start here path)) with
    | .error fault => (tree, .error fault)
    | .ok _ => tree.makePath (Path.start here path) (Path.steps path)

end FileTree

end Tablewright
