import Tablewright.Text.Pieces

/-! Paths: texts whose steps are separated by slashes.
-/

namespace Tablewright.Path

/-- A path that starts at the root, and not in the working directory.
-/
def isAbsolute (path : String) : Bool :=
  path.startsWith "/"

/-- The steps of a path. Empty pieces and single dots lead nowhere.
-/
def steps (path : String) : List String :=
  ((Text.pieces '/' path.toList).map String.ofList).filter fun piece =>
    piece != "" && piece != "."

/-- The steps from the root to where a path starts.
-/
def start (here : List String) (path : String) : List String :=
  if isAbsolute path then [] else here

/-- A path that can only name a directory, because it ends with a slash or a dot.
-/
def isDirectoryOnly (path : String) : Bool :=
  match (Text.pieces '/' path.toList).getLast? with
  | some [] => path != ""
  | some ['.'] => true
  | _ => false

/-- The last step of a path, unless that leads upwards.
-/
def fileName? (path : String) : Option String :=
  match (steps path).getLast? with
  | some ".." => none
  | other => other

/-- What follows the last dot of a file name. A dot at the start of the name does not count.
-/
def extension? (path : String) : Option String := do
  let name := (← fileName? path).toList
  let after := name.reverse.takeWhile (· != '.')
  let before := name.length - after.length
  guard (2 ≤ before)
  return String.ofList after.reverse

/-- A path without the slashes and single dots at its end.
-/
def trimEnd (fuel : Nat) (reversed : List Char) : List Char :=
  match fuel, reversed with
  | fuel + 1, '/' :: c :: rest => trimEnd fuel (c :: rest)
  | fuel + 1, '.' :: '/' :: rest => trimEnd fuel ('/' :: rest)
  | _, reversed => reversed

/-- The path without its last step.
-/
def parent? (path : String) : Option String :=
  if !path.startsWith "." && (steps path).isEmpty then
    none
  else
    let reversed := trimEnd path.length path.toList.reverse
    let before := reversed.dropWhile (· != '/')
    some (String.ofList (trimEnd path.length before).reverse)

/-- A path without its last piece, and that piece, where slashes at the end do not count.
-/
def splitEnd (path : String) : String × String :=
  let reversed := path.toList.reverse.dropWhile (· == '/')
  (String.ofList (reversed.dropWhile (· != '/')).reverse,
    String.ofList (reversed.takeWhile (· != '/')).reverse)

/-- A path followed by one more step.
-/
def join (path step : String) : String :=
  if isAbsolute step then
    step
  else if path == "" || path.endsWith "/" then
    path ++ step
  else
    path ++ "/" ++ step

end Tablewright.Path
